import TensorGraph.Proofs.Runs
import TensorGraph.Proofs.Sketch.Basic

/-!
# A graph answers like its sketch

A graph decides by what its variables know of their links, and a sketch by a scan of all slots. In a
consistent graph the two agree (`producer?_sketch`, `inUse_sketch`), so each call gives the same
answer or the same error on both, and leaves a graph whose sketch is the sketch that the call
leaves (`perform_sketch`). Consistency holds along every history that starts with nothing, and so
does the agreement.
-/

namespace TensorGraph

namespace Variable

/-- A link that a variable takes does not show in what it carries. -/
@[simp]
theorem profile_join (w : Variable) (role : Role) (o : OperatorId) :
    (w.join role o).profile = w.profile := by
  cases role <;> rfl

/-- A link that a variable gives up does not show in what it carries. -/
@[simp]
theorem profile_release (w : Variable) (role : Role) (o : OperatorId) (p : Operator)
    (v : VariableId) : (w.release role o p v).profile = w.profile := by
  cases role with
  | input =>
    rw [release]
    split <;> rfl
  | output => rfl

/-- A variable without links has nothing but what it carries. -/
theorem unlinked_profile {w : Variable} (hl : w.isUnlinked = true) : w.profile.unlinked = w := by
  have hconsumers : w.consumers = ∅ :=
    SortedSet.ext_mem fun o =>
      iff_of_false (isUnlinked_iff.1 hl .input o) (SortedSet.not_mem_empty o)
  have hproducer : w.producer = none :=
    Option.eq_none_iff_forall_ne_some.2 fun o => isUnlinked_iff.1 hl .output o
  unfold profile Profile.unlinked
  rw [← hconsumers, ← hproducer]

end Variable

namespace Graph

variable {g : Graph} {role : Role} {o : OperatorId} {slot : String} {v : VariableId} {p : Operator}
  {w : Variable}

/-! ## What the sketch shows -/

/-- The sketch has the variables of the graph, without their links. -/
theorem vars_sketch (g : Graph) : g.sketch.vars = g.vars.map Variable.profile := rfl

/-- The sketch gives the next variable the same id. -/
theorem nextVariable_sketch (g : Graph) : g.sketch.nextVariable = g.nextVariable := rfl

/-- The sketch gives the next operator the same id. -/
theorem nextOperator_sketch (g : Graph) : g.sketch.nextOperator = g.nextOperator := rfl

/-- The sketch shows each variable without its links. -/
@[simp]
theorem get?_vars_sketch (g : Graph) (v : VariableId) :
    g.sketch.vars.get? v = (g.getVariable? v).map Variable.profile :=
  SortedMap.get?_map _ _ _

/-- The sketch shows each operator as it is. -/
@[simp]
theorem get?_ops_sketch (g : Graph) (o : OperatorId) :
    g.sketch.ops.get? o = g.getOperator? o := rfl

/-- What is found in the sketch is what is found in the graph. -/
theorem findOperator_sketch (g : Graph) (o : OperatorId) :
    g.sketch.findOperator o = (g.findOperator o).mapError .refused := by
  unfold Sketch.findOperator findOperator
  rw [get?_ops_sketch]
  cases g.getOperator? o <;> rfl

/-- What is found in the sketch is what is found in the graph, without links. -/
theorem findVariable_sketch (g : Graph) (v : VariableId) :
    g.sketch.findVariable v =
      ((g.findVariable v).map Variable.profile).mapError .refused := by
  unfold Sketch.findVariable findVariable
  rw [get?_vars_sketch]
  cases g.getVariable? v <;> rfl

/-- The slot that is found in the sketch is the one that is found in the graph. -/
theorem slotOf_sketch (g : Graph) (role : Role) (o : OperatorId) (v : VariableId) :
    g.sketch.slotOf role o v = (g.slotOf role o v).mapError .refused := by
  unfold Sketch.slotOf
  rw [slotOf_eq, findVariable_sketch, findOperator_sketch]
  cases g.findVariable v with
  | error e => rfl
  | ok w =>
    cases g.findOperator o with
    | error e => rfl
    | ok p =>
      dsimp only [Bind.bind, Except.bind, Except.mapError, Except.map]
      cases p.slot? role v <;> rfl

/-! ## Scans -/

/-- An operator has a slot for a variable when one of its slots holds it. -/
theorem isSome_slot?_iff (hp : g.getOperator? o = some p) :
    (p.slot? role v).isSome = true ↔ g.Holds role o v := by
  rw [holds_iff hp, Option.isSome_iff_ne_none, Ne, Operator.slot?_eq_none]
  simp only [not_forall, not_not]

/-- The operator that the scan finds holds the variable. -/
theorem holds_of_producer?_sketch {q : OperatorId} (hq : g.sketch.producer? v = some q) :
    g.Holds .output q v := by
  obtain ⟨⟨o, p⟩, he, rfl⟩ := Option.map_eq_some_iff.1 hq
  have hp : g.getOperator? o = some p := SortedMap.mem_toList.1 (List.mem_of_find?_eq_some he)
  have hsome := List.find?_some he
  exact (isSome_slot?_iff hp).1 hsome

/-- The scan finds the producer that the variable names. -/
theorem producer?_sketch (h : g.Consistent) (hw : g.getVariable? v = some w) :
    g.sketch.producer? v = w.producer := by
  cases hq : g.sketch.producer? v with
  | some q => exact ((h.linked hw .output q).2 (holds_of_producer?_sketch hq)).symm
  | none =>
    cases hprod : w.producer with
    | none => rfl
    | some q =>
      -- The operator that the variable names would have been found.
      obtain ⟨s, p, hp, hs⟩ := (h.linked hw .output q).1 hprod
      have hnone := List.find?_eq_none.1 (Option.map_eq_none_iff.1 hq) (q, p)
        (SortedMap.mem_toList.2 hp)
      exact absurd ((isSome_slot?_iff hp).2 ⟨s, p, hp, hs⟩) hnone

/-- The scan finds a slot for a variable when some operator holds it. -/
theorem inUse_sketch_iff (g : Graph) (v : VariableId) :
    g.sketch.inUse v = true ↔ ∃ role o, g.Holds role o v := by
  unfold Sketch.inUse
  rw [List.any_eq_true]
  constructor
  · rintro ⟨⟨o, p⟩, he, hany⟩
    have hp : g.getOperator? o = some p := SortedMap.mem_toList.1 he
    rcases Bool.or_eq_true_iff.1 hany with hin | hout
    · exact ⟨.input, o, (isSome_slot?_iff hp).1 hin⟩
    · exact ⟨.output, o, (isSome_slot?_iff hp).1 hout⟩
  · rintro ⟨role, o, s, p, hp, hs⟩
    refine ⟨(o, p), SortedMap.mem_toList.2 hp, Bool.or_eq_true_iff.2 ?_⟩
    cases role with
    | input => exact Or.inl ((isSome_slot?_iff hp).2 ⟨s, p, hp, hs⟩)
    | output => exact Or.inr ((isSome_slot?_iff hp).2 ⟨s, p, hp, hs⟩)

/-- The scan finds no slot for a variable exactly when the variable has no links. -/
theorem inUse_sketch (h : g.Consistent) (hw : g.getVariable? v = some w) :
    g.sketch.inUse v = !w.isUnlinked := by
  rw [Bool.eq_iff_iff, inUse_sketch_iff, Bool.not_eq_true', ← Bool.not_eq_true,
    Variable.isUnlinked_iff]
  simp only [h.linked hw, not_forall, not_not]

/-- What keeps a slot from taking a variable is its producer, for outputs. -/
theorem rival?_sketch (h : g.Consistent) (hw : g.getVariable? v = some w)
    (hfree : role = .output → w.producer = none) : g.sketch.rival? role v = none := by
  cases role with
  | input => rfl
  | output => exact (producer?_sketch h hw).trans (hfree rfl)

/-! ## The sketch after each call -/

/-- A variable whose links alone change does not change in the sketch. -/
theorem map_profile_insert (hw : g.getVariable? v = some w) {w' : Variable}
    (hprofile : w'.profile = w.profile) :
    (g.vars.insert v w').map Variable.profile = g.vars.map Variable.profile := by
  rw [SortedMap.map_insert, hprofile, SortedMap.insert_of_get?]
  rw [SortedMap.get?_map]
  exact congrArg (Option.map Variable.profile) hw

/-- Binding sets a slot of the sketch. -/
theorem sketch_bound (hw : g.getVariable? v = some w) :
    (g.bound role o slot p v w).sketch = g.sketch.putOperator o (p.setSlot role slot v) := by
  show Sketch.mk ((g.vars.insert v (w.join role o)).map Variable.profile) _ _ _ = _
  rw [map_profile_insert hw (w.profile_join role o)]
  rfl

/-- Unbinding empties a slot of the sketch. -/
theorem sketch_unbound (hw : g.getVariable? v = some w) :
    (g.unbound role o slot p v w).sketch = g.sketch.putOperator o (p.clearSlot role slot) := by
  show Sketch.mk ((g.vars.insert v (w.release role o _ v)).map Variable.profile) _ _ _ = _
  rw [map_profile_insert hw (w.profile_release role o _ v)]
  rfl

/-- Rebinding sets a slot of the sketch. -/
theorem sketch_rebound {old new : VariableId} {x : Variable} (hw : g.getVariable? old = some w)
    (hx : g.getVariable? new = some x) (hne : old ≠ new) :
    ((g.unbound role o slot p old w).bound role o slot (p.clearSlot role slot) new x).sketch =
      g.sketch.putOperator o (p.setSlot role slot new) := by
  have hx' : (g.unbound role o slot p old w).getVariable? new = some x := by
    rw [getVariable?_unbound, if_neg hne.symm, hx]
  rw [sketch_bound hx', sketch_unbound hw, Operator.setSlot_clearSlot]
  unfold Sketch.putOperator
  simp only [SortedMap.insert_insert]

/-- A removal erases the operator from the sketch. -/
theorem sketch_detached (g : Graph) (o : OperatorId) (p : Operator) :
    (g.detached o p).sketch = { g.sketch with ops := g.ops.erase o } := by
  have hvars : (g.detached o p).vars.map Variable.profile = g.vars.map Variable.profile := by
    refine SortedMap.ext_get? fun v => ?_
    have hget := getVariable?_detached g o p v
    unfold getVariable? at hget
    rw [SortedMap.get?_map, SortedMap.get?_map, hget, Option.map_map]
    rfl
  have hops : (g.detached o p).ops = g.ops.erase o := by
    unfold detached unread dropped
    rw [ops_touched, ops_touched]
    rfl
  unfold sketch
  rw [hvars, hops, nextVariable_detached, nextOperator_detached]

/-! ## The answer of each call -/

section

variable {out : Outcome Unit}

/-- Binding answers on the sketch as on the graph. -/
theorem sketch_bind (h : g.Consistent) (hr : Rules.Bind g role o slot v out) :
    g.sketch.bind role o slot v = out.result.map fun _ => out.graph.sketch := by
  unfold Sketch.bind
  rw [findOperator_sketch, findVariable_sketch]
  cases hr with
  | noOperator hp =>
    rw [findOperator_of_none hp]
    rfl
  | noVariable hp hw =>
    rw [findOperator_of_some hp, findVariable_of_none hw]
    rfl
  | same hp hw hs =>
    rw [findOperator_of_some hp, findVariable_of_some hw]
    dsimp only [Bind.bind, Except.bind, Except.mapError, Except.map]
    rw [hs]
    exact if_pos rfl
  | occupied hp hw hs hne =>
    rw [findOperator_of_some hp, findVariable_of_some hw]
    dsimp only [Bind.bind, Except.bind, Except.mapError, Except.map]
    rw [hs]
    exact if_neg hne
  | conflict hp hw hs hr hq =>
    subst hr
    rw [findOperator_of_some hp, findVariable_of_some hw]
    dsimp only [Bind.bind, Except.bind, Except.mapError, Except.map]
    rw [hs, Sketch.rival?, producer?_sketch h hw, hq]
    rfl
  | bound hp hw hs hfree =>
    rw [findOperator_of_some hp, findVariable_of_some hw]
    dsimp only [Bind.bind, Except.bind, Except.mapError, Except.map]
    rw [hs, rival?_sketch h hw hfree]
    exact congrArg Except.ok (sketch_bound hw).symm

/-- Unbinding answers on the sketch as on the graph. -/
theorem sketch_unbind (hr : Rules.Unbind g role o v out) :
    g.sketch.unbind role o v = out.result.map fun _ => out.graph.sketch := by
  unfold Sketch.unbind
  rw [slotOf_sketch, findOperator_sketch]
  cases hr with
  | noSlot hs =>
    rw [hs]
    rfl
  | @unbound p w slot hp hw hs =>
    rw [slotOf_eq_ok.2 ⟨w, p, hw, hp, hs⟩, findOperator_of_some hp, Outcome.graph_done,
      written_unbind slot hw, sketch_unbound hw]
    rfl

/-- Rebinding an input answers on the sketch as on the graph. -/
theorem sketch_rebindInput {old new : VariableId} (hr : Rules.RebindInput g o old new out) :
    g.sketch.rebind .input o old new = out.result.map fun _ => out.graph.sketch := by
  rw [Sketch.rebind, findVariable_sketch, slotOf_sketch, findOperator_sketch]
  cases hr with
  | noVariable hx =>
    rw [findVariable_of_none hx]
    rfl
  | noSlot hx hs =>
    rw [findVariable_of_some hx, hs]
    rfl
  | same hx hs he =>
    rw [findVariable_of_some hx, hs]
    exact if_pos he
  | @rebound p w x slot hp hw hx hs hne =>
    rw [findVariable_of_some hx, slotOf_eq_ok.2 ⟨w, p, hw, hp, hs⟩, findOperator_of_some hp,
      Outcome.graph_done, written_rebindWrites slot hw hne, sketch_rebound hw hx hne]
    exact if_neg hne

/-- Rebinding an output answers on the sketch as on the graph. -/
theorem sketch_rebindOutput (h : g.Consistent) {old new : VariableId}
    (hr : Rules.RebindOutput g o old new out) :
    g.sketch.rebind .output o old new = out.result.map fun _ => out.graph.sketch := by
  rw [Sketch.rebind, slotOf_sketch, findVariable_sketch, findOperator_sketch]
  cases hr with
  | noSlot hs =>
    rw [hs]
    rfl
  | same hs he =>
    rw [hs]
    exact if_pos he
  | noVariable hs hne hx =>
    rw [hs, findVariable_of_none hx]
    exact if_neg hne
  | conflict hs hne hx hq =>
    rw [hs, findVariable_of_some hx, producer?_sketch h hx, hq]
    exact if_neg hne
  | @rebound p w x slot hp hw hx hs hne hfree =>
    rw [slotOf_eq_ok.2 ⟨w, p, hw, hp, hs⟩, findVariable_of_some hx, findOperator_of_some hp,
      producer?_sketch h hx, hfree, Outcome.graph_done, written_rebindWrites slot hw hne,
      sketch_rebound hw hx hne]
    exact if_neg hne

end

/-- Adding a variable answers on the sketch as on the graph. -/
theorem sketch_addVariable {shape : Shape} {order : AxisOrder} {out : Outcome VariableId}
    (hr : Rules.AddVariable g shape order out) :
    g.sketch.addVariable shape order = out.result.map (·, out.graph.sketch) := by
  unfold Sketch.addVariable
  rw [nextVariable_sketch, vars_sketch]
  cases hr with
  | impossible hw =>
    rw [hw]
    rfl
  | exhausted hw hn =>
    rw [hw, hn]
    rfl
  | @added w next hw hn =>
    rw [hw, hn, Outcome.graph_done]
    show Except.ok (g.nextVariable, Sketch.mk
      ((g.vars.map Variable.profile).insert g.nextVariable w.profile) g.ops next
      g.nextOperator) = _
    rw [← SortedMap.map_insert]
    rfl

/-- Adding an operator answers on the sketch as on the graph. -/
theorem sketch_addOperator {name : String} {parameters : SortedMap String Parameter}
    {out : Outcome OperatorId} (hr : Rules.AddOperator g name parameters out) :
    g.sketch.addOperator name parameters = out.result.map (·, out.graph.sketch) := by
  unfold Sketch.addOperator
  rw [nextOperator_sketch]
  cases hr with
  | exhausted hn =>
    rw [hn]
    rfl
  | added hn =>
    rw [hn]
    rfl

/-- Removing an operator answers on the sketch as on the graph. -/
theorem sketch_removeOperator {out : Outcome Operator} (hr : Rules.RemoveOperator g o out) :
    g.sketch.removeOperator o = out.result.map (·, out.graph.sketch) := by
  unfold Sketch.removeOperator
  rw [findOperator_sketch]
  cases hr with
  | noOperator hp =>
    rw [findOperator_of_none hp]
    rfl
  | removed hp =>
    rw [findOperator_of_some hp, Outcome.graph_done, written_detachWrites, sketch_detached]
    rfl

/-- Removing a variable answers on the sketch as on the graph. -/
theorem sketch_removeVariable (h : g.Consistent) {out : Outcome Variable}
    (hr : Rules.RemoveVariable g v out) :
    (g.sketch.removeVariable v).map (fun x => (x.1.unlinked, x.2)) =
      out.result.map (·, out.graph.sketch) := by
  unfold Sketch.removeVariable
  rw [findVariable_sketch]
  cases hr with
  | noVariable hw =>
    rw [findVariable_of_none hw]
    rfl
  | inUse hw hl =>
    rw [findVariable_of_some hw, inUse_sketch h hw, hl]
    rfl
  | @removed w hw hl =>
    rw [findVariable_of_some hw, inUse_sketch h hw, hl, Outcome.graph_done, vars_sketch,
      ← SortedMap.map_erase]
    show Except.ok (w.profile.unlinked, _) = Except.ok (w, _)
    rw [Variable.unlinked_profile hl]
    rfl

/-! ## Histories -/

/-- An answer that is wrapped on the sketch is wrapped on the graph. -/
theorem map_onSketch {α β : Type} (f : α → β) (out : Outcome α) :
    (out.result.map (·, out.graph.sketch)).map (fun x => (f x.1, x.2)) =
      (out.map f).result.map (·, (out.map f).graph.sketch) := by
  unfold Outcome.map
  cases out.result <;> rfl

/-- A call without an answer is done on the sketch as on the graph. -/
theorem map_done_onSketch (out : Outcome Unit) :
    (out.result.map fun _ => out.graph.sketch).map (Answer.done, ·) =
      (out.map fun _ => Answer.done).result.map
        (·, (out.map fun _ => Answer.done).graph.sketch) := by
  unfold Outcome.map
  cases out.result <;> rfl

/-- Binding is one call for both roles. -/
theorem perform_toCall_bind (g : Graph) (role : Role) (o : OperatorId) (slot : String)
    (v : VariableId) :
    g.perform (LinkCall.bind role o slot v).toCall =
      ((Edit.bind role o slot v).perform g).map fun _ => .done := by
  cases role <;> exact Edit.perform_map _ _ _

/-- Unbinding is one call for both roles. -/
theorem perform_toCall_unbind (g : Graph) (role : Role) (o : OperatorId) (v : VariableId) :
    g.perform (LinkCall.unbind role o v).toCall =
      ((Edit.unbind role o v).perform g).map fun _ => .done := by
  cases role <;> exact Edit.perform_map _ _ _

/-- Asking for a slot is one call for both roles. -/
theorem perform_toCall_slotOf (g : Graph) (role : Role) (o : OperatorId) (v : VariableId) :
    g.perform (LinkCall.slotOf role o v).toCall =
      ((Edit.ask (·.slotOf role o v)).perform g).map .slot := by
  cases role <;> exact Edit.perform_map _ _ _

/-- A call answers on the sketch as on the graph, and leaves the sketch of what it leaves. -/
theorem perform_sketch (h : g.Consistent) (c : LinkCall) :
    g.sketch.perform c = (g.perform c.toCall).result.map (·, (g.after c.toCall).sketch) := by
  unfold after
  cases c with
  | addVariable shape order =>
    rw [LinkCall.toCall, perform, Call.edit, Edit.perform_map, Sketch.perform,
      sketch_addVariable (Edit.perform_addVariable.1 rfl)]
    exact map_onSketch _ _
  | addOperator name parameters =>
    rw [LinkCall.toCall, perform, Call.edit, Edit.perform_map, Sketch.perform,
      sketch_addOperator (Edit.perform_addOperator.1 rfl)]
    exact map_onSketch _ _
  | bind role o slot v =>
    rw [perform_toCall_bind, Sketch.perform, sketch_bind h (Edit.perform_bind.1 rfl)]
    exact map_done_onSketch _
  | unbind role o v =>
    rw [perform_toCall_unbind, Sketch.perform, sketch_unbind (Edit.perform_unbind.1 rfl)]
    exact map_done_onSketch _
  | rebind role o old new =>
    -- The two calls look things up in different orders and have rules of their own.
    rw [Sketch.perform]
    cases role with
    | input =>
      rw [LinkCall.toCall, perform, Call.edit, Edit.perform_map,
        sketch_rebindInput (Edit.perform_rebindInput.1 rfl)]
      exact map_done_onSketch _
    | output =>
      rw [LinkCall.toCall, perform, Call.edit, Edit.perform_map,
        sketch_rebindOutput h (Edit.perform_rebindOutput.1 rfl)]
      exact map_done_onSketch _
  | slotOf role o v =>
    rw [perform_toCall_slotOf, Edit.perform_ask, Sketch.perform, slotOf_sketch]
    cases g.slotOf role o v <;> rfl
  | removeOperator o =>
    rw [LinkCall.toCall, perform, Call.edit, Edit.perform_map, Sketch.perform,
      sketch_removeOperator (Edit.perform_removeOperator.1 rfl)]
    exact map_onSketch _ _
  | removeVariable v =>
    rw [LinkCall.toCall, perform, Call.edit, Edit.perform_map, ← map_onSketch,
      ← sketch_removeVariable h (Edit.perform_removeVariable.1 rfl), Sketch.perform]
    cases g.sketch.removeVariable v <;> rfl

/-- A call leaves the sketch of the graph that it leaves. -/
theorem after_sketch (h : g.Consistent) (c : LinkCall) :
    (g.after c.toCall).sketch = g.sketch.after c := by
  unfold Sketch.after
  rw [perform_sketch h c]
  cases he : (g.perform c.toCall).result with
  | ok a => rfl
  | error e =>
    rw [after_of_error he]
    rfl

/-- A history leaves the sketch of the graph that it leaves. -/
theorem run_sketch (h : g.Consistent) (hkeys : g.KeysBelow) (calls : List LinkCall) :
    (g.run (calls.map LinkCall.toCall)).sketch = g.sketch.run calls := by
  induction calls generalizing g with
  | nil => rfl
  | cons c calls ih =>
    have hs := step_after g c.toCall
    show ((g.after c.toCall).run (calls.map LinkCall.toCall)).sketch = (g.sketch.after c).run calls
    rw [ih (h.step hkeys hs) (hkeys.step hs), after_sketch h]

/-- The answer of a call is the one that it has on the sketch. -/
theorem result_eq_sketch (h : g.Consistent) (c : LinkCall) :
    (g.perform c.toCall).result = (g.sketch.perform c).map Prod.fst := by
  rw [perform_sketch h c]
  cases (g.perform c.toCall).result <;> rfl

/-- A call that fails on a graph fails on its sketch. -/
theorem sketch_eq_error (h : g.Consistent) {c : LinkCall} {e : Failure} :
    (g.perform c.toCall).result = .error e ↔ g.sketch.perform c = .error e := by
  rw [result_eq_sketch h, Result.map_eq_error]

/-- A variable is reported to be in use exactly when some slot holds it. -/
theorem removeVariable_eq_inUse (h : g.Consistent) :
    (g.perform (.removeVariable v)).result = .error (.refused (.variableInUse v)) ↔
      ∃ role o, g.Holds role o v := by
  rw [← inUse_sketch_iff]
  refine (sketch_eq_error h (c := .removeVariable v)).trans ?_
  rw [Sketch.removeVariable_eq_inUse, and_iff_right_of_imp]
  intro hu
  obtain ⟨role, o, hheld⟩ := (inUse_sketch_iff g v).1 hu
  obtain ⟨w, hw⟩ := h.stored hheld
  exact ⟨w.profile, by rw [get?_vars_sketch, hw]; rfl⟩

/-- After every history of calls on nodes and links that starts with nothing, the graph and the
sketch are in step: the sketch is the graph without what its variables know of their links, and the
next call has the same answer or error on both and keeps them in step. A conflict is reported with
the one operator that has an output slot for the variable, and a variable is reported to be in use
exactly when some slot holds it. -/
theorem run_empty_sketch (calls : List LinkCall) :
    let g := (∅ : Graph).run (calls.map LinkCall.toCall)
    let s := (∅ : Sketch).run calls
    g.sketch = s ∧
    (∀ c : LinkCall, (g.perform c.toCall).result = (s.perform c).map Prod.fst) ∧
    (∀ c : LinkCall, (g.after c.toCall).sketch = s.after c) ∧
    (∀ (c : LinkCall) v q,
      (g.perform c.toCall).result = .error (.refused (.outputConflict v q)) →
        (∃ slot, g.HoldsAt .output q slot v) ∧
        ∀ o slot, g.HoldsAt .output o slot v → o = q) ∧
    ∀ v, (g.perform (.removeVariable v)).result = .error (.refused (.variableInUse v)) ↔
      ∃ role o slot, g.HoldsAt role o slot v := by
  intro g s
  have hcons : g.Consistent := consistent_empty.run keysBelow_empty _
  have hsketch : g.sketch = s := run_sketch consistent_empty keysBelow_empty calls
  refine ⟨hsketch, fun c => ?_, fun c => ?_, fun c v q he => ?_, fun v => ?_⟩
  · rw [result_eq_sketch hcons, hsketch]
  · rw [after_sketch hcons, hsketch]
  · have hq := Sketch.producer?_of_perform ((sketch_eq_error hcons).1 he)
    obtain ⟨slot, hheld⟩ := holds_of_producer?_sketch hq
    exact ⟨⟨slot, hheld⟩, fun o slot' hheld' => (hcons.single hheld' hheld).1⟩
  · exact removeVariable_eq_inUse hcons

end Graph

end TensorGraph
