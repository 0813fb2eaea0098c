import TensorGraph.Proofs.Writes

/-!
# How the calls on links end

For each call that makes or breaks a link, an inductive relation with one rule for each way in which
the call can end: what it found in the graph, and its outcome. The calls follow these rules and no
others (`perform_bind`, `perform_unbind`, `perform_rebindInput`, `perform_rebindOutput`). The rules
say everything about the calls; what comes later is derived from them and does not look into the
calls again.

Reading and writing follow the same rules where the role is a parameter. Putting one variable in
place of another has rules of its own for each role, since the two calls look things up in different
orders.
-/

namespace TensorGraph

namespace Rules

/-- The writes that note on the side of the variable that an operator has given it up. A consumer
that stays one needs none. -/
def releaseWrites : Role → OperatorId → Operator → VariableId → Variable → List Write
  | .input, o, p, v, w =>
    if (p.inputSlot? v).isNone then [.putVariable v (w.dropConsumer o)] else []
  | .output, _, _, v, w => [.putVariable v (w.setProducer none)]

/-- What giving a variable up writes makes no difference to the operators. -/
@[simp]
theorem getOperator?_releaseWrites (g : Graph) (role : Role) (o o' : OperatorId) (p : Operator)
    (v : VariableId) (w : Variable) :
    (g.written (releaseWrites role o p v w)).getOperator? o' = g.getOperator? o' := by
  cases role with
  | input =>
    rw [releaseWrites]
    split <;> simp
  | output =>
    rw [releaseWrites, Graph.written_cons, Graph.written_nil, Write.getOperator?_putVariable]

/-- What giving a variable up writes makes no difference to the other variables. -/
theorem getVariable?_releaseWrites_of_ne (g : Graph) (role : Role) (o : OperatorId) (p : Operator)
    {u v : VariableId} (w : Variable) (hne : u ≠ v) :
    (g.written (releaseWrites role o p v w)).getVariable? u = g.getVariable? u := by
  cases role with
  | input =>
    rw [releaseWrites]
    split <;> simp [hne]
  | output => simp [releaseWrites, hne]

/-- Giving a variable up writes what it is released to. -/
theorem written_releaseWrites {g : Graph} (role : Role) (o : OperatorId) (p : Operator)
    {v : VariableId} {w : Variable} (hw : g.getVariable? v = some w) :
    g.written (releaseWrites role o p v w) =
      (Write.putVariable v (w.release role o p v)).apply g := by
  cases role with
  | input =>
    rw [releaseWrites, Variable.release]
    split
    · rfl
    · rw [Graph.written_nil, Graph.apply_putVariable_of_some hw]
  | output => rfl

/-- How binding a variable to an empty slot ends. -/
inductive Bind (g : Graph) (role : Role) (o : OperatorId) (slot : String) (v : VariableId) :
    Outcome Unit → Prop
  /-- The operator is not there. -/
  | noOperator (hp : g.getOperator? o = none) :
    Bind g role o slot v (.refused g (.unknownOperator o))
  /-- The variable is not there. -/
  | noVariable {p : Operator} (hp : g.getOperator? o = some p) (hw : g.getVariable? v = none) :
    Bind g role o slot v (.refused g (.unknownVariable v))
  /-- The slot holds the variable already. -/
  | same {p : Operator} {w : Variable} (hp : g.getOperator? o = some p)
    (hw : g.getVariable? v = some w) (hs : (p.slots role).get? slot = some v) :
    Bind g role o slot v (.done g () [] [])
  /-- The slot holds another variable. -/
  | occupied {p : Operator} {w : Variable} {u : VariableId} (hp : g.getOperator? o = some p)
    (hw : g.getVariable? v = some w) (hs : (p.slots role).get? slot = some u) (hne : u ≠ v) :
    Bind g role o slot v (.refused g (.slotOccupied o slot u))
  /-- The variable, which would be written, has a producer. -/
  | conflict {p : Operator} {w : Variable} {q : OperatorId} (hp : g.getOperator? o = some p)
    (hw : g.getVariable? v = some w) (hs : (p.slots role).get? slot = none) (hr : role = .output)
    (hq : w.producer = some q) :
    Bind g role o slot v (.refused g (.outputConflict v q))
  /-- The slot takes the variable. -/
  | bound {p : Operator} {w : Variable} (hp : g.getOperator? o = some p)
    (hw : g.getVariable? v = some w) (hs : (p.slots role).get? slot = none)
    (hfree : role = .output → w.producer = none) :
    Bind g role o slot v (.done g ()
      [.putOperator o (p.setSlot role slot v), .putVariable v (w.join role o)]
      [.link ⟨o, role, slot, .bound v⟩])

/-- How emptying the slot of a variable ends. -/
inductive Unbind (g : Graph) (role : Role) (o : OperatorId) (v : VariableId) : Outcome Unit → Prop
  /-- No slot is found. -/
  | noSlot {e : GraphError} (hs : g.slotOf role o v = .error e) :
    Unbind g role o v (.refused g e)
  /-- The slot gives the variable up. -/
  | unbound {p : Operator} {w : Variable} {slot : String} (hp : g.getOperator? o = some p)
    (hw : g.getVariable? v = some w) (hs : p.slot? role v = some slot) :
    Unbind g role o v (.done g ()
      (.putOperator o (p.clearSlot role slot) :: releaseWrites role o (p.clearSlot role slot) v w)
      [.link ⟨o, role, slot, .unbound v⟩])

/-- What putting `new` in place of `old` writes. -/
def rebindWrites (role : Role) (o : OperatorId) (p : Operator) (old new : VariableId)
    (w x : Variable) : List Write :=
  .putOperator o p :: (releaseWrites role o p old w ++ [.putVariable new (x.join role o)])

/-- How putting `new` in place of `old` into an input slot ends. -/
inductive RebindInput (g : Graph) (o : OperatorId) (old new : VariableId) : Outcome Unit → Prop
  /-- The new variable is not there. -/
  | noVariable (hx : g.getVariable? new = none) :
    RebindInput g o old new (.refused g (.unknownVariable new))
  /-- No slot is found. -/
  | noSlot {x : Variable} {e : GraphError} (hx : g.getVariable? new = some x)
    (hs : g.slotOf .input o old = .error e) :
    RebindInput g o old new (.refused g e)
  /-- The two variables are the same. -/
  | same {x : Variable} {slot : String} (hx : g.getVariable? new = some x)
    (hs : g.slotOf .input o old = .ok slot) (he : old = new) :
    RebindInput g o old new (.done g () [] [])
  /-- The slot changes its variable. -/
  | rebound {p : Operator} {w x : Variable} {slot : String} (hp : g.getOperator? o = some p)
    (hw : g.getVariable? old = some w) (hx : g.getVariable? new = some x)
    (hs : p.slot? .input old = some slot) (hne : old ≠ new) :
    RebindInput g o old new (.done g ()
      (rebindWrites .input o (p.setSlot .input slot new) old new w x)
      [.link ⟨o, .input, slot, .rebound new old⟩])

/-- How putting `new` in place of `old` into an output slot ends. -/
inductive RebindOutput (g : Graph) (o : OperatorId) (old new : VariableId) : Outcome Unit → Prop
  /-- No slot is found. -/
  | noSlot {e : GraphError} (hs : g.slotOf .output o old = .error e) :
    RebindOutput g o old new (.refused g e)
  /-- The two variables are the same. -/
  | same {slot : String} (hs : g.slotOf .output o old = .ok slot) (he : old = new) :
    RebindOutput g o old new (.done g () [] [])
  /-- The new variable is not there. -/
  | noVariable {slot : String} (hs : g.slotOf .output o old = .ok slot) (hne : old ≠ new)
    (hx : g.getVariable? new = none) :
    RebindOutput g o old new (.refused g (.unknownVariable new))
  /-- The new variable has a producer. -/
  | conflict {x : Variable} {q : OperatorId} {slot : String}
    (hs : g.slotOf .output o old = .ok slot) (hne : old ≠ new) (hx : g.getVariable? new = some x)
    (hq : x.producer = some q) :
    RebindOutput g o old new (.refused g (.outputConflict new q))
  /-- The slot changes its variable. -/
  | rebound {p : Operator} {w x : Variable} {slot : String} (hp : g.getOperator? o = some p)
    (hw : g.getVariable? old = some w) (hx : g.getVariable? new = some x)
    (hs : p.slot? .output old = some slot) (hne : old ≠ new) (hfree : x.producer = none) :
    RebindOutput g o old new (.done g ()
      (rebindWrites .output o (p.setSlot .output slot new) old new w x)
      [.link ⟨o, .output, slot, .rebound new old⟩])

end Rules

namespace Edit

/-- Releasing an input writes what giving it up asks for. -/
@[simp]
theorem run_releaseInput (o : OperatorId) (p : Operator) (v : VariableId) (w : Variable)
    (d : Draft) :
    (releaseInput o p v w).run d = .ok ()
      ⟨d.graph.written (Rules.releaseWrites .input o p v w),
        d.writes ++ Rules.releaseWrites .input o p v w, d.log⟩ := by
  rw [releaseInput, Rules.releaseWrites]
  split <;> simp

/-- Binds a variable to a slot of one side. -/
def bind : Role → OperatorId → String → VariableId → Edit Unit
  | .input => bindInput
  | .output => bindOutput

/-- Empties the first slot of one side by name that holds the variable. -/
def unbind : Role → OperatorId → VariableId → Edit Unit
  | .input => unbindInput
  | .output => unbindOutput

variable {g : Graph} {role : Role} {o : OperatorId} {v old new : VariableId} {slot : String}
  {out : Outcome Unit}

/-! ## Binding -/

/-- Each rule of binding is followed. -/
theorem perform_bind_of_rule (h : Rules.Bind g role o slot v out) :
    (bind role o slot v).perform g = out := by
  cases h with
  | noOperator hp =>
    refine perform_eq_failed ?_
    cases role <;> simp [bind, bindInput, bindOutput, getEnds, hp]
  | noVariable hp hw =>
    refine perform_eq_failed ?_
    cases role <;> simp [bind, bindInput, bindOutput, getEnds, hp, hw]
  | same hp hw hs =>
    refine perform_eq_done ?_
    cases role <;> simp only [Operator.slots] at hs <;>
      simp [bind, bindInput, bindOutput, getEnds, hp, hw, hs]
  | occupied hp hw hs hne =>
    refine perform_eq_failed ?_
    cases role <;> simp only [Operator.slots] at hs <;>
      simp [bind, bindInput, bindOutput, getEnds, hp, hw, hs, hne]
  | conflict hp hw hs hr hq =>
    subst hr
    refine perform_eq_failed ?_
    simp only [Operator.slots] at hs
    simp [bind, bindOutput, getEnds, hp, hw, hs, hq]
  | bound hp hw hs hfree =>
    refine perform_eq_done ?_
    cases role with
    | input =>
      simp only [Operator.slots] at hs
      simp [bind, bindInput, getEnds, reportLink, hp, hw, hs, Operator.setSlot, Variable.join]
    | output =>
      simp only [Operator.slots] at hs
      simp [bind, bindOutput, getEnds, reportLink, hp, hw, hs, hfree, Operator.setSlot,
        Variable.join]

/-- Some rule of binding applies. -/
theorem exists_rule_bind (g : Graph) (role : Role) (o : OperatorId) (slot : String)
    (v : VariableId) : ∃ out, Rules.Bind g role o slot v out := by
  cases hp : g.getOperator? o with
  | none => exact ⟨_, .noOperator hp⟩
  | some p =>
    cases hw : g.getVariable? v with
    | none => exact ⟨_, .noVariable hp hw⟩
    | some w =>
      cases hs : (p.slots role).get? slot with
      | some u =>
        by_cases hu : u = v
        · exact ⟨_, .same hp hw (hu ▸ hs)⟩
        · exact ⟨_, .occupied hp hw hs hu⟩
      | none =>
        by_cases hfree : role = .output → w.producer = none
        · exact ⟨_, .bound hp hw hs hfree⟩
        · obtain ⟨hr, hprod⟩ := Classical.not_imp.1 hfree
          obtain ⟨q, hq⟩ := Option.ne_none_iff_exists'.1 hprod
          exact ⟨_, .conflict hp hw hs hr hq⟩

/-- Binding ends by its rules. -/
theorem perform_bind : (bind role o slot v).perform g = out ↔ Rules.Bind g role o slot v out :=
  perform_eq_iff perform_bind_of_rule (exists_rule_bind g role o slot v)

/-! ## Unbinding -/

/-- Each rule of unbinding is followed. -/
theorem perform_unbind_of_rule (h : Rules.Unbind g role o v out) :
    (unbind role o v).perform g = out := by
  cases h with
  | noSlot hs =>
    refine perform_eq_failed ?_
    cases role <;> simp only [Graph.slotOf] at hs <;> simp [unbind, unbindInput, unbindOutput, hs]
  | @unbound p w slot hp hw hs =>
    refine perform_eq_done ?_
    have hslot := Graph.slotOf_eq_ok.2 ⟨_, _, hw, hp, hs⟩
    cases role with
    | input =>
      simp only [Graph.slotOf] at hslot
      simp [unbind, unbindInput, hslot, getEnds, reportLink, hp, hw, Operator.clearSlot]
    | output =>
      simp only [Graph.slotOf] at hslot
      simp [unbind, unbindOutput, hslot, getEnds, reportLink, hp, hw, Rules.releaseWrites,
        Operator.clearSlot]

/-- Some rule of unbinding applies. -/
theorem exists_rule_unbind (g : Graph) (role : Role) (o : OperatorId) (v : VariableId) :
    ∃ out, Rules.Unbind g role o v out := by
  cases hs : g.slotOf role o v with
  | error e => exact ⟨_, .noSlot hs⟩
  | ok slot =>
    obtain ⟨w, p, hw, hp, hslot⟩ := Graph.slotOf_eq_ok.1 hs
    exact ⟨_, .unbound hp hw hslot⟩

/-- Unbinding ends by its rules. -/
theorem perform_unbind : (unbind role o v).perform g = out ↔ Rules.Unbind g role o v out :=
  perform_eq_iff perform_unbind_of_rule (exists_rule_unbind g role o v)

/-! ## Rebinding inputs -/

/-- Each rule of rebinding an input is followed. -/
theorem perform_rebindInput_of_rule (h : Rules.RebindInput g o old new out) :
    (rebindInput o old new).perform g = out := by
  cases h with
  | noVariable hx =>
    refine perform_eq_failed ?_
    simp [rebindInput, hx]
  | noSlot hx hs =>
    refine perform_eq_failed ?_
    simp only [Graph.slotOf] at hs
    simp [rebindInput, hx, hs]
  | same hx hs he =>
    subst he
    refine perform_eq_done ?_
    simp only [Graph.slotOf] at hs
    simp [rebindInput, hx, hs]
  | @rebound p w x slot hp hw hx hs hne =>
    refine perform_eq_done ?_
    have hslot := Graph.slotOf_eq_ok.2 ⟨_, _, hw, hp, hs⟩
    simp only [Graph.slotOf] at hslot
    -- The new variable is still there as it was when it is looked up again.
    have hnew := Rules.getVariable?_releaseWrites_of_ne
      ((Write.putOperator o (p.setInput slot new)).apply g) .input o (p.setInput slot new) w
      (Ne.symm hne)
    simp [rebindInput, hslot, getEnds, reportLink, hp, hw, hx, hne, hnew, Graph.written_append,
      Rules.rebindWrites, Operator.setSlot, Variable.join]

/-- Some rule of rebinding an input applies. -/
theorem exists_rule_rebindInput (g : Graph) (o : OperatorId) (old new : VariableId) :
    ∃ out, Rules.RebindInput g o old new out := by
  cases hx : g.getVariable? new with
  | none => exact ⟨_, .noVariable hx⟩
  | some x =>
    cases hs : g.slotOf .input o old with
    | error e => exact ⟨_, .noSlot hx hs⟩
    | ok slot =>
      by_cases he : old = new
      · exact ⟨_, .same hx hs he⟩
      · obtain ⟨w, p, hw, hp, hslot⟩ := Graph.slotOf_eq_ok.1 hs
        exact ⟨_, .rebound hp hw hx hslot he⟩

/-- Rebinding an input ends by its rules. -/
theorem perform_rebindInput :
    (rebindInput o old new).perform g = out ↔ Rules.RebindInput g o old new out :=
  perform_eq_iff perform_rebindInput_of_rule (exists_rule_rebindInput g o old new)

/-! ## Rebinding outputs -/

/-- Each rule of rebinding an output is followed. -/
theorem perform_rebindOutput_of_rule (h : Rules.RebindOutput g o old new out) :
    (rebindOutput o old new).perform g = out := by
  cases h with
  | noSlot hs =>
    refine perform_eq_failed ?_
    simp only [Graph.slotOf] at hs
    simp [rebindOutput, hs]
  | same hs he =>
    subst he
    refine perform_eq_done ?_
    simp only [Graph.slotOf] at hs
    simp [rebindOutput, hs]
  | noVariable hs hne hx =>
    refine perform_eq_failed ?_
    simp only [Graph.slotOf] at hs
    simp [rebindOutput, hs, hne, hx]
  | conflict hs hne hx hq =>
    refine perform_eq_failed ?_
    simp only [Graph.slotOf] at hs
    simp [rebindOutput, hs, hne, hx, hq]
  | rebound hp hw hx hs hne hfree =>
    refine perform_eq_done ?_
    have hslot := Graph.slotOf_eq_ok.2 ⟨_, _, hw, hp, hs⟩
    simp only [Graph.slotOf] at hslot
    -- The new variable is still there as it was when it is looked up again.
    simp [rebindOutput, hslot, getEnds, reportLink, hp, hw, hx, hne, hne.symm, hfree,
      Rules.rebindWrites, Rules.releaseWrites, Operator.setSlot, Variable.join]

/-- Some rule of rebinding an output applies. -/
theorem exists_rule_rebindOutput (g : Graph) (o : OperatorId) (old new : VariableId) :
    ∃ out, Rules.RebindOutput g o old new out := by
  cases hs : g.slotOf .output o old with
  | error e => exact ⟨_, .noSlot hs⟩
  | ok slot =>
    by_cases he : old = new
    · exact ⟨_, .same hs he⟩
    · cases hx : g.getVariable? new with
      | none => exact ⟨_, .noVariable hs he hx⟩
      | some x =>
        cases hq : x.producer with
        | some q => exact ⟨_, .conflict hs he hx hq⟩
        | none =>
          obtain ⟨w, p, hw, hp, hslot⟩ := Graph.slotOf_eq_ok.1 hs
          exact ⟨_, .rebound hp hw hx hslot he hq⟩

/-- Rebinding an output ends by its rules. -/
theorem perform_rebindOutput :
    (rebindOutput o old new).perform g = out ↔ Rules.RebindOutput g o old new out :=
  perform_eq_iff perform_rebindOutput_of_rule (exists_rule_rebindOutput g o old new)

end Edit

end TensorGraph
