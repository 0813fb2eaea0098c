import TensorGraph.Proofs.Results
import TensorGraph.Proofs.Rules.Calls

/-!
# What one call can make of a graph

`Graph.Step g g'` lists the graphs that a single call can leave behind, with what the call has
checked before it wrote anything. A call fails without a trace or makes one of these steps:
`ends_perform` reads this off the rules of the calls. A property of all graphs that calls lead to is
shown by one case for each constructor, and does not go back to the calls.
-/

namespace TensorGraph

/-- One variable can be put in the place of another by changing what it carries. -/
inductive Variable.Amended (w : Variable) : Variable → Prop
  /-- The shape is read in another order. -/
  | reordered {target : AxisOrder} {w' : Variable} (hw : w.reorder target = .ok w') : Amended w w'
  /-- The elements get another type. -/
  | retyped {t : ElementType} {w' : Variable} (hw : w.setElementType t = .ok w') : Amended w w'
  /-- The variable is named. -/
  | renamed (name : String) : Amended w { w with name := some name }
  /-- The annotations change. -/
  | annotated (annotations : Annotations) : Amended w { w with annotations }

/-- One operator can be put in the place of another by changing what it carries. -/
inductive Operator.Amended (p : Operator) : Operator → Prop
  /-- The operator is named. -/
  | renamed (name : String) : Amended p { p with name }
  /-- The annotations change. -/
  | annotated (annotations : Annotations) : Amended p { p with annotations }

namespace Graph

/-! ## Graphs with one link more or less -/

section

variable (g : Graph) (role : Role) (o o' : OperatorId) (slot : String) (p : Operator)
  (u v : VariableId) (w : Variable)

/-- The graph in which the slot of the operator `p` under `o` has taken the variable `w` under `v`,
and both ends know of it. -/
def bound : Graph :=
  g.written [.putOperator o (p.setSlot role slot v), .putVariable v (w.join role o)]

/-- The graph in which the slot of the operator `p` under `o` has given up the variable `w` under
`v`, and both ends know of it. -/
def unbound : Graph :=
  g.written [.putOperator o (p.clearSlot role slot),
    .putVariable v (w.release role o (p.clearSlot role slot) v)]

/-- Binding changes one variable. -/
theorem getVariable?_bound :
    (g.bound role o slot p v w).getVariable? u =
      if u = v then some (w.join role o) else g.getVariable? u := by
  simp [bound]

/-- Binding changes one operator. -/
theorem getOperator?_bound :
    (g.bound role o slot p v w).getOperator? o' =
      if o' = o then some (p.setSlot role slot v) else g.getOperator? o' := by
  simp [bound]

/-- Unbinding changes one variable. -/
theorem getVariable?_unbound :
    (g.unbound role o slot p v w).getVariable? u =
      if u = v then some (w.release role o (p.clearSlot role slot) v) else g.getVariable? u := by
  simp [unbound]

/-- Unbinding changes one operator. -/
theorem getOperator?_unbound :
    (g.unbound role o slot p v w).getOperator? o' =
      if o' = o then some (p.clearSlot role slot) else g.getOperator? o' := by
  simp [unbound]

/-- The operator that has emptied a slot is there. -/
@[simp]
theorem getOperator?_unbound_self :
    (g.unbound role o slot p v w).getOperator? o = some (p.clearSlot role slot) := by
  rw [getOperator?_unbound, if_pos rfl]

variable {g role o p v w}

/-- The writes of unbinding make the graph without the link. -/
theorem written_unbind (hw : g.getVariable? v = some w) :
    g.written (.putOperator o (p.clearSlot role slot) ::
      Rules.releaseWrites role o (p.clearSlot role slot) v w) = g.unbound role o slot p v w := by
  have hw' : ((Write.putOperator o (p.clearSlot role slot)).apply g).getVariable? v = some w := by
    rwa [Write.getVariable?_putOperator]
  rw [written_cons, Rules.written_releaseWrites role o _ hw']
  rfl

/-- What a variable is released to does not depend on what takes its place in the slot. -/
theorem release_setSlot {new : VariableId} (hne : v ≠ new) :
    w.release role o (p.setSlot role slot new) v = w.release role o (p.clearSlot role slot) v := by
  cases role with
  | input =>
    have hiff : (p.setSlot .input slot new).slot? .input v = none ↔
        (p.clearSlot .input slot).slot? .input v = none := Operator.slot?_setSlot_eq_none hne
    simp only [Variable.release, Option.isNone_iff_eq_none]
    exact if_congr hiff rfl rfl
  | output => rfl

/-- The writes of rebinding make the graph in which the slot has first been emptied and has then
taken the new variable. -/
theorem written_rebindWrites {new : VariableId} {x : Variable} (hw : g.getVariable? v = some w)
    (hne : v ≠ new) :
    g.written (Rules.rebindWrites role o (p.setSlot role slot new) v new w x) =
      (g.unbound role o slot p v w).bound role o slot (p.clearSlot role slot) new x := by
  have hw' : ((Write.putOperator o (p.setSlot role slot new)).apply g).getVariable? v = some w := by
    rwa [Write.getVariable?_putOperator]
  -- The operator is written once here and twice there, the second time as it is here.
  rw [Rules.rebindWrites, written_cons, written_append, Rules.written_releaseWrites role o _ hw',
    release_setSlot slot hne, bound, Operator.setSlot_clearSlot]
  simp only [unbound, written_cons, written_nil, Write.apply, SortedMap.insert_insert]

end

/-! ## Steps -/

/-- The graph `g'` is what some call can make of the graph `g`. -/
inductive Step (g : Graph) : Graph → Prop
  /-- Nothing changes. -/
  | same : Step g g
  /-- A variable is added. -/
  | addVariable {shape : Shape} {order : AxisOrder} {w : Variable} {next : VariableId}
    (hw : Variable.create g.nextVariable shape order = .ok w)
    (hn : g.nextVariable.succ? = some next) :
    Step g (g.written [.nextVariable next, .putVariable g.nextVariable w])
  /-- An operator is added. -/
  | addOperator (name : String) (parameters : SortedMap String Parameter) {next : OperatorId}
    (hn : g.nextOperator.succ? = some next) :
    Step g (g.written [.nextOperator next,
      .putOperator g.nextOperator (Rules.newOperator g name parameters)])
  /-- A variable is bound to an empty slot. -/
  | bind {role : Role} {o : OperatorId} {slot : String} {v : VariableId} {p : Operator}
    {w : Variable} (hp : g.getOperator? o = some p) (hw : g.getVariable? v = some w)
    (hs : (p.slots role).get? slot = none) (hfree : role = .output → w.producer = none) :
    Step g (g.bound role o slot p v w)
  /-- The first slot that holds a variable is emptied. -/
  | unbind {role : Role} {o : OperatorId} {slot : String} {v : VariableId} {p : Operator}
    {w : Variable} (hp : g.getOperator? o = some p) (hw : g.getVariable? v = some w)
    (hs : p.slot? role v = some slot) : Step g (g.unbound role o slot p v w)
  /-- The first slot that holds a variable takes another one. -/
  | rebind {role : Role} {o : OperatorId} {slot : String} {old new : VariableId} {p : Operator}
    {w x : Variable} (hp : g.getOperator? o = some p) (hw : g.getVariable? old = some w)
    (hx : g.getVariable? new = some x) (hs : p.slot? role old = some slot) (hne : old ≠ new)
    (hfree : role = .output → x.producer = none) :
    Step g ((g.unbound role o slot p old w).bound role o slot (p.clearSlot role slot) new x)
  /-- An operator leaves with its links. -/
  | removeOperator {o : OperatorId} {p : Operator} (hp : g.getOperator? o = some p) :
    Step g (g.detached o p)
  /-- A variable without links leaves. -/
  | removeVariable {v : VariableId} {w : Variable} (hw : g.getVariable? v = some w)
    (hl : w.isUnlinked = true) : Step g (g.written [.dropVariable v])
  /-- What a variable carries changes. -/
  | amendVariable {v : VariableId} {w w' : Variable} (hw : g.getVariable? v = some w)
    (ha : w.Amended w') : Step g (g.written [.putVariable v w'])
  /-- What an operator carries changes. -/
  | amendOperator {o : OperatorId} {p p' : Operator} (hp : g.getOperator? o = some p)
    (ha : p.Amended p') : Step g (g.written [.putOperator o p'])
  /-- The text of the snapshot is read. -/
  | reload {g' : Graph} (hg : g.reload = .ok g') : Step g g'

end Graph

namespace Graph

/-- How a call on `g` can end: it fails and leaves everything as it was, or it makes a step. -/
inductive Ends {α : Type} (g : Graph) : Outcome α → Prop
  /-- The call fails before its first write. -/
  | failed (e : Failure) : Ends g (.failed g e)
  /-- The call succeeds. -/
  | done (a : α) {writes : List Write} (log : List LogEntry) (hs : g.Step (g.written writes)) :
    Ends g (.done g a writes log)

namespace Ends

variable {α β : Type} {g : Graph} {out : Outcome α}

/-- Wrapping the answer makes no difference. -/
theorem map (h : g.Ends out) (f : α → β) : g.Ends (out.map f) := by
  cases h with
  | failed e => exact .failed e
  | done a log hs => exact .done (f a) log hs

/-- A call makes a step, if only the one that changes nothing. -/
theorem step (h : g.Ends out) : g.Step out.graph := by
  cases h with
  | failed e => exact .same
  | done a log hs => exact hs

/-- A call that fails has left everything as it was. -/
theorem eq_failed (h : g.Ends out) {e : Failure} (he : out.result = .error e) :
    out = .failed g e := by
  cases h with
  | failed e' =>
    obtain rfl := Except.error.inj he
    rfl
  | done a log hs => cases he

end Ends

end Graph

/-! ## How each call ends -/

namespace Rules

variable {g : Graph}

/-- How binding ends. -/
theorem Bind.ends {role : Role} {o : OperatorId} {slot : String} {v : VariableId}
    {out : Outcome Unit} (h : Bind g role o slot v out) : g.Ends out := by
  cases h with
  | noOperator _ => exact .failed _
  | noVariable _ _ => exact .failed _
  | same _ _ _ => exact .done () [] .same
  | occupied _ _ _ _ => exact .failed _
  | conflict _ _ _ _ _ => exact .failed _
  | bound hp hw hs hfree => exact .done () _ (.bind hp hw hs hfree)

/-- How unbinding ends. -/
theorem Unbind.ends {role : Role} {o : OperatorId} {v : VariableId} {out : Outcome Unit}
    (h : Unbind g role o v out) : g.Ends out := by
  cases h with
  | noSlot _ => exact .failed _
  | unbound hp hw hs => exact .done () _ (Graph.written_unbind _ hw ▸ .unbind hp hw hs)

/-- How rebinding an input ends. -/
theorem RebindInput.ends {o : OperatorId} {old new : VariableId} {out : Outcome Unit}
    (h : RebindInput g o old new out) : g.Ends out := by
  cases h with
  | noVariable _ => exact .failed _
  | noSlot _ _ => exact .failed _
  | same _ _ _ => exact .done () [] .same
  | rebound hp hw hx hs hne =>
    refine .done () _ ?_
    rw [Graph.written_rebindWrites _ hw hne]
    exact .rebind hp hw hx hs hne fun hr => nomatch hr

/-- How rebinding an output ends. -/
theorem RebindOutput.ends {o : OperatorId} {old new : VariableId} {out : Outcome Unit}
    (h : RebindOutput g o old new out) : g.Ends out := by
  cases h with
  | noSlot _ => exact .failed _
  | same _ _ => exact .done () [] .same
  | noVariable _ _ _ => exact .failed _
  | conflict _ _ _ _ => exact .failed _
  | rebound hp hw hx hs hne hfree =>
    refine .done () _ ?_
    rw [Graph.written_rebindWrites _ hw hne]
    exact .rebind hp hw hx hs hne fun _ => hfree

/-- How adding a variable ends. -/
theorem AddVariable.ends {shape : Shape} {order : AxisOrder} {out : Outcome VariableId}
    (h : AddVariable g shape order out) : g.Ends out := by
  cases h with
  | impossible _ => exact .failed _
  | exhausted _ _ => exact .failed _
  | added hw hn => exact .done _ [] (.addVariable hw hn)

/-- How adding an operator ends. -/
theorem AddOperator.ends {name : String} {parameters : SortedMap String Parameter}
    {out : Outcome OperatorId} (h : AddOperator g name parameters out) : g.Ends out := by
  cases h with
  | exhausted _ => exact .failed _
  | added hn => exact .done _ [] (.addOperator name parameters hn)

/-- How removing an operator ends. -/
theorem RemoveOperator.ends {o : OperatorId} {out : Outcome Operator}
    (h : RemoveOperator g o out) : g.Ends out := by
  cases h with
  | noOperator _ => exact .failed _
  | removed hp =>
    refine .done _ _ ?_
    rw [Graph.written_detachWrites]
    exact .removeOperator hp

/-- How removing a variable ends. -/
theorem RemoveVariable.ends {v : VariableId} {out : Outcome Variable}
    (h : RemoveVariable g v out) : g.Ends out := by
  cases h with
  | noVariable _ => exact .failed _
  | inUse _ _ => exact .failed _
  | removed hw hl => exact .done _ _ (.removeVariable hw hl)

/-- How changing what a variable carries ends. -/
theorem AmendVariable.ends {α : Type} {v : VariableId} {f : Variable → Except Failure Variable}
    {answer : Variable → α} {log : Variable → Variable → List LogEntry} {out : Outcome α}
    (h : AmendVariable g v f answer log out) (hf : ∀ {w w'}, f w = .ok w' → w.Amended w') :
    g.Ends out := by
  cases h with
  | noVariable _ => exact .failed _
  | impossible _ _ => exact .failed _
  | amended hw ha => exact .done _ _ (.amendVariable hw (hf ha))

/-- How changing what an operator carries ends. -/
theorem AmendOperator.ends {α : Type} {o : OperatorId} {f : Operator → Operator}
    {answer : Operator → α} {out : Outcome α} (h : AmendOperator g o f answer out)
    (hf : ∀ p : Operator, p.Amended (f p)) : g.Ends out := by
  cases h with
  | noOperator _ => exact .failed _
  | amended hp => exact .done _ [] (.amendOperator hp (hf _))

/-- How asking for a slot ends. -/
theorem SlotOf.ends {role : Role} {o : OperatorId} {v : VariableId} {out : Outcome String}
    (h : SlotOf g role o v out) : g.Ends out := by
  cases h with
  | found _ => exact .done _ [] .same
  | noSlot _ => exact .failed _

/-- How reading the text of the snapshot ends. -/
theorem Reload.ends {out : Outcome Unit} (h : Reload g out) : g.Ends out := by
  cases h with
  | read hg => exact .done () [] (.reload hg)
  | unreadable _ => exact .failed _

/-- How every call ends. -/
theorem Performs.ends {c : Call} {out : Outcome Answer} (h : Performs g c out) : g.Ends out := by
  cases h with
  | addVariable h => exact h.ends.map _
  | addOperator h => exact h.ends.map _
  | bind h => exact h.ends.map _
  | unbind h => exact h.ends.map _
  | rebindInput h => exact h.ends.map _
  | rebindOutput h => exact h.ends.map _
  | slotOf h => exact h.ends.map _
  | removeOperator h => exact h.ends.map _
  | removeVariable h => exact h.ends.map _
  | reorder h => exact (h.ends .reordered).map _
  | setElementType h => exact (h.ends fun hf => .retyped (Result.mapError_eq_ok.1 hf)).map _
  | nameVariable h =>
    refine (h.ends fun hf => ?_).map _
    obtain rfl := Except.ok.inj hf
    exact .renamed _
  | nameOperator h => exact (h.ends fun _ => .renamed _).map _
  | annotateVariable hc h =>
    refine (h.ends fun hf => ?_).map _
    obtain rfl := Except.ok.inj hf
    exact .annotated _
  | annotateOperator hc h => exact (h.ends fun _ => .annotated _).map _
  | unlinked => exact .done _ [] .same
  | inputs => exact .done _ [] .same
  | outputs => exact .done _ [] .same
  | reload h => exact h.ends.map _

end Rules

namespace Graph

/-- How each call ends. -/
theorem ends_perform (g : Graph) (c : Call) : g.Ends (g.perform c) := (performs g c).ends

/-- A call makes a step. -/
theorem step_after (g : Graph) (c : Call) : g.Step (g.after c) := (ends_perform g c).step

/-- A call that fails leaves the graph as it was. -/
theorem after_of_error {g : Graph} {c : Call} {e : Failure}
    (he : (g.perform c).result = .error e) : g.after c = g := by
  unfold after
  rw [(ends_perform g c).eq_failed he]
  rfl

end Graph

end TensorGraph
