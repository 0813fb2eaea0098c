import TensorGraph.Proofs.Writes

/-!
# How the calls that add and remove nodes end

One inductive relation for each call, with one rule for each way in which it can end. A new node has
the id that the graph hands out next. An operator that leaves is first dropped itself; then the
variables that it read lose it as a consumer, and those that it wrote are left without a producer.
-/

namespace TensorGraph

/-- The variable under `v` when the operator `p` under `o` is gone. -/
def Variable.without (w : Variable) (o : OperatorId) (p : Operator) (v : VariableId) : Variable :=
  { w with
    consumers := if v ∈ p.consumed then w.consumers.erase o else w.consumers
    producer := if v ∈ p.produced then none else w.producer }

/-- Where a variable knows of the operator on the sides that hold it, it knows of all others when
the operator is gone. -/
theorem Variable.linkedTo_without {w : Variable} {o o' : OperatorId} {p : Operator}
    {v : VariableId} (h : ∀ r, w.LinkedTo r o ↔ ∃ s, (p.slots r).get? s = some v) (r : Role) :
    (w.without o p v).LinkedTo r o' ↔ w.LinkedTo r o' ∧ o' ≠ o := by
  cases r with
  | input =>
    have hheld : v ∈ p.consumed ↔ o ∈ w.consumers := SortedMap.mem_values.trans (h .input).symm
    show o' ∈ (if v ∈ p.consumed then _ else _) ↔ o' ∈ w.consumers ∧ o' ≠ o
    split
    · rw [SortedSet.mem_erase, and_comm]
    · next hv =>
      refine (and_iff_left_of_imp fun ho' => ?_).symm
      rintro rfl
      exact hv (hheld.2 ho')
  | output =>
    have hheld : v ∈ p.produced ↔ w.producer = some o :=
      SortedMap.mem_values.trans (h .output).symm
    show (if v ∈ p.produced then none else w.producer) = some o' ↔ w.producer = some o' ∧ o' ≠ o
    split
    · next hv =>
      refine iff_of_false (fun hnone => nomatch hnone) fun ⟨ho', hne⟩ => hne ?_
      exact Option.some.inj (ho'.symm.trans (hheld.1 hv))
    · next hv =>
      refine (and_iff_left_of_imp fun ho' => ?_).symm
      rintro rfl
      exact hv (hheld.2 ho')

namespace Graph

/-- The graph without an operator, with the variables still as they were. -/
def dropped (g : Graph) (o : OperatorId) : Graph := (Write.dropOperator o).apply g

/-- The graph without an operator that reads and writes like `p`, in which the variables that it
read do not know of it. -/
def unread (g : Graph) (o : OperatorId) (p : Operator) : Graph :=
  (g.dropped o).touched (·.dropConsumer o) p.consumed

/-- The graph without an operator that reads and writes like `p`, in which no variable that it read
or wrote knows of it. -/
def detached (g : Graph) (o : OperatorId) (p : Operator) : Graph :=
  (g.unread o p).touched (·.setProducer none) p.produced

/-- What removing an operator that reads and writes like `p` writes. -/
def detachWrites (g : Graph) (o : OperatorId) (p : Operator) : List Write :=
  .dropOperator o :: ((g.dropped o).touches (·.dropConsumer o) p.consumed ++
    (g.unread o p).touches (·.setProducer none) p.produced)

/-- The writes of a removal detach the operator. -/
@[simp]
theorem written_detachWrites (g : Graph) (o : OperatorId) (p : Operator) :
    g.written (g.detachWrites o p) = g.detached o p := by
  rw [detachWrites, written_cons, written_append]
  rfl

/-- A removal takes the links to the operator off each variable that it read or wrote. -/
theorem getVariable?_detached (g : Graph) (o : OperatorId) (p : Operator) (v : VariableId) :
    (g.detached o p).getVariable? v = (g.getVariable? v).map (·.without o p v) := by
  -- The first round of writes, for the variables that the operator read.
  have hread : (g.unread o p).getVariable? v =
      if v ∈ p.consumed then (g.getVariable? v).map (·.dropConsumer o) else g.getVariable? v := by
    have hdrop : ∀ w : Variable, (w.dropConsumer o).dropConsumer o = w.dropConsumer o := by
      intro w
      rw [Variable.dropConsumer, Variable.dropConsumer, SortedSet.erase_erase]
    unfold unread dropped
    rw [getVariable?_touched hdrop, Write.getVariable?_dropOperator]
  have hclear : ∀ w : Variable, (w.setProducer none).setProducer none = w.setProducer none :=
    fun _ => rfl
  -- The second round, for those that it wrote.
  unfold detached
  rw [getVariable?_touched hclear, hread]
  cases g.getVariable? v with
  | none => simp
  | some w =>
    by_cases hc : v ∈ p.consumed <;> by_cases hp : v ∈ p.produced <;>
      simp [Variable.without, Variable.dropConsumer, Variable.setProducer, hc, hp]

/-- A removal takes one operator away. -/
theorem getOperator?_detached (g : Graph) (o o' : OperatorId) (p : Operator) :
    (g.detached o p).getOperator? o' = if o' = o then none else g.getOperator? o' := by
  unfold detached unread dropped
  rw [getOperator?_touched, getOperator?_touched, Write.getOperator?_dropOperator]

/-- A removal leaves the id of the next variable alone. -/
theorem nextVariable_detached (g : Graph) (o : OperatorId) (p : Operator) :
    (g.detached o p).nextVariable = g.nextVariable := by
  unfold detached unread dropped
  rw [nextVariable_touched, nextVariable_touched]
  rfl

/-- A removal leaves the id of the next operator alone. -/
theorem nextOperator_detached (g : Graph) (o : OperatorId) (p : Operator) :
    (g.detached o p).nextOperator = g.nextOperator := by
  unfold detached unread dropped
  rw [nextOperator_touched, nextOperator_touched]
  rfl

end Graph

namespace Rules

/-- How adding a variable ends. -/
inductive AddVariable (g : Graph) (shape : Shape) (order : AxisOrder) : Outcome VariableId → Prop
  /-- There is no such variable. -/
  | impossible {e : GraphError} (hw : Variable.create g.nextVariable shape order = .error e) :
    AddVariable g shape order (.refused g e)
  /-- The ids are used up. -/
  | exhausted {w : Variable} (hw : Variable.create g.nextVariable shape order = .ok w)
    (hn : g.nextVariable.succ? = none) :
    AddVariable g shape order (.failed g (.fault .counterExhausted))
  /-- The graph takes the variable. -/
  | added {w : Variable} {next : VariableId}
    (hw : Variable.create g.nextVariable shape order = .ok w)
    (hn : g.nextVariable.succ? = some next) :
    AddVariable g shape order
      (.done g g.nextVariable [.nextVariable next, .putVariable g.nextVariable w] [])

/-- A new operator. -/
def newOperator (g : Graph) (name : String) (parameters : SortedMap String Parameter) : Operator :=
  { id := g.nextOperator, name, annotations := { parameters } }

/-- How adding an operator ends. -/
inductive AddOperator (g : Graph) (name : String) (parameters : SortedMap String Parameter) :
    Outcome OperatorId → Prop
  /-- The ids are used up. -/
  | exhausted (hn : g.nextOperator.succ? = none) :
    AddOperator g name parameters (.failed g (.fault .counterExhausted))
  /-- The graph takes the operator. -/
  | added {next : OperatorId} (hn : g.nextOperator.succ? = some next) :
    AddOperator g name parameters (.done g g.nextOperator
      [.nextOperator next, .putOperator g.nextOperator (newOperator g name parameters)] [])

/-- How removing an operator ends. -/
inductive RemoveOperator (g : Graph) (o : OperatorId) : Outcome Operator → Prop
  /-- The operator is not there. -/
  | noOperator (hp : g.getOperator? o = none) :
    RemoveOperator g o (.refused g (.unknownOperator o))
  /-- The operator leaves. -/
  | removed {p : Operator} (hp : g.getOperator? o = some p) :
    RemoveOperator g o (.done g p (g.detachWrites o p) [.operatorRemoved p])

/-- How removing a variable ends. -/
inductive RemoveVariable (g : Graph) (v : VariableId) : Outcome Variable → Prop
  /-- The variable is not there. -/
  | noVariable (hw : g.getVariable? v = none) :
    RemoveVariable g v (.refused g (.unknownVariable v))
  /-- The variable has links. -/
  | inUse {w : Variable} (hw : g.getVariable? v = some w) (hl : w.isUnlinked = false) :
    RemoveVariable g v (.refused g (.variableInUse v))
  /-- The variable leaves. -/
  | removed {w : Variable} (hw : g.getVariable? v = some w) (hl : w.isUnlinked = true) :
    RemoveVariable g v (.done g w [.dropVariable v] [.variableRemoved v w])

end Rules

namespace Edit

variable {g : Graph} {o : OperatorId} {v : VariableId}

/-- The next id is found where the ids are not used up. -/
@[simp]
theorem run_nextId {kind : NodeKind} (i : Id kind) (d : Draft) :
    (nextId i).run d =
      match i.succ? with
      | some j => .ok j d
      | none => .error (.fault .counterExhausted) d := by
  rw [nextId]
  cases i.succ? <;> rfl

/-- A variable is changed where it is there. -/
theorem run_touchVariable (v : VariableId) (f : Variable → Variable) (d : Draft) :
    (touchVariable v f).run d =
      .ok () ⟨d.graph.touched f [v], d.writes ++ d.graph.touches f [v], d.log⟩ := by
  cases hw : d.graph.getVariable? v with
  | none =>
    rw [Graph.touched_cons_of_none hw]
    simp [touchVariable, Graph.touches, hw]
  | some w =>
    rw [Graph.touched_cons_of_some hw]
    simp [touchVariable, Graph.touches, hw]

/-- Variables are changed one after the other. -/
theorem run_forM_touchVariable (vs : List VariableId) (f : Variable → Variable) (d : Draft) :
    (vs.forM fun v => touchVariable v f).run d =
      .ok () ⟨d.graph.touched f vs, d.writes ++ d.graph.touches f vs, d.log⟩ := by
  induction vs generalizing d with
  | nil => simp [Graph.touches]
  | cons v vs ih =>
    show (touchVariable v f >>= fun _ => vs.forM fun v => touchVariable v f).run d = _
    rw [EStateM.run_bind, run_touchVariable]
    simp only [ih]
    cases hw : d.graph.getVariable? v with
    | none => simp [Graph.touched_cons_of_none hw, Graph.touches, hw]
    | some w => simp [Graph.touched_cons_of_some hw, Graph.touches, hw]

/-! ## Adding nodes -/

/-- Adding a variable ends by its rules. -/
theorem perform_addVariable {shape : Shape} {order : AxisOrder} {out : Outcome VariableId} :
    (addVariable shape order).perform g = out ↔ Rules.AddVariable g shape order out := by
  have hrule : ∀ {out}, Rules.AddVariable g shape order out →
      (addVariable shape order).perform g = out := by
    intro out h
    cases h with
    | impossible hw =>
      refine perform_eq_failed ?_
      simp [addVariable, hw]
    | exhausted hw hn =>
      refine perform_eq_failed ?_
      simp [addVariable, hw, hn]
    | added hw hn =>
      refine perform_eq_done ?_
      simp [addVariable, hw, hn]
  refine perform_eq_iff hrule ?_
  cases hw : Variable.create g.nextVariable shape order with
  | error e => exact ⟨_, .impossible hw⟩
  | ok w =>
    cases hn : g.nextVariable.succ? with
    | none => exact ⟨_, .exhausted hw hn⟩
    | some next => exact ⟨_, .added hw hn⟩

/-- Adding an operator ends by its rules. -/
theorem perform_addOperator {name : String} {parameters : SortedMap String Parameter}
    {out : Outcome OperatorId} :
    (addOperator name parameters).perform g = out ↔ Rules.AddOperator g name parameters out := by
  have hrule : ∀ {out}, Rules.AddOperator g name parameters out →
      (addOperator name parameters).perform g = out := by
    intro out h
    cases h with
    | exhausted hn =>
      refine perform_eq_failed ?_
      simp [addOperator, hn]
    | added hn =>
      refine perform_eq_done ?_
      simp [addOperator, hn, Rules.newOperator]
  refine perform_eq_iff hrule ?_
  cases hn : g.nextOperator.succ? with
  | none => exact ⟨_, .exhausted hn⟩
  | some next => exact ⟨_, .added hn⟩

/-! ## Removing nodes -/

/-- Removing an operator ends by its rules. -/
theorem perform_removeOperator {out : Outcome Operator} :
    (removeOperator o).perform g = out ↔ Rules.RemoveOperator g o out := by
  have hrule : ∀ {out}, Rules.RemoveOperator g o out → (removeOperator o).perform g = out := by
    intro out h
    cases h with
    | noOperator hp =>
      refine perform_eq_failed ?_
      simp [removeOperator, hp]
    | removed hp =>
      -- The draft of the graph is the dropped one, then the unread one, then the detached one.
      refine perform_eq_done ?_
      simp only [removeOperator, EStateM.run_bind, run_getOperator, hp, run_write,
        run_forM_touchVariable, run_report, EStateM.run_pure, Graph.written_detachWrites]
      rfl
  refine perform_eq_iff hrule ?_
  cases hp : g.getOperator? o with
  | none => exact ⟨_, .noOperator hp⟩
  | some p => exact ⟨_, .removed hp⟩

/-- Removing a variable ends by its rules. -/
theorem perform_removeVariable {out : Outcome Variable} :
    (removeVariable v).perform g = out ↔ Rules.RemoveVariable g v out := by
  have hrule : ∀ {out}, Rules.RemoveVariable g v out → (removeVariable v).perform g = out := by
    intro out h
    cases h with
    | noVariable hw =>
      refine perform_eq_failed ?_
      simp [removeVariable, hw]
    | inUse hw hl =>
      refine perform_eq_failed ?_
      simp [removeVariable, hw, hl]
    | removed hw hl =>
      refine perform_eq_done ?_
      simp [removeVariable, hw, hl]
  refine perform_eq_iff hrule ?_
  cases hw : g.getVariable? v with
  | none => exact ⟨_, .noVariable hw⟩
  | some w =>
    cases hl : w.isUnlinked with
    | false => exact ⟨_, .inUse hw hl⟩
    | true => exact ⟨_, .removed hw hl⟩

end Edit

end TensorGraph
