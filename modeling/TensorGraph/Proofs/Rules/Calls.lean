import TensorGraph.Proofs.Rules.Binding
import TensorGraph.Proofs.Rules.Lifecycle
import TensorGraph.Proofs.Rules.Metadata

/-!
# How every call ends

`Rules.Performs g c out` puts the rules of the single calls together: carrying out the call `c` on
the graph `g` has the outcome `out`. There is one constructor for each family of calls, the role of
a link and the change of the annotations being parameters. `perform_iff` says that calls end by
these rules and no others, so that a fact about all calls takes one case for each family, and
`Performs.of_isLinking` leaves the four families that change links.
-/

namespace TensorGraph

namespace Call

/-- The call that binds a variable to a slot of one side. -/
def bind : Role → OperatorId → String → VariableId → Call
  | .input => bindInput
  | .output => bindOutput

/-- The call that empties the first slot of one side that holds a variable. -/
def unbind : Role → OperatorId → VariableId → Call
  | .input => unbindInput
  | .output => unbindOutput

/-- The call that asks for the first slot of one side that holds a variable. -/
def slotOf : Role → OperatorId → VariableId → Call
  | .input => inputSlot
  | .output => outputSlot

/-- A call that makes, breaks or moves a link. -/
def isLinking : Call → Bool
  | bindInput _ _ _ | unbindInput _ _ | rebindInput _ _ _ | bindOutput _ _ _ | unbindOutput _ _
  | rebindOutput _ _ _ => true
  | _ => false

end Call

/-- A change of annotations, as a call asks for it. -/
structure Annotation where
  /-- The node whose annotations change. -/
  node : NodeId
  /-- What becomes of them. -/
  change : Annotations → Annotations
  /-- What is answered, by what they were. -/
  answer : Annotations → Answer

/-- The change of annotations that a call asks for. -/
def Call.annotation? : Call → Option Annotation
  | attach node a => some ⟨node, (·.attach a), fun n => .flag !n.has a⟩
  | detach node a => some ⟨node, (·.detach a), fun n => .flag (n.has a)⟩
  | setParameter node name value =>
    some ⟨node, (·.set name value), fun n => .parameter (n.parameter? name)⟩
  | unsetParameter node name => some ⟨node, (·.unset name), fun n => .parameter (n.parameter? name)⟩
  | _ => none

namespace Call

variable {c : Call} {role : Role} {o : OperatorId} {slot : String} {v : VariableId}

/-- Binding makes a link. -/
@[simp]
theorem isLinking_bind : (Call.bind role o slot v).isLinking = true := by
  cases role <;> rfl

/-- Unbinding breaks a link. -/
@[simp]
theorem isLinking_unbind : (Call.unbind role o v).isLinking = true := by
  cases role <;> rfl

/-- Asking for a slot leaves the links as they are. -/
@[simp]
theorem isLinking_slotOf : (Call.slotOf role o v).isLinking = false := by
  cases role <;> rfl

/-- A change of annotations leaves the links as they are. -/
theorem isLinking_of_annotation? {x : Annotation} (h : c.annotation? = some x) :
    c.isLinking = false := by
  cases c with
  | attach node a => rfl
  | detach node a => rfl
  | setParameter node name value => rfl
  | unsetParameter node name => rfl
  | _ => cases h

end Call

namespace Rules

/-- How asking for a slot ends. -/
inductive SlotOf (g : Graph) (role : Role) (o : OperatorId) (v : VariableId) :
    Outcome String → Prop
  /-- The operator has a slot for the variable. -/
  | found {slot : String} (hs : g.slotOf role o v = .ok slot) :
    SlotOf g role o v (.done g slot [] [])
  /-- No slot is found. -/
  | noSlot {e : GraphError} (hs : g.slotOf role o v = .error e) : SlotOf g role o v (.refused g e)

/-- How reading the text of the snapshot ends. -/
inductive Reload (g : Graph) : Outcome Unit → Prop
  /-- The text is read as a graph. -/
  | read {g' : Graph} (hg : g.reload = .ok g') : Reload g (.done g () [.whole g'] [])
  /-- The text is not read. -/
  | unreadable {e : SnapshotError} (hg : g.reload = .error e) : Reload g (.failed g (.unreadable e))

/-- How every call ends. -/
inductive Performs (g : Graph) : Call → Outcome Answer → Prop
  /-- A variable is to be added. -/
  | addVariable {shape : Shape} {order : AxisOrder} {out : Outcome VariableId}
    (h : AddVariable g shape order out) :
    Performs g (.addVariable shape order) (out.map .variableId)
  /-- An operator is to be added. -/
  | addOperator {name : String} {parameters : SortedMap String Parameter}
    {out : Outcome OperatorId} (h : AddOperator g name parameters out) :
    Performs g (.addOperator name parameters) (out.map .operatorId)
  /-- A slot is to take a variable. -/
  | bind {role : Role} {o : OperatorId} {slot : String} {v : VariableId} {out : Outcome Unit}
    (h : Bind g role o slot v out) : Performs g (.bind role o slot v) (out.map fun _ => .done)
  /-- A slot is to give its variable up. -/
  | unbind {role : Role} {o : OperatorId} {v : VariableId} {out : Outcome Unit}
    (h : Unbind g role o v out) : Performs g (.unbind role o v) (out.map fun _ => .done)
  /-- An input slot is to change its variable. -/
  | rebindInput {o : OperatorId} {old new : VariableId} {out : Outcome Unit}
    (h : RebindInput g o old new out) :
    Performs g (.rebindInput o old new) (out.map fun _ => .done)
  /-- An output slot is to change its variable. -/
  | rebindOutput {o : OperatorId} {old new : VariableId} {out : Outcome Unit}
    (h : RebindOutput g o old new out) :
    Performs g (.rebindOutput o old new) (out.map fun _ => .done)
  /-- A slot is asked for. -/
  | slotOf {role : Role} {o : OperatorId} {v : VariableId} {out : Outcome String}
    (h : SlotOf g role o v out) : Performs g (.slotOf role o v) (out.map .slot)
  /-- An operator is to leave. -/
  | removeOperator {o : OperatorId} {out : Outcome Operator} (h : RemoveOperator g o out) :
    Performs g (.removeOperator o) (out.map .removedOperator)
  /-- A variable is to leave. -/
  | removeVariable {v : VariableId} {out : Outcome Variable} (h : RemoveVariable g v out) :
    Performs g (.removeVariable v) (out.map .removedVariable)
  /-- The shape of a variable is to be read in another order. -/
  | reorder {v : VariableId} {target : AxisOrder} {out : Outcome Unit}
    (h : AmendVariable g v (·.reorder target) (fun _ => ()) (fun w w' => [.reordered w w']) out) :
    Performs g (.reorder v target) (out.map fun _ => .done)
  /-- The elements of a variable are to get another type. -/
  | setElementType {v : VariableId} {t : ElementType} {out : Outcome Unit}
    (h : AmendVariable g v (fun w => (w.setElementType t).mapError .refused) (fun _ => ())
      (fun _ _ => []) out) :
    Performs g (.setElementType v t) (out.map fun _ => .done)
  /-- A variable is to be named. -/
  | nameVariable {v : VariableId} {name : String} {out : Outcome Unit}
    (h : AmendVariable g v (fun w => .ok { w with name := some name }) (fun _ => ())
      (fun _ _ => []) out) :
    Performs g (.setName (.variable v) name) (out.map fun _ => .done)
  /-- An operator is to be named. -/
  | nameOperator {o : OperatorId} {name : String} {out : Outcome Unit}
    (h : AmendOperator g o (fun p => { p with name }) (fun _ => ()) out) :
    Performs g (.setName (.operator o) name) (out.map fun _ => .done)
  /-- The annotations of a variable are to change. -/
  | annotateVariable {c : Call} {v : VariableId} {change : Annotations → Annotations}
    {answer : Annotations → Answer} {out : Outcome Annotations}
    (hc : c.annotation? = some ⟨.variable v, change, answer⟩)
    (h : AmendVariable g v (fun w => .ok { w with annotations := change w.annotations })
      Variable.annotations (fun _ _ => []) out) :
    Performs g c (out.map answer)
  /-- The annotations of an operator are to change. -/
  | annotateOperator {c : Call} {o : OperatorId} {change : Annotations → Annotations}
    {answer : Annotations → Answer} {out : Outcome Annotations}
    (hc : c.annotation? = some ⟨.operator o, change, answer⟩)
    (h : AmendOperator g o (fun p => { p with annotations := change p.annotations })
      Operator.annotations out) :
    Performs g c (out.map answer)
  /-- The variables without links are asked for. -/
  | unlinked : Performs g .unlinked (.done g (.ids g.unlinked) [] [])
  /-- The variables that come in are asked for. -/
  | inputs : Performs g .inputs (.done g (.ids g.inputs) [] [])
  /-- The variables that go out are asked for. -/
  | outputs : Performs g .outputs (.done g (.ids g.outputs) [] [])
  /-- The text of the snapshot is to be read. -/
  | reload {out : Outcome Unit} (h : Reload g out) : Performs g .reload (out.map fun _ => .done)

/-- A call on links answers nothing and ends by one of four rules. -/
theorem Performs.of_isLinking {g : Graph} {c : Call} {out : Outcome Answer} (h : Performs g c out)
    (hc : c.isLinking = true) :
    ∃ out' : Outcome Unit, out = out'.map (fun _ => .done) ∧
      ((∃ role o slot v, Bind g role o slot v out') ∨ (∃ role o v, Unbind g role o v out') ∨
        (∃ o old new, RebindInput g o old new out') ∨
        ∃ o old new, RebindOutput g o old new out') := by
  cases h with
  | bind h => exact ⟨_, rfl, .inl ⟨_, _, _, _, h⟩⟩
  | unbind h => exact ⟨_, rfl, .inr (.inl ⟨_, _, _, h⟩)⟩
  | rebindInput h => exact ⟨_, rfl, .inr (.inr (.inl ⟨_, _, _, h⟩))⟩
  | rebindOutput h => exact ⟨_, rfl, .inr (.inr (.inr ⟨_, _, _, h⟩))⟩
  | slotOf h => simp at hc
  | annotateVariable ha h => simp [Call.isLinking_of_annotation? ha] at hc
  | annotateOperator ha h => simp [Call.isLinking_of_annotation? ha] at hc
  | _ => cases hc

end Rules

namespace Edit

variable {g : Graph} {role : Role} {o : OperatorId} {v : VariableId}

/-- Asking for a slot ends by its rules. -/
theorem perform_slotOf {out : Outcome String} :
    (ask (·.slotOf role o v)).perform g = out ↔ Rules.SlotOf g role o v out := by
  have hrule : ∀ {out}, Rules.SlotOf g role o v out →
      (ask (·.slotOf role o v)).perform g = out := by
    intro out h
    rw [perform_ask]
    cases h with
    | found hs =>
      rw [hs]
      rfl
    | noSlot hs =>
      rw [hs]
      rfl
  refine perform_eq_iff hrule ?_
  cases hs : g.slotOf role o v with
  | ok slot => exact ⟨_, .found hs⟩
  | error e => exact ⟨_, .noSlot hs⟩

/-- Reading the text of the snapshot ends by its rules. -/
theorem perform_reload {out : Outcome Unit} : reload.perform g = out ↔ Rules.Reload g out := by
  have hrule : ∀ {out}, Rules.Reload g out → reload.perform g = out := by
    intro out h
    cases h with
    | @read g' hg =>
      have hread : g.reload.mapError Failure.unreadable = .ok g' := by
        rw [hg]
        rfl
      refine perform_eq_done ?_
      rw [reload, EStateM.run_bind, EStateM.run_get]
      dsimp only
      rw [EStateM.run_bind, run_ofExcept, hread]
      exact run_write _ _
    | @unreadable e hg =>
      have hread : g.reload.mapError Failure.unreadable = .error (.unreadable e) := by
        rw [hg]
        rfl
      refine perform_eq_failed ?_
      rw [reload, EStateM.run_bind, EStateM.run_get]
      dsimp only
      rw [EStateM.run_bind, run_ofExcept, hread]
  refine perform_eq_iff hrule ?_
  cases hg : g.reload with
  | ok g' => exact ⟨_, .read hg⟩
  | error e => exact ⟨_, .unreadable hg⟩

/-- A call on annotations changes them and answers by what they were. -/
theorem perform_annotation {c : Call} {x : Annotation} (hc : c.annotation? = some x) :
    c.edit.perform g = ((annotate x.node x.change).perform g).map x.answer := by
  cases c with
  | attach node a =>
    obtain rfl := Option.some.inj hc
    rw [Call.edit, attach_eq, perform_map, perform_map, Outcome.map_map]
  | detach node a =>
    obtain rfl := Option.some.inj hc
    rw [Call.edit, detach_eq, perform_map, perform_map, Outcome.map_map]
  | setParameter node name value =>
    obtain rfl := Option.some.inj hc
    rw [Call.edit, setParameter_eq, perform_map, perform_map, Outcome.map_map]
  | unsetParameter node name =>
    obtain rfl := Option.some.inj hc
    rw [Call.edit, unsetParameter_eq, perform_map, perform_map, Outcome.map_map]
  | _ => cases hc

end Edit

namespace Graph

variable {g : Graph} {c : Call} {out : Outcome Answer}

/-- Each rule is followed. -/
theorem perform_of_rule (h : Rules.Performs g c out) : g.perform c = out := by
  cases h with
  | addVariable h => rw [perform, Call.edit, Edit.perform_map, Edit.perform_addVariable.2 h]
  | addOperator h => rw [perform, Call.edit, Edit.perform_map, Edit.perform_addOperator.2 h]
  | @bind role _ _ _ _ h =>
    rw [← Edit.perform_bind.2 h]
    cases role <;> exact Edit.perform_map _ _ g
  | @unbind role _ _ _ h =>
    rw [← Edit.perform_unbind.2 h]
    cases role <;> exact Edit.perform_map _ _ g
  | rebindInput h => rw [perform, Call.edit, Edit.perform_map, Edit.perform_rebindInput.2 h]
  | rebindOutput h => rw [perform, Call.edit, Edit.perform_map, Edit.perform_rebindOutput.2 h]
  | @slotOf role _ _ _ h =>
    rw [← Edit.perform_slotOf.2 h]
    cases role <;> exact Edit.perform_map _ _ g
  | removeOperator h => rw [perform, Call.edit, Edit.perform_map, Edit.perform_removeOperator.2 h]
  | removeVariable h => rw [perform, Call.edit, Edit.perform_map, Edit.perform_removeVariable.2 h]
  | reorder h => rw [perform, Call.edit, Edit.perform_map, Edit.perform_reorder.2 h]
  | setElementType h => rw [perform, Call.edit, Edit.perform_map, Edit.perform_setElementType.2 h]
  | nameVariable h => rw [perform, Call.edit, Edit.perform_map, Edit.perform_setName_variable.2 h]
  | nameOperator h => rw [perform, Call.edit, Edit.perform_map, Edit.perform_setName_operator.2 h]
  | annotateVariable hc h =>
    rw [perform, Edit.perform_annotation hc, Edit.perform_annotate_variable.2 h]
  | annotateOperator hc h =>
    rw [perform, Edit.perform_annotation hc, Edit.perform_annotate_operator.2 h]
  | unlinked => exact Edit.perform_map _ _ g
  | inputs => exact Edit.perform_map _ _ g
  | outputs => exact Edit.perform_map _ _ g
  | reload h => rw [perform, Call.edit, Edit.perform_map, Edit.perform_reload.2 h]

/-- Some rule applies to a change of annotations. -/
theorem exists_rule_annotation (g : Graph) {x : Annotation} (hc : c.annotation? = some x) :
    ∃ out, Rules.Performs g c out := by
  obtain ⟨v | o, change, answer⟩ := x
  · obtain ⟨out, h⟩ := Rules.exists_amendVariable g v _ _ _
    exact ⟨_, .annotateVariable hc h⟩
  · obtain ⟨out, h⟩ := Rules.exists_amendOperator g o _ _
    exact ⟨_, .annotateOperator hc h⟩

/-- Some rule applies to every call. -/
theorem exists_rule (g : Graph) (c : Call) : ∃ out, Rules.Performs g c out := by
  have hbind : ∀ role o slot v, ∃ out, Rules.Performs g (.bind role o slot v) out :=
    fun role o slot v => ⟨_, .bind (Edit.perform_bind.1 rfl)⟩
  have hunbind : ∀ role o v, ∃ out, Rules.Performs g (.unbind role o v) out :=
    fun role o v => ⟨_, .unbind (Edit.perform_unbind.1 rfl)⟩
  have hslotOf : ∀ role o v, ∃ out, Rules.Performs g (.slotOf role o v) out :=
    fun role o v => ⟨_, .slotOf (Edit.perform_slotOf.1 rfl)⟩
  cases c with
  | addVariable shape order => exact ⟨_, .addVariable (Edit.perform_addVariable.1 rfl)⟩
  | addOperator name parameters => exact ⟨_, .addOperator (Edit.perform_addOperator.1 rfl)⟩
  | bindInput o slot v => exact hbind .input o slot v
  | bindOutput o slot v => exact hbind .output o slot v
  | unbindInput o v => exact hunbind .input o v
  | unbindOutput o v => exact hunbind .output o v
  | rebindInput o old new => exact ⟨_, .rebindInput (Edit.perform_rebindInput.1 rfl)⟩
  | rebindOutput o old new => exact ⟨_, .rebindOutput (Edit.perform_rebindOutput.1 rfl)⟩
  | inputSlot o v => exact hslotOf .input o v
  | outputSlot o v => exact hslotOf .output o v
  | removeOperator o => exact ⟨_, .removeOperator (Edit.perform_removeOperator.1 rfl)⟩
  | removeVariable v => exact ⟨_, .removeVariable (Edit.perform_removeVariable.1 rfl)⟩
  | reorder v target => exact ⟨_, .reorder (Edit.perform_reorder.1 rfl)⟩
  | setElementType v t => exact ⟨_, .setElementType (Edit.perform_setElementType.1 rfl)⟩
  | setName node name =>
    obtain v | o := node
    · exact ⟨_, .nameVariable (Edit.perform_setName_variable.1 rfl)⟩
    · exact ⟨_, .nameOperator (Edit.perform_setName_operator.1 rfl)⟩
  | attach node a => exact exists_rule_annotation g rfl
  | detach node a => exact exists_rule_annotation g rfl
  | setParameter node name value => exact exists_rule_annotation g rfl
  | unsetParameter node name => exact exists_rule_annotation g rfl
  | unlinked => exact ⟨_, .unlinked⟩
  | inputs => exact ⟨_, .inputs⟩
  | outputs => exact ⟨_, .outputs⟩
  | reload => exact ⟨_, .reload (Edit.perform_reload.1 rfl)⟩

/-- Every call ends by its rules. -/
theorem perform_iff : g.perform c = out ↔ Rules.Performs g c out :=
  Edit.perform_eq_iff perform_of_rule (exists_rule g c)

/-- The outcome of a call is one of those that its rules allow. -/
theorem performs (g : Graph) (c : Call) : Rules.Performs g c (g.perform c) := perform_iff.1 rfl

end Graph

end TensorGraph
