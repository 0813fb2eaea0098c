import TensorGraph.Proofs.Writes

/-!
# How the calls on what nodes carry end

All of these calls put something else in the place of one node. They differ in what they put there,
in what they answer, and in what they report, so that one relation for variables and one for
operators covers them.
-/

namespace TensorGraph

namespace Rules

/-- How putting `f w` in place of a variable `w` ends. -/
inductive AmendVariable {α : Type} (g : Graph) (v : VariableId)
    (f : Variable → Except Failure Variable) (answer : Variable → α)
    (log : Variable → Variable → List LogEntry) : Outcome α → Prop
  /-- The variable is not there. -/
  | noVariable (hw : g.getVariable? v = none) :
    AmendVariable g v f answer log (.refused g (.unknownVariable v))
  /-- Nothing can be put in its place. -/
  | impossible {w : Variable} {e : Failure} (hw : g.getVariable? v = some w)
    (hf : f w = .error e) :
    AmendVariable g v f answer log (.failed g e)
  /-- The variable changes. -/
  | amended {w w' : Variable} (hw : g.getVariable? v = some w) (hf : f w = .ok w') :
    AmendVariable g v f answer log (.done g (answer w) [.putVariable v w'] (log w w'))

/-- How putting `f p` in place of an operator `p` ends. -/
inductive AmendOperator {α : Type} (g : Graph) (o : OperatorId) (f : Operator → Operator)
    (answer : Operator → α) : Outcome α → Prop
  /-- The operator is not there. -/
  | noOperator (hp : g.getOperator? o = none) :
    AmendOperator g o f answer (.refused g (.unknownOperator o))
  /-- The operator changes. -/
  | amended {p : Operator} (hp : g.getOperator? o = some p) :
    AmendOperator g o f answer (.done g (answer p) [.putOperator o (f p)] [])

variable {α : Type} {g : Graph}

/-- Some rule for variables applies. -/
theorem exists_amendVariable (g : Graph) (v : VariableId) (f : Variable → Except Failure Variable)
    (answer : Variable → α) (log : Variable → Variable → List LogEntry) :
    ∃ out, AmendVariable g v f answer log out := by
  cases hw : g.getVariable? v with
  | none => exact ⟨_, .noVariable hw⟩
  | some w =>
    cases hf : f w with
    | error e => exact ⟨_, .impossible hw hf⟩
    | ok w' => exact ⟨_, .amended hw hf⟩

/-- Some rule for operators applies. -/
theorem exists_amendOperator (g : Graph) (o : OperatorId) (f : Operator → Operator)
    (answer : Operator → α) : ∃ out, AmendOperator g o f answer out := by
  cases hp : g.getOperator? o with
  | none => exact ⟨_, .noOperator hp⟩
  | some p => exact ⟨_, .amended hp⟩

end Rules

namespace Edit

variable {α : Type} {g : Graph} {v : VariableId} {o : OperatorId}

/-- A result is taken as it is. -/
@[simp]
theorem run_ofExcept (x : Except Failure α) (d : Draft) :
    (ofExcept x).run d =
      match x with
      | .ok a => .ok a d
      | .error e => .error e d := by
  cases x <;> rfl

/-- A variable is put in the place of another by the rules for variables. -/
theorem perform_amendVariable {f : Variable → Except Failure Variable} {out : Outcome Unit} :
    (amendVariable v f).perform g = out ↔
      Rules.AmendVariable g v f (fun _ => ()) (fun _ _ => []) out := by
  have hrule : ∀ {out}, Rules.AmendVariable g v f (fun _ => ()) (fun _ _ => []) out →
      (amendVariable v f).perform g = out := by
    intro out h
    cases h with
    | noVariable hw =>
      refine perform_eq_failed ?_
      simp [amendVariable, hw]
    | impossible hw hf =>
      refine perform_eq_failed ?_
      simp [amendVariable, hw, hf]
    | amended hw hf =>
      refine perform_eq_done ?_
      simp [amendVariable, hw, hf]
  exact perform_eq_iff hrule (Rules.exists_amendVariable ..)

/-- A shape is read in another order by the rules for variables, and this is reported. -/
theorem perform_reorder {target : AxisOrder} {out : Outcome Unit} :
    (reorder v target).perform g = out ↔
      Rules.AmendVariable g v (·.reorder target) (fun _ => ()) (fun w w' => [.reordered w w'])
        out := by
  have hrule : ∀ {out}, Rules.AmendVariable g v (·.reorder target) (fun _ => ())
      (fun w w' => [.reordered w w']) out → (reorder v target).perform g = out := by
    intro out h
    cases h with
    | noVariable hw =>
      refine perform_eq_failed ?_
      simp [reorder, hw]
    | impossible hw hf =>
      refine perform_eq_failed ?_
      simp [reorder, hw, hf]
    | amended hw hf =>
      refine perform_eq_done ?_
      simp [reorder, hw, hf]
  exact perform_eq_iff hrule (Rules.exists_amendVariable ..)

/-- The elements of a variable get another type by the rules for variables. -/
theorem perform_setElementType {t : ElementType} {out : Outcome Unit} :
    (setElementType v t).perform g = out ↔
      Rules.AmendVariable g v (fun w => (w.setElementType t).mapError .refused) (fun _ => ())
        (fun _ _ => []) out :=
  perform_amendVariable

/-- A variable is named by the rules for variables. -/
theorem perform_setName_variable {name : String} {out : Outcome Unit} :
    (setName (.variable v) name).perform g = out ↔
      Rules.AmendVariable g v (fun w => .ok { w with name := some name }) (fun _ => ())
        (fun _ _ => []) out :=
  perform_amendVariable

/-- An operator is named by the rules for operators. -/
theorem perform_setName_operator {name : String} {out : Outcome Unit} :
    (setName (.operator o) name).perform g = out ↔
      Rules.AmendOperator g o (fun p => { p with name }) (fun _ => ()) out := by
  have hrule : ∀ {out}, Rules.AmendOperator g o (fun p => { p with name }) (fun _ => ()) out →
      (setName (.operator o) name).perform g = out := by
    intro out h
    cases h with
    | noOperator hp =>
      refine perform_eq_failed ?_
      simp [setName, hp]
    | amended hp =>
      refine perform_eq_done ?_
      simp [setName, hp]
  exact perform_eq_iff hrule (Rules.exists_amendOperator ..)

/-- The annotations of a variable change by the rules for variables. -/
theorem perform_annotate_variable {f : Annotations → Annotations} {out : Outcome Annotations} :
    (annotate (.variable v) f).perform g = out ↔
      Rules.AmendVariable g v (fun w => .ok { w with annotations := f w.annotations })
        Variable.annotations (fun _ _ => []) out := by
  have hrule : ∀ {out}, Rules.AmendVariable g v
      (fun w => .ok { w with annotations := f w.annotations }) Variable.annotations
      (fun _ _ => []) out → (annotate (.variable v) f).perform g = out := by
    intro out h
    cases h with
    | noVariable hw =>
      refine perform_eq_failed ?_
      simp [annotate, hw]
    | impossible hw hf => cases hf
    | amended hw hf =>
      cases hf
      refine perform_eq_done ?_
      simp [annotate, hw]
  exact perform_eq_iff hrule (Rules.exists_amendVariable ..)

/-- The annotations of an operator change by the rules for operators. -/
theorem perform_annotate_operator {f : Annotations → Annotations} {out : Outcome Annotations} :
    (annotate (.operator o) f).perform g = out ↔
      Rules.AmendOperator g o (fun p => { p with annotations := f p.annotations })
        Operator.annotations out := by
  have hrule : ∀ {out}, Rules.AmendOperator g o
      (fun p => { p with annotations := f p.annotations }) Operator.annotations out →
      (annotate (.operator o) f).perform g = out := by
    intro out h
    cases h with
    | noOperator hp =>
      refine perform_eq_failed ?_
      simp [annotate, hp]
    | amended hp =>
      refine perform_eq_done ?_
      simp [annotate, hp]
  exact perform_eq_iff hrule (Rules.exists_amendOperator ..)

variable (node : NodeId) (name : String) (a : Attribute)

/-- Attaching an attribute is a change of the annotations. -/
theorem attach_eq : attach node a = (fun n => !n.has a) <$> annotate node (·.attach a) :=
  (map_eq_pure_bind _ _).symm

/-- Detaching an attribute is a change of the annotations. -/
theorem detach_eq : detach node a = (fun n => n.has a) <$> annotate node (·.detach a) :=
  (map_eq_pure_bind _ _).symm

/-- Setting a parameter is a change of the annotations. -/
theorem setParameter_eq (value : Parameter) :
    setParameter node name value =
      (fun n => n.parameter? name) <$> annotate node (·.set name value) :=
  (map_eq_pure_bind _ _).symm

/-- Dropping a parameter is a change of the annotations. -/
theorem unsetParameter_eq :
    unsetParameter node name = (fun n => n.parameter? name) <$> annotate node (·.unset name) :=
  (map_eq_pure_bind _ _).symm

end Edit

namespace Graph

variable {g : Graph} {v : VariableId} {w w' : Variable} {target : AxisOrder} {t : ElementType}
  {e : Failure} {reason : GraphError}

/-- Asking for another order of a variable that is not there is refused. -/
theorem perform_reorder_of_none (hw : g.getVariable? v = none) :
    g.perform (.reorder v target) = .failed g (.refused (.unknownVariable v)) := by
  rw [perform, Call.edit, Edit.perform_map, Edit.perform_reorder.2 (.noVariable hw)]
  rfl

/-- Asking for another order fails for the reason that the variable gives. -/
theorem perform_reorder_of_error (hw : g.getVariable? v = some w)
    (he : w.reorder target = .error e) : g.perform (.reorder v target) = .failed g e := by
  rw [perform, Call.edit, Edit.perform_map, Edit.perform_reorder.2 (.impossible hw he)]
  rfl

/-- Asking for another order puts the variable in that order in the place of the old one. -/
theorem perform_reorder_of_ok (hw : g.getVariable? v = some w) (hw' : w.reorder target = .ok w') :
    g.perform (.reorder v target) =
      .done g .done [.putVariable v w'] [.reordered w w'] := by
  rw [perform, Call.edit, Edit.perform_map, Edit.perform_reorder.2 (.amended hw hw')]
  rfl

/-- Asking for another type of the elements is refused for the reason that the variable gives. -/
theorem perform_setElementType_of_error (hw : g.getVariable? v = some w)
    (he : w.setElementType t = .error reason) :
    g.perform (.setElementType v t) = .failed g (.refused reason) := by
  have hf : (w.setElementType t).mapError Failure.refused = .error (.refused reason) := by
    rw [he]
    rfl
  rw [perform, Call.edit, Edit.perform_map, Edit.perform_setElementType.2 (.impossible hw hf)]
  rfl

/-- Asking for another type of the elements puts the variable with that type in the place of the
old one. -/
theorem perform_setElementType_of_ok (hw : g.getVariable? v = some w)
    (hw' : w.setElementType t = .ok w') :
    g.perform (.setElementType v t) = .done g .done [.putVariable v w'] [] := by
  have hf : (w.setElementType t).mapError Failure.refused = .ok w' := by
    rw [hw']
    rfl
  rw [perform, Call.edit, Edit.perform_map, Edit.perform_setElementType.2 (.amended hw hf)]
  rfl

end Graph

end TensorGraph
