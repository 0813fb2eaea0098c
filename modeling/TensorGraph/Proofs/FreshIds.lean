import TensorGraph.Proofs.Effects

/-!
# Ids are handed out once

The id of the next node of a kind is a counter. A call moves it by one when it answers with a new id
of that kind, and not at all otherwise (`newId?_cases`), so the ids that a history of calls hands
out are consecutive numbers (`map_toNat_newIds`).

Where all nodes are stored under ids below the counters, a new id is not in use, and an id whose
node has been removed is `Retired`: it is below the counter and names nothing. No call brings it
back (`Retired.step`). `run_ids` puts these together for a history of any length.
-/

namespace TensorGraph

/-- The new id of a kind that an answer tells. -/
def Answer.newId? : (kind : NodeKind) → Answer → Option (Id kind)
  | .variable, .variableId v => some v
  | .operator, .operatorId o => some o
  | _, _ => none

namespace Graph

/-- A node is stored under the id. -/
def Stores (g : Graph) : {kind : NodeKind} → Id kind → Prop
  | .variable, v => ∃ w, g.getVariable? v = some w
  | .operator, o => ∃ p, g.getOperator? o = some p

/-- The new id of a kind that a call answers with, if it succeeds and adds a node of that kind. -/
def newId? (g : Graph) (kind : NodeKind) (c : Call) : Option (Id kind) :=
  (g.perform c).result.toOption.bind (·.newId? kind)

/-- The new ids of a kind that the calls of a history answer with, in order. -/
def newIds (kind : NodeKind) : Graph → List Call → List (Id kind)
  | _, [] => []
  | g, c :: calls => (g.newId? kind c).toList ++ newIds kind (g.after c) calls

/-- The id has been handed out, and names nothing any more. -/
structure Retired (g : Graph) {kind : NodeKind} (i : Id kind) : Prop where
  /-- The counter has passed the id. -/
  passed : i.toNat < (g.next kind).toNat
  /-- No node is stored under it. -/
  gone : ¬ g.Stores i

variable {g g' : Graph} {kind : NodeKind} {c : Call} {i : Id kind} {v : VariableId}
  {o : OperatorId} {a : Answer}

/-! ## Answers with new ids -/

/-- Where no answer that an outcome can have tells a new id, the outcome tells none. -/
theorem newId?_map_eq_none {α : Type} (out : Outcome α) {f : α → Answer}
    (hf : ∀ x, (f x).newId? kind = none) :
    (out.map f).result.toOption.bind (·.newId? kind) = none := by
  rw [Outcome.result_map]
  cases out.result with
  | error e => rfl
  | ok x => exact hf x

/-- Only adding a node of a kind answers with a new id of that kind. -/
theorem newId?_eq_none (hc : c.added? ≠ some kind) : g.newId? kind c = none := by
  unfold newId? perform
  cases c <;> rw [Call.edit, Edit.perform_map] <;> refine newId?_map_eq_none _ fun _ => ?_
  case addVariable =>
    cases kind
    · exact absurd rfl hc
    · rfl
  case addOperator =>
    cases kind
    · rfl
    · exact absurd rfl hc
  all_goals
    cases kind <;> rfl

/-- The new id that a call answers with is told by the answer. -/
theorem newId?_eq_of_ok (ha : (g.perform c).result = .ok a) : g.newId? kind c = a.newId? kind := by
  unfold newId?
  rw [ha]
  rfl

/-- A call that fails answers with no id. -/
theorem newId?_eq_none_of_error {e : Failure} (he : (g.perform c).result = .error e) :
    g.newId? kind c = none := by
  unfold newId?
  rw [he]
  rfl

/-- Adding a variable creates it, answers with the next id, moves the counter by one and stores the
variable under the id, or it fails and does nothing. -/
theorem addVariable_cases (g : Graph) (shape : Shape) (order : AxisOrder) :
    (∃ w j, Variable.create g.nextVariable shape order = .ok w ∧ g.nextVariable.succ? = some j ∧
      (g.perform (.addVariable shape order)).result = .ok (.variableId g.nextVariable) ∧
      g.after (.addVariable shape order) =
        g.written [.nextVariable j, .putVariable g.nextVariable w]) ∨
    (∃ e, (g.perform (.addVariable shape order)).result = .error e) ∧
      g.after (.addVariable shape order) = g := by
  unfold after perform
  rw [Call.edit, Edit.perform_map]
  generalize hout : (Edit.addVariable shape order).perform g = out
  cases Edit.perform_addVariable.1 hout with
  | impossible hw => exact Or.inr ⟨⟨_, rfl⟩, rfl⟩
  | exhausted hw hn => exact Or.inr ⟨⟨_, rfl⟩, rfl⟩
  | added hw hn => exact Or.inl ⟨_, _, hw, hn, rfl, rfl⟩

/-- Adding an operator answers with the next id, moves the counter by one and stores an operator
under the id, or it fails and does nothing. -/
theorem addOperator_cases (g : Graph) (name : String) (parameters : SortedMap String Parameter) :
    (∃ p j, g.nextOperator.succ? = some j ∧
      (g.perform (.addOperator name parameters)).result = .ok (.operatorId g.nextOperator) ∧
      g.after (.addOperator name parameters) =
        g.written [.nextOperator j, .putOperator g.nextOperator p]) ∨
    (∃ e, (g.perform (.addOperator name parameters)).result = .error e) ∧
      g.after (.addOperator name parameters) = g := by
  unfold after perform
  rw [Call.edit, Edit.perform_map]
  generalize hout : (Edit.addOperator name parameters).perform g = out
  cases Edit.perform_addOperator.1 hout with
  | exhausted hn => exact Or.inr ⟨⟨_, rfl⟩, rfl⟩
  | added hn => exact Or.inl ⟨_, _, hn, rfl, rfl⟩

/-! ## Counters -/

/-- A call answers with the next id of a kind and moves the counter by one, or does neither. -/
theorem newId?_cases (g : Graph) (kind : NodeKind) (c : Call) :
    (g.newId? kind c = some (g.next kind) ∧
      (g.next kind).succ? = some ((g.after c).next kind)) ∨
    g.newId? kind c = none ∧ (g.after c).next kind = g.next kind := by
  by_cases hc : c.added? = some kind
  · cases kind
    · obtain ⟨shape, order, rfl⟩ := Call.added?_eq_variable.1 hc
      rcases addVariable_cases g shape order with ⟨w, j, -, hn, hok, hafter⟩ | ⟨⟨e, he⟩, hafter⟩
      · exact Or.inl ⟨newId?_eq_of_ok hok, hafter ▸ hn⟩
      · exact Or.inr ⟨newId?_eq_none_of_error he, by rw [hafter]⟩
    · obtain ⟨name, parameters, rfl⟩ := Call.added?_eq_operator.1 hc
      rcases addOperator_cases g name parameters with ⟨p, j, hn, hok, hafter⟩ | ⟨⟨e, he⟩, hafter⟩
      · exact Or.inl ⟨newId?_eq_of_ok hok, hafter ▸ hn⟩
      · exact Or.inr ⟨newId?_eq_none_of_error he, by rw [hafter]⟩
  · exact Or.inr ⟨newId?_eq_none hc, (effect_after g c).next_eq hc⟩

/-- A call that answers with no new id of a kind leaves the counter of that kind alone. -/
theorem next_after_of_newId?_eq_none (h : g.newId? kind c = none) :
    (g.after c).next kind = g.next kind := by
  rcases newId?_cases g kind c with ⟨hid, -⟩ | ⟨-, hnext⟩
  · rw [h] at hid
    cases hid
  · exact hnext

/-- A new id is the next one. -/
theorem eq_next_of_newId? (h : g.newId? kind c = some i) : i = g.next kind := by
  rcases newId?_cases g kind c with ⟨hid, -⟩ | ⟨hid, -⟩
  · exact Option.some.inj (h.symm.trans hid)
  · rw [h] at hid
    cases hid

/-- The new ids of a history are as many consecutive numbers as the counter moves. -/
theorem map_toNat_newIds (kind : NodeKind) (g : Graph) (calls : List Call) :
    (newIds kind g calls).map Id.toNat =
        List.range' (g.next kind).toNat (newIds kind g calls).length ∧
      ((g.run calls).next kind).toNat = (g.next kind).toNat + (newIds kind g calls).length := by
  induction calls generalizing g with
  | nil => exact ⟨rfl, rfl⟩
  | cons c calls ih =>
    obtain ⟨hids, hnext⟩ := ih (g.after c)
    rw [newIds, run_cons]
    rcases newId?_cases g kind c with ⟨hid, hsucc⟩ | ⟨hid, hsame⟩
    · -- The call takes one number, and the rest of the history starts with the one after it.
      have hstart := Id.succ?_eq_some.1 hsucc
      rw [hid, Option.toList_some, List.singleton_append, List.map_cons, List.length_cons,
        List.range'_succ, hids, hstart]
      exact ⟨rfl, by omega⟩
    · rw [hid, Option.toList_none, List.nil_append, hids, hnext, hsame]
      exact ⟨rfl, rfl⟩

/-! ## Ids in use -/

/-- An id in use is below the counter. -/
theorem KeysBelow.lt_next (h : g.KeysBelow) (hi : g.Stores i) : i.toNat < (g.next kind).toNat := by
  cases kind
  · obtain ⟨w, hw⟩ := hi
    exact h.vars hw
  · obtain ⟨p, hp⟩ := hi
    exact h.ops hp

/-- The next id is not in use. -/
theorem KeysBelow.not_stores_next (h : g.KeysBelow) (kind : NodeKind) :
    ¬ g.Stores (g.next kind) :=
  fun hi => Nat.lt_irrefl _ (h.lt_next hi)

/-- A call that adds a node and succeeds stores it under the next id, where no node was, and leaves
all others as they were. -/
theorem KeysBelow.nodes_of_added (h : g.KeysBelow) (hc : c.added? = some kind)
    (ha : (g.perform c).result = .ok a) :
    g.newId? kind c = some (g.next kind) ∧ ¬ g.Stores (g.next kind) ∧
    (g.after c).Stores (g.next kind) ∧
    (∀ v w, g.getVariable? v = some w → (g.after c).getVariable? v = some w) ∧
    ∀ o p, g.getOperator? o = some p → (g.after c).getOperator? o = some p := by
  have hfree := h.not_stores_next kind
  cases kind
  · obtain ⟨shape, order, rfl⟩ := Call.added?_eq_variable.1 hc
    rcases addVariable_cases g shape order with ⟨w, j, -, -, hok, hafter⟩ | ⟨⟨e, he⟩, -⟩
    · rw [hafter]
      refine ⟨newId?_eq_of_ok hok, hfree, ⟨w, by simp⟩, fun v x hx => ?_, fun o p hp => hp⟩
      have hne : v ≠ g.nextVariable := by
        rintro rfl
        exact hfree ⟨x, hx⟩
      simp [hne, hx]
    · rw [ha] at he
      cases he
  · obtain ⟨name, parameters, rfl⟩ := Call.added?_eq_operator.1 hc
    rcases addOperator_cases g name parameters with ⟨p, j, -, hok, hafter⟩ | ⟨⟨e, he⟩, -⟩
    · rw [hafter]
      refine ⟨newId?_eq_of_ok hok, hfree, ⟨p, by simp⟩, fun v w hw => hw, fun o x hx => ?_⟩
      have hne : o ≠ g.nextOperator := by
        rintro rfl
        exact hfree ⟨x, hx⟩
      simp [hne, hx]
    · rw [ha] at he
      cases he

/-! ## Ids out of use -/

/-- A node that is there after a call was there before, or has the next id. -/
theorem Step.of_stores (hs : g.Step g') (hi : g'.Stores i) : i = g.next kind ∨ g.Stores i := by
  cases kind
  · obtain ⟨w', hw'⟩ := hi
    exact (hs.of_getVariable? hw').imp And.left fun ⟨w, hw, _⟩ => ⟨w, hw⟩
  · obtain ⟨p', hp'⟩ := hi
    exact (hs.of_getOperator? hp').imp And.left fun ⟨p, hp, _⟩ => ⟨p, hp⟩

/-- An id that is out of use stays so. -/
theorem Retired.step (h : g.Retired i) (hs : g.Step g') : g'.Retired i where
  passed := lt_of_lt_of_le h.passed (hs.next_le kind)
  gone hi := by
    rcases hs.of_stores hi with rfl | hold
    · exact Nat.lt_irrefl _ h.passed
    · exact h.gone hold

/-- An id that is out of use stays so through every history. -/
theorem Retired.run (h : g.Retired i) (calls : List Call) : (g.run calls).Retired i :=
  run_invariant (P := fun g => g.Retired i) h (fun h hs => h.step hs) calls

/-- An id that is out of use is not handed out. -/
theorem Retired.newId?_ne (h : g.Retired i) (c : Call) : g.newId? kind c ≠ some i := by
  intro hid
  have hlt := h.passed
  rw [eq_next_of_newId? hid] at hlt
  exact Nat.lt_irrefl _ hlt

/-- A removal takes the id of the variable out of use. -/
theorem KeysBelow.retired_of_removeVariable (h : g.KeysBelow)
    (ha : (g.perform (.removeVariable v)).result = .ok a) :
    (g.after (.removeVariable v)).Retired v := by
  unfold after
  unfold perform at ha ⊢
  rw [Call.edit, Edit.perform_map] at ha ⊢
  generalize hout : (Edit.removeVariable v).perform g = out at ha ⊢
  cases Edit.perform_removeVariable.1 hout with
  | noVariable hw => cases ha
  | inUse hw hl => cases ha
  | removed hw hl =>
    refine ⟨h.vars hw, ?_⟩
    rintro ⟨x, hx⟩
    rw [Outcome.graph_map, Outcome.graph_done, written_cons, written_nil,
      Write.getVariable?_dropVariable, if_pos rfl] at hx
    cases hx

/-- A removal takes the id of the operator out of use. -/
theorem KeysBelow.retired_of_removeOperator (h : g.KeysBelow)
    (ha : (g.perform (.removeOperator o)).result = .ok a) :
    (g.after (.removeOperator o)).Retired o := by
  unfold after
  unfold perform at ha ⊢
  rw [Call.edit, Edit.perform_map] at ha ⊢
  generalize hout : (Edit.removeOperator o).perform g = out at ha ⊢
  cases Edit.perform_removeOperator.1 hout with
  | noOperator hp => cases ha
  | @removed p hp =>
    rw [Outcome.graph_map, Outcome.graph_done, written_detachWrites]
    refine ⟨?_, ?_⟩
    · show o.toNat < (g.detached o p).nextOperator.toNat
      rw [nextOperator_detached]
      exact h.ops hp
    · rintro ⟨x, hx⟩
      rw [getOperator?_detached, if_pos rfl] at hx
      cases hx

/-- A variable whose id is out of use is not found. -/
theorem Retired.findVariable_eq_error (h : g.Retired v) :
    g.findVariable v = .error (.unknownVariable v) := by
  apply findVariable_of_none
  cases hw : g.getVariable? v with
  | none => rfl
  | some w => exact absurd ⟨w, hw⟩ h.gone

/-- An operator whose id is out of use is not found. -/
theorem Retired.findOperator_eq_error (h : g.Retired o) :
    g.findOperator o = .error (.unknownOperator o) := by
  apply findOperator_of_none
  cases hp : g.getOperator? o with
  | none => rfl
  | some p => exact absurd ⟨p, hp⟩ h.gone

/-- After every history that starts where all ids are below the counters, they still are. The new
ids of each kind are consecutive numbers from the counter of the first graph on. Adding a node that
succeeds takes the next id, under which there was none, and leaves all other nodes as they were; a
call that fails or does not add a node of the kind takes no id. What a removal takes away is not
found any more, and its id is not handed out again, whatever calls come later. -/
theorem run_ids (h : g.KeysBelow) (calls : List Call) :
    let g' := g.run calls
    g'.KeysBelow ∧
    (∀ kind, (newIds kind g calls).map Id.toNat =
        List.range' (g.next kind).toNat (newIds kind g calls).length ∧
      (g'.next kind).toNat = (g.next kind).toNat + (newIds kind g calls).length) ∧
    (∀ kind c a, c.added? = some kind → (g'.perform c).result = .ok a →
      g'.newId? kind c = some (g'.next kind) ∧ ¬ g'.Stores (g'.next kind) ∧
      (g'.after c).Stores (g'.next kind) ∧
      (∀ v w, g'.getVariable? v = some w → (g'.after c).getVariable? v = some w) ∧
      ∀ o p, g'.getOperator? o = some p → (g'.after c).getOperator? o = some p) ∧
    (∀ kind c, (c.added? ≠ some kind ∨ ∃ e, (g'.perform c).result = .error e) →
      g'.newId? kind c = none ∧ (g'.after c).next kind = g'.next kind) ∧
    (∀ v a, (g'.perform (.removeVariable v)).result = .ok a → ∀ later,
      let g'' := (g'.after (.removeVariable v)).run later
      g''.findVariable v = .error (.unknownVariable v) ∧ ∀ c, g''.newId? .variable c ≠ some v) ∧
    ∀ o a, (g'.perform (.removeOperator o)).result = .ok a → ∀ later,
      let g'' := (g'.after (.removeOperator o)).run later
      g''.findOperator o = .error (.unknownOperator o) ∧ ∀ c, g''.newId? .operator c ≠ some o := by
  intro g'
  have hbelow : g'.KeysBelow := h.run calls
  refine ⟨hbelow, fun kind => map_toNat_newIds kind g calls,
    fun kind c a hc ha => hbelow.nodes_of_added hc ha, fun kind c hc => ?_,
    fun v a ha later => ?_, fun o a ha later => ?_⟩
  · have hnone : g'.newId? kind c = none := by
      rcases hc with hc | ⟨e, he⟩
      · exact newId?_eq_none hc
      · exact newId?_eq_none_of_error he
    exact ⟨hnone, next_after_of_newId?_eq_none hnone⟩
  · have hretired := (hbelow.retired_of_removeVariable ha).run later
    exact ⟨hretired.findVariable_eq_error, hretired.newId?_ne⟩
  · have hretired := (hbelow.retired_of_removeOperator ha).run later
    exact ⟨hretired.findOperator_eq_error, hretired.newId?_ne⟩

/-- A graph with one variable and counters well above it. -/
def restored : Graph where
  vars := .ofList [(⟨2⟩, { id := ⟨2⟩, shape := [4], order := .c })]
  nextVariable := ⟨7⟩
  nextOperator := ⟨3⟩

/-- The counters of that graph are above its ids. -/
theorem keysBelow_restored : restored.KeysBelow where
  vars := by
    intro v w hw
    have hmem := SortedMap.mem_of_get?_ofList hw
    rw [List.mem_singleton] at hmem
    obtain ⟨rfl, -⟩ := Prod.mk.inj hmem
    decide
  ops hp := nomatch hp

/-- A history in which one variable is refused, one is removed, and two and an operator are
added. -/
def crowded : List Call :=
  [.addVariable [2, 3] .nc, .addVariable [5] .nc, .removeVariable ⟨7⟩, .addOperator "Add" ∅,
    .addVariable [5] .c]

/-- The added variables have the ids 7 and 8. The next one has the id 9 and is stored where none
was. The variable under the id 2, once removed, is not found in any later graph, and the operator
that was added neither. -/
theorem run_ids_restored :
    restored.KeysBelow ∧
    (newIds .variable restored crowded).map Id.toNat = [7, 8] ∧
    ¬ (restored.run crowded).Stores (⟨9⟩ : VariableId) ∧
    ((restored.run crowded).after (.addVariable [1] .c)).Stores (⟨9⟩ : VariableId) ∧
    ((restored.run crowded).after (.addVariable [1] .nc)).next .variable = ⟨9⟩ ∧
    (∀ later, (((restored.run crowded).after (.removeVariable ⟨2⟩)).run later).findVariable ⟨2⟩ =
      .error (.unknownVariable ⟨2⟩)) ∧
    ∀ later, (((restored.run crowded).after (.removeOperator ⟨3⟩)).run later).findOperator ⟨3⟩ =
      .error (.unknownOperator ⟨3⟩) := by
  obtain ⟨-, hids, hadded, hnone, hvariable, hoperator⟩ := run_ids keysBelow_restored crowded
  have hcount : (newIds .variable restored crowded).length = 2 := by decide
  have hnew := hadded .variable (.addVariable [1] .c) (.variableId ⟨9⟩) rfl (by decide)
  have hrefused := hnone .variable (.addVariable [1] .nc) (Or.inr ⟨_, rfl⟩)
  refine ⟨keysBelow_restored, ?_, hnew.2.1, hnew.2.2.1, hrefused.2,
    fun later => (hvariable ⟨2⟩ _ rfl later).1,
    fun later => (hoperator ⟨3⟩ _ rfl later).1⟩
  rw [(hids .variable).1, hcount]
  rfl

end Graph

end TensorGraph
