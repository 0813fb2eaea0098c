import TensorGraph.Proofs.Results
import TensorGraph.Proofs.Rules.Calls

/-!
# What a call on links says about nodes that are not there

A call on links names an operator and one variable or two. Before it looks at any slot it should ask
whether they are there, and refuse the call because of one that is not. `Graph.Guarded` says so of
the result of a call: all nodes that it names are there, or the result is the error for one that is
missing. The calls differ in the order in which they look nodes up, but each of them is guarded,
with one exception (`Graph.Overlooks`): putting one variable in place of another into an output
slot looks for the slot before it looks for the new variable. `guarded_iff` says that this is the
only way in which a missing node goes unnoticed.
-/

namespace TensorGraph

/-- The nodes that a call on links names, the operator first. The other calls name none. -/
def Call.linkNodes : Call → List NodeId
  | bindInput o _ v | bindOutput o _ v | unbindInput o v | unbindOutput o v | inputSlot o v
  | outputSlot o v => [.operator o, .variable v]
  | rebindInput o old new | rebindOutput o old new => [.operator o, .variable old, .variable new]
  | _ => []

namespace GraphError

/-- The error for a node that is not there. -/
def missing : NodeId → GraphError
  | .variable v => unknownVariable v
  | .operator o => unknownOperator o

/-- The error speaks of what slots hold. -/
def isAboutSlots : GraphError → Bool
  | notAnInput _ _ | notAnOutput _ _ | slotOccupied _ _ _ | outputConflict _ _ => true
  | _ => false

/-- The error for a missing node does not speak of slots. -/
@[simp]
theorem isAboutSlots_missing (n : NodeId) : (missing n).isAboutSlots = false := by
  cases n <;> rfl

end GraphError

namespace Graph

/-- The node is not in the graph. -/
def Lacks (g : Graph) : NodeId → Prop
  | .variable v => g.getVariable? v = none
  | .operator o => g.getOperator? o = none

/-- The call is to put a variable that is not there in place of one that is there, into an output
slot of an operator that is there and has no output slot for the old variable. -/
def Overlooks (g : Graph) (c : Call) : Prop :=
  ∃ o old new p w, c = .rebindOutput o old new ∧ g.getOperator? o = some p ∧
    g.getVariable? old = some w ∧ (∀ slot, p.outputs.get? slot ≠ some old) ∧
    g.getVariable? new = none

/-- All of some nodes are there, or a result is the error for one that is not. -/
def Guarded {α : Type} (g : Graph) (nodes : List NodeId) (result : Except Failure α) : Prop :=
  (∀ n ∈ nodes, ¬ g.Lacks n) ∨ ∃ n ∈ nodes, g.Lacks n ∧ result = .error (.refused (.missing n))

variable {g : Graph} {role : Role} {o : OperatorId} {v : VariableId} {p : Operator} {w : Variable}
  {nodes : List NodeId}

/-- An operator that is found is there. -/
theorem not_lacks_operator (hp : g.getOperator? o = some p) : ¬ g.Lacks (.operator o) := by
  intro hnone
  rw [Lacks, hp] at hnone
  cases hnone

/-- A variable that is found is there. -/
theorem not_lacks_variable (hw : g.getVariable? v = some w) : ¬ g.Lacks (.variable v) := by
  intro hnone
  rw [Lacks, hw] at hnone
  cases hnone

namespace Guarded

variable {α β : Type} {r : Except Failure α}

/-- Where no nodes are named, none can be missing. -/
theorem nil (g : Graph) (r : Except Failure α) : g.Guarded [] r :=
  .inl fun _ hn => absurd hn List.not_mem_nil

/-- Wrapping the answer makes no difference. -/
theorem map (h : g.Guarded nodes r) (f : α → β) : g.Guarded nodes (r.map f) := by
  rcases h with hall | ⟨n, hn, hlacks, rfl⟩
  · exact .inl hall
  · exact .inr ⟨n, hn, hlacks, rfl⟩

/-- Where a node is missing, the result is the error for one that is. -/
theorem exists_missing (h : g.Guarded nodes r) (hn : ∃ n ∈ nodes, g.Lacks n) :
    ∃ n ∈ nodes, g.Lacks n ∧ r = .error (.refused (.missing n)) := by
  obtain ⟨n, hmem, hlacks⟩ := hn
  exact h.resolve_left fun hall => hall n hmem hlacks

/-- Where the result is an error that speaks of slots, no node is missing. -/
theorem not_lacks (h : g.Guarded nodes r) {e : GraphError} (he : r = .error (.refused e))
    (habout : e.isAboutSlots = true) : ∀ n ∈ nodes, ¬ g.Lacks n := by
  refine h.resolve_right ?_
  rintro ⟨n, -, -, hr⟩
  have hmissing : e = .missing n := Failure.refused.inj (Except.error.inj (he.symm.trans hr))
  rw [hmissing, GraphError.isAboutSlots_missing] at habout
  cases habout

end Guarded

/-- An operator and a variable that are found are there. -/
theorem forall_not_lacks (hp : g.getOperator? o = some p) (hw : g.getVariable? v = some w) :
    ∀ n ∈ [NodeId.operator o, .variable v], ¬ g.Lacks n := by
  simp only [List.forall_mem_cons, List.not_mem_nil, false_imp_iff, implies_true, and_true]
  exact ⟨not_lacks_operator hp, not_lacks_variable hw⟩

/-- So are an operator and two variables. -/
theorem forall_not_lacks_pair {u : VariableId} {x : Variable} (hp : g.getOperator? o = some p)
    (hw : g.getVariable? v = some w) (hx : g.getVariable? u = some x) :
    ∀ n ∈ [NodeId.operator o, .variable v, .variable u], ¬ g.Lacks n := by
  simp only [List.forall_mem_cons, List.not_mem_nil, false_imp_iff, implies_true, and_true]
  exact ⟨not_lacks_operator hp, not_lacks_variable hw, not_lacks_variable hx⟩

/-- No slot is found because a node is missing, or both are there. -/
theorem slotOf_error_cases {e : GraphError} (hs : g.slotOf role o v = .error e) :
    (∃ n ∈ [NodeId.operator o, .variable v], g.Lacks n ∧ e = .missing n) ∨
      ∃ w p, g.getVariable? v = some w ∧ g.getOperator? o = some p ∧ p.slot? role v = none ∧
        e = .notHeld role o v := by
  rcases slotOf_eq_error.1 hs with ⟨hw, rfl⟩ | ⟨w, -, hp, rfl⟩ | hfound
  · exact .inl ⟨.variable v, by simp, hw, rfl⟩
  · exact .inl ⟨.operator o, by simp, hp, rfl⟩
  · exact .inr hfound

/-- A call that fails because no slot is found is guarded. -/
theorem guarded_of_slotOf_error {α : Type} {e : GraphError} (hs : g.slotOf role o v = .error e) :
    g.Guarded [.operator o, .variable v] (.error (.refused e) : Except Failure α) := by
  rcases slotOf_error_cases hs with ⟨n, hn, hlacks, rfl⟩ | ⟨w, p, hw, hp, -, -⟩
  · exact .inr ⟨n, hn, hlacks, rfl⟩
  · exact .inl (forall_not_lacks hp hw)

end Graph

/-! ## The calls one by one -/

namespace Rules

variable {g : Graph} {role : Role} {o : OperatorId} {slot : String} {v old new : VariableId}

/-- Binding asks for both nodes first. -/
theorem Bind.guarded {out : Outcome Unit} (h : Bind g role o slot v out) :
    g.Guarded [.operator o, .variable v] out.result := by
  cases h with
  | noOperator hp => exact .inr ⟨.operator o, by simp, hp, rfl⟩
  | noVariable hp hw => exact .inr ⟨.variable v, by simp, hw, rfl⟩
  | same hp hw hs => exact .inl (Graph.forall_not_lacks hp hw)
  | occupied hp hw hs hne => exact .inl (Graph.forall_not_lacks hp hw)
  | conflict hp hw hs hr hq => exact .inl (Graph.forall_not_lacks hp hw)
  | bound hp hw hs hfree => exact .inl (Graph.forall_not_lacks hp hw)

/-- Unbinding asks for the slot, and that for both nodes. -/
theorem Unbind.guarded {out : Outcome Unit} (h : Unbind g role o v out) :
    g.Guarded [.operator o, .variable v] out.result := by
  cases h with
  | noSlot hs => exact Graph.guarded_of_slotOf_error hs
  | unbound hp hw hs => exact .inl (Graph.forall_not_lacks hp hw)

/-- So does asking for the slot alone. -/
theorem SlotOf.guarded {out : Outcome String} (h : SlotOf g role o v out) :
    g.Guarded [.operator o, .variable v] out.result := by
  cases h with
  | found hs =>
    obtain ⟨w, p, hw, hp, -⟩ := Graph.slotOf_eq_ok.1 hs
    exact .inl (Graph.forall_not_lacks hp hw)
  | noSlot hs => exact Graph.guarded_of_slotOf_error hs

/-- Rebinding an input asks for the new variable first, and then for the slot. -/
theorem RebindInput.guarded {out : Outcome Unit} (h : RebindInput g o old new out) :
    g.Guarded [.operator o, .variable old, .variable new] out.result := by
  cases h with
  | noVariable hx => exact .inr ⟨.variable new, by simp, hx, rfl⟩
  | noSlot hx hs =>
    rcases Graph.slotOf_error_cases hs with ⟨n, hn, hlacks, rfl⟩ | ⟨w, p, hw, hp, -, -⟩
    · exact .inr ⟨n, List.mem_append_left [NodeId.variable new] hn, hlacks, rfl⟩
    · exact .inl (Graph.forall_not_lacks_pair hp hw hx)
  | same hx hs he =>
    obtain ⟨w, p, hw, hp, -⟩ := Graph.slotOf_eq_ok.1 hs
    exact .inl (Graph.forall_not_lacks_pair hp hw hx)
  | rebound hp hw hx hs hne => exact .inl (Graph.forall_not_lacks_pair hp hw hx)

/-- Rebinding an output asks for the slot first. Where there is none it does not come to ask for
the new variable. -/
theorem RebindOutput.guarded {out : Outcome Unit} (h : RebindOutput g o old new out)
    (hseen : ¬ g.Overlooks (.rebindOutput o old new)) :
    g.Guarded [.operator o, .variable old, .variable new] out.result := by
  cases h with
  | noSlot hs =>
    rcases Graph.slotOf_error_cases hs with ⟨n, hn, hlacks, rfl⟩ | ⟨w, p, hw, hp, hslot, -⟩
    · exact .inr ⟨n, List.mem_append_left [NodeId.variable new] hn, hlacks, rfl⟩
    · cases hx : g.getVariable? new with
      | some x => exact .inl (Graph.forall_not_lacks_pair hp hw hx)
      | none =>
        have hnone : ∀ slot, p.outputs.get? slot ≠ some old := Operator.slot?_eq_none.1 hslot
        exact absurd ⟨o, old, new, p, w, rfl, hp, hw, hnone, hx⟩ hseen
  | same hs he =>
    obtain ⟨w, p, hw, hp, -⟩ := Graph.slotOf_eq_ok.1 hs
    exact .inl (Graph.forall_not_lacks_pair hp hw (he ▸ hw))
  | noVariable hs hne hx => exact .inr ⟨.variable new, by simp, hx, rfl⟩
  | conflict hs hne hx hq =>
    obtain ⟨w, p, hw, hp, -⟩ := Graph.slotOf_eq_ok.1 hs
    exact .inl (Graph.forall_not_lacks_pair hp hw hx)
  | rebound hp hw hx hs hne hfree => exact .inl (Graph.forall_not_lacks_pair hp hw hx)

/-- What is overlooked is reported as a slot that is missing. -/
theorem RebindOutput.result_of_overlooks {out : Outcome Unit} (h : RebindOutput g o old new out)
    (hover : g.Overlooks (.rebindOutput o old new)) :
    out.result = .error (.refused (.notAnOutput o old)) ∧ g.Lacks (.variable new) := by
  obtain ⟨_, _, _, p, w, hc, hp, hw, hnone, hx⟩ := hover
  cases hc
  have hslot : g.slotOf .output o old = .error (.notAnOutput o old) :=
    Graph.slotOf_eq_error.2 (.inr (.inr ⟨w, p, hw, hp, Operator.slot?_eq_none.2 hnone, rfl⟩))
  cases h with
  | noSlot hs =>
    rw [hslot] at hs
    cases hs
    exact ⟨rfl, hx⟩
  | same hs he => simp [hslot] at hs
  | noVariable hs hne hx' => simp [hslot] at hs
  | conflict hs hne hx' hq => simp [hslot] at hs
  | rebound hp' hw' hx' hs hne hfree =>
    rw [hx] at hx'
    cases hx'

end Rules

/-! ## All calls -/

namespace Call

variable {c : Call} {role : Role} {o : OperatorId} {slot : String} {v : VariableId}

/-- Binding names an operator and a variable. -/
theorem linkNodes_bind : (Call.bind role o slot v).linkNodes = [.operator o, .variable v] := by
  cases role <;> rfl

/-- So does unbinding. -/
theorem linkNodes_unbind : (Call.unbind role o v).linkNodes = [.operator o, .variable v] := by
  cases role <;> rfl

/-- So does asking for a slot. -/
theorem linkNodes_slotOf : (Call.slotOf role o v).linkNodes = [.operator o, .variable v] := by
  cases role <;> rfl

/-- A change of annotations names no node at the end of a link. -/
theorem linkNodes_of_annotation? {x : Annotation} (h : c.annotation? = some x) :
    c.linkNodes = [] := by
  cases c with
  | attach node a => rfl
  | detach node a => rfl
  | setParameter node name value => rfl
  | unsetParameter node name => rfl
  | _ => cases h

end Call

namespace Graph

variable {g : Graph} {c : Call}

/-- A call that overlooks nothing is guarded. -/
theorem guarded_of_not_overlooks (hseen : ¬ g.Overlooks c) :
    g.Guarded c.linkNodes (g.perform c).result := by
  have hperforms := performs g c
  generalize g.perform c = out at hperforms ⊢
  cases hperforms with
  | bind h =>
    rw [Call.linkNodes_bind]
    exact h.guarded.map _
  | unbind h =>
    rw [Call.linkNodes_unbind]
    exact h.guarded.map _
  | slotOf h =>
    rw [Call.linkNodes_slotOf]
    exact h.guarded.map _
  | rebindInput h => exact h.guarded.map _
  | rebindOutput h => exact (h.guarded hseen).map _
  | annotateVariable hc h =>
    rw [Call.linkNodes_of_annotation? hc]
    exact .nil g _
  | annotateOperator hc h =>
    rw [Call.linkNodes_of_annotation? hc]
    exact .nil g _
  | _ => exact .nil g _

/-- A call that overlooks a node speaks of a slot, although a node that it names is missing. -/
theorem result_of_overlooks (hover : g.Overlooks c) :
    (∃ e, (g.perform c).result = .error (.refused e) ∧ e.isAboutSlots = true) ∧
      ∃ n ∈ c.linkNodes, g.Lacks n := by
  obtain ⟨o, old, new, -, -, rfl, -⟩ := id hover
  have hrule := Edit.perform_rebindOutput.1 (rfl : (Edit.rebindOutput o old new).perform g = _)
  obtain ⟨hresult, hlacks⟩ := hrule.result_of_overlooks hover
  rw [perform_iff.2 (.rebindOutput hrule), Outcome.result_map, hresult]
  exact ⟨⟨_, rfl, rfl⟩, .variable new, by simp [Call.linkNodes], hlacks⟩

/-- On every graph, a call on links that names a node which is not there fails because of such a
node, and fails because of what slots hold only where all nodes that it names are there, unless it
is to put a variable that is not there in place of one that the operator does not write. In this
case, and in no other, it does not. -/
theorem guarded_iff (g : Graph) (c : Call) :
    (((∃ n ∈ c.linkNodes, g.Lacks n) →
        ∃ n ∈ c.linkNodes, g.Lacks n ∧ (g.perform c).result = .error (.refused (.missing n))) ∧
      ∀ e, (g.perform c).result = .error (.refused e) → e.isAboutSlots = true →
        ∀ n ∈ c.linkNodes, ¬ g.Lacks n) ↔
    ¬ g.Overlooks c := by
  constructor
  · rintro ⟨-, habout⟩ hover
    obtain ⟨⟨e, he, hslots⟩, n, hn, hlacks⟩ := result_of_overlooks hover
    exact habout e he hslots n hn hlacks
  · intro hseen
    have hguarded := guarded_of_not_overlooks hseen
    exact ⟨hguarded.exists_missing, fun e he habout => hguarded.not_lacks he habout⟩

/-- The graph with a variable and an operator that does not write it. -/
def idle : Graph := Graph.run ∅ [.addVariable [4] .c, .addOperator "neg" ∅]

/-- Putting a variable that is not there in place of the one that is there is refused because of
the slot. -/
theorem not_guarded_idle :
    ¬ ∀ (g : Graph) (c : Call),
      ((∃ n ∈ c.linkNodes, g.Lacks n) →
        ∃ n ∈ c.linkNodes, g.Lacks n ∧ (g.perform c).result = .error (.refused (.missing n))) ∧
      ∀ e, (g.perform c).result = .error (.refused e) → e.isAboutSlots = true →
        ∀ n ∈ c.linkNodes, ¬ g.Lacks n := by
  intro h
  have hresult : (idle.perform (.rebindOutput ⟨0⟩ ⟨0⟩ ⟨1⟩)).result =
      .error (.refused (.notAnOutput ⟨0⟩ ⟨0⟩)) := by decide +kernel
  have hlacks : idle.Lacks (.variable ⟨1⟩) := by
    show idle.getVariable? ⟨1⟩ = none
    decide +kernel
  exact (h idle (.rebindOutput ⟨0⟩ ⟨0⟩ ⟨1⟩)).2 _ hresult rfl (.variable ⟨1⟩)
    (by simp [Call.linkNodes]) hlacks

end Graph

end TensorGraph
