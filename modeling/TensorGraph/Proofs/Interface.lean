import TensorGraph.Proofs.Runs

/-!
# What the interface of a graph says about its slots

The lists of an interface are filled from what the variables know of their links. In a graph that is
keyed and consistent this is what the slots of the operators hold, so that the lists can be read as
statements about slots: a variable is left over when no slot holds it, it comes in when some input
slot and no output slot holds it, and it goes out when it is the other way round. Every variable
stands in one of these ways, or it is held on both sides and lies inside the graph.
-/

namespace TensorGraph.Graph

/-! ## Definitions -/

/-- Some slot of one side of some operator holds the variable. -/
def OnSide (g : Graph) (role : Role) (v : VariableId) : Prop := ∃ o slot, g.HoldsAt role o slot v

/-- A list has exactly the ids with a property, each of them once and in ascending order. -/
structure Lists (ids : List VariableId) (P : VariableId → Prop) : Prop where
  /-- Each id is smaller than those that follow it. -/
  ascending : ids.Pairwise (· < ·)
  /-- The ids are those with the property. -/
  mem_iff : ∀ v, v ∈ ids ↔ P v

/-- The ways in which a variable can stand in a graph. -/
inductive Standing where
  /-- The variable is left over. -/
  | loose
  /-- The variable comes into the graph. -/
  | entering
  /-- The variable goes out of the graph. -/
  | leaving
  /-- The variable is written and read inside the graph. -/
  | inner
deriving DecidableEq

/-- Where a variable that stands in one way is to be found: in a list of the interface, or on both
sides of operators. -/
def Stands (g : Graph) (v : VariableId) : Standing → Prop
  | .loose => v ∈ g.unlinked
  | .entering => (v, v) ∈ g.inputLinks
  | .leaving => (v, v) ∈ g.outputLinks
  | .inner => g.OnSide .input v ∧ g.OnSide .output v

variable {g : Graph} {role : Role} {v : VariableId} {w : Variable}

/-! ## The lists -/

/-- Ids that ascend strictly are left in place when they are sorted. -/
theorem sortIds_of_ascending {kind : NodeKind} {ids : List (Id kind)}
    (h : ids.Pairwise (· < ·)) : sortIds ids = ids := by
  -- The order of sorting is that of the numbers, with equal ones left in place.
  refine List.mergeSort_of_pairwise (h.imp fun {i j} hlt => ?_)
  have hle : i.toNat ≤ j.toNat := Nat.le_of_lt (Id.lt_iff.1 hlt)
  exact decide_eq_true hle

/-- The ids under which variables with a property are stored are listed in ascending order. -/
theorem lists_idsWhere (g : Graph) (p : Variable → Bool) :
    Lists (g.idsWhere p) fun v => ∃ w, g.getVariable? v = some w ∧ p w = true where
  ascending := by
    rw [idsWhere, List.pairwise_map]
    exact g.vars.sorted.filter _
  mem_iff v := by
    simp only [idsWhere, List.mem_map, List.mem_filter]
    constructor
    · rintro ⟨⟨key, w⟩, ⟨he, hp⟩, rfl⟩
      exact ⟨w, SortedMap.mem_toList.1 he, hp⟩
    · rintro ⟨w, hw, hp⟩
      exact ⟨(v, w), ⟨SortedMap.mem_toList.2 hw, hp⟩, rfl⟩

/-- Where variables are stored under their own ids, those that are left over are listed by the ids
under which they are stored. -/
theorem Keyed.unlinked_eq (h : g.Keyed) : g.unlinked = g.idsWhere (·.isUnlinked) := by
  have hown : (g.vars.values.filter (·.isUnlinked)).map (·.id) = g.idsWhere (·.isUnlinked) := by
    rw [SortedMap.values, List.filter_map, List.map_map, idsWhere]
    refine List.map_congr_left fun e he => ?_
    have hstored : g.getVariable? e.1 = some e.2 :=
      SortedMap.mem_toList.1 (List.mem_of_mem_filter he)
    exact h.vars hstored
  rw [unlinked, hown, sortIds_of_ascending (lists_idsWhere g _).ascending]

/-- A list of ids with a property is also one for every property that says the same. -/
theorem Lists.congr {ids : List VariableId} {P Q : VariableId → Prop} (h : Lists ids P)
    (hiff : ∀ v, P v ↔ Q v) : Lists ids Q :=
  ⟨h.ascending, fun v => (h.mem_iff v).trans (hiff v)⟩

/-- No id is listed twice. -/
theorem Lists.nodup {ids : List VariableId} {P : VariableId → Prop} (h : Lists ids P) : ids.Nodup :=
  h.ascending.imp Key.ne_of_lt

/-- There is one list of the ids with a property. -/
theorem Lists.unique {ids ids' : List VariableId} {P : VariableId → Prop} (h : Lists ids P)
    (h' : Lists ids' P) : ids = ids' := by
  have hperm : ids.Perm ids' := (List.perm_ext_iff_of_nodup h.nodup h'.nodup).2 fun v =>
    (h.mem_iff v).trans (h'.mem_iff v).symm
  exact hperm.eq_of_pairwise (fun _ _ _ _ hlt hgt => absurd hgt (Key.asymm hlt)) h.ascending
    h'.ascending

/-- The ids of the variables are those under which one is stored. -/
theorem lists_variableIds (g : Graph) :
    Lists g.variableIds fun v => ∃ w, g.getVariable? v = some w :=
  ⟨g.vars.keys_sorted, fun _ => SortedMap.mem_keys⟩

/-- An id is paired with itself where it is listed. -/
theorem mem_map_pair {ids : List VariableId} : (v, v) ∈ ids.map (fun u => (u, u)) ↔ v ∈ ids := by
  rw [List.mem_map]
  exact ⟨fun ⟨u, hu, he⟩ => (Prod.mk.inj he).1 ▸ hu, fun hv => ⟨v, hv, rfl⟩⟩

/-! ## Slots -/

/-- A variable knows of an operator on one side when some slot on that side holds it. -/
theorem Consistent.onSide_iff (h : g.Consistent) (hw : g.getVariable? v = some w) :
    g.OnSide role v ↔ ∃ o, w.LinkedTo role o :=
  exists_congr fun o => (h.linked hw role o).symm

/-- A variable that a slot holds is in the graph. -/
theorem Consistent.of_onSide (h : g.Consistent) (hv : g.OnSide role v) :
    ∃ w, g.getVariable? v = some w := by
  obtain ⟨o, hheld⟩ := hv
  exact h.stored hheld

/-- The variables that are left over are those that no slot holds. -/
theorem Consistent.lists_unlinked (h : g.Consistent) (hkeyed : g.Keyed) :
    Lists g.unlinked fun v =>
      (∃ w, g.getVariable? v = some w) ∧ ∀ role, ¬ g.OnSide role v := by
  rw [hkeyed.unlinked_eq]
  refine (lists_idsWhere g _).congr fun v => ?_
  rw [← exists_and_right]
  refine exists_congr fun w => and_congr_right fun hw => ?_
  simp only [Variable.isUnlinked_iff, h.onSide_iff hw, not_exists]

/-- The variables that come in are those that some input slot and no output slot holds. -/
theorem Consistent.lists_inputs (h : g.Consistent) :
    Lists g.inputs fun v => g.OnSide .input v ∧ ¬ g.OnSide .output v := by
  refine (lists_idsWhere g _).congr fun v => ⟨?_, ?_⟩
  · rintro ⟨w, hw, hin⟩
    rw [h.onSide_iff hw, h.onSide_iff hw]
    exact Variable.isGraphInput_iff.1 hin
  · rintro ⟨hread, hunwritten⟩
    obtain ⟨w, hw⟩ := h.of_onSide hread
    rw [h.onSide_iff hw] at hread hunwritten
    exact ⟨w, hw, Variable.isGraphInput_iff.2 ⟨hread, hunwritten⟩⟩

/-- The variables that go out are those that some output slot and no input slot holds. -/
theorem Consistent.lists_outputs (h : g.Consistent) :
    Lists g.outputs fun v => g.OnSide .output v ∧ ¬ g.OnSide .input v := by
  refine (lists_idsWhere g _).congr fun v => ⟨?_, ?_⟩
  · rintro ⟨w, hw, hout⟩
    rw [h.onSide_iff hw, h.onSide_iff hw]
    exact Variable.isGraphOutput_iff.1 hout
  · rintro ⟨hwritten, hunread⟩
    obtain ⟨w, hw⟩ := h.of_onSide hwritten
    rw [h.onSide_iff hw] at hwritten hunread
    exact ⟨w, hw, Variable.isGraphOutput_iff.2 ⟨hwritten, hunread⟩⟩

/-- Every variable stands in exactly one way. -/
theorem Consistent.existsUnique_stands (h : g.Consistent) (hkeyed : g.Keyed)
    (hw : g.getVariable? v = some w) : ∃! s, g.Stands v s := by
  have hloose : g.Stands v .loose ↔ ∀ role, ¬ g.OnSide role v :=
    ((h.lists_unlinked hkeyed).mem_iff v).trans (and_iff_right ⟨w, hw⟩)
  have hentering : g.Stands v .entering ↔ g.OnSide .input v ∧ ¬ g.OnSide .output v :=
    mem_map_pair.trans (h.lists_inputs.mem_iff v)
  have hleaving : g.Stands v .leaving ↔ g.OnSide .output v ∧ ¬ g.OnSide .input v :=
    mem_map_pair.trans (h.lists_outputs.mem_iff v)
  have hinner : g.Stands v .inner ↔ g.OnSide .input v ∧ g.OnSide .output v := Iff.rfl
  -- The two sides on which the variable may be held decide how it stands.
  by_cases hread : g.OnSide .input v <;> by_cases hwritten : g.OnSide .output v
  · refine ⟨.inner, hinner.2 ⟨hread, hwritten⟩, fun s hs => ?_⟩
    cases s with
    | loose => exact absurd hread (hloose.1 hs .input)
    | entering => exact absurd hwritten (hentering.1 hs).2
    | leaving => exact absurd hread (hleaving.1 hs).2
    | inner => rfl
  · refine ⟨.entering, hentering.2 ⟨hread, hwritten⟩, fun s hs => ?_⟩
    cases s with
    | loose => exact absurd hread (hloose.1 hs .input)
    | entering => rfl
    | leaving => exact absurd hread (hleaving.1 hs).2
    | inner => exact absurd (hinner.1 hs).2 hwritten
  · refine ⟨.leaving, hleaving.2 ⟨hwritten, hread⟩, fun s hs => ?_⟩
    cases s with
    | loose => exact absurd hwritten (hloose.1 hs .output)
    | entering => exact absurd hwritten (hentering.1 hs).2
    | leaving => rfl
    | inner => exact absurd (hinner.1 hs).1 hread
  · have hnone : ∀ role, ¬ g.OnSide role v := fun role => by cases role <;> assumption
    refine ⟨.loose, hloose.2 hnone, fun s hs => ?_⟩
    cases s with
    | loose => rfl
    | entering => exact absurd (hentering.1 hs).1 hread
    | leaving => exact absurd (hleaving.1 hs).1 hwritten
    | inner => exact absurd (hinner.1 hs).1 hread

/-! ## All histories -/

/-- After every history that starts with the empty graph, the variables that are left over are
listed in ascending order and are those that no slot holds; the links into the graph list in
ascending order the variables that some input slot and no output slot holds, each paired with
itself; the links out of the graph do so for some output slot and no input slot; and every variable
stands in exactly one way. -/
theorem run_empty_interface (calls : List Call) :
    let g := (∅ : Graph).run calls
    (Lists g.unlinked fun v =>
      (∃ w, g.getVariable? v = some w) ∧ ∀ role, ¬ g.OnSide role v) ∧
    (∃ ids, g.inputLinks = ids.map (fun v => (v, v)) ∧
      Lists ids fun v => g.OnSide .input v ∧ ¬ g.OnSide .output v) ∧
    (∃ ids, g.outputLinks = ids.map (fun v => (v, v)) ∧
      Lists ids fun v => g.OnSide .output v ∧ ¬ g.OnSide .input v) ∧
    ∀ v w, g.getVariable? v = some w → ∃! s, g.Stands v s := by
  intro g
  have hkeyed : g.Keyed := run_invariant keyed_empty (fun h hs => h.step hs) calls
  have hcons : g.Consistent := consistent_empty.run keysBelow_empty calls
  refine ⟨hcons.lists_unlinked hkeyed, ?_, ?_, ?_⟩
  · exact ⟨g.inputs, rfl, hcons.lists_inputs⟩
  · exact ⟨g.outputs, rfl, hcons.lists_outputs⟩
  · exact fun v w hw => hcons.existsUnique_stands hkeyed hw

/-- Two operators in a row, and a variable beside them. -/
def chainCalls : List Call :=
  [.addVariable [2] .c, .addVariable [2] .c, .addVariable [2] .c, .addVariable [2] .c,
    .addOperator "f" ∅, .addOperator "g" ∅, .bindInput ⟨0⟩ "x" ⟨2⟩, .bindOutput ⟨0⟩ "y" ⟨1⟩,
    .bindInput ⟨1⟩ "x" ⟨1⟩, .bindOutput ⟨1⟩ "y" ⟨0⟩]

/-- The graph with two operators in a row. -/
def chain : Graph := Graph.run ∅ chainCalls

/-- The row is entered at the variable that the first operator reads, which no operator writes. The
variable between the operators stands inside, and in no other way. -/
theorem run_empty_interface_chain :
    chain.inputLinks = [(⟨2⟩, ⟨2⟩)] ∧ chain.OnSide .input ⟨2⟩ ∧ ¬ chain.OnSide .output ⟨2⟩ ∧
    chain.outputLinks = [(⟨0⟩, ⟨0⟩)] ∧
    (∃ w, chain.getVariable? ⟨1⟩ = some w) ∧ ∃! s, chain.Stands ⟨1⟩ s := by
  obtain ⟨-, ⟨ids, hids, hentering⟩, -, hstands⟩ := run_empty_interface chainCalls
  have hinputs : chain.inputLinks = [(⟨2⟩, ⟨2⟩)] := by decide +kernel
  have houtputs : chain.outputLinks = [(⟨0⟩, ⟨0⟩)] := by decide +kernel
  obtain ⟨w, hw⟩ : ∃ w, chain.getVariable? ⟨1⟩ = some w :=
    Option.isSome_iff_exists.1 (by decide +kernel)
  have hlisted : (⟨2⟩, ⟨2⟩) ∈ chain.inputLinks := by
    rw [hinputs]
    exact List.mem_singleton_self _
  have hmem : (⟨2⟩ : VariableId) ∈ ids := mem_map_pair.1 (hids ▸ hlisted)
  obtain ⟨hread, hunwritten⟩ := (hentering.mem_iff ⟨2⟩).1 hmem
  exact ⟨hinputs, hread, hunwritten, houtputs, ⟨w, hw⟩, hstands ⟨1⟩ w hw⟩

end TensorGraph.Graph
