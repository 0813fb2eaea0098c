import TensorGraph.Proofs.Replacement

/-!
# Emptying all slots that hold a variable

The calls that empty an input slot and that put another variable into one name the variable and not
the slot. Repeating such a call goes through the slots that hold the variable, in the order of their
names, until there is none left: each call changes the first slot that still holds the variable, and
the slots that follow are those that are left (`ReadsAt.tail`). So it succeeds as often as there are
slots and fails after that, and the operator reads the variable until the last one has changed
(`Ready.drains`).

The two calls differ in what the slots hold afterwards, nothing or the other variable, and this is a
parameter. The other variable may be in some input slots of the operator from the start.
-/

namespace TensorGraph.Graph

/-! ## Definitions -/

/-- A list has exactly the input slots of an operator that hold a variable, in ascending order. -/
structure ReadsAt (g : Graph) (o : OperatorId) (v : VariableId) (slots : List String) : Prop where
  /-- Each slot goes before those that follow it. -/
  ascending : slots.Pairwise (· < ·)
  /-- The slots are those that hold the variable. -/
  mem_iff : ∀ s, s ∈ slots ↔ g.HoldsAt .input o s v

/-- The input slots of an operator in a list hold `content` in the graph `g'`, and all other slots
of all operators hold what they hold in `g`. -/
def Refilled (g g' : Graph) (o : OperatorId) (slots : List String) (content : Option VariableId) :
    Prop :=
  ∀ r o' s u, g'.HoldsAt r o' s u ↔
    if r = .input ∧ o' = o ∧ s ∈ slots then content = some u else g.HoldsAt r o' s u

/-- Repeating a call goes through the input slots of an operator that hold a variable. -/
structure Drains (g : Graph) (c : Call) (o : OperatorId) (v : VariableId) (slots : List String)
    (content : Option VariableId) : Prop where
  /-- The call succeeds once for each slot. So many calls have changed so many of the first slots
  and no others, and the operator reads the variable while there are slots left. -/
  succeeds : ∀ i ≤ slots.length, ∃ g' w, g.attemptAll (List.replicate i c) = .ok g' ∧
    g.Refilled g' o (slots.take i) content ∧ g'.getVariable? v = some w ∧
    (o ∈ w.consumers ↔ i < slots.length)
  /-- After that it fails, since no slot holds the variable. -/
  fails : g.attemptAll (List.replicate (slots.length + 1) c) =
    .error (.refused (.notAnInput o v))

/-- A consistent graph with an operator and two variables, which may be one. -/
structure Ready (g : Graph) (o : OperatorId) (v u : VariableId) : Prop where
  /-- Operators and variables agree about their links. -/
  consistent : g.Consistent
  /-- The operator is there. -/
  operator : ∃ p, g.getOperator? o = some p
  /-- The one variable is there. -/
  source : ∃ w, g.getVariable? v = some w
  /-- The other variable is there. -/
  target : ∃ x, g.getVariable? u = some x

/-- A call changes the first input slot of an operator that holds a variable, and fails where no
slot holds it. -/
structure Advances (c : Call) (o : OperatorId) (v u : VariableId) (content : Option VariableId) :
    Prop where
  /-- What the slot holds afterwards is not the variable. -/
  content_ne : content ≠ some v
  /-- The slot that is found for the variable is the one that changes. -/
  step : ∀ {g : Graph} {slot}, g.Ready o v u → g.slotOf .input o v = .ok slot →
    ∃ g', g.attempt c = .ok g' ∧ g'.Ready o v u ∧ g.Refilled g' o [slot] content
  /-- Where no slot is found the call fails for that reason. -/
  stop : ∀ {g : Graph} {e}, g.Ready o v u → g.slotOf .input o v = .error e →
    g.attempt c = .error (.refused e)

variable {g g₁ g' : Graph} {o : OperatorId} {slot : String} {slots rest : List String}
  {u v : VariableId} {p : Operator} {w x : Variable} {content : Option VariableId} {c : Call}

/-! ## The slots that hold a variable -/

/-- The slots of a stored operator that hold a variable are listed by its slot map. -/
theorem readsAt_keysOf (hp : g.getOperator? o = some p) (v : VariableId) :
    g.ReadsAt o v (p.inputs.keysOf v) where
  ascending := p.inputs.keysOf_sorted v
  mem_iff := by
    intro s
    rw [SortedMap.mem_keysOf, holdsAt_iff hp]
    rfl

namespace ReadsAt

/-- The first slot that holds the variable is the one that is found. -/
theorem slotOf_eq_ok (h : g.ReadsAt o v (slot :: rest)) (hp : g.getOperator? o = some p)
    (hw : g.getVariable? v = some w) : g.slotOf .input o v = .ok slot := by
  refine Graph.slotOf_eq_ok.2 ⟨w, p, hw, hp, Operator.slot?_eq_some.2 ⟨?_, fun s hs => ?_⟩⟩
  · exact (holdsAt_iff hp).1 ((h.mem_iff slot).1 List.mem_cons_self)
  · rcases List.mem_cons.1 ((h.mem_iff s).2 ((holdsAt_iff hp).2 hs)) with rfl | hmem
    · exact Key.irrefl s
    · exact Key.asymm ((List.pairwise_cons.1 h.ascending).1 s hmem)

/-- No slot is found where none holds the variable. -/
theorem slotOf_eq_error (h : g.ReadsAt o v []) (hp : g.getOperator? o = some p)
    (hw : g.getVariable? v = some w) : g.slotOf .input o v = .error (.notAnInput o v) := by
  refine Graph.slotOf_eq_error.2 (.inr (.inr ⟨w, p, hw, hp, Operator.slot?_eq_none.2 ?_, rfl⟩))
  intro s hs
  exact List.not_mem_nil ((h.mem_iff s).2 ((holdsAt_iff hp).2 hs))

/-- In a consistent graph, the operator reads the variable while there are slots that hold it. -/
theorem mem_consumers_iff (h : g.ReadsAt o v slots) (hcons : g.Consistent)
    (hw : g.getVariable? v = some w) : o ∈ w.consumers ↔ slots ≠ [] := by
  have hheld : o ∈ w.consumers ↔ ∃ s, s ∈ slots :=
    (hcons.linked hw .input o).trans (exists_congr fun s => (h.mem_iff s).symm)
  rw [hheld, ne_eq, List.eq_nil_iff_forall_not_mem, Classical.not_forall_not]

/-- When the first slot holds something else, the slots that follow it are left. -/
theorem tail (h : g.ReadsAt o v (slot :: rest)) (hchange : g.Refilled g' o [slot] content)
    (hcontent : content ≠ some v) : g'.ReadsAt o v rest where
  ascending := (List.pairwise_cons.1 h.ascending).2
  mem_iff := by
    intro s
    have hfirst : slot ∉ rest := fun hmem =>
      Key.irrefl slot ((List.pairwise_cons.1 h.ascending).1 slot hmem)
    rw [hchange]
    by_cases hs : s = slot
    · simp [hs, hfirst, hcontent]
    · simp [hs, ← h.mem_iff]

end ReadsAt

namespace Refilled

/-- Where no slot changes, all hold what they held. -/
theorem nil (g : Graph) (o : OperatorId) (content : Option VariableId) :
    g.Refilled g o [] content := by
  intro r o' s u
  simp

/-- Slots change one after the other. -/
theorem cons (h : g.Refilled g₁ o [slot] content) (h' : g₁.Refilled g' o slots content) :
    g.Refilled g' o (slot :: slots) content := by
  intro r o' s u
  rw [h', h]
  by_cases hs : s = slot <;> by_cases hmem : s ∈ slots <;> by_cases hat : r = .input ∧ o' = o <;>
    simp_all

/-- In a consistent graph, an operator reads a variable that some slots have taken. -/
theorem mem_consumers (h : g.Refilled g' o slots (some u)) (hslots : slots ≠ [])
    (hcons : g'.Consistent) (hx : g'.getVariable? u = some x) : o ∈ x.consumers := by
  obtain ⟨s, hs⟩ := List.exists_mem_of_ne_nil slots hslots
  have hheld : g'.HoldsAt .input o s u := by
    rw [h, if_pos ⟨rfl, rfl, hs⟩]
  exact (hcons.linked hx .input o).2 ⟨s, hheld⟩

end Refilled

/-! ## The two calls -/

/-- What was found before an update is found after it, if only as the update has made it. -/
theorem exists_some_of_update {κ α : Type} [DecidableEq κ] {f : κ → Option α} {k k' : κ} {a : α}
    (h : ∃ b, f k = some b) : ∃ b, (if k = k' then some a else f k) = some b := by
  split
  · exact ⟨a, rfl⟩
  · exact h

/-- Emptying the first slot that holds the variable leaves a graph in which it can be done again. -/
theorem Ready.unbound (h : g.Ready o v u) (hp : g.getOperator? o = some p)
    (hw : g.getVariable? v = some w) (hs : p.slot? .input v = some slot) :
    (g.unbound .input o slot p v w).Ready o v u where
  consistent := h.consistent.unbind hp hw (Operator.get?_of_slot? hs)
  operator := ⟨_, getOperator?_unbound_self g .input o slot p v w⟩
  source := by
    rw [getVariable?_unbound]
    exact exists_some_of_update h.source
  target := by
    rw [getVariable?_unbound]
    exact exists_some_of_update h.target

/-- Filling an empty slot with the other variable leaves a graph of the same kind. -/
theorem Ready.bound (h : g.Ready o v u) (hp : g.getOperator? o = some p)
    (hx : g.getVariable? u = some x) (hs : (p.slots .input).get? slot = none) :
    (g.bound .input o slot p u x).Ready o v u where
  consistent := h.consistent.bind hp hx hs fun hr => by cases hr
  operator := by
    rw [getOperator?_bound]
    exact exists_some_of_update h.operator
  source := by
    rw [getVariable?_bound]
    exact exists_some_of_update h.source
  target := by
    rw [getVariable?_bound]
    exact exists_some_of_update h.target

/-- Emptying a slot changes the first slot that holds the variable. -/
theorem advances_unbindInput (o : OperatorId) (v u : VariableId) :
    Advances (.unbindInput o v) o v u none where
  content_ne := (Option.some_ne_none v).symm
  step := by
    intro g slot h hfound
    obtain ⟨w, p, hw, hp, hs⟩ := slotOf_eq_ok.1 hfound
    refine ⟨_, attempt_unbind hp hw hs, h.unbound hp hw hs, fun r o' s u => ?_⟩
    rw [holdsAt_unbound hp]
    simp only [List.mem_singleton]
    split
    · next hat => simp [hat]
    · next hat => exact and_iff_left hat
  stop := fun _ hnone => attempt_unbind_of_error hnone

/-- Where no input slot is found for a variable that another one, which is there, is to replace, the
call fails for that reason. -/
theorem attempt_rebindInput_of_error {e : GraphError} (hx : g.getVariable? u = some x)
    (hs : g.slotOf .input o v = .error e) :
    g.attempt (.rebindInput o v u) = .error (.refused e) := by
  rw [attempt_of_rule (.rebindInput (.noSlot hx hs))]
  rfl

/-- Putting another variable into a slot changes the first slot that holds the variable. -/
theorem advances_rebindInput (o : OperatorId) (hne : v ≠ u) :
    Advances (.rebindInput o v u) o v u (some u) where
  content_ne := fun heq => hne (Option.some.inj heq).symm
  step := by
    intro g slot h hfound
    obtain ⟨w, p, hw, hp, hs⟩ := slotOf_eq_ok.1 hfound
    obtain ⟨x, hx⟩ := h.target
    have hempty := p.get?_clearSlot_self .input slot
    have hx₁ : (g.unbound .input o slot p v w).getVariable? u = some x := by
      rw [getVariable?_unbound, if_neg hne.symm, hx]
    have hmiddle : (g.unbound .input o slot p v w).Ready o v u := h.unbound hp hw hs
    have hfree : Role.input = .output → x.producer = none := fun hr => by cases hr
    refine ⟨_, attempt_rebind_of_free hp hw hx hs hne hfree,
      hmiddle.bound (getOperator?_unbound_self ..) hx₁ hempty, fun r o' s y => ?_⟩
    rw [holdsAt_bound_unbound hp]
    simp only [List.mem_singleton, Option.some.injEq, eq_comm]
  stop := by
    intro g e h hnone
    obtain ⟨x, hx⟩ := h.target
    exact attempt_rebindInput_of_error hx hnone

/-! ## Repeated calls -/

namespace Advances

/-- As many calls as there are slots succeed. They change so many of the first slots, and those that
follow are left. -/
theorem exists_attemptAll (hc : Advances c o v u content) (h : g.Ready o v u)
    (hslots : g.ReadsAt o v slots) {i : Nat} (hi : i ≤ slots.length) :
    ∃ g', g.attemptAll (List.replicate i c) = .ok g' ∧ g'.Ready o v u ∧
      g.Refilled g' o (slots.take i) content ∧ g'.ReadsAt o v (slots.drop i) := by
  -- The slots that are left after the first call are those that follow the first slot.
  induction i generalizing g slots with
  | zero => exact ⟨g, attemptAll_nil g, h, .nil g o content, hslots⟩
  | succ i ih =>
    obtain ⟨slot, rest, rfl⟩ := List.exists_cons_of_length_pos (Nat.zero_lt_of_lt hi)
    obtain ⟨p, hp⟩ := h.operator
    obtain ⟨w, hw⟩ := h.source
    obtain ⟨g₁, hfirst, hready, hchange⟩ := hc.step h (hslots.slotOf_eq_ok hp hw)
    have hleft : g₁.ReadsAt o v rest := hslots.tail hchange hc.content_ne
    obtain ⟨g', hrest, hready', hchanges, hleft'⟩ := ih hready hleft (Nat.le_of_succ_le_succ hi)
    exact ⟨g', attemptAll_cons_eq_ok.2 ⟨g₁, hfirst, hrest⟩, hready', hchange.cons hchanges, hleft'⟩

/-- Repeating the call goes through the slots that hold the variable. -/
theorem drains (hc : Advances c o v u content) (h : g.Ready o v u)
    (hslots : g.ReadsAt o v slots) : g.Drains c o v slots content where
  succeeds := by
    intro i hi
    obtain ⟨g', hall, hready, hchanges, hleft⟩ := hc.exists_attemptAll h hslots hi
    obtain ⟨w, hw⟩ := hready.source
    refine ⟨g', w, hall, hchanges, hw, (hleft.mem_consumers_iff hready.consistent hw).trans ?_⟩
    rw [ne_eq, List.drop_eq_nil_iff, Nat.not_le]
  fails := by
    obtain ⟨g', hall, hready, -, hleft⟩ := hc.exists_attemptAll h hslots (Nat.le_refl _)
    obtain ⟨p, hp⟩ := hready.operator
    obtain ⟨w, hw⟩ := hready.source
    rw [List.drop_length] at hleft
    rw [List.replicate_succ', attemptAll_append, hall]
    exact attemptAll_cons_of_error (hc.stop hready (hleft.slotOf_eq_error hp hw))

end Advances

/-- After every history that starts with the empty graph, take an operator and a variable that are
there, and the input slots of the operator that hold the variable, in ascending order. Emptying the
first slot again and again goes through these slots: it succeeds once for each of them and fails
after that, and the operator reads the variable until the last slot is empty. So does putting
another variable that is there in its place, and this one is read from the first success on. -/
theorem run_empty_drain (calls : List Call) (o : OperatorId) (v : VariableId) (p : Operator)
    (w : Variable) (hp : ((∅ : Graph).run calls).getOperator? o = some p)
    (hw : ((∅ : Graph).run calls).getVariable? v = some w) :
    let g := (∅ : Graph).run calls
    let slots := p.inputs.keysOf v
    g.ReadsAt o v slots ∧
    g.Drains (.unbindInput o v) o v slots none ∧
    ∀ u x, g.getVariable? u = some x → u ≠ v →
      g.Drains (.rebindInput o v u) o v slots (some u) ∧
      ∀ i, 0 < i → i ≤ slots.length →
        ∃ g' x', g.attemptAll (List.replicate i (.rebindInput o v u)) = .ok g' ∧
          g'.getVariable? u = some x' ∧ o ∈ x'.consumers := by
  intro g slots
  have hcons : g.Consistent := consistent_empty.run keysBelow_empty calls
  have hslots : g.ReadsAt o v slots := readsAt_keysOf hp v
  refine ⟨hslots, ?_, fun u x hx hne => ?_⟩
  · have hready : g.Ready o v v := ⟨hcons, ⟨p, hp⟩, ⟨w, hw⟩, ⟨w, hw⟩⟩
    exact (advances_unbindInput o v v).drains hready hslots
  · have hready : g.Ready o v u := ⟨hcons, ⟨p, hp⟩, ⟨w, hw⟩, ⟨x, hx⟩⟩
    have hc := advances_rebindInput o hne.symm
    refine ⟨hc.drains hready hslots, fun i hpos hi => ?_⟩
    obtain ⟨g', hall, hready', hchanges, -⟩ := hc.exists_attemptAll hready hslots hi
    obtain ⟨x', hx'⟩ := hready'.target
    have hsome : slots.take i ≠ [] := by
      rw [ne_eq, List.take_eq_nil_iff, ← List.length_eq_zero_iff]
      omega
    exact ⟨g', x', hall, hx', hchanges.mem_consumers hsome hready'.consistent hx'⟩

/-- The operator reads the first variable in the slots `a` and `b`. A third call finds no slot to
empty. Where the second variable, which it reads in the slot `c`, takes the place of the first one
once, that is in the slot `a`. -/
theorem run_empty_drain_shared :
    ∃ p w x, shared.getOperator? ⟨0⟩ = some p ∧ shared.getVariable? ⟨0⟩ = some w ∧
      shared.getVariable? ⟨1⟩ = some x ∧ p.inputs.keysOf ⟨0⟩ = ["a", "b"] ∧
      shared.attemptAll [.unbindInput ⟨0⟩ ⟨0⟩, .unbindInput ⟨0⟩ ⟨0⟩, .unbindInput ⟨0⟩ ⟨0⟩] =
        .error (.refused (.notAnInput ⟨0⟩ ⟨0⟩)) ∧
      ∃ g', shared.attemptAll [.rebindInput ⟨0⟩ ⟨0⟩ ⟨1⟩] = .ok g' ∧
        g'.HoldsAt .input ⟨0⟩ "a" ⟨1⟩ ∧ g'.HoldsAt .input ⟨0⟩ "b" ⟨0⟩ := by
  obtain ⟨p, hp, hkeys⟩ : ∃ p, shared.getOperator? ⟨0⟩ = some p ∧
      p.inputs.keysOf ⟨0⟩ = ["a", "b"] := Option.map_eq_some_iff.1 (by decide +kernel)
  obtain ⟨w, hw⟩ : ∃ w, shared.getVariable? ⟨0⟩ = some w :=
    Option.isSome_iff_exists.1 (by decide +kernel)
  obtain ⟨x, hx⟩ : ∃ x, shared.getVariable? ⟨1⟩ = some x :=
    Option.isSome_iff_exists.1 (by decide +kernel)
  have hheld : shared.HoldsAt .input ⟨0⟩ "b" ⟨0⟩ := Option.bind_eq_some_iff.1 (by decide +kernel)
  obtain ⟨-, hempty, hother⟩ := run_empty_drain sharedCalls ⟨0⟩ ⟨0⟩ p w hp hw
  rw [hkeys] at hempty hother
  obtain ⟨hreplace, -⟩ := hother ⟨1⟩ x hx (by decide)
  obtain ⟨g', -, hall, hchanges, -⟩ := hreplace.succeeds 1 (by decide)
  refine ⟨p, w, x, hp, hw, hx, hkeys, hempty.fails, g', hall, ?_, ?_⟩
  · rw [hchanges, if_pos (by decide)]
  · rw [hchanges, if_neg (by decide)]
    exact hheld

end TensorGraph.Graph
