import TensorGraph.Proofs.Changes

/-!
# Graphs that a program can get hold of

A program starts with the empty graph or with the graph of a snapshot, in which the nodes may say
anything about each other, and goes on with calls that succeed or fail. All variables of all of
these graphs are addressable: a snapshot is not read otherwise, and calls keep it so.

Three things follow. `counts_exact` says when the elements and the bytes of a variable are counted:
the sizes in front of the first zero decide, while addressability is about the product of all
sizes. `snapshot_roundtrip` says that the snapshot of a graph is read again exactly when the floats
of the graph are finite, and gives the same graph. `shapes_sound` says that shapes and orders go
together, so that the sizes of a variable are found by axis and a call for another order is
answered.
-/

namespace TensorGraph.Graph

/-- The graph can be made from nothing or from a snapshot by calls. -/
inductive Obtainable : Graph → Prop
  /-- The empty graph. -/
  | empty : Obtainable ∅
  /-- The graph of a snapshot. -/
  | restored {j : Json} {g : Graph} (h : ofSnapshot j = .ok g) : Obtainable g
  /-- The graph after a call. -/
  | after {g : Graph} (h : Obtainable g) (c : Call) : Obtainable (g.after c)

variable {g g' : Graph} {v : VariableId} {w : Variable}

/-- The graph after some calls is obtainable. -/
theorem Obtainable.run (h : g.Obtainable) (calls : List Call) : (g.run calls).Obtainable := by
  induction calls generalizing g with
  | nil => exact h
  | cons c calls ih => exact ih (h.after c)

/-- Every variable of an obtainable graph is addressable. -/
theorem Obtainable.addressable (h : g.Obtainable) (hw : g.getVariable? v = some w) :
    w.Addressable := by
  induction h generalizing v w with
  | empty => cases hw
  | restored hg => exact (readable_of_ofSnapshot hg).1 v w hw
  | after hg c ih =>
    rcases (step_after _ c).of_getVariable? hw with ⟨-, -, shape, order, hc⟩ | ⟨x, hx, hchange⟩
    · exact .of_create hc
    · exact (ih hx).of_change hchange

/-! ## Counting -/

/-- The elements and the bytes of a variable are counted exactly where the product of the sizes in
front of the first zero fits in 64 bits. Where it does not, both counts fail, and the shape has a
zero. Another order of the axes has the same volume; it gives the same counts when both of the
products fit or neither does. -/
theorem counts_exact (h : g.Obtainable) (hw : g.getVariable? v = some w) :
    (w.shape.leading.volume < UInt64.size →
      (∃ n, w.elementCount = .ok n ∧ n.toNat = w.shape.volume) ∧
      ∃ n, w.byteCount = .ok n ∧ n.toNat = w.shape.volume * w.elementType.byteSize.toNat) ∧
    (UInt64.size ≤ w.shape.leading.volume →
      0 ∈ w.shape ∧ w.elementCount = .error .productTooLarge ∧
      w.byteCount = .error .productTooLarge) ∧
    ∀ target w', w.reorder target = .ok w' →
      (w'.elementCount = w.elementCount ∧ w'.byteCount = w.byteCount ↔
        (w.shape.leading.volume < UInt64.size ↔ w'.shape.leading.volume < UInt64.size)) := by
  have haddr := h.addressable hw
  refine ⟨fun hlead => ⟨?_, ?_⟩, fun hlead => ⟨?_, ?_, ?_⟩, fun target w' hw' => ?_⟩
  · have hlt := Shape.volume_lt_of_leading hlead
    exact ⟨_, Variable.elementCount_eq_ok.2 ⟨hlead, (UInt64.toNat_ofNat_of_lt' hlt).symm⟩,
      UInt64.toNat_ofNat_of_lt' hlt⟩
  · have hlt := (Variable.addressable_iff.1 haddr).2.2
    exact ⟨_, Variable.byteCount_eq_ok.2 ⟨hlead, (UInt64.toNat_ofNat_of_lt' hlt).symm⟩,
      UInt64.toNat_ofNat_of_lt' hlt⟩
  · -- Without a zero all sizes lead, and their product fits four times.
    by_contra hzero
    have hfour := (Variable.addressable_iff.1 haddr).2.1
    rw [Shape.leading_eq_self hzero] at hlead
    omega
  · exact Variable.elementCount_eq_error.2 ⟨hlead, rfl⟩
  · exact haddr.byteCount_eq_error.2 ⟨hlead, rfl⟩
  · have haddr' := haddr.of_reorder hw'
    have hvolume := haddr.paired.volume_of_reorder hw'
    have htype : w'.elementType = w.elementType := by
      obtain ⟨-, rfl⟩ := haddr.paired.reorder_eq_ok.1 hw'
      rfl
    rw [w'.elementCount_eq, w.elementCount_eq, haddr'.byteCount_eq, haddr.byteCount_eq, hvolume,
      htype]
    by_cases hlead : w.shape.leading.volume < UInt64.size <;>
      by_cases hlead' : w'.shape.leading.volume < UInt64.size <;> simp [hlead, hlead']

/-- The greatest size along an axis. -/
def maxSize : UInt64 := 18446744073709551615

/-- The graph with one variable, which has three axes. -/
def single (shape : Shape) : Graph := Graph.after ∅ (.addVariable shape .ntc)

/-- A zero in front of two sizes that are too large together lets the counts succeed. -/
theorem counts_exact_zero_first :
    (single [0, maxSize, maxSize]).Obtainable ∧
      (single [0, maxSize, maxSize]).getVariable? ⟨0⟩ =
        some { id := ⟨0⟩, shape := [0, maxSize, maxSize], order := .ntc } ∧
      ∃ n, ({ id := ⟨0⟩, shape := [0, maxSize, maxSize], order := .ntc } : Variable).byteCount =
        .ok n ∧ n.toNat = 0 := by
  have hg : (single [0, maxSize, maxSize]).Obtainable := Obtainable.empty.after _
  have hw : (single [0, maxSize, maxSize]).getVariable? ⟨0⟩ =
      some { id := ⟨0⟩, shape := [0, maxSize, maxSize], order := .ntc } := by decide
  exact ⟨hg, hw, ((counts_exact hg hw).1 (by decide)).2⟩

/-- Behind them it does not, although the variable is accepted. -/
theorem not_counted_zero_last :
    ¬ ∀ (g : Graph) (v : VariableId) (w : Variable), g.Obtainable → g.getVariable? v = some w →
      (∃ n, w.elementCount = .ok n ∧ n.toNat = w.shape.volume) ∧
      ∃ n, w.byteCount = .ok n ∧ n.toNat = w.shape.volume * w.elementType.byteSize.toNat := by
  intro h
  have hw : (single [maxSize, maxSize, 0]).getVariable? ⟨0⟩ =
      some { id := ⟨0⟩, shape := [maxSize, maxSize, 0], order := .ntc } := by decide
  obtain ⟨⟨n, hn, -⟩, -⟩ := h _ _ _ (Obtainable.empty.after _) hw
  cases hn

/-! ## Snapshots -/

/-- The snapshot of an obtainable graph is read exactly when all floats in the parameters of its
nodes are finite, and what is read is the graph. The graph of a snapshot is therefore read again
from its own snapshot. -/
theorem snapshot_roundtrip (h : g.Obtainable) :
    ((∃ g', ofSnapshot g.snapshot = .ok g') ↔ g.IsFinite) ∧
    (∀ g', ofSnapshot g.snapshot = .ok g' → g' = g) ∧
    ∀ j g₀, ofSnapshot j = .ok g₀ → ofSnapshot g₀.snapshot = .ok g₀ := by
  have haddr : ∀ v w, g.getVariable? v = some w → w.Addressable := fun v w hw => h.addressable hw
  refine ⟨⟨fun ⟨g', hg'⟩ => ?_, fun hfinite => ?_⟩, fun g' hg' => ?_, fun j g₀ hg₀ => ?_⟩
  · exact (ofSnapshot_snapshot.1 hg').2.2
  · exact ⟨g, ofSnapshot_snapshot.2 ⟨rfl, haddr, hfinite⟩⟩
  · exact (ofSnapshot_snapshot.1 hg').1
  · exact ofSnapshot_snapshot.2 ⟨rfl, readable_of_ofSnapshot hg₀⟩

/-- A variable that knows of links that are not there, under an id that is not its own. -/
def tangledVariable : Variable where
  id := ⟨9⟩
  name := some "x"
  shape := [2, 3]
  order := .nc
  consumers := .ofList [⟨7⟩]
  producer := some ⟨4⟩

/-- An operator that reads a variable that is not there, under an id that is not its own. -/
def tangledOperator : Operator where
  id := ⟨5⟩
  name := "Add"
  annotations := { parameters := .ofList [("alpha", .float (.ofInt 2))] }
  inputs := .ofList [("a", ⟨8⟩)]

/-- A graph whose nodes disagree, and which hands out ids that are taken. -/
def tangled : Graph where
  vars := .ofList [(⟨3⟩, tangledVariable)]
  ops := .ofList [(⟨1⟩, tangledOperator)]

/-- The tangled graph is obtainable. -/
theorem tangled_obtainable : tangled.Obtainable := by
  have haddr : ∀ w ∈ tangled.vars.values, w.Addressable := by decide
  exact .restored (ofSnapshot_snapshot.2 ⟨rfl, SortedMap.forall_mem_values.1 haddr, by decide⟩)

/-- The tangled graph goes through its snapshot after a call has changed it. -/
theorem snapshot_roundtrip_tangled :
    ∃ g, g = tangled.after (.setElementType ⟨3⟩ .float64) ∧ g ≠ tangled ∧ g.Obtainable ∧
      ofSnapshot g.snapshot = .ok g := by
  have hg := tangled_obtainable.after (.setElementType ⟨3⟩ .float64)
  obtain ⟨hread, heq, -⟩ := snapshot_roundtrip hg
  obtain ⟨g', hg'⟩ := hread.2 (by decide)
  exact ⟨_, rfl, by decide, hg, heq g' hg' ▸ hg'⟩

/-! ## Shapes -/

/-- In an obtainable graph every variable has one size for each axis of its order, and its bytes can
be counted in 64 bits whether an element takes four of them or as many as its type asks for. So its
sizes are found by axis, it is not read in another order only if that would drop an axis whose size
is not one, and the graph answers every call for another order. -/
theorem shapes_sound (h : g.Obtainable) :
    (∀ v w, g.getVariable? v = some w →
      w.shape.length = w.order.rank ∧
      w.shape.volume * max 4 w.elementType.byteSize.toNat < UInt64.size ∧
      w.sizes = .ok ⟨w.order.axes.zip w.shape⟩ ∧
      ∀ target e, w.reorder target = .error e →
        ∃ a, a ∉ target.axes ∧ w.extent a ≠ 1 ∧
          e = .refused (.nonUnitAxisDropped a (w.extent a))) ∧
    ∀ v target f, (g.perform (.reorder v target)).result ≠ .error (.fault f) := by
  refine ⟨fun v w hw => ?_, fun v target f hfault => ?_⟩
  · have haddr := h.addressable hw
    refine ⟨haddr.paired, haddr.fits, haddr.paired.sizes_eq, fun target e he => ?_⟩
    obtain ⟨a, -, hmem, hne, heq⟩ := haddr.paired.reorder_eq_error he
    exact ⟨a, hmem, hne, heq⟩
  · cases hw : g.getVariable? v with
    | none =>
      rw [perform_reorder_of_none hw] at hfault
      cases hfault
    | some w =>
      cases hw' : w.reorder target with
      | ok w' =>
        rw [perform_reorder_of_ok hw hw'] at hfault
        cases hfault
      | error e =>
        -- The variable itself says why it is not read in that order.
        obtain ⟨a, -, -, -, rfl⟩ := (h.addressable hw).paired.reorder_eq_error hw'
        rw [perform_reorder_of_error hw hw'] at hfault
        cases hfault

/-- The shape of the variable in the tangled graph, whose elements take eight bytes after a call,
goes with its order, and a call for another order is answered. -/
theorem shapes_sound_tangled :
    (tangled.after (.setElementType ⟨3⟩ .float64)).Obtainable ∧
    (∃ w, (tangled.after (.setElementType ⟨3⟩ .float64)).getVariable? ⟨3⟩ = some w ∧
      w.shape.length = w.order.rank ∧ w.shape.volume * max 4 8 < UInt64.size) ∧
    ∀ target f, ((tangled.after (.setElementType ⟨3⟩ .float64)).perform
      (.reorder ⟨3⟩ target)).result ≠ .error (.fault f) := by
  have hg := tangled_obtainable.after (.setElementType ⟨3⟩ .float64)
  have hw : (tangled.after (.setElementType ⟨3⟩ .float64)).getVariable? ⟨3⟩ =
      some { tangledVariable with elementType := .float64 } := by decide
  obtain ⟨hshapes, hanswered⟩ := shapes_sound hg
  obtain ⟨hlength, hfits, -⟩ := hshapes _ _ hw
  exact ⟨hg, ⟨_, hw, hlength, hfits⟩, hanswered ⟨3⟩⟩

end TensorGraph.Graph
