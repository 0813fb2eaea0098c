import Mathlib.Algebra.BigOperators.Group.Finset.Basic
import TensorGraph.Proofs.Results
import TensorGraph.Proofs.SizesByAxis
import TensorGraph.Proofs.Volume
import TensorGraph.Variable

/-!
# Reading a shape in another order of axes

A shape in an order of axes gives every axis an extent: its size if the order has the axis, and one
if it does not. The extents say all that there is to know (`map_extent`), and `Variable.reorder`
keeps them: it looks for an axis whose extent is not one and that the new order does not have
(`reorder_eq`), fails because of the first one, and lists the same extents in the new order when
there is none (`reorder_eq_ok`). The volume is the product of the
extents over all axes, whatever the order, so it is kept as well (`volume_of_reorder`). Because the
extents are kept, one order after another is as good as the last one alone (`foldlM_reorder`).
-/

namespace TensorGraph

/-- There are finitely many axes. -/
instance : Fintype Axis := ⟨Axis.all.toFinset, fun a => by simp [Axis.mem_all]⟩

namespace Shape

/-! ## Extents -/

/-- The size along the axis `a` of a shape in the order `o`: one, where the order does not have the
axis. -/
def extent (s : Shape) (o : AxisOrder) (a : Axis) : UInt64 :=
  (AxisSizes.get? ⟨o.axes.zip s⟩ a).getD 1

/-- An axis that the order does not have has the extent one. -/
theorem extent_of_not_mem {o : AxisOrder} {a : Axis} (h : a ∉ o.axes) (s : Shape) :
    s.extent o a = 1 := by
  have hnone : AxisSizes.get? ⟨o.axes.zip s⟩ a = none :=
    AxisSizes.get?_eq_none fun e he hea => h (hea ▸ (List.of_mem_zip he).1)
  rw [extent, hnone, Option.getD_none]

/-- The extents along the axes of the order are the sizes. -/
theorem map_extent {s : Shape} {o : AxisOrder} (h : s.length = o.rank) :
    o.axes.map (s.extent o) = s :=
  AxisSizes.map_get?_zip o.nodup_axes h

/-- A function of the axes that is one outside an order gives the extents of its own list. -/
theorem extent_map {o : AxisOrder} {f : Axis → UInt64} (h : ∀ a, f a ≠ 1 → a ∈ o.axes) :
    extent (o.axes.map f) o = f := by
  funext a
  rw [extent, AxisSizes.get?_zip_map]
  split
  · rfl
  · next ha => exact (of_not_not fun hne => ha (h a hne)).symm

/-- Axes with their sizes are axes with their extents. -/
theorem zip_eq_map_extent {s : Shape} {o : AxisOrder} (h : s.length = o.rank) :
    o.axes.zip s = o.axes.map fun a => (a, s.extent o a) := by
  have hzip : (o.axes.map id).zip (o.axes.map (s.extent o)) =
      o.axes.map fun a => (a, s.extent o a) := List.zip_map'
  rwa [List.map_id, map_extent h] at hzip

/-- The volume is the product of the extents over all axes. -/
theorem volume_map_axes {o : AxisOrder} {f : Axis → UInt64} (h : ∀ a, f a ≠ 1 → a ∈ o.axes) :
    volume (o.axes.map f) = ∏ a, (f a).toNat := by
  have hsub : ∏ a ∈ o.axes.toFinset, (f a).toNat = ∏ a, (f a).toNat := by
    refine Finset.prod_subset (Finset.subset_univ _) fun a _ ha => ?_
    have hone : f a = 1 := of_not_not fun hne => ha (List.mem_toFinset.2 (h a hne))
    rw [hone]
    rfl
  rw [← hsub, List.prod_toFinset _ o.nodup_axes, volume_eq_prod, List.map_map]
  rfl

end Shape

namespace Variable

/-! ## Variables -/

/-- The extent of a variable along an axis. -/
def extent (v : Variable) : Axis → UInt64 := v.shape.extent v.order

/-- The shape has one size for each axis of the order. -/
def Paired (v : Variable) : Prop := v.shape.length = v.order.rank

variable {v w : Variable} {target : AxisOrder}

/-- The extents of a variable are one outside its order. -/
theorem mem_axes_of_extent_ne_one {a : Axis} (h : v.extent a ≠ 1) : a ∈ v.order.axes :=
  of_not_not fun ha => h (Shape.extent_of_not_mem ha _)

/-- The volume of a variable is the product of its extents. -/
theorem Paired.volume_eq (h : v.Paired) : v.shape.volume = ∏ a, (v.extent a).toNat := by
  rw [← Shape.volume_map_axes (o := v.order) fun _ => mem_axes_of_extent_ne_one, extent,
    Shape.map_extent h]

/-- The sizes by axis are found when there is one for each axis. -/
theorem Paired.sizes_eq (h : v.Paired) : v.sizes = .ok ⟨v.order.axes.zip v.shape⟩ := if_pos h

/-- The first axis of the variable, from the outermost one on, that the target does not have and
whose extent is not one. -/
def lost? (v : Variable) (target : AxisOrder) : Option Axis :=
  v.order.axes.find? fun a => decide (a ∉ target.axes ∧ v.extent a ≠ 1)

/-- No axis is lost when every axis whose extent is not one is in the target. -/
theorem lost?_eq_none : v.lost? target = none ↔ ∀ a, v.extent a ≠ 1 → a ∈ target.axes := by
  rw [lost?, List.find?_eq_none]
  simp only [decide_eq_true_eq, not_and, not_not]
  constructor
  · exact fun hall a ha => of_not_not fun hmem => ha (hall a (mem_axes_of_extent_ne_one ha) hmem)
  · exact fun hall a _ hmem => of_not_not fun hne => hmem (hall a hne)

/-- The axis that is lost first is one at a place before which none is lost. -/
theorem lost?_eq_some {a : Axis} : v.lost? target = some a ↔
    ∃ i : Nat, v.order.axes[i]? = some a ∧ (a ∉ target.axes ∧ v.extent a ≠ 1) ∧
      ∀ j < i, ∀ b, v.order.axes[j]? = some b → ¬ (b ∉ target.axes ∧ v.extent b ≠ 1) := by
  rw [lost?, List.find?_eq_some_iff_getElem]
  simp only [Bool.not_eq_true', decide_eq_true_eq, decide_eq_false_iff_not]
  constructor
  · rintro ⟨hlost, i, hi, ha, hbefore⟩
    refine ⟨i, List.getElem?_eq_some_iff.2 ⟨hi, ha⟩, hlost, fun j hj b hb => ?_⟩
    obtain ⟨_, rfl⟩ := List.getElem?_eq_some_iff.1 hb
    exact hbefore j hj
  · rintro ⟨i, ha, hlost, hbefore⟩
    obtain ⟨hi, ha⟩ := List.getElem?_eq_some_iff.1 ha
    exact ⟨hlost, i, hi, ha, fun j hj =>
      hbefore j hj _ (List.getElem?_eq_getElem (Nat.lt_trans hj hi))⟩

/-- Reading in another order, in terms of the extents: the first axis that would be lost is the
reason for a refusal, and where there is none the extents are listed along the axes of the
target. -/
theorem Paired.reorder_eq (h : v.Paired) (target : AxisOrder) :
    v.reorder target = (v.lost? target).elim
      (.ok { v with order := target, shape := target.axes.map v.extent })
      fun a => .error (.refused (.nonUnitAxisDropped a (v.extent a))) := by
  -- The search through the pairs of axes and sizes is a search through the axes.
  have hfind : (v.order.axes.zip v.shape).find?
      (fun e => !target.contains e.1 && decide (e.2 ≠ 1)) =
        (v.lost? target).map fun a => (a, v.extent a) := by
    rw [Shape.zip_eq_map_extent h, List.find?_map, lost?]
    simp only [Function.comp_def, AxisOrder.contains, Bool.decide_and, decide_not]
    rfl
  unfold reorder
  simp only [h.sizes_eq, hfind]
  cases v.lost? target with
  | none => rfl
  | some a => rfl

/-- A variable is not read in another order when an axis would be dropped whose extent is not one,
and for no other reason. -/
theorem Paired.reorder_eq_error (h : v.Paired) {e : Failure} (he : v.reorder target = .error e) :
    ∃ a ∈ v.order.axes, a ∉ target.axes ∧ v.extent a ≠ 1 ∧
      e = .refused (.nonUnitAxisDropped a (v.extent a)) := by
  rw [h.reorder_eq] at he
  cases hlost : v.lost? target with
  | none =>
    rw [hlost] at he
    cases he
  | some a =>
    rw [hlost] at he
    obtain ⟨i, hi, ⟨habsent, hne⟩, -⟩ := lost?_eq_some.1 hlost
    exact ⟨a, List.mem_of_getElem? hi, habsent, hne, (Except.error.inj he).symm⟩

/-- A variable is read in another order exactly when that order has every axis whose extent is not
one, and the extents are then listed along its axes. -/
theorem Paired.reorder_eq_ok (h : v.Paired) :
    v.reorder target = .ok w ↔ (∀ a, v.extent a ≠ 1 → a ∈ target.axes) ∧
      w = { v with order := target, shape := target.axes.map v.extent } := by
  rw [h.reorder_eq, ← lost?_eq_none]
  cases v.lost? target with
  | none => simp [eq_comm]
  | some a => simp

/-- What is read in another order is paired again. -/
theorem Paired.of_reorder (h : v.Paired) (hw : v.reorder target = .ok w) : w.Paired := by
  obtain ⟨-, rfl⟩ := h.reorder_eq_ok.1 hw
  simp [Paired, AxisOrder.rank]

/-- Reading a shape in another order keeps the extents. -/
theorem Paired.extent_of_reorder (h : v.Paired) (hw : v.reorder target = .ok w) :
    w.extent = v.extent := by
  obtain ⟨hall, rfl⟩ := h.reorder_eq_ok.1 hw
  exact Shape.extent_map hall

/-- Reading a shape in another order keeps the volume. -/
theorem Paired.volume_of_reorder (h : v.Paired) (hw : v.reorder target = .ok w) :
    w.shape.volume = v.shape.volume := by
  rw [h.volume_eq, (h.of_reorder hw).volume_eq, h.extent_of_reorder hw]

/-! ## One order after another -/

/-- Every axis whose extent is not one is in the order. -/
def FitsIn (v : Variable) (target : AxisOrder) : Prop := ∀ a, v.extent a ≠ 1 → a ∈ target.axes

/-- There are few axes to look at. -/
instance decidableFitsIn (v : Variable) (target : AxisOrder) : Decidable (v.FitsIn target) :=
  inferInstanceAs (Decidable (∀ a, v.extent a ≠ 1 → a ∈ target.axes))

/-- The variable with its extents listed along the axes of another order. -/
def inOrder (v : Variable) (target : AxisOrder) : Variable :=
  { v with order := target, shape := target.axes.map v.extent }

/-- A variable fits in its own order. -/
theorem fitsIn_order (v : Variable) : v.FitsIn v.order := fun _ => mem_axes_of_extent_ne_one

/-- A variable is its extents listed along the axes of its own order. -/
theorem Paired.inOrder_order (h : v.Paired) : v.inOrder v.order = v := by
  have hshape : v.order.axes.map v.extent = v.shape := Shape.map_extent h
  rw [inOrder, hshape]

/-- Reading in another order succeeds when the variable fits in it. -/
theorem Paired.reorder_eq_inOrder (h : v.Paired) :
    v.reorder target = .ok w ↔ v.FitsIn target ∧ w = v.inOrder target :=
  h.reorder_eq_ok

/-- Listing the extents along the axes of another order pairs them. -/
theorem paired_inOrder (v : Variable) (target : AxisOrder) : (v.inOrder target).Paired :=
  List.length_map _

/-- A variable keeps its extents in every order in which it fits. -/
theorem FitsIn.extent_inOrder (h : v.FitsIn target) : (v.inOrder target).extent = v.extent :=
  Shape.extent_map h

/-- The second of two orders decides, if the variable fits in the first. -/
theorem FitsIn.inOrder_inOrder (h : v.FitsIn target) (next : AxisOrder) :
    (v.inOrder target).inOrder next = v.inOrder next := by
  unfold inOrder
  exact congrArg (fun f => { v with order := next, shape := next.axes.map f }) h.extent_inOrder

/-- Reading in one order after another succeeds exactly when the variable fits in each of them, and
is then reading in the last. -/
theorem Paired.foldlM_reorder (h : v.Paired) {targets : List AxisOrder} :
    targets.foldlM reorder v = .ok w ↔
      (∀ target ∈ targets, v.FitsIn target) ∧ w = v.inOrder (targets.getLastD v.order) := by
  induction targets generalizing v with
  | nil =>
    rw [List.foldlM_nil, List.getLastD_nil, h.inOrder_order]
    simp [pure, Except.pure, eq_comm]
  | cons target targets ih =>
    rw [List.foldlM_cons, Result.bind_eq_ok, List.forall_mem_cons, List.getLastD_cons]
    simp only [h.reorder_eq_inOrder]
    constructor
    · rintro ⟨_, ⟨hfits, rfl⟩, hrest⟩
      obtain ⟨hall, rfl⟩ := (ih (v.paired_inOrder target)).1 hrest
      refine ⟨⟨hfits, fun next hnext => ?_⟩, hfits.inOrder_inOrder _⟩
      have hnext := hall next hnext
      rwa [FitsIn, hfits.extent_inOrder] at hnext
    · rintro ⟨⟨hfits, hall⟩, rfl⟩
      refine ⟨_, ⟨hfits, rfl⟩, (ih (v.paired_inOrder target)).2 ⟨fun next hnext => ?_, ?_⟩⟩
      · rw [FitsIn, hfits.extent_inOrder]
        exact hall next hnext
      · exact (hfits.inOrder_inOrder _).symm

end Variable

end TensorGraph
