import TensorGraph.Proofs.OrderHistory

/-!
# One change of the order, place by place

`Reorder` says what a change of the order does to the extents of a variable. Here the same change is
described by what can be seen: the axes and the sizes at each place of the two orders. A size is
lost when it is not one and the target does not have its axis (`Variable.LosesAt`). Where a size is
lost the change is refused because of the first one (`Paired.reorder_eq_dropped`), and where none is
lost it succeeds (`Paired.fitsIn_iff`) and `Variable.LaidOut` says what comes out. The extents lead
from one description to the other: they are the sizes at the places of their axes
(`Paired.getElem?_shape`).
-/

namespace TensorGraph

namespace Variable

/-- At the place `i` the variable has the axis `a` with the size `n`, which is not one, and the
target does not have this axis. -/
structure LosesAt (v : Variable) (target : AxisOrder) (i : Nat) (a : Axis) (n : UInt64) : Prop where
  /-- The axis is at this place of the order. -/
  axis : v.order.axes[i]? = some a
  /-- The size is at this place of the shape. -/
  size : v.shape[i]? = some n
  /-- The target does not have the axis. -/
  absent : a ∉ target.axes
  /-- The size is not one. -/
  nonUnit : n ≠ 1

/-- The variable `w` is the variable `v` with its sizes laid out along the axes of the target. -/
structure LaidOut (v : Variable) (target : AxisOrder) (w : Variable) : Prop where
  /-- The order is the target. -/
  order : w.order = target
  /-- There is one size for each axis of the target. -/
  length : w.shape.length = target.rank
  /-- An axis of both orders keeps its size. -/
  common : ∀ (i j : Nat) (a : Axis), v.order.axes[i]? = some a → target.axes[j]? = some a →
    w.shape[j]? = v.shape[i]?
  /-- An axis that is new has size one. -/
  fresh : ∀ (j : Nat) (a : Axis), target.axes[j]? = some a → a ∉ v.order.axes →
    w.shape[j]? = some 1
  /-- The exact product of the sizes is the same. -/
  volume : w.shape.volume = v.shape.volume
  /-- There is a zero among the sizes if there was one. -/
  zero : 0 ∈ w.shape ↔ 0 ∈ v.shape
  /-- Nothing else is different. -/
  rest : w.id = v.id ∧ w.name = v.name ∧ w.elementType = v.elementType ∧
    w.annotations = v.annotations ∧ w.consumers = v.consumers ∧ w.producer = v.producer

variable {v w : Variable} {target : AxisOrder} {i j : Nat} {a : Axis} {n : UInt64}

/-! ## Sizes and extents -/

/-- The size at the place of an axis is its extent. -/
theorem Paired.getElem?_shape (h : v.Paired) (ha : v.order.axes[i]? = some a) :
    v.shape[i]? = some (v.extent a) := by
  have hshape : v.order.axes.map v.extent = v.shape := Shape.map_extent h
  rw [← hshape, List.getElem?_map, ha, Option.map_some]

/-- In another order the size at the place of an axis is its extent as well. -/
theorem getElem?_inOrder (ha : target.axes[j]? = some a) :
    (v.inOrder target).shape[j]? = some (v.extent a) := by
  rw [inOrder, List.getElem?_map, ha, Option.map_some]

/-- A size is lost when the extent of an axis is, at the place of the axis. -/
theorem Paired.losesAt_iff (h : v.Paired) :
    v.LosesAt target i a n ↔
      v.order.axes[i]? = some a ∧ (a ∉ target.axes ∧ v.extent a ≠ 1) ∧ v.extent a = n := by
  constructor
  · intro hlost
    have hextent : v.extent a = n :=
      Option.some.inj ((h.getElem?_shape hlost.axis).symm.trans hlost.size)
    exact ⟨hlost.axis, ⟨hlost.absent, hextent ▸ hlost.nonUnit⟩, hextent⟩
  · rintro ⟨hi, ⟨habsent, hne⟩, rfl⟩
    exact ⟨hi, h.getElem?_shape hi, habsent, hne⟩

/-- A variable fits in an order in which it loses no size. -/
theorem Paired.fitsIn_iff (h : v.Paired) : v.FitsIn target ↔ ¬ ∃ i a n, v.LosesAt target i a n := by
  constructor
  · rintro hfits ⟨i, a, n, hlost⟩
    obtain ⟨-, ⟨habsent, hne⟩, -⟩ := h.losesAt_iff.1 hlost
    exact habsent (hfits a hne)
  · intro hnone a hne
    obtain ⟨i, hi⟩ := List.getElem?_of_mem (mem_axes_of_extent_ne_one hne)
    refine of_not_not fun habsent => hnone ?_
    exact ⟨i, a, v.extent a, h.losesAt_iff.2 ⟨hi, ⟨habsent, hne⟩, rfl⟩⟩

/-! ## The two outcomes -/

/-- A change of the order is refused because of the first size that would be lost. -/
theorem Paired.reorder_eq_dropped (h : v.Paired) :
    v.reorder target = .error (.refused (.nonUnitAxisDropped a n)) ↔
      ∃ i, v.LosesAt target i a n ∧ ∀ j < i, ∀ b m, ¬ v.LosesAt target j b m := by
  have hreason : v.reorder target = .error (.refused (.nonUnitAxisDropped a n)) ↔
      v.lost? target = some a ∧ v.extent a = n := by
    rw [h.reorder_eq]
    cases v.lost? target with
    | none => simp
    | some b =>
      simp only [Option.elim_some, Except.error.injEq, Failure.refused.injEq,
        GraphError.nonUnitAxisDropped.injEq, Option.some.injEq]
      exact and_congr_right fun hb => hb ▸ Iff.rfl
  -- What is searched for along the axes is what is lost at their places.
  rw [hreason, lost?_eq_some]
  constructor
  · rintro ⟨⟨i, hi, hlost, hbefore⟩, hextent⟩
    refine ⟨i, h.losesAt_iff.2 ⟨hi, hlost, hextent⟩, fun j hj b m hearlier => ?_⟩
    obtain ⟨hb, hlostb, -⟩ := h.losesAt_iff.1 hearlier
    exact hbefore j hj b hb hlostb
  · rintro ⟨i, hfirst, hbefore⟩
    obtain ⟨hi, hlost, hextent⟩ := h.losesAt_iff.1 hfirst
    refine ⟨⟨i, hi, hlost, fun j hj b hb hlostb => ?_⟩, hextent⟩
    exact hbefore j hj b _ (h.losesAt_iff.2 ⟨hb, hlostb, rfl⟩)

/-- A variable that loses a size is not read in the order. -/
theorem Paired.exists_dropped (h : v.Paired) (hlost : ∃ i a n, v.LosesAt target i a n) :
    ∃ a n, v.reorder target = .error (.refused (.nonUnitAxisDropped a n)) := by
  cases hw : v.reorder target with
  | ok w => exact absurd hlost (h.fitsIn_iff.1 (h.reorder_eq_inOrder.1 hw).1)
  | error e =>
    obtain ⟨a, -, -, -, rfl⟩ := h.reorder_eq_error hw
    exact ⟨a, v.extent a, rfl⟩

/-- A variable that is read in another order is laid out along its axes. -/
theorem Paired.laidOut (h : v.Paired) (hw : v.reorder target = .ok w) : v.LaidOut target w := by
  have hvolume := h.volume_of_reorder hw
  obtain ⟨-, rfl⟩ := h.reorder_eq_inOrder.1 hw
  exact {
    order := rfl
    length := List.length_map _
    common := fun i j a hi hj => (getElem?_inOrder hj).trans (h.getElem?_shape hi).symm
    fresh := fun j a hj habsent => by
      have hone : v.extent a = 1 := Shape.extent_of_not_mem habsent _
      rw [getElem?_inOrder hj, hone]
    volume := hvolume
    zero := by rw [← Shape.volume_eq_zero, hvolume, Shape.volume_eq_zero]
    rest := ⟨rfl, rfl, rfl, rfl, rfl, rfl⟩ }

/-- A variable with one size for each axis of its order is read in another order. If it has a size
that is not one along an axis that the target does not have, the change is refused because of the
first such axis, with its size, and a graph that holds the variable stays as it is. Otherwise the
change succeeds: the variable that comes out, in a graph as well, has its sizes laid out along the
axes of the target. -/
theorem reorder_placewise (h : v.shape.length = v.order.rank) (target : AxisOrder) :
    ((∃ i a n, v.LosesAt target i a n) →
      ∃ i a n, v.LosesAt target i a n ∧ (∀ j < i, ∀ b m, ¬ v.LosesAt target j b m) ∧
        v.reorder target = .error (.refused (.nonUnitAxisDropped a n)) ∧
        ∀ (g : Graph) (u : VariableId), g.getVariable? u = some v →
          (g.perform (.reorder u target)).result =
            .error (.refused (.nonUnitAxisDropped a n)) ∧
          g.after (.reorder u target) = g) ∧
    ((¬ ∃ i a n, v.LosesAt target i a n) →
      ∃ w, v.reorder target = .ok w ∧ v.LaidOut target w ∧
        ∀ (g : Graph) (u : VariableId), g.getVariable? u = some v →
          (g.perform (.reorder u target)).result = .ok .done ∧
          (g.after (.reorder u target)).getVariable? u = some w) := by
  have hpaired : v.Paired := h
  refine ⟨fun hlost => ?_, fun hkept => ?_⟩
  · obtain ⟨a, n, herror⟩ := hpaired.exists_dropped hlost
    obtain ⟨i, hi, hfirst⟩ := hpaired.reorder_eq_dropped.1 herror
    refine ⟨i, a, n, hi, hfirst, herror, fun g u hv => ?_⟩
    rw [Graph.after, Graph.perform_reorder_of_error hv herror]
    exact ⟨rfl, rfl⟩
  · -- Where no size is lost the variable fits in the target.
    have hfits : v.FitsIn target := hpaired.fitsIn_iff.2 hkept
    have hok : v.reorder target = .ok (v.inOrder target) :=
      hpaired.reorder_eq_inOrder.2 ⟨hfits, rfl⟩
    refine ⟨v.inOrder target, hok, hpaired.laidOut hok, fun g u hv => ?_⟩
    rw [Graph.after, Graph.perform_reorder_of_ok hv hok]
    refine ⟨rfl, ?_⟩
    show (g.written [.putVariable u (v.inOrder target)]).getVariable? u = _
    simp

/-- A batch of no images, each of a single point with as many channels as can be counted. -/
def points : Variable where
  id := ⟨0⟩
  shape := [18446744073709551615, 1, 1, 0]
  order := .chwn

/-- The rows and the columns of the points can be dropped and steps in time put in. If only the
channels were left the batch would be lost as well, and the change is refused because of the batch
and not because of the rows or the columns, which come first. -/
theorem reorder_placewise_points :
    let g := Graph.after ∅ (.addVariable [18446744073709551615, 1, 1, 0] .chwn)
    points.shape.length = points.order.rank ∧ g.getVariable? ⟨0⟩ = some points ∧
    ((¬ ∃ i a n, points.LosesAt .ntc i a n) ∧
      ∃ w, points.reorder .ntc = .ok w ∧ w.shape.length = 3 ∧ w.shape[0]? = some 0 ∧
        w.shape[1]? = some 1 ∧ w.shape[2]? = some 18446744073709551615 ∧
        (g.after (.reorder ⟨0⟩ .ntc)).getVariable? ⟨0⟩ = some w) ∧
    points.LosesAt .c 3 .batch 0 ∧
    (g.perform (.reorder ⟨0⟩ .c)).result = .error (.refused (.nonUnitAxisDropped .batch 0)) ∧
    g.after (.reorder ⟨0⟩ .c) = g := by
  intro g
  have hlength : points.shape.length = points.order.rank := rfl
  have hv : g.getVariable? ⟨0⟩ = some points := by decide +kernel
  have hkept : ¬ ∃ i a n, points.LosesAt .ntc i a n :=
    (Paired.fitsIn_iff hlength).1 (by decide +kernel)
  have hlost : points.LosesAt .c 3 .batch 0 := ⟨rfl, rfl, by decide, by decide⟩
  obtain ⟨w, hw, hout, hput⟩ := (reorder_placewise hlength .ntc).2 hkept
  obtain ⟨i, a, n, -, -, herror, hrefused⟩ :=
    (reorder_placewise hlength .c).1 ⟨3, .batch, 0, hlost⟩
  have hbatch : points.reorder .c = .error (.refused (.nonUnitAxisDropped .batch 0)) := by
    decide +kernel
  cases herror.symm.trans hbatch
  exact ⟨hlength, hv, ⟨hkept, w, hw, hout.length, hout.common 3 0 .batch rfl rfl,
    hout.fresh 1 .time rfl (by decide), hout.common 0 2 .channel rfl rfl, (hput g ⟨0⟩ hv).2⟩,
    hlost, hrefused g ⟨0⟩ hv⟩

end Variable

end TensorGraph
