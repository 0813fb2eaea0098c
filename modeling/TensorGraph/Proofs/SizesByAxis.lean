import Mathlib.Data.List.Nodup
import TensorGraph.AxisSizes

/-!
# Sizes found by axis

`AxisOrder.sizes` pairs the axes of an order with the sizes of a shape, and `AxisSizes.get?` gives
the first size that is paired with an axis. For a shape that goes with the order nothing is lost.
The size found under an axis is the one at the place of the axis in the order (`get?_zip`), no axis
stands at two places (`indexOf?_eq_some`), and the order and the shape can be read off the pairs
again (`zip_inj`).
-/

namespace TensorGraph

namespace AxisSizes

variable {axes : List Axis} {s : Shape} {d : AxisSizes} {a : Axis} {n : UInt64} {i : Nat}

/-! ## The place of an axis -/

/-- The first entry is found for its own axis. -/
theorem get?_cons_self (a : Axis) (n : UInt64) (l : List (Axis × UInt64)) :
    get? ⟨(a, n) :: l⟩ a = some n := by
  simp [get?]

/-- The first entry is not looked at for another axis. -/
theorem get?_cons_of_ne {a b : Axis} (h : b ≠ a) (n : UInt64) (l : List (Axis × UInt64)) :
    get? ⟨(b, n) :: l⟩ a = get? ⟨l⟩ a := by
  simp [get?, h]

/-- An axis without an entry has no size. -/
theorem get?_eq_none {l : List (Axis × UInt64)} {a : Axis} (h : ∀ e ∈ l, e.1 ≠ a) :
    get? ⟨l⟩ a = none := by
  simpa [get?] using h

/-- Among different axes an axis is found at its only place. -/
theorem findIdx?_eq_some (haxes : axes.Nodup) :
    (axes.findIdx? fun b => decide (b = a)) = some i ↔ axes[i]? = some a := by
  rw [List.findIdx?_eq_some_iff_getElem, List.getElem?_eq_some_iff]
  simp only [decide_eq_true_eq]
  constructor
  · rintro ⟨hi, ha, -⟩
    exact ⟨hi, ha⟩
  · rintro ⟨hi, ha⟩
    -- No earlier place has the axis as well.
    refine ⟨hi, ha, fun j hj heq => Nat.ne_of_lt hj ?_⟩
    exact haxes.getElem_inj_iff.1 (heq.trans ha.symm)

/-- The first size under an axis is the one at the first place of the axis. -/
theorem get?_zip (h : s.length = axes.length) (a : Axis) :
    get? ⟨axes.zip s⟩ a = (axes.findIdx? fun b => decide (b = a)).bind (s[·]?) := by
  induction axes generalizing s with
  | nil => rfl
  | cons b axes ih =>
    obtain ⟨n, s, rfl⟩ := List.exists_cons_of_length_eq_add_one h
    rw [List.zip_cons_cons, List.findIdx?_cons]
    by_cases hb : b = a
    · subst hb
      rw [get?_cons_self, if_pos (decide_eq_true rfl), Option.bind_some, List.getElem?_cons_zero]
    · -- The places of the rest are counted from one on, and so are its sizes.
      rw [get?_cons_of_ne hb, ih (by simpa using h), if_neg (by simpa using hb), Option.bind_map]
      rfl

/-- Sizes paired with different axes are found under them. -/
theorem map_get?_zip (haxes : axes.Nodup) (h : s.length = axes.length) :
    axes.map (fun a => (get? ⟨axes.zip s⟩ a).getD 1) = s := by
  refine List.ext_getElem (by simpa using h.symm) fun i hi hi' => ?_
  have hplace : (axes.findIdx? fun b => decide (b = axes[i])) = some i :=
    (findIdx?_eq_some haxes).2 (List.getElem?_eq_getElem _)
  rw [List.getElem_map, get?_zip h, hplace, Option.bind_some, List.getElem?_eq_getElem hi',
    Option.getD_some]

/-- A function of the axes, listed along some axes, is found under them. -/
theorem get?_zip_map (axes : List Axis) (f : Axis → UInt64) (a : Axis) :
    get? ⟨axes.zip (axes.map f)⟩ a = if a ∈ axes then some (f a) else none := by
  rw [get?_zip (List.length_map f)]
  cases hi : axes.findIdx? (fun b => decide (b = a)) with
  | none =>
    have habsent : a ∉ axes := fun hmem =>
      of_decide_eq_false (List.findIdx?_eq_none_iff.1 hi a hmem) rfl
    rw [if_neg habsent, Option.bind_none]
  | some i =>
    obtain ⟨hlt, heq, -⟩ := List.findIdx?_eq_some_iff_getElem.1 hi
    have ha : axes[i] = a := of_decide_eq_true heq
    rw [if_pos (ha ▸ List.getElem_mem hlt), Option.bind_some, List.getElem?_map,
      List.getElem?_eq_getElem hlt, ha, Option.map_some]

/-! ## Asking for a size -/

/-- An axis that is not contained has no size. -/
theorem contains_eq_false : d.contains a = false ↔ d.get? a = none := by
  rw [contains, Option.isSome_eq_false_iff, Option.isNone_iff_eq_none]

/-- The size is asked for with success when there is one. -/
theorem size_eq_ok : d.size a = .ok n ↔ d.get? a = some n := by
  unfold size
  cases d.get? a <;> simp

/-- The size is asked for in vain when there is none, and the fault names the axis. -/
theorem size_eq_error {f : Fault} : d.size a = .error f ↔ d.get? a = none ∧ f = .axisAbsent a := by
  unfold size
  cases d.get? a <;> simp [eq_comm]

end AxisSizes

namespace AxisOrder

variable {o o' : AxisOrder} {s s' : Shape} {d : AxisSizes} {a : Axis} {i : Nat}

/-- An axis has the place at which the order lists it. -/
theorem indexOf?_eq_some : o.indexOf? a = some i ↔ o.axes[i]? = some a :=
  AxisSizes.findIdx?_eq_some o.nodup_axes

/-- Sizes are paired with the axes of an order when there is one for each axis. -/
theorem sizes_eq_ok : o.sizes s = .ok d ↔ s.length = o.rank ∧ d = ⟨o.axes.zip s⟩ := by
  rw [sizes]
  split
  · next h => simp [h, eq_comm]
  · next h => simp [h]

/-- The size under an axis of the order is the one at its place. -/
theorem get?_zip_of_indexOf? (h : s.length = o.rank) (ha : o.indexOf? a = some i) :
    ∃ hi : i < s.length, AxisSizes.get? ⟨o.axes.zip s⟩ a = some s[i] := by
  obtain ⟨hi, -⟩ := List.getElem?_eq_some_iff.1 (indexOf?_eq_some.1 ha)
  have hi' : i < s.length := h.symm ▸ hi
  refine ⟨hi', ?_⟩
  calc AxisSizes.get? ⟨o.axes.zip s⟩ a
      = (o.indexOf? a).bind (s[·]?) := AxisSizes.get?_zip h a
    _ = s[i]? := by rw [ha, Option.bind_some]
    _ = some s[i] := List.getElem?_eq_getElem hi'

/-- There is no size under an axis exactly when the order does not have it. -/
theorem get?_zip_eq_none (h : s.length = o.rank) :
    AxisSizes.get? ⟨o.axes.zip s⟩ a = none ↔ o.indexOf? a = none := by
  cases ha : o.indexOf? a with
  | none =>
    refine iff_of_true ((AxisSizes.get?_zip h a).trans ?_) rfl
    exact congrArg (Option.bind · (s[·]?)) ha
  | some i =>
    obtain ⟨hi, hget⟩ := get?_zip_of_indexOf? h ha
    rw [hget]
    exact iff_of_false (Option.some_ne_none _) (Option.some_ne_none _)

/-- The axes and the sizes are read off the pairs. -/
theorem zip_inj (h : s.length = o.rank) (h' : s'.length = o'.rank) :
    o'.axes.zip s' = o.axes.zip s ↔ o' = o ∧ s' = s := by
  constructor
  · intro heq
    have haxes := congrArg (List.map Prod.fst) heq
    have hsizes := congrArg (List.map Prod.snd) heq
    rw [List.map_fst_zip (Nat.le_of_eq h'.symm), List.map_fst_zip (Nat.le_of_eq h.symm)] at haxes
    rw [List.map_snd_zip (Nat.le_of_eq h'), List.map_snd_zip (Nat.le_of_eq h)] at hsizes
    exact ⟨axes_injective haxes, hsizes⟩
  · rintro ⟨rfl, rfl⟩
    rfl

/-- A shape that goes with an order loses nothing when its sizes are paired with the axes. The pairs
list the axes of the order, by which the order is found in the registry, and the sizes of the shape.
Under an axis of the order, each way to ask for the size gives the one at the place of the axis;
under another axis each of them says that there is none, and asking for it all the same is the fault
that names the axis. So no other order and no other shape are paired in this way. -/
theorem sizes_lossless (h : s.length = o.rank) :
    ∃ d, o.sizes s = .ok d ∧
      d.entries.map Prod.fst = o.axes ∧ ofAxes? (d.entries.map Prod.fst) = some o ∧
      d.entries.map Prod.snd = s ∧
      (∀ i a n, d.entries[i]? = some (a, n) → o.indexOf? a = some i) ∧
      (∀ a i, o.indexOf? a = some i → ∃ hi : i < s.length,
        d.get? a = some s[i] ∧ d.contains a = true ∧ d.size a = .ok s[i]) ∧
      (∀ a, (d.get? a = none ↔ o.indexOf? a = none) ∧
        (d.contains a = false ↔ o.indexOf? a = none) ∧
        ∀ f, d.size a = .error f ↔ o.indexOf? a = none ∧ f = .axisAbsent a) ∧
      ∀ o' s', o'.sizes s' = .ok d ↔ o' = o ∧ s' = s := by
  have haxes : (o.axes.zip s).map Prod.fst = o.axes :=
    List.map_fst_zip (Nat.le_of_eq h.symm)
  have hnone : ∀ a, AxisSizes.get? ⟨o.axes.zip s⟩ a = none ↔ o.indexOf? a = none :=
    fun a => get?_zip_eq_none h
  refine ⟨⟨o.axes.zip s⟩, sizes_eq_ok.2 ⟨h, rfl⟩, haxes, ?_, List.map_snd_zip (Nat.le_of_eq h),
    fun i a n he => ?_, fun a i ha => ?_, fun a => ⟨hnone a, ?_, fun f => ?_⟩, fun o' s' => ?_⟩
  · rw [haxes, ofAxes?_axes]
  · -- The order lists the axis where the pairs do.
    refine indexOf?_eq_some.2 ?_
    rw [← haxes, List.getElem?_map, he, Option.map_some]
  · obtain ⟨hi, hget⟩ := get?_zip_of_indexOf? h ha
    refine ⟨hi, hget, ?_, AxisSizes.size_eq_ok.2 hget⟩
    rw [AxisSizes.contains, hget, Option.isSome_some]
  · rw [AxisSizes.contains_eq_false, hnone]
  · rw [AxisSizes.size_eq_error, hnone]
  · rw [sizes_eq_ok, AxisSizes.mk.injEq]
    constructor
    · rintro ⟨h', heq⟩
      exact (zip_inj h h').1 heq.symm
    · rintro ⟨rfl, rfl⟩
      exact ⟨h, rfl⟩

/-- A batch of two images without rows, with two channels. The columns and the channels are found at
their places, and there is no size for steps in time. With the samples and the rows exchanged, or in
another order of axes, other pairs come out. -/
theorem sizes_lossless_rowless :
    ([2, 0, 18446744073709551615, 2] : Shape).length = nhwc.rank ∧
    ∃ d, sizes .nhwc [2, 0, 18446744073709551615, 2] = .ok d ∧
      d.get? .width = some 18446744073709551615 ∧ d.size .channel = .ok 2 ∧
      d.size .time = .error (.axisAbsent .time) ∧
      sizes .nhwc [0, 2, 18446744073709551615, 2] ≠ .ok d ∧
      sizes .chwn [2, 0, 18446744073709551615, 2] ≠ .ok d := by
  have hlength : ([2, 0, 18446744073709551615, 2] : Shape).length = nhwc.rank := rfl
  obtain ⟨d, hd, -, -, -, -, hfound, habsent, hinj⟩ := sizes_lossless hlength
  obtain ⟨_, hwidth, -⟩ := hfound .width 2 rfl
  obtain ⟨_, -, -, hchannel⟩ := hfound .channel 3 rfl
  refine ⟨hlength, d, hd, hwidth, hchannel, ((habsent .time).2.2 _).2 ⟨rfl, rfl⟩, ?_, ?_⟩
  · exact fun hother => absurd ((hinj _ _).1 hother).2 (by decide)
  · exact fun hother => absurd ((hinj _ _).1 hother).1 (by decide)

end AxisOrder

end TensorGraph
