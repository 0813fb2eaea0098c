import Mathlib.Algebra.BigOperators.Group.List.Basic
import TensorGraph.Proofs.Addressable

/-!
# What the check of the bytes depends on

`Variable.checkBytes` multiplies the size of an element by the sizes of a shape, one after the
other, and gives up as soon as a product leaves the 64 bits. Its answer depends on the exact number
of bytes alone (`checkBytes_eq_ok`). Without a zero no partial product is larger than the last one
(`product?_front`), so that none leaves the 64 bits before the last one does; and a zero is looked
for before anything is multiplied. The exact number does not change when sizes are permuted and axes
of size one come or go (`Rearranged.volume_eq`).
-/

namespace TensorGraph

namespace Shape

variable {s s' front : Shape} {a n : UInt64}

/-- One shape comes from another by permuting sizes, by putting in axes of size one and by taking
out such axes. -/
inductive Rearranged : Shape → Shape → Prop where
  /-- The sizes are permuted. -/
  | perm {s s' : Shape} (h : s.Perm s') : Rearranged s s'
  /-- An axis of size one is put in. -/
  | insertOne (front back : Shape) : Rearranged (front ++ back) (front ++ 1 :: back)
  /-- An axis of size one is taken out. -/
  | deleteOne (front back : Shape) : Rearranged (front ++ 1 :: back) (front ++ back)
  /-- One change comes after another. -/
  | trans {s s' s'' : Shape} (h : Rearranged s s') (h' : Rearranged s' s'') : Rearranged s s''

/-- The volume of two shapes, one after the other, is the product of their volumes. -/
theorem volume_append (s s' : Shape) : volume (s ++ s') = volume s * volume s' := by
  rw [volume_eq_prod, volume_eq_prod, volume_eq_prod, List.map_append, List.prod_append]

/-- Permuted sizes have the same volume. -/
theorem volume_perm (h : s.Perm s') : s.volume = s'.volume := by
  rw [volume_eq_prod, volume_eq_prod]
  exact (h.map UInt64.toNat).prod_eq

/-- An axis of size one makes no difference to the volume. -/
theorem volume_insertOne (front back : Shape) :
    volume (front ++ 1 :: back) = volume (front ++ back) := by
  rw [volume_append, volume_cons, UInt64.toNat_one, Nat.one_mul, volume_append]

/-- A rearranged shape has the same volume. -/
theorem Rearranged.volume_eq (h : Rearranged s s') : s.volume = s'.volume := by
  induction h with
  | perm h => exact volume_perm h
  | insertOne front back => exact (volume_insertOne front back).symm
  | deleteOne front back => exact volume_insertOne front back
  | trans _ _ ih ih' => exact ih.trans ih'

/-- Where there is no zero and the last product fits in 64 bits, all products before it are counted,
and none is larger. -/
theorem product?_front (h0 : 0 ∉ s) (hfront : front <+: s) (h : a.toNat * s.volume = n.toNat) :
    ∃ m, Count.product? a front = some m ∧ m ≤ n := by
  obtain ⟨back, rfl⟩ := hfront
  have hfront0 : 0 ∉ front := fun hmem => h0 (List.mem_append_left _ hmem)
  have hback0 : 0 ∉ back := fun hmem => h0 (List.mem_append_right _ hmem)
  -- The volume of what comes after the first sizes is positive, so that the product only grows.
  have hle : a.toNat * front.volume ≤ n.toNat := by
    calc a.toNat * front.volume
        ≤ a.toNat * front.volume * volume back := Nat.le_mul_of_pos_right _ (volume_pos hback0)
      _ = n.toNat := by rw [Nat.mul_assoc, ← volume_append, h]
  have hlt : a.toNat * front.volume < UInt64.size := lt_of_le_of_lt hle n.toNat_lt_size
  obtain ⟨m, hm⟩ := Count.exists_toNat_eq hlt
  refine ⟨m, product?_eq_some.2 ⟨?_, hm.symm⟩, ?_⟩
  · rwa [leading_eq_self hfront0]
  · rwa [UInt64.le_iff_toNat_le, hm]

end Shape

namespace Variable

variable {s s' : Shape} {t : ElementType}

/-- The check of the bytes succeeds exactly when they can be counted in 64 bits. -/
theorem exists_checkBytes_eq_ok :
    (∃ n, checkBytes s t = .ok n) ↔ s.volume * t.byteSize.toNat ≤ 2 ^ 64 - 1 := by
  constructor
  · rintro ⟨n, hn⟩
    rw [checkBytes_eq_ok.1 hn]
    exact Nat.le_pred_of_lt n.toNat_lt_size
  · intro hle
    have hlt : s.volume * t.byteSize.toNat < UInt64.size := Nat.lt_of_le_pred (by decide) hle
    obtain ⟨n, hn⟩ := Count.exists_toNat_eq hlt
    exact ⟨n, checkBytes_eq_ok.2 hn.symm⟩

/-- The check of the bytes gives their number for a shape exactly when it gives it for the
rearranged shape. -/
theorem checkBytes_rearranged (h : s.Rearranged s') {n : UInt64} :
    checkBytes s' t = .ok n ↔ checkBytes s t = .ok n := by
  rw [checkBytes_eq_ok, checkBytes_eq_ok, h.volume_eq]

/-- The check of the bytes of a shape succeeds exactly when their exact number is at most 2^64 - 1,
and gives this number; otherwise its error names the shape and the type. In a shape without a zero
that passes, the products of the first sizes are all counted, and are no larger. A rearranged shape
passes in the same cases with the same number, and fails in the same cases with its own error. -/
theorem checkBytes_exact (s : Shape) (t : ElementType) :
    ((∃ n, checkBytes s t = .ok n) ↔ s.volume * t.byteSize.toNat ≤ 2 ^ 64 - 1) ∧
    (∀ n, checkBytes s t = .ok n ↔ n.toNat = s.volume * t.byteSize.toNat) ∧
    (¬ s.volume * t.byteSize.toNat ≤ 2 ^ 64 - 1 → checkBytes s t = .error (.sizeOverflow s t)) ∧
    (∀ n, checkBytes s t = .ok n → 0 ∉ s → ∀ front, front <+: s →
      ∃ m, Count.product? t.byteSize front = some m ∧ m ≤ n) ∧
    ∀ s', s.Rearranged s' →
      (∀ n, checkBytes s' t = .ok n ↔ checkBytes s t = .ok n) ∧
      (checkBytes s' t = .error (.sizeOverflow s' t) ↔
        checkBytes s t = .error (.sizeOverflow s t)) := by
  refine ⟨exists_checkBytes_eq_ok, fun n => checkBytes_eq_ok.trans eq_comm, fun hlarge => ?_,
    fun n hn h0 front hfront => ?_, fun s' h => ⟨fun n => checkBytes_rearranged h, ?_⟩⟩
  · refine checkBytes_eq_error.2 ⟨?_, rfl⟩
    exact Nat.le_of_pred_lt (Nat.lt_of_not_le hlarge)
  · have hexact := checkBytes_eq_ok.1 hn
    exact Shape.product?_front h0 hfront (by rwa [Nat.mul_comm])
  · rw [checkBytes_eq_error, checkBytes_eq_error, h.volume_eq, and_iff_left rfl, and_iff_left rfl]

/-- The two sizes have the product 2^64 - 1, the greatest that passes. They pass in the other order
and with an axis of size one between them as well. Elements of two bytes are too many. A zero at the
end of sizes that are too large on their own passes. -/
theorem checkBytes_exact_boundary :
    checkBytes [4294967295, 4294967297] .uint8 = .ok 18446744073709551615 ∧
    (0 ∉ ([4294967295, 4294967297] : Shape) ∧ [4294967295] <+: ([4294967295, 4294967297] : Shape) ∧
      ∃ m, Count.product? ElementType.uint8.byteSize [4294967295] = some m ∧
        m ≤ 18446744073709551615) ∧
    (Shape.Rearranged [4294967295, 4294967297] [4294967297, 1, 4294967295] ∧
      checkBytes [4294967297, 1, 4294967295] .uint8 = .ok 18446744073709551615) ∧
    (¬ Shape.volume [4294967295, 4294967297] * ElementType.int16.byteSize.toNat ≤ 2 ^ 64 - 1 ∧
      checkBytes [4294967295, 4294967297] .int16 =
        .error (.sizeOverflow [4294967295, 4294967297] .int16)) ∧
    checkBytes [18446744073709551615, 2, 0] .float64 = .ok 0 ∧
    Count.product? 8 [18446744073709551615, 2, 0] = none := by
  obtain ⟨-, hexact, -, hpartial, hrearranged⟩ := checkBytes_exact [4294967295, 4294967297] .uint8
  have hok : checkBytes [4294967295, 4294967297] .uint8 = .ok 18446744073709551615 :=
    (hexact _).2 (by decide +kernel)
  have h0 : 0 ∉ ([4294967295, 4294967297] : Shape) := by decide +kernel
  have hfront : [4294967295] <+: ([4294967295, 4294967297] : Shape) := ⟨[4294967297], rfl⟩
  have hother : Shape.Rearranged [4294967295, 4294967297] [4294967297, 1, 4294967295] :=
    .trans (.perm (.swap ..)) (.insertOne [4294967297] [4294967295])
  have hlarge :
      ¬ Shape.volume [4294967295, 4294967297] * ElementType.int16.byteSize.toNat ≤ 2 ^ 64 - 1 := by
    decide +kernel
  exact ⟨hok, ⟨h0, hfront, hpartial _ hok h0 _ hfront⟩,
    ⟨hother, ((hrearranged _ hother).1 _).2 hok⟩,
    ⟨hlarge, (checkBytes_exact _ .int16).2.2.1 hlarge⟩,
    ((checkBytes_exact _ .float64).2.1 0).2 (by decide +kernel), by decide +kernel⟩

end Variable

end TensorGraph
