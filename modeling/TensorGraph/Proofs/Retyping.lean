import TensorGraph.Proofs.OrderHistory

/-!
# The type of the elements over a history of calls

Whether the elements of a variable can have another type is decided by its current shape. The shape
changes with every order that is granted, but its volume is the product of the extents, which no
call changes (`Sized.volume_eq`). So the answer is the same at every time, and it is known when the
variable is added (`run_elementType`): the bytes of the first shape can be counted, or there are
none. For the same reason a change of the type and a change of the order do not get in each other's
way (`Paired.reordered_retyped`).
-/

namespace TensorGraph

namespace Variable

variable {w : Variable} {t : ElementType} {target : AxisOrder}

/-- The bytes of the variable can be counted in 64 bits with elements of the given type. -/
def CountableAs (w : Variable) (t : ElementType) : Prop :=
  w.shape.volume * t.byteSize.toNat < UInt64.size

/-- Two numbers decide whether the bytes can be counted. -/
instance decidableCountableAs (w : Variable) (t : ElementType) : Decidable (w.CountableAs t) :=
  inferInstanceAs (Decidable (w.shape.volume * t.byteSize.toNat < UInt64.size))

/-- The variable with elements of another type, or as it is where it cannot have them. -/
def retyped (w : Variable) (t : ElementType) : Variable :=
  if w.CountableAs t then { w with elementType := t } else w

/-- The variable in another order, or as it is where it does not fit in it. -/
def reordered (w : Variable) (target : AxisOrder) : Variable :=
  if w.FitsIn target then w.inOrder target else w

/-- The type of the elements makes no difference to which orders are granted, and why others are
not. -/
theorem reorder_eq_map (w : Variable) (t : ElementType) (target : AxisOrder) :
    ({ w with elementType := t } : Variable).reorder target =
      (w.reorder target).map fun x => { x with elementType := t } := by
  have hsizes : ({ w with elementType := t } : Variable).sizes = w.sizes := rfl
  unfold reorder
  rw [hsizes]
  split
  · rfl
  · split <;> rfl

/-- A change of the type keeps the layout. -/
theorem sameLayout_retyped (w : Variable) (t : ElementType) : w.SameLayout (w.retyped t) := by
  unfold retyped
  split
  · exact ⟨rfl, rfl⟩
  · exact .refl w

/-- A change of the order keeps the volume. -/
theorem Paired.volume_reordered (h : w.Paired) (target : AxisOrder) :
    (w.reordered target).shape.volume = w.shape.volume := by
  unfold reordered
  split
  · next hfits => exact h.volume_of_reorder (h.reorder_eq_inOrder.2 ⟨hfits, rfl⟩)
  · rfl

/-- A change of the order makes no difference to the types that the elements can have. -/
theorem Paired.countableAs_reordered (h : w.Paired) :
    (w.reordered target).CountableAs t ↔ w.CountableAs t := by
  rw [CountableAs, CountableAs, h.volume_reordered]

/-- A change of the type and a change of the order can be exchanged. -/
theorem Paired.reordered_retyped (h : w.Paired) (t : ElementType) (target : AxisOrder) :
    (w.retyped t).reordered target = (w.reordered target).retyped t := by
  have hfits : (w.retyped t).FitsIn target ↔ w.FitsIn target := by
    rw [FitsIn, (w.sameLayout_retyped t).extent_eq, FitsIn]
  have hcount : (w.reordered target).CountableAs t ↔ w.CountableAs t := h.countableAs_reordered
  rw [reordered, if_congr hfits rfl rfl, retyped.eq_1 (w.reordered target), if_congr hcount rfl rfl,
    retyped, reordered]
  -- Each change is made or not, whatever becomes of the other one.
  split <;> split <;> rfl

end Variable

namespace Graph

variable {g : Graph} {v : VariableId} {m : Axis → UInt64} {w : Variable} {t : ElementType}
  {target : AxisOrder} {shape : Shape} {order : AxisOrder}

/-- The volume of a variable is the product of its extents at every time. -/
theorem Sized.volume_eq (h : g.Sized v m) (hw : g.getVariable? v = some w) :
    w.shape.volume = ∏ a, (m a).toNat := by
  rw [(h.paired hw).volume_eq, h.extent hw]

/-! ## One change -/

/-- Asking for a type succeeds exactly when the bytes can be counted with it. -/
theorem setElementType_eq_done_iff (hw : g.getVariable? v = some w) :
    (g.perform (.setElementType v t)).result = .ok .done ↔ w.CountableAs t := by
  cases hw' : w.setElementType t with
  | ok w' =>
    obtain ⟨hcount, -⟩ := Variable.setElementType_eq_ok.1 hw'
    rw [perform_setElementType_of_ok hw hw']
    exact iff_of_true rfl hcount
  | error reason =>
    obtain ⟨hlarge, -⟩ := Variable.setElementType_eq_error.1 hw'
    rw [perform_setElementType_of_error hw hw']
    exact iff_of_false (fun hok => by cases hok) (Nat.not_lt.2 hlarge)

/-- Asking for a type leaves the variable with that type, or as it is. -/
theorem after_setElementType_eq (hw : g.getVariable? v = some w) (t : ElementType) :
    g.after (.setElementType v t) = g.written [.putVariable v (w.retyped t)] := by
  cases hw' : w.setElementType t with
  | ok w' =>
    obtain ⟨hlt, rfl⟩ := Variable.setElementType_eq_ok.1 hw'
    have hcount : w.CountableAs t := hlt
    rw [after, perform_setElementType_of_ok hw hw', Variable.retyped, if_pos hcount]
    rfl
  | error reason =>
    obtain ⟨hlarge, -⟩ := Variable.setElementType_eq_error.1 hw'
    have hnot : ¬ w.CountableAs t := Nat.not_lt.2 hlarge
    rw [after, perform_setElementType_of_error hw hw', Variable.retyped, if_neg hnot]
    exact (apply_putVariable_of_some hw).symm

/-- Where a type is granted, it is what has changed. -/
theorem after_setElementType_of_done (hw : g.getVariable? v = some w)
    (hok : (g.perform (.setElementType v t)).result = .ok .done) :
    g.after (.setElementType v t) = g.written [.putVariable v { w with elementType := t }] := by
  rw [after_setElementType_eq hw, Variable.retyped, if_pos ((setElementType_eq_done_iff hw).1 hok)]

/-- Where a type is refused, nothing has changed. -/
theorem after_setElementType_of_not_done (hw : g.getVariable? v = some w)
    (hnot : (g.perform (.setElementType v t)).result ≠ .ok .done) :
    g.after (.setElementType v t) = g := by
  have hlarge : ¬ w.CountableAs t := mt (setElementType_eq_done_iff hw).2 hnot
  rw [after_setElementType_eq hw, Variable.retyped, if_neg hlarge]
  exact apply_putVariable_of_some hw

/-- Asking for an order leaves the variable in that order, or as it is. -/
theorem after_reorder_eq (hw : g.getVariable? v = some w) (hpaired : w.Paired)
    (target : AxisOrder) :
    g.after (.reorder v target) = g.written [.putVariable v (w.reordered target)] := by
  rcases reorder_cases hw hpaired target with ⟨hfits, -, hafter⟩ | ⟨hnot, -, hafter⟩
  · rw [hafter, Variable.reordered, if_pos hfits]
  · rw [hafter, Variable.reordered, if_neg hnot]
    exact (apply_putVariable_of_some hw).symm

/-! ## Two changes -/

/-- An order is granted, or refused for the same reason, whether or not another type has been asked
for before. -/
theorem result_reorder_after_setElementType (hw : g.getVariable? v = some w) (t : ElementType)
    (target : AxisOrder) :
    ((g.after (.setElementType v t)).perform (.reorder v target)).result =
      (g.perform (.reorder v target)).result := by
  rw [after_setElementType_eq hw, Variable.retyped]
  split
  · have hw₁ : (g.written [.putVariable v { w with elementType := t }]).getVariable? v =
        some { w with elementType := t } := by simp
    have hsame := w.reorder_eq_map t target
    cases hw' : w.reorder target with
    | ok w' =>
      rw [hw'] at hsame
      rw [perform_reorder_of_ok hw hw', perform_reorder_of_ok hw₁ hsame]
      rfl
    | error e =>
      rw [hw'] at hsame
      rw [perform_reorder_of_error hw hw', perform_reorder_of_error hw₁ hsame]
      rfl
  · have hsame : g.written [.putVariable v w] = g := apply_putVariable_of_some hw
    rw [hsame]

/-- A type is granted in the same cases whether or not another order has been asked for before. -/
theorem setElementType_after_reorder (hw : g.getVariable? v = some w) (hpaired : w.Paired) :
    ((g.after (.reorder v target)).perform (.setElementType v t)).result = .ok .done ↔
      (g.perform (.setElementType v t)).result = .ok .done := by
  have hw₁ : (g.after (.reorder v target)).getVariable? v = some (w.reordered target) := by
    rw [after_reorder_eq hw hpaired]
    simp
  rw [setElementType_eq_done_iff hw₁, hpaired.countableAs_reordered, setElementType_eq_done_iff hw]

/-- Asking for an order and then for a type leaves the variable with both changes. -/
theorem after_setElementType_after_reorder (hw : g.getVariable? v = some w) (hpaired : w.Paired)
    (t : ElementType) (target : AxisOrder) :
    (g.after (.reorder v target)).after (.setElementType v t) =
      g.written [.putVariable v ((w.reordered target).retyped t)] := by
  have hw₁ : (g.written [.putVariable v (w.reordered target)]).getVariable? v =
      some (w.reordered target) := by
    simp
  rw [after_reorder_eq hw hpaired, after_setElementType_eq hw₁, written_putVariable_putVariable]

/-- Asking for a type and then for an order leaves the variable with both changes. -/
theorem after_reorder_after_setElementType (hw : g.getVariable? v = some w) (hpaired : w.Paired)
    (t : ElementType) (target : AxisOrder) :
    (g.after (.setElementType v t)).after (.reorder v target) =
      g.written [.putVariable v ((w.reordered target).retyped t)] := by
  have hw₁ : (g.written [.putVariable v (w.retyped t)]).getVariable? v = some (w.retyped t) := by
    simp
  have hpaired₁ : (w.retyped t).Paired := (w.sameLayout_retyped t).paired hpaired
  rw [after_setElementType_eq hw, after_reorder_eq hw₁ hpaired₁, written_putVariable_putVariable,
    hpaired.reordered_retyped]

/-! ## Histories -/

/-- A variable that is added can have elements of four bytes, which are those that it has. -/
theorem volume_lt_of_addVariable
    (hadd : (g.perform (.addVariable shape order)).result = .ok (.variableId v)) :
    shape.volume * ElementType.float32.byteSize.toNat < UInt64.size := by
  rcases addVariable_cases g shape order with ⟨x, j, hx, -⟩ | ⟨⟨e, he⟩, -⟩
  · exact (Variable.create_eq_ok.1 hx).2.1
  · rw [hadd] at he
    cases he

/-- The shape with which a variable is added decides for all time which types its elements can
have. -/
theorem setElementType_run_eq_done_iff
    (hadd : (g.perform (.addVariable shape order)).result = .ok (.variableId v))
    {calls : List Call}
    (hw : ((g.after (.addVariable shape order)).run calls).getVariable? v = some w) :
    (((g.after (.addVariable shape order)).run calls).perform (.setElementType v t)).result =
        .ok .done ↔
      shape.volume * t.byteSize.toNat < UInt64.size := by
  obtain ⟨-, hget, hsized⟩ := sized_addVariable hadd
  have hvolume : w.shape.volume = shape.volume :=
    ((hsized.run calls).volume_eq hw).trans (hsized.volume_eq hget).symm
  rw [setElementType_eq_done_iff hw, Variable.CountableAs, hvolume]

/-- A variable is added with a shape in an order. After every history, as long as the variable is
there, its elements can have a type exactly when the first shape has a zero or its bytes can be
counted in 64 bits with that type. The elements have the type then, and nothing else has changed;
otherwise nothing has. So types of at most four bytes are always granted, and with every type those
that are not wider. A change of the type and a change of the order can be exchanged: each of them
ends in the same way before and after the other, and both leave the same graph, in which the
variable has the changes that were granted. -/
theorem run_elementType
    (hadd : (g.perform (.addVariable shape order)).result = .ok (.variableId v)) :
    let start := g.after (.addVariable shape order)
    ∀ calls w, (start.run calls).getVariable? v = some w →
      let g' := start.run calls
      (∀ t, (g'.perform (.setElementType v t)).result = .ok .done ↔
        0 ∈ shape ∨ shape.volume * t.byteSize.toNat ≤ 2 ^ 64 - 1) ∧
      (∀ t,
        ((g'.perform (.setElementType v t)).result = .ok .done → g'.after (.setElementType v t) =
          g'.written [.putVariable v { w with elementType := t }]) ∧
        ((g'.perform (.setElementType v t)).result ≠ .ok .done →
          g'.after (.setElementType v t) = g')) ∧
      (∀ t, t.byteSize ≤ 4 → (g'.perform (.setElementType v t)).result = .ok .done) ∧
      (∀ t t', t'.byteSize ≤ t.byteSize →
        (g'.perform (.setElementType v t)).result = .ok .done →
        (g'.perform (.setElementType v t')).result = .ok .done) ∧
      ∀ t target,
        ((g'.after (.setElementType v t)).perform (.reorder v target)).result =
          (g'.perform (.reorder v target)).result ∧
        (((g'.after (.reorder v target)).perform (.setElementType v t)).result = .ok .done ↔
          (g'.perform (.setElementType v t)).result = .ok .done) ∧
        (g'.run [.setElementType v t, .reorder v target]).getVariable? v =
          some ((w.reordered target).retyped t) ∧
        g'.run [.setElementType v t, .reorder v target] =
          g'.run [.reorder v target, .setElementType v t] := by
  intro start calls w hw g'
  obtain ⟨-, -, hsized⟩ := sized_addVariable hadd
  have hpaired : w.Paired := (hsized.run calls).paired hw
  have hdone : ∀ t, (g'.perform (.setElementType v t)).result = .ok .done ↔
      shape.volume * t.byteSize.toNat < 2 ^ 64 :=
    fun t => setElementType_run_eq_done_iff hadd hw
  have hnarrow : ∀ t t' : ElementType, t'.byteSize ≤ t.byteSize →
      shape.volume * t'.byteSize.toNat ≤ shape.volume * t.byteSize.toNat :=
    fun t t' hle => Nat.mul_le_mul_left _ (UInt64.le_iff_toNat_le.1 hle)
  refine ⟨fun t => ?_, fun t => ⟨after_setElementType_of_done hw,
    after_setElementType_of_not_done hw⟩, fun t hle => ?_, fun t t' hle ht => ?_,
    fun t target => ⟨?_, ?_, ?_, ?_⟩⟩
  · -- A shape with a zero has no bytes to count.
    have hzero : 0 ∈ shape → shape.volume * t.byteSize.toNat ≤ 2 ^ 64 - 1 := by
      intro hmem
      rw [Shape.volume_eq_zero.2 hmem, Nat.zero_mul]
      exact Nat.zero_le _
    rw [hdone, or_iff_right_of_imp hzero]
    omega
  · exact (hdone t).2 (lt_of_le_of_lt (hnarrow .float32 t hle) (volume_lt_of_addVariable hadd))
  · exact (hdone t').2 (lt_of_le_of_lt (hnarrow t t' hle) ((hdone t).1 ht))
  · exact result_reorder_after_setElementType hw t target
  · exact setElementType_after_reorder hw hpaired
  · have hboth : g'.run [.setElementType v t, .reorder v target] =
        g'.written [.putVariable v ((w.reordered target).retyped t)] :=
      after_reorder_after_setElementType hw hpaired t target
    rw [hboth]
    simp
  · exact (after_reorder_after_setElementType hw hpaired t target).trans
      (after_setElementType_after_reorder hw hpaired t target).symm

/-- What is asked of a variable with four times 2^59 elements, one more than can have eight bytes
each: this type is asked for and refused, the axes are laid out anew, and the elements become
bytes. -/
def widened : List Call :=
  [.setElementType ⟨0⟩ .float64, .reorder ⟨0⟩ .nhwc, .setElementType ⟨0⟩ .uint8]

/-- After this history, elements of eight bytes are refused as they would have been in the
beginning, elements of four bytes are granted, and it makes no difference whether they are asked for
before or after the axes are put in their first order again. The variable has the changes that were
granted. -/
theorem run_elementType_widened :
    let start := Graph.after ∅ (.addVariable [576460752303423488, 4] .nc)
    let g := start.run widened
    (∃ w, g.getVariable? ⟨0⟩ = some w ∧ w.shape = [576460752303423488, 1, 1, 4] ∧
      (g.after (.setElementType ⟨0⟩ .int32)).getVariable? ⟨0⟩ =
        some { w with elementType := .int32 }) ∧
    (g.perform (.setElementType ⟨0⟩ .float64)).result ≠ .ok .done ∧
    g.after (.setElementType ⟨0⟩ .float64) = g ∧
    (g.perform (.setElementType ⟨0⟩ .int32)).result = .ok .done ∧
    g.run [.setElementType ⟨0⟩ .int32, .reorder ⟨0⟩ .nc] =
      g.run [.reorder ⟨0⟩ .nc, .setElementType ⟨0⟩ .int32] := by
  intro start g
  have hadd : ((∅ : Graph).perform (.addVariable [576460752303423488, 4] .nc)).result =
      .ok (.variableId ⟨0⟩) := by decide +kernel
  obtain ⟨w, hw, hshape⟩ : ∃ w, g.getVariable? ⟨0⟩ = some w ∧
      w.shape = [576460752303423488, 1, 1, 4] := Option.map_eq_some_iff.1 (by decide +kernel)
  obtain ⟨hgranted, hchange, hfour, -, hexchange⟩ := run_elementType hadd widened w hw
  have hint : (g.perform (.setElementType ⟨0⟩ .int32)).result = .ok .done :=
    hfour .int32 (by decide)
  have hfloat : (g.perform (.setElementType ⟨0⟩ .float64)).result ≠ .ok .done := by
    rw [ne_eq, hgranted]
    decide +kernel
  have hretyped : (g.after (.setElementType ⟨0⟩ .int32)).getVariable? ⟨0⟩ =
      some { w with elementType := .int32 } := by
    rw [(hchange .int32).1 hint]
    simp
  exact ⟨⟨w, hw, hshape, hretyped⟩, hfloat, (hchange .float64).2 hfloat, hint,
    (hexchange .int32 .nc).2.2.2⟩

end Graph

end TensorGraph
