import TensorGraph.Proofs.FreshIds

/-!
# The order of a variable over a history of calls

A variable that is added with a shape and an order has an extent along every axis. Whatever calls
come after, the variable keeps its extents as long as it is in the graph (`Sized.run`): links, names
and element types do not matter for them, and another order lists the same extents along other axes.
A change looks at the current shape only, but the extents decide what it finds there. So an order is
granted or not whatever orders were granted before, the last one granted is the order of the
variable (`Sized.order_run`), and its shape is the list of the extents along that order. `run_order`
states this for histories of any length, and draws the consequences: chains of changes are as good
as their last one, and every order that the variable has had can be restored.
-/

namespace TensorGraph

namespace Variable

variable {w w' : Variable}

/-- A variable of the same layout is paired. -/
theorem SameLayout.paired (h : w.SameLayout w') (hw : w.Paired) : w'.Paired := by
  rw [Paired, h.shape, h.order]
  exact hw

/-- A variable of the same layout has the same extents. -/
theorem SameLayout.extent_eq (h : w.SameLayout w') : w'.extent = w.extent := by
  rw [extent, h.shape, h.order]
  rfl

/-- A change of a variable keeps its layout, or lists its extents in another order. -/
theorem Change.layout (h : w.Change w') (hw : w.Paired) :
    w.SameLayout w' ∨ ∃ target, w.FitsIn target ∧ w' = w.inOrder target := by
  cases h with
  | relinked consumers producer => exact Or.inl ⟨rfl, rfl⟩
  | amended ha =>
    cases ha with
    | reordered hw' => exact Or.inr ⟨_, hw.reorder_eq_inOrder.1 hw'⟩
    | retyped hw' =>
      obtain ⟨-, rfl⟩ := setElementType_eq_ok.1 hw'
      exact Or.inl ⟨rfl, rfl⟩
    | renamed name => exact Or.inl ⟨rfl, rfl⟩
    | annotated annotations => exact Or.inl ⟨rfl, rfl⟩
  | reread => exact Or.inl ⟨rfl, rfl⟩

end Variable

namespace Graph

/-- The order that a call gives the variable under an id: the one that it asks for, if it
succeeds. -/
def granted? (g : Graph) (v : VariableId) : Call → Option AxisOrder
  | .reorder u target =>
    if u = v ∧ (g.perform (.reorder u target)).result = .ok .done then some target else none
  | _ => none

/-- The orders that the calls of a history give the variable under an id, one after the other. -/
def grants (v : VariableId) : Graph → List Call → List AxisOrder
  | _, [] => []
  | g, c :: calls => (g.granted? v c).toList ++ grants v (g.after c) calls

/-- The id has been handed out, and the variable under it, if there still is one, has the extents
`m`. -/
structure Sized (g : Graph) (v : VariableId) (m : Axis → UInt64) : Prop where
  /-- The counter has passed the id. -/
  passed : v.toNat < g.nextVariable.toNat
  /-- The variable has one size for each axis. -/
  paired : ∀ {w}, g.getVariable? v = some w → w.Paired
  /-- The sizes are the extents. -/
  extent : ∀ {w}, g.getVariable? v = some w → w.extent = m

variable {g g' : Graph} {v : VariableId} {m : Axis → UInt64} {w w' : Variable} {c : Call}
  {shape : Shape} {order target : AxisOrder}

/-! ## Extents are kept -/

/-- An id that has been handed out is not the next one. -/
theorem Sized.ne_next (h : g.Sized v m) : v ≠ g.nextVariable := by
  rintro rfl
  exact Nat.lt_irrefl _ h.passed

/-- No call changes the extents of a variable. -/
theorem Sized.step (h : g.Sized v m) (hs : g.Step g') : g'.Sized v m := by
  have hlayout : ∀ {w'}, g'.getVariable? v = some w' → w'.Paired ∧ w'.extent = m := by
    intro w' hw'
    rcases hs.of_getVariable? hw' with ⟨hnext, -⟩ | ⟨w, hw, hchange⟩
    · exact absurd hnext h.ne_next
    · have hpaired := h.paired hw
      have hextent := h.extent hw
      rcases hchange.layout hpaired with hsame | ⟨target, hfits, rfl⟩
      · exact ⟨hsame.paired hpaired, hsame.extent_eq.trans hextent⟩
      · exact ⟨w.paired_inOrder target, hfits.extent_inOrder.trans hextent⟩
  exact ⟨lt_of_lt_of_le h.passed (hs.next_le .variable), fun hw' => (hlayout hw').1,
    fun hw' => (hlayout hw').2⟩

/-- No history changes the extents of a variable. -/
theorem Sized.run (h : g.Sized v m) (calls : List Call) : (g.run calls).Sized v m :=
  run_invariant (P := fun g => g.Sized v m) h (fun h hs => h.step hs) calls

/-- A variable that has been added has the sizes that it was added with. -/
theorem sized_addVariable
    (hadd : (g.perform (.addVariable shape order)).result = .ok (.variableId v)) :
    shape.length = order.rank ∧
    (g.after (.addVariable shape order)).getVariable? v = some { id := v, shape, order } ∧
    (g.after (.addVariable shape order)).Sized v (shape.extent order) := by
  rcases addVariable_cases g shape order with ⟨w, j, hw, hn, hok, hafter⟩ | ⟨⟨e, he⟩, -⟩
  · rw [hadd] at hok
    obtain rfl := Answer.variableId.inj (Except.ok.inj hok)
    obtain ⟨hpaired, -, rfl⟩ := Variable.create_eq_ok.1 hw
    have hget : (g.after (.addVariable shape order)).getVariable? g.nextVariable =
        some { id := g.nextVariable, shape, order } := by
      rw [hafter]
      simp
    have hpassed : g.nextVariable.toNat <
        (g.after (.addVariable shape order)).nextVariable.toNat := by
      have hj := Id.succ?_eq_some.1 hn
      rw [hafter]
      show g.nextVariable.toNat < j.toNat
      omega
    refine ⟨hpaired, hget, hpassed, fun hw => ?_, fun hw => ?_⟩
    · obtain rfl := Option.some.inj (hget.symm.trans hw)
      exact hpaired
    · obtain rfl := Option.some.inj (hget.symm.trans hw)
      rfl
  · rw [hadd] at he
    cases he

/-! ## One change of the order -/

/-- Asking for an order in which the variable fits lists its extents in that order, and asking for
another one fails and does nothing. -/
theorem reorder_cases (hw : g.getVariable? v = some w) (hpaired : w.Paired) (target : AxisOrder) :
    (w.FitsIn target ∧ (g.perform (.reorder v target)).result = .ok .done ∧
      g.after (.reorder v target) = g.written [.putVariable v (w.inOrder target)]) ∨
    ¬ w.FitsIn target ∧ (∃ e, (g.perform (.reorder v target)).result = .error e) ∧
      g.after (.reorder v target) = g := by
  unfold after
  cases hw' : w.reorder target with
  | ok w' =>
    obtain ⟨hfits, rfl⟩ := hpaired.reorder_eq_inOrder.1 hw'
    rw [perform_reorder_of_ok hw hw']
    exact Or.inl ⟨hfits, rfl, rfl⟩
  | error e =>
    have hnot : ¬ w.FitsIn target := by
      intro hfits
      rw [hpaired.reorder_eq_inOrder.2 ⟨hfits, rfl⟩] at hw'
      cases hw'
    rw [perform_reorder_of_error hw hw']
    exact Or.inr ⟨hnot, ⟨e, rfl⟩, rfl⟩

/-- An order is granted exactly when the variable fits in it. -/
theorem reorder_eq_done_iff (hw : g.getVariable? v = some w) (hpaired : w.Paired) :
    (g.perform (.reorder v target)).result = .ok .done ↔ w.FitsIn target := by
  rcases reorder_cases hw hpaired target with ⟨hfits, hok, -⟩ | ⟨hnot, ⟨e, he⟩, -⟩
  · exact iff_of_true hok hfits
  · rw [he]
    exact iff_of_false (fun h => by cases h) hnot

/-- An order that is granted is the order of the variable. -/
theorem after_reorder (hw : g.getVariable? v = some w) (hpaired : w.Paired)
    (hfits : w.FitsIn target) :
    g.after (.reorder v target) = g.written [.putVariable v (w.inOrder target)] := by
  rcases reorder_cases hw hpaired target with ⟨-, -, hafter⟩ | ⟨hnot, -⟩
  · exact hafter
  · exact absurd hfits hnot

/-! ## Histories -/

/-- A call that does not ask for an order of the variable grants none. -/
theorem granted?_eq_none (hc : ∀ target, c ≠ .reorder v target) : g.granted? v c = none := by
  cases c with
  | reorder u target =>
    have hne : u ≠ v := fun huv => hc target (huv ▸ rfl)
    simp [granted?, hne]
  | _ => rfl

/-- The order of a variable after a call is the one that the call has granted, or the old one. -/
theorem Sized.order_after (h : g.Sized v m) (hw' : (g.after c).getVariable? v = some w') :
    ∃ w, g.getVariable? v = some w ∧ w'.order = (g.granted? v c).getD w.order := by
  by_cases hc : ∃ target, c = .reorder v target
  · obtain ⟨target, rfl⟩ := hc
    rcases (step_after g _).of_getVariable? hw' with ⟨hnext, -⟩ | ⟨w, hw, -⟩
    · exact absurd hnext h.ne_next
    refine ⟨w, hw, ?_⟩
    rcases reorder_cases hw (h.paired hw) target with ⟨-, hok, hafter⟩ | ⟨-, ⟨e, he⟩, hafter⟩
    · have hput : (g.after (.reorder v target)).getVariable? v = some (w.inOrder target) := by
        rw [hafter]
        simp
      obtain rfl := Option.some.inj (hput.symm.trans hw')
      simp [granted?, hok, Variable.inOrder]
    · rw [hafter, hw] at hw'
      obtain rfl := Option.some.inj hw'
      simp [granted?, he]
  · have hne : ∀ target, c ≠ .reorder v target := fun target he => hc ⟨target, he⟩
    obtain ⟨w, hw, hlayout⟩ := (effect_after g c).layout hne h.ne_next hw'
    refine ⟨w, hw, ?_⟩
    rw [granted?_eq_none hne]
    exact hlayout.order

/-- The order of a variable after a history is the last one granted, or the old one. -/
theorem Sized.order_run {calls : List Call} (h : g.Sized v m)
    (hw' : (g.run calls).getVariable? v = some w') :
    ∃ w, g.getVariable? v = some w ∧ w'.order = (grants v g calls).getLastD w.order := by
  induction calls generalizing g with
  | nil => exact ⟨w', hw', rfl⟩
  | cons c calls ih =>
    obtain ⟨x, hx, hlast⟩ := ih (h.step (step_after g c)) hw'
    obtain ⟨w, hw, hfirst⟩ := h.order_after hx
    refine ⟨w, hw, ?_⟩
    rw [hlast, hfirst, grants]
    cases g.granted? v c with
    | none => rfl
    | some target => exact (List.getLastD_cons ..).symm

/-- A chain of changes of the order, whether they succeed or fail, leaves the variable in some order
in which it fits, and everything else as it was. -/
theorem exists_run_reorder (hw : g.getVariable? v = some w) (hpaired : w.Paired)
    (targets : List AxisOrder) :
    ∃ target, w.FitsIn target ∧
      g.run (targets.map (.reorder v)) = g.written [.putVariable v (w.inOrder target)] := by
  induction targets generalizing g w with
  | nil =>
    refine ⟨w.order, w.fitsIn_order, ?_⟩
    rw [hpaired.inOrder_order]
    exact (apply_putVariable_of_some hw).symm
  | cons first targets ih =>
    rw [List.map_cons, run_cons]
    rcases reorder_cases hw hpaired first with ⟨hfirst, -, hafter⟩ | ⟨-, -, hafter⟩
    · -- The rest of the chain starts from the first order, which the next one overwrites.
      rw [hafter]
      have hget : (g.written [.putVariable v (w.inOrder first)]).getVariable? v =
          some (w.inOrder first) := by simp
      obtain ⟨target, hfits, hrun⟩ := ih hget (w.paired_inOrder first)
      refine ⟨target, ?_, ?_⟩
      · rwa [Variable.FitsIn, hfirst.extent_inOrder] at hfits
      · rw [hrun, hfirst.inOrder_inOrder]
        exact written_putVariable_putVariable g v _ _
    · rw [hafter]
      exact ih hw hpaired

/-- A chain of changes of the order ends in success exactly when the variable fits in the last
order, and is then as good as its last change. -/
theorem run_reorder_append (hw : g.getVariable? v = some w) (hpaired : w.Paired)
    (targets : List AxisOrder) (last : AxisOrder) :
    (((g.run (targets.map (.reorder v))).perform (.reorder v last)).result = .ok .done ↔
      w.FitsIn last) ∧
    (w.FitsIn last → g.run ((targets ++ [last]).map (.reorder v)) = g.after (.reorder v last)) := by
  obtain ⟨target, hfits, hrun⟩ := exists_run_reorder hw hpaired targets
  have hget : (g.written [.putVariable v (w.inOrder target)]).getVariable? v =
      some (w.inOrder target) := by simp
  have hsame : (w.inOrder target).FitsIn last ↔ w.FitsIn last := by
    rw [Variable.FitsIn, hfits.extent_inOrder, Variable.FitsIn]
  refine ⟨?_, fun hlast => ?_⟩
  · rw [hrun, reorder_eq_done_iff hget (w.paired_inOrder target), hsame]
  · calc g.run ((targets ++ [last]).map (.reorder v))
        = (g.run (targets.map (.reorder v))).after (.reorder v last) := by
          rw [List.map_append, run_append]
          rfl
      _ = g.written [.putVariable v (w.inOrder last)] := by
          rw [hrun, after_reorder hget (w.paired_inOrder target) (hsame.2 hlast),
            hfits.inOrder_inOrder, written_putVariable_putVariable]
      _ = g.after (.reorder v last) := (after_reorder hw hpaired hlast).symm

/-- Asking for the order that a variable has changes nothing. -/
theorem after_reorder_order (hw : g.getVariable? v = some w) (hpaired : w.Paired) :
    g.after (.reorder v w.order) = g := by
  rw [after_reorder hw hpaired w.fitsIn_order, hpaired.inOrder_order]
  exact apply_putVariable_of_some hw

/-- The order that a variable had before a history can be restored after it. -/
theorem Sized.reorder_back {calls : List Call} (h : g.Sized v m) (hw : g.getVariable? v = some w)
    (hw' : (g.run calls).getVariable? v = some w') :
    ∃ x, w'.reorder w.order = .ok x ∧ w.SameLayout x := by
  have hextent : w'.extent = w.extent := ((h.run calls).extent hw').trans (h.extent hw).symm
  have hfits : w'.FitsIn w.order := by
    rw [Variable.FitsIn, hextent]
    exact w.fitsIn_order
  have hshape : (w'.inOrder w.order).shape = w.shape := by
    show w.order.axes.map w'.extent = w.shape
    rw [hextent]
    exact Shape.map_extent (h.paired hw)
  have hok := ((h.run calls).paired hw').reorder_eq_inOrder.2 ⟨hfits, rfl⟩
  exact ⟨_, hok, hshape, rfl⟩

/-- A variable is added with a shape in an order; the extents `m` are its sizes along the axes of
the order and one along all others. After every history the variable, if it is still there, has the
last order that was granted, and its shape is the list of the extents along that order. Another
order is granted exactly when it has every axis whose extent is not one. A chain of changes that
ends in success has the effect of its last one, going to another order and back changes nothing, and
after any further calls the variable can have its present order and shape again. The same holds of
the variable apart from the graph. -/
theorem run_order
    (hadd : (g.perform (.addVariable shape order)).result = .ok (.variableId v)) :
    let m := shape.extent order
    let start := g.after (.addVariable shape order)
    order.axes.map m = shape ∧ (∀ a, a ∉ order.axes → m a = 1) ∧
    ∀ calls w, (start.run calls).getVariable? v = some w →
      let g' := start.run calls
      w.order = (grants v start calls).getLastD order ∧ w.shape = w.order.axes.map m ∧
      (∀ target, (g'.perform (.reorder v target)).result = .ok .done ↔
        ∀ a, m a ≠ 1 → a ∈ target.axes) ∧
      (∀ targets last,
        ((g'.run (targets.map (.reorder v))).perform (.reorder v last)).result = .ok .done →
        (g'.perform (.reorder v last)).result = .ok .done ∧
        g'.run ((targets ++ [last]).map (.reorder v)) = g'.after (.reorder v last)) ∧
      (∀ target,
        ((g'.after (.reorder v target)).perform (.reorder v w.order)).result = .ok .done ∧
        g'.run [.reorder v target, .reorder v w.order] = g') ∧
      (∀ later w', (g'.run later).getVariable? v = some w' →
        ∃ x, w'.reorder w.order = .ok x ∧ x.shape = w.shape ∧ x.order = w.order) ∧
      ∀ (targets : List AxisOrder) (w' : Variable), targets.foldlM Variable.reorder w = .ok w' ↔
        (∀ target ∈ targets, ∀ a, m a ≠ 1 → a ∈ target.axes) ∧
        w' = { w with
          order := targets.getLastD w.order, shape := (targets.getLastD w.order).axes.map m } := by
  intro m start
  obtain ⟨hlength, hget, hsized⟩ := sized_addVariable hadd
  refine ⟨Shape.map_extent hlength, fun a ha => Shape.extent_of_not_mem ha shape,
    fun calls w hw => ?_⟩
  intro g'
  have hsized' : g'.Sized v m := hsized.run calls
  have hpaired : w.Paired := hsized'.paired hw
  have hextent : w.extent = m := hsized'.extent hw
  have hfits : ∀ target, w.FitsIn target ↔ ∀ a, m a ≠ 1 → a ∈ target.axes := by
    intro target
    rw [Variable.FitsIn, hextent]
  have hdone : ∀ target, (g'.perform (.reorder v target)).result = .ok .done ↔ w.FitsIn target :=
    fun target => reorder_eq_done_iff hw hpaired
  refine ⟨?_, ?_, fun target => (hdone target).trans (hfits target),
    fun targets last hlast => ?_, fun target => ?_, fun later w' hw' => ?_, fun targets w' => ?_⟩
  · obtain ⟨x, hx, horder⟩ := hsized.order_run hw
    obtain rfl := Option.some.inj (hget.symm.trans hx)
    exact horder
  · rw [← hextent]
    exact (Shape.map_extent hpaired).symm
  · obtain ⟨hok, hchain⟩ := run_reorder_append hw hpaired targets last
    exact ⟨(hdone last).2 (hok.1 hlast), hchain (hok.1 hlast)⟩
  · -- Going there and back is a chain that ends in the order that the variable has.
    obtain ⟨hok, hchain⟩ := run_reorder_append hw hpaired [target] w.order
    exact ⟨hok.2 w.fitsIn_order, (hchain w.fitsIn_order).trans (after_reorder_order hw hpaired)⟩
  · obtain ⟨x, hx, hsame⟩ := hsized'.reorder_back hw hw'
    exact ⟨x, hx, hsame.shape, hsame.order⟩
  · rw [hpaired.foldlM_reorder]
    simp only [hfits, Variable.inOrder, hextent]

/-- An image of five columns and no rows, with three channels. -/
def image : Variable where
  id := ⟨0⟩
  shape := [3, 0, 5]
  order := .chw
  elementType := .float64
  consumers := .ofList [⟨0⟩]

/-- A history that drops the batch axis of the variable, tries to drop its rows as well, and has an
operator read it. -/
def cropped : List Call :=
  [.reorder ⟨0⟩ .chw, .reorder ⟨0⟩ .nc, .addOperator "Conv" ∅, .bindInput ⟨0⟩ "x" ⟨0⟩,
    .setElementType ⟨0⟩ .float64]

/-- The image comes from a batch of one. After the history its order is the one that was granted,
three axes cannot be dropped, a chain has the effect of its last change, and there and back changes
nothing. -/
theorem run_order_image :
    let start := Graph.after ∅ (.addVariable [1, 0, 5, 3] .nhwc)
    let g := start.run cropped
    g.getVariable? ⟨0⟩ = some image ∧
    image.order = (grants ⟨0⟩ start cropped).getLastD .nhwc ∧
    image.shape = image.order.axes.map (Shape.extent [1, 0, 5, 3] .nhwc) ∧
    (g.perform (.reorder ⟨0⟩ .ntc)).result ≠ .ok .done ∧
    g.run [.reorder ⟨0⟩ .hwcn, .reorder ⟨0⟩ .nc, .reorder ⟨0⟩ .cnhw] =
      g.after (.reorder ⟨0⟩ .cnhw) ∧
    g.run [.reorder ⟨0⟩ .chwn, .reorder ⟨0⟩ .chw] = g ∧
    ∃ w, [AxisOrder.hwcn, .nchw].foldlM Variable.reorder image = .ok w ∧
      w.shape = [1, 3, 0, 5] := by
  intro start g
  have hadd : ((∅ : Graph).perform (.addVariable [1, 0, 5, 3] .nhwc)).result =
      .ok (.variableId ⟨0⟩) := by decide
  have hw : g.getVariable? ⟨0⟩ = some image := by decide
  obtain ⟨-, -, hrun⟩ := run_order hadd
  obtain ⟨horder, hshape, hgrant, hchain, hback, -, hvalue⟩ := hrun cropped image hw
  refine ⟨hw, horder, hshape, ?_, (hchain [.hwcn, .nc] .cnhw (by decide)).2, (hback .chwn).2, ?_⟩
  · exact fun hok => absurd ((hgrant .ntc).1 hok .height (by decide)) (by decide)
  · have hfits : ∀ target ∈ [AxisOrder.hwcn, .nchw],
        ∀ a, Shape.extent [1, 0, 5, 3] .nhwc a ≠ 1 → a ∈ target.axes := by decide
    exact ⟨_, (hvalue [.hwcn, .nchw] _).2 ⟨hfits, rfl⟩, by decide⟩

end Graph

end TensorGraph
