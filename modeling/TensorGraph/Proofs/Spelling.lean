import TensorGraph.AxisOrder

/-!
# Two ways to find a registered order

An order is found by its axes (`AxisOrder.ofAxes?`) and by its name (`AxisOrder.ofName?`). The two
searches go through the registry side by side: each name spells the axes of its order
(`AxisOrder.spell_axes`), and a text spells at most one list of axes (`Axis.spell_injective`),
because every letter is one character and can be cut off the front of a text in one way only
(`Axis.name_append_inj`). So they agree on all lists of axes, not only on those that are registered,
and a text that does not spell any axes is the name of nothing.
-/

namespace TensorGraph

namespace Axis

/-- The letters of some axes, one after the other. -/
def spell (axes : List Axis) : String := String.join (axes.map name)

/-- The first axis is spelled first. -/
@[simp]
theorem spell_cons (a : Axis) (axes : List Axis) : spell (a :: axes) = a.name ++ spell axes :=
  String.join_cons

/-- A letter is one character. -/
theorem length_toList_name (a : Axis) : a.name.toList.length = 1 := by cases a <;> decide

/-- Some axes are spelled with one character for each of them. -/
theorem length_toList_spell (axes : List Axis) : (spell axes).toList.length = axes.length := by
  induction axes with
  | nil => rfl
  | cons a axes ih =>
    rw [spell_cons, String.toList_append, List.length_append, length_toList_name, ih,
      List.length_cons, Nat.add_comm]

/-- The letter in front of a text and the rest of the text are determined. -/
theorem name_append_inj {a b : Axis} {s t : String} (h : a.name ++ s = b.name ++ t) :
    a = b ∧ s = t := by
  have hlist := congrArg String.toList h
  rw [String.toList_append, String.toList_append] at hlist
  have hlength : a.name.toList.length = b.name.toList.length := by
    rw [length_toList_name, length_toList_name]
  obtain ⟨hname, hrest⟩ := List.append_inj hlist hlength
  exact ⟨name_injective (String.toList_inj.1 hname), String.toList_inj.1 hrest⟩

/-- A text spells at most one list of axes. -/
theorem spell_injective {axes axes' : List Axis} (h : spell axes = spell axes') : axes = axes' := by
  have hlength : axes.length = axes'.length := by
    rw [← length_toList_spell axes, h, length_toList_spell]
  induction axes generalizing axes' with
  | nil => exact (List.length_eq_zero_iff.1 hlength.symm).symm
  | cons a axes ih =>
    -- The other list has a first axis as well, and it has the same letter.
    obtain ⟨b, rest, rfl⟩ := List.exists_cons_of_length_eq_add_one hlength.symm
    rw [spell_cons, spell_cons] at h
    obtain ⟨rfl, hrest⟩ := name_append_inj h
    rw [ih hrest (Nat.succ.inj hlength)]

end Axis

namespace AxisOrder

variable {o : AxisOrder} {l : List Axis} {s : String}

/-- The name of an order spells its axes. -/
theorem spell_axes (o : AxisOrder) : Axis.spell o.axes = o.name := by cases o <;> decide

/-- The name of an order spells no other axes. -/
theorem name_eq_spell : o.name = Axis.spell l ↔ o.axes = l := by
  rw [← spell_axes]
  exact ⟨Axis.spell_injective, fun h => h ▸ rfl⟩

/-- An order is found by its own axes and no others. -/
theorem ofAxes?_eq_some : ofAxes? l = some o ↔ o.axes = l := by
  constructor
  · intro h
    simpa using List.find?_some h
  · rintro rfl
    exact ofAxes?_axes o

/-- An order is found by its own name and no other. -/
theorem ofName?_eq_some : ofName? s = some o ↔ o.name = s := by
  constructor
  · intro h
    simpa using List.find?_some h
  · rintro rfl
    exact ofName?_name o

/-- What is found by the letters of some axes is what is found by the axes. -/
theorem ofName?_spell (l : List Axis) : ofName? (Axis.spell l) = ofAxes? l := by
  -- Both search the registry, and they ask the same of every order in it.
  refine congrArg all.find? (funext fun o => ?_)
  exact decide_eq_decide.2 name_eq_spell

/-- For all axes, in any number and with any repetitions, the letters of the axes find what the axes
find. A text finds an order exactly when it spells axes that find the order, and the text is then
the name of the order and these are its axes, so that they are the only ones that it spells. Every
registered order is found in both ways. -/
theorem lookups_agree :
    (∀ l, ofName? (Axis.spell l) = ofAxes? l) ∧
    (∀ s o, ofName? s = some o ↔ ∃ l, Axis.spell l = s ∧ ofAxes? l = some o) ∧
    (∀ s o l, Axis.spell l = s → ofAxes? l = some o → o.name = s ∧ o.axes = l) ∧
    ∀ o, ofName? o.name = some o ∧ ofAxes? o.axes = some o := by
  refine ⟨ofName?_spell, fun s o => ⟨fun h => ?_, ?_⟩, ?_,
    fun o => ⟨ofName?_name o, ofAxes?_axes o⟩⟩
  · have hname := ofName?_eq_some.1 h
    exact ⟨o.axes, (spell_axes o).trans hname, ofAxes?_axes o⟩
  · rintro ⟨l, rfl, hl⟩
    rw [ofName?_spell, hl]
  · rintro s o l rfl hl
    have hown := ofAxes?_eq_some.1 hl
    exact ⟨name_eq_spell.2 hown, hown⟩

/-- The letters `HWNC` find the order of their axes. With the first two of `NCHW` doubled, or the
last two exchanged, they find nothing. -/
theorem lookups_agree_hwnc :
    Axis.spell [.height, .width, .batch, .channel] = "HWNC" ∧ ofName? "HWNC" = some .hwnc ∧
    hwnc.name = "HWNC" ∧ hwnc.axes = [.height, .width, .batch, .channel] ∧
    ofName? "NNCCHW" = none ∧ ofName? "NCWH" = none := by
  obtain ⟨hspell, hsplit, hown, -⟩ := lookups_agree
  have htext : Axis.spell [.height, .width, .batch, .channel] = "HWNC" := by decide
  have hfound : ofAxes? [.height, .width, .batch, .channel] = some .hwnc := by decide
  obtain ⟨hname, haxes⟩ := hown _ _ _ htext hfound
  exact ⟨htext, (hsplit _ _).2 ⟨_, htext, hfound⟩, hname, haxes,
    hspell [.batch, .batch, .channel, .channel, .height, .width],
    hspell [.batch, .channel, .width, .height]⟩

end AxisOrder

end TensorGraph
