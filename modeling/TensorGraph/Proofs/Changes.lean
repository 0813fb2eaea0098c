import TensorGraph.Proofs.Codec.Graph
import TensorGraph.Proofs.Step

/-!
# What one call can make of one node

A node that is there after a call was made by it, or was there before and has changed in one of few
ways. Facts about single nodes that hold along every history are read off `Step.of_getVariable?` and
`Step.of_getOperator?` without a look at the calls.
-/

namespace TensorGraph

/-- What a call can make of a variable that stays in the graph. -/
inductive Variable.Change (w : Variable) : Variable → Prop
  /-- The links change. -/
  | relinked (consumers : SortedSet OperatorId) (producer : Option OperatorId) :
    Change w { w with consumers, producer }
  /-- What the variable carries changes. -/
  | amended {w' : Variable} (ha : w.Amended w') : Change w w'
  /-- The floats are read from text. -/
  | reread : Change w (w.mapFloats (·.reread))

/-- What a call can make of an operator that stays in the graph. -/
inductive Operator.Change (p : Operator) : Operator → Prop
  /-- The slots change. -/
  | rebound (inputs outputs : Slots) : Change p { p with inputs, outputs }
  /-- What the operator carries changes. -/
  | amended {p' : Operator} (ha : p.Amended p') : Change p p'
  /-- The floats are read from text. -/
  | reread : Change p (p.mapFloats (·.reread))

namespace Variable

/-- A variable may stay as it is. -/
theorem Change.refl (w : Variable) : w.Change w := .relinked w.consumers w.producer

/-- A variable that takes a link changes its links. -/
theorem change_join (w : Variable) (role : Role) (o : OperatorId) : w.Change (w.join role o) := by
  cases role with
  | input => exact .relinked _ _
  | output => exact .relinked _ _

/-- A variable that is released changes its links. -/
theorem change_release (w : Variable) (role : Role) (o : OperatorId) (p : Operator)
    (v : VariableId) : w.Change (w.release role o p v) := by
  cases role with
  | input =>
    rw [release]
    split
    · exact .relinked _ _
    · exact .refl w
  | output => exact .relinked _ _

/-- An amended variable keeps its id and its links. -/
theorem Amended.links {w w' : Variable} (h : w.Amended w') :
    w'.id = w.id ∧ w'.consumers = w.consumers ∧ w'.producer = w.producer := by
  cases h with
  | reordered hw =>
    unfold reorder at hw
    split at hw
    · cases hw
    · split at hw
      · cases hw
      · obtain rfl := Except.ok.inj hw
        exact ⟨rfl, rfl, rfl⟩
  | retyped hw =>
    obtain ⟨-, rfl⟩ := setElementType_eq_ok.1 hw
    exact ⟨rfl, rfl, rfl⟩
  | renamed name => exact ⟨rfl, rfl, rfl⟩
  | annotated annotations => exact ⟨rfl, rfl, rfl⟩

/-- A variable keeps its id. -/
theorem Change.id_eq {w w' : Variable} (h : w.Change w') : w'.id = w.id := by
  cases h with
  | relinked consumers producer => rfl
  | amended ha => exact ha.links.1
  | reread => rfl

/-- A variable stays addressable. -/
theorem Addressable.of_change {w w' : Variable} (h : w.Addressable) (hw : w.Change w') :
    w'.Addressable := by
  cases hw with
  | relinked consumers producer => exact h.congr rfl rfl rfl
  | amended ha =>
    cases ha with
    | reordered hw => exact h.of_reorder hw
    | retyped hw => exact h.of_setElementType hw
    | renamed name => exact h.congr rfl rfl rfl
    | annotated annotations => exact h.congr rfl rfl rfl
  | reread => exact h.congr rfl rfl rfl

end Variable

namespace Operator

/-- An operator may stay as it is. -/
theorem Change.refl (p : Operator) : p.Change p := .rebound p.inputs p.outputs

/-- Setting a slot changes the slots. -/
theorem change_setSlot (p : Operator) (role : Role) (slot : String) (v : VariableId) :
    p.Change (p.setSlot role slot v) := by
  cases role with
  | input => exact .rebound _ _
  | output => exact .rebound _ _

/-- Emptying a slot changes the slots. -/
theorem change_clearSlot (p : Operator) (role : Role) (slot : String) :
    p.Change (p.clearSlot role slot) := by
  cases role with
  | input => exact .rebound _ _
  | output => exact .rebound _ _

/-- An amended operator keeps its id and its slots. -/
theorem Amended.slots_eq {p p' : Operator} (h : p.Amended p') :
    p'.id = p.id ∧ ∀ role, p'.slots role = p.slots role := by
  cases h with
  | renamed name => exact ⟨rfl, fun role => by cases role <;> rfl⟩
  | annotated annotations => exact ⟨rfl, fun role => by cases role <;> rfl⟩

/-- An operator keeps its id. -/
theorem Change.id_eq {p p' : Operator} (h : p.Change p') : p'.id = p.id := by
  cases h with
  | rebound inputs outputs => rfl
  | amended ha => exact ha.slots_eq.1
  | reread => rfl

end Operator

/-- What is found after one update was found before and has changed in a way that is allowed, if the
update is allowed and so is no change. -/
theorem exists_of_update {α β : Type} [DecidableEq α] {f : α → Option β} {R : β → β → Prop}
    (hrefl : ∀ b, R b b) {a k : α} {b b' x : β} (hb : f a = some b) (hx : R b x)
    (h : (if k = a then some x else f k) = some b') : ∃ b, f k = some b ∧ R b b' := by
  split at h
  · next hk =>
    obtain rfl := Option.some.inj h
    exact ⟨b, hk ▸ hb, hx⟩
  · exact ⟨b', h, hrefl b'⟩

/-- What was found before one update is found after it and has changed in a way that is allowed, if
the update is allowed and so is no change. -/
theorem exists_update_of_some {α β : Type} [DecidableEq α] {f : α → Option β} {R : β → β → Prop}
    (hrefl : ∀ b, R b b) {a k : α} {b b' x : β} (hb : f a = some b) (hx : R b x)
    (hk : f k = some b') : ∃ b'', (if k = a then some x else f k) = some b'' ∧ R b' b'' := by
  split
  · next heq =>
    rw [heq, hb] at hk
    obtain rfl := Option.some.inj hk
    exact ⟨x, rfl, hx⟩
  · exact ⟨b', hk, hrefl b'⟩

namespace Graph

variable {g g' : Graph}

/-- A variable that is there after a call was added by it, or was there before. -/
theorem Step.of_getVariable? {v : VariableId} {w' : Variable} (hs : g.Step g')
    (hw' : g'.getVariable? v = some w') :
    (v = g.nextVariable ∧ g.nextVariable.succ? = some g'.nextVariable ∧
      ∃ shape order, Variable.create v shape order = .ok w') ∨
    ∃ w, g.getVariable? v = some w ∧ w.Change w' := by
  cases hs with
  | same => exact Or.inr ⟨w', hw', .refl w'⟩
  | addVariable hw hn =>
    rw [written_cons, written_cons, written_nil, Write.getVariable?_putVariable] at hw'
    split at hw'
    · next hv =>
      obtain rfl := Option.some.inj hw'
      exact Or.inl ⟨hv, hn, _, _, hv ▸ hw⟩
    · exact Or.inr ⟨w', hw', .refl w'⟩
  | addOperator name parameters hn => exact Or.inr ⟨w', hw', .refl w'⟩
  | @bind role o slot u p w hp hw _ _ =>
    rw [getVariable?_bound] at hw'
    exact Or.inr (exists_of_update .refl hw (w.change_join role o) hw')
  | @unbind role o slot u p w hp hw _ =>
    rw [getVariable?_unbound] at hw'
    exact Or.inr (exists_of_update .refl hw (w.change_release role o _ u) hw')
  | @rebind role o slot old new p w x hp hw hx _ _ _ =>
    -- The new variable takes the link that the old one gives up.
    rw [getVariable?_bound] at hw'
    split at hw'
    · next hv =>
      obtain rfl := Option.some.inj hw'
      exact Or.inr ⟨x, hv ▸ hx, x.change_join role o⟩
    · rw [getVariable?_unbound] at hw'
      exact Or.inr (exists_of_update .refl hw (w.change_release role o _ old) hw')
  | removeOperator hp =>
    rw [getVariable?_detached, Option.map_eq_some_iff] at hw'
    obtain ⟨w, hw, rfl⟩ := hw'
    exact Or.inr ⟨w, hw, .relinked _ _⟩
  | removeVariable hw hl =>
    rw [written_cons, written_nil, Write.getVariable?_dropVariable] at hw'
    split at hw'
    · cases hw'
    · exact Or.inr ⟨w', hw', .refl w'⟩
  | amendVariable hw ha =>
    rw [written_cons, written_nil, Write.getVariable?_putVariable] at hw'
    exact Or.inr (exists_of_update .refl hw (.amended ha) hw')
  | amendOperator hp ha => exact Or.inr ⟨w', hw', .refl w'⟩
  | reload hg =>
    rw [eq_of_reload hg, getVariable?_mapFloats, Option.map_eq_some_iff] at hw'
    obtain ⟨w, hw, rfl⟩ := hw'
    exact Or.inr ⟨w, hw, .reread⟩

/-- An operator that is there after a call was added by it, or was there before. -/
theorem Step.of_getOperator? {o : OperatorId} {p' : Operator} (hs : g.Step g')
    (hp' : g'.getOperator? o = some p') :
    (o = g.nextOperator ∧ g.nextOperator.succ? = some g'.nextOperator ∧
      ∃ name parameters, p' = Rules.newOperator g name parameters) ∨
    ∃ p, g.getOperator? o = some p ∧ p.Change p' := by
  cases hs with
  | same => exact Or.inr ⟨p', hp', .refl p'⟩
  | addVariable hw hn => exact Or.inr ⟨p', hp', .refl p'⟩
  | addOperator name parameters hn =>
    rw [written_cons, written_cons, written_nil, Write.getOperator?_putOperator] at hp'
    split at hp'
    · next ho =>
      obtain rfl := Option.some.inj hp'
      exact Or.inl ⟨ho, hn, _, _, rfl⟩
    · exact Or.inr ⟨p', hp', .refl p'⟩
  | @bind role q slot v p w hp _ _ _ =>
    rw [getOperator?_bound] at hp'
    exact Or.inr (exists_of_update .refl hp (p.change_setSlot role slot v) hp')
  | @unbind role q slot v p w hp _ _ =>
    rw [getOperator?_unbound] at hp'
    exact Or.inr (exists_of_update .refl hp (p.change_clearSlot role slot) hp')
  | @rebind role q slot old new p w x hp _ _ _ _ _ =>
    -- The slot is emptied and filled again, which sets it.
    rw [getOperator?_bound, Operator.setSlot_clearSlot, getOperator?_unbound] at hp'
    split at hp'
    · next ho =>
      obtain rfl := Option.some.inj hp'
      exact Or.inr ⟨p, ho ▸ hp, p.change_setSlot role slot new⟩
    · exact Or.inr ⟨p', hp', .refl p'⟩
  | removeOperator hp =>
    rw [getOperator?_detached] at hp'
    split at hp'
    · cases hp'
    · exact Or.inr ⟨p', hp', .refl p'⟩
  | removeVariable hw hl => exact Or.inr ⟨p', hp', .refl p'⟩
  | amendVariable hw ha => exact Or.inr ⟨p', hp', .refl p'⟩
  | amendOperator hp ha =>
    rw [written_cons, written_nil, Write.getOperator?_putOperator] at hp'
    exact Or.inr (exists_of_update .refl hp (.amended ha) hp')
  | reload hg =>
    rw [eq_of_reload hg, getOperator?_mapFloats, Option.map_eq_some_iff] at hp'
    obtain ⟨p, hp, rfl⟩ := hp'
    exact Or.inr ⟨p, hp, .reread⟩

end Graph

end TensorGraph
