import Mathlib.Data.List.Forall2

/-!
# When a computation that can fail succeeds

Succeeding in several steps is succeeding in each of them.
-/

namespace TensorGraph.Result

variable {ε ε' α β : Type}

/-- Two steps succeed when the first one does, and then the second one. -/
theorem bind_eq_ok {x : Except ε α} {f : α → Except ε β} {b : β} :
    (x >>= f) = .ok b ↔ ∃ a, x = .ok a ∧ f a = .ok b := by
  cases x with
  | error e => simp [bind, Except.bind]
  | ok a => simp [bind, Except.bind]

/-- Two steps fail when the first one does, or the second one after it. -/
theorem bind_eq_error {x : Except ε α} {f : α → Except ε β} {e : ε} :
    (x >>= f) = .error e ↔ x = .error e ∨ ∃ a, x = .ok a ∧ f a = .error e := by
  cases x with
  | error e' => simp [bind, Except.bind]
  | ok a => simp [bind, Except.bind]

/-- A function is applied to the value of a success. -/
theorem map_eq_ok {x : Except ε α} {f : α → β} {b : β} :
    x.map f = .ok b ↔ ∃ a, x = .ok a ∧ f a = b := by
  cases x with
  | error e => simp [Except.map]
  | ok a => simp [Except.map]

/-- A function that is applied to the value of a success changes no error. -/
theorem map_eq_error {x : Except ε α} {f : α → β} {e : ε} :
    x.map f = .error e ↔ x = .error e := by
  cases x with
  | error e' => simp [Except.map]
  | ok a => simp [Except.map]

/-- A function is applied to the error of a failure. -/
theorem mapError_eq_error {x : Except ε α} {f : ε → ε'} {e : ε'} :
    x.mapError f = .error e ↔ ∃ e', x = .error e' ∧ f e' = e := by
  cases x with
  | error e' => simp [Except.mapError]
  | ok a => simp [Except.mapError]

/-- Another error makes no success. -/
theorem mapError_eq_ok {x : Except ε α} {f : ε → ε'} {a : α} :
    x.mapError f = .ok a ↔ x = .ok a := by
  cases x with
  | error e => simp [Except.mapError]
  | ok b => simp [Except.mapError]

/-- A list of steps succeeds when all of them do, with their values in order. -/
theorem mapM_eq_ok {f : α → Except ε β} {l : List α} {l' : List β} :
    l.mapM f = .ok l' ↔ List.Forall₂ (fun a b => f a = .ok b) l l' := by
  induction l generalizing l' with
  | nil =>
    rw [List.mapM_nil, List.forall₂_nil_left_iff]
    exact ⟨fun h => (Except.ok.inj h).symm, fun h => h ▸ rfl⟩
  | cons a l ih =>
    rw [List.mapM_cons, bind_eq_ok, List.forall₂_cons_left_iff]
    simp only [bind_eq_ok, ih]
    constructor
    · rintro ⟨b, hb, bs, hbs, hcons⟩
      exact ⟨b, bs, hb, hbs, (Except.ok.inj hcons).symm⟩
    · rintro ⟨b, bs, hb, hbs, rfl⟩
      exact ⟨b, hb, bs, hbs, rfl⟩

/-- Where two lists are related element by element, each element of the second list is related to
one of the first. -/
theorem exists_of_forall₂ {R : α → β → Prop} {l : List α} {l' : List β} {b : β}
    (h : List.Forall₂ R l l') (hb : b ∈ l') : ∃ a ∈ l, R a b := by
  induction h with
  | nil => cases hb
  | cons hfirst hrest ih =>
    rcases List.mem_cons.1 hb with rfl | hmem
    · exact ⟨_, List.mem_cons_self, hfirst⟩
    · obtain ⟨a, hin, ha⟩ := ih hmem
      exact ⟨a, List.mem_cons_of_mem _ hin, ha⟩

/-- Each value of a list of steps is the value of one of them. -/
theorem exists_of_mem_mapM {f : α → Except ε β} {l : List α} {l' : List β} {b : β}
    (h : l.mapM f = .ok l') (hb : b ∈ l') : ∃ a ∈ l, f a = .ok b :=
  exists_of_forall₂ (R := fun a b => f a = .ok b) (mapM_eq_ok.1 h) hb

/-- Each step of a list of steps that succeeds has a value. -/
theorem exists_of_mapM_mem {f : α → Except ε β} {l : List α} {l' : List β} {a : α}
    (h : l.mapM f = .ok l') (ha : a ∈ l) : ∃ b ∈ l', f a = .ok b :=
  exists_of_forall₂ (List.Forall₂.flip (R := fun b a => f a = .ok b) (mapM_eq_ok.1 h)) ha

/-- Where a step undoes a function on some values, a list of steps undoes it on lists of them. -/
theorem mapM_map_eq_ok {f : α → Except ε β} {g : β → α} {P : β → Prop}
    (h : ∀ {b b'}, f (g b) = .ok b' ↔ b' = b ∧ P b) {l l' : List β} :
    (l.map g).mapM f = .ok l' ↔ l' = l ∧ ∀ b ∈ l, P b := by
  rw [mapM_eq_ok, List.forall₂_map_left_iff]
  simp only [h]
  induction l generalizing l' with
  | nil =>
    rw [List.forall₂_nil_left_iff]
    simp
  | cons b l ih =>
    simp only [List.forall₂_cons_left_iff, ih, List.forall_mem_cons]
    constructor
    · rintro ⟨b', bs, ⟨rfl, hb⟩, ⟨rfl, hl⟩, rfl⟩
      exact ⟨rfl, hb, hl⟩
    · rintro ⟨rfl, hb, hl⟩
      exact ⟨b, l, ⟨rfl, hb⟩, ⟨rfl, hl⟩, rfl⟩

end TensorGraph.Result
