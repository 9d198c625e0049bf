import Mathlib.Logic.Function.Basic

namespace WaitingList

variable {ε δ α β γ : Type} {x y : Except ε α} {b : β}

theorem ok_bind (a : α) (f : α → Except ε β) : (Except.ok a >>= f) = f a := rfl

theorem map_bind (x : Except ε α) (f : α → Except ε β) (g : β → γ) :
    (x >>= f).map g = x >>= fun a => (f a).map g := by
  cases x <;> rfl

/-- What a computation that can fail has gone through where it succeeds. -/
theorem bind_eq_ok_iff {f : α → Except ε β} :
    x >>= f = .ok b ↔ ∃ a, x = .ok a ∧ f a = .ok b := by
  cases x <;> simp [bind, Except.bind]

theorem map_eq_ok_iff {f : α → β} : x.map f = .ok b ↔ ∃ a, x = .ok a ∧ f a = b := by
  cases x <;> simp [Except.map]

/-- What a fault stands in front of gives something only where there is no fault. -/
theorem guard_eq_ok_iff {c : Prop} [Decidable c] {fault : ε} {f : α → Except ε β}
    {x : Except ε β} : (if c then Except.error fault >>= f else x) = .ok b ↔ ¬ c ∧ x = .ok b := by
  by_cases hc : c <;> simp [hc, bind, Except.bind]

theorem mapError_map_eq_ok_iff {f : α → β} {g : ε → δ} (hf : Function.Injective f) {a : α} :
    (x.map f).mapError g = .ok (f a) ↔ x = .ok a := by
  cases x with
  | error e => exact ⟨nofun, nofun⟩
  | ok c => exact ⟨fun h => congrArg Except.ok (hf (Except.ok.inj h)), fun h => by rw [h]; rfl⟩

@[simp] theorem toOption_bind (x : Except ε α) (f : α → Except ε β) :
    (x >>= f).toOption = x.toOption.bind fun a => (f a).toOption := by
  cases x <;> rfl

@[simp] theorem toOption_pure (a : α) : (pure a : Except ε α).toOption = some a := rfl

theorem toOption_mapError (f : ε → δ) (x : Except ε α) : (x.mapError f).toOption = x.toOption := by
  cases x <;> rfl

/-- Results that are alike once something is hidden in what they give and in their errors fail
alike or not at all. -/
theorem told_cases {f : α → β} {g : ε → δ} (h : (x.map f).mapError g = (y.map f).mapError g) :
    (∃ e e', x = .error e ∧ y = .error e' ∧ g e = g e') ∨
      ∃ a b, x = .ok a ∧ y = .ok b ∧ f a = f b := by
  cases x with
  | error e =>
    cases y with
    | error e' => exact .inl ⟨e, e', rfl, rfl, Except.error.inj h⟩
    | ok b => cases h
  | ok a =>
    cases y with
    | error e => cases h
    | ok b => exact .inr ⟨a, b, rfl, rfl, Except.ok.inj h⟩

theorem alike_cases {f : α → β} (h : x.map f = y.map f) :
    (∃ e, x = .error e ∧ y = .error e) ∨ ∃ a b, x = .ok a ∧ y = .ok b ∧ f a = f b := by
  obtain ⟨e, _, hx, hy, rfl⟩ | hok := told_cases (g := id) (congrArg (Except.mapError id) h)
  · exact .inl ⟨e, hx, hy⟩
  · exact .inr hok

end WaitingList
