/- Computations that may be refused: when a chain of them comes to a value. -/
namespace Bindery

theorem bind_eq_ok_iff {ε α β : Type} {x : Except ε α} {f : α → Except ε β} {b : β} :
    x >>= f = .ok b ↔ ∃ a, x = .ok a ∧ f a = .ok b := by
  cases x <;> simp [bind, Except.bind]

theorem bind_eq_error_iff {ε α β : Type} {x : Except ε α} {f : α → Except ε β} {e : ε} :
    x >>= f = .error e ↔ x = .error e ∨ ∃ a, x = .ok a ∧ f a = .error e := by
  cases x <;> simp [bind, Except.bind]

theorem map_eq_ok_iff {ε α β : Type} {x : Except ε α} {f : α → β} {b : β} :
    x.map f = .ok b ↔ ∃ a, x = .ok a ∧ f a = b := by
  cases x <;> simp [Except.map]

@[simp] theorem mapError_ok {ε δ α : Type} (f : ε → δ) (a : α) :
    (.ok a : Except ε α).mapError f = .ok a := rfl

@[simp] theorem mapError_error {ε δ α : Type} (f : ε → δ) (e : ε) :
    (.error e : Except ε α).mapError f = .error (f e) := rfl

theorem mapError_eq_ok_iff {ε δ α : Type} {x : Except ε α} {f : ε → δ} {a : α} :
    x.mapError f = .ok a ↔ x = .ok a := by
  cases x <;> simp

theorem mapError_eq_error_iff {ε δ α : Type} {x : Except ε α} {f : ε → δ} {d : δ} :
    x.mapError f = .error d ↔ ∃ e, x = .error e ∧ f e = d := by
  cases x <;> simp

theorem eq_ok_of_toOption {ε α : Type} {x : Except ε α} {a : α} (found : x.toOption = some a) :
    x = .ok a := by
  cases x <;> simp_all [Except.toOption]

instance decidableExistsOk {ε α : Type} {x : Except ε α} {P : α → Prop} [DecidablePred P] :
    Decidable (∃ a, x = .ok a ∧ P a) :=
  decidable_of_iff (∃ a ∈ x.toOption, P a) (by cases x <;> simp [Except.toOption])

/-- A computation comes to a value. -/
def Defined {ε α : Type} (x : Except ε α) : Prop := ∃ a, x = .ok a

namespace Defined

theorem ok {ε α : Type} (a : α) : Defined (.ok a : Except ε α) := ⟨a, rfl⟩

theorem pure {ε α : Type} (a : α) : Defined (pure a : Except ε α) := ⟨a, rfl⟩

theorem andThen {ε α β : Type} {x : Except ε α} {f : α → Except ε β} (first : Defined x)
    (rest : ∀ a, Defined (f a)) : Defined (x >>= f) := by
  obtain ⟨a, rfl⟩ := first
  exact rest a

theorem bind_iff {ε α β : Type} {x : Except ε α} {f : α → Except ε β} :
    Defined (x >>= f) ↔ ∃ a, x = .ok a ∧ Defined (f a) := by
  cases x <;> simp [Defined, bind, Except.bind]

theorem first_iff {ε α β : Type} {x : Except ε α} {f : α → β} :
    Defined (x >>= fun a => Pure.pure (f a)) ↔ Defined x := by
  cases x <;> simp [Defined, bind, Except.bind, Pure.pure, Except.pure]

theorem both_iff {ε α β γ : Type} {x : Except ε α} {y : Except ε β} {f : α → β → γ} :
    Defined (x >>= fun a => y >>= fun b => Pure.pure (f a b)) ↔ Defined x ∧ Defined y := by
  cases x <;> cases y <;> simp [Defined, bind, Except.bind, Pure.pure, Except.pure]

end Defined

/-- Every value that a computation comes to has a property. -/
def Gives {ε α : Type} (x : Except ε α) (P : α → Prop) : Prop := ∀ a, x = .ok a → P a

namespace Gives

theorem ok {ε α : Type} {P : α → Prop} {a : α} (holds : P a) : Gives (.ok a : Except ε α) P := by
  rintro _ ⟨⟩
  exact holds

theorem error {ε α : Type} {P : α → Prop} {e : ε} : Gives (.error e : Except ε α) P := by
  rintro _ ⟨⟩

theorem ite {ε α : Type} {P : α → Prop} {c : Prop} [Decidable c] {x y : Except ε α}
    (yes : Gives x P) (no : Gives y P) : Gives (if c then x else y) P := by
  split
  · exact yes
  · exact no

theorem map {ε α β : Type} {x : Except ε α} {f : α → β} {P : α → Prop} {Q : β → Prop}
    (first : Gives x P) (rest : ∀ a, P a → Q (f a)) : Gives (f <$> x) Q := by
  cases x with
  | error e => exact error
  | ok a => exact ok (rest a (first a rfl))

theorem andThen {ε α β : Type} {x : Except ε α} {f : α → Except ε β} {P : α → Prop}
    {Q : β → Prop} (first : Gives x P) (rest : ∀ a, P a → Gives (f a) Q) : Gives (x >>= f) Q := by
  intro b outcome
  obtain ⟨a, value, more⟩ := bind_eq_ok_iff.mp outcome
  exact rest a (first a value) b more

/-- Whatever comes first, the end decides. -/
theorem after {ε α β : Type} {x : Except ε α} {f : α → Except ε β} {Q : β → Prop}
    (rest : ∀ a, Gives (f a) Q) : Gives (x >>= f) Q := by
  intro b outcome
  obtain ⟨a, -, more⟩ := bind_eq_ok_iff.mp outcome
  exact rest a b more

/-- Two ways to one value from which it goes on. -/
theorem branch {ε α β : Type} {c : Prop} [Decidable c] {x y : Except ε α} {f : α → Except ε β}
    {P : α → Prop} {Q : β → Prop} (yes : Gives x P) (no : Gives y P)
    (rest : ∀ a, P a → Gives (f a) Q) : Gives (if c then x >>= f else y >>= f) Q :=
  ite (yes.andThen rest) (no.andThen rest)

end Gives

/-- Every value that a reading comes to has a property. -/
def Whenever {α : Type} (P : α → Prop) (r : Option α) : Prop := ∀ a, r = some a → P a

namespace Whenever

variable {α β : Type} {P : α → Prop} {Q : β → Prop}

theorem none : Whenever P (none : Option α) := by rintro a ⟨⟩

theorem some {a : α} (holds : P a) : Whenever P (some a) := by
  rintro _ ⟨⟩
  exact holds

theorem bind {r : Option α} {f : α → Option β} (first : Whenever P r)
    (rest : ∀ a, P a → Whenever Q (f a)) : Whenever Q (r >>= f) := by
  intro b outcome
  obtain ⟨a, value, more⟩ := Option.bind_eq_some_iff.mp outcome
  exact rest a (first a value) b more

theorem map {r : Option α} {f : α → β} (first : Whenever P r) (rest : ∀ a, P a → Q (f a)) :
    Whenever Q (r.map f) := by
  intro b outcome
  obtain ⟨a, value, rfl⟩ := Option.map_eq_some_iff.mp outcome
  exact rest a (first a value)

theorem ite {c : Prop} [Decidable c] {r s : Option α} (yes : Whenever P r) (no : Whenever P s) :
    Whenever P (if c then r else s) := by
  split
  · exact yes
  · exact no

theorem refused {f : β → Option α} : Whenever P (Option.none >>= f) := none

/-- A reading that is given up under a condition. -/
theorem guarded {c : Prop} [Decidable c] {f : β → Option α} {r : Option α}
    (other : Whenever P r) : Whenever P (if c then (Option.none >>= f) else r) := ite none other

theorem trivial (r : Option α) : Whenever (fun _ => True) r := fun _ _ => True.intro

/-- The reading itself is known besides. -/
theorem known {r : Option α} (holds : Whenever P r) : Whenever (fun a => r = Option.some a ∧ P a) r :=
  fun a value => ⟨value, holds a value⟩

end Whenever

end Bindery
