/-!
# Laws of outcomes

When a check, or a chain of checks, succeeds, and when two of them end alike.
-/

namespace SealedBuild

variable {ε α β : Type}

/-- A check whose faults are renamed succeeds exactly when the check does. -/
theorem mapError_eq_ok_iff {δ : Type} {rename : ε → δ} {result : Except ε α} {a : α} :
    result.mapError rename = .ok a ↔ result = .ok a := by
  cases result with
  | error failure => exact ⟨nofun, nofun⟩
  | ok b =>
      change (Except.ok b : Except δ α) = .ok a ↔ _
      rw [Except.ok.injEq, Except.ok.injEq]

/-- A chain succeeds exactly when both of its parts do. -/
theorem bind_eq_ok_iff {first : Except ε α} {next : α → Except ε β} {b : β} :
    (first >>= next) = .ok b ↔ ∃ a, first = .ok a ∧ next a = .ok b := by
  cases first with
  | error failure => exact ⟨nofun, fun ⟨_, h, _⟩ => nomatch h⟩
  | ok a => exact ⟨fun h => ⟨a, rfl, h⟩, fun ⟨_, h, hnext⟩ => Except.ok.inj h ▸ hnext⟩

/-- A chain of checks succeeds exactly when both of its parts do. -/
theorem check_bind_eq_ok_iff {first : Except ε Unit} {next : Except ε β} {b : β} :
    (do first; next) = .ok b ↔ first = .ok () ∧ next = .ok b := by
  cases first with
  | error failure => exact ⟨nofun, nofun⟩
  | ok _ => simp [bind, Except.bind]

/-- The outcome of a check can be told by evaluation. -/
theorem eq_ok_iff_toBool {check : Except ε Unit} : check = .ok () ↔ check.toBool = true := by
  cases check <;> simp [Except.toBool]

/-- Two outcomes that both succeed, with related values, or both fail, with related faults. -/
inductive EndAlike {ε' β : Type} (faults : ε → ε' → Prop) (values : α → β → Prop) :
    Except ε α → Except ε' β → Prop where
  | ok {a : α} {b : β} (h : values a b) : EndAlike faults values (.ok a) (.ok b)
  | error {failure : ε} {failure' : ε'} (h : faults failure failure') :
      EndAlike faults values (.error failure) (.error failure')

theorem endAlike_eq_iff {outcome outcome' : Except ε α} :
    EndAlike (· = ·) (· = ·) outcome outcome' ↔ outcome = outcome' := by
  constructor
  · rintro (⟨rfl⟩ | ⟨rfl⟩) <;> rfl
  · rintro rfl
    cases outcome with
    | error failure => exact .error rfl
    | ok a => exact .ok rfl

/-- Chains end alike if their parts do. -/
theorem EndAlike.bind {α' β' : Type} {between : α → α' → Prop} {values : β → β' → Prop}
    {first : Except ε α} {first' : Except ε α'} {next : α → Except ε β} {next' : α' → Except ε β'}
    (hfirst : EndAlike (· = ·) between first first')
    (hnext : ∀ a a', between a a' → EndAlike (· = ·) values (next a) (next' a')) :
    EndAlike (· = ·) values (first >>= next) (first' >>= next') := by
  cases hfirst with
  | ok h => exact hnext _ _ h
  | error h => exact .error h

/-- Chains with one first part end alike if their second parts do. -/
theorem EndAlike.bind_self {β' : Type} {values : β → β' → Prop} {first : Except ε α}
    {next : α → Except ε β} {next' : α → Except ε β'}
    (hnext : ∀ a, first = .ok a → EndAlike (· = ·) values (next a) (next' a)) :
    EndAlike (· = ·) values (first >>= next) (first >>= next') := by
  cases first with
  | error failure => exact .error rfl
  | ok a => exact hnext a rfl

theorem throw_ne_ok {failure : ε} {a : α} : (throw failure : Except ε α) ≠ .ok a :=
  nofun

end SealedBuild
