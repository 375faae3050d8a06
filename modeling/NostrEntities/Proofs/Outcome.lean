import NostrEntities.Diagnostic

/-!
# Outcomes of sequences of steps

A sequence of steps succeeds exactly when each step does, with the value that the
steps before it hand over, and fails with the first step that does. These equivalences
turn a reader or a writer into the conditions that it checks.
-/

namespace Except

variable {ε δ α β : Type}

theorem ok_bind (value : α) (next : α → Except ε β) :
    (.ok value >>= next) = next value := rfl

theorem error_bind (cause : ε) (next : α → Except ε β) :
    ((.error cause : Except ε α) >>= next) = .error cause := rfl

theorem bind_eq_ok_iff {first : Except ε α} {next : α → Except ε β} {result : β} :
    (first >>= next) = .ok result ↔
      ∃ value, first = .ok value ∧ next value = .ok result := by
  cases first <;> simp [bind, Except.bind]

/-- A sequence fails where one of its steps does. -/
theorem bind_eq_error_iff {first : Except ε α} {next : α → Except ε β} {cause : ε} :
    (first >>= next) = .error cause ↔
      first = .error cause ∨
        ∃ value, first = .ok value ∧ next value = .error cause := by
  cases first <;> simp [bind, Except.bind]

/-- What does not fail succeeds. -/
theorem exists_eq_ok_iff {outcome : Except ε α} :
    (∃ value, outcome = .ok value) ↔ ∀ cause, outcome ≠ .error cause := by
  cases outcome <;> simp

/-- A check hands nothing over. -/
theorem exists_unit_iff {property : Unit → Prop} :
    (∃ value, property value) ↔ property () :=
  ⟨fun ⟨_, holds⟩ => holds, fun holds => ⟨(), holds⟩⟩

theorem pure_ne_error {value : α} {cause : ε} :
    (pure value : Except ε α) ≠ .error cause :=
  nofun

theorem pure_eq_ok_iff {value result : α} :
    (pure value : Except ε α) = .ok result ↔ value = result := by
  simp [pure, Except.pure]

theorem map_eq_ok_iff {image : α → β} {outcome : Except ε α} {result : β} :
    outcome.map image = .ok result ↔
      ∃ value, outcome = .ok value ∧ image value = result := by
  cases outcome <;> simp [Except.map]

theorem map_eq_error_iff {image : α → β} {outcome : Except ε α} {cause : ε} :
    outcome.map image = .error cause ↔ outcome = .error cause := by
  cases outcome <;> simp [Except.map]

theorem mapError_eq_ok_iff {restate : ε → δ} {outcome : Except ε α}
    {result : α} :
    outcome.mapError restate = .ok result ↔ outcome = .ok result := by
  cases outcome with
  | error cause => exact ⟨nofun, nofun⟩
  | ok value =>
      show Except.ok value = .ok result ↔ _
      rw [ok.injEq, ok.injEq]

theorem mapError_eq_error_iff {restate : ε → δ} {outcome : Except ε α} {cause : δ} :
    outcome.mapError restate = .error cause ↔
      ∃ original, outcome = .error original ∧ cause = restate original := by
  cases outcome with
  | error original =>
      show Except.error (restate original) = .error cause ↔ _
      simp [eq_comm]
  | ok value => exact ⟨nofun, nofun⟩

/-- Outcomes that agree but for their values both succeed, or fail alike. -/
theorem map_unit_eq_iff {first : Except ε α} {second : Except ε β} :
    first.map (fun _ => ()) = second.map (fun _ => ()) ↔
      (∃ value other, first = .ok value ∧ second = .ok other) ∨
        ∃ cause, first = .error cause ∧ second = .error cause := by
  cases first <;> cases second <;> simp [Except.map, eq_comm]

/-- Two sequences agree, up to other causes and an image of what they return, when their
steps do. -/
theorem bind_eq_restated {γ ζ : Type} {restate : ε → δ} {image : α → γ}
    {resultImage : β → ζ} {first : Except ε α} {other : Except δ γ}
    {next : α → Except ε β} {otherNext : γ → Except δ ζ}
    (firstAgrees : other = (first.mapError restate).map image)
    (nextAgrees : ∀ value,
      otherNext (image value) = ((next value).mapError restate).map resultImage) :
    (other >>= otherNext) =
      ((first >>= next).mapError restate).map resultImage := by
  rw [firstAgrees]
  cases first with
  | error cause => rfl
  | ok value => exact nextAgrees value

/-! ## A check that hands over its evidence -/

variable {property : Prop} [Decidable property] {value : property → α}

theorem dite_eq_ok_iff {refusal : ε} {result : α} :
    (if holds : property then .ok (value holds) else .error refusal : Except ε α) =
        .ok result ↔ ∃ holds, value holds = result := by
  by_cases holds : property <;> simp [holds]

theorem dite_eq_error_iff {refusal cause : ε} :
    (if holds : property then .ok (value holds) else .error refusal : Except ε α) =
        .error cause ↔ cause = refusal ∧ ¬property := by
  by_cases holds : property <;> simp [holds, eq_comm]

end Except
