import NostrEntities.Notice

/-!
# Computations with a log

Reading an entity leaves notices for whoever watches the log: what is being read,
and everything that is left out. A traced computation returns its notices next to
its outcome, so they are kept when it fails.
-/

namespace NostrEntities

/-- The outcome of a computation and the notices it left, in order. -/
structure Traced (ε α : Type) where
  notices : List Notice
  outcome : Except ε α

namespace Traced

variable {ε δ α β : Type}

/-- Return a value without a notice. -/
def pure (value : α) : Traced ε α :=
  ⟨[], .ok value⟩

/-- Continue with the value of a computation. A failure ends everything, and the
notices left so far stay. -/
def bind (first : Traced ε α) (next : α → Traced ε β) : Traced ε β :=
  match first.outcome with
  | .ok value =>
      let second := next value
      ⟨first.notices ++ second.notices, second.outcome⟩
  | .error cause => ⟨first.notices, .error cause⟩

instance : Monad (Traced ε) where
  pure := Traced.pure
  bind := Traced.bind

/-- A computation that leaves no notice. -/
def ofExcept (outcome : Except ε α) : Traced ε α :=
  ⟨[], outcome⟩

/-- Fail. -/
def fail (cause : ε) : Traced ε α :=
  ⟨[], .error cause⟩

/-- Leave a notice. -/
def notify (notice : Notice) : Traced ε Unit :=
  ⟨[notice], .ok ()⟩

/-- Leave a notice if there is one. -/
def notifyIf (condition : Bool) (notice : Notice) : Traced ε Unit :=
  ⟨if condition then [notice] else [], .ok ()⟩

/-- Restate the failure. -/
def mapError (restate : ε → δ) (computation : Traced ε α) : Traced δ α :=
  ⟨computation.notices, computation.outcome.mapError restate⟩

@[simp] theorem notices_pure (value : α) :
    (Pure.pure value : Traced ε α).notices = [] := rfl

@[simp] theorem outcome_pure (value : α) :
    (Pure.pure value : Traced ε α).outcome = .ok value := rfl

@[simp] theorem notices_ofExcept (outcome : Except ε α) :
    (ofExcept outcome).notices = [] := rfl

@[simp] theorem outcome_ofExcept (outcome : Except ε α) :
    (ofExcept outcome).outcome = outcome := rfl

@[simp] theorem notices_fail (cause : ε) :
    (fail cause : Traced ε α).notices = [] := rfl

@[simp] theorem outcome_fail (cause : ε) :
    (fail cause : Traced ε α).outcome = .error cause := rfl

@[simp] theorem notices_notify (notice : Notice) :
    (notify notice : Traced ε Unit).notices = [notice] := rfl

@[simp] theorem outcome_notify (notice : Notice) :
    (notify notice : Traced ε Unit).outcome = .ok () := rfl

@[simp] theorem notices_notifyIf (condition : Bool) (notice : Notice) :
    (notifyIf condition notice : Traced ε Unit).notices =
      if condition then [notice] else [] := rfl

@[simp] theorem outcome_notifyIf (condition : Bool) (notice : Notice) :
    (notifyIf condition notice : Traced ε Unit).outcome = .ok () := rfl

@[simp] theorem notices_mapError (restate : ε → δ) (computation : Traced ε α) :
    (computation.mapError restate).notices = computation.notices := rfl

@[simp] theorem outcome_mapError (restate : ε → δ) (computation : Traced ε α) :
    (computation.mapError restate).outcome =
      computation.outcome.mapError restate := rfl

/-- The outcome of a sequence is the sequence of the outcomes. -/
@[simp] theorem outcome_bind (first : Traced ε α) (next : α → Traced ε β) :
    (first >>= next).outcome =
      first.outcome >>= fun value => (next value).outcome := by
  show (Traced.bind first next).outcome = _
  unfold Traced.bind
  cases first.outcome <;> rfl

theorem ofExcept_ok_bind (value : α) (next : α → Traced ε β) :
    (ofExcept (.ok value) >>= next) = next value := rfl

theorem ofExcept_error_bind (cause : ε) (next : α → Traced ε β) :
    (ofExcept (.error cause) >>= next) = fail cause := rfl

theorem notices_bind_of_ok {first : Traced ε α} {value : α}
    (succeeded : first.outcome = .ok value) (next : α → Traced ε β) :
    (first >>= next).notices = first.notices ++ (next value).notices := by
  show (Traced.bind first next).notices = _
  simp [Traced.bind, succeeded]

end Traced

end NostrEntities
