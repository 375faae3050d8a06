import Mathlib
import NostrEntities.Proofs.HexForm.Normal
import NostrEntities.Session

/-!
# Runs of a session

A step that fails leaves the session as it was. So a run goes where its steps that succeed
lead, one after the other and without a failure. Once a form has been written and read
back, the session is settled: writing, reading and changing the case of the whole text
change nothing of the form any more.
-/

namespace NostrEntities.Session

variable {session following result : Session} {step : Step} {steps : List Step}

/-! ## Failing steps -/

theorem next_of_ok (succeeded : session.after step = .ok following) :
    session.next step = following := by
  rw [next, succeeded]

/-- A step that fails leaves the session as it was. -/
theorem next_of_error {cause : Error} (failed : session.after step = .error cause) :
    session.next step = session := by
  rw [next, failed]

/-- The session after a list of steps. -/
def run (session : Session) (steps : List Step) : Session :=
  steps.foldl next session

@[simp] theorem run_nil (session : Session) : session.run [] = session := rfl

@[simp] theorem run_cons (session : Session) (step : Step) (steps : List Step) :
    session.run (step :: steps) = (session.next step).run steps := rfl

/-- The steps of a run that do not fail. -/
def effective (session : Session) : List Step → List Step
  | [] => []
  | step :: steps =>
      match session.after step with
      | .ok following => step :: following.effective steps
      | .error _ => session.effective steps

theorem effective_sublist (session : Session) (steps : List Step) :
    (session.effective steps).Sublist steps := by
  induction steps generalizing session with
  | nil => exact List.Sublist.refl []
  | cons step steps ih =>
      rw [effective]
      cases session.after step with
      | ok following => exact (ih following).cons_cons step
      | error cause => exact (ih session).cons step

/-- A run goes where its steps lead that do not fail, and none of those fails on the way. -/
theorem foldlM_effective (session : Session) (steps : List Step) :
    (session.effective steps).foldlM after session = .ok (session.run steps) := by
  induction steps generalizing session with
  | nil => rfl
  | cons step steps ih =>
      rw [effective, run_cons]
      cases taken : session.after step with
      | ok following =>
          rw [next_of_ok taken, List.foldlM_cons, taken]
          exact ih following
      | error cause =>
          rw [next_of_error taken]
          exact ih session

/-- Taking steps until one fails succeeds where every step of the run does. -/
theorem foldlM_eq_ok_iff :
    steps.foldlM after session = .ok result ↔
      session.effective steps = steps ∧ session.run steps = result := by
  constructor
  · intro succeeded
    have whole : session.effective steps = steps := by
      induction steps generalizing session with
      | nil => rfl
      | cons step steps ih =>
          rw [List.foldlM_cons, Except.bind_eq_ok_iff] at succeeded
          obtain ⟨following, taken, succeeded⟩ := succeeded
          rw [effective, taken]
          exact congrArg (step :: ·) (ih succeeded)
    refine ⟨whole, ?_⟩
    have reached := foldlM_effective session steps
    rw [whole, succeeded] at reached
    exact (Except.ok.inj reached).symm
  · rintro ⟨whole, rfl⟩
    have reached := foldlM_effective session steps
    rw [whole] at reached
    exact reached

/-- Steps that fail can be left out of a run. -/
theorem run_effective (session : Session) (steps : List Step) :
    session.run (session.effective steps) = session.run steps :=
  (foldlM_eq_ok_iff.mp (foldlM_effective session steps)).2

/-! ## Settled sessions -/

/-- The text is read as the form, and the form is written as the text in lower case. -/
structure Settled (session : Session) : Prop where
  reads : HexForm.decode session.text = .ok (session.kind, session.form)
  writes : HexForm.encode session.kind session.form = .ok session.text.toLower

/-- Steps that go from the text to the form or back, or change the case of the whole
text. -/
inductive Step.Keeps : Step → Prop
  | encode : Keeps .encode
  | decode : Keeps .decode
  | upperCase : Keeps .upperCase
  | lowerCase : Keeps .lowerCase

/-- Writing a form and reading it back settles the session with the normal form. -/
theorem settled_of_encode (encoded : session.after .encode = .ok following) :
    (following.next .decode).Settled ∧
      following.next .decode =
        { following with form := session.form.normalized session.kind } := by
  simp only [after, Except.bind_eq_ok_iff, Except.mapError_eq_ok_iff,
    Except.pure_eq_ok_iff] at encoded
  obtain ⟨text, written, rfl⟩ := encoded
  obtain ⟨entity, spelled, sameKind, sameForm⟩ := HexForm.exists_entity_of_encode written
  have read := HexForm.decode_of_encode_entity spelled
  have rewritten := HexForm.encode_eq_of_normalized (HexForm.normalized_ofEntity entity).symm
  rw [sameKind, sameForm] at read rewritten
  have decoded : next { session with text } .decode =
      { session with text, form := session.form.normalized session.kind } := by
    apply next_of_ok
    rw [after, read]
    rfl
  rw [decoded]
  refine ⟨⟨read, ?_⟩, rfl⟩
  rw [rewritten, spelled, ← Text.ofList_lowered,
    Text.lowered_eq_self (Entity.isUpper_of_encode spelled), String.ofList_toList]
  rfl

/-- Only the letters of the text count. -/
theorem Settled.withText (settled : session.Settled) {text : String}
    (same : Text.lowered text.toList = Text.lowered session.text.toList)
    (single : Text.isMixedCase text.toList = false) :
    Settled { session with text } ∧ text.toLower = session.text.toLower := by
  have letters : text.toLower = session.text.toLower := by
    rw [← Text.ofList_lowered, same, Text.ofList_lowered]
  refine ⟨⟨HexForm.decode_of_same_letters settled.reads same single, ?_⟩, letters⟩
  rw [letters]
  exact settled.writes

theorem Settled.withLowerCase (settled : session.Settled) :
    Settled { session with text := session.text.toLower } ∧
      session.text.toLower.toLower = session.text.toLower := by
  apply settled.withText
  · rw [Text.toList_toLower, Text.lowered_lowered]
  · rw [Text.toList_toLower, Text.isMixedCase_lowered]

theorem Settled.withUpperCase (settled : session.Settled) :
    Settled { session with text := session.text.toUpper } ∧
      session.text.toUpper.toLower = session.text.toLower := by
  apply settled.withText
  · rw [String.toUpper, String.toList_map, Text.lowered_map_toUpper]
  · rw [String.toUpper, String.toList_map, Text.isMixedCase_map_toUpper]

/-- In a settled session these steps succeed. They change at most the case of the text. -/
theorem Settled.after_keeps (settled : session.Settled) (keeps : step.Keeps) :
    ∃ text, session.after step = .ok { session with text } ∧
      Settled { session with text } ∧ text.toLower = session.text.toLower := by
  cases keeps with
  | encode =>
      refine ⟨session.text.toLower, ?_, settled.withLowerCase⟩
      rw [after, settled.writes]
      rfl
  | decode =>
      refine ⟨session.text, ?_, settled, rfl⟩
      rw [after, settled.reads]
      rfl
  | upperCase => exact ⟨session.text.toUpper, rfl, settled.withUpperCase⟩
  | lowerCase => exact ⟨session.text.toLower, rfl, settled.withLowerCase⟩

/-- A settled session stays settled, with its form and the letters of its text, however
often these steps are taken. -/
theorem Settled.run_keeps (settled : session.Settled) (keeps : ∀ step ∈ steps, step.Keeps) :
    ∃ text, session.run steps = { session with text } ∧
      Settled { session with text } ∧ text.toLower = session.text.toLower := by
  induction steps generalizing session with
  | nil => exact ⟨session.text, rfl, settled, rfl⟩
  | cons step steps ih =>
      obtain ⟨text, taken, settledNext, sameText⟩ :=
        settled.after_keeps (keeps step List.mem_cons_self)
      obtain ⟨lastText, reached, settledLast, sameLast⟩ :=
        ih settledNext fun step member => keeps step (List.mem_cons_of_mem _ member)
      refine ⟨lastText, ?_, settledLast, sameLast.trans sameText⟩
      rw [run_cons, next_of_ok taken, reached]

/-- Once a form has been written and read back, it is the normal form and stays it,
however often it is written and read again and the text changes its case. -/
theorem run_encode_decode (encoded : session.after .encode = .ok following)
    (keeps : ∀ step ∈ steps, step.Keeps) :
    ∃ text, session.run (.encode :: .decode :: steps) =
        { text, kind := following.kind, form := session.form.normalized session.kind } ∧
      text.toLower = following.text.toLower := by
  obtain ⟨settled, decoded⟩ := settled_of_encode encoded
  obtain ⟨text, reached, -, sameText⟩ := settled.run_keeps keeps
  rw [decoded] at reached sameText
  refine ⟨text, ?_, sameText⟩
  rw [run_cons, run_cons, next_of_ok encoded, decoded, reached]

end NostrEntities.Session
