import NostrEntities.HexForm

/-!
# Editing sessions

A session keeps a text and, beside it, a kind with a form. The text can be edited
by hand, written from the form, or read into it. A step that fails leaves the
session as it was.
-/

namespace NostrEntities

/-- A text, and beside it a kind with a form. -/
structure Session where
  text : String := ""
  kind : Kind := .bare .note
  form : HexForm := {}
  deriving DecidableEq, Repr

namespace Session

/-- A single change to a session. -/
inductive Step where
  | setText (text : String)
  | upperCase
  | lowerCase
  /-- Put a text in the place of one character. -/
  | replace (index : Nat) (replacement : String)
  | describe (kind : Kind) (form : HexForm)
  | encode
  /-- Write the form as another kind, which is then kept. -/
  | encodeAs (kind : Kind)
  | decode
  /-- Write the words of the text under another human-readable part. -/
  | rewrap (hrp : String) (variant : Bech32.Variant) (limit : Nat)
  deriving DecidableEq, Repr

/-- Why a step fails. -/
inductive Error where
  | form (error : HexForm.Error)
  | text (error : Bech32.Error)
  deriving DecidableEq, Repr

namespace Error

/-- The message for a person. -/
def message : Error → String
  | .form error => error.message
  | .text error => error.message

/-- The structured account, under the names that a full report uses. -/
def diagnostic : Error → Diagnostic
  | .form error => error.diagnostic
  | .text error => error.diagnostic

end Error

/-- Put a text in the place of the character at an index. -/
def replaceAt (characters : List Char) (index : Nat) (replacement : String) :
    List Char :=
  match characters.drop index with
  | [] => characters
  | _ :: rest => characters.take index ++ replacement.toList ++ rest

/-- The words and the checksum of a text moved under another human-readable
part. -/
def rewrapped (text hrp : String) (variant : Bech32.Variant) (limit : Nat) :
    Except Bech32.Error String := do
  let parts ← Bech32.decode limit text
  Bech32.encode limit { hrp, words := parts.words, variant }

/-- The session after a step. -/
def after (session : Session) : Step → Except Error Session
  | .setText text => .ok { session with text }
  | .upperCase => .ok { session with text := session.text.map Char.toUpper }
  | .lowerCase => .ok { session with text := session.text.map Char.toLower }
  | .replace index replacement =>
      .ok { session with
        text := String.ofList (replaceAt session.text.toList index replacement) }
  | .describe kind form => .ok { session with kind, form }
  | .encode => do
      let text ← (HexForm.encode session.kind session.form).mapError .form
      return { session with text }
  | .encodeAs kind => do
      let text ← (HexForm.encode kind session.form).mapError .form
      return { session with text, kind }
  | .decode => do
      let (kind, form) ← (HexForm.decode session.text).mapError .form
      return { session with kind, form }
  | .rewrap hrp variant limit => do
      let text ← (rewrapped session.text hrp variant limit).mapError .text
      return { session with text }

/-- The session after a step, or the same session if the step fails. -/
def next (session : Session) (step : Step) : Session :=
  match session.after step with
  | .ok following => following
  | .error _ => session

end Session

end NostrEntities
