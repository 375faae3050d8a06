import NostrEntities.Cli.Arguments
import NostrEntities.HexForm.Json
import NostrEntities.Json.Printer
import NostrEntities.Text.Table

/-!
# Running a command

A command ends with an exit code and what it prints. An entity is shown as a
table of two columns, or as JSON. A failure of the codec is shown in full on the
error output. A text that no table can hold ends the run with a code of its own.
-/

namespace NostrEntities.Cli

/-- What a run leaves: an exit code and two outputs. -/
structure Outcome where
  exitCode : UInt8
  output : String
  errorOutput : String
  deriving DecidableEq, Repr

/-- The name and the version of the program. -/
def versionLine : String := "nostr-bech32 0.1.0"

/-- What is said when the arguments are not understood. -/
def usageLine : String :=
  "usage: nostr-bech32 encode KIND ARGUMENTS | decode TEXT [--json] | --version"

/-- The label of the key or id of an entity. -/
def hexLabel : Kind → String
  | .bare .note => "Event ID"
  | .tagged .nevent => "Event ID"
  | .bare .nsec => "Secret key"
  | _ => "Public key"

/-- The label of the identifier of an entity. -/
def identifierLabel : Kind → String
  | .tagged .nrelay => "Relay"
  | _ => "Identifier"

/-- The rows of numbered relays. -/
def relayRows : (number : Nat) → List String → List (String × String)
  | _, [] => []
  | number, relay :: rest => (s!"Relay #{number}", relay) :: relayRows (number + 1) rest

/-- The row of a member that has a value. -/
def optionalRow (label : String) (value : Option String) : List (String × String) :=
  value.toList.map fun value => (label, value)

/-- The rows that show an entity. -/
def rows (kind : Kind) (form : HexForm) : List (String × String) :=
  [("Kind", kind.hrp)] ++
  optionalRow (hexLabel kind) form.hex ++
  optionalRow "Author" form.author ++
  optionalRow "Event kind" (form.kind.map toString) ++
  optionalRow (identifierLabel kind) form.identifier ++
  relayRows 1 form.relays

/-- Why a command prints nothing. -/
inductive Failure where
  | codec (error : HexForm.Error)
  | unmeasurableText
  deriving DecidableEq, Repr

namespace Failure

/-- The exit code of a run that fails. -/
def exitCode : Failure → UInt8
  | .codec _ => 1
  | .unmeasurableText => 101

/-- What is said about a failure. -/
def message : Failure → String
  | .codec error => "Error: " ++ error.diagnostic.render
  | .unmeasurableText => "a line hides more columns than it takes"

end Failure

/-- What is printed for an entity. -/
def shown (kind : Kind) (form : HexForm) (asJson : Bool) : Except Failure String :=
  if asJson then .ok ((form.toJsonWithKind kind).pretty 0 ++ "\n")
  else
    match Text.table? (rows kind form) with
    | some table => .ok table
    | none => .error .unmeasurableText

/-- What a command prints. -/
def Command.output : Command → Except Failure String
  | .version => .ok (versionLine ++ "\n")
  | .encode command => do
      let (kind, form) := command.kindAndForm
      let text ← (HexForm.encode kind form).mapError .codec
      return text ++ "\n"
  | .decode text asJson => do
      let (kind, form) ← (HexForm.decode text).mapError .codec
      shown kind form asJson

/-- Run the command that the arguments ask for. -/
def run (arguments : List String) : Outcome :=
  match Command.ofArguments? arguments with
  | none => ⟨2, "", usageLine ++ "\n"⟩
  | some command =>
      match command.output with
      | .ok output => ⟨0, output, ""⟩
      | .error failure => ⟨failure.exitCode, "", failure.message ++ "\n"⟩

end NostrEntities.Cli
