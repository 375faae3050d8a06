import NostrEntities.HexForm

/-!
# Command line arguments

A subcommand knows a few options and a fixed number of positional arguments.
Options may come before, between and after the positional arguments. The value of
a long option follows it or an equals sign; the value of a short option follows
it directly, after an equals sign, or as the next argument. A separate value must
not look like an option. After `--` everything is positional.

Requests for help (`--help`, `-h` and `help`) are left out, with the texts that answer them:
they count as arguments that are not understood.
-/

namespace NostrEntities.Cli

/-- An option of a subcommand. -/
structure OptionSpec where
  long : String
  short : Option Char := none
  takesValue : Bool := true
  deriving DecidableEq, Repr

/-- One argument or two, understood. -/
inductive Item where
  | positional (value : String)
  | option (name : String) (value : String)
  | flag (name : String)
  deriving DecidableEq, Repr

/-- The form of a single argument. -/
inductive Shape where
  | escape
  | long (name : List Char) (attached : Option (List Char))
  | short (name : Char) (attached : List Char)
  | plain
  deriving DecidableEq, Repr

/-- Split at the first equals sign. -/
def splitAtEquals : List Char → List Char × Option (List Char)
  | [] => ([], none)
  | '=' :: rest => ([], some rest)
  | character :: rest =>
      let (name, value) := splitAtEquals rest
      (character :: name, value)

/-- The form of an argument. A single dash is an ordinary value. -/
def shapeOf : List Char → Shape
  | ['-', '-'] => .escape
  | '-' :: '-' :: rest =>
      let (name, attached) := splitAtEquals rest
      .long name attached
  | '-' :: name :: rest => .short name rest
  | _ => .plain

/-- Whether an argument can be the separate value of an option. -/
def isValue (argument : String) : Bool :=
  shapeOf argument.toList == .plain

/-- The option of a long name. -/
def findLong? (options : List OptionSpec) (name : List Char) : Option OptionSpec :=
  options.find? fun option => option.long.toList == name

/-- The option of a short name. -/
def findShort? (options : List OptionSpec) (name : Char) : Option OptionSpec :=
  options.find? fun option => option.short == some name

/-- What is directly attached to a short option, if anything, without its equals
sign. -/
def attachedToShort : List Char → Option String
  | [] => none
  | '=' :: value => some (String.ofList value)
  | value => some (String.ofList value)

/-- What an option argument stands for: an item, or an option whose value is the
next argument. -/
def readOption (options : List OptionSpec) :
    Shape → Option (Item ⊕ OptionSpec)
  | .long name attached => do
      let option ← findLong? options name
      match option.takesValue, attached with
      | true, some value => return .inl (.option option.long (String.ofList value))
      | true, none => return .inr option
      | false, none => return .inl (.flag option.long)
      | false, some _ => none
  | .short name attached => do
      let option ← findShort? options name
      match option.takesValue, attachedToShort attached with
      | true, some value => return .inl (.option option.long value)
      | true, none => return .inr option
      | false, none => return .inl (.flag option.long)
      | false, some _ => none
  | .escape => none
  | .plain => none

/-- Understand the arguments of a subcommand. `pending` is an option that waits
for its value. -/
def scan (options : List OptionSpec) :
    (pending : Option OptionSpec) → List String → Option (List Item)
  | none, [] => some []
  | some _, [] => none
  | some option, argument :: rest =>
      if isValue argument then do
        let items ← scan options none rest
        return .option option.long argument :: items
      else none
  | none, argument :: rest =>
      match shapeOf argument.toList with
      | .escape => some (rest.map Item.positional)
      | .plain => do
          let items ← scan options none rest
          return .positional argument :: items
      | shape =>
          match readOption options shape with
          | none => none
          | some (.inl item) => do
              let items ← scan options none rest
              return item :: items
          | some (.inr option) => scan options (some option) rest

/-- The positional arguments. -/
def positionals (items : List Item) : List String :=
  items.filterMap fun
    | .positional value => some value
    | _ => none

/-- The values of an option. -/
def values (items : List Item) (name : String) : List String :=
  items.filterMap fun
    | .option found value => if found = name then some value else none
    | _ => none

/-- The value of an option that may be given once. -/
def single? (items : List Item) (name : String) : Option (Option String) :=
  match values items name with
  | [] => some none
  | [value] => some (some value)
  | _ => none

/-- The value of an option that has to be given once. -/
def required? (items : List Item) (name : String) : Option String := do
  (← single? items name)

/-- Whether a flag is given. It may be given once. -/
def flag? (items : List Item) (name : String) : Option Bool :=
  match items.count (.flag name) with
  | 0 => some false
  | 1 => some true
  | _ => none

/-- The only positional argument. -/
def onlyPositional? (items : List Item) : Option String :=
  match positionals items with
  | [value] => some value
  | _ => none

/-- The number that digits write, the highest digit first. -/
def readDigits? : List Char → Option Nat
  | [] => none
  | digits =>
      if digits.all Char.isDigit then
        some (digits.foldl
          (fun number digit => number * 10 + (digit.toNat - '0'.toNat)) 0)
      else none

/-- A whole number, with or without a sign. -/
def readInteger? : List Char → Option Int
  | '+' :: digits => (readDigits? digits).map Int.ofNat
  | '-' :: digits => (readDigits? digits).map fun value => -Int.ofNat value
  | digits => (readDigits? digits).map Int.ofNat

/-- An event kind: a whole number of 32 bits. -/
def readEventKind? (argument : String) : Option UInt32 := do
  let value ← readInteger? argument.toList
  if 0 ≤ value ∧ value < UInt32.size then some (UInt32.ofNat value.toNat)
  else none

/-- What to encode. -/
inductive EncodeCommand where
  | note (id : String)
  | npub (publicKey : String)
  | nsec (secretKey : String)
  | nprofile (publicKey : String) (relays : List String)
  | nevent (id : String) (author : Option String) (kind : Option UInt32)
      (relays : List String)
  | naddr (identifier author : String) (kind : UInt32) (relays : List String)
  | nrelay (url : String)
  deriving DecidableEq, Repr

/-- What the program is asked to do. -/
inductive Command where
  | version
  | encode (command : EncodeCommand)
  | decode (text : String) (asJson : Bool)
  deriving DecidableEq, Repr

/-- A relay, which may be given any number of times. -/
def relayOption : OptionSpec := { long := "relay", short := some 'r' }

/-- The author of an event, in hexadecimal. -/
def authorOption : OptionSpec := { long := "author" }

/-- The kind of an event. -/
def kindOption : OptionSpec := { long := "kind" }

/-- The identifier of a coordinate, empty unless given. -/
def identifierOption : OptionSpec := { long := "identifier" }

/-- Show what is decoded as JSON. -/
def jsonOption : OptionSpec := { long := "json", takesValue := false }

/-- The options of a kind of entity. -/
def optionsOf : Kind → List OptionSpec
  | .bare _ => []
  | .tagged .nprofile => [relayOption]
  | .tagged .nevent => [authorOption, kindOption, relayOption]
  | .tagged .naddr => [identifierOption, authorOption, kindOption, relayOption]
  | .tagged .nrelay => []

/-- An optional event kind: absent, or a number. -/
def kindValue? (items : List Item) : Option (Option UInt32) := do
  match ← single? items "kind" with
  | none => return none
  | some argument => return some (← readEventKind? argument)

/-- What to encode, from the understood arguments of a kind. -/
def EncodeCommand.ofItems? (kind : Kind) (items : List Item) :
    Option EncodeCommand := do
  let relays := values items "relay"
  match kind with
  | .bare .note => return .note (← onlyPositional? items)
  | .bare .npub => return .npub (← onlyPositional? items)
  | .bare .nsec => return .nsec (← onlyPositional? items)
  | .tagged .nprofile => return .nprofile (← onlyPositional? items) relays
  | .tagged .nevent =>
      let id ← onlyPositional? items
      let author ← single? items "author"
      let kind ← kindValue? items
      return .nevent id author kind relays
  | .tagged .naddr =>
      if (positionals items).isEmpty then
        let identifier ← single? items "identifier"
        let author ← required? items "author"
        let kind ← readEventKind? (← required? items "kind")
        return .naddr (identifier.getD "") author kind relays
      else none
  | .tagged .nrelay => return .nrelay (← onlyPositional? items)

/-- The command of an `encode` line. -/
def EncodeCommand.ofArguments? : List String → Option EncodeCommand
  | [] => none
  | name :: rest => do
      let kind ← Kind.ofHrp? name
      let items ← scan (optionsOf kind) none rest
      EncodeCommand.ofItems? kind items

/-- The command of a `decode` line. -/
def Command.ofDecodeArguments? (arguments : List String) : Option Command := do
  let items ← scan [jsonOption] none arguments
  let text ← onlyPositional? items
  let asJson ← flag? items "json"
  return .decode text asJson

/-- Whether an argument asks for the version, whatever follows it. -/
def asksVersion (argument : String) : Bool :=
  match shapeOf argument.toList with
  | .long name none => name == "version".toList
  | .short 'V' _ => true
  | _ => false

/-- The command that the arguments ask for, if they are understood. -/
def Command.ofArguments? : List String → Option Command
  | [] => none
  | first :: rest =>
      if asksVersion first then some .version
      else if first = "encode" then (EncodeCommand.ofArguments? rest).map .encode
      else if first = "decode" then Command.ofDecodeArguments? rest
      else none

/-- The kind and the form that an `encode` command describes. -/
def EncodeCommand.kindAndForm : EncodeCommand → Kind × HexForm
  | .note id => (.bare .note, .note id)
  | .npub publicKey => (.bare .npub, { hex := some publicKey })
  | .nsec secretKey => (.bare .nsec, { hex := some secretKey })
  | .nprofile publicKey relays =>
      (.tagged .nprofile, { hex := some publicKey, relays })
  | .nevent id author kind relays =>
      (.tagged .nevent, .nevent id author kind relays)
  | .naddr identifier author kind relays =>
      (.tagged .naddr, .naddr kind author identifier relays)
  | .nrelay url => (.tagged .nrelay, { identifier := some url })

end NostrEntities.Cli
