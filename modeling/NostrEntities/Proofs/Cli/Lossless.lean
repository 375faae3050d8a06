import Mathlib
import NostrEntities.Cli.Run
import NostrEntities.Proofs.HexForm.Json
import NostrEntities.Proofs.HexForm.Normal
import NostrEntities.Proofs.Json.Printer

/-!
# From arguments to an object

What a subcommand writes, `decode` shows. The object that is shown has the name of the
subcommand and the arguments that it was given, each under a name of its own, and nothing
else.
-/

namespace NostrEntities.Cli

open HexForm (toEntity_eq_ok_iff)

variable {command : EncodeCommand} {text : String}

namespace EncodeCommand

/-- The name of the subcommand. -/
def name : EncodeCommand → String
  | .note _ => "note"
  | .npub _ => "npub"
  | .nsec _ => "nsec"
  | .nprofile .. => "nprofile"
  | .nevent .. => "nevent"
  | .naddr .. => "naddr"
  | .nrelay _ => "nrelay"

/-- What the arguments of the subcommand say, with ids and keys in lower case. -/
def supplied : EncodeCommand → HexForm
  | .note id => { hex := some id.toLower }
  | .npub publicKey => { hex := some publicKey.toLower }
  | .nsec secretKey => { hex := some secretKey.toLower }
  | .nprofile publicKey relays => { hex := some publicKey.toLower, relays }
  | .nevent id author kind relays =>
      { hex := some id.toLower, author := author.map String.toLower, kind, relays }
  | .naddr identifier author kind relays =>
      { author := some author.toLower
        kind := some kind
        identifier := some identifier
        relays }
  | .nrelay url => { identifier := some url }

/-! ## Names -/

theorem hrp_kind (command : EncodeCommand) : command.kindAndForm.1.hrp = command.name := by
  cases command <;> rfl

/-- Nothing but the case of digits is normalized: a subcommand has no argument that its
kind passes over. -/
theorem normalized_form (command : EncodeCommand) :
    command.kindAndForm.2.normalized command.kindAndForm.1 = command.supplied := by
  cases command <;> rfl

/-- The arguments of a kind describe an entity of the kind. -/
theorem kind_of_ofItems? {kind : Kind} {items : List Item}
    (parsed : ofItems? kind items = some command) : command.kindAndForm.1 = kind := by
  cases kind with
  | bare kind =>
      cases kind <;>
      · simp only [ofItems?, Option.bind_eq_bind, Option.bind_eq_some_iff, Option.pure_def,
          Option.some.injEq] at parsed
        obtain ⟨value, -, rfl⟩ := parsed
        rfl
  | tagged kind =>
      cases kind with
      | nprofile | nrelay =>
          simp only [ofItems?, Option.bind_eq_bind, Option.bind_eq_some_iff, Option.pure_def,
            Option.some.injEq] at parsed
          obtain ⟨value, -, rfl⟩ := parsed
          rfl
      | nevent =>
          simp only [ofItems?, Option.bind_eq_bind, Option.bind_eq_some_iff, Option.pure_def,
            Option.some.injEq] at parsed
          obtain ⟨id, -, author, -, kind, -, rfl⟩ := parsed
          rfl
      | naddr =>
          rw [ofItems?, Option.ite_none_right_eq_some] at parsed
          simp only [Option.bind_eq_bind, Option.bind_eq_some_iff, Option.pure_def,
            Option.some.injEq] at parsed
          obtain ⟨-, identifier, -, author, -, kind, -, number, -, rfl⟩ := parsed
          rfl

/-- An `encode` line starts with the name of its subcommand. -/
theorem head?_of_ofArguments? {arguments : List String}
    (parsed : ofArguments? arguments = some command) :
    arguments.head? = some command.name := by
  cases arguments with
  | nil => cases parsed
  | cons first rest =>
      simp only [ofArguments?, Option.bind_eq_bind, Option.bind_eq_some_iff] at parsed
      obtain ⟨kind, named, items, -, parsed⟩ := parsed
      rw [List.head?_cons, ← hrp_kind, kind_of_ofItems? parsed, Kind.hrp_of_ofHrp? named]

end EncodeCommand

/-! ## Lines -/

theorem head?_hrp (kind : Kind) : kind.hrp.toList.head? = some 'n' := by
  cases kind with
  | bare kind => cases kind <;> decide
  | tagged kind => cases kind <;> decide

/-- A text that is written for an entity does not look like an option. -/
theorem shapeOf_of_encode {entity : Entity} (written : Entity.encode entity = .ok text) :
    shapeOf text.toList = .plain := by
  obtain ⟨payload, -, words, -, spelled⟩ := Entity.encode_eq_ok_iff.mp written
  obtain ⟨symbols, -, rfl⟩ := Bech32.encode_eq_ok_iff.mp spelled
  obtain ⟨rest, hrp⟩ := List.head?_eq_some_iff.mp (head?_hrp entity.kind)
  rw [String.toList_ofList, Bech32.assemble, hrp]
  rfl

/-- An `encode` line prints what is written for its arguments. -/
theorem run_encode {arguments : List String}
    (parsed : EncodeCommand.ofArguments? arguments = some command)
    (written : HexForm.encode command.kindAndForm.1 command.kindAndForm.2 = .ok text) :
    run ("encode" :: arguments) = ⟨0, text ++ "\n", ""⟩ := by
  have asked : Command.ofArguments? ("encode" :: arguments) = some (.encode command) := by
    have other : asksVersion "encode" = false := by decide
    rw [Command.ofArguments?, other, if_neg Bool.false_ne_true, if_pos rfl, parsed]
    rfl
  have output : (Command.encode command).output = .ok (text ++ "\n") := by
    simp only [Command.output, written]
    rfl
  rw [run, asked]
  simp only [output]

/-- A `decode` line with a text that does not look like an option prints the object. -/
theorem run_decode_json {kind : Kind} {form : HexForm} (plain : shapeOf text.toList = .plain)
    (decoded : HexForm.decode text = .ok (kind, form)) :
    run ["decode", text, "--json"] =
      ⟨0, (form.toJsonWithKind kind).pretty 0 ++ "\n", ""⟩ := by
  have items : scan [jsonOption] none [text, "--json"] =
      some [.positional text, .flag "json"] := by
    rw [scan, plain]
    rfl
  have asked :
      Command.ofArguments? ["decode", text, "--json"] = some (.decode text true) := by
    have other : asksVersion "decode" = false := by decide
    rw [Command.ofArguments?, other, if_neg Bool.false_ne_true, if_neg (by decide),
      if_pos rfl, Command.ofDecodeArguments?, items]
    rfl
  have output : (Command.decode text true).output =
      .ok ((form.toJsonWithKind kind).pretty 0 ++ "\n") := by
    simp only [Command.output, decoded]
    rfl
  rw [run, asked]
  simp only [output]

/-! ## There and back -/

/-- What a subcommand writes is decoded as what it was given. The object that is shown for
it names the subcommand, has no member twice, and is read back as what was supplied, with
the kind or without it. What is printed is that object and no other. -/
theorem decode_eq_supplied_and_object (command : EncodeCommand) (text : String)
    (written : HexForm.encode command.kindAndForm.1 command.kindAndForm.2 = .ok text) :
    HexForm.decode text = .ok (command.kindAndForm.1, command.supplied) ∧
      (∃ members,
        command.supplied.toJsonWithKind command.kindAndForm.1 = .object members ∧
          (members.map Prod.fst).Nodup ∧
          Json.member? members "type" = some (.text command.name) ∧
          HexForm.ofJson (.object (members.filter fun member => member.1 ≠ "type")) =
            .ok command.supplied ∧
          HexForm.ofJson (.object members) = .ok command.supplied) ∧
      (∀ arguments, EncodeCommand.ofArguments? arguments = some command →
        arguments.head? = some command.name ∧
          run ("encode" :: arguments) = ⟨0, text ++ "\n", ""⟩) ∧
      ∀ shown : Json, run ["decode", text, "--json"] = ⟨0, shown.pretty 0 ++ "\n", ""⟩ ↔
        shown = command.supplied.toJsonWithKind command.kindAndForm.1 := by
  obtain ⟨entity, encoded, sameKind, sameForm⟩ := HexForm.exists_entity_of_encode written
  have decoded : HexForm.decode text = .ok (command.kindAndForm.1, command.supplied) := by
    rw [HexForm.decode_of_encode_entity encoded, sameKind, sameForm, command.normalized_form]
  refine ⟨decoded, ⟨_, rfl, ?_, ?_, ?_, ?_⟩, ?_, ?_⟩
  · exact HexForm.nodup_keys_withKind _ _
  · rw [Json.member?, List.lookup_cons_self, Kind.toJson, command.hrp_kind]
  · rw [HexForm.filter_withKind]
    exact HexForm.ofJson_toJson command.supplied
  · exact HexForm.ofJson_toJsonWithKind _ _
  · intro arguments parsed
    exact ⟨EncodeCommand.head?_of_ofArguments? parsed, run_encode parsed written⟩
  · intro shown
    rw [run_decode_json (shapeOf_of_encode encoded) decoded, Outcome.mk.injEq,
      String.append_left_inj, (Json.pretty_injective 0).eq_iff]
    simp [eq_comm]

/-- The arguments for an event, with digits in mixed case, its author, its kind and two
relays, one of them empty. -/
def eventArguments : List String := [
  "nevent", "-rwss://r.x.com", "--kind", "+30023",
  "00112233445566778899AABBCCDDEEFFaabbccddeeff00112233445566778899", "--relay=",
  "--author=BB112233445566778899aabbccddeeffAABBCCDDEEFF00112233445566778899"]

/-- The subcommand that they give. -/
def eventCommand : EncodeCommand :=
  .nevent "00112233445566778899AABBCCDDEEFFaabbccddeeff00112233445566778899"
    (some "BB112233445566778899aabbccddeeffAABBCCDDEEFF00112233445566778899")
    (some 30023) ["wss://r.x.com", ""]

/-- The event that they describe. -/
def eventPointer : EventPointer where
  id := ⟨{
    bytes := [
      0x00, 0x11, 0x22, 0x33, 0x44, 0x55, 0x66, 0x77, 0x88, 0x99,
      0xaa, 0xbb, 0xcc, 0xdd, 0xee, 0xff, 0xaa, 0xbb, 0xcc, 0xdd, 0xee, 0xff,
      0x00, 0x11, 0x22, 0x33, 0x44, 0x55, 0x66, 0x77, 0x88, 0x99]
    length_bytes := rfl }⟩
  author := some ⟨{
    bytes := [
      0xbb, 0x11, 0x22, 0x33, 0x44, 0x55, 0x66, 0x77, 0x88, 0x99,
      0xaa, 0xbb, 0xcc, 0xdd, 0xee, 0xff, 0xaa, 0xbb, 0xcc, 0xdd, 0xee, 0xff,
      0x00, 0x11, 0x22, 0x33, 0x44, 0x55, 0x66, 0x77, 0x88, 0x99]
    length_bytes := rfl }⟩
  kind := some 30023
  relays := ["wss://r.x.com", ""]

/-- The text of the event. -/
def eventText : String :=
  "nevent1qqsqqyfzxdz92enh3zv64w7vmhh0l24menw7alcqzy3rx3z4vemc3xgpp4mhxue69uhhytnc9e3k7mgp" ++
    "qqpzpwc3yge5g4txw7yfn24menw7ala2h0xdmmhlqqgjyv6y24n80zyeqvzqqqr4gugnhwqp"

theorem decode_eq_supplied_and_object_eventText :
    EncodeCommand.ofArguments? eventArguments = some eventCommand ∧
      HexForm.encode (.tagged .nevent) eventCommand.kindAndForm.2 = .ok eventText ∧
      HexForm.decode eventText = .ok (.tagged .nevent, eventCommand.supplied) ∧
      run ("encode" :: eventArguments) = ⟨0, eventText ++ "\n", ""⟩ := by
  have parsed : EncodeCommand.ofArguments? eventArguments = some eventCommand := by
    cbv
  have described :
      eventCommand.kindAndForm.2.toEntity (.tagged .nevent) = .ok (.nevent eventPointer) := by
    rw [toEntity_eq_ok_iff]
    exact ⟨rfl, by cbv⟩
  have encoded : Entity.encode (.nevent eventPointer) = .ok eventText := by
    cbv
  have written :
      HexForm.encode (.tagged .nevent) eventCommand.kindAndForm.2 = .ok eventText := by
    rw [HexForm.encode, described, Except.ok_bind, encoded]
    rfl
  have shown := decode_eq_supplied_and_object eventCommand eventText written
  exact ⟨parsed, written, shown.1, (shown.2.2.1 eventArguments parsed).2⟩

end NostrEntities.Cli
