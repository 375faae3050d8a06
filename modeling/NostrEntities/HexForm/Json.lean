import NostrEntities.Entity.Json
import NostrEntities.HexForm

/-!
# The JSON form of an entity in hexadecimal

Members without a value are left out. With the kind next to them the members
describe an entity completely; the kind then goes under the name `type`, because
`kind` is taken by the event kind.
-/

namespace NostrEntities.HexForm

/-- The members that have a value. -/
def members (form : HexForm) : List (String × Json) :=
  Json.optionalMember "hex" (form.hex.map .text) ++
  Json.optionalMember "author" (form.author.map .text) ++
  Json.optionalMember "kind" (form.kind.map EventKind.toJson) ++
  Json.optionalMember "identifier" (form.identifier.map .text) ++
  if form.relays.isEmpty then [] else [("relays", .ofTexts form.relays)]

/-- The object of the members that have a value. -/
def toJson (form : HexForm) : Json := .object form.members

/-- The form with the kind of the entity in front. -/
def toJsonWithKind (kind : Kind) (form : HexForm) : Json :=
  .object (("type", kind.toJson) :: form.members)

/-- Every member may be absent. All but the relays may also be null. -/
def ofJson : Json.Reader HexForm :=
  Json.readObject fun members => do
    let hex ← Json.readOptional members "hex" Json.readText
    let author ← Json.readOptional members "author" Json.readText
    let kind ← Json.readOptional members "kind" Json.readEventKind
    let identifier ← Json.readOptional members "identifier" Json.readText
    let relays ←
      Json.readOrElse members "relays" (Json.readList Json.readText) []
    return { hex, author, kind, identifier, relays }

end NostrEntities.HexForm
