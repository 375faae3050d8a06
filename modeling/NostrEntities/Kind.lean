/-!
# Kinds of entities

Seven kinds of things have a text form. Three of them are bare: a key or an id
and nothing else. The other four are tagged: a list of records, one of which is
the primary value. The human-readable part of the text names the kind.
-/

namespace NostrEntities

/-- Kinds whose text carries 32 bytes and nothing else. -/
inductive BareKind where
  | note
  | npub
  | nsec
  deriving DecidableEq, Repr

/-- Kinds whose text carries tagged records. -/
inductive TaggedKind where
  | nprofile
  | nevent
  | nrelay
  | naddr
  deriving DecidableEq, Repr

/-- The kind of an entity. -/
inductive Kind where
  | bare (kind : BareKind)
  | tagged (kind : TaggedKind)
  deriving DecidableEq, Repr

namespace BareKind

/-- The human-readable part of the texts. -/
def hrp : BareKind → String
  | .note => "note"
  | .npub => "npub"
  | .nsec => "nsec"

end BareKind

namespace TaggedKind

/-- The human-readable part of the texts. -/
def hrp : TaggedKind → String
  | .nprofile => "nprofile"
  | .nevent => "nevent"
  | .nrelay => "nrelay"
  | .naddr => "naddr"

end TaggedKind

namespace Kind

/-- The human-readable part of the texts. -/
def hrp : Kind → String
  | .bare kind => kind.hrp
  | .tagged kind => kind.hrp

/-- Whether the text carries 32 bytes and nothing else. -/
def isBare : Kind → Bool
  | .bare _ => true
  | .tagged _ => false

/-- Every kind once. -/
def all : List Kind :=
  [.bare .note, .bare .npub, .bare .nsec,
    .tagged .nprofile, .tagged .nevent, .tagged .nrelay, .tagged .naddr]

/-- The kind that a human-readable part names, letter for letter. -/
def ofHrp? (hrp : String) : Option Kind :=
  all.find? fun kind => kind.hrp == hrp

@[simp] theorem mem_all (kind : Kind) : kind ∈ all := by
  cases kind with
  | bare kind => cases kind <;> decide
  | tagged kind => cases kind <;> decide

@[simp] theorem ofHrp?_hrp (kind : Kind) : ofHrp? kind.hrp = some kind := by
  cases kind with
  | bare kind => cases kind <;> decide
  | tagged kind => cases kind <;> decide

theorem hrp_of_ofHrp? {hrp : String} {kind : Kind}
    (found : ofHrp? hrp = some kind) : kind.hrp = hrp := by
  simpa using List.find?_some found

/-- A kind is the one that its human-readable part names. -/
theorem ofHrp?_eq_some_iff {hrp : String} {kind : Kind} :
    ofHrp? hrp = some kind ↔ hrp = kind.hrp := by
  constructor
  · intro found
    exact (hrp_of_ofHrp? found).symm
  · rintro rfl
    exact ofHrp?_hrp kind

end Kind

end NostrEntities
