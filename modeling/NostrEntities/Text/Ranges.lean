/-!
# Sets of characters given by ranges

A Unicode property is a table of disjoint code point ranges in increasing
order. Membership needs one pass over the table, and the tables themselves stay
plain data that a reader can compare with the character database.
-/

namespace NostrEntities.Text

/-- Code point ranges, first and last value included. -/
abbrev Ranges := List (Nat × Nat)

/-- Whether a character falls into one of the ranges. -/
def Ranges.contains (ranges : Ranges) (character : Char) : Bool :=
  ranges.any fun (first, last) =>
    first ≤ character.toNat && character.toNat ≤ last

end NostrEntities.Text
