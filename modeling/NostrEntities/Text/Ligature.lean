import NostrEntities.Text.Columns

/-!
# Ligatures

Some scripts draw two or three letters as one, which then takes fewer columns
than its letters do. A line is measured from its end, so what is recorded here is
the last part of a ligature and what each character before it adds. Marks that
are not drawn may stand anywhere within a ligature.
-/

namespace NostrEntities.Text

/-- Joining group Alef of the Arabic script. -/
def alefRanges : Ranges :=
  [
    (0x622, 0x623), (0x625, 0x625), (0x627, 0x627), (0x671, 0x673), (0x675, 0x675),
    (0x773, 0x774), (0x870, 0x882)
  ]

/-- Joining group Lam of the Arabic script. -/
def lamRanges : Ranges :=
  [
    (0x644, 0x644), (0x6b5, 0x6b8), (0x76a, 0x76a), (0x8a6, 0x8a6), (0x8c7, 0x8c7)
  ]

/-- Characters without a column that end the joining of Arabic letters. All others
without a column let the letters on both sides join. -/
def joinEndingRanges : Ranges :=
  [
    (0x605, 0x605), (0x890, 0x891), (0x8e2, 0x8e2), (0x9be, 0x9be), (0x9d7, 0x9d7),
    (0xb3e, 0xb3e), (0xb57, 0xb57), (0xbbe, 0xbbe), (0xbd7, 0xbd7), (0xcc0, 0xcc0),
    (0xcc2, 0xcc2), (0xcc7, 0xcc8), (0xcca, 0xccb), (0xcd5, 0xcd6), (0xd3e, 0xd3e),
    (0xd4e, 0xd4e), (0xd57, 0xd57), (0xdcf, 0xdcf), (0xddf, 0xddf), (0x1160, 0x11ff),
    (0x180e, 0x180e), (0x1b35, 0x1b35), (0x1b3b, 0x1b3b), (0x1b3d, 0x1b3d), (0x1b43, 0x1b43),
    (0x200c, 0x200d), (0x2065, 0x2069), (0x302e, 0x302f), (0x3164, 0x3164), (0xa8fa, 0xa8fa),
    (0xd7b0, 0xd7c6), (0xd7cb, 0xd7fb), (0xff9e, 0xffa0), (0xfff0, 0xfff8), (0x111c2, 0x111c3),
    (0x1133e, 0x1133e), (0x11357, 0x11357), (0x114b0, 0x114b0), (0x114bd, 0x114bd), (0x115af, 0x115af),
    (0x11930, 0x11930), (0x1193f, 0x1193f), (0x11941, 0x11941), (0x11a3a, 0x11a3a), (0x11a84, 0x11a89),
    (0x11d46, 0x11d46), (0x11f02, 0x11f02), (0x1d165, 0x1d165), (0x1d16e, 0x1d172), (0xe0000, 0xe0000),
    (0xe0002, 0xe001f), (0xe0080, 0xe00ff), (0xe01f0, 0xe0fff)
  ]

/-- Marks that are default ignorable. -/
def ignorableMarkRanges : Ranges :=
  [
    (0x34f, 0x34f), (0x17b4, 0x17b5), (0x180b, 0x180d), (0x180f, 0x180f), (0xfe00, 0xfe0f),
    (0xe0100, 0xe01ef)
  ]

/-- Khmer letters that have a form for under another letter. -/
def khmerLetterRanges : Ranges :=
  [
    (0x1780, 0x1782), (0x1784, 0x1787), (0x1789, 0x178c), (0x178e, 0x1793), (0x1795, 0x1798),
    (0x179b, 0x179d), (0x17a0, 0x17a0), (0x17a2, 0x17a2), (0x17a7, 0x17a7), (0x17ab, 0x17ac),
    (0x17af, 0x17af)
  ]

/-- Consonants of the Tifinagh script. -/
def tifinaghRanges : Ranges :=
  [(0x2d31, 0x2d65), (0x2d6f, 0x2d6f)]

/-- First letters of the compound tones of the Lisu script. -/
def lisuFirstToneRanges : Ranges :=
  [(0xa4f8, 0xa4fb)]

/-- Second letters of the compound tones of the Lisu script. -/
def lisuSecondToneRanges : Ranges :=
  [(0xa4fc, 0xa4fd)]

/-- The sign that puts the next Khmer letter under the letter before. -/
def khmerCoeng : Char := '\u17d2'

/-- The sign that joins two Tifinagh consonants. -/
def tifinaghJoiner : Char := '\u2d7f'

/-- Whether Arabic letters join across a character that takes no column. -/
def isJoinTransparent (character : Char) : Bool :=
  columns character = 0 && !joinEndingRanges.contains character

/-- The end of a ligature. Where a zero width joiner has to stand before it,
`linked` says whether one does. -/
inductive Ligature where
  | alef
  | lamed (linked : Bool)
  | ya (linked : Bool)
  | vowelAndYa
  | tifinaghConsonant (linked : Bool)
  | tifinaghJoined
  | lisuSecondTone
  | orkhonI (linked : Bool)
  | khmerLetter
  deriving DecidableEq, Repr

namespace Ligature

/-- The ligature that a character can end. -/
def start? (character : Char) : Option Ligature :=
  if alefRanges.contains character then some .alef
  else if character = '\u05dc' then some (.lamed false)
  else if character = '\u1a10' then some (.ya false)
  else if tifinaghRanges.contains character then some (.tifinaghConsonant false)
  else if lisuSecondToneRanges.contains character then some .lisuSecondTone
  else if character.toNat = 0x10c03 then some (.orkhonI false)
  else if khmerLetterRanges.contains character then some .khmerLetter
  else none

/-- The end of a ligature with a zero width joiner before it. -/
def link : Ligature → Ligature
  | .lamed _ => .lamed true
  | .ya _ => .ya true
  | .tifinaghConsonant _ => .tifinaghConsonant true
  | .orkhonI _ => .orkhonI true
  | ligature => ligature

/-- What remains to be found before a character that does not interrupt. -/
def pass? (ligature : Ligature) (character : Char) : Option Ligature :=
  if ligature = .alef then
    if isJoinTransparent character then some .alef else none
  else if character = '\u200d' then some ligature.link
  else if ignorableMarkRanges.contains character then some ligature
  else none

/-- What a letter or sign adds to the columns of the ligature that it continues,
and what remains to be found. -/
def extend? (ligature : Ligature) (character : Char) :
    Option (Int × Option Ligature) :=
  match ligature with
  | .alef => if lamRanges.contains character then some (0, none) else none
  | .lamed linked =>
      if linked ∧ character = '\u05d0' then some (0, none) else none
  | .ya linked =>
      if linked ∧ character = '\u1a17' then some (0, some .vowelAndYa) else none
  | .vowelAndYa => if character = '\u1a15' then some (0, none) else none
  | .tifinaghConsonant linked =>
      if character = tifinaghJoiner then some (1, some .tifinaghJoined)
      else if linked ∧ tifinaghRanges.contains character then some (0, none)
      else none
  | .tifinaghJoined =>
      if tifinaghRanges.contains character then some (-1, none) else none
  | .lisuSecondTone =>
      if lisuFirstToneRanges.contains character then some (0, none) else none
  | .orkhonI linked =>
      if linked ∧ character.toNat = 0x10c32 then some (0, none) else none
  | .khmerLetter => if character = khmerCoeng then some (-1, none) else none

/-- What a character before the end of a ligature adds to its columns, and what
remains to be found, unless the character interrupts it. -/
def absorb? (ligature : Ligature) (character : Char) :
    Option (Int × Option Ligature) :=
  match ligature.pass? character with
  | some passed => some (0, some passed)
  | none => ligature.extend? character

end Ligature

end NostrEntities.Text
