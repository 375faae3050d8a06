import Mathlib
import NostrEntities.Json.Printer

/-!
# Written JSON is unambiguous

The first character of a written value tells its form, and the value ends before what
stands behind it begins: a number where the digits end, a text at the first quote that is
not escaped, an array or an object at its bracket. So a value is determined by what is
written for it.
-/

namespace NostrEntities.Json

variable {α : Type} {rest following : List Char}

/-- No digit stands in front, which would go on with a number. -/
def Ends (rest : List Char) : Prop :=
  ∀ character ∈ rest.head?, character.isDigit = false

/-- What is written for a value tells it from all others, whatever stands behind it. -/
def Separates (write : α → String) (value : α) : Prop :=
  ∀ other rest following, Ends rest → Ends following →
    (write value).toList ++ rest = (write other).toList ++ following →
      value = other ∧ rest = following

/-! ## Numbers -/

theorem takeWhile_isDigit_repr (number : Nat) (ends : Ends rest) :
    (number.repr.toList ++ rest).takeWhile Char.isDigit = number.repr.toList := by
  have digits : ∀ character ∈ number.repr.toList, character.isDigit = true := by
    rw [Nat.toList_repr]
    exact fun _ => Nat.isDigit_of_mem_toDigits (by decide) (by decide)
  rw [List.takeWhile_append_of_pos digits]
  cases rest with
  | nil => rw [List.takeWhile_nil, List.append_nil]
  | cons character rest =>
      rw [List.takeWhile_cons_of_neg (by simp [ends character rfl]), List.append_nil]

theorem repr_separates (number : Nat) : Separates Nat.repr number := by
  intro other rest following ends otherEnds same
  have digits := congrArg (List.takeWhile Char.isDigit) same
  rw [takeWhile_isDigit_repr number ends, takeWhile_isDigit_repr other otherEnds] at digits
  rw [digits] at same
  exact ⟨Nat.repr_inj.mp (String.toList_inj.mp digits), List.append_cancel_left same⟩

theorem exists_repr_eq_cons (number : Nat) :
    ∃ digit digits, number.repr.toList = digit :: digits ∧ digit.isDigit = true := by
  rw [Nat.toList_repr]
  cases written : Nat.toDigits 10 number with
  | nil => exact absurd written Nat.toDigits_ne_nil
  | cons digit digits =>
      refine ⟨digit, digits, rfl, ?_⟩
      apply Nat.isDigit_of_mem_toDigits (b := 10) (n := number) (by decide) (by decide)
      rw [written]
      exact List.mem_cons_self

theorem toList_toString_negSucc (number : Nat) :
    (toString (Int.negSucc number)).toList = '-' :: (number + 1).repr.toList := by
  show ("-" ++ (number + 1).repr).toList = _
  rw [String.toList_append]
  rfl

/-- A sign is no digit, so numbers of different signs start differently. -/
theorem number_separates (number : Int) : Separates (toString : Int → String) number := by
  intro other rest following ends otherEnds same
  cases number with
  | ofNat number =>
      cases other with
      | ofNat other =>
          obtain ⟨sameNumber, sameRest⟩ :=
            repr_separates number other rest following ends otherEnds same
          exact ⟨congrArg Int.ofNat sameNumber, sameRest⟩
      | negSucc other =>
          obtain ⟨digit, digits, written, isDigit⟩ := exists_repr_eq_cons number
          rw [toList_toString_negSucc] at same
          change number.repr.toList ++ rest = _ at same
          rw [written] at same
          obtain ⟨rfl, -⟩ := List.cons.inj same
          exact absurd isDigit (by decide)
  | negSucc number =>
      rw [toList_toString_negSucc] at same
      cases other with
      | ofNat other =>
          obtain ⟨digit, digits, written, isDigit⟩ := exists_repr_eq_cons other
          change _ = other.repr.toList ++ following at same
          rw [written] at same
          obtain ⟨rfl, -⟩ := List.cons.inj same
          exact absurd isDigit (by decide)
      | negSucc other =>
          rw [toList_toString_negSucc] at same
          obtain ⟨sameNumber, sameRest⟩ :=
            repr_separates _ _ rest following ends otherEnds (List.cons.inj same).2
          exact ⟨congrArg Int.negSucc (Nat.succ.inj sameNumber), sameRest⟩

/-! ## Texts -/

/-- The value of a hexadecimal digit. -/
def digitValue (digit : Char) : Nat :=
  ((List.range 16).map Nat.digitChar).idxOf digit

/-- The character that a text between quotes starts with, and what stands behind it. -/
def unescape? : List Char → Option (Char × List Char)
  | '\\' :: 'u' :: '0' :: '0' :: high :: low :: rest =>
      some (Char.ofNat (digitValue high * 16 + digitValue low), rest)
  | '\\' :: 'b' :: rest => some ('\x08', rest)
  | '\\' :: 'f' :: rest => some ('\x0c', rest)
  | '\\' :: 'n' :: rest => some ('\n', rest)
  | '\\' :: 'r' :: rest => some ('\r', rest)
  | '\\' :: 't' :: rest => some ('\t', rest)
  | '\\' :: character :: rest => some (character, rest)
  | '"' :: _ => none
  | character :: rest => some (character, rest)
  | [] => none

theorem digitValue_digitChar : ∀ digit < 16, digitValue (Nat.digitChar digit) = digit := by
  decide

/-- What is written for a character is read as that character, up to its end. -/
theorem unescape?_escaped (character : Char) (rest : List Char) :
    unescape? (escaped character ++ rest) = some (character, rest) := by
  unfold escaped
  split
  any_goals rfl
  split
  · rename_i control
    have high := digitValue_digitChar (character.toNat / 16) (by omega)
    have low := digitValue_digitChar (character.toNat % 16) (Nat.mod_lt _ (by decide))
    simp only [List.cons_append, List.nil_append, unescape?, high, low,
      Nat.div_add_mod', Char.ofNat_toNat]
  · rw [List.singleton_append, unescape?]
    all_goals simp_all

/-- Nothing that is written for a character starts with a quote, so the first one ends the
characters. -/
theorem flatMap_escaped_append_inj (characters others : List Char)
    (same : characters.flatMap escaped ++ '"' :: rest =
      others.flatMap escaped ++ '"' :: following) :
    characters = others ∧ rest = following := by
  induction characters generalizing others with
  | nil =>
      cases others with
      | nil => exact ⟨rfl, (List.cons.inj same).2⟩
      | cons other others =>
          rw [List.flatMap_cons, List.append_assoc] at same
          have read := unescape?_escaped other (others.flatMap escaped ++ '"' :: following)
          rw [← same] at read
          cases read
  | cons character characters ih =>
      rw [List.flatMap_cons, List.append_assoc] at same
      have read := unescape?_escaped character (characters.flatMap escaped ++ '"' :: rest)
      rw [same] at read
      cases others with
      | nil => cases read
      | cons other others =>
          rw [List.flatMap_cons, List.append_assoc, unescape?_escaped] at read
          obtain ⟨rfl, sameBehind⟩ := Prod.mk.inj (Option.some.inj read)
          obtain ⟨rfl, sameRest⟩ := ih others sameBehind.symm
          exact ⟨rfl, sameRest⟩

/-- A text ends at its quote, whatever stands behind it. -/
theorem quoted_append_inj {text other : String}
    (same : (quoted text).toList ++ rest = (quoted other).toList ++ following) :
    text = other ∧ rest = following := by
  simp only [quoted, String.toList_ofList, List.append_assoc, List.singleton_append] at same
  obtain ⟨sameCharacters, sameRest⟩ := flatMap_escaped_append_inj _ _ (List.cons.inj same).2
  exact ⟨String.toList_inj.mp sameCharacters, sameRest⟩

/-! ## Arrays and objects -/

section Lines

variable {write : α → String} {depth : Nat} {opening closing : String}

theorem toList_newLine (depth : Nat) :
    (newLine depth).toList = '\n' :: List.replicate (2 * depth) ' ' :=
  String.toList_ofList

/-- What is written behind an item: the other items with a comma in front of each, and the
bracket. -/
def remainingLines (depth : Nat) (closing : String) : List String → List Char
  | [] => (newLine depth).toList ++ closing.toList
  | item :: items =>
      ',' :: ((newLine (depth + 1)).toList ++
        (item.toList ++ remainingLines depth closing items))

theorem toList_inLines_cons (item : String) (items : List String) :
    (inLines depth opening closing (item :: items)).toList =
      opening.toList ++ ((newLine (depth + 1)).toList ++
        (item.toList ++ remainingLines depth closing items)) := by
  have separated : ∀ item, (("," ++ newLine (depth + 1)).intercalate (item :: items) ++
      newLine depth ++ closing).toList =
        item.toList ++ remainingLines depth closing items := by
    induction items with
    | nil => simp [remainingLines]
    | cons next items ih =>
        intro item
        rw [String.intercalate_cons_cons, remainingLines, ← ih next]
        simp [String.toList_append]
  rw [← separated, inLines, if_neg (by simp)]
  simp [String.toList_append]

/-- Behind an item stands a comma or the start of a line. -/
theorem ends_remainingLines (items : List String) (rest : List Char) :
    Ends (remainingLines depth closing items ++ rest) := by
  intro character front
  cases items with
  | nil =>
      rw [remainingLines, toList_newLine] at front
      obtain rfl := Option.some.inj front
      rfl
  | cons item items =>
      obtain rfl := Option.some.inj front
      rfl

/-- Only a comma goes on with the items. -/
theorem remainingLines_append_inj (values others : List α)
    (each : ∀ value ∈ values, Separates write value)
    (same : remainingLines depth closing (values.map write) ++ rest =
      remainingLines depth closing (others.map write) ++ following) :
    values = others ∧ rest = following := by
  induction values generalizing others with
  | nil =>
      cases others with
      | nil => exact ⟨rfl, List.append_cancel_left same⟩
      | cons other others =>
          rw [List.map_nil, List.map_cons, remainingLines, remainingLines,
            toList_newLine] at same
          exact absurd (List.cons.inj same).1 (by decide)
  | cons value values ih =>
      cases others with
      | nil =>
          rw [List.map_nil, List.map_cons, remainingLines, remainingLines] at same
          rw [toList_newLine depth] at same
          exact absurd (List.cons.inj same).1 (by decide)
      | cons other others =>
          simp only [List.map_cons, remainingLines, List.cons_append, List.append_assoc,
            List.cons.injEq, true_and] at same
          obtain ⟨rfl, sameItems⟩ := each value List.mem_cons_self other _ _
            (ends_remainingLines _ _) (ends_remainingLines _ _)
            (List.append_cancel_left same)
          obtain ⟨rfl, sameRest⟩ := ih others
            (fun value member => each value (List.mem_cons_of_mem _ member)) sameItems
          exact ⟨rfl, sameRest⟩

/-- Items on lines of their own are told apart where each of them is, and the first line
shows whether there are any. -/
theorem inLines_append_inj (bracket : Char) (closes : closing.toList = [bracket])
    (visible : bracket ≠ '\n') (values others : List α)
    (each : ∀ value ∈ values, Separates write value)
    (same : (inLines depth opening closing (values.map write)).toList ++ rest =
      (inLines depth opening closing (others.map write)).toList ++ following) :
    values = others ∧ rest = following := by
  have empty : (inLines depth opening closing []).toList = opening.toList ++ [bracket] := by
    rw [← closes]
    exact String.toList_append
  cases values with
  | nil =>
      cases others with
      | nil => exact ⟨rfl, List.append_cancel_left same⟩
      | cons other others =>
          simp only [List.map_nil, List.map_cons, empty, toList_inLines_cons,
            List.append_assoc, List.append_cancel_left_eq, toList_newLine] at same
          exact absurd (List.cons.inj same).1 visible
  | cons value values =>
      cases others with
      | nil =>
          simp only [List.map_nil, List.map_cons, empty, toList_inLines_cons,
            List.append_assoc, List.append_cancel_left_eq, toList_newLine] at same
          exact absurd (List.cons.inj same).1.symm visible
      | cons other others =>
          simp only [List.map_cons, toList_inLines_cons, List.append_assoc,
            List.append_cancel_left_eq] at same
          obtain ⟨rfl, sameItems⟩ := each value List.mem_cons_self other _ _
            (ends_remainingLines _ _) (ends_remainingLines _ _) same
          obtain ⟨rfl, sameRest⟩ := remainingLines_append_inj values others
            (fun value member => each value (List.mem_cons_of_mem _ member)) sameItems
          exact ⟨rfl, sameRest⟩

end Lines

/-! ## Values -/

/-- A member of an object, as it is written. -/
def prettyMember (depth : Nat) (member : String × Json) : String :=
  quoted member.1 ++ ": " ++ pretty depth member.2

theorem prettyItems_eq_map (depth : Nat) (items : List Json) :
    prettyItems depth items = items.map (pretty depth) := by
  induction items with
  | nil => rfl
  | cons item items ih => rw [prettyItems, ih, List.map_cons]

theorem prettyMembers_eq_map (depth : Nat) (members : List (String × Json)) :
    prettyMembers depth members = members.map (prettyMember depth) := by
  induction members with
  | nil => rfl
  | cons member members ih => rw [prettyMembers, ih, List.map_cons, prettyMember]

/-- The character that a written value starts with, where a zero stands for whatever a
number can start with. -/
def mark : Json → Char
  | .null => 'n'
  | .bool true => 't'
  | .bool false => 'f'
  | .number _ => '0'
  | .text _ => '"'
  | .array _ => '['
  | .object _ => '\x7b'

/-- The mark that a character is. -/
def markOf (character : Char) : Char :=
  if character.isDigit = true ∨ character = '-' then '0' else character

theorem exists_toString_eq_cons (number : Int) :
    ∃ front behind, (toString number).toList = front :: behind ∧ markOf front = '0' := by
  cases number with
  | ofNat number =>
      obtain ⟨digit, digits, written, isDigit⟩ := exists_repr_eq_cons number
      exact ⟨digit, digits, written, if_pos (.inl isDigit)⟩
  | negSucc number => exact ⟨'-', _, toList_toString_negSucc number, by decide⟩

theorem exists_inLines_eq_append (depth : Nat) (opening closing : String)
    (items : List String) :
    ∃ behind, (inLines depth opening closing items).toList = opening.toList ++ behind := by
  cases items with
  | nil => exact ⟨_, String.toList_append⟩
  | cons item items => exact ⟨_, toList_inLines_cons item items⟩

theorem exists_pretty_eq_cons (depth : Nat) (value : Json) :
    ∃ front behind, (pretty depth value).toList = front :: behind ∧
      markOf front = value.mark := by
  cases value with
  | null => exact ⟨'n', "ull".toList, String.toList_ofList, rfl⟩
  | bool value =>
      cases value with
      | false => exact ⟨'f', "alse".toList, String.toList_ofList, rfl⟩
      | true => exact ⟨'t', "rue".toList, String.toList_ofList, rfl⟩
  | number number => exact exists_toString_eq_cons number
  | text text => exact ⟨'"', _, String.toList_ofList, rfl⟩
  | array items =>
      obtain ⟨behind, written⟩ := exists_inLines_eq_append depth "[" "]"
        (prettyItems (depth + 1) items)
      exact ⟨'[', behind, written, rfl⟩
  | object members =>
      obtain ⟨behind, written⟩ := exists_inLines_eq_append depth "\x7b" "\x7d"
        (prettyMembers (depth + 1) members)
      exact ⟨'\x7b', behind, written, rfl⟩

/-- Values of the same form. The two truth values are forms of their own. -/
inductive SameForm : Json → Json → Prop
  | null : SameForm .null .null
  | bool (value : Bool) : SameForm (.bool value) (.bool value)
  | number (value other : Int) : SameForm (.number value) (.number other)
  | text (value other : String) : SameForm (.text value) (.text other)
  | array (items others : List Json) : SameForm (.array items) (.array others)
  | object (members others : List (String × Json)) :
      SameForm (.object members) (.object others)

theorem sameForm_of_mark_eq {value other : Json} (same : value.mark = other.mark) :
    SameForm value other := by
  rcases value with _ | (_ | _) | _ | _ | _ | _ <;>
    rcases other with _ | (_ | _) | _ | _ | _ | _ <;>
      first
      | constructor
      | simp [mark] at same

/-- Values that are written alike have the same form. -/
theorem sameForm_of_append {depth : Nat} {value other : Json}
    (same : (pretty depth value).toList ++ rest = (pretty depth other).toList ++ following) :
    SameForm value other := by
  obtain ⟨front, behind, written, marked⟩ := exists_pretty_eq_cons depth value
  obtain ⟨otherFront, otherBehind, otherWritten, otherMarked⟩ :=
    exists_pretty_eq_cons depth other
  rw [written, otherWritten] at same
  apply sameForm_of_mark_eq
  rw [← marked, ← otherMarked, (List.cons.inj same).1]

/-- A member is told apart by its name and its value. -/
theorem prettyMember_separates {depth : Nat} {member : String × Json}
    (each : Separates (pretty depth) member.2) : Separates (prettyMember depth) member := by
  intro other rest following ends otherEnds same
  simp only [prettyMember, String.toList_append, List.append_assoc] at same
  obtain ⟨sameName, sameValue⟩ := quoted_append_inj same
  obtain ⟨sameValue, sameRest⟩ :=
    each other.2 rest following ends otherEnds (List.append_cancel_left sameValue)
  exact ⟨Prod.ext sameName sameValue, sameRest⟩

/-- What holds of a value if it holds of all that is in it holds of every value. -/
@[elab_as_elim]
theorem inductionOn {motive : Json → Prop} (value : Json) (null : motive .null)
    (bool : ∀ value, motive (.bool value)) (number : ∀ value, motive (.number value))
    (text : ∀ value, motive (.text value))
    (array : ∀ items, (∀ item ∈ items, motive item) → motive (.array items))
    (object : ∀ members, (∀ member ∈ members, motive (Prod.snd member)) →
      motive (.object members)) : motive value :=
  match value with
  | .null => null
  | .bool value => bool value
  | .number value => number value
  | .text value => text value
  | .array items => array items fun item _ =>
      inductionOn item null bool number text array object
  | .object members => object members fun (_, part) _ =>
      inductionOn part null bool number text array object
termination_by value
decreasing_by
  · have smaller := List.sizeOf_lt_of_mem ‹_ ∈ items›
    rw [Json.array.sizeOf_spec]
    omega
  · have smaller := List.sizeOf_lt_of_mem ‹_ ∈ members›
    rw [Prod.mk.sizeOf_spec] at smaller
    rw [Json.object.sizeOf_spec]
    omega

/-- What is written for a value tells it from all others. -/
theorem pretty_separates (depth : Nat) (value : Json) : Separates (pretty depth) value := by
  induction value using inductionOn generalizing depth with
  | null =>
      intro other rest following ends otherEnds same
      cases sameForm_of_append same
      exact ⟨rfl, List.append_cancel_left same⟩
  | bool value =>
      intro other rest following ends otherEnds same
      cases sameForm_of_append same
      exact ⟨rfl, List.append_cancel_left same⟩
  | number number =>
      intro other rest following ends otherEnds same
      cases sameForm_of_append same with
      | number _ other =>
          obtain ⟨rfl, sameRest⟩ :=
            number_separates number other rest following ends otherEnds same
          exact ⟨rfl, sameRest⟩
  | text text =>
      intro other rest following ends otherEnds same
      cases sameForm_of_append same with
      | text _ other =>
          obtain ⟨rfl, sameRest⟩ := quoted_append_inj same
          exact ⟨rfl, sameRest⟩
  | array items ih =>
      intro other rest following ends otherEnds same
      cases sameForm_of_append same with
      | array _ others =>
          rw [pretty, pretty, prettyItems_eq_map, prettyItems_eq_map] at same
          obtain ⟨rfl, sameRest⟩ := inLines_append_inj ']' (by decide) (by decide) items
            others (fun item listed => ih item listed (depth + 1)) same
          exact ⟨rfl, sameRest⟩
  | object members ih =>
      intro other rest following ends otherEnds same
      cases sameForm_of_append same with
      | object _ others =>
          rw [pretty, pretty, prettyMembers_eq_map, prettyMembers_eq_map] at same
          obtain ⟨rfl, sameRest⟩ := inLines_append_inj '\x7d' (by decide) (by decide) members
            others (fun member listed => prettyMember_separates (ih member listed (depth + 1)))
            same
          exact ⟨rfl, sameRest⟩

/-- A value is determined by what is written for it. -/
theorem pretty_injective (depth : Nat) : Function.Injective (pretty depth) := by
  intro value other same
  exact (pretty_separates depth value other [] [] nofun nofun (by rw [same])).1

end NostrEntities.Json
