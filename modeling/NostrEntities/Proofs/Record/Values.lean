import Mathlib.Algebra.GroupWithZero.Nat
import Mathlib.Data.List.Flatten
import Mathlib.Data.List.Perm.Subperm
import NostrEntities.Proofs.Record.Framing

/-!
# Records by their tags

What a reader makes of records depends on the values of each tag only, and records
with fewer values of every tag take less room.
-/

namespace NostrEntities.Record

/-- The values of the records with a tag, in their order. -/
def values (records : List Record) (tag : Tag) : List (List UInt8) :=
  (withTag records tag).map value

theorem values_append (first second : List Record) (tag : Tag) :
    values (first ++ second) tag = values first tag ++ values second tag := by
  rw [values, withTag, List.filter_append, List.map_append]
  rfl

theorem values_cons (record : Record) (rest : List Record) (tag : Tag) :
    values (record :: rest) tag =
      if record.tag = tag then record.value :: values rest tag
      else values rest tag := by
  by_cases same : record.tag = tag <;> simp [values, withTag, same]

theorem values_map_mk (written tag : Tag) (contents : List (List UInt8)) :
    values (contents.map fun content => ⟨written, content⟩) tag =
      if written = tag then contents else [] := by
  induction contents with
  | nil => rw [List.map_nil, ite_self]; rfl
  | cons content rest ih =>
      rw [List.map_cons, values_cons, ih]
      split <;> rfl

theorem map_value_first? (records : List Record) (tag : Tag) :
    (first? records tag).map value = (values records tag).head? := by
  rw [first?_eq_head?_withTag, values, List.head?_map]

/-- The records of a tag are its values with the tag in front. -/
theorem withTag_eq_map_values (records : List Record) (tag : Tag) :
    withTag records tag =
      (values records tag).map fun content => ⟨tag, content⟩ := by
  have restored : ∀ record ∈ withTag records tag,
      ((fun content => (⟨tag, content⟩ : Record)) ∘ value) record = id record := by
    intro record member
    have tagged := beq_iff_eq.mp (List.mem_filter.mp member).2
    cases record
    subst tagged
    rfl
  rw [values, List.map_map, List.map_congr_left restored, List.map_id]

/-- Fewer values of every tag, in any order of the tags, are fewer records. -/
theorem subperm_of_values_sublist {first second : List Record}
    (fewer : ∀ tag, (values first tag).Sublist (values second tag)) :
    first.Subperm second := by
  rw [List.subperm_ext_iff]
  intro record member
  have kept : (withTag first record.tag).Sublist (withTag second record.tag) := by
    rw [withTag_eq_map_values, withTag_eq_map_values]
    exact (fewer record.tag).map _
  have counts : ∀ records : List Record,
      (withTag records record.tag).count record = records.count record := by
    intro records
    exact List.count_filter (p := fun other : Record => other.tag == record.tag)
      (beq_self_eq_true record.tag)
  rw [← counts first, ← counts second]
  exact kept.count_le record

/-- A record takes two bytes more than its value. -/
theorem length_bytesOfAll (records : List Record) :
    (bytesOfAll records).length =
      (records.map fun record => 2 + record.value.length).sum := by
  induction records with
  | nil => rfl
  | cons record rest ih =>
      rw [bytesOfAll_cons, List.length_append, length_bytes, ih, List.map_cons,
        List.sum_cons, Nat.add_comm 2]

/-- Fewer records take less room. -/
theorem length_bytesOfAll_le {first second : List Record}
    (fewer : first.Subperm second) :
    (bytesOfAll first).length ≤ (bytesOfAll second).length := by
  rcases fewer with ⟨middle, same, kept⟩
  calc
    (bytesOfAll first).length
      = (bytesOfAll middle).length := (same.flatMap_right bytes).length_eq.symm
    _ ≤ (bytesOfAll second).length := (kept.flatMap bytes).length_le

end NostrEntities.Record
