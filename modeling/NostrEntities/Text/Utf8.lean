/-!
# Texts as bytes

A text has one UTF-8 form, and a byte string is the form of at most one text.
Both directions work on lists of bytes, the shape in which records carry their
values.
-/

namespace NostrEntities.Text

/-- The UTF-8 form of a text. -/
def utf8Bytes (text : String) : List UInt8 :=
  text.toByteArray.data.toList

/-- The text whose UTF-8 form is the given byte string, if there is one. -/
def ofUtf8? (bytes : List UInt8) : Option String :=
  String.fromUTF8? bytes.toByteArray

@[simp] theorem length_utf8Bytes (text : String) :
    (utf8Bytes text).length = text.utf8ByteSize := by
  simp [utf8Bytes]

theorem toByteArray_utf8Bytes (text : String) :
    (utf8Bytes text).toByteArray = text.toByteArray := by
  apply ByteArray.ext
  simp [utf8Bytes]

/-- Reading succeeds on UTF-8 forms only, with the text they belong to. -/
theorem ofUtf8?_eq_some_iff {bytes : List UInt8} {text : String} :
    ofUtf8? bytes = some text ↔ bytes = utf8Bytes text := by
  unfold ofUtf8? String.fromUTF8?
  constructor
  · intro read
    split at read
    · obtain rfl := Option.some.inj read
      simp [utf8Bytes, String.fromUTF8]
    · simp at read
  · rintro rfl
    have valid : (utf8Bytes text).toByteArray.IsValidUTF8 := by
      rw [toByteArray_utf8Bytes]
      exact text.isValidUTF8
    rw [dif_pos valid]
    congr 1
    apply String.toByteArray_inj.mp
    exact toByteArray_utf8Bytes text

@[simp] theorem ofUtf8?_utf8Bytes (text : String) :
    ofUtf8? (utf8Bytes text) = some text :=
  ofUtf8?_eq_some_iff.mpr rfl

theorem utf8Bytes_injective {first second : String}
    (same : utf8Bytes first = utf8Bytes second) : first = second := by
  have read := ofUtf8?_utf8Bytes first
  rw [same, ofUtf8?_utf8Bytes] at read
  exact (Option.some.inj read).symm

end NostrEntities.Text
