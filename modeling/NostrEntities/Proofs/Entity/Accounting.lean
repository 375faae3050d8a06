import Mathlib
import NostrEntities.Proofs.Entity.Content

/-!
# What is left out is in the log

Two things that a buffer holds can be left out when it is read: the bytes behind the last
record that may be read, and the relays behind the last one that is kept. Each of them
leaves a line in the log that counts what is missing, and nothing else does. So whoever
sees no such line has everything.
-/

namespace NostrEntities

/-! ## Lines of the log -/

namespace Notice

/-- A notice of a count, unless the count is zero. -/
def ofCount (notice : Nat → Notice) (count : Nat) : List Notice :=
  if 0 < count then [notice count] else []

@[simp] theorem mem_ofCount {notice : Nat → Notice} {count : Nat} {other : Notice} :
    other ∈ ofCount notice count ↔ 0 < count ∧ other = notice count := by
  rw [ofCount]
  split <;> simp_all

theorem eq_zero_of_ofCount_silent {notice : Nat → Notice} {count : Nat}
    (matters : (notice count).level = .debug)
    (silent : ∀ other ∈ ofCount notice count, other.level ≠ .debug) : count = 0 := by
  by_contra positive
  exact silent _ (mem_ofCount.mpr ⟨Nat.pos_of_ne_zero positive, rfl⟩) matters

theorem line_bytesIgnored (count : Nat) :
    (bytesIgnored Record.maximumCount count).line =
      s!"DEBUG TLV limit of 16 records reached, ignoring {count} trailing bytes" :=
  rfl

theorem line_relaysDropped (count : Nat) :
    (relaysDropped Entity.maximumRelays count).line =
      s!"DEBUG Keeping 10 relay hints, dropped {count}" :=
  rfl

theorem line_bytesIgnored_inj {limit first second : Nat} :
    (bytesIgnored limit first).line = (bytesIgnored limit second).line ↔
      first = second := by
  simp only [line, level, message_bytesIgnored, toString, String.append_right_inj,
    String.append_left_inj, Nat.repr_inj]

theorem line_relaysDropped_inj {limit first second : Nat} :
    (relaysDropped limit first).line = (relaysDropped limit second).line ↔
      first = second := by
  simp only [line, level, message_relaysDropped, toString, String.append_right_inj,
    Nat.repr_inj]

/-- The two lines differ in the first letter behind the level. -/
theorem line_bytesIgnored_ne_line_relaysDropped (limit count otherLimit other : Nat) :
    (bytesIgnored limit count).line ≠ (relaysDropped otherLimit other).line := by
  intro same
  have letters := congrArg (fun text => text.toList[6]?) same
  simp [line, message_bytesIgnored, message_relaysDropped, level, Level.name, toString]
    at letters

/-- Among the notices of a buffer one line tells how many bytes were left unread. -/
theorem line_bytesIgnored_mem_iff {limit relayLimit bytes relays count : Nat} :
    (bytesIgnored limit count).line ∈
        (ofCount (bytesIgnored limit) bytes ++
          ofCount (relaysDropped relayLimit) relays).map line ↔
      0 < count ∧ count = bytes := by
  simp only [List.mem_map, List.mem_append, mem_ofCount]
  constructor
  · rintro ⟨notice, ⟨positive, rfl⟩ | ⟨-, rfl⟩, same⟩
    · cases line_bytesIgnored_inj.mp same
      exact ⟨positive, rfl⟩
    · exact absurd same.symm (line_bytesIgnored_ne_line_relaysDropped _ _ _ _)
  · rintro ⟨positive, rfl⟩
    exact ⟨_, .inl ⟨positive, rfl⟩, rfl⟩

/-- Another line tells how many relays were dropped. -/
theorem line_relaysDropped_mem_iff {limit recordLimit bytes relays count : Nat} :
    (relaysDropped limit count).line ∈
        (ofCount (bytesIgnored recordLimit) bytes ++
          ofCount (relaysDropped limit) relays).map line ↔
      0 < count ∧ count = relays := by
  simp only [List.mem_map, List.mem_append, mem_ofCount]
  constructor
  · rintro ⟨notice, ⟨-, rfl⟩ | ⟨positive, rfl⟩, same⟩
    · exact absurd same (line_bytesIgnored_ne_line_relaysDropped _ _ _ _)
    · cases line_relaysDropped_inj.mp same
      exact ⟨positive, rfl⟩
  · rintro ⟨positive, rfl⟩
    exact ⟨_, .inr ⟨positive, rfl⟩, rfl⟩

end Notice

/-! ## Notices of the readers -/

/-- Bytes that are left unread behind the records are reported with their number. -/
theorem Record.notices_readAll {buffer tail : List UInt8} {records : List Record}
    (framed : Framed maximumCount buffer records tail) :
    (readAll buffer).notices =
      Notice.ofCount (.bytesIgnored maximumCount) tail.length := by
  rw [readAll, readUpTo_eq_ok_iff.mpr framed, Traced.ofExcept_ok_bind]
  cases tail <;> cases records <;> rfl

namespace Entity.Layout

open Record (values)

variable {layout : Layout} {buffer tail : List UInt8} {records : List Record}
  {payload : Payload}

/-- Relays that are dropped are reported with their number. -/
theorem notices_readRelays {relays : List String}
    (read : (layout.readRelays records).outcome = .ok relays) :
    (layout.readRelays records).notices =
      Notice.ofCount (.relaysDropped maximumRelays)
        ((layout.relayValues records).length - relays.length) := by
  have taken := outcome_readRelays_eq_ok_iff.mp read
  have count : (layout.relayValues records).length - relays.length =
      (layout.relayValues records).length - maximumRelays := by
    have lengths := congrArg List.length taken
    rw [List.length_take, List.length_map] at lengths
    omega
  rw [readRelays, readTexts_eq_ok_iff.mpr taken, Traced.ofExcept_ok_bind,
    Traced.notices_bind_of_ok (Traced.outcome_notifyIf _ _), count, Notice.ofCount]
  simp

/-- No component but the relays is reported on. -/
theorem notices_ofRecords (described : layout.Describes records payload) :
    (layout.ofRecords records).notices =
      Notice.ofCount (.relaysDropped maximumRelays)
        ((layout.relayValues records).length - payload.relays.length) := by
  have special : layout.readSpecial records = .ok payload.special :=
    readSpecial_eq_ok_iff.mpr ⟨described.special_first, described.special_form⟩
  have relays : (layout.readRelays records).outcome = .ok payload.relays :=
    outcome_readRelays_eq_ok_iff.mpr described.relays_eq
  have author : layout.readAuthor records = .ok payload.author :=
    (readSingle_eq_ok_iff readAuthorKey_eq_ok_iff).mpr described.author_selected
  have kind : layout.readKind records = .ok payload.kind :=
    (readSingle_eq_ok_iff readEventKind_eq_ok_iff).mpr described.kind_selected
  rw [ofRecords, special, Traced.ofExcept_ok_bind, Traced.notices_bind_of_ok relays,
    author, Traced.ofExcept_ok_bind, kind, Traced.ofExcept_ok_bind,
    notices_readRelays relays]
  simp

theorem notices_decode (nonempty : records ≠ [])
    (framed : Record.Framed Record.maximumCount buffer records tail)
    (described : layout.Describes records payload) :
    (layout.decode buffer).notices =
      Notice.ofCount (.bytesIgnored Record.maximumCount) tail.length ++
        Notice.ofCount (.relaysDropped maximumRelays)
          ((layout.relayValues records).length - payload.relays.length) := by
  have parsed : (Record.readAll buffer).outcome = .ok records :=
    Record.outcome_readAll_eq_ok_iff.mpr ⟨nonempty, tail, framed⟩
  have restated : ((Record.readAll buffer).mapError Error.record).outcome =
      .ok records := by
    rw [Traced.outcome_mapError, parsed]
    rfl
  rw [decode, Traced.notices_bind_of_ok restated, Traced.notices_mapError,
    Record.notices_readAll framed, notices_ofRecords described]

/-- Where nothing was dropped, the relays are all that there are. -/
theorem relays_of_few (described : layout.Describes records payload)
    (carried : layout.relay ≠ .ignored)
    (few : (values records .relay).length ≤ payload.relays.length) :
    payload.relays.map Text.utf8Bytes = values records .relay := by
  have taken := described.relays_eq
  rw [relayValues_of_carried carried] at taken
  have lengths := congrArg List.length taken
  rw [List.length_take, List.length_map] at lengths
  rw [← taken]
  apply List.take_of_length_le
  omega

/-- Without a notice that matters no byte and no relay was left out. -/
theorem nothing_left_out_of_silent (nonempty : records ≠ [])
    (framed : Record.Framed Record.maximumCount buffer records tail)
    (described : layout.Describes records payload)
    (silent : ∀ notice ∈ (layout.decode buffer).notices, notice.level ≠ .debug) :
    tail = [] ∧ (layout.relayValues records).length ≤ payload.relays.length := by
  rw [notices_decode nonempty framed described] at silent
  constructor
  · have noBytes : tail.length = 0 := Notice.eq_zero_of_ofCount_silent rfl
      fun _ member => silent _ (List.mem_append_left _ member)
    exact List.length_eq_zero_iff.mp noBytes
  · have noRelays : (layout.relayValues records).length - payload.relays.length = 0 :=
      Notice.eq_zero_of_ofCount_silent rfl
        fun _ member => silent _ (List.mem_append_right _ member)
    exact Nat.sub_eq_zero_iff_le.mp noRelays

/-! ## The log -/

/-- The lines that reading a buffer leaves in the log. -/
def log (layout : Layout) (buffer : List UInt8) : List String :=
  (layout.decode buffer).notices.map Notice.line

/-- Whenever a payload is read, the log tells how many bytes stand behind the records and
how many relays were dropped, unless there are none. So without a line of that kind the
whole buffer was read, and every relay in it was kept. -/
theorem mem_log_iff_left_out (layout : Layout) (buffer : List UInt8)
    (payload : Payload) (read : (layout.decode buffer).outcome = .ok payload) :
    ∃ records written,
      (Record.readAll buffer).outcome = .ok records ∧
      Record.writeAll records = .ok written ∧
      (∀ count,
        s!"DEBUG TLV limit of 16 records reached, ignoring {count} trailing bytes" ∈
            layout.log buffer ↔
          0 < count ∧ written.length + count = buffer.length) ∧
      (written.length ≠ buffer.length → records.length = 16) ∧
      (layout.relay ≠ .ignored → ∀ count,
        s!"DEBUG Keeping 10 relay hints, dropped {count}" ∈ layout.log buffer ↔
          0 < count ∧
            payload.relays.length + count =
              (Record.withTag records .relay).length) ∧
      ((∀ notice ∈ (layout.decode buffer).notices, notice.level ≠ .debug) →
        written = buffer ∧
          (layout.relay ≠ .ignored →
            payload.relays.map Text.utf8Bytes =
              (Record.withTag records .relay).map Record.value)) := by
  rcases outcome_layoutDecode_eq_ok_iff.mp read with
    ⟨records, tail, nonempty, framed, described⟩
  have notices := notices_decode nonempty framed described
  have size : buffer.length = (Record.bytesOfAll records).length + tail.length := by
    rw [framed.buffer_eq, List.length_append]
  have kept := congrArg List.length described.relays_eq
  rw [List.length_take, List.length_map] at kept
  refine ⟨records, Record.bytesOfAll records,
    Record.outcome_readAll_eq_ok_iff.mpr ⟨nonempty, tail, framed⟩,
    Record.writeAll_eq_ok_iff.mpr ⟨framed.short, rfl⟩, ?_, ?_, ?_, ?_⟩
  · intro count
    rw [← Notice.line_bytesIgnored, log, notices, Notice.line_bytesIgnored_mem_iff]
    omega
  · intro differ
    apply framed.full_of_tail
    intro noBytes
    rw [noBytes, List.length_nil] at size
    exact differ size.symm
  · intro carried count
    have number : (Record.withTag records .relay).length =
        (values records .relay).length := (List.length_map _).symm
    rw [← Notice.line_relaysDropped, log, notices, Notice.line_relaysDropped_mem_iff,
      number, ← relayValues_of_carried carried]
    omega
  · intro silent
    rcases nothing_left_out_of_silent nonempty framed described silent with
      ⟨whole, few⟩
    refine ⟨by rw [framed.buffer_eq, whole, List.append_nil], ?_⟩
    intro carried
    rw [relayValues_of_carried carried] at few
    exact relays_of_few described carried few

/-! ## A crowded buffer -/

/-- As many records as may be read, with more relays than are kept. -/
def crowded : List Record :=
  ⟨.special, List.replicate 32 0⟩ ::
    (List.replicate 12 ⟨.relay, [97]⟩ ++ List.replicate 3 ⟨.author, []⟩)

/-- Their bytes, and three more. -/
def crowdedBytes : List UInt8 :=
  Record.bytesOfAll crowded ++ [1, 1, 98]

theorem mem_log_crowdedBytes :
    (TaggedKind.nprofile.layout.decode crowdedBytes).outcome =
        .ok { special := List.replicate 32 0, relays := List.replicate 10 "a" } ∧
      "DEBUG TLV limit of 16 records reached, ignoring 3 trailing bytes" ∈
        TaggedKind.nprofile.layout.log crowdedBytes ∧
      "DEBUG Keeping 10 relay hints, dropped 2" ∈
        TaggedKind.nprofile.layout.log crowdedBytes := by
  have read : (TaggedKind.nprofile.layout.decode crowdedBytes).outcome =
      .ok { special := List.replicate 32 0, relays := List.replicate 10 "a" } := by
    cbv
  have parsed : (Record.readAll crowdedBytes).outcome = .ok crowded := by
    cbv
  rcases mem_log_iff_left_out _ _ _ read with
    ⟨records, written, same, produced, bytes, -, relays, -⟩
  rw [parsed] at same
  cases same
  rw [(Record.writeAll_eq_ok_iff.mp produced).2] at bytes
  exact ⟨read, (bytes 3).mpr (by decide), (relays (by decide) 2).mpr (by decide)⟩

end Entity.Layout

end NostrEntities
