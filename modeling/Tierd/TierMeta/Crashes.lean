import Tierd.TierMeta.Envelope

namespace Tierd.TierMeta

open Tierd.Data List

/-- A completed write is read back, and a crash leaves the old payload, the new one or an error. -/
structure Survives (short : Nat → Nat) (volume stored payload : Bytes) : Prop where
  completed : ∀ after, writeMeta (some volume) payload = (some after, .ok ()) →
    readMeta short (some after) = .ok payload
  crashed : ∀ count result, readMeta short (some (torn count payload volume)) = .ok result →
    result = stored ∨ result = payload

def LengthsSettle (volume : Bytes) (old new : Nat) : Prop :=
  ∀ count ≤ 8, mixed count old new = old ∨ mixed count old new = new ∨ mixed count old new = 0 ∨
    sanityCap < mixed count old new ∨ volume.length < headerSize + mixed count old new
deriving Decidable

/-- Payloads of one length differ at one byte at most. A payload of another length does not fit or
is on the volume already, behind the header. -/
def PayloadsSettle (volume stored payload : Bytes) : Prop :=
  if stored.length = payload.length then differences stored payload ≤ 1
  else headerSize + payload.length ≤ volume.length → payload <+: volume.drop headerSize
deriving Decidable

section

variable {short : Nat → Nat} {first field area stored payload result : Bytes}

theorem readMeta_torn_before (firstSize : first.length = 8) (fieldSize : field.length = 8) {count : Nat}
    (early : count ≤ 8) (read : readMeta short (some (torn count payload (first ++ (field ++ area)))) = .ok result) :
    result = area.take (fromLittleEndian field) := by
  rw [torn_before firstSize early, readMeta_eq_ok ((overwrite_length _ _).trans firstSize) fieldSize] at read
  exact read.2.2.2.2

theorem readMeta_torn_within (firstSize : first.length = 8) (fieldSize : field.length = 8) {count : Nat}
    (within : count ≤ 8) :
    readMeta short (some (torn (8 + count) payload (first ++ (field ++ area)))) = .ok result ↔
      0 < mixed count (fromLittleEndian field) payload.length ∧
      mixed count (fromLittleEndian field) payload.length ≤ sanityCap ∧
      mixed count (fromLittleEndian field) payload.length ≤ area.length ∧
      result = area.take (mixed count (fromLittleEndian field) payload.length) := by
  rw [torn_within firstSize fieldSize within, readMeta_eq_ok (by simp) ((overwrite_length _ _).trans fieldSize),
    fromLittleEndian_overwrite fieldSize within]
  exact and_iff_right magic_header

theorem readMeta_torn_after (firstSize : first.length = 8) (fieldSize : field.length = 8)
    (nonempty : 0 < payload.length) (believed : payload.length ≤ sanityCap) (count : Nat) :
    readMeta short (some (torn (headerSize + count) payload (first ++ (field ++ area)))) = .ok result ↔
      payload.length ≤ area.length ∧ result = (overwrite (payload.take count) area).take payload.length := by
  have small : payload.length % 256 ^ 8 = payload.length := by
    refine Nat.mod_eq_of_lt ?_
    unfold sanityCap at believed
    omega
  rw [torn_after firstSize fieldSize, readMeta_eq_ok (by simp) (littleEndian_length 8 _),
    fromLittleEndian_littleEndian, small, overwrite_length]
  exact ⟨fun read => read.2.2.2, fun read => ⟨magic_header, nonempty, believed, read⟩⟩

/-- A completed write is always read back. -/
theorem readMeta_writeMeta {volume after : Bytes} (nonempty : 0 < payload.length)
    (believed : payload.length ≤ sanityCap) (written : writeMeta (some volume) payload = (some after, .ok ())) :
    readMeta short (some after) = .ok payload := by
  obtain ⟨room, rfl⟩ := writeMeta_eq_ok written
  obtain ⟨first, field, area, rfl, firstSize, fieldSize⟩ := exists_parts (Nat.le_of_add_right_le room)
  have fits : payload.length ≤ area.length := by
    simp only [length_append, firstSize, fieldSize, headerSize] at room
    omega
  rw [readMeta_torn_after firstSize fieldSize nonempty believed]
  refine ⟨fits, ?_⟩
  rw [take_length, overwrite_of_le fits, take_left]

theorem take_overwrite_same (tail : Bytes) (same : stored.length = payload.length) (count : Nat) :
    (overwrite (payload.take count) (stored ++ tail)).take payload.length = overwrite (payload.take count) stored := by
  have within : (payload.take count).length ≤ stored.length := by
    rw [length_take]
    omega
  rw [overwrite_append within, take_left']
  rw [overwrite_length, same]

theorem overwrite_take_self (tail : Bytes) (count : Nat) :
    overwrite (payload.take count) (payload ++ tail) = payload ++ tail := by
  have within : (payload.take count).length ≤ payload.length := by
    rw [length_take]
    omega
  rw [overwrite_append within, overwrite_of_le within, length_take]
  congr 1
  rcases Nat.le_total count payload.length with short | long
  · rw [Nat.min_eq_left short, take_append_drop]
  · rw [Nat.min_eq_right long, drop_length, append_nil, take_of_length_le long]

variable (firstSize : first.length = 8) (fieldSize : field.length = 8) (fits : fromLittleEndian field ≤ area.length)

include firstSize fieldSize fits

theorem lengthsSettle_iff (new : Nat) :
    LengthsSettle (first ++ (field ++ area)) (area.take (fromLittleEndian field)).length new ↔
      ∀ count ≤ 8, mixed count (fromLittleEndian field) new = fromLittleEndian field ∨
        mixed count (fromLittleEndian field) new = new ∨ mixed count (fromLittleEndian field) new = 0 ∨
        sanityCap < mixed count (fromLittleEndian field) new ∨
        area.length < mixed count (fromLittleEndian field) new := by
  have size : (first ++ (field ++ area)).length = headerSize + area.length := by
    simp only [length_append, firstSize, fieldSize, headerSize]
    omega
  unfold LengthsSettle
  rw [size, length_take, Nat.min_eq_left fits]
  simp only [Nat.add_lt_add_iff_left]

theorem payloadsSettle_iff :
    PayloadsSettle (first ++ (field ++ area)) (area.take (fromLittleEndian field)) payload ↔
      if fromLittleEndian field = payload.length then
        differences (area.take (fromLittleEndian field)) payload ≤ 1
      else payload.length ≤ area.length → payload <+: area := by
  have size : (first ++ (field ++ area)).length = headerSize + area.length := by
    simp only [length_append, firstSize, fieldSize, headerSize]
    omega
  have rest : (first ++ (field ++ area)).drop headerSize = area := by
    rw [← append_assoc, drop_left']
    rw [length_append, firstSize, fieldSize, headerSize]
  unfold PayloadsSettle
  rw [size, rest, length_take, Nat.min_eq_left fits, Nat.add_le_add_iff_left]

/-- The reader follows a mixed length that nothing rules out, and the payload it finds has that
length. -/
theorem lengths_of_crashed
    (crashed : ∀ count result, readMeta short (some (torn count payload (first ++ (field ++ area)))) = .ok result →
      result = area.take (fromLittleEndian field) ∨ result = payload) :
    LengthsSettle (first ++ (field ++ area)) (area.take (fromLittleEndian field)).length payload.length := by
  refine (lengthsSettle_iff firstSize fieldSize fits _).mpr fun count within => ?_
  by_contra! third
  obtain ⟨notOld, notNew, notZero, small, inside⟩ := third
  have outcome := crashed (8 + count) _ ((readMeta_torn_within firstSize fieldSize within).mpr
    ⟨by omega, small, inside, rfl⟩)
  rcases outcome with old | new
  · have lengths := congrArg List.length old
    rw [length_take, length_take, Nat.min_eq_left fits, Nat.min_eq_left inside] at lengths
    exact notOld lengths
  · have lengths := congrArg List.length new
    rw [length_take, Nat.min_eq_left inside] at lengths
    exact notNew lengths

theorem payloads_of_crashed (nonempty : 0 < payload.length) (believed : payload.length ≤ sanityCap)
    (crashed : ∀ count result, readMeta short (some (torn count payload (first ++ (field ++ area)))) = .ok result →
      result = area.take (fromLittleEndian field) ∨ result = payload) :
    PayloadsSettle (first ++ (field ++ area)) (area.take (fromLittleEndian field)) payload := by
  have length : (area.take (fromLittleEndian field)).length = fromLittleEndian field := by
    rw [length_take, Nat.min_eq_left fits]
  have outcomes : payload.length ≤ area.length → ∀ count,
      (overwrite (payload.take count) area).take payload.length = area.take (fromLittleEndian field) ∨
        (overwrite (payload.take count) area).take payload.length = payload := fun room count =>
    crashed (headerSize + count) _ ((readMeta_torn_after firstSize fieldSize nonempty believed count).mpr ⟨room, rfl⟩)
  rw [payloadsSettle_iff firstSize fieldSize fits]
  split
  case isTrue same =>
    refine (overwrite_take_eq_iff (length.trans same)).mp fun count => ?_
    rw [← take_overwrite_same (area.drop (fromLittleEndian field)) (length.trans same), take_append_drop]
    exact outcomes (by omega) count
  case isFalse different =>
    intro room
    have outcome := outcomes room 0
    rw [take_zero, overwrite_nil] at outcome
    rcases outcome with old | new
    · have lengths := congrArg List.length old
      rw [length, length_take, Nat.min_eq_left room] at lengths
      exact absurd lengths.symm different
    · exact new ▸ take_prefix _ _

variable (payloads : PayloadsSettle (first ++ (field ++ area)) (area.take (fromLittleEndian field)) payload)

include payloads

/-- With the new length and the old area, the payload is there already unless it is as long as the
old one. -/
theorem crashed_within
    (lengths : LengthsSettle (first ++ (field ++ area)) (area.take (fromLittleEndian field)).length payload.length)
    {count : Nat} (within : count ≤ 8)
    (read : readMeta short (some (torn (8 + count) payload (first ++ (field ++ area)))) = .ok result) :
    result = area.take (fromLittleEndian field) ∨ result = payload := by
  obtain ⟨positive, small, inside, rfl⟩ := (readMeta_torn_within firstSize fieldSize within).mp read
  rw [payloadsSettle_iff firstSize fieldSize fits] at payloads
  rcases (lengthsSettle_iff firstSize fieldSize fits _).mp lengths count within with old | new | zero | large | outside
  · exact .inl (by rw [old])
  · rw [new] at inside ⊢
    split at payloads
    case isTrue same => exact .inl (by rw [same])
    case isFalse => exact .inr (prefix_iff_eq_take.mp (payloads inside)).symm
  all_goals omega

theorem crashed_after (nonempty : 0 < payload.length) (believed : payload.length ≤ sanityCap) {count : Nat}
    (read : readMeta short (some (torn (headerSize + count) payload (first ++ (field ++ area)))) = .ok result) :
    result = area.take (fromLittleEndian field) ∨ result = payload := by
  obtain ⟨room, rfl⟩ := (readMeta_torn_after firstSize fieldSize nonempty believed count).mp read
  have length : (area.take (fromLittleEndian field)).length = fromLittleEndian field := by
    rw [length_take, Nat.min_eq_left fits]
  rw [payloadsSettle_iff firstSize fieldSize fits] at payloads
  split at payloads
  case isTrue same =>
    have outcome := (overwrite_take_eq_iff (length.trans same)).mpr payloads count
    rwa [← take_overwrite_same (area.drop (fromLittleEndian field)) (length.trans same),
      take_append_drop] at outcome
  case isFalse =>
    obtain ⟨tail, rfl⟩ := payloads room
    right
    rw [overwrite_take_self, take_left]

end

/-- The envelope survives every crash exactly when neither the lengths nor the payloads can be
mixed. -/
theorem envelope_survives (short : Nat → Nat) (volume stored payload : Bytes)
    (holds : readMeta short (some volume) = .ok stored) (nonempty : 0 < payload.length)
    (believed : payload.length ≤ sanityCap) :
    Survives short volume stored payload ↔
      LengthsSettle volume stored.length payload.length ∧ PayloadsSettle volume stored payload := by
  obtain ⟨first, field, area, rfl, firstSize, fieldSize⟩ := exists_parts (room_of_readMeta holds)
  obtain ⟨-, -, -, fits, rfl⟩ := (readMeta_eq_ok firstSize fieldSize).mp holds
  constructor
  · intro survives
    exact ⟨lengths_of_crashed firstSize fieldSize fits survives.crashed,
      payloads_of_crashed firstSize fieldSize fits nonempty believed survives.crashed⟩
  · rintro ⟨lengths, payloads⟩
    refine ⟨fun after => readMeta_writeMeta nonempty believed, fun count result read => ?_⟩
    by_cases early : count ≤ 8
    · exact .inl (readMeta_torn_before firstSize fieldSize early read)
    by_cases within : count ≤ headerSize
    · unfold headerSize at within
      obtain ⟨count, rfl⟩ : ∃ more, count = 8 + more := ⟨count - 8, by omega⟩
      exact crashed_within firstSize fieldSize fits payloads lengths (by omega) read
    · obtain ⟨count, rfl⟩ : ∃ more, count = headerSize + more := ⟨count - headerSize, by omega⟩
      exact crashed_after firstSize fieldSize fits payloads nonempty believed read

/-- One byte of the payload changes, in its place. -/
theorem byte_change_survives : Survives (fun _ => 0) (header [7, 8] ++ [7, 8]) [7, 8] [7, 9] :=
  (envelope_survives (fun _ => 0) (header [7, 8] ++ [7, 8]) [7, 8] [7, 9]
    (readMeta_writeMeta (by decide) (by decide)
      (by rfl : writeMeta (some (header [7, 8] ++ [7, 8])) [7, 8] = (some (header [7, 8] ++ [7, 8]), .ok ())))
    (by decide) (by decide)).mpr (by decide)

/-- One byte of two is replaced, and a longer payload is read with a byte from behind the old one.
-/
theorem mixture_read :
    readMeta (fun _ => 0) (some (header [1, 2] ++ [1, 2])) = .ok [1, 2] ∧
    readMeta (fun _ => 0) (some (torn 17 [3, 4] (header [1, 2] ++ [1, 2]))) = .ok [3, 2] ∧
    readMeta (fun _ => 0) (some (header [1] ++ [1, 9])) = .ok [1] ∧
    readMeta (fun _ => 0) (some (torn 16 [2, 3] (header [1] ++ [1, 9]))) = .ok [1, 9] := by
  have parts : ∀ payload area : Bytes, header payload ++ area =
      (littleEndian 4 metaMagic ++ littleEndian 4 metaVersion) ++ (littleEndian 8 payload.length ++ area) :=
    fun payload area => by rw [header, append_assoc]
  refine ⟨?_, ?_, ?_, ?_⟩
  · rw [parts, readMeta_eq_ok (by decide) (by decide)]
    decide
  · rw [parts]
    exact (readMeta_torn_after (by decide) (by decide) (by decide) (by decide) 1).mpr (by decide)
  · rw [parts, readMeta_eq_ok (by decide) (by decide)]
    decide
  · rw [parts]
    exact (readMeta_torn_after (by decide) (by decide) (by decide) (by decide) 0).mpr (by decide)

end Tierd.TierMeta
