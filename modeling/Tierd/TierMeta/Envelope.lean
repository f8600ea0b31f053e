import Tierd.Data.Overwrite

namespace Tierd.TierMeta

open Tierd.Data List

def metaMagic : Nat := 0x534D4554

def metaVersion : Nat := 1

def headerSize : Nat := 4 + 4 + 8

/-- 64 MiB, above which a length is not believed. -/
def sanityCap : Nat := 64 * 1024 * 1024

/-- The errors of `writeMeta` and `readMeta`, each with the numbers its text shows. -/
inductive MetaError where
  | openForWrite
  | writeHeader
  | writePayload
  | openForRead
  | readHeader
  | invalidMagic (magic : Nat)
  | empty
  | exceedsCap (length : Nat)
  | readPayload
  deriving DecidableEq, Repr

def header (payload : Bytes) : Bytes :=
  littleEndian 4 metaMagic ++ littleEndian 4 metaVersion ++ littleEndian 8 payload.length

/-- One `Write` on a volume of fixed size: what fits is written, and the flag says whether that was
all. -/
def write (volume : Bytes) (offset : Nat) (bytes : Bytes) : Bytes × Bool :=
  (volume.take offset ++ overwrite bytes (volume.drop offset), bytes.length ≤ volume.length - offset)

/-- `none` is a path that cannot be opened. -/
def writeMeta (device : Option Bytes) (payload : Bytes) : Option Bytes × Except MetaError Unit :=
  match device with
  | none => (none, .error .openForWrite)
  | some volume =>
    let (headed, wholeHeader) := write volume 0 (header payload)
    if wholeHeader = false then (some headed, .error .writeHeader)
    else
      let (after, wholePayload) := write headed headerSize payload
      if wholePayload = false then (some after, .error .writePayload)
      else (some after, .ok ())

/-- The loop of `readFull`: a read may hand out less than was asked for, but at least one byte
unless the end is reached. `short` decides how much more than one. -/
def readFull (short : Nat → Nat) (file : Bytes) (offset count : Nat) : Option Bytes :=
  if count = 0 then some []
  else
    let chunk := (file.drop offset).take (min count (short offset + 1))
    if chunk = [] then none
    else (readFull short file (offset + chunk.length) (count - chunk.length)).map (chunk ++ ·)
termination_by count
decreasing_by
  have progress : 0 < chunk.length := length_pos_of_ne_nil (by assumption)
  change count - chunk.length < count
  omega

def readMeta (short : Nat → Nat) (device : Option Bytes) : Except MetaError Bytes :=
  match device with
  | none => .error .openForRead
  | some volume =>
    match readFull short volume 0 headerSize with
    | none => .error .readHeader
    | some head =>
      let magic := fromLittleEndian (slice 0 4 head)
      let length := fromLittleEndian (slice 8 16 head)
      if magic ≠ metaMagic then .error (.invalidMagic magic)
      else if length = 0 then .error .empty
      else if sanityCap < length then .error (.exceedsCap length)
      else
        match readFull short volume headerSize length with
        | none => .error .readPayload
        | some payload => .ok payload

/-- What a crash leaves on the volume once `count` bytes of the header and the payload are written.
-/
def torn (count : Nat) (payload volume : Bytes) : Bytes := overwrite ((header payload ++ payload).take count) volume

theorem readFull_eq (short : Nat → Nat) (file : Bytes) (offset count : Nat) :
    readFull short file offset count =
      if count ≤ file.length - offset then some ((file.drop offset).take count) else none := by
  fun_induction readFull with
  | case1 offset => simp
  | case2 offset count more chunk ended =>
    have atEnd : file.length - offset = 0 := by
      have lengths := congrArg List.length ended
      simp only [chunk, length_take, length_drop, length_nil] at lengths
      omega
    rw [if_neg (by omega)]
  | case3 offset count more chunk some ih =>
    have size : chunk.length = min (min count (short offset + 1)) (file.length - offset) := by
      simp only [chunk, length_take, length_drop]
    have chunk_eq : chunk = (file.drop offset).take chunk.length := by
      rw [size]
      simp only [chunk]
      rw [← length_drop, ← take_eq_take_min]
    rw [ih]
    by_cases enough : count ≤ file.length - offset
    case pos =>
      rw [if_pos (by omega), if_pos enough, Option.map_some, ← drop_drop]
      congr 1
      calc chunk ++ (((file.drop offset).drop chunk.length).take (count - chunk.length))
          = (file.drop offset).take (chunk.length + (count - chunk.length)) := by
            rw [take_add, ← chunk_eq]
        _ = (file.drop offset).take count := by
            congr 1
            omega
    case neg =>
      rw [if_neg (by omega), if_neg enough, Option.map_none]

theorem header_length (payload : Bytes) : (header payload).length = headerSize := by
  simp only [header, length_append, littleEndian_length, headerSize]

theorem exists_parts {volume : Bytes} (room : headerSize ≤ volume.length) : ∃ first field area : Bytes,
    volume = first ++ (field ++ area) ∧ first.length = 8 ∧ field.length = 8 := by
  unfold headerSize at room
  refine ⟨volume.take 8, (volume.drop 8).take 8, volume.drop 16, ?_, ?_, ?_⟩
  · rw [show 16 = 8 + 8 from rfl, ← drop_drop, take_append_drop, take_append_drop]
  · rw [length_take]
    omega
  · rw [length_take, length_drop]
    omega

section

variable {short : Nat → Nat} {first field area result : Bytes}

theorem readMeta_eq_ok (firstSize : first.length = 8) (fieldSize : field.length = 8) :
    readMeta short (some (first ++ (field ++ area))) = .ok result ↔
      fromLittleEndian (first.take 4) = metaMagic ∧ 0 < fromLittleEndian field ∧ fromLittleEndian field ≤ sanityCap ∧
        fromLittleEndian field ≤ area.length ∧ result = area.take (fromLittleEndian field) := by
  have size : (first ++ (field ++ area)).length = headerSize + area.length := by
    simp only [length_append, firstSize, fieldSize, headerSize]
    omega
  have head : (first ++ (field ++ area)).take headerSize = first ++ field := by
    rw [← append_assoc, take_left']
    rw [length_append, firstSize, fieldSize, headerSize]
  have rest : (first ++ (field ++ area)).drop headerSize = area := by
    rw [← append_assoc, drop_left']
    rw [length_append, firstSize, fieldSize, headerSize]
  have magic : slice 0 4 (first ++ field) = first.take 4 := by
    rw [slice, drop_zero, take_append_of_le_length (by omega)]
  have length : slice 8 16 (first ++ field) = field := by
    rw [slice, drop_left' firstSize, take_of_length_le (by omega)]
  simp only [readMeta, readFull_eq, size, drop_zero, head, rest, Nat.sub_zero, Nat.le_add_right, if_true,
    Nat.add_sub_cancel_left, magic, length]
  constructor
  · intro read
    split at read
    case isTrue => cases read
    split at read
    case isTrue => cases read
    split at read
    case isTrue => cases read
    case isFalse known some believed =>
      by_cases fits : fromLittleEndian field ≤ area.length
      · rw [if_pos fits] at read
        cases read
        exact ⟨by omega, by omega, by omega, fits, rfl⟩
      · rw [if_neg fits] at read
        cases read
  · rintro ⟨known, some, believed, fits, rfl⟩
    rw [if_neg (by omega), if_neg (by omega), if_neg (by omega), if_pos fits]

theorem room_of_readMeta {volume : Bytes} (read : readMeta short (some volume) = .ok result) :
    headerSize ≤ volume.length := by
  by_contra small
  rw [readMeta, readFull_eq, if_neg (by omega)] at read
  cases read

end

theorem magic_header :
    fromLittleEndian ((littleEndian 4 metaMagic ++ littleEndian 4 metaVersion).take 4) = metaMagic := by
  decide

section

variable {payload first field area : Bytes}

theorem torn_before (firstSize : first.length = 8) {count : Nat} (early : count ≤ 8) :
    torn count payload (first ++ (field ++ area)) =
      overwrite ((header payload ++ payload).take count) first ++ (field ++ area) :=
  overwrite_append (by rw [length_take]; omega) _

theorem torn_within (firstSize : first.length = 8) (fieldSize : field.length = 8) {count : Nat} (within : count ≤ 8) :
    torn (8 + count) payload (first ++ (field ++ area)) = (littleEndian 4 metaMagic ++ littleEndian 4 metaVersion) ++
      (overwrite ((littleEndian 8 payload.length).take count) field ++ area) := by
  have start : (littleEndian 4 metaMagic ++ littleEndian 4 metaVersion).length = 8 := by
    rw [length_append, littleEndian_length, littleEndian_length]
  have written : (header payload ++ payload).take (8 + count) =
      (littleEndian 4 metaMagic ++ littleEndian 4 metaVersion) ++ (littleEndian 8 payload.length).take count := by
    rw [take_append_of_le_length (by rw [header_length, headerSize]; omega), header, ← start,
      take_length_add_append]
  rw [torn, written, overwrite_append_append (start.trans firstSize.symm), overwrite_append]
  rw [length_take]
  omega

theorem torn_after (firstSize : first.length = 8) (fieldSize : field.length = 8) (count : Nat) :
    torn (headerSize + count) payload (first ++ (field ++ area)) =
      (littleEndian 4 metaMagic ++ littleEndian 4 metaVersion) ++
        (littleEndian 8 payload.length ++ overwrite (payload.take count) area) := by
  have sizes : (header payload).length = (first ++ field).length := by
    rw [header_length, length_append, firstSize, fieldSize, headerSize]
  rw [torn, ← header_length payload, take_length_add_append, ← append_assoc,
    overwrite_append_append sizes, header, append_assoc]

end

theorem writeMeta_eq_ok {volume after payload : Bytes}
    (written : writeMeta (some volume) payload = (some after, .ok ())) :
    headerSize + payload.length ≤ volume.length ∧ after = torn (headerSize + payload.length) payload volume := by
  have sizes := header_length payload
  unfold writeMeta at written
  simp only [write, Nat.sub_zero, take_zero, drop_zero, nil_append, decide_eq_false_iff_not,
    overwrite_length] at written
  split at written
  case isTrue => cases written
  case isFalse headed =>
    split at written
    case isTrue => cases written
    case isFalse whole =>
      obtain rfl := Option.some.inj (Prod.mk.inj written).1
      have headRoom : (header payload).length ≤ volume.length := by omega
      refine ⟨by omega, ?_⟩
      have parts : volume = volume.take headerSize ++ volume.drop headerSize := (take_append_drop ..).symm
      have first : (header payload).length = (volume.take headerSize).length := by
        rw [length_take]
        omega
      have start : overwrite (header payload) volume = header payload ++ volume.drop headerSize := by
        rw [overwrite_of_le headRoom, sizes]
      rw [start, take_left' sizes, drop_left' sizes, torn, ← sizes, take_length_add_append,
        take_length]
      conv_rhs => rw [parts]
      rw [overwrite_append_append first, sizes]

end Tierd.TierMeta
