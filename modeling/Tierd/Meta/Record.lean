import Tierd.Data.Bytes

namespace Tierd.Meta

open Tierd.Data

/-- `PinState` is a byte on disk; three of its values have a name. -/
structure PinState where
  raw : UInt8
deriving DecidableEq, Repr

def pinNone : PinState := ⟨0⟩
def pinHot : PinState := ⟨1⟩
def pinCold : PinState := ⟨2⟩

def recordSize : Nat := 32

def recordVersion : UInt16 := 1

structure Record where
  version : UInt16
  pinState : PinState
  tierIdx : UInt8
  namespaceID : UInt64
  heatCounter : UInt32
  lastAccessNS : UInt64
deriving DecidableEq, Repr

def Record.zero : Record := ⟨0, pinNone, 0, 0, 0, 0⟩

def Record.encode (record : Record) : Bytes :=
  littleEndian 2 record.version.toNat ++ ([record.pinState.raw] ++ ([record.tierIdx] ++
    (littleEndian 8 record.namespaceID.toNat ++ (littleEndian 4 record.heatCounter.toNat ++
      (littleEndian 8 record.lastAccessNS.toNat ++ List.replicate 8 0)))))

inductive DecodeError where
  | length (actual : Nat)
  | version (found : UInt16)
deriving DecidableEq, Repr

def DecodeError.message : DecodeError → String
  | .length actual => "meta: record length " ++ toString actual ++ ", want " ++ toString recordSize
  | .version found => "meta: unknown record version " ++ toString found

def decodeRecord (bytes : Bytes) : Except DecodeError Record :=
  if bytes.length ≠ recordSize then .error (.length bytes.length)
  else
    let version := UInt16.ofNat (fromLittleEndian (slice 0 2 bytes))
    if version ≠ recordVersion then .error (.version version)
    else .ok {
      version
      pinState := ⟨bytes.getD 2 0⟩
      tierIdx := bytes.getD 3 0
      namespaceID := UInt64.ofNat (fromLittleEndian (slice 4 12 bytes))
      heatCounter := UInt32.ofNat (fromLittleEndian (slice 12 16 bytes))
      lastAccessNS := UInt64.ofNat (fromLittleEndian (slice 16 24 bytes)) }

@[simp] theorem Record.encode_length (record : Record) : record.encode.length = recordSize := by
  simp [Record.encode, recordSize]

theorem Record.encode_version (record : Record) :
    UInt16.ofNat (fromLittleEndian (slice 0 2 record.encode)) = record.version := by
  have piece : slice 0 2 record.encode = littleEndian 2 record.version.toNat :=
    slice_append [] (littleEndian 2 record.version.toNat) _ rfl (by simp)
  have bound := record.version.toNat_lt
  rw [piece, fromLittleEndian_littleEndian, Nat.mod_eq_of_lt (by omega), UInt16.ofNat_toNat]

theorem decodeRecord_encode (record : Record) :
    decodeRecord record.encode =
      if record.version = recordVersion then .ok record else .error (.version record.version) := by
  have namespaceSlice : slice 4 12 record.encode = littleEndian 8 record.namespaceID.toNat :=
    slice_append (littleEndian 2 record.version.toNat ++ [record.pinState.raw, record.tierIdx])
      (littleEndian 8 record.namespaceID.toNat) _ (by simp) (by simp)
  have heatSlice : slice 12 16 record.encode = littleEndian 4 record.heatCounter.toNat := by
    have shape : record.encode = (littleEndian 2 record.version.toNat ++
        [record.pinState.raw, record.tierIdx] ++ littleEndian 8 record.namespaceID.toNat) ++
        (littleEndian 4 record.heatCounter.toNat ++
          (littleEndian 8 record.lastAccessNS.toNat ++ List.replicate 8 0)) := by
      simp [Record.encode]
    rw [shape]
    exact slice_append _ _ _ (by simp) (by simp)
  have accessSlice : slice 16 24 record.encode = littleEndian 8 record.lastAccessNS.toNat := by
    have shape : record.encode = (littleEndian 2 record.version.toNat ++
        [record.pinState.raw, record.tierIdx] ++ littleEndian 8 record.namespaceID.toNat ++
        littleEndian 4 record.heatCounter.toNat) ++
        (littleEndian 8 record.lastAccessNS.toNat ++ List.replicate 8 0) := by
      simp [Record.encode]
    rw [shape]
    exact slice_append _ _ _ (by simp) (by simp)
  have pin : record.encode.getD 2 0 = record.pinState.raw := by
    simp [Record.encode, littleEndian]
  have tier : record.encode.getD 3 0 = record.tierIdx := by
    simp [Record.encode, littleEndian]
  have namespaceBound := record.namespaceID.toNat_lt
  have heatBound := record.heatCounter.toNat_lt
  have accessBound := record.lastAccessNS.toNat_lt
  simp only [decodeRecord, Record.encode_length, ne_eq, not_true_eq_false, ↓reduceIte,
    Record.encode_version, namespaceSlice, heatSlice, accessSlice, pin, tier,
    fromLittleEndian_littleEndian]
  rw [Nat.mod_eq_of_lt (by omega), Nat.mod_eq_of_lt (by omega), Nat.mod_eq_of_lt (by omega)]
  by_cases current : record.version = recordVersion <;> simp [current]
  rw [← current]

theorem Record.decode_current {record : Record} (current : record.version = recordVersion) :
    decodeRecord record.encode = .ok record := by
  rw [decodeRecord_encode, if_pos current]

theorem decodeRecord_version {bytes : Bytes} {record : Record} (decoded : decodeRecord bytes = .ok record) :
    record.version = recordVersion := by
  unfold decodeRecord at decoded
  split at decoded
  case isTrue => cases decoded
  case isFalse =>
    dsimp only at decoded
    split at decoded
    case isTrue => cases decoded
    case isFalse current =>
      cases decoded
      exact not_ne_iff.mp current

end Tierd.Meta
