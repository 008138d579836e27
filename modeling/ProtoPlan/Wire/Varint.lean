import ProtoPlan.Wire.Fault

/-!
Base-128 numbers: seven bits a byte, least significant first, the high bit set on every byte but
the last. A number has at most ten bytes, and its bits past the 64th are dropped.
-/

namespace ProtoPlan.Wire

abbrev Bytes := List UInt8

namespace Varint

/-- The most bytes a varint may have. -/
def maxLength : Nat := 10

/-- The value and the length of the varint at the front, of at most `limit` bytes. The limit is
tested before the bytes, so bytes that all continue overflow even when nothing follows them. -/
def decodeWithin : (limit : Nat) → Bytes → Except Fault (UInt64 × Nat)
  | 0, _ => .error .overflow
  | _ + 1, [] => .error .truncated
  | limit + 1, b :: rest =>
    if b < 128 then .ok (b.toUInt64, 1)
    else (decodeWithin limit rest).map fun (high, length) =>
      ((b &&& 127).toUInt64 ||| high <<< 7, length + 1)

/-- The value and the length of the varint at the front of `bytes`. -/
def decode (bytes : Bytes) : Except Fault (UInt64 × Nat) :=
  decodeWithin maxLength bytes

/-- The length of the varint at the front of `bytes`, found without its value: the first byte of
ten that does not continue ends it. -/
def length (bytes : Bytes) : Except Fault Nat :=
  match (bytes.take maxLength).findIdx? (· < 128) with
  | some i => .ok (i + 1)
  | none => if maxLength ≤ bytes.length then .error .overflow else .error .truncated

/-- The signed number whose zigzag image is the low half of `value`. -/
def unzigzag32 (value : UInt64) : Int32 :=
  let v := value.toUInt32
  (v >>> 1).toInt32 ^^^ -(v &&& 1).toInt32

/-- The signed number whose zigzag image is `value`. -/
def unzigzag64 (value : UInt64) : Int64 :=
  (value >>> 1).toInt64 ^^^ -(value &&& 1).toInt64

theorem decodeWithin_length_le {limit : Nat} {bytes : Bytes} {value : UInt64} {n : Nat}
    (h : decodeWithin limit bytes = .ok (value, n)) : 0 < n ∧ n ≤ bytes.length := by
  induction limit generalizing bytes value n with
  | zero => simp [decodeWithin] at h
  | succ limit ih =>
    cases bytes with
    | nil => simp [decodeWithin] at h
    | cons b rest =>
      rw [decodeWithin] at h
      split at h
      · cases h
        simp
      · cases hr : decodeWithin limit rest with
        | error e => simp [hr, Except.map] at h
        | ok p =>
          obtain ⟨high, k⟩ := p
          rw [hr] at h
          cases h
          have := ih hr
          simp
          omega

/-- A varint has at least one byte and ends within the bytes it is read from. -/
theorem decode_length_le {bytes : Bytes} {value : UInt64} {n : Nat}
    (h : decode bytes = .ok (value, n)) : 0 < n ∧ n ≤ bytes.length :=
  decodeWithin_length_le h

end Varint

end ProtoPlan.Wire
