/-!
Presence of required fields: one bit for each, in a fixed number of 64-bit words. A field's bit is
its position among the required fields of its message.
-/

namespace ProtoPlan.Wire

structure PresenceBits where
  words : List UInt64
  deriving DecidableEq, Repr

namespace PresenceBits

/-- Enough words for `count` bits. -/
def wordsFor (count : Nat) : Nat := (count + 63) / 64

/-- No bit of `words` words is set. -/
def empty (words : Nat) : PresenceBits := ⟨List.replicate words 0⟩

/-- The word with one bit, that of `bit` modulo 64. -/
def mask (bit : Nat) : UInt64 := 1 <<< UInt64.ofNat (bit % 64)

/-- `none` when the words hold no such bit. -/
def set (bits : PresenceBits) (bit : Nat) : Option PresenceBits :=
  bits.words[bit / 64]?.map fun word => ⟨bits.words.set (bit / 64) (word ||| mask bit)⟩

/-- Sets a bit that the words hold; others are left alone. -/
def mark (bits : PresenceBits) (bit : Nat) : PresenceBits := (bits.set bit).getD bits

/-- `none` when the words hold no such bit. -/
def isSet (bits : PresenceBits) (bit : Nat) : Option Bool :=
  bits.words[bit / 64]?.map fun word => word &&& mask bit != 0

/-- The first of the `count` bits from `start` on that is not set. The search fails at a bit that
the words do not hold, and looks no further than the first unset one. -/
def firstUnset (bits : PresenceBits) (start : Nat) : (count : Nat) → Option (Option Nat)
  | 0 => some none
  | count + 1 =>
    match bits.isSet start with
    | none => none
    | some false => some (some start)
    | some true => bits.firstUnset (start + 1) count

/-- The first of `count` required fields that was never seen. -/
def firstMissing (bits : PresenceBits) (count : Nat) : Option (Option Nat) :=
  bits.firstUnset 0 count

end PresenceBits

end ProtoPlan.Wire
