/-!
Field keys: the six wire types, which say how the value after a key is framed, and the numbers a
field may have.
-/

namespace ProtoPlan.Wire

/-- How the value that follows a key is framed. -/
inductive WireType where
  | varint
  | fixed64
  | lengthDelimited
  | startGroup
  | endGroup
  | fixed32
  deriving DecidableEq, Repr, Inhabited

/-- The smallest number a field may have. -/
def minFieldNumber : Nat := 1

/-- The largest number a field may have: a 32-bit key keeps three bits for the wire type. -/
def maxFieldNumber : Nat := 0x1fffffff

namespace WireType

/-- The number in the low three bits of a key. -/
def toNat : WireType → Nat
  | varint => 0
  | fixed64 => 1
  | lengthDelimited => 2
  | startGroup => 3
  | endGroup => 4
  | fixed32 => 5

/-- The wire type of a number; 6 and 7, and all above, name none. -/
def ofNat? : Nat → Option WireType
  | 0 => some varint
  | 1 => some fixed64
  | 2 => some lengthDelimited
  | 3 => some startGroup
  | 4 => some endGroup
  | 5 => some fixed32
  | _ => none

def name : WireType → String
  | varint => "varint"
  | fixed64 => "fixed64"
  | lengthDelimited => "length-delimited"
  | startGroup => "start-group"
  | endGroup => "end-group"
  | fixed32 => "fixed32"

/-- The key of a field: its number above three bits of wire type. Bits past the 32nd are lost. -/
def key (w : WireType) (number : UInt32) : UInt32 :=
  number <<< 3 ||| UInt32.ofNat w.toNat

@[simp] theorem ofNat?_toNat (w : WireType) : ofNat? w.toNat = some w := by
  cases w <;> rfl

theorem ofNat?_eq_some_iff {n : Nat} {w : WireType} : ofNat? n = some w ↔ n = w.toNat := by
  constructor
  · intro h
    unfold ofNat? at h
    split at h <;> cases h <;> rfl
  · rintro rfl
    exact ofNat?_toNat w

end WireType

end ProtoPlan.Wire
