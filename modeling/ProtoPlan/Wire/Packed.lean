import ProtoPlan.Wire.Varint

/-!
How many elements a packed block is expected to hold. A count is a capacity hint: the loop over
the elements decides what is appended.
-/

namespace ProtoPlan.Wire

/-- How the elements of a packed block are counted. -/
inductive ElementCount where
  /-- One element for each byte that ends a varint. -/
  | varintTerminators
  /-- The length of the block over the width of an element. -/
  | fixedWidth (width : Nat)
  /-- One element for each byte. -/
  | onePerByte
  deriving DecidableEq, Repr

/-- The elements expected in `block`; none can be told for elements of no width. -/
def ElementCount.hint (count : ElementCount) (block : Bytes) : Option Nat :=
  match count with
  | varintTerminators => some (block.countP (· < 128))
  | fixedWidth 0 => none
  | fixedWidth (width + 1) => some (block.length / (width + 1))
  | onePerByte => some block.length

end ProtoPlan.Wire
