import ProtoPlan.Wire.Reader
import ProtoPlan.Wire.Packed

/-!
The fourteen numeric kinds: how each is framed, read and counted in a packed block.
-/

namespace ProtoPlan.Wire

/-- A numeric kind of field. Enums are read as 32-bit numbers. -/
inductive Scalar where
  | bool
  | enum
  | int32
  | int64
  | uint32
  | uint64
  | sint32
  | sint64
  | fixed32
  | fixed64
  | sfixed32
  | sfixed64
  | float
  | double
  deriving DecidableEq, Repr

/-- A number as it was read. Floats are kept as their bits. -/
inductive ScalarValue where
  | bool (value : Bool)
  | int32 (value : Int32)
  | int64 (value : Int64)
  | uint32 (value : UInt32)
  | uint64 (value : UInt64)
  | float (bits : UInt32)
  | double (bits : UInt64)
  deriving DecidableEq

namespace Scalar

def wireType : Scalar → WireType
  | bool | enum | int32 | int64 | uint32 | uint64 | sint32 | sint64 => .varint
  | fixed64 | sfixed64 | double => .fixed64
  | fixed32 | sfixed32 | float => .fixed32

def read : Scalar → Reader ScalarValue
  | bool => return .bool (← Reader.bool)
  | enum | int32 => return .int32 (← Reader.int32)
  | int64 => return .int64 (← Reader.int64)
  | uint32 => return .uint32 (← Reader.uint32)
  | uint64 => return .uint64 (← Reader.uint64)
  | sint32 => return .int32 (← Reader.sint32)
  | sint64 => return .int64 (← Reader.sint64)
  | fixed32 => return .uint32 (← Reader.fixed32)
  | fixed64 => return .uint64 (← Reader.fixed64)
  | sfixed32 => return .int32 (← Reader.sfixed32)
  | sfixed64 => return .int64 (← Reader.sfixed64)
  | float => return .float (← Reader.fixed32)
  | double => return .double (← Reader.fixed64)

/-- What an absent value reads as. -/
def zero : Scalar → ScalarValue
  | bool => .bool false
  | enum | int32 | sint32 | sfixed32 => .int32 0
  | int64 | sint64 | sfixed64 => .int64 0
  | uint32 | fixed32 => .uint32 0
  | uint64 | fixed64 => .uint64 0
  | float => .float 0
  | double => .double 0

/-- How the elements of a packed block are counted. -/
def elementCount : Scalar → ElementCount
  | bool => .onePerByte
  | fixed32 | sfixed32 | float => .fixedWidth 4
  | fixed64 | sfixed64 | double => .fixedWidth 8
  | _ => .varintTerminators

/-- Whether the kind may key a map. -/
def isMapKey : Scalar → Bool
  | float | double | enum => false
  | _ => true

end Scalar

end ProtoPlan.Wire
