import ProtoPlan.Data.SortedMap
import ProtoPlan.Wire.Fields

/-!
Native types of the `google.protobuf` messages whose meaning is fixed by the format: wrappers,
times, `Any`, field masks and JSON values. Any other message of that package is kept as raw bytes.
-/

namespace ProtoPlan.WellKnown

open Wire

/-- The package whose messages are decoded the same way for every schema. -/
def namePrefix : String := "google.protobuf."

/-- Whether a message belongs to the `google.protobuf` package. -/
def isWellKnown (name : String) : Bool := namePrefix.toList.isPrefixOf name.toList

/-- A single value under number 1. -/
structure Wrapper (α : Type) where
  value : α
  deriving DecidableEq, Repr

/-- Seconds and a fraction: the shape of both `Timestamp` and `Duration`. -/
structure Time where
  seconds : Int64 := 0
  nanos : Int32 := 0
  deriving DecidableEq

structure Empty where
  deriving DecidableEq, Repr

/-- A message of a type named by a URL; it stays encoded. -/
structure Any where
  typeUrl : String := ""
  value : Bytes := []
  deriving DecidableEq, Repr

structure FieldMask where
  paths : List String := []
  deriving DecidableEq, Repr

/-- A JSON value. Null keeps its enum number and numbers are the bits of a double. -/
inductive Value where
  | unset
  | null (number : Int32)
  | number (bits : UInt64)
  | string (text : String)
  | bool (flag : Bool)
  | struct (fields : SortedMap String Value)
  | list (values : List Value)

/-- A JSON object. -/
structure Struct where
  fields : SortedMap String Value := {}

/-- A JSON array. -/
structure ListValue where
  values : List Value := []

/-- A message of which every field is kept as it was read. -/
structure RawMessage where
  raw : Bytes := []
  deriving DecidableEq, Repr

end ProtoPlan.WellKnown
