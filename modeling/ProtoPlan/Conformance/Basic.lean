import ProtoPlan.Wire.ExtensionStore
import ProtoPlan.WellKnown.Basic

/-!
Native types of the `conformance` package, which together use every kind and cardinality of field:
scalars, lists, embedded messages, maps, a oneof, recursion, required fields, extensions and the
`google.protobuf` types.
-/

namespace ProtoPlan.Conformance

open Wire WellKnown

structure Scalars where
  double : UInt64 := 0
  float : UInt32 := 0
  int32 : Int32 := 0
  int64 : Int64 := 0
  uint32 : UInt32 := 0
  uint64 : UInt64 := 0
  sint32 : Int32 := 0
  sint64 : Int64 := 0
  fixed32 : UInt32 := 0
  fixed64 : UInt64 := 0
  sfixed32 : Int32 := 0
  sfixed64 : Int64 := 0
  bool : Bool := false
  string : String := ""
  bytes : Bytes := []
  enum : Int32 := 0
  unknown : Bytes := []

structure Repeated where
  int32 : List Int32 := []
  sint64 : List Int64 := []
  fixed64 : List UInt64 := []
  double : List UInt64 := []
  bool : List Bool := []
  string : List String := []
  bytes : List Bytes := []
  enum : List Int32 := []
  unknown : Bytes := []

structure Inner where
  value : Int32 := 0
  label : String := ""
  unknown : Bytes := []

/-- What the oneof of `Nested` holds. -/
inductive Pick where
  | innerChoice (inner : Inner)
  | textChoice (text : String)

structure Nested where
  child : Option Inner := none
  children : List Inner := []
  byName : SortedMap String Inner := {}
  labels : SortedMap Int32 String := {}
  pick : Option Pick := none
  time : Option Time := none
  count : Option (Wrapper Int32) := none
  nothing : Option WellKnown.Empty := none
  unknown : Bytes := []

/-- A binary tree. -/
structure Node where
  value : Int32 := 0
  left : Option Node := none
  right : Option Node := none
  unknown : Bytes := []

/-- Explicit presence, required fields and an extension range. -/
structure Legacy where
  id : Int32 := 0
  name : String := ""
  score : Option Int32 := none
  tags : List String := []
  blob : Option Bytes := none
  unknown : Bytes := []
  extensions : ExtensionStore := {}

structure Meta where
  any : Option Any := none
  mask : Option FieldMask := none
  attrs : Option Struct := none
  source : Option RawMessage := none
  unknown : Bytes := []

end ProtoPlan.Conformance
