import ProtoPlan.WellKnown.Basic
import ProtoPlan.Wire.MessageType

/-!
Decoders of the native `google.protobuf` types. Each merges the fields of the unread bytes into a
value: singular fields are overwritten, repeated ones appended to, map entries replaced by key.
Fields a type does not have are dropped, except by `RawMessage`, which keeps them all.
-/

namespace ProtoPlan.WellKnown

open Wire

namespace Wrapper

/-- A wrapper whose value is framed as `wireType` and read by `read`. -/
def merge (wireType : WireType) (read : Reader α) (budget : Nat) :
    Wrapper α → Reader (Wrapper α) :=
  Reader.fields budget (fun key _ =>
    match key.number with
    | 1 => some <| Reader.expect key wireType "value" do return ⟨← read⟩
    | _ => none) Reader.ignore

def double : Nat → Wrapper UInt64 → Reader (Wrapper UInt64) := merge .fixed64 Reader.fixed64

def float : Nat → Wrapper UInt32 → Reader (Wrapper UInt32) := merge .fixed32 Reader.fixed32

def int64 : Nat → Wrapper Int64 → Reader (Wrapper Int64) := merge .varint Reader.int64

def uint64 : Nat → Wrapper UInt64 → Reader (Wrapper UInt64) := merge .varint Reader.uint64

def int32 : Nat → Wrapper Int32 → Reader (Wrapper Int32) := merge .varint Reader.int32

def uint32 : Nat → Wrapper UInt32 → Reader (Wrapper UInt32) := merge .varint Reader.uint32

def bool : Nat → Wrapper Bool → Reader (Wrapper Bool) := merge .varint Reader.bool

def string : Nat → Wrapper String → Reader (Wrapper String) :=
  merge .lengthDelimited (Reader.text "value")

def bytes : Nat → Wrapper Bytes → Reader (Wrapper Bytes) := merge .lengthDelimited Reader.span

end Wrapper

def Time.merge (budget : Nat) : Time → Reader Time :=
  Reader.fields budget (fun key time =>
    match key.number with
    | 1 => some <| Reader.expect key .varint "seconds" do
      return { time with seconds := ← Reader.int64 }
    | 2 => some <| Reader.expect key .varint "nanos" do
      return { time with nanos := ← Reader.int32 }
    | _ => none) Reader.ignore

def Empty.merge (budget : Nat) : Empty → Reader Empty :=
  Reader.fields budget (fun _ _ => none) Reader.ignore

def Any.merge (budget : Nat) : Any → Reader Any :=
  Reader.fields budget (fun key any =>
    match key.number with
    | 1 => some <| Reader.expect key .lengthDelimited "type_url" do
      return { any with typeUrl := ← Reader.text "type_url" }
    | 2 => some <| Reader.expect key .lengthDelimited "value" do
      return { any with value := ← Reader.span }
    | _ => none) Reader.ignore

def FieldMask.merge (budget : Nat) : FieldMask → Reader FieldMask :=
  Reader.fields budget (fun key mask =>
    match key.number with
    | 1 => some <| Reader.expect key .lengthDelimited "paths" do
      return { mask with paths := mask.paths ++ [← Reader.text "paths"] }
    | _ => none) Reader.ignore

def RawMessage.merge (budget : Nat) : RawMessage → Reader RawMessage :=
  Reader.fields budget (fun _ _ => none) fun _ raw message => ⟨message.raw ++ raw⟩

/-- Readers of the embedded messages of JSON values, for one nesting budget. -/
structure Nested where
  /-- A fresh object. -/
  struct : Reader Struct
  /-- A fresh array. -/
  list : Reader ListValue
  /-- A value merged into another. -/
  value : Value → Reader Value
  /-- One entry of an object. -/
  entry : Reader (String × Value)

def Value.mergeWith (budget : Nat) (nested : Nested) : Value → Reader Value :=
  Reader.fields budget (fun key _ =>
    match key.number with
    | 1 => some <| Reader.expect key .varint "null_value" do return .null (← Reader.int32)
    | 2 => some <| Reader.expect key .fixed64 "number_value" do return .number (← Reader.fixed64)
    | 3 => some <| Reader.expect key .lengthDelimited "string_value" do
      return .string (← Reader.text "string_value")
    | 4 => some <| Reader.expect key .varint "bool_value" do return .bool (← Reader.bool)
    | 5 => some <| Reader.expect key .lengthDelimited "struct_value" do
      return .struct (← nested.struct).fields
    | 6 => some <| Reader.expect key .lengthDelimited "list_value" do
      return .list (← nested.list).values
    | _ => none) Reader.ignore

def ListValue.mergeWith (budget : Nat) (nested : Nested) : ListValue → Reader ListValue :=
  Reader.fields budget (fun key list =>
    match key.number with
    | 1 => some <| Reader.expect key .lengthDelimited "values" do
      return ⟨list.values ++ [← nested.value .unset]⟩
    | _ => none) Reader.ignore

/-- The key and the value of an entry. The last key wins and values merge. -/
def Struct.mergeEntry (budget : Nat) (nested : Nested) : String × Value → Reader (String × Value) :=
  Reader.fields budget (fun key (name, value) =>
    match key.number with
    | 1 => some <| Reader.expect key .lengthDelimited "fields.key" do
      return (← Reader.text "fields.key", value)
    | 2 => some <| Reader.expect key .lengthDelimited "fields.value" do
      return (name, ← nested.value value)
    | _ => none) Reader.ignore

def Struct.mergeWith (budget : Nat) (nested : Nested) : Struct → Reader Struct :=
  Reader.fields budget (fun key struct =>
    match key.number with
    | 1 => some <| Reader.expect key .lengthDelimited "fields" do
      let (name, value) ← nested.entry
      return ⟨struct.fields.insert name value⟩
    | _ => none) Reader.ignore

/-- Embedded messages and map entries alike take one level of nesting. -/
def nested : (budget : Nat) → Nested
  | 0 =>
    { struct := throw .recursionLimitReached
      list := throw .recursionLimitReached
      value := fun _ => throw .recursionLimitReached
      entry := throw .recursionLimitReached }
  | budget + 1 =>
    { struct := Reader.delimited (Struct.mergeWith budget (nested budget) {})
      list := Reader.delimited (ListValue.mergeWith budget (nested budget) {})
      value := fun value => Reader.delimited (Value.mergeWith budget (nested budget) value)
      entry := Reader.delimited (Struct.mergeEntry budget (nested budget) ("", .unset)) }

def Value.merge (budget : Nat) : Value → Reader Value := Value.mergeWith budget (nested budget)

def ListValue.merge (budget : Nat) : ListValue → Reader ListValue :=
  ListValue.mergeWith budget (nested budget)

def Struct.merge (budget : Nat) : Struct → Reader Struct := Struct.mergeWith budget (nested budget)

/-! The types under their full names. -/

def doubleValue : MessageType (Wrapper UInt64) :=
  ⟨"google.protobuf.DoubleValue", ⟨0⟩, Wrapper.double⟩

def floatValue : MessageType (Wrapper UInt32) :=
  ⟨"google.protobuf.FloatValue", ⟨0⟩, Wrapper.float⟩

def int64Value : MessageType (Wrapper Int64) :=
  ⟨"google.protobuf.Int64Value", ⟨0⟩, Wrapper.int64⟩

def uint64Value : MessageType (Wrapper UInt64) :=
  ⟨"google.protobuf.UInt64Value", ⟨0⟩, Wrapper.uint64⟩

def int32Value : MessageType (Wrapper Int32) :=
  ⟨"google.protobuf.Int32Value", ⟨0⟩, Wrapper.int32⟩

def uint32Value : MessageType (Wrapper UInt32) :=
  ⟨"google.protobuf.UInt32Value", ⟨0⟩, Wrapper.uint32⟩

def boolValue : MessageType (Wrapper Bool) :=
  ⟨"google.protobuf.BoolValue", ⟨false⟩, Wrapper.bool⟩

def stringValue : MessageType (Wrapper String) :=
  ⟨"google.protobuf.StringValue", ⟨""⟩, Wrapper.string⟩

def bytesValue : MessageType (Wrapper Bytes) :=
  ⟨"google.protobuf.BytesValue", ⟨[]⟩, Wrapper.bytes⟩

def timestamp : MessageType Time := ⟨"google.protobuf.Timestamp", {}, Time.merge⟩

def duration : MessageType Time := ⟨"google.protobuf.Duration", {}, Time.merge⟩

def empty : MessageType Empty := ⟨"google.protobuf.Empty", {}, Empty.merge⟩

def any : MessageType Any := ⟨"google.protobuf.Any", {}, Any.merge⟩

def fieldMask : MessageType FieldMask := ⟨"google.protobuf.FieldMask", {}, FieldMask.merge⟩

def struct : MessageType Struct := ⟨"google.protobuf.Struct", {}, Struct.merge⟩

def value : MessageType Value := ⟨"google.protobuf.Value", .unset, Value.merge⟩

def listValue : MessageType ListValue := ⟨"google.protobuf.ListValue", {}, ListValue.merge⟩

/-- Stands for every other message of the package. -/
def rawMessage : MessageType RawMessage := ⟨"google.protobuf.*", {}, RawMessage.merge⟩

end ProtoPlan.WellKnown
