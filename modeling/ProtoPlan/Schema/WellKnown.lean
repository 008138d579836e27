import ProtoPlan.Schema.Basic

/-!
The schemas of the `google.protobuf` messages that are decoded by their fields, in the order in
which they are planned.
-/

namespace ProtoPlan.Schema.WellKnown

/-- A message of the package with implicit presence. -/
def message (name : String) (fields : List Field) : Message :=
  { name := "google.protobuf." ++ name, presence := .implicit, fields }

@[simp] theorem fields_message (name : String) (fields : List Field) :
    (message name fields).fields = fields := rfl

/-- A message that wraps a single value. -/
def wrapper (name : String) (kind : Kind) : Message :=
  message name [.singular "value" 1 kind]

/-- Seconds and a fraction of a second. -/
def time (name : String) : Message :=
  message name [.singular "seconds" 1 (.scalar .int64), .singular "nanos" 2 (.scalar .int32)]

def value : Kind := .message "google.protobuf.Value"

def messages : List Message :=
  [wrapper "DoubleValue" (.scalar .double),
   wrapper "FloatValue" (.scalar .float),
   wrapper "Int64Value" (.scalar .int64),
   wrapper "UInt64Value" (.scalar .uint64),
   wrapper "Int32Value" (.scalar .int32),
   wrapper "UInt32Value" (.scalar .uint32),
   wrapper "BoolValue" (.scalar .bool),
   wrapper "StringValue" .string,
   wrapper "BytesValue" .bytes,
   time "Timestamp",
   time "Duration",
   message "Empty" [],
   message "Any" [.singular "type_url" 1 .string, .singular "value" 2 .bytes],
   message "FieldMask" [⟨"paths", 1, .string, .repeated⟩],
   message "Struct" [.map "fields" 1 .string value],
   message "Value"
     [⟨"null_value", 1, .scalar .enum, .oneof "kind"⟩,
      ⟨"number_value", 2, .scalar .double, .oneof "kind"⟩,
      ⟨"string_value", 3, .string, .oneof "kind"⟩,
      ⟨"bool_value", 4, .scalar .bool, .oneof "kind"⟩,
      ⟨"struct_value", 5, .message "google.protobuf.Struct", .oneof "kind"⟩,
      ⟨"list_value", 6, .message "google.protobuf.ListValue", .oneof "kind"⟩],
   message "ListValue" [⟨"values", 1, value, .repeated⟩]]

/-- All of them as one schema. -/
def schema : Schema := { package := "google.protobuf", messages }

end ProtoPlan.Schema.WellKnown
