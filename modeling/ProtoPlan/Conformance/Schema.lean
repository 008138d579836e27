import ProtoPlan.Plan.Options

/-!
The schema of the `conformance` package, from which its decoders can also be planned.
-/

namespace ProtoPlan.Conformance

open Wire Schema

/-- A message with implicit presence. -/
def implicit (name : String) (fields : List Field) : ProtoPlan.Message :=
  { name := "conformance." ++ name, presence := .implicit, fields }

def innerKind : Kind := .message "conformance.Inner"

def nodeKind : Kind := .message "conformance.Node"

/-- A message of the `google.protobuf` package. References may begin with a dot. -/
def wellKnownKind (name : String) : Kind := .message (".google.protobuf." ++ name)

def scalarsSchema : ProtoPlan.Message :=
  implicit "Scalars"
    [.singular "f_double" 1 (.scalar .double),
     .singular "f_float" 2 (.scalar .float),
     .singular "f_int32" 3 (.scalar .int32),
     .singular "f_int64" 4 (.scalar .int64),
     .singular "f_uint32" 5 (.scalar .uint32),
     .singular "f_uint64" 6 (.scalar .uint64),
     .singular "f_sint32" 7 (.scalar .sint32),
     .singular "f_sint64" 8 (.scalar .sint64),
     .singular "f_fixed32" 9 (.scalar .fixed32),
     .singular "f_fixed64" 10 (.scalar .fixed64),
     .singular "f_sfixed32" 11 (.scalar .sfixed32),
     .singular "f_sfixed64" 12 (.scalar .sfixed64),
     .singular "f_bool" 13 (.scalar .bool),
     .singular "f_string" 14 .string,
     .singular "f_bytes" 15 .bytes,
     .singular "f_enum" 16 (.scalar .enum)]

def repeatedSchema : ProtoPlan.Message :=
  implicit "Repeated"
    [⟨"r_int32", 1, .scalar .int32, .repeated⟩,
     ⟨"r_sint64", 2, .scalar .sint64, .repeated⟩,
     ⟨"r_fixed64", 3, .scalar .fixed64, .repeated⟩,
     ⟨"r_double", 4, .scalar .double, .repeated⟩,
     ⟨"r_bool", 5, .scalar .bool, .repeated⟩,
     ⟨"r_string", 6, .string, .repeated⟩,
     ⟨"r_bytes", 7, .bytes, .repeated⟩,
     ⟨"r_enum", 8, .scalar .enum, .repeated⟩]

def innerSchema : ProtoPlan.Message :=
  implicit "Inner" [.singular "value" 1 (.scalar .int32), .singular "label" 2 .string]

def nestedSchema : ProtoPlan.Message :=
  implicit "Nested"
    [.singular "child" 1 innerKind,
     ⟨"children", 2, innerKind, .repeated⟩,
     .map "by_name" 3 .string innerKind,
     .map "labels" 4 (.scalar .int32) .string,
     ⟨"inner_choice", 5, innerKind, .oneof "pick"⟩,
     ⟨"text_choice", 6, .string, .oneof "pick"⟩,
     .singular "at" 7 (wellKnownKind "Timestamp"),
     .singular "count" 8 (wellKnownKind "Int32Value"),
     .singular "nothing" 9 (wellKnownKind "Empty")]

def nodeSchema : ProtoPlan.Message :=
  implicit "Node"
    [.singular "value" 1 (.scalar .int32),
     .singular "left" 2 nodeKind,
     .singular "right" 3 nodeKind]

def legacySchema : ProtoPlan.Message :=
  { name := "conformance.Legacy"
    fields :=
      [⟨"id", 1, .scalar .int32, .required⟩,
       ⟨"name", 2, .string, .required⟩,
       ⟨"score", 3, .scalar .sint32, .optional⟩,
       ⟨"tags", 4, .string, .repeated⟩,
       ⟨"blob", 5, .bytes, .optional⟩]
    extensionRanges := [⟨100, 200⟩] }

def metadataSchema : ProtoPlan.Message :=
  implicit "Meta"
    [.singular "any" 1 (wellKnownKind "Any"),
     .singular "mask" 2 (wellKnownKind "FieldMask"),
     .singular "attrs" 3 (wellKnownKind "Struct"),
     .singular "source" 4 (wellKnownKind "SourceContext")]

def schema : Schema :=
  { package := "conformance"
    messages :=
      [scalarsSchema, repeatedSchema, innerSchema, nestedSchema, nodeSchema, legacySchema,
       metadataSchema] }

/-- Embedded `Inner` messages are pooled. -/
def options : Options := Options.pool {} "conformance.Inner"

end ProtoPlan.Conformance
