import ProtoPlan.Schema.Basic
import ProtoPlan.Text.Quoted

/-!
Why no decoder can be planned for a schema, or no code written for a plan.
-/

namespace ProtoPlan

open Wire Schema

/-- What is wrong with the entry of a map field. -/
inductive MapEntryFault where
  /-- The key is not field 1, or the value not field 2. -/
  | numbers
  /-- The key or the value is not singular. -/
  | cardinality
  /-- A map is asked for where none is declared. -/
  | missing
  deriving DecidableEq, Repr

def MapEntryFault.text : MapEntryFault → String
  | numbers => "key and value must be fields 1 and 2"
  | cardinality => "key and value must be singular"
  | missing => "map shape without an entry"

inductive PlanError where
  | unsupportedGroup (message field : String)
  /-- The type is neither in the schema, nor well known, nor declared to be elsewhere. -/
  | unknownMessage (field type : String)
  | invalidMapKey (message field : String) (kind : Kind)
  | invalidMapEntry (message field : String) (fault : MapEntryFault)
  | missingMessageType (message field : String)
  | duplicateFieldNumber (message : String) (number : Nat)
  | invalidFieldNumber (message field : String) (number : Nat)
  /-- Two messages would be generated under one type name. -/
  | typeNameCollision (first second type : String)
  /-- Two fields of one generated struct would have one name. -/
  | fieldNameCollision (message name : String)
  /-- A configured path, or the generated code, is not well formed. -/
  | malformedCode
  /-- A generated item would have a name that is no identifier. -/
  | invalidIdentifier (name : String)
  deriving DecidableEq, Repr

/-- The kind as reports name it. -/
def Schema.Kind.label : Kind → String
  | .scalar .bool => "Bool"
  | .scalar .enum => "Enum"
  | .scalar .int32 => "Int32"
  | .scalar .int64 => "Int64"
  | .scalar .uint32 => "Uint32"
  | .scalar .uint64 => "Uint64"
  | .scalar .sint32 => "Sint32"
  | .scalar .sint64 => "Sint64"
  | .scalar .fixed32 => "Fixed32"
  | .scalar .fixed64 => "Fixed64"
  | .scalar .sfixed32 => "Sfixed32"
  | .scalar .sfixed64 => "Sfixed64"
  | .scalar .float => "Float"
  | .scalar .double => "Double"
  | .string => "String"
  | .bytes => "Bytes"
  | .message name => "Message(" ++ Text.quote name ++ ")"
  | .group name => "Group(" ++ Text.quote name ++ ")"

namespace PlanError

def message : PlanError → String
  | unsupportedGroup message field =>
    "field `" ++ message ++ "." ++ field ++ "` uses the unsupported group encoding"
  | unknownMessage field type =>
    "field `" ++ field ++ "` references unknown message type `" ++ type ++ "`"
  | invalidMapKey message field kind =>
    "map field `" ++ message ++ "." ++ field ++ "` has a key of kind " ++ kind.label ++
      ", which cannot be a map key"
  | invalidMapEntry message field fault =>
    "map field `" ++ message ++ "." ++ field ++ "` has a malformed entry: " ++ fault.text
  | missingMessageType message field =>
    "message field `" ++ message ++ "." ++ field ++ "` has no type name"
  | duplicateFieldNumber message number =>
    "message `" ++ message ++ "` declares field number " ++ toString number ++ " more than once"
  | invalidFieldNumber message field number =>
    "field `" ++ message ++ "." ++ field ++ "` has out-of-range number " ++ toString number
  | typeNameCollision first second type =>
    "messages `" ++ first ++ "` and `" ++ second ++ "` both map to the Rust type `" ++ type ++ "`"
  | fieldNameCollision message name =>
    "message `" ++ message ++ "` would have more than one Rust field named `" ++ name ++ "`"
  | malformedCode => "failed to parse generated code"
  | invalidIdentifier name => "`" ++ name ++ "` is not an identifier"

end PlanError

end ProtoPlan
