import ProtoPlan.Schema.Basic
import ProtoPlan.Wire.PresenceBits

/-!
Plans: all that decoding a message does, field by field. A plan says which read decodes each field
number, where the value goes, how packed blocks and map entries are framed and what happens to
other fields; whoever runs it or writes code for it needs no schema.
-/

namespace ProtoPlan

open Wire Schema

/-- Where a message type comes from. -/
inductive TypeOrigin where
  /-- The schema at hand. -/
  | schema
  /-- The `google.protobuf` package. -/
  | wellKnown
  /-- Declared to be elsewhere. -/
  | external
  deriving DecidableEq, Repr

/-- A reference to the message type that a read decodes. -/
structure MessageRef where
  /-- Full name. -/
  name : String
  /-- Path of the generated or configured type. -/
  path : String
  origin : TypeOrigin
  /-- Fresh instances are taken from a pool. -/
  pooled : Bool
  deriving DecidableEq, Repr

/-- The read of a single value. -/
inductive Read where
  | scalar (kind : Scalar)
  | string
  | bytes
  | message (target : MessageRef)
  deriving DecidableEq, Repr

/-- Where a value goes. -/
inductive Store where
  /-- Over the field. -/
  | set
  /-- Over the field, which may be absent. -/
  | setOptional
  /-- Merged into the message of the field, which is made if absent. -/
  | merge (boxed : Bool)
  /-- After the values of the field. -/
  | append
  /-- In the place of all that the oneof holds. -/
  | select (oneof variant : String) (boxed : Bool)
  deriving DecidableEq, Repr

/-- What is done with a record of a field that is no map. -/
structure FieldRule where
  /-- The name as declared, which faults report. -/
  name : String
  /-- The name of the generated struct field. -/
  fieldName : String
  number : Nat
  /-- Framing of a single value. -/
  wireType : WireType
  read : Read
  store : Store
  /-- How the values of a packed block are counted, if the field may be packed. -/
  packed : Option ElementCount
  /-- Bit among the required fields. -/
  requiredBit : Option Nat
  deriving DecidableEq, Repr

/-- A side of a map entry. -/
structure EntrySide where
  wireType : WireType
  read : Read
  deriving DecidableEq, Repr

/-- What is done with a record of a map field. -/
structure MapRule where
  name : String
  fieldName : String
  number : Nat
  key : EntrySide
  value : EntrySide
  deriving DecidableEq, Repr

inductive Rule where
  | field (rule : FieldRule)
  | map (rule : MapRule)
  deriving DecidableEq, Repr

def Rule.number : Rule → Nat
  | field rule => rule.number
  | map rule => rule.number

/-- The oneof that the rule's field is a member of. -/
def Rule.oneof? : Rule → Option String
  | field { store := .select oneof .., .. } => some oneof
  | _ => none

structure Plan where
  /-- Full name of the message. -/
  message : String
  /-- Name of the generated struct. -/
  typeName : String
  /-- One rule for each field, in declaration order. -/
  rules : List Rule
  extensionRanges : List ExtensionRange
  /-- Whether fields that no rule and no extension range claims are kept. -/
  preserveUnknown : Bool
  requiredCount : Nat
  deriving DecidableEq, Repr

namespace Plan

/-- The plan of a message of which nothing is known: all its fields are kept as they are. -/
def rawFields (message : String) : Plan :=
  { message
    typeName := "RawMessage"
    rules := []
    extensionRanges := []
    preserveUnknown := true
    requiredCount := 0 }

def rule? (plan : Plan) (number : Nat) : Option Rule := plan.rules.find? (·.number = number)

def isExtension (plan : Plan) (number : Nat) : Bool :=
  plan.extensionRanges.any (·.contains number)

def hasExtensions (plan : Plan) : Bool := !plan.extensionRanges.isEmpty

/-- Words of the bits of the required fields. -/
def requiredWords (plan : Plan) : Nat := PresenceBits.wordsFor plan.requiredCount

/-- The oneofs in order of first use. -/
def oneofs (plan : Plan) : List String :=
  plan.rules.foldl (fun names rule =>
    match rule.oneof? with
    | some name => if name ∈ names then names else names ++ [name]
    | none => names) []

end Plan

end ProtoPlan
