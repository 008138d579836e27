import ProtoPlan.Wire.Scalar

/-!
Message schemas: which fields a message has, of what kind and how often. Types are referred to by
their full names, such as `demo.Outer.Inner`.
-/

namespace ProtoPlan.Schema

open Wire

/-- What a single value of a field is. -/
inductive Kind where
  | scalar (kind : Scalar)
  | string
  | bytes
  /-- An embedded message, by full name. -/
  | message (name : String)
  /-- A group, by full name. Groups cannot be decoded. -/
  | group (name : String)
  deriving DecidableEq, Repr

namespace Kind

/-- Whether a repeated field of this kind may come as a packed block. -/
def isPackable : Kind → Bool
  | scalar _ => true
  | _ => false

def isMessage : Kind → Bool
  | message _ => true
  | _ => false

def isGroup : Kind → Bool
  | group _ => true
  | _ => false

/-- How a single value is framed. -/
def wireType : Kind → WireType
  | scalar kind => kind.wireType
  | string | bytes | message _ => .lengthDelimited
  | group _ => .startGroup

/-- Whether the kind may key a map. -/
def isMapKey : Kind → Bool
  | scalar kind => kind.isMapKey
  | string => true
  | _ => false

/-- How the elements of a packed block are counted. Kinds that are never packed count as varints. -/
def elementCount : Kind → ElementCount
  | scalar kind => kind.elementCount
  | _ => .varintTerminators

end Kind

/-- How often a field occurs and how its presence is told. -/
inductive Cardinality (φ : Type) where
  /-- At most once; presence is the message's matter. -/
  | singular
  /-- At most once, with explicit presence. -/
  | optional
  | required
  | repeated
  /-- Entries of a key and a value, which are fields of an embedded message. -/
  | map (key value : φ)
  /-- Member of the named oneof. -/
  | oneof (name : String)

structure Field where
  name : String
  number : Nat
  kind : Kind
  cardinality : Cardinality Field

namespace Field

/-- A singular field. -/
def singular (name : String) (number : Nat) (kind : Kind) : Field :=
  ⟨name, number, kind, .singular⟩

/-- A map field, whose entries have the key under 1 and the value under 2. -/
def map (name : String) (number : Nat) (key value : Kind) : Field :=
  ⟨name, number, .message "", .map (singular "key" 1 key) (singular "value" 2 value)⟩

def oneof? (field : Field) : Option String :=
  match field.cardinality with
  | .oneof name => some name
  | _ => none

def isRequired (field : Field) : Bool :=
  match field.cardinality with
  | .required => true
  | _ => false

def isSingular (field : Field) : Bool :=
  match field.cardinality with
  | .singular => true
  | _ => false

/-- Whether a value of the field lies inside the message itself: lists and maps hold theirs
elsewhere. -/
def isInline (field : Field) : Bool :=
  match field.cardinality with
  | .repeated | .map .. => false
  | _ => true

end Field

/-- How the presence of singular fields is told. -/
inductive Presence where
  /-- A field tracks whether it was set. -/
  | explicit
  /-- An unset field is zero. -/
  | implicit
  deriving DecidableEq, Repr

/-- Extension numbers from `first` up to, but not with, `limit`. -/
structure ExtensionRange where
  first : Nat
  limit : Nat
  deriving DecidableEq, Repr

def ExtensionRange.contains (range : ExtensionRange) (number : Nat) : Bool :=
  range.first ≤ number && number < range.limit

end Schema

open Schema

structure Message where
  /-- Full name, such as `demo.Outer.Inner`. -/
  name : String
  presence : Presence := .explicit
  fields : List Field := []
  extensionRanges : List ExtensionRange := []

namespace Message

/-- Numbers of the required fields in declaration order. A field's place in this list is its bit
among the required fields. -/
def requiredNumbers (message : Message) : List Nat :=
  (message.fields.filter (·.isRequired)).map (·.number)

/-- The oneofs in order of first use. -/
def oneofs (message : Message) : List String :=
  message.fields.foldl (fun names field =>
    match field.oneof? with
    | some name => if name ∈ names then names else names ++ [name]
    | none => names) []

def oneofMembers (message : Message) (oneof : String) : List Field :=
  message.fields.filter (·.oneof? = some oneof)

/-- Last segment of the full name. -/
def shortName (message : Message) : String :=
  String.ofList ((message.name.toList.reverse.takeWhile (· ≠ '.')).reverse)

end Message

/-- Message types that share a package. -/
structure Schema where
  package : String := ""
  messages : List Message := []

namespace Schema

/-- The first message of that name. -/
def message? (schema : Schema) (name : String) : Option Message :=
  schema.messages.find? (·.name = name)

end Schema

end ProtoPlan
