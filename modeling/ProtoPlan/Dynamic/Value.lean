import ProtoPlan.Data.SortedMap
import ProtoPlan.Plan.Basic
import ProtoPlan.Wire.ExtensionStore

/-!
Messages without a native type: fields by number, each with a value that tells its own kind.
-/

namespace ProtoPlan.Dynamic

open Wire

/-- A key of a map field. -/
inductive MapKey where
  | bool (value : Bool)
  | int32 (value : Int32)
  | int64 (value : Int64)
  | uint32 (value : UInt32)
  | uint64 (value : UInt64)
  | text (value : String)
  deriving DecidableEq

namespace MapKey

/-- Place of the key's kind in the order of kinds. -/
def rank : MapKey → Nat
  | bool _ => 0
  | int32 _ => 1
  | int64 _ => 2
  | uint32 _ => 3
  | uint64 _ => 4
  | text _ => 5

/-- Keys are ordered by kind, then by value. -/
def order : MapKey → MapKey → Ordering
  | bool a, bool b => compare a b
  | int32 a, int32 b => compare a b
  | int64 a, int64 b => compare a b
  | uint32 a, uint32 b => compare a b
  | uint64 a, uint64 b => compare a b
  | text a, text b => compare a b
  | a, b => compare a.rank b.rank

instance : Ord MapKey := ⟨order⟩

theorem order_eq_iff (a b : MapKey) : order a b = .eq ↔ a = b := by
  cases a <;> cases b <;> simp [order, rank, Nat.compare_eq_ite_lt]

/-- Two keys of which neither precedes the other are the same. -/
instance : Std.LawfulEqOrd MapKey where
  compare_self := (order_eq_iff _ _).2 rfl
  eq_of_compare := (order_eq_iff _ _).1

end MapKey

/-- A message whose values are of type `ν`. Fields that never came are absent. -/
structure MessageOf (ν : Type) where
  /-- Full name. -/
  name : String
  /-- Values by field number. -/
  fields : SortedMap Nat ν := {}
  /-- The number of the member that each oneof holds. -/
  oneofs : SortedMap String Nat := {}
  /-- Raw fields that nothing claimed, in wire order. -/
  unknown : Bytes := []
  extensions : ExtensionStore := {}

inductive Value where
  | scalar (value : ScalarValue)
  | text (value : String)
  | bytes (value : Bytes)
  | message (value : MessageOf Value)
  | list (values : List Value)
  | map (entries : SortedMap MapKey Value)

abbrev Message := MessageOf Value

namespace Value

/-- The key that a value makes, if it is of a kind that may key a map. -/
def toKey? : Value → Option MapKey
  | scalar (.bool v) => some (.bool v)
  | scalar (.int32 v) => some (.int32 v)
  | scalar (.int64 v) => some (.int64 v)
  | scalar (.uint32 v) => some (.uint32 v)
  | scalar (.uint64 v) => some (.uint64 v)
  | text v => some (.text v)
  | _ => none

/-- What a read leaves when its field never came: zero, or a message that holds nothing. -/
def zero : Read → Value
  | .scalar kind => scalar kind.zero
  | .string => text ""
  | .bytes => bytes []
  | .message target => message { name := target.name }

end Value

namespace Message

/-- The message of that name that holds nothing. -/
def ofName (name : String) : Message := { name }

/-- The member that the oneof holds. -/
def whichOneof (m : Message) (oneof : String) : Option Nat := m.oneofs.get? oneof

/-- Puts a value in the place of all that the field held. -/
def set (m : Message) (number : Nat) (value : Value) : Message :=
  { m with fields := m.fields.insert number value }

/-- The values of a repeated field; none if it never came. -/
def list (m : Message) (number : Nat) : List Value :=
  match m.fields.get? number with
  | some (.list values) => values
  | _ => []

/-- The entries of a map field; none if it never came. -/
def map (m : Message) (number : Nat) : SortedMap MapKey Value :=
  match m.fields.get? number with
  | some (.map entries) => entries
  | _ => {}

/-- The message of a field; one that holds nothing if it never came. -/
def submessage (m : Message) (number : Nat) (name : String) : Message :=
  match m.fields.get? number with
  | some (.message value) => value
  | _ => ofName name

/-- Puts a member in the place of the one that the oneof held. -/
def select (m : Message) (oneof : String) (number : Nat) (value : Value) : Message :=
  let cleared :=
    match m.oneofs.get? oneof with
    | some previous => m.fields.erase previous
    | none => m.fields
  { m with
    fields := cleared.insert number value
    oneofs := m.oneofs.insert oneof number }

end Message

end ProtoPlan.Dynamic
