import ProtoPlan.Proofs.Data.SortedMap
import ProtoPlan.Proofs.Plan.Message
import ProtoPlan.Proofs.Wire.Encoding

/-!
Well-typed messages. Each field that is there is declared and holds a value of its kind, each
required field is there, and each oneof holds the one member that is there. Embedded messages and
map entries are well typed for one level less.
-/

namespace ProtoPlan.Dynamic

open Wire Schema

namespace MapKey

theorem order_of_ne {a b : MapKey} (h : a.rank ≠ b.rank) : order a b = compare a.rank b.rank := by
  cases a <;> cases b <;> first | rfl | exact absurd rfl h

/-- Keys come in the order of their kinds. -/
theorem rank_le {a b : MapKey} (h : (order a b).isLE) : a.rank ≤ b.rank := by
  by_cases hne : a.rank = b.rank
  · exact Nat.le_of_eq hne
  · rw [order_of_ne hne] at h
    exact Std.isLE_compare.1 h

instance : Std.TransOrd MapKey where
  eq_swap {a b} := by
    change order a b = (order b a).swap
    cases a <;> cases b <;> exact Std.OrientedOrd.eq_swap
  isLE_trans {a b c} hab hbc := by
    change (order a b).isLE at hab
    change (order b c).isLE at hbc
    change (order a c).isLE
    have hle := rank_le hab
    have hle' := rank_le hbc
    by_cases hne : a.rank = c.rank
    · have hmid : a.rank = b.rank := by omega
      have hlast : b.rank = c.rank := by omega
      cases a <;> cases b <;> cases hmid <;> cases c <;>
        first | exact Std.TransOrd.isLE_trans hab hbc | cases hlast
    · rw [order_of_ne hne]
      exact Std.isLE_compare.2 (by omega)

/-- The value that makes the key. -/
def toValue : MapKey → Value
  | bool v => .scalar (.bool v)
  | int32 v => .scalar (.int32 v)
  | int64 v => .scalar (.int64 v)
  | uint32 v => .scalar (.uint32 v)
  | uint64 v => .scalar (.uint64 v)
  | text v => .text v

@[simp] theorem toKey?_toValue (key : MapKey) : key.toValue.toKey? = some key := by
  cases key <;> rfl

end MapKey

/-- A value of a kind, of which `embedded` tells the well-typed messages by name. Groups have no
values. -/
inductive HasKind (embedded : String → Message → Prop) : Kind → Value → Prop where
  | scalar {kind : Scalar} {v : ScalarValue} : kind.admits v = true →
      HasKind embedded (.scalar kind) (.scalar v)
  | string (v : String) : HasKind embedded .string (.text v)
  | bytes (v : Bytes) : HasKind embedded .bytes (.bytes v)
  | message {type : String} {m : Message} : embedded (trimDots type) m →
      HasKind embedded (.message type) (.message m)

/-- Which embedded messages and map entries are well typed. -/
structure Typing where
  message : (name : String) → Message → Prop
  entry : (key value : Kind) → MapKey × Value → Prop

namespace Typing

/-- A value that a field may hold. Lists and maps are not empty. -/
inductive HasField (typing : Typing) (field : Field) : Value → Prop where
  | single {v : Value} : field.isInline = true → HasKind typing.message field.kind v →
      HasField typing field v
  | list {values : List Value} : field.cardinality = .repeated → values ≠ [] →
      (∀ v ∈ values, HasKind typing.message field.kind v) → HasField typing field (.list values)
  | map {key value : Field} {entries : SortedMap MapKey Value} :
      field.cardinality = .map key value → entries.Sorted → entries.entries ≠ [] →
      (∀ entry ∈ entries.entries, typing.entry key.kind value.kind entry) →
      HasField typing field (.map entries)

/-- The field of that number is a member of the oneof, and is there. -/
def HasMember (fields : List Field) (m : Message) (oneof : String) (number : Nat) : Prop :=
  ∃ field ∈ fields, field.number = number ∧ field.oneof? = some oneof ∧
    (m.fields.get? number).isSome = true

/-- A well-typed message as it is declared, without unknown fields and extensions. -/
structure WellTyped (typing : Typing) (message : ProtoPlan.Message) (m : Message) : Prop where
  name : m.name = message.name
  sortedFields : m.fields.Sorted
  sortedOneofs : m.oneofs.Sorted
  field : ∀ number value, m.fields.get? number = some value →
    ∃ field ∈ message.fields, field.number = number ∧ typing.HasField field value
  required : ∀ field ∈ message.fields, field.isRequired = true →
    (m.fields.get? field.number).isSome = true
  oneof : ∀ oneof number, m.whichOneof oneof = some number ↔
    HasMember message.fields m oneof number
  unknown : m.unknown = []
  extensions : m.extensions = {}

end Typing

/-- What is well typed by a schema within a number of levels. Embedded messages and map entries
alike take one. -/
def typing (schema : Schema) : (levels : Nat) → Typing
  | 0 =>
    { message := fun _ _ => False
      entry := fun _ _ _ => False }
  | levels + 1 =>
    { message := fun name m => ∃ message, schema.declaration? name = some message ∧
        (typing schema levels).WellTyped message m
      entry := fun key value entry =>
        HasKind (typing schema levels).message key entry.1.toValue ∧
          HasKind (typing schema levels).message value entry.2 }

end ProtoPlan.Dynamic
