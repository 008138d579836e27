import ProtoPlan.Proofs.Dynamic.Framing
import ProtoPlan.Proofs.Dynamic.Projection

/-!
Rules as functions of what their field holds. Of the message a rule asks only for the value that its
field holds, and all it does to the message is to put in a value: whatever else the message holds
neither changes what a record yields nor is changed by it, but for the member that a oneof gives up.
-/

namespace ProtoPlan

/-- The bits of required fields that a rule sets. -/
def Rule.bits : Rule → List Nat
  | .field rule => rule.requiredBit.toList
  | .map _ => []

namespace Dynamic

open Wire Schema Reader

/-- The elements of a repeated field that holds `current`. -/
def Value.listOf : (current : Option Value) → List Value
  | some (.list values) => values
  | _ => []

/-- The entries of a map field that holds `current`. -/
def Value.mapOf : (current : Option Value) → SortedMap MapKey Value
  | some (.map entries) => entries
  | _ => {}

/-- The message of a field that holds `current`. -/
def Value.messageOf (name : String) : (current : Option Value) → Message
  | some (.message m) => m
  | _ => Message.ofName name

section Current

variable {m : Message} {number : Nat} {current : Option Value}
  (h : m.fields.get? number = current)
include h

theorem Message.list_eq : m.list number = Value.listOf current := by
  rw [list, h]
  rfl

theorem Message.map_eq : m.map number = Value.mapOf current := by
  rw [map, h]
  rfl

theorem Message.submessage_eq (name : String) :
    m.submessage number name = Value.messageOf name current := by
  rw [submessage, h]
  rfl

end Current

/-- Puts in what a record of the rule's field leaves there, if it leaves anything. -/
def Message.hold (m : Message) (rule : Rule) : Option Value → Message
  | some v => m.place rule.oneof? rule.number v
  | none => m

namespace Nested

/-- What one value makes of what its field holds. -/
def nextSingle (nested : Nested) (rule : FieldRule) (held : Option Value) : Reader Value :=
  match rule.store, rule.read with
  | .append, read => return .list (Value.listOf held ++ [← nested.value rule.name read])
  | .merge _, .message target =>
    return .message (← nested.message target.name (Value.messageOf target.name held))
  | _, read => nested.value rule.name read

/-- What a record makes of what the rule's field holds. An entry whose key makes no key leaves it
alone. -/
def next (nested : Nested) (rule : Rule) (key : Key) (held : Option Value) :
    Reader (Option Value) :=
  match rule with
  | .field rule =>
    if rule.packed.isSome && key.wireType == .lengthDelimited then
      Reader.delimited do
        let values ← Reader.elements (nested.value rule.name rule.read) (Value.listOf held)
        return some (.list values)
    else Reader.expect key rule.wireType rule.name do return some (← nested.nextSingle rule held)
  | .map rule =>
    Reader.expect key .lengthDelimited rule.name do
      let (k, v) ← nested.entry rule
      return k.toKey?.map fun k => .map ((Value.mapOf held).insert k v)

variable {nested : Nested}

theorem store_eq_nextSingle (rule : FieldRule) (m : Message) :
    nested.store rule m = (nested.nextSingle rule (m.fields.get? rule.number) >>= fun v =>
      pure (m.hold (.field rule) (some v))) := by
  unfold store nextSingle Message.hold Message.place
  rw [Rule.oneof?_field, Message.list_eq rfl]
  split <;> simp_all [Message.submessage_eq rfl, Rule.number]

/-- A fitting rule puts in what the record makes of what its field holds. -/
theorem apply_eq_next {field : Field} {bit : Option Nat} {rule : Rule}
    (h : Rule.Fits field bit rule) (key : Key) (m : Message) (seen : List Nat) :
    nested.apply rule key m seen =
      (nested.next rule key (m.fields.get? rule.number) >>= fun v =>
        pure (m.hold rule v, rule.bits ++ seen)) := by
  cases h with
  | @field rule h =>
    have hbits : (Rule.field rule).bits = rule.requiredBit.toList := rfl
    simp only [apply, plainField, next, Rule.number, hbits]
    cases hblock : rule.packed.isSome && key.wireType == .lengthDelimited with
    | true =>
      obtain ⟨hstore, -⟩ := h.packed.1 (Bool.and_eq_true_iff.1 hblock).1
      have hhold (values : List Value) :
          m.hold (.field rule) (some (.list values)) = m.set rule.number (.list values) := by
        simp only [Message.hold, Message.place, Rule.oneof?_field, hstore, Rule.number]
      simp only [if_true, delimited_map, Message.list_eq rfl, bind_assoc, pure_bind, hhold]
    | false =>
      simp only [Bool.false_eq_true, if_false, store_eq_nextSingle, expect_map, bind_assoc,
        pure_bind]
  | @map rule key' value hc h =>
    have hput (entry : Value × Value) : m.putEntry rule.number entry = m.hold (.map rule)
        (entry.1.toKey?.map fun k =>
          .map ((Value.mapOf (m.fields.get? rule.number)).insert k entry.2)) := by
      unfold Message.putEntry
      rw [Message.map_eq rfl]
      cases entry.1.toKey? <;> rfl
    simp only [apply, mapField_eq, next, expect_map, bind_assoc, pure_bind, hput, Rule.number]
    rfl

end Nested

end Dynamic

end ProtoPlan
