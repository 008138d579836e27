import ProtoPlan.Dynamic.Value
import ProtoPlan.Plan.OfMessage
import ProtoPlan.Wire.MessageType

/-!
Running plans: the fields of a buffer are merged into a dynamic message, each as its rule says.
Singular fields are overwritten, lists appended to, messages merged, map entries replaced by key,
and a member of a oneof takes the place of any other.
-/

namespace ProtoPlan.Dynamic

open Wire

/-- Plans by message. -/
structure DecoderSet where
  plans : List Plan

/-- The decoders of a schema's messages and of the `google.protobuf` ones. -/
def DecoderSet.ofSchema (options : Options) (schema : Schema) : Except PlanError DecoderSet :=
  (schema.allPlans options).map .mk

namespace DecoderSet

def plan? (set : DecoderSet) (message : String) : Option Plan :=
  set.plans.find? (·.message = message)

/-- The plan that decodes a message. Messages of `google.protobuf` that are not decoded by their
fields are kept raw. -/
def planFor? (set : DecoderSet) (message : String) : Option Plan :=
  match set.plan? message with
  | some plan => some plan
  | none => if WellKnown.isWellKnown message then some (Plan.rawFields message) else none

end DecoderSet

/-- Readers of the length-delimited records that take a level of nesting, for one budget. -/
structure Nested where
  /-- An embedded message of the named type, merged into another. -/
  message : (name : String) → Message → Reader Message
  /-- The key and the value of a map entry. -/
  entry : MapRule → Reader (Value × Value)

namespace Nested

/-- A single value; messages are decoded afresh. `field` is named in faults. -/
def value (nested : Nested) (field : String) : Read → Reader Value
  | .scalar kind => return .scalar (← kind.read)
  | .string => return .text (← Reader.text field)
  | .bytes => return .bytes (← Reader.span)
  | .message target => return .message (← nested.message target.name (Message.ofName target.name))

/-- A record of one side of a map entry, merged into `slot` if both are messages. -/
def side (nested : Nested) (key : Key) (side : EntrySide) (field : String) (slot : Value) :
    Reader Value :=
  Reader.expect key side.wireType field <|
    match side.read, slot with
    | .message target, .message existing => return .message (← nested.message target.name existing)
    | read, _ => nested.value field read

/-- The key and the value of a map entry. The last key wins, other fields are skipped. -/
def entryFields (budget : Nat) (nested : Nested) (rule : MapRule) : Reader (Value × Value) :=
  Reader.fields budget (fun key (k, v) =>
    match key.number with
    | 1 => some do return (← nested.side key rule.key (rule.name ++ ".key") k, v)
    | 2 => some do return (k, ← nested.side key rule.value (rule.name ++ ".value") v)
    | _ => none) Reader.ignore
    (Value.zero rule.key.read, Value.zero rule.value.read)

/-- A record of a map field. Its key must be of a kind that makes a key. -/
def mapField (nested : Nested) (rule : MapRule) (key : Key) (m : Message) : Reader Message :=
  Reader.expect key .lengthDelimited rule.name do
    let (k, v) ← nested.entry rule
    match k.toKey? with
    | some k => return m.set rule.number (.map ((m.map rule.number).insert k v))
    | none => return m

/-- One value, stored as the rule says. -/
def store (nested : Nested) (rule : FieldRule) (m : Message) : Reader Message :=
  match rule.store, rule.read with
  | .append, read => do
    return m.set rule.number (.list (m.list rule.number ++ [← nested.value rule.name read]))
  | .merge _, .message target => do
    return m.set rule.number
      (.message (← nested.message target.name (m.submessage rule.number target.name)))
  | .select oneof .., read => do
    return m.select oneof rule.number (← nested.value rule.name read)
  | _, read => do return m.set rule.number (← nested.value rule.name read)

/-- A record of a field that is no map: a packed block, if the field may be packed, or one value. -/
def plainField (nested : Nested) (rule : FieldRule) (key : Key) (m : Message) : Reader Message :=
  if rule.packed.isSome && key.wireType == .lengthDelimited then
    Reader.delimited do
      let values ← Reader.elements (nested.value rule.name rule.read) (m.list rule.number)
      return m.set rule.number (.list values)
  else Reader.expect key rule.wireType rule.name (nested.store rule m)

/-- A record that a rule claims. The bits of required fields that were seen go along. -/
def apply (nested : Nested) (rule : Rule) (key : Key) (m : Message) (seen : List Nat) :
    Reader (Message × List Nat) :=
  match rule with
  | .field rule => do return (← nested.plainField rule key m, rule.requiredBit.toList ++ seen)
  | .map rule => do return (← nested.mapField rule key m, seen)

end Nested

/-- A record that no rule claims. -/
def keepUnclaimed (plan : Plan) (number : Nat) (raw : Bytes) (m : Message) : Message :=
  if plan.isExtension number then { m with extensions := m.extensions.append number raw }
  else if plan.preserveUnknown then { m with unknown := m.unknown ++ raw }
  else m

/-- Merges all unread bytes into `m` by a plan. Every required field must come in these bytes,
whatever `m` held before. -/
def mergeByPlan (budget : Nat) (nested : Nested) (plan : Plan) (m : Message) : Reader Message := do
  let (m, seen) ← Reader.fields budget
    (fun key (m, seen) => (plan.rule? key.number).map fun rule => nested.apply rule key m seen)
    (fun number raw (m, seen) => (keepUnclaimed plan number raw m, seen))
    (m, [])
  if (List.range plan.requiredCount).all (· ∈ seen) then return m
  else throw (.requiredFieldMissing plan.message)

namespace DecoderSet

/-- Merges all unread bytes into `m` as a message of the named type. -/
def mergeWith (set : DecoderSet) (budget : Nat) (nested : Nested) (name : String) (m : Message) :
    Reader Message :=
  match set.planFor? name with
  | some plan => mergeByPlan budget nested plan m
  | none => throw (.unknownMessage name)

/-- Embedded messages and map entries alike take one level of nesting. -/
def nested (set : DecoderSet) : (budget : Nat) → Nested
  | 0 =>
    { message := fun _ _ => throw .recursionLimitReached
      entry := fun _ => throw .recursionLimitReached }
  | budget + 1 =>
    { message := fun name m =>
        Reader.delimited (set.mergeWith budget (set.nested budget) name m)
      entry := fun rule =>
        Reader.delimited ((set.nested budget).entryFields budget rule) }

/-- Merges a buffer into `m`. -/
def merge (set : DecoderSet) (m : Message) (bytes : Bytes) : Except Fault Message :=
  (set.mergeWith Cursor.defaultBudget (set.nested Cursor.defaultBudget) m.name m).run bytes

/-- Decodes a buffer as a message of the named type. -/
def decode (set : DecoderSet) (name : String) (bytes : Bytes) : Except Fault Message :=
  set.merge (Message.ofName name) bytes

/-- Merges buffers one after the other into `m`: its state after each, up to and with the first
fault. -/
def mergeSteps (set : DecoderSet) (m : Message) : List Bytes → List (Except Fault Message)
  | [] => []
  | bytes :: rest =>
    match set.merge m bytes with
    | .ok next => .ok next :: set.mergeSteps next rest
    | .error fault => [.error fault]

end DecoderSet

end ProtoPlan.Dynamic
