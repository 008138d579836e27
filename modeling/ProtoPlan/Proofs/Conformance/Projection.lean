import ProtoPlan.Conformance.Basic
import ProtoPlan.Proofs.WellKnown.Projection

/-!
The native `conformance` values that dynamic messages stand for, unknown bytes and extensions
included, at every level.
-/

namespace ProtoPlan.Conformance

open Dynamic.Value

def Scalars.ofMessage (m : Dynamic.Message) : Scalars :=
  { double := m.get 1 toDouble 0
    float := m.get 2 toFloat 0
    int32 := m.get 3 toInt32 0
    int64 := m.get 4 toInt64 0
    uint32 := m.get 5 toUInt32 0
    uint64 := m.get 6 toUInt64 0
    sint32 := m.get 7 toInt32 0
    sint64 := m.get 8 toInt64 0
    fixed32 := m.get 9 toUInt32 0
    fixed64 := m.get 10 toUInt64 0
    sfixed32 := m.get 11 toInt32 0
    sfixed64 := m.get 12 toInt64 0
    bool := m.get 13 toBool false
    string := m.get 14 toText ""
    bytes := m.get 15 toBytes []
    enum := m.get 16 toInt32 0
    unknown := m.unknown }

def Repeated.ofMessage (m : Dynamic.Message) : Repeated :=
  { int32 := (m.list 1).map toInt32
    sint64 := (m.list 2).map toInt64
    fixed64 := (m.list 3).map toUInt64
    double := (m.list 4).map toDouble
    bool := (m.list 5).map toBool
    string := (m.list 6).map toText
    bytes := (m.list 7).map toBytes
    enum := (m.list 8).map toInt32
    unknown := m.unknown }

def Inner.ofMessage (m : Dynamic.Message) : Inner :=
  { value := m.get 1 toInt32 0, label := m.get 2 toText "", unknown := m.unknown }

/-- What the oneof `pick` holds. -/
def Pick.ofMessage? (m : Dynamic.Message) : Option Pick :=
  match m.whichOneof "pick" with
  | some 5 => some (.innerChoice (m.get 5 (fun value => Inner.ofMessage value.toMessage) {}))
  | some 6 => some (.textChoice (m.get 6 toText ""))
  | _ => none

def Nested.ofMessage (m : Dynamic.Message) : Nested :=
  { child := (m.fields.get? 1).map fun value => Inner.ofMessage value.toMessage
    children := (m.list 2).map fun value => Inner.ofMessage value.toMessage
    byName := m.entries 3 Dynamic.MapKey.toText fun value => Inner.ofMessage value.toMessage
    labels := m.entries 4 Dynamic.MapKey.toInt32 toText
    pick := Pick.ofMessage? m
    time := (m.fields.get? 7).map fun value => WellKnown.Time.ofMessage value.toMessage
    count := (m.fields.get? 8).map fun value =>
      WellKnown.Wrapper.ofMessage toInt32 0 value.toMessage
    nothing := (m.fields.get? 9).map fun value => WellKnown.Empty.ofMessage value.toMessage
    unknown := m.unknown }

def Node.ofDynamic : Dynamic.Value → Node
  | .message m =>
    { value := Dynamic.Message.get m 1 toInt32 0
      left := (m.fields.get? 2).attach.map fun value => Node.ofDynamic value.1
      right := (m.fields.get? 3).attach.map fun value => Node.ofDynamic value.1
      unknown := m.unknown }
  | _ => {}
termination_by value => sizeOf value
decreasing_by
  all_goals
    have hlt := Dynamic.Message.sizeOf_lt_of_get? value.2
    rw [message.sizeOf_spec]
    omega

def Node.ofMessage (m : Dynamic.Message) : Node := Node.ofDynamic (.message m)

theorem Node.ofMessage_ofName (name : String) :
    Node.ofMessage (Dynamic.Message.ofName name) = {} := by
  rw [ofMessage, ofDynamic]
  rfl

theorem Node.ofDynamic_eq (value : Dynamic.Value) :
    Node.ofDynamic value = Node.ofMessage value.toMessage := by
  cases value with
  | message m => rfl
  | scalar | text | bytes | list | map => simp [toMessage, ofMessage_ofName, ofDynamic]

theorem Node.ofMessage_eq (m : Dynamic.Message) :
    Node.ofMessage m =
      { value := m.get 1 toInt32 0
        left := (m.fields.get? 2).map fun value => Node.ofMessage value.toMessage
        right := (m.fields.get? 3).map fun value => Node.ofMessage value.toMessage
        unknown := m.unknown } := by
  rw [ofMessage, ofDynamic]
  simp [ofDynamic_eq]

def Legacy.ofMessage (m : Dynamic.Message) : Legacy :=
  { id := m.get 1 toInt32 0
    name := m.get 2 toText ""
    score := (m.fields.get? 3).map toInt32
    tags := (m.list 4).map toText
    blob := (m.fields.get? 5).map toBytes
    unknown := m.unknown
    extensions := m.extensions }

def Meta.ofMessage (m : Dynamic.Message) : Meta :=
  { any := (m.fields.get? 1).map fun value => WellKnown.Any.ofMessage value.toMessage
    mask := (m.fields.get? 2).map fun value => WellKnown.FieldMask.ofMessage value.toMessage
    attrs := (m.fields.get? 3).map fun value => WellKnown.Struct.ofMessage value.toMessage
    source := (m.fields.get? 4).map fun value => WellKnown.RawMessage.ofMessage value.toMessage
    unknown := m.unknown }

end ProtoPlan.Conformance
