import ProtoPlan.Proofs.Dynamic.Projection
import ProtoPlan.WellKnown.Basic

/-!
The native `google.protobuf` values that dynamic messages stand for. Fields that never came read as
zero, the kind of a JSON value is the member that its oneof holds, and unknown fields are dropped.
-/

namespace ProtoPlan.Dynamic

/-! A message is larger than all that lies in it. -/

section Size

variable {m : Message} {number : Nat}

theorem Message.sizeOf_lt_of_get? {value : Value} (h : m.fields.get? number = some value) :
    sizeOf value < sizeOf m := by
  obtain ⟨entry, hfind, rfl⟩ := Option.map_eq_some_iff.1 h
  have hmem := List.sizeOf_lt_of_mem (List.mem_of_find?_eq_some hfind)
  obtain ⟨name, ⟨entries⟩, oneofs, unknown, extensions⟩ := m
  obtain ⟨key, value⟩ := entry
  simp only [MessageOf.mk.sizeOf_spec, SortedMap.mk.sizeOf_spec, Prod.mk.sizeOf_spec] at hmem ⊢
  omega

theorem Message.sizeOf_lt_of_mem_list {value : Value} (h : value ∈ m.list number) :
    sizeOf value < sizeOf m := by
  unfold Message.list at h
  split at h
  · rename_i values hget
    have hmem := List.sizeOf_lt_of_mem h
    have hvalue := sizeOf_lt_of_get? hget
    rw [Value.list.sizeOf_spec] at hvalue
    omega
  · cases h

theorem Message.sizeOf_lt_of_mem_map {entry : MapKey × Value}
    (h : entry ∈ (m.map number).entries) : sizeOf entry.2 < sizeOf m := by
  unfold Message.map at h
  split at h
  · rename_i entries hget
    obtain ⟨entries⟩ := entries
    obtain ⟨key, value⟩ := entry
    have hmem := List.sizeOf_lt_of_mem h
    have hvalue := sizeOf_lt_of_get? hget
    rw [Prod.mk.sizeOf_spec] at hmem
    rw [Value.map.sizeOf_spec, SortedMap.mk.sizeOf_spec] at hvalue
    dsimp only at hmem ⊢
    omega
  · cases h

/-- The message of a field lies in the message, or holds nothing. -/
theorem Message.submessage_cases (m : Message) (number : Nat) (name : String) :
    sizeOf (m.submessage number name) < sizeOf m ∨ m.submessage number name = ofName name := by
  unfold Message.submessage
  split
  · rename_i inner hget
    have hvalue := sizeOf_lt_of_get? hget
    rw [Value.message.sizeOf_spec] at hvalue
    exact .inl (by omega)
  · exact .inr rfl

theorem Message.sizeOf_lt_of_mem_sublist {inner : Nat} {name : String} {value : Value}
    (h : value ∈ (m.submessage number name).list inner) : sizeOf value < sizeOf m := by
  rcases m.submessage_cases number name with hlt | hempty
  · exact Nat.lt_trans (sizeOf_lt_of_mem_list h) hlt
  · rw [hempty] at h
    cases h

theorem Message.sizeOf_lt_of_mem_submap {inner : Nat} {name : String} {entry : MapKey × Value}
    (h : entry ∈ ((m.submessage number name).map inner).entries) :
    sizeOf entry.2 < sizeOf m := by
  rcases m.submessage_cases number name with hlt | hempty
  · exact Nat.lt_trans (sizeOf_lt_of_mem_map h) hlt
  · rw [hempty] at h
    cases h

end Size

end ProtoPlan.Dynamic

namespace ProtoPlan.WellKnown

open Dynamic.Value Dynamic.Message

def Wrapper.ofMessage (view : Dynamic.Value → α) (absent : α) (m : Dynamic.Message) : Wrapper α :=
  ⟨m.get 1 view absent⟩

def Time.ofMessage (m : Dynamic.Message) : Time :=
  { seconds := m.get 1 toInt64 0, nanos := m.get 2 toInt32 0 }

def Empty.ofMessage (_ : Dynamic.Message) : Empty := {}

def Any.ofMessage (m : Dynamic.Message) : Any :=
  { typeUrl := m.get 1 toText "", value := m.get 2 toBytes [] }

def FieldMask.ofMessage (m : Dynamic.Message) : FieldMask := { paths := (m.list 1).map toText }

/-- A raw message is all that the dynamic one did not know. -/
def RawMessage.ofMessage (m : Dynamic.Message) : RawMessage := { raw := m.unknown }

/-- A JSON value is the member that the oneof `kind` holds. -/
def Value.ofDynamic : Dynamic.Value → Value
  | .message m =>
    match whichOneof m "kind" with
    | some 1 => .null (get m 1 toInt32 0)
    | some 2 => .number (get m 2 toDouble 0)
    | some 3 => .string (get m 3 toText "")
    | some 4 => .bool (get m 4 toBool false)
    | some 5 =>
      .struct ⟨((submessage m 5 "google.protobuf.Struct").map 1).entries.attach.map fun entry =>
        (entry.1.1.toText, Value.ofDynamic entry.1.2)⟩
    | some 6 =>
      .list (((submessage m 6 "google.protobuf.ListValue").list 1).attach.map fun value =>
        Value.ofDynamic value.1)
    | _ => .unset
  | _ => .unset
termination_by value => sizeOf value
decreasing_by
  · have hlt := sizeOf_lt_of_mem_submap entry.2
    rw [message.sizeOf_spec]
    omega
  · have hlt := sizeOf_lt_of_mem_sublist value.2
    rw [message.sizeOf_spec]
    omega

def Value.ofMessage (m : Dynamic.Message) : Value := Value.ofDynamic (.message m)

def Struct.ofMessage (m : Dynamic.Message) : Struct :=
  { fields := m.entries 1 Dynamic.MapKey.toText Value.ofDynamic }

def ListValue.ofMessage (m : Dynamic.Message) : ListValue :=
  { values := (m.list 1).map Value.ofDynamic }

/-- The kinds of a JSON value: objects and arrays are those of the member's own message. -/
theorem Value.ofMessage_eq (m : Dynamic.Message) :
    Value.ofMessage m =
      match m.whichOneof "kind" with
      | some 1 => .null (m.get 1 toInt32 0)
      | some 2 => .number (m.get 2 toDouble 0)
      | some 3 => .string (m.get 3 toText "")
      | some 4 => .bool (m.get 4 toBool false)
      | some 5 => .struct (Struct.ofMessage (m.submessage 5 "google.protobuf.Struct")).fields
      | some 6 => .list (ListValue.ofMessage (m.submessage 6 "google.protobuf.ListValue")).values
      | _ => .unset := by
  have hentries (entries : List (Dynamic.MapKey × Dynamic.Value)) :
      (entries.attach.map fun entry => (entry.1.1.toText, Value.ofDynamic entry.1.2)) =
        entries.map fun entry => (entry.1.toText, Value.ofDynamic entry.2) :=
    @List.attach_map_val _ _ entries fun entry => (entry.1.toText, Value.ofDynamic entry.2)
  rw [ofMessage, ofDynamic]
  split <;> simp [Struct.ofMessage, ListValue.ofMessage, entries, hentries]

theorem Value.ofMessage_ofName (name : String) :
    Value.ofMessage (Dynamic.Message.ofName name) = .unset := by
  rw [ofMessage_eq]
  rfl

end ProtoPlan.WellKnown
