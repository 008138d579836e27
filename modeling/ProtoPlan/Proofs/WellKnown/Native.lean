import ProtoPlan.Proofs.Wire.Uniform
import ProtoPlan.WellKnown.Decode

/-!
What the native `google.protobuf` decoders have in common: each is a loop over the fields of a
message that takes a field by its frame, whatever the message held before.
-/

namespace ProtoPlan.WellKnown

open Wire Wire.Reader

/-- The native types of the `google.protobuf` package. -/
inductive IsNative : {α : Type} → MessageType α → Prop where
  | doubleValue : IsNative doubleValue
  | floatValue : IsNative floatValue
  | int64Value : IsNative int64Value
  | uint64Value : IsNative uint64Value
  | int32Value : IsNative int32Value
  | uint32Value : IsNative uint32Value
  | boolValue : IsNative boolValue
  | stringValue : IsNative stringValue
  | bytesValue : IsNative bytesValue
  | timestamp : IsNative timestamp
  | duration : IsNative duration
  | empty : IsNative empty
  | any : IsNative any
  | fieldMask : IsNative fieldMask
  | struct : IsNative struct
  | value : IsNative value
  | listValue : IsNative listValue
  | rawMessage : IsNative rawMessage

section Flat

variable {wireType : WireType} {read : Reader α}

theorem Wrapper.byFields (h : ByFrame wireType read) : ByFields (Wrapper.merge wireType read) := by
  intro budget
  refine ⟨_, _, rfl, ?_⟩
  rintro ⟨number, framed⟩ s t
  dsimp only
  split
  · exact .some h.stored
  · exact .none

theorem Time.byFields : ByFields Time.merge := by
  intro budget
  refine ⟨_, _, rfl, ?_⟩
  rintro ⟨number, framed⟩ s t
  dsimp only
  split
  · exact .some byFrame_int64.stored
  · exact .some byFrame_int32.stored
  · exact .none

theorem Empty.byFields : ByFields Empty.merge := fun _ => ⟨_, _, rfl, uniform_none⟩

theorem Any.byFields : ByFields Any.merge := by
  intro budget
  refine ⟨_, _, rfl, ?_⟩
  rintro ⟨number, framed⟩ s t
  dsimp only
  split
  · exact .some (byFrame_text _).stored
  · exact .some byFrame_span.stored
  · exact .none

theorem FieldMask.byFields : ByFields FieldMask.merge := by
  intro budget
  refine ⟨_, _, rfl, ?_⟩
  rintro ⟨number, framed⟩ s t
  dsimp only
  split
  · exact .some (byFrame_text _).stored
  · exact .none

theorem RawMessage.byFields : ByFields RawMessage.merge := fun _ => ⟨_, _, rfl, uniform_none⟩

end Flat

section Json

theorem byFrame_struct (budget : Nat) : ByFrame .lengthDelimited (nested budget).struct := by
  cases budget with
  | zero => exact .throw _
  | succ budget => exact byFrame_delimited _

theorem byFrame_list (budget : Nat) : ByFrame .lengthDelimited (nested budget).list := by
  cases budget with
  | zero => exact .throw _
  | succ budget => exact byFrame_delimited _

theorem byFrame_value (budget : Nat) (value : Value) :
    ByFrame .lengthDelimited ((nested budget).value value) := by
  cases budget with
  | zero => exact .throw _
  | succ budget => exact byFrame_delimited _

theorem byFrame_entry (budget : Nat) : ByFrame .lengthDelimited (nested budget).entry := by
  cases budget with
  | zero => exact .throw _
  | succ budget => exact byFrame_delimited _

theorem Value.byFields : ByFields Value.merge := by
  intro budget
  refine ⟨_, _, rfl, ?_⟩
  rintro ⟨number, framed⟩ s t
  dsimp only
  split
  · exact .some byFrame_int32.stored
  · exact .some byFrame_fixed64.stored
  · exact .some (byFrame_text _).stored
  · exact .some byFrame_bool.stored
  · exact .some (byFrame_struct budget).stored
  · exact .some (byFrame_list budget).stored
  · exact .none

theorem ListValue.byFields : ByFields ListValue.merge := by
  intro budget
  refine ⟨_, _, rfl, ?_⟩
  rintro ⟨number, framed⟩ s t
  dsimp only
  split
  · exact .some (byFrame_value budget .unset).stored
  · exact .none

theorem Struct.byFields : ByFields Struct.merge := by
  intro budget
  refine ⟨_, _, rfl, ?_⟩
  rintro ⟨number, framed⟩ s t
  dsimp only
  split
  · exact .some (byFrame_entry budget).stored
  · exact .none

end Json

theorem IsNative.byFields {type : MessageType α} (h : IsNative type) : ByFields type.merge := by
  cases h with
  | doubleValue => exact Wrapper.byFields byFrame_fixed64
  | floatValue => exact Wrapper.byFields byFrame_fixed32
  | int64Value => exact Wrapper.byFields byFrame_int64
  | uint64Value => exact Wrapper.byFields byFrame_varint
  | int32Value => exact Wrapper.byFields byFrame_int32
  | uint32Value => exact Wrapper.byFields byFrame_uint32
  | boolValue => exact Wrapper.byFields byFrame_bool
  | stringValue => exact Wrapper.byFields (byFrame_text "value")
  | bytesValue => exact Wrapper.byFields byFrame_span
  | timestamp => exact Time.byFields
  | duration => exact Time.byFields
  | empty => exact Empty.byFields
  | any => exact Any.byFields
  | fieldMask => exact FieldMask.byFields
  | struct => exact Struct.byFields
  | value => exact Value.byFields
  | listValue => exact ListValue.byFields
  | rawMessage => exact RawMessage.byFields

end ProtoPlan.WellKnown
