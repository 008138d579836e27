import ProtoPlan.Proofs.Conformance.Native
import ProtoPlan.Proofs.Wire.Relaxing

/-!
The native decoders under a higher nesting limit. None looks at the limit but to enter an embedded
message, a map entry or a group, so that what a decoder made of a buffer under a lower limit it
makes of it under a higher one, unless the lower one was too low.
-/

namespace ProtoPlan

open Wire Wire.Reader

namespace WellKnown

section Flat

theorem Wrapper.relaxing (wireType : WireType) (read : Reader α) :
    Relaxing (Wrapper.merge wireType read) := fun hle => relaxes_fields_self hle _

theorem Time.relaxing : Relaxing Time.merge := fun hle => relaxes_fields_self hle _

theorem Empty.relaxing : Relaxing Empty.merge := fun hle => relaxes_fields_self hle _

theorem Any.relaxing : Relaxing Any.merge := fun hle => relaxes_fields_self hle _

theorem FieldMask.relaxing : Relaxing FieldMask.merge := fun hle => relaxes_fields_self hle _

theorem RawMessage.relaxing : Relaxing RawMessage.merge := fun hle => relaxes_fields_self hle _

end Flat

section Json

/-- The embedded messages of JSON values under two limits. -/
structure Nested.Relaxes (low high : Nested) : Prop where
  struct : Reader.Relaxes low.struct high.struct
  list : Reader.Relaxes low.list high.list
  value : ∀ value, Reader.Relaxes (low.value value) (high.value value)
  entry : Reader.Relaxes low.entry high.entry

section Fields

variable {low high : Nat} (hle : low ≤ high) {nested nested' : Nested}
  (h : Nested.Relaxes nested nested')
include hle h

theorem Value.relaxes_mergeWith (value : Value) :
    Reader.Relaxes (Value.mergeWith low nested value) (Value.mergeWith high nested' value) := by
  refine relaxes_fields hle _ ?_ value
  rintro ⟨number, framed⟩ s
  dsimp only
  split
  · exact .some (.refl _)
  · exact .some (.refl _)
  · exact .some (.refl _)
  · exact .some (.refl _)
  · exact .some h.struct.map.expect
  · exact .some h.list.map.expect
  · exact .none

theorem ListValue.relaxes_mergeWith (list : ListValue) :
    Reader.Relaxes (ListValue.mergeWith low nested list)
      (ListValue.mergeWith high nested' list) := by
  refine relaxes_fields hle _ ?_ list
  rintro ⟨number, framed⟩ s
  dsimp only
  split
  · exact .some (h.value _).map.expect
  · exact .none

theorem Struct.relaxes_mergeEntry (entry : String × Value) :
    Reader.Relaxes (Struct.mergeEntry low nested entry)
      (Struct.mergeEntry high nested' entry) := by
  refine relaxes_fields hle _ ?_ entry
  rintro ⟨number, framed⟩ ⟨name, value⟩
  dsimp only
  split
  · exact .some (.refl _)
  · exact .some (h.value _).map.expect
  · exact .none

theorem Struct.relaxes_mergeWith (struct : Struct) :
    Reader.Relaxes (Struct.mergeWith low nested struct)
      (Struct.mergeWith high nested' struct) := by
  refine relaxes_fields hle _ ?_ struct
  rintro ⟨number, framed⟩ s
  dsimp only
  split
  · exact .some h.entry.map.expect
  · exact .none

end Fields

theorem relaxes_nested {low high : Nat} (hle : low ≤ high) :
    Nested.Relaxes (nested low) (nested high) := by
  induction low generalizing high with
  | zero =>
    exact ⟨relaxes_limit _, relaxes_limit _, fun _ => relaxes_limit _, relaxes_limit _⟩
  | succ low ih =>
    cases high with
    | zero => omega
    | succ high =>
      have hle := Nat.le_of_succ_le_succ hle
      exact {
        struct := (Struct.relaxes_mergeWith hle (ih hle) _).delimited
        list := (ListValue.relaxes_mergeWith hle (ih hle) _).delimited
        value := fun value => (Value.relaxes_mergeWith hle (ih hle) value).delimited
        entry := (Struct.relaxes_mergeEntry hle (ih hle) _).delimited }

theorem Value.relaxing : Relaxing Value.merge := fun hle =>
  Value.relaxes_mergeWith hle (relaxes_nested hle)

theorem ListValue.relaxing : Relaxing ListValue.merge := fun hle =>
  ListValue.relaxes_mergeWith hle (relaxes_nested hle)

theorem Struct.relaxing : Relaxing Struct.merge := fun hle =>
  Struct.relaxes_mergeWith hle (relaxes_nested hle)

end Json

theorem IsNative.relaxing {type : MessageType α} (h : IsNative type) : Relaxing type.merge := by
  cases h with
  | doubleValue => exact Wrapper.relaxing _ _
  | floatValue => exact Wrapper.relaxing _ _
  | int64Value => exact Wrapper.relaxing _ _
  | uint64Value => exact Wrapper.relaxing _ _
  | int32Value => exact Wrapper.relaxing _ _
  | uint32Value => exact Wrapper.relaxing _ _
  | boolValue => exact Wrapper.relaxing _ _
  | stringValue => exact Wrapper.relaxing _ _
  | bytesValue => exact Wrapper.relaxing _ _
  | timestamp => exact Time.relaxing
  | duration => exact Time.relaxing
  | empty => exact Empty.relaxing
  | any => exact Any.relaxing
  | fieldMask => exact FieldMask.relaxing
  | struct => exact Struct.relaxing
  | value => exact Value.relaxing
  | listValue => exact ListValue.relaxing
  | rawMessage => exact RawMessage.relaxing

end WellKnown

namespace Conformance

open WellKnown

theorem Scalars.relaxing : Relaxing Scalars.merge := fun hle => relaxes_fields_self hle _

theorem Repeated.relaxing : Relaxing Repeated.merge := fun hle => relaxes_fields_self hle _

theorem Inner.relaxing : Relaxing Inner.merge := fun hle => relaxes_fields_self hle _

/-- A submessage merged into what is there, one level deeper. -/
theorem relaxes_submessage {merge : Nat → α → Reader α} (h : Relaxing merge) {low high : Nat}
    (hle : low ≤ high) (s : α) :
    Relaxes (Reader.nested low fun budget => merge budget s)
      (Reader.nested high fun budget => merge budget s) :=
  Reader.relaxes_nested hle fun hle => h hle s

theorem Nested.relaxing_byName : Relaxing Nested.mergeByName := by
  intro low high hle entry
  refine relaxes_fields hle _ ?_ entry
  rintro ⟨number, framed⟩ ⟨name, inner⟩
  dsimp only
  split
  · exact .some (.refl _)
  · exact .some (relaxes_submessage Inner.relaxing hle _).map.expect
  · exact .none

theorem Nested.relaxing_label : Relaxing Nested.mergeLabel := fun hle => relaxes_fields_self hle _

theorem Nested.relaxing : Relaxing Nested.merge := by
  intro low high hle n
  refine relaxes_fields hle _ ?_ n
  rintro ⟨number, framed⟩ s
  dsimp only
  split
  · exact .some (relaxes_submessage Inner.relaxing hle _).map.expect
  · exact .some (relaxes_submessage Inner.relaxing hle _).map.expect
  · exact .some (relaxes_submessage Nested.relaxing_byName hle _).map.expect
  · exact .some (relaxes_submessage Nested.relaxing_label hle _).map.expect
  · exact .some (relaxes_submessage Inner.relaxing hle _).map.expect
  · exact .some (.refl _)
  · exact .some (relaxes_submessage Time.relaxing hle _).map.expect
  · exact .some (relaxes_submessage (Wrapper.relaxing _ _) hle _).map.expect
  · exact .some (relaxes_submessage Empty.relaxing hle _).map.expect
  · exact .none

theorem Node.relaxes_mergeWith {low high : Nat} (hle : low ≤ high)
    {branch branch' : Node → Reader Node} (h : ∀ node, Relaxes (branch node) (branch' node))
    (node : Node) :
    Relaxes (Node.mergeWith low branch node) (Node.mergeWith high branch' node) := by
  refine relaxes_fields hle _ ?_ node
  rintro ⟨number, framed⟩ s
  dsimp only
  split
  · exact .some (.refl _)
  · exact .some (h _).map.expect
  · exact .some (h _).map.expect
  · exact .none

theorem Node.relaxing_branch : Relaxing Node.branch := by
  intro low high hle
  induction low generalizing high with
  | zero => exact fun _ => relaxes_limit _
  | succ low ih =>
    cases high with
    | zero => omega
    | succ high =>
      have hle := Nat.le_of_succ_le_succ hle
      exact fun node => (Node.relaxes_mergeWith hle (ih hle) node).delimited

theorem Node.relaxing : Relaxing Node.merge := fun hle =>
  Node.relaxes_mergeWith hle (Node.relaxing_branch hle)

theorem Legacy.relaxing : Relaxing Legacy.merge := fun hle _ =>
  (relaxes_fields_self hle _ _).bind fun _ => .refl _

theorem Meta.relaxing : Relaxing Meta.merge := by
  intro low high hle m
  refine relaxes_fields hle _ ?_ m
  rintro ⟨number, framed⟩ s
  dsimp only
  split
  · exact .some (relaxes_submessage Any.relaxing hle _).map.expect
  · exact .some (relaxes_submessage FieldMask.relaxing hle _).map.expect
  · exact .some (relaxes_submessage Struct.relaxing hle _).map.expect
  · exact .some (relaxes_submessage RawMessage.relaxing hle _).map.expect
  · exact .none

theorem IsNative.relaxing {type : MessageType α} (h : IsNative type) : Relaxing type.merge := by
  cases h with
  | wellKnown h => exact h.relaxing
  | scalars => exact Scalars.relaxing
  | repeated => exact Repeated.relaxing
  | inner => exact Inner.relaxing
  | nested => exact Nested.relaxing
  | node => exact Node.relaxing
  | legacy => exact Legacy.relaxing
  | metadata => exact Meta.relaxing

/-- Whatever is merged, and wherever in a buffer the cursor stands, the nesting limit only turns
outcomes into failures for the limit. The same holds for a value that is skipped. -/
theorem merge_limitOnly :
    (∀ {α : Type} {type : MessageType α}, IsNative type → ∀ s,
      Cursor.LimitOnly fun c => c.read (type.merge c.budget s)) ∧
    ∀ wireType, Cursor.LimitOnly fun c => c.skip wireType :=
  ⟨fun h s => Cursor.limitOnly_read _ fun hle => h.relaxing hle s, Cursor.limitOnly_skip⟩

/-- A branch is one level deep: with seven levels it is what it is with one. A group in a group is
skipped with two levels as with nine. -/
theorem merge_limitOnly_branch :
    (Cursor.read ⟨[0x12, 2, 0x08, 5], 0, 1⟩ (node.merge 1 {})).1.toOption.isSome = true ∧
    (Cursor.read ⟨[0x12, 2, 0x08, 5], 0, 7⟩ (node.merge 7 {})).1 =
      (Cursor.read ⟨[0x12, 2, 0x08, 5], 0, 1⟩ (node.merge 1 {})).1 ∧
    (Cursor.skip ⟨[0x23, 0x2b, 0x2c, 0x24, 0x08], 1, 2⟩ .startGroup).1 = .ok 3 ∧
    (Cursor.skip ⟨[0x23, 0x2b, 0x2c, 0x24, 0x08], 1, 9⟩ .startGroup).1 = .ok 3 := by
  have hbranch : (Cursor.read ⟨[0x12, 2, 0x08, 5], 0, 1⟩ (node.merge 1 {})).1.toOption.isSome =
      true := by decide +kernel
  have hgroup : (Cursor.skip ⟨[0x23, 0x2b, 0x2c, 0x24, 0x08], 1, 2⟩ .startGroup).1 = .ok 3 := by cbv
  refine ⟨hbranch, ?_, hgroup, ?_⟩
  · refine (merge_limitOnly.1 .node {} ⟨[0x12, 2, 0x08, 5], 0, 1⟩ 1 7 (by decide) ?_).1
    intro hlimit
    rw [hlimit] at hbranch
    cases hbranch
  · refine (merge_limitOnly.2 .startGroup ⟨[0x23, 0x2b, 0x2c, 0x24, 0x08], 1, 2⟩ 2 9
      (by decide) ?_).1.trans hgroup
    rw [hgroup]
    intro hlimit
    cases hlimit

end Conformance

end ProtoPlan
