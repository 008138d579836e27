import ProtoPlan.Conformance.Decode
import ProtoPlan.Proofs.WellKnown.Native

/-!
The decoders of the `conformance` package go by frames too: what a message held before decides
neither which buffers are accepted nor with which fault one is refused.
-/

namespace ProtoPlan.Conformance

open Wire Wire.Reader WellKnown

/-- The types with a decoder of their own, those of the `google.protobuf` package included. -/
inductive IsNative : {α : Type} → MessageType α → Prop where
  | wellKnown {α : Type} {type : MessageType α} : WellKnown.IsNative type → IsNative type
  | scalars : IsNative scalars
  | repeated : IsNative repeated
  | inner : IsNative inner
  | nested : IsNative nested
  | node : IsNative node
  | legacy : IsNative legacy
  | metadata : IsNative metadata

theorem Scalars.byFields : ByFields Scalars.merge := by
  intro budget
  refine ⟨_, _, rfl, ?_⟩
  rintro ⟨number, framed⟩ s t
  dsimp only
  split
  · exact .some byFrame_fixed64.stored
  · exact .some byFrame_fixed32.stored
  · exact .some byFrame_int32.stored
  · exact .some byFrame_int64.stored
  · exact .some byFrame_uint32.stored
  · exact .some byFrame_varint.stored
  · exact .some byFrame_sint32.stored
  · exact .some byFrame_sint64.stored
  · exact .some byFrame_fixed32.stored
  · exact .some byFrame_fixed64.stored
  · exact .some byFrame_sfixed32.stored
  · exact .some byFrame_sfixed64.stored
  · exact .some byFrame_bool.stored
  · exact .some (byFrame_text _).stored
  · exact .some byFrame_span.stored
  · exact .some byFrame_int32.stored
  · exact .none

theorem Repeated.byFields : ByFields Repeated.merge := by
  intro budget
  refine ⟨_, _, rfl, ?_⟩
  rintro ⟨number, framed⟩ s t
  dsimp only
  split
  · exact .some (alike_packable byFrame_int32 _ _).map
  · exact .some (alike_packable byFrame_sint64 _ _).map
  · exact .some (alike_packable byFrame_fixed64 _ _).map
  · exact .some (alike_packable byFrame_fixed64 _ _).map
  · exact .some (alike_packable byFrame_bool _ _).map
  · exact .some (byFrame_text _).stored
  · exact .some byFrame_span.stored
  · exact .some (alike_packable byFrame_int32 _ _).map
  · exact .none

theorem Inner.byFields : ByFields Inner.merge := by
  intro budget
  refine ⟨_, _, rfl, ?_⟩
  rintro ⟨number, framed⟩ s t
  dsimp only
  split
  · exact .some byFrame_int32.stored
  · exact .some (byFrame_text _).stored
  · exact .none

theorem alike_submessage {α : Type} {merge : Nat → α → Reader α} (h : ByFields merge)
    (budget : Nat) (s t : α) :
    Alike .lengthDelimited (Reader.nested budget fun budget => merge budget s)
      (Reader.nested budget fun budget => merge budget t) :=
  alike_nested (fun budget => h.agrees budget s t) budget

theorem Nested.byFields_byName : ByFields Nested.mergeByName := by
  intro budget
  refine ⟨_, _, rfl, ?_⟩
  rintro ⟨number, framed⟩ s t
  dsimp only
  split
  · exact .some (byFrame_text _).stored
  · exact .some (alike_submessage Inner.byFields budget _ _).map.expect
  · exact .none

theorem Nested.byFields_label : ByFields Nested.mergeLabel := by
  intro budget
  refine ⟨_, _, rfl, ?_⟩
  rintro ⟨number, framed⟩ s t
  dsimp only
  split
  · exact .some byFrame_int32.stored
  · exact .some (byFrame_text _).stored
  · exact .none

theorem Nested.byFields : ByFields Nested.merge := by
  intro budget
  refine ⟨_, _, rfl, ?_⟩
  rintro ⟨number, framed⟩ s t
  dsimp only
  split
  · exact .some (alike_submessage Inner.byFields budget _ _).map.expect
  · exact .some (alike_submessage Inner.byFields budget _ _).map.expect
  · exact .some (alike_submessage Nested.byFields_byName budget _ _).map.expect
  · exact .some (alike_submessage Nested.byFields_label budget _ _).map.expect
  · exact .some (alike_submessage Inner.byFields budget _ _).map.expect
  · exact .some (byFrame_text _).stored
  · exact .some (alike_submessage Time.byFields budget _ _).map.expect
  · exact .some (alike_submessage (Wrapper.byFields byFrame_int32) budget _ _).map.expect
  · exact .some (alike_submessage Empty.byFields budget _ _).map.expect
  · exact .none

theorem Node.uniform (budget : Nat) {branch : Node → Reader Node}
    (h : ∀ s t, Alike .lengthDelimited (branch s) (branch t)) :
    ∃ claimed unclaimed, Node.mergeWith budget branch = fields budget claimed unclaimed ∧
      Uniform claimed := by
  refine ⟨_, _, rfl, ?_⟩
  rintro ⟨number, framed⟩ s t
  dsimp only
  split
  · exact .some byFrame_int32.stored
  · exact .some (h _ _).map.expect
  · exact .some (h _ _).map.expect
  · exact .none

theorem Node.alike_branch (budget : Nat) (s t : Node) :
    Alike .lengthDelimited (Node.branch budget s) (Node.branch budget t) := by
  induction budget generalizing s t with
  | zero => exact ⟨.throw _, .throw _⟩
  | succ budget ih =>
    obtain ⟨claimed, unclaimed, hmerge, huniform⟩ := Node.uniform budget ih
    rw [Node.branch, Node.branch, hmerge]
    exact alike_delimited (huniform.agrees budget unclaimed s t)

theorem Node.byFields : ByFields Node.merge := fun budget =>
  Node.uniform budget (Node.alike_branch budget)

/-- Which required fields are missing in the end is a matter of the bytes too. -/
theorem Legacy.agrees_states (budget : Nat) (s t : Legacy) :
    Agrees (fun _ _ => True) (Legacy.merge budget s) (Legacy.merge budget t) := by
  refine Agrees.bind (R := fun s t => s.2 = t.2) (Agrees.fields ?_ ?_ rfl) ?_
  · rintro ⟨number, framed⟩ ⟨s, seen⟩ ⟨t, _⟩ rfl
    dsimp only
    split
    · exact .some (Agrees.expect ((agrees_self _).map fun _ _ _ => rfl))
    · exact .some (Agrees.expect ((agrees_self _).map fun _ _ _ => rfl))
    · exact .some (Agrees.expect ((agrees_self _).map fun _ _ _ => rfl))
    · exact .some (Agrees.expect ((agrees_self _).map fun _ _ _ => rfl))
    · exact .some (Agrees.expect ((agrees_self _).map fun _ _ _ => rfl))
    · exact .none
  · rintro key ⟨s, seen⟩ ⟨t, _⟩ raw rfl -
    dsimp only
    split <;> rfl
  · rintro ⟨s, seen⟩ ⟨t, _⟩ rfl
    dsimp only
    split
    · exact .pure trivial
    · exact .throw _

theorem Meta.byFields : ByFields Meta.merge := by
  intro budget
  refine ⟨_, _, rfl, ?_⟩
  rintro ⟨number, framed⟩ s t
  dsimp only
  split
  · exact .some (alike_submessage Any.byFields budget _ _).map.expect
  · exact .some (alike_submessage FieldMask.byFields budget _ _).map.expect
  · exact .some (alike_submessage Struct.byFields budget _ _).map.expect
  · exact .some (alike_submessage RawMessage.byFields budget _ _).map.expect
  · exact .none

/-- What is accepted, and which fault is met, does not depend on the message merged into. -/
theorem IsNative.agrees_states {α : Type} {type : MessageType α} (h : IsNative type) (budget : Nat)
    (s t : α) : Agrees (fun _ _ => True) (type.merge budget s) (type.merge budget t) := by
  cases h with
  | wellKnown h => exact h.byFields.agrees budget s t
  | scalars => exact Scalars.byFields.agrees budget s t
  | repeated => exact Repeated.byFields.agrees budget s t
  | inner => exact Inner.byFields.agrees budget s t
  | nested => exact Nested.byFields.agrees budget s t
  | node => exact Node.byFields.agrees budget s t
  | legacy => exact Legacy.agrees_states budget s t
  | metadata => exact Meta.byFields.agrees budget s t

end ProtoPlan.Conformance
