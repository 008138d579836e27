import ProtoPlan.Proofs.Conformance.Agreement
import ProtoPlan.Proofs.Conformance.Native
import ProtoPlan.Proofs.Dynamic.Limit

/-!
The nesting budget of the native decoders. They take what the plans of their messages take, with any
budget, so that the levels that a buffer opens for a plan are those that it opens for them.
-/

namespace ProtoPlan

open Wire Wire.Reader ProtoPlan.Dynamic DecoderSet Nested Value

/-- With any budget, and merged into a fresh message, the set and the decoder take the same
buffers. -/
def Dynamic.DecoderSet.AcceptsAs (set : DecoderSet) (type : MessageType α) : Prop :=
  ∀ budget, Agrees (fun _ _ => True)
    (set.mergeWith budget (set.nested budget) type.name (Message.ofName type.name))
    (type.merge budget type.empty)

theorem Dynamic.DecoderSet.acceptsAs_of_agrees {options : Options} {schema : Schema}
    {set : DecoderSet} (hset : ofSchema options schema = .ok set) {type : MessageType α}
    {message : ProtoPlan.Message} (hdeclared : schema.declaration? type.name = some message)
    {R : Dynamic.Message → α → Prop}
    (h : ∀ plan budget, Plan.Fits message plan → plan.preserveUnknown = options.preserveUnknown →
      Agrees R (mergeByPlan budget (set.nested budget) plan (Message.ofName type.name))
        (type.merge budget type.empty)) : set.AcceptsAs type := by
  obtain ⟨plan, hplan, hfits, hkeep⟩ := planFor?_of_declaration hset hdeclared
  intro budget
  rw [mergeWith_eq hplan]
  exact (h plan budget hfits hkeep).mono fun _ _ _ => trivial

namespace WellKnown

section Set

variable {options : Options} {schema : Schema} {set : DecoderSet}
  (hset : DecoderSet.ofSchema options schema = .ok set)
include hset

theorem Wrapper.acceptsAs {type : MessageType (Wrapper α)} {name : String} {kind : Schema.Kind}
    {wireType : WireType} {read : Reader α} {view : Dynamic.Value → α} {absent : α}
    (hdeclared : schema.declaration? type.name = some (Schema.WellKnown.wrapper name kind))
    (hkind : kind.isMessage = false) (hwire : kind.wireType = wireType)
    (hempty : type.empty = ⟨absent⟩) (hmerge : type.merge = Wrapper.merge wireType read)
    (hread : ∀ nested : Dynamic.Nested,
      Agrees (fun v a => a = view v) (nested.valueOf "value" kind) read) : set.AcceptsAs type := by
  refine acceptsAs_of_agrees hset hdeclared (R := fun m t => t = Wrapper.ofMessage view absent m)
    fun plan budget h _ => ?_
  rw [hempty, hmerge]
  exact Wrapper.agrees h hkind hwire (hread _) _

theorem IsNative.acceptsAs {type : MessageType α} (h : IsNative type) : set.AcceptsAs type := by
  have hjson (budget : Nat) := Nested.agrees hset budget
  cases h with
  | doubleValue =>
    exact Wrapper.acceptsAs hset rfl rfl rfl rfl rfl fun _ =>
      agrees_scalar toDouble rfl (fun _ => rfl) _
  | floatValue =>
    exact Wrapper.acceptsAs hset rfl rfl rfl rfl rfl fun _ =>
      agrees_scalar toFloat rfl (fun _ => rfl) _
  | int64Value =>
    exact Wrapper.acceptsAs hset rfl rfl rfl rfl rfl fun _ =>
      agrees_scalar toInt64 rfl (fun _ => rfl) _
  | uint64Value =>
    exact Wrapper.acceptsAs hset rfl rfl rfl rfl rfl fun _ =>
      agrees_scalar toUInt64 rfl (fun _ => rfl) _
  | int32Value =>
    exact Wrapper.acceptsAs hset rfl rfl rfl rfl rfl fun _ =>
      agrees_scalar toInt32 rfl (fun _ => rfl) _
  | uint32Value =>
    exact Wrapper.acceptsAs hset rfl rfl rfl rfl rfl fun _ =>
      agrees_scalar toUInt32 rfl (fun _ => rfl) _
  | boolValue =>
    exact Wrapper.acceptsAs hset rfl rfl rfl rfl rfl fun _ =>
      agrees_scalar Value.toBool rfl (fun _ => rfl) _
  | stringValue => exact Wrapper.acceptsAs hset rfl rfl rfl rfl rfl fun _ => agrees_toText _
  | bytesValue => exact Wrapper.acceptsAs hset rfl rfl rfl rfl rfl fun _ => agrees_toBytes _
  | timestamp => exact acceptsAs_of_agrees hset rfl fun _ _ h _ => Time.agrees h _
  | duration => exact acceptsAs_of_agrees hset rfl fun _ _ h _ => Time.agrees h _
  | empty => exact acceptsAs_of_agrees hset rfl fun _ _ h _ => Empty.agrees h _
  | any => exact acceptsAs_of_agrees hset rfl fun _ _ h _ => Any.agrees h _
  | fieldMask => exact acceptsAs_of_agrees hset rfl fun _ _ h _ => FieldMask.agrees h _
  | struct =>
    exact acceptsAs_of_agrees hset rfl fun _ budget h _ =>
      Struct.agrees (hjson budget) h ⟨rfl, Message.keysOf_ofName _ _ _⟩
  | value =>
    refine acceptsAs_of_agrees hset rfl (R := Value.Matches) fun _ budget h _ => ?_
    have hvalue := Value.agrees (hjson budget) h (Message.ofName "google.protobuf.Value")
    rwa [Value.ofMessage_ofName] at hvalue
  | listValue =>
    exact acceptsAs_of_agrees hset rfl fun _ budget h _ => ListValue.agrees (hjson budget) h _
  | rawMessage =>
    intro budget
    rw [mergeWith_eq (planFor?_of_undeclared hset rfl rfl)]
    exact (RawMessage.agrees _ _).mono fun _ _ _ => trivial

end Set

end WellKnown

namespace Conformance

theorem IsNative.acceptsAs {set : DecoderSet} (hset : DecoderSet.ofSchema options schema = .ok set)
    {type : MessageType α} (h : IsNative type) : set.AcceptsAs type := by
  cases h with
  | wellKnown h => exact h.acceptsAs hset
  | scalars => exact acceptsAs_of_agrees hset rfl fun _ _ h hkeep => Scalars.agrees h hkeep _
  | repeated => exact acceptsAs_of_agrees hset rfl fun _ _ h hkeep => Repeated.agrees h hkeep _
  | inner => exact acceptsAs_of_agrees hset rfl fun _ _ h hkeep => Inner.agrees h hkeep _
  | nested =>
    have hempty : Nested.Matches (Message.ofName "conformance.Nested") {} :=
      ⟨rfl, Message.keysOf_ofName _ _ _, Message.keysOf_ofName _ _ _, .inl rfl⟩
    exact acceptsAs_of_agrees hset rfl fun _ _ h hkeep => Nested.agrees hset h hkeep hempty
  | node =>
    refine acceptsAs_of_agrees hset rfl (R := fun m t => t = Node.ofMessage m)
      fun _ budget h hkeep => ?_
    have hnode := Node.agrees h hkeep (Node.agrees_branch hset budget)
      (Message.ofName "conformance.Node")
    rwa [Node.ofMessage_ofName] at hnode
  | legacy => exact acceptsAs_of_agrees hset rfl fun _ _ h hkeep => Legacy.agrees h hkeep _
  | metadata =>
    have hempty : Meta.Matches (Message.ofName "conformance.Meta") {} :=
      ⟨rfl, Message.keysOf_ofName _ _ _⟩
    exact acceptsAs_of_agrees hset rfl fun _ _ h hkeep => Meta.agrees hset h hkeep hempty

/-- Under a limit a decoder takes and refuses what a set does. -/
theorem IsNative.run_cases {set : DecoderSet}
    (hset : DecoderSet.ofSchema options schema = .ok set) {type : MessageType α} (h : IsNative type)
    (budget : Nat) (s : α) (bytes : Bytes) :
    let run := (set.mergeWith budget (set.nested budget) type.name (Message.ofName type.name)).run
    (∃ m t, run bytes = .ok m ∧ (type.merge budget s).run bytes = .ok t) ∨
      ∃ fault, run bytes = .error fault ∧ (type.merge budget s).run bytes = .error fault := by
  intro run
  rcases (h.acceptsAs hset budget).run bytes with ⟨m, fresh, hm, hfresh, -⟩ | ⟨fault, hm, hfresh⟩
  · rcases (h.agrees_states budget type.empty s).run bytes with
      ⟨_, t, _, ht, -⟩ | ⟨fault, hfault, _⟩
    · exact .inl ⟨m, t, hm, ht⟩
    · rw [hfresh] at hfault
      cases hfault
  · rcases (h.agrees_states budget type.empty s).run bytes with ⟨_, t, hok, _, -⟩ | ⟨fault', hf, ht⟩
    · rw [hfresh] at hok
      cases hok
    · rw [hfresh] at hf
      cases hf
      exact .inr ⟨fault, hm, ht⟩

/-- What a decoder takes under one limit it takes under every limit that is as deep as the buffer,
and refuses under all others. A group counts once there is a group inside it. -/
theorem merge_limit {type : MessageType α} (h : IsNative type) {budget : Nat} {s last : α}
    {bytes : Bytes} (haccepts : (type.merge budget s).run bytes = .ok last) (limit : Nat) (t : α) :
    (¬DeeperThan schema 2 limit (schema.fieldsOf type.name) bytes →
      ∃ last', (type.merge limit t).run bytes = .ok last') ∧
    (DeeperThan schema 2 limit (schema.fieldsOf type.name) bytes →
      (type.merge limit t).run bytes = .error .recursionLimitReached) := by
  obtain ⟨set, hset⟩ := exists_set
  obtain ⟨m, hm⟩ : ∃ m, (set.mergeWith budget (set.nested budget) type.name
      (Message.ofName type.name)).run bytes = .ok m := by
    rcases h.run_cases hset budget s bytes with ⟨m, _, hm, -⟩ | ⟨fault, -, hfault⟩
    · exact ⟨m, hm⟩
    · rw [haccepts] at hfault
      cases hfault
  rcases (limitedNested hset budget limit).mergeWith hset hm (Message.ofName type.name) with
    ⟨hno, m', hok⟩ | ⟨hdeep, hfault⟩
  · refine ⟨fun _ => ?_, fun hdeep => absurd hdeep hno⟩
    rcases h.run_cases hset limit t bytes with ⟨_, last', -, hlast⟩ | ⟨fault, hfault, -⟩
    · exact ⟨last', hlast⟩
    · rw [hok] at hfault
      cases hfault
  · refine ⟨fun hno => absurd hdeep hno, fun _ => ?_⟩
    rcases h.run_cases hset limit t bytes with ⟨_, _, hok, -⟩ | ⟨fault, hsame, hlast⟩
    · rw [hfault] at hok
      cases hok
    · rw [hfault] at hsame
      cases hsame
      exact hlast

/-- A branch of a tree with two groups in it, one inside the other: three levels. -/
theorem merge_limit_branch :
    (∃ last, (node.merge 3 {}).run [0x12, 4, 0x23, 0x2b, 0x2c, 0x24] = .ok last) ∧
      (node.merge 2 {}).run [0x12, 4, 0x23, 0x2b, 0x2c, 0x24] = .error .recursionLimitReached := by
  have hok : ((node.merge 3 {}).run [0x12, 4, 0x23, 0x2b, 0x2c, 0x24]).toOption.isSome = true := by
    decide +kernel
  obtain ⟨last, hlast⟩ := exists_ok_of_isSome hok
  refine ⟨⟨last, hlast⟩, (merge_limit .node hlast 2 {}).2 ?_⟩
  have hbranch : Cuts [0x12, 4, 0x23, 0x2b, 0x2c, 0x24]
      [⟨⟨2, .lengthDelimited⟩, [0x12, 4, 0x23, 0x2b, 0x2c, 0x24]⟩] := ⟨3, by decide +kernel⟩
  have hgroup : Cuts [0x23, 0x2b, 0x2c, 0x24] [⟨⟨4, .startGroup⟩, [0x23, 0x2b, 0x2c, 0x24]⟩] :=
    ⟨3, by decide +kernel⟩
  have hopens : GroupOpens 0 [0x2b, 0x2c, 0x24] 2 :=
    .start (rfl : varint [0x2b, 0x2c, 0x24] = .ok 0x2b [0x2c, 0x24]) rfl (.here 1 _)
  have hleft : Schema.Field.singular "left" 2 nodeKind ∈ nodeSchema.fields :=
    List.mem_cons_of_mem _ List.mem_cons_self
  have hname : Schema.trimDots "conformance.Node" = "conformance.Node" := by decide
  have hinside : schema.inside? (.singular "left" 2 nodeKind) =
      some (schema.fieldsOf "conformance.Node") :=
    congrArg (fun name => some (schema.fieldsOf name)) hname
  refine ⟨_, hbranch, _, List.mem_cons_self, 3, by decide, ?_⟩
  exact .deeper hleft rfl hinside rfl hgroup List.mem_cons_self
    (.group (by decide) rfl (Nat.le_refl 2) hopens)

/-- Without budget a group that opens one level is entered all the same. -/
theorem merge_flat_group :
    (WellKnown.empty.merge 1 {}).run [0x1b, 0x1c] = .ok {} ∧
      DeeperThan schema 1 0 (schema.fieldsOf WellKnown.empty.name) [0x1b, 0x1c] ∧
      (WellKnown.empty.merge 0 {}).run [0x1b, 0x1c] = .ok {} := by
  refine ⟨by decide +kernel, ?_, by decide +kernel⟩
  refine ⟨[⟨⟨3, .startGroup⟩, [0x1b, 0x1c]⟩], ⟨1, by decide +kernel⟩, _, List.mem_cons_self, 1,
    Nat.one_pos, ?_⟩
  exact .group (by decide) rfl (Nat.le_refl 1) (.here 0 [0x1c])

end Conformance

end ProtoPlan
