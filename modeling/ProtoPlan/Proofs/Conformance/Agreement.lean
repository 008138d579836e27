import ProtoPlan.Conformance.Decode
import ProtoPlan.Conformance.Schema
import ProtoPlan.Proofs.Conformance.Projection
import ProtoPlan.Proofs.Wire.PresenceBits
import ProtoPlan.Proofs.WellKnown.Agreement

/-!
The decoders of the `conformance` package do what the plans of its schema do, on every buffer and in
every fault.
-/

namespace ProtoPlan.Conformance

open Wire Wire.Reader Schema ProtoPlan.Dynamic Value Nested DecoderSet

section Flat

variable {nested : Dynamic.Nested} {plan : Plan} {budget : Nat}

theorem Scalars.agrees (hfits : Plan.Fits scalarsSchema plan) (hkeep : plan.preserveUnknown = true)
    (m : Dynamic.Message) :
    Agrees (fun m t => t = Scalars.ofMessage m) (mergeByPlan budget nested plan m)
      (Scalars.merge budget (Scalars.ofMessage m)) := by
  refine agrees_mergeByPlan hfits rfl ?_ ?_ ?_ rfl
  · rw [scalarsSchema, implicit]
    simp only [List.forall_mem_cons]
    refine ⟨?_, ?_, ?_, ?_, ?_, ?_, ?_, ?_, ?_, ?_, ?_, ?_, ?_, ?_, ?_, ?_, List.forall_mem_nil _⟩
    · refine agreesOn_view rfl rfl rfl (agrees_scalar toDouble rfl (fun _ => rfl) _)
        (fun _ _ => rfl) fun m v => ?_
      simp [ofMessage, Message.get_set, Field.singular]
    · refine agreesOn_view rfl rfl rfl (agrees_scalar toFloat rfl (fun _ => rfl) _)
        (fun _ _ => rfl) fun m v => ?_
      simp [ofMessage, Message.get_set, Field.singular]
    · refine agreesOn_view rfl rfl rfl (agrees_scalar toInt32 rfl (fun _ => rfl) _)
        (fun _ _ => rfl) fun m v => ?_
      simp [ofMessage, Message.get_set, Field.singular]
    · refine agreesOn_view rfl rfl rfl (agrees_scalar toInt64 rfl (fun _ => rfl) _)
        (fun _ _ => rfl) fun m v => ?_
      simp [ofMessage, Message.get_set, Field.singular]
    · refine agreesOn_view rfl rfl rfl (agrees_scalar toUInt32 rfl (fun _ => rfl) _)
        (fun _ _ => rfl) fun m v => ?_
      simp [ofMessage, Message.get_set, Field.singular]
    · refine agreesOn_view rfl rfl rfl (agrees_scalar toUInt64 rfl (fun _ => rfl) _)
        (fun _ _ => rfl) fun m v => ?_
      simp [ofMessage, Message.get_set, Field.singular]
    · refine agreesOn_view rfl rfl rfl (agrees_scalar toInt32 rfl (fun _ => rfl) _)
        (fun _ _ => rfl) fun m v => ?_
      simp [ofMessage, Message.get_set, Field.singular]
    · refine agreesOn_view rfl rfl rfl (agrees_scalar toInt64 rfl (fun _ => rfl) _)
        (fun _ _ => rfl) fun m v => ?_
      simp [ofMessage, Message.get_set, Field.singular]
    · refine agreesOn_view rfl rfl rfl (agrees_scalar toUInt32 rfl (fun _ => rfl) _)
        (fun _ _ => rfl) fun m v => ?_
      simp [ofMessage, Message.get_set, Field.singular]
    · refine agreesOn_view rfl rfl rfl (agrees_scalar toUInt64 rfl (fun _ => rfl) _)
        (fun _ _ => rfl) fun m v => ?_
      simp [ofMessage, Message.get_set, Field.singular]
    · refine agreesOn_view rfl rfl rfl (agrees_scalar toInt32 rfl (fun _ => rfl) _)
        (fun _ _ => rfl) fun m v => ?_
      simp [ofMessage, Message.get_set, Field.singular]
    · refine agreesOn_view rfl rfl rfl (agrees_scalar toInt64 rfl (fun _ => rfl) _)
        (fun _ _ => rfl) fun m v => ?_
      simp [ofMessage, Message.get_set, Field.singular]
    · refine agreesOn_view rfl rfl rfl (agrees_scalar Value.toBool rfl (fun _ => rfl) _)
        (fun _ _ => rfl) fun m v => ?_
      simp [ofMessage, Message.get_set, Field.singular]
    · refine agreesOn_view rfl rfl rfl (agrees_toText _) (fun _ _ => rfl) fun m v => ?_
      simp [ofMessage, Message.get_set, Field.singular]
    · refine agreesOn_view rfl rfl rfl (agrees_toBytes _) (fun _ _ => rfl) fun m v => ?_
      simp [ofMessage, Message.get_set, Field.singular]
    · refine agreesOn_view rfl rfl rfl (agrees_scalar toInt32 rfl (fun _ => rfl) _)
        (fun _ _ => rfl) fun m v => ?_
      simp [ofMessage, Message.get_set, Field.singular]
  · intro key t hn
    split <;> simp_all [scalarsSchema, implicit, Field.singular]
  · rintro number m t raw rfl
    rw [keepUnclaimed_eq hfits rfl hkeep]
    rfl

theorem Repeated.agrees (hfits : Plan.Fits repeatedSchema plan)
    (hkeep : plan.preserveUnknown = true) (m : Dynamic.Message) :
    Agrees (fun m t => t = Repeated.ofMessage m) (mergeByPlan budget nested plan m)
      (Repeated.merge budget (Repeated.ofMessage m)) := by
  refine agrees_mergeByPlan hfits rfl ?_ ?_ ?_ rfl
  · rw [repeatedSchema, implicit]
    simp only [List.forall_mem_cons]
    refine ⟨?_, ?_, ?_, ?_, ?_, ?_, ?_, ?_, List.forall_mem_nil _⟩
    · refine agreesOn_packable rfl rfl (agrees_scalar toInt32 rfl (fun _ => rfl) _)
        (fun _ _ => rfl) (fun _ => rfl) fun m values => ?_
      simp [ofMessage, Message.list_set]
    · refine agreesOn_packable rfl rfl (agrees_scalar toInt64 rfl (fun _ => rfl) _)
        (fun _ _ => rfl) (fun _ => rfl) fun m values => ?_
      simp [ofMessage, Message.list_set]
    · refine agreesOn_packable rfl rfl (agrees_scalar toUInt64 rfl (fun _ => rfl) _)
        (fun _ _ => rfl) (fun _ => rfl) fun m values => ?_
      simp [ofMessage, Message.list_set]
    · refine agreesOn_packable rfl rfl (agrees_scalar toDouble rfl (fun _ => rfl) _)
        (fun _ _ => rfl) (fun _ => rfl) fun m values => ?_
      simp [ofMessage, Message.list_set]
    · refine agreesOn_packable rfl rfl (agrees_scalar Value.toBool rfl (fun _ => rfl) _)
        (fun _ _ => rfl) (fun _ => rfl) fun m values => ?_
      simp [ofMessage, Message.list_set]
    · refine agreesOn_append rfl rfl (agrees_toText _) (fun _ _ => rfl) ?_
      rintro m _ v _ rfl rfl
      simp [ofMessage, Message.list_set]
    · refine agreesOn_append rfl rfl (agrees_toBytes _) (fun _ _ => rfl) ?_
      rintro m _ v _ rfl rfl
      simp [ofMessage, Message.list_set]
    · refine agreesOn_packable rfl rfl (agrees_scalar toInt32 rfl (fun _ => rfl) _)
        (fun _ _ => rfl) (fun _ => rfl) fun m values => ?_
      simp [ofMessage, Message.list_set]
  · intro key t hn
    split <;> simp_all [repeatedSchema, implicit]
  · rintro number m t raw rfl
    rw [keepUnclaimed_eq hfits rfl hkeep]
    rfl

theorem Inner.agrees (hfits : Plan.Fits innerSchema plan) (hkeep : plan.preserveUnknown = true)
    (m : Dynamic.Message) :
    Agrees (fun m t => t = Inner.ofMessage m) (mergeByPlan budget nested plan m)
      (Inner.merge budget (Inner.ofMessage m)) := by
  refine agrees_mergeByPlan hfits rfl ?_ ?_ ?_ rfl
  · rw [innerSchema, implicit, List.forall_mem_cons, List.forall_mem_singleton]
    constructor
    · refine agreesOn_view rfl rfl rfl (agrees_scalar toInt32 rfl (fun _ => rfl) _)
        (fun _ _ => rfl) fun m v => ?_
      simp [ofMessage, Message.get_set, Field.singular]
    · refine agreesOn_view rfl rfl rfl (agrees_toText _) (fun _ _ => rfl) fun m v => ?_
      simp [ofMessage, Message.get_set, Field.singular]
  · intro key t hn
    split <;> simp_all [innerSchema, implicit, Field.singular]
  · rintro number m t raw rfl
    rw [keepUnclaimed_eq hfits rfl hkeep]
    rfl

end Flat

/-- What `Nested` messages are like: map keys are of the kinds declared, and the oneof holds one of
its members. -/
structure Nested.Matches (m : Dynamic.Message) (nested : Nested) : Prop where
  eq : nested = Nested.ofMessage m
  byName : m.KeysOf 3 .text
  labels : m.KeysOf 4 .int32
  pick : m.whichOneof "pick" = none ∨ m.whichOneof "pick" = some 5 ∨ m.whichOneof "pick" = some 6

/-- Fields that are no maps keep the keys of those that are. -/
theorem Nested.Matches.set {m : Dynamic.Message} {nested nested' : Nested}
    (h : Nested.Matches m nested) {number : Nat} (hbyName : 3 ≠ number) (hlabels : 4 ≠ number)
    {value : Dynamic.Value} (heq : nested' = Nested.ofMessage (m.set number value)) :
    Nested.Matches (m.set number value) nested' :=
  ⟨heq, h.byName.set hbyName value, h.labels.set hlabels value, h.pick⟩

theorem Nested.Matches.putByName {m : Dynamic.Message} {nested : Nested}
    (h : Nested.Matches m nested) (name : String) (inner : Dynamic.Message) :
    Nested.Matches (m.putEntry 3 (.text name, .message inner))
      { nested with byName := nested.byName.insert name (Inner.ofMessage inner) } := by
  obtain ⟨hput, hkept⟩ := Message.entries_putEntry MapKey.toText
    (fun value => Inner.ofMessage value.toMessage) (fun _ => rfl) (fun _ _ => rfl) h.byName
    (.message inner) (k := .text name) rfl
  have hset (value : Dynamic.Value) : Nested.ofMessage (m.set 3 value) =
      { Nested.ofMessage m with
        byName := (m.set 3 value).entries 3 MapKey.toText fun value =>
          Inner.ofMessage value.toMessage } := by
    simp [Nested.ofMessage, Pick.ofMessage?, Message.get_set, Message.list_set, Message.map_set,
      Message.entries]
  refine ⟨?_, hkept, h.labels.set (by decide) _, h.pick⟩
  rw [h.eq]
  refine Eq.trans ?_ (hset _).symm
  exact congrArg (fun byName => { Nested.ofMessage m with byName }) hput.symm

theorem Nested.Matches.putLabel {m : Dynamic.Message} {nested : Nested}
    (h : Nested.Matches m nested) (number : Int32) (value : Dynamic.Value) :
    Nested.Matches (m.putEntry 4 (.scalar (.int32 number), value))
      { nested with labels := nested.labels.insert number value.toText } := by
  obtain ⟨hput, hkept⟩ := Message.entries_putEntry MapKey.toInt32 toText (fun _ => rfl)
    (fun _ _ => rfl) h.labels value (k := .scalar (.int32 number)) rfl
  have hset (value : Dynamic.Value) : Nested.ofMessage (m.set 4 value) =
      { Nested.ofMessage m with
        labels := (m.set 4 value).entries 4 MapKey.toInt32 toText } := by
    simp [Nested.ofMessage, Pick.ofMessage?, Message.get_set, Message.list_set, Message.map_set,
      Message.entries]
  refine ⟨?_, h.byName.set (by decide) _, hkept, h.pick⟩
  rw [h.eq]
  refine Eq.trans ?_ (hset _).symm
  exact congrArg (fun labels => { Nested.ofMessage m with labels }) hput.symm

/-- A member of the oneof takes the place of the other and of nothing else. -/
theorem Nested.Matches.select {m : Dynamic.Message} {nested : Nested}
    (h : Nested.Matches m nested) {number : Nat} (hnumber : number = 5 ∨ number = 6)
    (value : Dynamic.Value) :
    Nested.Matches (m.select "pick" number value)
      { nested with pick := Pick.ofMessage? (m.select "pick" number value) } := by
  have hkept (other : Nat) (h5 : other ≠ 5) (h6 : other ≠ 6) :
      other ≠ number ∧ m.whichOneof "pick" ≠ some other := by
    constructor
    · omega
    · rcases h.pick with hp | hp | hp <;> rw [hp] <;> simp [Ne.symm h5, Ne.symm h6]
  have hget (other : Nat) (h5 : other ≠ 5) (h6 : other ≠ 6) :
      (m.select "pick" number value).fields.get? other = m.fields.get? other :=
    Message.get?_select_of_ne m number other value (hkept other h5 h6).1 (hkept other h5 h6).2
  constructor
  · rw [h.eq]
    simp [Nested.ofMessage, Message.list, Message.entries, Message.map, hget]
  · exact h.byName.select (hkept 3 (by decide) (by decide)).1 (hkept 3 (by decide) (by decide)).2 _
  · exact h.labels.select (hkept 4 (by decide) (by decide)).1 (hkept 4 (by decide) (by decide)).2 _
  · rw [Message.whichOneof_select, if_pos rfl]
    rcases hnumber with rfl | rfl <;> simp

structure Meta.Matches (m : Dynamic.Message) (native : Meta) : Prop where
  eq : native = Meta.ofMessage m
  attrs : (m.submessage 3 "google.protobuf.Struct").KeysOf 1 .text

/-- A state of both decoders of `Legacy`: the message, and which required fields were seen. -/
def Legacy.Matches (s : Dynamic.Message × List Nat) (t : Legacy × PresenceBits) : Prop :=
  t.1 = Legacy.ofMessage s.1 ∧ t.2.Holds 1 s.2

/-- The extension range takes its numbers, and all others are unknown. -/
theorem Legacy.Matches.keep {plan : Plan} (hfits : Plan.Fits legacySchema plan)
    (hkeep : plan.preserveUnknown = true) {m : Dynamic.Message} {seen : List Nat} {t : Legacy}
    {bits : PresenceBits} (h : Legacy.Matches (m, seen) (t, bits)) (number : Nat) (raw : Bytes) :
    Legacy.Matches (keepUnclaimed plan number raw m, seen)
      (if 100 ≤ number ∧ number < 200 then
        ({ t with extensions := t.extensions.append number raw }, bits)
      else ({ t with unknown := t.unknown ++ raw }, bits)) := by
  obtain ⟨ht, hbits⟩ := h
  dsimp only at ht hbits
  subst ht
  have hext : plan.isExtension number = decide (100 ≤ number ∧ number < 200) := by
    simp [Plan.isExtension, hfits.extensionRanges, legacySchema, ExtensionRange.contains]
  rw [keepUnclaimed, hext, hkeep]
  by_cases hrange : 100 ≤ number ∧ number < 200
  · simp only [hrange, and_self, decide_true, if_true]
    exact ⟨rfl, hbits⟩
  · simp only [hrange, decide_false, Bool.false_eq_true, if_false, if_true]
    exact ⟨rfl, hbits⟩

theorem Legacy.agrees {nested : Dynamic.Nested} {plan : Plan} {budget : Nat}
    (hfits : Plan.Fits legacySchema plan) (hkeep : plan.preserveUnknown = true)
    (m : Dynamic.Message) :
    Agrees (fun m t => t = Legacy.ofMessage m) (mergeByPlan budget nested plan m)
      (Legacy.merge budget (Legacy.ofMessage m)) := by
  have hcount : plan.requiredCount = 2 := hfits.requiredCount
  refine Agrees.bind (R := Legacy.Matches)
    (Agrees.fields ?_ ?_ ⟨rfl, PresenceBits.holds_empty 1⟩) ?_
  · rintro ⟨number, wireType⟩ ⟨m, seen⟩ ⟨t, bits⟩ ⟨ht, hbits⟩
    dsimp only at ht hbits ⊢
    subst ht
    rcases hfits.rule?_cases number with ⟨field, hf, rfl, rule, hrule, happly⟩ | ⟨hn, hnone⟩
    · rw [hrule, Option.map_some]
      simp only [legacySchema, List.mem_cons, List.not_mem_nil, or_false] at hf
      rcases hf with rfl | rfl | rfl | rfl | rfl
      · refine .some ?_
        rw [apply_set_eq happly rfl rfl rfl]
        refine Agrees.expect ((agrees_scalar toInt32 rfl (fun _ => rfl) _).map ?_)
        rintro v _ rfl
        refine ⟨?_, hbits.mark (by decide)⟩
        simp [Legacy.ofMessage, Message.get_set, Message.list_set]
      · refine .some ?_
        rw [apply_set_eq happly rfl rfl rfl]
        refine Agrees.expect ((agrees_toText _).map ?_)
        rintro v _ rfl
        refine ⟨?_, hbits.mark (by decide)⟩
        simp [Legacy.ofMessage, Message.get_set, Message.list_set]
      · refine .some ?_
        rw [apply_set_eq happly rfl rfl rfl]
        refine Agrees.expect ((agrees_scalar toInt32 rfl (fun _ => rfl) _).map ?_)
        rintro v _ rfl
        refine ⟨?_, hbits⟩
        simp [Legacy.ofMessage, Message.get_set, Message.list_set]
      · refine .some ?_
        rw [apply_append_eq happly rfl rfl]
        refine Agrees.expect ((agrees_toText _).map ?_)
        rintro v _ rfl
        refine ⟨?_, hbits⟩
        simp [Legacy.ofMessage, Message.get_set, Message.list_set]
      · refine .some ?_
        rw [apply_set_eq happly rfl rfl rfl]
        refine Agrees.expect ((agrees_toBytes _).map ?_)
        rintro v _ rfl
        refine ⟨?_, hbits⟩
        simp [Legacy.ofMessage, Message.get_set, Message.list_set]
    · rw [hnone, Option.map_none]
      have hother : number ≠ 1 ∧ number ≠ 2 ∧ number ≠ 3 ∧ number ≠ 4 ∧ number ≠ 5 := by
        simpa [legacySchema] using hn
      split <;> first | exact .none | omega
  · rintro ⟨number, wireType⟩ ⟨m, seen⟩ ⟨t, bits⟩ raw h -
    exact h.keep hfits hkeep number raw
  · rintro ⟨m, seen⟩ ⟨t, bits⟩ ⟨ht, hbits⟩
    dsimp only at ht hbits ⊢
    -- One list of indices and one word of bits: both miss a field, or none does.
    have hmissing := hbits.firstMissing_eq_none_iff_all (by decide : 2 ≤ 64 * 1)
    rw [hcount, hfits.name]
    by_cases hall : (List.range 2).all (· ∈ seen) = true
    · rw [if_pos hall, hmissing.2 hall]
      exact Agrees.pure ht
    · rw [if_neg hall]
      split
      · rename_i hnone
        exact absurd (hmissing.1 hnone) hall
      · exact Agrees.throw _

section Set

variable {set : DecoderSet}

theorem Nested.agrees_labels (budget : Nat) :
    Agrees (EntryMatches (fun k number => k = .scalar (.int32 number))
        fun v label => label = v.toText)
      (Reader.nested budget fun budget => (set.nested budget).mergeEntry budget "labels"
        (.scalar .int32) .string (.scalar (.int32 0), .text ""))
      (Reader.nested budget fun budget => Nested.mergeLabel budget (0, "")) := by
  cases budget with
  | zero => exact Agrees.throw _
  | succ budget =>
    have hkey : Agrees (fun k number => k = .scalar (.int32 number))
        ((set.nested budget).valueOf "labels.key" (.scalar .int32)) Reader.int32 := by
      simpa [valueOf, Scalar.read] using
        agrees_map (fun number => Value.scalar (.int32 number)) Reader.int32
    refine Agrees.delimited (agrees_mergeEntry (fun _ => Reader.text "labels.value") rfl hkey
      (fun wireType v label hv => ?_) (fun _ _ => rfl) (fun _ _ => rfl) ?_ ⟨rfl, rfl⟩)
    · rw [mergeSide_plain rfl]
      exact (agrees_toText _).expect
    · intro key e h1 h2
      dsimp only
      split
      · contradiction
      · contradiction
      · rfl

/-- A tree agrees if its branches do. -/
theorem Node.agrees {plan : Plan} {budget : Nat} (hfits : Plan.Fits nodeSchema plan)
    (hkeep : plan.preserveUnknown = true)
    (hbranch : ∀ m, Agrees (fun m t => t = Node.ofMessage m)
      ((set.nested budget).message "conformance.Node" m) (Node.branch budget (Node.ofMessage m)))
    (m : Dynamic.Message) :
    Agrees (fun m t => t = Node.ofMessage m) (mergeByPlan budget (set.nested budget) plan m)
      (Node.mergeWith budget (Node.branch budget) (Node.ofMessage m)) := by
  have hname : trimDots "conformance.Node" = "conformance.Node" := by decide
  have hside (m : Dynamic.Message) (number : Nat) :
      Agrees (fun m t => t = Node.ofMessage m)
        ((set.nested budget).message "conformance.Node" (m.submessage number "conformance.Node"))
        (Node.branch budget (((m.fields.get? number).map fun value =>
          Node.ofMessage value.toMessage).getD {})) := by
    rw [Message.view_submessage Node.ofMessage_ofName m number "conformance.Node"]
    exact hbranch _
  refine agrees_mergeByPlan hfits rfl ?_ ?_ ?_ rfl
  · rw [nodeSchema, implicit]
    simp only [List.forall_mem_cons]
    refine ⟨?_, ?_, ?_, List.forall_mem_nil _⟩
    · refine agreesOn_view rfl rfl rfl (agrees_scalar toInt32 rfl (fun _ => rfl) _)
        (fun _ _ => rfl) fun m v => ?_
      rw [Node.ofMessage_eq, Node.ofMessage_eq]
      simp [Message.get_set, Field.singular]
    · refine agreesOn_merge (S := fun m t => t = Node.ofMessage m) rfl rfl rfl hname
        (fun m t ht => ?_) (fun _ _ => rfl) ?_
      · rw [ht, Node.ofMessage_eq]
        exact hside m 2
      · rintro m _ inner _ rfl rfl
        rw [Node.ofMessage_eq m, Node.ofMessage_eq (m.set _ _)]
        simp [Message.get_set, Field.singular]
    · refine agreesOn_merge (S := fun m t => t = Node.ofMessage m) rfl rfl rfl hname
        (fun m t ht => ?_) (fun _ _ => rfl) ?_
      · rw [ht, Node.ofMessage_eq]
        exact hside m 3
      · rintro m _ inner _ rfl rfl
        rw [Node.ofMessage_eq m, Node.ofMessage_eq (m.set _ _)]
        simp [Message.get_set, Field.singular]
  · intro key t hn
    split <;> simp_all [nodeSchema, implicit, Field.singular]
  · rintro number m t raw rfl
    rw [keepUnclaimed_eq hfits rfl hkeep, Node.ofMessage_eq, Node.ofMessage_eq]
    rfl

variable (hset : DecoderSet.ofSchema options schema = .ok set)

include hset

theorem Inner.mergesAs : set.MergesAs "conformance.Inner" Inner.ofMessage Inner.merge :=
  mergesAs_of_agrees hset (rfl : schema.declaration? "conformance.Inner" = some _)
    fun _ hfits hkeep _ m => Inner.agrees hfits hkeep m

theorem time_mergesAs :
    set.MergesAs "google.protobuf.Timestamp" WellKnown.Time.ofMessage WellKnown.Time.merge :=
  mergesAs_of_agrees hset (rfl : schema.declaration? "google.protobuf.Timestamp" = some _)
    fun _ hfits _ _ m => WellKnown.Time.agrees hfits m

theorem int32_mergesAs :
    set.MergesAs "google.protobuf.Int32Value" (WellKnown.Wrapper.ofMessage toInt32 0)
      WellKnown.Wrapper.int32 :=
  mergesAs_of_agrees hset (rfl : schema.declaration? "google.protobuf.Int32Value" = some _)
    fun _ hfits _ _ m =>
      WellKnown.Wrapper.agrees hfits rfl rfl (agrees_scalar _ rfl (fun _ => rfl) _) m

theorem empty_mergesAs :
    set.MergesAs "google.protobuf.Empty" WellKnown.Empty.ofMessage WellKnown.Empty.merge :=
  mergesAs_of_agrees hset (rfl : schema.declaration? "google.protobuf.Empty" = some _)
    fun _ hfits _ _ m => WellKnown.Empty.agrees hfits m

theorem Nested.agrees_byName (budget : Nat) :
    Agrees (EntryMatches (fun k name => k = .text name) (Holds fun m t => t = Inner.ofMessage m))
      (Reader.nested budget fun budget => (set.nested budget).mergeEntry budget "by_name" .string
        innerKind (.text "", .message (Message.ofName "conformance.Inner")))
      (Reader.nested budget fun budget => Nested.mergeByName budget ("", {})) := by
  cases budget with
  | zero => exact Agrees.throw _
  | succ budget =>
    have hvalue (wireType : WireType) (v : Dynamic.Value) (inner : Inner)
        (hv : Holds (fun m t => t = Inner.ofMessage m) v inner) :
        Agrees (Holds fun m t => t = Inner.ofMessage m)
          ((set.nested budget).mergeSide ⟨2, wireType⟩ "by_name.value" innerKind v)
          (expect ⟨2, wireType⟩ .lengthDelimited "by_name.value"
            (Reader.nested budget fun budget => Inner.merge budget inner)) := by
      obtain ⟨m, rfl, rfl⟩ := hv
      exact agrees_mergeSide (by decide) ((Inner.mergesAs hset).submessage budget m) _ _
    refine Agrees.delimited (agrees_mergeEntry
      (fun inner => Reader.nested budget fun budget => Inner.merge budget inner) rfl
      (agrees_text "by_name.key") hvalue (fun _ _ => rfl) (fun _ _ => rfl) ?_ ?_)
    · intro key e h1 h2
      dsimp only
      split
      · contradiction
      · contradiction
      · rfl
    · exact ⟨rfl, Message.ofName "conformance.Inner", rfl, rfl⟩

theorem Nested.agrees {plan : Plan} {budget : Nat} (hfits : Plan.Fits nestedSchema plan)
    (hkeep : plan.preserveUnknown = true) {m : Dynamic.Message} {nested : Nested}
    (h : Nested.Matches m nested) :
    Agrees Nested.Matches (mergeByPlan budget (set.nested budget) plan m)
      (Nested.merge budget nested) := by
  refine agrees_mergeByPlan hfits rfl ?_ ?_ ?_ h
  · rw [nestedSchema, implicit]
    simp only [List.forall_mem_cons]
    refine ⟨?_, ?_, ?_, ?_, ?_, ?_, ?_, ?_, ?_, List.forall_mem_nil _⟩
    · refine (Inner.mergesAs hset).agreesOn (fun _ => rfl) rfl rfl rfl (by decide)
        (fun _ _ => rfl) (fun m t ht => by rw [ht.eq]; rfl) (fun m t inner ht => ?_)
      refine ht.set (by decide) (by decide) ?_
      rw [ht.eq]
      simp [Nested.ofMessage, Pick.ofMessage?, Field.singular, Message.get_set, Message.list_set,
        Message.map_set, Message.entries]
    · refine agreesOn_append rfl rfl (agrees_message (by decide)
        ((Inner.mergesAs hset).submessage budget (Message.ofName "conformance.Inner")) _)
        (fun _ _ => rfl) ?_
      rintro m t _ _ ht ⟨inner, rfl, rfl⟩
      refine ht.set (by decide) (by decide) ?_
      rw [ht.eq]
      simp [Nested.ofMessage, Pick.ofMessage?, toMessage, Message.get_set, Message.list_set,
        Message.map_set, Message.entries]
    · refine agreesOn_map rfl (Nested.agrees_byName hset budget) (fun _ _ => rfl) ?_
      rintro m t ⟨k, v⟩ ⟨name, inner⟩ ht ⟨hk, m', hv, hinner⟩
      dsimp only at hk hv hinner
      subst hk hv hinner
      exact ht.putByName name m'
    · refine agreesOn_map rfl (Nested.agrees_labels budget) (fun _ _ => rfl) ?_
      rintro m t ⟨k, v⟩ ⟨number, label⟩ ht ⟨hk, hlabel⟩
      dsimp only at hk hlabel
      subst hk hlabel
      exact ht.putLabel number v
    · refine agreesOn_select rfl (agrees_message (by decide)
        ((Inner.mergesAs hset).submessage budget (Message.ofName "conformance.Inner")) _)
        (fun _ _ => rfl) ?_
      rintro m t _ _ ht ⟨inner, rfl, rfl⟩
      have hselect := ht.select (.inl rfl) (.message inner)
      simpa [Pick.ofMessage?, Message.whichOneof_select, Message.get, Message.get?_select,
        toMessage] using hselect
    · refine agreesOn_select rfl (agrees_toText _) (fun _ _ => rfl) ?_
      rintro m t v _ ht rfl
      have hselect := ht.select (.inr rfl) v
      simpa [Pick.ofMessage?, Message.whichOneof_select, Message.get,
        Message.get?_select] using hselect
    · refine (time_mergesAs hset).agreesOn (fun _ => rfl) rfl rfl rfl (by decide)
        (fun _ _ => rfl) (fun m t ht => by rw [ht.eq]; rfl) (fun m t inner ht => ?_)
      refine ht.set (by decide) (by decide) ?_
      rw [ht.eq]
      simp [Nested.ofMessage, Pick.ofMessage?, Field.singular, Message.get_set, Message.list_set,
        Message.map_set, Message.entries]
    · refine (int32_mergesAs hset).agreesOn (fun _ => rfl) rfl rfl rfl (by decide)
        (fun _ _ => rfl) (fun m t ht => by rw [ht.eq]; rfl) (fun m t inner ht => ?_)
      refine ht.set (by decide) (by decide) ?_
      rw [ht.eq]
      simp [Nested.ofMessage, Pick.ofMessage?, Field.singular, Message.get_set, Message.list_set,
        Message.map_set, Message.entries]
    · refine (empty_mergesAs hset).agreesOn (fun _ => rfl) rfl rfl rfl (by decide)
        (fun _ _ => rfl) (fun m t ht => by rw [ht.eq]; rfl) (fun m t inner ht => ?_)
      refine ht.set (by decide) (by decide) ?_
      rw [ht.eq]
      simp [Nested.ofMessage, Pick.ofMessage?, Field.singular, Message.get_set, Message.list_set,
        Message.map_set, Message.entries]
  · intro key t hn
    split <;> simp_all [nestedSchema, implicit, Field.singular, Field.map]
  · intro number m t raw ht
    rw [keepUnclaimed_eq hfits rfl hkeep, ht.eq]
    exact ⟨rfl, ht.byName, ht.labels, ht.pick⟩

theorem Node.agrees_branch (budget : Nat) (m : Dynamic.Message) :
    Agrees (fun m t => t = Node.ofMessage m) ((set.nested budget).message "conformance.Node" m)
      (Node.branch budget (Node.ofMessage m)) := by
  obtain ⟨plan, hplan, hfits, hkeep⟩ := planFor?_of_declaration hset
    (rfl : schema.declaration? "conformance.Node" = some _)
  -- A tree holds trees, and the budget is what bounds how deep they go.
  induction budget generalizing m with
  | zero => exact Agrees.throw _
  | succ budget ih =>
    refine Agrees.delimited ?_
    rw [mergeWith_eq hplan]
    exact Node.agrees hfits hkeep ih m

theorem any_mergesAs :
    set.MergesAs "google.protobuf.Any" WellKnown.Any.ofMessage WellKnown.Any.merge :=
  mergesAs_of_agrees hset (rfl : schema.declaration? "google.protobuf.Any" = some _)
    fun _ hfits _ _ m => WellKnown.Any.agrees hfits m

theorem mask_mergesAs :
    set.MergesAs "google.protobuf.FieldMask" WellKnown.FieldMask.ofMessage
      WellKnown.FieldMask.merge :=
  mergesAs_of_agrees hset (rfl : schema.declaration? "google.protobuf.FieldMask" = some _)
    fun _ hfits _ _ m => WellKnown.FieldMask.agrees hfits m

theorem source_mergesAs :
    set.MergesAs "google.protobuf.SourceContext" WellKnown.RawMessage.ofMessage
      WellKnown.RawMessage.merge := by
  intro budget m
  rw [mergeWith_eq (planFor?_of_undeclared hset rfl rfl)]
  exact WellKnown.RawMessage.agrees _ m

theorem agrees_struct (budget : Nat) {m : Dynamic.Message} {struct : WellKnown.Struct}
    (h : WellKnown.Struct.Matches m struct) :
    Agrees WellKnown.Struct.Matches ((set.nested budget).message "google.protobuf.Struct" m)
      (Reader.nested budget fun budget => WellKnown.Struct.merge budget struct) := by
  obtain ⟨plan, hplan, hfits, -⟩ := planFor?_of_declaration hset
    (rfl : schema.declaration? "google.protobuf.Struct" = some _)
  cases budget with
  | zero => exact Agrees.throw _
  | succ budget =>
    refine Agrees.delimited ?_
    rw [mergeWith_eq hplan]
    exact WellKnown.Struct.agrees (WellKnown.Nested.agrees hset budget) hfits h

theorem Meta.agrees {plan : Plan} {budget : Nat} (hfits : Plan.Fits metadataSchema plan)
    (hkeep : plan.preserveUnknown = true) {m : Dynamic.Message} {native : Meta}
    (h : Meta.Matches m native) :
    Agrees Meta.Matches (mergeByPlan budget (set.nested budget) plan m)
      (Meta.merge budget native) := by
  refine agrees_mergeByPlan hfits rfl ?_ ?_ ?_ h
  · rw [metadataSchema, implicit]
    simp only [List.forall_mem_cons]
    refine ⟨?_, ?_, ?_, ?_, List.forall_mem_nil _⟩
    · refine (any_mergesAs hset).agreesOn (fun _ => rfl) rfl rfl rfl (by decide)
        (fun _ _ => rfl) (fun m t ht => by rw [ht.eq]; rfl) (fun m t inner ht => ?_)
      refine ⟨?_, by simpa [Message.submessage, Field.singular] using ht.attrs⟩
      rw [ht.eq]
      simp [Meta.ofMessage, Field.singular]
    · refine (mask_mergesAs hset).agreesOn (fun _ => rfl) rfl rfl rfl (by decide)
        (fun _ _ => rfl) (fun m t ht => by rw [ht.eq]; rfl) (fun m t inner ht => ?_)
      refine ⟨?_, by simpa [Message.submessage, Field.singular] using ht.attrs⟩
      rw [ht.eq]
      simp [Meta.ofMessage, Field.singular]
    · refine agreesOn_merge (S := WellKnown.Struct.Matches) rfl rfl rfl
        (by decide : trimDots ".google.protobuf.Struct" = "google.protobuf.Struct") ?_
        (fun _ _ => rfl) ?_
      · intro m t ht
        refine agrees_struct hset budget ⟨?_, ht.attrs⟩
        rw [ht.eq]
        exact Message.view_submessage (fun _ => rfl) m 3 "google.protobuf.Struct"
      · rintro m t inner _ ht ⟨rfl, hkeys⟩
        refine ⟨?_, by simpa [Message.submessage, Field.singular] using hkeys⟩
        rw [ht.eq]
        simp [Meta.ofMessage, Field.singular]
    · refine (source_mergesAs hset).agreesOn (fun _ => rfl) rfl rfl rfl (by decide)
        (fun _ _ => rfl) (fun m t ht => by rw [ht.eq]; rfl) (fun m t inner ht => ?_)
      refine ⟨?_, by simpa [Message.submessage, Field.singular] using ht.attrs⟩
      rw [ht.eq]
      simp [Meta.ofMessage, Field.singular]
  · intro key t hn
    split <;> simp_all [metadataSchema, implicit, Field.singular]
  · intro number m t raw ht
    rw [keepUnclaimed_eq hfits rfl hkeep, ht.eq]
    exact ⟨rfl, ht.attrs⟩

end Set

theorem exists_set : ∃ set, DecoderSet.ofSchema options schema = .ok set := by
  have hplans : (schema.plans options).toOption.isSome = true := by
    rw [Schema.plans_eq rfl]
    decide +kernel
  exact DecoderSet.exists_ofSchema hplans

end ProtoPlan.Conformance
