import ProtoPlan.Proofs.Dynamic.Accounting
import ProtoPlan.Proofs.Dynamic.Agreement
import ProtoPlan.Proofs.Dynamic.Holding
import ProtoPlan.Proofs.WellKnown.Native

/-!
Decoding part of a buffer. A buffer that ends inside a record is truncated and nothing else; one
that ends with a record lacks at most required fields, and lacks those whose records are all past
the end.
-/

namespace ProtoPlan

open Wire Schema

/-- A record sets the bit that its number has among those of the required fields. -/
theorem Plan.Fits.bits_iff {message : Message} {plan : Plan} (h : Plan.Fits message plan)
    {number bit : Nat} :
    (∃ rule, plan.rule? number = some rule ∧ bit ∈ rule.bits) ↔
      message.requiredBit? number = some bit := by
  constructor
  · rintro ⟨rule, hrule, hbit⟩
    obtain ⟨field, -, -, hfits⟩ := h.of_rule? hrule
    cases hfits with
    | field hfits => simpa [Rule.bits, hfits.requiredBit] using hbit
    | map => cases hbit
  · intro hbit
    have hmem : number ∈ message.requiredNumbers :=
      List.isSome_idxOf?.1 (Option.isSome_iff_exists.2 ⟨bit, hbit⟩)
    obtain ⟨field, hfield, rfl⟩ := List.mem_map.1 hmem
    obtain ⟨hf, hrequired⟩ := List.mem_filter.1 hfield
    obtain ⟨rule, hrule, hfits⟩ := h.rule field hf
    refine ⟨rule, hrule, ?_⟩
    cases hfits with
    | field hfits => simp [Rule.bits, hfits.requiredBit, hbit]
    | map hc => simp [Field.isRequired, hc] at hrequired

namespace Dynamic

open Reader

theorem Nested.ensures_apply_bits (nested : Nested) (rule : Rule) (key : Key) (m : Message)
    (seen : List Nat) :
    Ensures (nested.apply rule key m seen) fun result => result.2 = rule.bits ++ seen := by
  cases rule with
  | field rule => exact Ensures.map fun _ => rfl
  | map rule => exact Ensures.map fun _ => rfl

/-- What the plan of a set claims it claims by the frame of the value. -/
theorem claimsByFrame_ofSchema {options : Options} {schema : Schema} {set : DecoderSet}
    (hset : DecoderSet.ofSchema options schema = .ok set) {name : String} {plan : Plan}
    (hplan : set.planFor? name = some plan) (budget : Nat) :
    ClaimsByFrame fun key ((m, seen) : Message × List Nat) =>
      (plan.rule? key.number).map fun rule => (set.nested budget).apply rule key m seen := by
  rintro key ⟨m, seen⟩ body hc
  obtain ⟨rule, hrule, rfl⟩ := Option.map_eq_some_iff.1 hc
  obtain ⟨message, hfits, -⟩ := DecoderSet.exists_fits hset hplan
  obtain ⟨field, -, -, happly⟩ := hfits.of_rule? hrule
  exact byFrame_kept.apply (byFrame_kept.keeps_nested set budget) happly key m seen

section Run

variable {budget : Nat} {nested : Nested} {plan : Plan}

/-- The bits that are set after a run over records are those of their numbers. -/
theorem seen_of_steps (hplan : FramedPlan nested plan) {records : List Record}
    (hrecords : ∀ r ∈ records, Takes (record budget) r.raw r) {m m' : Message}
    {seen seen' : List Nat}
    (h : Steps (mergeRecord budget nested plan) (m, seen) (records.map (·.raw)) (m', seen'))
    {bit : Nat} :
    bit ∈ seen' ↔
      bit ∈ seen ∨ ∃ r ∈ records, ∃ rule, plan.rule? r.number = some rule ∧ bit ∈ rule.bits := by
  induction records generalizing m seen with
  | nil =>
    cases h
    simp
  | cons r records ih =>
    cases h with
    | @more _ next _ _ _ hne ht hmore =>
      obtain ⟨mid, seenMid⟩ := next
      have hr := hrecords r List.mem_cons_self
      have hmid : bit ∈ seenMid ↔
          bit ∈ seen ∨ ∃ rule, plan.rule? r.number = some rule ∧ bit ∈ rule.bits := by
        obtain ⟨r', -, hr', hcase⟩ := record_of_field
          (fun hc => (isLocal_claimed hplan hc).isLocal)
          (fun hc => (isLocal_claimed hplan hc).follows_skipValue budget) ht
        obtain rfl := hr.unique hr'
        rcases hcase with ⟨body, value, hc, hbody⟩ | ⟨hc, hnext⟩
        · obtain ⟨rule, hrule, rfl⟩ := Option.map_eq_some_iff.1 hc
          have hseen : seenMid = rule.bits ++ seen :=
            nested.ensures_apply_bits rule r.key m seen (hbody [])
          have hnumber : plan.rule? r.number = some rule := hrule
          simp [hseen, hnumber, or_comm]
        · have hnumber : plan.rule? r.number = none := Option.map_eq_none_iff.1 hc
          have hseen : seenMid = seen := congrArg (·.2) hnext
          simp [hseen, hnumber]
      rw [ih (fun r' hr' => hrecords r' (List.mem_cons_of_mem r hr')) hmore, hmid, or_assoc,
        List.exists_mem_cons_iff]

/-- All bits are set once each required field had a record. -/
theorem complete_iff {message : ProtoPlan.Message} (hfits : Plan.Fits message plan)
    (hplan : FramedPlan nested plan) {records : List Record}
    (hrecords : ∀ r ∈ records, Takes (record budget) r.raw r) {m m' : Message} {seen : List Nat}
    (h : Steps (mergeRecord budget nested plan) (m, []) (records.map (·.raw)) (m', seen)) :
    (∀ bit < plan.requiredCount, bit ∈ seen) ↔
      ∀ field ∈ message.fields, field.isRequired = true →
        ∃ r ∈ records, r.number = field.number := by
  have hseen (bit : Nat) :
      bit ∈ seen ↔ ∃ r ∈ records, message.requiredBit? r.number = some bit := by
    rw [seen_of_steps hplan hrecords h]
    simp [hfits.bits_iff]
  rw [hfits.requiredCount]
  constructor
  · intro hall field hf hrequired
    have hmem : field.number ∈ message.requiredNumbers :=
      List.mem_map_of_mem (List.mem_filter.2 ⟨hf, hrequired⟩)
    obtain ⟨bit, hbit⟩ := Option.isSome_iff_exists.1 (List.isSome_idxOf?.2 hmem)
    obtain ⟨hlt, hget, -⟩ := List.idxOf?_eq_some_iff.1 hbit
    obtain ⟨r, hr, hrbit⟩ := (hseen bit).1 (hall bit hlt)
    obtain ⟨hlt', hget', -⟩ := List.idxOf?_eq_some_iff.1 hrbit
    exact ⟨r, hr, hget'.symm.trans hget⟩
  · intro hall bit hlt
    obtain ⟨field, hf, hrequired, hbit⟩ := Message.exists_required hfits.numbers hlt
    obtain ⟨r, hr, hnumber⟩ := hall field hf hrequired
    exact (hseen bit).2 ⟨r, hr, by rw [hnumber, hbit]⟩

/-- Required fields are counted by record, so that what is complete by one plan is complete by
another that requires no other fields. -/
theorem complete_of_complete {message message' : ProtoPlan.Message}
    (hfits : Plan.Fits message plan) (hplan : FramedPlan nested plan) {budget' : Nat}
    {nested' : Nested} {plan' : Plan} (hfits' : Plan.Fits message' plan')
    (hplan' : FramedPlan nested' plan')
    (hfields : ∀ field ∈ message'.fields, field ∈ message.fields)
    {m m' last last' : Message} {seen seen' : List Nat} {bytes rest rest' : Bytes}
    (h : drain (mergeRecord budget nested plan) (m, []) bytes = .ok (last, seen) rest)
    (h' : drain (mergeRecord budget' nested' plan') (m', []) bytes = .ok (last', seen') rest')
    (hcomplete : ∀ bit < plan.requiredCount, bit ∈ seen) :
    ∀ bit < plan'.requiredCount, bit ∈ seen' := by
  obtain ⟨-, pieces, rfl, hsteps⟩ :=
    steps_of_fields (fun hc => (isLocal_claimed hplan hc).isLocal) h
  obtain ⟨-, pieces', hsame, hsteps'⟩ :=
    steps_of_fields (fun hc => (isLocal_claimed hplan' hc).isLocal) h'
  obtain ⟨records, rfl, hrecords⟩ := records_of_steps hplan hsteps
  obtain ⟨records', rfl, hrecords'⟩ := records_of_steps hplan' hsteps'
  rw [← List.flatMap_def, ← List.flatMap_def] at hsame
  obtain rfl := (cuts_iff.2 ⟨rfl, budget, hrecords⟩).unique
    (cuts_iff.2 ⟨hsame.symm, budget', hrecords'⟩)
  have hall := (complete_iff hfits hplan hrecords hsteps).1 hcomplete
  apply (complete_iff hfits' hplan' hrecords' hsteps').2
  exact fun field hf => hall field (hfields field hf)

/-- The end of a merge: all required fields must have been seen. -/
def requireSeen (plan : Plan) (state : Message × List Nat) : Reader Message :=
  if (List.range plan.requiredCount).all (· ∈ state.2) then pure state.1
  else throw (.requiredFieldMissing plan.message)

theorem mergeByPlan_eq (m : Message) :
    mergeByPlan budget nested plan m =
      drain (mergeRecord budget nested plan) (m, []) >>= requireSeen plan := rfl

theorem mergeByPlan_of_error {m : Message} {bytes left : Bytes} {fault : Fault}
    (h : drain (mergeRecord budget nested plan) (m, []) bytes = .error fault left) :
    (mergeByPlan budget nested plan m).run bytes = .error fault := by
  rw [mergeByPlan_eq]
  simp only [run, bind, EStateM.bind, h]

/-- After a run over all of a buffer only required fields can be missing. -/
theorem mergeByPlan_of_steps {records : List Record} {m m' : Message} {seen : List Nat}
    (h : Steps (mergeRecord budget nested plan) (m, []) (records.map (·.raw)) (m', seen)) :
    mergeByPlan budget nested plan m (records.flatMap (·.raw)) =
      requireSeen plan (m', seen) [] := by
  have hdrain := h.drain
  rw [← List.flatMap_def] at hdrain
  rw [mergeByPlan_eq]
  simp only [bind, EStateM.bind, hdrain]

/-- A buffer that a message was merged from, as far as the first `k` bytes go. -/
theorem mergeByPlan_take {message : ProtoPlan.Message} (hfits : Plan.Fits message plan)
    (hclaims : ClaimsByFrame fun key ((m, seen) : Message × List Nat) =>
      (plan.rule? key.number).map fun rule => nested.apply rule key m seen)
    (hplan : FramedPlan nested plan) {records : List Record}
    (hrecords : ∀ r ∈ records, Takes (record budget) r.raw r) {m : Message}
    {last : Message × List Nat}
    (h : Steps (mergeRecord budget nested plan) (m, []) (records.map (·.raw)) last) {k : Nat}
    (hk : k ≤ (records.flatMap (·.raw)).length) :
    (¬EndsRecord records k → (mergeByPlan budget nested plan m).run
      ((records.flatMap (·.raw)).take k) = .error .truncated) ∧
    ∀ before, before <+: records → (before.flatMap (·.raw)).length = k →
      ((∃ field ∈ message.fields, field.isRequired = true ∧
          ∀ r ∈ before, r.number ≠ field.number) →
        (mergeByPlan budget nested plan m).run ((records.flatMap (·.raw)).take k) =
          .error (.requiredFieldMissing plan.message)) ∧
      ((∀ field ∈ message.fields, field.isRequired = true →
          ∃ r ∈ before, r.number = field.number) →
        ∃ mid, (mergeByPlan budget nested plan m).run ((records.flatMap (·.raw)).take k) =
          .ok mid) := by
  constructor
  · intro hinside
    obtain ⟨left, hleft⟩ := fields_truncated hclaims h hk hinside
    exact mergeByPlan_of_error hleft
  · rintro before hbefore rfl
    obtain ⟨⟨mid, seen⟩, hsteps, -⟩ := h.initial hbefore
    have hmid (r : Record) (hr : r ∈ before) : Takes (record budget) r.raw r :=
      hrecords r (hbefore.subset hr)
    have hcheck : (List.range plan.requiredCount).all (· ∈ seen) = true ↔
        ∀ field ∈ message.fields, field.isRequired = true →
          ∃ r ∈ before, r.number = field.number := by
      rw [← complete_iff hfits hplan hmid hsteps]
      simp [List.all_eq_true]
    rw [take_initial hbefore, run, mergeByPlan_of_steps hsteps, requireSeen]
    constructor
    · rintro ⟨field, hf, hrequired, hnone⟩
      rw [if_neg]
      · rfl
      · intro hall
        obtain ⟨r, hr, hnumber⟩ := hcheck.1 hall field hf hrequired
        exact hnone r hr hnumber
    · intro hall
      exact ⟨mid, by rw [if_pos (hcheck.2 hall)]; rfl⟩

end Run

/-- A buffer that is cut off is never taken for a whole one: inside a record it is truncated, and
after a record it lacks required fields or stands for a message of its own. -/
theorem decode_take {options : Options} {schema : Schema} {set : DecoderSet}
    (hset : DecoderSet.ofSchema options schema = .ok set) :
    (∀ name bytes m, set.decode name bytes = .ok m →
      ∃ records, (Reader.records Cursor.defaultBudget).run bytes = .ok records ∧
        records.flatMap (·.raw) = bytes ∧ ∀ k ≤ bytes.length,
        (¬EndsRecord records k → set.decode name (bytes.take k) = .error .truncated) ∧
        ∀ before, before <+: records → (before.flatMap (·.raw)).length = k →
          ((∃ m', set.decode name (bytes.take k) = .ok m') ∨
            set.decode name (bytes.take k) = .error (.requiredFieldMissing name)) ∧
          (set.decode name (bytes.take k) = .error (.requiredFieldMissing name) ↔
            ∃ field ∈ schema.fieldsOf name, field.isRequired = true ∧
              ∀ r ∈ before, r.number ≠ field.number)) ∧
    ∀ (α : Type) (type : MessageType α), WellKnown.IsNative type → ∀ bytes t,
      type.decode bytes = .ok t →
      ∃ records, (Reader.records Cursor.defaultBudget).run bytes = .ok records ∧
        ∀ k ≤ bytes.length,
        (EndsRecord records k → ∃ t', type.decode (bytes.take k) = .ok t') ∧
        (¬EndsRecord records k → type.decode (bytes.take k) = .error .truncated) := by
  constructor
  · intro name bytes m h
    obtain ⟨plan, rest, hplan, hmerge⟩ := DecoderSet.decode_eq_ok_iff.1 h
    obtain ⟨message, hfits, hname, hfields⟩ := DecoderSet.exists_fits hset hplan
    have hframed : FramedPlan (set.nested Cursor.defaultBudget) plan :=
      framedPlan_ofSchema hset hplan (set.framed_nested Cursor.defaultBudget)
    obtain ⟨records, seen, hrecords, rfl, hsteps⟩ := records_of_mergeByPlan hframed hmerge
    refine ⟨records, run_eq_ok_iff.2 ⟨[], records_flatMap hrecords⟩, rfl, fun k hk => ?_⟩
    have hdecode (part : Bytes) : set.decode name part =
        (mergeByPlan Cursor.defaultBudget (set.nested Cursor.defaultBudget) plan
          (Message.ofName name)).run part := by
      rw [← DecoderSet.mergeWith_eq hplan]
      rfl
    have hclaims := claimsByFrame_ofSchema hset hplan Cursor.defaultBudget
    obtain ⟨hinside, hends⟩ := mergeByPlan_take hfits hclaims hframed hrecords hsteps hk
    rw [hdecode, ← hfields]
    refine ⟨hinside, fun before hbefore hlength => ?_⟩
    obtain ⟨hmissing, hcomplete⟩ := hends before hbefore hlength
    rw [hfits.name, hname] at hmissing
    by_cases hnone : ∃ field ∈ message.fields, field.isRequired = true ∧
        ∀ r ∈ before, r.number ≠ field.number
    · exact ⟨.inr (hmissing hnone), iff_of_true (hmissing hnone) hnone⟩
    · have hall : ∀ field ∈ message.fields, field.isRequired = true →
          ∃ r ∈ before, r.number = field.number := by
        intro field hf hrequired
        by_contra habsent
        exact hnone ⟨field, hf, hrequired, fun r hr hnumber => habsent ⟨r, hr, hnumber⟩⟩
      obtain ⟨mid, hmid⟩ := hcomplete hall
      rw [hmid]
      exact ⟨.inl ⟨mid, rfl⟩, iff_of_false (by simp) hnone⟩
  · intro α type hnative bytes t h
    exact hnative.byFields.run_take h

/-- A text before the required number: after the text alone the number is missing. -/
theorem decode_take_required_field :
    let schema : Schema :=
      { messages := [{ name := "M", fields := [⟨"f", 1, .scalar .int32, .required⟩,
                                               .singular "s" 2 .string] }] }
    ∃ set m, DecoderSet.ofSchema {} schema = .ok set ∧
      set.decode "M" [0x12, 1, 0x61, 8, 5] = .ok m ∧
      set.decode "M" [0x12, 1] = .error .truncated ∧
      set.decode "M" [0x12, 1, 0x61] = .error (.requiredFieldMissing "M") := by
  intro schema
  have hrun : ((DecoderSet.ofSchema {} schema).toOption.bind fun set =>
      (set.decode "M" [0x12, 1, 0x61, 8, 5]).toOption).isSome = true := by
    rw [DecoderSet.ofSchema_eq, Schema.plans_eq rfl]
    decide +kernel
  have hscan : ((Reader.records Cursor.defaultBudget).run [0x12, 1, 0x61, 8, 5]).toOption =
      some [⟨⟨2, .lengthDelimited⟩, [0x12, 1, 0x61]⟩, ⟨⟨1, .varint⟩, [8, 5]⟩] := by decide +kernel
  obtain ⟨set, m, hset, hm⟩ := exists_ok_ok_of_isSome hrun
  obtain ⟨records, hrecords, -, htake⟩ := (decode_take hset).1 _ _ _ hm
  rw [hrecords] at hscan
  cases hscan
  refine ⟨set, m, hset, hm, ?_, ?_⟩
  · apply (htake 2 (by decide)).1
    rintro ⟨before, hbefore, hlength⟩
    simp only [List.prefix_cons_iff, List.prefix_nil] at hbefore
    rcases hbefore with rfl | ⟨_, rfl, rfl | ⟨_, rfl, rfl⟩⟩ <;> simp at hlength
  · have hfirst := (htake 3 (by decide)).2 [⟨⟨2, .lengthDelimited⟩, [0x12, 1, 0x61]⟩]
      (by simp) rfl
    refine hfirst.2.2 ⟨⟨"f", 1, .scalar .int32, .required⟩, ?_, rfl, by simp [Record.number]⟩
    exact List.mem_cons_self

end Dynamic

end ProtoPlan
