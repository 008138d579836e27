import ProtoPlan.Proofs.Dynamic.Nesting

/-!
What is embedded in an accepted buffer. A record of a message field, or of a map field, has a
payload, and what reads the payload accepts it on its own. So what holds of the records of all that
is accepted holds of a buffer at every depth.
-/

namespace ProtoPlan.Dynamic

open Wire Schema Reader

/-- The property holds of the records of the bytes as those of a message with these fields, and of
all that is embedded in them. -/
inductive Throughout (schema : Schema) (P : List Field → List Record → Prop) :
    List Field → Bytes → Prop where
  | intro {fields : List Field} {bytes : Bytes} {records : List Record} :
      Cuts bytes records → P fields records →
      (∀ r ∈ records, ∀ field ∈ fields, field.number = r.number →
        ∀ inner, schema.inside? field = some inner → r.payload?.isSome = true) →
      (∀ r ∈ records, ∀ field ∈ fields, field.number = r.number →
        ∀ inner, schema.inside? field = some inner → ∀ payload, r.payload? = some payload →
          Throughout schema P inner payload) →
      Throughout schema P fields bytes

section Payload

variable {r : Record}

theorem payload?_of_span {payload : Bytes} (hkey : r.key.wireType = .lengthDelimited)
    (h : Reader.span r.value = .ok payload []) : r.payload? = some payload := by
  rw [Record.payload?, if_pos hkey, h]

/-- What is read in a span is read of the payload. -/
theorem payload?_of_delimited {body : Reader α} {a : α}
    (hkey : r.key.wireType = .lengthDelimited) (h : delimited body r.value = .ok a []) :
    ∃ payload, r.payload? = some payload ∧ body.run payload = .ok a := by
  obtain ⟨payload, rest, hspan, hbody⟩ := bind_eq_ok_iff.1 h
  unfold within at hbody
  split at hbody
  · rename_i inner left hrun
    cases hbody
    exact ⟨payload, payload?_of_span hkey hspan, run_eq_ok_iff.2 ⟨left, hrun⟩⟩
  · cases hbody

theorem payload?_of_nested {budget : Nat} {body : Nat → Reader α} {a : α}
    (hkey : r.key.wireType = .lengthDelimited) (h : nested budget body r.value = .ok a []) :
    ∃ lower payload, budget = lower + 1 ∧ r.payload? = some payload ∧
      (body lower).run payload = .ok a := by
  cases budget with
  | zero => cases h
  | succ lower =>
    obtain ⟨payload, hpayload, hrun⟩ := payload?_of_delimited hkey h
    exact ⟨lower, payload, rfl, hpayload, hrun⟩

end Payload

/-- With a budget the bytes are accepted, as a message or as a map entry with these fields. -/
inductive DecoderSet.AcceptsFields (set : DecoderSet) (schema : Schema) (budget : Nat) :
    List Field → Bytes → Prop where
  | message {name : String} {m last : Message} {bytes : Bytes} :
      (set.mergeWith budget (set.nested budget) name m).run bytes = .ok last →
        AcceptsFields set schema budget (schema.fieldsOf name) bytes
  | entry {name : String} {keyKind valueKind : Kind} {entry last : Value × Value} {bytes : Bytes} :
      ((set.nested budget).mergeEntry budget name keyKind valueKind entry).run bytes = .ok last →
        AcceptsFields set schema budget (entryFields keyKind valueKind) bytes

section Rules

theorem insideKind?_eq_some {schema : Schema} {kind : Kind} {inner : List Field}
    (h : schema.insideKind? kind = some inner) :
    ∃ type, kind = .message type ∧ inner = schema.fieldsOf (trimDots type) := by
  cases kind with
  | message type =>
    cases h
    exact ⟨type, rfl, rfl⟩
  | scalar | string | bytes | group => cases h

variable {set : DecoderSet} {budget : Nat}

theorem expect_eq_ok {key : Key} {wireType : WireType} {name : String} {body : Reader α}
    {bytes rest : Bytes} {a : α} (h : expect key wireType name body bytes = .ok a rest) :
    key.wireType = wireType ∧ body bytes = .ok a rest := by
  unfold expect at h
  split at h
  · rename_i hkey
    exact ⟨hkey, h⟩
  · cases h

/-- A record of a message field that was merged, into whatever message was there. -/
theorem Nested.message_of_mergeField {nested : Nested} {field : Field} {type : String}
    (hmap : ∀ key value, field.cardinality ≠ .map key value) (hkind : field.kind = .message type)
    {key : Key} {m m' : Message} {value : Bytes}
    (h : nested.mergeField field key m value = .ok m' []) :
    key.wireType = .lengthDelimited ∧
      ∃ slot inner, nested.message (trimDots type) slot value = .ok inner [] := by
  have hvalue {v : Value} {rest : Bytes}
      (hv : nested.valueOf field.name (.message type) value = .ok v rest) :
      ∃ slot inner, nested.message (trimDots type) slot value = .ok inner rest := by
    obtain ⟨inner, mid, hinner, hv⟩ := bind_eq_ok_iff.1 hv
    cases hv
    exact ⟨_, inner, hinner⟩
  have hpack : field.kind.isPackable = false := by rw [hkind]; rfl
  cases hc : field.cardinality with
  | map k v => exact absurd hc (hmap k v)
  | repeated =>
    simp only [Nested.mergeField, hc, hpack, Bool.false_and, Bool.false_eq_true, if_false] at h
    obtain ⟨hkey, h⟩ := expect_eq_ok h
    obtain ⟨v, mid, hv, h⟩ := bind_eq_ok_iff.1 h
    cases h
    rw [hkind] at hkey hv
    exact ⟨hkey, hvalue hv⟩
  | oneof oneof =>
    simp only [Nested.mergeField, hc] at h
    obtain ⟨hkey, h⟩ := expect_eq_ok h
    obtain ⟨v, mid, hv, h⟩ := bind_eq_ok_iff.1 h
    cases h
    rw [hkind] at hkey hv
    exact ⟨hkey, hvalue hv⟩
  | singular | optional | required =>
    rw [Nested.mergeField_merge (by simp [Field.isInline, hc]) (by simp [Field.oneof?, hc])
      hkind] at h
    obtain ⟨hkey, h⟩ := expect_eq_ok h
    obtain ⟨inner, mid, hinner, h⟩ := bind_eq_ok_iff.1 h
    cases h
    exact ⟨hkey, _, inner, hinner⟩

theorem Nested.message_of_mergeSide {nested : Nested} {key : Key} {name type : String}
    {slot v : Value} {value : Bytes}
    (h : nested.mergeSide key name (.message type) slot value = .ok v []) :
    key.wireType = .lengthDelimited ∧
      ∃ slot inner, nested.message (trimDots type) slot value = .ok inner [] := by
  obtain ⟨hkey, h⟩ := expect_eq_ok h
  refine ⟨hkey, ?_⟩
  cases slot <;>
  · obtain ⟨inner, mid, hinner, h⟩ := bind_eq_ok_iff.1 h
    cases h
    exact ⟨_, inner, hinner⟩

/-- A record of an embedded field that a rule took: the payload was merged with one level of
nesting less, as a message or as an entry. -/
theorem DecoderSet.payload?_of_apply {schema : Schema} {field : Field} {bit : Option Nat}
    {rule : Rule} (hfits : Rule.Fits field bit rule) {inner : List Field}
    (hinner : schema.inside? field = some inner) {r : Record} {m : Message} {seen : List Nat}
    {next : Message × List Nat}
    (h : (set.nested budget).apply rule r.key m seen r.value = .ok next []) :
    ∃ lower payload, budget = lower + 1 ∧ r.payload? = some payload ∧
      set.AcceptsFields schema lower inner payload := by
  by_cases hmap : ∃ key value, field.cardinality = .map key value
  · obtain ⟨key, value, hc⟩ := hmap
    rw [Schema.inside?, hc] at hinner
    cases hinner
    rw [apply_map_eq set hfits hc] at h
    obtain ⟨last, mid, h, hpure⟩ := bind_eq_ok_iff.1 h
    cases hpure
    obtain ⟨hkey, h⟩ := expect_eq_ok h
    obtain ⟨entry, mid, hentry, hpure⟩ := bind_eq_ok_iff.1 h
    cases hpure
    obtain ⟨lower, payload, hbudget, hpayload, hrun⟩ := payload?_of_nested hkey hentry
    exact ⟨lower, payload, hbudget, hpayload, .entry hrun⟩
  · have hnot (key value : Field) : field.cardinality ≠ .map key value :=
      fun hc => hmap ⟨key, value, hc⟩
    have hinside : schema.insideKind? field.kind = some inner := by
      unfold Schema.inside? at hinner
      split at hinner
      · rename_i hc
        exact absurd hc (hnot _ _)
      · exact hinner
    obtain ⟨type, hkind, rfl⟩ := insideKind?_eq_some hinside
    rw [Nested.apply_eq hfits hnot] at h
    obtain ⟨last, mid, h, hpure⟩ := bind_eq_ok_iff.1 h
    cases hpure
    obtain ⟨hkey, slot, last, hmessage⟩ := Nested.message_of_mergeField hnot hkind h
    rw [nested_message] at hmessage
    obtain ⟨lower, payload, hbudget, hpayload, hrun⟩ := payload?_of_nested hkey hmessage
    exact ⟨lower, payload, hbudget, hpayload, .message hrun⟩

/-- A record of a side of an entry. -/
theorem DecoderSet.payload?_of_mergeSide {schema : Schema} {name : String} {kind : Kind}
    {inner : List Field} (hinner : schema.insideKind? kind = some inner) {r : Record}
    {slot : Value} {f : Value → Value × Value} {next : Value × Value}
    (h : Takes ((set.nested budget).mergeSide r.key name kind slot >>= fun v => pure (f v)) r.value
      next) :
    ∃ lower payload, budget = lower + 1 ∧ r.payload? = some payload ∧
      set.AcceptsFields schema lower inner payload := by
  obtain ⟨type, rfl, rfl⟩ := insideKind?_eq_some hinner
  obtain ⟨side, mid, hside, hpure⟩ := bind_eq_ok_iff.1 h.ends
  cases hpure
  obtain ⟨hkey, slot, last, hmessage⟩ := Nested.message_of_mergeSide hside
  rw [nested_message] at hmessage
  obtain ⟨lower, payload, hbudget, hpayload, hrun⟩ := payload?_of_nested hkey hmessage
  exact ⟨lower, payload, hbudget, hpayload, .message hrun⟩

end Rules

section Run

variable {options : Options} {schema : Schema} {set : DecoderSet}
  (hset : DecoderSet.ofSchema options schema = .ok set)
include hset

/-- A message that was accepted was merged record by record, by a plan for the fields of its
name. -/
theorem DecoderSet.exists_steps_of_run {budget : Nat} {name : String} {m last : Message}
    {bytes : Bytes} (h : (set.mergeWith budget (set.nested budget) name m).run bytes = .ok last) :
    ∃ (plan : Plan) (message : ProtoPlan.Message) (records : List Record) (seen : List Nat),
      set.planFor? name = some plan ∧ Plan.Fits message plan ∧
      message.fields = schema.fieldsOf name ∧ (∀ r ∈ records, Takes (record budget) r.raw r) ∧
      records.flatMap (·.raw) = bytes ∧
      Steps (mergeRecord budget (set.nested budget) plan) (m, []) (records.map (·.raw))
        (last, seen) := by
  obtain ⟨rest, hmerge⟩ := run_eq_ok_iff.1 h
  obtain ⟨plan, hplan, hmerge⟩ := DecoderSet.mergeWith_eq_ok_iff.1 hmerge
  obtain ⟨message, hfits, -, hfields⟩ := DecoderSet.exists_fits hset hplan
  have hframed : FramedPlan (set.nested budget) plan :=
    framedPlan_ofSchema hset hplan (set.framed_nested budget)
  obtain ⟨records, seen, hrecords, hwhole, hsteps⟩ := records_of_mergeByPlan hframed hmerge
  exact ⟨plan, message, records, seen, hplan, hfits, hfields, hrecords, hwhole, hsteps⟩

/-- Of what is accepted each record of an embedded field has a payload that is accepted with one
level of nesting less. -/
theorem DecoderSet.AcceptsFields.embedded {budget : Nat} {fields : List Field} {bytes : Bytes}
    (h : set.AcceptsFields schema budget fields bytes) :
    ∃ records, Cuts bytes records ∧ ∀ r ∈ records, ∀ field ∈ fields, field.number = r.number →
      ∀ inner, schema.inside? field = some inner → ∃ lower payload, budget = lower + 1 ∧
        r.payload? = some payload ∧ set.AcceptsFields schema lower inner payload := by
  cases h with
  | @message name m last _ hrun =>
    obtain ⟨plan, message, records, seen, hplan, hfits, hfields, hrecords, hwhole, hsteps⟩ :=
      DecoderSet.exists_steps_of_run hset hrun
    refine ⟨records, cuts_iff.2 ⟨hwhole, budget, hrecords⟩, ?_⟩
    intro r hr field hf hnumber inner hinner
    rw [← hfields] at hf
    obtain ⟨rule, hrule, hrulefits⟩ := hfits.rule field hf
    obtain ⟨⟨m, seen⟩, next, ht⟩ := hsteps.exists_takes (List.mem_map_of_mem hr)
    have hvalue := value_of_field (claimsByFrame_ofSchema hset hplan budget) (hrecords r hr) ht
    have hclaimed : plan.rule? r.key.number = some rule := by
      rw [hnumber] at hrule
      exact hrule
    dsimp only at hvalue
    rw [hclaimed, Option.map_some] at hvalue
    have hrun := hvalue.ends
    exact DecoderSet.payload?_of_apply hrulefits hinner hrun
  | @entry name keyKind valueKind entry last _ hrun =>
    obtain ⟨rest, hmerge⟩ := run_eq_ok_iff.1 hrun
    have hframe := set.claimsByFrame_claimSide budget name keyKind valueKind
    obtain ⟨records, hwhole, hrecords, hsteps⟩ := records_of_fields hframe hmerge
    refine ⟨records, cuts_iff.2 ⟨hwhole, budget, hrecords⟩, ?_⟩
    intro r hr field hf hnumber inner hinner
    obtain ⟨⟨k, v⟩, next, ht⟩ := hsteps.exists_takes (List.mem_map_of_mem hr)
    have hvalue := value_of_field hframe (hrecords r hr) ht
    rcases mem_entryFields_iff.1 hf with rfl | rfl
    · have hkey : r.key.number = 1 := hnumber.symm
      simp only [Nested.claimSide, hkey] at hvalue
      exact DecoderSet.payload?_of_mergeSide hinner hvalue
    · have hkey : r.key.number = 2 := hnumber.symm
      simp only [Nested.claimSide, hkey] at hvalue
      exact DecoderSet.payload?_of_mergeSide hinner hvalue

/-- What holds of the records of all that is accepted holds at every depth. -/
theorem DecoderSet.AcceptsFields.throughout {P : List Field → List Record → Prop}
    (hP : ∀ ⦃budget fields bytes records⦄, set.AcceptsFields schema budget fields bytes →
      Cuts bytes records → P fields records)
    {budget : Nat} {fields : List Field} {bytes : Bytes}
    (h : set.AcceptsFields schema budget fields bytes) : Throughout schema P fields bytes := by
  induction budget using Nat.strongRecOn generalizing fields bytes with
  | ind budget ih =>
    obtain ⟨records, hcuts, hembedded⟩ := h.embedded hset
    refine .intro hcuts (hP h hcuts) ?_ ?_
    · intro r hr field hf hnumber inner hinner
      obtain ⟨lower, payload, -, hpayload, -⟩ := hembedded r hr field hf hnumber inner hinner
      rw [hpayload]
      rfl
    · intro r hr field hf hnumber inner hinner payload hpayload
      obtain ⟨lower, payload', hbudget, hpayload', haccepts⟩ :=
        hembedded r hr field hf hnumber inner hinner
      rw [hpayload] at hpayload'
      cases hpayload'
      exact ih lower (by omega) haccepts

end Run

end ProtoPlan.Dynamic
