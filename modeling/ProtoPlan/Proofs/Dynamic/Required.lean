import ProtoPlan.Proofs.Dynamic.Embedded
import ProtoPlan.Proofs.Dynamic.Limit
import ProtoPlan.Proofs.Plan.WellFormed

/-!
Required fields. Their bits are numbered without gaps in the order of declaration, so that a message
is complete just if each of them has a record among its own. What the records hold, their order, and
what came before are of no matter, and an embedded message answers for its own fields.
-/

namespace ProtoPlan

open Wire Schema

/-- Each required field has a record. -/
def Schema.Complete (fields : List Field) (records : List Record) : Prop :=
  ∀ field ∈ fields, field.isRequired = true → ∃ r ∈ records, r.number = field.number

/-- The required fields have the bits from zero on in order, each one rule, and the words of the
plan hold them. -/
structure Plan.RequiredLayout (message : Message) (plan : Plan) : Prop where
  count : plan.requiredCount = message.requiredNumbers.length
  rule : ∀ bit number, message.requiredNumbers[bit]? = some number →
    ∃ rule : FieldRule, plan.rule? number = some (.field rule) ∧ rule.requiredBit = some bit ∧
      ∀ other, .field other ∈ plan.rules → other.requiredBit = some bit → other = rule
  bits : ∀ bit, (∃ rule, .field rule ∈ plan.rules ∧ rule.requiredBit = some bit) ↔
    bit < plan.requiredCount
  words : ∀ bit < plan.requiredCount,
    ((PresenceBits.empty plan.requiredWords).set bit).isSome = true

/-- Each rule of a plan is found by its number. -/
theorem Plan.rule?_of_mem {scope : Scope} {message : Message} {plan : Plan}
    (h : ofMessage scope message = .ok plan) {rule : Rule} (hrule : rule ∈ plan.rules) :
    plan.rule? rule.number = some rule := by
  have hfits := (fits_ofMessage h).1
  have hnumbers : plan.rules.map (·.number) = message.fields.map (·.number) :=
    map_eq_of_forall₂ (rules_ofMessage h) fun field rule hof => by
      obtain ⟨bit, hof⟩ := hof
      exact (Rule.fits_ofField hof).number
  exact find?_key (hnumbers ▸ hfits.numbers) hrule

theorem Message.requiredBit?_eq_some_iff {message : Message}
    (hnodup : (message.fields.map (·.number)).Nodup) {number bit : Nat} :
    message.requiredBit? number = some bit ↔ message.requiredNumbers[bit]? = some number := by
  have hdistinct : message.requiredNumbers.Nodup := hnodup.sublist (List.filter_sublist.map _)
  rw [requiredBit?, List.idxOf?_eq_some_iff, List.getElem?_eq_some_iff]
  constructor
  · intro h
    obtain ⟨hlt, hget, -⟩ := h
    exact ⟨hlt, hget⟩
  · intro h
    obtain ⟨hlt, hget⟩ := h
    refine ⟨hlt, hget, fun other hother heq => ?_⟩
    have hsame := (List.Nodup.getElem_inj_iff hdistinct).1 (heq.trans hget.symm)
    omega

section Bits

variable {message : Message} {plan : Plan} (h : Plan.Fits message plan)
include h

/-- The required field that comes at a place has a rule, which sets the bit of that place. -/
theorem Plan.Fits.exists_rule {bit number : Nat}
    (hnumber : message.requiredNumbers[bit]? = some number) :
    ∃ rule : FieldRule, plan.rule? number = some (.field rule) ∧ .field rule ∈ plan.rules ∧
      rule.requiredBit = some bit := by
  rw [← Message.requiredBit?_eq_some_iff h.numbers, ← h.bits_iff] at hnumber
  obtain ⟨rule, hrule, hmem⟩ := hnumber
  cases rule with
  | map => cases hmem
  | field rule =>
    exact ⟨rule, hrule, List.mem_of_find?_eq_some hrule, by simpa [Rule.bits] using hmem⟩

variable (hrules : ∀ rule ∈ plan.rules, plan.rule? rule.number = some rule)
include hrules

theorem Plan.Fits.requiredBit_iff {rule : FieldRule} (hrule : .field rule ∈ plan.rules)
    {bit : Nat} :
    rule.requiredBit = some bit ↔ message.requiredNumbers[bit]? = some rule.number := by
  rw [← Message.requiredBit?_eq_some_iff h.numbers, ← h.bits_iff]
  have hfound : plan.rule? rule.number = some (.field rule) := hrules _ hrule
  simp [hfound, Rule.bits]

theorem Plan.Fits.requiredLayout : Plan.RequiredLayout message plan := by
  refine ⟨h.requiredCount, ?_, ?_, ?_⟩
  · intro bit number hnumber
    obtain ⟨rule, hrule, -, hbit⟩ := h.exists_rule hnumber
    refine ⟨rule, hrule, hbit, fun other hother hotherbit => ?_⟩
    have hsame := (h.requiredBit_iff hrules hother).1 hotherbit
    rw [hnumber] at hsame
    have hfound : plan.rule? other.number = some (.field other) := hrules _ hother
    rw [← Option.some.inj hsame, hrule] at hfound
    cases hfound
    rfl
  · intro bit
    rw [h.requiredCount]
    constructor
    · intro hrule
      obtain ⟨rule, hrule, hbit⟩ := hrule
      exact (List.getElem?_eq_some_iff.1 ((h.requiredBit_iff hrules hrule).1 hbit)).1
    · intro hlt
      obtain ⟨rule, -, hmem, hbit⟩ := h.exists_rule (List.getElem?_eq_getElem hlt)
      exact ⟨rule, hmem, hbit⟩
  · intro bit hlt
    have hword : bit / 64 < plan.requiredWords := by
      unfold requiredWords PresenceBits.wordsFor
      omega
    simp [PresenceBits.set, PresenceBits.empty, hword]

end Bits

namespace Dynamic

open Reader

theorem DecoderSet.exists_requiredLayout {options : Options} {schema : Schema} {set : DecoderSet}
    (hset : DecoderSet.ofSchema options schema = .ok set) {name : String}
    {message : ProtoPlan.Message} (hd : schema.declaration? name = some message) :
    ∃ plan, set.plan? name = some plan ∧ Plan.RequiredLayout message plan := by
  have hrel := DecoderSet.plan?_ofSchema hset name
  rw [hd] at hrel
  obtain ⟨plan, hplan, hfits⟩ := exists_of_rel hrel
  obtain ⟨source, scope, other, -, -, hof⟩ :=
    DecoderSet.exists_ofMessage hset (List.mem_of_find?_eq_some hplan)
  exact ⟨plan, hplan, hfits.1.requiredLayout fun rule hrule => Plan.rule?_of_mem hof hrule⟩

/-- The outcome for the records of a message of that name is a message if they are complete, and
otherwise the fault that names it. -/
def EnforcesRequired (fields : List Field) (name : String) (records : List Record)
    (outcome : Except Fault Message) : Prop :=
  (Complete fields records → ∃ m, outcome = .ok m) ∧
    (¬Complete fields records → outcome = .error (.requiredFieldMissing name))

/-- A message of that name takes the record, in some state. -/
def DecoderSet.TakesRecord (set : DecoderSet) (budget : Nat) (name : String) (r : Record) : Prop :=
  ∃ plan state next, set.planFor? name = some plan ∧
    Takes (mergeRecord budget (set.nested budget) plan state) r.raw next

section Outcome

variable {options : Options} {schema : Schema} {set : DecoderSet}
  (hset : DecoderSet.ofSchema options schema = .ok set) {budget : Nat} {name : String}
include hset

/-- Whether a record is taken does not depend on the state. -/
theorem DecoderSet.TakesRecord.takes {r : Record} (h : set.TakesRecord budget name r)
    {found : Nat} (hr : Takes (record found) r.raw r) {plan : Plan}
    (hplan : set.planFor? name = some plan) (state : Message × List Nat) :
    ∃ next, Takes (mergeRecord budget (set.nested budget) plan state) r.raw next := by
  obtain ⟨plan', start, next, hplan', htakes⟩ := h
  rw [hplan] at hplan'
  cases hplan'
  have hnodup := Schema.nodup_fieldsOf hset name
  have hframe := claimsByFrame_ofSchema hset hplan budget
  have hrules := (limitedNested hset budget budget).rules hset hplan
  have hlimit (state : Message × List Nat) :
      TakesUnless (∃ depth, budget < depth ∧ Opens schema 2 (schema.fieldsOf name) r depth)
        (mergeRecord budget (set.nested budget) plan state) r.raw :=
    field_limit hnodup hframe hrules hr htakes state
  rcases hlimit start with ⟨hno, -⟩ | ⟨-, hfails⟩
  · rcases hlimit state with ⟨-, next, hnext⟩ | ⟨hdeep, -⟩
    · exact ⟨next, hnext⟩
    · exact absurd hdeep hno
  · obtain ⟨left, hleft⟩ := hfails []
    rw [htakes []] at hleft
    cases hleft

/-- Records that are taken one by one are taken one after the other. -/
theorem DecoderSet.exists_steps {records : List Record}
    (htakes : ∀ r ∈ records, set.TakesRecord budget name r) {found : Nat}
    (hrecords : ∀ r ∈ records, Takes (record found) r.raw r) {plan : Plan}
    (hplan : set.planFor? name = some plan) (state : Message × List Nat) :
    ∃ last, Steps (mergeRecord budget (set.nested budget) plan) state (records.map (·.raw))
      last := by
  induction records generalizing state with
  | nil => exact ⟨state, .done state⟩
  | cons r records ih =>
    obtain ⟨hr, hrecords⟩ := List.forall_mem_cons.1 hrecords
    obtain ⟨ht, htakes⟩ := List.forall_mem_cons.1 htakes
    obtain ⟨next, hnext⟩ := ht.takes hset hr hplan state
    obtain ⟨last, hlast⟩ := ih htakes hrecords next
    exact ⟨last, .more (record_ne_nil hr) hnext hlast⟩

/-- A buffer of records that are taken is accepted just if it is complete, whatever it is merged
into. -/
theorem DecoderSet.run_of_takesRecord {records : List Record} {bytes : Bytes}
    (hplan : (set.planFor? name).isSome = true) (hcuts : Cuts bytes records)
    (htakes : ∀ r ∈ records, set.TakesRecord budget name r) (m : Message) :
    EnforcesRequired (schema.fieldsOf name) name records
      ((set.mergeWith budget (set.nested budget) name m).run bytes) := by
  obtain ⟨plan, hplan⟩ := Option.isSome_iff_exists.1 hplan
  obtain ⟨message, hfits, hname, hfields⟩ := DecoderSet.exists_fits hset hplan
  obtain ⟨rfl, found, hrecords⟩ := cuts_iff.1 hcuts
  have hframed : FramedPlan (set.nested budget) plan :=
    framedPlan_ofSchema hset hplan (set.framed_nested budget)
  obtain ⟨⟨m', seen⟩, hsteps⟩ :=
    DecoderSet.exists_steps hset htakes hrecords hplan (m, [])
  -- The decoder's own cut is that of the scanner.
  have hrecords' : ∀ r ∈ records, Takes (record budget) r.raw r := by
    obtain ⟨records', hraw, hall⟩ := records_of_steps hframed hsteps
    have hcuts' : Cuts (records.flatMap (·.raw)) records' := by
      refine cuts_iff.2 ⟨?_, budget, hall⟩
      rw [List.flatMap_def, List.flatMap_def, hraw]
    rwa [hcuts'.unique hcuts] at hall
  have hcheck : (List.range plan.requiredCount).all (· ∈ seen) = true ↔
      Complete (schema.fieldsOf name) records := by
    rw [Complete, ← hfields, ← complete_iff hfits hframed hrecords' hsteps]
    simp [List.all_eq_true]
  rw [DecoderSet.mergeWith_eq hplan, run, mergeByPlan_of_steps hsteps, requireSeen]
  constructor
  · intro hcomplete
    rw [if_pos (hcheck.2 hcomplete)]
    exact ⟨m', rfl⟩
  · intro hmissing
    rw [if_neg (fun hall => hmissing (hcheck.1 hall)), hfits.name, hname]
    rfl

/-- What is accepted consists of records that are taken, and is complete. -/
theorem DecoderSet.records_of_run {m last : Message} {bytes : Bytes}
    (h : (set.mergeWith budget (set.nested budget) name m).run bytes = .ok last) :
    ∃ records, Cuts bytes records ∧ (∀ r ∈ records, set.TakesRecord budget name r) ∧
      Complete (schema.fieldsOf name) records := by
  obtain ⟨plan, -, records, seen, hplan, -, -, hrecords, hwhole, hsteps⟩ :=
    DecoderSet.exists_steps_of_run hset h
  have hcuts : Cuts bytes records := cuts_iff.2 ⟨hwhole, budget, hrecords⟩
  have htakes : ∀ r ∈ records, set.TakesRecord budget name r := by
    intro r hr
    obtain ⟨state, next, ht⟩ := hsteps.exists_takes (List.mem_map_of_mem hr)
    exact ⟨plan, state, next, hplan, ht⟩
  refine ⟨records, hcuts, htakes, ?_⟩
  have hisSome : (set.planFor? name).isSome = true := by
    rw [hplan]
    rfl
  have henforces := DecoderSet.run_of_takesRecord hset hisSome hcuts htakes m
  by_contra hmissing
  rw [henforces.2 hmissing] at h
  cases h

/-- An embedded message is enforced on its own, whatever it is merged into. -/
theorem DecoderSet.nested_of_takesRecord {records : List Record} {spanBytes payload : Bytes}
    (hplan : (set.planFor? name).isSome = true) (hspan : Takes span spanBytes payload)
    (hcuts : Cuts payload records) (htakes : ∀ r ∈ records, set.TakesRecord budget name r)
    (slot : Message) :
    (Complete (schema.fieldsOf name) records →
      ∃ m, Takes ((set.nested (budget + 1)).message name slot) spanBytes m) ∧
    (¬Complete (schema.fieldsOf name) records →
      Fails ((set.nested (budget + 1)).message name slot) spanBytes
        (.requiredFieldMissing name)) := by
  have hreads := spanReads_delimited (set.mergeWith budget (set.nested budget) name slot) hspan
  obtain ⟨hok, hfault⟩ := DecoderSet.run_of_takesRecord hset hplan hcuts htakes slot
  constructor
  · intro hcomplete
    obtain ⟨m, hm⟩ := hok hcomplete
    rw [hm] at hreads
    exact ⟨m, hreads⟩
  · intro hmissing
    rw [hfault hmissing] at hreads
    exact hreads

/-- At every depth of what is accepted the required fields are there. The sides of a map entry are
none. -/
theorem DecoderSet.AcceptsFields.complete {fields : List Field} {bytes : Bytes}
    (h : set.AcceptsFields schema budget fields bytes) : Throughout schema Complete fields bytes := by
  apply h.throughout hset
  intro budget fields bytes records haccepts hcuts
  cases haccepts with
  | message hrun =>
    obtain ⟨records', hcuts', -, hcomplete⟩ := DecoderSet.records_of_run hset hrun
    rwa [hcuts'.unique hcuts] at hcomplete
  | entry =>
    intro field hf hrequired
    rcases mem_entryFields_iff.1 hf with rfl | rfl <;> cases hrequired

end Outcome

/-- Required fields: their bits are those from zero on, each set by one rule alone. A buffer whose
records are taken is accepted if each required field of its message has one of them and refused
otherwise, at the top, embedded, and at every depth of what is accepted. -/
theorem required_exact {options : Options} {schema : Schema} {set : DecoderSet}
    (hset : DecoderSet.ofSchema options schema = .ok set) :
    (∀ name message, schema.declaration? name = some message →
      ∃ plan, set.plan? name = some plan ∧ Plan.RequiredLayout message plan) ∧
    (∀ name bytes records, (set.planFor? name).isSome = true →
      (Reader.records Cursor.defaultBudget).run bytes = .ok records →
      (∀ r ∈ records, set.TakesRecord Cursor.defaultBudget name r) →
      EnforcesRequired (schema.fieldsOf name) name records (set.decode name bytes)) ∧
    (∀ budget name spanBytes payload records slot, (set.planFor? name).isSome = true →
      Takes span spanBytes payload → Cuts payload records →
      (∀ r ∈ records, set.TakesRecord budget name r) →
      (Complete (schema.fieldsOf name) records →
        ∃ m, Takes ((set.nested (budget + 1)).message name slot) spanBytes m) ∧
      (¬Complete (schema.fieldsOf name) records →
        Fails ((set.nested (budget + 1)).message name slot) spanBytes
          (.requiredFieldMissing name))) ∧
    ∀ name bytes m, set.decode name bytes = .ok m →
      Throughout schema Complete (schema.fieldsOf name) bytes := by
  refine ⟨?_, ?_, ?_, ?_⟩
  · intro name message hd
    exact DecoderSet.exists_requiredLayout hset hd
  · intro name bytes records hplan hrecords htakes
    exact DecoderSet.run_of_takesRecord hset hplan ⟨_, hrecords⟩ htakes (Message.ofName name)
  · intro budget name spanBytes payload records slot hplan hspan hcuts htakes
    exact DecoderSet.nested_of_takesRecord hset hplan hspan hcuts htakes slot
  · intro name bytes m h
    exact DecoderSet.AcceptsFields.complete hset (.message h)

/-- More required fields than a word has bits, and a message that is embedded in one of its own
type, whose required field is no record of the outer one. -/
theorem required_exact_two_words :
    let schema : Schema :=
      { messages := [{ name := "M", fields := (List.range 65).map fun i =>
                         ⟨"f" ++ toString i, i + 1, .scalar .bool, .required⟩ },
                     { name := "N", fields := [⟨"a", 1, .scalar .int32, .required⟩,
                                               .singular "next" 2 (.message "N")] }] }
    ∃ set plan rule, DecoderSet.ofSchema {} schema = .ok set ∧
      set.plan? "M" = some plan ∧ plan.requiredWords = 2 ∧
      plan.rule? 65 = some (.field rule) ∧ rule.requiredBit = some 64 ∧
      set.decode "M" [] = .error (.requiredFieldMissing "M") ∧
      (∃ m, set.decode "N" [0x12, 2, 8, 1, 8, 1] = .ok m) ∧
      set.decode "N" [0x12, 2, 8, 1] = .error (.requiredFieldMissing "N") := by
  intro schema
  have hrun : ((DecoderSet.ofSchema {} schema).toOption.bind fun set =>
      (set.decode "N" [0x12, 2, 8, 1, 8, 1]).toOption).isSome = true := by
    rw [DecoderSet.ofSchema_eq, Schema.plans_eq rfl]
    decide +kernel
  have hnone : (Reader.records Cursor.defaultBudget).run [] = .ok [] := by decide +kernel
  have houter : (Reader.records Cursor.defaultBudget).run [0x12, 2, 8, 1] =
      .ok [⟨⟨2, .lengthDelimited⟩, [0x12, 2, 8, 1]⟩] := by decide +kernel
  have hboth : (Reader.records Cursor.defaultBudget).run [0x12, 2, 8, 1, 8, 1] =
      .ok [⟨⟨2, .lengthDelimited⟩, [0x12, 2, 8, 1]⟩, ⟨⟨1, .varint⟩, [8, 1]⟩] := by decide +kernel
  obtain ⟨set, m, hset, hm⟩ := exists_ok_ok_of_isSome hrun
  obtain ⟨hlayout, hdecode, -, -⟩ := required_exact hset
  obtain ⟨plan, hplan, hlayout⟩ := hlayout "M" _ rfl
  obtain ⟨rule, hrule, hbit, -⟩ := hlayout.rule 64 65 (by decide +kernel)
  have hwords : plan.requiredWords = 2 := by
    rw [Plan.requiredWords, hlayout.count]
    decide +kernel
  have hempty : ¬Complete (schema.fieldsOf "M") [] := by
    intro hcomplete
    obtain ⟨r, hr, -⟩ := hcomplete ⟨"f0", 1, .scalar .bool, .required⟩ List.mem_cons_self rfl
    cases hr
  have hmissing : ¬Complete (schema.fieldsOf "N")
      [⟨⟨2, .lengthDelimited⟩, [0x12, 2, 8, 1]⟩] := by
    intro hcomplete
    obtain ⟨r, hr, hnumber⟩ :=
      hcomplete ⟨"a", 1, .scalar .int32, .required⟩ List.mem_cons_self rfl
    rw [List.mem_singleton.1 hr] at hnumber
    cases hnumber
  have htakes : ∀ r ∈ [⟨⟨2, .lengthDelimited⟩, [0x12, 2, 8, 1]⟩],
      set.TakesRecord Cursor.defaultBudget "N" r := by
    obtain ⟨records, hcuts, htakes, -⟩ := DecoderSet.records_of_run hset hm
    rw [hcuts.unique ⟨_, hboth⟩] at htakes
    intro r hr
    rw [List.mem_singleton.1 hr]
    exact htakes _ List.mem_cons_self
  have hfirst : (set.planFor? "M").isSome = true := by
    rw [DecoderSet.planFor?, hplan]
    rfl
  have hsecond : (set.planFor? "N").isSome = true := by
    obtain ⟨rest, hmerge⟩ := run_eq_ok_iff.1 hm
    obtain ⟨plan, hplan, -⟩ := DecoderSet.mergeWith_eq_ok_iff.1 hmerge
    exact Option.isSome_of_eq_some hplan
  refine ⟨set, plan, rule, hset, hplan, hwords, hrule, hbit, ?_, ⟨m, hm⟩, ?_⟩
  · exact (hdecode "M" [] [] hfirst hnone (by simp)).2 hempty
  · exact (hdecode "N" _ _ hsecond houter htakes).2 hmissing

end Dynamic

end ProtoPlan
