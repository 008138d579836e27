import ProtoPlan.Proofs.Data.Reordering
import ProtoPlan.Proofs.Data.SortedMap
import ProtoPlan.Proofs.Dynamic.Truncation

/-!
The order of records. What a record makes of a message lies in the field of its number, or in its
oneof, or among the extensions or the unknown fields; records that differ in this may be exchanged,
so that a message is settled by the order of the records of each class.
-/

namespace ProtoPlan

open Wire Schema

/-- Where the records of a number leave their mark. -/
inductive RecordClass where
  | field (number : Nat)
  | oneof (name : String)
  | extension
  | unknown
  deriving DecidableEq, Repr

/-- The class of a declared field's records. -/
def Schema.Field.recordClass (field : Field) : RecordClass :=
  match field.oneof? with
  | some oneof => .oneof oneof
  | none => .field field.number

/-- The class of the records that a rule claims. -/
def Rule.recordClass (rule : Rule) : RecordClass :=
  match rule.oneof? with
  | some oneof => .oneof oneof
  | none => .field rule.number

theorem Rule.recordClass_of_oneof {rule : Rule} {oneof : String} (h : rule.oneof? = some oneof) :
    rule.recordClass = .oneof oneof := by
  rw [recordClass, h]

theorem Rule.Fits.recordClass {field : Field} {bit : Option Nat} {rule : Rule}
    (h : Rule.Fits field bit rule) : rule.recordClass = field.recordClass := by
  rw [Rule.recordClass, Field.recordClass, h.oneof?, h.number]

/-- The class of a number as a message declares it. A declaration goes before an extension range. -/
def Message.classOf (message : Message) (number : Nat) : RecordClass :=
  match message.fields.find? (·.number = number) with
  | some field => field.recordClass
  | none => if message.extensionRanges.any (·.contains number) then .extension else .unknown

/-- The class of a number as a schema declares the named message. Of a name without a declaration
all numbers are unknown. -/
def Schema.classOf (schema : Schema) (name : String) (number : Nat) : RecordClass :=
  ((schema.declaration? name).getD { name := name }).classOf number

/-- The class of a number as a plan claims it. -/
def Plan.classOf (plan : Plan) (number : Nat) : RecordClass :=
  match plan.rule? number with
  | some rule => rule.recordClass
  | none => if plan.isExtension number then .extension else .unknown

theorem Plan.classOf_rule {plan : Plan} {number : Nat} {rule : Rule}
    (h : plan.rule? number = some rule) : plan.classOf number = rule.recordClass := by
  rw [classOf, h]

theorem Plan.classOf_number {plan : Plan} {number : Nat} {rule : Rule}
    (h : plan.rule? number = some rule) : plan.classOf rule.number = rule.recordClass := by
  obtain rfl : rule.number = number := by simpa using List.find?_some h
  exact classOf_rule h

theorem Plan.Fits.classOf {message : Message} {plan : Plan} (h : Plan.Fits message plan)
    (number : Nat) : plan.classOf number = message.classOf number := by
  unfold Plan.classOf Message.classOf
  rcases h.rule?_cases number with ⟨field, hf, rfl, rule, hrule, hfits⟩ | ⟨hnot, hnone⟩
  · rw [hrule, find?_key h.numbers hf]
    exact hfits.recordClass
  · have hfind : message.fields.find? (fun field => field.number = number) = none := by
      refine List.find?_eq_none.2 fun field hf hnumber => hnot ?_
      exact List.mem_map.2 ⟨field, hf, by simpa using hnumber⟩
    rw [hnone, hfind, Plan.isExtension, h.extensionRanges]

theorem Plan.classOf_ofSchema {options : Options} {schema : Schema} {set : Dynamic.DecoderSet}
    (hset : Dynamic.DecoderSet.ofSchema options schema = .ok set) {name : String} {plan : Plan}
    (hplan : set.planFor? name = some plan) : plan.classOf = schema.classOf name := by
  funext number
  unfold Schema.classOf
  rcases Dynamic.DecoderSet.planFor?_cases hset hplan with ⟨message, hd, hfits⟩ | ⟨hnone, -, rfl⟩
  · rw [hd, Option.getD_some, hfits.classOf]
  · have hrel := Dynamic.DecoderSet.plan?_ofSchema hset name
    rw [hnone] at hrel
    cases hd : schema.declaration? name with
    | some message =>
      rw [hd] at hrel
      cases hrel
    | none => exact (Plan.fits_rawFields name).classOf number

namespace Dynamic

open Reader

namespace Message

/-- The field that the rule's oneof gives up. -/
def former? (m : Message) (rule : Rule) : Option Nat := rule.oneof?.bind m.whichOneof

theorem get?_hold (m : Message) (rule : Rule) (v : Value) (number : Nat) :
    (m.hold rule (some v)).fields.get? number =
      if number = rule.number then some v
      else if m.former? rule = some number then none
      else m.fields.get? number := get?_place ..

theorem whichOneof_hold (m : Message) (rule : Rule) (v : Value) (oneof : String) :
    (m.hold rule (some v)).whichOneof oneof =
      if rule.oneof? = some oneof then some rule.number else m.whichOneof oneof :=
  whichOneof_place ..

variable (m : Message) (rule : Rule) (held : Option Value)

@[simp] theorem name_hold : (m.hold rule held).name = m.name := by
  cases held with
  | none => rfl
  | some v => exact m.name_place rule.number v rule.oneof?

@[simp] theorem unknown_hold : (m.hold rule held).unknown = m.unknown := by
  cases held with
  | none => rfl
  | some v => exact m.unknown_place rule.number v rule.oneof?

@[simp] theorem extensions_hold : (m.hold rule held).extensions = m.extensions := by
  cases held with
  | none => rfl
  | some v => exact m.extensions_place rule.number v rule.oneof?

theorem keepUnclaimed_hold (plan : Plan) (number : Nat) (raw : Bytes) :
    keepUnclaimed plan number raw (m.hold rule held) =
      (keepUnclaimed plan number raw m).hold rule held := by
  cases held with
  | none => rfl
  | some v =>
    unfold keepUnclaimed hold place
    split
    · cases rule.oneof? <;> rfl
    · split <;> cases rule.oneof? <;> rfl

/-- Extensions and unknown fields are kept apart. -/
theorem keepUnclaimed_comm {plan : Plan} {number other : Nat}
    (h : plan.isExtension number ≠ plan.isExtension other) (raw raw' : Bytes) :
    keepUnclaimed plan other raw' (keepUnclaimed plan number raw m) =
      keepUnclaimed plan number raw (keepUnclaimed plan other raw' m) := by
  unfold keepUnclaimed
  cases hn : plan.isExtension number <;> cases ho : plan.isExtension other
  case false.false | true.true => exact absurd (hn.trans ho.symm) h
  all_goals cases plan.preserveUnknown <;> rfl

end Message

/-- The maps of a message are in order, and each oneof holds one of its members. -/
structure Tidy (plan : Plan) (m : Message) : Prop where
  fields : m.fields.Sorted
  oneofs : m.oneofs.Sorted
  member : ∀ oneof number, m.whichOneof oneof = some number → plan.classOf number = .oneof oneof

theorem tidy_ofName (plan : Plan) (name : String) : Tidy plan (Message.ofName name) where
  fields := SortedMap.sorted_empty
  oneofs := SortedMap.sorted_empty
  member _ _ h := by cases h

section Hold

variable {m : Message} {plan : Plan} {rule other : Rule} {held held' : Option Value}
  (hm : Tidy plan m)
include hm

theorem Tidy.classOf_former {number : Nat} (h : m.former? rule = some number) :
    plan.classOf number = rule.recordClass := by
  obtain ⟨oneof, hone, hwhich⟩ := Option.bind_eq_some_iff.1 h
  rw [hm.member oneof number hwhich, Rule.recordClass_of_oneof hone]

theorem Tidy.hold (hrule : plan.classOf rule.number = rule.recordClass) :
    Tidy plan (m.hold rule held) := by
  cases held with
  | none => exact hm
  | some v =>
    refine ⟨Message.sortedFields_place _ _ _ hm.fields, Message.sortedOneofs_place _ _ _ hm.oneofs,
      fun oneof number hwhich => ?_⟩
    rw [Message.whichOneof_hold] at hwhich
    split at hwhich
    · rename_i hone
      cases hwhich
      rw [hrule, Rule.recordClass_of_oneof hone]
    · exact hm.member oneof number hwhich

theorem Tidy.keepUnclaimed {number : Nat} {raw : Bytes} :
    Tidy plan (keepUnclaimed plan number raw m) := by
  refine ⟨?_, ?_, ?_⟩
  · rw [fields_keepUnclaimed]
    exact hm.fields
  · rw [oneofs_keepUnclaimed]
    exact hm.oneofs
  · intro oneof number hwhich
    rw [Message.whichOneof, oneofs_keepUnclaimed] at hwhich
    exact hm.member oneof number hwhich

variable (hrule : plan.classOf rule.number = rule.recordClass)
  (hother : plan.classOf other.number = other.recordClass)
  (hne : rule.recordClass ≠ other.recordClass)
include hother hne

theorem Tidy.former_ne : m.former? rule ≠ some other.number := by
  intro h
  exact hne ((hm.classOf_former h).symm.trans hother)

omit hm hother in
/-- No record changes which member another oneof gives up. -/
theorem Message.former?_hold : (m.hold rule held).former? other = m.former? other := by
  cases held with
  | none => rfl
  | some v =>
    unfold former?
    cases hone : other.oneof? with
    | none => rfl
    | some oneof =>
      have hrule : rule.oneof? ≠ some oneof := by
        intro h
        exact hne (by rw [Rule.recordClass_of_oneof h, Rule.recordClass_of_oneof hone])
      rw [Option.bind_some, Option.bind_some, whichOneof_hold, if_neg hrule]

omit hm hother in
theorem Message.whichOneof_hold_comm (v v' : Value) (oneof : String) :
    ((m.hold rule (some v)).hold other (some v')).whichOneof oneof =
      ((m.hold other (some v')).hold rule (some v)).whichOneof oneof := by
  simp only [whichOneof_hold]
  split
  · rename_i ho
    rw [if_neg]
    intro hr
    exact hne (by rw [Rule.recordClass_of_oneof hr, Rule.recordClass_of_oneof ho])
  · rfl

include hrule

omit hm in
theorem Tidy.number_ne : other.number ≠ rule.number := by
  intro h
  exact hne (by rw [← hrule, ← hother, h])

/-- No record changes a field of another class. -/
theorem Tidy.get?_hold : (m.hold rule held).fields.get? other.number =
    m.fields.get? other.number := by
  cases held with
  | none => rfl
  | some v =>
    rw [Message.get?_hold, if_neg (number_ne hrule hother hne), if_neg (hm.former_ne hother hne)]

theorem Tidy.get?_hold_comm (v v' : Value) (number : Nat) :
    ((m.hold rule (some v)).hold other (some v')).fields.get? number =
      ((m.hold other (some v')).hold rule (some v)).fields.get? number := by
  have hnumber := number_ne hrule hother hne
  have hformer := hm.former_ne hother hne
  have hformer' := hm.former_ne hrule hne.symm
  simp only [Message.get?_hold, Message.former?_hold hne, Message.former?_hold hne.symm]
  by_cases hr : number = rule.number
  · subst hr
    simp [hnumber.symm, hformer']
  · by_cases ho : number = other.number
    · subst ho
      simp [hnumber, hformer]
    · simp only [if_neg hr, if_neg ho]
      split <;> split <;> rfl

/-- Values are put in in any order. -/
theorem Tidy.hold_comm : (m.hold rule held).hold other held' =
    (m.hold other held').hold rule held := by
  cases held with
  | none => rfl
  | some v =>
    cases held' with
    | none => rfl
    | some v' =>
      have hleft : Tidy plan ((m.hold rule (some v)).hold other (some v')) :=
        (hm.hold hrule).hold hother
      have hright : Tidy plan ((m.hold other (some v')).hold rule (some v)) :=
        (hm.hold hother).hold hrule
      have hfields := SortedMap.ext_of_get? hleft.fields hright.fields
        (hm.get?_hold_comm hrule hother hne v v')
      have honeofs := SortedMap.ext_of_get? hleft.oneofs hright.oneofs
        (Message.whichOneof_hold_comm hne v v')
      exact Message.ext_of (by simp) hfields honeofs (by simp) (by simp)

end Hold

/-- What a record makes of a message: its rule puts in what it makes of what its field holds;
without a rule the record is kept or dropped as it is. -/
inductive Turns (nested : Nested) (plan : Plan) (r : Record) (m : Message) : Message → Prop where
  | claimed {rule : Rule} {held : Option Value} : plan.rule? r.number = some rule →
      nested.next rule r.key (m.fields.get? rule.number) r.value = .ok held [] →
      Turns nested plan r m (m.hold rule held)
  | unclaimed : plan.rule? r.number = none →
      Turns nested plan r m (keepUnclaimed plan r.number r.raw m)

section Turns

variable {nested : Nested} {plan : Plan}

theorem Tidy.turns {r : Record} {m m' : Message} (hm : Tidy plan m) (h : Turns nested plan r m m') :
    Tidy plan m' := by
  cases h with
  | claimed hrule => exact hm.hold (Plan.classOf_number hrule)
  | unclaimed => exact hm.keepUnclaimed

/-- Records of different classes may be exchanged. -/
theorem exchanges_turns (nested : Nested) (plan : Plan) :
    Exchanges (Turns nested plan) (fun r => plan.classOf r.number) (Tidy plan) where
  keeps _ _ _ hm h := hm.turns h
  swap r r' m mid last hm hne hfirst hsecond := by
    cases hfirst with
    | @claimed rule held hrule hnext =>
      cases hsecond with
      | @claimed rule' held' hrule' hnext' =>
        rw [Plan.classOf_rule hrule, Plan.classOf_rule hrule'] at hne
        have hclass := Plan.classOf_number hrule
        have hclass' := Plan.classOf_number hrule'
        rw [hm.get?_hold hclass hclass' hne] at hnext'
        rw [← hm.get?_hold hclass' hclass hne.symm] at hnext
        rw [hm.hold_comm hclass hclass' hne]
        exact ⟨_, .claimed hrule' hnext', .claimed hrule hnext⟩
      | unclaimed hnone =>
        rw [Message.keepUnclaimed_hold]
        refine ⟨_, .unclaimed hnone, .claimed hrule ?_⟩
        rw [fields_keepUnclaimed]
        exact hnext
    | unclaimed hnone =>
      cases hsecond with
      | @claimed rule' held' hrule' hnext' =>
        rw [fields_keepUnclaimed] at hnext'
        rw [← Message.keepUnclaimed_hold]
        exact ⟨_, .claimed hrule' hnext', .unclaimed hnone⟩
      | unclaimed hnone' =>
        have hx : plan.isExtension r.number ≠ plan.isExtension r'.number := by
          intro hx
          exact hne (by simp only [Plan.classOf, hnone, hnone', hx])
        rw [Message.keepUnclaimed_comm _ hx]
        exact ⟨_, .unclaimed hnone', .unclaimed hnone⟩

variable {message : ProtoPlan.Message} (hfits : Plan.Fits message plan) {budget : Nat}
  (hclaims : ClaimsByFrame fun key ((m, seen) : Message × List Nat) =>
    (plan.rule? key.number).map fun rule => nested.apply rule key m seen)
include hfits hclaims

/-- A record that a rule claims: what is made of the field is put in. -/
theorem takes_claimed_iff {r : Record} (hr : Takes (record budget) r.raw r) {rule : Rule}
    (hrule : plan.rule? r.number = some rule) {m m' : Message} {seen seen' : List Nat} :
    Takes (mergeRecord budget nested plan (m, seen)) r.raw (m', seen') ↔
      ∃ held, nested.next rule r.key (m.fields.get? rule.number) r.value = .ok held [] ∧
        m' = m.hold rule held ∧ seen' = rule.bits ++ seen := by
  have hclaimed : ((plan.rule? r.key.number).map fun rule => nested.apply rule r.key m seen) =
      some (nested.apply rule r.key m seen) := congrArg (Option.map _) hrule
  obtain ⟨field, -, -, hfit⟩ := hfits.of_rule? hrule
  have happly : nested.apply rule r.key m seen = _ := Nested.apply_eq_next hfit r.key m seen
  have hrun : nested.apply rule r.key m seen r.value = .ok (m', seen') [] ↔
      ∃ held, nested.next rule r.key (m.fields.get? rule.number) r.value = .ok held [] ∧
        m' = m.hold rule held ∧ seen' = rule.bits ++ seen := by
    rw [happly, bind_eq_ok_iff]
    constructor
    · intro h
      obtain ⟨held, rest, hnext, hpure⟩ := h
      cases hpure
      exact ⟨held, hnext, rfl, rfl⟩
    · intro h
      obtain ⟨held, hnext, rfl, rfl⟩ := h
      exact ⟨held, [], hnext, rfl⟩
  rw [← hrun]
  constructor
  · intro h
    have hvalue := value_of_field hclaims hr h
    dsimp only at hvalue
    rw [hclaimed] at hvalue
    exact hvalue.ends
  · intro h
    obtain ⟨keyBytes, hraw, hkey, -⟩ := value_of_record hr
    have hframe := @hclaims r.key (m, seen) _ hclaimed
    rw [hraw]
    exact hkey.field hclaimed (hframe.framed.isLocal.takes h)

omit hfits hclaims in
/-- A record that no rule claims is kept or dropped as it is. -/
theorem takes_unclaimed_iff {r : Record} (hr : Takes (record budget) r.raw r)
    (hnone : plan.rule? r.number = none) {m m' : Message} {seen seen' : List Nat} :
    Takes (mergeRecord budget nested plan (m, seen)) r.raw (m', seen') ↔
      m' = keepUnclaimed plan r.number r.raw m ∧ seen' = seen := by
  have hclaimed : ((plan.rule? r.key.number).map fun rule => nested.apply rule r.key m seen) =
      none := congrArg (Option.map _) hnone
  obtain ⟨keyBytes, hraw, hkey, hskip⟩ := value_of_record hr
  have htakes : Takes (mergeRecord budget nested plan (m, seen)) r.raw
      (keepUnclaimed plan r.number r.raw m, seen) := by
    rw [hraw]
    exact hkey.field_unclaimed hclaimed hskip
  constructor
  · intro h
    cases h.unique htakes
    exact ⟨rfl, rfl⟩
  · intro h
    obtain ⟨rfl, rfl⟩ := h
    exact htakes

/-- Which bits were seen does not matter to what a record makes of the message. -/
theorem takes_mergeRecord_iff {r : Record} (hr : Takes (record budget) r.raw r) {m m' : Message}
    {seen : List Nat} :
    (∃ seen', Takes (mergeRecord budget nested plan (m, seen)) r.raw (m', seen')) ↔
      Turns nested plan r m m' := by
  constructor
  · intro h
    obtain ⟨seen', h⟩ := h
    cases hrule : plan.rule? r.number with
    | none =>
      obtain ⟨rfl, -⟩ := (takes_unclaimed_iff hr hrule).1 h
      exact .unclaimed hrule
    | some rule =>
      obtain ⟨held, hnext, rfl, -⟩ := (takes_claimed_iff hfits hclaims hr hrule).1 h
      exact .claimed hrule hnext
  · intro h
    cases h with
    | claimed hrule hnext =>
      exact ⟨_, (takes_claimed_iff hfits hclaims hr hrule).2 ⟨_, hnext, rfl, rfl⟩⟩
    | unclaimed hnone => exact ⟨_, (takes_unclaimed_iff hr hnone).2 ⟨rfl, rfl⟩⟩

/-- What the records of a buffer make of a message, one after the other. -/
theorem exists_steps_iff {records : List Record}
    (hrecords : ∀ r ∈ records, Takes (record budget) r.raw r) {m m' : Message} {seen : List Nat} :
    (∃ seen', Steps (mergeRecord budget nested plan) (m, seen) (records.map (·.raw)) (m', seen')) ↔
      RunsTo (Turns nested plan) records m m' := by
  induction records generalizing m seen with
  | nil =>
    constructor
    · intro h
      obtain ⟨seen', h⟩ := h
      cases h
      exact .done _
    · intro h
      cases h
      exact ⟨seen, .done _⟩
  | cons r records ih =>
    obtain ⟨hr, hrecords⟩ := List.forall_mem_cons.1 hrecords
    constructor
    · intro h
      obtain ⟨seen', h⟩ := h
      cases h with
      | @more _ next _ _ _ hne ht hmore =>
        obtain ⟨mid, seenMid⟩ := next
        exact .more ((takes_mergeRecord_iff hfits hclaims hr).1 ⟨seenMid, ht⟩)
          ((ih hrecords).1 ⟨seen', hmore⟩)
    · intro h
      cases h with
      | more hturn hmore =>
        obtain ⟨seenMid, ht⟩ := (takes_mergeRecord_iff hfits hclaims hr).2 hturn
        obtain ⟨seen', hsteps⟩ := (ih hrecords).2 hmore
        exact ⟨seen', .more (record_ne_nil hr) ht hsteps⟩

end Turns

/-- Only the order within each class matters: a buffer that is accepted may have its records in any
order that keeps those of each field, of each oneof, of the extensions and of the unknown fields
apart as they stand, and decodes to the same message. -/
theorem decode_reorder {options : Options} {schema : Schema} {set : DecoderSet}
    (hset : DecoderSet.ofSchema options schema = .ok set) {name : String} {bytes : Bytes}
    {m : Message} (h : set.decode name bytes = .ok m) :
    ∃ records, (Reader.records Cursor.defaultBudget).run bytes = .ok records ∧
      records.flatMap (·.raw) = bytes ∧
      ∀ records' : List Record, records'.Perm records →
        SameWithin (fun r => schema.classOf name r.number) records' records →
        set.decode name (records'.flatMap (·.raw)) = .ok m := by
  obtain ⟨plan, rest, hplan, hmerge⟩ := DecoderSet.decode_eq_ok_iff.1 h
  obtain ⟨message, hfits, -⟩ := DecoderSet.exists_fits hset hplan
  have hframed : FramedPlan (set.nested Cursor.defaultBudget) plan :=
    framedPlan_ofSchema hset hplan (set.framed_nested Cursor.defaultBudget)
  have hclaims := claimsByFrame_ofSchema hset hplan Cursor.defaultBudget
  obtain ⟨records, seen, hrecords, rfl, hsteps⟩ := records_of_mergeByPlan hframed hmerge
  refine ⟨records, run_eq_ok_iff.2 ⟨[], records_flatMap hrecords⟩, rfl, ?_⟩
  intro records' hperm horder
  have hrecords' (r : Record) (hr : r ∈ records') : Takes (record Cursor.defaultBudget) r.raw r :=
    hrecords r (hperm.mem_iff.1 hr)
  have hrun := (exists_steps_iff hfits hclaims hrecords).1 ⟨seen, hsteps⟩
  rw [← Plan.classOf_ofSchema hset hplan] at horder
  have hrun' := hrun.reorder (exchanges_turns _ plan) horder (tidy_ofName plan name)
  obtain ⟨seen', hsteps'⟩ := (exists_steps_iff hfits hclaims hrecords').2 hrun'
  -- Bits were set in another order, but required fields are counted by record.
  have hcomplete : ∀ bit < plan.requiredCount, bit ∈ seen := by
    obtain ⟨last, hdrain, hcomplete⟩ := mergeByPlan_eq_ok_iff.1 hmerge
    rw [List.flatMap_def, hsteps.drain] at hdrain
    cases hdrain
    exact hcomplete
  have hall := (complete_iff hfits hframed hrecords hsteps).1 hcomplete
  have hcomplete' : ∀ bit < plan.requiredCount, bit ∈ seen' := by
    apply (complete_iff hfits hframed hrecords' hsteps').2
    intro field hf hrequired
    obtain ⟨r, hr, hnumber⟩ := hall field hf hrequired
    exact ⟨r, hperm.mem_iff.2 hr, hnumber⟩
  have hdrain := hsteps'.drain
  rw [← List.flatMap_def] at hdrain
  exact DecoderSet.decode_eq_ok_iff.2
    ⟨plan, [], hplan, mergeByPlan_eq_ok_iff.2 ⟨seen', hdrain, hcomplete'⟩⟩

/-- Two members of a oneof stay in order, and so do two records of a field, while all else moves. -/
theorem decode_reorder_mixed :
    let schema : Schema :=
      { messages := [{ name := "M", fields := [.singular "f" 1 (.scalar .int32),
                                               ⟨"a", 2, .scalar .int32, .oneof "o"⟩,
                                               ⟨"b", 3, .scalar .int32, .oneof "o"⟩,
                                               ⟨"r", 4, .scalar .int32, .required⟩],
                       extensionRanges := [⟨100, 200⟩] }] }
    ∃ set m, DecoderSet.ofSchema {} schema = .ok set ∧
      set.decode "M" [8, 1, 0x10, 2, 0xa0, 6, 3, 0x50, 4, 0x18, 5, 0x20, 6, 8, 7] = .ok m ∧
      set.decode "M" [0x50, 4, 0x20, 6, 0x10, 2, 8, 1, 8, 7, 0xa0, 6, 3, 0x18, 5] = .ok m := by
  intro schema
  have hrun : ((DecoderSet.ofSchema {} schema).toOption.bind fun set =>
      (set.decode "M" [8, 1, 0x10, 2, 0xa0, 6, 3, 0x50, 4, 0x18, 5, 0x20, 6, 8, 7]).toOption).isSome =
        true := by
    rw [DecoderSet.ofSchema_eq, Schema.plans_eq rfl]
    decide +kernel
  obtain ⟨set, m, hset, hm⟩ := exists_ok_ok_of_isSome hrun
  obtain ⟨records, hrecords, -, hreorder⟩ := decode_reorder hset hm
  have hcut : (Reader.records Cursor.defaultBudget).run
      [8, 1, 0x10, 2, 0xa0, 6, 3, 0x50, 4, 0x18, 5, 0x20, 6, 8, 7] =
      .ok [⟨⟨1, .varint⟩, [8, 1]⟩, ⟨⟨2, .varint⟩, [0x10, 2]⟩, ⟨⟨100, .varint⟩, [0xa0, 6, 3]⟩,
        ⟨⟨10, .varint⟩, [0x50, 4]⟩, ⟨⟨3, .varint⟩, [0x18, 5]⟩, ⟨⟨4, .varint⟩, [0x20, 6]⟩,
        ⟨⟨1, .varint⟩, [8, 7]⟩] := by decide +kernel
  rw [hcut] at hrecords
  cases hrecords
  have hsame := hreorder
    [⟨⟨10, .varint⟩, [0x50, 4]⟩, ⟨⟨4, .varint⟩, [0x20, 6]⟩, ⟨⟨2, .varint⟩, [0x10, 2]⟩,
      ⟨⟨1, .varint⟩, [8, 1]⟩, ⟨⟨1, .varint⟩, [8, 7]⟩, ⟨⟨100, .varint⟩, [0xa0, 6, 3]⟩,
      ⟨⟨3, .varint⟩, [0x18, 5]⟩] (by decide +kernel) (by decide +kernel)
  exact ⟨set, m, hset, hm, hsame⟩

end Dynamic

end ProtoPlan
