import ProtoPlan.Proofs.Dynamic.Concatenation
import ProtoPlan.Proofs.Dynamic.Embedded
import ProtoPlan.Proofs.Dynamic.Reordering

/-!
What a field holds that each of its records overwrites. The last record counts, over all buffers
that are merged one after the other, and its value is the one that it has by itself. The members of
a oneof share this: its last record, whichever member it is of, leaves the only one that is held.
-/

namespace ProtoPlan

open Wire Schema

/-- Each record of the field takes the place of what was held before: that of a single value which
is no message, or of any member of a oneof. -/
def Schema.Field.IsOverwritten (field : Field) : Prop :=
  field.isInline = true ∧ (field.oneof? = none → field.kind.isMessage = false)

theorem FieldRule.Fits.store_ne_append {field : Field} {bit : Option Nat} {rule : FieldRule}
    (hfits : FieldRule.Fits field bit rule) (hin : field.isInline = true) :
    rule.store ≠ .append := by
  intro hstore
  have hs := hfits.store
  rw [hstore] at hs
  cases hs with
  | append hc => exact absurd hc (Field.cardinality_ne_repeated hin)
  | set _ _ _ hor => simp at hor

theorem Schema.Field.recordClass_eq_oneof_iff {field : Field} {oneof : String} :
    field.recordClass = .oneof oneof ↔ field.oneof? = some oneof := by
  unfold recordClass
  cases field.oneof? <;> simp

theorem Rule.recordClass_eq_oneof_iff {rule : Rule} {oneof : String} :
    rule.recordClass = .oneof oneof ↔ rule.oneof? = some oneof := by
  unfold recordClass
  cases rule.oneof? <;> simp

theorem Schema.Field.recordClass_eq_field_iff {field : Field} {number : Nat} :
    field.recordClass = .field number ↔ field.oneof? = none ∧ field.number = number := by
  unfold recordClass
  cases field.oneof? <;> simp

theorem Plan.classOf_of_none {plan : Plan} {number : Nat} (h : plan.rule? number = none) :
    plan.classOf number = .extension ∨ plan.classOf number = .unknown := by
  simp only [classOf, h]
  split
  · exact .inl rfl
  · exact .inr rfl

/-- The last of the records of a class. -/
def Schema.last? (schema : Schema) (name : String) (c : RecordClass) (records : List Record) :
    Option Record :=
  (records.filter fun r => schema.classOf name r.number = c).getLast?

section Last

variable {schema : Schema} {name : String} {c : RecordClass} {records : List Record} {r : Record}

theorem Schema.last?_of_eq (h : schema.classOf name r.number = c) :
    schema.last? name c (records ++ [r]) = some r := by
  simp [last?, h]

theorem Schema.last?_of_ne (h : schema.classOf name r.number ≠ c) :
    schema.last? name c (records ++ [r]) = schema.last? name c records := by
  simp [last?, h]

theorem Schema.classOf_last? (h : schema.last? name c records = some r) :
    schema.classOf name r.number = c := by
  have hmem := List.mem_of_getLast? h
  simpa using (List.mem_filter.1 hmem).2

end Last

section Class

theorem Schema.Field.isOverwritten_of_oneof {field : Field} {oneof : String}
    (h : field.oneof? = some oneof) : field.IsOverwritten := by
  refine ⟨?_, fun hnone => absurd (hnone.symm.trans h) (by simp)⟩
  unfold oneof? at h
  unfold isInline
  cases hc : field.cardinality <;> simp_all

variable {schema : Schema} {name : String}

/-- A number of the class of a oneof, or of a field, is declared. -/
theorem Schema.exists_field_of_classOf {number : Nat} {c : RecordClass}
    (h : schema.classOf name number = c) (hext : c ≠ .extension) (hunknown : c ≠ .unknown) :
    ∃ field ∈ schema.fieldsOf name, field.number = number ∧ field.recordClass = c := by
  have hfields : ((schema.declaration? name).getD { name := name }).fields =
      schema.fieldsOf name := by
    unfold fieldsOf
    cases schema.declaration? name <;> rfl
  rw [classOf, Message.classOf, hfields] at h
  split at h
  · rename_i field hfind
    exact ⟨field, List.mem_of_find?_eq_some hfind, by simpa using List.find?_some hfind, h⟩
  · split at h
    · exact absurd h.symm hext
    · exact absurd h.symm hunknown

variable (hnodup : ((schema.fieldsOf name).map (·.number)).Nodup)
include hnodup

theorem Schema.eq_of_number {field other : Field} (hf : field ∈ schema.fieldsOf name)
    (ho : other ∈ schema.fieldsOf name) (h : other.number = field.number) : other = field :=
  List.inj_on_of_nodup_map hnodup ho hf h

theorem Schema.classOf_of_mem {field : Field} (hf : field ∈ schema.fieldsOf name) :
    schema.classOf name field.number = field.recordClass := by
  have hdeclared : ∃ message, schema.declaration? name = some message ∧
      message.fields = schema.fieldsOf name := by
    unfold fieldsOf at hf ⊢
    cases hd : schema.declaration? name with
    | some message => exact ⟨message, rfl, rfl⟩
    | none =>
      rw [hd] at hf
      cases hf
  obtain ⟨message, hd, hfields⟩ := hdeclared
  rw [classOf, hd, Option.getD_some, Message.classOf, hfields, find?_key hnodup hf]

/-- Fields that share their records' class are members of one oneof, or one field. -/
theorem Schema.Field.IsOverwritten.congr {field other : Field} (hf : field ∈ schema.fieldsOf name)
    (ho : other ∈ schema.fieldsOf name) (hover : field.IsOverwritten)
    (hsame : other.recordClass = field.recordClass) : other.IsOverwritten := by
  cases hone : field.oneof? with
  | some oneof =>
    rw [recordClass_eq_oneof_iff.2 hone, recordClass_eq_oneof_iff] at hsame
    exact isOverwritten_of_oneof hsame
  | none =>
    rw [recordClass_eq_field_iff.2 ⟨hone, rfl⟩, recordClass_eq_field_iff] at hsame
    rwa [Schema.eq_of_number hnodup hf ho hsame.2]

/-- The records of a field outside of oneofs are those of its number. -/
theorem Schema.last?_of_field {field : Field} (hf : field ∈ schema.fieldsOf name)
    (hone : field.oneof? = none) (records : List Record) :
    schema.last? name (.field field.number) records =
      (records.filter (·.number = field.number)).getLast? := by
  have hclass : field.recordClass = .field field.number :=
    Field.recordClass_eq_field_iff.2 ⟨hone, rfl⟩
  unfold last?
  congr 1
  apply List.filter_congr
  intro r _
  by_cases hn : r.number = field.number
  · simp [hn, classOf_of_mem hnodup hf, hclass]
  · have hne : schema.classOf name r.number ≠ .field field.number := by
      intro hc
      obtain ⟨other, -, hnumber, hother⟩ := exists_field_of_classOf hc (by simp) (by simp)
      exact hn (hnumber.symm.trans (Field.recordClass_eq_field_iff.1 hother).2)
    simp [hn, hne]

end Class

namespace Dynamic

open Reader

/-- The value that a record of a kind has by itself, with a budget for the levels inside. -/
inductive DecoderSet.Fresh (set : DecoderSet) (budget : Nat) : Kind → Record → Value → Prop where
  | scalar {kind : Scalar} {r : Record} {v : ScalarValue} :
      kind.read r.value = .ok v [] → Fresh set budget (.scalar kind) r (.scalar v)
  | string {r : Record} {payload : Bytes} {text : String} :
      r.payload? = some payload → String.fromUTF8? payload.toByteArray = some text →
        Fresh set budget .string r (.text text)
  | bytes {r : Record} {payload : Bytes} :
      r.payload? = some payload → Fresh set budget .bytes r (.bytes payload)
  | message {type : String} {r : Record} {payload : Bytes} {m : Message} :
      r.payload? = some payload →
      set.mergeWithin budget (Message.ofName (trimDots type)) payload = .ok m →
        Fresh set budget (.message type) r (.message m)

section Value

variable {set : DecoderSet} {budget : Nat}

theorem DecoderSet.fresh_of_valueOf {field : String} {kind : Kind} {r : Record} {v : Value}
    (hkey : r.key.wireType = kind.wireType)
    (h : (set.nested (budget + 1)).valueOf field kind r.value = .ok v []) :
    set.Fresh budget kind r v := by
  cases kind with
  | scalar kind =>
    obtain ⟨a, rest, ha, hv⟩ := bind_eq_ok_iff.1 h
    cases hv
    exact .scalar ha
  | string =>
    obtain ⟨a, rest, ha, hv⟩ := bind_eq_ok_iff.1 h
    cases hv
    obtain ⟨payload, rest, hspan, htext⟩ := bind_eq_ok_iff.1 ha
    cases hutf8 : String.fromUTF8? payload.toByteArray with
    | some text =>
      rw [hutf8] at htext
      cases htext
      exact .string (payload?_of_span hkey hspan) hutf8
    | none =>
      rw [hutf8] at htext
      cases htext
  | bytes =>
    obtain ⟨payload, rest, hspan, hv⟩ := bind_eq_ok_iff.1 h
    cases hv
    exact .bytes (payload?_of_span hkey hspan)
  | message type =>
    obtain ⟨m, rest, hm, hv⟩ := bind_eq_ok_iff.1 h
    cases hv
    rw [nested_message] at hm
    obtain ⟨lower, payload, hlower, hpayload, hrun⟩ := payload?_of_nested hkey hm
    obtain rfl : budget = lower := Nat.succ.inj hlower
    exact .message hpayload hrun
  | group => cases h

/-- What is overwritten is not looked at. -/
theorem Nested.nextSingle_of_isOverwritten (nested : Nested) {field : Field} {bit : Option Nat}
    {rule : FieldRule} (hfits : FieldRule.Fits field bit rule) (hover : field.IsOverwritten)
    (current : Option Value) :
    nested.nextSingle rule current = nested.valueOf rule.name field.kind := by
  rw [← value_eq hfits.read]
  have hs := hfits.store
  unfold nextSingle
  split
  · rename_i hstore
    exact absurd hstore (hfits.store_ne_append hover.1)
  · rename_i hstore _
    rw [hstore] at hs
    cases hs with
    | merge _ hone hm =>
      rw [hover.2 hone] at hm
      cases hm
    | set _ _ _ hor => simp at hor
  · rfl

/-- A record of a field that is overwritten leaves the value that it has by itself. -/
theorem Nested.fresh_of_next {field : Field} {bit : Option Nat} {rule : Rule}
    (hfits : Rule.Fits field bit rule) (hover : field.IsOverwritten) {r : Record}
    {current held : Option Value}
    (h : (set.nested (budget + 1)).next rule r.key current r.value = .ok held []) :
    ∃ v, held = some v ∧ set.Fresh budget field.kind r v := by
  cases hfits with
  | map hc => exact absurd hc (Field.cardinality_ne_map hover.1 _ _)
  | @field rule hfits =>
    have hpacked : rule.packed.isSome = false := by
      rw [← Bool.not_eq_true, hfits.packed]
      exact fun hp => hfits.store_ne_append hover.1 hp.1
    simp only [next, hpacked, Bool.false_and, Bool.false_eq_true, if_false] at h
    obtain ⟨hkey, h⟩ := expect_eq_ok h
    obtain ⟨v, rest, hv, hheld⟩ := bind_eq_ok_iff.1 h
    cases hheld
    rw [Nested.nextSingle_of_isOverwritten _ hfits hover] at hv
    exact ⟨v, rfl, DecoderSet.fresh_of_valueOf (hkey.trans hfits.wireType) hv⟩

end Value

/-- What the records that a message was merged from have left in it, as far as they overwrite each
other. -/
structure LastWins (set : DecoderSet) (schema : Schema) (name : String) (records : List Record)
    (m : Message) : Prop where
  /-- Each oneof tells the member of its last record. -/
  which : ∀ oneof, m.whichOneof oneof = (schema.last? name (.oneof oneof) records).map (·.number)
  /-- Each field holds what the last record of its class has by itself, if that is one of its
  own. -/
  holds : ∀ field ∈ schema.fieldsOf name, field.IsOverwritten →
    Option.Rel (set.Fresh (Cursor.defaultBudget - 1) field.kind)
      ((schema.last? name field.recordClass records).filter (·.number = field.number))
      (m.fields.get? field.number)

theorem lastWins_ofName (set : DecoderSet) (schema : Schema) (name : String) :
    LastWins set schema name [] (Message.ofName name) where
  which _ := rfl
  holds _ _ _ := .none

section Turn

variable {set : DecoderSet} {schema : Schema} {name : String} {records : List Record} {r : Record}
  {m m' : Message} (h : LastWins set schema name records m)
include h

/-- A oneof tells the member that is held. -/
theorem LastWins.which_iff {field : Field} (hf : field ∈ schema.fieldsOf name) {oneof : String}
    (hone : field.oneof? = some oneof) :
    m.whichOneof oneof = some field.number ↔ (m.fields.get? field.number).isSome = true := by
  have hheld := h.holds field hf (Field.isOverwritten_of_oneof hone)
  rw [h.which]
  rw [Field.recordClass_eq_oneof_iff.2 hone] at hheld
  generalize m.fields.get? field.number = held at hheld
  cases hlast : schema.last? name (.oneof oneof) records with
  | none =>
    rw [hlast] at hheld
    cases hheld
    simp
  | some last =>
    rw [hlast, Option.filter_some] at hheld
    by_cases hn : last.number = field.number
    · simp only [hn, decide_true, if_true] at hheld
      cases hheld
      simp [hn]
    · simp only [hn, decide_false, Bool.false_eq_true, if_false] at hheld
      cases hheld
      simp [hn]

/-- The number that a rule's oneof gives up is one of its members. -/
theorem LastWins.classOf_former {rule : Rule} {number : Nat}
    (hformer : m.former? rule = some number) :
    schema.classOf name number = rule.recordClass := by
  obtain ⟨oneof, hone, hwhich⟩ := Option.bind_eq_some_iff.1 hformer
  rw [h.which] at hwhich
  obtain ⟨r, hlast, rfl⟩ := Option.map_eq_some_iff.1 hwhich
  rw [Schema.classOf_last? hlast, Rule.recordClass_of_oneof hone]

theorem LastWins.holds_of_ne {field : Field} (hf : field ∈ schema.fieldsOf name)
    (hover : field.IsOverwritten) (hne : schema.classOf name r.number ≠ field.recordClass)
    (hsame : m'.fields.get? field.number = m.fields.get? field.number) :
    Option.Rel (set.Fresh (Cursor.defaultBudget - 1) field.kind)
      ((schema.last? name field.recordClass (records ++ [r])).filter (·.number = field.number))
      (m'.fields.get? field.number) := by
  rw [Schema.last?_of_ne hne, hsame]
  exact h.holds field hf hover

/-- A record of the class of a field leaves that field with the record's own value, or, if it is of
another member of the oneof, with none. -/
theorem LastWins.holds_of_eq (hnodup : ((schema.fieldsOf name).map (·.number)).Nodup)
    {field other : Field} (hf : field ∈ schema.fieldsOf name)
    (ho : other ∈ schema.fieldsOf name) (hnumber : other.number = r.number) {rule : Rule}
    (hrule : rule.number = r.number) (hone : rule.oneof? = other.oneof?)
    (hsame : other.recordClass = field.recordClass) {v : Value}
    (hfresh : set.Fresh (Cursor.defaultBudget - 1) other.kind r v) :
    Option.Rel (set.Fresh (Cursor.defaultBudget - 1) field.kind)
      ((schema.last? name field.recordClass (records ++ [r])).filter (·.number = field.number))
      ((m.hold rule (some v)).fields.get? field.number) := by
  have hclassOf : schema.classOf name r.number = field.recordClass := by
    rw [← hnumber, Schema.classOf_of_mem hnodup ho, hsame]
  rw [Schema.last?_of_eq hclassOf, Message.get?_hold, hrule, Option.filter_some]
  by_cases hn : r.number = field.number
  · have heq : other = field := Schema.eq_of_number hnodup hf ho (hnumber.trans hn)
    rw [heq] at hfresh
    simpa [hn] using hfresh
  · have hne : ¬ field.number = r.number := fun heq => hn heq.symm
    have hnone : (if m.former? rule = some field.number then none
        else m.fields.get? field.number) = none := by
      split
      · rfl
      · rename_i hformer
        -- Two numbers of one class are members of a oneof, and what it held it has given up.
        cases hoo : other.oneof? with
        | none =>
          rw [Field.recordClass_eq_field_iff.2 ⟨hoo, hnumber⟩, eq_comm,
            Field.recordClass_eq_field_iff] at hsame
          exact absurd hsame.2 hne
        | some oneof =>
          rw [Field.recordClass_eq_oneof_iff.2 hoo, eq_comm,
            Field.recordClass_eq_oneof_iff] at hsame
          rw [Message.former?, hone, hoo, Option.bind_some, h.which_iff hf hsame] at hformer
          simpa using hformer
    rw [if_neg hne, hnone]
    simp [hn]

section Claimed

variable {message : ProtoPlan.Message} {plan : Plan}
  (hclass : plan.classOf = schema.classOf name)
include hclass

/-- A record that no rule claims is of the class of no field. -/
theorem LastWins.unclaimed (hnone : plan.rule? r.number = none) :
    LastWins set schema name (records ++ [r]) (keepUnclaimed plan r.number r.raw m) := by
  have hkind := Plan.classOf_of_none hnone
  rw [hclass] at hkind
  constructor
  · intro oneof
    have hne : schema.classOf name r.number ≠ .oneof oneof := by
      rcases hkind with hkind | hkind <;> simp [hkind]
    rw [Schema.last?_of_ne hne, ← h.which, Message.whichOneof, oneofs_keepUnclaimed]
    rfl
  · intro field hf hover
    refine h.holds_of_ne hf hover ?_ (by rw [fields_keepUnclaimed])
    unfold Field.recordClass
    rcases hkind with hkind | hkind <;> cases field.oneof? <;> simp [hkind]

variable (hfits : Plan.Fits message plan) (hfields : message.fields = schema.fieldsOf name)
include hfits hfields

/-- A record that a rule claims: its value is what the oneof, or the field, then holds. -/
theorem LastWins.claimed {rule : Rule} (hrule : plan.rule? r.number = some rule)
    {held : Option Value}
    (hnext : (set.nested Cursor.defaultBudget).next rule r.key (m.fields.get? rule.number) r.value =
      .ok held []) :
    LastWins set schema name (records ++ [r]) (m.hold rule held) := by
  obtain ⟨other, ho, hnumber, hrulefits⟩ := hfits.of_rule? hrule
  rw [hfields] at ho
  have hnodup : ((schema.fieldsOf name).map (·.number)).Nodup := hfields ▸ hfits.numbers
  have hrulenumber : rule.number = r.number := hrulefits.number.trans hnumber
  have hclassOf : schema.classOf name r.number = rule.recordClass := by
    rw [← hclass, Plan.classOf_rule hrule]
  have hfresh (hover : other.IsOverwritten) :
      ∃ v, held = some v ∧ set.Fresh (Cursor.defaultBudget - 1) other.kind r v :=
    Nested.fresh_of_next hrulefits hover hnext
  constructor
  · intro oneof
    by_cases hone : rule.oneof? = some oneof
    · obtain ⟨v, rfl, -⟩ := hfresh (Field.isOverwritten_of_oneof (hrulefits.oneof? ▸ hone))
      rw [Rule.recordClass_of_oneof hone] at hclassOf
      rw [Message.whichOneof_hold, if_pos hone, Schema.last?_of_eq hclassOf, hrulenumber]
      rfl
    · have hne : schema.classOf name r.number ≠ .oneof oneof := by
        rw [hclassOf]
        exact fun heq => hone (Rule.recordClass_eq_oneof_iff.1 heq)
      rw [Schema.last?_of_ne hne, ← h.which]
      cases held with
      | none => rfl
      | some v => rw [Message.whichOneof_hold, if_neg hone]
  · intro field hf hover
    by_cases hsame : other.recordClass = field.recordClass
    · obtain ⟨v, rfl, hv⟩ := hfresh (hover.congr hnodup hf ho hsame)
      exact h.holds_of_eq hnodup hf ho hnumber hrulenumber hrulefits.oneof? hsame hv
    · rw [← hrulefits.recordClass] at hsame
      refine h.holds_of_ne hf hover (hclassOf ▸ hsame) ?_
      have hfieldclass := Schema.classOf_of_mem hnodup hf
      cases held with
      | none => rfl
      | some v =>
        have hne : field.number ≠ rule.number := by
          intro heq
          rw [heq, hrulenumber, hclassOf] at hfieldclass
          exact hsame hfieldclass
        have hformer : m.former? rule ≠ some field.number := by
          intro hformer
          exact hsame ((h.classOf_former hformer).symm.trans hfieldclass)
        rw [Message.get?_hold, if_neg hne, if_neg hformer]

theorem LastWins.turns (hturn : Turns (set.nested Cursor.defaultBudget) plan r m m') :
    LastWins set schema name (records ++ [r]) m' := by
  cases hturn with
  | claimed hrule hnext => exact h.claimed hclass hfits hfields hrule hnext
  | unclaimed hnone => exact h.unclaimed hclass hnone

theorem LastWins.runsTo {more : List Record}
    (hrun : RunsTo (Turns (set.nested Cursor.defaultBudget) plan) more m m') :
    LastWins set schema name (records ++ more) m' := by
  induction hrun generalizing records with
  | done => rwa [List.append_nil]
  | more hturn _ ih =>
    have hlast := ih (h.turns hclass hfits hfields hturn)
    rwa [List.append_assoc, List.singleton_append] at hlast

end Claimed

end Turn

section Merge

variable {options : Options} {schema : Schema} {set : DecoderSet}
  (hset : DecoderSet.ofSchema options schema = .ok set) {name : String} {records : List Record}
  {m m' : Message}
include hset

theorem LastWins.merge (h : LastWins set schema name records m) (hname : m.name = name)
    {bytes : Bytes} (hmerge : set.merge m bytes = .ok m') :
    ∃ more, (Reader.records Cursor.defaultBudget).run bytes = .ok more ∧ m'.name = name ∧
      LastWins set schema name (records ++ more) m' := by
  have hsame : m'.name = m.name := by
    obtain ⟨rest, hmerge⟩ := run_eq_ok_iff.1 hmerge
    exact DecoderSet.name_of_mergeWith hmerge
  obtain ⟨plan, message, more, seen, hplan, hfits, hfields, hmore, hwhole, hsteps⟩ :=
    DecoderSet.exists_steps_of_run hset hmerge
  rw [hname] at hplan hfields
  have hclaims := claimsByFrame_ofSchema hset hplan Cursor.defaultBudget
  have hrun := (exists_steps_iff hfits hclaims hmore).1 ⟨seen, hsteps⟩
  refine ⟨more, run_eq_ok_iff.2 ⟨[], ?_⟩, hsame.trans hname, ?_⟩
  · rw [← hwhole]
    exact records_flatMap hmore
  · exact h.runsTo (Plan.classOf_ofSchema hset hplan) hfits hfields hrun

theorem LastWins.foldlM (h : LastWins set schema name records m) (hname : m.name = name)
    {buffers : List Bytes} (hmerges : buffers.foldlM set.merge m = .ok m') :
    ∃ cuts : List (List Record),
      List.Forall₂ (fun bytes rs => (Reader.records Cursor.defaultBudget).run bytes = .ok rs)
        buffers cuts ∧
      LastWins set schema name (records ++ cuts.flatten) m' := by
  induction buffers generalizing records m with
  | nil =>
    cases hmerges
    exact ⟨[], .nil, by simpa using h⟩
  | cons bytes buffers ih =>
    rw [List.foldlM_cons] at hmerges
    obtain ⟨mid, hmid, hmerges⟩ := except_bind_eq_ok_iff.1 hmerges
    obtain ⟨more, hcut, hname, hlast⟩ := h.merge hset hname hmid
    obtain ⟨cuts, hcuts, hend⟩ := ih hlast hname hmerges
    refine ⟨more :: cuts, .cons hcut hcuts, ?_⟩
    rwa [List.append_assoc] at hend

end Merge

/-- Of a oneof a message holds the member of the last of its records, with the value that this
record has by itself, and no other member. -/
structure HoldsOneof (set : DecoderSet) (schema : Schema) (name : String) (records : List Record)
    (m : Message) (oneof : String) : Prop where
  which : m.whichOneof oneof = (schema.last? name (.oneof oneof) records).map (·.number)
  member : ∀ number, m.whichOneof oneof = some number →
    ∃ field ∈ schema.fieldsOf name, field.oneof? = some oneof ∧ field.number = number
  present : ∀ field ∈ schema.fieldsOf name, field.oneof? = some oneof →
    (m.whichOneof oneof = some field.number ↔ (m.fields.get? field.number).isSome = true)
  value : ∀ field ∈ schema.fieldsOf name, field.oneof? = some oneof →
    Option.Rel (set.Fresh (Cursor.defaultBudget - 1) field.kind)
      ((schema.last? name (.oneof oneof) records).filter (·.number = field.number))
      (m.fields.get? field.number)
  exclusive : ∀ field ∈ schema.fieldsOf name, ∀ other ∈ schema.fieldsOf name,
    field.oneof? = some oneof → other.oneof? = some oneof →
    (m.fields.get? field.number).isSome = true → (m.fields.get? other.number).isSome = true →
      field.number = other.number

theorem LastWins.holdsOneof {set : DecoderSet} {schema : Schema} {name : String}
    {records : List Record} {m : Message} (h : LastWins set schema name records m)
    (oneof : String) : HoldsOneof set schema name records m oneof where
  which := h.which oneof
  member number hwhich := by
    rw [h.which] at hwhich
    obtain ⟨r, hlast, rfl⟩ := Option.map_eq_some_iff.1 hwhich
    obtain ⟨field, hf, hnumber, hc⟩ :=
      Schema.exists_field_of_classOf (Schema.classOf_last? hlast) (by simp) (by simp)
    exact ⟨field, hf, Field.recordClass_eq_oneof_iff.1 hc, hnumber⟩
  present _ hf hone := h.which_iff hf hone
  value field hf hone := by
    have hheld := h.holds field hf (Field.isOverwritten_of_oneof hone)
    rwa [Field.recordClass_eq_oneof_iff.2 hone] at hheld
  exclusive field hf other ho hone hone' hfield hother := by
    have hwhich := (h.which_iff hf hone).2 hfield
    rw [(h.which_iff ho hone').2 hother] at hwhich
    exact (Option.some.inj hwhich).symm

/-- The last one wins. Of a oneof a message holds just the member of the last record of any of them,
over all buffers merged into it; and each single value that is no message is what its last record is
by itself. -/
theorem last_wins {options : Options} {schema : Schema} {set : DecoderSet}
    (hset : DecoderSet.ofSchema options schema = .ok set) {name : String} {buffers : List Bytes}
    {m : Message} (h : buffers.foldlM set.merge (Message.ofName name) = .ok m) :
    ∃ cuts : List (List Record),
      List.Forall₂ (fun bytes rs => (Reader.records Cursor.defaultBudget).run bytes = .ok rs)
        buffers cuts ∧
      (∀ oneof, HoldsOneof set schema name cuts.flatten m oneof) ∧
      ∀ field ∈ schema.fieldsOf name, field.isInline = true → field.oneof? = none →
        field.kind.isMessage = false →
        Option.Rel (set.Fresh (Cursor.defaultBudget - 1) field.kind)
          (cuts.flatten.filter (·.number = field.number)).getLast?
          (m.fields.get? field.number) := by
  obtain ⟨cuts, hcuts, hlast⟩ := (lastWins_ofName set schema name).foldlM hset rfl h
  rw [List.nil_append] at hlast
  refine ⟨cuts, hcuts, hlast.holdsOneof, fun field hf hin hone hkind => ?_⟩
  have hheld := hlast.holds field hf ⟨hin, fun _ => hkind⟩
  rw [Field.recordClass_eq_field_iff.2 ⟨hone, rfl⟩,
    Schema.last?_of_field (Schema.nodup_fieldsOf hset name) hf hone] at hheld
  cases hr : (cuts.flatten.filter (·.number = field.number)).getLast? with
  | none => rwa [hr] at hheld
  | some r =>
    have hnumber := (List.mem_filter.1 (List.mem_of_getLast? hr)).2
    rwa [hr, Option.filter_some, if_pos hnumber] at hheld

/-- Two buffers: a message member that comes twice, before and after the other, and a number that
comes twice. -/
theorem last_wins_message_member :
    let schema : Schema :=
      { messages := [{ name := "M", fields := [⟨"n", 1, .message "N", .oneof "pick"⟩,
                                               ⟨"text", 2, .string, .oneof "pick"⟩,
                                               .singular "a" 3 (.scalar .int32)] },
                     { name := "N", fields := [.singular "x" 1 (.scalar .int32),
                                               .singular "y" 2 (.scalar .int32)] }] }
    let buffers : List Bytes :=
      [[0x0a, 2, 8, 1, 0x18, 4, 0x12, 1, 0x61], [0x18, 5, 0x0a, 2, 0x10, 2]]
    ∃ set m n a, DecoderSet.ofSchema {} schema = .ok set ∧
      buffers.foldlM set.merge (Message.ofName "M") = .ok m ∧
      m.whichOneof "pick" = some 1 ∧ m.fields.get? 2 = none ∧
      m.fields.get? 1 = some n ∧
      set.Fresh 99 (.message "N") ⟨⟨1, .lengthDelimited⟩, [0x0a, 2, 0x10, 2]⟩ n ∧
      m.fields.get? 3 = some a ∧
      set.Fresh 99 (.scalar .int32) ⟨⟨3, .varint⟩, [0x18, 5]⟩ a := by
  intro schema buffers
  have hrun : ((DecoderSet.ofSchema {} schema).toOption.bind fun set =>
      (buffers.foldlM set.merge (Message.ofName "M")).toOption).isSome = true := by
    rw [DecoderSet.ofSchema_eq, Schema.plans_eq rfl]
    decide +kernel
  have hfirst : (Reader.records Cursor.defaultBudget).run
      [0x0a, 2, 8, 1, 0x18, 4, 0x12, 1, 0x61] =
      .ok [⟨⟨1, .lengthDelimited⟩, [0x0a, 2, 8, 1]⟩, ⟨⟨3, .varint⟩, [0x18, 4]⟩,
        ⟨⟨2, .lengthDelimited⟩, [0x12, 1, 0x61]⟩] := by decide +kernel
  have hsecond : (Reader.records Cursor.defaultBudget).run [0x18, 5, 0x0a, 2, 0x10, 2] =
      .ok [⟨⟨3, .varint⟩, [0x18, 5]⟩, ⟨⟨1, .lengthDelimited⟩, [0x0a, 2, 0x10, 2]⟩] := by
    decide +kernel
  obtain ⟨set, m, hset, hm⟩ := exists_ok_ok_of_isSome hrun
  obtain ⟨cuts, hcuts, honeofs, hsingle⟩ := last_wins hset hm
  have hsame : cuts = [[⟨⟨1, .lengthDelimited⟩, [0x0a, 2, 8, 1]⟩, ⟨⟨3, .varint⟩, [0x18, 4]⟩,
      ⟨⟨2, .lengthDelimited⟩, [0x12, 1, 0x61]⟩],
      [⟨⟨3, .varint⟩, [0x18, 5]⟩, ⟨⟨1, .lengthDelimited⟩, [0x0a, 2, 0x10, 2]⟩]] := by
    simp only [buffers, List.forall₂_cons_left_iff, List.forall₂_nil_left_iff, hfirst, hsecond,
      Except.ok.injEq] at hcuts
    obtain ⟨_, _, rfl, ⟨_, _, rfl, rfl, rfl⟩, rfl⟩ := hcuts
    rfl
  have hlast : schema.last? "M" (.oneof "pick") cuts.flatten =
      some ⟨⟨1, .lengthDelimited⟩, [0x0a, 2, 0x10, 2]⟩ := by
    rw [hsame]
    decide +kernel
  have hpick := honeofs "pick"
  have hwhich : m.whichOneof "pick" = some 1 := by rw [hpick.which, hlast]; rfl
  have hmember := hpick.value _ List.mem_cons_self rfl
  have hother := hpick.value _ (List.mem_cons_of_mem _ List.mem_cons_self) rfl
  have hnumber := hsingle _ (List.mem_cons_of_mem _ (List.mem_cons_of_mem _ List.mem_cons_self))
    rfl rfl rfl
  rw [hlast] at hmember hother
  rw [hsame] at hnumber
  obtain ⟨n, hn, hfresh⟩ : ∃ n, m.fields.get? 1 = some n ∧ set.Fresh 99 (.message "N")
      ⟨⟨1, .lengthDelimited⟩, [0x0a, 2, 0x10, 2]⟩ n := exists_of_rel hmember
  obtain ⟨a, ha, hfresh'⟩ : ∃ a, m.fields.get? 3 = some a ∧ set.Fresh 99 (.scalar .int32)
      ⟨⟨3, .varint⟩, [0x18, 5]⟩ a := exists_of_rel hnumber
  exact ⟨set, m, n, a, hset, hm, hwhich, eq_none_of_rel hother, hn, hfresh, ha, hfresh'⟩

end Dynamic

end ProtoPlan
