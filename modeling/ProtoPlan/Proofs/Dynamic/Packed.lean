import ProtoPlan.Proofs.Dynamic.OwnRecords
import ProtoPlan.Proofs.Dynamic.Reading
import ProtoPlan.Proofs.Dynamic.Required
import ProtoPlan.Proofs.Wire.Faults

/-!
Repeated numeric fields. An element comes in a record of its own or in a packed block with any
number of others, and a buffer may hold records of both forms among those of other fields: what is
appended is the elements in order, however they were grouped. No record of a third form is taken.
-/

namespace ProtoPlan

open Wire Schema Reader

namespace Wire

theorem Reader.ne_nil_of_scalar {kind : Scalar} {bytes : Bytes} {v : ScalarValue}
    (h : Takes kind.read bytes v) : bytes ≠ [] := by
  rintro rfl
  have hrun := h []
  rcases scalar_read_eq kind with ⟨-, f, hf⟩ | ⟨-, f, hf⟩ | ⟨-, f, hf⟩
  · rw [hf] at hrun
    obtain ⟨value, rest, hvalue, -⟩ := bind_eq_ok_iff.1 hrun
    exact absurd (varint_shorter hvalue) (Nat.not_lt_zero _)
  · rw [hf] at hrun
    obtain ⟨taken, rest, htaken, -⟩ := bind_eq_ok_iff.1 hrun
    exact absurd (take_shorter htaken) (Nat.succ_ne_zero _)
  · rw [hf] at hrun
    obtain ⟨taken, rest, htaken, -⟩ := bind_eq_ok_iff.1 hrun
    exact absurd (take_shorter htaken) (Nat.succ_ne_zero _)

/-- The elements of the kind that a record carries: one by itself, or those of a packed block. -/
inductive Record.HasElements (kind : Scalar) (r : Record) : List ScalarValue → Prop where
  | single {v : ScalarValue} : r.key.wireType = kind.wireType → Takes kind.read r.value v →
      HasElements kind r [v]
  | block {parts : List Bytes} {vs : List ScalarValue} : r.key.wireType = .lengthDelimited →
      Takes span r.value parts.flatten → List.Forall₂ (Takes kind.read) parts vs →
      HasElements kind r vs

end Wire

/-- The rule of a repeated numeric field. -/
structure FieldRule.Collects (kind : Scalar) (rule : FieldRule) : Prop where
  wireType : rule.wireType = kind.wireType
  read : rule.read = .scalar kind
  store : rule.store = .append
  packed : rule.packed.isSome = true

theorem Rule.Fits.collects {field : Field} {bit : Option Nat} {kind : Scalar} {rule : Rule}
    (h : Rule.Fits field bit rule)
    (hc : field.cardinality = .repeated) (hk : field.kind = .scalar kind) :
    ∃ single : FieldRule, rule = .field single ∧ single.name = field.name ∧
      FieldRule.Collects kind single := by
  cases h with
  | map hmap =>
    rw [hc] at hmap
    cases hmap
  | @field rule h =>
    have hstore : rule.store = .append := by
      have hs := h.store
      generalize rule.store = store at hs
      cases hs <;> simp_all [Field.isInline]
    have hread := h.read
    rw [hk] at hread
    have hwire := h.wireType
    rw [hk] at hwire
    refine ⟨rule, rfl, h.name, hwire, ?_, hstore, h.packed.2 ⟨hstore, by rw [hk]; rfl⟩⟩
    generalize rule.read = read at hread
    cases hread
    rfl

namespace Dynamic

section Elements

variable {nested : Nested} {kind : Scalar}

theorem Nested.elements_of_parts (name : String) {parts : List Bytes} {vs : List ScalarValue}
    (h : List.Forall₂ (Takes kind.read) parts vs) (list : List Value) :
    elements (nested.value name (.scalar kind)) list parts.flatten =
      .ok (list ++ vs.map .scalar) [] := by
  apply elements_flatten
  rw [List.forall₂_map_left_iff]
  refine h.flip.imp fun v part hpart => ?_
  have htakes : Takes kind.read part v := hpart
  exact ⟨ne_nil_of_scalar htakes, htakes.map (Takes.pure _)⟩

variable {rule : FieldRule} (hrule : FieldRule.Collects kind rule)
include hrule

/-- Of either form the elements are appended to what the field holds. -/
theorem Nested.next_of_hasElements {r : Record} {vs : List ScalarValue} (h : r.HasElements kind vs)
    (held : Option Value) :
    nested.next (.field rule) r.key held r.value =
      .ok (some (.list (Value.listOf held ++ vs.map .scalar))) [] := by
  cases h with
  | @single v hkey hvalue =>
    have hplain : (r.key.wireType == .lengthDelimited) = false := by
      rw [hkey]
      simpa using kind.wireType_ne_lengthDelimited
    have hsingle : nested.nextSingle rule held r.value =
        .ok (.list (Value.listOf held ++ [.scalar v])) [] := by
      have hrun := hvalue.ends
      simp only [nextSingle, hrule.store, hrule.read, value]
      exact bind_eq_ok_iff.2 ⟨_, _, bind_eq_ok_iff.2 ⟨v, [], hrun, rfl⟩, rfl⟩
    simp only [next, hplain, Bool.and_false, Bool.false_eq_true, if_false]
    rw [Reader.expect, if_pos (hkey.trans hrule.wireType.symm)]
    exact bind_eq_ok_iff.2 ⟨_, [], hsingle, rfl⟩
  | @block parts vs hkey hspan hparts =>
    have hblock : (do
        let values ← elements (nested.value rule.name (.scalar kind)) (Value.listOf held)
        return some (.list values) : Reader (Option Value)) parts.flatten =
          .ok (some (.list (Value.listOf held ++ vs.map .scalar))) [] :=
      bind_eq_ok_iff.2 ⟨_, [], elements_of_parts rule.name hparts _, rfl⟩
    have hrun := (hspan.delimited hblock).ends
    simp only [next, hrule.packed, hkey, hrule.read, Bool.true_and, beq_self_eq_true, if_true]
    exact hrun

theorem Nested.next_of_ne {key : Key} (hsingle : key.wireType ≠ kind.wireType)
    (hblock : key.wireType ≠ .lengthDelimited) (held : Option Value) :
    nested.next (.field rule) key held =
      throw (.wireTypeMismatch rule.name key.wireType.toNat) := by
  have hplain : (key.wireType == .lengthDelimited) = false := by simpa using hblock
  simp only [next, hplain, Bool.and_false, Bool.false_eq_true, if_false]
  rw [Reader.expect, if_neg (by rw [hrule.wireType]; exact hsingle)]

theorem Nested.failsPlainly_next {key : Key}
    (hkey : key.wireType = kind.wireType ∨ key.wireType = .lengthDelimited)
    (held : Option Value) : FailsPlainly (nested.next (.field rule) key held) := by
  have hvalue : FailsPlainly (nested.value rule.name (.scalar kind)) :=
    (failsPlainly_scalar kind).map
  simp only [next]
  split
  · rw [hrule.read]
    exact FailsWith.delimited (fun _ h => h) (FailsWith.map (.drain (fun _ => hvalue.map) _))
  · rename_i hnot
    have hsingle : key.wireType = rule.wireType := by
      rw [hrule.wireType]
      rcases hkey with hkey | hkey
      · exact hkey
      · exact absurd (by simp [hrule.packed, hkey]) hnot
    rw [Reader.expect, if_pos hsingle]
    simp only [nextSingle, hrule.store, hrule.read]
    exact hvalue.map.map

/-- Over any number of records the elements come in the order of the records. -/
theorem Nested.listOf_of_hasElements {own : List Record} {groups : List (List ScalarValue)}
    (h : List.Forall₂ (Record.HasElements kind) own groups) {held held' : Option Value}
    (hrun : RunsTo (nested.Leaves (.field rule)) own held held') :
    Value.listOf held' = Value.listOf held ++ groups.flatten.map .scalar := by
  induction hrun generalizing groups with
  | done =>
    cases h
    simp
  | @more r own held mid last hleaves _ ih =>
    cases h with
    | @cons _ vs _ groups hr hrest =>
      obtain ⟨v, hnext, hmid⟩ := hleaves
      rw [next_of_hasElements hrule hr] at hnext
      cases hnext
      rw [ih hrest, hmid, List.flatten_cons, List.map_append, ← List.append_assoc]
      rfl

end Elements

/-- A buffer that merges numbers into a repeated field of the message: records of the field, each of
one element or of a packed block, among records of other fields that a message of that name
takes. -/
inductive DecoderSet.Mixture (set : DecoderSet) (budget : Nat) (name : String) (number : Nat)
    (kind : Scalar) : Bytes → List ScalarValue → Prop where
  | done : Mixture set budget name number kind [] []
  | single {keyBytes element rest : Bytes} {v : ScalarValue} {values : List ScalarValue} :
      Takes key keyBytes ⟨number, kind.wireType⟩ → Takes kind.read element v →
      Mixture set budget name number kind rest values →
      Mixture set budget name number kind (keyBytes ++ element ++ rest) (v :: values)
  | block {keyBytes block rest : Bytes} {parts : List Bytes} {vs values : List ScalarValue} :
      Takes key keyBytes ⟨number, .lengthDelimited⟩ → Takes span block parts.flatten →
      List.Forall₂ (Takes kind.read) parts vs → Mixture set budget name number kind rest values →
      Mixture set budget name number kind (keyBytes ++ block ++ rest) (vs ++ values)
  | other {r : Record} {rest : Bytes} {values : List ScalarValue} :
      r.number ≠ number → Takes (record budget) r.raw r → set.TakesRecord budget name r →
      Mixture set budget name number kind rest values →
      Mixture set budget name number kind (r.raw ++ rest) values

/-- The records of a mixture. -/
structure DecoderSet.MixtureRecords (set : DecoderSet) (budget : Nat) (name : String)
    (number : Nat) (kind : Scalar) (bytes : Bytes) (values : List ScalarValue)
    (records : List Record) : Prop where
  whole : records.flatMap (·.raw) = bytes
  scanned : ∀ r ∈ records, Takes (record budget) r.raw r
  others : ∀ r ∈ records, r.number ≠ number → set.TakesRecord budget name r
  own : ∃ groups, List.Forall₂ (Record.HasElements kind) (records.filter (·.number = number))
    groups ∧ groups.flatten = values

section Mixture

variable {set : DecoderSet} {budget : Nat} {name : String} {number : Nat} {kind : Scalar}

/-- One more record of the field. -/
theorem DecoderSet.MixtureRecords.cons {rest keyBytes value : Bytes} {values vs : List ScalarValue}
    {records : List Record} {wireType : WireType}
    (h : set.MixtureRecords budget name number kind rest values records)
    (hkey : Takes key keyBytes ⟨number, wireType⟩)
    (hskip : Takes (skipValue budget wireType) value ())
    (helements : ∀ r : Record, r.key.wireType = wireType → r.value = value →
      r.HasElements kind vs) :
    set.MixtureRecords budget name number kind (keyBytes ++ value ++ rest) (vs ++ values)
      (⟨⟨number, wireType⟩, keyBytes ++ value⟩ :: records) := by
  have hrecord : Takes (record budget) (keyBytes ++ value)
      ⟨⟨number, wireType⟩, keyBytes ++ value⟩ := hkey.record hskip
  have hvalue : Record.value ⟨⟨number, wireType⟩, keyBytes ++ value⟩ = value := by
    rw [Record.value, hkey value]
  obtain ⟨groups, hgroups, hflat⟩ := h.own
  refine ⟨?_, ?_, ?_, vs :: groups, ?_, ?_⟩
  · rw [List.flatMap_cons, h.whole]
  · exact List.forall_mem_cons.2 ⟨hrecord, h.scanned⟩
  · exact List.forall_mem_cons.2 ⟨fun hne => absurd rfl hne, h.others⟩
  · rw [List.filter_cons_of_pos (by simp [Record.number])]
    exact .cons (helements _ rfl hvalue) hgroups
  · rw [List.flatten_cons, hflat]

theorem DecoderSet.Mixture.exists_records {bytes : Bytes} {values : List ScalarValue}
    (h : set.Mixture budget name number kind bytes values) :
    ∃ records, set.MixtureRecords budget name number kind bytes values records := by
  induction h with
  | done => exact ⟨[], rfl, by simp, by simp, [], .nil, rfl⟩
  | @single keyBytes element rest v values hkey hvalue _ ih =>
    obtain ⟨records, hrecords⟩ := ih
    have hskip : Takes (skipValue budget kind.wireType) element () := fun rest =>
      (framed_scalar kind).follows_skipValue budget (hvalue rest)
    exact ⟨_, hrecords.cons hkey hskip fun r hw hv => .single hw (hv ▸ hvalue)⟩
  | @block keyBytes block rest parts vs values hkey hspan hparts _ ih =>
    obtain ⟨records, hrecords⟩ := ih
    have hskip : Takes (skipValue budget .lengthDelimited) block () := fun rest =>
      framed_span.follows_skipValue budget (hspan rest)
    exact ⟨_, hrecords.cons hkey hskip fun r hw hv => .block hw (hv ▸ hspan) hparts⟩
  | @other r rest values hne hr htakes _ ih =>
    obtain ⟨records, hrecords⟩ := ih
    obtain ⟨groups, hgroups, hflat⟩ := hrecords.own
    refine ⟨r :: records, ?_, ?_, ?_, groups, ?_, hflat⟩
    · rw [List.flatMap_cons, hrecords.whole]
    · exact List.forall_mem_cons.2 ⟨hr, hrecords.scanned⟩
    · exact List.forall_mem_cons.2 ⟨fun _ => htakes, hrecords.others⟩
    · rwa [List.filter_cons_of_neg (by simpa using hne)]

end Mixture

section Set

variable {options : Options} {schema : Schema} {set : DecoderSet}
  (hset : DecoderSet.ofSchema options schema = .ok set) {name : String} {field : Field}
  (hf : field ∈ schema.fieldsOf name) (hc : field.cardinality = .repeated) {kind : Scalar}
  (hk : field.kind = .scalar kind) {budget : Nat}
include hset hf hc hk

/-- A record with elements is taken, whatever the field holds. -/
theorem DecoderSet.takesRecord_of_hasElements {r : Record} (hr : Takes (record budget) r.raw r)
    (hnumber : r.number = field.number) {vs : List ScalarValue} (h : r.HasElements kind vs) :
    set.TakesRecord budget name r := by
  obtain ⟨plan, message, rule, bit, hplan, hfits, hrule, hrulefits⟩ := exists_rule hset hf
  obtain ⟨single, rfl, -, hcollects⟩ := hrulefits.collects hc hk
  rw [← hnumber] at hrule
  have hclaims := claimsByFrame_ofSchema hset hplan budget
  exact ⟨plan, (Message.ofName name, []), _, hplan, (takes_claimed_iff hfits hclaims hr hrule).2
    ⟨_, Nested.next_of_hasElements hcollects h _, rfl, rfl⟩⟩

theorem DecoderSet.MixtureRecords.takesRecord {bytes : Bytes} {values : List ScalarValue}
    {records : List Record}
    (h : set.MixtureRecords budget name field.number kind bytes values records) :
    ∀ r ∈ records, set.TakesRecord budget name r := by
  intro r hr
  by_cases hnumber : r.number = field.number
  · obtain ⟨groups, hgroups, -⟩ := h.own
    have hmem : r ∈ records.filter (·.number = field.number) :=
      List.mem_filter.2 ⟨hr, by simpa using hnumber⟩
    obtain ⟨vs, hvs⟩ := exists_forall₂_iff.1 ⟨groups, hgroups⟩ r hmem
    exact takesRecord_of_hasElements hset hf hc hk (h.scanned r hr) hnumber hvs
  · exact h.others r hr hnumber

/-- A mixture is accepted as any records that are taken, and its elements are appended to what the
field held. -/
theorem DecoderSet.Mixture.mergeWithin {m : Message} (hname : m.name = name)
    (hm : m.Apart field.number) {bytes : Bytes} {values : List ScalarValue}
    (h : set.Mixture budget name field.number kind bytes values) :
    ∃ records, Cuts bytes records ∧
      EnforcesRequired (schema.fieldsOf name) name records (set.mergeWithin budget m bytes) ∧
      ∀ m', set.mergeWithin budget m bytes = .ok m' →
        m'.list field.number = m.list field.number ++ values.map .scalar := by
  subst hname
  obtain ⟨records, hrecords⟩ := h.exists_records
  have hcuts : Cuts bytes records := cuts_iff.2 ⟨hrecords.whole, budget, hrecords.scanned⟩
  obtain ⟨plan, -, -, -, hplan, -⟩ := exists_rule hset hf
  refine ⟨records, hcuts, ?_, fun m' hmerge => ?_⟩
  · exact run_of_takesRecord hset (Option.isSome_of_eq_some hplan) hcuts
      (hrecords.takesRecord hset hf hc hk) m
  · obtain ⟨rule, bit, records', hrulefits, hcuts', -, hrun⟩ :=
      own_of_mergeWithin hset hmerge hf (by simp [Field.oneof?, hc]) hm
    rw [hcuts'.unique hcuts] at hrun
    obtain ⟨single, rfl, -, hcollects⟩ := hrulefits.collects hc hk
    obtain ⟨groups, hgroups, rfl⟩ := hrecords.own
    rw [Message.list_eq rfl, Message.list_eq rfl]
    exact Nested.listOf_of_hasElements hcollects hgroups hrun

/-- A record that comes as an element or as a block fails for its bytes alone, and any other for its
wire type. -/
theorem DecoderSet.mergeRecord_of_key (budget : Nat) {plan : Plan}
    (hplan : set.planFor? name = some plan) (state : Message × List Nat) {keyBytes : Bytes}
    {wireType : WireType} (hkey : Takes key keyBytes ⟨field.number, wireType⟩) (rest : Bytes) :
    (wireType = kind.wireType ∨ wireType = .lengthDelimited → ∀ fault left,
      mergeRecord budget (set.nested budget) plan state (keyBytes ++ rest) = .error fault left →
        fault.isPrimitive = true) ∧
    (wireType ≠ kind.wireType → wireType ≠ .lengthDelimited →
      mergeRecord budget (set.nested budget) plan state (keyBytes ++ rest) =
        .error (.wireTypeMismatch field.name wireType.toNat) rest) := by
  obtain ⟨plan', message, rule, bit, hplan', hfits, hrule, hrulefits⟩ := exists_rule hset hf
  rw [hplan] at hplan'
  cases hplan'
  obtain ⟨single, rfl, hname, hcollects⟩ := hrulefits.collects hc hk
  have hclaimed : (plan.rule? field.number).map (fun rule => (set.nested budget).apply rule
      ⟨field.number, wireType⟩ state.1 state.2) = some ((set.nested budget).apply (.field single)
        ⟨field.number, wireType⟩ state.1 state.2) := by
    rw [hrule]
    rfl
  rw [mergeRecord, hkey.field_claimed hclaimed, Nested.apply_eq_next hrulefits]
  constructor
  · intro hw fault left h
    exact (Nested.failsPlainly_next hcollects hw _).map h
  · intro hsingle hblock
    rw [Nested.next_of_ne hcollects hsingle hblock, hname]
    rfl

/-- After a mixture, a record of the field of any third wire type is rejected, whatever follows. -/
theorem DecoderSet.Mixture.mismatch {m : Message} (hname : m.name = name) {bytes : Bytes}
    {values : List ScalarValue} (h : set.Mixture budget name field.number kind bytes values)
    {keyBytes : Bytes} {wireType : WireType} (hkey : Takes key keyBytes ⟨field.number, wireType⟩)
    (hsingle : wireType ≠ kind.wireType) (hblock : wireType ≠ .lengthDelimited) (rest : Bytes) :
    set.mergeWithin budget m (bytes ++ (keyBytes ++ rest)) =
      .error (.wireTypeMismatch field.name wireType.toNat) := by
  subst hname
  obtain ⟨records, hrecords⟩ := h.exists_records
  obtain ⟨plan, -, -, -, hplan, -⟩ := exists_rule hset hf
  -- The loop comes to the record after those of the mixture, in whatever state they leave.
  obtain ⟨state, hsteps⟩ := exists_steps hset (hrecords.takesRecord hset hf hc hk)
    hrecords.scanned hplan (m, [])
  have hfault := (mergeRecord_of_key hset hf hc hk budget hplan state hkey rest).2 hsingle hblock
  have hne : keyBytes ++ rest ≠ [] :=
    List.append_ne_nil_of_left_ne_nil (ne_nil_of_key hkey) rest
  have hdrain := hsteps.drain_append (keyBytes ++ rest)
  rw [drain_error hne hfault, ← List.flatMap_def, hrecords.whole] at hdrain
  rw [DecoderSet.mergeWithin, mergeWith_eq hplan, mergeByPlan_of_error hdrain]

end Set

/-- A repeated numeric field takes its elements in whatever mixture of single records and packed
blocks they come, among records of other fields: they are appended in order to what the field held,
which is nothing but what merging has put there. A record of the field that is of neither form is
rejected for its wire type, and no other is. -/
theorem DecoderSet.packed_mixture {options : Options} {schema : Schema} {set : DecoderSet}
    (hset : DecoderSet.ofSchema options schema = .ok set) {name : String} {field : Field}
    (hf : field ∈ schema.fieldsOf name) (hc : field.cardinality = .repeated) {kind : Scalar}
    (hk : field.kind = .scalar kind) :
    (∀ budget m bytes values, m.name = name → m.Apart field.number →
      set.Mixture budget name field.number kind bytes values →
      ∃ records, Cuts bytes records ∧
        EnforcesRequired (schema.fieldsOf name) name records (set.mergeWithin budget m bytes) ∧
        ∀ m', set.mergeWithin budget m bytes = .ok m' →
          m'.list field.number = m.list field.number ++ values.map .scalar) ∧
    (∀ m, set.Merged name m → m.name = name ∧ m.Apart field.number) ∧
    (∀ budget plan state keyBytes wireType rest, set.planFor? name = some plan →
      Takes key keyBytes ⟨field.number, wireType⟩ →
      ((∃ named found left, mergeRecord budget (set.nested budget) plan state (keyBytes ++ rest) =
          .error (.wireTypeMismatch named found) left) ↔
        wireType ≠ kind.wireType ∧ wireType ≠ .lengthDelimited)) ∧
    ∀ budget m bytes values keyBytes wireType rest, m.name = name →
      set.Mixture budget name field.number kind bytes values →
      Takes key keyBytes ⟨field.number, wireType⟩ → wireType ≠ kind.wireType →
      wireType ≠ .lengthDelimited →
      set.mergeWithin budget m (bytes ++ (keyBytes ++ rest)) =
        .error (.wireTypeMismatch field.name wireType.toNat) := by
  refine ⟨?_, ?_, ?_, ?_⟩
  · intro budget m bytes values hname hm h
    exact h.mergeWithin hset hf hc hk hname hm
  · intro m h
    exact h.apart hset hf (by simp [Field.oneof?, hc])
  · intro budget plan state keyBytes wireType rest hplan hkey
    obtain ⟨hplain, hmismatch⟩ := mergeRecord_of_key hset hf hc hk budget hplan state hkey rest
    constructor
    · intro h
      obtain ⟨named, found, left, h⟩ := h
      rw [← not_or]
      intro hw
      cases hplain hw _ _ h
    · intro hw
      exact ⟨_, _, _, hmismatch hw.1 hw.2⟩
  · intro budget m bytes values keyBytes wireType rest hname h hkey hsingle hblock
    exact h.mismatch hset hf hc hk hname hkey hsingle hblock rest

/-- An element with an overlong encoding, an empty block and a block of two elements, with a record
of another field in between, and then an element of another wire type. -/
theorem DecoderSet.packed_mixture_overlong :
    let schema : Schema :=
      { messages := [{ name := "M", fields := [⟨"a", 1, .scalar .int32, .repeated⟩,
                                               .singular "s" 2 .string] }] }
    let bytes : Bytes := [8, 0x81, 0, 0x12, 1, 0x78, 0x0a, 0, 0x0a, 3, 2, 0x83, 0]
    ∃ set m, DecoderSet.ofSchema {} schema = .ok set ∧ set.decode "M" bytes = .ok m ∧
      m.list 1 = [.scalar (.int32 1), .scalar (.int32 2), .scalar (.int32 3)] ∧
      set.decode "M" (bytes ++ [0x0d, 1, 0, 0, 0]) = .error (.wireTypeMismatch "a" 5) := by
  intro schema bytes
  have hrun : ((DecoderSet.ofSchema {} schema).toOption.bind fun set =>
      (set.decode "M" bytes).toOption).isSome = true := by
    rw [DecoderSet.ofSchema_eq, Schema.plans_eq rfl]
    decide +kernel
  obtain ⟨set, m, hset, hm⟩ := exists_ok_ok_of_isSome hrun
  have hcut : (Reader.records Cursor.defaultBudget).run bytes =
      .ok [⟨⟨1, .varint⟩, [8, 0x81, 0]⟩, ⟨⟨2, .lengthDelimited⟩, [0x12, 1, 0x78]⟩,
        ⟨⟨1, .lengthDelimited⟩, [0x0a, 0]⟩, ⟨⟨1, .lengthDelimited⟩, [0x0a, 3, 2, 0x83, 0]⟩] := by
    decide +kernel
  have hother : set.TakesRecord Cursor.defaultBudget "M"
      ⟨⟨2, .lengthDelimited⟩, [0x12, 1, 0x78]⟩ := by
    obtain ⟨records, hcuts, htakes, -⟩ := DecoderSet.records_of_run hset hm
    rw [hcuts.unique ⟨_, hcut⟩] at htakes
    exact htakes _ (by simp)
  have hread {element : Bytes} {v : ScalarValue} (h : Scalar.read .int32 element = .ok v []) :
      Takes (Scalar.read .int32) element v := (isLocal_scalar .int32).takes h
  have hpair : List.Forall₂ (Takes (Scalar.read .int32)) [[2], [0x83, 0]] [.int32 2, .int32 3] :=
    .cons (hread rfl) (.cons (hread rfl) .nil)
  have hblocks : set.Mixture Cursor.defaultBudget "M" 1 .int32
      ([0x0a] ++ [0] ++ ([0x0a] ++ [3, 2, 0x83, 0] ++ [])) ([] ++ ([.int32 2, .int32 3] ++ [])) :=
    .block (isLocal_key.takes rfl) (isLocal_span.takes rfl) .nil <|
      .block (isLocal_key.takes rfl) (isLocal_span.takes rfl) hpair .done
  have hmixture : set.Mixture Cursor.defaultBudget "M" 1 .int32
      ([8] ++ [0x81, 0] ++ ([0x12, 1, 0x78] ++ _)) (.int32 1 :: _) :=
    .single (isLocal_key.takes rfl) (hread rfl) <|
      .other (by decide) ((isLocal_record _).takes rfl) hother hblocks
  have hfield : ⟨"a", 1, .scalar .int32, .repeated⟩ ∈ schema.fieldsOf "M" := List.mem_cons_self
  obtain ⟨hmerge, hmerged, -, hmismatch⟩ :=
    DecoderSet.packed_mixture hset hfield rfl rfl
  obtain ⟨-, -, -, hlist⟩ := hmerge _ _ _ _ rfl (hmerged _ .new).2 hmixture
  refine ⟨set, m, hset, hm, hlist m hm, ?_⟩
  exact hmismatch _ (Message.ofName "M") bytes _ [0x0d] .fixed32 _ rfl hmixture
    (isLocal_key.takes rfl) (by decide) (by decide)

end Dynamic

end ProtoPlan
