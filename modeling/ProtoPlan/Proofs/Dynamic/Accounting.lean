import ProtoPlan.Proofs.Dynamic.Framing
import ProtoPlan.WellKnown.Decode

/-!
Where the bytes of a decoded buffer go. The scanner, which knows no schema, cuts the buffer into
records; the decoder takes exactly these, one after the other. A record of a declared number goes to
its rule, one of an extension number to the extensions, and any other to the unknown fields if the
plan keeps them.
-/

namespace ProtoPlan

/-- Neither declared nor in an extension range. -/
def Plan.isUnknown (plan : Plan) (number : Nat) : Bool :=
  (plan.rule? number).isNone && !plan.isExtension number

/-- In an extension range and not declared: a declaration goes before a range. -/
def Plan.takesExtension (plan : Plan) (number : Nat) : Bool :=
  (plan.rule? number).isNone && plan.isExtension number

/-- A message that claims no field keeps all its bytes. -/
theorem WellKnown.RawMessage.raw_of_merge {budget : Nat} {message message' : RawMessage}
    {bytes rest : Wire.Bytes} (h : merge budget message bytes = .ok message' rest) :
    message'.raw = message.raw ++ bytes := by
  obtain ⟨-, pieces, rfl, hsteps⟩ := Wire.Reader.steps_of_fields (by simp) h
  clear h
  induction hsteps with
  | done => simp
  | more _ ht _ ih =>
    obtain ⟨-, -, -, hnext⟩ := Wire.Reader.record_of_field (by simp) (by simp) ht
    rcases hnext with ⟨_, _, hc, -⟩ | ⟨-, rfl⟩
    · cases hc
    · rw [ih, List.flatten_cons, List.append_assoc]

namespace Dynamic

open Wire Schema Reader

/-- One record of a message: a rule that claims it is applied, and all other records are kept or
dropped as they are. -/
def mergeRecord (budget : Nat) (nested : Nested) (plan : Plan) :
    Message × List Nat → Reader (Message × List Nat) :=
  Reader.field budget
    (fun key (m, seen) => (plan.rule? key.number).map fun rule => nested.apply rule key m seen)
    fun number raw (m, seen) => (keepUnclaimed plan number raw m, seen)

theorem mergeByPlan_eq_ok_iff {budget : Nat} {nested : Nested} {plan : Plan} {m m' : Message}
    {bytes rest : Bytes} :
    mergeByPlan budget nested plan m bytes = .ok m' rest ↔
      ∃ seen, drain (mergeRecord budget nested plan) (m, []) bytes = .ok (m', seen) rest ∧
        ∀ bit < plan.requiredCount, bit ∈ seen := by
  rw [mergeByPlan, bind_eq_ok_iff]
  constructor
  · rintro ⟨⟨last, seen⟩, mid, hd, h⟩
    dsimp only at h
    split at h
    · rename_i hall
      cases h
      refine ⟨seen, hd, ?_⟩
      simpa [List.all_eq_true] using hall
    · cases h
  · rintro ⟨seen, hd, hall⟩
    refine ⟨(m', seen), rest, hd, ?_⟩
    have hcheck : (List.range plan.requiredCount).all (· ∈ seen) = true := by
      simpa [List.all_eq_true] using hall
    dsimp only
    rw [if_pos hcheck]
    rfl

/-- The raw bytes that a message keeps are the same. -/
def SameRaw (m m' : Message) : Prop := m'.unknown = m.unknown ∧ m'.extensions = m.extensions

namespace Nested

variable {nested : Nested}

/-- A rule does no more to a message than to set its field, or to select it in its oneof. -/
theorem ensures_apply {P : Message → Prop} {m : Message} {rule : Rule}
    (hset : ∀ value, P (m.set rule.number value))
    (hselect : ∀ oneof value, rule.oneof? = some oneof → P (m.select oneof rule.number value))
    (hm : P m) (key : Key) (seen : List Nat) :
    Ensures (nested.apply rule key m seen) fun result => P result.1 := by
  cases rule with
  | field rule =>
    have hstore : Ensures (nested.store rule m) P := by
      unfold Nested.store
      split
      · exact Ensures.map fun _ => hset _
      · exact Ensures.map fun _ => hset _
      · rename_i oneof _ _ hs
        have hone : (Rule.field rule).oneof? = some oneof := by rw [Rule.oneof?_field, hs]
        exact Ensures.map fun _ => hselect oneof _ hone
      · exact Ensures.map fun _ => hset _
    have hfield : Ensures (nested.plainField rule key m) P := by
      unfold Nested.plainField
      split
      · exact Ensures.delimited (Ensures.map fun _ => hset _)
      · exact hstore.expect
    exact hfield.bind fun _ h => Ensures.pure h
  | map rule =>
    have hput (entry : Value × Value) : P (m.putEntry rule.number entry) := by
      unfold Message.putEntry
      split
      · exact hset _
      · exact hm
    have hmap : Ensures (nested.mapField rule key m) P := by
      rw [mapField_eq]
      exact (Ensures.map hput).expect
    exact hmap.bind fun _ h => Ensures.pure h

theorem ensures_apply_sameRaw (rule : Rule) (key : Key) (m : Message) (seen : List Nat) :
    Ensures (nested.apply rule key m seen) fun result => SameRaw m result.1 :=
  ensures_apply (fun _ => ⟨rfl, rfl⟩) (fun _ _ _ => ⟨rfl, rfl⟩) ⟨rfl, rfl⟩ key seen

end Nested

/-- All rules of the plan read values as they are framed. -/
def FramedPlan (nested : Nested) (plan : Plan) : Prop :=
  ∀ ⦃number : Nat⦄ ⦃rule : Rule⦄, plan.rule? number = some rule → ∀ key m seen,
    Framed key.wireType (nested.apply rule key m seen)

section Run

variable {budget : Nat} {nested : Nested} {plan : Plan}

theorem isLocal_claimed (hplan : FramedPlan nested plan) {key : Key} {state : Message × List Nat}
    {body : Reader (Message × List Nat)}
    (h : ((plan.rule? key.number).map fun rule => nested.apply rule key state.1 state.2) =
      some body) : Framed key.wireType body := by
  obtain ⟨rule, hrule, rfl⟩ := Option.map_eq_some_iff.1 h
  exact hplan hrule key state.1 state.2

/-- One record: a rule for its number leaves all raw bytes alone, without one the record is kept or
dropped as a whole. -/
theorem mergeRecord_cases (hplan : FramedPlan nested plan) {r : Record}
    (hr : Takes (record budget) r.raw r) {m mid : Message} {seen seenMid : List Nat}
    (h : Takes (mergeRecord budget nested plan (m, seen)) r.raw (mid, seenMid)) :
    ((plan.rule? r.number).isSome ∧ SameRaw m mid) ∨
    (plan.rule? r.number = none ∧ mid = keepUnclaimed plan r.number r.raw m) := by
  obtain ⟨r', -, hr', h⟩ := record_of_field (fun hc => (isLocal_claimed hplan hc).isLocal)
    (fun hc => (isLocal_claimed hplan hc).follows_skipValue budget) h
  obtain rfl := hr.unique hr'
  rcases h with ⟨body, value, hc, hb⟩ | ⟨hc, hnext⟩
  · obtain ⟨rule, hrule, rfl⟩ := Option.map_eq_some_iff.1 hc
    refine .inl ⟨Option.isSome_iff_exists.2 ⟨rule, hrule⟩, ?_⟩
    exact Nested.ensures_apply_sameRaw rule r.key m seen (hb [])
  · exact .inr ⟨Option.map_eq_none_iff.1 hc, congrArg (·.1) hnext⟩

/-- What a run over records leaves among the unknown fields and the extensions. -/
theorem kept_of_steps (hplan : FramedPlan nested plan) {records : List Record}
    (hrecords : ∀ r ∈ records, Takes (record budget) r.raw r) {m m' : Message}
    {seen seen' : List Nat}
    (h : Steps (mergeRecord budget nested plan) (m, seen) (records.map (·.raw)) (m', seen')) :
    (m'.unknown = m.unknown ++ if plan.preserveUnknown then
        (records.filter fun r => plan.isUnknown r.number).flatMap (·.raw) else []) ∧
    m'.extensions.records = m.extensions.records ++
      (records.filter fun r => plan.takesExtension r.number).map fun r => ⟨r.number, r.raw⟩ := by
  induction records generalizing m seen with
  | nil =>
    cases h
    simp
  | cons r records ih =>
    cases h with
    | @more _ next _ _ _ hne ht hmore =>
      obtain ⟨mid, seenMid⟩ := next
      obtain ⟨hunknown, hext⟩ := ih (fun r' hr' => hrecords r' (by simp [hr'])) hmore
      rw [hunknown, hext]
      rcases mergeRecord_cases hplan (hrecords r (by simp)) ht with ⟨hrule, hraw⟩ | ⟨hrule, rfl⟩
      · -- A declared number is in neither list, whatever the extension ranges are.
        have hnone : (plan.rule? r.number).isNone = false := by simpa using hrule
        simp [hraw.1, hraw.2, Plan.isUnknown, Plan.takesExtension, hnone]
      · cases hx : plan.isExtension r.number <;> cases hp : plan.preserveUnknown <;>
          simp [keepUnclaimed, Plan.isUnknown, Plan.takesExtension, hrule, hx, hp]

/-- Each piece that the decoder takes is a record of the scanner. -/
theorem records_of_steps (hplan : FramedPlan nested plan) {s s' : Message × List Nat}
    {pieces : List Bytes} (h : Steps (mergeRecord budget nested plan) s pieces s') :
    ∃ records : List Record, records.map (·.raw) = pieces ∧
      ∀ r ∈ records, Takes (record budget) r.raw r := by
  induction h with
  | done => exact ⟨[], rfl, by simp⟩
  | more hne ht hmore ih =>
    obtain ⟨records, hpieces, hall⟩ := ih
    obtain ⟨r, hraw, hr, -⟩ := record_of_field (fun hc => (isLocal_claimed hplan hc).isLocal)
      (fun hc => (isLocal_claimed hplan hc).follows_skipValue budget) ht
    subst hraw
    refine ⟨r :: records, by rw [List.map_cons, hpieces], ?_⟩
    intro r' hr'
    rcases List.mem_cons.1 hr' with rfl | hr'
    · exact hr
    · exact hall r' hr'

/-- Merging by a plan is a run over the records into which the scanner cuts the bytes. -/
theorem records_of_mergeByPlan (hplan : FramedPlan nested plan) {m m' : Message}
    {bytes rest : Bytes} (h : mergeByPlan budget nested plan m bytes = .ok m' rest) :
    ∃ (records : List Record) (seen : List Nat), (∀ r ∈ records, Takes (record budget) r.raw r) ∧
      records.flatMap (·.raw) = bytes ∧
      Steps (mergeRecord budget nested plan) (m, []) (records.map (·.raw)) (m', seen) := by
  obtain ⟨seen, hd, -⟩ := mergeByPlan_eq_ok_iff.1 h
  obtain ⟨-, pieces, rfl, hsteps⟩ :=
    steps_of_fields (fun hc => (isLocal_claimed hplan hc).isLocal) hd
  obtain ⟨records, rfl, hall⟩ := records_of_steps hplan hsteps
  exact ⟨records, seen, hall, List.flatMap_def, hsteps⟩

end Run

theorem framedPlan_ofSchema {options : Options} {schema : Schema} {set : DecoderSet}
    (hset : DecoderSet.ofSchema options schema = .ok set) {name : String} {plan : Plan}
    (hplan : set.planFor? name = some plan) {nested : Nested} (hnested : nested.Framed) :
    FramedPlan nested plan := by
  intro number rule hrule key m seen
  obtain ⟨message, hfits, -⟩ := DecoderSet.exists_fits hset hplan
  obtain ⟨field, -, -, happ⟩ := hfits.of_rule? hrule
  exact hnested.apply happ key m seen

/-- Where the bytes of a buffer went that a set decoded as the named message by a plan. -/
structure Accounts (set : DecoderSet) (name : String) (plan : Plan) (bytes : Bytes) (m : Message)
    (records : List Record) : Prop where
  /-- The scanner cuts the buffer into the records. -/
  scanned : (Reader.records Cursor.defaultBudget).run bytes = .ok records
  whole : records.flatMap (·.raw) = bytes
  /-- The decoder takes one record after the other. -/
  consumed : ∃ seen, Steps
    (mergeRecord Cursor.defaultBudget (set.nested Cursor.defaultBudget) plan)
    (Message.ofName name, []) (records.map (·.raw)) (m, seen)
  unknown : m.unknown =
    if plan.preserveUnknown then
      (records.filter fun r => plan.isUnknown r.number).flatMap (·.raw)
    else []
  extensions : m.extensions.records =
    (records.filter fun r => plan.takesExtension r.number).map fun r => ⟨r.number, r.raw⟩

theorem Accounts.rawFor {set : DecoderSet} {name : String} {plan : Plan} {bytes : Bytes}
    {m : Message} {records : List Record} (h : Accounts set name plan bytes m records)
    (number : Nat) :
    m.extensions.rawFor number =
      (records.filter fun r => plan.takesExtension number && r.number = number).flatMap
        (·.raw) := by
  rw [ExtensionStore.rawFor, h.extensions, List.filter_map, List.flatMap_map, List.filter_filter]
  congr 1
  apply List.filter_congr
  intro r _
  by_cases hr : r.number = number <;> simp [hr]

/-- A name without a plan of its own keeps the whole buffer. -/
theorem Accounts.unknown_rawFields {set : DecoderSet} {name : String} {bytes : Bytes}
    {m : Message} {records : List Record}
    (h : Accounts set name (Plan.rawFields name) bytes m records) : m.unknown = bytes := by
  have hkeep : (Plan.rawFields name).preserveUnknown = true := rfl
  have hall : (records.filter fun r => (Plan.rawFields name).isUnknown r.number) = records :=
    List.filter_eq_self.2 fun _ _ => rfl
  rw [h.unknown, hall, if_pos hkeep, h.whole]

theorem DecoderSet.mergeWith_eq_ok_iff {set : DecoderSet} {budget : Nat} {nested : Nested}
    {name : String} {m m' : Message} {bytes rest : Bytes} :
    set.mergeWith budget nested name m bytes = .ok m' rest ↔ ∃ plan,
      set.planFor? name = some plan ∧ mergeByPlan budget nested plan m bytes = .ok m' rest := by
  rw [mergeWith]
  cases set.planFor? name with
  | none =>
    refine iff_of_false ?_ (by simp)
    intro h
    cases h
  | some plan => simp

theorem DecoderSet.decode_eq_ok_iff {set : DecoderSet} {name : String} {bytes : Bytes}
    {m : Message} :
    set.decode name bytes = .ok m ↔ ∃ plan rest, set.planFor? name = some plan ∧
      mergeByPlan Cursor.defaultBudget (set.nested Cursor.defaultBudget) plan
        (Message.ofName name) bytes = .ok m rest := by
  have hname : (Message.ofName name).name = name := rfl
  rw [DecoderSet.decode, DecoderSet.merge, hname, run_eq_ok_iff]
  simp only [mergeWith_eq_ok_iff]
  exact exists_comm

theorem DecoderSet.exists_accounts {options : Options} {schema : Schema} {set : DecoderSet}
    (hset : DecoderSet.ofSchema options schema = .ok set) {name : String} {bytes : Bytes}
    {m : Message} (h : set.decode name bytes = .ok m) :
    ∃ plan records, set.planFor? name = some plan ∧ Accounts set name plan bytes m records := by
  obtain ⟨plan, rest, hplan, hmerge⟩ := DecoderSet.decode_eq_ok_iff.1 h
  have hframed : FramedPlan (set.nested Cursor.defaultBudget) plan :=
    framedPlan_ofSchema hset hplan (set.framed_nested Cursor.defaultBudget)
  obtain ⟨records, seen, hrecords, hwhole, hsteps⟩ := records_of_mergeByPlan hframed hmerge
  obtain ⟨hunknown, hextensions⟩ := kept_of_steps hframed hrecords hsteps
  exact ⟨plan, records, hplan,
    { scanned := by
        rw [run_eq_ok_iff, ← hwhole]
        exact ⟨[], records_flatMap hrecords⟩
      whole := hwhole
      consumed := ⟨seen, hsteps⟩
      unknown := by simpa [Message.ofName] using hunknown
      extensions := by simpa [Message.ofName] using hextensions }⟩

/-- No byte of an accepted buffer is lost, kept twice or kept in the wrong place. -/
theorem accounts_of_decode {options : Options} {schema : Schema} {set : DecoderSet}
    (hset : DecoderSet.ofSchema options schema = .ok set) :
    (∀ name bytes m, set.decode name bytes = .ok m → ∃ plan records,
      set.planFor? name = some plan ∧ Accounts set name plan bytes m records ∧
      (∀ number, m.extensions.rawFor number =
        (records.filter fun r => plan.takesExtension number && r.number = number).flatMap
          (·.raw)) ∧
      (set.plan? name = none → WellKnown.isWellKnown name = true ∧ m.unknown = bytes)) ∧
    ∀ bytes raw, WellKnown.rawMessage.decode bytes = .ok raw → raw.raw = bytes := by
  constructor
  · intro name bytes m h
    obtain ⟨plan, records, hplan, haccounts⟩ := DecoderSet.exists_accounts hset h
    refine ⟨plan, records, hplan, haccounts, haccounts.rawFor, ?_⟩
    intro hnone
    rw [DecoderSet.planFor?, hnone] at hplan
    dsimp only at hplan
    split at hplan
    · rename_i hwell
      cases hplan
      exact ⟨hwell, haccounts.unknown_rawFields⟩
    · cases hplan
  · intro bytes raw h
    obtain ⟨rest, hmerge⟩ := run_eq_ok_iff.1 h
    simpa [WellKnown.rawMessage] using WellKnown.RawMessage.raw_of_merge hmerge

/-- A field, an extension and an unknown field that comes before both. -/
theorem accounts_of_decode_extension_range :
    let schema : Schema :=
      { messages := [{ name := "M", fields := [.singular "f" 1 (.scalar .int32)],
                       extensionRanges := [⟨100, 200⟩] }] }
    ∃ set m, DecoderSet.ofSchema {} schema = .ok set ∧
      set.decode "M" [0x10, 7, 8, 5, 0xa0, 6, 1] = .ok m ∧
      m.unknown = [0x10, 7] ∧ m.extensions.rawFor 100 = [0xa0, 6, 1] ∧
      ∃ plan records, Accounts set "M" plan [0x10, 7, 8, 5, 0xa0, 6, 1] m records := by
  intro schema
  have hrun : ((DecoderSet.ofSchema {} schema).toOption.bind fun set =>
      (set.decode "M" [0x10, 7, 8, 5, 0xa0, 6, 1]).toOption.map fun m =>
        (m.unknown, m.extensions.rawFor 100)) = some ([0x10, 7], [0xa0, 6, 1]) := by
    rw [DecoderSet.ofSchema_eq, Schema.plans_eq rfl]
    decide +kernel
  obtain ⟨set, hset, hrun⟩ := exists_ok_of_bind hrun
  obtain ⟨m, hm, hkept⟩ := exists_ok_of_map hrun
  obtain ⟨hunknown, hraw⟩ := Prod.mk.inj hkept
  obtain ⟨plan, records, -, haccounts, -⟩ := (accounts_of_decode hset).1 _ _ _ hm
  exact ⟨set, m, hset, hm, hunknown, hraw, plan, records, haccounts⟩

end Dynamic

end ProtoPlan
