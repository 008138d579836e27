import ProtoPlan.Proofs.Dynamic.Keeps
import ProtoPlan.Proofs.Dynamic.Truncation
import ProtoPlan.Proofs.Wire.Carries

/-!
Decoding by a narrower schema. The records of a deleted field are skipped as unknown ones, and what
is made of all others does not change.
-/

namespace ProtoPlan

open Wire Schema

namespace Dynamic

open Reader

/-- What a set reads of embedded messages and map entries, with the budget, the set of the narrower
schema reads too. -/
structure CarriesNested (schema narrow : Schema) (set set' : DecoderSet) (budget : Nat) : Prop where
  message : ∀ name m m', Keeps schema narrow name m m' →
    Carries (Keeps schema narrow name) ((set.nested budget).message name m)
      ((set'.nested budget).message name m')
  entry : ∀ name keyKind valueKind e e', KeepsValue schema narrow keyKind e.1 e'.1 →
    KeepsValue schema narrow valueKind e.2 e'.2 →
    Carries (fun e e' => KeepsValue schema narrow keyKind e.1 e'.1 ∧
        KeepsValue schema narrow valueKind e.2 e'.2)
      (Reader.nested budget fun budget =>
        (set.nested budget).mergeEntry budget name keyKind valueKind e)
      (Reader.nested budget fun budget =>
        (set'.nested budget).mergeEntry budget name keyKind valueKind e')

section Fields

variable {schema narrow : Schema} {set set' : DecoderSet} {budget : Nat}
  (h : CarriesNested schema narrow set set' budget)
include h

theorem CarriesNested.valueOf (field : String) (kind : Kind) :
    Carries (KeepsValue schema narrow kind) ((set.nested budget).valueOf field kind)
      ((set'.nested budget).valueOf field kind) := by
  cases kind with
  | scalar kind =>
    refine (carries_self kind.read).map ?_
    rintro v _ rfl
    exact .scalar v
  | string =>
    refine (carries_self (text field)).map ?_
    rintro v _ rfl
    exact .text v
  | bytes =>
    refine (carries_self span).map ?_
    rintro v _ rfl
    exact .bytes v
  | message type =>
    exact (h.message _ _ _ (keeps_ofName schema narrow _)).map fun _ _ hm => .message hm
  | group type => exact .throw _

theorem CarriesNested.mergeSide (key : Key) (field : String) (kind : Kind) {slot slot' : Value}
    (hslot : KeepsValue schema narrow kind slot slot') :
    Carries (KeepsValue schema narrow kind) ((set.nested budget).mergeSide key field kind slot)
      ((set'.nested budget).mergeSide key field kind slot') := by
  apply Carries.expect
  have hvalue := h.valueOf field kind
  cases hslot with
  | message hm => exact (h.message _ _ _ hm).map fun _ _ hm => .message hm
  | scalar | text | bytes | list | map => cases kind <;> exact hvalue

theorem CarriesNested.mergeEntry (name : String) (keyKind valueKind : Kind) {e e' : Value × Value}
    (hkey : KeepsValue schema narrow keyKind e.1 e'.1)
    (hvalue : KeepsValue schema narrow valueKind e.2 e'.2) :
    Carries (fun e e' => KeepsValue schema narrow keyKind e.1 e'.1 ∧
        KeepsValue schema narrow valueKind e.2 e'.2)
      ((set.nested budget).mergeEntry budget name keyKind valueKind e)
      ((set'.nested budget).mergeEntry budget name keyKind valueKind e') := by
  refine Carries.fields (fun key e e' he => ?_) ⟨hkey, hvalue⟩
  unfold Nested.claimSide
  split
  · exact .both ((h.mergeSide key _ keyKind he.1).map fun _ _ hv => ⟨hv, he.2⟩)
  · exact .both ((h.mergeSide key _ valueKind he.2).map fun _ _ hv => ⟨he.1, hv⟩)
  · exact .none fun _ => he

variable {name : String} (hless : schema.FewerFields narrow name)
include hless

theorem CarriesNested.mergeField {field : Field} (hf : field ∈ narrow.fieldsOf name)
    (hmap : ∀ key value, field.cardinality ≠ .map key value) (key : Key) {m m' : Message}
    (hm : Keeps schema narrow name m m') :
    Carries (Keeps schema narrow name) ((set.nested budget).mergeField field key m)
      ((set'.nested budget).mergeField field key m') := by
  have hkind : field.heldKind = field.kind := by
    unfold Field.heldKind
    split
    · rename_i hc
      exact absurd hc (hmap _ _)
    · rfl
  have hvalue : Carries (KeepsValue schema narrow field.heldKind)
      ((set.nested budget).valueOf field.name field.kind)
      ((set'.nested budget).valueOf field.name field.kind) := by
    rw [hkind]
    exact h.valueOf field.name field.kind
  have hlist := hm.list hf
  unfold Nested.mergeField
  split
  · split
    · apply Carries.delimited
      refine (Carries.drain (fun vs vs' hvs => ?_) hlist).map fun vs vs' hvs =>
        hm.set hless hf (keepsValue_list hvs)
      exact hvalue.map fun v v' hv => List.rel_append hvs (.cons hv .nil)
    · apply Carries.expect
      exact hvalue.map fun v v' hv =>
        hm.set hless hf (keepsValue_list (List.rel_append hlist (.cons hv .nil)))
  · rename_i oneof hc
    have hone : field.oneof? = some oneof := by rw [Field.oneof?, hc]
    exact (hvalue.map fun v v' hv => hm.select hless hf hone hv).expect
  · apply Carries.expect
    split
    · rename_i type hk
      refine (h.message _ _ _ (hm.submessage hf (hkind.trans hk))).map fun inner inner' hinner => ?_
      refine hm.set hless hf ?_
      rw [hkind, hk]
      exact .message hinner
    · exact hvalue.map fun v v' hv => hm.set hless hf hv

omit h in
theorem Keeps.putEntry {field key value : Field} (hf : field ∈ narrow.fieldsOf name)
    (hc : field.cardinality = .map key value) {m m' : Message}
    (hm : Keeps schema narrow name m m') {e e' : Value × Value}
    (hkey : KeepsValue schema narrow key.kind e.1 e'.1)
    (hvalue : KeepsValue schema narrow value.kind e.2 e'.2) :
    Keeps schema narrow name (m.putEntry field.number e) (m'.putEntry field.number e') := by
  have hkind : field.heldKind = value.kind := by rw [Field.heldKind, hc]
  unfold Message.putEntry
  rw [hkey.toKey?]
  split
  · rename_i k _
    refine hm.set hless hf (keepsValue_map ?_)
    have hentries := hm.map hf
    rw [hkind] at hentries ⊢
    exact SortedMap.forall₂_insertEntry hentries k hvalue
  · exact hm

/-- What the rules of both schemas do with a record of a field that is kept. -/
theorem CarriesNested.apply {field : Field} (hf : field ∈ narrow.fieldsOf name)
    {bit bit' : Option Nat} {rule rule' : Rule} (hfits : Rule.Fits field bit rule)
    (hfits' : Rule.Fits field bit' rule') (key : Key) {m m' : Message}
    (hm : Keeps schema narrow name m m') (seen seen' : List Nat) :
    Carries (fun s t => Keeps schema narrow name s.1 t.1)
      ((set.nested budget).apply rule key m seen)
      ((set'.nested budget).apply rule' key m' seen') := by
  by_cases hc : ∃ k v, field.cardinality = .map k v
  · obtain ⟨k, v, hc⟩ := hc
    rw [set.apply_map_eq hfits hc, set'.apply_map_eq hfits' hc]
    have hzero (kind : Kind) :
        KeepsValue schema narrow kind (Value.zeroOf kind) (Value.zeroOf kind) := by
      cases kind with
      | scalar kind => exact .scalar _
      | string => exact .text _
      | bytes | group => exact .bytes _
      | message type => exact .message (keeps_ofName schema narrow _)
    have hentry := h.entry field.name k.kind v.kind (Value.zeroOf k.kind, Value.zeroOf v.kind)
      (Value.zeroOf k.kind, Value.zeroOf v.kind) (hzero k.kind) (hzero v.kind)
    exact (hentry.map fun e e' he => Keeps.putEntry hless hf hc hm he.1 he.2).expect.map
      fun _ _ hm => hm
  · have hmap (k v : Field) : field.cardinality ≠ .map k v := fun heq => hc ⟨k, v, heq⟩
    rw [Nested.apply_eq hfits hmap, Nested.apply_eq hfits' hmap]
    exact (h.mergeField hless hf hmap key hm).map fun _ _ hm => hm

/-- The rules of two plans: both claim the fields that are kept; of a deleted field the second plan
keeps or drops the record, which the first reads to its end. -/
theorem CarriesNested.rules {message message' : ProtoPlan.Message} {plan plan' : Plan}
    (hfits : Plan.Fits message plan) (hfields : message.fields = schema.fieldsOf name)
    (hfits' : Plan.Fits message' plan') (hfields' : message'.fields = narrow.fieldsOf name)
    (key : Key) (s t : Message × List Nat) (hm : Keeps schema narrow name s.1 t.1) :
    FieldCarries (fun s t => Keeps schema narrow name s.1 t.1)
      (fun number raw (m, seen) => (keepUnclaimed plan number raw m, seen))
      (fun number raw (m, seen) => (keepUnclaimed plan' number raw m, seen)) key s t
      ((plan.rule? key.number).map fun rule => (set.nested budget).apply rule key s.1 s.2)
      ((plan'.rule? key.number).map fun rule => (set'.nested budget).apply rule key t.1 t.2) := by
  rcases hfits'.rule?_cases key.number with
    ⟨field, hf, hnumber, rule', hrule', happly'⟩ | ⟨hn', hnone'⟩
  · rw [hfields'] at hf
    obtain ⟨rule, hrule, happly⟩ := hfits.rule field (hfields ▸ hless.kept field hf)
    rw [hnumber] at hrule
    rw [hrule, hrule']
    exact .both (h.apply hless hf happly happly' key hm s.2 t.2)
  · rw [hfields'] at hn'
    rw [hnone']
    rcases hfits.rule?_cases key.number with ⟨field, hf, hnumber, rule, hrule, happly⟩ | ⟨-, hnone⟩
    · rw [hfields] at hf
      rw [← hnumber] at hn'
      rw [hrule]
      refine .first ((set.framed_nested budget).apply happly key s.1 s.2) fun raw => ?_
      have hraw := hm.keepUnclaimed_right plan' key.number raw
      refine Nested.ensures_apply
        (P := fun next => Keeps schema narrow name next (keepUnclaimed plan' key.number raw t.1))
        (fun value => ?_) (fun oneof value hone => ?_) hraw key s.2
      · rw [happly.number]
        exact hraw.set_deleted hn' value
      · rw [happly.number]
        exact hraw.select_deleted hless hf hn' (happly.oneof? ▸ hone) value
    · rw [hnone]
      exact .none fun raw =>
        (hm.keepUnclaimed_left plan key.number raw).keepUnclaimed_right plan' key.number raw

end Fields

section Run

variable {options : Options} {schema narrow : Schema} {set set' : DecoderSet}
  (hn : schema.Narrower narrow) (hset : DecoderSet.ofSchema options schema = .ok set)
  (hset' : DecoderSet.ofSchema options narrow = .ok set')
include hn hset hset'

theorem CarriesNested.mergeWith {budget : Nat} (h : CarriesNested schema narrow set set' budget)
    {name : String} {m m' : Message} (hm : Keeps schema narrow name m m') :
    Carries (Keeps schema narrow name) (set.mergeWith budget (set.nested budget) name m)
      (set'.mergeWith budget (set'.nested budget) name m') := by
  intro bytes last rest hmerge
  obtain ⟨plan, hplan, hmerge⟩ := DecoderSet.mergeWith_eq_ok_iff.1 hmerge
  obtain ⟨plan', hplan'⟩ := hn.exists_planFor hset hset' hplan
  obtain ⟨message, hfits, -, hfields⟩ := DecoderSet.exists_fits hset hplan
  obtain ⟨message', hfits', -, hfields'⟩ := DecoderSet.exists_fits hset' hplan'
  have hless := hn.fewerFields hset hplan
  obtain ⟨seen, hdrain, hseen⟩ := mergeByPlan_eq_ok_iff.1 hmerge
  have hstart : Keeps schema narrow name (m, ([] : List Nat)).1 (m', ([] : List Nat)).1 := hm
  obtain ⟨⟨last', seen'⟩, hdrain', hlast⟩ :=
    Carries.fields (h.rules hless hfits hfields hfits' hfields') hstart hdrain
  have hseen' : ∀ bit < plan'.requiredCount, bit ∈ seen' := by
    refine complete_of_complete hfits ?_ hfits' ?_ (fun field hf => ?_) hdrain hdrain' hseen
    · exact framedPlan_ofSchema hset hplan (set.framed_nested budget)
    · exact framedPlan_ofSchema hset' hplan' (set'.framed_nested budget)
    · rw [hfields]
      exact hless.kept field (hfields' ▸ hf)
  exact ⟨last', DecoderSet.mergeWith_eq_ok_iff.2 ⟨plan', hplan',
    mergeByPlan_eq_ok_iff.2 ⟨seen', hdrain', hseen'⟩⟩, hlast⟩

/-- Under any budget. -/
theorem carriesNested (budget : Nat) : CarriesNested schema narrow set set' budget := by
  induction budget with
  | zero => exact ⟨fun _ _ _ _ => .throw _, fun _ _ _ _ _ _ _ => .throw _⟩
  | succ budget ih =>
    constructor
    · intro name m m' hm
      rw [DecoderSet.nested_message, DecoderSet.nested_message]
      exact (ih.mergeWith hn hset hset' hm).delimited
    · intro name keyKind valueKind e e' hkey hvalue
      refine Carries.nested fun lower hlower => ?_
      obtain rfl := Nat.succ.inj hlower
      exact ih.mergeEntry name keyKind valueKind hkey hvalue

end Run

end Dynamic

namespace Message

/-- A field has the number. -/
def declares (message : Message) (number : Nat) : Bool := message.fields.any (·.number = number)

/-- The number is left to extensions. -/
def isExtension (message : Message) (number : Nat) : Bool :=
  message.extensionRanges.any (·.contains number)

end Message

theorem Plan.Fits.isNone_rule? {message : Message} {plan : Plan} (h : Plan.Fits message plan)
    (number : Nat) : (plan.rule? number).isNone = !message.declares number := by
  unfold Message.declares
  rcases h.rule?_cases number with ⟨field, hf, hnumber, rule, hrule, -⟩ | ⟨hn, hnone⟩
  · have hany : message.fields.any (·.number = number) = true :=
      List.any_eq_true.2 ⟨field, hf, decide_eq_true hnumber⟩
    rw [hrule, hany]
    rfl
  · have hany : message.fields.any (·.number = number) = false := by
      rw [List.any_eq_false]
      intro field hf heq
      exact hn (List.mem_map.2 ⟨field, hf, of_decide_eq_true heq⟩)
    rw [hnone, hany]
    rfl

namespace Dynamic

open Reader

/-- Where the records went that the message does not declare: those of extensions to the extensions,
all others to the unknown fields if these are preserved. -/
structure KeepsUndeclared (options : Options) (message : ProtoPlan.Message) (records : List Record)
    (m : Message) : Prop where
  unknown : m.unknown =
    if options.preserveUnknown then
      (records.filter fun r => !message.declares r.number && !message.isExtension r.number).flatMap
        (·.raw)
    else []
  extensions : m.extensions.records =
    (records.filter fun r => !message.declares r.number && message.isExtension r.number).map
      fun r => ⟨r.number, r.raw⟩

theorem Accounts.keepsUndeclared {options : Options} {set : DecoderSet} {name : String}
    {plan : Plan} {bytes : Bytes} {m : Message} {records : List Record}
    (h : Accounts set name plan bytes m records) {message : ProtoPlan.Message}
    (hfits : Plan.Fits message plan) (hpreserve : plan.preserveUnknown = options.preserveUnknown) :
    KeepsUndeclared options message records m := by
  have hunknown := h.unknown
  have hextensions := h.extensions
  unfold Plan.takesExtension at hextensions
  unfold Plan.isUnknown at hunknown
  simp only [hfits.isNone_rule?, Plan.isExtension, hfits.extensionRanges, hpreserve]
    at hunknown hextensions
  exact ⟨hunknown, hextensions⟩

/-- A schema that declares less decodes what the wider schema decodes, and finds in the fields that
are left what the wider schema finds in them, however deep. The records of all other fields, among
them the deleted ones, are kept in wire order, as extensions or as unknown fields. -/
theorem decode_narrower {options : Options} {schema narrow : Schema} {set : DecoderSet}
    (hset : DecoderSet.ofSchema options schema = .ok set) (hn : schema.Narrower narrow) :
    ∃ set', DecoderSet.ofSchema options narrow = .ok set' ∧
      ∀ name bytes m, set.decode name bytes = .ok m → ∃ m' records,
        set'.decode name bytes = .ok m' ∧ Keeps schema narrow name m m' ∧
        (Reader.records Cursor.defaultBudget).run bytes = .ok records ∧
        records.flatMap (·.raw) = bytes ∧
        (WellKnown.isWellKnown name = false → ∃ message less,
          schema.message? name = some message ∧ narrow.message? name = some less ∧
          message.Narrower less ∧ KeepsUndeclared options less records m') := by
  obtain ⟨set', hset'⟩ := DecoderSet.exists_ofSchema_narrower hn hset
  refine ⟨set', hset', fun name bytes m h => ?_⟩
  obtain ⟨rest, hmerge⟩ := run_eq_ok_iff.1 h
  have hnested := carriesNested hn hset hset' Cursor.defaultBudget
  have hcarries := hnested.mergeWith hn hset hset' (keeps_ofName schema narrow name)
  obtain ⟨m', hmerge', hm⟩ := hcarries hmerge
  have h' : set'.decode name bytes = .ok m' := run_eq_ok_iff.2 ⟨rest, hmerge'⟩
  obtain ⟨plan', records, hplan', haccounts⟩ := DecoderSet.exists_accounts hset' h'
  refine ⟨m', records, h', hm, haccounts.scanned, haccounts.whole, fun hown => ?_⟩
  obtain ⟨plan, -, hplan, -⟩ := DecoderSet.decode_eq_ok_iff.1 h
  rcases DecoderSet.planFor?_cases hset hplan with ⟨message, hd, -⟩ | ⟨-, hwell, -⟩
  · rw [declaration?_of_own hown] at hd
    obtain ⟨less, hd', hless⟩ := hn.exists_message hown hd
    obtain ⟨found, hfound, hfits, hpreserve⟩ :=
      DecoderSet.planFor?_of_declaration hset' ((declaration?_of_own hown).trans hd')
    rw [hplan'] at hfound
    cases hfound
    exact ⟨message, less, hd, hd', hless, haccounts.keepsUndeclared hfits hpreserve⟩
  · rw [hown] at hwell
    cases hwell

/-- Two fields are deleted, of which one is of an embedded message. -/
theorem decode_narrower_dropped_field :
    let schema : Schema :=
      { messages := [{ name := "M", fields := [.singular "f" 1 (.scalar .int32),
                                               .singular "n" 2 (.message "N")] },
                     { name := "N", fields := [.singular "a" 1 (.scalar .int32),
                                               .singular "b" 2 .string] }] }
    let narrow : Schema :=
      { messages := [{ name := "M", fields := [.singular "n" 2 (.message "N")] },
                     { name := "N", fields := [.singular "a" 1 (.scalar .int32)] }] }
    let bytes : Bytes := [8, 5, 0x12, 5, 8, 7, 0x12, 1, 0x61]
    ∃ set set' m m', DecoderSet.ofSchema {} schema = .ok set ∧
      DecoderSet.ofSchema {} narrow = .ok set' ∧ set.decode "M" bytes = .ok m ∧
      set'.decode "M" bytes = .ok m' ∧ Keeps schema narrow "M" m m' ∧ m'.unknown = [8, 5] := by
  intro schema narrow bytes
  have hnone : ∀ message ∈ schema.messages, ∀ field ∈ message.fields, field.oneof? = none := by
    decide
  have hn : schema.Narrower narrow := by
    refine ⟨rfl, .cons ⟨rfl, rfl, rfl, .cons _ (.refl _), fun field hf _ _ _ hone => ?_⟩
      (.cons ⟨rfl, rfl, rfl, .cons_cons _ (.cons _ .slnil), fun field hf _ _ _ hone => ?_⟩ .nil)⟩
    · rw [hnone _ List.mem_cons_self field hf] at hone
      cases hone
    · rw [hnone _ (List.mem_cons_of_mem _ List.mem_cons_self) field hf] at hone
      cases hone
  have hrun : ((DecoderSet.ofSchema {} schema).toOption.bind fun set =>
      (set.decode "M" bytes).toOption).isSome = true := by
    rw [DecoderSet.ofSchema_eq, Schema.plans_eq rfl]
    decide +kernel
  have hscan : ((Reader.records Cursor.defaultBudget).run bytes).toOption =
      some [⟨⟨1, .varint⟩, [8, 5]⟩, ⟨⟨2, .lengthDelimited⟩, [0x12, 5, 8, 7, 0x12, 1, 0x61]⟩] := by
    decide +kernel
  obtain ⟨set, m, hset, hm⟩ := exists_ok_ok_of_isSome hrun
  obtain ⟨set', hset', hdecode⟩ := decode_narrower hset hn
  obtain ⟨m', records, hm', hkeeps, hrecords, -, hundeclared⟩ := hdecode _ _ _ hm
  obtain ⟨message, less, -, hless, -, hkept⟩ := hundeclared (by decide)
  rw [hrecords] at hscan
  cases hscan
  cases hless
  exact ⟨set, set', m, m', hset, hset', hm, hm', hkeeps, hkept.unknown⟩

end Dynamic

end ProtoPlan
