import ProtoPlan.Proofs.Dynamic.Rules
import ProtoPlan.Proofs.Dynamic.SameKnown
import ProtoPlan.Proofs.Dynamic.Shape
import ProtoPlan.Proofs.Plan.WellFormed

/-!
Decoding under two sets of options. Rules for one field differ in paths and in other matters of
generated code alone, which no run reads, and the plans of one message in whether they keep its
unknown fields. So two sets that are compiled from one schema go through a buffer together, at every
level, and find the same but for unknown fields.
-/

namespace ProtoPlan

open Wire Schema

namespace Wire.Reader

/-- What holds of all that the first reader yields may go along. -/
theorem Agrees.and_ensures {R : α → β → Prop} {P : α → Prop} {x : Reader α} {y : Reader β}
    (h : Agrees R x y) (hx : Ensures x P) : Agrees (fun a b => P a ∧ R a b) x y := by
  intro bytes
  rcases h bytes with ⟨a, b, rest, ha, hb, hab⟩ | hfault
  · exact .inl ⟨a, b, rest, ha, hb, hx ha, hab⟩
  · exact .inr hfault

theorem Agrees.forall₂_elements {R : α → β → Prop} {x : Reader α} {y : Reader β}
    (h : Agrees R x y) {as : List α} {bs : List β} (hlist : List.Forall₂ R as bs) :
    Agrees (List.Forall₂ R) (Reader.elements x as) (Reader.elements y bs) :=
  Agrees.drain (fun _ _ hlist => h.map fun _ _ hab => List.rel_append hlist (.cons hab .nil)) hlist

end Wire.Reader

/-- The message that a name stands for: its declaration, or one without fields if the name is of the
`google.protobuf` package but not declared there. -/
def Schema.messageFor? (schema : Schema) (name : String) : Option Message :=
  match schema.declaration? name with
  | some message => some message
  | none => if WellKnown.isWellKnown name then some { name } else none

theorem Options.keepsUnknown_of_declaration {options : Options} {schema : Schema} {name : String}
    {message : Message} (h : schema.declaration? name = some message) :
    options.keepsUnknown name = options.preserveUnknown := by
  have hraw : (WellKnown.isWellKnown name && WellKnown.messages.all (·.name ≠ name)) = false := by
    cases hwell : WellKnown.isWellKnown name with
    | false => rfl
    | true =>
      rw [declaration?, if_pos hwell] at h
      rw [Bool.true_and, List.all_eq_false]
      refine ⟨message, List.mem_of_find?_eq_some h, ?_⟩
      simpa using List.find?_some h
  rw [keepsUnknown, hraw, Bool.or_false]

theorem Options.keepsUnknown_of_undeclared (options : Options) {schema : Schema} {name : String}
    (hnone : schema.declaration? name = none) (hwell : WellKnown.isWellKnown name = true) :
    options.keepsUnknown name = true := by
  have hall : WellKnown.messages.all (·.name ≠ name) = true := by
    rw [declaration?, if_pos hwell, List.find?_eq_none] at hnone
    simpa using hnone
  rw [keepsUnknown, hwell, hall]
  exact Bool.or_true _

namespace Dynamic

open Reader

/-- The plan of a name fits the message that the name stands for, whatever the options. -/
theorem DecoderSet.planFor?_messageFor? {options : Options} {schema : Schema} {set : DecoderSet}
    (hset : ofSchema options schema = .ok set) (name : String) :
    Option.Rel (fun message plan => Plan.Fits message plan ∧
      plan.preserveUnknown = options.keepsUnknown name) (schema.messageFor? name)
      (set.planFor? name) := by
  unfold Schema.messageFor?
  cases hd : schema.declaration? name with
  | some message =>
    obtain ⟨plan, hplan, hfits, hkeep⟩ := planFor?_of_declaration hset hd
    rw [hplan]
    exact .some ⟨hfits, by rw [hkeep, Options.keepsUnknown_of_declaration hd]⟩
  | none =>
    cases hwell : WellKnown.isWellKnown name with
    | true =>
      rw [planFor?_of_undeclared hset hd hwell]
      exact .some ⟨Plan.fits_rawFields name,
        (options.keepsUnknown_of_undeclared hd hwell).symm⟩
    | false =>
      have hrel := plan?_ofSchema hset name
      rw [hd] at hrel
      rw [planFor?, eq_none_of_rel hrel, hwell]
      exact .none

/-- Of a rule a run reads no more than the field tells. -/
theorem DecoderSet.apply_congr (set : DecoderSet) {field : Field} {bit : Option Nat}
    {rule rule' : Rule} (h : Rule.Fits field bit rule) (h' : Rule.Fits field bit rule')
    (budget : Nat) (key : Key) (m : Message) (seen : List Nat) :
    (set.nested budget).apply rule' key m seen = (set.nested budget).apply rule key m seen := by
  by_cases hmap : ∃ k v, field.cardinality = .map k v
  · obtain ⟨k, v, hc⟩ := hmap
    rw [set.apply_map_eq h hc, set.apply_map_eq h' hc]
  · have hplain (k v : Field) : field.cardinality ≠ .map k v := fun hc => hmap ⟨k, v, hc⟩
    rw [Nested.apply_eq h hplain, Nested.apply_eq h' hplain]

/-- Both sides of an entry are the same but for unknown fields. -/
def SameSides (options options' : Options) (e e' : Value × Value) : Prop :=
  SameKnownValue options options' e.1 e'.1 ∧ SameKnownValue options options' e.2 e'.2

/-- Readers of nested records that agree on messages that are the same but for unknown fields. -/
structure AlikeNested (options options' : Options) (set : DecoderSet) (nested nested' : Nested) :
    Prop where
  message : ∀ name m m', WellShaped set name m → SameKnown options options' m m' →
    Agrees (SameKnown options options') (nested.message name m) (nested'.message name m')
  entry : ∀ rule, Agrees (SameSides options options') (nested.entry rule) (nested'.entry rule)

namespace AlikeNested

variable {options options' : Options} {set : DecoderSet} {nested nested' : Nested}
  (h : AlikeNested options options' set nested nested')
include h

theorem value (field : String) (read : Read) :
    Agrees (SameKnownValue options options') (nested.value field read)
      (nested'.value field read) := by
  cases read with
  | scalar kind =>
    refine (agrees_self kind.read).map ?_
    rintro v _ rfl
    exact .scalar v
  | string =>
    refine (agrees_self (text field)).map ?_
    rintro v _ rfl
    exact .text v
  | bytes =>
    refine (agrees_self span).map ?_
    rintro v _ rfl
    exact .bytes v
  | message target =>
    exact (h.message _ _ _ (wellShaped_ofName set target.name)
      (sameKnown_ofName options options' target.name)).map fun _ _ hm => .message hm

section Held

variable {held held' : Option Value}
  (hheld : Option.Rel (SameKnownValue options options') held held')
include hheld

theorem nextSingle {rule : FieldRule}
    (hshape : ∀ v, held = some v → HasShape set (.field rule) v) :
    Agrees (SameKnownValue options options') (nested.nextSingle rule held)
      (nested'.nextSingle rule held') := by
  unfold Nested.nextSingle
  split
  · exact (h.value rule.name rule.read).map fun _ _ hv =>
      sameKnownValue_list (List.rel_append (sameKnown_listOf hheld) (.cons hv .nil))
  · rename_i boxed target hstore hread
    exact (h.message _ _ _ (HasShape.messageOf hread hshape)
      (sameKnown_messageOf hheld target.name)).map fun _ _ hm => .message hm
  · exact h.value rule.name rule.read

theorem next {rule : Rule} (key : Key) (hshape : ∀ v, held = some v → HasShape set rule v) :
    Agrees (Option.Rel (SameKnownValue options options')) (nested.next rule key held)
      (nested'.next rule key held') := by
  cases rule with
  | field rule =>
    unfold Nested.next
    dsimp only
    split
    · apply Agrees.delimited
      exact ((h.value rule.name rule.read).forall₂_elements (sameKnown_listOf hheld)).map
        fun _ _ hvs => .some (sameKnownValue_list hvs)
    · exact ((h.nextSingle hheld hshape).map fun _ _ hv => .some hv).expect
  | map rule =>
    refine ((h.entry rule).map fun e e' he => ?_).expect
    rw [he.1.toKey?]
    cases e.1.toKey? with
    | none => exact .none
    | some k =>
      exact .some (sameKnownValue_map
        (SortedMap.forall₂_insertEntry (sameKnown_mapOf hheld) k he.2))

end Held

theorem side (key : Key) (side : EntrySide) (field : String) {slot slot' : Value}
    (hslot : SameKnownValue options options' slot slot') (htype : HasType set side.read slot) :
    Agrees (SameKnownValue options options') (nested.side key side field slot)
      (nested'.side key side field slot') := by
  apply Agrees.expect
  have hvalue := h.value field side.read
  generalize side.read = read at htype hvalue ⊢
  cases htype with
  | message hm =>
    cases hslot with
    | message hsame => exact (h.message _ _ _ hm hsame).map fun _ _ hm => .message hm
  | scalar | string | bytes => exact hvalue

theorem entryFields (hshapes : nested.Shapes set) (budget : Nat) (rule : MapRule) :
    Agrees (SameSides options options') (nested.entryFields budget rule)
      (nested'.entryFields budget rule) := by
  have hfields : Agrees (fun e e' => (HasType set rule.key.read e.1 ∧
      HasType set rule.value.read e.2) ∧ SameSides options options' e e')
      (nested.entryFields budget rule) (nested'.entryFields budget rule) := by
    refine Agrees.fields ?_ (fun _ _ _ _ he _ => he) ?_
    · rintro key e e' ⟨⟨hk, hv⟩, hkey, hvalue⟩
      dsimp only
      split
      · refine .some (((h.side key rule.key _ hkey hk).and_ensures
          (hshapes.side key rule.key _ hk)).map ?_)
        exact fun _ _ hside => ⟨⟨hside.1, hv⟩, hside.2, hvalue⟩
      · refine .some (((h.side key rule.value _ hvalue hv).and_ensures
          (hshapes.side key rule.value _ hv)).map ?_)
        exact fun _ _ hside => ⟨⟨hk, hside.1⟩, hkey, hside.2⟩
      · exact .none
    · exact ⟨⟨hasType_zero rule.key.read, hasType_zero rule.value.read⟩,
        sameKnownValue_zero rule.key.read, sameKnownValue_zero rule.value.read⟩
  exact hfields.mono fun _ _ he => he.2

end AlikeNested

/-- A message of `google.protobuf` that has no declaration keeps its whole buffer. -/
theorem unknown_of_undeclared {options : Options} {schema : Schema} {set : DecoderSet}
    (hset : DecoderSet.ofSchema options schema = .ok set) {name : String}
    (hwell : WellKnown.isWellKnown name = true)
    (hraw : ∀ message ∈ WellKnown.messages, message.name ≠ name) {bytes : Bytes} {m : Message}
    (h : set.decode name bytes = .ok m) : m.unknown = bytes := by
  have hnone : schema.declaration? name = none := by
    rw [Schema.declaration?, if_pos hwell, List.find?_eq_none]
    simpa using hraw
  obtain ⟨plan, records, hplan, haccounts⟩ := DecoderSet.exists_accounts hset h
  rw [DecoderSet.planFor?_of_undeclared hset hnone hwell] at hplan
  cases hplan
  exact haccounts.unknown_rawFields

section Run

variable {options options' : Options} {schema : Schema} {set set' : DecoderSet}
  (hset : DecoderSet.ofSchema options schema = .ok set)
  (hset' : DecoderSet.ofSchema options' schema = .ok set')

/-- States of two runs through the fields of a message. -/
structure SameState (options options' : Options) (set : DecoderSet) (name : String)
    (s t : Message × List Nat) : Prop where
  shaped : WellShaped set name s.1
  known : SameKnown options options' s.1 t.1
  seen : t.2 = s.2

include hset

/-- Two plans of one message do the same with a record that a rule claims. -/
theorem AlikeNested.claimed {budget : Nat}
    (h : AlikeNested options options' set (set.nested budget) (set'.nested budget)) {name : String}
    {message : ProtoPlan.Message} {plan plan' : Plan} (hplan : set.planFor? name = some plan)
    (hfits : Plan.Fits message plan) (hfits' : Plan.Fits message plan') (key : Key)
    {s t : Message × List Nat} (hstate : SameState options options' set name s t) :
    Option.Rel (Agrees (SameState options options' set name))
      ((plan.rule? key.number).map fun rule => (set.nested budget).apply rule key s.1 s.2)
      ((plan'.rule? key.number).map fun rule => (set'.nested budget).apply rule key t.1 t.2) := by
  rcases hfits.rule?_cases key.number with ⟨field, hf, hnumber, rule, hrule, happly⟩ | ⟨hn, hnone⟩
  · obtain ⟨rule', hrule', happly'⟩ := hfits'.rule field hf
    rw [hnumber] at hrule' happly'
    have hrule? : plan.rule? rule.number = some rule := by rw [happly.number, hnumber, hrule]
    have hshape (v : Value) (hv : s.1.fields.get? rule.number = some v) : HasShape set rule v :=
      hstate.shaped.shaped hv hplan hrule?
    have hensures := ensures_claimed hset hplan (shapes_nested hset budget) hrule key s.2
      hstate.shaped
    -- On the second side too the first rule may stand for the record's field.
    have hagrees : Agrees (fun a b => SameKnown options options' a.1 b.1 ∧ b.2 = a.2)
        ((set.nested budget).apply rule key s.1 s.2)
        ((set'.nested budget).apply rule' key t.1 t.2) := by
      rw [set'.apply_congr happly happly', Nested.apply_eq_next happly,
        Nested.apply_eq_next happly, hstate.seen]
      exact (h.next (hstate.known.rel rule.number) key hshape).map fun v v' hv =>
        ⟨hstate.known.hold hv rule, rfl⟩
    rw [hrule, hrule']
    exact .some ((hagrees.and_ensures hensures).mono fun a b hab => ⟨hab.1, hab.2.1, hab.2.2⟩)
  · rw [hnone, hfits'.noRule _ hn]
    exact .none

include hset'

theorem AlikeNested.mergeWith {budget : Nat}
    (h : AlikeNested options options' set (set.nested budget) (set'.nested budget)) {name : String}
    {m m' : Message} (hm : WellShaped set name m) (hknown : SameKnown options options' m m') :
    Agrees (SameKnown options options') (set.mergeWith budget (set.nested budget) name m)
      (set'.mergeWith budget (set'.nested budget) name m') := by
  have hrel := DecoderSet.planFor?_messageFor? hset name
  have hrel' := DecoderSet.planFor?_messageFor? hset' name
  unfold DecoderSet.mergeWith
  cases hmessage : schema.messageFor? name with
  | none =>
    rw [hmessage] at hrel hrel'
    rw [eq_none_of_rel hrel, eq_none_of_rel hrel']
    exact Agrees.throw _
  | some message =>
    rw [hmessage] at hrel hrel'
    obtain ⟨plan, hplan, hfits, hkeep⟩ := exists_of_rel hrel
    obtain ⟨plan', hplan', hfits', hkeep'⟩ := exists_of_rel hrel'
    rw [hplan, hplan']
    dsimp only
    -- The plans fit one message, so that they part ways only over what no rule claims.
    have hranges : plan'.extensionRanges = plan.extensionRanges := by
      rw [hfits.extensionRanges, hfits'.extensionRanges]
    refine Agrees.bind (Agrees.fields (R := SameState options options' set name)
      (fun key s t hstate => h.claimed hset hplan hfits hfits' key hstate) ?_ ⟨hm, hknown, rfl⟩) ?_
    · intro key s t raw hstate _
      have hname : s.1.name = name := hstate.shaped.named
      refine ⟨hstate.shaped.congr (by simp) (by simp), ?_, hstate.seen⟩
      exact hstate.known.keepUnclaimed hranges (by rw [hkeep, hname]) (by rw [hkeep', hname])
        key.number raw
    · rintro ⟨last, seen⟩ ⟨last', seen'⟩ hstate
      obtain rfl : seen' = seen := hstate.seen
      dsimp only
      rw [hfits'.requiredCount, hfits'.name, ← hfits.requiredCount, ← hfits.name]
      split
      · exact Agrees.pure hstate.known
      · exact Agrees.throw _

/-- Under any budget. -/
theorem alikeNested (budget : Nat) :
    AlikeNested options options' set (set.nested budget) (set'.nested budget) := by
  induction budget with
  | zero => exact ⟨fun _ _ _ _ _ => Agrees.throw _, fun _ => Agrees.throw _⟩
  | succ budget ih =>
    refine ⟨fun name m m' hm hknown => ?_, fun rule => ?_⟩
    · exact (ih.mergeWith hset hset' hm hknown).delimited
    · exact (ih.entryFields (shapes_nested hset budget) budget rule).delimited

end Run

/-- Options do not change what decoding finds. Under any two sets of options that a schema compiles
with, decoding a buffer fails with one fault, or yields messages that are the same at every level
but for unknown fields: there are none where they are not preserved, and if both options preserve
them or neither does, the messages are equal. Messages of `google.protobuf` that have no declaration
keep all their fields under both. -/
theorem decode_options {options options' : Options} {schema : Schema} {set set' : DecoderSet}
    (hset : DecoderSet.ofSchema options schema = .ok set)
    (hset' : DecoderSet.ofSchema options' schema = .ok set') (name : String) (bytes : Bytes) :
    (∃ m m', set.decode name bytes = .ok m ∧ set'.decode name bytes = .ok m' ∧
      SameKnown options options' m m' ∧
      (options'.preserveUnknown = options.preserveUnknown → m' = m) ∧
      (WellKnown.isWellKnown name = true →
        (∀ message ∈ WellKnown.messages, message.name ≠ name) →
        m.unknown = bytes ∧ m'.unknown = bytes)) ∨
    ∃ fault, set.decode name bytes = .error fault ∧ set'.decode name bytes = .error fault := by
  have hagrees := (alikeNested hset hset' Cursor.defaultBudget).mergeWith hset hset'
    (wellShaped_ofName set name) (sameKnown_ofName options options' name)
  rcases hagrees.run bytes with ⟨m, m', hm, hm', hknown⟩ | hfault
  · exact .inl ⟨m, m', hm, hm', hknown, fun hkeep => SameKnown.eq hkeep hknown,
      fun hwell hraw => ⟨unknown_of_undeclared hset hwell hraw hm,
        unknown_of_undeclared hset' hwell hraw hm'⟩⟩
  · exact .inr hfault

/-- Unknown fields of a message and of one inside it are dropped under the second options. Those of
an undeclared message of `google.protobuf` are not. -/
theorem decode_options_dropped :
    let schema : Schema :=
      { messages := [{ name := "M", fields := [.singular "n" 1 (.message "N"),
                                               .singular "r" 2 (.message "google.protobuf.R")] },
                     { name := "N", fields := [.singular "a" 1 (.scalar .int32)] }] }
    let options : Options := { preserveUnknown := false, pooled := ["N"] }
    let bytes : Bytes := [0x0a, 4, 8, 7, 0x10, 1, 0x12, 2, 8, 9, 0x18, 5]
    ∃ set set' m m', DecoderSet.ofSchema {} schema = .ok set ∧
      DecoderSet.ofSchema options schema = .ok set' ∧ set.decode "M" bytes = .ok m ∧
      set'.decode "M" bytes = .ok m' ∧ SameKnown {} options m m' ∧
      m.unknown = [0x18, 5] ∧ (m.submessage 1 "N").unknown = [0x10, 1] ∧
      m'.unknown = [] ∧ (m'.submessage 1 "N").unknown = [] ∧
      (m'.submessage 2 "google.protobuf.R").unknown = [8, 9] := by
  intro schema options bytes
  have hplans : (schema.plans options).toOption.isSome = true := by
    rw [Schema.plans_eq rfl]
    decide +kernel
  obtain ⟨set', hset'⟩ := DecoderSet.exists_ofSchema hplans
  have hrun : ((DecoderSet.ofSchema {} schema).toOption.bind fun set =>
      (set.decode "M" bytes).toOption.bind fun m => some ((m.name, m.unknown),
        ((m.submessage 1 "N").name, (m.submessage 1 "N").unknown),
        (m.submessage 2 "google.protobuf.R").name, (m.submessage 2 "google.protobuf.R").unknown)) =
      some (("M", [0x18, 5]), ("N", [0x10, 1]), "google.protobuf.R", [8, 9]) := by
    rw [DecoderSet.ofSchema_eq, Schema.plans_eq rfl]
    decide +kernel
  obtain ⟨set, hset, hrun⟩ := exists_ok_of_bind hrun
  obtain ⟨m, hm, hheld⟩ := exists_ok_of_bind hrun
  simp only [Option.some.injEq, Prod.mk.injEq] at hheld
  obtain ⟨⟨hname, hunknown⟩, ⟨hinner, hinnerUnknown⟩, hraw, hrawUnknown⟩ := hheld
  obtain ⟨same, m', hsame, hm', hknown, -⟩ | ⟨fault, hfault, -⟩ :=
    decode_options hset hset' "M" bytes
  · obtain rfl : m = same := Except.ok.inj (hm.symm.trans hsame)
    have hinnerKnown := sameKnown_messageOf (hknown.rel 1) "N"
    have hrawKnown := sameKnown_messageOf (hknown.rel 2) "google.protobuf.R"
    rw [← Message.submessage_eq rfl, ← Message.submessage_eq rfl] at hinnerKnown hrawKnown
    refine ⟨set, set', m, m', hset, hset', hm, hm', hknown, hunknown, hinnerUnknown, ?_, ?_, ?_⟩
    · exact hknown.unknown.dropped' (by rw [hname]; decide +kernel)
    · exact hinnerKnown.unknown.dropped' (by rw [hinner]; decide +kernel)
    · rw [hrawKnown.unknown.kept (by rw [hraw]; decide +kernel) (by rw [hraw]; decide +kernel),
        hrawUnknown]
  · rw [hm] at hfault
    cases hfault

end Dynamic

end ProtoPlan
