import ProtoPlan.Proofs.Dynamic.Concatenation
import ProtoPlan.Proofs.Dynamic.Embedded
import ProtoPlan.Proofs.Dynamic.Reordering

/-!
Fields outside of oneofs. No record of another number reaches what such a field holds, so that it
holds in the end what its own records made of it, one after the other.
-/

namespace ProtoPlan.Dynamic

open Wire Schema Reader

/-- No oneof tells that it holds the field of that number. -/
def Message.Apart (m : Message) (number : Nat) : Prop := ∀ oneof, m.whichOneof oneof ≠ some number

theorem Message.apart_ofName (name : String) (number : Nat) : (ofName name).Apart number :=
  fun _ => nofun

/-- What one record of the rule's field makes of what the field holds. -/
def Nested.Leaves (nested : Nested) (rule : Rule) (r : Record) (held held' : Option Value) : Prop :=
  ∃ v, nested.next rule r.key held r.value = .ok v [] ∧ held' = v.or held

/-- A message of that name came of a new one by merging buffers, each within some budget. -/
inductive DecoderSet.Merged (set : DecoderSet) (name : String) : Message → Prop where
  | new : Merged set name (Message.ofName name)
  | merge {m m' : Message} {budget : Nat} {bytes : Bytes} : Merged set name m →
      set.mergeWithin budget m bytes = .ok m' → Merged set name m'

section Turn

variable {nested : Nested} {plan : Plan} {rule : Rule} {number : Nat}
  (hrule : plan.rule? number = some rule) (hone : rule.oneof? = none)
include hrule hone

theorem Turns.apart {r : Record} {m m' : Message} (hm : m.Apart number)
    (h : Turns nested plan r m m') : m'.Apart number := by
  cases h with
  | @claimed rule' held hrule' _ =>
    intro oneof
    cases held with
    | none => exact hm oneof
    | some v =>
      rw [Message.whichOneof_hold]
      split
      · rename_i hone'
        -- The oneof now tells the rule's own number, and the rule of `number` has no oneof.
        intro hsame
        have hnumber : rule'.number = r.number := by simpa using List.find?_some hrule'
        rw [← hnumber, Option.some.inj hsame, hrule] at hrule'
        cases hrule'
        rw [hone] at hone'
        cases hone'
      · exact hm oneof
  | unclaimed =>
    intro oneof
    rw [Message.whichOneof, oneofs_keepUnclaimed]
    exact hm oneof

omit hrule hone in
/-- A record of another number leaves the field alone. -/
theorem Turns.get?_of_ne {r : Record} {m m' : Message} (hm : m.Apart number)
    (hne : r.number ≠ number) (h : Turns nested plan r m m') :
    m'.fields.get? number = m.fields.get? number := by
  cases h with
  | @claimed rule' held hrule' _ =>
    have hnumber : rule'.number = r.number := by simpa using List.find?_some hrule'
    cases held with
    | none => rfl
    | some v =>
      have hformer : m.former? rule' ≠ some number := by
        intro hformer
        obtain ⟨oneof, -, hwhich⟩ := Option.bind_eq_some_iff.1 hformer
        exact hm oneof hwhich
      rw [Message.get?_hold, if_neg (by rw [hnumber]; exact hne.symm), if_neg hformer]
  | unclaimed => rw [fields_keepUnclaimed]

omit hone in
/-- A record of the field leaves there what its rule makes of what was there. -/
theorem Turns.leaves {r : Record} {m m' : Message} (hnumber : r.number = number)
    (h : Turns nested plan r m m') :
    nested.Leaves rule r (m.fields.get? number) (m'.fields.get? number) := by
  have hruleNumber : rule.number = number := by simpa using List.find?_some hrule
  subst hnumber
  cases h with
  | @claimed rule' held hrule' hnext =>
    rw [hrule] at hrule'
    cases hrule'
    rw [hruleNumber] at hnext
    refine ⟨held, hnext, ?_⟩
    cases held with
    | none => rfl
    | some v => rw [Message.get?_hold, if_pos hruleNumber.symm]; rfl
  | unclaimed hnone =>
    rw [hrule] at hnone
    cases hnone

theorem Turns.own {records : List Record} {m m' : Message} (hm : m.Apart number)
    (h : RunsTo (Turns nested plan) records m m') :
    m'.Apart number ∧ RunsTo (nested.Leaves rule) (records.filter (·.number = number))
      (m.fields.get? number) (m'.fields.get? number) := by
  refine RunsTo.part (P := (·.Apart number)) (f := (·.fields.get? number)) ?_ ?_ hm h
  · intro r m m' hm hturn
    exact hturn.apart hrule hone hm
  · intro r _ m m' hm hturn
    split
    · rename_i hnumber
      exact hturn.leaves hrule (by simpa using hnumber)
    · rename_i hnumber
      exact hturn.get?_of_ne hm (by simpa using hnumber)

end Turn

section Merge

variable {options : Options} {schema : Schema} {set : DecoderSet}
  (hset : DecoderSet.ofSchema options schema = .ok set)
include hset

/-- A declared field has a rule in the plan that decodes the message. -/
theorem DecoderSet.exists_rule {name : String} {field : Field} (hf : field ∈ schema.fieldsOf name) :
    ∃ plan message rule bit, set.planFor? name = some plan ∧ Plan.Fits message plan ∧
      plan.rule? field.number = some rule ∧ Rule.Fits field bit rule := by
  unfold Schema.fieldsOf at hf
  split at hf
  · rename_i message hd
    obtain ⟨plan, hplan, hfits, -⟩ := planFor?_of_declaration hset hd
    obtain ⟨rule, hrule, hrulefits⟩ := hfits.rule field hf
    exact ⟨plan, message, rule, _, hplan, hfits, hrule, hrulefits⟩
  · cases hf

/-- What a buffer makes of a field outside of oneofs is what the field's own records make of it. -/
theorem DecoderSet.own_of_mergeWithin {budget : Nat} {m m' : Message} {bytes : Bytes}
    (h : set.mergeWithin budget m bytes = .ok m') {field : Field}
    (hf : field ∈ schema.fieldsOf m.name) (hone : field.oneof? = none)
    (hm : m.Apart field.number) :
    ∃ rule bit records, Rule.Fits field bit rule ∧ Cuts bytes records ∧ m'.Apart field.number ∧
      RunsTo ((set.nested budget).Leaves rule) (records.filter (·.number = field.number))
        (m.fields.get? field.number) (m'.fields.get? field.number) := by
  obtain ⟨plan, message, records, seen, hplan, hfits, hfields, hrecords, hwhole, hsteps⟩ :=
    DecoderSet.exists_steps_of_run hset h
  rw [← hfields] at hf
  obtain ⟨rule, hrule, hrulefits⟩ := hfits.rule field hf
  have hrun := (exists_steps_iff hfits (claimsByFrame_ofSchema hset hplan budget) hrecords).1
    ⟨seen, hsteps⟩
  obtain ⟨hapart, hown⟩ := Turns.own hrule (hrulefits.oneof?.trans hone) hm hrun
  exact ⟨rule, _, records, hrulefits, cuts_iff.2 ⟨hwhole, budget, hrecords⟩, hapart, hown⟩

/-- However a message came to be, no oneof of it tells that it holds a field outside of oneofs. -/
theorem DecoderSet.Merged.apart {name : String} {m : Message} (h : set.Merged name m)
    {field : Field} (hf : field ∈ schema.fieldsOf name) (hone : field.oneof? = none) :
    m.name = name ∧ m.Apart field.number := by
  induction h with
  | new => exact ⟨rfl, Message.apart_ofName name field.number⟩
  | @merge m m' budget bytes _ hmerge ih =>
    obtain ⟨hname, hapart⟩ := ih
    obtain ⟨-, -, -, -, -, hlast, -⟩ := own_of_mergeWithin hset hmerge (hname ▸ hf) hone hapart
    obtain ⟨rest, hrun⟩ := run_eq_ok_iff.1 hmerge
    exact ⟨(name_of_mergeWith hrun).trans hname, hlast⟩

end Merge

end ProtoPlan.Dynamic
