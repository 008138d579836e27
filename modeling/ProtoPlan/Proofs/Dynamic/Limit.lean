import ProtoPlan.Proofs.Dynamic.Nesting

/-!
The budget of a set. Embedded messages and map entries are told from other fields by the schema, so
that what a set does under another budget is told by the buffer.
-/

namespace ProtoPlan.Dynamic

open Wire Schema Reader

/-- The embedded messages and the map entries that are accepted under the budget are accepted under
the limit unless they are too deep, whatever they are merged into. -/
structure LimitedNested (schema : Schema) (set : DecoderSet) (budget limit : Nat) : Prop where
  message : ∀ name m m', Limited schema limit .lengthDelimited (some (schema.fieldsOf name))
    ((set.nested budget).message name m) ((set.nested limit).message name m')
  entry : ∀ name keyKind valueKind entry entry',
    Limited schema limit .lengthDelimited (some (entryFields keyKind valueKind))
      (Reader.nested budget fun budget =>
        (set.nested budget).mergeEntry budget name keyKind valueKind entry)
      (Reader.nested limit fun limit =>
        (set.nested limit).mergeEntry limit name keyKind valueKind entry')

section Fields

variable {schema : Schema} {set : DecoderSet} {budget limit : Nat}

theorem isLocal_message (name : String) (m : Message) :
    IsLocal ((set.nested budget).message name m) :=
  ((set.framed_nested budget).message name m).isLocal

/-- Values that are no messages are read alike under all budgets. -/
theorem valueOf_congr {kind : Kind} (h : schema.insideKind? kind = none) (name : String) :
    (set.nested budget).valueOf name kind = (set.nested limit).valueOf name kind := by
  cases kind with
  | message type => cases h
  | scalar | string | bytes | group => rfl

variable (h : LimitedNested schema set budget limit)
include h

theorem LimitedNested.valueOf (name : String) (kind : Kind) :
    Limited schema limit kind.wireType (schema.insideKind? kind)
      ((set.nested budget).valueOf name kind) ((set.nested limit).valueOf name kind) := by
  cases kind with
  | message type => exact (h.message (trimDots type) _ _).map (isLocal_message _ _)
  | scalar | string | bytes | group => exact limited_self _

theorem LimitedNested.mergeSide (key : Key) (name : String) (kind : Kind) (slot slot' : Value) :
    Limited schema limit key.wireType (schema.insideKind? kind)
      ((set.nested budget).mergeSide key name kind slot)
      ((set.nested limit).mergeSide key name kind slot') := by
  apply Limited.expect
  cases kind with
  | message type =>
    have hmessage (m m' : Message) := (h.message (trimDots type) m m').map
      (f := Value.message) (g := Value.message) (isLocal_message _ _)
    cases slot <;> cases slot' <;> exact hmessage _ _
  | scalar | string | bytes | group => exact limited_self _

theorem LimitedNested.mergeField {field : Field}
    (hmap : ∀ key value, field.cardinality ≠ .map key value) (key : Key) (m m' : Message) :
    Limited schema limit key.wireType (schema.inside? field)
      ((set.nested budget).mergeField field key m)
      ((set.nested limit).mergeField field key m') := by
  have hinside : schema.inside? field = schema.insideKind? field.kind := by
    unfold Schema.inside?
    split
    · rename_i hc
      exact absurd hc (hmap _ _)
    · rfl
  have hvalue (f g : Value → Message) := (h.valueOf field.name field.kind).map
    (f := f) (g := g) (set.byFrame_valueOf budget field.name field.kind).framed.isLocal
  rw [hinside]
  unfold Nested.mergeField
  split
  · split
    · rename_i hpacked
      have hnone : schema.insideKind? field.kind = none := by
        cases hk : field.kind <;> simp_all [Kind.isPackable, Schema.insideKind?]
      rw [hnone, valueOf_congr hnone]
      apply limited_of_agrees (isLocal_delimited _)
      exact ((agrees_elements _ _ _).map fun _ _ _ => trivial).delimited
    · exact (hvalue _ _).expect
  · exact (hvalue _ _).expect
  · apply Limited.expect
    cases hk : field.kind with
    | message type => exact (h.message (trimDots type) _ _).map (isLocal_message _ _)
    | scalar | string | bytes | group =>
      rw [hk] at hvalue
      exact hvalue _ _

/-- So it is with what a rule does. -/
theorem LimitedNested.apply {field : Field} {bit : Option Nat} {rule : Rule}
    (hfits : Rule.Fits field bit rule) (key : Key) (m m' : Message) (seen seen' : List Nat) :
    Limited schema limit key.wireType (schema.inside? field)
      ((set.nested budget).apply rule key m seen) ((set.nested limit).apply rule key m' seen') := by
  have hnested := byFrame_kept.keeps_nested set budget
  cases hfits with
  | field hfits =>
    have hlocal := (byFrame_kept.plainField hnested hfits key m).framed.isLocal
    rw [Nested.plainField_eq hfits] at hlocal
    rw [Nested.apply, Nested.apply, Nested.plainField_eq hfits, Nested.plainField_eq hfits]
    exact (h.mergeField hfits.not_map key m m').map hlocal
  | @map rule k v hc hfits =>
    have hinside : schema.inside? field = some (entryFields k.kind v.kind) := by
      rw [Schema.inside?, hc]
    have hentry := h.entry field.name k.kind v.kind (Value.zeroOf k.kind, Value.zeroOf v.kind)
      (Value.zeroOf k.kind, Value.zeroOf v.kind)
    have hlocal := (hnested.entry rule).framed.isLocal
    simp only [DecoderSet.nested_entry, Nested.entryFields_eq hfits] at hlocal
    rw [Nested.apply, Nested.apply, hinside]
    refine Limited.map (byFrame_kept.mapField hnested rule key m).framed.isLocal ?_
    rw [Nested.mapField_eq, Nested.mapField_eq]
    simp only [DecoderSet.nested_entry, Nested.entryFields_eq hfits]
    exact (hentry.map hlocal).expect

end Fields

section Run

variable {options : Options} {schema : Schema} {set : DecoderSet} {budget limit : Nat}
  (h : LimitedNested schema set budget limit)
include h

theorem LimitedNested.claimSide (name : String) (keyKind valueKind : Kind) :
    ClaimsLimited schema limit (entryFields keyKind valueKind)
      ((set.nested budget).claimSide name keyKind valueKind)
      ((set.nested limit).claimSide name keyKind valueKind) := by
  intro key entry entry'
  have hlocal (field : String) (kind : Kind) (slot : Value) :=
    (set.byFrame_mergeSide budget key field kind slot).framed.isLocal
  unfold Nested.claimSide
  split
  · rename_i hnumber
    refine .inl ⟨.singular "key" 1 keyKind, List.mem_cons_self, hnumber.symm, _, _, rfl, rfl, ?_⟩
    exact (h.mergeSide key _ keyKind entry.1 entry'.1).map (hlocal _ _ _)
  · rename_i hnumber
    refine .inl ⟨.singular "value" 2 valueKind, mem_entryFields_iff.2 (.inr rfl), hnumber.symm, _, _, rfl,
      rfl, ?_⟩
    exact (h.mergeSide key _ valueKind entry.2 entry'.2).map (hlocal _ _ _)
  · rename_i hkey hvalue
    refine .inr ⟨?_, rfl, rfl⟩
    simp only [entryFields, Field.singular, List.map_cons, List.map_nil, List.mem_cons,
      List.not_mem_nil, or_false, not_or]
    exact ⟨hkey, hvalue⟩

/-- The fields of an entry that was accepted. -/
theorem LimitedNested.mergeEntry (name : String) (keyKind valueKind : Kind)
    {entry : Value × Value} {bytes : Bytes} {last : Value × Value}
    (hrun : ((set.nested budget).mergeEntry budget name keyKind valueKind entry).run bytes =
      .ok last) (entry' : Value × Value) :
    RunsUnless (DeeperThan schema 2 limit (entryFields keyKind valueKind) bytes)
      (((set.nested limit).mergeEntry limit name keyKind valueKind entry').run bytes) := by
  obtain ⟨rest, hfields⟩ := run_eq_ok_iff.1 hrun
  have hnodup : ((entryFields keyKind valueKind).map (·.number)).Nodup := by
    simp [entryFields, Field.singular]
  have hframe := set.claimsByFrame_claimSide budget name keyKind valueKind
  rcases fields_limit hnodup hframe (h.claimSide name keyKind valueKind) hfields entry' with
    ⟨hno, last', hlast⟩ | ⟨hdeep, left, hleft⟩
  · exact .inl ⟨hno, last', run_eq_ok_iff.2 ⟨[], hlast⟩⟩
  · refine .inr ⟨hdeep, ?_⟩
    rw [Nested.mergeEntry, run, hleft]

variable (hset : DecoderSet.ofSchema options schema = .ok set)
include hset

theorem LimitedNested.rules {name : String} {plan : Plan} (hplan : set.planFor? name = some plan) :
    ClaimsLimited schema limit (schema.fieldsOf name)
      (fun key ((m, seen) : Message × List Nat) =>
        (plan.rule? key.number).map fun rule => (set.nested budget).apply rule key m seen)
      (fun key ((m, seen) : Message × List Nat) =>
        (plan.rule? key.number).map fun rule => (set.nested limit).apply rule key m seen) := by
  obtain ⟨message, hfits, -, hfields⟩ := DecoderSet.exists_fits hset hplan
  rintro key ⟨m, seen⟩ ⟨m', seen'⟩
  rw [← hfields]
  rcases hfits.rule?_cases key.number with ⟨field, hf, hnumber, rule, hrule, happly⟩ | ⟨hn, hnone⟩
  · exact .inl ⟨field, hf, hnumber, (set.nested budget).apply rule key m seen,
      (set.nested limit).apply rule key m' seen', by simp only [hrule, Option.map_some],
      by simp only [hrule, Option.map_some], h.apply happly key m m' seen seen'⟩
  · exact .inr ⟨hn, by simp only [hnone, Option.map_none], by simp only [hnone, Option.map_none]⟩

/-- A message that was accepted. -/
theorem LimitedNested.mergeWith {name : String} {m last : Message} {bytes : Bytes}
    (hrun : (set.mergeWith budget (set.nested budget) name m).run bytes = .ok last) (m' : Message) :
    RunsUnless (DeeperThan schema 2 limit (schema.fieldsOf name) bytes)
      ((set.mergeWith limit (set.nested limit) name m').run bytes) := by
  obtain ⟨rest, hmerge⟩ := run_eq_ok_iff.1 hrun
  obtain ⟨plan, hplan, hmerge⟩ := DecoderSet.mergeWith_eq_ok_iff.1 hmerge
  obtain ⟨message, hfits, -, hfields⟩ := DecoderSet.exists_fits hset hplan
  rw [DecoderSet.mergeWith_eq hplan]
  obtain ⟨seen, hdrain, hseen⟩ := mergeByPlan_eq_ok_iff.1 hmerge
  have hnodup := Schema.nodup_fieldsOf hset name
  rcases fields_limit hnodup (claimsByFrame_ofSchema hset hplan budget) (h.rules hset hplan) hdrain
    (m', []) with ⟨hno, ⟨last', seen'⟩, hdrain'⟩ | ⟨hdeep, left, hleft⟩
  · have hframed (budget : Nat) : FramedPlan (set.nested budget) plan :=
      framedPlan_ofSchema hset hplan (set.framed_nested budget)
    have hseen' := complete_of_complete hfits (hframed budget) hfits (hframed limit)
      (fun _ hf => hf) hdrain hdrain' hseen
    exact .inl ⟨hno, last', run_eq_ok_iff.2 ⟨[], mergeByPlan_eq_ok_iff.2 ⟨seen', hdrain', hseen'⟩⟩⟩
  · exact .inr ⟨hdeep, mergeByPlan_of_error hleft⟩

end Run

/-- Under any two budgets. -/
theorem limitedNested {options : Options} {schema : Schema} {set : DecoderSet}
    (hset : DecoderSet.ofSchema options schema = .ok set) (budget limit : Nat) :
    LimitedNested schema set budget limit := by
  induction budget generalizing limit with
  | zero =>
    constructor
    · intro name m m' value a hx
      cases hx []
    · intro name keyKind valueKind entry entry' value a hx
      cases hx []
  | succ budget ih =>
    constructor
    · intro name m m'
      rw [DecoderSet.nested_message, DecoderSet.nested_message]
      apply limited_nested
      rintro lower limit payload a hlower hrun
      obtain rfl := Nat.succ.inj hlower
      exact (ih limit).mergeWith hset hrun m'
    · intro name keyKind valueKind entry entry'
      apply limited_nested
      rintro lower limit payload a hlower hrun
      obtain rfl := Nat.succ.inj hlower
      exact (ih limit).mergeEntry name keyKind valueKind hrun entry'

end ProtoPlan.Dynamic
