import ProtoPlan.Proofs.Dynamic.LastWins
import ProtoPlan.Proofs.Dynamic.OwnRecords
import ProtoPlan.Proofs.Dynamic.Shape

/-!
Map fields. Every record of the field makes one entry, of what the records inside it leave under 1
and 2, and the entries are put in one after the other: each takes the place of what stood under its
key, and of the keys none is lost.
-/

namespace ProtoPlan

open Wire Schema Reader

theorem Wire.Reader.Steps.runsTo {step : σ → Reader σ} {records : List Record} {state last : σ}
    (h : Steps step state (records.map (·.raw)) last) :
    RunsTo (fun r state next => Takes (step state) r.raw next) records state last := by
  induction records generalizing state with
  | nil =>
    cases h
    exact .done _
  | cons r records ih =>
    cases h with
    | more _ ht hmore => exact .more ht (ih hmore)

namespace Dynamic

/-- A value of a kind that may key a map makes a key. -/
theorem exists_mapKey {kind : Scalar} {v : ScalarValue} (hkind : kind.isMapKey = true)
    (hv : kind.admits v = true) : ∃ key : MapKey, key.toValue = .scalar v := by
  have hkey : (Value.scalar v).toKey?.isSome = true := by
    cases kind <;> cases v <;> simp_all [Scalar.admits, Scalar.isMapKey, Value.toKey?]
  obtain ⟨key, hkey⟩ := Option.isSome_iff_exists.1 hkey
  exact ⟨key, Value.toValue_toKey? hkey⟩

/-- What its records leave of one side of an entry, if it has a value of that kind: what the last of
them has by itself, or, of messages, what all of them make of a new one. -/
inductive DecoderSet.SideOf (set : DecoderSet) (budget : Nat) :
    Kind → List Record → Value → Prop where
  | absent (kind : Kind) : SideOf set budget kind [] (Value.zeroOf kind)
  | last {kind : Kind} {records : List Record} {r : Record} {v : Value} :
      kind.isMessage = false → records.getLast? = some r → set.Fresh budget kind r v →
      SideOf set budget kind records v
  | merged {type : String} {records : List Record} {payloads : List Bytes} {m : Message} :
      List.Forall₂ (fun r payload => r.payload? = some payload) records payloads →
      payloads.foldlM (set.mergeWithin budget) (Message.ofName (trimDots type)) = .ok m →
      SideOf set budget (.message type) records (.message m)

/-- The entry that a record of a map field makes. No other records inside it count. -/
def DecoderSet.EntryOf (set : DecoderSet) (budget : Nat) (key value : Kind) (r : Record)
    (entry : MapKey × Value) : Prop :=
  ∃ payload inner, r.payload? = some payload ∧ Cuts payload inner ∧
    set.SideOf budget key (inner.filter (·.number = 1)) entry.1.toValue ∧
    set.SideOf budget value (inner.filter (·.number = 2)) entry.2

/-- What one record makes of a side of an entry. -/
def Nested.SideLeaves (nested : Nested) (field : String) (kind : Kind) (r : Record)
    (v v' : Value) : Prop :=
  nested.mergeSide r.key field kind v r.value = .ok v' []

section Side

variable {set : DecoderSet} {budget : Nat} {field : String}

/-- A side that is no message is overwritten, and no level of nesting is taken. -/
theorem Nested.fresh_of_sideLeaves {nested : Nested} {kind : Kind}
    (hkind : kind.isMessage = false) {r : Record} {v v' : Value}
    (h : nested.SideLeaves field kind r v v') : set.Fresh budget kind r v' := by
  obtain ⟨hkey, h⟩ := expect_eq_ok h
  have hvalue : (set.nested (budget + 1)).valueOf field kind r.value = .ok v' [] := by
    cases kind with
    | message => cases hkind
    | scalar | string | bytes | group => exact h
  exact DecoderSet.fresh_of_valueOf hkey hvalue

theorem Nested.last_of_sideLeaves {nested : Nested} {kind : Kind} (hkind : kind.isMessage = false)
    {records : List Record} {v v' : Value}
    (h : RunsTo (nested.SideLeaves field kind) records v v') :
    (records = [] ∧ v' = v) ∨
      ∃ r, records.getLast? = some r ∧ set.Fresh budget kind r v' := by
  induction h with
  | done => exact .inl ⟨rfl, rfl⟩
  | @more r records v mid v' hleaves _ ih =>
    refine .inr ?_
    rcases ih with ⟨rfl, rfl⟩ | ⟨last, hlast, hfresh⟩
    · exact ⟨r, rfl, fresh_of_sideLeaves hkind hleaves⟩
    · exact ⟨last, by simp [List.getLast?_cons, hlast], hfresh⟩

/-- Of messages each record is merged into what those before it made. -/
theorem Nested.merged_of_sideLeaves {type : String} {records : List Record} {m : Message}
    {v : Value} (hname : m.name = trimDots type)
    (h : RunsTo ((set.nested budget).SideLeaves field (.message type)) records (.message m) v) :
    ∃ payloads last, List.Forall₂ (fun r payload => r.payload? = some payload) records payloads ∧
      payloads.foldlM (set.mergeWithin (budget - 1)) m = .ok last ∧ v = .message last := by
  induction records generalizing m with
  | nil =>
    cases h
    exact ⟨[], m, .nil, rfl, rfl⟩
  | cons r records ih =>
    cases h with
    | more hleaves hrun =>
      obtain ⟨hkey, hmerge⟩ := expect_eq_ok hleaves
      obtain ⟨mid, rest, hmid, hv⟩ := bind_eq_ok_iff.1 hmerge
      cases hv
      rw [DecoderSet.nested_message] at hmid
      obtain ⟨lower, payload, rfl, hpayload, hinner⟩ := payload?_of_nested hkey hmid
      -- Merging goes by the name of the message, which stays that of the type.
      have hfirst : set.mergeWithin lower m payload = .ok mid := by
        rw [DecoderSet.mergeWithin, hname]
        exact hinner
      obtain ⟨left, hend⟩ := run_eq_ok_iff.1 hinner
      obtain ⟨payloads, last, hpayloads, hlast, rfl⟩ :=
        ih ((DecoderSet.name_of_mergeWith hend).trans hname) hrun
      refine ⟨payload :: payloads, last, .cons hpayload hpayloads, ?_, rfl⟩
      rw [List.foldlM_cons]
      exact except_bind_eq_ok_iff.2 ⟨mid, hfirst, hlast⟩

theorem Nested.sideOf_of_sideLeaves {kind : Kind} {records : List Record} {v : Value}
    (h : RunsTo ((set.nested budget).SideLeaves field kind) records (Value.zeroOf kind) v) :
    set.SideOf (budget - 1) kind records v := by
  cases hkind : kind.isMessage with
  | false =>
    rcases last_of_sideLeaves hkind h with ⟨rfl, rfl⟩ | ⟨r, hlast, hfresh⟩
    · exact .absent kind
    · exact .last hkind hlast hfresh
  | true =>
    cases kind with
    | message type =>
      obtain ⟨payloads, last, hpayloads, hlast, rfl⟩ := merged_of_sideLeaves rfl h
      exact .merged hpayloads hlast
    | scalar | string | bytes | group => cases hkind

/-- The side of the key makes a key, be it of a record or of none. -/
theorem DecoderSet.SideOf.exists_key {kind : Kind} (hkind : kind.isMapKey = true)
    {records : List Record} {v : Value} (h : set.SideOf budget kind records v) :
    ∃ key : MapKey, key.toValue = v := by
  cases h with
  | absent =>
    cases kind with
    | scalar kind => exact exists_mapKey hkind (by cases kind <;> rfl)
    | string => exact ⟨.text "", rfl⟩
    | bytes | message | group => cases hkind
  | last _ _ hfresh =>
    cases hfresh with
    | scalar hread => exact exists_mapKey hkind (ensures_scalar _ hread)
    | @string _ _ text => exact ⟨.text text, rfl⟩
    | bytes | message => cases hkind
  | merged => cases hkind

end Side

section Entry

variable {set : DecoderSet} {budget : Nat} {name : String} {keyKind valueKind : Kind}

/-- A record inside an entry makes something of the side under its number, and nothing of the
other. -/
theorem Nested.sides_of_field {r : Record} (hr : Takes (record budget) r.raw r)
    {entry next : Value × Value}
    (h : Takes (Reader.field budget ((set.nested budget).claimSide name keyKind valueKind)
      Reader.ignore entry) r.raw next) :
    (if r.number = 1 then
        (set.nested budget).SideLeaves (name ++ ".key") keyKind r entry.1 next.1
      else next.1 = entry.1) ∧
    (if r.number = 2 then
        (set.nested budget).SideLeaves (name ++ ".value") valueKind r entry.2 next.2
      else next.2 = entry.2) := by
  have hvalue := value_of_field (set.claimsByFrame_claimSide budget name keyKind valueKind) hr h
  by_cases hfirst : r.number = 1
  · have hnumber : r.key.number = 1 := hfirst
    simp only [Nested.claimSide, hnumber] at hvalue
    obtain ⟨v, rest, hside, hpure⟩ := bind_eq_ok_iff.1 hvalue.ends
    cases hpure
    simpa [hfirst, SideLeaves] using hside
  · by_cases hsecond : r.number = 2
    · have hnumber : r.key.number = 2 := hsecond
      simp only [Nested.claimSide, hnumber] at hvalue
      obtain ⟨v, rest, hside, hpure⟩ := bind_eq_ok_iff.1 hvalue.ends
      cases hpure
      simpa [hsecond, SideLeaves] using hside
    · have hclaimed : (set.nested budget).claimSide name keyKind valueKind r.key entry = none := by
        unfold Nested.claimSide
        split
        · rename_i hnumber
          exact absurd hnumber hfirst
        · rename_i hnumber
          exact absurd hnumber hsecond
        · rfl
      obtain ⟨keyBytes, hraw, hkey, hskip⟩ := value_of_record hr
      rw [hraw] at h
      obtain rfl : entry = next := (hkey.field_unclaimed hclaimed hskip).unique h
      simp [hfirst, hsecond]

/-- The records under 1 and under 2 make the two sides of an entry, and no others do anything. -/
theorem Nested.sides_of_steps {records : List Record}
    (hrecords : ∀ r ∈ records, Takes (record budget) r.raw r) {entry last : Value × Value}
    (h : Steps (Reader.field budget ((set.nested budget).claimSide name keyKind valueKind)
      Reader.ignore) entry (records.map (·.raw)) last) :
    RunsTo ((set.nested budget).SideLeaves (name ++ ".key") keyKind)
        (records.filter (·.number = 1)) entry.1 last.1 ∧
      RunsTo ((set.nested budget).SideLeaves (name ++ ".value") valueKind)
        (records.filter (·.number = 2)) entry.2 last.2 := by
  constructor
  · refine (RunsTo.part (P := fun _ => True) (fun _ _ _ _ _ => trivial) ?_ trivial h.runsTo).2
    intro r hr entry next _ hnext
    simpa using (sides_of_field (hrecords r hr) hnext).1
  · refine (RunsTo.part (P := fun _ => True) (fun _ _ _ _ _ => trivial) ?_ trivial h.runsTo).2
    intro r hr entry next _ hnext
    simpa using (sides_of_field (hrecords r hr) hnext).2

/-- The payload of a record of a map field is read to the entry that the record makes. -/
theorem DecoderSet.entryOf_of_run (hkind : keyKind.isMapKey = true) {r : Record} {payload : Bytes}
    (hpayload : r.payload? = some payload) {k v : Value}
    (h : ((set.nested budget).mergeEntry budget name keyKind valueKind
      (Value.zeroOf keyKind, Value.zeroOf valueKind)).run payload = .ok (k, v)) :
    ∃ key : MapKey, key.toValue = k ∧
      set.EntryOf (budget - 1) keyKind valueKind r (key, v) := by
  obtain ⟨rest, hmerge⟩ := run_eq_ok_iff.1 h
  obtain ⟨inner, hwhole, hinner, hsteps⟩ :=
    records_of_fields (set.claimsByFrame_claimSide budget name keyKind valueKind) hmerge
  obtain ⟨hkey, hvalue⟩ := Nested.sides_of_steps hinner hsteps
  have hkeySide := Nested.sideOf_of_sideLeaves hkey
  obtain ⟨key, rfl⟩ := hkeySide.exists_key hkind
  exact ⟨key, rfl, payload, inner, hpayload, cuts_iff.2 ⟨hwhole, budget, hinner⟩, hkeySide,
    Nested.sideOf_of_sideLeaves hvalue⟩

variable {field key value : Field} {rule : MapRule} (hfits : MapRule.Fits field key value rule)
include hfits

/-- A record of a map field puts in the entry that it makes. -/
theorem DecoderSet.entryOf_of_leaves {r : Record} {held held' : Option Value}
    (h : (set.nested budget).Leaves (.map rule) r held held') :
    ∃ entry, set.EntryOf (budget - 2) key.kind value.kind r entry ∧
      Value.mapOf held' = (Value.mapOf held).insert entry.1 entry.2 := by
  obtain ⟨left, hnext, rfl⟩ := h
  obtain ⟨hkey, hnext⟩ := expect_eq_ok hnext
  obtain ⟨⟨k, v⟩, rest, hentry, hleft⟩ := bind_eq_ok_iff.1 hnext
  cases hleft
  rw [nested_entry] at hentry
  obtain ⟨lower, payload, rfl, hpayload, hrun⟩ := payload?_of_nested hkey hentry
  rw [Nested.entryFields_eq hfits] at hrun
  obtain ⟨mapKey, rfl, hof⟩ := entryOf_of_run hfits.keyKind hpayload hrun
  refine ⟨(mapKey, v), hof, ?_⟩
  rw [MapKey.toKey?_toValue]
  rfl

theorem DecoderSet.entries_of_leaves {records : List Record} {held held' : Option Value}
    (h : RunsTo ((set.nested budget).Leaves (.map rule)) records held held') :
    ∃ entries, List.Forall₂ (set.EntryOf (budget - 2) key.kind value.kind) records entries ∧
      Value.mapOf held' = (Value.mapOf held).insertAll entries := by
  induction h with
  | done => exact ⟨[], .nil, rfl⟩
  | more hleaves _ ih =>
    obtain ⟨entry, hentry, hmid⟩ := entryOf_of_leaves hfits hleaves
    obtain ⟨entries, hentries, hlast⟩ := ih
    exact ⟨entry :: entries, .cons hentry hentries, by rw [hlast, hmid]; rfl⟩

end Entry

section Set

variable {options : Options} {schema : Schema} {set : DecoderSet}
  (hset : DecoderSet.ofSchema options schema = .ok set) {name : String} {field key value : Field}
  (hf : field ∈ schema.fieldsOf name) (hc : field.cardinality = .map key value)
include hset hf hc

/-- The entries that the records of a map field make, one each, are put in in order. -/
theorem DecoderSet.entries_of_mergeWithin {budget : Nat} {m m' : Message} (hname : m.name = name)
    (hm : m.Apart field.number) {bytes : Bytes} (h : set.mergeWithin budget m bytes = .ok m') :
    ∃ records entries, Cuts bytes records ∧
      List.Forall₂ (set.EntryOf (budget - 2) key.kind value.kind)
        (records.filter (·.number = field.number)) entries ∧
      m'.map field.number = (m.map field.number).insertAll entries := by
  subst hname
  obtain ⟨rule, bit, records, hfits, hcuts, -, hrun⟩ :=
    own_of_mergeWithin hset h hf (by simp [Field.oneof?, hc]) hm
  cases hfits with
  | field hfits => exact absurd hc (hfits.not_map key value)
  | map hmap hfits =>
    rw [hc] at hmap
    cases hmap
    obtain ⟨entries, hentries, hmap⟩ := entries_of_leaves hfits hrun
    refine ⟨records, entries, hcuts, hentries, ?_⟩
    rw [Message.map_eq rfl, Message.map_eq rfl]
    exact hmap

/-- However a message came to be, its map fields are in order. -/
theorem DecoderSet.Merged.sorted {m : Message} (h : set.Merged name m) :
    (m.map field.number).Sorted := by
  induction h with
  | new => exact SortedMap.sorted_empty
  | merge hmerged hmerge ih =>
    obtain ⟨hname, hapart⟩ := hmerged.apart hset hf (by simp [Field.oneof?, hc])
    obtain ⟨-, entries, -, -, hmap⟩ := entries_of_mergeWithin hset hf hc hname hapart hmerge
    rw [hmap]
    exact ih.insertAll entries

end Set

/-- A map field has the keys of all its records and those that it had, and under each the value of
the last record with that key, of which nothing before it is left. What a record makes of its key
and its value is told by the records inside it. -/
theorem DecoderSet.map_entries {options : Options} {schema : Schema} {set : DecoderSet}
    (hset : DecoderSet.ofSchema options schema = .ok set) {name : String} {field key value : Field}
    (hf : field ∈ schema.fieldsOf name) (hc : field.cardinality = .map key value) :
    (∀ budget m m' bytes, m.name = name → m.Apart field.number →
      set.mergeWithin budget m bytes = .ok m' →
      ∃ records entries, Cuts bytes records ∧
        List.Forall₂ (set.EntryOf (budget - 2) key.kind value.kind)
          (records.filter (·.number = field.number)) entries ∧
        (∀ k, k ∈ (m'.map field.number).keys ↔
          k ∈ (m.map field.number).keys ∨ k ∈ entries.map (·.1)) ∧
        ∀ k, (m'.map field.number).get? k =
          ((entries.reverse.find? (·.1 = k)).map (·.2)).or ((m.map field.number).get? k)) ∧
    ∀ m, set.Merged name m →
      m.name = name ∧ m.Apart field.number ∧ (m.map field.number).Sorted := by
  constructor
  · intro budget m m' bytes hname hm h
    obtain ⟨records, entries, hcuts, hentries, hmap⟩ :=
      entries_of_mergeWithin hset hf hc hname hm h
    refine ⟨records, entries, hcuts, hentries, fun k => ?_, fun k => ?_⟩
    · rw [hmap]
      exact SortedMap.mem_keys_insertAll
    · rw [hmap]
      exact SortedMap.get?_insertAll _ entries k
  · intro m h
    obtain ⟨hname, hapart⟩ := h.apart hset hf (by simp [Field.oneof?, hc])
    exact ⟨hname, hapart, h.sorted hset hf hc⟩

/-- Two entries with one key, of which the second has its value twice, before and after the key and
with an unknown field in between, and an entry of which neither side came. -/
theorem DecoderSet.map_entries_replaced :
    let schema : Schema :=
      { messages := [{ name := "M", fields := [.map "a" 1 .string (.message "N")] },
                     { name := "N", fields := [.singular "x" 1 (.scalar .int32),
                                               .singular "y" 2 (.scalar .int32)] }] }
    let bytes : Bytes := [0x0a, 7, 0x0a, 1, 0x6b, 0x12, 2, 8, 1,
      0x0a, 13, 0x12, 2, 0x10, 2, 0x18, 7, 0x0a, 1, 0x6b, 0x12, 2, 0x10, 3, 0x0a, 0]
    ∃ set m entries, DecoderSet.ofSchema {} schema = .ok set ∧ set.decode "M" bytes = .ok m ∧
      List.Forall₂ (set.EntryOf 98 .string (.message "N"))
        [⟨⟨1, .lengthDelimited⟩, [0x0a, 7, 0x0a, 1, 0x6b, 0x12, 2, 8, 1]⟩,
          ⟨⟨1, .lengthDelimited⟩,
            [0x0a, 13, 0x12, 2, 0x10, 2, 0x18, 7, 0x0a, 1, 0x6b, 0x12, 2, 0x10, 3]⟩,
          ⟨⟨1, .lengthDelimited⟩, [0x0a, 0]⟩] entries ∧
      (m.map 1).keys = [.text "", .text "k"] ∧ (∀ k, k ∈ entries.map (·.1) ↔ k ∈ (m.map 1).keys) ∧
      (m.map 1).get? (.text "k") = (entries.reverse.find? (·.1 = .text "k")).map (·.2) := by
  intro schema bytes
  have hrun : ((DecoderSet.ofSchema {} schema).toOption.bind fun set =>
      (set.decode "M" bytes).toOption.map fun m => (m.map 1).keys) =
        some [.text "", .text "k"] := by
    rw [DecoderSet.ofSchema_eq, Schema.plans_eq rfl]
    decide +kernel
  obtain ⟨set, hset, hrun⟩ := exists_ok_of_bind hrun
  obtain ⟨m, hm, hkeys⟩ := exists_ok_of_map hrun
  have hfield : .map "a" 1 .string (.message "N") ∈ schema.fieldsOf "M" := List.mem_cons_self
  obtain ⟨hmerge, hmerged⟩ := DecoderSet.map_entries hset hfield rfl
  obtain ⟨records, entries, hcuts, hentries, hmem, hget⟩ :=
    hmerge _ _ m bytes rfl (hmerged _ .new).2.1 hm
  have hcut : (Reader.records Cursor.defaultBudget).run bytes =
      .ok [⟨⟨1, .lengthDelimited⟩, [0x0a, 7, 0x0a, 1, 0x6b, 0x12, 2, 8, 1]⟩,
        ⟨⟨1, .lengthDelimited⟩,
          [0x0a, 13, 0x12, 2, 0x10, 2, 0x18, 7, 0x0a, 1, 0x6b, 0x12, 2, 0x10, 3]⟩,
        ⟨⟨1, .lengthDelimited⟩, [0x0a, 0]⟩] := by decide +kernel
  rw [hcuts.unique ⟨_, hcut⟩] at hentries
  have hnothing : (Message.ofName "M").map 1 = {} := rfl
  refine ⟨set, m, entries, hset, hm, hentries, hkeys, fun k => ?_, ?_⟩
  · have hk : k ∈ (m.map 1).keys ↔ k ∈ ((Message.ofName "M").map 1).keys ∨ _ := hmem k
    rw [hk, hnothing]
    simp [SortedMap.keys]
  · have hk : (m.map 1).get? (.text "k") =
        Option.or _ (((Message.ofName "M").map 1).get? (.text "k")) := hget (.text "k")
    rw [hk, hnothing, SortedMap.get?_empty, Option.or_none]

end Dynamic

end ProtoPlan
