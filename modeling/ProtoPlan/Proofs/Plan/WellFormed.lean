import ProtoPlan.Proofs.Code.Path
import ProtoPlan.Proofs.Plan.Narrower
import ProtoPlan.Proofs.Plan.Scope
import Mathlib.Algebra.Group.Nat.Defs

/-!
Which schemas have plans. What planning checks, here and there, comes to is said of the schema at
once; a schema that is so has a plan for each of its messages, with a rule for each field.
-/

namespace ProtoPlan

open Wire Schema

/-- The key of the entries of a map: a truth value, a string or an integer that is no enum. -/
def Schema.Kind.IsKey (kind : Kind) : Prop :=
  kind = .string ∨ ∃ scalar, kind = .scalar scalar ∧ scalar ≠ .enum ∧ scalar ≠ .float ∧
    scalar ≠ .double

theorem Schema.Kind.isMapKey_iff {kind : Kind} : kind.isMapKey = true ↔ kind.IsKey := by
  cases kind with
  | scalar scalar => cases scalar <;> simp [isMapKey, IsKey, Scalar.isMapKey]
  | _ => simp [isMapKey, IsKey]

/-- The two sides of the entries of a map. -/
structure Schema.EntryWellFormed (key value : Field) : Prop where
  keyNumber : key.number = 1
  valueNumber : value.number = 2
  keySingular : key.cardinality = .singular
  valueSingular : value.cardinality = .singular
  keyKind : key.kind.IsKey
  valueKind : ∀ type, value.kind ≠ .group type

/-- A message type that fields may refer to. -/
def Schema.Known (options : Options) (schema : Schema) (name : String) : Prop :=
  WellKnown.isWellKnown name = true ∨ (∃ message ∈ schema.messages, message.name = name) ∨
    ∃ path, (name, path) ∈ options.externPaths.entries

structure Schema.FieldWellFormed (options : Options) (schema : Schema) (field : Field) : Prop where
  noGroup : ∀ type, field.kind ≠ .group type
  entry : ∀ key value, field.cardinality = .map key value → EntryWellFormed key value
  /-- The type of the values, or of the values of the entries. -/
  type : ∀ type, field.heldKind = .message type →
    trimDots type ≠ "" ∧ schema.Known options (trimDots type)

/-- The fields of the struct of a message: one for each field outside of oneofs, one for each
oneof, and those that keep what is not declared. -/
def Message.structFields (options : Options) (message : Message) : List String :=
  (message.fields.filter (·.oneof? = none)).map (Code.fieldName ·.name) ++
    message.oneofs.map Code.fieldName ++
    (if options.preserveUnknown then ["unknown_fields"] else []) ++
    (if message.extensionRanges.isEmpty then [] else ["extensions"])

structure Schema.MessageWellFormed (options : Options) (schema : Schema) (message : Message) :
    Prop where
  inRange : ∀ field ∈ message.fields, 1 ≤ field.number ∧ field.number ≤ 2 ^ 29 - 1
  numbers : (message.fields.map (·.number)).Nodup
  fields : ∀ field ∈ message.fields, schema.FieldWellFormed options field
  structFields : (message.structFields options).Nodup

section Types

variable {options : Options} {schema : Schema}

/-- The scope tells of just the types that fields may refer to. -/
theorem Scope.isSome_type?_iff {scope : Scope} (h : ofSchema options schema = .ok scope)
    {name : String} : (scope.type? name).isSome = true ↔ schema.Known options name := by
  rw [Schema.Known]
  cases hwell : WellKnown.isWellKnown name with
  | true =>
    obtain ⟨path, htype⟩ := type?_of_wellKnown h hwell
    simp [htype]
  | false =>
    have hmessages : (∃ message ∈ schema.messages, message.name = name) ↔
        name ∈ (ownMessages schema).map (·.name) := by
      rw [mem_ownMessages_iff, hwell, eq_self_iff_true, true_and]
    rw [hmessages, ← Options.isExtern_iff]
    by_cases hext : options.IsExtern name
    · obtain ⟨path, htype⟩ := type?_of_isExtern h hwell hext
      simp [htype, hext]
    · rw [type?_of_not_isExtern h hwell hext]
      by_cases hmem : name ∈ (ownMessages schema).map (·.name) <;> simp [hmem, hext]

end Types

section Field

variable {options : Options} {schema : Schema} {scope : Scope} {message : Message}

theorem MessageRef.exists_resolve_iff {field type : String} :
    (∃ ref, MessageRef.resolve scope message field type = .ok ref) ↔
      trimDots type ≠ "" ∧ (scope.type? (trimDots type)).isSome = true := by
  simp only [resolve_eq_ok_iff, exists_and_left, Option.isSome_iff_exists]
  refine and_congr_right fun _ => ⟨?_, ?_⟩
  · intro h
    obtain ⟨ref, info, htype, -⟩ := h
    exact ⟨info, htype⟩
  · intro h
    obtain ⟨info, htype⟩ := h
    exact ⟨_, info, htype, rfl⟩

/-- A single value can be read if it is no group and its type is known. -/
theorem Read.exists_ofKind_iff {field : String} {kind : Kind} :
    (∃ read, Read.ofKind scope message field kind = .ok read) ↔
      (∀ type, kind ≠ .group type) ∧ ∀ type, kind = .message type →
        trimDots type ≠ "" ∧ (scope.type? (trimDots type)).isSome = true := by
  cases kind with
  | scalar | string | bytes => simp [ofKind]
  | group type => simp [ofKind]
  | message type =>
    simp only [ofKind_message_eq_ok_iff]
    constructor
    · intro h
      obtain ⟨read, ref, href, -⟩ := h
      constructor
      · intro type' heq
        cases heq
      · intro type' heq
        cases heq
        exact MessageRef.exists_resolve_iff.1 ⟨ref, href⟩
    · intro h
      obtain ⟨ref, href⟩ := MessageRef.exists_resolve_iff.2 (h.2 type rfl)
      exact ⟨_, ref, href, rfl⟩

theorem EntrySide.exists_ofField_iff {field : String} {layout : Layout} {side : Field} :
    (∃ result, EntrySide.ofField scope message field layout side = .ok result) ↔
      ∃ read, Read.ofKind scope message field side.kind = .ok read := by
  constructor
  · intro h
    obtain ⟨result, h⟩ := h
    obtain ⟨read, hread, -⟩ := except_bind_eq_ok_iff.1 h
    exact ⟨read, hread⟩
  · intro h
    obtain ⟨read, hread⟩ := h
    exact ⟨_, except_bind_eq_ok_iff.2 ⟨read, hread, rfl⟩⟩

theorem Schema.Kind.isGroup_iff {kind : Kind} :
    kind.isGroup = true ↔ ∃ type, kind = .group type := by
  cases kind <;> simp [isGroup]

theorem Schema.Field.isSingular_iff {field : Field} :
    field.isSingular = true ↔ field.cardinality = .singular := by
  unfold isSingular
  cases field.cardinality <;> simp

theorem Layout.ofEntry_eq_ok_iff {field key value : Field} {storage : Storage Layout} :
    ofEntry message field key value = .ok storage ↔ EntryWellFormed key value ∧
      storage = .map (ofEntrySide key.kind) (ofEntrySide value.kind) := by
  constructor
  · intro h
    unfold ofEntry at h
    split at h
    · cases h
    · rename_i hnumbers
      split at h
      · cases h
      · rename_i hsingular
        split at h
        · cases h
        · rename_i hkey
          split at h
          · cases h
          · rename_i hvalue
            cases h
            simp only [not_or, Decidable.not_not, Bool.not_eq_true', Bool.not_eq_false,
              Bool.and_eq_true] at hnumbers hsingular hkey
            refine ⟨⟨hnumbers.1, hnumbers.2, Field.isSingular_iff.1 hsingular.1,
              Field.isSingular_iff.1 hsingular.2, Kind.isMapKey_iff.1 hkey, ?_⟩, rfl⟩
            intro type heq
            exact hvalue (Kind.isGroup_iff.2 ⟨type, heq⟩)
  · intro h
    obtain ⟨hwell, rfl⟩ := h
    have hkey := Kind.isMapKey_iff.2 hwell.keyKind
    have hvalue : value.kind.isGroup = false := by
      rw [← Bool.not_eq_true, Kind.isGroup_iff]
      intro hgroup
      obtain ⟨type, heq⟩ := hgroup
      exact hwell.valueKind type heq
    simp [ofEntry, hwell.keyNumber, hwell.valueNumber, Field.isSingular_iff.2 hwell.keySingular,
      Field.isSingular_iff.2 hwell.valueSingular, hkey, hvalue]

section Rule

variable {field : Field} {bit : Option Nat}

theorem Layout.ofField_group (h : field.kind.isGroup = true) (layout : Layout) :
    ofField message field ≠ .ok layout := by
  intro hlayout
  simp [ofField, h, throw, throwThe, MonadExceptOf.throw, bind, Except.bind] at hlayout

theorem Layout.StorageFits.ne_map {storage : Storage Layout} (h : StorageFits field storage)
    (hc : ∀ key value, field.cardinality ≠ .map key value) (key value : Layout) :
    storage ≠ .map key value := by
  rintro rfl
  obtain ⟨keyField, valueField, hmap⟩ := h.cardinality_of_map
  exact hc keyField valueField hmap

variable (hgroup : field.kind.isGroup = false)
include hgroup

theorem Layout.ofField_map {key value : Field} (hc : field.cardinality = .map key value)
    {layout : Layout} :
    ofField message field = .ok layout ↔ EntryWellFormed key value ∧
      layout = ⟨.lengthDelimited, .map (ofEntrySide key.kind) (ofEntrySide value.kind), false⟩ := by
  have hstorage : storage? message field = ofEntry message field key value := by
    simp only [storage?, hc]
  rw [ofField, hgroup, if_neg Bool.false_ne_true, hstorage, except_bind_eq_ok_iff]
  simp only [ofEntry_eq_ok_iff]
  constructor
  · intro h
    obtain ⟨storage, ⟨hwell, rfl⟩, h⟩ := h
    cases h
    exact ⟨hwell, rfl⟩
  · intro h
    obtain ⟨hwell, rfl⟩ := h
    exact ⟨_, ⟨hwell, rfl⟩, rfl⟩

/-- A field that is no map has a layout. -/
theorem Layout.exists_ofField (hc : ∀ key value, field.cardinality ≠ .map key value) :
    ∃ layout, ofField message field = .ok layout := by
  obtain ⟨storage, hstorage⟩ : ∃ storage, storage? message field = .ok storage := by
    unfold storage?
    cases hcard : field.cardinality with
    | map key value => exact absurd hcard (hc key value)
    | _ => exact ⟨_, rfl⟩
  cases storage with
  | map key value => exact absurd rfl ((fits_storage? hstorage).ne_map hc key value)
  | _ => exact ⟨_, by simp only [ofField, hgroup, hstorage]; rfl⟩

theorem Rule.exists_ofField_map {key value : Field} (hc : field.cardinality = .map key value) :
    (∃ rule, Rule.ofField scope message field bit = .ok rule) ↔ EntryWellFormed key value ∧
      ∃ read, Read.ofKind scope message field.name value.kind = .ok read := by
  constructor
  · intro h
    obtain ⟨rule, h⟩ := h
    obtain ⟨layout, hlayout, hrule⟩ := ofField_eq_ok_iff.1 h
    obtain ⟨hwell, rfl⟩ := (Layout.ofField_map hgroup hc).1 hlayout
    cases hrule with
    | map _ hcard _ hvalue =>
      cases hc.symm.trans hcard
      exact ⟨hwell, EntrySide.exists_ofField_iff.1 ⟨_, hvalue⟩⟩
    | field hstore => cases hstore
  · intro h
    obtain ⟨hwell, hread⟩ := h
    have hkeyRead : ∃ read, Read.ofKind scope message field.name key.kind = .ok read := by
      rcases hwell.keyKind with hkind | ⟨scalar, hkind, -⟩
      · exact ⟨.string, by rw [hkind]; rfl⟩
      · exact ⟨.scalar scalar, by rw [hkind]; rfl⟩
    obtain ⟨keySide, hkey⟩ := EntrySide.exists_ofField_iff.2 hkeyRead
    obtain ⟨valueSide, hvalue⟩ := EntrySide.exists_ofField_iff.2 hread
    exact ⟨_, ofField_eq_ok_iff.2
      ⟨_, (Layout.ofField_map hgroup hc).2 ⟨hwell, rfl⟩, .map rfl hc hkey hvalue⟩⟩

theorem Rule.exists_ofField_single (hc : ∀ key value, field.cardinality ≠ .map key value) :
    (∃ rule, Rule.ofField scope message field bit = .ok rule) ↔
      ∃ read, Read.ofKind scope message field.name field.kind = .ok read := by
  constructor
  · intro h
    obtain ⟨rule, h⟩ := h
    obtain ⟨layout, -, hrule⟩ := ofField_eq_ok_iff.1 h
    cases hrule with
    | map _ hcard => exact absurd hcard (hc _ _)
    | field _ hread => exact ⟨_, hread⟩
  · intro h
    obtain ⟨read, hread⟩ := h
    obtain ⟨layout, hlayout⟩ : ∃ layout, Layout.ofField message field = .ok layout :=
      Layout.exists_ofField hgroup hc
    have hmap := (Layout.fits_ofField hlayout).1.ne_map hc
    obtain ⟨store, hstore⟩ : ∃ store, Store.ofStorage
        (scope.isRecursive message.name field.name) field layout.storage = some store := by
      generalize layout.storage = storage at hmap
      cases storage with
      | map key value => exact absurd rfl (hmap key value)
      | _ => exact ⟨_, rfl⟩
    exact ⟨_, ofField_eq_ok_iff.2 ⟨layout, hlayout, .field hstore hread⟩⟩

end Rule

/-- A field of a message of the schema has a rule just if it is well formed. -/
theorem Rule.exists_ofField_iff (hscope : Scope.ofSchema options schema = .ok scope)
    {field : Field} {bit : Option Nat} :
    (∃ rule, Rule.ofField scope message field bit = .ok rule) ↔
      schema.FieldWellFormed options field := by
  cases hgroup : field.kind.isGroup with
  | true =>
    obtain ⟨type, hkind⟩ := Kind.isGroup_iff.1 hgroup
    constructor
    · intro h
      obtain ⟨rule, h⟩ := h
      obtain ⟨layout, hlayout, -⟩ := except_bind_eq_ok_iff.1 h
      exact absurd hlayout (Layout.ofField_group hgroup layout)
    · intro hwell
      exact absurd hkind (hwell.noGroup type)
  | false =>
    have hnot (type : String) : field.kind ≠ .group type := by
      intro hkind
      simp [hkind, Kind.isGroup] at hgroup
    by_cases hmap : ∃ key value, field.cardinality = .map key value
    · obtain ⟨key, value, hc⟩ := hmap
      have hheld : field.heldKind = value.kind := by simp [Field.heldKind, hc]
      rw [exists_ofField_map hgroup hc, Read.exists_ofKind_iff]
      simp only [Scope.isSome_type?_iff hscope, ← hheld]
      constructor
      · intro h
        refine ⟨hnot, fun key' value' hc' => ?_, h.2.2⟩
        rw [hc] at hc'
        cases hc'
        exact h.1
      · intro hwell
        have hentry := hwell.entry key value hc
        exact ⟨hentry, hheld ▸ hentry.valueKind, hwell.type⟩
    · have hc (key value : Field) : field.cardinality ≠ .map key value :=
        fun heq => hmap ⟨key, value, heq⟩
      have hheld : field.heldKind = field.kind := by
        unfold Field.heldKind
        split
        · rename_i heq
          exact absurd heq (hc _ _)
        · rfl
      rw [exists_ofField_single hgroup hc, Read.exists_ofKind_iff]
      simp only [Scope.isSome_type?_iff hscope, ← hheld]
      constructor
      · intro h
        exact ⟨hnot, fun key value heq => absurd heq (hc key value), h.2⟩
      · intro hwell
        exact ⟨hheld ▸ hnot, hwell.type⟩

end Field

section Names

/-- The oneofs of fields, after those in `names`, in order of first use. -/
def Schema.addOneofs (names : List String) (fields : List Field) : List String :=
  fields.foldl (fun names field =>
    match field.oneof? with
    | some name => if name ∈ names then names else names ++ [name]
    | none => names) names

/-- The struct fields that planning counts, one field after the other, are those of the fields
outside of oneofs and those of the oneofs. -/
theorem Schema.slots_perm (fields : List Field) {oneofs names : List String}
    (hsame : ∀ name, name ∈ oneofs ↔ name ∈ names) :
    (slots oneofs fields ++ names.map Code.fieldName).Perm
      ((fields.filter (·.oneof? = none)).map (Code.fieldName ·.name) ++
        (addOneofs names fields).map Code.fieldName) := by
  induction fields generalizing oneofs names with
  | nil => exact .refl _
  | cons field fields ih =>
    rw [slots, addOneofs, List.foldl_cons]
    cases hone : field.oneof? with
    | none => simpa [hone, addOneofs] using ih hsame
    | some oneof =>
      by_cases hmem : oneof ∈ oneofs
      · simpa [hone, hmem, (hsame oneof).1 hmem, addOneofs] using ih hsame
      · have hnot : oneof ∉ names := fun hin => hmem ((hsame oneof).2 hin)
        have hnext : ∀ name, name ∈ oneof :: oneofs ↔ name ∈ names ++ [oneof] := by
          intro name
          simp [hsame, or_comm]
        have hmove : (Code.fieldName oneof ::
              (slots (oneof :: oneofs) fields ++ names.map Code.fieldName)).Perm
            (slots (oneof :: oneofs) fields ++ (names ++ [oneof]).map Code.fieldName) := by
          simpa using (List.perm_append_singleton (Code.fieldName oneof)
            (slots (oneof :: oneofs) fields ++ names.map Code.fieldName)).symm
        simpa [hone, hmem, hnot, addOneofs] using hmove.trans (ih hnext)

/-- The names that planning finds distinct are those of the struct. -/
theorem Plan.nodup_structFields_iff {scope : Scope} {message : Message} {plan : Plan}
    (hrules : rulesOf scope message 0 message.fields = .ok plan.rules)
    (hranges : plan.extensionRanges = message.extensionRanges)
    (hpreserve : plan.preserveUnknown = scope.options.preserveUnknown) :
    plan.structFields.Nodup ↔ (message.structFields scope.options).Nodup := by
  have hslots : (slots [] message.fields).Perm
      ((message.fields.filter (·.oneof? = none)).map (Code.fieldName ·.name) ++
        message.oneofs.map Code.fieldName) := by
    have hperm := Schema.slots_perm message.fields fun name => Iff.refl (name ∈ ([] : List String))
    rwa [List.map_nil, List.append_nil] at hperm
  rw [structFields_eq hrules hranges hpreserve, Message.slots, Message.structFields]
  exact ((hslots.append_right _).append_right _).nodup_iff

end Names

section Message

variable {options : Options} {schema : Schema} {scope : Scope} {message : Message}
  (hscope : Scope.ofSchema options schema = .ok scope)
include hscope

theorem Plan.exists_rulesOf_iff {fields : List Field} {bit : Nat} :
    (∃ rules, rulesOf scope message bit fields = .ok rules) ↔
      ∀ field ∈ fields, schema.FieldWellFormed options field := by
  induction fields generalizing bit with
  | nil => exact ⟨fun _ _ h => absurd h List.not_mem_nil, fun _ => ⟨[], rfl⟩⟩
  | cons field fields ih =>
    have hfirst : (∃ rule, Rule.ofField scope message field
        (if field.isRequired then some bit else none) = .ok rule) ↔
        schema.FieldWellFormed options field := Rule.exists_ofField_iff hscope
    rw [List.forall_mem_cons, ← hfirst]
    constructor
    · intro h
      obtain ⟨rules, h⟩ := h
      obtain ⟨rule, hrule, h⟩ := except_bind_eq_ok_iff.1 h
      obtain ⟨more, hmore, -⟩ := except_bind_eq_ok_iff.1 h
      exact ⟨⟨rule, hrule⟩, ih.1 ⟨more, hmore⟩⟩
    · intro h
      obtain ⟨⟨rule, hrule⟩, hfields⟩ := h
      obtain ⟨more, hmore⟩ := ih.2 hfields
      exact ⟨rule :: more, except_bind_eq_ok_iff.2 ⟨rule, hrule,
        except_bind_eq_ok_iff.2 ⟨more, hmore, rfl⟩⟩⟩

/-- A message has a plan just if it is well formed. -/
theorem Plan.exists_ofMessage_iff :
    (∃ plan, ofMessage scope message = .ok plan) ↔ schema.MessageWellFormed options message := by
  have hoptions := Scope.options_ofSchema hscope
  constructor
  · intro h
    obtain ⟨plan, h⟩ := h
    obtain ⟨hcheck, hrules, hnames, hplan⟩ := ofMessage_eq_ok_iff.1 h
    obtain ⟨hnumbers, hrange⟩ := numbers_of_checkNumbers hcheck
    refine ⟨fun field hf => (hrange field hf).2, hnumbers,
      (exists_rulesOf_iff hscope).1 ⟨_, hrules⟩, ?_⟩
    rw [← hoptions, ← nodup_structFields_iff hrules (by rw [hplan]) (by rw [hplan])]
    exact (firstRepeated?_eq_none_iff.1 hnames).1
  · intro hwell
    obtain ⟨rules, hrules⟩ : ∃ rules, rulesOf scope message 0 message.fields = .ok rules :=
      (exists_rulesOf_iff hscope).2 hwell.fields
    have hcheck : checkNumbers message [] message.fields = .ok () :=
      checkNumbers_eq_ok hwell.numbers fun field hf => ⟨List.not_mem_nil, hwell.inRange field hf⟩
    refine ⟨⟨message.name, structName scope message.name, rules, message.extensionRanges,
      scope.options.preserveUnknown, (message.fields.filter (·.isRequired)).length⟩,
      ofMessage_eq_ok_iff.2 ⟨hcheck, hrules, ?_, rfl⟩⟩
    refine firstRepeated?_eq_none_iff.2 ⟨?_, fun _ _ => List.not_mem_nil⟩
    rw [nodup_structFields_iff hrules rfl rfl, hoptions]
    exact hwell.structFields

end Message

/-- The runtime is given by a path. -/
def Options.RuntimeParses (options : Options) : Prop :=
  (Code.Path.ofString? options.runtime).isSome = true

theorem Scope.exists_ofSchema_iff {options : Options} {schema : Schema} :
    (∃ scope, ofSchema options schema = .ok scope) ↔ options.RuntimeParses ∧
      ((ownMessages schema).map (Code.typeName ·.name schema.package)).Nodup := by
  simp only [ofSchema_eq_ok_iff, Options.RuntimeParses]
  constructor
  · intro h
    obtain ⟨scope, runtime, errorType, types, hruntime, -, htypes, -⟩ := h
    exact ⟨Option.isSome_iff_exists.2 ⟨runtime, hruntime⟩,
      (exists_addOwnTypes_iff.1 ⟨types, htypes⟩).1⟩
  · intro h
    obtain ⟨hparses, hnames⟩ := h
    obtain ⟨runtime, hruntime⟩ := Option.isSome_iff_exists.1 hparses
    obtain ⟨errorType, herror⟩ :=
      Option.isSome_iff_exists.1 (Code.Path.isSome_ofString?_decodeError hparses)
    have hfree : ∀ message ∈ ownMessages schema, SortedMap.get? ({} : SortedMap String String)
        (Code.typeName message.name schema.package) = none := fun _ _ => rfl
    obtain ⟨types, htypes⟩ := exists_addOwnTypes_iff.2 ⟨hnames, hfree⟩
    exact ⟨_, runtime, errorType, types, hruntime, herror, htypes, rfl⟩

section Known

/-- Options name more types and take away a struct field; what was well formed stays so. -/
theorem Schema.MessageWellFormed.of_default {schema : Schema} {message : Message}
    (h : schema.MessageWellFormed {} message) (options : Options) :
    schema.MessageWellFormed options message := by
  refine ⟨h.inRange, h.numbers, fun field hf => ?_, h.structFields.sublist ?_⟩
  · obtain ⟨hgroup, hentry, htype⟩ := h.fields field hf
    refine ⟨hgroup, hentry, fun type hkind => ?_⟩
    obtain ⟨hne, hknown⟩ := htype type hkind
    refine ⟨hne, ?_⟩
    rcases hknown with hwell | hmessage | ⟨path, hpath⟩
    · exact .inl hwell
    · exact .inr (.inl hmessage)
    · exact absurd hpath List.not_mem_nil
  · refine List.Sublist.append (List.Sublist.append (.refl _) ?_) (.refl _)
    cases options.preserveUnknown
    · exact List.nil_sublist _
    · exact .refl _

/-- The messages of `google.protobuf` have plans with any options that some schema has plans with,
so that such a schema compiles. -/
theorem Dynamic.DecoderSet.exists_known {options : Options} {schema : Schema} {own : List Plan}
    (h : schema.plans options = .ok own) :
    ∃ known, Dynamic.DecoderSet.ofSchema options schema = .ok ⟨own ++ known⟩ := by
  obtain ⟨ownScope, hownScope, -⟩ := Schema.plans_eq_ok_iff.1 h
  obtain ⟨hruntime, -⟩ := Scope.exists_ofSchema_iff.1 ⟨ownScope, hownScope⟩
  obtain ⟨plans, hrun⟩ := exists_ok_of_isSome Schema.isSome_knownPlans
  obtain ⟨default, hdefault, hplans⟩ := except_bind_eq_ok_iff.1 hrun
  obtain ⟨-, hnames⟩ := Scope.exists_ofSchema_iff.1 ⟨default, hdefault⟩
  obtain ⟨scope, hscope⟩ := Scope.exists_ofSchema_iff.2 ⟨hruntime, hnames⟩
  have hwell (message : ProtoPlan.Message) (hm : message ∈ WellKnown.messages) :
      WellKnown.schema.MessageWellFormed options message := by
    have hplan := exists_forall₂_iff.1 ⟨plans, mapM_eq_ok_iff.1 hplans⟩ message hm
    exact ((Plan.exists_ofMessage_iff hdefault).1 hplan).of_default options
  obtain ⟨known, hknown⟩ := exists_forall₂_iff.2 fun message hm =>
    (Plan.exists_ofMessage_iff hscope).2 (hwell message hm)
  exact ⟨known, Dynamic.DecoderSet.ofSchema_eq_ok_iff.2
    ⟨own, scope, known, h, hscope, mapM_eq_ok_iff.2 hknown, rfl⟩⟩

theorem Dynamic.DecoderSet.exists_ofSchema {options : Options} {schema : Schema}
    (h : (schema.plans options).toOption.isSome = true) :
    ∃ set, Dynamic.DecoderSet.ofSchema options schema = .ok set := by
  obtain ⟨own, hown⟩ := exists_ok_of_isSome h
  obtain ⟨known, hset⟩ := exists_known hown
  exact ⟨_, hset⟩

end Known

/-- A plan with one rule for each field of a message, in order, that is found by the field's number;
no other number finds any. -/
structure Plan.Follows (message : Message) (plan : Plan) : Prop where
  name : plan.message = message.name
  rules : List.Forall₂ (fun field rule => rule.number = field.number ∧
    ∃ bit, Rule.Fits field bit rule) message.fields plan.rules
  found : ∀ field rule, (field, rule) ∈ message.fields.zip plan.rules →
    plan.rule? field.number = some rule
  missing : ∀ number, number ∉ message.fields.map (·.number) → plan.rule? number = none

end ProtoPlan
