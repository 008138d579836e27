import ProtoPlan.Proofs.Plan.Message

/-!
Schemas that declare less. What has plans still has them once fields were deleted, if a oneof loses
all of its members or none: nothing that planning checks of a field depends on the others but that
their numbers and names differ.
-/

namespace ProtoPlan

open Wire Schema

/-- Of each oneof that fields which are kept have, all other members are kept too. -/
def Schema.KeepsWhole (fields kept : List Field) : Prop :=
  ∀ field ∈ fields, ∀ other ∈ kept, ∀ oneof,
    field.oneof? = some oneof → other.oneof? = some oneof → field ∈ kept

/-- The message without some of its fields. Of a oneof it has all members or none. -/
structure Message.Narrower (message narrow : Message) : Prop where
  name : narrow.name = message.name
  presence : narrow.presence = message.presence
  extensionRanges : narrow.extensionRanges = message.extensionRanges
  fields : narrow.fields.Sublist message.fields
  oneofs : KeepsWhole message.fields narrow.fields

/-- The schema without some fields of its messages. -/
structure Schema.Narrower (schema narrow : Schema) : Prop where
  package : narrow.package = schema.package
  messages : List.Forall₂ Message.Narrower schema.messages narrow.messages

theorem Message.Narrower.refl (message : Message) : message.Narrower message :=
  ⟨rfl, rfl, rfl, .refl _, fun _ hf _ _ _ _ _ => hf⟩

/-- A name stands for the narrower message in the narrower schema. -/
theorem Schema.Narrower.declaration? {schema narrow : Schema} (h : schema.Narrower narrow)
    (name : String) :
    Option.Rel Message.Narrower (schema.declaration? name) (narrow.declaration? name) := by
  unfold Schema.declaration?
  split
  · cases WellKnown.messages.find? (·.name = name) with
    | none => exact .none
    | some message => exact .some (.refl message)
  · exact find?_forall₂ h.messages fun message narrow hn => by rw [hn.name]

section Field

variable {scope scope' : Scope} {message narrow : Message}
  (hoptions : scope'.options = scope.options) (htypes : scope'.types = scope.types)
  (hn : message.Narrower narrow)

include hn in
theorem Layout.ofField_narrower (field : Field) :
    Layout.ofField narrow field = Layout.ofField message field := by
  simp only [ofField, storage?, ofEntry, hn.name, hn.presence]

include hoptions htypes hn

theorem Read.ofKind_narrower (field : String) (kind : Kind) :
    Read.ofKind scope' narrow field kind = Read.ofKind scope message field kind := by
  cases kind with
  | scalar | string | bytes => rfl
  | message type =>
    simp only [Read.ofKind, MessageRef.resolve, Scope.type?, Scope.isPooled, hoptions, htypes,
      hn.name]
  | group type => simp only [Read.ofKind, hn.name]

theorem EntrySide.ofField_narrower (field : String) (layout : Layout) (side : Field) :
    EntrySide.ofField scope' narrow field layout side =
      EntrySide.ofField scope message field layout side := by
  simp only [ofField, Read.ofKind_narrower hoptions htypes hn]

omit hoptions htypes hn in
/-- Whether a storage has a store does not depend on the box. -/
theorem Store.exists_ofStorage {boxed : Bool} {field : Field} {storage : Storage Layout}
    {store : Store} (h : Store.ofStorage boxed field storage = some store) (boxed' : Bool) :
    ∃ store', Store.ofStorage boxed' field storage = some store' := by
  cases storage with
  | map => cases h
  | _ => exact ⟨_, rfl⟩

/-- Only whether values are boxed may change, which no check asks for. -/
theorem Rule.exists_ofField {field : Field} {bit : Option Nat} {rule : Rule}
    (h : Rule.ofField scope message field bit = .ok rule) (bit' : Option Nat) :
    ∃ rule', Rule.ofField scope' narrow field bit' = .ok rule' := by
  obtain ⟨layout, hlayout, hrule⟩ := ofField_eq_ok_iff.1 h
  rw [← Layout.ofField_narrower hn] at hlayout
  cases hrule with
  | map hstorage hc hkey hvalue =>
    rw [← EntrySide.ofField_narrower hoptions htypes hn] at hkey hvalue
    exact ⟨_, ofField_eq_ok_iff.2 ⟨layout, hlayout, .map hstorage hc hkey hvalue⟩⟩
  | field hstore hread =>
    rw [← Read.ofKind_narrower hoptions htypes hn] at hread
    obtain ⟨store', hstore'⟩ := Store.exists_ofStorage hstore
      (scope'.isRecursive narrow.name field.name)
    exact ⟨_, ofField_eq_ok_iff.2 ⟨layout, hlayout, .field hstore' hread⟩⟩

theorem Plan.exists_rulesOf {fields kept : List Field} {bit : Nat} {rules : List Rule}
    (h : rulesOf scope message bit fields = .ok rules) (hkept : kept.Sublist fields) (bit' : Nat) :
    ∃ rules', rulesOf scope' narrow bit' kept = .ok rules' := by
  induction hkept generalizing bit bit' rules with
  | slnil => exact ⟨[], rfl⟩
  | cons field _ ih =>
    obtain ⟨rule, -, h⟩ := except_bind_eq_ok_iff.1 h
    obtain ⟨more, hmore, -⟩ := except_bind_eq_ok_iff.1 h
    exact ih hmore bit'
  | cons_cons field _ ih =>
    obtain ⟨rule, hrule, h⟩ := except_bind_eq_ok_iff.1 h
    obtain ⟨more, hmore, -⟩ := except_bind_eq_ok_iff.1 h
    obtain ⟨rule', hrule'⟩ := Rule.exists_ofField hoptions htypes hn hrule
      (if field.isRequired then some bit' else none)
    obtain ⟨more', hmore'⟩ := ih hmore (if field.isRequired then bit' + 1 else bit')
    exact ⟨rule' :: more', except_bind_eq_ok_iff.2 ⟨rule', hrule',
      except_bind_eq_ok_iff.2 ⟨more', hmore', rfl⟩⟩⟩

end Field

section Names

def Rule.fieldName : Rule → String
  | .field rule => rule.fieldName
  | .map rule => rule.fieldName

theorem Rule.fieldName_ofField {scope : Scope} {message : Message} {field : Field}
    {bit : Option Nat} {rule : Rule} (h : Rule.ofField scope message field bit = .ok rule) :
    rule.fieldName = Code.fieldName field.name := by
  obtain ⟨layout, -, hrule⟩ := ofField_eq_ok_iff.1 h
  cases hrule with
  | map => rfl
  | field => rfl

theorem Plan.declaredFields_cons (oneofs : List String) (rule : Rule) (rules : List Rule) :
    declaredFields oneofs (rule :: rules) =
      match rule.oneof? with
      | some oneof =>
        if oneof ∈ oneofs then declaredFields oneofs rules
        else Code.fieldName oneof :: declaredFields (oneof :: oneofs) rules
      | none => rule.fieldName :: declaredFields oneofs rules := by
  cases rule with
  | map rule => rfl
  | field rule =>
    rw [declaredFields, Rule.oneof?_field]
    cases rule.store <;> rfl

/-- The names of the struct fields of fields, of which `oneofs` have theirs already. -/
def Schema.slots (oneofs : List String) : List Field → List String
  | [] => []
  | field :: rest =>
    match field.oneof? with
    | some oneof =>
      if oneof ∈ oneofs then slots oneofs rest
      else Code.fieldName oneof :: slots (oneof :: oneofs) rest
    | none => Code.fieldName field.name :: slots oneofs rest

theorem Plan.declaredFields_rulesOf {scope : Scope} {message : Message} {fields : List Field}
    {bit : Nat} {rules : List Rule} (h : rulesOf scope message bit fields = .ok rules)
    (oneofs : List String) : declaredFields oneofs rules = slots oneofs fields := by
  induction fields generalizing bit rules oneofs with
  | nil =>
    cases h
    rfl
  | cons field fields ih =>
    obtain ⟨rule, hrule, h⟩ := except_bind_eq_ok_iff.1 h
    obtain ⟨more, hmore, h⟩ := except_bind_eq_ok_iff.1 h
    cases h
    have hone := (Rule.fits_ofField hrule).oneof?
    have hname := Rule.fieldName_ofField hrule
    rw [declaredFields_cons, slots, hone]
    split <;> simp only [ih hmore, hname]

/-- The names of the struct fields of a message in the order of the struct. -/
def Message.slots (options : Options) (message : Message) : List String :=
  Schema.slots [] message.fields ++
    (if options.preserveUnknown then ["unknown_fields"] else []) ++
    (if message.extensionRanges.isEmpty then [] else ["extensions"])

theorem Plan.structFields_eq {scope : Scope} {message : Message} {plan : Plan}
    (hrules : rulesOf scope message 0 message.fields = .ok plan.rules)
    (hranges : plan.extensionRanges = message.extensionRanges)
    (hpreserve : plan.preserveUnknown = scope.options.preserveUnknown) :
    plan.structFields = message.slots scope.options := by
  rw [structFields, Message.slots, declaredFields_rulesOf hrules, hpreserve]
  simp only [hasExtensions, hranges]
  cases message.extensionRanges.isEmpty <;> rfl

theorem Schema.KeepsWhole.of_cons {field : Field} {fields kept : List Field}
    (h : KeepsWhole (field :: fields) kept) : KeepsWhole fields kept :=
  fun other ho => h other (List.mem_cons_of_mem field ho)

theorem Schema.KeepsWhole.of_cons_cons {field : Field} {fields kept : List Field}
    (hfresh : field.number ∉ fields.map (·.number))
    (h : KeepsWhole (field :: fields) (field :: kept)) : KeepsWhole fields kept := by
  intro other ho which hwhich oneof hone hsame
  have hmem := h other (List.mem_cons_of_mem field ho) which (List.mem_cons_of_mem field hwhich)
    oneof hone hsame
  rcases List.mem_cons.1 hmem with rfl | hmem
  · exact absurd (List.mem_map_of_mem ho) hfresh
  · exact hmem

/-- Fields fewer by whole oneofs have names fewer. -/
theorem Schema.slots_sublist {fields kept : List Field} (hkept : kept.Sublist fields)
    (hnodup : (fields.map (·.number)).Nodup) (hwhole : KeepsWhole fields kept)
    {oneofs oneofs' : List String}
    (hseen : ∀ field ∈ kept, ∀ oneof, field.oneof? = some oneof → oneof ∈ oneofs →
      oneof ∈ oneofs') : (slots oneofs' kept).Sublist (slots oneofs fields) := by
  induction hkept generalizing oneofs oneofs' with
  | slnil => exact .refl _
  | @cons kept fields field hsub ih =>
    rw [List.map_cons, List.nodup_cons] at hnodup
    have hrest := hwhole.of_cons
    rw [slots]
    split
    · rename_i oneof hone
      split
      · exact ih hnodup.2 hrest hseen
      · refine (ih hnodup.2 hrest fun other ho which hwhich hmem => ?_).cons _
        rcases List.mem_cons.1 hmem with rfl | hmem
        · have hfield := hwhole field List.mem_cons_self other ho which hone hwhich
          exact absurd (List.mem_map_of_mem (hsub.subset hfield)) hnodup.1
        · exact hseen other ho which hwhich hmem
    · exact (ih hnodup.2 hrest hseen).cons _
  | @cons_cons kept fields field hsub ih =>
    rw [List.map_cons, List.nodup_cons] at hnodup
    have hrest := hwhole.of_cons_cons hnodup.1
    have hlater : ∀ other ∈ kept, ∀ oneof, other.oneof? = some oneof → oneof ∈ oneofs →
        oneof ∈ oneofs' := fun other ho => hseen other (List.mem_cons_of_mem field ho)
    rw [slots, slots]
    split
    · rename_i oneof hone
      by_cases hmem : oneof ∈ oneofs'
      · rw [if_pos hmem]
        split
        · exact ih hnodup.2 hrest hlater
        · refine (ih hnodup.2 hrest fun other ho which hwhich hin => ?_).cons _
          rcases List.mem_cons.1 hin with rfl | hin
          · exact hmem
          · exact hlater other ho which hwhich hin
      · have hfresh : oneof ∉ oneofs := fun hin =>
          hmem (hseen field List.mem_cons_self oneof hone hin)
        rw [if_neg hmem, if_neg hfresh]
        refine (ih hnodup.2 hrest fun other ho which hwhich hin => ?_).cons_cons _
        rcases List.mem_cons.1 hin with rfl | hin
        · exact List.mem_cons_self
        · exact List.mem_cons_of_mem _ (hlater other ho which hwhich hin)
    · exact (ih hnodup.2 hrest hlater).cons_cons _

theorem Plan.firstRepeated?_eq_none_iff {seen names : List String} :
    firstRepeated? seen names = none ↔ names.Nodup ∧ ∀ name ∈ names, name ∉ seen := by
  induction names generalizing seen with
  | nil => simp [firstRepeated?]
  | cons name rest ih =>
    rw [firstRepeated?]
    by_cases hmem : name ∈ seen
    · simp [hmem]
    · rw [if_neg hmem, ih, List.nodup_cons, List.forall_mem_cons]
      constructor
      · rintro ⟨hnodup, hrest⟩
        refine ⟨⟨fun hin => hrest name hin List.mem_cons_self, hnodup⟩, hmem, ?_⟩
        exact fun other ho hin => hrest other ho (List.mem_cons_of_mem name hin)
      · rintro ⟨⟨hname, hnodup⟩, -, hrest⟩
        refine ⟨hnodup, fun other ho hin => ?_⟩
        rcases List.mem_cons.1 hin with rfl | hin
        · exact hname ho
        · exact hrest other ho hin

theorem Plan.checkNumbers_eq_ok {message : Message} {seen : List Nat} {fields : List Field}
    (hnodup : (fields.map (·.number)).Nodup)
    (h : ∀ field ∈ fields,
      field.number ∉ seen ∧ minFieldNumber ≤ field.number ∧ field.number ≤ maxFieldNumber) :
    checkNumbers message seen fields = .ok () := by
  induction fields generalizing seen with
  | nil => rfl
  | cons field rest ih =>
    rw [List.map_cons, List.nodup_cons] at hnodup
    obtain ⟨hfresh, hmin, hmax⟩ := h field List.mem_cons_self
    rw [checkNumbers, if_neg (by omega), if_neg hfresh]
    refine ih hnodup.2 fun other ho => ⟨fun hin => ?_, (h other (List.mem_cons_of_mem _ ho)).2⟩
    rcases List.mem_cons.1 hin with heq | hin
    · exact hnodup.1 (List.mem_map.2 ⟨other, ho, heq⟩)
    · exact (h other (List.mem_cons_of_mem _ ho)).1 hin

end Names

/-- A message that has a plan still has one without the fields. -/
theorem Plan.exists_ofMessage {scope scope' : Scope} {message narrow : Message}
    (hoptions : scope'.options = scope.options) (htypes : scope'.types = scope.types)
    (hn : message.Narrower narrow) {plan : Plan} (h : ofMessage scope message = .ok plan) :
    ∃ plan', ofMessage scope' narrow = .ok plan' := by
  obtain ⟨hcheck, hrules, hnone, hplan⟩ := ofMessage_eq_ok_iff.1 h
  obtain ⟨hnodup, hrange⟩ := numbers_of_checkNumbers hcheck
  have hcheck' : checkNumbers narrow [] narrow.fields = .ok () :=
    checkNumbers_eq_ok (hnodup.sublist (hn.fields.map _)) fun field hf =>
      hrange field (hn.fields.subset hf)
  obtain ⟨rules', hrules'⟩ := exists_rulesOf hoptions htypes hn hrules hn.fields 0
  have hnames := (firstRepeated?_eq_none_iff.1 hnone).1
  have hslots : (slots [] narrow.fields).Sublist (slots [] message.fields) :=
    slots_sublist hn.fields hnodup hn.oneofs fun _ _ _ _ hin => hin
  rw [← declaredFields_rulesOf hrules, ← declaredFields_rulesOf hrules'] at hslots
  refine ⟨⟨narrow.name, structName scope' narrow.name, rules', narrow.extensionRanges,
    scope'.options.preserveUnknown, (narrow.fields.filter (·.isRequired)).length⟩,
    ofMessage_eq_ok_iff.2 ⟨hcheck', hrules', ?_, rfl⟩⟩
  refine firstRepeated?_eq_none_iff.2 ⟨hnames.sublist ?_, fun _ _ => List.not_mem_nil⟩
  rw [hplan]
  simp only [structFields, hasExtensions, hoptions, hn.extensionRanges]
  exact (hslots.append_right _).append_right _

theorem Scope.addOwnTypes_congr {package : String} {messages messages' : List Message}
    (h : List.Forall₂ Message.Narrower messages messages') (named : SortedMap String String)
    (types : SortedMap String TypeInfo) :
    addOwnTypes package named types messages' = addOwnTypes package named types messages := by
  induction h generalizing named types with
  | nil => rfl
  | cons hn _ ih =>
    rw [addOwnTypes, addOwnTypes, hn.name]
    cases named.get? _ with
    | none => exact ih _ _
    | some first => rfl

theorem Scope.ownMessages_narrower {schema narrow : Schema} (h : schema.Narrower narrow) :
    List.Forall₂ Message.Narrower (ownMessages schema) (ownMessages narrow) := by
  refine List.rel_filter (fun message narrow hn => ?_) h.messages
  dsimp only
  rw [hn.name]

/-- Types are known by the names of their messages. -/
theorem Scope.exists_ofSchema {options : Options} {schema narrow : Schema}
    (hn : schema.Narrower narrow) {scope : Scope} (h : ofSchema options schema = .ok scope) :
    ∃ scope', ofSchema options narrow = .ok scope' ∧ scope'.options = scope.options ∧
      scope'.types = scope.types := by
  obtain ⟨runtime, errorType, types, hruntime, herror, htypes, rfl⟩ := ofSchema_eq_ok_iff.1 h
  rw [← hn.package, ← addOwnTypes_congr (ownMessages_narrower hn)] at htypes
  exact ⟨⟨options, runtime, errorType, addExternTypes options types, narrow.recursiveFields⟩,
    ofSchema_eq_ok_iff.2 ⟨runtime, errorType, types, hruntime, herror, htypes, rfl⟩, rfl, rfl⟩

theorem exists_mapM {R : α → β → Prop} {f : α → Except ε γ} {g : β → Except ε δ}
    (hfg : ∀ x y c, R x y → f x = .ok c → ∃ d, g y = .ok d) {xs : List α} {ys : List β}
    (hR : List.Forall₂ R xs ys) {cs : List γ} (h : xs.mapM f = .ok cs) :
    ∃ ds, ys.mapM g = .ok ds := by
  induction hR generalizing cs with
  | nil => exact ⟨[], rfl⟩
  | @cons x y xs ys hxy _ ih =>
    cases mapM_eq_ok_iff.1 h with
    | cons hc hcs =>
      obtain ⟨d, hd⟩ := hfg x y _ hxy hc
      obtain ⟨ds, hds⟩ := ih (mapM_eq_ok_iff.2 hcs)
      exact ⟨d :: ds, mapM_eq_ok_iff.2 (.cons hd (mapM_eq_ok_iff.1 hds))⟩

/-- A narrower schema has plans if the schema has. -/
theorem Dynamic.DecoderSet.exists_ofSchema_narrower {options : Options} {schema narrow : Schema}
    (hn : schema.Narrower narrow) {set : DecoderSet} (h : ofSchema options schema = .ok set) :
    ∃ set', ofSchema options narrow = .ok set' := by
  obtain ⟨own, knownScope, known, hplans, hknownScope, hknown, rfl⟩ := ofSchema_eq_ok_iff.1 h
  obtain ⟨scope, hscope, hown⟩ := Schema.plans_eq_ok_iff.1 hplans
  obtain ⟨scope', hscope', hoptions, htypes⟩ := Scope.exists_ofSchema hn hscope
  obtain ⟨own', hown'⟩ := exists_mapM (f := Plan.ofMessage scope) (g := Plan.ofMessage scope')
    (fun _ _ _ hnarrow hplan => Plan.exists_ofMessage hoptions htypes hnarrow hplan)
    (Scope.ownMessages_narrower hn) (mapM_eq_ok_iff.2 hown)
  have hplans' := Schema.plans_eq_ok_iff.2 ⟨scope', hscope', mapM_eq_ok_iff.1 hown'⟩
  exact ⟨_, ofSchema_eq_ok_iff.2 ⟨own', knownScope, known, hplans', hknownScope, hknown, rfl⟩⟩

/-- Of the name the narrower schema declares some of the fields of the other, by whole oneofs. -/
structure Schema.FewerFields (schema narrow : Schema) (name : String) : Prop where
  kept : ∀ field ∈ narrow.fieldsOf name, field ∈ schema.fieldsOf name
  whole : KeepsWhole (schema.fieldsOf name) (narrow.fieldsOf name)
  numbers : ((schema.fieldsOf name).map (·.number)).Nodup

namespace Schema.FewerFields

variable {schema narrow : Schema} {name : String} (h : schema.FewerFields narrow name)
include h

theorem same {field other : Field} (hf : field ∈ schema.fieldsOf name)
    (ho : other ∈ narrow.fieldsOf name) (hnumber : field.number = other.number) : field = other :=
  List.inj_on_of_nodup_map h.numbers hf (h.kept other ho) hnumber

/-- A member of a oneof and a field that is kept are both deleted or neither. -/
theorem oneof_ne {field kept : Field} (hf : field ∈ schema.fieldsOf name)
    (hdeleted : field.number ∉ (narrow.fieldsOf name).map (·.number)) {oneof : String}
    (hone : field.oneof? = some oneof) (hkept : kept ∈ narrow.fieldsOf name) :
    kept.oneof? ≠ some oneof := by
  intro hsame
  exact hdeleted (List.mem_map_of_mem (h.whole field hf kept hkept oneof hone hsame))

end Schema.FewerFields

namespace Schema.Narrower

variable {options : Options} {schema narrow : Schema} {set set' : Dynamic.DecoderSet}
  (hn : schema.Narrower narrow) (hset : Dynamic.DecoderSet.ofSchema options schema = .ok set)
include hn

theorem fieldsOf (name : String) :
    ∃ message less : ProtoPlan.Message, message.Narrower less ∧
      schema.fieldsOf name = message.fields ∧ narrow.fieldsOf name = less.fields := by
  have hrel := hn.declaration? name
  unfold Schema.fieldsOf
  generalize schema.declaration? name = declared at hrel
  generalize narrow.declaration? name = declared' at hrel
  cases hrel with
  | none => exact ⟨{ name }, { name }, .refl _, rfl, rfl⟩
  | some hless => exact ⟨_, _, hless, rfl, rfl⟩

include hset

theorem fewerFields {name : String} {plan : Plan} (hplan : set.planFor? name = some plan) :
    schema.FewerFields narrow name := by
  obtain ⟨message, less, hless, hfields, hfields'⟩ := hn.fieldsOf name
  obtain ⟨declared, hfits, -, hsame⟩ := Dynamic.DecoderSet.exists_fits hset hplan
  constructor
  · intro field hf
    rw [hfields'] at hf
    rw [hfields]
    exact hless.fields.subset hf
  · rw [hfields, hfields']
    exact hless.oneofs
  · rw [← hsame]
    exact hfits.numbers

theorem exists_planFor (hset' : Dynamic.DecoderSet.ofSchema options narrow = .ok set')
    {name : String} {plan : Plan} (hplan : set.planFor? name = some plan) :
    ∃ plan', set'.planFor? name = some plan' := by
  have hrel := hn.declaration? name
  cases hd' : narrow.declaration? name with
  | some less =>
    obtain ⟨plan', hplan', -⟩ := Dynamic.DecoderSet.planFor?_of_declaration hset' hd'
    exact ⟨plan', hplan'⟩
  | none =>
    rcases Dynamic.DecoderSet.planFor?_cases hset hplan with ⟨message, hd, -⟩ | ⟨-, hwell, -⟩
    · rw [hd, hd'] at hrel
      cases hrel
    · exact ⟨_, Dynamic.DecoderSet.planFor?_of_undeclared hset' hd' hwell⟩

omit hset in
/-- A message of the schema is one of the narrower schema. -/
theorem exists_message {name : String} {message : ProtoPlan.Message}
    (hown : WellKnown.isWellKnown name = false) (h : schema.message? name = some message) :
    ∃ less, narrow.message? name = some less ∧ message.Narrower less := by
  have hrel := hn.declaration? name
  rw [declaration?_of_own hown, declaration?_of_own hown, h] at hrel
  cases hless : narrow.message? name with
  | none =>
    rw [hless] at hrel
    cases hrel
  | some less =>
    rw [hless] at hrel
    cases hrel with
    | some hnarrower => exact ⟨less, rfl, hnarrower⟩

end Schema.Narrower

end ProtoPlan
