import ProtoPlan.Proofs.Plan.DefaultScope
import ProtoPlan.Proofs.Plan.Fits
import ProtoPlan.Dynamic.Decode

/-!
Plans of whole messages and of schemas. In the set of a schema a name stands for the plan of the
message that the schema, or the `google.protobuf` package, declares under it.
-/

namespace ProtoPlan

open Wire Schema

/-- The place of a number among those of the required fields. -/
def Message.requiredBit? (message : Message) (number : Nat) : Option Nat :=
  message.requiredNumbers.idxOf? number

theorem Message.exists_required {message : Message}
    (hnodup : (message.fields.map (·.number)).Nodup) {bit : Nat}
    (h : bit < message.requiredNumbers.length) :
    ∃ field ∈ message.fields, field.isRequired = true ∧
      message.requiredBit? field.number = some bit := by
  have hmem : message.requiredNumbers[bit] ∈ message.requiredNumbers := List.getElem_mem h
  obtain ⟨field, hfield, hnumber⟩ := List.mem_map.1 hmem
  obtain ⟨hf, hreq⟩ := List.mem_filter.1 hfield
  have hdistinct : message.requiredNumbers.Nodup := hnodup.sublist (List.filter_sublist.map _)
  refine ⟨field, hf, hreq, ?_⟩
  rw [requiredBit?, hnumber, List.idxOf?_eq_some_iff]
  refine ⟨h, rfl, ?_⟩
  intro other hlt heq
  have := (List.Nodup.getElem_inj_iff hdistinct).1 heq
  omega

/-- A plan with a fitting rule for each field of a message, and for no other number. -/
structure Plan.Fits (message : Message) (plan : Plan) : Prop where
  name : plan.message = message.name
  numbers : (message.fields.map (·.number)).Nodup
  inRange : ∀ field ∈ message.fields,
    minFieldNumber ≤ field.number ∧ field.number ≤ maxFieldNumber
  rule : ∀ field ∈ message.fields, ∃ rule, plan.rule? field.number = some rule ∧
    Rule.Fits field (message.requiredBit? field.number) rule
  noRule : ∀ number, number ∉ message.fields.map (·.number) → plan.rule? number = none
  extensionRanges : plan.extensionRanges = message.extensionRanges
  requiredCount : plan.requiredCount = message.requiredNumbers.length

theorem Plan.numbers_of_checkNumbers {message : Message} {seen : List Nat} {fields : List Field}
    (h : checkNumbers message seen fields = .ok ()) :
    (fields.map (·.number)).Nodup ∧ ∀ field ∈ fields,
      field.number ∉ seen ∧ minFieldNumber ≤ field.number ∧ field.number ≤ maxFieldNumber := by
  induction fields generalizing seen with
  | nil => simp
  | cons field rest ih =>
    rw [checkNumbers] at h
    split at h
    · cases h
    · rename_i hrange
      split at h
      · cases h
      · rename_i hseen
        obtain ⟨hnodup, hrest⟩ := ih h
        have hfresh : field.number ∉ rest.map (·.number) := by
          intro hmem
          obtain ⟨other, hother, heq⟩ := List.mem_map.1 hmem
          exact (hrest other hother).1 (by simp [heq])
        refine ⟨List.nodup_cons.2 ⟨hfresh, hnodup⟩, ?_⟩
        intro other hother
        rcases List.mem_cons.1 hother with rfl | hother
        · exact ⟨hseen, by omega, by omega⟩
        · have := hrest other hother
          exact ⟨fun hmem => this.1 (List.mem_cons_of_mem _ hmem), this.2⟩

theorem Plan.rulesOf_cons {scope : Scope} {message : Message} {bit : Nat} {field : Field}
    {fields : List Field} {rules : List Rule}
    (h : rulesOf scope message bit (field :: fields) = .ok rules) :
    ∃ rule more, rules = rule :: more ∧
      Rule.Fits field (if field.isRequired then some bit else none) rule ∧
      rulesOf scope message (if field.isRequired then bit + 1 else bit) fields = .ok more := by
  obtain ⟨rule, hr, h⟩ := except_bind_eq_ok_iff.1 h
  obtain ⟨more, hm, h⟩ := except_bind_eq_ok_iff.1 h
  cases h
  exact ⟨rule, more, rfl, Rule.fits_ofField hr, hm⟩

/-- There is one rule for each field, in order, and only that of a required field has a bit. -/
theorem Plan.forall₂_rulesOf_bit {scope : Scope} {message : Message} {bit : Nat}
    {fields : List Field} {rules : List Rule} (h : rulesOf scope message bit fields = .ok rules) :
    List.Forall₂ (fun field rule => ∃ bit : Option Nat,
      (bit.isSome = true → field.isRequired = true) ∧
        Rule.ofField scope message field bit = .ok rule) fields rules := by
  induction fields generalizing bit rules with
  | nil =>
    cases h
    exact .nil
  | cons field fields ih =>
    obtain ⟨rule, hrule, h⟩ := except_bind_eq_ok_iff.1 h
    obtain ⟨more, hmore, h⟩ := except_bind_eq_ok_iff.1 h
    cases h
    refine .cons ⟨_, ?_, hrule⟩ (ih hmore)
    cases field.isRequired <;> simp

theorem Plan.forall₂_rulesOf {scope : Scope} {message : Message} {bit : Nat} {fields : List Field}
    {rules : List Rule} (h : rulesOf scope message bit fields = .ok rules) :
    List.Forall₂ (fun field rule => ∃ bit, Rule.ofField scope message field bit = .ok rule) fields
      rules := by
  refine (forall₂_rulesOf_bit h).imp fun field rule hrule => ?_
  obtain ⟨bit, -, hof⟩ := hrule
  exact ⟨bit, hof⟩

/-- Each field finds its rule under its number, with the bit that its place among the required
fields gives it. -/
theorem Plan.find?_rulesOf {scope : Scope} {message : Message} {bit : Nat} {fields : List Field}
    {rules : List Rule} (h : rulesOf scope message bit fields = .ok rules)
    (hnodup : (fields.map (·.number)).Nodup) {field : Field} (hfield : field ∈ fields) :
    ∃ rule, rules.find? (·.number = field.number) = some rule ∧
      Rule.Fits field ((((fields.filter (·.isRequired)).map (·.number)).idxOf? field.number).map
        (bit + ·)) rule := by
  induction fields generalizing bit rules with
  | nil => simp at hfield
  | cons first fields ih =>
    obtain ⟨rule, more, rfl, hfits, hmore⟩ := rulesOf_cons h
    rw [List.map_cons, List.nodup_cons] at hnodup
    rcases List.mem_cons.1 hfield with rfl | hfield
    · refine ⟨rule, by simp [hfits.number], ?_⟩
      cases hreq : field.isRequired
      · have habsent : ((fields.filter (·.isRequired)).map (·.number)).idxOf? field.number =
            none := by
          rw [List.idxOf?_eq_none_iff]
          intro hmem
          obtain ⟨other, hother, heq⟩ := List.mem_map.1 hmem
          exact hnodup.1 (List.mem_map.2 ⟨other, (List.mem_filter.1 hother).1, heq⟩)
        simpa [hreq, habsent] using hfits
      · simpa [hreq, List.idxOf?_cons] using hfits
    · have hne : first.number ≠ field.number := by
        intro heq
        exact hnodup.1 (List.mem_map.2 ⟨field, hfield, heq.symm⟩)
      obtain ⟨found, hfind, hfound⟩ := ih hmore hnodup.2 hfield
      refine ⟨found, by simpa [hfits.number, hne] using hfind, ?_⟩
      cases hreq : first.isRequired
      · simpa [hreq] using hfound
      · -- A required field in front moves all later places by one, as `rulesOf` moves the bit.
        have hshift (i : Option Nat) : (i.map (· + 1)).map (bit + ·) = i.map (bit + 1 + ·) := by
          cases i with
          | none => rfl
          | some i =>
            simp only [Option.map_some, Option.some.injEq]
            omega
        simpa [hreq, List.idxOf?_cons, hne, hshift] using hfound

theorem Plan.find?_rulesOf_none {scope : Scope} {message : Message} {bit : Nat}
    {fields : List Field} {rules : List Rule}
    (h : rulesOf scope message bit fields = .ok rules) {number : Nat}
    (hnumber : number ∉ fields.map (·.number)) :
    rules.find? (·.number = number) = none := by
  induction fields generalizing bit rules with
  | nil =>
    cases h
    rfl
  | cons first fields ih =>
    obtain ⟨rule, more, rfl, hfits, hmore⟩ := rulesOf_cons h
    rw [List.map_cons, List.mem_cons, not_or] at hnumber
    have hne : first.number ≠ number := fun heq => hnumber.1 heq.symm
    simpa [hfits.number, hne] using ih hmore hnumber.2

/-- What the plan of a message is made of, when it is: the numbers and the struct fields differ, and
each field has a rule. -/
theorem Plan.ofMessage_eq_ok_iff {scope : Scope} {message : Message} {plan : Plan} :
    ofMessage scope message = .ok plan ↔ checkNumbers message [] message.fields = .ok () ∧
      rulesOf scope message 0 message.fields = .ok plan.rules ∧
      firstRepeated? [] plan.structFields = none ∧
      plan = ⟨message.name, structName scope message.name, plan.rules, message.extensionRanges,
        scope.options.preserveUnknown, (message.fields.filter (·.isRequired)).length⟩ := by
  constructor
  · intro h
    obtain ⟨⟨⟩, hcheck, h⟩ := except_bind_eq_ok_iff.1 h
    obtain ⟨rules, hrules, h⟩ := except_bind_eq_ok_iff.1 h
    dsimp only at h
    split at h
    · cases h
    · rename_i hnames
      cases h
      exact ⟨hcheck, hrules, hnames, rfl⟩
  · intro h
    obtain ⟨hcheck, hrules, hnames, hplan⟩ := h
    refine except_bind_eq_ok_iff.2 ⟨(), hcheck, except_bind_eq_ok_iff.2 ⟨plan.rules, hrules, ?_⟩⟩
    dsimp only
    rw [← hplan, hnames]
    rfl

theorem Plan.fits_ofMessage {scope : Scope} {message : Message} {plan : Plan}
    (h : ofMessage scope message = .ok plan) :
    Plan.Fits message plan ∧ plan.preserveUnknown = scope.options.preserveUnknown := by
  obtain ⟨hcheck, hrules, -, hplan⟩ := ofMessage_eq_ok_iff.1 h
  obtain ⟨hnodup, hrange⟩ := numbers_of_checkNumbers hcheck
  rw [hplan]
  refine ⟨⟨rfl, hnodup, fun field hf => (hrange field hf).2, ?_, ?_, rfl, ?_⟩, rfl⟩
  · intro field hf
    obtain ⟨rule, hfind, hfits⟩ := find?_rulesOf hrules hnodup hf
    refine ⟨rule, hfind, ?_⟩
    simpa [Message.requiredBit?, Message.requiredNumbers] using hfits
  · intro number hnumber
    exact find?_rulesOf_none hrules hnumber
  · simp [Message.requiredNumbers]

theorem Plan.rules_ofMessage {scope : Scope} {message : Message} {plan : Plan}
    (h : ofMessage scope message = .ok plan) :
    List.Forall₂ (fun field rule => ∃ bit, Rule.ofField scope message field bit = .ok rule)
      message.fields plan.rules :=
  forall₂_rulesOf (ofMessage_eq_ok_iff.1 h).2.1

/-- A number is declared, and has a fitting rule, or has none. -/
theorem Plan.Fits.rule?_cases {message : Message} {plan : Plan} (h : Plan.Fits message plan)
    (number : Nat) :
    (∃ field ∈ message.fields, field.number = number ∧ ∃ rule, plan.rule? number = some rule ∧
      Rule.Fits field (message.requiredBit? number) rule) ∨
    (number ∉ message.fields.map (·.number) ∧ plan.rule? number = none) := by
  by_cases hn : number ∈ message.fields.map (·.number)
  · obtain ⟨field, hf, rfl⟩ := List.mem_map.1 hn
    exact .inl ⟨field, hf, rfl, h.rule field hf⟩
  · exact .inr ⟨hn, h.noRule number hn⟩

/-- A rule of the plan fits the field that it claims. -/
theorem Plan.Fits.of_rule? {message : Message} {plan : Plan} (h : Plan.Fits message plan)
    {number : Nat} {rule : Rule} (hrule : plan.rule? number = some rule) :
    ∃ field ∈ message.fields, field.number = number ∧
      Rule.Fits field (message.requiredBit? number) rule := by
  rcases h.rule?_cases number with ⟨field, hf, hnumber, rule', hrule', hfits⟩ | ⟨-, hnone⟩
  · rw [hrule] at hrule'
    cases hrule'
    exact ⟨field, hf, hnumber, hfits⟩
  · rw [hrule] at hnone
    cases hnone

namespace Schema

/-- The declaration of a message by full name. Names of the `google.protobuf` package stand for the
messages of that package, whatever the schema declares. -/
def declaration? (schema : Schema) (name : String) : Option Message :=
  (if WellKnown.isWellKnown name then WellKnown.messages else schema.messages).find?
    (·.name = name)

/-- The fields that are declared of a name; none if nothing is. -/
def fieldsOf (schema : Schema) (name : String) : List Field :=
  match schema.declaration? name with
  | some message => message.fields
  | none => []

theorem declaration?_of_own {schema : Schema} {name : String}
    (h : WellKnown.isWellKnown name = false) : schema.declaration? name = schema.message? name := by
  rw [declaration?, h, if_neg (by decide), message?]

theorem name_of_declaration? {schema : Schema} {name : String} {message : Message}
    (h : schema.declaration? name = some message) : message.name = name := by
  simpa using List.find?_some h

end Schema

theorem WellKnown.isWellKnown_append (name : String) :
    isWellKnown ("google.protobuf." ++ name) = true := by
  simp [isWellKnown, namePrefix]

theorem Schema.isWellKnown_of_mem {message : Message} (h : message ∈ WellKnown.messages) :
    WellKnown.isWellKnown message.name = true := by
  simp only [WellKnown.messages, List.mem_cons, List.not_mem_nil, or_false] at h
  rcases h with rfl | rfl | rfl | rfl | rfl | rfl | rfl | rfl | rfl | rfl | rfl | rfl | rfl | rfl |
    rfl | rfl | rfl <;> exact WellKnown.isWellKnown_append _

/-- What the scope of a schema is made of, when it is: the paths of the runtime parse, and no two
messages are generated under one name. -/
theorem Scope.ofSchema_eq_ok_iff {options : Options} {schema : Schema} {scope : Scope} :
    ofSchema options schema = .ok scope ↔ ∃ runtime errorType types,
      Code.Path.ofString? options.runtime = some runtime ∧
      Code.Path.ofString? (options.runtime ++ "::DecodeError") = some errorType ∧
      addOwnTypes schema.package {} (wellKnownTypes options) (ownMessages schema) = .ok types ∧
      scope = ⟨options, runtime, errorType, addExternTypes options types,
        schema.recursiveFields⟩ := by
  unfold ofSchema
  constructor
  · intro h
    split at h
    · rename_i runtime hruntime
      split at h
      · rename_i errorType herror
        obtain ⟨types, htypes, h⟩ := except_bind_eq_ok_iff.1 h
        cases h
        exact ⟨runtime, errorType, types, hruntime, herror, htypes, rfl⟩
      · cases h
    · cases h
  · intro h
    obtain ⟨runtime, errorType, types, hruntime, herror, htypes, rfl⟩ := h
    rw [hruntime, herror]
    exact except_bind_eq_ok_iff.2 ⟨types, htypes, rfl⟩

theorem Scope.options_ofSchema {options : Options} {schema : Schema} {scope : Scope}
    (h : ofSchema options schema = .ok scope) : scope.options = options := by
  obtain ⟨_, _, _, -, -, -, rfl⟩ := ofSchema_eq_ok_iff.1 h
  rfl

theorem Scope.recursive_ofSchema {options : Options} {schema : Schema} {scope : Scope}
    (h : ofSchema options schema = .ok scope) : scope.recursive = schema.recursiveFields := by
  obtain ⟨_, _, _, -, -, -, rfl⟩ := ofSchema_eq_ok_iff.1 h
  rfl

theorem Scope.find?_ownMessages (schema : Schema) {name : String}
    (h : WellKnown.isWellKnown name = false) :
    (ownMessages schema).find? (·.name = name) = schema.messages.find? (·.name = name) := by
  rw [ownMessages, List.find?_filter]
  congr 1
  funext message
  by_cases hname : message.name = name <;> simp [hname, h]

/-- Messages have types of their own if no two are generated under one name, nor one under a name
that is taken. -/
theorem Scope.exists_addOwnTypes_iff {package : String} {named : SortedMap String String}
    {types : SortedMap String TypeInfo} {messages : List ProtoPlan.Message} :
    (∃ types', addOwnTypes package named types messages = .ok types') ↔
      (messages.map (Code.typeName ·.name package)).Nodup ∧
        ∀ message ∈ messages, named.get? (Code.typeName message.name package) = none := by
  induction messages generalizing named types with
  | nil => simp [addOwnTypes]
  | cons first rest ih =>
    rw [addOwnTypes, List.map_cons, List.nodup_cons, List.forall_mem_cons]
    cases hfirst : named.get? (Code.typeName first.name package) with
    | some message => simp
    | none =>
      simp only [ih, SortedMap.get?_insert, List.mem_map, not_exists, not_and]
      constructor
      · intro h
        obtain ⟨hnodup, hrest⟩ := h
        have hdiffer (message : ProtoPlan.Message) (hm : message ∈ rest) :
            Code.typeName message.name package ≠ Code.typeName first.name package ∧
              named.get? (Code.typeName message.name package) = none := by
          have hnone := hrest message hm
          split at hnone
          · cases hnone
          · rename_i hne
            exact ⟨hne, hnone⟩
        exact ⟨⟨fun message hm => (hdiffer message hm).1, hnodup⟩, trivial,
          fun message hm => (hdiffer message hm).2⟩
      · intro h
        obtain ⟨⟨hdiffer, hnodup⟩, -, hrest⟩ := h
        refine ⟨hnodup, fun message hm => ?_⟩
        rw [if_neg (hdiffer message hm), hrest message hm]

theorem Scope.names_ofSchema {options : Options} {schema : Schema} {scope : Scope}
    (h : ofSchema options schema = .ok scope) : ((ownMessages schema).map (·.name)).Nodup := by
  obtain ⟨_, _, types, -, -, htypes, -⟩ := ofSchema_eq_ok_iff.1 h
  have htypeNames := (exists_addOwnTypes_iff.1 ⟨types, htypes⟩).1
  apply List.Nodup.of_map (Code.typeName · schema.package)
  rwa [List.map_map]

/-- The plans of a schema, each from its message. -/
theorem Schema.plans_eq_ok_iff {options : Options} {schema : Schema} {plans : List Plan} :
    schema.plans options = .ok plans ↔ ∃ scope, Scope.ofSchema options schema = .ok scope ∧
      List.Forall₂ (fun message plan => Plan.ofMessage scope message = .ok plan)
        (Scope.ownMessages schema) plans := by
  simp only [Schema.plans, except_bind_eq_ok_iff, mapM_eq_ok_iff]

/-- A set holds the plans of the schema's own messages and those of the `google.protobuf` ones,
which are planned in a scope of their own. -/
theorem Dynamic.DecoderSet.ofSchema_eq_ok_iff {options : Options} {schema : Schema}
    {set : Dynamic.DecoderSet} :
    Dynamic.DecoderSet.ofSchema options schema = .ok set ↔
      ∃ own scope known, schema.plans options = .ok own ∧
        Scope.ofSchema options WellKnown.schema = .ok scope ∧
        WellKnown.messages.mapM (Plan.ofMessage scope) = .ok known ∧ set = ⟨own ++ known⟩ := by
  have hall {plans : List Plan} : schema.allPlans options = .ok plans ↔
      ∃ own scope known, schema.plans options = .ok own ∧
        Scope.ofSchema options WellKnown.schema = .ok scope ∧
        WellKnown.messages.mapM (Plan.ofMessage scope) = .ok known ∧ plans = own ++ known := by
    constructor
    · intro h
      obtain ⟨own, hown, h⟩ := except_bind_eq_ok_iff.1 h
      obtain ⟨scope, hscope, h⟩ := except_bind_eq_ok_iff.1 h
      obtain ⟨known, hknown, h⟩ := except_bind_eq_ok_iff.1 h
      cases h
      exact ⟨own, scope, known, hown, hscope, hknown, rfl⟩
    · rintro ⟨own, scope, known, hown, hscope, hknown, rfl⟩
      exact except_bind_eq_ok_iff.2 ⟨own, hown, except_bind_eq_ok_iff.2 ⟨scope, hscope,
        except_bind_eq_ok_iff.2 ⟨known, hknown, rfl⟩⟩⟩
  rw [Dynamic.DecoderSet.ofSchema]
  constructor
  · intro h
    cases hplans : schema.allPlans options with
    | error e =>
      rw [hplans] at h
      cases h
    | ok plans =>
      rw [hplans] at h
      cases h
      obtain ⟨own, scope, known, hown, hscope, hknown, rfl⟩ := hall.1 hplans
      exact ⟨own, scope, known, hown, hscope, hknown, rfl⟩
  · rintro ⟨own, scope, known, hown, hscope, hknown, rfl⟩
    rw [hall.2 ⟨own, scope, known, hown, hscope, hknown, rfl⟩]
    rfl

/-- Each plan of a set was made from a message in a scope of the schema or of the `google.protobuf`
package. -/
theorem Dynamic.DecoderSet.exists_ofMessage {options : Options} {schema : Schema}
    {set : Dynamic.DecoderSet} (h : Dynamic.DecoderSet.ofSchema options schema = .ok set)
    {plan : Plan} (hplan : plan ∈ set.plans) :
    ∃ source scope message, (source = schema ∨ source = WellKnown.schema) ∧
      Scope.ofSchema options source = .ok scope ∧ Plan.ofMessage scope message = .ok plan := by
  obtain ⟨own, wellKnown, known, hown, hwellKnown, hknown, rfl⟩ :=
    Dynamic.DecoderSet.ofSchema_eq_ok_iff.1 h
  rcases List.mem_append.1 hplan with hplan | hplan
  · obtain ⟨scope, hscope, hplans⟩ := Schema.plans_eq_ok_iff.1 hown
    obtain ⟨message, -, hof⟩ := exists_of_forall₂ hplans hplan
    exact ⟨schema, scope, message, .inl rfl, hscope, hof⟩
  · obtain ⟨message, -, hof⟩ := exists_of_forall₂ (mapM_eq_ok_iff.1 hknown) hplan
    exact ⟨WellKnown.schema, wellKnown, message, .inr rfl, hwellKnown, hof⟩

/-- The sets that are compiled from a schema: the plans of its own messages and those of the
`google.protobuf` ones. -/
theorem Dynamic.DecoderSet.plans_ofSchema {options : Options} {schema : Schema}
    {set : Dynamic.DecoderSet} (h : Dynamic.DecoderSet.ofSchema options schema = .ok set) :
    ∃ own known, set.plans = own ++ known ∧
      List.Forall₂ (fun message plan => Plan.Fits message plan ∧
        plan.preserveUnknown = options.preserveUnknown) (Scope.ownMessages schema) own ∧
      List.Forall₂ (fun message plan => Plan.Fits message plan ∧
        plan.preserveUnknown = options.preserveUnknown) WellKnown.messages known := by
  have fits {scope : Scope} {schema' : Schema} {messages : List ProtoPlan.Message}
      {plans : List Plan}
      (hs : Scope.ofSchema options schema' = .ok scope)
      (hm : List.Forall₂ (fun message plan => Plan.ofMessage scope message = .ok plan) messages
        plans) :
      List.Forall₂ (fun message plan => Plan.Fits message plan ∧
        plan.preserveUnknown = options.preserveUnknown) messages plans := by
    refine hm.imp fun message plan hp => ?_
    have hfits := Plan.fits_ofMessage hp
    rwa [Scope.options_ofSchema hs] at hfits
  obtain ⟨own, wellKnown, known, hown, hwellKnown, hknown, rfl⟩ :=
    Dynamic.DecoderSet.ofSchema_eq_ok_iff.1 h
  obtain ⟨scope, hscope, hplans⟩ := Schema.plans_eq_ok_iff.1 hown
  exact ⟨own, known, rfl, fits hscope hplans, fits hwellKnown (mapM_eq_ok_iff.1 hknown)⟩

/-- A name finds the plan of the message that is declared under it, if there is one. -/
theorem Dynamic.DecoderSet.plan?_ofSchema {options : Options} {schema : Schema}
    {set : Dynamic.DecoderSet}
    (h : Dynamic.DecoderSet.ofSchema options schema = .ok set) (name : String) :
    Option.Rel (fun message plan => Plan.Fits message plan ∧
      plan.preserveUnknown = options.preserveUnknown) (schema.declaration? name)
      (set.plan? name) := by
  obtain ⟨own, known, hplans, hown, hknown⟩ := Dynamic.DecoderSet.plans_ofSchema h
  have hsame (message : ProtoPlan.Message) (plan : Plan) (hp : Plan.Fits message plan ∧
      plan.preserveUnknown = options.preserveUnknown) :
      decide (message.name = name) = decide (plan.message = name) := by rw [hp.1.name]
  have hfound := find?_forall₂ hown hsame
  have hfoundKnown := find?_forall₂ hknown hsame
  rw [Dynamic.DecoderSet.plan?, hplans, List.find?_append, Schema.declaration?]
  by_cases hw : WellKnown.isWellKnown name = true
  · have hnone : (Scope.ownMessages schema).find? (·.name = name) = none := by
      rw [List.find?_eq_none]
      intro message hm heq
      have hname : message.name = name := by simpa using heq
      simp [Scope.ownMessages, hname, hw] at hm
    rw [hnone] at hfound
    rw [if_pos hw, eq_none_of_rel hfound, Option.none_or]
    exact hfoundKnown
  · have hnone : WellKnown.messages.find? (·.name = name) = none := by
      rw [List.find?_eq_none]
      intro message hm heq
      have hname : message.name = name := by simpa using heq
      exact hw (hname ▸ Schema.isWellKnown_of_mem hm)
    rw [Scope.find?_ownMessages schema (by simpa using hw)] at hfound
    rw [hnone] at hfoundKnown
    rw [if_neg hw, eq_none_of_rel hfoundKnown, Option.or_none]
    exact hfound

/-- A message of the schema is the one that is declared under its name. -/
theorem Dynamic.DecoderSet.declaration?_of_mem {options : Options} {schema : Schema}
    {set : Dynamic.DecoderSet} (h : Dynamic.DecoderSet.ofSchema options schema = .ok set)
    {message : ProtoPlan.Message} (hm : message ∈ schema.messages)
    (hown : WellKnown.isWellKnown message.name = false) :
    schema.declaration? message.name = some message := by
  obtain ⟨own, -, -, hplans, -⟩ := Dynamic.DecoderSet.ofSchema_eq_ok_iff.1 h
  obtain ⟨scope, hscope, -⟩ := Schema.plans_eq_ok_iff.1 hplans
  have hmem : message ∈ Scope.ownMessages schema := by simp [Scope.ownMessages, hm, hown]
  rw [Schema.declaration?_of_own hown, Schema.message?, ← Scope.find?_ownMessages schema hown]
  exact find?_key (Scope.names_ofSchema hscope) hmem

/-- A declared message is decoded by a plan that fits it. -/
theorem Dynamic.DecoderSet.planFor?_of_declaration {options : Options} {schema : Schema}
    {set : Dynamic.DecoderSet}
    (h : Dynamic.DecoderSet.ofSchema options schema = .ok set) {name : String}
    {message : ProtoPlan.Message} (hm : schema.declaration? name = some message) :
    ∃ plan, set.planFor? name = some plan ∧ Plan.Fits message plan ∧
      plan.preserveUnknown = options.preserveUnknown := by
  have hrel := Dynamic.DecoderSet.plan?_ofSchema h name
  rw [hm] at hrel
  cases hp : set.plan? name with
  | none =>
    rw [hp] at hrel
    cases hrel
  | some plan =>
    rw [hp] at hrel
    cases hrel with
    | some hfits => exact ⟨plan, by rw [Dynamic.DecoderSet.planFor?, hp], hfits⟩

/-- A name of the `google.protobuf` package that is not declared there is kept raw. -/
theorem Dynamic.DecoderSet.planFor?_of_undeclared {options : Options} {schema : Schema}
    {set : Dynamic.DecoderSet} (h : Dynamic.DecoderSet.ofSchema options schema = .ok set)
    {name : String} (hnone : schema.declaration? name = none)
    (hwell : WellKnown.isWellKnown name = true) :
    set.planFor? name = some (Plan.rawFields name) := by
  have hrel := Dynamic.DecoderSet.plan?_ofSchema h name
  rw [hnone] at hrel
  rw [Dynamic.DecoderSet.planFor?, eq_none_of_rel hrel]
  exact if_pos hwell

theorem Plan.fits_rawFields (name : String) :
    Plan.Fits ({ name := name } : Message) (Plan.rawFields name) :=
  { name := rfl
    numbers := List.nodup_nil
    inRange := fun _ hf => absurd hf List.not_mem_nil
    rule := fun _ hf => absurd hf List.not_mem_nil
    noRule := fun _ _ => rfl
    extensionRanges := rfl
    requiredCount := rfl }

theorem Dynamic.DecoderSet.mem_of_planFor? {set : Dynamic.DecoderSet} {name : String} {plan : Plan}
    (h : set.planFor? name = some plan) : plan ∈ set.plans ∨ plan = Plan.rawFields name := by
  unfold planFor? at h
  split at h
  · rename_i found hfound
    cases h
    exact .inl (List.mem_of_find?_eq_some hfound)
  · split at h
    · cases h
      exact .inr rfl
    · cases h

/-- What decodes a name: the plan of its declaration, or, for other names of the `google.protobuf`
package, the plan that keeps all fields as they are. -/
theorem Dynamic.DecoderSet.planFor?_cases {options : Options} {schema : Schema}
    {set : Dynamic.DecoderSet}
    (h : Dynamic.DecoderSet.ofSchema options schema = .ok set) {name : String} {plan : Plan}
    (hp : set.planFor? name = some plan) :
    (∃ message, schema.declaration? name = some message ∧ Plan.Fits message plan) ∨
    (set.plan? name = none ∧ WellKnown.isWellKnown name = true ∧ plan = Plan.rawFields name) := by
  have hrel := Dynamic.DecoderSet.plan?_ofSchema h name
  cases hfound : set.plan? name with
  | some found =>
    rw [Dynamic.DecoderSet.planFor?, hfound] at hp
    cases hp
    rw [hfound] at hrel
    cases hd : schema.declaration? name with
    | none =>
      rw [hd] at hrel
      cases hrel
    | some message =>
      rw [hd] at hrel
      cases hrel with
      | some hfits => exact .inl ⟨message, rfl, hfits.1⟩
  | none =>
    rw [Dynamic.DecoderSet.planFor?, hfound] at hp
    dsimp only at hp
    split at hp
    · rename_i hw
      cases hp
      exact .inr ⟨rfl, hw, rfl⟩
    · cases hp

/-- The plan that decodes a name fits a message with the fields that are declared of it. -/
theorem Dynamic.DecoderSet.exists_fits {options : Options} {schema : Schema}
    {set : Dynamic.DecoderSet}
    (h : Dynamic.DecoderSet.ofSchema options schema = .ok set) {name : String} {plan : Plan}
    (hp : set.planFor? name = some plan) :
    ∃ message : ProtoPlan.Message, Plan.Fits message plan ∧ message.name = name ∧
      message.fields = schema.fieldsOf name := by
  rcases Dynamic.DecoderSet.planFor?_cases h hp with ⟨message, hd, hfits⟩ | ⟨hnone, -, rfl⟩
  · refine ⟨message, hfits, Schema.name_of_declaration? hd, ?_⟩
    rw [Schema.fieldsOf, hd]
  · refine ⟨_, Plan.fits_rawFields name, rfl, ?_⟩
    have hrel := Dynamic.DecoderSet.plan?_ofSchema h name
    rw [hnone] at hrel
    cases hd : schema.declaration? name with
    | some message =>
      rw [hd] at hrel
      cases hrel
    | none => rw [Schema.fieldsOf, hd]

/-- The fields that a set decodes have numbers of their own. -/
theorem Schema.nodup_fieldsOf {options : Options} {schema : Schema} {set : Dynamic.DecoderSet}
    (hset : Dynamic.DecoderSet.ofSchema options schema = .ok set) (name : String) :
    ((schema.fieldsOf name).map (·.number)).Nodup := by
  unfold fieldsOf
  split
  · rename_i message hd
    obtain ⟨plan, -, hfits, -⟩ := Dynamic.DecoderSet.planFor?_of_declaration hset hd
    exact hfits.numbers
  · exact List.nodup_nil

theorem Dynamic.DecoderSet.ofSchema_eq (schema : Schema) :
    Dynamic.DecoderSet.ofSchema {} schema =
      (schema.plans {}).map fun own => ⟨own ++ Schema.knownPlans⟩ := by
  rw [Dynamic.DecoderSet.ofSchema, Schema.allPlans_eq]
  cases schema.plans {} <;> rfl

end ProtoPlan
