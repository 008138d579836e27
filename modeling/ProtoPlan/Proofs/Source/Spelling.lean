import ProtoPlan.Proofs.Plan.TypeNames
import ProtoPlan.Proofs.Source.StructFields
import ProtoPlan.Source.Module

/-!
Identifiers of generated code. If the names of a schema are in letters, digits and underscores and
start with a letter, all its structs, fields, modules, enums and variants get identifiers, and legal
ones, but for the enums and the variants that come out as the bare word `Self`.
-/

namespace ProtoPlan

open Code Schema Text

/-- A name would be no identifier. -/
def PlanError.IsMisspelling (e : PlanError) : Prop := ∃ name, e = .invalidIdentifier name

/-- There is an identifier of that name. -/
def Code.IsSpelled (name : String) : Prop := ∃ i, Ident.ofString? name = some i

/-- The names that a rule gives are identifiers. -/
structure Rule.Spelled (rule : Rule) : Prop where
  fieldName : IsSpelled rule.fieldName
  select : ∀ single, rule = .field single → ∀ oneof variant isBoxed,
    single.store = .select oneof variant isBoxed →
    IsSpelled (Code.fieldName oneof) ∧ IsSpelled (toPascal oneof) ∧ IsSpelled variant

namespace Source

section Writing

variable {scope : Scope}

theorem avoids_ident {name : String} (h : IsSpelled name) :
    Avoids PlanError.IsMisspelling (ident name) := by
  obtain ⟨i, hi⟩ := h
  rw [ident_eq_ok_iff.2 hi]
  exact avoids_ok i

theorem avoids_typePath (target : MessageRef) :
    Avoids PlanError.IsMisspelling (typePath target) := by
  rw [typePath]
  split
  · exact avoids_ok _
  · exact avoids_error (by simp [PlanError.IsMisspelling])

theorem avoids_valueType (read : Read) : Avoids PlanError.IsMisspelling (valueType read) := by
  cases read with
  | message target => exact (avoids_typePath target).bind fun _ _ => avoids_ok _
  | scalar | string | bytes => exact avoids_ok _

theorem avoids_fresh (target : MessageRef) :
    Avoids PlanError.IsMisspelling (fresh scope target) :=
  (avoids_typePath target).bind fun _ _ => avoids_ok _

theorem avoids_readValue (cursor field : String) (read : Read) :
    Avoids PlanError.IsMisspelling (readValue scope cursor field read) := by
  cases read with
  | message target => exact (avoids_fresh target).bind fun _ _ => avoids_ok _
  | scalar | string | bytes => exact avoids_ok _

theorem avoids_mergeInto (field : Ident) (target : MessageRef) (isBoxed : Bool)
    (cursor : String) : Avoids PlanError.IsMisspelling (mergeInto scope field target isBoxed cursor) :=
  (avoids_typePath target).bind fun _ _ => avoids_ok _

theorem avoids_storeValue {oneofs : Ident} {rule : FieldRule} (h : (Rule.field rule).Spelled)
    (cursor : String) : Avoids PlanError.IsMisspelling (storeValue scope oneofs rule cursor) := by
  refine (avoids_ident h.fieldName).bind fun field _ => ?_
  have hread (read : Read) :
      Avoids PlanError.IsMisspelling (readValue scope cursor rule.name read) :=
    avoids_readValue cursor rule.name read
  cases hstore : rule.store with
  | set | setOptional | append => exact (hread rule.read).bind fun _ _ => avoids_ok _
  | merge isBoxed =>
    cases hcase : rule.read with
    | message target => exact avoids_mergeInto field target isBoxed cursor
    | scalar | string | bytes => exact (hread _).bind fun _ _ => avoids_ok _
  | select oneof variant isBoxed =>
    obtain ⟨hslot, henum, hvariant⟩ := h.select rule rfl oneof variant isBoxed hstore
    exact (avoids_ident hslot).bind fun _ _ => (avoids_ident henum).bind fun _ _ =>
      (avoids_ident hvariant).bind fun _ _ => (hread rule.read).bind fun _ _ => avoids_ok _

theorem avoids_fieldArm {oneofs : Ident} {rule : FieldRule} (h : (Rule.field rule).Spelled) :
    Avoids PlanError.IsMisspelling (fieldArm scope oneofs rule) := by
  refine (avoids_storeValue h "cur").bind fun single _ => ?_
  cases rule.packed with
  | none => exact avoids_ok _
  | some count =>
    exact (avoids_storeValue h "packed").bind fun _ _ =>
      (avoids_ident h.fieldName).bind fun _ _ => avoids_ok _

theorem avoids_entrySide (side : EntrySide) (field slot : String) :
    Avoids PlanError.IsMisspelling (entrySide scope side field slot) := by
  rw [entrySide]
  cases side.read with
  | message target => exact avoids_ok _
  | scalar | string | bytes =>
    exact (avoids_readValue "entry" field _).bind fun _ _ => avoids_ok _

theorem avoids_mapArm {rule : MapRule} (h : (Rule.map rule).Spelled) :
    Avoids PlanError.IsMisspelling (mapArm scope rule) := by
  refine (avoids_ident h.fieldName).bind fun _ _ => (avoids_valueType _).bind fun _ _ =>
    (avoids_valueType _).bind fun _ _ => (avoids_entrySide _ _ _).bind fun _ _ =>
    (avoids_entrySide _ _ _).bind fun _ _ => ?_
  cases rule.value.read with
  | message target => exact (avoids_fresh target).bind fun _ _ => avoids_ok _
  | scalar | string | bytes => exact avoids_ok _

theorem avoids_arm {oneofs : Ident} {rule : Rule} (h : rule.Spelled) :
    Avoids PlanError.IsMisspelling (arm scope oneofs rule) := by
  cases rule with
  | field rule => exact avoids_fieldArm h
  | map rule => exact avoids_mapArm h

theorem avoids_declare {oneofModule : Ident} {rule : Rule} (h : rule.Spelled)
    (declared : List Member × List OneofEnum) :
    Avoids PlanError.IsMisspelling (declare oneofModule declared rule) := by
  cases rule with
  | map rule =>
    exact (avoids_ident h.fieldName).bind fun _ _ => (avoids_valueType _).bind fun _ _ =>
      (avoids_valueType _).bind fun _ _ => avoids_ok _
  | field rule =>
    refine (avoids_ident h.fieldName).bind fun _ _ => (avoids_valueType _).bind fun _ _ => ?_
    cases hstore : rule.store with
    | set | setOptional | append | merge => exact avoids_ok _
    | select oneof variant isBoxed =>
      obtain ⟨hslot, henum, hvariant⟩ := h.select rule rfl oneof variant isBoxed hstore
      refine (avoids_ident hvariant).bind fun _ _ => ?_
      dsimp only
      split
      · exact avoids_ok _
      · exact (avoids_ident hslot).bind fun _ _ => (avoids_ident henum).bind fun _ _ => avoids_ok _

theorem avoids_messagePaths (rule : Rule) :
    Avoids PlanError.IsMisspelling (messagePaths rule) := by
  refine avoids_filterMapM fun read _ => ?_
  cases read with
  | message target => exact (avoids_typePath target).bind fun _ _ => avoids_ok _
  | scalar | string | bytes => exact avoids_ok _

/-- Code is written for a plan whose names are identifiers, or fails for another cause. -/
theorem MessageItems.avoids_ofPlan {plan : Plan} (htype : IsSpelled plan.typeName)
    (hmodule : IsSpelled (moduleName plan.typeName)) (hrules : ∀ rule ∈ plan.rules, rule.Spelled) :
    Avoids PlanError.IsMisspelling (ofPlan scope plan) := by
  have hdecoder : Avoids PlanError.IsMisspelling (Source.decoder scope plan) :=
    (avoids_ident htype).bind fun _ _ => (avoids_ident hmodule).bind fun _ _ =>
      (avoids_mapM fun rule hrule => avoids_arm (hrules rule hrule)).bind fun _ _ => avoids_ok _
  exact (avoids_ident htype).bind fun oneofModule _ => (avoids_ident hmodule).bind fun _ _ =>
    (avoids_foldlM (fun declared rule hrule => avoids_declare (hrules rule hrule) declared) _).bind
      fun _ _ => hdecoder.bind fun _ _ =>
        (avoids_mapM fun rule _ => avoids_messagePaths rule).bind fun _ _ => avoids_ok _

end Writing

end Source

section Plain

/-- The segments of its name, its fields and its oneofs are named in letters, digits and underscores,
with a letter first. -/
structure Message.IsPlain (message : Message) : Prop where
  name : ∀ segment ∈ segments message.name, isPlainName segment = true
  fields : ∀ field ∈ message.fields, isPlainName field.name.toList = true
  oneofs : ∀ field ∈ message.fields, ∀ oneof ∈ field.oneof?, isPlainName oneof.toList = true

variable {scope : Scope} {message : Message} {plan : Plan} (hplain : message.IsPlain)
include hplain

theorem Message.IsPlain.slotName {field : Field} (hfield : field ∈ message.fields) :
    isPlainName field.slotName.toList = true := by
  rw [Field.slotName]
  cases hone : field.oneof? with
  | none => exact hplain.fields field hfield
  | some oneof => exact hplain.oneofs field hfield oneof hone

theorem Message.IsPlain.rule {field : Field} (hfield : field ∈ message.fields)
    {bit : Option Nat} {rule : Rule} (hrule : Rule.ofField scope message field bit = .ok rule) :
    rule.Spelled := by
  have hspelled {name : String} (h : isPlainName name.toList = true) :
      IsSpelled (Code.fieldName name) := by
    obtain ⟨i, hi, -⟩ := exists_legal_fieldName h
    exact ⟨i, hi⟩
  refine ⟨?_, fun single hsingle oneof variant isBoxed hstore => ?_⟩
  · rw [Rule.fieldName_ofField hrule]
    exact hspelled (hplain.fields field hfield)
  · obtain rfl := hsingle
    have hone : field.oneof? = some oneof := by
      rw [← (Rule.fits_ofField hrule).oneof?, Rule.oneof?_field, hstore]
    obtain ⟨rfl, -, -⟩ := Rule.select_ofField hrule hstore
    have hname := hplain.oneofs field hfield oneof hone
    exact ⟨hspelled hname, ⟨_, ofString?_toPascal hname⟩,
      ⟨_, ofString?_toPascal (hplain.fields field hfield)⟩⟩

end Plain

namespace Source

/-- The identifier of a name in Pascal case. It is legal unless it is the bare word `Self`. -/
def IsPascal (name : String) (i : Ident) : Prop :=
  i.Legal ∧ ¬ IsSelf name ∨ i = ⟨false, "Self"⟩ ∧ IsSelf name

theorem isPascal_of_ofString? {name : String} {i : Ident} (hplain : isPlainName name.toList = true)
    (h : Ident.ofString? (toPascal name) = some i) : IsPascal name i := by
  rw [ofString?_toPascal hplain] at h
  obtain rfl := Option.some.inj h
  by_cases hself : IsSelf name
  · exact .inr ⟨by rw [(toPascal_eq_self_iff hplain).2 hself], hself⟩
  · exact .inl ⟨(legal_toPascal_iff hplain).2 hself, hself⟩

theorem MessageItems.Fits.legal_fields {scope : Scope} {message : Message} {plan : Plan}
    {items : MessageItems} (hfits : Fits plan items) (hplain : message.IsPlain)
    (hplan : Plan.ofMessage scope message = .ok plan) :
    ∀ field ∈ items.fields, field.ident.Legal := by
  obtain ⟨-, hrules, -, hshape⟩ := Plan.ofMessage_eq_ok_iff.1 hplan
  have hslots : plan.structFields = message.slots scope.options :=
    Plan.structFields_eq hrules (by rw [hshape]) (by rw [hshape])
  intro field hfield
  obtain ⟨slot, hslot, hnamed⟩ := exists_of_forall₂ hfits.fields hfield
  obtain ⟨name, rfl, hname⟩ := Message.exists_of_mem_slots
    (P := fun name => isPlainName name.toList = true) (fun _ => hplain.slotName) (by decide)
    (by decide) (hslots ▸ hslot)
  obtain ⟨i, hi, hlegal⟩ := exists_legal_fieldName hname
  have heq : i = field.ident := Option.some.inj (hi.symm.trans hnamed)
  exact heq ▸ hlegal

theorem MessageItems.Fits.pascal_oneofs {scope : Scope} {message : Message} {plan : Plan}
    {items : MessageItems} (hfits : Fits plan items) (hplain : message.IsPlain)
    (hplan : Plan.ofMessage scope message = .ok plan) {e : OneofEnum} (he : e ∈ items.oneofs) :
    IsPascal e.oneof e.ident ∧ List.Forall₂ (fun field variant => IsPascal field.name variant.ident)
      (message.oneofMembers e.oneof) e.variants := by
  constructor
  · have hone : e.oneof ∈ Rule.oneofs plan.rules := by
      rw [← Plan.oneofs_eq, ← hfits.oneofs]
      exact List.mem_map_of_mem he
    obtain ⟨rule, hrule, hsome⟩ := Rule.mem_oneofs_iff.1 hone
    obtain ⟨field, hfield, bit, hof⟩ := exists_of_forall₂ (Plan.rules_ofMessage hplan) hrule
    rw [(Rule.fits_ofField hof).oneof?] at hsome
    exact isPascal_of_ofString? (hplain.oneofs field hfield e.oneof hsome) (hfits.enums e he)
  · have hmembers : ∀ field ∈ message.oneofMembers e.oneof, field ∈ message.fields :=
      fun field hfield => (List.mem_filter.1 hfield).1
    refine ((List.forall₂_and_left _ _).2 ⟨hmembers, hfits.members hplan he⟩).imp ?_
    intro field variant hvariant
    exact isPascal_of_ofString? (hplain.fields field hvariant.1) hvariant.2.named

/-- If all names of a schema are plain, no message is without code for want of an identifier, and the
identifiers in the code are legal, but for the enums and the variants that are named `Self`. -/
theorem legal_of_plans {options : Options} {schema : Schema} {scope : Scope} {plans : List Plan}
    (hscope : Scope.ofSchema options schema = .ok scope)
    (hplans : schema.plans options = .ok plans)
    (hplain : ∀ message ∈ Scope.ownMessages schema, message.IsPlain) :
    List.Forall₂ (fun message plan =>
      (∀ name, MessageItems.ofPlan scope plan ≠ .error (.invalidIdentifier name)) ∧
      ∀ items, MessageItems.ofPlan scope plan = .ok items →
        items.ident.Legal ∧ (∀ field ∈ items.fields, field.ident.Legal) ∧
        items.oneofModule.Legal ∧
        ∀ e ∈ items.oneofs, IsPascal e.oneof e.ident ∧
          List.Forall₂ (fun field variant => IsPascal field.name variant.ident)
            (message.oneofMembers e.oneof) e.variants)
      (Scope.ownMessages schema) plans := by
  obtain ⟨scope', hscope', hmessages⟩ := Schema.plans_eq_ok_iff.1 hplans
  have heq : scope' = scope := Except.ok.inj (hscope'.symm.trans hscope)
  rw [heq] at hmessages
  have hown : ∀ message ∈ Scope.ownMessages schema,
      message.name ∈ (Scope.ownMessages schema).map (·.name) ∧ message.IsPlain :=
    fun message hm => ⟨List.mem_map_of_mem hm, hplain message hm⟩
  refine ((List.forall₂_and_left _ _).2 ⟨hown, hmessages⟩).imp fun message plan hmessage => ?_
  obtain ⟨⟨hmem, hplain⟩, hplan⟩ := hmessage
  have htype : plan.typeName = typeName message.name
      (if options.IsExtern message.name then "" else schema.package) := by
    obtain ⟨-, -, -, hshape⟩ := Plan.ofMessage_eq_ok_iff.1 hplan
    rw [hshape, ← Plan.structName_of_mem hscope hmem]
  obtain ⟨type, hident, hlegal⟩ := exists_legal_typeName hplain.name
  obtain ⟨oneofModule, hmodule, hlegal'⟩ := exists_legal_moduleName hplain.name
  rw [← htype] at hident hmodule
  constructor
  · intro name hfails
    refine MessageItems.avoids_ofPlan ⟨type, hident⟩ ⟨oneofModule, hmodule⟩ ?_ _ hfails ⟨name, rfl⟩
    intro rule hrule
    obtain ⟨field, hfield, bit, hof⟩ := exists_of_forall₂ (Plan.rules_ofMessage hplan) hrule
    exact hplain.rule hfield hof
  · intro items hitems
    have hfits := MessageItems.fits_ofPlan hitems
    have htypes : type = items.ident := Option.some.inj (hident.symm.trans hfits.ident)
    have hmodules : oneofModule = items.oneofModule :=
      Option.some.inj (hmodule.symm.trans hfits.oneofModule)
    exact ⟨htypes ▸ hlegal, hfits.legal_fields hplain hplan, hmodules ▸ hlegal',
      fun e he => hfits.pascal_oneofs hplain hplan he⟩

/-- A message whose names are keywords, be it after they are written in another case. -/
theorem legal_of_plans_keywords :
    let message : Message :=
      { name := "demo.self"
        fields := [.singular "Type" 1 .string, .singular "super" 2 .bytes,
                   ⟨"match", 3, .string, .oneof "crate"⟩] }
    let schema : Schema := { package := "demo", messages := [message] }
    ∃ scope plan items, Scope.ofSchema {} schema = .ok scope ∧ schema.plans {} = .ok [plan] ∧
      MessageItems.ofPlan scope plan = .ok items ∧
      items.ident = ⟨false, "Self_"⟩ ∧ items.oneofModule = ⟨false, "self_"⟩ ∧
      items.fields.map (·.ident) =
        [⟨true, "type"⟩, ⟨false, "super_"⟩, ⟨false, "crate_"⟩, ⟨false, "unknown_fields"⟩] ∧
      items.ident.Legal ∧ items.oneofModule.Legal ∧ ∀ field ∈ items.fields, field.ident.Legal := by
  intro message schema
  have hrun : ((Scope.ofSchema {} schema).toOption.bind fun scope =>
      (Plan.ofMessage scope message).toOption.bind fun plan =>
        (MessageItems.ofPlan scope plan).toOption.bind fun items =>
          some (items.ident, items.oneofModule, items.fields.map (·.ident))) =
      some (⟨false, "Self_"⟩, ⟨false, "self_"⟩,
        [⟨true, "type"⟩, ⟨false, "super_"⟩, ⟨false, "crate_"⟩, ⟨false, "unknown_fields"⟩]) := by
    rw [Scope.ofSchema_eq rfl]
    decide +kernel
  have hown : Scope.ownMessages schema = [message] := by
    have hmessage : WellKnown.isWellKnown message.name = false := by decide +kernel
    simp [Scope.ownMessages, schema, hmessage]
  have hplain : ∀ other ∈ Scope.ownMessages schema, other.IsPlain := by
    rw [hown, List.forall_mem_singleton]
    exact ⟨by decide +kernel, by decide +kernel, by decide +kernel⟩
  obtain ⟨scope, hscope, hrun⟩ := exists_ok_of_bind hrun
  obtain ⟨plan, hplan, hrun⟩ := exists_ok_of_bind hrun
  obtain ⟨items, hitems, hrun⟩ := exists_ok_of_bind hrun
  simp only [Option.some.injEq, Prod.mk.injEq] at hrun
  obtain ⟨hident, hmodule, hfields⟩ := hrun
  have hplans : schema.plans {} = .ok [plan] := by
    refine Schema.plans_eq_ok_iff.2 ⟨scope, hscope, ?_⟩
    rw [hown]
    exact .cons hplan .nil
  have hlegal := legal_of_plans hscope hplans hplain
  rw [hown] at hlegal
  cases hlegal with
  | cons hfirst _ =>
    obtain ⟨htype, hnames, honeofs, -⟩ := hfirst.2 items hitems
    exact ⟨scope, plan, items, hscope, hplans, hitems, hident, hmodule, hfields, htype, honeofs,
      hnames⟩

/-- The enum of a oneof that is named `self` has the bare word for a name, and the code cannot be
read back. -/
theorem illegal_self :
    let message : Message :=
      { name := "demo.M", fields := [⟨"a", 1, .string, .oneof "self"⟩] }
    let schema : Schema := { package := "demo", messages := [message] }
    message.IsPlain ∧ ∃ scope plan items, Scope.ofSchema {} schema = .ok scope ∧
      schema.plans {} = .ok [plan] ∧ MessageItems.ofPlan scope plan = .ok items ∧
      items.oneofs.map (·.ident) = [⟨false, "Self"⟩] ∧ ¬ Ident.Legal ⟨false, "Self"⟩ ∧
      Module.ofSchema {} schema = .error .malformedCode := by
  intro message schema
  have hrun : ((Scope.ofSchema {} schema).toOption.bind fun scope =>
      (schema.plans {}).toOption.bind fun plans =>
        (Plan.ofMessage scope message).toOption.bind fun plan =>
          (MessageItems.ofPlan scope plan).toOption.bind fun items =>
            some (decide (plans = [plan]), items.oneofs.map (·.ident))) =
      some (true, [⟨false, "Self"⟩]) := by
    rw [Scope.ofSchema_eq rfl, Schema.plans_eq rfl]
    decide +kernel
  have hmodule : Module.ofSchema {} schema = .error .malformedCode := by
    rw [Module.ofSchema, Scope.ofSchema_eq rfl]
    decide +kernel
  have hillegal : ¬ Ident.Legal ⟨false, "Self"⟩ := by
    intro hlegal
    exact Bool.false_ne_true (hlegal.keyword (by decide +kernel)).1
  obtain ⟨scope, hscope, hrun⟩ := exists_ok_of_bind hrun
  obtain ⟨plans, hplans, hrun⟩ := exists_ok_of_bind hrun
  obtain ⟨plan, -, hrun⟩ := exists_ok_of_bind hrun
  obtain ⟨items, hitems, hrun⟩ := exists_ok_of_bind hrun
  simp only [Option.some.injEq, Prod.mk.injEq, decide_eq_true_eq] at hrun
  obtain ⟨rfl, hself⟩ := hrun
  exact ⟨⟨by decide +kernel, by decide +kernel, by decide +kernel⟩, scope, plan, items, hscope,
    hplans, hitems, hself, hillegal, hmodule⟩

end Source

end ProtoPlan
