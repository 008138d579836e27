import Mathlib.Data.List.Induction
import ProtoPlan.Proofs.Code.Name
import ProtoPlan.Proofs.Plan.Narrower
import ProtoPlan.Source.Item

/-!
What is declared for a plan. The rules are gone through in order, and at each point the fields, the
enums and the variants are those of the rules gone through so far.
-/

namespace ProtoPlan

open Code Schema

section Oneofs

/-- The oneofs of rules in order of first use. -/
def Rule.oneofs (rules : List Rule) : List String :=
  rules.foldl (fun names rule =>
    match rule.oneof? with
    | some name => if name ∈ names then names else names ++ [name]
    | none => names) []

theorem Plan.oneofs_eq (plan : Plan) : plan.oneofs = Rule.oneofs plan.rules := rfl

theorem Rule.oneofs_append (rules : List Rule) (rule : Rule) :
    oneofs (rules ++ [rule]) =
      match rule.oneof? with
      | some name => if name ∈ oneofs rules then oneofs rules else oneofs rules ++ [name]
      | none => oneofs rules := by
  rw [oneofs, List.foldl_append]
  rfl

theorem Rule.mem_oneofs_iff {rules : List Rule} {oneof : String} :
    oneof ∈ oneofs rules ↔ ∃ rule ∈ rules, rule.oneof? = some oneof := by
  induction rules using List.reverseRecOn with
  | nil => simp [oneofs]
  | append_singleton rules rule ih =>
    rw [oneofs_append]
    cases hone : rule.oneof? with
    | none => simp [ih, hone]
    | some name =>
      by_cases hmem : name ∈ oneofs rules
      · simp only [hmem, if_true, ih, List.mem_append, List.mem_singleton]
        constructor
        · intro h
          obtain ⟨other, hother, hsame⟩ := h
          exact ⟨other, .inl hother, hsame⟩
        · intro h
          obtain ⟨other, hother | rfl, hsame⟩ := h
          · exact ⟨other, hother, hsame⟩
          · rw [hone] at hsame
            exact ih.1 (Option.some.inj hsame ▸ hmem)
      · simp [hmem, ih, hone, or_and_right, exists_or, eq_comm]

theorem Rule.nodup_oneofs (rules : List Rule) : (oneofs rules).Nodup := by
  induction rules using List.reverseRecOn with
  | nil => exact List.nodup_nil
  | append_singleton rules rule ih =>
    rw [oneofs_append]
    split
    · split
      · exact ih
      · rename_i name _ hmem
        exact ih.append (List.nodup_singleton name) (by simpa using hmem)
    · exact ih

/-- What the last of the rules adds to the struct fields. -/
theorem Plan.declaredFields_append (seen : List String) (rules : List Rule) (rule : Rule) :
    declaredFields seen (rules ++ [rule]) = declaredFields seen rules ++
      match rule.oneof? with
      | some oneof =>
        if oneof ∈ seen ∨ oneof ∈ Rule.oneofs rules then [] else [Code.fieldName oneof]
      | none => [rule.fieldName] := by
  simp only [Rule.mem_oneofs_iff]
  induction rules generalizing seen with
  | nil =>
    rw [List.nil_append, declaredFields_cons]
    cases rule.oneof? with
    | none => rfl
    | some oneof => simp [declaredFields]
  | cons first rules ih =>
    rw [List.cons_append, declaredFields_cons, declaredFields_cons, ih]
    cases hfirst : first.oneof? with
    | none => simp [hfirst]
    | some name =>
      by_cases hseen : name ∈ seen
      · cases rule.oneof? with
        | none => simp [hseen]
        | some oneof =>
          have hname : name = oneof → oneof ∈ seen := fun heq => heq ▸ hseen
          by_cases hone : oneof ∈ seen
          · simp [hseen, hone]
          · have hne : name ≠ oneof := fun heq => hone (hname heq)
            simp [hseen, hone, hfirst, hne]
      · simp only [hseen, if_false, ih, List.cons_append]
        cases rule.oneof? with
        | none => rfl
        | some oneof => simp [hfirst, or_assoc, or_left_comm, eq_comm]

end Oneofs

section Message

variable {scope : Scope} {message : Message}

/-- Rules name the oneofs of their fields. -/
theorem Rule.oneofs_eq {fields : List Field} {rules : List Rule}
    (h : List.Forall₂ (fun field rule => ∃ bit, Rule.ofField scope message field bit = .ok rule)
      fields rules) (names : List String) :
    rules.foldl (fun names rule =>
      match rule.oneof? with
      | some name => if name ∈ names then names else names ++ [name]
      | none => names) names =
    fields.foldl (fun names field =>
      match field.oneof? with
      | some name => if name ∈ names then names else names ++ [name]
      | none => names) names := by
  induction h generalizing names with
  | nil => rfl
  | @cons field rule fields rules hrule _ ih =>
    obtain ⟨bit, hrule⟩ := hrule
    rw [List.foldl_cons, List.foldl_cons, (Rule.fits_ofField hrule).oneof?]
    exact ih _

theorem Plan.oneofs_ofMessage {plan : Plan} (h : ofMessage scope message = .ok plan) :
    plan.oneofs = message.oneofs := Rule.oneofs_eq (rules_ofMessage h) []

/-- The rules of a oneof are those of its members. -/
theorem Plan.members_ofMessage {plan : Plan} (h : ofMessage scope message = .ok plan)
    (oneof : String) :
    List.Forall₂ (fun field rule => ∃ bit, Rule.ofField scope message field bit = .ok rule)
      (message.oneofMembers oneof) (plan.rules.filter (·.oneof? = some oneof)) := by
  refine List.rel_filter ?_ (rules_ofMessage h)
  intro field rule hrule
  obtain ⟨bit, hrule⟩ := hrule
  simp only [(Rule.fits_ofField hrule).oneof?]

/-- Where a member of a oneof is stored and how it is read. -/
theorem Rule.select_ofField {field : Field} {bit : Option Nat} {rule : FieldRule}
    {oneof variant : String} {isBoxed : Bool}
    (h : Rule.ofField scope message field bit = .ok (.field rule))
    (hstore : rule.store = .select oneof variant isBoxed) :
    variant = Text.toPascal field.name ∧ isBoxed = scope.isRecursive message.name field.name ∧
      Read.ofKind scope message field.name field.kind = .ok rule.read := by
  obtain ⟨layout, -, hrule⟩ := ofField_eq_ok_iff.1 h
  cases hrule with
  | field hof hread =>
    obtain rfl := hstore
    generalize layout.storage = storage at hof
    cases storage <;> cases hof
    exact ⟨rfl, rfl, hread⟩

end Message

namespace Source

theorem ident_eq_ok_iff {name : String} {i : Ident} :
    ident name = .ok i ↔ Ident.ofString? name = some i := by
  rw [ident]
  cases Ident.ofString? name <;> simp

/-- The struct field or the variant is written with that name. -/
def IsNamed (name : String) (member : Member) : Prop := Ident.ofString? name = some member.ident

/-- The variant that the rule of a oneof's member declares. -/
inductive IsVariant : Rule → Member → Prop where
  | select {rule : FieldRule} {oneof variant : String} {isBoxed : Bool} {i : Ident}
      {value : Tokens} :
      rule.store = .select oneof variant isBoxed → Ident.ofString? variant = some i →
        valueType rule.read = .ok value →
        IsVariant (.field rule) ⟨i, if isBoxed then boxed value else value⟩

/-- What a rule adds to the struct fields and the oneofs. -/
inductive Declares (fields : List Member) (oneofs : List OneofEnum) (rule : Rule) :
    List Member × List OneofEnum → Prop where
  | plain {field : Member} :
      rule.oneof? = none → IsNamed rule.fieldName field →
        Declares fields oneofs rule (fields ++ [field], oneofs)
  | later {oneof : String} {variant : Member} :
      rule.oneof? = some oneof → oneof ∈ oneofs.map (·.oneof) → IsVariant rule variant →
        Declares fields oneofs rule (fields, addVariant oneof variant oneofs)
  | first {oneof : String} {variant field : Member} {enum : Ident} :
      rule.oneof? = some oneof → oneof ∉ oneofs.map (·.oneof) → IsVariant rule variant →
        IsNamed (fieldName oneof) field →
        Ident.ofString? (Text.toPascal oneof) = some enum →
        Declares fields oneofs rule (fields ++ [field], oneofs ++ [⟨oneof, enum, [variant]⟩])

theorem declares_of_declare {oneofModule : Ident} {fields : List Member}
    {oneofs : List OneofEnum} {rule : Rule} {declared : List Member × List OneofEnum}
    (h : declare oneofModule (fields, oneofs) rule = .ok declared) :
    Declares fields oneofs rule declared := by
  cases rule with
  | map rule =>
    obtain ⟨field, hfield, h⟩ := except_bind_eq_ok_iff.1 h
    obtain ⟨key, -, h⟩ := except_bind_eq_ok_iff.1 h
    obtain ⟨value, -, h⟩ := except_bind_eq_ok_iff.1 h
    cases h
    exact .plain rfl (ident_eq_ok_iff.1 hfield)
  | field rule =>
    obtain ⟨field, hfield, h⟩ := except_bind_eq_ok_iff.1 h
    obtain ⟨value, hvalue, h⟩ := except_bind_eq_ok_iff.1 h
    cases hstore : rule.store with
    | select oneof variant isBoxed =>
      have hone : (Rule.field rule).oneof? = some oneof := by rw [Rule.oneof?_field, hstore]
      rw [hstore] at h
      obtain ⟨i, hident, h⟩ := except_bind_eq_ok_iff.1 h
      have hvariant := IsVariant.select hstore (ident_eq_ok_iff.1 hident) hvalue
      have hmem : (oneofs.any (·.oneof = oneof)) = true ↔ oneof ∈ oneofs.map (·.oneof) := by simp
      dsimp only at h
      split at h
      · rename_i hany
        cases h
        exact .later hone (hmem.1 hany) hvariant
      · rename_i hany
        obtain ⟨slot, hslot, h⟩ := except_bind_eq_ok_iff.1 h
        obtain ⟨enum, henum, h⟩ := except_bind_eq_ok_iff.1 h
        cases h
        exact .first hone (mt hmem.2 hany) hvariant (ident_eq_ok_iff.1 hslot)
          (ident_eq_ok_iff.1 henum)
    | set | setOptional | merge | append =>
      have hone : (Rule.field rule).oneof? = none := by rw [Rule.oneof?_field, hstore]
      rw [hstore] at h
      cases h
      exact .plain hone (ident_eq_ok_iff.1 hfield)

/-- Only the enum of that oneof gets the variant. -/
theorem addVariant_eq_map {oneof : String} {variant : Member} {oneofs : List OneofEnum}
    (hnodup : (oneofs.map (·.oneof)).Nodup) :
    addVariant oneof variant oneofs = oneofs.map fun e =>
      if e.oneof = oneof then { e with variants := e.variants ++ [variant] } else e := by
  induction oneofs with
  | nil => rfl
  | cons e oneofs ih =>
    rw [List.map_cons, List.nodup_cons] at hnodup
    rw [addVariant, List.map_cons]
    split
    · rename_i heq
      have hrest : oneofs.map (fun e =>
          if e.oneof = oneof then { e with variants := e.variants ++ [variant] } else e) =
          oneofs := by
        refine (List.map_congr_left fun other hother => if_neg fun hsame => ?_).trans
          (List.map_id' oneofs)
        exact hnodup.1 (List.mem_map.2 ⟨other, hother, hsame.trans heq.symm⟩)
      rw [hrest]
    · rw [ih hnodup.2]

/-- The struct fields and the oneofs are those that rules declare. -/
structure Declared (rules : List Rule) (declared : List Member × List OneofEnum) : Prop where
  fields : List.Forall₂ IsNamed (Plan.declaredFields [] rules) declared.1
  oneofs : declared.2.map (·.oneof) = Rule.oneofs rules
  enums : ∀ e ∈ declared.2, Ident.ofString? (Text.toPascal e.oneof) = some e.ident
  variants : ∀ e ∈ declared.2,
    List.Forall₂ IsVariant (rules.filter (·.oneof? = some e.oneof)) e.variants

namespace Declared

variable {rules : List Rule} {fields : List Member} {oneofs : List OneofEnum} {rule : Rule}
  {declared : List Member × List OneofEnum}

theorem nil : Declared [] ([], []) where
  fields := .nil
  oneofs := rfl
  enums := fun _ he => absurd he List.not_mem_nil
  variants := fun _ he => absurd he List.not_mem_nil

/-- The variants of an enum that the rule is not a member of. -/
theorem filter_of_ne {oneof : String} (hne : rule.oneof? ≠ some oneof) :
    (rules ++ [rule]).filter (·.oneof? = some oneof) =
      rules.filter (·.oneof? = some oneof) := by
  simp [hne]

section Step

variable (h : Declared rules (fields, oneofs))
include h

theorem mem_iff {oneof : String} :
    oneof ∈ oneofs.map (·.oneof) ↔ oneof ∈ Rule.oneofs rules := by
  rw [← h.oneofs]

theorem plain {field : Member} (hone : rule.oneof? = none) (hfield : IsNamed rule.fieldName field) :
    Declared (rules ++ [rule]) (fields ++ [field], oneofs) := by
  have hfields := Plan.declaredFields_append [] rules rule
  have honeofs := Rule.oneofs_append rules rule
  simp only [hone] at hfields honeofs
  refine ⟨?_, ?_, h.enums, fun e he => ?_⟩
  · rw [hfields]
    exact List.rel_append h.fields (.cons hfield .nil)
  · rw [honeofs, ← h.oneofs]
  · rw [filter_of_ne (by simp [hone])]
    exact h.variants e he

theorem later {oneof : String} {variant : Member} (hone : rule.oneof? = some oneof)
    (hold : oneof ∈ oneofs.map (·.oneof)) (hvariant : IsVariant rule variant) :
    Declared (rules ++ [rule]) (fields, addVariant oneof variant oneofs) := by
  have hfields := Plan.declaredFields_append [] rules rule
  have honeofs := Rule.oneofs_append rules rule
  simp only [hone, h.mem_iff.1 hold, or_true, if_true, List.append_nil] at hfields honeofs
  have hnodup : (oneofs.map (·.oneof)).Nodup := by
    have hdistinct := Rule.nodup_oneofs rules
    rwa [← h.oneofs] at hdistinct
  rw [addVariant_eq_map hnodup]
  refine ⟨?_, ?_, ?_, ?_⟩
  · rw [hfields]
    exact h.fields
  · rw [honeofs, ← h.oneofs, List.map_map]
    refine List.map_congr_left fun e _ => ?_
    rw [Function.comp]
    split <;> rfl
  · intro e he
    obtain ⟨old, hold, rfl⟩ := List.mem_map.1 he
    have henum := h.enums old hold
    split <;> exact henum
  · intro e he
    obtain ⟨old, hmem, rfl⟩ := List.mem_map.1 he
    have hvariants := h.variants old hmem
    split
    · rename_i heq
      have hlast : [rule].filter (·.oneof? = some old.oneof) = [rule] := by simp [hone, heq]
      rw [List.filter_append, hlast]
      exact List.rel_append hvariants (.cons hvariant .nil)
    · rename_i hne
      rw [filter_of_ne (by simpa [hone] using Ne.symm hne)]
      exact hvariants

theorem first {oneof : String} {variant field : Member} {enum : Ident}
    (hone : rule.oneof? = some oneof) (hnew : oneof ∉ oneofs.map (·.oneof))
    (hvariant : IsVariant rule variant) (hfield : IsNamed (fieldName oneof) field)
    (henum : Ident.ofString? (Text.toPascal oneof) = some enum) :
    Declared (rules ++ [rule]) (fields ++ [field], oneofs ++ [⟨oneof, enum, [variant]⟩]) := by
  have hfields := Plan.declaredFields_append [] rules rule
  have honeofs := Rule.oneofs_append rules rule
  have hfresh : oneof ∉ Rule.oneofs rules := mt h.mem_iff.2 hnew
  simp only [hone, hfresh, List.not_mem_nil, or_self, if_false] at hfields honeofs
  refine ⟨?_, ?_, ?_, ?_⟩
  · rw [hfields]
    exact List.rel_append h.fields (.cons hfield .nil)
  · rw [honeofs, List.map_append, h.oneofs]
    rfl
  · rw [List.forall_mem_append]
    exact ⟨h.enums, List.forall_mem_singleton.2 henum⟩
  · rw [List.forall_mem_append]
    constructor
    · intro e he
      have hne : rule.oneof? ≠ some e.oneof := by
        intro hsame
        rw [hone] at hsame
        exact hnew (List.mem_map.2 ⟨e, he, (Option.some.inj hsame).symm⟩)
      rw [filter_of_ne hne]
      exact h.variants e he
    · rw [List.forall_mem_singleton]
      have hnone : rules.filter (·.oneof? = some oneof) = [] := by
        rw [List.filter_eq_nil_iff]
        intro other hother hsame
        exact hfresh (Rule.mem_oneofs_iff.2 ⟨other, hother, by simpa using hsame⟩)
      show List.Forall₂ IsVariant ((rules ++ [rule]).filter (·.oneof? = some oneof)) [variant]
      rw [List.filter_append, hnone]
      simpa [hone] using hvariant

theorem step (hstep : Declares fields oneofs rule declared) :
    Declared (rules ++ [rule]) declared := by
  cases hstep with
  | plain hone hfield => exact h.plain hone hfield
  | later hone hold hvariant => exact h.later hone hold hvariant
  | first hone hnew hvariant hfield henum => exact h.first hone hnew hvariant hfield henum

end Step

theorem run {oneofModule : Ident} {more : List Rule} (h : Declared rules (fields, oneofs))
    (hrun : more.foldlM (declare oneofModule) (fields, oneofs) = .ok declared) :
    Declared (rules ++ more) declared := by
  induction more generalizing rules fields oneofs with
  | nil =>
    cases hrun
    rwa [List.append_nil]
  | cons rule more ih =>
    rw [List.foldlM_cons] at hrun
    obtain ⟨⟨fields', oneofs'⟩, hstep, hrun⟩ := except_bind_eq_ok_iff.1 hrun
    have hlater := ih (h.step (declares_of_declare hstep)) hrun
    rwa [List.append_assoc] at hlater

end Declared

/-- The items are what the plan says: the struct, its fields and the module by the names of the
plan, and an enum for each oneof, with a variant for each of its members. -/
structure MessageItems.Fits (plan : Plan) (items : MessageItems) : Prop where
  message : items.message = plan.message
  ident : Ident.ofString? plan.typeName = some items.ident
  oneofModule : Ident.ofString? (moduleName plan.typeName) = some items.oneofModule
  fields : List.Forall₂ IsNamed plan.structFields items.fields
  oneofs : items.oneofs.map (·.oneof) = plan.oneofs
  enums : ∀ e ∈ items.oneofs, Ident.ofString? (Text.toPascal e.oneof) = some e.ident
  variants : ∀ e ∈ items.oneofs,
    List.Forall₂ IsVariant (plan.rules.filter (·.oneof? = some e.oneof)) e.variants

theorem storeFields_named (scope : Scope) (plan : Plan) :
    List.Forall₂ IsNamed
      ((if plan.preserveUnknown then ["unknown_fields"] else []) ++
        (if plan.hasExtensions then ["extensions"] else []))
      (storeFields scope plan) := by
  have hunknown (type : Tokens) : IsNamed "unknown_fields" ⟨⟨false, "unknown_fields"⟩, type⟩ :=
    show Ident.ofString? "unknown_fields" = some ⟨false, "unknown_fields"⟩ by decide
  have hextensions (type : Tokens) : IsNamed "extensions" ⟨⟨false, "extensions"⟩, type⟩ :=
    show Ident.ofString? "extensions" = some ⟨false, "extensions"⟩ by decide
  refine List.rel_append ?_ ?_
  · cases plan.preserveUnknown
    · exact .nil
    · exact .cons (hunknown _) .nil
  · cases plan.hasExtensions
    · exact .nil
    · exact .cons (hextensions _) .nil

theorem MessageItems.fits_ofPlan {scope : Scope} {plan : Plan} {items : MessageItems}
    (h : ofPlan scope plan = .ok items) : Fits plan items := by
  obtain ⟨type, htype, h⟩ := except_bind_eq_ok_iff.1 h
  obtain ⟨oneofModule, hmodule, h⟩ := except_bind_eq_ok_iff.1 h
  obtain ⟨⟨fields, oneofs⟩, hrun, h⟩ := except_bind_eq_ok_iff.1 h
  obtain ⟨decoder, -, h⟩ := except_bind_eq_ok_iff.1 h
  obtain ⟨messages, -, h⟩ := except_bind_eq_ok_iff.1 h
  cases h
  have hdeclared : Declared plan.rules (fields, oneofs) := Declared.nil.run hrun
  refine ⟨rfl, ident_eq_ok_iff.1 htype, ident_eq_ok_iff.1 hmodule, ?_, ?_, hdeclared.enums,
    hdeclared.variants⟩
  · rw [Plan.structFields, List.append_assoc]
    exact List.rel_append hdeclared.fields (storeFields_named scope plan)
  · rw [Plan.oneofs_eq, ← hdeclared.oneofs]

namespace MessageItems.Fits

variable {plan : Plan} {items : MessageItems} (h : Fits plan items)
include h

theorem text_ident : items.ident.text = plan.typeName := Ident.text_of_ofString? h.ident

theorem text_oneofModule : items.oneofModule.text = moduleName plan.typeName :=
  Ident.text_of_ofString? h.oneofModule

theorem text_fields : items.fields.map (·.ident.text) = plan.structFields := by
  have hnames := map_eq_of_forall₂ (f := id) (g := fun field : Member => field.ident.text) h.fields
    fun _ _ hnamed => Ident.text_of_ofString? hnamed
  rwa [List.map_id] at hnames

theorem text_enums : items.oneofs.map (·.ident.text) = plan.oneofs.map Text.toPascal := by
  rw [← h.oneofs, List.map_map]
  exact List.map_congr_left fun e he => Ident.text_of_ofString? (h.enums e he)

end MessageItems.Fits

/-- The variant of a member of a oneof: its name in Pascal case, with the type of its values, which
are boxed if the field leads back to its message. -/
structure VariantFits (scope : Scope) (message : Message) (field : Field) (variant : Member) :
    Prop where
  named : IsNamed (Text.toPascal field.name) variant
  type : ∃ read value, Read.ofKind scope message field.name field.kind = .ok read ∧
    valueType read = .ok value ∧
    variant.type = if scope.isRecursive message.name field.name then boxed value else value

theorem MessageItems.Fits.members {scope : Scope} {message : Message} {plan : Plan}
    {items : MessageItems} (h : Fits plan items) (hplan : Plan.ofMessage scope message = .ok plan)
    {e : OneofEnum} (he : e ∈ items.oneofs) :
    List.Forall₂ (VariantFits scope message) (message.oneofMembers e.oneof) e.variants := by
  have hvariants := h.variants e he
  have hmembers := Plan.members_ofMessage hplan e.oneof
  generalize plan.rules.filter (·.oneof? = some e.oneof) = rules at hvariants hmembers
  generalize message.oneofMembers e.oneof = fields at hmembers
  generalize e.variants = variants at hvariants
  induction hmembers generalizing variants with
  | nil =>
    cases hvariants
    exact .nil
  | @cons field rule fields rules hrule _ ih =>
    cases hvariants with
    | cons hvariant hrest =>
      obtain ⟨bit, hrule⟩ := hrule
      refine .cons ?_ (ih _ hrest)
      cases hvariant with
      | select hstore hident hvalue =>
        obtain ⟨rfl, rfl, hread⟩ := Rule.select_ofField hrule hstore
        exact ⟨hident, _, _, hread, hvalue, rfl⟩

end Source

end ProtoPlan
