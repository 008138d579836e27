import ProtoPlan.Proofs.Plan.Scope
import ProtoPlan.Proofs.Plan.WellFormed

/-!
Names of generated structs. A message is named inside its package, and references lead to the struct
of that name; a message that is said to be defined elsewhere still has a plan, whose struct is named
in full. No two structs of the first kind share a name.
-/

namespace ProtoPlan

open Schema

def Read.target? : Read → Option MessageRef
  | message target => some target
  | scalar _ | string | bytes => none

/-- The message types that the rule reads. -/
def Rule.references : Rule → List MessageRef
  | field rule => rule.read.target?.toList
  | map rule => rule.key.read.target?.toList ++ rule.value.read.target?.toList

def Plan.references (plan : Plan) : List MessageRef := plan.rules.flatMap (·.references)

section Types

variable {options : Options} {schema : Schema}

theorem Plan.structName_of_mem {scope : Scope} (h : Scope.ofSchema options schema = .ok scope)
    {name : String} (hname : name ∈ (Scope.ownMessages schema).map (·.name)) :
    structName scope name =
      Code.typeName name (if options.IsExtern name then "" else schema.package) := by
  by_cases hext : options.IsExtern name
  · rw [if_pos hext, structName]
    split
    · rename_i path htype
      exact absurd hext ((Scope.type?_eq_schema_iff h).1 htype).2.1
    · rfl
  · have htype := (Scope.type?_eq_schema_iff h).2 ⟨hname, hext, rfl⟩
    rw [if_neg hext, structName, htype]

end Types

section References

variable {scope : Scope} {message : Message}

theorem Read.type?_of_target? {field : String} {kind : Kind} {read : Read} {ref : MessageRef}
    (h : Read.ofKind scope message field kind = .ok read) (href : read.target? = some ref) :
    scope.type? ref.name = some ⟨ref.path, ref.origin⟩ := by
  cases kind with
  | message type =>
    obtain ⟨found, hfound, rfl⟩ := Read.ofKind_message_eq_ok_iff.1 h
    obtain ⟨-, info, htype, rfl⟩ := MessageRef.resolve_eq_ok_iff.1 hfound
    cases href
    exact htype
  | scalar | string | bytes =>
    cases h
    cases href
  | group => cases h

theorem EntrySide.type?_of_target? {field : String} {layout : Layout} {side : Field}
    {result : EntrySide} {ref : MessageRef}
    (h : EntrySide.ofField scope message field layout side = .ok result)
    (href : result.read.target? = some ref) :
    scope.type? ref.name = some ⟨ref.path, ref.origin⟩ := by
  obtain ⟨read, hread, h⟩ := except_bind_eq_ok_iff.1 h
  cases h
  exact Read.type?_of_target? hread href

/-- What a rule refers to is in scope. -/
theorem Rule.type?_of_mem {field : Field} {bit : Option Nat} {rule : Rule} {ref : MessageRef}
    (h : Rule.ofField scope message field bit = .ok rule) (href : ref ∈ rule.references) :
    scope.type? ref.name = some ⟨ref.path, ref.origin⟩ := by
  obtain ⟨layout, -, hrule⟩ := ofField_eq_ok_iff.1 h
  cases hrule with
  | map _ _ hkey hvalue =>
    rcases List.mem_append.1 href with hside | hside
    · exact EntrySide.type?_of_target? hkey (by simpa using hside)
    · exact EntrySide.type?_of_target? hvalue (by simpa using hside)
  | field _ hread => exact Read.type?_of_target? hread (by simpa [references] using href)

theorem Plan.type?_of_mem {plan : Plan} {ref : MessageRef}
    (h : ofMessage scope message = .ok plan) (href : ref ∈ plan.references) :
    scope.type? ref.name = some ⟨ref.path, ref.origin⟩ := by
  obtain ⟨rule, hrule, href⟩ := List.mem_flatMap.1 href
  obtain ⟨field, -, bit, hfield⟩ := exists_of_forall₂ (Plan.rules_ofMessage h) hrule
  exact Rule.type?_of_mem hfield href

end References

section Plans

variable {options : Options} {schema : Schema} {plans : List Plan}
  (h : schema.plans options = .ok plans)
include h

theorem Schema.names_of_plans : plans.map (·.message) = (Scope.ownMessages schema).map (·.name) := by
  obtain ⟨scope, -, hplans⟩ := Schema.plans_eq_ok_iff.1 h
  exact map_eq_of_forall₂ hplans fun message plan hof => (Plan.fits_ofMessage hof).1.name

theorem Schema.typeName_of_mem {plan : Plan} (hplan : plan ∈ plans) :
    plan.typeName =
      Code.typeName plan.message (if options.IsExtern plan.message then "" else schema.package) := by
  have hname : plan.message ∈ (Scope.ownMessages schema).map (·.name) := by
    rw [← Schema.names_of_plans h]
    exact List.mem_map_of_mem hplan
  obtain ⟨scope, hscope, hplans⟩ := Schema.plans_eq_ok_iff.1 h
  obtain ⟨message, hm, hof⟩ := exists_of_forall₂ hplans hplan
  obtain ⟨-, -, -, hshape⟩ := Plan.ofMessage_eq_ok_iff.1 hof
  rw [← Plan.structName_of_mem hscope hname, hshape]

/-- A name inside the package is that of one message only. -/
theorem Schema.eq_of_typeName {first second : Plan} (hfirst : first ∈ plans)
    (hsecond : second ∈ plans)
    (hname : Code.typeName first.message schema.package =
      Code.typeName second.message schema.package) : first = second := by
  obtain ⟨scope, hscope, -⟩ := Schema.plans_eq_ok_iff.1 h
  have hdistinct : (plans.map fun plan => Code.typeName plan.message schema.package).Nodup := by
    have htypes := (Scope.exists_ofSchema_iff.1 ⟨scope, hscope⟩).2
    have hsame := congrArg (List.map (Code.typeName · schema.package)) (Schema.names_of_plans h)
    rw [List.map_map, List.map_map] at hsame
    exact hsame ▸ htypes
  exact List.inj_on_of_nodup_map hdistinct hfirst hsecond hname

/-- Structs of one name are of messages of which one is defined elsewhere and named in full, while
the names in full are not those in the package. -/
theorem Schema.clash_of_plans {first second : Plan} (hfirst : first ∈ plans)
    (hsecond : second ∈ plans) (hname : first.typeName = second.typeName) :
    first = second ∨ schema.package ≠ "" ∧
      (options.IsExtern first.message ∨ options.IsExtern second.message) := by
  rw [Schema.typeName_of_mem h hfirst, Schema.typeName_of_mem h hsecond] at hname
  by_cases hpackage : schema.package = ""
  · simp only [hpackage, ite_self] at hname
    exact .inl (Schema.eq_of_typeName h hfirst hsecond (hpackage ▸ hname))
  · by_cases hone : options.IsExtern first.message
    · exact .inr ⟨hpackage, .inl hone⟩
    · by_cases htwo : options.IsExtern second.message
      · exact .inr ⟨hpackage, .inr htwo⟩
      · rw [if_neg hone, if_neg htwo] at hname
        exact .inl (Schema.eq_of_typeName h hfirst hsecond hname)

/-- A reference into the generated module leads to the struct of the message that it names. -/
theorem Schema.exists_target {plan : Plan} (hplan : plan ∈ plans) {ref : MessageRef}
    (href : ref ∈ plan.references) (horigin : ref.origin = .schema) :
    ∃ target ∈ plans, target.message = ref.name ∧ ¬ options.IsExtern target.message ∧
      target.typeName = ref.path := by
  obtain ⟨scope, hscope, hplans⟩ := Schema.plans_eq_ok_iff.1 h
  obtain ⟨message, -, hof⟩ := exists_of_forall₂ hplans hplan
  have htype := Plan.type?_of_mem hof href
  rw [horigin] at htype
  obtain ⟨hmem, hext, hpath⟩ := (Scope.type?_eq_schema_iff hscope).1 htype
  rw [← Schema.names_of_plans h] at hmem
  obtain ⟨target, htarget, hname⟩ := List.mem_map.1 hmem
  have houtside : ¬ options.IsExtern target.message := by rwa [hname]
  refine ⟨target, htarget, hname, houtside, ?_⟩
  rw [Schema.typeName_of_mem h htarget, if_neg houtside, hname, hpath]

end Plans

/-- Structs are named inside the package, those of messages that are defined elsewhere in full. Only
the latter may take the name of another struct; where the schema has no package, or none of its
messages is defined elsewhere, each struct has a name of its own, to which references lead. -/
theorem Schema.typeNames_of_plans {options : Options} {schema : Schema} {plans : List Plan}
    (h : schema.plans options = .ok plans) :
    (∀ plan ∈ plans, plan.typeName =
      Code.typeName plan.message (if options.IsExtern plan.message then "" else schema.package)) ∧
    (∀ first ∈ plans, ∀ second ∈ plans, first.typeName = second.typeName →
      first = second ∨ options.IsExtern first.message ∨ options.IsExtern second.message) ∧
    (∀ plan ∈ plans, ∀ ref ∈ plan.references, ref.origin = .schema →
      ∃ target ∈ plans, target.message = ref.name ∧ ¬ options.IsExtern target.message ∧
        target.typeName = ref.path ∧
        ∀ other ∈ plans, other.typeName = ref.path →
          other = target ∨ options.IsExtern other.message) ∧
    ((schema.package = "" ∨ ∀ plan ∈ plans, ¬ options.IsExtern plan.message) →
      (plans.map (·.typeName)).Nodup ∧
      ∀ plan ∈ plans, ∀ ref ∈ plan.references, ref.origin = .schema →
        ∃ target ∈ plans, target.message = ref.name ∧
          ∀ other ∈ plans, other.typeName = ref.path ↔ other = target) := by
  refine ⟨fun plan => Schema.typeName_of_mem h, ?_, ?_, ?_⟩
  · intro first hfirst second hsecond hname
    exact (Schema.clash_of_plans h hfirst hsecond hname).imp_right (·.2)
  · intro plan hplan ref href horigin
    obtain ⟨target, htarget, hname, hext, hpath⟩ := Schema.exists_target h hplan href horigin
    refine ⟨target, htarget, hname, hext, hpath, fun other hother hsame => ?_⟩
    rcases Schema.clash_of_plans h hother htarget (hsame.trans hpath.symm) with heq | ⟨-, hclash⟩
    · exact .inl heq
    · exact .inr (hclash.resolve_right hext)
  · intro hfree
    have hone (first second : Plan) (hfirst : first ∈ plans) (hsecond : second ∈ plans)
        (hname : first.typeName = second.typeName) : first = second := by
      rcases Schema.clash_of_plans h hfirst hsecond hname with heq | ⟨hpackage, hclash⟩
      · exact heq
      · have hnone := hfree.resolve_left hpackage
        exact absurd hclash (not_or.2 ⟨hnone first hfirst, hnone second hsecond⟩)
    constructor
    · have hplans : plans.Nodup := by
        obtain ⟨scope, hscope, -⟩ := Schema.plans_eq_ok_iff.1 h
        apply List.Nodup.of_map (·.message)
        rw [Schema.names_of_plans h]
        exact Scope.names_ofSchema hscope
      exact hplans.map_on fun first hfirst second hsecond => hone first second hfirst hsecond
    · intro plan hplan ref href horigin
      obtain ⟨target, htarget, hname, -, hpath⟩ := Schema.exists_target h hplan href horigin
      refine ⟨target, htarget, hname, fun other hother => ⟨fun hsame => ?_, fun heq => ?_⟩⟩
      · exact hone other target hother htarget (hsame.trans hpath.symm)
      · rw [heq, hpath]

/-- A message that is defined elsewhere, and one that refers to it and to itself. -/
theorem Schema.typeNames_of_plans_extern :
    let options := ({} : Options).externPath "demo.A" "::ext::A"
    let schema : Schema :=
      { package := "demo"
        messages := [{ name := "demo.A" },
                     { name := "demo.B", fields := [.singular "a" 1 (.message "demo.A"),
                                                    .map "b" 2 .string (.message ".demo.B")] }] }
    ∃ plans, schema.plans options = .ok plans ∧ plans.map (·.typeName) = ["DemoA", "B"] ∧
      ∀ plan ∈ plans, ∀ ref ∈ plan.references, ref.origin = .schema →
        ∃ target ∈ plans, target.message = ref.name ∧ ¬ options.IsExtern target.message ∧
          target.typeName = ref.path ∧
          ∀ other ∈ plans, other.typeName = ref.path →
            other = target ∨ options.IsExtern other.message := by
  intro options schema
  have hnames : ((schema.plans options).toOption.map fun plans => plans.map (·.typeName)) =
      some ["DemoA", "B"] := by
    rw [Schema.plans_eq rfl]
    decide +kernel
  obtain ⟨plans, hplans, hnames⟩ := exists_ok_of_map hnames
  exact ⟨plans, hplans, hnames, (Schema.typeNames_of_plans hplans).2.2.1⟩

/-- The name in full of a message that is defined elsewhere may be that of another in the
package. -/
theorem Schema.typeName_clash :
    let options := ({} : Options).externPath "demo.A" "::ext::A"
    let schema : Schema :=
      { package := "demo", messages := [{ name := "demo.A" }, { name := "demo.DemoA" }] }
    ∃ plans, schema.plans options = .ok plans ∧ ¬ (plans.map (·.typeName)).Nodup := by
  intro options schema
  have hnames : ((schema.plans options).toOption.map fun plans => plans.map (·.typeName)) =
      some ["DemoA", "DemoA"] := by
    rw [Schema.plans_eq rfl]
    decide +kernel
  obtain ⟨plans, hplans, htwo⟩ := exists_ok_of_map hnames
  refine ⟨plans, hplans, ?_⟩
  rw [htwo]
  decide

end ProtoPlan
