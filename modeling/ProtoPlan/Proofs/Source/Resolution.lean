import ProtoPlan.Proofs.Plan.TypeNames
import ProtoPlan.Proofs.Source.Item
import ProtoPlan.Source.Module

/-!
What the types of variants stand for. The enums of a message's oneofs are in a module of their own,
which takes in the names around it, among them the structs of the schema, but for those that it
declares itself. An enum of that name stands in the way of a struct.
-/

namespace ProtoPlan.Source

open Code Schema Text

/-- A type that is written for a schema. -/
inductive TypeItem where
  | enum (e : OneofEnum)
  | struct (items : MessageItems)

/-- What the name of a type stands for among the oneofs of a message, of all that is written for the
schema. -/
def MessageItems.resolve (all : List MessageItems) (items : MessageItems) (name : String) :
    Option TypeItem :=
  match items.oneofs.find? (·.ident.text = name) with
  | some e => some (.enum e)
  | none => (all.find? (·.ident.text = name)).map .struct

theorem MessageItems.exists_enum_iff {all : List MessageItems} {items : MessageItems}
    {name : String} :
    (∃ e ∈ items.oneofs, items.resolve all name = some (.enum e)) ↔
      name ∈ items.oneofs.map (·.ident.text) := by
  rw [resolve]
  constructor
  · intro h
    obtain ⟨e, -, h⟩ := h
    split at h
    · rename_i found hfound
      have hname : found.ident.text = name := by simpa using List.find?_some hfound
      exact List.mem_map.2 ⟨found, List.mem_of_find?_eq_some hfound, hname⟩
    · simp at h
  · intro h
    obtain ⟨e, he, hname⟩ := List.mem_map.1 h
    cases hfind : items.oneofs.find? (·.ident.text = name) with
    | some found => exact ⟨found, List.mem_of_find?_eq_some hfind, rfl⟩
    | none => exact absurd hname (by simpa using List.find?_eq_none.1 hfind e he)

theorem MessageItems.resolve_of_notMem {all : List MessageItems} {items : MessageItems}
    {name : String} (h : name ∉ items.oneofs.map (·.ident.text)) :
    items.resolve all name = (all.find? (·.ident.text = name)).map .struct := by
  have hnone : items.oneofs.find? (·.ident.text = name) = none := by
    rw [List.find?_eq_none]
    intro e he hname
    exact h (List.mem_map.2 ⟨e, he, by simpa using hname⟩)
  rw [resolve, hnone]

/-- The name of the struct of a message of the schema. -/
def structName (schema : Schema) (type : String) : String :=
  typeName (trimDots type) schema.package

/-- The struct of the message is in the generated module. -/
def IsLocal (options : Options) (schema : Schema) (type : String) : Prop :=
  trimDots type ∈ (Scope.ownMessages schema).map (·.name) ∧ ¬ options.IsExtern (trimDots type)

section Payload

variable {options : Options} {schema : Schema} {scope : Scope} {plans : List Plan}
  {all : List MessageItems}

/-- A read of a message of the schema has the name of its struct for a path. -/
theorem valueType_of_isLocal (hscope : Scope.ofSchema options schema = .ok scope)
    {message : Message} {field type : String} {read : Read} {value : Tokens}
    (hread : Read.ofKind scope message field (.message type) = .ok read)
    (hvalue : valueType read = .ok value) (hlocal : IsLocal options schema type) :
    ∃ path, Path.ofString? (structName schema type) = some path ∧ value = path.tokens := by
  have htype := (Scope.type?_eq_schema_iff hscope).2 ⟨hlocal.1, hlocal.2, rfl⟩
  obtain ⟨ref, href, rfl⟩ := Read.ofKind_message_eq_ok_iff.1 hread
  obtain ⟨-, info, hinfo, rfl⟩ := MessageRef.resolve_eq_ok_iff.1 href
  cases hinfo.symm.trans htype
  obtain ⟨path, hpath, hvalue⟩ := except_bind_eq_ok_iff.1 hvalue
  cases hvalue
  simp only [typePath] at hpath
  split at hpath
  · rename_i found hfound
    cases hpath
    exact ⟨path, hfound, rfl⟩
  · cases hpath

variable (hplans : schema.plans options = .ok plans)
  (hall : plans.mapM (MessageItems.ofPlan scope) = .ok all)
include hplans hall

/-- The struct that a name stands for outside of the module is that of the message so named, or
another that is defined elsewhere and named in full. -/
theorem exists_struct {type : String} (hlocal : IsLocal options schema type) :
    ∃ target ∈ all, all.find? (·.ident.text = structName schema type) = some target ∧
      (target.message = trimDots type ∨ schema.package ≠ "" ∧ options.IsExtern target.message) := by
  have hitems := mapM_eq_ok_iff.1 hall
  obtain ⟨hmem, hext⟩ := hlocal
  rw [← Schema.names_of_plans hplans] at hmem
  obtain ⟨plan, hplan, hmessage⟩ := List.mem_map.1 hmem
  have htype := Schema.typeName_of_mem hplans hplan
  rw [hmessage, if_neg hext] at htype
  have hsome : (all.find? (·.ident.text = structName schema type)).isSome = true := by
    rw [List.find?_isSome]
    obtain ⟨items, hmem, hof⟩ := exists_of_forall₂ hitems.flip hplan
    refine ⟨items, hmem, ?_⟩
    rw [(MessageItems.fits_ofPlan hof).text_ident, htype]
    exact decide_eq_true rfl
  obtain ⟨target, hfind⟩ := Option.isSome_iff_exists.1 hsome
  have htarget : target ∈ all := List.mem_of_find?_eq_some hfind
  have hname : target.ident.text = structName schema type := by
    simpa using List.find?_some hfind
  refine ⟨target, htarget, hfind, ?_⟩
  obtain ⟨other, hother, hof⟩ := exists_of_forall₂ hitems htarget
  have hfits := MessageItems.fits_ofPlan hof
  have hsame : other.typeName = plan.typeName := by
    rw [← hfits.text_ident, hname, htype, structName]
  rw [hfits.message]
  obtain heq | ⟨hpackage, hclash⟩ := Schema.clash_of_plans hplans hother hplan hsame
  · exact .inl (heq ▸ hmessage)
  · exact .inr ⟨hpackage, hclash.resolve_right (hmessage ▸ hext)⟩

end Payload

/-- A variant that holds a message of the schema is typed by the name of its struct. In the module of
the oneofs that name stands for an enum if it is the Pascal case of one of them, and for the struct
otherwise, unless a message that is defined elsewhere has it as well. -/
theorem payload_of_plans {options : Options} {schema : Schema} {scope : Scope} {plans : List Plan}
    {all : List MessageItems} (hscope : Scope.ofSchema options schema = .ok scope)
    (hplans : schema.plans options = .ok plans)
    (hall : plans.mapM (MessageItems.ofPlan scope) = .ok all)
    {message : Message} {plan : Plan} {items : MessageItems}
    (hplan : Plan.ofMessage scope message = .ok plan)
    (hitems : MessageItems.ofPlan scope plan = .ok items) {e : OneofEnum} (he : e ∈ items.oneofs) :
    List.Forall₂ (fun field variant =>
      ∀ type, field.kind = .message type → IsLocal options schema type →
        (∃ path, Path.ofString? (structName schema type) = some path ∧
          variant.type = if scope.isRecursive message.name field.name then boxed path.tokens
            else path.tokens) ∧
        ((∃ oneof ∈ message.oneofs, toPascal oneof = structName schema type) →
          ∃ enum ∈ items.oneofs, items.resolve all (structName schema type) = some (.enum enum)) ∧
        ((∀ oneof ∈ message.oneofs, toPascal oneof ≠ structName schema type) →
          ∃ target ∈ all, items.resolve all (structName schema type) = some (.struct target) ∧
            (target.message = trimDots type ∨
              schema.package ≠ "" ∧ options.IsExtern target.message)))
      (message.oneofMembers e.oneof) e.variants := by
  have hfits := MessageItems.fits_ofPlan hitems
  have henums := hfits.text_enums
  rw [Plan.oneofs_ofMessage hplan] at henums
  refine (hfits.members hplan he).imp fun field variant hvariant type hkind hlocal => ?_
  obtain ⟨read, value, hread, hvalue, htype⟩ := hvariant.type
  rw [hkind] at hread
  obtain ⟨path, hpath, rfl⟩ := valueType_of_isLocal hscope hread hvalue hlocal
  refine ⟨⟨path, hpath, htype⟩, fun hhides => ?_, fun hfree => ?_⟩
  · rw [MessageItems.exists_enum_iff, henums]
    exact List.mem_map.2 hhides
  · obtain ⟨target, htarget, hfind, hnamed⟩ := exists_struct hplans hall hlocal
    have hnone : structName schema type ∉ items.oneofs.map (·.ident.text) := by
      rw [henums]
      intro hin
      obtain ⟨oneof, hone, hsame⟩ := List.mem_map.1 hin
      exact hfree oneof hone hsame
    refine ⟨target, htarget, ?_, hnamed⟩
    rw [MessageItems.resolve_of_notMem hnone, hfind, Option.map_some]

/-- A oneof that is not named for the message in it. -/
theorem payload_of_plans_struct :
    let job : Message :=
      { name := "demo.Job"
        fields := [⟨"state", 1, .message "demo.Status", .oneof "outcome"⟩,
                   ⟨"code", 2, .scalar .int32, .oneof "outcome"⟩] }
    let schema : Schema := { package := "demo", messages := [{ name := "demo.Status" }, job] }
    ∃ scope plan plans all items target, Scope.ofSchema {} schema = .ok scope ∧
      schema.plans {} = .ok plans ∧ plans.mapM (MessageItems.ofPlan scope) = .ok all ∧
      Plan.ofMessage scope job = .ok plan ∧ MessageItems.ofPlan scope plan = .ok items ∧
      items.resolve all "Status" = some (.struct target) ∧ target.message = "demo.Status" := by
  intro job schema
  have hrun : ((Scope.ofSchema {} schema).toOption.bind fun scope =>
      (schema.plans {}).toOption.bind fun plans =>
        (plans.mapM (MessageItems.ofPlan scope)).toOption.bind fun all =>
          (Plan.ofMessage scope job).toOption.bind fun plan =>
            (MessageItems.ofPlan scope plan).toOption.bind fun items =>
              some (items.oneofs.map (·.oneof))) = some ["outcome"] := by
    rw [Scope.ofSchema_eq rfl, Schema.plans_eq rfl]
    decide +kernel
  have hlocal : IsLocal {} schema "demo.Status" :=
    ⟨show trimDots "demo.Status" ∈ _ by decide +kernel, List.not_mem_nil⟩
  have hname : structName schema "demo.Status" = "Status" := by decide +kernel
  have hfree : ∀ oneof ∈ job.oneofs, toPascal oneof ≠ structName schema "demo.Status" := by
    decide +kernel
  obtain ⟨scope, hscope, hrun⟩ := exists_ok_of_bind hrun
  obtain ⟨plans, hplans, hrun⟩ := exists_ok_of_bind hrun
  obtain ⟨all, hall, hrun⟩ := exists_ok_of_bind hrun
  obtain ⟨plan, hplan, hrun⟩ := exists_ok_of_bind hrun
  obtain ⟨items, hitems, hrun⟩ := exists_ok_of_bind hrun
  have hmem : "outcome" ∈ items.oneofs.map (·.oneof) := by
    rw [Option.some.inj hrun]
    exact List.mem_singleton_self _
  obtain ⟨e, he, hone⟩ := List.mem_map.1 hmem
  have hpayload := payload_of_plans hscope hplans hall hplan hitems he
  have hmembers : job.oneofMembers e.oneof = job.fields := by
    rw [hone]
    rfl
  rw [hmembers] at hpayload
  generalize e.variants = variants at hpayload
  cases hpayload with
  | cons hstate _ =>
    obtain ⟨target, -, hresolve, hmessage⟩ := (hstate "demo.Status" rfl hlocal).2.2 hfree
    have hmessage : target.message = "demo.Status" := by
      obtain hmessage | ⟨-, hextern⟩ := hmessage
      · rw [hmessage]
        decide +kernel
      · exact absurd hextern List.not_mem_nil
    exact ⟨scope, plan, plans, all, items, target, hscope, hplans, hall, hplan, hitems,
      hname ▸ hresolve, hmessage⟩

/-- The enum of a oneof hides the struct that a variant is to hold, and nothing is refused. -/
theorem payload_captured :
    let job : Message :=
      { name := "demo.Job"
        fields := [⟨"state", 1, .message "demo.Status", .oneof "status"⟩,
                   ⟨"code", 2, .scalar .int32, .oneof "status"⟩] }
    let schema : Schema := { package := "demo", messages := [{ name := "demo.Status" }, job] }
    (Module.ofSchema {} schema).toOption.isSome = true ∧
    ∃ scope plan plans all items enum, Scope.ofSchema {} schema = .ok scope ∧
      schema.plans {} = .ok plans ∧ plans.mapM (MessageItems.ofPlan scope) = .ok all ∧
      Plan.ofMessage scope job = .ok plan ∧ MessageItems.ofPlan scope plan = .ok items ∧
      all.map (·.ident.text) = ["Status", "Job"] ∧
      items.oneofs.map (fun e => e.variants.map fun v => (v.ident.text, v.type.text)) =
        [[("State", "Status"), ("Code", "i32")]] ∧
      items.resolve all "Status" = some (.enum enum) := by
  intro job schema
  have hrun : ((Scope.ofSchema {} schema).toOption.bind fun scope =>
      (schema.plans {}).toOption.bind fun plans =>
        (plans.mapM (MessageItems.ofPlan scope)).toOption.bind fun all =>
          (Plan.ofMessage scope job).toOption.bind fun plan =>
            (MessageItems.ofPlan scope plan).toOption.bind fun items =>
              some (all.map (·.ident.text), items.oneofs.map (·.ident.text),
                items.oneofs.map fun e => e.variants.map fun v => (v.ident.text, v.type.text))) =
      some (["Status", "Job"], ["Status"], [[("State", "Status"), ("Code", "i32")]]) := by
    rw [Scope.ofSchema_eq rfl, Schema.plans_eq rfl]
    decide +kernel
  obtain ⟨scope, hscope, hrun⟩ := exists_ok_of_bind hrun
  obtain ⟨plans, hplans, hrun⟩ := exists_ok_of_bind hrun
  obtain ⟨all, hall, hrun⟩ := exists_ok_of_bind hrun
  obtain ⟨plan, hplan, hrun⟩ := exists_ok_of_bind hrun
  obtain ⟨items, hitems, hrun⟩ := exists_ok_of_bind hrun
  simp only [Option.some.injEq, Prod.mk.injEq] at hrun
  obtain ⟨hstructs, henums, hvariants⟩ := hrun
  have hmem : "Status" ∈ items.oneofs.map (·.ident.text) := by
    rw [henums]
    exact List.mem_singleton_self _
  obtain ⟨enum, -, hresolve⟩ := MessageItems.exists_enum_iff.2 hmem
  refine ⟨?_, scope, plan, plans, all, items, enum, hscope, hplans, hall, hplan, hitems, hstructs,
    hvariants, hresolve⟩
  rw [Module.ofSchema, Scope.ofSchema_eq rfl]
  decide +kernel

end ProtoPlan.Source
