import ProtoPlan.Proofs.Plan.Message
import ProtoPlan.Proofs.Schema.Inline
import Mathlib.Data.Set.Card
import Mathlib.Data.Set.Finite.List

/-!
Boxed fields. A message field is boxed just where its message leads back to the one it belongs to,
so that the generated structs that are held without a box never close a cycle, and the size of each
is finite.
-/

namespace ProtoPlan

open Schema

/-- Whether the values of the store are boxed; only messages and members of oneofs ever are. -/
def Store.boxed? : Store → Option Bool
  | merge boxed | select _ _ boxed => some boxed
  | set | setOptional | append => none

/-- The message of the schema whose struct the field holds without a box. -/
def FieldRule.unboxed? (rule : FieldRule) : Option String :=
  match rule.store.boxed?, rule.read with
  | some false, .message target => if target.origin = .schema then some target.name else none
  | _, _ => none

def Rule.unboxed? : Rule → Option String
  | field rule => rule.unboxed?
  | map _ => none

namespace Plan

/-- The messages whose structs the struct of the plan holds without a box, once for each field. -/
def unboxed (plan : Plan) : List String := plan.rules.filterMap (·.unboxed?)

/-- The struct of the one message holds that of the other without a box. -/
def HoldsUnboxed (plans : List Plan) (name target : String) : Prop :=
  ∃ plan ∈ plans, plan.message = name ∧ target ∈ plan.unboxed

end Plan

theorem FieldRule.unboxed?_eq_some_iff {rule : FieldRule} {target : String} :
    rule.unboxed? = some target ↔ rule.store.boxed? = some false ∧
      ∃ ref, rule.read = .message ref ∧ ref.origin = .schema ∧ ref.name = target := by
  unfold unboxed?
  split
  · rename_i ref hboxed hread
    by_cases horigin : ref.origin = .schema <;> simp [hboxed, hread, horigin]
  · rename_i hother
    simp only [reduceCtorEq, false_iff, not_and]
    intro hboxed hread
    obtain ⟨ref, hread, -⟩ := hread
    exact hother ref hboxed hread

section Rules

variable {scope : Scope} {message : Message} {field : Field} {bit : Option Nat}

theorem FieldRule.boxed_ofField {rule : FieldRule} {boxed : Bool}
    (h : Rule.ofField scope message field bit = .ok (.field rule))
    (hb : rule.store.boxed? = some boxed) :
    boxed = scope.isRecursive message.name field.name := by
  obtain ⟨layout, -, hrule⟩ := Rule.ofField_eq_ok_iff.1 h
  cases hrule with
  | field hstore =>
    dsimp only at hb
    generalize layout.storage = storage at hstore
    cases storage <;> cases hstore <;> cases hb
    all_goals rfl

/-- A store that may box is one of a field that holds its value inline. -/
theorem FieldRule.Fits.holds {rule : FieldRule} (h : FieldRule.Fits field bit rule) {boxed : Bool}
    (hb : rule.store.boxed? = some boxed) {ref : MessageRef} (hread : rule.read = .message ref) :
    field.Holds ref.name := by
  have hr := h.read
  have hs := h.store
  rw [hread] at hr
  generalize hkind : field.kind = kind at hr
  cases hr with
  | message hname =>
    have hinline : field.isInline = true := by
      generalize rule.store = store at hs hb
      cases hs with
      | append => cases hb
      | select hc => simp [Field.isInline, hc]
      | merge hin => exact hin
      | set hin _ _ hset => exact hin
    exact ⟨Field.cardinality_ne_repeated hinline, Field.cardinality_ne_map hinline, _, hkind,
      hname.symm⟩

end Rules

/-- Where each thing is deeper than its parts, there are totals of all their parts. -/
theorem exists_total {parts : α → List α} {depth : α → Nat}
    (h : ∀ a, ∀ b ∈ parts a, depth b < depth a) :
    ∃ total : α → Nat, ∀ a, total a = 1 + ((parts a).map total).sum := by
  refine ⟨(measure depth).wf.fix fun a total =>
    1 + ((parts a).attach.map fun b => total b.1 (h a b.1 b.2)).sum, fun a => ?_⟩
  rw [WellFounded.fix_eq]
  simp only [List.map_attach_eq_pmap, List.pmap_eq_map]

/-- The number of messages of the schema that a message leads to. -/
noncomputable def Schema.depth (schema : Schema) (name : String) : Nat :=
  {other ∈ schema.messages.map (·.name) |
    Relation.ReflTransGen schema.HoldsInline name other}.ncard

section Schema

variable {options : Options} {schema : Schema} {plans : List Plan}
  (h : schema.plans options = .ok plans)
include h

/-- Each rule is that of a field of a message of the schema, and boxes the recursive fields. -/
theorem Schema.exists_field {plan : Plan} (hplan : plan ∈ plans) {rule : FieldRule}
    (hrule : .field rule ∈ plan.rules) :
    ∃ message ∈ schema.messages, message.name = plan.message ∧ ∃ field ∈ message.fields,
      (∃ bit, FieldRule.Fits field bit rule) ∧
      ∀ boxed, rule.store.boxed? = some boxed →
        (boxed = true ↔ ⟨message.name, field.name⟩ ∈ schema.recursiveFields) := by
  obtain ⟨scope, hscope, hplans⟩ := Schema.plans_eq_ok_iff.1 h
  obtain ⟨message, hm, hof⟩ := exists_of_forall₂ hplans hplan
  obtain ⟨field, hf, bit, hfield⟩ := exists_of_forall₂ (Plan.rules_ofMessage hof) hrule
  refine ⟨message, (List.mem_filter.1 hm).1, (Plan.fits_ofMessage hof).1.name.symm, field, hf, ?_,
    ?_⟩
  · cases Rule.fits_ofField hfield with
    | field hfits => exact ⟨bit, hfits⟩
  · intro boxed hboxed
    rw [FieldRule.boxed_ofField hfield hboxed, Scope.isRecursive, Scope.recursive_ofSchema hscope,
      decide_eq_true_iff]

/-- What a struct holds without a box, a field of its message holds that is not recursive. -/
theorem Schema.exists_unboxed {name target : String}
    (hholds : Plan.HoldsUnboxed plans name target) :
    ∃ message ∈ schema.messages, message.name = name ∧ ∃ field ∈ message.fields,
      field.Holds target ∧ ⟨message.name, field.name⟩ ∉ schema.recursiveFields := by
  obtain ⟨plan, hplan, rfl, hmem⟩ := hholds
  obtain ⟨rule, hrule, hunboxed⟩ := List.mem_filterMap.1 hmem
  cases rule with
  | map rule => cases hunboxed
  | field rule =>
    obtain ⟨hboxed, ref, hread, -, rfl⟩ := FieldRule.unboxed?_eq_some_iff.1 hunboxed
    obtain ⟨message, hm, hname, field, hf, ⟨bit, hfits⟩, hrecursive⟩ :=
      Schema.exists_field h hplan hrule
    refine ⟨message, hm, hname, field, hf, hfits.holds hboxed hread, fun hmem => ?_⟩
    cases (hrecursive false hboxed).2 hmem

theorem Schema.holdsInline_of_unboxed {name target : String}
    (hholds : Plan.HoldsUnboxed plans name target) : schema.HoldsInline name target := by
  obtain ⟨message, hm, hname, field, hf, hheld, -⟩ := Schema.exists_unboxed h hholds
  exact ⟨message, hm, hname, field, hf, hheld⟩

/-- Of the plans each is found by the name of its message. -/
theorem Schema.find?_plans {plan : Plan} (hplan : plan ∈ plans) :
    plans.find? (·.message = plan.message) = some plan := by
  obtain ⟨scope, hscope, hplans⟩ := Schema.plans_eq_ok_iff.1 h
  have hsame : plans.map (·.message) = (Scope.ownMessages schema).map (·.name) :=
    map_eq_of_forall₂ hplans fun message plan hof => (Plan.fits_ofMessage hof).1.name
  apply find?_key _ hplan
  rw [hsame]
  exact Scope.names_ofSchema hscope

variable (hnames : (schema.messages.map (·.name)).Nodup)
include hnames

/-- What is held without a box does not lead back. -/
theorem Schema.not_reflTransGen_of_unboxed {name target : String}
    (hholds : Plan.HoldsUnboxed plans name target) :
    ¬ Relation.ReflTransGen schema.HoldsInline target name := by
  obtain ⟨message, hm, rfl, field, hf, hheld, hother⟩ := Schema.exists_unboxed h hholds
  intro hleads
  exact hother ((mem_recursiveFields_iff hnames).2
    ⟨message, hm, rfl, field, hf, rfl, target, hheld, hleads⟩)

theorem Schema.acyclic_unboxed (name : String) :
    ¬ Relation.TransGen (Plan.HoldsUnboxed plans) name name := by
  intro hcycle
  obtain ⟨target, hholds, hleads⟩ := Relation.TransGen.head'_iff.1 hcycle
  apply Schema.not_reflTransGen_of_unboxed h hnames hholds
  exact Relation.ReflTransGen.mono (fun _ _ => Schema.holdsInline_of_unboxed h) _ _ hleads

/-- A message leads to more messages than one that it holds without a box: to itself. -/
theorem Schema.depth_lt {name target : String} (hholds : Plan.HoldsUnboxed plans name target) :
    schema.depth target < schema.depth name := by
  have hinline := Schema.holdsInline_of_unboxed h hholds
  have hback := Schema.not_reflTransGen_of_unboxed h hnames hholds
  have hfinite : {other ∈ schema.messages.map (·.name) |
      Relation.ReflTransGen schema.HoldsInline name other}.Finite := by
    apply (schema.messages.map (·.name)).finite_toSet.subset
    exact Set.sep_subset _ _
  apply Set.ncard_lt_ncard _ hfinite
  constructor
  · intro other hother
    exact ⟨hother.1, hother.2.head hinline⟩
  · intro hsubset
    obtain ⟨message, hm, hname, -⟩ := hinline
    have hself := @hsubset name ⟨hname ▸ List.mem_map_of_mem hm, .refl⟩
    exact hback hself.2

/-- Of a message that the schema declares with its fields under distinct names, just the values
that lead back to it are boxed. -/
theorem Schema.boxed_iff
    (hfields : ∀ message ∈ schema.messages, (message.fields.map (·.name)).Nodup)
    {plan : Plan} (hplan : plan ∈ plans) {rule : FieldRule} (hrule : .field rule ∈ plan.rules)
    {boxed : Bool} (hboxed : rule.store.boxed? = some boxed) :
    boxed = true ↔ ∃ ref, rule.read = .message ref ∧
      Relation.ReflTransGen schema.HoldsInline ref.name plan.message := by
  obtain ⟨message, hm, hname, field, hf, ⟨bit, hfits⟩, hrecursive⟩ :=
    Schema.exists_field h hplan hrule
  rw [hrecursive boxed hboxed, ← hname, mem_recursiveFields_iff hnames]
  constructor
  · intro hmem
    obtain ⟨message', hm', hsame, field', hf', hsame', target, hholds, hleads⟩ := hmem
    have heq : message' = message := List.inj_on_of_nodup_map hnames hm' hm hsame
    subst heq
    have heq' : field' = field := List.inj_on_of_nodup_map (hfields _ hm) hf' hf hsame'
    subst heq'
    obtain ⟨type, hkind, rfl⟩ := hholds.kind
    have hread := hfits.read
    rw [hkind] at hread
    generalize rule.read = read at hread
    cases hread with
    | @message _ ref hname' => exact ⟨ref, rfl, hname' ▸ hleads⟩
  · intro hleads
    obtain ⟨ref, hread, hleads⟩ := hleads
    exact ⟨message, hm, rfl, field, hf, rfl, ref.name, hfits.holds hboxed hread, hleads⟩

/-- There are sizes for the structs: each is that of all it holds without a box, and one. -/
theorem Schema.exists_sizes : ∃ size : String → Nat, ∀ plan ∈ plans,
    size plan.message = 1 + (plan.unboxed.map size).sum := by
  let held (name : String) : List String :=
    ((plans.find? (·.message = name)).map (·.unboxed)).getD []
  have hheld (plan : Plan) (hplan : plan ∈ plans) : held plan.message = plan.unboxed := by
    simp [held, Schema.find?_plans h hplan]
  have hdepth (name target : String) (hmem : target ∈ held name) :
      schema.depth target < schema.depth name := by
    cases hfind : plans.find? (·.message = name) with
    | none => simp [held, hfind] at hmem
    | some plan =>
      apply Schema.depth_lt h hnames
      refine ⟨plan, List.mem_of_find?_eq_some hfind, by simpa using List.find?_some hfind, ?_⟩
      simpa [held, hfind] using hmem
  obtain ⟨size, hsize⟩ := exists_total hdepth
  refine ⟨size, fun plan hplan => ?_⟩
  rw [hsize, hheld plan hplan]

end Schema

/-- The recursive fields are just the inline fields whose target is, or leads back to, their
message. In the plans of the schema they are boxed, and nothing else is; that is enough for the
structs not to hold themselves, and to have a size each. -/
theorem Schema.recursiveFields_boxed {schema : Schema}
    (hnames : (schema.messages.map (·.name)).Nodup)
    (hfields : ∀ message ∈ schema.messages, (message.fields.map (·.name)).Nodup) :
    (∀ message field, ⟨message, field⟩ ∈ schema.recursiveFields ↔
      ∃ m ∈ schema.messages, m.name = message ∧ ∃ f ∈ m.fields, f.name = field ∧
        ∃ target, f.Holds target ∧ Relation.ReflTransGen schema.HoldsInline target message) ∧
    ∀ options plans, schema.plans options = .ok plans →
      (∀ name, ¬ Relation.TransGen (Plan.HoldsUnboxed plans) name name) ∧
      (∃ size : String → Nat, ∀ plan ∈ plans,
        size plan.message = 1 + (plan.unboxed.map size).sum) ∧
      ∀ plan ∈ plans, ∀ rule, .field rule ∈ plan.rules →
        ∀ boxed, rule.store.boxed? = some boxed →
          (boxed = true ↔ ∃ ref, rule.read = .message ref ∧
            Relation.ReflTransGen schema.HoldsInline ref.name plan.message) := by
  constructor
  · intro message field
    exact mem_recursiveFields_iff hnames
  · intro options plans h
    refine ⟨Schema.acyclic_unboxed h hnames, Schema.exists_sizes h hnames, ?_⟩
    intro plan hplan rule hrule boxed hboxed
    exact Schema.boxed_iff h hnames hfields hplan hrule hboxed

/-- Two messages hold each other, one of them in a oneof, and both hold a third; a list closes no
cycle. -/
theorem Schema.recursiveFields_boxed_oneof :
    let schema : Schema :=
      { messages := [{ name := "A", fields := [.singular "b" 1 (.message ".B"),
                                               .singular "c" 2 (.message "C"),
                                               ⟨"list", 3, .message "A", .repeated⟩] },
                     { name := "B", fields := [⟨"a", 1, .message "A", .oneof "pick"⟩,
                                               .singular "c" 2 (.message "C")] },
                     { name := "C" }] }
    (∃ m ∈ schema.messages, m.name = "A" ∧ ∃ f ∈ m.fields, f.name = "b" ∧
        ∃ target, f.Holds target ∧ Relation.ReflTransGen schema.HoldsInline target "A") ∧
      ∃ plans, schema.plans {} = .ok plans ∧ plans.map (·.unboxed) = [["C"], ["C"], []] ∧
        ∀ name, ¬ Relation.TransGen (Plan.HoldsUnboxed plans) name name := by
  intro schema
  obtain ⟨hiff, hplans⟩ := @Schema.recursiveFields_boxed schema (by decide) (by decide)
  have hmem : ⟨"A", "b"⟩ ∈ schema.recursiveFields := by decide +kernel
  have hheld : ((schema.plans {}).toOption.map fun plans => plans.map (·.unboxed)) =
      some [["C"], ["C"], []] := by
    rw [Schema.plans_eq rfl]
    decide +kernel
  obtain ⟨plans, hrun, hheld⟩ := exists_ok_of_map hheld
  exact ⟨(hiff "A" "b").1 hmem, plans, hrun, hheld, (hplans {} plans hrun).1⟩

end ProtoPlan
