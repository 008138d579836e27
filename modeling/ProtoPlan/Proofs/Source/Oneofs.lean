import ProtoPlan.Proofs.Plan.TypeNames
import ProtoPlan.Proofs.Source.Item
import ProtoPlan.Source.Module

/-!
Names of the items of oneofs. The module is named for the struct, the enums for the oneofs and the
variants for the members; none of these names is compared with another when a message is planned.
Where all names are written in the usual way they are distinct; otherwise they may be merged, and an
enum may take the name of a struct that one of its variants holds.
-/

namespace ProtoPlan.Source

open Code Schema Text

section Distinct

variable {scope : Scope} {message : Message} {plan : Plan} {items : MessageItems}
  (hplan : Plan.ofMessage scope message = .ok plan) (hfits : MessageItems.Fits plan items)
include hplan hfits

theorem MessageItems.Fits.enums_ofMessage :
    items.oneofs.map (·.ident.text) = message.oneofs.map toPascal := by
  rw [hfits.text_enums, Plan.oneofs_ofMessage hplan]

theorem MessageItems.Fits.variants_ofMessage {e : OneofEnum} (he : e ∈ items.oneofs) :
    e.variants.map (·.ident.text) = (message.oneofMembers e.oneof).map (toPascal ·.name) :=
  map_eq_of_forall₂ (hfits.members hplan he) fun _ _ hvariant =>
    Ident.text_of_ofString? hvariant.named

theorem MessageItems.Fits.nodup_enums (hsnake : ∀ oneof ∈ message.oneofs, IsSnake oneof) :
    (items.oneofs.map (·.ident.text)).Nodup := by
  have hdistinct : message.oneofs.Nodup := by
    rw [← Plan.oneofs_ofMessage hplan]
    exact Rule.nodup_oneofs plan.rules
  rw [hfits.enums_ofMessage hplan]
  exact hdistinct.map_on fun first hfirst second hsecond =>
    toPascal_inj (hsnake first hfirst) (hsnake second hsecond)

theorem MessageItems.Fits.nodup_variants {e : OneofEnum} (he : e ∈ items.oneofs)
    (hsnake : ∀ member ∈ message.oneofMembers e.oneof, IsSnake member.name)
    (hdistinct : ((message.oneofMembers e.oneof).map (·.name)).Nodup) :
    (e.variants.map (·.ident.text)).Nodup := by
  rw [hfits.variants_ofMessage hplan he]
  refine (List.Nodup.of_map _ hdistinct).map_on fun first hfirst second hsecond hsame => ?_
  have hname := toPascal_inj (hsnake first hfirst) (hsnake second hsecond) hsame
  exact List.inj_on_of_nodup_map hdistinct hfirst hsecond hname

end Distinct

/-- The enums of a message are named for its oneofs and the variants for their members. Of names in
snake case none are merged, and neither are modules of structs whose words are told apart by
capitals, unless two structs have one name. -/
theorem oneofNames_of_plans {options : Options} {schema : Schema} {plans : List Plan}
    (hplans : schema.plans options = .ok plans) (scope : Scope) :
    (∀ first ∈ plans, ∀ second ∈ plans, ∀ items items',
      MessageItems.ofPlan scope first = .ok items → MessageItems.ofPlan scope second = .ok items' →
      IsCamel first.typeName → IsCamel second.typeName →
      items.oneofModule.text = items'.oneofModule.text →
      first = second ∨ schema.package ≠ "" ∧
        (options.IsExtern first.message ∨ options.IsExtern second.message)) ∧
    ∀ message plan, Plan.ofMessage scope message = .ok plan →
      ∀ items, MessageItems.ofPlan scope plan = .ok items →
      items.oneofModule.text = moduleName plan.typeName ∧
      items.oneofs.map (·.ident.text) = message.oneofs.map toPascal ∧
      ((∀ oneof ∈ message.oneofs, IsSnake oneof) → (items.oneofs.map (·.ident.text)).Nodup) ∧
      ∀ e ∈ items.oneofs,
        e.variants.map (·.ident.text) = (message.oneofMembers e.oneof).map (toPascal ·.name) ∧
        ((∀ member ∈ message.oneofMembers e.oneof, IsSnake member.name) →
          ((message.oneofMembers e.oneof).map (·.name)).Nodup →
          (e.variants.map (·.ident.text)).Nodup) := by
  constructor
  · intro first hfirst second hsecond items items' hitems hitems' hcamel hcamel' hsame
    rw [(MessageItems.fits_ofPlan hitems).text_oneofModule,
      (MessageItems.fits_ofPlan hitems').text_oneofModule] at hsame
    exact Schema.clash_of_plans hplans hfirst hsecond (moduleName_inj hcamel hcamel' hsame)
  · intro message plan hplan items hitems
    have hfits := MessageItems.fits_ofPlan hitems
    exact ⟨hfits.text_oneofModule, hfits.enums_ofMessage hplan, hfits.nodup_enums hplan,
      fun e he => ⟨hfits.variants_ofMessage hplan he, hfits.nodup_variants hplan he⟩⟩

/-- Two messages with oneofs, all names written in the usual way. -/
theorem oneofNames_of_plans_snake :
    let server : Message :=
      { name := "demo.HttpServer"
        fields := [⟨"a_b", 1, .string, .oneof "foo_bar"⟩, ⟨"ab", 2, .bytes, .oneof "foo_bar"⟩,
                   ⟨"c", 3, .string, .oneof "foobar"⟩] }
    let pair : Message :=
      { name := "demo.HttpServerPair"
        fields := [⟨"d", 1, .message "demo.HttpServer", .oneof "pick"⟩] }
    ∃ scope first second items items',
      Schema.plans {} { package := "demo", messages := [server, pair] } = .ok [first, second] ∧
      MessageItems.ofPlan scope first = .ok items ∧
      MessageItems.ofPlan scope second = .ok items' ∧
      items.oneofModule.text ≠ items'.oneofModule.text ∧
      (items.oneofs.map (·.ident.text)).Nodup ∧
      ∀ e ∈ items.oneofs, (e.variants.map (·.ident.text)).Nodup := by
  intro server pair
  have hrun : ((Scope.ofSchema {} { package := "demo", messages := [server, pair] }).toOption.bind
      fun scope => (Plan.ofMessage scope server).toOption.bind fun first =>
        (Plan.ofMessage scope pair).toOption.bind fun second =>
          (Schema.plans {} { package := "demo", messages := [server, pair] }).toOption.bind
            fun plans => (MessageItems.ofPlan scope first).toOption.bind fun items =>
              (MessageItems.ofPlan scope second).toOption.bind fun _ =>
                some (decide (plans = [first, second]), first.typeName, second.typeName,
                  items.oneofs.map (·.oneof))) =
      some (true, "HttpServer", "HttpServerPair", ["foo_bar", "foobar"]) := by
    rw [Scope.ofSchema_eq rfl, Schema.plans_eq rfl]
    decide +kernel
  obtain ⟨scope, -, hrun⟩ := exists_ok_of_bind hrun
  obtain ⟨first, hfirst, hrun⟩ := exists_ok_of_bind hrun
  obtain ⟨second, -, hrun⟩ := exists_ok_of_bind hrun
  obtain ⟨plans, hplans, hrun⟩ := exists_ok_of_bind hrun
  obtain ⟨items, hitems, hrun⟩ := exists_ok_of_bind hrun
  obtain ⟨items', hitems', hrun⟩ := exists_ok_of_bind hrun
  simp only [Option.some.injEq, Prod.mk.injEq, decide_eq_true_eq] at hrun
  obtain ⟨rfl, htype, htype', honeofs⟩ := hrun
  obtain ⟨hmodules, hnames⟩ := oneofNames_of_plans hplans scope
  obtain ⟨-, -, henums, hvariants⟩ := hnames server first hfirst items hitems
  refine ⟨scope, first, second, items, items', hplans, hitems, hitems', fun hsame => ?_,
    henums (by decide +kernel), fun e he => ?_⟩
  · obtain heq | ⟨-, hextern⟩ := hmodules first (by simp) second (by simp) items items' hitems
      hitems' (by rw [htype]; decide) (by rw [htype']; decide) hsame
    · rw [heq, htype'] at htype
      exact absurd htype (by decide)
    · obtain hextern | hextern := hextern
      · exact absurd hextern List.not_mem_nil
      · exact absurd hextern List.not_mem_nil
  · have hone : e.oneof ∈ ["foo_bar", "foobar"] := honeofs ▸ List.mem_map_of_mem he
    have hmembers : ∀ oneof ∈ ["foo_bar", "foobar"],
        (∀ member ∈ server.oneofMembers oneof, IsSnake member.name) ∧
        ((server.oneofMembers oneof).map (·.name)).Nodup := by decide +kernel
    obtain ⟨hsnake, hdistinct⟩ := hmembers e.oneof hone
    exact (hvariants e he).2 hsnake hdistinct

/-- Names that are written in other ways are merged, and nothing is refused. -/
theorem oneofNames_clash :
    let server : Message :=
      { name := "demo.HTTPServer"
        fields := [⟨"a_b", 1, .string, .oneof "foo_bar"⟩, ⟨"aB", 2, .bytes, .oneof "foo_bar"⟩,
                   ⟨"c", 3, .string, .oneof "foo__bar"⟩] }
    let other : Message :=
      { name := "demo.HttpServer", fields := [⟨"d", 1, .string, .oneof "pick"⟩] }
    let schema : Schema := { package := "demo", messages := [server, other] }
    (Module.ofSchema {} schema).toOption.isSome = true ∧
    ∃ scope plans all, Scope.ofSchema {} schema = .ok scope ∧ schema.plans {} = .ok plans ∧
      plans.mapM (MessageItems.ofPlan scope) = .ok all ∧
      all.map (·.oneofModule.text) = ["http_server", "http_server"] ∧
      all.map (fun items => items.oneofs.map fun e =>
        (e.ident.text, e.variants.map (·.ident.text))) =
        [[("FooBar", ["AB", "AB"]), ("FooBar", ["C"])], [("Pick", ["D"])]] := by
  intro server other schema
  have hrun : ((Scope.ofSchema {} schema).toOption.bind fun scope =>
      (schema.plans {}).toOption.bind fun plans =>
        (plans.mapM (MessageItems.ofPlan scope)).toOption.bind fun all =>
          some (all.map (·.oneofModule.text), all.map fun items => items.oneofs.map fun e =>
            (e.ident.text, e.variants.map (·.ident.text)))) =
      some (["http_server", "http_server"],
        [[("FooBar", ["AB", "AB"]), ("FooBar", ["C"])], [("Pick", ["D"])]]) := by
    rw [Scope.ofSchema_eq rfl, Schema.plans_eq rfl]
    decide +kernel
  obtain ⟨scope, hscope, hrun⟩ := exists_ok_of_bind hrun
  obtain ⟨plans, hplans, hrun⟩ := exists_ok_of_bind hrun
  obtain ⟨all, hall, hrun⟩ := exists_ok_of_bind hrun
  obtain ⟨hmodules, hnames⟩ := Prod.mk.inj (Option.some.inj hrun)
  refine ⟨?_, scope, plans, all, hscope, hplans, hall, hmodules, hnames⟩
  rw [Module.ofSchema, Scope.ofSchema_eq rfl]
  decide +kernel

end ProtoPlan.Source
