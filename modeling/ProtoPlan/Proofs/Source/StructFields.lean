import Mathlib.Data.List.Duplicate
import ProtoPlan.Proofs.Plan.Causes
import ProtoPlan.Proofs.Source.Item

/-!
Struct fields. Planning lists the names that the struct of a message is going to have, and refuses
the message if one of them stands there twice; the struct that is declared has just these.
-/

namespace ProtoPlan

open Code Schema

section Collision

theorem Plan.duplicate_of_firstRepeated? {seen names : List String} {name : String}
    (h : firstRepeated? seen names = some name) :
    name ∈ names ∧ (name ∈ seen ∨ List.Duplicate name names) := by
  induction names generalizing seen with
  | nil => cases h
  | cons first rest ih =>
    rw [firstRepeated?] at h
    split at h
    · rename_i hseen
      obtain rfl := Option.some.inj h
      exact ⟨List.mem_cons_self, .inl hseen⟩
    · obtain ⟨hmem, hlater⟩ := ih h
      refine ⟨List.mem_cons_of_mem first hmem, ?_⟩
      obtain hseen | hdup := hlater
      · obtain rfl | hseen := List.mem_cons.1 hseen
        · exact .inr (.cons_mem hmem)
        · exact .inl hseen
      · exact .inr (hdup.duplicate_cons first)

/-- A message is refused for the names of its struct fields only if one stands twice. -/
theorem Plan.duplicate_of_ofMessage {scope : Scope} {message : Message} {owner name : String}
    (h : ofMessage scope message = .error (.fieldNameCollision owner name)) :
    owner = message.name ∧ List.Duplicate name (message.slots scope.options) := by
  have hcollision : (PlanError.fieldNameCollision owner name).SparesFields := trivial
  rw [ofMessage] at h
  cases hcheck : checkNumbers message [] message.fields with
  | error e =>
    rw [hcheck] at h
    cases h
    exact absurd hcollision (avoids_checkNumbers [] message.fields _ hcheck)
  | ok =>
    rw [hcheck] at h
    cases hrules : rulesOf scope message 0 message.fields with
    | error e =>
      rw [hrules] at h
      cases h
      exact absurd hcollision (avoids_rulesOf 0 message.fields _ hrules)
    | ok rules =>
      rw [hrules] at h
      have hslots (plan : Plan) (hplan : plan.rules = rules)
          (hranges : plan.extensionRanges = message.extensionRanges)
          (hpreserve : plan.preserveUnknown = scope.options.preserveUnknown) :
          plan.structFields = message.slots scope.options :=
        structFields_eq (hplan ▸ hrules) hranges hpreserve
      dsimp only [Bind.bind, Except.bind] at h
      split at h
      · rename_i repeated hrepeated
        cases h
        obtain ⟨-, hseen | hdup⟩ := duplicate_of_firstRepeated? hrepeated
        · exact absurd hseen List.not_mem_nil
        · rw [hslots] at hdup
          · exact ⟨rfl, hdup⟩
          all_goals rfl
      · cases h

end Collision

section Names

/-- The name that the struct field of a field is made of. -/
def Schema.Field.slotName (field : Field) : String := field.oneof?.getD field.name

theorem Schema.exists_of_mem_slots {oneofs : List String} {fields : List Field} {slot : String}
    (h : slot ∈ slots oneofs fields) : ∃ field ∈ fields, slot = fieldName field.slotName := by
  induction fields generalizing oneofs with
  | nil => cases h
  | cons field fields ih =>
    have hlater {oneofs : List String} (h : slot ∈ slots oneofs fields) :
        ∃ other ∈ field :: fields, slot = fieldName other.slotName := by
      obtain ⟨other, hother, hslot⟩ := ih h
      exact ⟨other, List.mem_cons_of_mem field hother, hslot⟩
    rw [slots] at h
    split at h
    · rename_i oneof hone
      split at h
      · exact hlater h
      · obtain rfl | h := List.mem_cons.1 h
        · exact ⟨field, List.mem_cons_self, by rw [Field.slotName, hone]; rfl⟩
        · exact hlater h
    · rename_i hone
      obtain rfl | h := List.mem_cons.1 h
      · exact ⟨field, List.mem_cons_self, by rw [Field.slotName, hone]; rfl⟩
      · exact hlater h

/-- The struct fields of a message are named for its fields and oneofs, or for what they keep. -/
theorem Message.exists_of_mem_slots {options : Options} {message : Message} {slot : String}
    {P : String → Prop} (hfields : ∀ field ∈ message.fields, P field.slotName)
    (hunknown : P "unknown_fields") (hextensions : P "extensions")
    (h : slot ∈ message.slots options) : ∃ name, slot = fieldName name ∧ P name := by
  rw [slots, List.mem_append, List.mem_append] at h
  obtain (hslot | hslot) | hslot := h
  · obtain ⟨field, hmem, hname⟩ := Schema.exists_of_mem_slots hslot
    exact ⟨field.slotName, hname, hfields field hmem⟩
  · split at hslot
    · exact ⟨"unknown_fields", by rw [List.mem_singleton.1 hslot]; decide +kernel, hunknown⟩
    · cases hslot
  · split at hslot
    · cases hslot
    · exact ⟨"extensions", by rw [List.mem_singleton.1 hslot]; decide +kernel, hextensions⟩

/-- Raw marks tell no two such identifiers apart. -/
theorem Code.fieldName_congr {first second : String} {i j : Ident}
    (hfirst : '#' ∉ first.toList) (hsecond : '#' ∉ second.toList)
    (hi : Ident.ofString? (fieldName first) = some i)
    (hj : Ident.ofString? (fieldName second) = some j) (hname : i.name = j.name) :
    fieldName first = fieldName second := by
  rw [fieldName, escape_of_ofString? (hash_notMem_toSnake hfirst) hi, fieldName,
    escape_of_ofString? (hash_notMem_toSnake hsecond) hj, hname]

end Names

namespace Source

theorem MessageItems.Fits.nodup_fields {plan : Plan} {items : MessageItems} (h : Fits plan items)
    (hnodup : plan.structFields.Nodup) : (items.fields.map (·.ident)).Nodup := by
  refine List.Nodup.of_map Ident.text ?_
  rw [List.map_map]
  exact h.text_fields ▸ hnodup

/-- In a struct whose field names have no number sign, no two names are alike but for the mark of
raw identifiers. -/
theorem MessageItems.Fits.nodup_names {plan : Plan} {items : MessageItems} (h : Fits plan items)
    (hnodup : plan.structFields.Nodup)
    (hnames : ∀ slot ∈ plan.structFields, ∃ name, slot = fieldName name ∧ '#' ∉ name.toList) :
    (items.fields.map (·.ident.name)).Nodup := by
  have hslot {field : Member} (hfield : field ∈ items.fields) :
      ∃ name, field.ident.text = fieldName name ∧ '#' ∉ name.toList ∧
        Ident.ofString? (fieldName name) = some field.ident := by
    obtain ⟨slot, hmem, hnamed⟩ := exists_of_forall₂ h.fields hfield
    obtain ⟨name, rfl, hhash⟩ := hnames slot hmem
    exact ⟨name, Ident.text_of_ofString? hnamed, hhash, hnamed⟩
  have htexts : (items.fields.map (·.ident.text)).Nodup := h.text_fields ▸ hnodup
  refine List.Nodup.map_on ?_ (List.Nodup.of_map _ htexts)
  intro first hfirst second hsecond hsame
  obtain ⟨name, htext, hhash, hi⟩ := hslot hfirst
  obtain ⟨name', htext', hhash', hj⟩ := hslot hsecond
  refine List.inj_on_of_nodup_map htexts hfirst hsecond ?_
  rw [htext, htext', fieldName_congr hhash hhash' hi hj hsame]

/-- The struct of a message declares just the names that planning has found distinct: one for each
field outside of oneofs, one for each oneof at its first member, and those that keep what is not
declared. A message is refused for them only if one stands twice. -/
theorem structFields_ofMessage (scope : Scope) (message : Message) :
    (∀ plan, Plan.ofMessage scope message = .ok plan →
      plan.structFields = message.slots scope.options ∧ plan.structFields.Nodup ∧
      ∀ scope' items, MessageItems.ofPlan scope' plan = .ok items →
        items.fields.map (·.ident.text) = plan.structFields ∧
        (items.fields.map (·.ident)).Nodup ∧
        ((∀ field ∈ message.fields, '#' ∉ field.slotName.toList) →
          (items.fields.map (·.ident.name)).Nodup)) ∧
    ∀ owner name, Plan.ofMessage scope message = .error (.fieldNameCollision owner name) →
      owner = message.name ∧ List.Duplicate name (message.slots scope.options) := by
  refine ⟨fun plan hplan => ?_, fun owner name => Plan.duplicate_of_ofMessage⟩
  obtain ⟨-, hrules, hnone, hshape⟩ := Plan.ofMessage_eq_ok_iff.1 hplan
  have hslots : plan.structFields = message.slots scope.options :=
    Plan.structFields_eq hrules (by rw [hshape]) (by rw [hshape])
  have hnodup := (Plan.firstRepeated?_eq_none_iff.1 hnone).1
  refine ⟨hslots, hnodup, fun scope' items hitems => ?_⟩
  have hfits := MessageItems.fits_ofPlan hitems
  refine ⟨hfits.text_fields, hfits.nodup_fields hnodup, fun hhash => ?_⟩
  refine hfits.nodup_names hnodup fun slot hslot => ?_
  exact Message.exists_of_mem_slots hhash (by decide) (by decide) (hslots ▸ hslot)

/-- A message with a oneof whose members are apart, and one of which two fields have one name. -/
theorem structFields_ofMessage_clash :
    let message : Message :=
      { name := "demo.M"
        fields := [.singular "type" 1 .string, ⟨"size", 2, .scalar .int32, .oneof "pick"⟩,
                   .map "byName" 3 .string .bytes, ⟨"name", 4, .string, .oneof "pick"⟩]
        extensionRanges := [⟨100, 200⟩] }
    let refused : Message :=
      { name := "demo.N", fields := [.singular "fooBar" 1 .string, .singular "foo_bar" 2 .string] }
    ∃ scope plan items, Plan.ofMessage scope message = .ok plan ∧
      MessageItems.ofPlan scope plan = .ok items ∧
      items.fields.map (·.ident.text) =
        ["r#type", "pick", "by_name", "unknown_fields", "extensions"] ∧
      (items.fields.map (·.ident.name)).Nodup ∧
      Plan.ofMessage scope refused = .error (.fieldNameCollision "demo.N" "foo_bar") ∧
      List.Duplicate "foo_bar" (refused.slots scope.options) := by
  intro message refused
  have hrun : ((Scope.ofSchema {} {}).toOption.bind fun scope =>
      (Plan.ofMessage scope message).toOption.bind fun plan =>
        (MessageItems.ofPlan scope plan).toOption.bind fun items =>
          some (items.fields.map (·.ident.text), Plan.ofMessage scope refused)) =
      some (["r#type", "pick", "by_name", "unknown_fields", "extensions"],
        .error (.fieldNameCollision "demo.N" "foo_bar")) := by
    rw [Scope.ofSchema_eq rfl]
    decide +kernel
  have hhash : ∀ field ∈ message.fields, '#' ∉ field.slotName.toList := by decide +kernel
  obtain ⟨scope, -, hrun⟩ := exists_ok_of_bind hrun
  obtain ⟨plan, hplan, hrun⟩ := exists_ok_of_bind hrun
  obtain ⟨items, hitems, hrun⟩ := exists_ok_of_bind hrun
  obtain ⟨hnames, hrefused⟩ := Prod.mk.inj (Option.some.inj hrun)
  have hfields := (structFields_ofMessage scope message).1 plan hplan
  have hclash := (structFields_ofMessage scope refused).2 _ _ hrefused
  exact ⟨scope, plan, items, hplan, hitems, hnames, (hfields.2.2 scope items hitems).2.2 hhash,
    hrefused, hclash.2⟩

end Source

end ProtoPlan
