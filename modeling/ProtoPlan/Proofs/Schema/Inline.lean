import ProtoPlan.Proofs.Data.List
import ProtoPlan.Schema.Inline
import Mathlib.Data.List.Chain
import Mathlib.Data.List.Perm.Subperm
import Mathlib.Logic.Relation

/-!
Which fields lead back to their own message. The search for them enters no message twice on its way;
nothing is lost by that, since a chain of references that meets a message twice can be cut short.
-/

namespace ProtoPlan.Schema

/-- The field holds a value of the message `target` inside the message that it belongs to. -/
structure Field.Holds (field : Field) (target : String) : Prop where
  notRepeated : field.cardinality ≠ .repeated
  notMap : ∀ key value, field.cardinality ≠ .map key value
  kind : ∃ type, field.kind = .message type ∧ trimDots type = target

theorem Field.inlineTarget?_eq_some_iff {field : Field} {target : String} :
    field.inlineTarget? = some target ↔ field.Holds target := by
  obtain ⟨name, number, kind, cardinality⟩ := field
  constructor
  · intro h
    refine ⟨?_, ?_, ?_⟩
    · rintro rfl
      cases kind <;> cases h
    · rintro key value rfl
      cases kind <;> cases h
    · cases kind with
      | message type =>
        refine ⟨type, rfl, ?_⟩
        cases cardinality <;> simp_all [inlineTarget?, isInline]
      | _ => cases cardinality <;> simp [inlineTarget?, isInline] at h
  · intro h
    obtain ⟨hrepeated, hmap, type, rfl, rfl⟩ := h
    cases cardinality <;> simp_all [inlineTarget?, isInline]

/-- A message of the schema holds a value of the other in one of its fields. -/
def HoldsInline (schema : Schema) (name target : String) : Prop :=
  ∃ message ∈ schema.messages, message.name = name ∧ ∃ field ∈ message.fields, field.Holds target

section Refs

variable {schema : Schema}

theorem mem_inlineRefs_iff (hnames : (schema.messages.map (·.name)).Nodup)
    {name field target : String} :
    (field, target) ∈ schema.inlineRefs name ↔ ∃ message ∈ schema.messages, message.name = name ∧
      ∃ f ∈ message.fields, f.name = field ∧ f.Holds target := by
  constructor
  · intro h
    unfold inlineRefs at h
    split at h
    · rename_i message hfind
      obtain ⟨f, hf, htarget⟩ := List.mem_filterMap.1 h
      obtain ⟨found, hfound, heq⟩ := Option.map_eq_some_iff.1 htarget
      cases heq
      exact ⟨message, List.mem_reverse.1 (List.mem_of_find?_eq_some hfind),
        by simpa using List.find?_some hfind, f, hf, rfl, Field.inlineTarget?_eq_some_iff.1 hfound⟩
    · cases h
  · intro h
    obtain ⟨m, hm, rfl, f, hf, rfl, hholds⟩ := h
    have hlast : schema.messages.reverse.find? (·.name = m.name) = some m := by
      rw [← List.nodup_reverse, ← List.map_reverse] at hnames
      exact find?_key hnames (List.mem_reverse.2 hm)
    rw [inlineRefs, hlast]
    exact List.mem_filterMap.2
      ⟨f, hf, by rw [Field.inlineTarget?_eq_some_iff.2 hholds, Option.map_some]⟩

theorem holdsInline_iff (hnames : (schema.messages.map (·.name)).Nodup) {name target : String} :
    schema.HoldsInline name target ↔ ∃ field, (field, target) ∈ schema.inlineRefs name := by
  constructor
  · intro h
    obtain ⟨message, hm, hname, field, hf, hholds⟩ := h
    exact ⟨field.name, (mem_inlineRefs_iff hnames).2 ⟨message, hm, hname, field, hf, rfl, hholds⟩⟩
  · intro h
    obtain ⟨field, href⟩ := h
    obtain ⟨message, hm, hname, f, hf, -, hholds⟩ := (mem_inlineRefs_iff hnames).1 href
    exact ⟨message, hm, hname, f, hf, hholds⟩

end Refs

section Search

variable {schema : Schema} {start : String}

/-- Where a chain leads, one leads that meets nothing twice. -/
theorem exists_simple_chain {r : α → α → Prop} {a b : α} (h : Relation.ReflTransGen r a b) :
    ∃ rest, List.IsChain r (a :: rest) ∧ (a :: rest).Nodup ∧ b ∈ (a :: rest).getLast? := by
  induction h using Relation.ReflTransGen.head_induction_on with
  | refl => exact ⟨[], .singleton b, List.nodup_singleton b, rfl⟩
  | @head a c hac _ ih =>
    obtain ⟨rest, hchain, hnodup, hlast⟩ := ih
    by_cases hmem : a ∈ c :: rest
    · -- The chain comes by `a` again: what follows there is enough.
      obtain ⟨before, after, hsplit⟩ := List.append_of_mem hmem
      rw [hsplit] at hchain hnodup hlast
      refine ⟨after, hchain.right_of_append, hnodup.of_append_right, ?_⟩
      simpa using hlast
    · refine ⟨c :: rest, ?_, List.nodup_cons.2 ⟨hmem, hnodup⟩, ?_⟩
      · exact List.isChain_cons_cons.2 ⟨hac, hchain⟩
      · simpa using hlast

theorem of_mem_closingFields (hnames : (schema.messages.map (·.name)).Nodup) {steps : Nat}
    {path : List String} {current : String} {ref : FieldRef}
    (h : ref ∈ schema.closingFields start steps path current) :
    (ref.field, start) ∈ schema.inlineRefs ref.message ∧
      Relation.ReflTransGen schema.HoldsInline current ref.message := by
  induction steps generalizing path current with
  | zero => cases h
  | succ steps ih =>
    obtain ⟨⟨field, target⟩, href, h⟩ := List.mem_flatMap.1 h
    dsimp only at h
    split at h
    · rename_i heq
      obtain rfl : ref = ⟨current, field⟩ := by simpa using h
      exact ⟨heq ▸ href, .refl⟩
    · split at h
      · cases h
      · obtain ⟨hclosing, hleads⟩ := ih h
        exact ⟨hclosing, hleads.head ((holdsInline_iff hnames).2 ⟨field, href⟩)⟩

/-- The search follows every chain of fresh messages, given steps enough. -/
theorem mem_closingFields_of_chain (hnames : (schema.messages.map (·.name)).Nodup)
    {rest : List String} {current last field : String}
    (hchain : List.IsChain schema.HoldsInline (current :: rest)) (hnodup : rest.Nodup)
    (hlast : last ∈ (current :: rest).getLast?) (href : (field, start) ∈ schema.inlineRefs last)
    {steps : Nat} (hsteps : rest.length < steps) {path : List String} (hstart : start ∈ path)
    (hfresh : ∀ name ∈ rest, name ∉ path) :
    ⟨last, field⟩ ∈ schema.closingFields start steps path current := by
  induction rest generalizing current steps path with
  | nil =>
    obtain ⟨steps, rfl⟩ := Nat.exists_eq_succ_of_ne_zero (by omega : steps ≠ 0)
    obtain rfl : current = last := by simpa using hlast
    exact List.mem_flatMap.2 ⟨(field, start), href, by simp⟩
  | cons next rest ih =>
    obtain ⟨steps, rfl⟩ := Nat.exists_eq_succ_of_ne_zero (by omega : steps ≠ 0)
    obtain ⟨hnext, hchain⟩ := List.isChain_cons_cons.1 hchain
    obtain ⟨through, hthrough⟩ := (holdsInline_iff hnames).1 hnext
    obtain ⟨hnot, hnodup⟩ := List.nodup_cons.1 hnodup
    have hpath : next ∉ path := hfresh next List.mem_cons_self
    have hne : next ≠ start := by
      intro heq
      exact hpath (heq ▸ hstart)
    refine List.mem_flatMap.2 ⟨(through, next), hthrough, ?_⟩
    dsimp only
    rw [if_neg hne, if_neg hpath]
    apply ih hchain hnodup
    · simpa using hlast
    · simpa using hsteps
    · exact List.mem_cons_of_mem next hstart
    · intro name hmem hin
      rcases List.mem_cons.1 hin with rfl | hin
      · exact hnot hmem
      · exact hfresh name (List.mem_cons_of_mem next hmem) hin

end Search

section Recursive

variable {schema : Schema}

/-- All messages of a chain of references that does not end with the last are declared. -/
theorem mem_names_of_chain {names : List String} (hchain : List.IsChain schema.HoldsInline names)
    {last target : String} (hlast : last ∈ names.getLast?)
    (hholds : schema.HoldsInline last target) : names ⊆ schema.messages.map (·.name) := by
  have hdeclared {name target : String} (hholds : schema.HoldsInline name target) :
      name ∈ schema.messages.map (·.name) := by
    obtain ⟨message, hm, rfl, -⟩ := hholds
    exact List.mem_map_of_mem hm
  induction names with
  | nil => exact List.nil_subset _
  | cons name rest ih =>
    cases rest with
    | nil =>
      obtain rfl : name = last := by simpa using hlast
      exact List.cons_subset.2 ⟨hdeclared hholds, List.nil_subset _⟩
    | cons next rest =>
      obtain ⟨hnext, hchain⟩ := List.isChain_cons_cons.1 hchain
      exact List.cons_subset.2 ⟨hdeclared hnext, ih hchain (by simpa using hlast)⟩

/-- The recursive fields are those whose target is, or leads back to, their message. -/
theorem mem_recursiveFields_iff (hnames : (schema.messages.map (·.name)).Nodup)
    {message field : String} :
    ⟨message, field⟩ ∈ schema.recursiveFields ↔
      ∃ m ∈ schema.messages, m.name = message ∧ ∃ f ∈ m.fields, f.name = field ∧
        ∃ target, f.Holds target ∧ Relation.ReflTransGen schema.HoldsInline target message := by
  simp only [recursiveFields, List.mem_eraseDups, List.mem_flatMap]
  constructor
  · intro h
    obtain ⟨start, -, hmem⟩ := h
    obtain ⟨href, hleads⟩ := of_mem_closingFields hnames hmem
    obtain ⟨m, hm, hname, f, hf, hfield, hholds⟩ := (mem_inlineRefs_iff hnames).1 href
    exact ⟨m, hm, hname, f, hf, hfield, start.name, hholds, hleads⟩
  · intro h
    obtain ⟨m, hm, hname, f, hf, hfield, target, hholds, hleads⟩ := h
    have href : (field, target) ∈ schema.inlineRefs message :=
      (mem_inlineRefs_iff hnames).2 ⟨m, hm, hname, f, hf, hfield, hholds⟩
    obtain ⟨rest, hchain, hnodup, hlast⟩ := exists_simple_chain hleads
    have hsubset := mem_names_of_chain hchain hlast ⟨m, hm, hname, f, hf, hholds⟩
    have hlength : (target :: rest).length ≤ (schema.messages.map (·.name)).length :=
      (List.subperm_of_subset hnodup hsubset).length_le
    obtain ⟨start, hstart, rfl⟩ := List.mem_map.1 (hsubset List.mem_cons_self)
    obtain ⟨hnot, hrest⟩ := List.nodup_cons.1 hnodup
    refine ⟨start, hstart, mem_closingFields_of_chain hnames hchain hrest hlast href ?_
      List.mem_cons_self ?_⟩
    · simp only [List.length_cons, List.length_map] at hlength
      omega
    · intro name hmem heq
      rw [List.mem_singleton.1 heq] at hmem
      exact hnot hmem

end Recursive

end ProtoPlan.Schema
