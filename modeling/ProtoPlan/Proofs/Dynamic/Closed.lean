import ProtoPlan.Proofs.Dynamic.Rules
import ProtoPlan.Proofs.Plan.TypeNames
import ProtoPlan.Proofs.Wire.Faults

/-!
References are closed. What a plan refers to was found in the scope that it was made in, so a name
for which a set has no plan is one that the options declare to be elsewhere. Every other name that a
run comes to has a plan, at any depth.
-/

namespace ProtoPlan

open Wire Schema Reader

/-- If the fault is a name without a plan, the name has the property. -/
def Wire.Fault.MissesOnly (missing : String → Prop) : Fault → Prop
  | .unknownMessage name => missing name
  | _ => True

namespace Dynamic

section Run

variable {missing : String → Prop} {nested : Nested}

theorem missesOnly_of_isPrimitive (fault : Fault) (h : fault.isPrimitive = true) :
    fault.MissesOnly missing := by
  cases fault
  case unknownMessage => cases h
  all_goals trivial

/-- What the readers of embedded messages do with the names among `references`. -/
def Nested.MissesOnly (nested : Nested) (missing : String → Prop) (references : List MessageRef) :
    Prop :=
  ∀ ref ∈ references, ∀ m, FailsWith (·.MissesOnly missing) (nested.message ref.name m)

namespace Nested

theorem missesOnly_value {read : Read} (h : nested.MissesOnly missing read.target?.toList)
    (field : String) : FailsWith (·.MissesOnly missing) (nested.value field read) := by
  cases read with
  | scalar kind => exact ((failsPlainly_scalar kind).mono missesOnly_of_isPrimitive).map
  | string => exact (FailsWith.text missesOnly_of_isPrimitive trivial).map
  | bytes => exact (failsPlainly_span.mono missesOnly_of_isPrimitive).map
  | message target => exact (h target List.mem_cons_self _).map

theorem missesOnly_store {rule : FieldRule} (h : nested.MissesOnly missing rule.read.target?.toList)
    (m : Message) : FailsWith (·.MissesOnly missing) (nested.store rule m) := by
  have hvalue := missesOnly_value h rule.name
  unfold Nested.store
  split
  · exact hvalue.map
  · rename_i target _ hread
    rw [hread] at h
    exact (h target List.mem_cons_self _).map
  · exact hvalue.map
  · exact hvalue.map

theorem missesOnly_plainField {rule : FieldRule}
    (h : nested.MissesOnly missing rule.read.target?.toList) (key : Key) (m : Message) :
    FailsWith (·.MissesOnly missing) (nested.plainField rule key m) := by
  unfold Nested.plainField
  split
  · have helements := FailsWith.drain
      (fun list => (missesOnly_value h rule.name).map (f := fun v => list ++ [v]))
      (m.list rule.number)
    exact FailsWith.delimited missesOnly_of_isPrimitive helements.map
  · exact (missesOnly_store h m).expect trivial

theorem missesOnly_side {side : EntrySide} (h : nested.MissesOnly missing side.read.target?.toList)
    (key : Key) (field : String) (slot : Value) :
    FailsWith (·.MissesOnly missing) (nested.side key side field slot) := by
  refine FailsWith.expect ?_ trivial
  split
  · rename_i target existing hread
    rw [hread] at h
    exact (h target List.mem_cons_self _).map
  · exact missesOnly_value h field

theorem missesOnly_entryFields {rule : MapRule}
    (h : nested.MissesOnly missing (Rule.map rule).references) (budget : Nat) :
    FailsWith (·.MissesOnly missing) (nested.entryFields budget rule) := by
  have hkey : nested.MissesOnly missing rule.key.read.target?.toList := fun ref href =>
    h ref (List.mem_append_left _ href)
  have hvalue : nested.MissesOnly missing rule.value.read.target?.toList := fun ref href =>
    h ref (List.mem_append_right _ href)
  refine FailsWith.fields missesOnly_of_isPrimitive _ ?_ _
  rintro ⟨number, framed⟩ ⟨k, v⟩ body hbody
  dsimp only at hbody
  split at hbody
  · cases hbody
    exact (missesOnly_side hkey _ _ _).map
  · cases hbody
    exact (missesOnly_side hvalue _ _ _).map
  · cases hbody

theorem missesOnly_apply {rule : Rule} (h : nested.MissesOnly missing rule.references)
    (hentry : ∀ entry, rule = .map entry → FailsWith (·.MissesOnly missing) (nested.entry entry))
    (key : Key) (m : Message) (seen : List Nat) :
    FailsWith (·.MissesOnly missing) (nested.apply rule key m seen) := by
  cases rule with
  | field rule => exact (missesOnly_plainField h key m).map
  | map rule =>
    refine FailsWith.map ?_
    rw [Nested.mapField_eq]
    exact (hentry rule rfl).map.expect trivial

end Nested

theorem missesOnly_mergeByPlan {plan : Plan}
    (h : ∀ rule ∈ plan.rules, ∀ key m seen,
      FailsWith (·.MissesOnly missing) (nested.apply rule key m seen))
    (budget : Nat) (m : Message) :
    FailsWith (·.MissesOnly missing) (mergeByPlan budget nested plan m) := by
  refine FailsWith.bind (FailsWith.fields missesOnly_of_isPrimitive _ ?_ _) fun state => ?_
  · rintro key ⟨m, seen⟩ body hbody
    obtain ⟨rule, hrule, rfl⟩ := Option.map_eq_some_iff.1 hbody
    exact h rule (List.mem_of_find?_eq_some hrule) key m seen
  · obtain ⟨m, seen⟩ := state
    dsimp only
    split
    · exact .pure _
    · exact .throw trivial

namespace DecoderSet

variable {set : DecoderSet}

/-- All that the plans of the set refer to has a plan or has the property. -/
def RefersWithin (set : DecoderSet) (missing : String → Prop) : Prop :=
  ∀ plan ∈ set.plans, ∀ ref ∈ plan.references,
    (set.planFor? ref.name).isSome = true ∨ missing ref.name

/-- A run fails for want of a plan only where a reference leads to a name that has none, however
deep the message is that holds the reference. -/
theorem RefersWithin.mergeWith (hset : set.RefersWithin missing) (budget : Nat) {name : String}
    (hname : (set.planFor? name).isSome = true ∨ missing name) (m : Message) :
    FailsWith (·.MissesOnly missing) (set.mergeWith budget (set.nested budget) name m) := by
  -- What is embedded in the message is read with a smaller budget.
  induction budget using Nat.strongRecOn generalizing name m with
  | ind budget ih =>
    have hrefer (plan : Plan) (hplan : plan ∈ set.plans) (lower : Nat) (hlower : lower ≤ budget)
        (rule : Rule) (hrule : rule ∈ plan.rules) :
        (set.nested lower).MissesOnly missing rule.references := by
      intro ref href m
      have hfound := hset plan hplan ref (List.mem_flatMap.2 ⟨rule, hrule, href⟩)
      rw [nested_message]
      refine FailsWith.nested missesOnly_of_isPrimitive fun below hbelow => ?_
      exact ih below (by omega) hfound m
    unfold DecoderSet.mergeWith
    split
    · rename_i plan hplan
      refine missesOnly_mergeByPlan (fun rule hrule => ?_) budget m
      rcases mem_of_planFor? hplan with hmem | rfl
      · refine Nested.missesOnly_apply (hrefer plan hmem budget (Nat.le_refl _) rule hrule) ?_
        rintro entry rfl
        rw [nested_entry]
        refine FailsWith.nested missesOnly_of_isPrimitive fun below hbelow => ?_
        exact Nested.missesOnly_entryFields (hrefer plan hmem below (by omega) _ hrule) below
      · cases hrule
    · rename_i hnone
      rw [hnone] at hname
      exact .throw (hname.resolve_left Bool.false_ne_true)

end DecoderSet

end Run

section Set

variable {options : Options} {schema : Schema} {set : DecoderSet}
  (hset : DecoderSet.ofSchema options schema = .ok set)
include hset

/-- The messages of the schema and all of the `google.protobuf` package have plans. -/
theorem DecoderSet.planFor?_isSome {name : String}
    (hname : WellKnown.isWellKnown name = true ∨ name ∈ schema.messages.map (·.name)) :
    (set.planFor? name).isSome = true := by
  cases hwell : WellKnown.isWellKnown name with
  | true =>
    unfold planFor?
    split
    · rfl
    · rw [if_pos hwell]
      rfl
  | false =>
    rw [hwell] at hname
    obtain ⟨message, hm, rfl⟩ := List.mem_map.1 (hname.resolve_left Bool.false_ne_true)
    obtain ⟨plan, hplan, -⟩ :=
      planFor?_of_declaration hset (declaration?_of_mem hset hm hwell)
    rw [hplan]
    rfl

/-- References to the `google.protobuf` package stay there, whatever is declared under their
names. -/
theorem DecoderSet.origin_of_wellKnown {plan : Plan} (hplan : plan ∈ set.plans) {ref : MessageRef}
    (href : ref ∈ plan.references) (hwell : WellKnown.isWellKnown ref.name = true) :
    ref.origin = .wellKnown := by
  obtain ⟨source, scope, message, -, hscope, hof⟩ := exists_ofMessage hset hplan
  obtain ⟨path, hfound⟩ := Scope.type?_of_wellKnown hscope hwell
  rw [Plan.type?_of_mem hof href] at hfound
  exact congrArg TypeInfo.origin (Option.some.inj hfound)

/-- All other references lead to messages of the schema, or to those that are declared to be
elsewhere. -/
theorem DecoderSet.isExtern_or_mem {plan : Plan} (hplan : plan ∈ set.plans) {ref : MessageRef}
    (href : ref ∈ plan.references) (hown : WellKnown.isWellKnown ref.name = false) :
    options.IsExtern ref.name ∨ ref.name ∈ schema.messages.map (·.name) := by
  obtain ⟨source, scope, message, hsource, hscope, hof⟩ := exists_ofMessage hset hplan
  have htype := Plan.type?_of_mem hof href
  by_cases hext : options.IsExtern ref.name
  · exact .inl hext
  · rw [Scope.type?_of_not_isExtern hscope hown hext] at htype
    split at htype
    · rename_i hmem
      obtain ⟨-, target, htarget, hname⟩ := Scope.mem_ownMessages_iff.1 hmem
      rcases hsource with rfl | rfl
      · exact .inr (List.mem_map.2 ⟨target, htarget, hname⟩)
      · rw [← hname, Schema.isWellKnown_of_mem htarget] at hown
        cases hown
    · cases htype

theorem DecoderSet.refersWithin_ofSchema :
    set.RefersWithin fun name => options.IsExtern name ∧ name ∉ schema.messages.map (·.name) ∧
      WellKnown.isWellKnown name = false := by
  intro plan hplan ref href
  cases hfound : (set.planFor? ref.name).isSome with
  | true => exact .inl rfl
  | false =>
    have hnone (hname : WellKnown.isWellKnown ref.name = true ∨
        ref.name ∈ schema.messages.map (·.name)) : False := by
      rw [planFor?_isSome hset hname] at hfound
      cases hfound
    have hown : WellKnown.isWellKnown ref.name = false :=
      Bool.eq_false_iff.2 fun hwell => hnone (.inl hwell)
    have hundeclared := fun hmem => hnone (.inr hmem)
    exact .inr ⟨(isExtern_or_mem hset hplan href hown).resolve_right hundeclared, hundeclared, hown⟩

end Set

/-- No run comes to a name without a plan, but for those that are declared to be elsewhere and are
nowhere else, and a reference into the `google.protobuf` package leads to what the runtime has. -/
theorem DecoderSet.closed_ofSchema {options : Options} {schema : Schema} {set : DecoderSet}
    (hset : DecoderSet.ofSchema options schema = .ok set) :
    (∀ name, WellKnown.isWellKnown name = true ∨ name ∈ schema.messages.map (·.name) →
      (∀ bytes missing, set.decode name bytes = .error (.unknownMessage missing) →
        options.IsExtern missing ∧ missing ∉ schema.messages.map (·.name) ∧
          WellKnown.isWellKnown missing = false) ∧
      ∀ budget m bytes missing,
        (set.mergeWith budget (set.nested budget) name m).run bytes =
          .error (.unknownMessage missing) →
        options.IsExtern missing ∧ missing ∉ schema.messages.map (·.name) ∧
          WellKnown.isWellKnown missing = false) ∧
    (options.externPaths.entries = [] →
      ∀ name, WellKnown.isWellKnown name = true ∨ name ∈ schema.messages.map (·.name) →
        ∀ bytes missing, set.decode name bytes ≠ .error (.unknownMessage missing)) ∧
    ∀ plan ∈ set.plans, ∀ ref ∈ plan.references, WellKnown.isWellKnown ref.name = true →
      ref.origin = .wellKnown := by
  have hmerge {name : String} (hname : WellKnown.isWellKnown name = true ∨
      name ∈ schema.messages.map (·.name)) (budget : Nat) (m : Message) :=
    (refersWithin_ofSchema hset).mergeWith budget (.inl (planFor?_isSome hset hname)) m
  refine ⟨fun name hname => ⟨fun bytes missing h => ?_, fun budget m bytes missing h => ?_⟩,
    fun hnone name hname bytes missing h => ?_, fun plan hplan ref href hwell => ?_⟩
  · exact (hmerge hname _ _).run h
  · exact (hmerge hname budget m).run h
  · obtain ⟨hext, -⟩ := (hmerge hname _ _).run h
    rw [Options.IsExtern, SortedMap.keys, hnone] at hext
    cases hext
  · exact origin_of_wellKnown hset hplan href hwell

/-- A message that is defined elsewhere, referred to from an entry of a map: the set has no plan for
it, and meets its name two levels deep. -/
theorem DecoderSet.closed_ofSchema_extern :
    let options := ({} : Options).externPath "demo.A" "::ext::A"
    let schema : Schema :=
      { package := "demo"
        messages := [{ name := "demo.B", fields := [.map "a" 1 .string (.message ".demo.A")] }] }
    ∃ set, DecoderSet.ofSchema options schema = .ok set ∧
      set.decode "demo.B" [0x0a, 2, 0x12, 0] = .error (.unknownMessage "demo.A") ∧
      options.IsExtern "demo.A" ∧ "demo.A" ∉ schema.messages.map (·.name) := by
  intro options schema
  have hfault : ((DecoderSet.ofSchema options schema).toOption.map fun set =>
      match set.decode "demo.B" [0x0a, 2, 0x12, 0] with
      | .error fault => some fault
      | .ok _ => none) = some (some (.unknownMessage "demo.A")) := by
    rw [DecoderSet.ofSchema, Schema.allPlans, Schema.plans_eq rfl, Scope.ofSchema_eq rfl]
    decide +kernel
  obtain ⟨set, hset, hfault⟩ := exists_ok_of_map hfault
  have hdecode : set.decode "demo.B" [0x0a, 2, 0x12, 0] = .error (.unknownMessage "demo.A") := by
    split at hfault
    · rename_i fault hrun
      rw [hrun, Option.some.inj hfault]
    · cases hfault
  obtain ⟨hext, hundeclared, -⟩ :=
    ((DecoderSet.closed_ofSchema hset).1 "demo.B" (.inr List.mem_cons_self)).1 _ _ hdecode
  exact ⟨set, hset, hdecode, hext, hundeclared⟩

end Dynamic

end ProtoPlan
