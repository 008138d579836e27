import ProtoPlan.Proofs.Plan.Message

/-!
The types that a scope tells of. Those of `google.protobuf` are in the runtime whatever a schema or
the options say; of all others those that are declared to be elsewhere are, and those of the schema
are in the generated module.
-/

namespace ProtoPlan

open Schema

/-- The message is declared to be defined elsewhere. -/
def Options.IsExtern (options : Options) (name : String) : Prop :=
  name ∈ options.externPaths.keys

instance (options : Options) (name : String) : Decidable (options.IsExtern name) :=
  inferInstanceAs (Decidable (name ∈ options.externPaths.keys))

theorem Options.isExtern_iff {options : Options} {name : String} :
    options.IsExtern name ↔ ∃ path, (name, path) ∈ options.externPaths.entries := by
  simp [IsExtern, SortedMap.keys]

namespace Scope

variable {options : Options} {schema : Schema}

theorem wellKnownTypes_eq_some {name : String} {info : TypeInfo}
    (h : (wellKnownTypes options).get? name = some info) :
    WellKnown.isWellKnown name = true ∧ info.origin = .wellKnown := by
  have hfold (messages : List Message) (types : SortedMap String TypeInfo)
      (hmessages : ∀ message ∈ messages, WellKnown.isWellKnown message.name = true)
      (htypes : ∀ info, types.get? name = some info →
        WellKnown.isWellKnown name = true ∧ info.origin = .wellKnown) :
      ∀ info, (messages.foldl (fun types m => types.insert m.name (runtimeType options m.shortName))
        types).get? name = some info →
          WellKnown.isWellKnown name = true ∧ info.origin = .wellKnown := by
    induction messages generalizing types with
    | nil => exact htypes
    | cons m messages ih =>
      obtain ⟨hm, hmessages⟩ := List.forall_mem_cons.1 hmessages
      refine ih _ hmessages fun info hinfo => ?_
      rw [SortedMap.get?_insert] at hinfo
      split at hinfo
      · rename_i hname
        cases hinfo
        exact ⟨hname ▸ hm, rfl⟩
      · exact htypes info hinfo
  exact hfold WellKnown.messages {} (fun _ => Schema.isWellKnown_of_mem)
    (fun _ hinfo => absurd hinfo (by simp)) info h

theorem get?_addOwnTypes {package : String} {named : SortedMap String String}
    {types types' : SortedMap String TypeInfo} {messages : List Message}
    (h : addOwnTypes package named types messages = .ok types') (name : String) :
    types'.get? name = if name ∈ messages.map (·.name) then
      some ⟨Code.typeName name package, .schema⟩ else types.get? name := by
  induction messages generalizing named types with
  | nil =>
    cases h
    simp
  | cons first rest ih =>
    rw [addOwnTypes] at h
    split at h
    · cases h
    · rw [ih h, SortedMap.get?_insert, List.map_cons]
      by_cases hrest : name ∈ rest.map (·.name)
      · rw [if_pos hrest, if_pos (List.mem_cons_of_mem _ hrest)]
      · by_cases hfirst : name = first.name
        · simp [hfirst]
        · simp [hrest, hfirst]

/-- Of the types outside of `google.protobuf`, just those that are declared to be elsewhere are
replaced. -/
theorem get?_addExternTypes (options : Options) (types : SortedMap String TypeInfo)
    {name : String} (hown : WellKnown.isWellKnown name = false) :
    (options.IsExtern name ∧
      ∃ path, (addExternTypes options types).get? name = some ⟨path, .external⟩) ∨
    (¬ options.IsExtern name ∧ (addExternTypes options types).get? name = types.get? name) := by
  unfold addExternTypes Options.IsExtern SortedMap.keys
  generalize options.externPaths.entries = entries
  induction entries generalizing types with
  | nil => simp
  | cons entry entries ih =>
    obtain ⟨key, path⟩ := entry
    rw [List.foldl_cons, List.map_cons, List.mem_cons]
    dsimp only
    by_cases hkey : name = key
    · subst hkey
      rw [hown, if_neg Bool.false_ne_true]
      refine .inl ⟨.inl rfl, ?_⟩
      rcases ih (types.insert name ⟨path, .external⟩) with ⟨-, hlater⟩ | ⟨-, hlast⟩
      · exact hlater
      · rw [SortedMap.get?_insert, if_pos rfl] at hlast
        exact ⟨path, hlast⟩
    · have hget : (if WellKnown.isWellKnown key then types
          else types.insert key ⟨path, .external⟩).get? name = types.get? name := by
        split
        · rfl
        · rw [SortedMap.get?_insert, if_neg hkey]
      have hlater := ih (if WellKnown.isWellKnown key then types
        else types.insert key ⟨path, .external⟩)
      rw [hget] at hlater
      simpa [hkey] using hlater

theorem get?_addExternTypes_wellKnown (options : Options)
    (types : SortedMap String TypeInfo) {name : String}
    (hwell : WellKnown.isWellKnown name = true) :
    (addExternTypes options types).get? name = types.get? name := by
  unfold addExternTypes
  generalize options.externPaths.entries = entries
  induction entries generalizing types with
  | nil => rfl
  | cons entry entries ih =>
    obtain ⟨key, path⟩ := entry
    rw [List.foldl_cons, ih]
    dsimp only
    split
    · rfl
    · rename_i hown
      rw [SortedMap.get?_insert, if_neg]
      intro heq
      exact hown (heq ▸ hwell)

theorem mem_ownMessages_iff {name : String} :
    name ∈ (ownMessages schema).map (·.name) ↔
      WellKnown.isWellKnown name = false ∧ ∃ message ∈ schema.messages, message.name = name := by
  rw [List.mem_map]
  constructor
  · intro h
    obtain ⟨message, hm, rfl⟩ := h
    obtain ⟨hm, hown⟩ := List.mem_filter.1 hm
    exact ⟨by simpa using hown, message, hm, rfl⟩
  · intro h
    obtain ⟨hown, message, hm, rfl⟩ := h
    exact ⟨message, List.mem_filter.2 ⟨hm, by simp [hown]⟩, rfl⟩

section Types

variable {scope : Scope} (h : ofSchema options schema = .ok scope) {name : String}
include h

theorem type?_of_wellKnown (hwell : WellKnown.isWellKnown name = true) :
    ∃ path, scope.type? name = some ⟨path, .wellKnown⟩ := by
  obtain ⟨runtime, errorType, types, -, -, htypes, rfl⟩ := ofSchema_eq_ok_iff.1 h
  have hforeign : name ∉ (ownMessages schema).map (·.name) := by
    intro hmem
    rw [(mem_ownMessages_iff.1 hmem).1] at hwell
    cases hwell
  rw [type?, get?_addExternTypes_wellKnown options types hwell, get?_addOwnTypes htypes,
    if_neg hforeign]
  cases hget : (wellKnownTypes options).get? name with
  | none => exact ⟨_, if_pos hwell⟩
  | some info =>
    obtain ⟨-, horigin⟩ := wellKnownTypes_eq_some hget
    exact ⟨info.path, by rw [← horigin]⟩

variable (hown : WellKnown.isWellKnown name = false)
include hown

theorem type?_of_isExtern (hext : options.IsExtern name) :
    ∃ path, scope.type? name = some ⟨path, .external⟩ := by
  obtain ⟨runtime, errorType, types, -, -, -, rfl⟩ := ofSchema_eq_ok_iff.1 h
  rcases get?_addExternTypes options types hown with ⟨-, path, hpath⟩ | ⟨hnot, -⟩
  · exact ⟨path, by rw [type?, hpath]⟩
  · exact absurd hext hnot

theorem type?_of_not_isExtern (hext : ¬ options.IsExtern name) :
    scope.type? name = if name ∈ (ownMessages schema).map (·.name) then
      some ⟨Code.typeName name schema.package, .schema⟩ else none := by
  obtain ⟨runtime, errorType, types, -, -, htypes, rfl⟩ := ofSchema_eq_ok_iff.1 h
  have hnone : (wellKnownTypes options).get? name = none := by
    cases hget : (wellKnownTypes options).get? name with
    | none => rfl
    | some info =>
      obtain ⟨hwell, -⟩ := wellKnownTypes_eq_some hget
      rw [hown] at hwell
      cases hwell
  rcases get?_addExternTypes options types hown with ⟨hyes, -⟩ | ⟨-, hsame⟩
  · exact absurd hyes hext
  · rw [type?, hsame, get?_addOwnTypes htypes, hnone]
    by_cases hmem : name ∈ (ownMessages schema).map (·.name) <;> simp [hmem, hown]

end Types

/-- The types that stand in the generated module are those of the schema's own messages that are
not defined elsewhere, each named inside the package. -/
theorem type?_eq_schema_iff {scope : Scope} (h : ofSchema options schema = .ok scope)
    {name path : String} :
    scope.type? name = some ⟨path, .schema⟩ ↔ name ∈ (ownMessages schema).map (·.name) ∧
      ¬ options.IsExtern name ∧ path = Code.typeName name schema.package := by
  cases hwell : WellKnown.isWellKnown name with
  | true =>
    obtain ⟨runtimePath, htype⟩ := type?_of_wellKnown h hwell
    simp [htype, mem_ownMessages_iff, hwell]
  | false =>
    by_cases hext : options.IsExtern name
    · obtain ⟨externPath, htype⟩ := type?_of_isExtern h hwell hext
      simp [htype, hext]
    · rw [type?_of_not_isExtern h hwell hext]
      by_cases hmem : name ∈ (ownMessages schema).map (·.name)
      · simp only [hmem, hext, if_true, Option.some.injEq, TypeInfo.mk.injEq, and_true,
          not_false_eq_true, true_and]
        exact eq_comm
      · simp [hmem]

end Scope

end ProtoPlan
