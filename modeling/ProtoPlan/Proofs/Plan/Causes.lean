import ProtoPlan.Proofs.Plan.Fits
import ProtoPlan.Plan.OfMessage

/-!
Causes that a computation does not fail for. Before the struct fields of a message are named,
nothing fails because two of them have one name; and nothing ever fails because a field is kept as a
map that is not declared as one.
-/

namespace ProtoPlan

open Schema

section Avoids

variable {α β : Type} {cause : PlanError → Prop}

/-- If it fails, then not for that cause. -/
def Avoids (cause : PlanError → Prop) (x : Except PlanError α) : Prop :=
  ∀ e, x = .error e → ¬ cause e

theorem avoids_ok (a : α) : Avoids cause (.ok a) := nofun

theorem avoids_error {e : PlanError} (h : ¬ cause e) :
    Avoids cause (.error e : Except PlanError α) := by
  intro e' heq
  cases heq
  exact h

theorem Avoids.mono {cause' : PlanError → Prop} {x : Except PlanError α} (hx : Avoids cause x)
    (h : ∀ e, cause' e → cause e) : Avoids cause' x :=
  fun e heq hcause => hx e heq (h e hcause)

theorem Avoids.bind {x : Except PlanError α} {f : α → Except PlanError β}
    (hx : Avoids cause x) (hf : ∀ a, x = .ok a → Avoids cause (f a)) :
    Avoids cause (x >>= f) := by
  cases x with
  | error e =>
    intro e' heq
    cases heq
    exact hx e rfl
  | ok a => exact hf a rfl

theorem Avoids.map {x : Except PlanError α} (hx : Avoids cause x) (f : α → β) :
    Avoids cause (x.map f) := by
  cases x with
  | error e =>
    intro e' heq
    cases heq
    exact hx e rfl
  | ok a => exact avoids_ok (f a)

theorem avoids_mapM {f : α → Except PlanError β} {xs : List α}
    (h : ∀ x ∈ xs, Avoids cause (f x)) : Avoids cause (xs.mapM f) := by
  induction xs with
  | nil => exact avoids_ok []
  | cons x xs ih =>
    rw [List.forall_mem_cons] at h
    rw [List.mapM_cons]
    refine h.1.bind fun y _ => (ih h.2).bind fun ys _ => ?_
    exact avoids_ok (y :: ys)

theorem avoids_foldlM {f : β → α → Except PlanError β} {xs : List α}
    (h : ∀ b, ∀ x ∈ xs, Avoids cause (f b x)) (b : β) : Avoids cause (xs.foldlM f b) := by
  induction xs generalizing b with
  | nil => exact avoids_ok b
  | cons x xs ih =>
    rw [List.foldlM_cons]
    refine (h b x List.mem_cons_self).bind fun b' _ => ?_
    exact ih (fun b x hx => h b x (List.mem_cons_of_mem _ hx)) b'

theorem avoids_filterMapM {f : α → Except PlanError (Option β)} {xs : List α}
    (h : ∀ x ∈ xs, Avoids cause (f x)) : Avoids cause (xs.filterMapM f) := by
  induction xs with
  | nil => exact avoids_ok []
  | cons x xs ih =>
    rw [List.forall_mem_cons] at h
    rw [List.filterMapM_cons]
    refine h.1.bind fun y _ => ?_
    cases y with
    | none => exact ih h.2
    | some y => exact (ih h.2).bind fun ys _ => avoids_ok (y :: ys)

end Avoids

/-- No single field is refused for this cause: names are compared elsewhere, and a map is asked for
only where one is declared. -/
def PlanError.SparesFields : PlanError → Prop
  | .typeNameCollision .. | .fieldNameCollision .. | .malformedCode | .invalidIdentifier _ => True
  | .invalidMapEntry _ _ fault => fault = .missing
  | _ => False

section Planning

variable {scope : Scope} {message : Message}

theorem MessageRef.avoids_resolve (field type : String) :
    Avoids PlanError.SparesFields (resolve scope message field type) := by
  rw [resolve]
  split
  · exact avoids_error (by simp [PlanError.SparesFields])
  · split
    · exact avoids_error (by simp [PlanError.SparesFields])
    · exact avoids_ok _

theorem Read.avoids_ofKind (field : String) (kind : Kind) :
    Avoids PlanError.SparesFields (ofKind scope message field kind) := by
  cases kind with
  | scalar | string | bytes => exact avoids_ok _
  | message type => exact (MessageRef.avoids_resolve field type).map Read.message
  | group => exact avoids_error (by simp [PlanError.SparesFields])

theorem EntrySide.avoids_ofField (field : String) (layout : Layout) (side : Field) :
    Avoids PlanError.SparesFields (ofField scope message field layout side) :=
  (Read.avoids_ofKind field side.kind).bind fun _ _ => avoids_ok _

theorem Layout.avoids_ofEntry (field key value : Field) :
    Avoids PlanError.SparesFields (ofEntry message field key value) := by
  rw [ofEntry]
  repeat' split
  all_goals first
    | exact avoids_ok _
    | exact avoids_error (by simp [PlanError.SparesFields])

theorem Layout.avoids_ofField (field : Field) :
    Avoids PlanError.SparesFields (ofField message field) := by
  rw [ofField]
  split
  · exact avoids_error (by simp [PlanError.SparesFields])
  · refine Avoids.bind ?_ fun storage _ => ?_
    · rw [storage?]
      split
      case h_2 key value _ => exact avoids_ofEntry field key value
      all_goals exact avoids_ok _
    · cases storage <;> exact avoids_ok _

theorem Rule.avoids_ofField (field : Field) (bit : Option Nat) :
    Avoids PlanError.SparesFields (ofField scope message field bit) := by
  refine (Layout.avoids_ofField field).bind fun layout hlayout => ?_
  have hstorage := (Layout.fits_ofField hlayout).1
  obtain ⟨wireType, storage, packable⟩ := layout
  cases storage with
  | map keyLayout valueLayout =>
    obtain ⟨key, value, hc⟩ := hstorage.cardinality_of_map
    simp only [hc]
    exact (EntrySide.avoids_ofField _ _ key).bind fun _ _ =>
      (EntrySide.avoids_ofField _ _ value).bind fun _ _ => avoids_ok _
  | _ => exact (Read.avoids_ofKind field.name field.kind).bind fun _ _ => avoids_ok _

theorem Plan.avoids_rulesOf (bit : Nat) (fields : List Field) :
    Avoids PlanError.SparesFields (rulesOf scope message bit fields) := by
  induction fields generalizing bit with
  | nil => exact avoids_ok []
  | cons field fields ih =>
    exact (Rule.avoids_ofField field _).bind fun rule _ => (ih _).bind fun more _ =>
      avoids_ok (rule :: more)

theorem Plan.avoids_checkNumbers (seen : List Nat) (fields : List Field) :
    Avoids PlanError.SparesFields (checkNumbers message seen fields) := by
  induction fields generalizing seen with
  | nil => exact avoids_ok ()
  | cons field fields ih =>
    rw [checkNumbers]
    split
    · exact avoids_error (by simp [PlanError.SparesFields])
    · split
      · exact avoids_error (by simp [PlanError.SparesFields])
      · exact ih _

end Planning

section Schemas

variable (message field : String)

/-- Of the causes that a field spares, a message is refused for the names of its struct alone. -/
theorem Plan.avoids_ofMessage (scope : Scope) (source : Message) :
    Avoids (· = .invalidMapEntry message field .missing) (ofMessage scope source) := by
  have hspares (e : PlanError) (he : e = .invalidMapEntry message field .missing) :
      e.SparesFields := by
    rw [he]
    rfl
  refine ((avoids_checkNumbers [] source.fields).mono hspares).bind fun _ _ => ?_
  refine ((avoids_rulesOf 0 source.fields).mono hspares).bind fun rules _ => ?_
  dsimp only
  split
  · exact avoids_error (by simp)
  · exact avoids_ok _

theorem Scope.avoids_addOwnTypes (package : String) (named : SortedMap String String)
    (types : SortedMap String TypeInfo) (messages : List Message) :
    Avoids (· = .invalidMapEntry message field .missing)
      (addOwnTypes package named types messages) := by
  induction messages generalizing named types with
  | nil => exact avoids_ok types
  | cons first rest ih =>
    rw [addOwnTypes]
    split
    · exact avoids_error (by simp)
    · exact ih _ _

theorem Scope.avoids_ofSchema (options : Options) (schema : Schema) :
    Avoids (· = .invalidMapEntry message field .missing) (ofSchema options schema) := by
  unfold ofSchema
  split
  · split
    · exact (avoids_addOwnTypes message field _ _ _ _).bind fun _ _ => avoids_ok _
    · exact avoids_error (by simp)
  · exact avoids_error (by simp)

/-- No schema is refused because a map is asked for where none is declared. -/
theorem Schema.avoids_plans (options : Options) (schema : Schema) :
    Avoids (· = .invalidMapEntry message field .missing) (schema.plans options) :=
  (Scope.avoids_ofSchema message field options schema).bind fun scope _ =>
    avoids_mapM fun source _ => Plan.avoids_ofMessage message field scope source

theorem Schema.avoids_allPlans (options : Options) (schema : Schema) :
    Avoids (· = .invalidMapEntry message field .missing) (schema.allPlans options) :=
  (schema.avoids_plans message field options).bind fun _ _ =>
    (Scope.avoids_ofSchema message field options WellKnown.schema).bind fun scope _ =>
      (avoids_mapM fun source _ => Plan.avoids_ofMessage message field scope source).bind
        fun _ _ => avoids_ok _

end Schemas

end ProtoPlan
