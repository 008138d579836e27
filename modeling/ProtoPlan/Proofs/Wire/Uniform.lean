import ProtoPlan.Proofs.Wire.Runs

/-!
Decoders for which it is of no matter what the message held before: they take the same records, and
refuse the same ones with the same faults.
-/

namespace ProtoPlan.Wire.Reader

/-- Two readers of one value, by its frame, that succeed and fail alike. -/
structure Alike (wireType : WireType) (x : Reader α) (y : Reader β) : Prop where
  byFrame : ByFrame wireType x
  agrees : Agrees (fun _ _ => True) x y

section Alike

variable {wireType : WireType} {x : Reader α} {y : Reader β} {framed : WireType} {number : Nat}
  {field : String}

theorem ByFrame.alike (h : ByFrame wireType x) : Alike wireType x x :=
  ⟨h, (agrees_self x).mono fun _ _ _ => trivial⟩

theorem Alike.map {f : α → γ} {g : β → δ} (h : Alike wireType x y) :
    Alike wireType (x >>= fun a => pure (f a)) (y >>= fun b => pure (g b)) :=
  ⟨h.byFrame.map, h.agrees.map fun _ _ _ => trivial⟩

theorem Alike.expect (h : Alike wireType x y) :
    Alike framed (expect ⟨number, framed⟩ wireType field x)
      (expect ⟨number, framed⟩ wireType field y) :=
  ⟨h.byFrame.expect, h.agrees.expect⟩

/-- A value that is read afresh and then stored, one way or the other. -/
theorem ByFrame.stored {f g : α → β} (h : ByFrame wireType x) :
    Alike framed (Reader.expect ⟨number, framed⟩ wireType field (x >>= fun a => pure (f a)))
      (Reader.expect ⟨number, framed⟩ wireType field (x >>= fun a => pure (g a))) :=
  h.alike.map.expect

theorem alike_delimited (h : Agrees (fun _ _ => True) x y) :
    Alike .lengthDelimited (delimited x) (delimited y) :=
  ⟨byFrame_delimited x, h.delimited⟩

theorem alike_nested {x : Nat → Reader α} {y : Nat → Reader β}
    (h : ∀ budget, Agrees (fun _ _ => True) (x budget) (y budget)) (budget : Nat) :
    Alike .lengthDelimited (nested budget x) (nested budget y) := by
  cases budget with
  | zero => exact ⟨.throw _, .throw _⟩
  | succ budget => exact alike_delimited (h budget)

theorem agrees_elements (x : Reader α) (list list' : List α) :
    Agrees (fun _ _ => True) (elements x list) (elements x list') := by
  apply Agrees.drain _ trivial
  intro list list' _
  exact (agrees_self x).map fun _ _ _ => trivial

theorem alike_packable (h : ByFrame wireType x) (list list' : List α) :
    Alike framed (packable ⟨number, framed⟩ wireType field x list)
      (packable ⟨number, framed⟩ wireType field x list') := by
  unfold packable
  dsimp only
  split
  · rename_i hw
    rw [hw]
    exact h.alike.map
  · split
    · rename_i hw
      rw [hw]
      exact alike_delimited (agrees_elements x list list')
    · exact ⟨.throw _, .throw _⟩

end Alike

/-- Which fields are claimed, and which of their values are accepted, is a matter of the bytes. -/
def Uniform (claimed : Key → σ → Option (Reader σ)) : Prop :=
  ∀ key s t, Option.Rel (Alike key.wireType) (claimed key s) (claimed key t)

section Uniform

variable {claimed : Key → σ → Option (Reader σ)}

theorem uniform_none : Uniform fun (_ : Key) (_ : σ) => none := fun _ _ _ => .none

theorem Uniform.claimsByFrame (h : Uniform claimed) : ClaimsByFrame claimed := by
  intro key state body hc
  have hrel := h key state state
  rw [hc] at hrel
  cases hrel with
  | some halike => exact halike.byFrame

theorem Uniform.agrees (h : Uniform claimed) (budget : Nat) (unclaimed : Nat → Bytes → σ → σ)
    (s t : σ) :
    Agrees (fun _ _ => True) (fields budget claimed unclaimed s)
      (fields budget claimed unclaimed t) := by
  refine Agrees.fields ?_ (fun _ _ _ _ _ _ => trivial) trivial
  intro key s t _
  have halike := h key s t
  generalize claimed key s = x at halike ⊢
  generalize claimed key t = y at halike ⊢
  cases halike with
  | some halike => exact .some halike.agrees
  | none => exact .none

/-- A merge that goes through the fields of a message, each by its frame. -/
def ByFields (merge : Nat → σ → Reader σ) : Prop :=
  ∀ budget, ∃ claimed unclaimed, merge budget = fields budget claimed unclaimed ∧ Uniform claimed

theorem ByFields.agrees {merge : Nat → σ → Reader σ} (h : ByFields merge) (budget : Nat) (s t : σ) :
    Agrees (fun _ _ => True) (merge budget s) (merge budget t) := by
  obtain ⟨claimed, unclaimed, hmerge, huniform⟩ := h budget
  rw [hmerge]
  exact huniform.agrees budget unclaimed s t

/-- Of a buffer that is accepted, what ends with a record is accepted, and what ends inside one is
truncated. -/
theorem ByFields.run_take {merge : Nat → σ → Reader σ} (h : ByFields merge) {budget : Nat} {s t : σ}
    {bytes : Bytes} (hrun : (merge budget s).run bytes = .ok t) :
    ∃ rs, (records budget).run bytes = .ok rs ∧ ∀ k ≤ bytes.length,
      (EndsRecord rs k → ∃ mid, (merge budget s).run (bytes.take k) = .ok mid) ∧
      (¬EndsRecord rs k → (merge budget s).run (bytes.take k) = .error .truncated) := by
  obtain ⟨claimed, unclaimed, hmerge, huniform⟩ := h budget
  rw [hmerge] at hrun ⊢
  obtain ⟨rest, hfields⟩ := run_eq_ok_iff.1 hrun
  obtain ⟨rs, rfl, hrs, hsteps⟩ := records_of_fields huniform.claimsByFrame hfields
  refine ⟨rs, run_eq_ok_iff.2 ⟨[], records_flatMap hrs⟩, fun k hk => ⟨?_, ?_⟩⟩
  · rintro ⟨before, hbefore, rfl⟩
    obtain ⟨mid, -, hmid⟩ := hsteps.initial hbefore
    rw [take_initial hbefore]
    exact ⟨mid, run_eq_ok_iff.2 ⟨[], hmid⟩⟩
  · intro hinside
    obtain ⟨left, hleft⟩ := fields_truncated huniform.claimsByFrame hsteps hk hinside
    rw [run, hleft]

/-- Once a buffer was accepted the merge goes on as with one that holds more. -/
theorem ByFields.run_append {merge : Nat → σ → Reader σ} (h : ByFields merge) {budget : Nat}
    {s t : σ} {first : Bytes} (hrun : (merge budget s).run first = .ok t) (second : Bytes) :
    (merge budget s).run (first ++ second) = (merge budget t).run second := by
  obtain ⟨claimed, unclaimed, hmerge, huniform⟩ := h budget
  rw [hmerge] at hrun ⊢
  obtain ⟨rest, hfields⟩ := run_eq_ok_iff.1 hrun
  obtain ⟨rs, rfl, hrs, -⟩ := records_of_fields huniform.claimsByFrame hfields
  have hcuts : Cuts (rs.flatMap (·.raw)) rs := ⟨budget, run_eq_ok_iff.2 ⟨[], records_flatMap hrs⟩⟩
  rw [run_fields_append huniform.claimsByFrame hcuts, hrun]
  rfl

end Uniform

end ProtoPlan.Wire.Reader
