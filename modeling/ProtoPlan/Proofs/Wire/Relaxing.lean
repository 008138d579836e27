import ProtoPlan.Proofs.Wire.Taking
import ProtoPlan.Wire.Cursor

/-!
Readers under a higher nesting limit. The limit is looked at in two places, where an embedded
message is entered and where a group is met inside a skipped group, and in both it decides between
going on and giving up. So a reader under a higher limit does what it did before, except where it
gave up.
-/

namespace ProtoPlan.Wire

namespace Reader

/-- On all bytes `y` does what `x` does, unless `x` fails for its nesting limit. -/
def Relaxes (x y : Reader α) : Prop :=
  ∀ bytes, (∃ rest, x bytes = .error .recursionLimitReached rest) ∨ y bytes = x bytes

section Compose

variable {x y : Reader α}

theorem Relaxes.refl (x : Reader α) : Relaxes x x := fun _ => .inr rfl

theorem relaxes_limit (y : Reader α) : Relaxes (throw .recursionLimitReached) y :=
  fun bytes => .inl ⟨bytes, rfl⟩

theorem Relaxes.bind {f g : α → Reader β} (hxy : Relaxes x y) (hfg : ∀ a, Relaxes (f a) (g a)) :
    Relaxes (x >>= f) (y >>= g) := by
  intro bytes
  simp only [Bind.bind, EStateM.bind]
  rcases hxy bytes with ⟨rest, hx⟩ | hsame
  · rw [hx]
    exact .inl ⟨rest, rfl⟩
  · rw [hsame]
    cases x bytes with
    | error fault rest => exact .inr rfl
    | ok a rest => exact hfg a rest

theorem Relaxes.map {f : α → β} (hxy : Relaxes x y) :
    Relaxes (x >>= fun a => pure (f a)) (y >>= fun a => pure (f a)) :=
  hxy.bind fun _ => .refl _

theorem Relaxes.expect {key : Key} {wireType : WireType} {field : String} (h : Relaxes x y) :
    Relaxes (Reader.expect key wireType field x) (Reader.expect key wireType field y) := by
  unfold Reader.expect
  split
  · exact h
  · exact .refl _

theorem Relaxes.within (h : Relaxes x y) (span : Bytes) :
    Relaxes (Reader.within span x) (Reader.within span y) := by
  intro bytes
  unfold Reader.within
  rcases h span with ⟨rest, hx⟩ | hsame
  · rw [hx]
    exact .inl ⟨bytes, rfl⟩
  · rw [hsame]
    exact .inr rfl

theorem Relaxes.delimited (h : Relaxes x y) :
    Relaxes (Reader.delimited x) (Reader.delimited y) :=
  (Relaxes.refl span).bind h.within

end Compose

section Nested

variable {low high : Nat} (hle : low ≤ high)
include hle

/-- An embedded message is entered under the higher limit if it is under the lower one. -/
theorem relaxes_nested {body : Nat → Reader α}
    (h : ∀ {low high}, low ≤ high → Relaxes (body low) (body high)) :
    Relaxes (nested low body) (nested high body) := by
  cases low with
  | zero => exact relaxes_limit _
  | succ low =>
    cases high with
    | zero => omega
    | succ high => exact (h (Nat.le_of_succ_le_succ hle)).delimited

theorem relaxes_closeGroup (outer : Nat) :
    Relaxes (closeGroup low outer) (closeGroup high outer) := by
  intro bytes
  fun_induction closeGroup low outer bytes with
  | case1 outer bytes fault rest hk =>
    rw [closeGroup_eq]
    simp [bind, EStateM.bind, hk]
  | case2 outer bytes key rest hk _ hw =>
    refine .inr ?_
    simp only [closeGroup_of_varint hk, closeGroupAfter, hw]
    rfl
  | case3 outer bytes key rest hk _ hw hdeep ih =>
    simp only [closeGroup_of_varint hk, closeGroupAfter, hw, if_pos (Nat.le_trans hdeep hle)]
    exact ih
  | case4 outer bytes key rest => exact .inl ⟨rest, rfl⟩
  | case5 bytes key rest hk _ hw =>
    refine .inr ?_
    simp only [closeGroup_of_varint hk, closeGroupAfter, hw]
    rfl
  | case6 bytes key rest hk _ hw outer ih =>
    simp only [closeGroup_of_varint hk, closeGroupAfter, hw]
    exact ih
  | case7 outer bytes key mid hk _ w hstart hend hw fault rest hs =>
    rw [closeGroup_of_varint hk, closeGroupAfter_of_value hw hstart hend]
    simp [bind, EStateM.bind, hs]
  | case8 outer bytes key mid hk _ w hstart hend hw rest hs _ ih =>
    rw [closeGroup_of_varint hk, closeGroupAfter_of_value hw hstart hend]
    simp only [bind, EStateM.bind, hs]
    exact ih

theorem relaxes_skipValue (wireType : WireType) :
    Relaxes (skipValue low wireType) (skipValue high wireType) := by
  cases wireType with
  | startGroup => exact relaxes_closeGroup hle 0
  | varint | fixed64 | fixed32 | lengthDelimited | endGroup => exact .refl _

end Nested

section Loop

theorem Relaxes.drain {step step' : σ → Reader σ} (hstep : ∀ s, Relaxes (step s) (step' s))
    (s : σ) : Relaxes (Reader.drain step s) (Reader.drain step' s) := by
  intro bytes
  -- A loop stops at a step that takes nothing, so that the bytes left bound its steps.
  induction hn : bytes.length using Nat.strongRecOn generalizing bytes s with
  | ind n ih =>
    subst hn
    rw [Reader.drain, Reader.drain]
    by_cases hempty : bytes.isEmpty = true
    · rw [if_pos hempty, if_pos hempty]
      exact .inr rfl
    · rw [if_neg hempty, if_neg hempty]
      rcases hstep s bytes with ⟨rest, hs⟩ | hsame
      · rw [hs]
        exact .inl ⟨rest, rfl⟩
      · rw [hsame]
        cases step s bytes with
        | error fault rest => exact .inr rfl
        | ok s' rest =>
          dsimp only
          split
          · rename_i hlt
            exact ih rest.length hlt s' rest rfl
          · exact .inr rfl

/-- What a decoder claims under the higher limit is what it claims under the lower one, read under
the higher limit. -/
theorem relaxes_fields {low high : Nat} (hle : low ≤ high)
    {claimed claimed' : Key → σ → Option (Reader σ)} (unclaimed : Nat → Bytes → σ → σ)
    (hclaimed : ∀ key s, Option.Rel Relaxes (claimed key s) (claimed' key s)) (s : σ) :
    Relaxes (fields low claimed unclaimed s) (fields high claimed' unclaimed s) := by
  refine Relaxes.drain (fun s => ?_) s
  refine (Relaxes.refl _).bind fun start => (Relaxes.refl _).bind fun key => ?_
  have hrel := hclaimed key s
  cases hc : claimed key s with
  | some body =>
    cases hc' : claimed' key s with
    | none => simp [hc, hc'] at hrel
    | some body' => simpa [hc, hc'] using hrel
  | none =>
    cases hc' : claimed' key s with
    | some body' => simp [hc, hc'] at hrel
    | none =>
      exact (relaxes_skipValue hle key.wireType).bind fun _ => .refl _

/-- A decoder that claims the same fields whatever the budget, and reads them without it. -/
theorem relaxes_fields_self {low high : Nat} (hle : low ≤ high)
    {claimed : Key → σ → Option (Reader σ)} (unclaimed : Nat → Bytes → σ → σ) (s : σ) :
    Relaxes (fields low claimed unclaimed s) (fields high claimed unclaimed s) := by
  refine relaxes_fields hle unclaimed (fun key s => ?_) s
  cases claimed key s with
  | none => exact .none
  | some body => exact .some (.refl body)

end Loop

/-- Under a higher budget the decoder does what it did, except where it gave up for the budget. -/
def Relaxing (merge : Nat → α → Reader α) : Prop :=
  ∀ {low high : Nat}, low ≤ high → ∀ s, Relaxes (merge low s) (merge high s)

end Reader

namespace Cursor

/-- A higher nesting limit changes nothing but failures for the limit: any other outcome of the run
is its outcome under the higher limit, and the cursor comes to stand at the same place. -/
def LimitOnly (run : Cursor → Except Fault α × Cursor) : Prop :=
  ∀ (c : Cursor) (low high : Nat), low ≤ high →
    (run { c with budget := low }).1 ≠ .error .recursionLimitReached →
    (run { c with budget := high }).1 = (run { c with budget := low }).1 ∧
      (run { c with budget := high }).2.position = (run { c with budget := low }).2.position

theorem limitOnly_read (body : Nat → Reader α)
    (h : ∀ {low high}, low ≤ high → Reader.Relaxes (body low) (body high)) :
    LimitOnly fun c => c.read (body c.budget) := by
  intro c low high hle hlimit
  simp only [read, unread] at hlimit ⊢
  rcases h hle (c.buffer.drop c.position) with ⟨rest, hlow⟩ | hsame
  · rw [hlow] at hlimit
    exact absurd rfl hlimit
  · rw [hsame]
    cases body low (c.buffer.drop c.position) with
    | ok a rest => exact ⟨rfl, rfl⟩
    | error fault rest => exact ⟨rfl, rfl⟩

/-- So the bytes that are skipped are no others. -/
theorem limitOnly_skip (wireType : WireType) : LimitOnly fun c => c.skip wireType := by
  intro c low high hle hlimit
  have hread := limitOnly_read (fun budget => Reader.skipValue budget wireType)
    (fun hle => Reader.relaxes_skipValue hle wireType) c low high hle
  simp only [skip] at hlimit ⊢
  obtain ⟨houtcome, hposition⟩ := hread (by
    intro hread
    rw [hread] at hlimit
    exact hlimit rfl)
  rw [houtcome, hposition]
  exact ⟨rfl, rfl⟩

end Cursor

end ProtoPlan.Wire
