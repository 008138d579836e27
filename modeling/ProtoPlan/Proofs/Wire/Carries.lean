import ProtoPlan.Proofs.Wire.Agrees
import ProtoPlan.Proofs.Wire.Record

/-!
What one reader takes another takes too. The second may be the more lenient of the two: where the
first reads a field the second may skip it, as long as it skips the same bytes.
-/

namespace ProtoPlan.Wire.Reader

/-- Where the first reader succeeds, the second succeeds at the same place with a related value. -/
def Carries (R : α → β → Prop) (x : Reader α) (y : Reader β) : Prop :=
  ∀ ⦃bytes a rest⦄, x bytes = .ok a rest → ∃ b, y bytes = .ok b rest ∧ R a b

section Compose

variable {R : α → β → Prop} {S : γ → δ → Prop} {x : Reader α} {y : Reader β}

theorem Agrees.carries (h : Agrees R x y) : Carries R x y := by
  intro bytes a rest hx
  rcases h bytes with ⟨a', b, rest', hx', hy, hab⟩ | ⟨fault, rest', rest'', hx', -⟩
  · rw [hx] at hx'
    cases hx'
    exact ⟨b, hy, hab⟩
  · rw [hx] at hx'
    cases hx'

theorem carries_self (x : Reader α) : Carries Eq x x := (agrees_self x).carries

theorem Carries.pure {a : α} {b : β} (h : R a b) : Carries R (Pure.pure a) (Pure.pure b) :=
  (Agrees.pure h).carries

theorem Carries.throw (fault : Fault) : Carries R (throw fault : Reader α) y := by
  intro bytes a rest hx
  cases hx

theorem Carries.bind {f : α → Reader γ} {g : β → Reader δ} (hxy : Carries R x y)
    (hfg : ∀ a b, R a b → Carries S (f a) (g b)) : Carries S (x >>= f) (y >>= g) := by
  intro bytes c rest h
  obtain ⟨a, mid, ha, hc⟩ := bind_eq_ok_iff.1 h
  obtain ⟨b, hb, hab⟩ := hxy ha
  obtain ⟨d, hd, hcd⟩ := hfg a b hab hc
  exact ⟨d, bind_eq_ok_iff.2 ⟨b, mid, hb, hd⟩, hcd⟩

theorem Carries.map {f : α → γ} {g : β → δ} (hxy : Carries R x y)
    (hfg : ∀ a b, R a b → S (f a) (g b)) :
    Carries S (x >>= fun a => Pure.pure (f a)) (y >>= fun b => Pure.pure (g b)) :=
  hxy.bind fun a b hab => .pure (hfg a b hab)

theorem Carries.expect {key : Key} {wireType : WireType} {field : String} (h : Carries R x y) :
    Carries R (Reader.expect key wireType field x) (Reader.expect key wireType field y) := by
  unfold Reader.expect
  split
  · exact h
  · exact .throw _

theorem Carries.delimited (h : Carries R x y) :
    Carries R (Reader.delimited x) (Reader.delimited y) := by
  have hwithin (span : Bytes) : Carries R (within span x) (within span y) := by
    intro bytes a rest ha
    unfold within at ha ⊢
    split at ha
    · rename_i a' left hx
      cases ha
      obtain ⟨b, hy, hab⟩ := h hx
      rw [hy]
      exact ⟨b, rfl, hab⟩
    · cases ha
  refine (carries_self span).bind ?_
  rintro span _ rfl
  exact hwithin span

theorem Carries.nested {x : Nat → Reader α} {y : Nat → Reader β} {budget : Nat}
    (h : ∀ lower, budget = lower + 1 → Carries R (x lower) (y lower)) :
    Carries R (Reader.nested budget x) (Reader.nested budget y) := by
  cases budget with
  | zero => exact .throw _
  | succ budget => exact (h budget rfl).delimited

end Compose

section Loop

variable {R : σ → τ → Prop}

theorem Carries.drain {step : σ → Reader σ} {step' : τ → Reader τ}
    (hstep : ∀ s t, R s t → Carries R (step s) (step' t)) {s : σ} {t : τ} (h : R s t) :
    Carries R (Reader.drain step s) (Reader.drain step' t) := by
  intro bytes last rest hdrain
  induction hn : bytes.length using Nat.strongRecOn generalizing bytes s t with
  | ind n ih =>
    subst hn
    rw [Reader.drain] at hdrain ⊢
    split at hdrain
    · rename_i hempty
      cases hdrain
      rw [if_pos hempty]
      exact ⟨t, rfl, h⟩
    · rename_i hempty
      rw [if_neg hempty]
      split at hdrain
      · cases hdrain
      · rename_i next mid hs
        obtain ⟨next', hs', hnext⟩ := hstep s t h hs
        rw [hs']
        dsimp only
        split at hdrain
        · rename_i hlt
          rw [if_pos hlt]
          exact ih mid.length hlt hnext hdrain rfl
        · rename_i hlt
          cases hdrain
          rw [if_neg hlt]
          exact ⟨next', rfl, hnext⟩

variable {budget : Nat} {claimed : Key → σ → Option (Reader σ)}
  {claimed' : Key → τ → Option (Reader τ)} {unclaimed : Nat → Bytes → σ → σ}
  {unclaimed' : Nat → Bytes → τ → τ}

/-- What becomes of a field in two decoders: both claim it, or none, or the first reads it and the
second keeps it as it is. -/
inductive FieldCarries (R : σ → τ → Prop) (unclaimed : Nat → Bytes → σ → σ)
    (unclaimed' : Nat → Bytes → τ → τ) (key : Key) (s : σ) (t : τ) :
    Option (Reader σ) → Option (Reader τ) → Prop where
  | both {x : Reader σ} {y : Reader τ} : Carries R x y →
      FieldCarries R unclaimed unclaimed' key s t (some x) (some y)
  | first {x : Reader σ} : Framed key.wireType x →
      (∀ raw, Ensures x fun next => R next (unclaimed' key.number raw t)) →
      FieldCarries R unclaimed unclaimed' key s t (some x) none
  | none : (∀ raw, R (unclaimed key.number raw s) (unclaimed' key.number raw t)) →
      FieldCarries R unclaimed unclaimed' key s t none none

theorem Carries.fields
    (hclaimed : ∀ key s t, R s t →
      FieldCarries R unclaimed unclaimed' key s t (claimed key s) (claimed' key t))
    {s : σ} {t : τ} (h : R s t) :
    Carries R (Reader.fields budget claimed unclaimed s)
      (Reader.fields budget claimed' unclaimed' t) := by
  apply Carries.drain _ h
  intro s t h bytes next rest hfield
  obtain ⟨key, mid, hkey, hcase⟩ := field_eq_ok_iff.1 hfield
  have hcarries := hclaimed key s t h
  let raw := bytes.take (bytes.length - rest.length)
  simp only [field_eq_ok_iff]
  generalize claimed key s = x at hcarries hcase
  generalize hc : claimed' key t = y at hcarries
  cases hcarries with
  | both hxy =>
    obtain ⟨last, hlast, hnext⟩ := hxy hcase
    refine ⟨last, ⟨key, mid, hkey, ?_⟩, hnext⟩
    rw [hc]
    exact hlast
  | first hframed hensures =>
    refine ⟨unclaimed' key.number raw t, ⟨key, mid, hkey, ?_⟩, hensures raw hcase⟩
    rw [hc]
    exact ⟨hframed.follows_skipValue budget hcase, rfl⟩
  | none hkept =>
    obtain ⟨hskip, rfl⟩ := hcase
    refine ⟨unclaimed' key.number raw t, ⟨key, mid, hkey, ?_⟩, hkept raw⟩
    rw [hc]
    exact ⟨hskip, rfl⟩

end Loop

end ProtoPlan.Wire.Reader
