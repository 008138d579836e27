import ProtoPlan.Proofs.Wire.Taking

/-!
Two readers that go through a buffer together: on all bytes they fail with the same fault, or stop
at the same place with values that stand in a relation.
-/

namespace ProtoPlan.Wire.Reader

/-- On all bytes the readers leave the same rest with related values, or the same fault. -/
def Agrees (R : α → β → Prop) (x : Reader α) (y : Reader β) : Prop :=
  ∀ bytes, (∃ a b rest, x bytes = .ok a rest ∧ y bytes = .ok b rest ∧ R a b) ∨
    ∃ fault rest rest', x bytes = .error fault rest ∧ y bytes = .error fault rest'

section Compose

variable {R : α → β → Prop} {S : γ → δ → Prop} {x : Reader α} {y : Reader β}

theorem Agrees.pure {a : α} {b : β} (h : R a b) : Agrees R (Pure.pure a) (Pure.pure b) :=
  fun bytes => .inl ⟨a, b, bytes, rfl, rfl, h⟩

theorem Agrees.throw (fault : Fault) :
    Agrees R (throw fault : Reader α) (throw fault : Reader β) :=
  fun bytes => .inr ⟨fault, bytes, bytes, rfl, rfl⟩

theorem Agrees.mono {R' : α → β → Prop} (h : Agrees R x y) (hR : ∀ a b, R a b → R' a b) :
    Agrees R' x y := by
  intro bytes
  rcases h bytes with ⟨a, b, rest, hx, hy, hab⟩ | hfault
  · exact .inl ⟨a, b, rest, hx, hy, hR a b hab⟩
  · exact .inr hfault

theorem agrees_self (x : Reader α) : Agrees Eq x x := by
  intro bytes
  cases x bytes with
  | ok a rest => exact .inl ⟨a, a, rest, rfl, rfl, rfl⟩
  | error fault rest => exact .inr ⟨fault, rest, rest, rfl, rfl⟩

theorem Agrees.bind {f : α → Reader γ} {g : β → Reader δ} (hxy : Agrees R x y)
    (hfg : ∀ a b, R a b → Agrees S (f a) (g b)) : Agrees S (x >>= f) (y >>= g) := by
  intro bytes
  simp only [Bind.bind, EStateM.bind]
  rcases hxy bytes with ⟨a, b, rest, hx, hy, hab⟩ | ⟨fault, rest, rest', hx, hy⟩
  · rw [hx, hy]
    exact hfg a b hab rest
  · rw [hx, hy]
    exact .inr ⟨fault, rest, rest', rfl, rfl⟩

theorem Agrees.map {f : α → γ} {g : β → δ} (hxy : Agrees R x y)
    (hfg : ∀ a b, R a b → S (f a) (g b)) :
    Agrees S (x >>= fun a => Pure.pure (f a)) (y >>= fun b => Pure.pure (g b)) :=
  hxy.bind fun a b hab => .pure (hfg a b hab)

/-- A reader agrees with what is made of the value that it reads. -/
theorem agrees_map (f : β → α) (y : Reader β) :
    Agrees (fun a b => a = f b) (y >>= fun b => Pure.pure (f b)) y := by
  intro bytes
  simp only [Bind.bind, EStateM.bind]
  cases y bytes with
  | ok b rest => exact .inl ⟨f b, b, rest, rfl, rfl, rfl⟩
  | error fault rest => exact .inr ⟨fault, rest, rest, rfl, rfl⟩

theorem Agrees.expect {key : Key} {wireType : WireType} {field : String} (h : Agrees R x y) :
    Agrees R (Reader.expect key wireType field x) (Reader.expect key wireType field y) := by
  unfold Reader.expect
  split
  · exact h
  · exact .throw _

theorem Agrees.delimited (h : Agrees R x y) :
    Agrees R (Reader.delimited x) (Reader.delimited y) := by
  intro bytes
  simp only [Reader.delimited, Bind.bind, EStateM.bind]
  cases span bytes with
  | error fault rest => exact .inr ⟨fault, rest, rest, rfl, rfl⟩
  | ok inner rest =>
    simp only [within]
    rcases h inner with ⟨a, b, left, hx, hy, hab⟩ | ⟨fault, left, left', hx, hy⟩
    · rw [hx, hy]
      exact .inl ⟨a, b, rest, rfl, rfl, hab⟩
    · rw [hx, hy]
      exact .inr ⟨fault, rest, rest, rfl, rfl⟩

theorem Agrees.run (h : Agrees R x y) (bytes : Bytes) :
    (∃ a b, x.run bytes = .ok a ∧ y.run bytes = .ok b ∧ R a b) ∨
      ∃ fault, x.run bytes = .error fault ∧ y.run bytes = .error fault := by
  unfold Reader.run
  rcases h bytes with ⟨a, b, rest, hx, hy, hab⟩ | ⟨fault, rest, rest', hx, hy⟩
  · rw [hx, hy]
    exact .inl ⟨a, b, rfl, rfl, hab⟩
  · rw [hx, hy]
    exact .inr ⟨fault, rfl, rfl⟩

/-- If what the one reads is a function of what the other reads, so is the outcome on a buffer. -/
theorem Agrees.run_eq {f : α → β} (h : Agrees R x y) (hf : ∀ a b, R a b → b = f a)
    (bytes : Bytes) : y.run bytes = (x.run bytes).map f := by
  unfold Reader.run
  rcases h bytes with ⟨a, b, rest, hx, hy, hab⟩ | ⟨fault, rest, rest', hx, hy⟩
  · rw [hx, hy, hf a b hab]
    rfl
  · rw [hx, hy]
    rfl

end Compose

section Loop

variable {R : σ → τ → Prop}

/-- Loops agree if their steps do. -/
theorem Agrees.drain {step : σ → Reader σ} {step' : τ → Reader τ}
    (hstep : ∀ s t, R s t → Agrees R (step s) (step' t)) {s : σ} {t : τ} (h : R s t) :
    Agrees R (Reader.drain step s) (Reader.drain step' t) := by
  intro bytes
  -- A loop stops at a step that takes nothing, so that the bytes left bound its steps.
  induction hn : bytes.length using Nat.strongRecOn generalizing bytes s t with
  | ind n ih =>
    subst hn
    rw [Reader.drain, Reader.drain]
    by_cases hempty : bytes.isEmpty = true
    · rw [if_pos hempty, if_pos hempty]
      exact .inl ⟨s, t, bytes, rfl, rfl, h⟩
    · rw [if_neg hempty, if_neg hempty]
      rcases hstep s t h bytes with ⟨s', t', rest, hs, ht, hst⟩ | ⟨fault, rest, rest', hs, ht⟩
      · rw [hs, ht]
        dsimp only
        split
        · rename_i hlt
          exact ih rest.length hlt hst rest rfl
        · exact .inl ⟨s', t', rest, rfl, rfl, hst⟩
      · rw [hs, ht]
        exact .inr ⟨fault, rest, rest', rfl, rfl⟩

theorem Agrees.elements {f : α → β} {x : Reader α} {y : Reader β}
    (h : Agrees (fun a b => b = f a) x y) (list : List α) :
    Agrees (fun as bs => bs = as.map f) (Reader.elements x list)
      (Reader.elements y (list.map f)) := by
  have hstep (as : List α) (bs : List β) (hlist : bs = as.map f) :
      Agrees (fun as bs => bs = as.map f) (do return as ++ [← x]) (do return bs ++ [← y]) := by
    apply h.map
    intro a b hab
    rw [hlist, hab, List.map_append, List.map_singleton]
  exact Agrees.drain hstep rfl

variable {budget : Nat} {claimed : Key → σ → Option (Reader σ)}
  {claimed' : Key → τ → Option (Reader τ)} {unclaimed : Nat → Bytes → σ → σ}
  {unclaimed' : Nat → Bytes → τ → τ}

/-- Messages agree if their fields do: a field is claimed by both decoders or by none, and an
unclaimed one is skipped by both. -/
theorem Agrees.fields
    (hclaimed : ∀ key s t, R s t → Option.Rel (Agrees R) (claimed key s) (claimed' key t))
    (hunclaimed : ∀ key s t raw, R s t → claimed key s = none →
      R (unclaimed key.number raw s) (unclaimed' key.number raw t))
    {s : σ} {t : τ} (h : R s t) :
    Agrees R (Reader.fields budget claimed unclaimed s)
      (Reader.fields budget claimed' unclaimed' t) := by
  apply Agrees.drain _ h
  intro s t h bytes
  have hget : (get : Reader Bytes) bytes = .ok bytes bytes := rfl
  simp only [Reader.field, Bind.bind, EStateM.bind, hget]
  cases Reader.key bytes with
  | error fault rest => exact .inr ⟨fault, rest, rest, rfl, rfl⟩
  | ok k mid =>
    dsimp only
    have hrel := hclaimed k s t h
    cases hc : claimed k s with
    | some body =>
      rw [hc] at hrel
      cases hc' : claimed' k t with
      | none =>
        rw [hc'] at hrel
        cases hrel
      | some body' =>
        rw [hc'] at hrel
        cases hrel with
        | some hbody => exact hbody mid
    | none =>
      rw [hc] at hrel
      cases hc' : claimed' k t with
      | some body' =>
        rw [hc'] at hrel
        cases hrel
      | none =>
        simp only [EStateM.bind]
        cases skipValue budget k.wireType mid with
        | error fault rest => exact .inr ⟨fault, rest, rest, rfl, rfl⟩
        | ok _ rest => exact .inl ⟨_, _, rest, rfl, rfl, hunclaimed k s t _ h hc⟩

end Loop

end ProtoPlan.Wire.Reader
