import ProtoPlan.Proofs.Wire.Scanning

/-!
Buffers that end early. What a reader needs in order to succeed it asks for byte by byte, so that a
proper part of the bytes that it would take is found truncated, and nothing else.
-/

namespace ProtoPlan.Wire

theorem Varint.decodeWithin_part {limit : Nat} {part more : Bytes} {value : UInt64} {n : Nat}
    (h : decodeWithin limit (part ++ more) = .ok (value, n)) (hn : part.length < n) :
    decodeWithin limit part = .error .truncated := by
  induction limit generalizing part value n with
  | zero => cases h
  | succ limit ih =>
    cases part with
    | nil => rfl
    | cons b part =>
      rw [List.cons_append, decodeWithin] at h
      rw [decodeWithin]
      split at h
      · cases h
        simp at hn
      · rename_i hb
        cases hr : decodeWithin limit (part ++ more) with
        | error e =>
          rw [hr] at h
          cases h
        | ok p =>
          obtain ⟨high, k⟩ := p
          rw [hr] at h
          cases h
          rw [List.length_cons] at hn
          rw [if_neg hb, ih hr (Nat.lt_of_succ_lt_succ hn)]
          rfl

namespace Reader

/-- Every proper part of `taken` is found truncated. -/
def BreaksOn (body : Reader α) (taken : Bytes) : Prop :=
  ∀ ⦃part more⦄, taken = part ++ more → more ≠ [] → ∃ rest, body part = .error .truncated rest

/-- Every proper part of what `body` would take is found truncated. -/
def Breaks (body : Reader α) : Prop := ∀ ⦃taken a⦄, Takes body taken a → BreaksOn body taken

section Compose

variable {x : Reader α} {f : α → Reader β} {first second : Bytes} {a : α}

theorem breaksOn_nil (body : Reader α) : BreaksOn body [] := by
  intro part more hparts hmore
  exact absurd (List.append_eq_nil_iff.1 hparts.symm).2 hmore

/-- The part ends either before the second reader starts or inside what that one takes. -/
theorem BreaksOn.bind (ha : Takes x first a) (hx : BreaksOn x first) (hf : BreaksOn (f a) second) :
    BreaksOn (x >>= f) (first ++ second) := by
  intro part more hparts hmore
  simp only [Bind.bind, EStateM.bind]
  rcases List.append_eq_append_iff.1 hparts with ⟨inner, rfl, hsecond⟩ | ⟨cut, hfirst, rfl⟩
  · rw [ha inner]
    exact hf hsecond hmore
  · cases cut with
    | nil =>
      rw [List.append_nil] at hfirst
      subst hfirst
      have hstart := ha.ends
      rw [hstart]
      exact hf rfl hmore
    | cons b cut =>
      obtain ⟨rest, hbreak⟩ := hx hfirst (List.cons_ne_nil b cut)
      exact ⟨rest, by rw [hbreak]⟩

theorem Breaks.pure (a : α) : Breaks (Pure.pure a : Reader α) := by
  intro taken b h
  have hrun := h.ends
  cases hrun
  exact breaksOn_nil _

theorem Breaks.throw (fault : Fault) : Breaks (throw fault : Reader α) := by
  intro taken a h
  cases h []

theorem Breaks.bind (hx : IsLocal x) (hbx : Breaks x) (hf : ∀ a, IsLocal (f a))
    (hbf : ∀ a, Breaks (f a)) : Breaks (x >>= f) := by
  intro taken b h
  have hrun := h.ends
  obtain ⟨a, mid, ha, hb⟩ := bind_eq_ok_iff.1 hrun
  obtain ⟨first, rfl, hfirst⟩ := hx ha
  obtain ⟨second, hmid, hsecond⟩ := hf a hb
  rw [List.append_nil] at hmid
  subst hmid
  exact .bind hfirst (hbx hfirst) (hbf a hsecond)

end Compose

theorem breaks_take (count : Nat) : Breaks (take count) := by
  intro taken a h part more hparts hmore
  have hrun := h.ends
  have hcount := take_shorter hrun
  have hlt : part.length < count := by
    have := List.length_pos_iff.2 hmore
    rw [hparts, List.length_append, List.length_nil] at hcount
    omega
  exact ⟨part, if_neg (Nat.not_le.2 hlt)⟩

theorem breaks_varint : Breaks varint := by
  intro taken value h part more hparts hmore
  have hrun := h.ends
  unfold varint at hrun
  split at hrun
  · rename_i v n hd
    have hdrop : taken.drop n = [] := (EStateM.Result.ok.inj hrun).2
    have hn : part.length < n := by
      have hle := List.drop_eq_nil_iff.1 hdrop
      have := List.length_pos_iff.2 hmore
      rw [hparts, List.length_append] at hle
      omega
    rw [hparts] at hd
    have hpart : Varint.decode part = .error .truncated := Varint.decodeWithin_part hd hn
    exact ⟨part, by rw [varint, hpart]⟩
  · cases hrun

theorem breaks_length : Breaks length := by
  refine .bind isLocal_varint breaks_varint ?_ ?_
  · intro value
    split
    · exact IsLocal.pure _
    · exact IsLocal.throw _
  · intro value
    split
    · exact Breaks.pure _
    · exact Breaks.throw _

theorem breaks_key : Breaks key := by
  refine .bind isLocal_varint breaks_varint ?_ ?_
  · intro value
    split
    · exact IsLocal.pure _
    · exact IsLocal.throw _
  · intro value
    split
    · exact Breaks.pure _
    · exact Breaks.throw _

theorem breaks_skipBytes (count : Nat) : Breaks (skipBytes count) :=
  .bind (isLocal_take count) (breaks_take count) (fun _ => IsLocal.pure _) fun _ => Breaks.pure _

theorem breaks_skipPlain (wireType : WireType) : Breaks (skipPlain wireType) := by
  cases wireType with
  | varint =>
    change Breaks skipVarint
    rw [skipVarint_eq]
    exact .bind isLocal_varint breaks_varint (fun _ => IsLocal.pure _) fun _ => Breaks.pure _
  | fixed64 => exact breaks_skipBytes 8
  | fixed32 => exact breaks_skipBytes 4
  | lengthDelimited => exact .bind isLocal_length breaks_length isLocal_skipBytes breaks_skipBytes
  | startGroup => exact Breaks.throw _
  | endGroup => exact Breaks.throw _

theorem breaks_closeGroup (budget outer : Nat) : Breaks (closeGroup budget outer) := by
  intro taken a h
  have hrun := h.ends
  clear h
  -- The key, and then what is left to do of the group, each broken on its own bytes.
  have prepend {outer : Nat} {key : UInt64} {bytes more : Bytes}
      (hk : varint bytes = .ok key more) (h : BreaksOn (closeGroupAfter budget outer key) more) :
      BreaksOn (closeGroup budget outer) bytes := by
    obtain ⟨first, rfl, hfirst⟩ := isLocal_varint hk
    rw [closeGroup_eq]
    exact .bind hfirst (breaks_varint hfirst) h
  fun_induction closeGroup budget outer taken with
  | case1 | case2 | case4 | case7 => cases hrun
  | case3 outer bytes key more hk _ hw hle ih =>
    apply prepend hk
    simpa only [closeGroupAfter, hw, if_pos hle] using ih hrun
  | case5 bytes key more hk _ hw =>
    cases hrun
    exact prepend hk (breaksOn_nil _)
  | case6 bytes key more hk _ hw outer ih =>
    apply prepend hk
    simpa only [closeGroupAfter, hw] using ih hrun
  | case8 outer bytes key more hk _ w hstart hend hw more' hs _ ih =>
    apply prepend hk
    obtain ⟨first, rfl, hfirst⟩ := isLocal_skipPlain w hs
    have hafter : closeGroupAfter budget outer key =
        skipPlain w >>= fun _ => closeGroup budget outer := by
      cases w <;> simp_all [closeGroupAfter]
    rw [hafter]
    exact .bind hfirst (breaks_skipPlain w hfirst) (ih hrun)

theorem breaks_skipValue (budget : Nat) (wireType : WireType) :
    Breaks (skipValue budget wireType) :=
  skipValue_cases (breaks_closeGroup budget 0) breaks_skipPlain wireType

end Reader

end ProtoPlan.Wire
