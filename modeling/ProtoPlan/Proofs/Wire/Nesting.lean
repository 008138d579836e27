import ProtoPlan.Proofs.Wire.Frame

/-!
Groups and the nesting budget. A group that closes under some budget is skipped under another one or
refused for its depth, and which of the two depends on the groups inside it: the outermost is
entered whatever the budget.
-/

namespace ProtoPlan.Wire.Reader

/-- In a group of which `bytes` are left, with `outer` more groups open around it, so many groups
are open at once. -/
inductive GroupOpens : (outer : Nat) → (bytes : Bytes) → (depth : Nat) → Prop where
  | here (outer : Nat) (bytes : Bytes) : GroupOpens outer bytes (outer + 1)
  | start {outer depth : Nat} {bytes rest : Bytes} {key : UInt64} :
      varint bytes = .ok key rest → WireType.ofNat? (key.toNat % 8) = some .startGroup →
      GroupOpens (outer + 1) rest depth → GroupOpens outer bytes depth
  | finish {outer depth : Nat} {bytes rest : Bytes} {key : UInt64} :
      varint bytes = .ok key rest → WireType.ofNat? (key.toNat % 8) = some .endGroup →
      GroupOpens outer rest depth → GroupOpens (outer + 1) bytes depth
  | skip {outer depth : Nat} {bytes mid rest : Bytes} {key : UInt64} {wireType : WireType} :
      varint bytes = .ok key mid → WireType.ofNat? (key.toNat % 8) = some wireType →
      skipPlain wireType mid = .ok () rest → GroupOpens outer rest depth →
      GroupOpens outer bytes depth

/-- What a group opens past the next key, if that is no deeper than it is itself. -/
def GroupOpens.after (outer : Nat) (key : UInt64) (bytes : Bytes) (depth : Nat) : Prop :=
  match WireType.ofNat? (key.toNat % 8) with
  | none => False
  | some .startGroup => GroupOpens (outer + 1) bytes depth
  | some .endGroup => ∃ outer', outer = outer' + 1 ∧ GroupOpens outer' bytes depth
  | some wireType => ∃ rest, skipPlain wireType bytes = .ok () rest ∧ GroupOpens outer rest depth

theorem groupOpens_iff {outer depth : Nat} {bytes rest : Bytes} {key : UInt64}
    (hk : varint bytes = .ok key rest) :
    GroupOpens outer bytes depth ↔ depth = outer + 1 ∨ GroupOpens.after outer key rest depth := by
  constructor
  · intro h
    cases h with
    | here => exact .inl rfl
    | start hk' hw h =>
      rw [hk] at hk'
      cases hk'
      exact .inr (by simpa only [GroupOpens.after, hw] using h)
    | finish hk' hw h =>
      rw [hk] at hk'
      cases hk'
      exact .inr (by simpa only [GroupOpens.after, hw] using ⟨_, rfl, h⟩)
    | @skip _ _ _ _ _ _ w hk' hw hs h =>
      rw [hk] at hk'
      cases hk'
      refine .inr ?_
      cases w
      case startGroup | endGroup => cases hs
      all_goals simpa only [GroupOpens.after, hw] using ⟨_, hs, h⟩
  · rintro (rfl | h)
    · exact .here outer bytes
    · unfold GroupOpens.after at h
      split at h
      · cases h
      · rename_i hw
        exact .start hk hw h
      · rename_i hw
        obtain ⟨outer', rfl, h⟩ := h
        exact .finish hk hw h
      · rename_i w _ _ hw
        obtain ⟨rest', hs, h⟩ := h
        exact .skip hk hw hs h

/-- The bytes are taken, unless they are too deep: then they are refused for the limit. -/
def TakesUnless (deep : Prop) (body : Reader α) (value : Bytes) : Prop :=
  (¬deep ∧ ∃ a, Takes body value a) ∨ (deep ∧ Fails body value .recursionLimitReached)

section TakesUnless

variable {deep deep' : Prop} {x : Reader α} {f : α → Reader β} {value : Bytes}

theorem TakesUnless.iff (h : TakesUnless deep x value) (hdeep : deep ↔ deep') :
    TakesUnless deep' x value := by
  unfold TakesUnless
  rwa [← hdeep]

theorem Takes.unless {a : α} (h : Takes x value a) : TakesUnless False x value :=
  .inl ⟨not_false, a, h⟩

theorem Fails.unless (h : Fails x value .recursionLimitReached) : TakesUnless True x value :=
  .inr ⟨trivial, h⟩

theorem TakesUnless.bind_right {first : Bytes} {a : α} (hx : Takes x first a)
    (h : TakesUnless deep (f a) value) : TakesUnless deep (x >>= f) (first ++ value) := by
  rcases h with ⟨hno, b, hb⟩ | ⟨hyes, hfails⟩
  · exact .inl ⟨hno, b, hx.bind hb⟩
  · exact .inr ⟨hyes, hfails.bind_right hx⟩

theorem TakesUnless.map {f : α → β} (h : TakesUnless deep x value) :
    TakesUnless deep (x >>= fun a => pure (f a)) value := by
  rcases h with ⟨hno, a, ha⟩ | ⟨hyes, hfails⟩
  · exact .inl ⟨hno, f a, ha.map (Takes.pure _)⟩
  · exact .inr ⟨hyes, hfails.bind_left⟩

end TakesUnless

/-- The group is too deep for `limit`: a nested group is, for the outermost is never refused. -/
def TooDeep (limit outer : Nat) (bytes : Bytes) : Prop :=
  ∃ depth, limit < depth ∧ 2 ≤ depth ∧ GroupOpens outer bytes depth

/-- A group that is open already is too deep exactly by what follows its next key. -/
theorem tooDeep_iff {limit outer : Nat} {bytes rest : Bytes} {key : UInt64}
    (hk : varint bytes = .ok key rest) (hopen : outer = 0 ∨ outer + 1 ≤ limit) :
    TooDeep limit outer bytes ↔
      ∃ depth, limit < depth ∧ 2 ≤ depth ∧ GroupOpens.after outer key rest depth := by
  constructor
  · rintro ⟨depth, hlimit, htwo, hopens⟩
    rcases (groupOpens_iff hk).1 hopens with rfl | hafter
    · omega
    · exact ⟨depth, hlimit, htwo, hafter⟩
  · rintro ⟨depth, hlimit, htwo, hafter⟩
    exact ⟨depth, hlimit, htwo, (groupOpens_iff hk).2 (.inr hafter)⟩

/-- Under another budget a group is skipped as it was, or refused because it is too deep. -/
theorem closeGroup_limit {budget limit outer : Nat} {value : Bytes}
    (h : closeGroup budget outer value = .ok () []) (hopen : outer = 0 ∨ outer + 1 ≤ limit) :
    TakesUnless (TooDeep limit outer value) (closeGroup limit outer) value := by
  have prepend {outer : Nat} {key : UInt64} {bytes more : Bytes} {deep : Prop}
      (hk : varint bytes = .ok key more)
      (h : TakesUnless deep (closeGroupAfter limit outer key) more) :
      TakesUnless deep (closeGroup limit outer) bytes := by
    obtain ⟨first, rfl, hfirst⟩ := isLocal_varint hk
    rw [closeGroup_eq]
    exact h.bind_right hfirst
  fun_induction closeGroup budget outer value with
  | case1 | case2 | case4 | case7 => cases h
  | case3 outer bytes key more hk _ hw hle ih =>
    rw [tooDeep_iff hk hopen]
    apply prepend hk
    simp only [closeGroupAfter, GroupOpens.after, hw]
    by_cases hfit : outer + 2 ≤ limit
    · rw [if_pos hfit]
      exact ih h (.inr hfit)
    · rw [if_neg hfit]
      have hdeep : TooDeep limit (outer + 1) more :=
        ⟨outer + 2, by omega, by omega, .here (outer + 1) more⟩
      exact (Fails.throw _ _).unless.iff (iff_of_true trivial hdeep)
  | case5 bytes key more hk _ hw =>
    cases h
    rw [tooDeep_iff hk hopen]
    apply prepend hk
    simp only [closeGroupAfter, GroupOpens.after, hw]
    apply (Takes.pure ()).unless.iff
    simp
  | case6 bytes key more hk _ hw outer ih =>
    rw [tooDeep_iff hk hopen]
    apply prepend hk
    simp only [closeGroupAfter, GroupOpens.after, hw]
    have hclosed := ih h (by omega)
    simpa [TooDeep] using hclosed
  | case8 outer bytes key more hk _ w hstart hend hw more' hs _ ih =>
    rw [tooDeep_iff hk hopen]
    apply prepend hk
    have hopens (depth : Nat) :
        GroupOpens.after outer key more depth ↔ GroupOpens outer more' depth := by
      cases w <;> simp_all [GroupOpens.after]
    simp only [closeGroupAfter_of_skipPlain hw hs, hopens]
    obtain ⟨first, rfl, hfirst⟩ := isLocal_skipPlain w hs
    exact (ih h hopen).bind_right hfirst

/-- A skipped value is a group too deep for the limit. -/
def DeepGroup (limit : Nat) (wireType : WireType) (value : Bytes) : Prop :=
  wireType = .startGroup ∧ TooDeep limit 0 value

theorem skipValue_limit {budget : Nat} (limit : Nat) {wireType : WireType} {value : Bytes}
    (h : Takes (skipValue budget wireType) value ()) :
    TakesUnless (DeepGroup limit wireType value) (skipValue limit wireType) value := by
  cases wireType
  case startGroup =>
    have hclose := h.ends
    apply (closeGroup_limit hclose (.inl rfl)).iff
    exact (and_iff_right rfl).symm
  all_goals exact .inl ⟨fun hdeep => (nomatch hdeep.1), (), h⟩

end ProtoPlan.Wire.Reader
