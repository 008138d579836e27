import ProtoPlan.Proofs.Wire.Nesting

/-!
Runs over the records of a message, whatever decoder makes them. A run over some records and then
over more is one run over all; on a buffer that ends inside a record every decoder finds the end of
the buffer.
-/

namespace ProtoPlan.Wire.Reader

section Loop

variable {step : σ → Reader σ} {state mid last : σ}

theorem drain_cons {piece : Bytes} (hne : piece ≠ []) (h : Takes (step state) piece mid)
    (rest : Bytes) : drain step state (piece ++ rest) = drain step mid rest := by
  have hfull : ¬(piece ++ rest).isEmpty := by simp [hne]
  have hlt : rest.length < (piece ++ rest).length := by
    have := List.length_pos_iff.2 hne
    rw [List.length_append]
    omega
  rw [drain, if_neg hfull, h rest]
  exact if_pos hlt

theorem drain_error {bytes left : Bytes} {fault : Fault} (hne : bytes ≠ [])
    (h : step state bytes = .error fault left) : drain step state bytes = .error fault left := by
  have hfull : ¬bytes.isEmpty := by simp [hne]
  rw [drain, if_neg hfull, h]

theorem Fails.drain {piece : Bytes} {fault : Fault} (hne : piece ≠ [])
    (h : Fails (step state) piece fault) : Fails (Reader.drain step state) piece fault := by
  intro rest
  obtain ⟨left, hleft⟩ := h rest
  exact ⟨left, drain_error (List.append_ne_nil_of_left_ne_nil hne rest) hleft⟩

/-- After a run over the pieces the loop goes on from the state that the run left. -/
theorem Steps.drain_append {pieces : List Bytes} (h : Steps step state pieces mid) (rest : Bytes) :
    Reader.drain step state (pieces.flatten ++ rest) = Reader.drain step mid rest := by
  induction h with
  | done => rfl
  | more hne ht _ ih => rw [List.flatten_cons, List.append_assoc, drain_cons hne ht, ih]

theorem Steps.split {before after : List Bytes} (h : Steps step state (before ++ after) last) :
    ∃ mid, Steps step state before mid ∧ Steps step mid after last := by
  induction before generalizing state with
  | nil => exact ⟨state, .done state, h⟩
  | cons piece before ih =>
    cases h with
    | more hne ht hmore =>
      obtain ⟨mid, hbefore, hafter⟩ := ih hmore
      exact ⟨mid, .more hne ht hbefore, hafter⟩

theorem Steps.exists_takes {pieces : List Bytes} (h : Steps step state pieces last) {piece : Bytes}
    (hmem : piece ∈ pieces) : ∃ state next, Takes (step state) piece next := by
  induction h with
  | done => cases hmem
  | @more state next last first pieces _ ht _ ih =>
    rcases List.mem_cons.1 hmem with rfl | hmem
    · exact ⟨state, next, ht⟩
    · exact ih hmem

/-- A loop whose input ends inside a piece of its run finds it truncated. -/
theorem Steps.truncated (hbreaks : ∀ state, Breaks (step state)) {pieces : List Bytes}
    (h : Steps step state pieces last) {k : Nat} (hk : k ≤ pieces.flatten.length)
    (hinside : ∀ before after, pieces = before ++ after → before.flatten.length ≠ k) :
    ∃ left, Reader.drain step state (pieces.flatten.take k) = .error .truncated left := by
  induction h generalizing k with
  | done => exact absurd (Nat.le_zero.1 hk).symm (hinside [] [] rfl)
  | @more state next last piece pieces hne ht hmore ih =>
    have hpos : k ≠ 0 := (hinside [] _ rfl).symm
    rw [List.flatten_cons, List.take_append]
    by_cases hlt : k < piece.length
    · have hcut : piece = piece.take k ++ piece.drop k := (List.take_append_drop k piece).symm
      have hmore : piece.drop k ≠ [] := by simpa using hlt
      have htaken : piece.take k ≠ [] := by simp [hpos, hne]
      obtain ⟨left, hleft⟩ := hbreaks state ht hcut hmore
      rw [Nat.sub_eq_zero_of_le (Nat.le_of_lt hlt), List.take_zero, List.append_nil]
      exact ⟨left, drain_error htaken hleft⟩
    · rw [List.take_of_length_le (Nat.not_lt.1 hlt), drain_cons hne ht]
      rw [List.flatten_cons, List.length_append] at hk
      apply ih (by omega)
      intro before after hsplit hlength
      apply hinside (piece :: before) after (by rw [hsplit, List.cons_append])
      rw [List.flatten_cons, List.length_append]
      omega

end Loop

/-- What holds of the state, and is kept by each step, holds where the loop ends. -/
theorem Ensures.drain {step : σ → Reader σ} {P : σ → Prop}
    (hstep : ∀ state, P state → Ensures (step state) P) {state : σ} (h : P state) :
    Ensures (Reader.drain step state) P := by
  intro bytes last rest hdrain
  induction hn : bytes.length using Nat.strongRecOn generalizing bytes state with
  | ind n ih =>
    subst hn
    rw [Reader.drain] at hdrain
    split at hdrain
    · cases hdrain
      exact h
    · split at hdrain
      · cases hdrain
      · rename_i next mid hs
        have hnext := hstep state h hs
        split at hdrain
        · rename_i hlt
          exact ih mid.length hlt hnext hdrain rfl
        · cases hdrain
          exact hnext

/-- A run over records goes over any of them from the first. -/
theorem Steps.initial {step : σ → Reader σ} {state last : σ} {before records : List Record}
    (hbefore : before <+: records) (h : Steps step state (records.map (·.raw)) last) :
    ∃ mid, Steps step state (before.map (·.raw)) mid ∧
      Reader.drain step state (before.flatMap (·.raw)) = .ok mid [] := by
  obtain ⟨after, rfl⟩ := hbefore
  rw [List.map_append] at h
  obtain ⟨mid, hmid, -⟩ := h.split
  have hdrain := hmid.drain
  rw [← List.flatMap_def] at hdrain
  exact ⟨mid, hmid, hdrain⟩

/-- The first `k` bytes are whole records. -/
def EndsRecord (records : List Record) (k : Nat) : Prop :=
  ∃ before, before <+: records ∧ (before.flatMap (·.raw)).length = k

theorem take_initial {before records : List Record} (h : before <+: records) :
    (records.flatMap (·.raw)).take (before.flatMap (·.raw)).length = before.flatMap (·.raw) := by
  obtain ⟨after, rfl⟩ := h
  rw [List.flatMap_append, List.take_left]

section Fields

variable {budget : Nat} {claimed : Key → σ → Option (Reader σ)}
  {unclaimed : Nat → Bytes → σ → σ} {state last : σ}

theorem Fails.later {step : σ → Reader σ} {state mid : σ} {r : Record} {rs : List Record}
    {fault : Fault} (hne : r.raw ≠ []) (ht : Takes (step state) r.raw mid)
    (h : Fails (Reader.drain step mid) (rs.flatMap (·.raw)) fault) :
    Fails (Reader.drain step state) ((r :: rs).flatMap (·.raw)) fault := by
  intro rest
  obtain ⟨left, hleft⟩ := h rest
  refine ⟨left, ?_⟩
  rw [List.flatMap_cons, List.append_assoc, drain_cons hne ht, hleft]

theorem Fails.now {step : σ → Reader σ} {state : σ} {r : Record} {fault : Fault}
    (hne : r.raw ≠ []) (h : Fails (step state) r.raw fault) (rs : List Record) :
    Fails (Reader.drain step state) ((r :: rs).flatMap (·.raw)) fault := by
  intro rest
  obtain ⟨left, hleft⟩ := h.drain hne (rs.flatMap (·.raw) ++ rest)
  refine ⟨left, ?_⟩
  rw [List.flatMap_cons, List.append_assoc]
  exact hleft

/-- Two loops over the same records, of which the second stops at the first record that is too
deep for it. -/
theorem Steps.unless {τ : Type} {step : σ → Reader σ} {step' : τ → Reader τ} {deep : Record → Prop}
    {found : Nat}
    (hstep : ∀ r s next t, Takes (record found) r.raw r → Takes (step s) r.raw next →
      TakesUnless (deep r) (step' t) r.raw)
    {rs : List Record} (hrs : ∀ r ∈ rs, Takes (record found) r.raw r) {state last : σ}
    (h : Steps step state (rs.map (·.raw)) last) (t : τ) :
    ((¬∃ r ∈ rs, deep r) ∧ ∃ last', Steps step' t (rs.map (·.raw)) last') ∨
      ((∃ r ∈ rs, deep r) ∧
        Fails (Reader.drain step' t) (rs.flatMap (·.raw)) .recursionLimitReached) := by
  induction rs generalizing state t with
  | nil => exact .inl ⟨by simp, t, .done t⟩
  | cons r rs ih =>
    cases h with
    | more hne ht hmore =>
      rcases hstep r state _ t (hrs r List.mem_cons_self) ht with ⟨hno, mid, hmid⟩ | ⟨hdeep, hfails⟩
      · rcases ih (fun r' hr' => hrs r' (List.mem_cons_of_mem r hr')) hmore mid with
          ⟨hrest, last', hlast⟩ | ⟨⟨r', hr', hdeep⟩, hfails⟩
        · refine .inl ⟨?_, last', .more hne hmid hlast⟩
          rintro ⟨r', hr', hdeep⟩
          rcases List.mem_cons.1 hr' with rfl | hr'
          · exact hno hdeep
          · exact hrest ⟨r', hr', hdeep⟩
        · exact .inr ⟨⟨r', List.mem_cons_of_mem r hr', hdeep⟩, hfails.later hne hmid⟩
      · exact .inr ⟨⟨r, List.mem_cons_self, hdeep⟩, hfails.now hne rs⟩

/-- What is left to do of a field once its key was read. -/
def fieldAfter (budget : Nat) (claimed : Key → σ → Option (Reader σ))
    (unclaimed : Nat → Bytes → σ → σ) (state : σ) (start : Bytes) (key : Key) : Reader σ :=
  match claimed key state with
  | some body => body
  | none => do
    skipValue budget key.wireType
    return unclaimed key.number (← since start) state

theorem field_eq (bytes : Bytes) :
    field budget claimed unclaimed state bytes =
      (key >>= fieldAfter budget claimed unclaimed state bytes) bytes := rfl

/-- After the key of a claimed field all is up to the body that claims it. -/
theorem Takes.field_claimed {keyBytes : Bytes} {k : Key} {body : Reader σ}
    (hk : Takes key keyBytes k) (hc : claimed k state = some body) (rest : Bytes) :
    Reader.field budget claimed unclaimed state (keyBytes ++ rest) = body rest := by
  rw [field_eq]
  simp only [Bind.bind, EStateM.bind, hk rest, fieldAfter, hc]

theorem ensures_field {P : σ → Prop}
    (hclaimed : ∀ key state body, P state → claimed key state = some body → Ensures body P)
    (hunclaimed : ∀ number raw state, P state → P (unclaimed number raw state)) {state : σ}
    (h : P state) : Ensures (Reader.field budget claimed unclaimed state) P := by
  intro bytes next rest hfield
  obtain ⟨key, mid, -, hcase⟩ := field_eq_ok_iff.1 hfield
  split at hcase
  · rename_i body hc
    exact hclaimed key state body h hc hcase
  · rw [hcase.2]
    exact hunclaimed _ _ state h

theorem ensures_fields {P : σ → Prop}
    (hclaimed : ∀ key state body, P state → claimed key state = some body → Ensures body P)
    (hunclaimed : ∀ number raw state, P state → P (unclaimed number raw state)) (h : P state) :
    Ensures (fields budget claimed unclaimed state) P :=
  Ensures.drain (fun _ hstate => ensures_field hclaimed hunclaimed hstate) h

theorem Fails.field {keyBytes value : Bytes} {k : Key} {fault : Fault}
    (hk : Takes key keyBytes k)
    (h : ∀ start, Fails (fieldAfter budget claimed unclaimed state start k) value fault) :
    Fails (Reader.field budget claimed unclaimed state) (keyBytes ++ value) fault := by
  intro rest
  rw [field_eq]
  exact (h _).bind_right hk rest

/-- All that claims a field goes by the frame of the value. -/
def ClaimsByFrame (claimed : Key → σ → Option (Reader σ)) : Prop :=
  ∀ ⦃key state body⦄, claimed key state = some body → ByFrame key.wireType body

variable (hframe : ClaimsByFrame claimed)
include hframe

theorem breaks_field (state : σ) : Breaks (field budget claimed unclaimed state) := by
  intro taken next h part more hparts hmore
  have hrun := h.ends
  obtain ⟨k, mid, hk, hcase⟩ := field_eq_ok_iff.1 hrun
  obtain ⟨keyBytes, rfl, hkey⟩ := isLocal_key hk
  have hafter (start : Bytes) :
      BreaksOn (fieldAfter budget claimed unclaimed state start k) mid := by
    unfold fieldAfter
    cases hc : claimed k state with
    | some body =>
      rw [hc] at hcase
      exact (hframe hc).breaks ((hframe hc).framed.isLocal.takes hcase)
    | none =>
      rw [hc] at hcase
      have htaken := (isLocal_skipValue budget k.wireType).takes hcase.1
      rw [← List.append_nil mid]
      exact .bind htaken (breaks_skipValue budget k.wireType htaken) (breaksOn_nil _)
  rw [field_eq]
  exact BreaksOn.bind hkey (breaks_key hkey) (hafter part) hparts hmore

variable (budget unclaimed)

/-- A record is taken by the body that claims its value, or its value is skipped. -/
theorem value_of_field {budget found : Nat} {unclaimed : Nat → Bytes → σ → σ} {r : Record}
    (hr : Takes (record found) r.raw r) {state next : σ}
    (h : Takes (field budget claimed unclaimed state) r.raw next) :
    match claimed r.key state with
    | some body => Takes body r.value next
    | none => Takes (skipValue budget r.key.wireType) r.value () := by
  obtain ⟨keyBytes, hraw, hkey, -⟩ := value_of_record hr
  have hrun := h.ends
  obtain ⟨k, mid, hk, hcase⟩ := field_eq_ok_iff.1 hrun
  rw [hraw, hkey] at hk
  cases hk
  cases hc : claimed r.key state with
  | some body =>
    rw [hc] at hcase
    exact (hframe hc).framed.isLocal.takes hcase
  | none =>
    rw [hc] at hcase
    exact (isLocal_skipValue budget r.key.wireType).takes hcase.1

/-- A record settles what a decoder does with it, whatever budget it was found with. -/
theorem field_settles {found : Nat} {r : Record} (hr : Takes (record found) r.raw r) (state : σ) :
    Settles (field budget claimed unclaimed state) r.raw := by
  obtain ⟨keyBytes, hraw, hkey, hskip⟩ := value_of_record hr
  rw [hraw]
  cases hc : claimed r.key state with
  | some body =>
    rcases (hframe hc).settles hskip with ⟨next, hbody⟩ | ⟨fault, hfails⟩
    · exact .inl ⟨next, hkey.field hc hbody⟩
    · refine .inr ⟨fault, Fails.field hkey fun start => ?_⟩
      rw [fieldAfter, hc]
      exact hfails
  | none =>
    rcases skipValue_limit budget hskip with ⟨-, ⟨⟩, htakes⟩ | ⟨-, hfails⟩
    · exact .inl ⟨_, hkey.field_unclaimed hc htakes⟩
    · refine .inr ⟨.recursionLimitReached, Fails.field hkey fun start => ?_⟩
      rw [fieldAfter, hc]
      exact hfails.bind_left

theorem steps_or_fails {found : Nat} {rs : List Record}
    (hrs : ∀ r ∈ rs, Takes (record found) r.raw r) (state : σ) :
    (∃ last, Steps (field budget claimed unclaimed) state (rs.map (·.raw)) last) ∨
      ∃ fault, Fails (fields budget claimed unclaimed state) (rs.flatMap (·.raw)) fault := by
  induction rs generalizing state with
  | nil => exact .inl ⟨state, .done state⟩
  | cons r rs ih =>
    have hr := hrs r List.mem_cons_self
    have hne := record_ne_nil hr
    rcases field_settles budget unclaimed hframe hr state with ⟨next, hnext⟩ | ⟨fault, hfails⟩
    · rcases ih (fun r' hr' => hrs r' (List.mem_cons_of_mem r hr')) next with
        ⟨last, hsteps⟩ | ⟨fault, hfails⟩
      · exact .inl ⟨last, .more hne hnext hsteps⟩
      · exact .inr ⟨fault, hfails.later hne hnext⟩
    · exact .inr ⟨fault, hfails.now hne rs⟩

variable {budget unclaimed}

/-- Records in one buffer are merged as they are in two, one after the other. -/
theorem run_fields_append {rs : List Record} {first : Bytes} (h : Cuts first rs) (state : σ)
    (second : Bytes) :
    (fields budget claimed unclaimed state).run (first ++ second) =
      (fields budget claimed unclaimed state).run first >>= fun mid =>
        (fields budget claimed unclaimed mid).run second := by
  obtain ⟨rfl, found, hrs⟩ := cuts_iff.1 h
  rcases steps_or_fails budget unclaimed hframe hrs state with ⟨mid, hsteps⟩ | ⟨fault, hfails⟩
  · have hfirst := hsteps.drain
    have hboth := hsteps.drain_append second
    rw [← List.flatMap_def] at hfirst hboth
    simp only [run, fields, hfirst, hboth, bind, Except.bind]
  · obtain ⟨left, hleft⟩ := hfails []
    rw [List.append_nil] at hleft
    obtain ⟨left', hleft'⟩ := hfails second
    simp only [run, hleft, hleft', bind, Except.bind]

/-- What a decoder took is what the scanner cuts the bytes into. -/
theorem records_of_fields {bytes rest : Bytes}
    (h : fields budget claimed unclaimed state bytes = .ok last rest) :
    ∃ rs : List Record, rs.flatMap (·.raw) = bytes ∧ (∀ r ∈ rs, Takes (record budget) r.raw r) ∧
      Steps (field budget claimed unclaimed) state (rs.map (·.raw)) last := by
  obtain ⟨-, pieces, rfl, hsteps⟩ := steps_of_fields (fun hc => (hframe hc).framed.isLocal) h
  clear h
  induction hsteps with
  | done state => exact ⟨[], rfl, by simp, .done state⟩
  | more hne ht _ ih =>
    obtain ⟨rs, hpieces, hrs, hsteps⟩ := ih
    obtain ⟨r, rfl, hr, -⟩ := record_of_field (fun hc => (hframe hc).framed.isLocal)
      (fun hc => (hframe hc).framed.follows_skipValue budget) ht
    refine ⟨r :: rs, by rw [List.flatMap_cons, hpieces, List.flatten_cons], ?_, ?_⟩
    · intro r' hr'
      rcases List.mem_cons.1 hr' with rfl | hr'
      · exact hr
      · exact hrs r' hr'
    · exact .more hne ht hsteps

/-- Bytes that end inside a record are found truncated. -/
theorem fields_truncated {rs : List Record}
    (h : Steps (field budget claimed unclaimed) state (rs.map (·.raw)) last) {k : Nat}
    (hk : k ≤ (rs.flatMap (·.raw)).length) (hinside : ¬EndsRecord rs k) :
    ∃ left, fields budget claimed unclaimed state ((rs.flatMap (·.raw)).take k) =
      .error .truncated left := by
  rw [List.flatMap_def] at hk ⊢
  refine h.truncated (breaks_field hframe) hk ?_
  intro before after hsplit hlength
  obtain ⟨rs₁, rs₂, rfl, rfl, -⟩ := List.map_eq_append_iff.1 hsplit
  exact hinside ⟨rs₁, List.prefix_append rs₁ rs₂, by rwa [List.flatMap_def]⟩

end Fields

end ProtoPlan.Wire.Reader
