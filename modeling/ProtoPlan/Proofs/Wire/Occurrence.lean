import ProtoPlan.Proofs.Wire.Runs

/-!
Length-delimited records and what is made of their payloads. What stands in the payload is read on
its own, so that two payloads that are read alike may stand for each other.
-/

namespace ProtoPlan.Wire.Reader

/-- `bytes` are a record of the number with that payload. -/
def Occurrence (number : Nat) (payload bytes : Bytes) : Prop :=
  ∃ keyBytes spanBytes, bytes = keyBytes ++ spanBytes ∧
    Takes key keyBytes ⟨number, .lengthDelimited⟩ ∧ Takes span spanBytes payload

/-- Of a span the reader makes what `read` makes of the payload. -/
def SpanReads (x : Reader α) (read : Bytes → Except Fault α) : Prop :=
  ∀ ⦃spanBytes payload⦄, Takes span spanBytes payload →
    match read payload with
    | .ok a => Takes x spanBytes a
    | .error fault => Fails x spanBytes fault

/-- The outcome of reading a payload with one level of nesting less. -/
def runNested (budget : Nat) (body : Nat → Reader α) (payload : Bytes) : Except Fault α :=
  match budget with
  | 0 => .error .recursionLimitReached
  | budget + 1 => (body budget).run payload

theorem spanReads_delimited (body : Reader α) : SpanReads (delimited body) body.run := by
  intro spanBytes payload hspan
  unfold run
  cases hbody : body payload with
  | ok a left => exact hspan.delimited hbody
  | error fault left =>
    have hwithin : Fails (within payload body) [] fault := by
      intro rest
      exact ⟨[] ++ rest, by simp only [within, hbody]⟩
    have hfails := Fails.bind_right (f := fun inner => within inner body) hspan hwithin
    rwa [List.append_nil] at hfails

theorem spanReads_nested (budget : Nat) (body : Nat → Reader α) :
    SpanReads (nested budget body) (runNested budget body) := by
  cases budget with
  | zero =>
    intro spanBytes payload _
    exact Fails.throw _ _
  | succ budget => exact spanReads_delimited (body budget)

theorem SpanReads.map {x : Reader α} {read : Bytes → Except Fault α} {f : α → β}
    (h : SpanReads x read) :
    SpanReads (x >>= fun a => pure (f a)) fun payload => f <$> read payload := by
  intro spanBytes payload hspan
  have hx := h hspan
  revert hx
  dsimp only
  cases read payload with
  | ok a => exact fun ha => ha.map (Takes.pure _)
  | error fault => exact fun hfails => hfails.bind_left

section Fields

variable {budget : Nat} {claimed : Key → σ → Option (Reader σ)}
  {unclaimed : Nat → Bytes → σ → σ} {state : σ} {number : Nat} {payload bytes : Bytes}

theorem Occurrence.ne_nil (h : Occurrence number payload bytes) : bytes ≠ [] := by
  obtain ⟨keyBytes, spanBytes, rfl, hkey, -⟩ := h
  exact List.append_ne_nil_of_left_ne_nil (ne_nil_of_key hkey) spanBytes

/-- A claimed record counts for what is read of its payload. -/
theorem run_fields_occurrence {x : Reader σ} {read : Bytes → Except Fault σ}
    (hc : claimed ⟨number, .lengthDelimited⟩ state = some x) (hx : SpanReads x read)
    (h : Occurrence number payload bytes) (rest : Bytes) :
    (fields budget claimed unclaimed state).run (bytes ++ rest) =
      read payload >>= fun next => (fields budget claimed unclaimed next).run rest := by
  have hne := h.ne_nil
  obtain ⟨keyBytes, spanBytes, rfl, hkey, hspan⟩ := h
  have hread := hx hspan
  revert hread
  cases read payload with
  | ok next =>
    intro hnext
    have htakes : Takes (field budget claimed unclaimed state) (keyBytes ++ spanBytes) next :=
      hkey.field hc hnext
    simp only [run, fields, drain_cons hne htakes rest, bind, Except.bind]
  | error fault =>
    intro hfails
    have hfield : Fails (field budget claimed unclaimed state) (keyBytes ++ spanBytes) fault := by
      refine Fails.field hkey fun start => ?_
      rw [fieldAfter, hc]
      exact hfails
    obtain ⟨left, hleft⟩ := hfield.drain hne rest
    simp only [run, fields, hleft, bind, Except.bind]

end Fields

end ProtoPlan.Wire.Reader
