import ProtoPlan.Proofs.Wire.Varint
import ProtoPlan.Wire.Cursor

/-!
What is read goes by the bytes that are taken, and more bytes cure no fault but a truncation. The
second needs the first: what comes before the fault is read again from the longer bytes.
-/

namespace ProtoPlan.Wire

namespace Reader

/-- After the fault an end of the bytes is left. With more bytes the fault and the place where it
occurs remain, unless it is a truncation. -/
structure LastsOn (body : Reader α) (bytes : Bytes) (fault : Fault) (rest : Bytes) : Prop where
  suffix : rest <:+ bytes
  lasts : fault ≠ .truncated → ∀ more, body (bytes ++ more) = .error fault (rest ++ more)

/-- Each fault lasts where it occurs. -/
def FaultsLast (body : Reader α) : Prop :=
  ∀ ⦃bytes fault rest⦄, body bytes = .error fault rest → LastsOn body bytes fault rest

/-- A local reader leaves what follows its bytes. -/
theorem IsLocal.append {body : Reader α} (hbody : IsLocal body) {bytes rest : Bytes} {a : α}
    (h : body bytes = .ok a rest) (more : Bytes) : body (bytes ++ more) = .ok a (rest ++ more) := by
  obtain ⟨taken, rfl, htaken⟩ := hbody h
  rw [List.append_assoc]
  exact htaken _

section Compose

variable {x : Reader α} {f : α → Reader β} {bytes mid rest : Bytes} {fault : Fault}

theorem LastsOn.bind_left (h : LastsOn x bytes fault rest) :
    LastsOn (x >>= f) bytes fault rest := by
  refine ⟨h.suffix, fun hne more => ?_⟩
  simp only [bind, EStateM.bind, h.lasts hne more]

theorem LastsOn.bind_right {a : α} (hlocal : IsLocal x) (hx : x bytes = .ok a mid)
    (h : LastsOn (f a) mid fault rest) : LastsOn (x >>= f) bytes fault rest := by
  constructor
  · obtain ⟨taken, rfl, -⟩ := hlocal hx
    exact h.suffix.trans (List.suffix_append taken mid)
  · intro hne more
    simp only [bind, EStateM.bind, hlocal.append hx more, h.lasts hne more]

theorem lastsOn_throw (fault : Fault) (bytes : Bytes) :
    LastsOn (throw fault : Reader α) bytes fault bytes :=
  ⟨List.suffix_refl bytes, fun _ _ => rfl⟩

theorem FaultsLast.pure (a : α) : FaultsLast (Pure.pure a : Reader α) := by
  intro bytes fault rest h
  cases h

theorem FaultsLast.throw (fault : Fault) : FaultsLast (throw fault : Reader α) := by
  intro bytes _ rest h
  cases h
  exact lastsOn_throw fault bytes

theorem FaultsLast.bind (hlocal : IsLocal x) (hx : FaultsLast x) (hf : ∀ a, FaultsLast (f a)) :
    FaultsLast (x >>= f) := by
  intro bytes fault rest h
  simp only [Bind.bind, EStateM.bind] at h
  cases hrun : x bytes with
  | error fault' mid =>
    rw [hrun] at h
    cases h
    exact (hx hrun).bind_left
  | ok a mid =>
    rw [hrun] at h
    exact .bind_right hlocal hrun (hf a h)

theorem FaultsLast.map {g : α → β} (hlocal : IsLocal x) (hx : FaultsLast x) :
    FaultsLast (x >>= fun a => Pure.pure (g a)) :=
  .bind hlocal hx fun a => .pure (g a)

end Compose

section Values

theorem faultsLast_take (count : Nat) : FaultsLast (take count) := by
  intro bytes fault rest h
  unfold take at h
  split at h
  · cases h
  · cases h
    exact ⟨List.suffix_refl bytes, fun hne => absurd rfl hne⟩

/-- Ten bytes that all continue are still there when more follow. -/
theorem faultsLast_varint : FaultsLast varint := by
  intro bytes fault rest h
  rcases Varint.varint_cases Varint.maxLength bytes with
    ⟨init, last, rest', rfl, hinit, hlast, hlt⟩ | ⟨hle, hall⟩ | ⟨hlt, hall⟩
  · simp only [varint, Varint.decode, Varint.decodeWithin_varint hinit hlast hlt] at h
    cases h
  · simp only [varint, Varint.decode_overflow_iff.2 ⟨hle, hall⟩] at h
    cases h
    refine ⟨List.suffix_refl bytes, fun _ more => ?_⟩
    have hlong : Varint.maxLength ≤ (bytes ++ more).length := by
      rw [List.length_append]
      exact Nat.le_add_right_of_le hle
    have hfront : (bytes ++ more).take Varint.maxLength = bytes.take Varint.maxLength :=
      List.take_append_of_le_length hle
    rw [← hfront] at hall
    simp only [varint, Varint.decode_overflow_iff.2 ⟨hlong, hall⟩]
  · simp only [varint, Varint.decode_truncated_iff.2 ⟨hlt, hall⟩] at h
    cases h
    exact ⟨List.suffix_refl bytes, fun hne => absurd rfl hne⟩

theorem faultsLast_length : FaultsLast length := by
  refine .bind isLocal_varint faultsLast_varint fun value => ?_
  split
  · exact .pure _
  · exact .throw _

theorem faultsLast_span : FaultsLast span :=
  .bind isLocal_length faultsLast_length faultsLast_take

theorem faultsLast_text (field : String) : FaultsLast (text field) := by
  refine .bind isLocal_span faultsLast_span fun bytes => ?_
  split
  · exact .pure _
  · exact .throw _

theorem faultsLast_key : FaultsLast key := by
  refine .bind isLocal_varint faultsLast_varint fun value => ?_
  split
  · exact .pure _
  · exact .throw _

theorem faultsLast_scalar (kind : Scalar) : FaultsLast kind.read := by
  rcases scalar_read_eq kind with ⟨-, f, hf⟩ | ⟨-, f, hf⟩ | ⟨-, f, hf⟩
  · rw [hf]
    exact .map isLocal_varint faultsLast_varint
  · rw [hf]
    exact .map (isLocal_take 8) (faultsLast_take 8)
  · rw [hf]
    exact .map (isLocal_take 4) (faultsLast_take 4)

end Values

section Skipping

theorem faultsLast_skipBytes (count : Nat) : FaultsLast (skipBytes count) :=
  .map (isLocal_take count) (faultsLast_take count)

theorem faultsLast_skipPlain (wireType : WireType) : FaultsLast (skipPlain wireType) := by
  cases wireType with
  | varint =>
    rw [skipPlain, skipVarint_eq]
    exact .map isLocal_varint faultsLast_varint
  | fixed64 => exact faultsLast_skipBytes 8
  | fixed32 => exact faultsLast_skipBytes 4
  | lengthDelimited => exact .bind isLocal_length faultsLast_length faultsLast_skipBytes
  | startGroup | endGroup => exact .throw _

/-- However many keys the scanner has passed, it passes them again. -/
theorem faultsLast_closeGroup (budget outer : Nat) : FaultsLast (closeGroup budget outer) := by
  intro bytes
  have enter {outer : Nat} {key : UInt64} {bytes mid rest : Bytes} {fault : Fault}
      (hk : varint bytes = .ok key mid)
      (h : LastsOn (closeGroupAfter budget outer key) mid fault rest) :
      LastsOn (closeGroup budget outer) bytes fault rest := by
    rw [closeGroup_eq]
    exact .bind_right isLocal_varint hk h
  fun_induction closeGroup budget outer bytes with
  | case1 outer bytes fault rest hk =>
    intro _ _ h
    cases h
    rw [closeGroup_eq]
    exact (faultsLast_varint hk).bind_left
  | case2 outer bytes key mid hk _ hw =>
    intro fault rest h
    cases h
    apply enter hk
    simp only [closeGroupAfter, hw]
    exact lastsOn_throw _ mid
  | case3 outer bytes key mid hk _ hw hle ih =>
    intro fault rest h
    apply enter hk
    simp only [closeGroupAfter, hw, if_pos hle]
    exact ih h
  | case4 outer bytes key mid hk _ hw hle =>
    intro fault rest h
    cases h
    apply enter hk
    simp only [closeGroupAfter, hw, if_neg hle]
    exact lastsOn_throw _ mid
  | case5 =>
    intro fault rest h
    cases h
  | case6 bytes key mid hk _ hw outer ih =>
    intro fault rest h
    apply enter hk
    simp only [closeGroupAfter, hw]
    exact ih h
  | case7 outer bytes key mid hk _ w hstart hend hw fault' rest' hs =>
    intro fault rest h
    cases h
    apply enter hk
    rw [closeGroupAfter_of_value hw hstart hend]
    exact (faultsLast_skipPlain w hs).bind_left
  | case8 outer bytes key mid hk _ w hstart hend hw mid' hs _ ih =>
    intro fault rest h
    apply enter hk
    rw [closeGroupAfter_of_value hw hstart hend]
    exact .bind_right (isLocal_skipPlain w) hs (ih h)

theorem faultsLast_skipValue (budget : Nat) (wireType : WireType) :
    FaultsLast (skipValue budget wireType) :=
  skipValue_cases (faultsLast_closeGroup budget 0) faultsLast_skipPlain wireType

end Skipping

end Reader

namespace Cursor

/-- The steps that read or skip a single thing. -/
inductive IsRead : {α : Type} → (Cursor → Except Fault α × Cursor) → Prop where
  | varint : IsRead (·.read Reader.varint)
  | scalar (kind : Scalar) : IsRead (·.read kind.read)
  | length : IsRead (·.read Reader.length)
  | bytes : IsRead (·.read Reader.span)
  | text (field : String) : IsRead (·.read (Reader.text field))
  | key : IsRead (·.read Reader.key)
  | nested : IsRead nested
  | packed : IsRead packed
  | skip (wireType : WireType) : IsRead (·.skip wireType)

/-- At the cursor, what the step does is settled by what it takes. -/
structure LocalAt (run : Cursor → Except Fault α × Cursor) (c : Cursor) : Prop where
  /-- If it succeeds, it does so on any buffer with the bytes that it takes at the same place. -/
  takes : ∀ {a c'}, run c = (.ok a, c') →
    ∃ n, c.position + n ≤ c.buffer.length ∧ c' = { c with position := c.position + n } ∧
      ∀ buffer : Bytes, c.position + n ≤ buffer.length →
        (buffer.drop c.position).take n = c.unread.take n →
        run { c with buffer } = (.ok a, { c with buffer, position := c.position + n })
  /-- If it fails, and not for a truncation, then it fails so at the same place whatever is put
  after the buffer. -/
  fails : ∀ {fault c'}, run c = (.error fault, c') → fault ≠ .truncated →
    ∀ more, run { c with buffer := c.buffer ++ more } =
      (.error fault, { c' with buffer := c.buffer ++ more })

section LocalAt

variable {c : Cursor}

theorem localAt_read {body : Reader α} (hlocal : Reader.IsLocal body)
    (hlast : Reader.FaultsLast body) (hpos : c.position ≤ c.buffer.length) :
    LocalAt (·.read body) c := by
  constructor
  · intro a c' h
    obtain ⟨rest, hrun, rfl⟩ := read_eq_ok_iff.1 h
    obtain ⟨taken, hunread, htakes⟩ := hlocal hrun
    have hlength := congrArg List.length hunread
    rw [unread, List.length_drop, List.length_append] at hlength
    refine ⟨taken.length, by omega, ?_, ?_⟩
    · rw [mk.injEq]
      exact ⟨rfl, by omega, rfl⟩
    · intro buffer hbuffer hsame
      rw [hunread, List.take_left] at hsame
      have hdrop : ({ c with buffer } : Cursor).unread =
          taken ++ (buffer.drop c.position).drop taken.length := by
        nth_rewrite 1 [← hsame]
        exact (List.take_append_drop _ _).symm
      refine read_eq_ok_iff.2 ⟨_, hdrop ▸ htakes _, ?_⟩
      simp only [List.length_drop, mk.injEq, true_and, and_true]
      omega
  · intro fault c' h hne more
    obtain ⟨rest, hrun, rfl⟩ := read_eq_error_iff.1 h
    have hunread : ({ c with buffer := c.buffer ++ more } : Cursor).unread = c.unread ++ more :=
      List.drop_append_of_le_length hpos
    refine read_eq_error_iff.2 ⟨_, hunread ▸ (hlast hrun).lasts hne more, ?_⟩
    simp only [List.length_append, Nat.add_sub_add_right]

/-- What is made of the value and of how far the cursor went. -/
theorem LocalAt.map {run : Cursor → Except Fault α × Cursor}
    {run' : Cursor → Except Fault β × Cursor} {f : Nat → α → β} (h : LocalAt run c)
    (hrun' : ∀ buffer : Bytes, run' { c with buffer } =
      ((run { c with buffer }).1.map (f ((run { c with buffer }).2.position - c.position)),
        (run { c with buffer }).2)) : LocalAt run' c := by
  have hc : run' c = ((run c).1.map (f ((run c).2.position - c.position)), (run c).2) :=
    hrun' c.buffer
  constructor
  · intro b c' hb
    cases hrun : run c with | mk outcome moved
    rw [hc, hrun] at hb
    cases outcome with
    | error fault => cases hb
    | ok a =>
      obtain ⟨n, hn, rfl, hagree⟩ := h.takes hrun
      cases hb
      refine ⟨n, hn, rfl, ?_⟩
      intro buffer hbuffer hsame
      rw [hrun', hagree buffer hbuffer hsame]
      rfl
  · intro fault c' hfault hne more
    cases hrun : run c with | mk outcome moved
    rw [hc, hrun] at hfault
    cases outcome with
    | ok a => cases hfault
    | error fault' =>
      cases hfault
      rw [hrun', h.fails hrun hne more]
      rfl

theorem localAt_span (hpos : c.position ≤ c.buffer.length) : LocalAt (·.read Reader.span) c :=
  localAt_read Reader.isLocal_span Reader.faultsLast_span hpos

theorem localAt_nested (hpos : c.position ≤ c.buffer.length) : LocalAt nested c := by
  obtain ⟨buffer, position, budget⟩ := c
  cases budget with
  | zero =>
    constructor
    · intro a c' h
      cases h
    · intro fault c' h _ more
      cases h
      rfl
  | succ budget => exact (localAt_span hpos).map (f := fun _ => (ofBytes · budget)) fun _ => rfl

theorem localAt_packed (hpos : c.position ≤ c.buffer.length) : LocalAt packed c :=
  (localAt_span hpos).map (f := fun _ => (ofBytes · c.budget)) fun _ => rfl

theorem localAt_skip (hpos : c.position ≤ c.buffer.length) (wireType : WireType) :
    LocalAt (·.skip wireType) c := by
  have hread := localAt_read (Reader.isLocal_skipValue c.budget wireType)
    (Reader.faultsLast_skipValue c.budget wireType) hpos
  exact hread.map (f := fun n () => n) fun _ => rfl

end LocalAt

/-- Every read goes by the bytes that it takes: it succeeds with the same value on every buffer
that has them at the same place, also on one that ends right after them. A read that fails, and not
for a truncation, is not cured by more bytes. -/
theorem reads_local {run : Cursor → Except Fault α × Cursor} (hrun : IsRead run) (c : Cursor)
    (hpos : c.position ≤ c.buffer.length) : LocalAt run c := by
  cases hrun with
  | varint => exact localAt_read Reader.isLocal_varint Reader.faultsLast_varint hpos
  | scalar kind =>
    exact localAt_read (Reader.isLocal_scalar kind) (Reader.faultsLast_scalar kind) hpos
  | length => exact localAt_read Reader.isLocal_length Reader.faultsLast_length hpos
  | bytes => exact localAt_span hpos
  | text field =>
    exact localAt_read (Reader.isLocal_text field) (Reader.faultsLast_text field) hpos
  | key => exact localAt_read Reader.isLocal_key Reader.faultsLast_key hpos
  | nested => exact localAt_nested hpos
  | packed => exact localAt_packed hpos
  | skip wireType => exact localAt_skip hpos wireType

/-- A group of three bytes is skipped also where the buffer ends after it, whatever stands in front.
With one level of budget less the fault is found at its first key, so what comes later is not looked
at. -/
theorem reads_local_group :
    skip ⟨[0xff, 0x23, 0x24, 0x1c, 0x08], 1, 2⟩ .startGroup =
      (.ok 3, ⟨[0xff, 0x23, 0x24, 0x1c, 0x08], 4, 2⟩) ∧
    skip ⟨[0x00, 0x23, 0x24, 0x1c], 1, 2⟩ .startGroup =
      (.ok 3, ⟨[0x00, 0x23, 0x24, 0x1c], 4, 2⟩) ∧
    skip ⟨[0xff, 0x23], 1, 1⟩ .startGroup =
      (.error .recursionLimitReached, ⟨[0xff, 0x23], 2, 1⟩) ∧
    skip ⟨[0xff, 0x23, 0x24, 0x1c], 1, 1⟩ .startGroup =
      (.error .recursionLimitReached, ⟨[0xff, 0x23, 0x24, 0x1c], 2, 1⟩) := by
  have hskip : skip ⟨[0xff, 0x23, 0x24, 0x1c, 0x08], 1, 2⟩ .startGroup =
      (.ok 3, ⟨[0xff, 0x23, 0x24, 0x1c, 0x08], 4, 2⟩) := by cbv
  have hdeep : skip ⟨[0xff, 0x23], 1, 1⟩ .startGroup =
      (.error .recursionLimitReached, ⟨[0xff, 0x23], 2, 1⟩) := by cbv
  refine ⟨hskip, ?_, hdeep, ?_⟩
  · obtain ⟨n, -, hmoved, hagree⟩ :=
      (reads_local (.skip .startGroup) ⟨_, 1, 2⟩ (by decide)).takes hskip
    have hn : 3 = n := Nat.add_left_cancel (congrArg position hmoved)
    subst hn
    exact hagree [0x00, 0x23, 0x24, 0x1c] (by decide) (by decide)
  · exact (reads_local (.skip .startGroup) ⟨_, 1, 1⟩ (by decide)).fails hdeep (by decide)
      [0x24, 0x1c]

end Cursor

end ProtoPlan.Wire
