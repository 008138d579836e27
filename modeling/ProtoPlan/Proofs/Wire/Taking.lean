import ProtoPlan.Wire.Fields
import ProtoPlan.Wire.Scalar

/-!
What a reader takes. `Takes body taken a` says that `body` reads `a` from exactly the bytes `taken`,
whatever follows them; a reader is local if each of its successes is of this form. All readers of
single values, keys and embedded messages are local, and so is the skipping of values.
-/

namespace ProtoPlan.Wire.Reader

/-- `body` reads `a` from exactly `taken`, whatever follows. -/
def Takes (body : Reader α) (taken : Bytes) (a : α) : Prop :=
  ∀ rest, body (taken ++ rest) = .ok a rest

/-- Whether `body` succeeds, and with what, is settled by the bytes that it takes. -/
def IsLocal (body : Reader α) : Prop :=
  ∀ ⦃bytes a rest⦄, body bytes = .ok a rest →
    ∃ taken, bytes = taken ++ rest ∧ Takes body taken a

/-- At the end of the bytes nothing is left of them. -/
theorem Takes.ends {body : Reader α} {taken : Bytes} {a : α} (h : Takes body taken a) :
    body taken = .ok a [] := by
  have hend := h []
  rwa [List.append_nil] at hend

theorem Takes.pure (a : α) : Takes (Pure.pure a) [] a := fun _ => rfl

theorem Takes.bind {x : Reader α} {f : α → Reader β} {first second : Bytes} {a : α} {b : β}
    (hx : Takes x first a) (hf : Takes (f a) second b) :
    Takes (x >>= f) (first ++ second) b := by
  intro rest
  rw [List.append_assoc, bind_eq_ok_iff]
  exact ⟨a, second ++ rest, hx _, hf rest⟩

/-- What follows a read without reading more does not change what is taken. -/
theorem Takes.map {x : Reader α} {f : α → Reader β} {taken : Bytes} {a : α} {b : β}
    (hx : Takes x taken a) (hf : Takes (f a) [] b) : Takes (x >>= f) taken b := by
  have h := hx.bind hf
  rwa [List.append_nil] at h

theorem Takes.unique {body : Reader α} {taken : Bytes} {a b : α} (ha : Takes body taken a)
    (hb : Takes body taken b) : a = b := by
  have h := (ha []).symm.trans (hb [])
  cases h
  rfl

/-- What is read of the bytes to their end is read of them whatever follows. -/
theorem IsLocal.takes {body : Reader α} (hbody : IsLocal body) {bytes : Bytes} {a : α}
    (h : body bytes = .ok a []) : Takes body bytes a := by
  obtain ⟨taken, htaken, htakes⟩ := hbody h
  rw [List.append_nil] at htaken
  rwa [htaken]

theorem IsLocal.pure (a : α) : IsLocal (Pure.pure a : Reader α) := by
  intro bytes b rest h
  cases h
  exact ⟨[], rfl, Takes.pure a⟩

theorem IsLocal.throw (fault : Fault) : IsLocal (throw fault : Reader α) := by
  intro bytes b rest h
  cases h

theorem IsLocal.bind {x : Reader α} {f : α → Reader β} (hx : IsLocal x)
    (hf : ∀ a, IsLocal (f a)) : IsLocal (x >>= f) := by
  intro bytes b rest h
  obtain ⟨a, mid, ha, hb⟩ := bind_eq_ok_iff.1 h
  obtain ⟨first, rfl, htx⟩ := hx ha
  obtain ⟨second, rfl, htf⟩ := hf a hb
  exact ⟨first ++ second, (List.append_assoc ..).symm, htx.bind htf⟩

theorem IsLocal.rest_le {body : Reader α} (hbody : IsLocal body) {bytes rest : Bytes} {a : α}
    (h : body bytes = .ok a rest) : rest.length ≤ bytes.length := by
  obtain ⟨taken, rfl, -⟩ := hbody h
  simp

/-- Whatever `body` reads has the property. -/
def Ensures (body : Reader α) (P : α → Prop) : Prop :=
  ∀ ⦃bytes a rest⦄, body bytes = .ok a rest → P a

theorem Ensures.pure {P : α → Prop} {a : α} (h : P a) : Ensures (Pure.pure a) P := by
  intro bytes b rest hb
  cases hb
  exact h

theorem Ensures.throw {P : α → Prop} (fault : Fault) : Ensures (throw fault : Reader α) P := by
  intro bytes a rest h
  cases h

theorem Ensures.bind {x : Reader α} {f : α → Reader β} {P : α → Prop} {Q : β → Prop}
    (hx : Ensures x P) (hf : ∀ a, P a → Ensures (f a) Q) : Ensures (x >>= f) Q := by
  intro bytes b rest h
  obtain ⟨a, mid, ha, hb⟩ := bind_eq_ok_iff.1 h
  exact hf a (hx ha) hb

/-- What follows a reader matters for the values alone that it yields. -/
theorem Ensures.bind_congr {x : Reader α} {f g : α → Reader β} {P : α → Prop} (h : Ensures x P)
    (hfg : ∀ a, P a → f a = g a) : x >>= f = x >>= g := by
  funext bytes
  simp only [Bind.bind, EStateM.bind]
  cases hx : x bytes with
  | ok a rest => exact congrFun (hfg a (h hx)) rest
  | error fault rest => rfl

/-- The property may lie in what is done with any value that is read. -/
theorem Ensures.map {x : Reader α} {f : α → β} {Q : β → Prop} (h : ∀ a, Q (f a)) :
    Ensures (x >>= fun a => Pure.pure (f a)) Q := by
  intro bytes b rest hb
  obtain ⟨a, mid, -, hb⟩ := bind_eq_ok_iff.1 hb
  cases hb
  exact h a

theorem run_eq_ok_iff {body : Reader α} {bytes : Bytes} {a : α} :
    body.run bytes = .ok a ↔ ∃ rest, body bytes = .ok a rest := by
  unfold run
  cases body bytes <;> simp

end ProtoPlan.Wire.Reader

namespace ProtoPlan.Wire.Varint

theorem decodeWithin_append {limit : Nat} {bytes : Bytes} {value : UInt64} {n : Nat}
    (h : decodeWithin limit bytes = .ok (value, n)) (rest : Bytes) :
    decodeWithin limit (bytes.take n ++ rest) = .ok (value, n) := by
  induction limit generalizing bytes value n with
  | zero => simp [decodeWithin] at h
  | succ limit ih =>
    cases bytes with
    | nil => simp [decodeWithin] at h
    | cons b more =>
      rw [decodeWithin] at h
      split at h
      · rename_i hb
        cases h
        simp [decodeWithin, hb]
      · rename_i hb
        cases hr : decodeWithin limit more with
        | error e => simp [hr, Except.map] at h
        | ok p =>
          obtain ⟨high, k⟩ := p
          rw [hr] at h
          cases h
          rw [List.take_succ_cons, List.cons_append, decodeWithin, if_neg hb, ih hr]
          rfl

theorem length_within (limit : Nat) (bytes : Bytes) :
    (decodeWithin limit bytes).map (·.2) =
      match (bytes.take limit).findIdx? (· < 128) with
      | some i => .ok (i + 1)
      | none => if limit ≤ bytes.length then .error .overflow else .error .truncated := by
  induction limit generalizing bytes with
  | zero => rfl
  | succ limit ih =>
    cases bytes with
    | nil => simp [decodeWithin, Except.map]
    | cons b more =>
      rw [decodeWithin, List.take_succ_cons, List.findIdx?_cons]
      by_cases hb : b < 128
      · simp [hb, Except.map]
      · have hmore := ih more
        cases hr : decodeWithin limit more with
        | error e =>
          rw [hr] at hmore
          cases hi : (more.take limit).findIdx? (· < 128) with
          | none => simpa [hb, hi, Except.map] using hmore
          | some i => simp [hi, Except.map] at hmore
        | ok p =>
          obtain ⟨high, k⟩ := p
          rw [hr] at hmore
          cases hi : (more.take limit).findIdx? (· < 128) with
          | none =>
            rw [hi] at hmore
            simp only [Except.map] at hmore
            split at hmore <;> cases hmore
          | some i =>
            rw [hi] at hmore
            have hk : k = i + 1 := Except.ok.inj hmore
            simp [hb, hk, Except.map]

/-- The length that is found without the value is the length of the varint, and the faults are the
same. -/
theorem length_eq (bytes : Bytes) : length bytes = (decode bytes).map (·.2) :=
  (length_within maxLength bytes).symm

end ProtoPlan.Wire.Varint

namespace ProtoPlan.Wire.Scalar

theorem wireType_ne_lengthDelimited (kind : Scalar) : kind.wireType ≠ .lengthDelimited := by
  cases kind <;> simp [wireType]

theorem wireType_ne_endGroup (kind : Scalar) : kind.wireType ≠ .endGroup := by
  cases kind <;> simp [wireType]

end ProtoPlan.Wire.Scalar

namespace ProtoPlan.Wire.Reader

theorem takes_take (taken : Bytes) : Takes (take taken.length) taken taken :=
  fun rest => take_append taken rest

theorem isLocal_take (count : Nat) : IsLocal (take count) := by
  intro bytes a rest h
  unfold take at h
  split at h
  · rename_i hle
    cases h
    refine ⟨bytes.take count, (List.take_append_drop count bytes).symm, ?_⟩
    have hlen : (bytes.take count).length = count := by simp [hle]
    have ht := takes_take (bytes.take count)
    rwa [hlen] at ht
  · cases h

theorem isLocal_varint : IsLocal varint := by
  intro bytes a rest h
  unfold varint at h
  split at h
  · rename_i value n hd
    cases h
    have hn := Varint.decode_length_le hd
    refine ⟨bytes.take n, (List.take_append_drop n bytes).symm, ?_⟩
    intro rest
    have hlen : (bytes.take n).length = n := by simp [hn.2]
    have happ : Varint.decode (bytes.take n ++ rest) = .ok (a, n) :=
      Varint.decodeWithin_append hd rest
    have hdrop : (bytes.take n ++ rest).drop n = rest := List.drop_left' hlen
    simp only [varint, happ, hdrop]
  · cases h

theorem isLocal_length : IsLocal length := by
  apply isLocal_varint.bind
  intro value
  split
  · exact IsLocal.pure _
  · exact IsLocal.throw _

theorem isLocal_span : IsLocal span := isLocal_length.bind isLocal_take

theorem isLocal_text (field : String) : IsLocal (text field) := by
  apply isLocal_span.bind
  intro bytes
  split
  · exact IsLocal.pure _
  · exact IsLocal.throw _

theorem isLocal_key : IsLocal key := by
  apply isLocal_varint.bind
  intro value
  split
  · exact IsLocal.pure _
  · exact IsLocal.throw _

/-- Every numeric kind is read through a varint or a fixed number of bytes, as its wire type
says. -/
theorem scalar_read_eq (kind : Scalar) :
    (kind.wireType = .varint ∧
      ∃ f : UInt64 → ScalarValue, kind.read = varint >>= fun v => pure (f v)) ∨
    (kind.wireType = .fixed64 ∧
      ∃ f : Bytes → ScalarValue, kind.read = take 8 >>= fun b => pure (f b)) ∨
    (kind.wireType = .fixed32 ∧
      ∃ f : Bytes → ScalarValue, kind.read = take 4 >>= fun b => pure (f b)) := by
  cases kind
  case fixed64 | sfixed64 | double =>
    refine .inr (.inl ⟨rfl, ?_⟩)
    simp only [Scalar.read, sfixed64, fixed64, bind_assoc, pure_bind]
    exact ⟨_, rfl⟩
  case fixed32 | sfixed32 | float =>
    refine .inr (.inr ⟨rfl, ?_⟩)
    simp only [Scalar.read, sfixed32, fixed32, bind_assoc, pure_bind]
    exact ⟨_, rfl⟩
  all_goals
    refine .inl ⟨rfl, ?_⟩
    simp only [Scalar.read, bool, int32, int64, uint32, uint64, sint32, sint64, bind_assoc,
      pure_bind]
    exact ⟨_, rfl⟩

theorem isLocal_scalar (kind : Scalar) : IsLocal kind.read := by
  rcases scalar_read_eq kind with ⟨-, f, hf⟩ | ⟨-, f, hf⟩ | ⟨-, f, hf⟩
  · rw [hf]
    exact isLocal_varint.bind fun _ => IsLocal.pure _
  · rw [hf]
    exact (isLocal_take 8).bind fun _ => IsLocal.pure _
  · rw [hf]
    exact (isLocal_take 4).bind fun _ => IsLocal.pure _

theorem Takes.delimited {body : Reader α} {taken span rest : Bytes} {a : α}
    (hspan : Takes Reader.span taken span) (h : body span = .ok a rest) :
    Takes (Reader.delimited body) taken a := by
  apply hspan.map
  intro more
  simp only [within, h, List.nil_append]

/-- What is read from a span cannot look past its end. -/
theorem isLocal_delimited (body : Reader α) : IsLocal (delimited body) := by
  intro bytes a rest h
  obtain ⟨span, mid, hs, hw⟩ := bind_eq_ok_iff.1 h
  unfold within at hw
  split at hw
  · rename_i hb
    cases hw
    obtain ⟨taken, rfl, ht⟩ := isLocal_span hs
    exact ⟨taken, rfl, ht.delimited hb⟩
  · cases hw

theorem Ensures.delimited {body : Reader α} {P : α → Prop} (h : Ensures body P) :
    Ensures (Reader.delimited body) P := by
  intro bytes a rest ha
  obtain ⟨span, mid, -, hw⟩ := bind_eq_ok_iff.1 ha
  unfold within at hw
  split at hw
  · rename_i hb
    cases hw
    exact h hb
  · cases hw

theorem Ensures.expect {key : Key} {wireType : WireType} {field : String} {body : Reader α}
    {P : α → Prop} (h : Ensures body P) : Ensures (Reader.expect key wireType field body) P := by
  unfold Reader.expect
  split
  · exact h
  · exact Ensures.throw _

/-- What is made of a value inside its span can be made outside. -/
theorem delimited_map (x : Reader α) (f : α → β) :
    delimited (x >>= fun a => pure (f a)) =
      delimited x >>= fun a => pure (f a) := by
  funext bytes
  simp only [delimited, bind, EStateM.bind]
  cases span bytes with
  | error fault rest => rfl
  | ok inner rest =>
    simp only [within, EStateM.bind]
    cases x inner <;> rfl

theorem expect_map (key : Key) (wireType : WireType) (field : String) (x : Reader α) (f : α → β) :
    expect key wireType field (x >>= fun a => pure (f a)) =
      expect key wireType field x >>= fun a => pure (f a) := by
  unfold expect
  split
  · rfl
  · rfl

theorem isLocal_skipBytes (count : Nat) : IsLocal (skipBytes count) :=
  (isLocal_take count).bind fun _ => IsLocal.pure _

theorem skipVarint_eq : skipVarint = varint >>= fun _ => pure () := by
  funext bytes
  simp only [skipVarint, Varint.length_eq, varint, bind, EStateM.bind]
  cases Varint.decode bytes <;> rfl

theorem isLocal_skipVarint : IsLocal skipVarint := by
  rw [skipVarint_eq]
  exact isLocal_varint.bind fun _ => IsLocal.pure _

theorem isLocal_skipPlain (wireType : WireType) : IsLocal (skipPlain wireType) := by
  cases wireType with
  | varint => exact isLocal_skipVarint
  | fixed64 => exact isLocal_skipBytes 8
  | fixed32 => exact isLocal_skipBytes 4
  | lengthDelimited => exact isLocal_length.bind isLocal_skipBytes
  | startGroup => exact IsLocal.throw _
  | endGroup => exact IsLocal.throw _

/-- What is left to do of a group once a key inside it was read. -/
def closeGroupAfter (budget outer : Nat) (key : UInt64) : Reader Unit :=
  match WireType.ofNat? (key.toNat % 8) with
  | none => throw (.invalidWireType (key.toNat % 8))
  | some .startGroup =>
    if outer + 2 ≤ budget then closeGroup budget (outer + 1) else throw .recursionLimitReached
  | some .endGroup =>
    match outer with
    | 0 => pure ()
    | outer + 1 => closeGroup budget outer
  | some wireType => do
    skipPlain wireType
    closeGroup budget outer

/-- A group is closed key by key. -/
theorem closeGroup_eq (budget outer : Nat) :
    closeGroup budget outer = varint >>= closeGroupAfter budget outer := by
  funext bytes
  rw [closeGroup]
  simp only [bind, EStateM.bind]
  split
  · rename_i fault more hk
    rw [hk]
  · rename_i key more hk
    rw [hk]
    cases hw : WireType.ofNat? (key.toNat % 8) with
    | none =>
      simp only [closeGroupAfter, hw]
      rfl
    | some w =>
      cases w
      case startGroup =>
        simp only [closeGroupAfter, hw]
        split <;> rfl
      case endGroup =>
        simp only [closeGroupAfter, hw]
        cases outer <;> rfl
      all_goals
        simp only [closeGroupAfter, hw, bind, EStateM.bind]
        split <;> rename_i hs <;> rw [hs]

theorem closeGroup_of_varint {budget outer : Nat} {bytes rest : Bytes} {key : UInt64}
    (hk : varint bytes = .ok key rest) :
    closeGroup budget outer bytes = closeGroupAfter budget outer key rest := by
  rw [closeGroup_eq]
  simp only [bind, EStateM.bind, hk]

/-- A value inside a group that is no group. -/
theorem closeGroupAfter_of_value {budget outer : Nat} {key : UInt64} {w : WireType}
    (hw : WireType.ofNat? (key.toNat % 8) = some w) (hstart : w ≠ .startGroup)
    (hend : w ≠ .endGroup) :
    closeGroupAfter budget outer key = skipPlain w >>= fun _ => closeGroup budget outer := by
  cases w
  case startGroup => exact absurd rfl hstart
  case endGroup => exact absurd rfl hend
  all_goals simp only [closeGroupAfter, hw]

/-- What can be skipped is no group. -/
theorem closeGroupAfter_of_skipPlain {budget outer : Nat} {key : UInt64} {w : WireType}
    (hw : WireType.ofNat? (key.toNat % 8) = some w) {bytes rest : Bytes}
    (hs : skipPlain w bytes = .ok () rest) :
    closeGroupAfter budget outer key = skipPlain w >>= fun _ => closeGroup budget outer := by
  apply closeGroupAfter_of_value hw
  · rintro rfl
    cases hs
  · rintro rfl
    cases hs

/-- The end of a group is found in the bytes of the group. -/
theorem isLocal_closeGroup (budget outer : Nat) : IsLocal (closeGroup budget outer) := by
  intro bytes
  -- A group is taken as the key and what follows it are, in the order in which they are met.
  have prepend {outer : Nat} {key : UInt64} {bytes more rest : Bytes}
      (hk : varint bytes = .ok key more)
      (h : ∃ taken, more = taken ++ rest ∧ Takes (closeGroupAfter budget outer key) taken ()) :
      ∃ taken, bytes = taken ++ rest ∧ Takes (closeGroup budget outer) taken () := by
    obtain ⟨first, rfl, hfirst⟩ := isLocal_varint hk
    obtain ⟨taken, rfl, ht⟩ := h
    refine ⟨first ++ taken, (List.append_assoc ..).symm, ?_⟩
    rw [closeGroup_eq]
    exact hfirst.bind ht
  fun_induction closeGroup budget outer bytes with
  | case1 | case2 | case4 | case7 =>
    intro a rest h
    cases h
  | case3 outer bytes key more hk _ hw hle ih =>
    intro a rest h
    apply prepend hk
    simpa [closeGroupAfter, hw, hle] using ih h
  | case5 bytes key more hk _ hw =>
    intro a rest h
    cases h
    apply prepend hk
    refine ⟨[], rfl, ?_⟩
    simpa only [closeGroupAfter, hw] using Takes.pure ()
  | case6 bytes key more hk _ hw outer ih =>
    intro a rest h
    apply prepend hk
    simpa [closeGroupAfter, hw] using ih h
  | case8 outer bytes key more hk _ w hstart hend hw more' hs _ ih =>
    intro a rest h
    apply prepend hk
    obtain ⟨first, rfl, hfirst⟩ := isLocal_skipPlain w hs
    obtain ⟨taken, rfl, ht⟩ := ih h
    refine ⟨first ++ taken, (List.append_assoc ..).symm, ?_⟩
    rw [closeGroupAfter_of_skipPlain hw (hfirst [])]
    exact hfirst.bind ht

/-- To skip a value is to skip a group or a plain value. -/
theorem skipValue_cases {P : Reader Unit → Prop} {budget : Nat} (hgroup : P (closeGroup budget 0))
    (hplain : ∀ wireType, P (skipPlain wireType)) (wireType : WireType) :
    P (skipValue budget wireType) := by
  cases wireType with
  | startGroup => exact hgroup
  | varint => exact hplain .varint
  | fixed64 => exact hplain .fixed64
  | fixed32 => exact hplain .fixed32
  | lengthDelimited => exact hplain .lengthDelimited
  | endGroup => exact hplain .endGroup

theorem isLocal_skipValue (budget : Nat) (wireType : WireType) :
    IsLocal (skipValue budget wireType) :=
  skipValue_cases (isLocal_closeGroup budget 0) isLocal_skipPlain wireType

end ProtoPlan.Wire.Reader
