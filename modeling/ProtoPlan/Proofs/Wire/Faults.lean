import ProtoPlan.Proofs.Wire.Taking

/-!
With which faults a reader fails. What reads bytes alone fails with primitive faults only; a fault
that names a field or a message comes from where the name is given.
-/

namespace ProtoPlan.Wire

theorem Varint.isPrimitive_of_decodeWithin {limit : Nat} {bytes : Bytes} {fault : Fault}
    (h : decodeWithin limit bytes = .error fault) : fault.isPrimitive = true := by
  have hlength := length_within limit bytes
  rw [h] at hlength
  split at hlength
  · cases hlength
  · split at hlength <;> (cases hlength; rfl)

namespace Reader

/-- Whatever fault the reader fails with has the property. -/
def FailsWith (P : Fault → Prop) (body : Reader α) : Prop :=
  ∀ ⦃bytes fault rest⦄, body bytes = .error fault rest → P fault

section Compose

variable {P : Fault → Prop} {x : Reader α}

theorem FailsWith.pure (a : α) : FailsWith P (Pure.pure a : Reader α) := by
  intro bytes fault rest h
  cases h

theorem FailsWith.throw {fault : Fault} (hfault : P fault) :
    FailsWith P (throw fault : Reader α) := by
  intro bytes fault' rest h
  cases h
  exact hfault

theorem FailsWith.mono {Q : Fault → Prop} (h : FailsWith P x) (hPQ : ∀ fault, P fault → Q fault) :
    FailsWith Q x :=
  fun _ _ _ hfault => hPQ _ (h hfault)

theorem FailsWith.bind {f : α → Reader β} (hx : FailsWith P x) (hf : ∀ a, FailsWith P (f a)) :
    FailsWith P (x >>= f) := by
  intro bytes fault rest h
  simp only [Bind.bind, EStateM.bind] at h
  cases hrun : x bytes with
  | ok a mid =>
    rw [hrun] at h
    exact hf a h
  | error fault' mid =>
    rw [hrun] at h
    cases h
    exact hx hrun

theorem FailsWith.map {f : α → β} (hx : FailsWith P x) :
    FailsWith P (x >>= fun a => Pure.pure (f a)) :=
  hx.bind fun a => .pure (f a)

theorem FailsWith.expect {key : Key} {wireType : WireType} {field : String} (hx : FailsWith P x)
    (hmismatch : P (.wireTypeMismatch field key.wireType.toNat)) :
    FailsWith P (Reader.expect key wireType field x) := by
  unfold Reader.expect
  split
  · exact hx
  · exact .throw hmismatch

theorem FailsWith.within (hx : FailsWith P x) (span : Bytes) :
    FailsWith P (Reader.within span x) := by
  intro bytes fault rest h
  unfold Reader.within at h
  split at h
  · cases h
  · rename_i hfault
    cases h
    exact hx hfault

theorem FailsWith.drain {step : σ → Reader σ} (hstep : ∀ s, FailsWith P (step s)) (s : σ) :
    FailsWith P (Reader.drain step s) := by
  intro bytes fault rest h
  fun_induction Reader.drain step s bytes with
  | case1 => cases h
  | case2 s bytes hempty fault' rest' hs =>
    cases h
    exact hstep s hs
  | case3 s bytes hempty s' rest' hs hlt ih => exact ih h
  | case4 => cases h

theorem FailsWith.run (hx : FailsWith P x) {bytes : Bytes} {fault : Fault}
    (h : x.run bytes = .error fault) : P fault := by
  unfold Reader.run at h
  split at h
  · cases h
  · rename_i hfault
    cases h
    exact hx hfault

end Compose

/-- The reader fails with faults of the bytes alone. -/
abbrev FailsPlainly (body : Reader α) : Prop := FailsWith (·.isPrimitive = true) body

section Primitive

theorem failsPlainly_take (count : Nat) : FailsPlainly (take count) := by
  intro bytes fault rest h
  unfold take at h
  split at h
  · cases h
  · cases h
    rfl

theorem failsPlainly_varint : FailsPlainly varint := by
  intro bytes fault rest h
  unfold varint at h
  split at h
  · cases h
  · rename_i hdecode
    cases h
    exact Varint.isPrimitive_of_decodeWithin hdecode

theorem failsPlainly_length : FailsPlainly length := by
  refine failsPlainly_varint.bind fun value => ?_
  split
  · exact .pure _
  · exact .throw rfl

theorem failsPlainly_span : FailsPlainly span := failsPlainly_length.bind failsPlainly_take

theorem isPrimitive_of_splitKey {key : Nat} {fault : Fault} (h : splitKey key = .error fault) :
    fault.isPrimitive = true := by
  unfold splitKey at h
  repeat' split at h
  all_goals cases h
  all_goals rfl

theorem failsPlainly_key : FailsPlainly key := by
  refine failsPlainly_varint.bind fun value => ?_
  split
  · exact .pure _
  · rename_i fault hsplit
    exact .throw (isPrimitive_of_splitKey hsplit)

theorem failsPlainly_scalar (kind : Scalar) : FailsPlainly kind.read := by
  rcases scalar_read_eq kind with ⟨-, f, hf⟩ | ⟨-, f, hf⟩ | ⟨-, f, hf⟩
  · rw [hf]
    exact failsPlainly_varint.map
  · rw [hf]
    exact (failsPlainly_take 8).map
  · rw [hf]
    exact (failsPlainly_take 4).map

theorem failsPlainly_skipPlain (wireType : WireType) : FailsPlainly (skipPlain wireType) := by
  cases wireType with
  | varint =>
    change FailsPlainly skipVarint
    rw [skipVarint_eq]
    exact failsPlainly_varint.map
  | fixed64 => exact (failsPlainly_take 8).map
  | fixed32 => exact (failsPlainly_take 4).map
  | lengthDelimited => exact failsPlainly_length.bind fun count => (failsPlainly_take count).map
  | startGroup => exact .throw rfl
  | endGroup => exact .throw rfl

theorem failsPlainly_closeGroup (budget outer : Nat) : FailsPlainly (closeGroup budget outer) := by
  intro bytes fault rest h
  fun_induction closeGroup budget outer bytes with
  | case1 outer bytes fault' rest' hk =>
    cases h
    exact failsPlainly_varint hk
  | case2 | case4 =>
    cases h
    rfl
  | case3 outer bytes key more hk _ hw hle ih => exact ih h
  | case5 => cases h
  | case6 bytes key more hk _ hw outer ih => exact ih h
  | case7 outer bytes key more hk _ w hstart hend hw fault' rest' hs =>
    cases h
    exact failsPlainly_skipPlain w hs
  | case8 outer bytes key more hk _ w hstart hend hw more' hs _ ih => exact ih h

theorem failsPlainly_skipValue (budget : Nat) (wireType : WireType) :
    FailsPlainly (skipValue budget wireType) :=
  skipValue_cases (failsPlainly_closeGroup budget 0) failsPlainly_skipPlain wireType

end Primitive

section Message

variable {P : Fault → Prop} (hplain : ∀ fault : Fault, fault.isPrimitive = true → P fault)
include hplain

theorem FailsWith.text {field : String} (hutf8 : P (.invalidUtf8 field)) :
    FailsWith P (Reader.text field) := by
  refine (failsPlainly_span.mono hplain).bind fun bytes => ?_
  split
  · exact .pure _
  · exact .throw hutf8

theorem FailsWith.delimited {x : Reader α} (hx : FailsWith P x) :
    FailsWith P (Reader.delimited x) :=
  (failsPlainly_span.mono hplain).bind hx.within

theorem FailsWith.nested {body : Nat → Reader α} {budget : Nat}
    (h : ∀ lower, budget = lower + 1 → FailsWith P (body lower)) :
    FailsWith P (Reader.nested budget body) := by
  cases budget with
  | zero => exact .throw (hplain _ rfl)
  | succ lower => exact (h lower rfl).delimited hplain

/-- A message fails as one of its fields does, or for the bytes. -/
theorem FailsWith.fields {budget : Nat} {claimed : Key → σ → Option (Reader σ)}
    (unclaimed : Nat → Bytes → σ → σ)
    (hclaimed : ∀ key s body, claimed key s = some body → FailsWith P body) (s : σ) :
    FailsWith P (Reader.fields budget claimed unclaimed s) := by
  refine FailsWith.drain (fun s => ?_) s
  refine FailsWith.bind (fun _ _ _ h => by cases h) fun start => ?_
  refine (failsPlainly_key.mono hplain).bind fun key => ?_
  split
  · rename_i body hbody
    exact hclaimed key s body hbody
  · exact ((failsPlainly_skipValue budget key.wireType).mono hplain).bind fun _ =>
      FailsWith.bind (fun _ _ _ h => by cases h) fun _ => .pure _

end Message

end Reader

end ProtoPlan.Wire
