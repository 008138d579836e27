import ProtoPlan.Proofs.Wire.Grammar
import ProtoPlan.Wire.Packed

/-!
The loop over a packed block and the count made before it. Each element that the loop reads has one
byte more in the count than what is left after it, so the count bounds the elements of any block;
where an element has no other bytes than those the count goes by, it is exact on a block that is
read to its end.
-/

namespace ProtoPlan.Wire

/-- The elements that are read off a block one after the other, and whether the block is read to its
end or a fault comes first. -/
inductive Elements (body : Reader α) : Bytes → List α → Except Fault Unit → Prop where
  | done : Elements body [] [] (.ok ())
  | fault {bytes rest : Bytes} {fault : Fault} : bytes ≠ [] → body bytes = .error fault rest →
      Elements body bytes [] (.error fault)
  | more {bytes rest : Bytes} {a : α} {values : List α} {outcome : Except Fault Unit} :
      bytes ≠ [] → body bytes = .ok a rest → Elements body rest values outcome →
      Elements body bytes (a :: values) outcome

namespace Elements

section Loop

variable {body : Reader α} {block : Bytes} {values : List α} {outcome : Except Fault Unit}

/-- A block has one list of elements and one end. -/
theorem unique {values' : List α} {outcome' : Except Fault Unit}
    (h : Elements body block values outcome) (h' : Elements body block values' outcome') :
    values = values' ∧ outcome = outcome' := by
  induction h generalizing values' with
  | done =>
    cases h' with
    | done => exact ⟨rfl, rfl⟩
    | fault hnil => exact absurd rfl hnil
    | more hnil => exact absurd rfl hnil
  | fault hnil hread =>
    cases h' with
    | done => exact absurd rfl hnil
    | fault _ hread' =>
      rw [hread] at hread'
      cases hread'
      exact ⟨rfl, rfl⟩
    | more _ hread' =>
      rw [hread] at hread'
      cases hread'
  | more hnil hread _ ih =>
    cases h' with
    | done => exact absurd rfl hnil
    | fault _ hread' =>
      rw [hread] at hread'
      cases hread'
    | more _ hread' hmore =>
      rw [hread] at hread'
      cases hread'
      obtain ⟨rfl, rfl⟩ := ih hmore
      exact ⟨rfl, rfl⟩

/-- A reader that takes something finds an end or a fault in every block. -/
theorem exists_of_shorter
    (hbody : ∀ {bytes rest : Bytes} {a : α}, body bytes = .ok a rest → rest.length < bytes.length)
    (block : Bytes) : ∃ values outcome, Elements body block values outcome := by
  induction hlength : block.length using Nat.strong_induction_on generalizing block with
  | _ n ih =>
    by_cases hnil : block = []
    · subst hnil
      exact ⟨[], .ok (), .done⟩
    · cases hread : body block with
      | error fault rest => exact ⟨[], .error fault, .fault hnil hread⟩
      | ok a rest =>
        obtain ⟨values, outcome, h⟩ := ih rest.length (hlength ▸ hbody hread) rest rfl
        exact ⟨a :: values, outcome, .more hnil hread h⟩

/-- The loop appends these elements, if it does not fail with that fault. -/
theorem elements_eq
    (hbody : ∀ {bytes rest : Bytes} {a : α}, body bytes = .ok a rest → rest.length < bytes.length)
    (h : Elements body block values outcome) (list : List α) :
    (Reader.elements body list).run block = outcome.map fun () => list ++ values := by
  induction h generalizing list with
  | done =>
    simp only [Reader.run, Reader.elements, Reader.drain_nil, List.append_nil]
    rfl
  | @fault bytes rest fault hnil hread =>
    have hempty : bytes.isEmpty = false := by simpa using hnil
    rw [Reader.run, Reader.elements, Reader.drain]
    simp only [hempty, Bool.false_eq_true, if_false, bind, EStateM.bind, hread]
    rfl
  | @more bytes rest a values outcome hnil hread _ ih =>
    have hempty : bytes.isEmpty = false := by simpa using hnil
    have hrest := ih (list ++ [a])
    rw [List.append_assoc, List.singleton_append] at hrest
    rw [← hrest, Reader.run, Reader.run, Reader.elements, Reader.drain]
    simp only [hempty, Bool.false_eq_true, if_false, bind, EStateM.bind, hread, pure, EStateM.pure,
      if_pos (hbody hread)]

theorem map (h : Elements body block values outcome) (f : α → β) :
    Elements (body >>= fun a => pure (f a)) block (values.map f) outcome := by
  induction h with
  | done => exact .done
  | @fault bytes rest fault hnil hread =>
    have hmapped : (body >>= fun a => pure (f a)) bytes = .error fault rest := by
      simp only [bind, EStateM.bind, hread]
    exact .fault hnil hmapped
  | @more bytes rest a _ _ hnil hread _ ih =>
    have hmapped : (body >>= fun a => pure (f a)) bytes = .ok (f a) rest :=
      Reader.bind_eq_ok_iff.2 ⟨a, rest, hread, rfl⟩
    exact .more hnil hmapped ih

variable {weigh : Bytes → Nat}

/-- There are no more elements than a weight of the block of which each takes some. -/
theorem length_le
    (hstep : ∀ {bytes rest : Bytes} {a : α}, body bytes = .ok a rest →
      weigh rest + 1 ≤ weigh bytes)
    (h : Elements body block values outcome) : values.length ≤ weigh block := by
  induction h with
  | done | fault => exact Nat.zero_le _
  | more _ hread _ ih => exact (Nat.succ_le_succ ih).trans (hstep hread)

/-- A block that is read to its end has as many elements as its weight, if each takes one. -/
theorem length_eq (hnil : weigh [] = 0)
    (hstep : ∀ {bytes rest : Bytes} {a : α}, body bytes = .ok a rest →
      weigh bytes = weigh rest + 1)
    (h : Elements body block values outcome) (hdone : outcome = .ok ()) :
    values.length = weigh block := by
  induction h with
  | done => exact hnil.symm
  | fault => cases hdone
  | more _ hread _ ih => rw [hstep hread, ← ih hdone, List.length_cons]

end Loop

end Elements

/-- A weight of blocks by which the elements of a kind are counted: an element takes one of it, or
of a kind whose elements may be longer than counted, at least one. -/
structure Scalar.Weighs (kind : Scalar) (weigh : Bytes → Nat) : Prop where
  hint : ∀ block, kind.elementCount.hint block = some (weigh block)
  nil : weigh [] = 0
  le_length : ∀ block, weigh block ≤ block.length
  step_le : ∀ {bytes rest : Bytes} {v : ScalarValue}, kind.read bytes = .ok v rest →
    weigh rest + 1 ≤ weigh bytes
  step_eq : kind ≠ .bool → ∀ {bytes rest : Bytes} {v : ScalarValue},
    kind.read bytes = .ok v rest → weigh bytes = weigh rest + 1

namespace Scalar

variable {kind : Scalar} {bytes rest : Bytes} {v : ScalarValue}

theorem read_take {count : Nat} {f : Bytes → ScalarValue}
    (hf : kind.read = Reader.take count >>= fun b => pure (f b))
    (h : kind.read bytes = .ok v rest) : rest.length + count = bytes.length := by
  rw [hf] at h
  obtain ⟨taken, mid, htaken, hv⟩ := Reader.bind_eq_ok_iff.1 h
  cases hv
  exact Reader.take_shorter htaken

theorem read_varint {f : UInt64 → ScalarValue}
    (hf : kind.read = Reader.varint >>= fun v => pure (f v)) (h : kind.read bytes = .ok v rest) :
    ∃ taken, bytes = taken ++ rest ∧ Varint.IsVarint taken := by
  rw [hf] at h
  obtain ⟨value, mid, hvalue, hv⟩ := Reader.bind_eq_ok_iff.1 h
  cases hv
  obtain ⟨taken, rfl, htaken⟩ := Reader.isLocal_varint hvalue
  exact ⟨taken, rfl, (Reader.takes_varint_iff.1 htaken).1⟩

theorem read_shorter (h : kind.read bytes = .ok v rest) : rest.length < bytes.length := by
  rcases Reader.scalar_read_eq kind with ⟨-, f, hf⟩ | ⟨-, f, hf⟩ | ⟨-, f, hf⟩
  · obtain ⟨taken, rfl, htaken⟩ := read_varint hf h
    have := List.length_pos_iff.2 htaken.ne_nil
    rw [List.length_append]
    omega
  · have := read_take hf h
    omega
  · have := read_take hf h
    omega

/-- However long a varint is, one byte ends it. -/
theorem countP_of_isVarint {taken : Bytes} (h : Varint.IsVarint taken) :
    taken.countP (· < 128) = 1 := by
  obtain ⟨init, last, rfl, hinit, hlast, -⟩ := h
  have hnone : init.countP (· < 128) = 0 := by
    rw [List.countP_eq_zero]
    intro b hb
    simpa using UInt8.not_lt.2 (hinit b hb)
  rw [List.countP_append, hnone, List.countP_singleton]
  simp [hlast]

theorem weighs_varint (hcount : kind.elementCount = .varintTerminators)
    {f : UInt64 → ScalarValue} (hf : kind.read = Reader.varint >>= fun v => pure (f v)) :
    kind.Weighs fun block => block.countP (· < 128) := by
  have hstep {bytes rest : Bytes} {v : ScalarValue} (h : kind.read bytes = .ok v rest) :
      bytes.countP (· < 128) = rest.countP (· < 128) + 1 := by
    obtain ⟨taken, rfl, htaken⟩ := read_varint hf h
    rw [List.countP_append, countP_of_isVarint htaken, Nat.add_comm]
  refine ⟨fun block => ?_, rfl, fun block => List.countP_le_length, fun h => (hstep h).ge,
    fun _ _ _ _ h => hstep h⟩
  rw [hcount]
  rfl

theorem weighs_take {width : Nat} (hcount : kind.elementCount = .fixedWidth (width + 1))
    {f : Bytes → ScalarValue} (hf : kind.read = Reader.take (width + 1) >>= fun b => pure (f b)) :
    kind.Weighs fun block => block.length / (width + 1) := by
  have hstep {bytes rest : Bytes} {v : ScalarValue} (h : kind.read bytes = .ok v rest) :
      bytes.length / (width + 1) = rest.length / (width + 1) + 1 := by
    rw [← read_take hf h, Nat.add_div_right _ (Nat.succ_pos width)]
  refine ⟨fun block => ?_, Nat.zero_div _, fun block => Nat.div_le_self _ _,
    fun h => (hstep h).ge, fun _ _ _ _ h => hstep h⟩
  rw [hcount]
  rfl

/-- A flag may be longer than the one byte that is counted for it. -/
theorem weighs_bool : bool.Weighs List.length :=
  ⟨fun _ => rfl, rfl, fun _ => Nat.le_refl _, read_shorter, fun hne => absurd rfl hne⟩

/-- Every kind is counted in a way that goes with how it is read. -/
theorem exists_weighs (kind : Scalar) : ∃ weigh, kind.Weighs weigh := by
  rcases Reader.scalar_read_eq kind with ⟨hw, f, hf⟩ | ⟨hw, f, hf⟩ | ⟨hw, f, hf⟩
  · by_cases hbool : kind = .bool
    · rw [hbool]
      exact ⟨_, weighs_bool⟩
    · have hcount : kind.elementCount = .varintTerminators := by
        cases kind <;> first | rfl | exact absurd rfl hbool | cases hw
      exact ⟨_, weighs_varint hcount hf⟩
  · exact ⟨_, weighs_take (by cases kind <;> first | rfl | cases hw) hf⟩
  · exact ⟨_, weighs_take (by cases kind <;> first | rfl | cases hw) hf⟩

/-- Elements are counted by a width just if each of them takes that many bytes. -/
theorem elementCount_eq_fixedWidth_iff (kind : Scalar) (width : Nat) :
    kind.elementCount = .fixedWidth width ↔ ∀ bytes v rest, kind.read bytes = .ok v rest →
      bytes.length = rest.length + width := by
  -- An element of a kind of fixed width can be read off as many zeros.
  have hfixed {count : Nat} {f : Bytes → ScalarValue}
      (hf : kind.read = Reader.take count >>= fun b => pure (f b))
      (hcount : kind.elementCount = .fixedWidth count) :
      kind.elementCount = .fixedWidth width ↔ ∀ bytes v rest, kind.read bytes = .ok v rest →
        bytes.length = rest.length + width := by
    rw [hcount]
    constructor
    · intro h bytes v rest hread
      cases h
      exact (read_take hf hread).symm
    · intro h
      have hzeros : kind.read (List.replicate count 0) = .ok (f (List.replicate count 0)) [] := by
        have htake := Reader.take_append (List.replicate count (0 : UInt8)) []
        rw [List.length_replicate, List.append_nil] at htake
        rw [hf]
        exact Reader.bind_eq_ok_iff.2 ⟨_, _, htake, rfl⟩
      have hlength := h _ _ _ hzeros
      rw [List.length_replicate, List.length_nil, Nat.zero_add] at hlength
      rw [hlength]
  rcases Reader.scalar_read_eq kind with ⟨hw, f, hf⟩ | ⟨hw, f, hf⟩ | ⟨hw, f, hf⟩
  · -- Zero is a varint of one byte, and of two if it is overlong.
    constructor
    · intro h
      cases kind <;> cases hw <;> cases h
    · intro h
      have hone := h [0] (f 0) [] (by rw [hf]; rfl)
      have htwo := h [128, 0] (f 0) [] (by rw [hf]; rfl)
      exact absurd (htwo.trans hone.symm) (by decide)
  · exact hfixed hf (by cases kind <;> first | rfl | cases hw)
  · exact hfixed hf (by cases kind <;> first | rfl | cases hw)

end Scalar

end ProtoPlan.Wire
