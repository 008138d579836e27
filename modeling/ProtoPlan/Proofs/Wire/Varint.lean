import ProtoPlan.Proofs.Wire.Encoding
import Mathlib.Algebra.BigOperators.Fin
import Mathlib.Tactic.Ring

/-!
What a varint is, told by its bytes alone: each but the last has the high bit set, there are ten at
most, and the low seven bits of each are a base-128 digit. Decoding finds exactly these, whether
the value is put together from the last byte down or from the first byte up.
-/

namespace ProtoPlan.Wire.Varint

/-- Bytes with the high bit set, and then one without; ten at most. -/
def IsVarint (bytes : Bytes) : Prop :=
  ∃ init last, bytes = init ++ [last] ∧ (∀ b ∈ init, 128 ≤ b) ∧ last < 128 ∧
    bytes.length ≤ maxLength

/-- The low seven bits of the bytes as base-128 digits, least significant first. -/
def number (bytes : Bytes) : Nat :=
  ∑ i : Fin bytes.length, bytes[i].toNat % 128 * 128 ^ i.val

section Number

theorem number_nil : number [] = 0 := rfl

theorem number_cons (b : UInt8) (bytes : Bytes) :
    number (b :: bytes) = b.toNat % 128 + 128 * number bytes := by
  have hhigh : 128 * number bytes =
      ∑ i : Fin bytes.length, bytes[i].toNat % 128 * 128 ^ (i.val + 1) := by
    rw [number, Finset.mul_sum]
    refine Finset.sum_congr rfl fun i _ => ?_
    rw [Nat.pow_succ]
    ring
  rw [hhigh, number]
  exact (Fin.sum_univ_succ fun i : Fin (bytes.length + 1) =>
    (b :: bytes)[i].toNat % 128 * 128 ^ i.val).trans (by simp)

theorem number_singleton {b : UInt8} (hb : b < 128) : number [b] = b.toNat := by
  have hlt : b.toNat < 128 := hb
  rw [number_cons, number_nil, Nat.mod_eq_of_lt hlt]
  rfl

/-- The seven bits of a byte below a number of which the high bits may be lost. -/
theorem or_shiftLeft (b : UInt8) (n : Nat) :
    ((b &&& 127).toUInt64 ||| UInt64.ofNat n <<< 7) = UInt64.ofNat (b.toNat % 128 + 128 * n) := by
  have hlow : (b &&& 127).toNat = b.toNat % 128 := by
    have hmask : (127 : UInt8).toNat = 2 ^ 7 - 1 := rfl
    rw [UInt8.toNat_and, hmask, Nat.and_two_pow_sub_one_eq_mod]
  have hhigh : (UInt64.ofNat n <<< 7).toNat = (n % 2 ^ 57) <<< 7 := by
    have hseven : (7 : UInt64).toNat % 64 = 7 := rfl
    rw [UInt64.toNat_shiftLeft, hseven, UInt64.toNat_ofNat', Nat.shiftLeft_eq, Nat.shiftLeft_eq]
    omega
  rw [← UInt64.toNat_inj, UInt64.toNat_or, UInt8.toNat_toUInt64, hlow, hhigh, Nat.or_comm,
    ← Nat.shiftLeft_add_eq_or_of_lt (Nat.mod_lt _ (by decide : 0 < 2 ^ 7)), UInt64.toNat_ofNat',
    Nat.shiftLeft_eq]
  omega

end Number

section Decoding

variable {limit n : Nat} {bytes : Bytes} {value : UInt64}

theorem decodeWithin_varint {init : Bytes} {last : UInt8} (hinit : ∀ b ∈ init, 128 ≤ b)
    (hlast : last < 128) (hlimit : init.length < limit) (rest : Bytes) :
    decodeWithin limit (init ++ last :: rest) =
      .ok (UInt64.ofNat (number (init ++ [last])), init.length + 1) := by
  induction init generalizing limit with
  | nil =>
    obtain ⟨limit, rfl⟩ := Nat.exists_eq_add_one_of_ne_zero (Nat.ne_zero_of_lt hlimit)
    have hvalue : last.toUInt64 = UInt64.ofNat last.toNat := by
      rw [← UInt64.toNat_inj, UInt8.toNat_toUInt64, UInt64.toNat_ofNat',
        Nat.mod_eq_of_lt (by have := last.toNat_lt; omega)]
    rw [List.nil_append, List.nil_append, decodeWithin, if_pos hlast, number_singleton hlast,
      hvalue]
    rfl
  | cons b init ih =>
    obtain ⟨limit, rfl⟩ := Nat.exists_eq_add_one_of_ne_zero (Nat.ne_zero_of_lt hlimit)
    obtain ⟨hb, hinit⟩ := List.forall_mem_cons.1 hinit
    rw [List.length_cons] at hlimit
    rw [List.cons_append, List.cons_append, decodeWithin, if_neg (UInt8.not_lt.2 hb),
      ih hinit (by omega), number_cons, ← or_shiftLeft]
    rfl

theorem decodeWithin_overflow (hlimit : limit ≤ bytes.length)
    (hbytes : ∀ b ∈ bytes.take limit, 128 ≤ b) : decodeWithin limit bytes = .error .overflow := by
  induction limit generalizing bytes with
  | zero => rfl
  | succ limit ih =>
    cases bytes with
    | nil => simp at hlimit
    | cons b bytes =>
      rw [List.take_succ_cons, List.forall_mem_cons] at hbytes
      rw [decodeWithin, if_neg (UInt8.not_lt.2 hbytes.1),
        ih (Nat.le_of_succ_le_succ hlimit) hbytes.2]
      rfl

theorem decodeWithin_truncated (hlimit : bytes.length < limit) (hbytes : ∀ b ∈ bytes, 128 ≤ b) :
    decodeWithin limit bytes = .error .truncated := by
  induction bytes generalizing limit with
  | nil =>
    obtain ⟨limit, rfl⟩ := Nat.exists_eq_add_one_of_ne_zero (Nat.ne_zero_of_lt hlimit)
    rfl
  | cons b bytes ih =>
    obtain ⟨limit, rfl⟩ := Nat.exists_eq_add_one_of_ne_zero (Nat.ne_zero_of_lt hlimit)
    obtain ⟨hb, hbytes⟩ := List.forall_mem_cons.1 hbytes
    rw [List.length_cons] at hlimit
    rw [decodeWithin, if_neg (UInt8.not_lt.2 hb), ih (by omega) hbytes]
    rfl

/-- Bytes start with a varint, or go on past the limit, or end before. -/
theorem varint_cases (limit : Nat) (bytes : Bytes) :
    (∃ init last rest, bytes = init ++ last :: rest ∧ (∀ b ∈ init, 128 ≤ b) ∧ last < 128 ∧
      init.length < limit) ∨
    (limit ≤ bytes.length ∧ ∀ b ∈ bytes.take limit, 128 ≤ b) ∨
    (bytes.length < limit ∧ ∀ b ∈ bytes, 128 ≤ b) := by
  induction limit generalizing bytes with
  | zero => exact .inr (.inl ⟨Nat.zero_le _, by simp⟩)
  | succ limit ih =>
    cases bytes with
    | nil => exact .inr (.inr ⟨Nat.succ_pos limit, by simp⟩)
    | cons b bytes =>
      by_cases hb : b < 128
      · exact .inl ⟨[], b, bytes, rfl, by simp, hb, Nat.succ_pos limit⟩
      · have hb : 128 ≤ b := UInt8.not_lt.1 hb
        rcases ih bytes with ⟨init, last, rest, rfl, hinit, hlast, hlt⟩ | ⟨hle, hall⟩ | ⟨hlt, hall⟩
        · refine .inl ⟨b :: init, last, rest, rfl, ?_, hlast, Nat.succ_lt_succ hlt⟩
          exact List.forall_mem_cons.2 ⟨hb, hinit⟩
        · refine .inr (.inl ⟨Nat.succ_le_succ hle, ?_⟩)
          rw [List.take_succ_cons]
          exact List.forall_mem_cons.2 ⟨hb, hall⟩
        · exact .inr (.inr ⟨Nat.succ_lt_succ hlt, List.forall_mem_cons.2 ⟨hb, hall⟩⟩)

theorem decode_overflow_iff :
    decode bytes = .error .overflow ↔
      maxLength ≤ bytes.length ∧ ∀ b ∈ bytes.take maxLength, 128 ≤ b := by
  constructor
  · intro h
    rcases varint_cases maxLength bytes with
      ⟨init, last, rest, rfl, hinit, hlast, hlt⟩ | hmany | ⟨hlt, hall⟩
    · rw [decode, decodeWithin_varint hinit hlast hlt] at h
      cases h
    · exact hmany
    · rw [decode, decodeWithin_truncated hlt hall] at h
      cases h
  · rintro ⟨hle, hall⟩
    exact decodeWithin_overflow hle hall

theorem decode_truncated_iff :
    decode bytes = .error .truncated ↔ bytes.length < maxLength ∧ ∀ b ∈ bytes, 128 ≤ b := by
  constructor
  · intro h
    rcases varint_cases maxLength bytes with
      ⟨init, last, rest, rfl, hinit, hlast, hlt⟩ | ⟨hle, hall⟩ | hfew
    · rw [decode, decodeWithin_varint hinit hlast hlt] at h
      cases h
    · rw [decode, decodeWithin_overflow hle hall] at h
      cases h
    · exact hfew
  · rintro ⟨hlt, hall⟩
    exact decodeWithin_truncated hlt hall

theorem IsVarint.length_le (h : IsVarint bytes) : bytes.length ≤ maxLength := by
  obtain ⟨_, _, -, -, -, hlength⟩ := h
  exact hlength

theorem IsVarint.decode {taken : Bytes} (h : IsVarint taken) (rest : Bytes) :
    decode (taken ++ rest) = .ok (UInt64.ofNat (number taken), taken.length) := by
  obtain ⟨init, last, rfl, hinit, hlast, hlength⟩ := h
  rw [List.length_append] at hlength
  rw [List.append_assoc, List.singleton_append, Varint.decode,
    decodeWithin_varint hinit hlast hlength, List.length_append]
  rfl

theorem decode_eq_ok_iff :
    decode bytes = .ok (value, n) ↔
      ∃ taken, taken <+: bytes ∧ IsVarint taken ∧ taken.length = n ∧
        value = UInt64.ofNat (number taken) := by
  constructor
  · intro h
    rcases varint_cases maxLength bytes with
      ⟨init, last, rest, rfl, hinit, hlast, hlt⟩ | ⟨hle, hall⟩ | ⟨hlt, hall⟩
    · rw [decode, decodeWithin_varint hinit hlast hlt] at h
      cases h
      refine ⟨init ++ [last], ⟨rest, by simp⟩, ⟨init, last, rfl, hinit, hlast, ?_⟩, ?_, rfl⟩
      · rw [List.length_append]
        exact hlt
      · rw [List.length_append]
        rfl
    · rw [decode, decodeWithin_overflow hle hall] at h
      cases h
    · rw [decode, decodeWithin_truncated hlt hall] at h
      cases h
  · rintro ⟨taken, ⟨rest, rfl⟩, htaken, rfl, rfl⟩
    exact htaken.decode rest

end Decoding

section Loop

/-- The loop from the first byte up: `value` holds what was read so far, and the digits to come
belong above the lowest `shift` bits. -/
def accumulate (value : UInt64) (shift length : Nat) (bytes : Bytes) :
    Except Fault (UInt64 × Nat) :=
  if 64 ≤ shift then .error .overflow
  else
    match bytes with
    | [] => .error .truncated
    | b :: rest =>
      let next := value ||| (b &&& 127).toUInt64 <<< UInt64.ofNat shift
      if b < 128 then .ok (next, length + 1) else accumulate next (shift + 7) (length + 1) rest

/-- A first byte that does not continue is the number; all else is left to the loop. -/
def decodeByLoop (bytes : Bytes) : Except Fault (UInt64 × Nat) :=
  match bytes with
  | b :: _ => if b < 128 then .ok (b.toUInt64, 1) else accumulate 0 0 0 bytes
  | [] => accumulate 0 0 0 bytes

/-- A digit above what was read, and a number above the digit. -/
theorem or_or_shiftLeft (value low high : UInt64) {shift : Nat} (hshift : shift + 7 < 64) :
    value ||| low <<< UInt64.ofNat shift ||| high <<< UInt64.ofNat (shift + 7) =
      value ||| (low ||| high <<< 7) <<< UInt64.ofNat shift := by
  have hamount {k : Nat} (hk : k < 64) : (UInt64.ofNat k).toNat % 64 = k := by
    rw [UInt64.toNat_ofNat']
    omega
  have hseven : (7 : UInt64).toNat % 64 = 7 := rfl
  rw [UInt64.or_assoc]
  congr 1
  rw [← UInt64.toNat_inj]
  simp only [UInt64.toNat_or, UInt64.toNat_shiftLeft, hamount hshift,
    hamount (show shift < 64 by omega), hseven]
  apply Nat.eq_of_testBit_eq
  intro i
  simp only [Nat.testBit_or, Nat.testBit_mod_two_pow, Nat.testBit_shiftLeft]
  grind

theorem and_mask {b : UInt8} (hb : b < 128) : b &&& 127 = b := by
  have hlt : b.toNat < 128 := hb
  have hmask : (127 : UInt8).toNat = 2 ^ 7 - 1 := rfl
  rw [← UInt8.toNat_inj, UInt8.toNat_and, hmask, Nat.and_two_pow_sub_one_eq_mod]
  omega

theorem accumulate_eq {value : UInt64} {done limit : Nat} {bytes : Bytes}
    (hdone : done + limit = maxLength) :
    accumulate value (7 * done) done bytes =
      (decodeWithin limit bytes).map fun (high, length) =>
        (value ||| high <<< UInt64.ofNat (7 * done), done + length) := by
  unfold maxLength at hdone
  induction limit generalizing value done bytes with
  | zero =>
    rw [accumulate.eq_def, if_pos (by omega)]
    rfl
  | succ limit ih =>
    rw [accumulate.eq_def, if_neg (by omega)]
    cases bytes with
    | nil => rfl
    | cons b bytes =>
      rw [decodeWithin]
      by_cases hb : b < 128
      · simp only [if_pos hb, and_mask hb, Except.map]
      · have hshift : 7 * done + 7 = 7 * (done + 1) := rfl
        simp only [if_neg hb]
        rw [hshift, ih (by omega)]
        cases hmore : decodeWithin limit bytes with
        | error fault => rfl
        | ok found =>
          have hlimit : limit ≠ 0 := by
            rintro rfl
            cases hmore
          simp only [Except.map]
          rw [← hshift, or_or_shiftLeft _ _ _ (by omega), Nat.add_right_comm, Nat.add_assoc]

theorem decodeByLoop_eq (bytes : Bytes) : decodeByLoop bytes = decode bytes := by
  have hloop : accumulate 0 0 0 bytes = decode bytes := by
    have hkeep : (fun (high, length) => (0 ||| high <<< UInt64.ofNat (7 * 0), 0 + length)) =
        (id : UInt64 × Nat → UInt64 × Nat) := by
      funext ⟨high, length⟩
      simp
    have hstart := @accumulate_eq 0 0 maxLength bytes (Nat.zero_add maxLength)
    rw [hkeep] at hstart
    rw [decode, hstart]
    cases decodeWithin maxLength bytes <;> rfl
  cases bytes with
  | nil => exact hloop
  | cons b bytes =>
    rw [decodeByLoop]
    split
    · rename_i hb
      rw [decode, maxLength, decodeWithin, if_pos hb]
    · exact hloop

end Loop

section Padding

/-- An encoding with so many redundant bytes after it: all bytes before them continue, and so do
they but for the last. -/
def pad : (count : Nat) → Bytes → Bytes
  | 0, bytes => bytes
  | count + 1, bytes => (pad count bytes).map (· ||| 128) ++ [0]

theorem toNat_continued (b : UInt8) : (b ||| 128).toNat = b.toNat % 128 + 128 := by
  have hbit : (b ||| 128).toNat = b.toNat ||| 128 := by rw [UInt8.toNat_or]; rfl
  have hall : ∀ n : Fin 256, n.val ||| 128 = n.val % 128 + 128 := by decide +kernel
  rw [hbit]
  exact hall ⟨b.toNat, b.toNat_lt⟩

theorem number_continued (bytes : Bytes) : number (bytes.map (· ||| 128)) = number bytes := by
  induction bytes with
  | nil => rfl
  | cons b bytes ih =>
    rw [List.map_cons, number_cons, number_cons, ih, toNat_continued]
    omega

theorem number_append_zero (bytes : Bytes) : number (bytes ++ [0]) = number bytes := by
  induction bytes with
  | nil => rfl
  | cons b bytes ih => rw [List.cons_append, number_cons, number_cons, ih]

theorem length_pad (count : Nat) (bytes : Bytes) :
    (pad count bytes).length = bytes.length + count := by
  induction count with
  | zero => rfl
  | succ count ih =>
    rw [pad, List.length_append, List.length_map, ih]
    rfl

theorem number_pad (count : Nat) (bytes : Bytes) : number (pad count bytes) = number bytes := by
  induction count with
  | zero => rfl
  | succ count ih => rw [pad, number_append_zero, number_continued, ih]

theorem IsVarint.pad {bytes : Bytes} (h : IsVarint bytes) {count : Nat}
    (hcount : bytes.length + count ≤ maxLength) : IsVarint (pad count bytes) := by
  cases count with
  | zero => exact h
  | succ count =>
    refine ⟨(Varint.pad count bytes).map (· ||| 128), 0, rfl, ?_, by decide, ?_⟩
    · rw [List.forall_mem_map]
      intro b _
      rw [UInt8.le_iff_toNat_le, toNat_continued]
      exact Nat.le_add_left _ _
    · rwa [length_pad]

theorem isVarint_encode {n : Nat} (hn : n < 2 ^ 64) : IsVarint (encode n) := by
  have hdecode := decode_encode hn []
  rw [List.append_nil] at hdecode
  obtain ⟨taken, htaken, hvarint, hlength, -⟩ := decode_eq_ok_iff.1 hdecode
  rwa [← htaken.eq_of_length hlength]

theorem number_encode (n : Nat) : number (encode n) = n := by
  fun_induction encode n with
  | case1 n hn =>
    have hbyte : (UInt8.ofNat n).toNat = n := by
      rw [UInt8.toNat_ofNat']
      omega
    rw [number_singleton (by rwa [UInt8.lt_iff_toNat_lt, hbyte]), hbyte]
  | case2 n hn ih =>
    rw [number_cons, ih, UInt8.toNat_ofNat']
    omega

end Padding

/-- Decoding finds the varint at the front of the bytes, if there is one, and its value as a number
of 64 bits. It reports an overflow exactly if ten bytes continue, and the end of the bytes exactly
if fewer are there and all continue. The loop that starts with the first byte does the same, and so
does what finds the length alone; and what was encoded, with any redundant bytes that still make
ten, is decoded again whatever follows it. -/
theorem decode_exact (bytes : Bytes) :
    (∀ value n, decode bytes = .ok (value, n) ↔
      ∃ taken, taken <+: bytes ∧ IsVarint taken ∧ taken.length = n ∧
        value.toNat = number taken % 2 ^ 64) ∧
    (decode bytes = .error .overflow ↔
      maxLength ≤ bytes.length ∧ ∀ b ∈ bytes.take maxLength, 128 ≤ b) ∧
    (decode bytes = .error .truncated ↔ bytes.length < maxLength ∧ ∀ b ∈ bytes, 128 ≤ b) ∧
    decodeByLoop bytes = decode bytes ∧
    length bytes = (decode bytes).map (·.2) ∧
    ∀ value : UInt64, (encode value.toNat).length ≤ maxLength ∧
      ∀ count, (encode value.toNat).length + count ≤ maxLength →
        decode (pad count (encode value.toNat) ++ bytes) =
          .ok (value, (encode value.toNat).length + count) := by
  refine ⟨fun value n => ?_, decode_overflow_iff, decode_truncated_iff, decodeByLoop_eq bytes,
    length_eq bytes, fun value => ?_⟩
  · simp only [decode_eq_ok_iff, ← UInt64.toNat_inj, UInt64.toNat_ofNat']
  · have hvarint := isVarint_encode value.toNat_lt
    refine ⟨hvarint.length_le, fun count hcount => ?_⟩
    rw [(hvarint.pad hcount).decode bytes, number_pad, number_encode, length_pad,
      UInt64.ofNat_toNat]

example : decode (pad 2 (encode 300) ++ [7]) = .ok (300, 4) := by cbv

end ProtoPlan.Wire.Varint

namespace ProtoPlan.Wire.Reader

/-- What is read as a varint is one. -/
theorem takes_varint_iff {taken : Bytes} {value : UInt64} :
    Takes varint taken value ↔
      Varint.IsVarint taken ∧ value = UInt64.ofNat (Varint.number taken) := by
  constructor
  · intro h
    have hrun := h.ends
    unfold varint at hrun
    split at hrun
    · rename_i value' n hdecode
      obtain ⟨rfl, hdrop⟩ := EStateM.Result.ok.inj hrun
      obtain ⟨front, hfront, hvarint, rfl, hvalue⟩ := Varint.decode_eq_ok_iff.1 hdecode
      have hwhole : front = taken :=
        hfront.eq_of_length_le (List.drop_eq_nil_iff.1 hdrop)
      rw [hwhole] at hvarint hvalue
      exact ⟨hvarint, hvalue⟩
    · cases hrun
  · rintro ⟨hvarint, rfl⟩ rest
    simp only [varint, hvarint.decode rest, List.drop_left]

end ProtoPlan.Wire.Reader
