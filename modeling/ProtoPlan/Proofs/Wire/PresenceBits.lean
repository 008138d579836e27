import ProtoPlan.Wire.PresenceBits
import Mathlib.Data.Nat.Bitwise

/-!
Presence bits as a set of indices: marking puts an index in, and nothing takes one out.
-/

namespace ProtoPlan.Wire.PresenceBits

theorem toNat_mask (bit : Nat) : (mask bit).toNat = 2 ^ (bit % 64) := by
  have hlt : bit % 64 < 64 := Nat.mod_lt _ (by decide)
  have hpow : 2 ^ (bit % 64) < 2 ^ 64 := Nat.pow_lt_pow_right (by decide) hlt
  have hbit : bit % 64 % 2 ^ 64 = bit % 64 := Nat.mod_eq_of_lt (by omega)
  rw [mask, UInt64.toNat_shiftLeft, UInt64.toNat_ofNat', hbit, Nat.mod_eq_of_lt hlt,
    UInt64.toNat_one, Nat.one_shiftLeft, Nat.mod_eq_of_lt hpow]

/-- A word meets the mask of a bit if it has the bit. -/
theorem and_mask_ne_zero (word : UInt64) (bit : Nat) :
    (word &&& mask bit != 0) = word.toNat.testBit (bit % 64) := by
  have hand : (word &&& mask bit).toNat =
      (word.toNat.testBit (bit % 64)).toNat * 2 ^ (bit % 64) := by
    rw [UInt64.toNat_and, toNat_mask, Nat.and_two_pow]
  have hzero : (word &&& mask bit) = 0 ↔ (word &&& mask bit).toNat = 0 := by
    rw [← UInt64.toNat_inj, UInt64.toNat_zero]
  cases hb : word.toNat.testBit (bit % 64) with
  | false => simpa [hzero, hb] using hand
  | true =>
    have hpos := Nat.two_pow_pos (bit % 64)
    rw [hb, Bool.toNat_true, Nat.one_mul] at hand
    simp only [bne_iff_ne, ne_eq, hzero]
    omega

theorem testBit_or_mask (word : UInt64) (bit i : Nat) :
    (word ||| mask bit).toNat.testBit i =
      (word.toNat.testBit i || decide (bit % 64 = i)) := by
  rw [UInt64.toNat_or, toNat_mask, Nat.testBit_or, Nat.testBit_two_pow]

@[simp] theorem length_mark (bits : PresenceBits) (bit : Nat) :
    (bits.mark bit).words.length = bits.words.length := by
  unfold mark set
  cases bits.words[bit / 64]? <;> simp

/-- Marking a bit that the words hold sets this bit and no other. -/
theorem isSet_mark {bits : PresenceBits} {bit : Nat} (h : bit / 64 < bits.words.length)
    (other : Nat) :
    (bits.mark bit).isSet other =
      (bits.isSet other).map fun old => decide (other = bit) || old := by
  obtain ⟨word, hword⟩ : ∃ word, bits.words[bit / 64]? = some word := by simp [h]
  have hmark : bits.mark bit = ⟨bits.words.set (bit / 64) (word ||| mask bit)⟩ := by
    simp [mark, set, hword]
  rw [hmark, isSet, isSet]
  by_cases hsame : bit / 64 = other / 64
  · have hiff : bit % 64 = other % 64 ↔ other = bit := by omega
    rw [← hsame, List.getElem?_set_self h, hword]
    simp only [Option.map_some, and_mask_ne_zero, testBit_or_mask, hiff]
    rw [Bool.or_comm]
  · have hne : other ≠ bit := fun heq => hsame (by rw [heq])
    rw [List.getElem?_set_ne hsame]
    cases bits.words[other / 64]? <;> simp [hne]

theorem isSet_empty {words bit : Nat} (h : bit / 64 < words) :
    (empty words).isSet bit = some false := by
  simp [isSet, empty, h]

/-- The bits hold the indices in `seen`, and no other that they have a place for. -/
def Holds (bits : PresenceBits) (words : Nat) (seen : List Nat) : Prop :=
  bits.words.length = words ∧ ∀ bit < 64 * words, bits.isSet bit = some (decide (bit ∈ seen))

theorem holds_empty (words : Nat) : (empty words).Holds words [] := by
  refine ⟨by simp [empty], ?_⟩
  intro bit hbit
  rw [isSet_empty (by omega)]
  simp

theorem Holds.mark {bits : PresenceBits} {words : Nat} {seen : List Nat} (h : bits.Holds words seen)
    {bit : Nat} (hbit : bit < 64 * words) : (bits.mark bit).Holds words (bit :: seen) := by
  obtain ⟨hlength, hset⟩ := h
  refine ⟨by rw [length_mark, hlength], ?_⟩
  intro other hother
  rw [isSet_mark (by omega), hset other hother]
  simp

theorem set_eq_some {bits : PresenceBits} {bit : Nat} (h : bit / 64 < bits.words.length) :
    bits.set bit = some (bits.mark bit) := by
  obtain ⟨word, hword⟩ : ∃ word, bits.words[bit / 64]? = some word := by simp [h]
  simp [mark, set, hword]

/-- Indices that the words have a place for can be set, and are then held. -/
theorem Holds.exists_foldlM_set {bits : PresenceBits} {words : Nat} {seen : List Nat}
    (h : bits.Holds words seen) {indices : List Nat} (hin : ∀ bit ∈ indices, bit < 64 * words) :
    ∃ bits', indices.foldlM set bits = some bits' ∧
      bits'.Holds words (indices.reverse ++ seen) := by
  induction indices generalizing bits seen with
  | nil => exact ⟨bits, rfl, h⟩
  | cons bit indices ih =>
    rw [List.forall_mem_cons] at hin
    have hplace : bit / 64 < bits.words.length := by
      have := hin.1
      rw [h.1]
      omega
    obtain ⟨bits', hbits, hholds⟩ := ih (h.mark hin.1) hin.2
    refine ⟨bits', ?_, by simpa using hholds⟩
    rw [List.foldlM_cons, set_eq_some hplace]
    exact hbits

/-- The search finds the first index that was not seen. -/
theorem Holds.firstUnset_eq {bits : PresenceBits} {words : Nat} {seen : List Nat}
    (h : bits.Holds words seen) {start count : Nat} (hcount : start + count ≤ 64 * words) :
    bits.firstUnset start count = some ((List.range' start count).find? (· ∉ seen)) := by
  induction count generalizing start with
  | zero => rfl
  | succ count ih =>
    rw [firstUnset, h.2 start (by omega), List.range'_succ, List.find?_cons]
    by_cases hseen : start ∈ seen
    · simp [hseen, @ih (start + 1) (by omega)]
    · simp [hseen]

theorem Holds.firstMissing_eq {bits : PresenceBits} {words : Nat} {seen : List Nat}
    (h : bits.Holds words seen) {count : Nat} (hcount : count ≤ 64 * words) :
    bits.firstMissing count = some ((List.range count).find? (· ∉ seen)) := by
  rw [firstMissing, h.firstUnset_eq (by omega), List.range_eq_range']

/-- The bits miss none of the first `count` indices just when all of them were seen. -/
theorem Holds.firstMissing_eq_none_iff_all {bits : PresenceBits} {words : Nat} {seen : List Nat}
    (h : bits.Holds words seen) {count : Nat} (hcount : count ≤ 64 * words) :
    bits.firstMissing count = some none ↔ (List.range count).all (· ∈ seen) = true := by
  rw [h.firstMissing_eq hcount, Option.some_inj, List.find?_eq_none]
  simp

/-- The least of the first `count` indices that is not in `seen`, or none if all are. -/
def IsLeastUnseen (seen : List Nat) (count : Nat) : Option Nat → Prop
  | some bit => bit < count ∧ bit ∉ seen ∧ ∀ other < bit, other ∈ seen
  | none => ∀ bit < count, bit ∈ seen

theorem isLeastUnseen_find? (seen : List Nat) (count : Nat) :
    IsLeastUnseen seen count ((List.range count).find? (· ∉ seen)) := by
  cases hfind : (List.range count).find? (· ∉ seen) with
  | none =>
    intro bit hbit
    simpa using List.find?_eq_none.1 hfind bit (List.mem_range.2 hbit)
  | some bit =>
    obtain ⟨hunseen, hmem, hbefore⟩ := List.find?_range_eq_some.1 hfind
    exact ⟨List.mem_range.1 hmem, by simpa using hunseen, by simpa using hbefore⟩

/-- There are words enough for the first `count` indices. -/
theorem le_wordsFor (count : Nat) : count ≤ 64 * wordsFor count := by
  unfold wordsFor
  omega

end ProtoPlan.Wire.PresenceBits
