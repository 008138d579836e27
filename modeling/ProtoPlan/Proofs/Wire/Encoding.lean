import ProtoPlan.Proofs.Wire.Record
import Mathlib.Algebra.Group.Nat.Defs

/-!
The wire encoding of single values: varints of the fewest bytes, zigzag numbers, fixed widths with
the least significant byte first, and spans with their length in front. Each encoding is what the
reader of its kind takes.
-/

namespace ProtoPlan.Wire

namespace Varint

/-- Seven bits a byte, least significant first, in as few bytes as the number has. -/
def encode (n : Nat) : Bytes :=
  if n < 128 then [UInt8.ofNat n] else UInt8.ofNat (n % 128 + 128) :: encode (n / 128)

/-- The zigzag image of a signed number: 0, -1, 1, -2 and so on are 0, 1, 2, 3. -/
def zigzag (v : Int) : Nat := if 0 ≤ v then 2 * v.toNat else 2 * (-v - 1).toNat + 1

theorem encode_ne_nil (n : Nat) : encode n ≠ [] := by
  unfold encode
  split <;> simp

/-- A byte that continues holds the low seven bits; the bits above come after it. -/
theorem or_digit {n : Nat} (hn : n < 2 ^ 64) :
    ((UInt8.ofNat (n % 128 + 128) &&& 127).toUInt64 ||| UInt64.ofNat (n / 128) <<< 7) =
      UInt64.ofNat n := by
  have hlow : (UInt8.ofNat (n % 128 + 128) &&& 127).toNat = n % 128 := by
    have hmask : (127 : UInt8).toNat = 2 ^ 7 - 1 := rfl
    rw [UInt8.toNat_and, hmask, Nat.and_two_pow_sub_one_eq_mod, UInt8.toNat_ofNat']
    omega
  have hhigh : (UInt64.ofNat (n / 128) <<< 7).toNat = (n / 128) <<< 7 := by
    have hseven : (7 : UInt64).toNat % 64 = 7 := rfl
    rw [UInt64.toNat_shiftLeft, hseven, UInt64.toNat_ofNat', Nat.shiftLeft_eq, Nat.shiftLeft_eq]
    omega
  rw [← UInt64.toNat_inj, UInt64.toNat_or, UInt8.toNat_toUInt64, hlow, hhigh, Nat.or_comm,
    ← Nat.shiftLeft_add_eq_or_of_lt (i := 7) (by omega), UInt64.toNat_ofNat', Nat.shiftLeft_eq]
  omega

/-- A number below 128 is one byte that does not continue. -/
theorem decodeWithin_last {n : Nat} (hn : n < 128) (limit : Nat) (rest : Bytes) :
    decodeWithin (limit + 1) (encode n ++ rest) = .ok (UInt64.ofNat n, (encode n).length) := by
  have hlast : UInt8.ofNat n < 128 := by
    rw [UInt8.lt_iff_toNat_lt, UInt8.toNat_ofNat']
    change n % 256 < 128
    omega
  have hvalue : (UInt8.ofNat n).toUInt64 = UInt64.ofNat n := by
    rw [← UInt64.toNat_inj, UInt8.toNat_toUInt64, UInt8.toNat_ofNat', UInt64.toNat_ofNat']
    omega
  rw [encode, if_pos hn, List.singleton_append, decodeWithin, if_pos hlast, hvalue]
  rfl

theorem decodeWithin_encode {limit n : Nat} (hn : n < 2 ^ 64) (hlimit : n < 128 ^ (limit + 1))
    (rest : Bytes) :
    decodeWithin (limit + 1) (encode n ++ rest) = .ok (UInt64.ofNat n, (encode n).length) := by
  induction limit generalizing n with
  | zero => exact decodeWithin_last (by omega) 0 rest
  | succ limit ih =>
    by_cases hsmall : n < 128
    · exact decodeWithin_last hsmall _ rest
    · have hmore : ¬UInt8.ofNat (n % 128 + 128) < 128 := by
        rw [UInt8.lt_iff_toNat_lt, UInt8.toNat_ofNat']
        change ¬(n % 128 + 128) % 256 < 128
        omega
      have hhigh : n / 128 < 128 ^ (limit + 1) := by
        rw [Nat.pow_succ] at hlimit
        exact Nat.div_lt_of_lt_mul (by omega)
      rw [encode, if_neg hsmall, List.cons_append, decodeWithin, if_neg hmore,
        ih (by omega) hhigh]
      simp only [Except.map, or_digit hn, List.length_cons]

theorem decode_encode {n : Nat} (hn : n < 2 ^ 64) (rest : Bytes) :
    decode (encode n ++ rest) = .ok (UInt64.ofNat n, (encode n).length) :=
  decodeWithin_encode hn (by omega) rest

/-- Zigzag numbers of any width: the low bit tells whether the bits above it are complemented. -/
theorem toInt_xor_neg {w k b : Nat} (hb : b < 2) (hw : 1 < w) (hk : k < 2 ^ (w - 1)) :
    (BitVec.ofNat w (2 * k + b) >>> 1 ^^^ -(BitVec.ofNat w (2 * k + b) &&& 1#w)).toInt =
      if b = 0 then (k : Int) else -k - 1 := by
  -- Both parts are below the width, so the bit vectors are those of `k` and `b`.
  have hpow : 2 ^ w = 2 * 2 ^ (w - 1) := by
    rw [← Nat.pow_succ', Nat.succ_eq_add_one, Nat.sub_add_cancel (by omega)]
  have hlt : 2 * k + b < 2 ^ w := by omega
  have hhalf : BitVec.ofNat w (2 * k + b) >>> 1 = BitVec.ofNat w k := by
    apply BitVec.eq_of_toNat_eq
    rw [BitVec.toNat_ushiftRight, BitVec.toNat_ofNat, BitVec.toNat_ofNat, Nat.mod_eq_of_lt hlt,
      Nat.mod_eq_of_lt (by omega), Nat.shiftRight_eq_div_pow]
    omega
  have hbit : BitVec.ofNat w (2 * k + b) &&& 1#w = BitVec.ofNat w b := by
    have hone : 1 % 2 ^ w = 2 ^ 1 - 1 := Nat.mod_eq_of_lt (by omega)
    apply BitVec.eq_of_toNat_eq
    rw [BitVec.toNat_and, BitVec.toNat_ofNat, BitVec.toNat_ofNat, BitVec.toNat_ofNat, hone,
      Nat.and_two_pow_sub_one_eq_mod, Nat.mod_eq_of_lt hlt,
      Nat.mod_eq_of_lt (show b < 2 ^ w by omega)]
    omega
  have hnat : (BitVec.ofNat w k).toNat = k := by
    rw [BitVec.toNat_ofNat, Nat.mod_eq_of_lt (by omega)]
  rw [hhalf, hbit]
  obtain rfl | rfl : b = 0 ∨ b = 1 := by omega
  · have hzero : BitVec.ofNat w k ^^^ -0#w = BitVec.ofNat w k := by simp
    rw [hzero, BitVec.toInt_eq_toNat_of_lt (by omega), hnat, if_pos rfl]
  · have hnot : (~~~BitVec.ofNat w k).toNat = 2 ^ w - 1 - k := by rw [BitVec.toNat_not, hnat]
    rw [BitVec.neg_one_eq_allOnes, BitVec.xor_allOnes, BitVec.toInt_eq_toNat_cond, hnot,
      if_neg (by omega), if_neg (by decide)]
    omega

/-- A zigzag image is twice a number, or one more than that. -/
theorem zigzag_cases (v : Int) : ∃ k b : Nat, zigzag v = 2 * k + b ∧ b < 2 ∧
    v = if b = 0 then (k : Int) else -k - 1 := by
  unfold zigzag
  split
  · exact ⟨v.toNat, 0, rfl, by decide, by simp; omega⟩
  · exact ⟨(-v - 1).toNat, 1, rfl, by decide, by simp; omega⟩

theorem zigzag_lt {v : Int} (hlow : -0x8000000000000000 ≤ v) (hhigh : v < 0x8000000000000000) :
    zigzag v < 2 ^ 64 := by
  unfold zigzag
  split <;> omega

theorem unzigzag32_zigzag (v : Int32) : unzigzag32 (UInt64.ofNat (zigzag v.toInt)) = v := by
  obtain ⟨k, b, hz, hb, hv⟩ := zigzag_cases v.toInt
  have hk : k < 2 ^ (32 - 1) := by
    have := v.le_toInt
    have := v.toInt_lt
    split at hv <;> omega
  rw [← Int32.toInt_inj, hz, hv, ← toInt_xor_neg hb (by decide) hk, unzigzag32,
    UInt64.toUInt32_ofNat']
  rfl

theorem unzigzag64_zigzag (v : Int64) : unzigzag64 (UInt64.ofNat (zigzag v.toInt)) = v := by
  obtain ⟨k, b, hz, hb, hv⟩ := zigzag_cases v.toInt
  have hk : k < 2 ^ (64 - 1) := by
    have := v.le_toInt
    have := v.toInt_lt
    split at hv <;> omega
  rw [← Int64.toInt_inj, hz, hv, ← toInt_xor_neg hb (by decide) hk]
  rfl

end Varint

/-- The low `width` base-256 digits of a number, least significant first. -/
def fixedBytes : (width : Nat) → Nat → Bytes
  | 0, _ => []
  | width + 1, n => UInt8.ofNat n :: fixedBytes width (n / 256)

@[simp] theorem length_fixedBytes (width n : Nat) : (fixedBytes width n).length = width := by
  induction width generalizing n with
  | zero => rfl
  | succ width ih => rw [fixedBytes, List.length_cons, ih]

/-- Bytes with their length in front. -/
def spanBytes (bytes : Bytes) : Bytes := Varint.encode bytes.length ++ bytes

/-- A key is the number of its field above three bits of wire type. -/
def Key.encode (key : Key) : Bytes :=
  Varint.encode (key.wireType.key (UInt32.ofNat key.number)).toNat

theorem WireType.toNat_key (w : WireType) {number : Nat} (h : number ≤ maxFieldNumber) :
    (w.key (UInt32.ofNat number)).toNat = 8 * number + w.toNat := by
  have hw : w.toNat < 2 ^ 3 := by cases w <;> decide
  have hthree : (3 : UInt32).toNat % 32 = 3 := rfl
  have hnumber : number % 2 ^ 32 = number := Nat.mod_eq_of_lt (by unfold maxFieldNumber at h; omega)
  have hshift : (UInt32.ofNat number <<< 3).toNat = number <<< 3 := by
    rw [UInt32.toNat_shiftLeft, hthree, UInt32.toNat_ofNat', hnumber, Nat.shiftLeft_eq]
    unfold maxFieldNumber at h
    omega
  rw [WireType.key, UInt32.toNat_or, hshift, UInt32.toNat_ofNat', Nat.mod_eq_of_lt (by omega),
    ← Nat.shiftLeft_add_eq_or_of_lt hw, Nat.shiftLeft_eq]
  omega

namespace Scalar

/-- The encoding of a number of a kind; none if the number is of another kind. Negative 32-bit
numbers are extended to 64 bits. -/
def encode? : Scalar → ScalarValue → Option Bytes
  | bool, .bool v => some (Varint.encode v.toNat)
  | enum, .int32 v | int32, .int32 v => some (Varint.encode v.toInt64.toUInt64.toNat)
  | int64, .int64 v => some (Varint.encode v.toUInt64.toNat)
  | uint32, .uint32 v => some (Varint.encode v.toNat)
  | uint64, .uint64 v => some (Varint.encode v.toNat)
  | sint32, .int32 v => some (Varint.encode (Varint.zigzag v.toInt))
  | sint64, .int64 v => some (Varint.encode (Varint.zigzag v.toInt))
  | fixed32, .uint32 v | float, .float v => some (fixedBytes 4 v.toNat)
  | fixed64, .uint64 v | double, .double v => some (fixedBytes 8 v.toNat)
  | sfixed32, .int32 v => some (fixedBytes 4 v.toUInt32.toNat)
  | sfixed64, .int64 v => some (fixedBytes 8 v.toUInt64.toNat)
  | _, _ => none

/-- Whether a number is of the kind. -/
def admits : Scalar → ScalarValue → Bool
  | bool, .bool _ => true
  | enum, .int32 _ | int32, .int32 _ | sint32, .int32 _ | sfixed32, .int32 _ => true
  | int64, .int64 _ | sint64, .int64 _ | sfixed64, .int64 _ => true
  | uint32, .uint32 _ | fixed32, .uint32 _ => true
  | uint64, .uint64 _ | fixed64, .uint64 _ => true
  | float, .float _ => true
  | double, .double _ => true
  | _, _ => false

theorem exists_encode {kind : Scalar} {v : ScalarValue} (h : kind.admits v = true) :
    ∃ bytes, kind.encode? v = some bytes := by
  cases kind <;> cases v <;> simp_all [admits, encode?]

end Scalar

namespace Reader

theorem takes_varint {n : Nat} (hn : n < 2 ^ 64) :
    Takes varint (Varint.encode n) (UInt64.ofNat n) := by
  intro rest
  simp only [varint, Varint.decode_encode hn, List.drop_left]

theorem littleEndian_fixedBytes {width n : Nat} (h : n < 256 ^ width) :
    littleEndian (fixedBytes width n) = n := by
  induction width generalizing n with
  | zero =>
    rw [Nat.pow_zero, Nat.lt_one_iff] at h
    rw [h]
    rfl
  | succ width ih =>
    have hdigit : (UInt8.ofNat n).toNat = n % 256 := UInt8.toNat_ofNat'
    have hrest : littleEndian (fixedBytes width (n / 256)) = n / 256 := by
      rw [Nat.pow_succ] at h
      exact ih (Nat.div_lt_of_lt_mul (by omega))
    rw [littleEndian] at hrest ⊢
    rw [fixedBytes, List.foldr_cons, hrest, hdigit]
    omega

theorem takes_fixed32 (v : UInt32) : Takes fixed32 (fixedBytes 4 v.toNat) v := by
  have h := takes_take (fixedBytes 4 v.toNat)
  rw [length_fixedBytes] at h
  apply h.map
  rw [littleEndian_fixedBytes v.toNat_lt, UInt32.ofNat_toNat]
  exact Takes.pure v

theorem takes_fixed64 (v : UInt64) : Takes fixed64 (fixedBytes 8 v.toNat) v := by
  have h := takes_take (fixedBytes 8 v.toNat)
  rw [length_fixedBytes] at h
  apply h.map
  rw [littleEndian_fixedBytes v.toNat_lt, UInt64.ofNat_toNat]
  exact Takes.pure v

theorem takes_sfixed32 (v : Int32) : Takes sfixed32 (fixedBytes 4 v.toUInt32.toNat) v :=
  (takes_fixed32 v.toUInt32).map (Takes.pure v)

theorem takes_sfixed64 (v : Int64) : Takes sfixed64 (fixedBytes 8 v.toUInt64.toNat) v :=
  (takes_fixed64 v.toUInt64).map (Takes.pure v)

theorem takes_uint64 {f : UInt64 → α} {v : UInt64} {a : α} (h : f v = a) :
    Takes (varint >>= fun v => pure (f v)) (Varint.encode v.toNat) a := by
  apply (takes_varint v.toNat_lt).map
  rw [UInt64.ofNat_toNat, h]
  exact Takes.pure a

theorem takes_bool (v : Bool) : Takes bool (Varint.encode v.toNat) v := by
  cases v
  · exact takes_uint64 (v := 0) rfl
  · exact takes_uint64 (v := 1) rfl

/-- The low half of a number that was extended to 64 bits is the number. -/
theorem toUInt32_toInt64 (v : Int32) : v.toInt64.toUInt64.toUInt32.toInt32 = v := by
  rw [← Int32.toBitVec_inj]
  change (v.toBitVec.signExtend 64).setWidth 32 = v.toBitVec
  apply BitVec.eq_of_getLsbD_eq
  intro i hi
  rw [BitVec.getLsbD_setWidth, BitVec.getLsbD_signExtend]
  simp only [hi, if_pos, decide_true, Bool.true_and, Bool.and_eq_right_iff_imp, decide_eq_true_eq]
  omega

theorem takes_int32 (v : Int32) : Takes int32 (Varint.encode v.toInt64.toUInt64.toNat) v :=
  takes_uint64 (toUInt32_toInt64 v)

theorem takes_uint32 (v : UInt32) : Takes uint32 (Varint.encode v.toNat) v := by
  apply (takes_varint (by have := v.toNat_lt; omega)).map
  rw [UInt64.toUInt32_ofNat', UInt32.ofNat_toNat]
  exact Takes.pure v

theorem takes_sint32 (v : Int32) : Takes sint32 (Varint.encode (Varint.zigzag v.toInt)) v := by
  have hlow := v.le_toInt
  have hhigh := v.toInt_lt
  apply (takes_varint (Varint.zigzag_lt (by omega) (by omega))).map
  rw [Varint.unzigzag32_zigzag]
  exact Takes.pure v

theorem takes_sint64 (v : Int64) : Takes sint64 (Varint.encode (Varint.zigzag v.toInt)) v := by
  have hlow := v.le_toInt
  have hhigh := v.toInt_lt
  apply (takes_varint (Varint.zigzag_lt (by omega) (by omega))).map
  rw [Varint.unzigzag64_zigzag]
  exact Takes.pure v

theorem takes_scalar {kind : Scalar} {v : ScalarValue} {bytes : Bytes}
    (h : kind.encode? v = some bytes) : Takes kind.read bytes v := by
  unfold Scalar.encode? at h
  split at h <;> cases h
  case h_1 v => exact (takes_bool v).map (Takes.pure _)
  case h_2 v => exact (takes_int32 v).map (Takes.pure _)
  case h_3 v => exact (takes_int32 v).map (Takes.pure _)
  case h_4 v => exact (takes_uint64 v.toInt64_toUInt64).map (Takes.pure _)
  case h_5 v => exact (takes_uint32 v).map (Takes.pure _)
  case h_6 v => exact takes_uint64 rfl
  case h_7 v => exact (takes_sint32 v).map (Takes.pure _)
  case h_8 v => exact (takes_sint64 v).map (Takes.pure _)
  case h_9 v => exact (takes_fixed32 v).map (Takes.pure _)
  case h_10 v => exact (takes_fixed32 v).map (Takes.pure _)
  case h_11 v => exact (takes_fixed64 v).map (Takes.pure _)
  case h_12 v => exact (takes_fixed64 v).map (Takes.pure _)
  case h_13 v => exact (takes_sfixed32 v).map (Takes.pure _)
  case h_14 v => exact (takes_sfixed64 v).map (Takes.pure _)

/-- The key of a field in range, unless it ends a group. -/
theorem takes_key {number : Nat} {w : WireType} (hmin : minFieldNumber ≤ number)
    (hmax : number ≤ maxFieldNumber) (hw : w ≠ .endGroup) :
    Takes Reader.key (Key.encode ⟨number, w⟩) ⟨number, w⟩ := by
  have hlow : w.toNat < 8 := by cases w <;> decide
  have hend : w.toNat ≠ WireType.endGroup.toNat := by
    cases w <;> simp_all [WireType.toNat]
  have hmod : (8 * number + w.toNat) % 8 = w.toNat := by omega
  have hdiv : (8 * number + w.toNat) / 8 = number := by omega
  unfold minFieldNumber at hmin
  have hlt : 8 * number + w.toNat < 0x100000000 := by
    unfold maxFieldNumber at hmax
    omega
  have hsplit : splitKey (8 * number + w.toNat) = .ok ⟨number, w⟩ := by
    rw [splitKey, if_neg (by omega), hmod, if_neg hend, hdiv, if_neg (by omega),
      WireType.ofNat?_toNat]
  unfold Key.encode
  rw [WireType.toNat_key w hmax]
  apply (takes_varint (by omega)).map
  rw [UInt64.toNat_ofNat', Nat.mod_eq_of_lt (by omega), hsplit]
  exact Takes.pure _

theorem takes_length {n : Nat} (hn : n < 2 ^ 63) : Takes length (Varint.encode n) n := by
  have hvalid : n < 0x8000000000000000 := by omega
  apply (takes_varint (by omega)).map
  rw [UInt64.toNat_ofNat', Nat.mod_eq_of_lt (by omega), if_pos hvalid]
  exact Takes.pure n

theorem takes_span {bytes : Bytes} (h : bytes.length < 2 ^ 63) :
    Takes span (spanBytes bytes) bytes :=
  (takes_length h).bind (takes_take bytes)

theorem takes_text (field : String) {s : String} (h : s.toUTF8.data.toList.length < 2 ^ 63) :
    Takes (text field) (spanBytes s.toUTF8.data.toList) s := by
  have hbytes : s.toUTF8.data.toList.toByteArray = s.toByteArray := by
    apply ByteArray.ext
    rw [List.data_toByteArray, Array.toArray_toList, String.toUTF8_eq_toByteArray]
  have hvalid : String.fromUTF8? s.toByteArray = some s := by
    rw [String.fromUTF8?, dif_pos s.isValidUTF8]
    rfl
  apply (takes_span h).map
  rw [hbytes, hvalid]
  exact Takes.pure s

end Reader

end ProtoPlan.Wire
