import ProtoPlan.Proofs.Wire.Grammar

/-!
The numbers framed as varints. A cursor reads one varint for any of them, so they end and fail
where it does; they differ in what they make of its value: its low bits, with a sign or without,
whether it is zero, or the number of which it is the zigzag image.
-/

namespace ProtoPlan.Wire

namespace Varint

/-- A varint and its value as a number of 64 bits. -/
def HasValue (bytes : Bytes) (value : Nat) : Prop :=
  IsVarint bytes ∧ number bytes % 2 ^ 64 = value

section HasValue

variable {bytes : Bytes} {value : Nat}

theorem HasValue.ne_nil (h : HasValue bytes value) : bytes ≠ [] := h.1.ne_nil

theorem HasValue.lt (h : HasValue bytes value) : value < 2 ^ 64 := by
  rw [← h.2]
  exact Nat.mod_lt _ (by decide)

/-- The encoding of fewest bytes and those with redundant bytes after it have the same value. -/
theorem hasValue_pad (hvalue : value < 2 ^ 64) {count : Nat}
    (hcount : (encode value).length + count ≤ maxLength) :
    HasValue (pad count (encode value)) value := by
  refine ⟨(isVarint_encode hvalue).pad hcount, ?_⟩
  rw [number_pad, number_encode, Nat.mod_eq_of_lt hvalue]

end HasValue

section Zigzag

/-- The number whose zigzag image is given. -/
def unzigzag (n : Nat) : Int := if n % 2 = 0 then (n / 2 : Nat) else -(n / 2 : Nat) - 1

theorem unzigzag_eq_iff {n : Nat} {v : Int} : unzigzag n = v ↔ zigzag v = n := by
  unfold unzigzag zigzag
  split <;> split <;> omega

theorem toInt_unzigzag {w n : Nat} (hw : 1 < w) (hn : n < 2 ^ w) :
    (BitVec.ofNat w n >>> 1 ^^^ -(BitVec.ofNat w n &&& 1#w)).toInt = unzigzag n := by
  have hpow : 2 ^ w = 2 * 2 ^ (w - 1) := by
    rw [← Nat.pow_succ', Nat.succ_eq_add_one, Nat.sub_add_cancel (by omega)]
  have hhalf := toInt_xor_neg (Nat.mod_lt n (by decide : 0 < 2)) hw
    (Nat.div_lt_of_lt_mul (hpow ▸ hn))
  rwa [Nat.div_add_mod] at hhalf

theorem toInt_unzigzag32 (v : UInt64) : (unzigzag32 v).toInt = unzigzag (v.toNat % 2 ^ 32) := by
  have hlow : v.toUInt32.toBitVec = BitVec.ofNat 32 (v.toNat % 2 ^ 32) := by
    apply BitVec.eq_of_toNat_eq
    rw [BitVec.toNat_ofNat, Nat.mod_mod]
    rfl
  rw [← toInt_unzigzag (by decide) (Nat.mod_lt _ (by decide)), ← hlow]
  rfl

theorem toInt_unzigzag64 (v : UInt64) : (unzigzag64 v).toInt = unzigzag v.toNat := by
  have hwhole : v.toBitVec = BitVec.ofNat 64 v.toNat := by
    rw [UInt64.toNat, BitVec.ofNat_toNat, BitVec.setWidth_eq]
  rw [← toInt_unzigzag (by decide) v.toNat_lt, ← hwhole]
  rfl

/-- The zigzag image as shifts give it: the bits moved up by one, complemented under a sign. -/
def zigzag32 (z : Int32) : UInt32 := (z <<< 1 ^^^ z >>> 31).toUInt32

/-- The zigzag image of a number of 64 bits. -/
def zigzag64 (z : Int64) : UInt64 := (z <<< 1 ^^^ z >>> 63).toUInt64

/-- Moving the sign down leaves all bits of a negative number and none of another. -/
theorem toNat_shiftLeft_xor_sshiftRight {w : Nat} (hw : 0 < w) (x : BitVec w) :
    (x <<< 1 ^^^ x.sshiftRight (w - 1)).toNat = zigzag x.toInt := by
  have hpow : 2 ^ w = 2 * 2 ^ (w - 1) := by
    rw [← Nat.pow_succ', Nat.succ_eq_add_one, Nat.sub_add_cancel hw]
  have hlt := x.isLt
  have hdouble : (x <<< 1).toNat = 2 * x.toNat % 2 ^ w := by
    rw [BitVec.toNat_shiftLeft, Nat.shiftLeft_eq, Nat.pow_one, Nat.mul_comm]
  have hzero {y : BitVec w} (hy : y.toNat < 2 ^ (w - 1)) : y >>> (w - 1) = 0#w := by
    apply BitVec.eq_of_toNat_eq
    rw [BitVec.toNat_ushiftRight, Nat.shiftRight_eq_div_pow, Nat.div_eq_of_lt hy,
      BitVec.toNat_zero]
  have hsign := x.msb_eq_decide
  cases hmsb : x.msb with
  | false =>
    rw [hmsb, eq_comm, decide_eq_false_iff_not, Nat.not_le] at hsign
    rw [BitVec.sshiftRight_eq_of_msb_false hmsb, hzero hsign, BitVec.xor_zero, hdouble,
      BitVec.toInt_eq_msb_cond, hmsb, zigzag, Nat.mod_eq_of_lt (by omega)]
    simp
  | true =>
    rw [hmsb, eq_comm, decide_eq_true_eq] at hsign
    have hlow : (~~~x).toNat < 2 ^ (w - 1) := by
      rw [BitVec.toNat_not]
      omega
    have hmod : 2 * x.toNat % 2 ^ w = 2 * x.toNat - 2 ^ w := by
      rw [Nat.mod_eq_sub_mod (by omega), Nat.mod_eq_of_lt (by omega)]
    have hneg : x.toInt = x.toNat - (2 ^ w : Nat) := by
      rw [BitVec.toInt_eq_msb_cond, hmsb, if_pos rfl]
    rw [BitVec.sshiftRight_eq_of_msb_true hmsb, hzero hlow, BitVec.not_zero, BitVec.xor_allOnes,
      BitVec.toNat_not, hdouble, hmod, hneg, zigzag, if_neg (by omega)]
    omega

theorem toNat_zigzag32 (z : Int32) : (zigzag32 z).toNat = zigzag z.toInt :=
  toNat_shiftLeft_xor_sshiftRight (by decide) z.toBitVec

theorem toNat_zigzag64 (z : Int64) : (zigzag64 z).toNat = zigzag z.toInt :=
  toNat_shiftLeft_xor_sshiftRight (by decide) z.toBitVec

theorem unzigzag32_eq_iff {v : UInt64} {z : Int32} :
    unzigzag32 v = z ↔ (zigzag32 z).toNat = v.toNat % 2 ^ 32 := by
  rw [← Int32.toInt_inj, toInt_unzigzag32, toNat_zigzag32, unzigzag_eq_iff]

theorem unzigzag64_eq_iff {v : UInt64} {z : Int64} :
    unzigzag64 v = z ↔ (zigzag64 z).toNat = v.toNat := by
  rw [← Int64.toInt_inj, toInt_unzigzag64, toNat_zigzag64, unzigzag_eq_iff]

end Zigzag

end Varint

/-- The readers of the numbers framed as varints, each with what its number is to the value of the
varint: its low 32 or all 64 bits, signed or not, whether it is zero, or what has it for its zigzag
image. -/
inductive VarintRead : {α : Type} → Reader α → (UInt64 → α → Prop) → Prop where
  | int32 : VarintRead Reader.int32 fun v a => a.toInt = (v.toNat : Int).bmod (2 ^ 32)
  | int64 : VarintRead Reader.int64 fun v a => a.toInt = (v.toNat : Int).bmod (2 ^ 64)
  | uint32 : VarintRead Reader.uint32 fun v a => a.toNat = v.toNat % 2 ^ 32
  | uint64 : VarintRead Reader.uint64 fun v a => a.toNat = v.toNat
  | bool : VarintRead Reader.bool fun v a => a = true ↔ v ≠ 0
  | sint32 : VarintRead Reader.sint32 fun v a => (Varint.zigzag32 a).toNat = v.toNat % 2 ^ 32
  | sint64 : VarintRead Reader.sint64 fun v a => (Varint.zigzag64 a).toNat = v.toNat

theorem Reader.takes_varint_iff_hasValue {taken : Bytes} {v : UInt64} :
    Takes varint taken v ↔ Varint.HasValue taken v.toNat := by
  rw [takes_varint_iff, Varint.HasValue, ← UInt64.toNat_inj, UInt64.toNat_ofNat', eq_comm]

namespace Cursor

/-- Past bytes that were the next ones. -/
def after (c : Cursor) (taken : Bytes) : Cursor :=
  { c with position := c.position + taken.length }

/-- What is computed from a value moves no further than the value. -/
theorem read_map (c : Cursor) (x : Reader α) (f : α → β) :
    c.read (x >>= fun a => pure (f a)) = ((c.read x).1.map f, (c.read x).2) := by
  simp only [read, bind, EStateM.bind]
  cases x c.unread <;> rfl

theorem read_varint_eq_ok_iff {c c' : Cursor} {v : UInt64} :
    c.read Reader.varint = (.ok v, c') ↔
      ∃ taken, taken <+: c.unread ∧ Varint.HasValue taken v.toNat ∧ c' = c.after taken := by
  simp only [← Reader.takes_varint_iff_hasValue, read_eq_ok_iff]
  have hmoved {taken rest : Bytes} (hunread : c.unread = taken ++ rest)
      (htaken : Reader.Takes Reader.varint taken v) :
      { c with position := c.buffer.length - rest.length } = c.after taken := by
    rw [after, position_of_unread hunread (Reader.takes_varint_iff_hasValue.1 htaken).ne_nil]
  constructor
  · rintro ⟨rest, hread, rfl⟩
    obtain ⟨taken, hunread, htaken⟩ := Reader.isLocal_varint hread
    exact ⟨taken, ⟨rest, hunread.symm⟩, htaken, hmoved hunread htaken⟩
  · rintro ⟨taken, ⟨rest, hunread⟩, htaken, rfl⟩
    exact ⟨rest, hunread ▸ htaken rest, (hmoved hunread.symm htaken).symm⟩

/-- An answer that comes with a varint: the one that goes with its value, the cursor where the
varint leaves it, and where there is no varint the fault of that. -/
structure FollowsVarint (c : Cursor) (answer : Except Fault α × Cursor)
    (Means : UInt64 → α → Prop) : Prop where
  reads : ∀ v c', c.read Reader.varint = (.ok v, c') →
    ∃ a, answer = (.ok a, c') ∧ ∀ b, Means v b ↔ b = a
  fails : ∀ fault c', c.read Reader.varint = (.error fault, c') → answer = (.error fault, c')

theorem followsVarint_map (c : Cursor) {f : UInt64 → α} {Means : UInt64 → α → Prop}
    (h : ∀ v b, Means v b ↔ b = f v) :
    c.FollowsVarint (c.read (Reader.varint >>= fun v => pure (f v))) Means where
  reads v c' hread := ⟨f v, by rw [read_map, hread]; rfl, h v⟩
  fails fault c' hread := by rw [read_map, hread]; rfl

end Cursor

theorem VarintRead.follows {body : Reader α} {Means : UInt64 → α → Prop}
    (h : VarintRead body Means) (c : Cursor) : c.FollowsVarint (c.read body) Means := by
  cases h with
  | int32 =>
    apply c.followsVarint_map
    intro v b
    have hlow : v.toUInt32.toInt32.toInt = (v.toNat : Int).bmod (2 ^ 32) := by
      change v.toUInt32.toBitVec.toInt = _
      rw [BitVec.toInt_eq_toNat_bmod]
      change ((v.toUInt32.toNat : Nat) : Int).bmod _ = _
      rw [UInt64.toNat_toUInt32, Int.natCast_emod, Int.emod_bmod]
    rw [← hlow, Int32.toInt_inj]
  | int64 =>
    apply c.followsVarint_map
    intro v b
    rw [← Int64.toInt_inj]
    exact (BitVec.toInt_eq_toNat_bmod v.toBitVec).symm ▸ Iff.rfl
  | uint32 =>
    apply c.followsVarint_map
    intro v b
    rw [← UInt64.toNat_toUInt32, UInt32.toNat_inj]
  | uint64 =>
    have hwhole : Reader.uint64 = Reader.varint >>= fun v => pure v := (bind_pure _).symm
    rw [hwhole]
    apply c.followsVarint_map
    intro v b
    exact UInt64.toNat_inj
  | bool =>
    apply c.followsVarint_map
    intro v b
    cases b <;> simp
  | sint32 =>
    apply c.followsVarint_map
    intro v b
    rw [← Varint.unzigzag32_eq_iff, eq_comm]
  | sint64 =>
    apply c.followsVarint_map
    intro v b
    rw [← Varint.unzigzag64_eq_iff, eq_comm]

namespace Cursor

/-- A varint is skipped by as many bytes as it is read. -/
theorem followsVarint_skip (c : Cursor) :
    c.FollowsVarint (c.skip .varint) fun _ n =>
      c.position + n = (c.read Reader.varint).2.position := by
  have hskip : c.skip .varint =
      ((c.read Reader.varint).1.map fun _ => (c.read Reader.varint).2.position - c.position,
        (c.read Reader.varint).2) := by
    have hread : c.read (Reader.skipValue c.budget .varint) =
        ((c.read Reader.varint).1.map fun _ => (), (c.read Reader.varint).2) := by
      rw [← read_map, ← Reader.skipVarint_eq]
      rfl
    simp only [skip, hread]
    cases (c.read Reader.varint).1 <;> rfl
  constructor
  · intro v c' hread
    obtain ⟨taken, -, -, rfl⟩ := read_varint_eq_ok_iff.1 hread
    refine ⟨taken.length, ?_, fun n => ?_⟩
    · rw [hskip, hread]
      simp [after, Except.map]
    · rw [hread, after, Nat.add_left_cancel_iff]
  · intro fault c' hread
    rw [hskip, hread]
    rfl

section Taken

variable {c : Cursor} {taken : Bytes} {image : Nat}

/-- Next comes a varint: the cursor reads its value and moves past it. -/
theorem read_varint_taken (hfront : taken <+: c.unread) (htaken : Varint.HasValue taken image) :
    c.read Reader.varint = (.ok (UInt64.ofNat image), c.after taken) := by
  refine read_varint_eq_ok_iff.2 ⟨taken, hfront, ?_, rfl⟩
  rwa [UInt64.toNat_ofNat', Nat.mod_eq_of_lt htaken.lt]

/-- Next comes a varint whose value means a number to the reader at hand. -/
theorem FollowsVarint.of_taken {answer : Except Fault α × Cursor} {Means : UInt64 → α → Prop}
    (h : c.FollowsVarint answer Means) (hfront : taken <+: c.unread)
    (htaken : Varint.HasValue taken image) {a : α} (ha : Means (UInt64.ofNat image) a) :
    answer = (.ok a, c.after taken) := by
  obtain ⟨b, hanswer, hb⟩ := h.reads _ _ (read_varint_taken hfront htaken)
  rw [hanswer, (hb a).1 ha]

end Taken

/-- Every number framed as a varint is read where a varint is, with the fault and the move of the
varint, and is the one number that its value means; a varint is skipped in the same way. So a signed
number comes back from any varint with its zigzag image, also one with bits above the image of 32
bits, and from any with its bits sign-extended to 64. Below 2 ^ 32 the zigzag readers of both widths
agree. -/
theorem varint_reads (c : Cursor) :
    (∀ (α : Type) (body : Reader α) (Means : UInt64 → α → Prop), VarintRead body Means →
      c.FollowsVarint (c.read body) Means) ∧
    c.FollowsVarint (c.skip .varint)
      (fun _ n => c.position + n = (c.read Reader.varint).2.position) ∧
    (∀ taken image, taken <+: c.unread → Varint.HasValue taken image →
      (∀ z : Int32, image % 2 ^ 32 = (Varint.zigzag32 z).toNat →
        c.read Reader.sint32 = (.ok z, c.after taken)) ∧
      (∀ z : Int64, image = (Varint.zigzag64 z).toNat →
        c.read Reader.sint64 = (.ok z, c.after taken)) ∧
      (∀ z : Int32, image = z.toInt64.toUInt64.toNat →
        c.read Reader.int32 = (.ok z, c.after taken)) ∧
      (∀ z : Int64, image = z.toUInt64.toNat →
        c.read Reader.int64 = (.ok z, c.after taken))) ∧
    (∀ v c', c.read Reader.varint = (.ok v, c') → v.toNat < 2 ^ 32 →
      ∃ z : Int32, c.read Reader.sint32 = (.ok z, c') ∧
        c.read Reader.sint64 = (.ok z.toInt64, c')) := by
  refine ⟨fun α body Means h => h.follows c, c.followsVarint_skip, ?_, ?_⟩
  · intro taken image hfront htaken
    have himage : (UInt64.ofNat image).toNat = image := by
      rw [UInt64.toNat_ofNat', Nat.mod_eq_of_lt htaken.lt]
    refine ⟨fun z hz => ?_, fun z hz => ?_, fun z hz => ?_, fun z hz => ?_⟩
    · exact (VarintRead.sint32.follows c).of_taken hfront htaken (by rw [himage, hz])
    · exact (VarintRead.sint64.follows c).of_taken hfront htaken (by rw [himage, hz])
    · have hread := c.read_map Reader.varint fun v => v.toUInt32.toInt32
      rw [read_varint_taken hfront htaken, hz, UInt64.ofNat_toNat] at hread
      simp only [Except.map, Reader.toUInt32_toInt64] at hread
      exact hread
    · have hread := c.read_map Reader.varint UInt64.toInt64
      rw [read_varint_taken hfront htaken, hz, UInt64.ofNat_toNat] at hread
      simp only [Except.map, Int64.toInt64_toUInt64] at hread
      exact hread
  · intro v c' hread hlow
    obtain ⟨z, hz, hmeans⟩ := (VarintRead.sint32.follows c).reads v c' hread
    obtain ⟨z', hz', hmeans'⟩ := (VarintRead.sint64.follows c).reads v c' hread
    refine ⟨z, hz, ?_⟩
    have himage : (Varint.zigzag64 z.toInt64).toNat = v.toNat := by
      rw [Varint.toNat_zigzag64, Int32.toInt_toInt64, ← Varint.toNat_zigzag32, (hmeans z).2 rfl,
        Nat.mod_eq_of_lt hlow]
    rw [hz', (hmeans' z.toInt64).1 himage]

example :
    (ofBytes (Varint.pad 1 (Varint.encode (2 ^ 40 + 5)) ++ [7]) 0).read Reader.sint32 =
      (.ok (-3), ⟨[0x85, 0x80, 0x80, 0x80, 0x80, 0xa0, 0x00, 7], 7, 0⟩) := by cbv

end Cursor

end ProtoPlan.Wire
