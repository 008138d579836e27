import ProtoPlan.Proofs.Wire.Numbers

/-!
Keys told by numbers. A key is a number of 32 bits, and its field number and wire type are a
quotient and a remainder of it; all that a number can have wrong has its own fault, and the first
in the order of the tests is the one reported.
-/

namespace ProtoPlan.Wire

namespace Key

/-- The number of a key: 32 bits, of which the low three are a wire type that ends no group, and
those above it a field number from one up. -/
structure SplitOf (key : Key) (k : Nat) : Prop where
  fits : k < 2 ^ 32
  wireType : k % 8 = key.wireType.toNat
  opens : key.wireType ≠ .endGroup
  number : k / 8 = key.number
  pos : 1 ≤ key.number

/-- Why a number is no key. One that breaks several rules is told by the first. -/
def faultOf (k : Nat) : Fault :=
  if 2 ^ 32 ≤ k then .malformedKey .tooLarge
  else if k % 8 = 4 then .malformedKey .endGroup
  else if k / 8 = 0 then .malformedKey .numberOutOfRange
  else .invalidWireType (k % 8)

section Split

variable {key : Key} {k : Nat}

theorem toNat_eq_endGroup {w : WireType} : w.toNat = WireType.endGroup.toNat ↔ w = .endGroup := by
  cases w <;> decide

/-- The keys of 32 bits have no room for a larger field number. -/
theorem SplitOf.number_le (h : key.SplitOf k) : key.number ≤ maxFieldNumber := by
  have hfits := h.fits
  rw [← h.number, maxFieldNumber]
  omega

theorem SplitOf.toNat_key (h : key.SplitOf k) :
    (key.wireType.key (UInt32.ofNat key.number)).toNat = k := by
  rw [WireType.toNat_key _ h.number_le, ← h.number, ← h.wireType, Nat.div_add_mod]

theorem splitOf_key {number : Nat} {w : WireType} (hmin : minFieldNumber ≤ number)
    (hmax : number ≤ maxFieldNumber) (hw : w ≠ .endGroup) :
    SplitOf ⟨number, w⟩ (w.key (UInt32.ofNat number)).toNat := by
  have hlow : w.toNat < 8 := by cases w <;> decide
  rw [WireType.toNat_key w hmax]
  unfold maxFieldNumber at hmax
  exact ⟨by omega, by dsimp only; omega, hw, by dsimp only; omega, hmin⟩

theorem splitKey_eq_ok_iff : Reader.splitKey k = .ok key ↔ key.SplitOf k := by
  constructor
  · intro h
    unfold Reader.splitKey at h
    split at h
    · cases h
    · rename_i hfits
      split at h
      · cases h
      · rename_i hend
        split at h
        · cases h
        · rename_i hzero
          split at h
          · rename_i w hw
            cases h
            rw [WireType.ofNat?_eq_some_iff] at hw
            refine ⟨Nat.not_le.1 hfits, hw, ?_, rfl, Nat.one_le_iff_ne_zero.2 hzero⟩
            rwa [hw, toNat_eq_endGroup] at hend
          · cases h
  · intro h
    have hfits := h.fits
    have hpos := h.pos
    have hend := mt toNat_eq_endGroup.1 h.opens
    rw [Reader.splitKey, if_neg (by omega), h.wireType, if_neg hend, h.number, if_neg (by omega),
      WireType.ofNat?_toNat]

theorem splitKey_eq_error (h : ∀ key : Key, ¬key.SplitOf k) :
    Reader.splitKey k = .error (faultOf k) := by
  have hfour : WireType.endGroup.toNat = 4 := rfl
  have hlimit : 0x100000000 = 2 ^ 32 := rfl
  rw [Reader.splitKey, faultOf, hlimit, hfour]
  by_cases hlarge : 2 ^ 32 ≤ k
  · rw [if_pos hlarge, if_pos hlarge]
  rw [if_neg hlarge, if_neg hlarge]
  by_cases hend : k % 8 = 4
  · rw [if_pos hend, if_pos hend]
  rw [if_neg hend, if_neg hend]
  by_cases hzero : k / 8 = 0
  · rw [if_pos hzero, if_pos hzero]
  rw [if_neg hzero, if_neg hzero]
  -- What passes the three tests and is no key has no wire type.
  cases hw : WireType.ofNat? (k % 8) with
  | none => rfl
  | some w =>
    rw [WireType.ofNat?_eq_some_iff] at hw
    refine absurd ⟨Nat.not_le.1 hlarge, hw, ?_, rfl, Nat.one_le_iff_ne_zero.2 hzero⟩
      (h ⟨k / 8, w⟩)
    rwa [hw, ← hfour, toNat_eq_endGroup] at hend

end Split

end Key

namespace Cursor

theorem read_key (c : Cursor) :
    c.read Reader.key =
      ((c.read Reader.varint).1.bind fun v => Reader.splitKey v.toNat,
        (c.read Reader.varint).2) := by
  simp only [read, Reader.key, bind, EStateM.bind]
  cases Reader.varint c.unread with
  | error fault rest => rfl
  | ok v rest =>
    dsimp only [Except.bind]
    cases Reader.splitKey v.toNat <;> rfl

/-- A key is read exactly where a varint starts whose value splits into one. The field number is
then in range, and putting number and wire type together again gives the value; so each field number
and wire type come back from any varint of their key, the shortest and those with redundant bytes.
Any other varint is passed with the fault of its value, and where there is no varint the fault is
the same as in reading one. -/
theorem read_key_exact (c : Cursor) :
    (∀ key c', c.read Reader.key = (.ok key, c') ↔
      ∃ taken k, taken <+: c.unread ∧ Varint.HasValue taken k ∧ key.SplitOf k ∧
        c' = c.after taken) ∧
    (∀ (key : Key) k, key.SplitOf k → key.number ≤ maxFieldNumber ∧
      (key.wireType.key (UInt32.ofNat key.number)).toNat = k) ∧
    (∀ number w, minFieldNumber ≤ number → number ≤ maxFieldNumber → w ≠ .endGroup →
      (∀ taken, taken <+: c.unread →
        Varint.HasValue taken (w.key (UInt32.ofNat number)).toNat →
        c.read Reader.key = (.ok ⟨number, w⟩, c.after taken)) ∧
      ∀ count, (Key.encode ⟨number, w⟩).length + count ≤ Varint.maxLength →
        Varint.HasValue (Varint.pad count (Key.encode ⟨number, w⟩))
          (w.key (UInt32.ofNat number)).toNat) ∧
    (∀ taken k, taken <+: c.unread → Varint.HasValue taken k → (∀ key : Key, ¬key.SplitOf k) →
      c.read Reader.key = (.error (Key.faultOf k), c.after taken)) ∧
    ∀ fault c', c.read Reader.varint = (.error fault, c') →
      c.read Reader.key = (.error fault, c') := by
  -- Past a varint the key is what its value splits into.
  have hsplit {taken : Bytes} {k : Nat} (hfront : taken <+: c.unread)
      (htaken : Varint.HasValue taken k) :
      c.read Reader.key = (Reader.splitKey k, c.after taken) := by
    rw [read_key, read_varint_taken hfront htaken]
    simp only [Except.bind, UInt64.toNat_ofNat', Nat.mod_eq_of_lt htaken.lt]
  refine ⟨fun key c' => ⟨fun h => ?_, ?_⟩, fun key k h => ⟨h.number_le, h.toNat_key⟩, ?_, ?_, ?_⟩
  · cases hread : c.read Reader.varint with
    | mk outcome moved =>
      cases outcome with
      | error fault =>
        rw [read_key, hread] at h
        cases (Prod.mk.inj h).1
      | ok v =>
        obtain ⟨taken, hfront, htaken, rfl⟩ := read_varint_eq_ok_iff.1 hread
        rw [hsplit hfront htaken] at h
        obtain ⟨hkey, rfl⟩ := Prod.mk.inj h
        exact ⟨taken, v.toNat, hfront, htaken, Key.splitKey_eq_ok_iff.1 hkey, rfl⟩
  · rintro ⟨taken, k, hfront, htaken, hkey, rfl⟩
    rw [hsplit hfront htaken, Key.splitKey_eq_ok_iff.2 hkey]
  · intro number w hmin hmax hw
    refine ⟨fun taken hfront htaken => ?_, fun count hcount => ?_⟩
    · rw [hsplit hfront htaken, Key.splitKey_eq_ok_iff.2 (Key.splitOf_key hmin hmax hw)]
    · have hlt : (w.key (UInt32.ofNat number)).toNat < 2 ^ 64 :=
        (UInt32.toNat_lt _).trans (by decide)
      exact Varint.hasValue_pad hlt hcount
  · intro taken k hfront htaken hnone
    rw [hsplit hfront htaken, Key.splitKey_eq_error hnone]
  · intro fault c' hread
    rw [read_key, hread]
    rfl

/-- A key with all faults at once is too large; one within 32 bits that ends a group and has no
field number ends a group. -/
example :
    ((ofBytes (Varint.encode (2 ^ 32 + 4)) 0).read Reader.key).1 =
        .error (.malformedKey .tooLarge) ∧
      (ofBytes (Varint.pad 2 (Varint.encode 4)) 0).read Reader.key =
        (.error (.malformedKey .endGroup), ⟨[0x84, 0x80, 0x00], 3, 0⟩) := by
  constructor <;> cbv

end Cursor

end ProtoPlan.Wire
