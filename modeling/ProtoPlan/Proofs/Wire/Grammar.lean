import ProtoPlan.Proofs.Wire.Varint
import ProtoPlan.Wire.Cursor

/-!
The grammar of values on the wire, by itself: which bytes are a value of a wire type. Skipping
accepts this grammar. Its scanner goes through a group in a loop with a counter of the groups that
are open, so that what it still has to read is a group for each of them.
-/

namespace ProtoPlan.Wire

/-- A value that is no group: a varint, eight or four bytes, or a length with so many bytes. -/
inductive PlainValue : WireType → Bytes → Prop where
  | varint {bytes : Bytes} : Varint.IsVarint bytes → PlainValue .varint bytes
  | fixed64 {bytes : Bytes} : bytes.length = 8 → PlainValue .fixed64 bytes
  | fixed32 {bytes : Bytes} : bytes.length = 4 → PlainValue .fixed32 bytes
  | lengthDelimited {size payload : Bytes} : Varint.IsVarint size →
      Varint.number size % 2 ^ 64 = payload.length → payload.length ≤ 2 ^ 63 - 1 →
      PlainValue .lengthDelimited (size ++ payload)

/-- A varint with the number of a wire type in its low three bits. -/
def IsKey (wireType : WireType) (bytes : Bytes) : Prop :=
  Varint.IsVarint bytes ∧ Varint.number bytes % 8 = wireType.toNat

/-- What follows the start-group key of a group, as far as the key that ends it. The groups inside
it nest at most `depth` deep. -/
inductive GroupValue : (depth : Nat) → Bytes → Prop where
  | finish {depth : Nat} {key : Bytes} : IsKey .endGroup key → GroupValue depth key
  | plain {depth : Nat} {wireType : WireType} {key value rest : Bytes} : IsKey wireType key →
      PlainValue wireType value → GroupValue depth rest → GroupValue depth (key ++ (value ++ rest))
  | group {depth : Nat} {key inner rest : Bytes} : IsKey .startGroup key →
      GroupValue depth inner → GroupValue (depth + 1) rest →
      GroupValue (depth + 1) (key ++ (inner ++ rest))

/-- A value of a wire type, with groups at most `depth` deep. None follows an end-group key. -/
inductive IsValue : (depth : Nat) → WireType → Bytes → Prop where
  | plain {depth : Nat} {wireType : WireType} {value : Bytes} : PlainValue wireType value →
      IsValue depth wireType value
  | group {depth : Nat} {body : Bytes} : GroupValue depth body →
      IsValue (depth + 1) .startGroup body

theorem Varint.IsVarint.ne_nil {bytes : Bytes} (h : IsVarint bytes) : bytes ≠ [] := by
  obtain ⟨init, last, rfl, -⟩ := h
  exact List.append_ne_nil_of_right_ne_nil init (List.cons_ne_nil last [])

theorem IsValue.ne_nil {depth : Nat} {wireType : WireType} {value : Bytes}
    (h : IsValue depth wireType value) : value ≠ [] := by
  cases h with
  | plain h =>
    cases h with
    | varint h => exact h.ne_nil
    | fixed64 h | fixed32 h =>
      rintro rfl
      cases h
    | lengthDelimited h => exact List.append_ne_nil_of_left_ne_nil h.ne_nil _
  | group h =>
    cases h with
    | finish h => exact h.1.ne_nil
    | plain h | group h => exact List.append_ne_nil_of_left_ne_nil h.1.ne_nil _

/-- A group may stand where deeper ones may. -/
theorem GroupValue.mono {low high : Nat} {body : Bytes} (h : GroupValue low body)
    (hle : low ≤ high) : GroupValue high body := by
  induction h generalizing high with
  | finish hkey => exact .finish hkey
  | plain hkey hvalue _ ih => exact .plain hkey hvalue (ih hle)
  | group hkey _ _ ihinner ih =>
    obtain ⟨high, rfl⟩ := Nat.exists_eq_add_one_of_ne_zero (Nat.ne_zero_of_lt hle)
    exact .group hkey (ihinner (Nat.le_of_succ_le_succ hle)) (ih hle)

namespace Reader

section Plain

theorem takes_bind_iff {x : Reader α} {f : α → Reader β} (hx : IsLocal x)
    (hf : ∀ a, IsLocal (f a)) {taken : Bytes} {b : β} :
    Takes (x >>= f) taken b ↔
      ∃ a first second, taken = first ++ second ∧ Takes x first a ∧ Takes (f a) second b := by
  constructor
  · intro h
    obtain ⟨a, mid, ha, hb⟩ := bind_eq_ok_iff.1 h.ends
    obtain ⟨first, rfl, hfirst⟩ := hx ha
    exact ⟨a, first, mid, rfl, hfirst, (hf a).takes hb⟩
  · rintro ⟨a, first, second, rfl, hfirst, hsecond⟩
    exact hfirst.bind hsecond

theorem takes_map_iff {x : Reader α} {f : α → β} (hx : IsLocal x) {taken : Bytes} {b : β} :
    Takes (x >>= fun a => pure (f a)) taken b ↔ ∃ a, Takes x taken a ∧ f a = b := by
  constructor
  · intro h
    obtain ⟨a, mid, ha, hb⟩ := bind_eq_ok_iff.1 h.ends
    cases hb
    exact ⟨a, hx.takes ha, rfl⟩
  · rintro ⟨a, ha, rfl⟩
    exact ha.map (Takes.pure _)

theorem takes_take_iff {count : Nat} {taken bytes : Bytes} :
    Takes (take count) taken bytes ↔ taken.length = count ∧ taken = bytes := by
  constructor
  · intro h
    have hcount := take_shorter h.ends
    rw [List.length_nil, Nat.zero_add] at hcount
    subst hcount
    exact ⟨rfl, (takes_take taken).unique h⟩
  · rintro ⟨rfl, rfl⟩
    exact takes_take taken

theorem takes_skipBytes_iff {count : Nat} {taken : Bytes} :
    Takes (skipBytes count) taken () ↔ taken.length = count := by
  rw [skipBytes, takes_map_iff (isLocal_take count)]
  simp [takes_take_iff]

theorem takes_length_iff {taken : Bytes} {count : Nat} :
    Takes length taken count ↔
      Varint.IsVarint taken ∧ Varint.number taken % 2 ^ 64 = count ∧ count ≤ 2 ^ 63 - 1 := by
  constructor
  · intro h
    obtain ⟨value, mid, hvalue, hcount⟩ := bind_eq_ok_iff.1 h.ends
    split at hcount
    · rename_i hlt
      cases hcount
      obtain ⟨hvarint, rfl⟩ := takes_varint_iff.1 (isLocal_varint.takes hvalue)
      rw [UInt64.toNat_ofNat'] at hlt ⊢
      exact ⟨hvarint, rfl, by omega⟩
    · cases hcount
  · rintro ⟨hvarint, rfl, hle⟩
    apply (takes_varint_iff.2 ⟨hvarint, rfl⟩).map
    rw [UInt64.toNat_ofNat', if_pos (by omega)]
    exact Takes.pure _

/-- What is skipped as a plain value is one. -/
theorem takes_skipPlain_iff {wireType : WireType} {value : Bytes} :
    Takes (skipPlain wireType) value () ↔ PlainValue wireType value := by
  cases wireType with
  | varint =>
    rw [skipPlain, skipVarint_eq, takes_map_iff isLocal_varint]
    constructor
    · rintro ⟨_, h, -⟩
      exact .varint (takes_varint_iff.1 h).1
    · intro h
      cases h with
      | varint hvarint => exact ⟨_, takes_varint_iff.2 ⟨hvarint, rfl⟩, rfl⟩
  | fixed64 =>
    rw [skipPlain, takes_skipBytes_iff]
    constructor
    · exact .fixed64
    · intro h
      cases h with
      | fixed64 hlength => exact hlength
  | fixed32 =>
    rw [skipPlain, takes_skipBytes_iff]
    constructor
    · exact .fixed32
    · intro h
      cases h with
      | fixed32 hlength => exact hlength
  | lengthDelimited =>
    rw [skipPlain, takes_bind_iff isLocal_length isLocal_skipBytes]
    constructor
    · rintro ⟨count, size, payload, rfl, hsize, hpayload⟩
      rw [takes_skipBytes_iff] at hpayload
      subst hpayload
      obtain ⟨hvarint, hcount, hle⟩ := takes_length_iff.1 hsize
      exact .lengthDelimited hvarint hcount hle
    · intro h
      cases h with
      | lengthDelimited hvarint hcount hle =>
        exact ⟨_, _, _, rfl, takes_length_iff.2 ⟨hvarint, hcount, hle⟩, takes_skipBytes_iff.2 rfl⟩
  | startGroup | endGroup =>
    constructor
    · intro h
      cases h.ends
    · rintro ⟨⟩

end Plain

section Group

/-- A key is read as a varint with the number of the wire type in its low bits. -/
theorem isKey_iff {wireType : WireType} {bytes : Bytes} :
    IsKey wireType bytes ↔
      ∃ key, Takes varint bytes key ∧ WireType.ofNat? (key.toNat % 8) = some wireType := by
  simp only [WireType.ofNat?_eq_some_iff, takes_varint_iff]
  constructor
  · rintro ⟨hvarint, hbits⟩
    refine ⟨_, ⟨hvarint, rfl⟩, ?_⟩
    rw [UInt64.toNat_ofNat']
    omega
  · rintro ⟨key, ⟨hvarint, rfl⟩, hbits⟩
    rw [UInt64.toNat_ofNat'] at hbits
    exact ⟨hvarint, by omega⟩

/-- The bytes close so many groups, the innermost first. What may still nest inside a group is what
the groups around it leave of the budget. -/
def Closes (budget : Nat) : (opened : Nat) → Bytes → Prop
  | 0, bytes => bytes = []
  | opened + 1, bytes => ∃ body more, bytes = body ++ more ∧
      GroupValue (budget - (opened + 1)) body ∧ Closes budget opened more

/-- What the scanner reads closes the group at hand and those around it. -/
theorem closes_of_closeGroup {budget outer : Nat} {bytes rest : Bytes} (hopen : outer + 1 ≤ budget)
    (h : closeGroup budget outer bytes = .ok () rest) :
    ∃ taken, bytes = taken ++ rest ∧ Closes budget (outer + 1) taken := by
  have key_of {bytes more : Bytes} {key : UInt64} {wireType : WireType}
      (hk : varint bytes = .ok key more) (hw : WireType.ofNat? (key.toNat % 8) = some wireType) :
      ∃ keyBytes, bytes = keyBytes ++ more ∧ IsKey wireType keyBytes := by
    obtain ⟨keyBytes, rfl, hkey⟩ := isLocal_varint hk
    exact ⟨keyBytes, rfl, isKey_iff.2 ⟨key, hkey, hw⟩⟩
  fun_induction closeGroup budget outer bytes with
  | case1 | case2 | case4 | case7 => cases h
  | case3 outer bytes key more hk _ hw hle ih =>
    obtain ⟨taken, rfl, inner, _, rfl, hinner, body, others, rfl, hbody, hothers⟩ := ih hle h
    obtain ⟨keyBytes, rfl, hkey⟩ := key_of hk hw
    refine ⟨keyBytes ++ (inner ++ body) ++ others, by simp, _, others, rfl, ?_, hothers⟩
    have hdepth : budget - (outer + 1) = budget - (outer + 1 + 1) + 1 := by omega
    rw [hdepth] at hbody ⊢
    exact .group hkey hinner hbody
  | case5 bytes key more hk _ hw =>
    cases h
    obtain ⟨keyBytes, rfl, hkey⟩ := key_of hk hw
    exact ⟨keyBytes, rfl, keyBytes, [], (List.append_nil _).symm, .finish hkey, rfl⟩
  | case6 bytes key more hk _ hw outer ih =>
    obtain ⟨taken, rfl, htaken⟩ := ih (by omega) h
    obtain ⟨keyBytes, rfl, hkey⟩ := key_of hk hw
    exact ⟨keyBytes ++ taken, by simp, keyBytes, taken, rfl, .finish hkey, htaken⟩
  | case8 outer bytes key more hk _ w hstart hend hw more' hs _ ih =>
    obtain ⟨taken, rfl, body, others, rfl, hbody, hothers⟩ := ih hopen h
    obtain ⟨keyBytes, rfl, hkey⟩ := key_of hk hw
    obtain ⟨value, rfl, hvalue⟩ := isLocal_skipPlain w hs
    refine ⟨keyBytes ++ (value ++ body) ++ others, by simp, _, others, rfl, ?_, hothers⟩
    exact .plain hkey (takes_skipPlain_iff.1 hvalue) hbody

/-- What is left to do once a group is closed. -/
def closeOuter (budget : Nat) : (outer : Nat) → Reader Unit
  | 0 => pure ()
  | outer + 1 => closeGroup budget outer

/-- A group within the budget is closed, whatever is open around it. -/
theorem closes_of_groupValue {depth : Nat} {body : Bytes} (h : GroupValue depth body)
    {budget outer : Nat} (hdepth : outer + 1 + depth ≤ budget) (rest : Bytes) :
    closeGroup budget outer (body ++ rest) = closeOuter budget outer rest := by
  -- After its key the group is what is left to do for a key of that wire type.
  have step (outer : Nat) {keyBytes : Bytes} {wireType : WireType}
      (hkey : IsKey wireType keyBytes) (more : Bytes) :
      ∃ key : UInt64, WireType.ofNat? (key.toNat % 8) = some wireType ∧
        closeGroup budget outer (keyBytes ++ more) = closeGroupAfter budget outer key more := by
    obtain ⟨key, hk, hw⟩ := isKey_iff.1 hkey
    exact ⟨key, hw, closeGroup_of_varint (hk more)⟩
  induction h generalizing outer rest with
  | finish hkey =>
    obtain ⟨key, hw, hstep⟩ := step outer hkey rest
    rw [hstep]
    simp only [closeGroupAfter, hw]
    cases outer <;> rfl
  | @plain _ _ _ _ more hkey hvalue _ ih =>
    obtain ⟨key, hw, hstep⟩ := step outer hkey (_ ++ (more ++ rest))
    have hskip := takes_skipPlain_iff.2 hvalue
    rw [List.append_assoc, List.append_assoc, hstep, closeGroupAfter_of_skipPlain hw (hskip [])]
    simp only [bind, EStateM.bind, hskip (more ++ rest)]
    exact ih hdepth rest
  | @group _ _ inner more hkey _ _ ihInner ih =>
    obtain ⟨key, hw, hstep⟩ := step outer hkey (inner ++ (more ++ rest))
    rw [List.append_assoc, List.append_assoc, hstep]
    simp only [closeGroupAfter, hw]
    rw [if_pos (by omega), ihInner (by omega)]
    exact ih hdepth rest

/-- What is skipped as a value is one. -/
theorem takes_skipValue_iff {budget : Nat} (hbudget : 1 ≤ budget) {wireType : WireType}
    {value : Bytes} :
    Takes (skipValue budget wireType) value () ↔ IsValue budget wireType value := by
  have hplain (hgroup : wireType ≠ .startGroup) :
      skipValue budget wireType = skipPlain wireType := by
    cases wireType <;> first | rfl | exact absurd rfl hgroup
  constructor
  · intro h
    by_cases hgroup : wireType = .startGroup
    · subst hgroup
      obtain ⟨taken, htaken, body, _, rfl, hbody, rfl⟩ := closes_of_closeGroup hbudget h.ends
      rw [List.append_nil, List.append_nil] at htaken
      obtain ⟨depth, rfl⟩ := Nat.exists_eq_add_one_of_ne_zero (Nat.ne_zero_of_lt hbudget)
      rw [htaken]
      exact .group hbody
    · rw [hplain hgroup] at h
      exact .plain (takes_skipPlain_iff.1 h)
  · intro h rest
    cases h with
    | plain hvalue =>
      have hgroup : wireType ≠ .startGroup := by
        rintro rfl
        cases hvalue
      rw [hplain hgroup]
      exact takes_skipPlain_iff.2 hvalue rest
    | group hbody => exact closes_of_groupValue hbody (by omega) rest

end Group

section Counter

/-- Closing groups as a counter of 32 bits has it, in which sums and differences wrap. -/
def closeGroup32 (budget opened : UInt32) : Reader Unit := fun bytes =>
  match hk : varint bytes with
  | .error fault rest => .error fault rest
  | .ok key rest =>
    have := varint_shorter hk
    match WireType.ofNat? (key.toNat % 8) with
    | none => .error (.invalidWireType (key.toNat % 8)) rest
    | some .startGroup =>
      if opened + 1 ≤ budget then closeGroup32 budget (opened + 1) rest
      else .error .recursionLimitReached rest
    | some .endGroup =>
      if opened - 1 = 0 then .ok () rest else closeGroup32 budget (opened - 1) rest
    | some wireType =>
      match hs : skipPlain wireType rest with
      | .error fault rest => .error fault rest
      | .ok () rest =>
        have := skipPlain_le hs
        closeGroup32 budget opened rest
termination_by bytes => bytes.length

/-- Below the largest budget the counter does not wrap. -/
theorem closeGroup32_eq {budget opened : UInt32} {outer : Nat} {bytes : Bytes}
    (hbudget : budget.toNat < 2 ^ 32 - 1) (hopened : opened.toNat = outer + 1)
    (hle : outer + 1 ≤ budget.toNat) :
    closeGroup32 budget opened bytes = closeGroup budget.toNat outer bytes := by
  have hone : (1 : UInt32).toNat = 1 := rfl
  -- Between no group and the largest counter one up and one down are what they seem.
  have up {opened : UInt32} {outer : Nat} (hopened : opened.toNat = outer + 1)
      (hle : outer + 1 ≤ budget.toNat) : (opened + 1).toNat = outer + 1 + 1 := by
    rw [UInt32.toNat_add, hopened, hone]
    omega
  have down {opened : UInt32} {outer : Nat} (hopened : opened.toNat = outer + 1) :
      (opened - 1).toNat = outer := by
    rw [UInt32.toNat_sub_of_le _ _ (by rw [UInt32.le_iff_toNat_le, hopened, hone]; omega), hopened]
    rfl
  fun_induction closeGroup32 budget opened bytes generalizing outer with
  | case1 opened bytes fault rest hk =>
    rw [closeGroup_eq]
    simp only [bind, EStateM.bind, hk]
  | case2 opened bytes key rest hk _ hw =>
    rw [closeGroup_of_varint hk]
    simp only [closeGroupAfter, hw]
    rfl
  | case3 opened bytes key rest hk _ hw hfit ih =>
    have hup := up hopened hle
    rw [UInt32.le_iff_toNat_le, hup] at hfit
    rw [closeGroup_of_varint hk]
    simp only [closeGroupAfter, hw, if_pos hfit]
    exact ih hup hfit
  | case4 opened bytes key rest hk _ hw hfit =>
    rw [UInt32.le_iff_toNat_le, up hopened hle] at hfit
    rw [closeGroup_of_varint hk]
    simp only [closeGroupAfter, hw, if_neg hfit]
    rfl
  | case5 opened bytes key rest hk _ hw hlast =>
    have hdown := down hopened
    rw [hlast] at hdown
    rw [closeGroup_of_varint hk]
    simp only [closeGroupAfter, hw, ← hdown]
    rfl
  | case6 opened bytes key rest hk _ hw hlast ih =>
    have hdown := down hopened
    have houter : outer ≠ 0 := by
      rintro rfl
      exact hlast (UInt32.toNat_inj.1 hdown)
    obtain ⟨outer, rfl⟩ := Nat.exists_eq_add_one_of_ne_zero houter
    rw [closeGroup_of_varint hk]
    simp only [closeGroupAfter, hw]
    exact ih hdown (by omega)
  | case7 opened bytes key mid hk _ w hstart hend hw fault rest hs =>
    rw [closeGroup_of_varint hk, closeGroupAfter_of_value hw hstart hend]
    simp only [bind, EStateM.bind, hs]
  | case8 opened bytes key mid hk _ w hstart hend hw rest hs _ ih =>
    rw [closeGroup_of_varint hk, closeGroupAfter_of_value hw hstart hend]
    simp only [bind, EStateM.bind, hs]
    exact ih hopened hle

end Counter

end Reader

namespace Cursor

/-- Where the cursor stands once something was taken of what it had not read. -/
theorem position_of_unread {c : Cursor} {taken rest : Bytes} (h : c.unread = taken ++ rest)
    (hne : taken ≠ []) : c.buffer.length - rest.length = c.position + taken.length := by
  have hlength := congrArg List.length h
  have hpos := List.length_pos_iff.2 hne
  rw [unread, List.length_drop, List.length_append] at hlength
  omega

theorem skip_eq_ok_iff {c c' : Cursor} {wireType : WireType} {n : Nat} (hbudget : 1 ≤ c.budget) :
    c.skip wireType = (.ok n, c') ↔
      ∃ value, value <+: c.unread ∧ IsValue c.budget wireType value ∧ value.length = n ∧
        c' = { c with position := c.position + n } := by
  -- From a value at the front the skip is one equation, which both directions use.
  have hskip {value rest : Bytes} (hunread : c.unread = value ++ rest)
      (hvalue : IsValue c.budget wireType value) :
      c.skip wireType =
        (.ok value.length, { c with position := c.position + value.length }) := by
    have htakes := (Reader.takes_skipValue_iff hbudget).2 hvalue rest
    simp only [skip, read, hunread, htakes, position_of_unread hunread hvalue.ne_nil,
      Nat.add_sub_cancel_left, Except.map]
  constructor
  · intro h
    cases hread : Reader.skipValue c.budget wireType c.unread with
    | error fault rest =>
      simp only [skip, read, hread, Except.map] at h
      cases (Prod.mk.inj h).1
    | ok _ rest =>
      obtain ⟨value, hunread, htakes⟩ := Reader.isLocal_skipValue c.budget wireType hread
      have hvalue := (Reader.takes_skipValue_iff hbudget).1 htakes
      rw [hskip hunread hvalue] at h
      cases h
      exact ⟨value, ⟨rest, hunread.symm⟩, hvalue, rfl, rfl⟩
  · rintro ⟨value, ⟨rest, hunread⟩, hvalue, rfl, rfl⟩
    exact hskip hunread.symm hvalue

/-- Skipping a value accepts the grammar of values, with groups as deep as the budget, and moves on
by the length of the value, of which there is one alone; nothing is skipped after an end-group key.
The open groups can be counted in 32 bits. -/
theorem skip_exact (c : Cursor) (wireType : WireType) (hlow : 1 ≤ c.budget)
    (hhigh : c.budget < 2 ^ 32 - 1) :
    (∀ n c', c.skip wireType = (.ok n, c') ↔
      ∃ value, value <+: c.unread ∧ IsValue c.budget wireType value ∧ value.length = n ∧
        c' = { c with position := c.position + n }) ∧
    (∀ value value', value <+: c.unread → value' <+: c.unread →
      IsValue c.budget wireType value → IsValue c.budget wireType value' → value = value') ∧
    (c.skip .endGroup).1 = .error .unexpectedEndOfGroup ∧
    Reader.closeGroup32 (UInt32.ofNat c.budget) 1 c.unread =
      Reader.skipValue c.budget .startGroup c.unread := by
  refine ⟨fun n c' => skip_eq_ok_iff hlow, ?_, rfl, ?_⟩
  · intro value value' hfront hfront' hvalue hvalue'
    have hskip := (skip_eq_ok_iff hlow).2 ⟨value, hfront, hvalue, rfl, rfl⟩
    have hskip' := (skip_eq_ok_iff hlow).2 ⟨value', hfront', hvalue', rfl, rfl⟩
    have hlength : value.length = value'.length := by
      have hboth := hskip.symm.trans hskip'
      exact Except.ok.inj (Prod.mk.inj hboth).1
    obtain ⟨rest, hrest⟩ := hfront
    obtain ⟨rest', hrest'⟩ := hfront'
    exact (List.append_inj (hrest.trans hrest'.symm) hlength).1
  · have hbudget : (UInt32.ofNat c.budget).toNat = c.budget := by
      rw [UInt32.toNat_ofNat']
      omega
    rw [Reader.closeGroup32_eq (by rwa [hbudget]) rfl (by rwa [hbudget]), hbudget]
    rfl

/-- A group in a group takes two levels. It is the eleven bytes with a varint, a group with four
bytes in it and the key that ends the outer one. -/
theorem skip_exact_nested_group :
    (ofBytes [0x10, 0x96, 0x01, 0x1b, 0x25, 1, 2, 3, 4, 0x1c, 0x0c, 0x08, 0x01] 2).skip
        .startGroup =
      (.ok 11, ⟨[0x10, 0x96, 0x01, 0x1b, 0x25, 1, 2, 3, 4, 0x1c, 0x0c, 0x08, 0x01], 11, 2⟩) ∧
    IsValue 2 .startGroup [0x10, 0x96, 0x01, 0x1b, 0x25, 1, 2, 3, 4, 0x1c, 0x0c] := by
  have hskip : (ofBytes [0x10, 0x96, 0x01, 0x1b, 0x25, 1, 2, 3, 4, 0x1c, 0x0c, 0x08, 0x01] 2).skip
      .startGroup =
    (.ok 11, ⟨[0x10, 0x96, 0x01, 0x1b, 0x25, 1, 2, 3, 4, 0x1c, 0x0c, 0x08, 0x01], 11, 2⟩) := by cbv
  refine ⟨hskip, ?_⟩
  obtain ⟨value, hfront, hvalue, hlength, -⟩ :=
    ((skip_exact _ .startGroup (by decide) (by decide)).1 11 _).1 hskip
  rw [List.prefix_iff_eq_take.1 hfront, hlength] at hvalue
  exact hvalue

end Cursor

end ProtoPlan.Wire
