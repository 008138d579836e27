import ProtoPlan.Proofs.Wire.Grammar
import ProtoPlan.Proofs.Wire.Nesting
import ProtoPlan.Proofs.Wire.Relaxing

/-!
What a skipped group consists of. Groups are told by their nesting alone: a group is closed by the
first end-group key that closes none inside it, whichever numbers the two have.
-/

namespace ProtoPlan.Wire.Reader

/-- A group past its start-group key, up to and with the end-group key that closes it. The group
has a number, and `fits` says which keys may stand in it. -/
inductive GroupBody (fits : Nat → UInt64 → Prop) : (number : Nat) → Bytes → Prop where
  | finish {number : Nat} {keyBytes : Bytes} {key : UInt64} :
      Takes varint keyBytes key → WireType.ofNat? (key.toNat % 8) = some .endGroup →
      fits number key → GroupBody fits number keyBytes
  | value {number : Nat} {keyBytes value rest : Bytes} {key : UInt64} {wireType : WireType} :
      Takes varint keyBytes key → WireType.ofNat? (key.toNat % 8) = some wireType →
      fits number key → Takes (skipPlain wireType) value () → GroupBody fits number rest →
      GroupBody fits number (keyBytes ++ (value ++ rest))
  | group {number : Nat} {keyBytes inner rest : Bytes} {key : UInt64} :
      Takes varint keyBytes key → WireType.ofNat? (key.toNat % 8) = some .startGroup →
      fits number key → GroupBody fits (key.toNat / 8) inner → GroupBody fits number rest →
      GroupBody fits number (keyBytes ++ (inner ++ rest))

/-- A key that would do for a message, but for those that end a group: they have its number. -/
def ProperKey (number : Nat) (key : UInt64) : Prop :=
  key.toNat < 0x100000000 ∧ 1 ≤ key.toNat / 8 ∧
    (key.toNat % 8 = WireType.endGroup.toNat → key.toNat / 8 = number)

/-- The start-group keys and the end-group keys of a group make pairs, of whatever numbers. -/
def BalancedGroup (body : Bytes) : Prop := ∀ number, GroupBody (fun _ _ => True) number body

section GroupBody

variable {fits : Nat → UInt64 → Prop} {number : Nat} {body : Bytes}

/-- The first key of a group fits it. -/
theorem GroupBody.fits_first (h : GroupBody fits number body) {rest : Bytes} {key : UInt64}
    (hk : varint body = .ok key rest) : fits number key := by
  have same {keyBytes more : Bytes} {key' : UInt64} (hk' : Takes varint keyBytes key')
      (hbody : body = keyBytes ++ more) : key' = key := by
    have hboth := hk' more
    rw [← hbody, hk] at hboth
    cases hboth
    rfl
  cases h with
  | finish hk' _ hfits => rwa [← same hk' (List.append_nil _).symm]
  | value hk' _ hfits => rwa [← same hk' rfl]
  | group hk' _ hfits => rwa [← same hk' rfl]

end GroupBody

/-- What is a group by the grammar is balanced. -/
theorem balanced_of_groupValue {depth : Nat} {body : Bytes} (h : GroupValue depth body) :
    BalancedGroup body := by
  intro number
  induction h generalizing number with
  | finish hkey =>
    obtain ⟨key, hk, hw⟩ := isKey_iff.1 hkey
    exact .finish hk hw trivial
  | plain hkey hvalue _ ih =>
    obtain ⟨key, hk, hw⟩ := isKey_iff.1 hkey
    exact .value hk hw trivial (takes_skipPlain_iff.2 hvalue) (ih number)
  | group hkey _ _ ihinner ih =>
    obtain ⟨key, hk, hw⟩ := isKey_iff.1 hkey
    exact .group hk hw trivial (ihinner _) (ih number)

theorem GroupBody.exists_groupValue {fits : Nat → UInt64 → Prop} {number : Nat} {body : Bytes}
    (h : GroupBody fits number body) : ∃ depth, GroupValue depth body := by
  induction h with
  | finish hk hw => exact ⟨0, .finish (isKey_iff.2 ⟨_, hk, hw⟩)⟩
  | value hk hw _ hvalue _ ih =>
    obtain ⟨depth, ih⟩ := ih
    exact ⟨depth, .plain (isKey_iff.2 ⟨_, hk, hw⟩) (takes_skipPlain_iff.1 hvalue) ih⟩
  | group hk hw _ _ _ ihinner ih =>
    obtain ⟨deep, ihinner⟩ := ihinner
    obtain ⟨depth, ih⟩ := ih
    exact ⟨deep + depth + 1, .group (isKey_iff.2 ⟨_, hk, hw⟩) (ihinner.mono (by omega))
      (ih.mono (by omega))⟩

/-- With enough budget a group is closed, whatever is open around it. -/
theorem GroupBody.closes {fits : Nat → UInt64 → Prop} {number : Nat} {body : Bytes}
    (h : GroupBody fits number body) :
    ∃ depth, ∀ budget outer, outer + depth ≤ budget → ∀ rest,
      closeGroup budget outer (body ++ rest) = closeOuter budget outer rest := by
  obtain ⟨depth, hgroup⟩ := h.exists_groupValue
  exact ⟨depth + 1, fun _ _ hle rest => closes_of_groupValue hgroup (by omega) rest⟩

/-- A group that is skipped is balanced. Its budget may even be none, as one more does no harm. -/
theorem balanced_of_takes {budget : Nat} {body : Bytes}
    (h : Takes (skipValue budget .startGroup) body ()) : BalancedGroup body := by
  have hmore : Takes (skipValue (budget + 1) .startGroup) body () := by
    intro rest
    rcases relaxes_skipValue (Nat.le_add_right budget 1) .startGroup (body ++ rest) with
      ⟨left, hlimit⟩ | hsame
    · rw [h rest] at hlimit
      cases hlimit
    · rw [hsame, h rest]
  cases (takes_skipValue_iff (Nat.le_add_left 1 budget)).1 hmore with
  | plain hvalue => cases hvalue
  | group hgroup => exact balanced_of_groupValue hgroup

/-- A group is skipped just if it is balanced and not too deep. -/
theorem takes_skipValue_startGroup_iff {budget : Nat} {body : Bytes} :
    Takes (skipValue budget .startGroup) body () ↔
      BalancedGroup body ∧ ¬DeepGroup budget .startGroup body := by
  constructor
  · intro h
    constructor
    · exact balanced_of_takes h
    · intro hdeep
      rcases skipValue_limit budget h with ⟨hno, -⟩ | ⟨-, hfails⟩
      · exact hno hdeep
      · obtain ⟨left, hleft⟩ := hfails []
        rw [h []] at hleft
        cases hleft
  · intro h
    obtain ⟨hbalanced, hshallow⟩ := h
    obtain ⟨depth, hclose⟩ := (hbalanced 0).closes
    have htakes : Takes (skipValue depth .startGroup) body () :=
      fun rest => hclose depth 0 (by omega) rest
    rcases skipValue_limit budget htakes with ⟨-, _, h⟩ | ⟨hdeep, -⟩
    · exact h
    · exact absurd hdeep hshallow

/-- A record with a start-group key is a balanced group. -/
theorem Cuts.balanced {bytes : Bytes} {records : List Record} (h : Cuts bytes records)
    {r : Record} (hr : r ∈ records) (hkey : r.key.wireType = .startGroup) :
    BalancedGroup r.value := by
  obtain ⟨-, budget, hrecords⟩ := cuts_iff.1 h
  obtain ⟨keyBytes, -, -, hskip⟩ := value_of_record (hrecords r hr)
  rw [hkey] at hskip
  exact (takes_skipValue_startGroup_iff.1 hskip).1

/-- So is what follows a start-group key where a record begins. -/
theorem Cuts.exists_balanced {before keyBytes rest : Bytes} {rs records : List Record}
    {number : Nat} (h : Cuts (before ++ (keyBytes ++ rest)) records) (hbefore : Cuts before rs)
    (hkey : Takes key keyBytes ⟨number, .startGroup⟩) :
    ∃ body after, rest = body ++ after ∧ BalancedGroup body := by
  obtain ⟨more, rfl, hmore⟩ := hbefore.of_append h
  have hgroup := hkey rest
  obtain ⟨hwhole, budget, hrecords⟩ := cuts_iff.1 hmore
  cases more with
  | nil =>
    rw [← hwhole] at hgroup
    cases hgroup
  | cons r more =>
    obtain ⟨keyBytes', hraw, hkey', hskip⟩ := value_of_record (hrecords r List.mem_cons_self)
    rw [List.flatMap_cons, hraw, List.append_assoc] at hwhole
    rw [← hwhole, hkey'] at hgroup
    obtain ⟨hsame, hrest⟩ := EStateM.Result.ok.inj hgroup
    refine ⟨r.value, _, hrest.symm, hmore.balanced List.mem_cons_self ?_⟩
    rw [hsame]

end ProtoPlan.Wire.Reader
