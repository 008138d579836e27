import ProtoPlan.Proofs.Conformance.Limit
import ProtoPlan.Proofs.Dynamic.Embedded
import ProtoPlan.Proofs.Wire.Groups

/-!
The groups in accepted buffers. No decoder has fields that are groups, so that each group is skipped
and kept or dropped as a whole, and what is told of skipped groups holds of all of them.
-/

namespace ProtoPlan

open Wire Wire.Reader Schema ProtoPlan.Dynamic

/-- Each of the records with a start-group key is a balanced group. -/
def SkipsBalanced (_ : List Field) (records : List Record) : Prop :=
  ∀ r ∈ records, r.key.wireType = .startGroup → BalancedGroup r.value

/-- A decoder of messages with these fields accepts balanced groups only. -/
structure BalancesGroups (schema : Schema) (fields : List Field) (decode : Bytes → Except Fault α) :
    Prop where
  accepts : ∀ bytes a, decode bytes = .ok a → Throughout schema SkipsBalanced fields bytes
  refuses : ∀ before rs keyBytes number rest, Cuts before rs →
    Takes key keyBytes ⟨number, .startGroup⟩ →
    (∀ body after, rest = body ++ after → ¬BalancedGroup body) →
    ∃ fault, decode (before ++ (keyBytes ++ rest)) = .error fault

theorem Dynamic.DecoderSet.AcceptsFields.balancesGroups {options : Options} {schema : Schema}
    {set : DecoderSet} (hset : DecoderSet.ofSchema options schema = .ok set) {budget : Nat}
    {fields : List Field} {decode : Bytes → Except Fault α}
    (h : ∀ bytes a, decode bytes = .ok a → set.AcceptsFields schema budget fields bytes) :
    BalancesGroups schema fields decode := by
  have haccepts (bytes : Bytes) (a : α) (hok : decode bytes = .ok a) :
      Throughout schema SkipsBalanced fields bytes := by
    apply (h bytes a hok).throughout hset
    intro _ _ _ records _ hcuts r hr hkey
    exact hcuts.balanced hr hkey
  refine ⟨haccepts, ?_⟩
  intro before rs keyBytes number rest hbefore hkey hopen
  cases hdecode : decode (before ++ (keyBytes ++ rest)) with
  | error fault => exact ⟨fault, rfl⟩
  | ok a =>
    obtain ⟨hcuts, -, -, -⟩ := haccepts _ a hdecode
    obtain ⟨body, after, hrest, hbalanced⟩ := hcuts.exists_balanced hbefore hkey
    exact absurd hbalanced (hopen body after hrest)

/-- The groups in what is merged by plans or by a native decoder, at every depth: each is closed by
an end-group key of its own, and buffers with a group that is not are refused. -/
theorem groups_balanced :
    (∀ options schema set, DecoderSet.ofSchema options schema = .ok set → ∀ m : Dynamic.Message,
      BalancesGroups schema (schema.fieldsOf m.name) (set.merge m)) ∧
    ∀ (α : Type) (type : MessageType α), Conformance.IsNative type → ∀ budget s,
      BalancesGroups Conformance.schema (Conformance.schema.fieldsOf type.name)
        (type.merge budget s).run := by
  constructor
  · intro options schema set hset m
    apply DecoderSet.AcceptsFields.balancesGroups hset
    intro bytes last hok
    exact .message hok
  · intro α type h budget s
    obtain ⟨set, hset⟩ := Conformance.exists_set
    apply DecoderSet.AcceptsFields.balancesGroups hset
    intro bytes last hok
    rcases h.run_cases hset budget s bytes with ⟨m, _, hm, -⟩ | ⟨fault, -, hfault⟩
    · exact .message hm
    · rw [hok] at hfault
      cases hfault

/-- A group inside a group, in an embedded message, and a group that a group inside it leaves
open. -/
theorem groups_balanced_nested :
    let schema : Schema :=
      { messages := [{ name := "M", fields := [.singular "n" 1 (.message "M")] }] }
    ∃ set m, DecoderSet.ofSchema {} schema = .ok set ∧
      set.decode "M" [0x0a, 6, 0x1b, 0x23, 8, 1, 0x2c, 0x1c] = .ok m ∧
      BalancedGroup [0x23, 8, 1, 0x2c, 0x1c] ∧
      (∃ fault, set.decode "M" [0x10, 1, 0x1b, 0x23, 0x1c] = .error fault) ∧
      ∃ fault, (WellKnown.empty.merge 100 {}).run [0x10, 1, 0x1b, 0x23, 0x1c] = .error fault := by
  intro schema
  have hrun : ((DecoderSet.ofSchema {} schema).toOption.bind fun set =>
      (set.decode "M" [0x0a, 6, 0x1b, 0x23, 8, 1, 0x2c, 0x1c]).toOption).isSome = true := by
    rw [DecoderSet.ofSchema_eq, Schema.plans_eq rfl]
    decide +kernel
  have houter : Cuts [0x0a, 6, 0x1b, 0x23, 8, 1, 0x2c, 0x1c]
      [⟨⟨1, .lengthDelimited⟩, [0x0a, 6, 0x1b, 0x23, 8, 1, 0x2c, 0x1c]⟩] := ⟨2, by decide +kernel⟩
  have hinner : Cuts [0x1b, 0x23, 8, 1, 0x2c, 0x1c]
      [⟨⟨3, .startGroup⟩, [0x1b, 0x23, 8, 1, 0x2c, 0x1c]⟩] := ⟨2, by decide +kernel⟩
  have hbefore : Cuts [0x10, 1] [⟨⟨2, .varint⟩, [0x10, 1]⟩] := ⟨2, by decide +kernel⟩
  have hkey : Takes key [0x1b] ⟨3, .startGroup⟩ := fun _ => rfl
  have hopen : ∀ body after, [0x23, 0x1c] = body ++ after → ¬BalancedGroup body := by
    intro body after hbytes hbalanced
    obtain ⟨depth, hclose⟩ := (hbalanced 0).closes
    have hend := hclose (depth + 2) 0 (by omega) after
    have htruncated : closeGroup (depth + 2) 0 [0x23, 0x1c] = .error .truncated [] := by
      rw [closeGroup_eq]
      show (if 0 + 2 ≤ depth + 2 then closeGroup (depth + 2) 1 else throw .recursionLimitReached)
        [0x1c] = _
      rw [if_pos (by omega), closeGroup_eq]
      show closeGroup (depth + 2) 0 [] = _
      rw [closeGroup_eq]
      rfl
    rw [← hbytes, htruncated] at hend
    cases hend
  obtain ⟨set, m, hset, hm⟩ := exists_ok_ok_of_isSome hrun
  have hplans := groups_balanced.1 _ _ _ hset (Message.ofName "M")
  have hnative := groups_balanced.2 _ _ (.wellKnown .empty) 100 {}
  refine ⟨set, m, hset, hm, ?_, ?_, ?_⟩
  · obtain ⟨hcuts, -, -, hembedded⟩ := hplans.accepts _ m hm
    rw [hcuts.unique houter] at hembedded
    have hpayload := hembedded _ List.mem_cons_self _ List.mem_cons_self rfl _ rfl
      [0x1b, 0x23, 8, 1, 0x2c, 0x1c] rfl
    obtain ⟨hcuts, hbalanced, -, -⟩ := hpayload
    rw [hcuts.unique hinner] at hbalanced
    exact hbalanced _ List.mem_cons_self rfl
  · exact hplans.refuses [0x10, 1] _ [0x1b] 3 _ hbefore hkey hopen
  · exact hnative.refuses [0x10, 1] _ [0x1b] 3 _ hbefore hkey hopen

/-- Groups of field three that end with the number of another field, that hold a key without a
number, and that hold a key past 32 bits: all three are kept. -/
theorem improper_groups_kept :
    let schema : Schema := { messages := [{ name := "M" }] }
    ∃ set, DecoderSet.ofSchema {} schema = .ok set ∧
      ∀ body ∈ [[0x24], [0, 1, 0x1c], [0x80, 0x80, 0x80, 0x80, 0x10, 1, 0x1c]],
        (∃ m, set.decode "M" (0x1b :: body) = .ok m ∧ m.unknown = 0x1b :: body) ∧
          ¬GroupBody ProperKey 3 body := by
  intro schema
  have hrun : ((DecoderSet.ofSchema {} schema).toOption.map fun set =>
      [[0x24], [0, 1, 0x1c], [0x80, 0x80, 0x80, 0x80, 0x10, 1, 0x1c]].all fun body =>
        ((set.decode "M" (0x1b :: body)).toOption.map (·.unknown)) = some (0x1b :: body)) =
      some true := by
    rw [DecoderSet.ofSchema_eq, Schema.plans_eq rfl]
    decide +kernel
  obtain ⟨set, hset, hall⟩ := exists_ok_of_map hrun
  refine ⟨set, hset, fun body hbody => ⟨?_, ?_⟩⟩
  · exact exists_ok_of_map (of_decide_eq_true (List.all_eq_true.1 hall body hbody))
  · intro hproper
    simp only [List.mem_cons, List.not_mem_nil, or_false] at hbody
    rcases hbody with rfl | rfl | rfl
    · obtain ⟨-, -, hend⟩ := hproper.fits_first rfl
      exact absurd (hend rfl) (by decide)
    · obtain ⟨-, hnumber, -⟩ := hproper.fits_first rfl
      exact absurd hnumber (by decide)
    · obtain ⟨hsmall, -, -⟩ := hproper.fits_first rfl
      exact absurd hsmall (by decide)

end ProtoPlan
