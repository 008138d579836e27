import ProtoPlan.Proofs.Dynamic.Required
import ProtoPlan.Proofs.Wire.PresenceBits

/-!
Keeping track of the required fields while a message is merged. Generated decoders set bits in
words, of which there are as few as hold one for each required field; going by a plan, one flag for
each does as well. Whatever keeps track, the same buffers lack a required field.
-/

namespace ProtoPlan.Dynamic

open Wire Schema Reader

/-- A way to remember which bits of required fields were set. -/
structure Tracker (τ : Type) where
  start : τ
  mark : τ → Nat → τ
  isComplete : τ → Bool

namespace Tracker

/-- Whether nothing is missing after `bits` were set, in this order. -/
def check {τ : Type} (tracker : Tracker τ) (bits : List Nat) : Bool :=
  tracker.isComplete (bits.foldl tracker.mark tracker.start)

/-- Bits in words, and a search for the first of `count` that is missing. -/
def bits (words count : Nat) : Tracker PresenceBits where
  start := .empty words
  mark := .mark
  isComplete bits := bits.firstMissing count == some none

/-- One flag for each required field, none of which may stay down. -/
def flags (count : Nat) : Tracker (List Bool) where
  start := List.replicate count false
  mark flags bit := flags.set bit true
  isComplete flags := !flags.contains false

/-- The states stand for sets of the first `count` indices. -/
structure Tracks {τ : Type} (tracker : Tracker τ) (count : Nat) (R : τ → List Nat → Prop) :
    Prop where
  start : R tracker.start []
  mark : ∀ {state seen bit}, bit < count → R state seen → R (tracker.mark state bit) (bit :: seen)
  isComplete : ∀ {state seen}, R state seen →
    tracker.isComplete state = (List.range count).all (· ∈ seen)

theorem Tracks.foldl_mark {τ : Type} {tracker : Tracker τ} {count : Nat} {R : τ → List Nat → Prop}
    (h : tracker.Tracks count R) {state : τ} {seen bits : List Nat}
    (hbits : ∀ bit ∈ bits, bit < count) (hstate : R state seen) :
    R (bits.foldl tracker.mark state) (bits.reverse ++ seen) := by
  induction bits generalizing state seen with
  | nil => exact hstate
  | cons bit bits ih =>
    rw [List.forall_mem_cons] at hbits
    simpa using ih hbits.2 (h.mark hbits.1 hstate)

/-- The check depends on which bits were set, and on nothing else. -/
theorem Tracks.check_eq {τ : Type} {tracker : Tracker τ} {count : Nat} {R : τ → List Nat → Prop}
    (h : tracker.Tracks count R) {bits : List Nat} (hbits : ∀ bit ∈ bits, bit < count) :
    tracker.check bits = (List.range count).all (· ∈ bits) := by
  rw [check, h.isComplete (h.foldl_mark hbits h.start)]
  simp

theorem tracks_bits {words count : Nat} (h : count ≤ 64 * words) :
    (bits words count).Tracks count (PresenceBits.Holds · words) where
  start := PresenceBits.holds_empty words
  mark hbit hholds := hholds.mark (by omega)
  isComplete hholds := by
    rw [Bool.eq_iff_iff, ← hholds.firstMissing_eq_none_iff_all h]
    exact beq_iff_eq

theorem tracks_flags (count : Nat) :
    (flags count).Tracks count fun flags seen =>
      flags = (List.range count).map fun bit => decide (bit ∈ seen) where
  start := by simp [flags, List.map_const']
  mark := by
    rintro _ seen bit hbit rfl
    apply List.ext_getElem
    · simp [flags]
    · intro other hother _
      by_cases heq : bit = other
      · simp [flags, heq]
      · simp [flags, heq, Ne.symm heq]
  isComplete := by
    rintro _ seen rfl
    rw [Bool.eq_iff_iff]
    simp [flags]

end Tracker

/-- Merges all unread bytes into `m` by a plan, with the required fields in the care of `tracker`.
With bits this is the loop of the decoder that is generated for the plan. -/
def mergeTracked {τ : Type} (tracker : Tracker τ) (budget : Nat) (nested : Nested) (plan : Plan)
    (m : Message) : Reader Message := do
  let (m, state) ← Reader.fields budget
    (fun key (m, state) => (plan.rule? key.number).map fun rule => do
      let (m, seen) ← nested.apply rule key m []
      return (m, seen.foldl tracker.mark state))
    (fun number raw (m, state) => (keepUnclaimed plan number raw m, state))
    (m, tracker.start)
  if tracker.isComplete state then return m
  else throw (.requiredFieldMissing plan.message)

section Agree

variable {τ : Type} {tracker : Tracker τ} {R : τ → List Nat → Prop} {nested : Nested} {plan : Plan}
  (h : tracker.Tracks plan.requiredCount R)
include h

/-- A record marks what it adds to those that were seen. -/
theorem Tracker.Tracks.agrees_apply {rule : Rule}
    (hbits : ∀ bit ∈ rule.bits, bit < plan.requiredCount) (key : Key) (m : Message) {state : τ}
    {seen : List Nat} (hstate : R state seen) :
    Agrees (fun s t => s.1 = t.1 ∧ R s.2 t.2)
      (do
        let (m, bits) ← nested.apply rule key m []
        return (m, bits.foldl tracker.mark state))
      (nested.apply rule key m seen) := by
  cases rule with
  | field rule =>
    simp only [Nested.apply, bind_assoc, pure_bind]
    refine (agrees_self _).map fun m m' hm => ⟨hm, ?_⟩
    cases hbit : rule.requiredBit with
    | none => simpa using hstate
    | some bit =>
      have hlt : bit < plan.requiredCount := hbits bit (by simp [Rule.bits, hbit])
      simpa using h.mark hlt hstate
  | map rule =>
    simp only [Nested.apply, bind_assoc, pure_bind]
    exact (agrees_self _).map fun m m' hm => ⟨hm, hstate⟩

/-- Whatever keeps track, the outcome is that of the plan. -/
theorem Tracker.Tracks.agrees_mergeTracked
    (hbits : ∀ rule ∈ plan.rules, ∀ bit ∈ rule.bits, bit < plan.requiredCount) (budget : Nat)
    (m : Message) :
    Agrees Eq (mergeTracked tracker budget nested plan m) (mergeByPlan budget nested plan m) := by
  refine Agrees.bind (R := fun s t => s.1 = t.1 ∧ R s.2 t.2) (Agrees.fields ?_ ?_ ⟨rfl, h.start⟩) ?_
  · rintro key ⟨m, state⟩ ⟨_, seen⟩ ⟨rfl, hstate⟩
    cases hrule : plan.rule? key.number with
    | none => exact .none
    | some rule =>
      exact .some (h.agrees_apply (hbits rule (List.mem_of_find?_eq_some hrule)) key m hstate)
  · rintro key ⟨m, state⟩ ⟨_, seen⟩ raw ⟨rfl, hstate⟩ -
    exact ⟨rfl, hstate⟩
  · rintro ⟨m, state⟩ ⟨_, seen⟩ ⟨rfl, hstate⟩
    dsimp only
    rw [h.isComplete hstate]
    split
    · exact .pure rfl
    · exact .throw _

theorem Tracker.Tracks.run_mergeTracked
    (hbits : ∀ rule ∈ plan.rules, ∀ bit ∈ rule.bits, bit < plan.requiredCount) (budget : Nat)
    (nested : Nested) (m : Message) (bytes : Bytes) :
    (mergeTracked tracker budget nested plan m).run bytes =
      (mergeByPlan budget nested plan m).run bytes := by
  have hagrees : Agrees Eq (mergeTracked tracker budget nested plan m)
      (mergeByPlan budget nested plan m) := h.agrees_mergeTracked hbits budget m
  have hrun := hagrees.run_eq (f := id) (fun _ _ heq => heq.symm) bytes
  rw [Except.map_id] at hrun
  exact hrun.symm

end Agree

/-- The bits that the rules of a plan set are those of its required fields. -/
theorem bits_lt_requiredCount {scope : Scope} {message : ProtoPlan.Message} {plan : Plan}
    (h : Plan.ofMessage scope message = .ok plan) {rule : Rule} (hrule : rule ∈ plan.rules)
    {bit : Nat} (hbit : bit ∈ rule.bits) : bit < plan.requiredCount := by
  have hlayout := (Plan.fits_ofMessage h).1.requiredLayout fun _ => Plan.rule?_of_mem h
  cases rule with
  | map => cases hbit
  | field rule => exact (hlayout.bits bit).1 ⟨rule, hrule, by simpa [Rule.bits] using hbit⟩

/-- Presence bits are a set of indices: those that were set are held and no others, and the search
finds the least of the first `count` that is missing. There are words enough for any number of
required fields, and a check by bits agrees with a check by flags, also at the end of a message. -/
theorem presenceBits_exact :
    (∀ words seen, (∀ bit ∈ seen, bit < 64 * words) →
      ∃ bits, seen.foldlM PresenceBits.set (.empty words) = some bits ∧
        (∀ bit < 64 * words, bits.isSet bit = some (decide (bit ∈ seen))) ∧
        ∀ count ≤ 64 * words, ∃ missing, bits.firstMissing count = some missing ∧
          PresenceBits.IsLeastUnseen seen count missing) ∧
    (∀ count, ∀ bit < count, bit < 64 * PresenceBits.wordsFor count) ∧
    (∀ count seen, (∀ bit ∈ seen, bit < count) →
      (Tracker.bits (PresenceBits.wordsFor count) count).check seen =
        (Tracker.flags count).check seen) ∧
    ∀ scope message plan, Plan.ofMessage scope message = .ok plan →
      (∀ rule ∈ plan.rules, ∀ bit ∈ rule.bits, bit < plan.requiredCount) ∧
      let bits := Tracker.bits plan.requiredWords plan.requiredCount
      let flags := Tracker.flags plan.requiredCount
      ∀ budget nested m bytes,
        (mergeTracked bits budget nested plan m).run bytes =
          (mergeTracked flags budget nested plan m).run bytes ∧
        (mergeTracked flags budget nested plan m).run bytes =
          (mergeByPlan budget nested plan m).run bytes := by
  refine ⟨?_, fun count bit hbit => hbit.trans_le (PresenceBits.le_wordsFor count), ?_, ?_⟩
  · intro words seen hseen
    obtain ⟨bits, hset, hholds⟩ := (PresenceBits.holds_empty words).exists_foldlM_set hseen
    have hbits : bits.Holds words seen := by simpa [PresenceBits.Holds] using hholds
    refine ⟨bits, hset, hbits.2, fun count hcount => ?_⟩
    exact ⟨_, hbits.firstMissing_eq hcount, PresenceBits.isLeastUnseen_find? seen count⟩
  · intro count seen hseen
    rw [(Tracker.tracks_bits (PresenceBits.le_wordsFor count)).check_eq hseen,
      (Tracker.tracks_flags count).check_eq hseen]
  · intro scope message plan hplan
    have hbits (rule : Rule) (hrule : rule ∈ plan.rules) (bit : Nat) (hbit : bit ∈ rule.bits) :
        bit < plan.requiredCount := bits_lt_requiredCount hplan hrule hbit
    have hwords := PresenceBits.le_wordsFor plan.requiredCount
    refine ⟨hbits, ?_⟩
    intro bits flags budget nested m bytes
    have htracked := (Tracker.tracks_bits hwords).run_mergeTracked hbits budget nested m bytes
    have hflags := (Tracker.tracks_flags _).run_mergeTracked hbits budget nested m bytes
    exact ⟨htracked.trans hflags.symm, hflags⟩

/-- Bits on both sides of the end of a word, and a message with more required fields than a word has
bits. -/
theorem presenceBits_exact_two_words :
    let message : ProtoPlan.Message :=
      { name := "M", fields := (List.range 65).map fun i =>
          ⟨"f" ++ toString i, i + 1, .scalar .bool, .required⟩ }
    let scope := Scope.ofTypes {} { messages := [message] } Scope.knownTypes
    (∃ bits, [63, 64, 0, 64].foldlM PresenceBits.set (.empty 2) = some bits ∧
      bits.isSet 64 = some true ∧ bits.isSet 1 = some false ∧
      bits.firstMissing 128 = some (some 1)) ∧
    ∃ plan, Plan.ofMessage scope message = .ok plan ∧ plan.requiredCount = 65 ∧
      plan.requiredWords = 2 ∧ ∀ nested m,
        (mergeTracked (.bits 2 65) 0 nested plan m).run [] =
          .error (.requiredFieldMissing "M") := by
  intro message scope
  obtain ⟨hbits, -, -, hplans⟩ := presenceBits_exact
  constructor
  · obtain ⟨bits, hset, hisSet, hfirst⟩ := hbits 2 [63, 64, 0, 64] (by decide)
    obtain ⟨missing, hmissing, hleast⟩ := hfirst 128 (by decide)
    refine ⟨bits, hset, hisSet 64 (by decide), hisSet 1 (by decide), ?_⟩
    rw [hmissing]
    cases missing with
    | none => exact absurd (hleast 1 (by decide)) (by decide)
    | some bit =>
      obtain ⟨-, hunseen, hbefore⟩ := hleast
      have hle : bit ≤ 1 := by
        by_contra hlt
        exact absurd (hbefore 1 (by omega)) (by decide)
      have hne : bit ≠ 0 := by
        rintro rfl
        exact hunseen (by decide)
      rw [Nat.le_antisymm hle (by omega)]
  · have hrun : (Plan.ofMessage scope message).toOption.isSome = true := by decide +kernel
    obtain ⟨plan, hplan⟩ := exists_ok_of_isSome hrun
    obtain ⟨-, -, -, hrules⟩ := Plan.ofMessage_eq_ok_iff.1 hplan
    have hcount : plan.requiredCount = 65 := by
      rw [hrules]
      change (message.fields.filter (·.isRequired)).length = 65
      decide +kernel
    have hname : plan.message = "M" := by rw [hrules]
    have hwords : plan.requiredWords = 2 := by rw [Plan.requiredWords, hcount]; rfl
    refine ⟨plan, hplan, hcount, hwords, fun nested m => ?_⟩
    obtain ⟨hsame, hflags⟩ := (hplans scope message plan hplan).2 0 nested m []
    rw [hcount, hwords] at hsame
    rw [hcount] at hflags
    have hmissing : ¬(List.range plan.requiredCount).all (· ∈ ([] : List Nat)) = true := by
      rw [hcount]
      decide
    rw [hsame, hflags, mergeByPlan, ← hname]
    simp only [run, fields, drain_nil, bind, EStateM.bind, if_neg hmissing]
    rfl

end ProtoPlan.Dynamic
