import Mathlib.Data.List.Basic

/-!
Runs over things of several classes. Where each thing may be exchanged with a neighbour of another
class, all orders that keep the things of each class as they stand lead to the same end.
-/

namespace ProtoPlan

/-- Both lists have the things of each class in the same order. -/
def SameWithin [DecidableEq κ] (cls : α → κ) (xs ys : List α) : Prop :=
  ∀ c, xs.filter (fun x => cls x = c) = ys.filter fun y => cls y = c

/-- Only the classes that occur count. -/
theorem sameWithin_iff [DecidableEq κ] {cls : α → κ} {xs ys : List α} :
    SameWithin cls xs ys ↔
      ∀ x ∈ xs ++ ys, xs.filter (fun y => cls y = cls x) = ys.filter fun y => cls y = cls x := by
  constructor
  · intro h x _
    exact h (cls x)
  · intro h c
    by_cases hc : ∃ x ∈ xs ++ ys, cls x = c
    · obtain ⟨x, hx, rfl⟩ := hc
      exact h x hx
    · have hnone {zs : List α} (hzs : zs ⊆ xs ++ ys) : zs.filter (fun z => cls z = c) = [] := by
        refine List.filter_eq_nil_iff.2 fun z hz heq => hc ⟨z, hzs hz, ?_⟩
        simpa using heq
      rw [hnone (List.subset_append_left xs ys), hnone (List.subset_append_right xs ys)]

instance [DecidableEq κ] [DecidableEq α] (cls : α → κ) (xs ys : List α) :
    Decidable (SameWithin cls xs ys) :=
  decidable_of_iff _ sameWithin_iff.symm

/-- Some way through the things, one after the other. -/
inductive RunsTo (move : α → σ → σ → Prop) : List α → σ → σ → Prop where
  | done (state : σ) : RunsTo move [] state state
  | more {x : α} {xs : List α} {state next last : σ} :
      move x state next → RunsTo move xs next last → RunsTo move (x :: xs) state last

/-- Where some of the things move a part of the state and no other thing does, a run moves that part
as these do by themselves. -/
theorem RunsTo.part {move : α → σ → σ → Prop} {own : α → τ → τ → Prop} {f : σ → τ}
    {p : α → Bool} {P : σ → Prop} {xs : List α}
    (hkeeps : ∀ x state next, P state → move x state next → P next)
    (hown : ∀ x ∈ xs, ∀ state next, P state → move x state next →
      if p x then own x (f state) (f next) else f next = f state)
    {state last : σ} (hstate : P state) (h : RunsTo move xs state last) :
    P last ∧ RunsTo own (xs.filter p) (f state) (f last) := by
  induction h with
  | done => exact ⟨hstate, .done _⟩
  | @more x xs state next last hmove _ ih =>
    obtain ⟨hx, hxs⟩ := List.forall_mem_cons.1 hown
    obtain ⟨hlast, hrun⟩ := ih hxs (hkeeps x state next hstate hmove)
    refine ⟨hlast, ?_⟩
    have hpart := hx state next hstate hmove
    by_cases hmine : p x
    · rw [if_pos hmine] at hpart
      rw [List.filter_cons_of_pos hmine]
      exact .more hpart hrun
    · rw [if_neg hmine] at hpart
      rwa [List.filter_cons_of_neg hmine, ← hpart]

/-- From the states that `Inv` allows, moves lead to such states, and two moves over things of
different classes may be made in either order. -/
structure Exchanges (move : α → σ → σ → Prop) (cls : α → κ) (Inv : σ → Prop) : Prop where
  keeps : ∀ ⦃x state next⦄, Inv state → move x state next → Inv next
  swap : ∀ ⦃x y state mid last⦄, Inv state → cls x ≠ cls y → move x state mid → move y mid last →
    ∃ mid', move y state mid' ∧ move x mid' last

section Run

variable {move : α → σ → σ → Prop} {cls : α → κ} {Inv : σ → Prop}
  (hmove : Exchanges move cls Inv) {state last : σ}
include hmove

/-- A thing goes to the front, before things of other classes. -/
theorem RunsTo.to_front {x : α} {before after : List α} (hbefore : ∀ y ∈ before, cls y ≠ cls x)
    (hstate : Inv state) (h : RunsTo move (before ++ x :: after) state last) :
    RunsTo move (x :: (before ++ after)) state last := by
  induction before generalizing state with
  | nil => exact h
  | cons y before ih =>
    obtain ⟨hy, hbefore⟩ := List.forall_mem_cons.1 hbefore
    cases h with
    | more hmovey hrest =>
      cases ih hbefore (hmove.keeps hstate hmovey) hrest with
      | more hmovex hrest =>
        obtain ⟨mid, hfirst, hsecond⟩ := hmove.swap hstate hy hmovey hmovex
        exact .more hfirst (.more hsecond hrest)

/-- A run may take its things in any order that keeps those of each class. -/
theorem RunsTo.reorder [DecidableEq κ] {xs ys : List α} (horder : SameWithin cls ys xs)
    (hstate : Inv state) (h : RunsTo move xs state last) : RunsTo move ys state last := by
  induction ys generalizing xs state with
  | nil =>
    have hnil : xs = [] := by
      refine List.eq_nil_iff_forall_not_mem.2 fun x hx => ?_
      have hfilter := List.filter_eq_nil_iff.1 (horder (cls x)).symm x hx
      simp at hfilter
    rw [hnil] at h
    exact h
  | cons y ys ih =>
    -- The first of the other list with the class of `y` is `y`.
    have hfirst := horder (cls y)
    rw [List.filter_cons_of_pos (by simp), eq_comm, List.filter_eq_cons_iff] at hfirst
    obtain ⟨before, after, rfl, hbefore, -, hafter⟩ := hfirst
    have hne : ∀ x ∈ before, cls x ≠ cls y := by simpa using hbefore
    cases h.to_front hmove hne hstate with
    | more hy hrest =>
      refine .more hy (ih (fun c => ?_) (hmove.keeps hstate hy) hrest)
      by_cases hc : cls y = c
      · subst hc
        rw [List.filter_append, List.filter_eq_nil_iff.2 hbefore, List.nil_append, hafter]
      · have hrest := horder c
        rw [List.filter_append, List.filter_cons_of_neg (by simpa using hc),
          List.filter_cons_of_neg (by simpa using hc)] at hrest
        rw [hrest, List.filter_append]

end Run

end ProtoPlan
