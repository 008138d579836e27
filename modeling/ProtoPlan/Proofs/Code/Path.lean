import ProtoPlan.Proofs.Code.Grammar
import ProtoPlan.Proofs.Code.Lexeme

/-!
A path stays one with another segment after it. The readers of a segment take all of a text and
leave what comes after it; the reader of further segments takes that as well.
-/

namespace ProtoPlan.Code

open ProtoPlan.Code.Parser ProtoPlan.Code.Grammar

/-- No colon comes last. -/
def NoColonLast (ls : List Lexeme) : Prop :=
  ∃ init l, ls = init ++ [l] ∧ ∀ joint, l ≠ .punct ':' joint

theorem NoColonLast.of_suffix {ls rest : List Lexeme} (h : NoColonLast rest)
    (hsuffix : rest <:+ ls) : NoColonLast ls := by
  obtain ⟨init, l, rfl, hl⟩ := h
  obtain ⟨start, rfl⟩ := hsuffix
  exact ⟨start ++ init, l, by rw [List.append_assoc], hl⟩

theorem NoColonLast.ne_colon {init : List Lexeme} {c : Char} {joint : Bool}
    (h : NoColonLast (init ++ [.punct c joint])) : c ≠ ':' := by
  obtain ⟨init', l, heq, hl⟩ := h
  obtain ⟨-, rfl⟩ := List.append_singleton_inj.1 heq
  rintro rfl
  exact hl joint rfl

variable {name : Ident}

theorem continues_append {ls : List Lexeme} (h : NoColonLast ls) :
    Continues name ls (ls ++ colonName name) := by
  obtain ⟨init, l, rfl, hl⟩ := h
  induction init with
  | nil => exact .last (.same l hl)
  | cons first init ih => exact .cons first ih

theorem continues_joint {init : List Lexeme} {c : Char} (hc : c ≠ ':') :
    Continues name (init ++ [.punct c false]) (init ++ .punct c true :: colonName name) := by
  induction init with
  | nil => exact .last (.joint c hc)
  | cons first init ih => exact .cons first ih

/-- Lexemes, or none, and the same with colons and a name after the last. -/
inductive Reaches (name : Ident) : List Lexeme → List Lexeme → Prop where
  | nil : Reaches name [] (colonName name)
  | continues {ls ls' : List Lexeme} : Continues name ls ls' → Reaches name ls ls'

/-- The second reader takes what the first one takes, also if the lexemes go on, and leaves what
comes after the last if the first one takes all. What is taken whole does not end in a colon. -/
structure Ends (name : Ident) (p q : Parser α) : Prop where
  suffix : ∀ ⦃ls a rest⦄, p ls = some (a, rest) → rest <:+ ls
  closes : ∀ ⦃ls a⦄, p ls = some (a, []) → ls ≠ [] → NoColonLast ls
  reaches : ∀ ⦃ls a rest⦄, p ls = some (a, rest) → ∀ ⦃ls'⦄, Reaches name ls ls' →
    ∃ rest', q ls' = some (a, rest') ∧ Reaches name rest rest'

/-- If the first reader takes all, the second one does, also if the lexemes go on. -/
structure GoesOn (name : Ident) (p q : Parser α) : Prop where
  closes : ∀ ⦃ls a⦄, p ls = some (a, []) → ls ≠ [] → NoColonLast ls
  reaches : ∀ ⦃ls a⦄, p ls = some (a, []) → ∀ ⦃ls'⦄, Reaches name ls ls' →
    ∃ a', q ls' = some (a', [])

section Readers

variable {p q : Parser α} {f g : α → Parser β}

theorem bind_nil (h : p [] = none) (f : α → Parser β) : (p >>= f) [] = none := by
  change (p [] >>= fun r => f r.1 r.2) = none
  rw [h]
  rfl

/-- Before a reader that needs a lexeme, not all is taken. -/
theorem Parser.ReadsOn.before (h : ReadsOn name p q) (hneeds : ∀ a, f a [] = none) {ls rest : List Lexeme}
    {b : β} (hb : (p >>= f) ls = some (b, rest)) :
    ∃ a mid, f a mid = some (b, rest) ∧ mid ≠ [] ∧ mid <:+ ls ∧
      ∀ ls', Reaches name ls ls' → ∃ mid', q ls' = some (a, mid') ∧ Reaches name mid mid' := by
  obtain ⟨a, mid, ha, hb⟩ := bind_eq_some_iff.1 hb
  have hmid : mid ≠ [] := by
    rintro rfl
    rw [hneeds a] at hb
    cases hb
  refine ⟨a, mid, hb, hmid, h.suffix ha, fun ls' hls => ?_⟩
  cases hls with
  | nil => exact absurd (List.suffix_nil.1 (h.suffix ha)) hmid
  | continues hls =>
    obtain ⟨mid', ha', hmid'⟩ := h.further ha hmid hls
    exact ⟨mid', ha', .continues hmid'⟩

namespace Ends

theorem pure (a : α) : Ends name (Pure.pure a) (Pure.pure a) where
  suffix ls b rest h := by
    cases h
    exact List.suffix_rfl
  closes ls b h hne := by
    cases h
    exact absurd rfl hne
  reaches ls b rest h ls' hls := by
    cases h
    exact ⟨ls', rfl, hls⟩

theorem failure : Ends name (failure : Parser α) q where
  suffix ls a rest h := by cases h
  closes ls a h := by cases h
  reaches ls a rest h := by cases h

theorem bind (h : Ends name p q) (hf : ∀ a, Ends name (f a) (g a)) :
    Ends name (p >>= f) (q >>= g) where
  suffix ls b rest hb := by
    obtain ⟨a, mid, ha, hb⟩ := bind_eq_some_iff.1 hb
    exact ((hf a).suffix hb).trans (h.suffix ha)
  closes ls b hb hne := by
    obtain ⟨a, mid, ha, hb⟩ := bind_eq_some_iff.1 hb
    by_cases hmid : mid = []
    · rw [hmid] at ha
      exact h.closes ha hne
    · exact ((hf a).closes hb hmid).of_suffix (h.suffix ha)
  reaches ls b rest hb ls' hls := by
    obtain ⟨a, mid, ha, hb⟩ := bind_eq_some_iff.1 hb
    obtain ⟨mid', ha', hmid'⟩ := h.reaches ha hls
    obtain ⟨rest', hb', hrest'⟩ := (hf a).reaches hb hmid'
    exact ⟨rest', bind_eq_some_iff.2 ⟨a, mid', ha', hb'⟩, hrest'⟩

theorem after (h : ReadsOn name p q) (hf : ∀ a, Ends name (f a) (g a))
    (hneeds : ∀ a, f a [] = none) : Ends name (p >>= f) (q >>= g) where
  suffix ls b rest hb := by
    obtain ⟨a, mid, hb, -, hsuffix, -⟩ := h.before hneeds hb
    exact ((hf a).suffix hb).trans hsuffix
  closes ls b hb _ := by
    obtain ⟨a, mid, hb, hmid, hsuffix, -⟩ := h.before hneeds hb
    exact ((hf a).closes hb hmid).of_suffix hsuffix
  reaches ls b rest hb ls' hls := by
    obtain ⟨a, mid, hb, -, -, hreaches⟩ := h.before hneeds hb
    obtain ⟨mid', ha', hmid'⟩ := hreaches ls' hls
    obtain ⟨rest', hb', hrest'⟩ := (hf a).reaches hb hmid'
    exact ⟨rest', bind_eq_some_iff.2 ⟨a, mid', ha', hb'⟩, hrest'⟩

theorem ite {p' q' : Parser α} {c : Prop} [Decidable c] (h : Ends name p q)
    (h' : Ends name p' q') : Ends name (if c then p else p') (if c then q else q') := by
  split
  · exact h
  · exact h'

theorem sees {test : List Lexeme → Bool} (h : Near name test)
    (hend : test (colonName name) = test []) :
    Ends name (Parser.sees test) (Parser.sees test) where
  suffix := (ReadsOn.sees h).suffix
  closes ls a ha hne := by
    cases ha
    exact absurd rfl hne
  reaches ls a rest ha ls' hls := by
    cases ha
    cases hls with
    | nil => exact ⟨_, congrArg (fun b => some (b, _)) hend, .nil⟩
    | continues hls => exact ⟨_, congrArg (fun b => some (b, _)) (h hls), .continues hls⟩

theorem anyIdent : Ends name Parser.anyIdent Parser.anyIdent where
  suffix ls i rest h := by
    obtain rfl := anyIdent_eq_some_iff.1 h
    exact List.suffix_cons _ rest
  closes ls i h _ := by
    obtain rfl := anyIdent_eq_some_iff.1 h
    exact ⟨[], .ident i, rfl, nofun⟩
  reaches ls i rest h ls' hls := by
    obtain rfl := anyIdent_eq_some_iff.1 h
    cases hls with
    | continues hls =>
      cases hls with
      | last hl =>
        cases hl with
        | same => exact ⟨_, anyIdent_eq_some_iff.2 rfl, .nil⟩
      | cons _ hls => exact ⟨_, anyIdent_eq_some_iff.2 rfl, .continues hls⟩

theorem punct {spelling : String} {c : Char} (hspelling : spelling.toList = [c]) (hc : c ≠ ':') :
    Ends name (Parser.punct spelling) (Parser.punct spelling) where
  suffix ls tokens rest h := (suffix_of_afterPunct? (punct_eq_some_iff.1 h).1).1
  closes ls tokens h _ := by
    obtain ⟨hrest, -⟩ := punct_eq_some_iff.1 h
    rw [hspelling, afterPunct?_singleton] at hrest
    obtain ⟨joint, rfl⟩ := hrest
    exact ⟨[], .punct c joint, rfl, fun _ h => hc (Lexeme.punct.inj h).1⟩
  reaches ls tokens rest h ls' hls := by
    obtain ⟨hrest, rfl⟩ := punct_eq_some_iff.1 h
    rw [hspelling, afterPunct?_singleton] at hrest
    obtain ⟨joint, rfl⟩ := hrest
    have hreads (joint : Bool) (rest : List Lexeme) :
        Parser.punct spelling (.punct c joint :: rest) = some (word spelling, rest) := by
      rw [punct_eq_some_iff, hspelling, afterPunct?_singleton]
      exact ⟨⟨joint, rfl⟩, rfl⟩
    cases hls with
    | continues hls =>
      cases hls with
      | last hl =>
        cases hl with
        | same => exact ⟨_, hreads _ _, .nil⟩
        | joint => exact ⟨_, hreads _ _, .nil⟩
      | cons _ hls => exact ⟨_, hreads _ _, .continues hls⟩

end Ends

namespace GoesOn

theorem bind (h : Ends name p q) (hf : ∀ a, GoesOn name (f a) (g a)) :
    GoesOn name (p >>= f) (q >>= g) where
  closes ls b hb hne := by
    obtain ⟨a, mid, ha, hb⟩ := bind_eq_some_iff.1 hb
    by_cases hmid : mid = []
    · rw [hmid] at ha
      exact h.closes ha hne
    · exact ((hf a).closes hb hmid).of_suffix (h.suffix ha)
  reaches ls b hb ls' hls := by
    obtain ⟨a, mid, ha, hb⟩ := bind_eq_some_iff.1 hb
    obtain ⟨mid', ha', hmid'⟩ := h.reaches ha hls
    obtain ⟨b', hb'⟩ := (hf a).reaches hb hmid'
    exact ⟨b', bind_eq_some_iff.2 ⟨a, mid', ha', hb'⟩⟩

theorem after (h : ReadsOn name p q) (hf : ∀ a, GoesOn name (f a) (g a))
    (hneeds : ∀ a, f a [] = none) : GoesOn name (p >>= f) (q >>= g) where
  closes ls b hb _ := by
    obtain ⟨a, mid, hb, hmid, hsuffix, -⟩ := h.before hneeds hb
    exact ((hf a).closes hb hmid).of_suffix hsuffix
  reaches ls b hb ls' hls := by
    obtain ⟨a, mid, hb, -, -, hreaches⟩ := h.before hneeds hb
    obtain ⟨mid', ha', hmid'⟩ := hreaches ls' hls
    obtain ⟨b', hb'⟩ := (hf a).reaches hb hmid'
    exact ⟨b', bind_eq_some_iff.2 ⟨a, mid', ha', hb'⟩⟩

end GoesOn

end Readers

theorem arguments_nil (n : Nat) : arguments n [] = none := by
  cases n <;> rfl

theorem segment_nil (n : Nat) (inExpression : Bool) : segment n inExpression [] = none := by
  cases n <;> rfl

theorem path_nil (n : Nat) (inExpression : Bool) : path n inExpression [] = none := by
  cases n with
  | zero => rfl
  | succ n =>
    rw [path]
    refine Option.bind_eq_none_iff.2 fun read hread => ?_
    rw [segment_nil] at hread
    cases hread

section Segment

variable {n m : Nat} (hle : n ≤ m)
include hle

theorem ends_arguments : Ends name (arguments n) (arguments m) := by
  cases n with
  | zero => exact .failure
  | succ n =>
    obtain ⟨m, rfl⟩ : ∃ k, m = k + 1 := ⟨m - 1, by omega⟩
    have hdeeper : Deeper name n m := deeper (Nat.le_of_succ_le_succ hle)
    exact (Ends.punct rfl (by decide)).bind fun _ => .after hdeeper.argumentList
      (fun _ => (Ends.punct rfl (by decide)).bind fun _ => .pure _) fun _ => rfl

theorem ends_segment (inExpression : Bool) :
    Ends name (segment n inExpression) (segment m inExpression) := by
  cases n with
  | zero => exact .failure
  | succ n =>
    obtain ⟨m, rfl⟩ : ∃ k, m = k + 1 := ⟨m - 1, by omega⟩
    have hargs : Ends name (arguments n) (arguments m) :=
      ends_arguments (Nat.le_of_succ_le_succ hle)
    have hcolons : Near name (atPunctThen "::" opensArguments) :=
      near_atPunctThen (by decide) (by decide) near_opensArguments
    have hrest (i : Ident) : Ends name
        (do
          if !inExpression && (← sees opensArguments) then
            return (i, word i.text ++ (← arguments n), Arguments.afterName)
          if ← sees (atPunctThen "::" opensArguments) then
            return (i, word i.text ++ (← punct "::") ++ (← arguments n), Arguments.afterColons)
          return (i, word i.text, Arguments.none))
        (do
          if !inExpression && (← sees opensArguments) then
            return (i, word i.text ++ (← arguments m), Arguments.afterName)
          if ← sees (atPunctThen "::" opensArguments) then
            return (i, word i.text ++ (← punct "::") ++ (← arguments m), Arguments.afterColons)
          return (i, word i.text, Arguments.none)) :=
      (Ends.sees near_opensArguments rfl).bind fun _ => .ite (hargs.bind fun _ => .pure _)
        ((Ends.sees hcolons rfl).bind fun _ => .ite
          (.after (.punct (by decide)) (fun _ => hargs.bind fun _ => .pure _)
            fun _ => bind_nil (arguments_nil n) _)
          (.pure _))
    exact Ends.anyIdent.bind fun i => .ite (.pure _)
      (.ite (Ends.failure.bind fun _ => hrest i) (hrest i))

end Segment

/-- Whether another segment follows. -/
def opensSegment (ls : List Lexeme) : Bool := atPunctThen "::" (fun ls => !atGroup .paren ls) ls

theorem near_opensSegment : Near name opensSegment :=
  near_atPunctThen (by decide) (by decide) (near_atGroup _).not

/-- A path with another segment, and those after it. -/
def withSegment (n : Nat) (inExpression : Bool) (path : Path) : Parser Path := do
  let colons ← punct "::"
  let (_, tokens, args) ← segment n inExpression
  morePath n inExpression
    { path with
      tokens := path.tokens ++ colons ++ tokens
      arguments := args :: path.arguments }

theorem morePath_succ (n : Nat) (inExpression : Bool) (path : Path) (ls : List Lexeme) :
    morePath (n + 1) inExpression path ls =
      if opensSegment ls then withSegment n inExpression path ls else some (path, ls) := by
  change (if opensSegment ls then withSegment n inExpression path else pure path : Parser Path) ls =
    _
  split <;> rfl

section Path

variable (hname : name.isReserved = false)
include hname

theorem segment_name (n : Nat) (inExpression : Bool) :
    segment (n + 1) inExpression [.ident name] = some ((name, word name.text, .none), []) := by
  simp only [Grammar.segment]
  refine bind_eq_some_iff.2 ⟨name, [], anyIdent_eq_some_iff.2 rfl, ?_⟩
  rw [hname, Bool.false_and, if_neg Bool.false_ne_true]
  split
  · rfl
  · cases inExpression <;> rfl

theorem exists_morePath_colonName (n : Nat) (inExpression : Bool) (path : Path) :
    ∃ path', morePath (n + 2) inExpression path (colonName name) = some (path', []) := by
  have hopens : opensSegment (colonName name) = true := rfl
  rw [morePath_succ, if_pos hopens]
  exact ⟨_, bind_eq_some_iff.2 ⟨_, _, rfl,
    bind_eq_some_iff.2 ⟨_, _, segment_name hname n inExpression, rfl⟩⟩⟩

theorem goesOn_morePath {n m : Nat} (hle : n + 2 ≤ m) (inExpression : Bool) (path : Path) :
    GoesOn name (morePath n inExpression path) (morePath m inExpression path) := by
  induction n generalizing m path with
  | zero => exact ⟨nofun, nofun⟩
  | succ n ih =>
    obtain ⟨m, rfl⟩ : ∃ k, m = k + 2 := ⟨m - 2, by omega⟩
    have hnext : GoesOn name (withSegment n inExpression path)
        (withSegment (m + 1) inExpression path) :=
      .after (.punct (by decide))
        (fun _ => .bind (ends_segment (by omega) inExpression) fun _ => ih (by omega) _)
        fun _ => bind_nil (segment_nil n inExpression) _
    constructor
    · intro ls path' h hne
      rw [morePath_succ] at h
      split at h
      · exact hnext.closes h hne
      · cases h
        exact absurd rfl hne
    · intro ls path' h ls' hls
      cases hls with
      | nil => exact exists_morePath_colonName hname m inExpression path
      | continues hls =>
        rw [morePath_succ] at h ⊢
        rw [near_opensSegment hls]
        split at h
        · rename_i hopens
          rw [if_pos hopens]
          exact hnext.reaches h (.continues hls)
        · cases h
          cases hls

theorem goesOn_path {n m : Nat} (hle : n + 2 ≤ m) (inExpression : Bool) :
    GoesOn name (path n inExpression) (path m inExpression) := by
  cases n with
  | zero => exact ⟨nofun, nofun⟩
  | succ n =>
    obtain ⟨m, rfl⟩ : ∃ k, m = k + 1 := ⟨m - 1, by omega⟩
    exact GoesOn.after (ReadsOn.punct? (by decide))
      (fun _ => GoesOn.bind (ends_segment (by omega) inExpression)
        fun _ => goesOn_morePath hname (by omega) inExpression _)
      fun _ => bind_nil (segment_nil n inExpression) _

end Path

namespace Path

theorem ofString?_eq_some_iff {text : String} {p : Path} : ofString? text = some p ↔
    ∃ ls, Lexeme.ofString? text = some ls ∧
      path (16 * (text.length + 1)) false ls = some (p, []) := by
  refine Option.bind_eq_some_iff.trans (exists_congr fun ls => and_congr_right fun _ => ?_)
  rw [run?]
  generalize path (16 * (text.length + 1)) false ls = read
  rcases read with _ | ⟨p, _ | ⟨l, rest⟩⟩ <;> simp

/-- A path stays one with another segment after it. -/
theorem isSome_ofString?_append {text more : String} {t : List Char}
    (hmore : more.toList = ':' :: t) (ht : Literal.InPath t) (hname : name.isReserved = false)
    (hmarks : Lexeme.marks more.toList = some ((colonName name).map .leaf))
    (h : (ofString? text).isSome = true) : (ofString? (text ++ more)).isSome = true := by
  obtain ⟨p, hp⟩ := Option.isSome_iff_exists.1 h
  obtain ⟨ls, hls, hpath⟩ := ofString?_eq_some_iff.1 hp
  have hdepth : 16 * (text.length + 1) + 2 ≤ 16 * ((text ++ more).length + 1) := by
    have : more.length = t.length + 1 := by
      rw [← String.length_toList, hmore, List.length_cons]
    rw [String.length_append]
    omega
  have hgoesOn := goesOn_path hname hdepth false
  have hlast : NoColonLast ls := by
    refine hgoesOn.closes hpath ?_
    rintro rfl
    rw [path_nil] at hpath
    cases hpath
  obtain ⟨ls', hls', hfollowed⟩ := Lexeme.ofString?_append hmore ht hmarks hls
  obtain ⟨p', hp'⟩ : ∃ p', path (16 * ((text ++ more).length + 1)) false ls' = some (p', []) := by
    cases hfollowed with
    | comment =>
      have hdeeper : Deeper name _ _ := deeper (Nat.le_of_add_right_le hdepth)
      exact ⟨p, (hdeeper.path false).same hpath⟩
    | apart => exact hgoesOn.reaches hpath (.continues (continues_append hlast))
    | joint init c => exact hgoesOn.reaches hpath (.continues (continues_joint hlast.ne_colon))
  exact Option.isSome_iff_exists.2 ⟨p', ofString?_eq_some_iff.2 ⟨ls', hls', hp'⟩⟩

theorem marks_decodeError : Lexeme.marks "::DecodeError".toList =
    some ((colonName ⟨false, "DecodeError"⟩).map .leaf) := by
  have hfirst : Lexeme.markAt? "::DecodeError".toList = some (.leaf (.punct ':' true), 1) := rfl
  have hsecond : Lexeme.markAt? ":DecodeError".toList = some (.leaf (.punct ':' false), 1) := rfl
  have hname : Lexeme.markAt? "DecodeError".toList =
      some (.leaf (.ident ⟨false, "DecodeError"⟩), 11) := rfl
  have hlast : Lexeme.marks "DecodeError".toList =
      some [.leaf (.ident ⟨false, "DecodeError"⟩)] := by
    rw [Lexeme.marks_of_markAt? hname (by decide)]
    exact congrArg (Option.map _) Lexeme.marks_nil
  have hcolon : Lexeme.marks ":DecodeError".toList =
      some [.leaf (.punct ':' false), .leaf (.ident ⟨false, "DecodeError"⟩)] := by
    rw [Lexeme.marks_of_markAt? hsecond (by decide)]
    exact congrArg (Option.map _) hlast
  rw [Lexeme.marks_of_markAt? hfirst (by decide)]
  exact congrArg (Option.map _) hcolon

/-- Where there is a runtime, its type of decoding faults can be named. -/
theorem isSome_ofString?_decodeError {runtime : String}
    (h : (ofString? runtime).isSome = true) :
    (ofString? (runtime ++ "::DecodeError")).isSome = true :=
  isSome_ofString?_append (t := ":DecodeError".toList) rfl (by decide) (by decide)
    marks_decodeError h

end Path

end ProtoPlan.Code
