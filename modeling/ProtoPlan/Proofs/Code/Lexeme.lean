import ProtoPlan.Code.Lexeme
import ProtoPlan.Proofs.Code.Literal
import Mathlib.Data.List.TakeWhile

/-!
Lexemes of a text that goes on with colons and a name: those of the text, then those. Only the last
lexeme of the text may become joint, and a comment that the text ends in goes on.
-/

namespace ProtoPlan.Code.Lexeme

open Text Literal

variable {t : List Char}

theorem startsComment_append (cs : List Char) :
    startsComment (cs ++ ':' :: t) = startsComment cs := by
  fun_cases startsComment cs with
  | case1 | case2 => rfl
  | case3 cs hline hblock =>
    exact startsComment.eq_3 _ (fun _ => append_ne_cons_cons (by decide) (by decide) hline)
      (fun _ => append_ne_cons_cons (by decide) (by decide) hblock)

theorem startsPunct_append {cs : List Char} (h : cs ≠ []) :
    startsPunct (cs ++ ':' :: t) = startsPunct cs := by
  obtain ⟨c, cs, rfl⟩ := List.exists_cons_of_ne_nil h
  rw [List.cons_append, startsPunct, startsPunct, ← List.cons_append, startsComment_append]

theorem blockLength_append {depth n : Nat} {cs : List Char} (h : blockLength depth cs = some n) :
    n ≤ cs.length ∧ blockLength depth (cs ++ ':' :: t) = some n := by
  fun_induction blockLength depth cs generalizing n with
  | case1 depth cs ih =>
    obtain ⟨k, hk, rfl⟩ := Option.map_eq_some_iff.1 h
    obtain ⟨hle, happend⟩ := ih hk
    exact ⟨Nat.add_le_add_right hle 2, by simp [blockLength, happend]⟩
  | case2 cs =>
    cases h
    exact ⟨by simp, by simp [blockLength]⟩
  | case3 depth cs hdepth ih =>
    obtain ⟨k, hk, rfl⟩ := Option.map_eq_some_iff.1 h
    obtain ⟨hle, happend⟩ := ih hk
    exact ⟨Nat.add_le_add_right hle 2, by simp [blockLength, hdepth, happend]⟩
  | case4 depth c cs hopen hclose ih =>
    obtain ⟨k, hk, rfl⟩ := Option.map_eq_some_iff.1 h
    obtain ⟨hle, happend⟩ := ih hk
    refine ⟨Nat.add_le_add_right hle 1, ?_⟩
    have hopen (rest : List Char) (hc : c = '/') (h : cs ++ ':' :: t = '*' :: rest) : False := by
      obtain ⟨cs, rfl, -⟩ := exists_of_append_eq_cons h (by decide)
      exact hopen cs hc rfl
    have hclose (rest : List Char) (hc : c = '*') (h : cs ++ ':' :: t = '/' :: rest) : False := by
      obtain ⟨cs, rfl, -⟩ := exists_of_append_eq_cons h (by decide)
      exact hclose cs hc rfl
    rw [List.cons_append, blockLength.eq_3 _ _ _ hopen hclose, happend, Option.map_some]
  | case5 => cases h

theorem line_append (ht : InPath t) (cs : List Char) :
    commentLength.line cs ≤ cs.length ∧
      (commentLength.line (cs ++ ':' :: t) = commentLength.line cs ∨
        commentLength.line cs = cs.length ∧
          commentLength.line (cs ++ ':' :: t) = (cs ++ ':' :: t).length) := by
  refine ⟨length_takeWhile_le _ _, ?_⟩
  have hend : (':' :: t).takeWhile (· ≠ '\n') = ':' :: t := by
    refine List.takeWhile_eq_self_iff.2 fun c hc => ?_
    have := ht.colon.not_mem (c := '\n') (by decide) (by decide)
    grind
  unfold commentLength.line
  rw [List.takeWhile_append]
  split
  · rename_i hall
    exact .inr ⟨hall, by rw [hend]⟩
  · exact .inl rfl

/-- A comment goes no further, or it goes as far as the text. -/
theorem commentLength_append (ht : InPath t) {n : Nat} {cs : List Char}
    (h : commentLength cs = some n) : n ≤ cs.length ∧
      (commentLength (cs ++ ':' :: t) = some n ∨
        n = cs.length ∧ commentLength (cs ++ ':' :: t) = some (cs ++ ':' :: t).length) := by
  have hline := line_append ht cs
  revert h
  fun_cases commentLength cs with
  | case1 cs =>
    intro h
    cases h
    simpa [commentLength] using hline
  | case4 cs _ hslash hmark =>
    intro h
    cases h
    have hcomment : commentLength ('/' :: '/' :: cs ++ ':' :: t) =
        some (commentLength.line ('/' :: '/' :: cs ++ ':' :: t)) :=
      commentLength.eq_4 _ (fun _ => append_ne_cons_cons (by decide) (by decide) (by simp_all))
        (fun _ => append_ne_cons (by decide) hslash) (fun _ => append_ne_cons (by decide) hmark)
    rw [hcomment]
    simpa using hline
  | case5 cs =>
    intro h
    cases h
    exact ⟨by simp, .inl rfl⟩
  | case6 cs =>
    intro h
    obtain ⟨hle, happend⟩ := blockLength_append (t := t) h
    exact ⟨hle, .inl happend⟩
  | case9 cs h1 h2 h3 h4 =>
    intro h
    obtain ⟨hle, happend⟩ := blockLength_append (t := t) h
    refine ⟨hle, .inl ?_⟩
    have hcomment : commentLength ('/' :: '*' :: cs ++ ':' :: t) =
        blockLength 0 ('/' :: '*' :: cs ++ ':' :: t) :=
      commentLength.eq_9 _ (fun _ => append_ne_cons_cons (by decide) (by decide) h1)
        (fun _ => append_ne_cons_cons (by decide) (by decide) h2)
        (fun _ => append_ne_cons (by decide) h3) (fun _ => append_ne_cons (by decide) h4)
    rw [hcomment, happend]
  | case2 | case3 | case7 | case8 | case10 => exact nofun

theorem identLength_append (cs : List Char) : identLength (cs ++ ':' :: t) = identLength cs := by
  fun_cases identLength cs with
  | case1 cs hzero => simp [identLength, nameLength_append, hzero]
  | case2 cs hpos => simp [identLength, nameLength_append]
  | case3 cs hraw =>
    rw [identLength.eq_2 _ fun _ => append_ne_cons_cons (by decide) (by decide) hraw,
      nameLength_append]

theorem identLength_le (cs : List Char) : identLength cs ≤ cs.length := by
  have hname := nameLength_le
  fun_cases identLength cs <;> grind

theorem identAt?_append (cs : List Char) : identAt? (cs ++ ':' :: t) = identAt? cs := by
  simp only [identAt?, identLength_append, List.take_append_of_le_length (identLength_le cs)]

theorem identAt?_le {cs : List Char} {ident : Ident} {n : Nat} (h : identAt? cs = some (ident, n)) :
    n ≤ cs.length := by
  obtain ⟨ident, -, h⟩ := Option.map_eq_some_iff.1 h
  cases h
  exact identLength_le cs

theorem isPrefixOf_append {start : List Char} (h : ':' ∉ start) (cs : List Char) :
    start.isPrefixOf (cs ++ ':' :: t) = start.isPrefixOf cs := by
  induction start generalizing cs with
  | nil => rfl
  | cons c start ih =>
    rw [List.mem_cons, not_or] at h
    cases cs with
    | nil => simp [List.isPrefixOf, Ne.symm h.1]
    | cons d cs => simp only [List.cons_append, List.isPrefixOf, ih h.2]

theorem isBrokenLiteral_append (cs : List Char) :
    isBrokenLiteral (cs ++ ':' :: t) = isBrokenLiteral cs := by
  have hstart : ∀ start ∈ ["r\"", "r#\"", "r##", "b\"", "b'", "br\"", "br#", "c\"", "cr\"", "cr#"],
      ':' ∉ start.toList := by decide
  rw [Bool.eq_iff_iff, isBrokenLiteral, isBrokenLiteral, List.any_eq_true, List.any_eq_true]
  exact exists_congr fun start => and_congr_right fun hmem => by
    rw [isPrefixOf_append (hstart start hmem)]

theorem leafAt?_literal {cs : List Char} {n : Nat} (h : length? cs = some n) :
    leafAt? cs = some (.literal (String.ofList (cs.take n)), n) := by
  unfold leafAt?
  rw [h]

theorem leafAt?_quote {cs : List Char} (h : length? ('\'' :: cs) = none) :
    leafAt? ('\'' :: cs) = (identAt? cs).bind fun (name, n) =>
      if (cs.drop n).head? = some '\'' || ((cs.drop n).head? = some '#' && !name.raw) then none
      else some (.lifetime name, n + 1) := by
  unfold leafAt?
  rw [h]
  rfl

theorem leafAt?_cons {c : Char} {cs : List Char} (h : length? (c :: cs) = none) (hc : c ≠ '\'') :
    leafAt? (c :: cs) =
      if startsPunct (c :: cs) then some (.punct c (startsPunct cs), 1)
      else if isBrokenLiteral (c :: cs) then none
      else (identAt? (c :: cs)).map fun (name, n) => (.ident name, n) := by
  unfold leafAt?
  rw [h]
  simp

theorem leafAt?_append (ht : InPath t) {cs : List Char} {l : Lexeme} {n : Nat}
    (h : leafAt? cs = some (l, n)) : n ≤ cs.length ∧
      (leafAt? (cs ++ ':' :: t) = some (l, n) ∨
        ∃ c, cs = [c] ∧ l = .punct c false ∧
          leafAt? (cs ++ ':' :: t) = some (.punct c true, 1)) := by
  have hlength := length?_append ht cs
  cases hliteral : length? cs with
  | some k =>
    rw [hliteral] at hlength
    have hk := length?_le hliteral
    rw [leafAt?_literal hliteral] at h
    cases h
    rw [leafAt?_literal hlength, List.take_append_of_le_length hk]
    exact ⟨hk, .inl rfl⟩
  | none =>
    rw [hliteral] at hlength
    rcases cs with _ | ⟨c, cs⟩
    · cases h
    by_cases hc : c = '\''
    · subst hc
      rw [leafAt?_quote hliteral] at h
      obtain ⟨⟨name, k⟩, hk, h⟩ := Option.bind_eq_some_iff.1 h
      have hle := identAt?_le hk
      dsimp only at h
      split at h
      · cases h
      rename_i hnext
      cases h
      refine ⟨Nat.succ_le_succ hle, .inl ?_⟩
      rw [List.cons_append] at hlength
      rw [List.cons_append, leafAt?_quote hlength, identAt?_append, hk, Option.bind_some]
      dsimp only
      rw [List.drop_append_of_le_length hle, if_neg]
      cases hdrop : cs.drop k <;> simp_all
    · rw [leafAt?_cons hliteral hc] at h
      rw [List.cons_append] at hlength
      rw [List.cons_append, leafAt?_cons hlength hc, ← List.cons_append, identAt?_append,
        isBrokenLiteral_append, startsPunct_append (List.cons_ne_nil c cs)]
      split at h
      · rename_i hpunct
        rw [if_pos hpunct]
        cases h
        refine ⟨by simp, ?_⟩
        rcases cs with _ | ⟨d, cs⟩
        · exact .inr ⟨c, rfl, rfl, rfl⟩
        · exact .inl (by rw [startsPunct_append (List.cons_ne_nil d cs)])
      · rename_i hpunct
        rw [if_neg hpunct]
        split at h
        · cases h
        · rename_i hbroken
          rw [if_neg hbroken]
          obtain ⟨⟨name, k⟩, hk, hl⟩ := Option.map_eq_some_iff.1 h
          cases hl
          exact ⟨identAt?_le hk, .inl h⟩

/-- The marks of a text, and those of the text with more after it. -/
inductive Extends (more : List Mark) : List Mark → List Mark → Prop where
  | done : Extends more [] more
  | joint (c : Char) : Extends more [.leaf (.punct c false)] (.leaf (.punct c true) :: more)
  /-- A comment goes as far as the text. -/
  | comment : Extends more [.blank] [.blank]
  | cons (mark : Mark) {ms ms' : List Mark} : Extends more ms ms' →
      Extends more (mark :: ms) (mark :: ms')

/-- Pieces go no further, apart from a comment that goes as far as the text; the last one may become
joint. -/
theorem markAt?_append (ht : InPath t) {cs : List Char} {mark : Mark} {n : Nat}
    (h : markAt? cs = some (mark, n)) : n ≤ cs.length ∧
      (markAt? (cs ++ ':' :: t) = some (mark, n) ∨
        (∃ c, cs = [c] ∧ mark = .leaf (.punct c false) ∧
          markAt? (cs ++ ':' :: t) = some (.leaf (.punct c true), 1)) ∨
        (n = cs.length ∧ mark = .blank ∧
          markAt? (cs ++ ':' :: t) = some (.blank, (cs ++ ':' :: t).length))) := by
  rcases cs with _ | ⟨c, cs⟩
  · cases h
  have hcomment := startsComment_append (t := t) (c :: cs)
  have hone : 1 ≤ (c :: cs).length := by simp
  unfold markAt? at h ⊢
  rw [List.cons_append] at hcomment ⊢
  dsimp only at h ⊢
  split at h
  · rename_i hblank
    cases h
    exact ⟨hone, .inl (if_pos hblank)⟩
  rename_i hblank
  rw [if_neg hblank, hcomment]
  split at h
  · rename_i hstarts
    obtain ⟨k, hk, h⟩ := Option.map_eq_some_iff.1 h
    cases h
    obtain ⟨hle, happend | ⟨hwhole, happend⟩⟩ := commentLength_append ht hk
    · rw [List.cons_append] at happend
      exact ⟨hle, .inl (by rw [if_pos hstarts, happend]; rfl)⟩
    · rw [List.cons_append] at happend
      exact ⟨hle, .inr (.inr ⟨hwhole, rfl, by rw [if_pos hstarts, happend]; rfl⟩)⟩
  rename_i hstarts
  rw [if_neg hstarts]
  split at h
  iterate 6
    cases h
    exact ⟨hone, .inl rfl⟩
  obtain ⟨⟨l, k⟩, hk, h⟩ := Option.map_eq_some_iff.1 h
  cases h
  obtain ⟨hle, happend | ⟨d, hcs, rfl, happend⟩⟩ := leafAt?_append ht hk
  · rw [List.cons_append] at happend
    exact ⟨hle, .inl (by rw [happend]; rfl)⟩
  · cases hcs
    rw [List.singleton_append] at happend
    exact ⟨hle, .inr (.inl ⟨c, rfl, rfl, by rw [List.nil_append, happend]; rfl⟩)⟩

theorem marks_of_markAt? {cs : List Char} {mark : Mark} {n : Nat} (h : markAt? cs = some (mark, n))
    (hn : (cs.drop n).length < cs.length) : marks cs = (marks (cs.drop n)).map (mark :: ·) := by
  have hne : cs.isEmpty = false := by
    cases cs with
    | nil => exact absurd hn (Nat.not_lt_zero _)
    | cons => rfl
  rw [marks, hne, h]
  exact dif_pos hn

theorem marks_nil : marks [] = some [] := by
  rw [marks]
  rfl

theorem marks_append (ht : InPath t) {more : List Mark} (hmore : marks (':' :: t) = some more)
    {cs : List Char} {ms : List Mark} (h : marks cs = some ms) :
    ∃ ms', marks (cs ++ ':' :: t) = some ms' ∧ Extends more ms ms' := by
  fun_induction marks cs generalizing ms with
  | case1 cs hempty =>
    obtain rfl := List.isEmpty_iff.1 hempty
    cases h
    exact ⟨more, hmore, .done⟩
  | case2 | case4 => cases h
  | case3 cs hempty mark n hmark hshort ih =>
    obtain ⟨ms, hms, rfl⟩ := Option.map_eq_some_iff.1 h
    obtain ⟨hle, happend | ⟨c, rfl, rfl, happend⟩ | ⟨rfl, rfl, happend⟩⟩ := markAt?_append ht hmark
    · obtain ⟨ms', hms', hextends⟩ := ih hms
      refine ⟨mark :: ms', ?_, .cons mark hextends⟩
      rw [marks_of_markAt? happend, List.drop_append_of_le_length hle, hms', Option.map_some]
      simp only [List.drop_append_of_le_length hle, List.length_append]
      omega
    · have hdrop : [c].drop n = [] := List.length_eq_zero_iff.1 (Nat.lt_one_iff.1 hshort)
      rw [hdrop, marks_nil] at hms
      cases hms
      refine ⟨.leaf (.punct c true) :: more, ?_, .joint c⟩
      rw [marks_of_markAt? happend (by simp)]
      exact congrArg (Option.map _) hmore
    · rw [List.drop_length, marks_nil] at hms
      cases hms
      refine ⟨[.blank], ?_, .comment⟩
      have hshort : ((cs ++ ':' :: t).drop (cs ++ ':' :: t).length).length <
          (cs ++ ':' :: t).length := by
        rw [List.drop_length, List.length_append]
        exact Nat.succ_pos _
      rw [marks_of_markAt? happend hshort, List.drop_length, marks_nil]
      rfl

theorem nest_nil_eq_some {outer : List (Bracket × List Lexeme)} {before ls : List Lexeme}
    (h : nest outer before [] = some ls) : outer = [] ∧ ls = before.reverse := by
  rw [nest] at h
  split at h
  · rename_i hempty
    cases h
    exact ⟨List.isEmpty_iff.1 hempty, rfl⟩
  · cases h

theorem nest_leaves (before lexemes : List Lexeme) :
    nest [] before (lexemes.map .leaf) = some (before.reverse ++ lexemes) := by
  induction lexemes generalizing before with
  | nil => simp [nest]
  | cons l lexemes ih => rw [List.map_cons, nest, ih, List.reverse_cons, ← List.append_cons]

/-- The lexemes of a text, and those of the text with more after it. -/
inductive Followed (more : List Lexeme) : List Lexeme → List Lexeme → Prop where
  /-- What comes after the text belongs to a comment. -/
  | comment (ls : List Lexeme) : Followed more ls ls
  | apart (ls : List Lexeme) : Followed more ls (ls ++ more)
  | joint (init : List Lexeme) (c : Char) :
      Followed more (init ++ [.punct c false]) (init ++ .punct c true :: more)

/-- Groups are formed as before, and lexemes that come after the pieces are the last ones of
all. -/
theorem nest_extends {more : List Lexeme} {ms ms' : List Mark}
    (h : Extends (more.map .leaf) ms ms') {outer : List (Bracket × List Lexeme)}
    {before ls : List Lexeme} (hls : nest outer before ms = some ls) :
    ∃ ls', nest outer before ms' = some ls' ∧ Followed more ls ls' := by
  induction h generalizing outer before ls with
  | done =>
    obtain ⟨rfl, rfl⟩ := nest_nil_eq_some hls
    exact ⟨_, nest_leaves before more, .apart _⟩
  | joint c =>
    rw [nest] at hls
    obtain ⟨rfl, rfl⟩ := nest_nil_eq_some hls
    have hleaves := nest_leaves (.punct c true :: before) more
    rw [List.reverse_cons, ← List.append_cons] at hleaves
    rw [List.reverse_cons]
    exact ⟨_, hleaves, .joint before.reverse c⟩
  | comment => exact ⟨ls, hls, .comment ls⟩
  | cons mark _ ih =>
    cases mark with
    | blank => exact ih hls
    | leaf l => exact ih hls
    | opening bracket => exact ih hls
    | closing bracket =>
      cases outer with
      | nil => cases hls
      | cons group outer =>
        rw [nest] at hls ⊢
        split at hls
        · rename_i hsame
          rw [if_pos hsame]
          exact ih hls
        · cases hls

theorem ofString?_append {more : String} (hcolon : more.toList = ':' :: t) (ht : InPath t)
    {lexemes : List Lexeme} (hmore : marks more.toList = some (lexemes.map .leaf)) {text : String}
    {ls : List Lexeme} (h : ofString? text = some ls) :
    ∃ ls', ofString? (text ++ more) = some ls' ∧ Followed lexemes ls ls' := by
  rw [hcolon] at hmore
  obtain ⟨ms, hms, hls⟩ := Option.bind_eq_some_iff.1 h
  obtain ⟨ms', hms', hextends⟩ := marks_append ht hmore hms
  obtain ⟨ls', hls', hfollowed⟩ := nest_extends hextends hls
  refine ⟨ls', Option.bind_eq_some_iff.2 ⟨ms', ?_, hls'⟩, hfollowed⟩
  rw [String.toList_append, hcolon, ← hms']
  generalize text.toList = cs
  rcases cs with _ | ⟨c, cs⟩
  · simp
  · by_cases hc : c = '\uFEFF'
    · subst hc
      rfl
    · simp [hc]

end ProtoPlan.Code.Lexeme
