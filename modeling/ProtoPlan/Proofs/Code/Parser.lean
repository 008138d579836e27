import ProtoPlan.Code.Parser
import Mathlib.Data.List.Basic

/-!
Reading on. What a reader takes from lexemes of which it leaves some it takes as well if more are
added after the last; so a text that was read can be continued.
-/

namespace ProtoPlan.Code

namespace Parser

/-- The lexemes of colons and a name. -/
def colonName (name : Ident) : List Lexeme := [.punct ':' true, .punct ':' false, .ident name]

/-- A lexeme that is no colon, and what becomes of it if a colon follows. -/
inductive Before : Lexeme → Lexeme → Prop where
  | same (l : Lexeme) : (∀ joint, l ≠ .punct ':' joint) → Before l l
  | joint (c : Char) : c ≠ ':' → Before (.punct c false) (.punct c true)

/-- Lexemes and the same with colons and a name after the last. -/
inductive Continues (name : Ident) : List Lexeme → List Lexeme → Prop where
  | last {l l' : Lexeme} : Before l l' → Continues name [l] (l' :: colonName name)
  | cons (l : Lexeme) {ls ls' : List Lexeme} : Continues name ls ls' →
      Continues name (l :: ls) (l :: ls')

/-- A test that does not see what comes after the last lexeme. -/
def Near (name : Ident) (test : List Lexeme → Bool) : Prop :=
  ∀ ⦃ls ls'⦄, Continues name ls ls' → test ls' = test ls

/-- The second reader takes what the first one takes, also if the lexemes go on, unless the first
one takes all. -/
structure ReadsOn (name : Ident) (p q : Parser α) : Prop where
  suffix : ∀ ⦃ls a rest⦄, p ls = some (a, rest) → rest <:+ ls
  same : ∀ ⦃ls a rest⦄, p ls = some (a, rest) → q ls = some (a, rest)
  further : ∀ ⦃ls a rest⦄, p ls = some (a, rest) → rest ≠ [] → ∀ ⦃ls'⦄, Continues name ls ls' →
    ∃ rest', q ls' = some (a, rest') ∧ Continues name rest rest'

variable {name : Ident}

theorem bind_eq_some_iff {x : Parser α} {f : α → Parser β} {ls rest : List Lexeme} {b : β} :
    (x >>= f) ls = some (b, rest) ↔
      ∃ a mid, x ls = some (a, mid) ∧ f a mid = some (b, rest) := by
  change (x ls >>= fun r => f r.1 r.2) = _ ↔ _
  simp [Option.bind_eq_some_iff]

theorem anyWhere_eq_some_iff {test : List Lexeme → Bool} {ls rest : List Lexeme} {l : Lexeme} :
    anyWhere test ls = some (l, rest) ↔ ls = l :: rest ∧ test ls = true := by
  cases ls with
  | nil =>
    refine iff_of_false ?_ (by simp)
    intro h
    cases h
  | cons first ls =>
    have hread : anyWhere test (first :: ls) =
        (if test (first :: ls) then some (first, ls) else none) := by
      change (if test (first :: ls) then (do set ls; return first : Parser Lexeme) else failure)
        (first :: ls) = _
      split <;> rfl
    rw [hread]
    by_cases h : test (first :: ls) = true <;> simp [h]

theorem anyIdent_eq_some_iff {ls rest : List Lexeme} {i : Ident} :
    anyIdent ls = some (i, rest) ↔ ls = .ident i :: rest := by
  refine bind_eq_some_iff.trans ⟨fun h => ?_, ?_⟩
  · obtain ⟨l, mid, hl, h⟩ := h
    obtain ⟨rfl, hword⟩ := anyWhere_eq_some_iff.1 hl
    cases l with
    | ident => cases h; rfl
    | _ => cases hword
  · rintro rfl
    exact ⟨.ident i, rest, anyWhere_eq_some_iff.2 ⟨rfl, rfl⟩, rfl⟩

theorem punct_eq_some_iff {spelling : String} {ls rest : List Lexeme} {tokens : Tokens} :
    punct spelling ls = some (tokens, rest) ↔
      afterPunct? spelling.toList ls = some rest ∧ tokens = word spelling := by
  refine bind_eq_some_iff.trans ⟨fun h => ?_, fun h => ?_⟩
  · obtain ⟨seen, mid, hget, h⟩ := h
    cases hget
    cases hread : afterPunct? spelling.toList ls with
    | none =>
      rw [hread] at h
      cases h
    | some rest =>
      rw [hread] at h
      cases h
      exact ⟨rfl, rfl⟩
  · obtain ⟨hread, rfl⟩ := h
    refine ⟨ls, ls, rfl, ?_⟩
    rw [hread]
    rfl

theorem afterPunct?_singleton {c : Char} {ls rest : List Lexeme} :
    afterPunct? [c] ls = some rest ↔ ∃ joint, ls = .punct c joint :: rest := by
  cases ls with
  | nil => simp [afterPunct?]
  | cons l ls => cases l <;> simp [afterPunct?, eq_comm]

/-- Punctuation is read, one character at least. -/
theorem suffix_of_afterPunct? {cs : List Char} {ls rest : List Lexeme}
    (h : afterPunct? cs ls = some rest) : rest <:+ ls ∧ rest.length < ls.length := by
  fun_induction afterPunct? cs ls with
  | case1 c joint rest' =>
    cases h
    exact ⟨List.suffix_cons _ _, by simp⟩
  | case2 | case4 | case5 => cases h
  | case3 c cs rest' _ ih =>
    obtain ⟨hsuffix, hlength⟩ := ih h
    exact ⟨hsuffix.trans (List.suffix_cons _ _), by simp only [List.length_cons]; omega⟩

section Tests

variable {test test' : List Lexeme → Bool}

/-- A test of the first lexeme, of which the punctuation may be joint. -/
theorem near_of_head (h : ∀ l ls ls', test (l :: ls') = test (l :: ls))
    (hjoint : ∀ c ls ls', test (.punct c true :: ls') = test (.punct c false :: ls)) :
    Near name test := by
  intro ls ls' hls
  cases hls with
  | last hl =>
    cases hl with
    | same => exact h _ _ _
    | joint => exact hjoint _ _ _
  | cons l _ => exact h _ _ _

theorem Near.and (h : Near name test) (h' : Near name test') :
    Near name fun ls => test ls && test' ls := by
  intro ls ls' hls
  dsimp only
  rw [h hls, h' hls]

theorem Near.or (h : Near name test) (h' : Near name test') :
    Near name fun ls => test ls || test' ls := by
  intro ls ls' hls
  dsimp only
  rw [h hls, h' hls]

theorem Near.not (h : Near name test) : Near name fun ls => !test ls := by
  intro ls ls' hls
  dsimp only
  rw [h hls]

theorem Near.any {tests : α → List Lexeme → Bool} {xs : List α}
    (h : ∀ x ∈ xs, Near name (tests x)) : Near name fun ls => xs.any (tests · ls) := by
  intro ls ls' hls
  dsimp only
  induction xs with
  | nil => rfl
  | cons x xs ih =>
    obtain ⟨hx, hxs⟩ := List.forall_mem_cons.1 h
    rw [List.any_cons, List.any_cons, hx hls, ih hxs]

/-- What comes after the first lexeme. -/
theorem Near.drop (h : Near name test) (htail : test (colonName name) = test []) :
    Near name fun ls => test (ls.drop 1) := by
  intro ls ls' hls
  cases hls with
  | last => exact htail
  | cons l hls => exact h hls

/-- A colon is only ever spelled after a colon. -/
def colonsLead : List Char → Bool
  | c :: d :: cs => (d ≠ ':' || c = ':') && colonsLead (d :: cs)
  | _ => true

theorem afterPunct?_colonName {d : Char} (cs : List Char) (h : d ≠ ':') :
    afterPunct? (d :: cs) (colonName name) = none := by
  cases cs <;> simp [afterPunct?, colonName, h]

theorem afterPunct?_eq_none {l : Lexeme} (h : ∀ c joint, l ≠ .punct c joint) (cs : List Char)
    (ls : List Lexeme) : afterPunct? cs (l :: ls) = none := by
  rcases cs with _ | ⟨c, _ | ⟨d, cs⟩⟩ <;> cases l <;> simp_all [afterPunct?]

/-- What follows a spelling goes on as the lexemes do. -/
theorem afterPunct?_continues {ls ls' : List Lexeme} (h : Continues name ls ls') {cs : List Char}
    (hcs : colonsLead cs = true) :
    Option.Rel (fun rest rest' => Continues name rest rest' ∨
        (rest = [] ∧ rest' = colonName name ∧ cs.getLast? ≠ some ':'))
      (afterPunct? cs ls) (afterPunct? cs ls') := by
  induction h generalizing cs with
  | @last l l' hl =>
    have hpunct {c : Char} {joint joint' : Bool} (hc : c ≠ ':') :
        Option.Rel (fun rest rest' => Continues name rest rest' ∨
            (rest = [] ∧ rest' = colonName name ∧ cs.getLast? ≠ some ':'))
          (afterPunct? cs [.punct c joint])
          (afterPunct? cs (.punct c joint' :: colonName name)) := by
      rcases cs with _ | ⟨d, _ | ⟨e, cs⟩⟩
      · exact .none
      · by_cases hd : d = c
        · subst hd
          simpa [afterPunct?] using .inr hc
        · simp [afterPunct?, hd]
      · by_cases hd : d = c
        · subst hd
          have he : e ≠ ':' := by simp_all [colonsLead]
          cases joint <;> cases joint' <;>
            simp [afterPunct?, afterPunct?_colonName cs he]
        · cases joint <;> cases joint' <;> simp [afterPunct?, hd]
    cases hl with
    | same _ hl =>
      cases l with
      | punct c joint => exact hpunct fun hc => hl joint (by rw [hc])
      | _ => simp [afterPunct?_eq_none]
    | joint _ hc => exact hpunct hc
  | cons l hls ih =>
    cases l with
    | punct c joint =>
      rcases cs with _ | ⟨d, _ | ⟨e, cs⟩⟩
      · exact .none
      · by_cases hd : d = c <;> simp [afterPunct?, hd, hls]
      · have hcolons : colonsLead (e :: cs) = true := by simp_all [colonsLead]
        have hrest := ih hcolons
        by_cases hd : d = c <;> cases joint <;> simp_all [afterPunct?]
    | _ => simp [afterPunct?_eq_none]

theorem near_atPunct {spelling : String} (h : colonsLead spelling.toList = true) :
    Near name (atPunct spelling) := by
  intro ls ls' hls
  have hrel := afterPunct?_continues hls h
  unfold atPunct
  generalize afterPunct? spelling.toList ls = x at hrel
  generalize afterPunct? spelling.toList ls' = y at hrel
  cases hrel <;> rfl

theorem near_atPunctThen {spelling : String} (h : colonsLead spelling.toList = true)
    (hcolon : spelling.toList.getLast? = some ':') (htest : Near name test) :
    Near name (atPunctThen spelling test) := by
  intro ls ls' hls
  have hrel := afterPunct?_continues hls h
  unfold atPunctThen
  generalize afterPunct? spelling.toList ls = x at hrel
  generalize afterPunct? spelling.toList ls' = y at hrel
  cases hrel with
  | none => rfl
  | some h =>
    rcases h with h | ⟨-, -, hlast⟩
    · exact htest h
    · exact absurd hcolon hlast

theorem near_atWord (word : String) : Near name (atWord word) :=
  near_of_head (fun l _ _ => by cases l <;> rfl) fun _ _ _ => rfl

theorem near_atAnyWord : Near name atAnyWord :=
  near_of_head (fun l _ _ => by cases l <;> rfl) fun _ _ _ => rfl

theorem near_atLifetime : Near name atLifetime :=
  near_of_head (fun l _ _ => by cases l <;> rfl) fun _ _ _ => rfl

theorem near_atGroup (bracket : Bracket) : Near name (atGroup bracket) :=
  near_of_head (fun l _ _ => by cases l <;> rfl) fun _ _ _ => rfl

theorem near_atName : Near name atName :=
  near_of_head (fun l _ _ => by cases l <;> rfl) fun _ _ _ => rfl

theorem near_isEmpty : Near name List.isEmpty :=
  near_of_head (fun _ _ _ => rfl) fun _ _ _ => rfl

theorem near_atLiteral : Near name atLiteral := by
  -- A minus sign may stand before a number, so that two lexemes are looked at.
  intro ls ls' hls
  cases hls with
  | @last l _ hl =>
    cases hl with
    | same =>
      cases l with
      | punct c => by_cases hc : c = '-' <;> simp [atLiteral, colonName, hc]
      | _ => rfl
    | joint c => by_cases hc : c = '-' <;> simp [atLiteral, colonName, hc]
  | cons first hls =>
    cases first with
    | punct c =>
      by_cases hc : c = '-'
      · subst hc
        cases hls with
        | @last l _ hl =>
          cases hl with
          | same => cases l <;> rfl
          | joint => rfl
        | cons l => cases l <;> rfl
      · simp [atLiteral, hc]
    | _ => rfl

end Tests

section Readers

variable {p q : Parser α}

namespace ReadsOn

theorem pure (a : α) : ReadsOn name (Pure.pure a) (Pure.pure a) where
  suffix ls b rest h := by
    cases h
    exact List.suffix_rfl
  same ls b rest h := h
  further ls b rest h hne ls' hls := by
    cases h
    exact ⟨ls', rfl, hls⟩

theorem failure : ReadsOn name (failure : Parser α) q where
  suffix ls a rest h := by cases h
  same ls a rest h := by cases h
  further ls a rest h := by cases h

theorem bind {f g : α → Parser β} (h : ReadsOn name p q) (hf : ∀ a, ReadsOn name (f a) (g a)) :
    ReadsOn name (p >>= f) (q >>= g) where
  suffix ls b rest hb := by
    obtain ⟨a, mid, ha, hb⟩ := bind_eq_some_iff.1 hb
    exact ((hf a).suffix hb).trans (h.suffix ha)
  same ls b rest hb := by
    obtain ⟨a, mid, ha, hb⟩ := bind_eq_some_iff.1 hb
    exact bind_eq_some_iff.2 ⟨a, mid, h.same ha, (hf a).same hb⟩
  further ls b rest hb hne ls' hls := by
    obtain ⟨a, mid, ha, hb⟩ := bind_eq_some_iff.1 hb
    have hmid : mid ≠ [] := by
      rintro rfl
      exact hne (List.suffix_nil.1 ((hf a).suffix hb))
    obtain ⟨mid', ha', hmid'⟩ := h.further ha hmid hls
    obtain ⟨rest', hb', hrest'⟩ := (hf a).further hb hne hmid'
    exact ⟨rest', bind_eq_some_iff.2 ⟨a, mid', ha', hb'⟩, hrest'⟩

theorem ite {p' q' : Parser α} {c : Prop} [Decidable c] (h : ReadsOn name p q)
    (h' : ReadsOn name p' q') : ReadsOn name (if c then p else p') (if c then q else q') := by
  split
  · exact h
  · exact h'

/-- What is ahead may be looked at as far as the last lexeme. -/
theorem get {f g : List Lexeme → Parser α} (h : ∀ ls, ReadsOn name (f ls) (g ls))
    (hnear : ∀ ⦃ls ls'⦄, Continues name ls ls' → g ls' = g ls) :
    ReadsOn name (MonadState.get >>= f) (MonadState.get >>= g) where
  suffix ls a rest ha := (h ls).suffix ha
  same ls a rest ha := (h ls).same ha
  further ls a rest ha hne ls' hls := by
    obtain ⟨rest', ha', hrest'⟩ := (h ls).further ha hne hls
    rw [← hnear hls] at ha'
    exact ⟨rest', ha', hrest'⟩

theorem sees {test : List Lexeme → Bool} (h : Near name test) :
    ReadsOn name (Parser.sees test) (Parser.sees test) :=
  get (fun _ => pure _) fun ls ls' hls => by rw [h hls]

theorem isEmpty {p' q' : Parser α} (h : ReadsOn name p q) (h' : ReadsOn name p' q') :
    ReadsOn name (MonadState.get >>= fun ls => if ls.isEmpty then p else p')
      (MonadState.get >>= fun ls => if ls.isEmpty then q else q') :=
  get (fun _ => h.ite h') fun ls ls' hls => by rw [near_isEmpty hls]

theorem anyWhere {test : List Lexeme → Bool} (h : Near name test) :
    ReadsOn name (Parser.anyWhere test) (Parser.anyWhere test) where
  suffix ls l rest hl := by
    obtain ⟨rfl, -⟩ := anyWhere_eq_some_iff.1 hl
    exact List.suffix_cons l rest
  same ls l rest hl := hl
  further ls l rest hl hne ls' hls := by
    obtain ⟨rfl, htest⟩ := anyWhere_eq_some_iff.1 hl
    rw [← h hls] at htest
    cases hls with
    | last => exact absurd rfl hne
    | cons l hls => exact ⟨_, anyWhere_eq_some_iff.2 ⟨rfl, htest⟩, hls⟩

theorem punct {spelling : String} (hcolons : colonsLead spelling.toList = true) :
    ReadsOn name (Parser.punct spelling) (Parser.punct spelling) where
  suffix ls tokens rest h := (suffix_of_afterPunct? (punct_eq_some_iff.1 h).1).1
  same ls l rest hl := hl
  further ls tokens rest h hne ls' hls := by
    obtain ⟨hrest, rfl⟩ := punct_eq_some_iff.1 h
    have hrel := afterPunct?_continues hls hcolons
    rw [hrest] at hrel
    generalize hread : afterPunct? spelling.toList ls' = read at hrel
    cases hrel with
    | some hrest' =>
      rcases hrest' with hrest' | ⟨hnil, -⟩
      · exact ⟨_, punct_eq_some_iff.2 ⟨hread, rfl⟩, hrest'⟩
      · exact absurd hnil hne

theorem one {test : List Lexeme → Bool} (h : Near name test) :
    ReadsOn name (Parser.one test) (Parser.one test) :=
  (anyWhere h).bind fun _ => pure _

theorem reserved (word : String) : ReadsOn name (Parser.reserved word) (Parser.reserved word) :=
  one (near_atWord word)

theorem ifSees {test : List Lexeme → Bool} {p q : Parser Tokens} (h : Near name test)
    (hp : ReadsOn name p q) : ReadsOn name (Parser.ifSees test p) (Parser.ifSees test q) :=
  (sees h).bind fun _ => hp.ite (pure _)

theorem punct? {spelling : String} (h : colonsLead spelling.toList = true) :
    ReadsOn name (Parser.punct? spelling) (Parser.punct? spelling) :=
  ifSees (near_atPunct h) (punct h)

theorem reserved? (word : String) :
    ReadsOn name (Parser.reserved? word) (Parser.reserved? word) :=
  ifSees (near_atWord word) (reserved word)

theorem anyIdent : ReadsOn name Parser.anyIdent Parser.anyIdent := by
  refine (anyWhere near_atAnyWord).bind fun l => ?_
  cases l with
  | ident i => exact pure i
  | _ => exact failure

theorem anyGroup : ReadsOn name Parser.anyGroup Parser.anyGroup :=
  one (near_of_head (fun l _ _ => by cases l <;> rfl) fun _ _ _ => rfl)

/-- Of what is in a group, all is read. -/
theorem inGroup {bracket : Bracket} (h : ReadsOn name p q) :
    ReadsOn name (Parser.inGroup bracket p) (Parser.inGroup bracket q) := by
  refine (anyWhere (near_atGroup bracket)).bind fun l => ?_
  cases l with
  | group b inner =>
    dsimp only
    split
    · rename_i a hread
      rw [h.same hread]
      exact pure a
    · exact failure
  | _ => exact failure

variable {p q : Parser Tokens}

theorem commaList_go (h : ReadsOn name p q) (n : Nat) :
    ReadsOn name (Parser.commaList.go p n) (Parser.commaList.go q n) := by
  induction n with
  | zero => exact pure []
  | succ n ih =>
    exact isEmpty (pure []) (h.bind fun _ => isEmpty (pure _)
      ((punct (by decide)).bind fun _ => ih.bind fun _ => pure _))

/-- A list goes as far as the lexemes go. -/
theorem nil_of_commaList_go (h : ReadsOn name p q) {n : Nat} {ls rest : List Lexeme}
    {tokens : Tokens} (hn : ls.length ≤ n)
    (hread : Parser.commaList.go p n ls = some (tokens, rest)) : rest = [] := by
  induction n generalizing ls rest tokens with
  | zero =>
    cases hread
    exact List.length_eq_zero_iff.1 (Nat.le_zero.1 hn)
  | succ n ih =>
    have hread : (if ls.isEmpty then (return [] : Parser Tokens) else do
        let first ← p
        if (← MonadState.get).isEmpty then return first
        let comma ← Parser.punct ","
        return first ++ comma ++ (← Parser.commaList.go p n)) ls = some (tokens, rest) := hread
    split at hread
    · rename_i hempty
      cases hread
      exact List.isEmpty_iff.1 hempty
    · obtain ⟨first, mid, hfirst, hread⟩ := bind_eq_some_iff.1 hread
      have hread : (if mid.isEmpty then (return first : Parser Tokens) else do
          let comma ← Parser.punct ","
          return first ++ comma ++ (← Parser.commaList.go p n)) mid = some (tokens, rest) := hread
      split at hread
      · rename_i hempty
        cases hread
        exact List.isEmpty_iff.1 hempty
      · obtain ⟨comma, mid', hcomma, hread⟩ := bind_eq_some_iff.1 hread
        obtain ⟨more, rest', hmore, hread⟩ := bind_eq_some_iff.1 hread
        cases hread
        have hlt := (suffix_of_afterPunct? (punct_eq_some_iff.1 hcomma).1).2
        have hle := (h.suffix hfirst).length_le
        exact ih (by omega) hmore

theorem commaList (h : ReadsOn name p q) :
    ReadsOn name (Parser.commaList p) (Parser.commaList q) where
  suffix ls _ _ ha := (commaList_go h ls.length).suffix ha
  same ls _ _ ha := (commaList_go h ls.length).same ha
  further _ _ _ ha hne := absurd (nil_of_commaList_go h (Nat.le_refl _) ha) hne

end ReadsOn

end Readers

end Parser

end ProtoPlan.Code
