import ProtoPlan.Text.Case

/-!
The letters of names in snake case and in Pascal case. Of a name in letters, digits and underscores
both cases keep to these. They merge names that are written in different ways, but not names that
are all written in one way: words in lower case with single underscores between are read back from
Pascal case, and words that are told apart by their capitals are read back from snake case.
-/

namespace ProtoPlan.Text

section Letters

/-- A letter, a digit or an underscore of ASCII. -/
def isNameChar (c : Char) : Bool := c.isAlphanum || c == '_'

/-- The same without the capitals. -/
def isSnakeChar (c : Char) : Bool := c.isLower || c.isDigit || c == '_'

-- Rewriting with these and not with the names of the tests: unfolded in place, a test gets an
-- equation of its own here, which a larger import has from elsewhere.
theorem isUpper_eq (c : Char) : c.isUpper = decide ('A'.val ≤ c.val ∧ c.val ≤ 'Z'.val) := rfl

theorem isLower_eq (c : Char) :
    c.isLower = (decide ('a'.val ≤ c.val) && decide (c.val ≤ 'z'.val)) := rfl

theorem isAlpha_eq (c : Char) : c.isAlpha = (c.isUpper || c.isLower) := rfl

theorem isAscii_of_isNameChar {c : Char} (h : isNameChar c = true) : isAscii c = true := by
  simp only [isNameChar, Char.isAlphanum, isAlpha_eq, isUpper_eq, isLower_eq, Char.isDigit,
    Bool.or_eq_true, Bool.and_eq_true, decide_eq_true_eq, beq_iff_eq, UInt32.le_iff_toNat_le,
    ge_iff_le] at h
  simp only [isAscii, Char.toNat, decide_eq_true_eq]
  rcases h with ((⟨-, hupper⟩ | ⟨-, hlower⟩) | ⟨-, hdigit⟩) | rfl
  · exact Nat.lt_of_le_of_lt hupper (by decide)
  · exact Nat.lt_of_le_of_lt hlower (by decide)
  · exact Nat.lt_of_le_of_lt hdigit (by decide)
  · decide

/-- What holds of the first 128 characters holds in ASCII. -/
theorem of_isAscii {P : Char → Prop} (h : ∀ n : Fin 128, P (Char.ofNat n)) {c : Char}
    (hc : isAscii c = true) : P c := by
  have hlt : c.toNat < 128 := by simpa [isAscii] using hc
  have hchar := h ⟨c.toNat, hlt⟩
  rwa [Char.ofNat_toNat] at hchar

theorem of_isNameChar {P : Char → Prop}
    (h : ∀ n : Fin 128, isNameChar (Char.ofNat n) = true → P (Char.ofNat n)) {c : Char}
    (hc : isNameChar c = true) : P c :=
  of_isAscii (P := fun c => isNameChar c = true → P c) h (isAscii_of_isNameChar hc) hc

variable {c : Char} (h : isNameChar c = true)
include h

theorem isUppercase_eq : isUppercase c = c.isUpper := by
  rw [isUppercase, if_pos (isAscii_of_isNameChar h)]

theorem isLowercase_eq : isLowercase c = c.isLower := by
  rw [isLowercase, if_pos (isAscii_of_isNameChar h)]

theorem toLowercase_eq : toLowercase c = [c.toLower] := by
  rw [toLowercase, if_pos (isAscii_of_isNameChar h)]

theorem toUppercase_eq : toUppercase c = [c.toUpper] := by
  rw [toUppercase, if_pos (isAscii_of_isNameChar h)]

theorem isSnakeChar_toLower : isSnakeChar c.toLower = true :=
  of_isNameChar (P := fun c => isSnakeChar c.toLower = true) (by decide) h

theorem isSnakeChar_of_not_isUpper (hupper : c.isUpper = false) : isSnakeChar c = true := by
  simp only [isNameChar, Char.isAlphanum, isAlpha_eq, hupper, Bool.false_or] at h
  exact h

theorem isAlphanum_of_ne (hne : c ≠ '_') : c.isAlphanum = true := by
  simpa [isNameChar, hne] using h

theorem isAlphanum_toUpper (hne : c ≠ '_') : c.toUpper.isAlphanum = true :=
  of_isNameChar (P := fun c => c ≠ '_' → c.toUpper.isAlphanum = true) (by decide) h hne

theorem isLower_toLower (halpha : c.isAlpha = true) : c.toLower.isLower = true :=
  of_isNameChar (P := fun c => c.isAlpha = true → c.toLower.isLower = true) (by decide) h halpha

theorem isUpper_toUpper (halpha : c.isAlpha = true) : c.toUpper.isUpper = true :=
  of_isNameChar (P := fun c => c.isAlpha = true → c.toUpper.isUpper = true) (by decide) h halpha

theorem toUpper_toLower (hupper : c.isUpper = true) : c.toLower.toUpper = c :=
  of_isNameChar (P := fun c => c.isUpper = true → c.toLower.toUpper = c) (by decide) h hupper

theorem toLower_toUpper (hlower : c.isLower = true) : c.toUpper.toLower = c :=
  of_isNameChar (P := fun c => c.isLower = true → c.toUpper.toLower = c) (by decide) h hlower

theorem isLower_toUpper (hne : c ≠ '_') : c.toUpper.isLower = false :=
  of_isNameChar (P := fun c => c ≠ '_' → c.toUpper.isLower = false) (by decide) h hne

end Letters

/-- Whether letters are a name in letters, digits and underscores that starts with a letter. -/
def isPlainName : List Char → Bool
  | [] => false
  | c :: cs => c.isAlpha && cs.all isNameChar

/-- Whether letters are a name in letters and digits that starts with a capital. -/
def isPascalName : List Char → Bool
  | [] => false
  | c :: cs => c.isUpper && cs.all Char.isAlphanum

theorem isAlpha_of_isUpper {c : Char} (h : c.isUpper = true) : c.isAlpha = true := by
  simp [isAlpha_eq, h]

theorem isAlpha_of_isLower {c : Char} (h : c.isLower = true) : c.isAlpha = true := by
  simp [isAlpha_eq, h]

theorem isAlphanum_of_isAlpha {c : Char} (h : c.isAlpha = true) : c.isAlphanum = true := by
  simp [Char.isAlphanum, h]

theorem ne_underscore {c : Char} (h : c.isAlphanum = true) : c ≠ '_' := by
  intro heq
  rw [heq] at h
  exact absurd h (by decide)

theorem isNameChar_of_isAlphanum {c : Char} (h : c.isAlphanum = true) : isNameChar c = true := by
  simp [isNameChar, h]

theorem isNameChar_of_isAlpha {c : Char} (h : c.isAlpha = true) : isNameChar c = true :=
  isNameChar_of_isAlphanum (isAlphanum_of_isAlpha h)

theorem isNameChar_of_isSnakeChar {c : Char} (h : isSnakeChar c = true) : isNameChar c = true := by
  simp only [isSnakeChar, Bool.or_eq_true] at h
  simp only [isNameChar, Char.isAlphanum, isAlpha_eq, Bool.or_eq_true]
  rcases h with (hlower | hdigit) | hunder
  · exact .inl (.inl (.inr hlower))
  · exact .inl (.inr hdigit)
  · exact .inr hunder

theorem all_isNameChar_of_isPlainName {cs : List Char} (h : isPlainName cs = true) :
    cs.all isNameChar = true := by
  cases cs with
  | nil => rfl
  | cons c cs =>
    rw [isPlainName, Bool.and_eq_true] at h
    rw [List.all_cons, isNameChar_of_isAlpha h.1, h.2]
    rfl

theorem all_isAlphanum_of_isPascalName {cs : List Char} (h : isPascalName cs = true) :
    cs.all Char.isAlphanum = true := by
  cases cs with
  | nil => rfl
  | cons c cs =>
    rw [isPascalName, Bool.and_eq_true] at h
    rw [List.all_cons, isAlphanum_of_isAlpha (isAlpha_of_isUpper h.1), h.2]
    rfl

theorem isPlainName_of_isPascalName {cs : List Char} (h : isPascalName cs = true) :
    isPlainName cs = true := by
  cases cs with
  | nil => cases h
  | cons c cs =>
    rw [isPascalName, Bool.and_eq_true] at h
    have halpha := isAlpha_of_isUpper h.1
    have hall : cs.all isNameChar = true := by
      rw [List.all_eq_true] at h ⊢
      exact fun d hd => isNameChar_of_isAlphanum (h.2 d hd)
    rw [isPlainName, halpha, hall]
    rfl

section Snake

theorem all_snakeFrom (before : Option Char) {cs : List Char} (h : cs.all isNameChar = true) :
    (snakeFrom before cs).all isSnakeChar = true := by
  induction cs generalizing before with
  | nil => rfl
  | cons c cs ih =>
    rw [List.all_cons, Bool.and_eq_true] at h
    have hlower : (toLowercase c).all isSnakeChar = true := by
      simp [toLowercase_eq h.1, isSnakeChar_toLower h.1]
    have hform : (if !isUppercase c then [c]
        else if startsWord before cs.head? then '_' :: toLowercase c
        else toLowercase c).all isSnakeChar = true := by
      split
      · rename_i hupper
        rw [isUppercase_eq h.1, Bool.not_eq_true'] at hupper
        simp [isSnakeChar_of_not_isUpper h.1 hupper]
      · split
        · rw [List.all_cons, hlower]
          rfl
        · exact hlower
    rw [snakeFrom, List.all_append, hform, ih (some c) h.2]
    rfl

/-- No word starts before the first letter of a name. -/
theorem snakeFrom_cons {c : Char} (h : isNameChar c = true) (cs : List Char) :
    snakeFrom none (c :: cs) =
      (if c.isUpper then c.toLower else c) :: snakeFrom (some c) cs := by
  rw [snakeFrom, isUppercase_eq h, toLowercase_eq h]
  cases c.isUpper <;> rfl

theorem isPlainName_snakeFrom {cs : List Char} (h : isPlainName cs = true) :
    isPlainName (snakeFrom none cs) = true := by
  cases cs with
  | nil => cases h
  | cons c cs =>
    rw [isPlainName, Bool.and_eq_true] at h
    have hc := isNameChar_of_isAlpha h.1
    have hfirst : (if c.isUpper then c.toLower else c).isAlpha = true := by
      split
      · exact isAlpha_of_isLower (isLower_toLower hc h.1)
      · exact h.1
    have hrest : (snakeFrom (some c) cs).all isNameChar = true := by
      have hall := all_snakeFrom (some c) h.2
      rw [List.all_eq_true] at hall ⊢
      exact fun d hd => isNameChar_of_isSnakeChar (hall d hd)
    rw [snakeFrom_cons hc, isPlainName, hfirst, hrest]
    rfl

/-- A character that is mapped to one as high as `bound`, or to none, is not mapped to a lower one
but for the first. -/
theorem toNat_of_mapped? {table : List (Nat × Nat × Nat × Nat)} {bound : Nat}
    (h : ∀ range ∈ table, bound ≤ range.2.2.2) {c d : Char} (hd : mapped? table c = some d) :
    bound ≤ d.toNat ∨ d.toNat = 0 := by
  obtain ⟨⟨first, last, stride, image⟩, hfind, rfl⟩ := Option.map_eq_some_iff.1 hd
  have himage := h _ (List.mem_of_find?_eq_some hfind)
  dsimp only at himage ⊢
  rw [Char.ofNat]
  by_cases hvalid : (image + (c.toNat - first)).isValidChar
  · rw [dif_pos hvalid]
    exact .inl (Nat.le_add_right_of_le himage)
  · rw [dif_neg hvalid]
    exact .inr rfl

/-- No character but itself has the number sign in its lower-case form. -/
theorem ne_hash_of_mem_toLowercase {c d : Char} (hc : c ≠ '#') (hd : d ∈ toLowercase c) :
    d ≠ '#' := by
  rw [toLowercase] at hd
  split at hd
  · rename_i hascii
    rw [List.mem_singleton.1 hd]
    exact of_isAscii (P := fun c => c ≠ '#' → c.toLower ≠ '#') (by decide) hascii hc
  · rw [caseForm] at hd
    split at hd
    · rename_i cs hspecial
      have hcs : cs = [0x69, 0x307] := by
        simp only [CaseTable.toLowerSpecial, List.lookup_cons, List.lookup_nil] at hspecial
        split at hspecial
        · exact (Option.some.inj hspecial).symm
        · cases hspecial
      rw [hcs] at hd
      rcases List.mem_cons.1 hd with rfl | hd
      · decide
      · rw [List.mem_singleton.1 hd]
        decide
    · rw [List.mem_singleton.1 hd]
      have himages : ∀ range ∈ CaseTable.toLower, 36 ≤ range.2.2.2 := by decide +kernel
      cases hmapped : mapped? CaseTable.toLower c with
      | none => exact hc
      | some image =>
        intro (heq : image = '#')
        rw [heq] at hmapped
        obtain hlow | hzero := toNat_of_mapped? himages hmapped
        · exact absurd hlow (by decide)
        · exact absurd hzero (by decide)

theorem hash_notMem_snakeFrom (before : Option Char) {cs : List Char} (h : '#' ∉ cs) :
    '#' ∉ snakeFrom before cs := by
  induction cs generalizing before with
  | nil => exact h
  | cons c cs ih =>
    rw [List.mem_cons, not_or] at h
    have hform : '#' ∉ toLowercase c := fun hmem => ne_hash_of_mem_toLowercase (Ne.symm h.1) hmem rfl
    rw [snakeFrom, List.mem_append, not_or]
    refine ⟨?_, ih (some c) h.2⟩
    split
    · exact fun hmem => h.1 (List.mem_singleton.1 hmem)
    · split
      · exact fun hmem => (List.mem_cons.1 hmem).elim (by decide) hform
      · exact hform

end Snake

section Pascal

/-- Pascal case letter by letter: underscores are left out, and `start` tells that a word begins. -/
def pascalFrom (start : Bool) : List Char → List Char
  | [] => []
  | c :: cs =>
    if c = '_' then pascalFrom true cs
    else (if start then toUppercase c else [c]) ++ pascalFrom false cs

/-- The first word is apart from the others, since it may go on with what is already read. -/
theorem exists_splitAt (cs : List Char) :
    ∃ word words, splitAt '_' cs = word :: words ∧
      word ++ words.flatMap capitalize = pascalFrom false cs ∧
      capitalize word ++ words.flatMap capitalize = pascalFrom true cs := by
  induction cs with
  | nil => exact ⟨[], [], rfl, rfl, rfl⟩
  | cons c cs ih =>
    obtain ⟨word, words, hsplit, hgoes, hstarts⟩ := ih
    rw [splitAt, pascalFrom, pascalFrom, hsplit]
    by_cases hc : c = '_'
    · simp only [hc, if_true]
      exact ⟨[], word :: words, rfl, hstarts, hstarts⟩
    · simp only [hc, if_false]
      refine ⟨c :: word, words, rfl, ?_, ?_⟩
      · rw [← hgoes]
        rfl
      · rw [← hgoes, capitalize, List.append_assoc]
        rfl

theorem toList_toPascal (name : String) : (toPascal name).toList = pascalFrom true name.toList := by
  obtain ⟨word, words, hsplit, -, hstarts⟩ := exists_splitAt name.toList
  rw [toPascal, String.toList_ofList, hsplit, List.flatMap_cons, hstarts]

theorem all_pascalFrom (start : Bool) {cs : List Char} (h : cs.all isNameChar = true) :
    (pascalFrom start cs).all Char.isAlphanum = true := by
  induction cs generalizing start with
  | nil => rfl
  | cons c cs ih =>
    rw [List.all_cons, Bool.and_eq_true] at h
    rw [pascalFrom]
    split
    · exact ih true h.2
    · rename_i hne
      have hform : (if start then toUppercase c else [c]).all Char.isAlphanum = true := by
        cases start
        · simp [isAlphanum_of_ne h.1 hne]
        · simp [toUppercase_eq h.1, isAlphanum_toUpper h.1 hne]
      rw [List.all_append, hform, ih false h.2]
      rfl

theorem isPascalName_pascalFrom {cs : List Char} (h : isPlainName cs = true) :
    isPascalName (pascalFrom true cs) = true := by
  cases cs with
  | nil => cases h
  | cons c cs =>
    rw [isPlainName, Bool.and_eq_true] at h
    have hc := isNameChar_of_isAlpha h.1
    have hne := ne_underscore (isAlphanum_of_isAlpha h.1)
    rw [pascalFrom, if_neg hne, if_pos rfl, toUppercase_eq hc, List.singleton_append, isPascalName,
      isUpper_toUpper hc h.1, all_pascalFrom false h.2]
    rfl

/-- No word begins with a small letter. -/
theorem isLower_of_pascalFrom {cs ds : List Char} {d : Char} (h : cs.all isNameChar = true)
    (heq : pascalFrom true cs = d :: ds) : d.isLower = false := by
  induction cs with
  | nil => cases heq
  | cons c cs ih =>
    rw [List.all_cons, Bool.and_eq_true] at h
    rw [pascalFrom] at heq
    split at heq
    · exact ih h.2 heq
    · rename_i hne
      rw [if_pos rfl, toUppercase_eq h.1] at heq
      rw [← (List.cons.inj heq).1]
      exact isLower_toUpper h.1 hne

/-- A small letter in Pascal case is one of the name itself. -/
theorem eq_cons_of_pascalFrom {cs ds : List Char} {d : Char} (h : cs.all isNameChar = true)
    (hlower : d.isLower = true) (heq : pascalFrom false cs = d :: ds) :
    ∃ rest, cs = d :: rest ∧ rest.all isNameChar = true ∧ pascalFrom false rest = ds := by
  cases cs with
  | nil => cases heq
  | cons c cs =>
    rw [List.all_cons, Bool.and_eq_true] at h
    rw [pascalFrom] at heq
    split at heq
    · rw [isLower_of_pascalFrom h.2 heq] at hlower
      cases hlower
    · obtain ⟨rfl, hrest⟩ := List.cons.inj heq
      exact ⟨cs, rfl, h.2, hrest⟩

/-- Underscores at the end are left out. -/
theorem pascalFrom_append_underscores (start : Bool) (cs : List Char) (n : Nat) :
    pascalFrom start (cs ++ List.replicate n '_') = pascalFrom start cs := by
  induction cs generalizing start with
  | nil =>
    rw [List.nil_append]
    induction n generalizing start with
    | zero => rfl
    | succ n ih =>
      have hmore : pascalFrom start (List.replicate (n + 1) '_') =
          pascalFrom true (List.replicate n '_') := rfl
      rw [hmore, ih]
      rfl
  | cons c cs ih => rw [List.cons_append, pascalFrom, pascalFrom, ih, ih]

theorem exists_of_pascalFrom_eq_nil {start : Bool} {cs : List Char}
    (h : cs.all isNameChar = true) (heq : pascalFrom start cs = []) :
    ∃ n, cs = List.replicate n '_' := by
  induction cs generalizing start with
  | nil => exact ⟨0, rfl⟩
  | cons c cs ih =>
    rw [List.all_cons, Bool.and_eq_true] at h
    rw [pascalFrom] at heq
    split at heq
    · rename_i hc
      obtain ⟨n, rfl⟩ := ih h.2 heq
      exact ⟨n + 1, by rw [hc, List.replicate_succ]⟩
    · rw [toUppercase_eq h.1] at heq
      cases start <;> cases heq

/-- The names that come out as `Self`: the word itself, with underscores after it. -/
def IsSelf (name : String) : Prop :=
  ∃ n, name.toList = "self".toList ++ List.replicate n '_' ∨
    name.toList = "Self".toList ++ List.replicate n '_'

theorem toPascal_eq_self_iff {name : String} (h : isPlainName name.toList = true) :
    toPascal name = "Self" ↔ IsSelf name := by
  rw [← String.toList_inj, toList_toPascal, IsSelf]
  constructor
  · intro heq
    cases hname : name.toList with
    | nil =>
      rw [hname] at h
      cases h
    | cons c cs =>
      rw [hname, isPlainName, Bool.and_eq_true] at h
      have hc := isNameChar_of_isAlpha h.1
      have hne := ne_underscore (isAlphanum_of_isAlpha h.1)
      rw [hname, pascalFrom, if_neg hne, if_pos rfl, toUppercase_eq hc] at heq
      obtain ⟨hcapital, hrest⟩ := List.cons.inj heq
      have hcase : c = 's' ∨ c = 'S' :=
        of_isNameChar (P := fun c => c.toUpper = 'S' → c = 's' ∨ c = 'S') (by decide) hc hcapital
      obtain ⟨afterE, rfl, hall, hrest⟩ := eq_cons_of_pascalFrom h.2 (by decide) hrest
      obtain ⟨afterL, rfl, hall, hrest⟩ := eq_cons_of_pascalFrom hall (by decide) hrest
      obtain ⟨afterF, rfl, hall, hrest⟩ := eq_cons_of_pascalFrom hall (by decide) hrest
      obtain ⟨n, rfl⟩ := exists_of_pascalFrom_eq_nil hall hrest
      rcases hcase with rfl | rfl
      · exact ⟨n, .inl rfl⟩
      · exact ⟨n, .inr rfl⟩
  · intro hself
    obtain ⟨n, hname | hname⟩ := hself
    · rw [hname, pascalFrom_append_underscores]
      rfl
    · rw [hname, pascalFrom_append_underscores]
      rfl

end Pascal

section Readable

/-- Whether letters are words in lower case that start with a letter each, with single underscores
between. `start` tells that a word has to begin. -/
def isSnakeFrom (start : Bool) : List Char → Bool
  | [] => !start
  | c :: cs =>
    if start then c.isLower && isSnakeFrom false cs
    else if c = '_' then isSnakeFrom true cs
    else (c.isLower || c.isDigit) && isSnakeFrom false cs

/-- A name such as `retry_after`. -/
def IsSnake (name : String) : Prop := isSnakeFrom true name.toList = true

instance (name : String) : Decidable (IsSnake name) :=
  inferInstanceAs (Decidable (isSnakeFrom true name.toList = true))

/-- Whether letters and digits go on with a name of which no two capitals stand together. `capital`
tells of the letter before. -/
def isCamelFrom (capital : Bool) : List Char → Bool
  | [] => true
  | c :: cs =>
    if c.isUpper then !capital && isCamelFrom true cs
    else (c.isLower || c.isDigit) && isCamelFrom false cs

/-- Whether the letters are a name such as `RetryPolicy`. -/
def isCamel : List Char → Bool
  | [] => false
  | c :: cs => c.isUpper && isCamelFrom true cs

def IsCamel (name : String) : Prop := isCamel name.toList = true

instance (name : String) : Decidable (IsCamel name) :=
  inferInstanceAs (Decidable (isCamel name.toList = true))

theorem isUpper_of_small {c : Char} (h : (c.isLower || c.isDigit) = true) : c.isUpper = false := by
  have hname : isNameChar c = true := isNameChar_of_isSnakeChar (by simp [isSnakeChar, h])
  exact of_isNameChar (P := fun c => (c.isLower || c.isDigit) = true → c.isUpper = false)
    (by decide) hname h

theorem isAlphanum_of_small {c : Char} (h : (c.isLower || c.isDigit) = true) :
    c.isAlphanum = true := by
  rcases Bool.or_eq_true_iff.1 h with hlower | hdigit
  · exact isAlphanum_of_isAlpha (isAlpha_of_isLower hlower)
  · simp [Char.isAlphanum, hdigit]

/-- A capital read back as the underscore and the letter that it stands for. -/
def unword (c : Char) : List Char := if c.isUpper then ['_', c.toLower] else [c]

theorem flatMap_unword_pascalFrom {start : Bool} {cs : List Char}
    (h : isSnakeFrom start cs = true) :
    (pascalFrom start cs).flatMap unword = if start then '_' :: cs else cs := by
  induction cs generalizing start with
  | nil => cases start with
    | false => rfl
    | true => cases h
  | cons c cs ih =>
    rw [isSnakeFrom] at h
    rw [pascalFrom]
    cases start with
    | true =>
      simp only [if_true, Bool.and_eq_true] at h
      obtain ⟨hlower, hrest⟩ := h
      have halpha := isAlpha_of_isLower hlower
      have hc := isNameChar_of_isAlpha halpha
      have hne := ne_underscore (isAlphanum_of_isAlpha halpha)
      have hword : unword c.toUpper = ['_', c] := by
        rw [unword, if_pos (isUpper_toUpper hc halpha), toLower_toUpper hc hlower]
      rw [if_neg hne, if_pos rfl, toUppercase_eq hc, List.singleton_append, List.flatMap_cons,
        hword, ih hrest]
      rfl
    | false =>
      simp only [Bool.false_eq_true, if_false] at h ⊢
      split at h
      · rename_i hunder
        rw [if_pos hunder, ih h, hunder]
        rfl
      · rename_i hne
        rw [Bool.and_eq_true, Bool.or_eq_true] at h
        have hupper := isUpper_of_small (by simpa using h.1)
        rw [if_neg hne, List.singleton_append, List.flatMap_cons, ih h.2, unword, hupper]
        rfl

/-- Names in snake case have different forms in Pascal case. -/
theorem toPascal_inj {first second : String} (hfirst : IsSnake first) (hsecond : IsSnake second)
    (h : toPascal first = toPascal second) : first = second := by
  have hletters : pascalFrom true first.toList = pascalFrom true second.toList := by
    rw [← toList_toPascal, ← toList_toPascal, h]
  have hback := congrArg (List.flatMap unword) hletters
  rw [flatMap_unword_pascalFrom hfirst, flatMap_unword_pascalFrom hsecond] at hback
  exact String.toList_injective (List.cons.inj hback).2

theorem pascalFrom_snakeFrom {before : Char} {cs : List Char} (hbefore : before.isAlphanum = true)
    (h : isCamelFrom before.isUpper cs = true) :
    pascalFrom false (snakeFrom (some before) cs) = cs := by
  induction cs generalizing before with
  | nil => rfl
  | cons c cs ih =>
    rw [isCamelFrom] at h
    split at h
    · rename_i hupper
      rw [Bool.and_eq_true, Bool.not_eq_true'] at h
      have halpha := isAlpha_of_isUpper hupper
      have hc := isNameChar_of_isAlpha halpha
      have hsmall : (isLowercase before || before.isDigit) = true := by
        have hname := isNameChar_of_isAlphanum hbefore
        rw [isLowercase_eq hname]
        simpa [Char.isAlphanum, isAlpha_eq, h.1] using hbefore
      have hstarts : startsWord (some before) cs.head? = true := by
        rw [startsWord, hsmall, Bool.true_or]
      have hlower := isAlpha_of_isLower (isLower_toLower hc halpha)
      have hne := ne_underscore (isAlphanum_of_isAlpha hlower)
      have hrest := ih (isAlphanum_of_isAlpha halpha) (by rw [hupper]; exact h.2)
      rw [snakeFrom, isUppercase_eq hc, hupper, hstarts, toLowercase_eq hc]
      show pascalFrom false ('_' :: c.toLower :: snakeFrom (some c) cs) = c :: cs
      rw [pascalFrom, if_pos rfl, pascalFrom, if_neg hne, if_pos rfl,
        toUppercase_eq (isNameChar_of_isAlpha hlower), toUpper_toLower hc hupper, hrest]
      rfl
    · rename_i hupper
      rw [Bool.and_eq_true] at h
      rw [Bool.not_eq_true] at hupper
      have halnum := isAlphanum_of_small h.1
      have hc := isNameChar_of_isAlphanum halnum
      have hne := ne_underscore halnum
      have hrest := ih halnum (by rw [hupper]; exact h.2)
      rw [snakeFrom, isUppercase_eq hc, hupper]
      show pascalFrom false (c :: snakeFrom (some c) cs) = c :: cs
      rw [pascalFrom, if_neg hne, hrest]
      rfl

theorem all_isAlphanum_of_isCamelFrom {capital : Bool} {cs : List Char}
    (h : isCamelFrom capital cs = true) : cs.all Char.isAlphanum = true := by
  induction cs generalizing capital with
  | nil => rfl
  | cons c cs ih =>
    rw [isCamelFrom] at h
    rw [List.all_cons, Bool.and_eq_true]
    split at h
    · rename_i hupper
      rw [Bool.and_eq_true] at h
      exact ⟨isAlphanum_of_isAlpha (isAlpha_of_isUpper hupper), ih h.2⟩
    · rw [Bool.and_eq_true] at h
      exact ⟨isAlphanum_of_small h.1, ih h.2⟩

theorem exists_of_isCamel {name : String} (h : IsCamel name) :
    ∃ c cs, name.toList = c :: cs ∧ c.isUpper = true ∧ isCamelFrom true cs = true := by
  unfold IsCamel at h
  generalize name.toList = letters at h
  cases letters with
  | nil => cases h
  | cons c cs =>
    rw [isCamel, Bool.and_eq_true] at h
    exact ⟨c, cs, rfl, h⟩

theorem isPascalName_of_isCamel {name : String} (h : IsCamel name) :
    isPascalName name.toList = true := by
  obtain ⟨c, cs, hname, hc, hcs⟩ := exists_of_isCamel h
  rw [hname, isPascalName, hc, all_isAlphanum_of_isCamelFrom hcs]
  rfl

/-- A name whose words are told apart by capitals is read back from snake case. -/
theorem toPascal_toSnake {name : String} (h : IsCamel name) : toPascal (toSnake name) = name := by
  rw [← String.toList_inj, toList_toPascal, toSnake, String.toList_ofList]
  obtain ⟨c, cs, hname, hupper, hcs⟩ := exists_of_isCamel h
  rw [hname]
  have halpha := isAlpha_of_isUpper hupper
  have hc := isNameChar_of_isAlpha halpha
  have hlower := isAlpha_of_isLower (isLower_toLower hc halpha)
  have hne := ne_underscore (isAlphanum_of_isAlpha hlower)
  have hrest : pascalFrom false (snakeFrom (some c) cs) = cs :=
    pascalFrom_snakeFrom (isAlphanum_of_isAlpha halpha) (by rw [hupper]; exact hcs)
  rw [snakeFrom_cons hc, if_pos hupper, pascalFrom, if_neg hne, if_pos rfl,
    toUppercase_eq (isNameChar_of_isAlpha hlower), toUpper_toLower hc hupper, hrest]
  rfl

end Readable

end ProtoPlan.Text
