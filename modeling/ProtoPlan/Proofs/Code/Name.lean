import ProtoPlan.Code.Ident
import ProtoPlan.Proofs.Text.Case

/-!
Names of generated items as identifiers. A name in letters, digits and underscores that starts with
a letter always gives a legal identifier where keywords are escaped, be it the name of a type, of a
field or of a module; in Pascal case, where they are not, all but `Self` do.
-/

namespace ProtoPlan

section Segments

open Text

theorem Text.dropStart?_eq_some_iff {start s rest : List Char} :
    dropStart? start s = some rest ↔ s = start ++ rest := by
  rw [dropStart?]
  constructor
  · intro h
    split at h
    · rename_i hstart
      obtain ⟨tail, rfl⟩ := List.isPrefixOf_iff_prefix.1 hstart
      rw [List.drop_left] at h
      rw [Option.some.inj h]
    · cases h
  · intro h
    rw [h, if_pos (List.isPrefixOf_iff_prefix.2 (List.prefix_append start rest)), List.drop_left]

theorem Text.dropStart?_raw {s : List Char} (h : '#' ∉ s) : dropStart? "r#".toList s = none := by
  rw [Option.eq_none_iff_forall_ne_some]
  intro rest hrest
  rw [dropStart?_eq_some_iff.1 hrest] at h
  exact absurd (by simp) h

theorem Text.splitAt_ne_nil (separator : Char) (s : List Char) : splitAt separator s ≠ [] := by
  cases s with
  | nil => exact List.cons_ne_nil _ _
  | cons c cs =>
    rw [splitAt]
    split
    · exact List.cons_ne_nil _ _
    · split <;> exact List.cons_ne_nil _ _

theorem Text.splitAt_append (separator : Char) (first second : List Char) :
    splitAt separator (first ++ separator :: second) =
      splitAt separator first ++ splitAt separator second := by
  induction first with
  | nil =>
    show splitAt separator (separator :: second) = [] :: splitAt separator second
    rw [splitAt, if_pos rfl]
  | cons c cs ih =>
    rw [List.cons_append, splitAt, splitAt, ih]
    split
    · rfl
    · cases hsplit : splitAt separator cs with
      | nil => exact absurd hsplit (splitAt_ne_nil separator cs)
      | cons part parts => rfl

/-- The segments of a full name. -/
def Code.segments (name : String) : List (List Char) := splitAt '.' name.toList

/-- A name inside the package has segments of the full name. -/
theorem Code.mem_segments {name package : String} {segment : List Char}
    (h : segment ∈ segments (relativeName name package)) : segment ∈ segments name := by
  rw [relativeName] at h
  split at h
  · exact h
  · split at h
    · rename_i rest hrest
      have hname := dropStart?_eq_some_iff.1 hrest
      have hdot : (package ++ ".").toList = package.toList ++ ['.'] := String.toList_append
      rw [hdot, List.append_assoc] at hname
      rw [segments, String.toList_ofList] at h
      rw [segments, hname, List.singleton_append, splitAt_append]
      exact List.mem_append_right _ h
    · exact h

end Segments

end ProtoPlan

namespace ProtoPlan.Code

open Text

namespace Ident

/-- Keywords of the language as it is used, in paths and elsewhere. -/
def strictKeywords : List String :=
  ["as", "async", "await", "break", "const", "continue", "crate", "dyn", "else", "enum", "extern",
   "false", "fn", "for", "if", "impl", "in", "let", "loop", "match", "mod", "move", "mut", "pub",
   "ref", "return", "self", "Self", "static", "struct", "super", "trait", "true", "type", "unsafe",
   "use", "where", "while"]

/-- Words that the language keeps for later use. -/
def reservedKeywords : List String :=
  ["abstract", "become", "box", "do", "final", "gen", "macro", "override", "priv", "try", "typeof",
   "unsized", "virtual", "yield"]

/-- An identifier in ASCII that may name an item. It may be spelled like a keyword if it is raw,
unless the keyword has no raw form. -/
structure Legal (ident : Ident) : Prop where
  spelling : ∃ c cs, ident.name.toList = c :: cs ∧ (c.isAlpha = true ∨ c = '_') ∧
    ∀ d ∈ cs, d.isAlphanum = true ∨ d = '_'
  notBlank : ident.name ≠ "_"
  keyword : ident.name ∈ strictKeywords ++ reservedKeywords →
    ident.raw = true ∧ ident.name ∉ ["crate", "self", "Self", "super"]

theorem text_of_ofString? {text : String} {ident : Ident} (h : ofString? text = some ident) :
    ident.text = text := by
  rw [ofString?] at h
  split at h
  · rename_i name hname
    split at h
    · cases h
      rw [← String.toList_inj, dropStart?_eq_some_iff.1 hname]
      simp [Ident.text]
    · cases h
  · split at h
    · cases h
      rfl
    · cases h

theorem eq_of_ofString? {text : String} {ident : Ident} (h : ofString? text = some ident)
    (hhash : '#' ∉ text.toList) : ident = ⟨false, text⟩ := by
  rw [ofString?, dropStart?_raw hhash] at h
  dsimp only at h
  split at h
  · exact (Option.some.inj h).symm
  · cases h

theorem eq_of_ofString?_raw {name : String} {ident : Ident}
    (h : ofString? ("r#" ++ name) = some ident) : ident = ⟨true, name⟩ := by
  have hdrop : dropStart? "r#".toList ("r#" ++ name).toList = some name.toList :=
    dropStart?_eq_some_iff.2 String.toList_append
  rw [ofString?, hdrop] at h
  dsimp only at h
  split at h
  · rw [String.ofList_toList] at h
    exact (Option.some.inj h).symm
  · cases h

theorem isSpelling_of_isPlainName {cs : List Char} (h : isPlainName cs = true) :
    isSpelling cs = true := by
  cases cs with
  | nil => cases h
  | cons c cs =>
    rw [isPlainName, Bool.and_eq_true] at h
    have hstart : isIdentStart c = true := by
      rw [isIdentStart, if_pos (isAscii_of_isNameChar (isNameChar_of_isAlpha h.1)), h.1]
      rfl
    have hmore : cs.all isIdentMore = true := by
      rw [List.all_eq_true] at h ⊢
      intro d hd
      rw [isIdentMore, if_pos (isAscii_of_isNameChar (h.2 d hd))]
      exact h.2 d hd
    rw [isSpelling, hstart, hmore]
    rfl

theorem hash_notMem_of_isPlainName {cs : List Char} (h : isPlainName cs = true) : '#' ∉ cs := by
  intro hmem
  have hall := all_isNameChar_of_isPlainName h
  rw [List.all_eq_true] at hall
  exact absurd (hall '#' hmem) (by decide)

theorem ofString?_of_isPlainName {name : String} (h : isPlainName name.toList = true) :
    ofString? name = some ⟨false, name⟩ := by
  rw [ofString?, dropStart?_raw (hash_notMem_of_isPlainName h)]
  simp [isSpelling_of_isPlainName h]

theorem ofString?_raw {name : String} (h : isPlainName name.toList = true)
    (hnever : name ∉ neverRaw) : ofString? ("r#" ++ name) = some ⟨true, name⟩ := by
  have hdrop : dropStart? "r#".toList ("r#" ++ name).toList = some name.toList :=
    dropStart?_eq_some_iff.2 String.toList_append
  rw [ofString?, hdrop]
  simp [isSpelling_of_isPlainName h, hnever]

/-- A plain name is legal if it is no keyword, or one with a raw form in that form. -/
theorem legal_of_isPlainName {raw : Bool} {name : String} (h : isPlainName name.toList = true)
    (hkeyword : name ∈ strictKeywords ++ reservedKeywords →
      raw = true ∧ name ∉ ["crate", "self", "Self", "super"]) : Legal ⟨raw, name⟩ := by
  refine ⟨?_, ?_, hkeyword⟩
  · show ∃ c cs, name.toList = c :: cs ∧ _
    cases hname : name.toList with
    | nil =>
      rw [hname] at h
      cases h
    | cons c cs =>
      rw [hname, isPlainName, Bool.and_eq_true, List.all_eq_true] at h
      refine ⟨c, cs, rfl, .inl h.1, fun d hd => ?_⟩
      simpa [isNameChar] using h.2 d hd
  · intro (hblank : name = "_")
    rw [hblank] at h
    exact absurd h (by decide)

end Ident

section Escape

/-- The name that an escaped form stands for. -/
def unescape (text : String) : String :=
  match dropStart? "r#".toList text.toList with
  | some name => String.ofList name
  | none => (pathKeywords.find? fun word => word ++ "_" = text).getD text

/-- What the tables of keywords say of one another, and how the words in them are spelled. -/
structure KeywordTables : Prop where
  covered : ∀ word ∈ Ident.strictKeywords ++ Ident.reservedKeywords,
    word ∈ keywords ∨ word ∈ pathKeywords
  raw : ∀ word ∈ keywords, word ∉ Ident.neverRaw ∧ word ∉ ["crate", "self", "Self", "super"]
  small : ∀ word ∈ keywords, isPascalName word.toList = false
  apart : ∀ word ∈ pathKeywords, word ∉ keywords
  capital : ∀ word ∈ pathKeywords, isPascalName word.toList = true → word = "Self"
  suffixed : ∀ word ∈ pathKeywords, isPlainName (word ++ "_").toList = true ∧
    word ++ "_" ∉ keywords ∧ word ++ "_" ∉ Ident.strictKeywords ++ Ident.reservedKeywords
  unescaped : ∀ word ∈ pathKeywords, unescape (word ++ "_") = word
  notCamel : ∀ word ∈ pathKeywords, toSnake (toPascal (word ++ "_")) ≠ word ++ "_"
  selfModule : moduleName (escape "Self") = fieldName "Self"

/-- The tables are closed, and all that is said of them is found by reading them. -/
theorem keywordTables : KeywordTables := by
  constructor <;> decide +kernel

theorem escape_of_mem_keywords {name : String} (h : name ∈ keywords) :
    escape name = "r#" ++ name := if_pos h

theorem escape_of_mem_pathKeywords {name : String} (h : name ∈ pathKeywords) :
    escape name = name ++ "_" := by
  rw [escape, if_neg (keywordTables.apart name h), if_pos h]

theorem escape_of_notMem {name : String} (h : name ∉ keywords) (hpath : name ∉ pathKeywords) :
    escape name = name := by
  rw [escape, if_neg h, if_neg hpath]

theorem exists_legal_escape {name : String} (h : isPlainName name.toList = true) :
    ∃ ident, Ident.ofString? (escape name) = some ident ∧ ident.Legal := by
  by_cases hkeyword : name ∈ keywords
  · obtain ⟨hnever, hpath⟩ := keywordTables.raw name hkeyword
    rw [escape_of_mem_keywords hkeyword]
    exact ⟨_, Ident.ofString?_raw h hnever, Ident.legal_of_isPlainName h fun _ => ⟨rfl, hpath⟩⟩
  · by_cases hpath : name ∈ pathKeywords
    · obtain ⟨hplain, -, hfree⟩ := keywordTables.suffixed name hpath
      rw [escape_of_mem_pathKeywords hpath]
      exact ⟨_, Ident.ofString?_of_isPlainName hplain,
        Ident.legal_of_isPlainName hplain fun hmem => absurd hmem hfree⟩
    · rw [escape_of_notMem hkeyword hpath]
      refine ⟨_, Ident.ofString?_of_isPlainName h, Ident.legal_of_isPlainName h fun hmem => ?_⟩
      exact absurd (keywordTables.covered name hmem) (not_or.2 ⟨hkeyword, hpath⟩)

/-- The mark of raw identifiers tells nothing that the name does not tell. -/
theorem escape_of_ofString? {name : String} {ident : Ident} (hhash : '#' ∉ name.toList)
    (h : Ident.ofString? (escape name) = some ident) :
    escape name = if ident.name ∈ keywords then "r#" ++ ident.name else ident.name := by
  by_cases hkeyword : name ∈ keywords
  · rw [escape_of_mem_keywords hkeyword] at h ⊢
    rw [Ident.eq_of_ofString?_raw h, if_pos hkeyword]
  · by_cases hpath : name ∈ pathKeywords
    · obtain ⟨hplain, hnot, -⟩ := keywordTables.suffixed name hpath
      rw [escape_of_mem_pathKeywords hpath] at h ⊢
      rw [Ident.eq_of_ofString? h (Ident.hash_notMem_of_isPlainName hplain), if_neg hnot]
    · rw [escape_of_notMem hkeyword hpath] at h ⊢
      rw [Ident.eq_of_ofString? h hhash, if_neg hkeyword]

theorem unescape_escape {name : String} (hhash : '#' ∉ name.toList)
    (hsuffixed : ∀ word ∈ pathKeywords, word ++ "_" ≠ name) : unescape (escape name) = name := by
  by_cases hkeyword : name ∈ keywords
  · have hdrop : dropStart? "r#".toList ("r#" ++ name).toList = some name.toList :=
      dropStart?_eq_some_iff.2 String.toList_append
    rw [escape_of_mem_keywords hkeyword, unescape, hdrop]
    exact String.ofList_toList
  · by_cases hpath : name ∈ pathKeywords
    · rw [escape_of_mem_pathKeywords hpath]
      exact keywordTables.unescaped name hpath
    · have hnone : pathKeywords.find? (fun word => word ++ "_" = name) = none := by
        rw [List.find?_eq_none]
        intro word hword
        simpa using hsuffixed word hword
      rw [escape_of_notMem hkeyword hpath, unescape, dropStart?_raw hhash, hnone]
      rfl

end Escape

section Field

theorem exists_legal_fieldName {name : String} (h : isPlainName name.toList = true) :
    ∃ ident, Ident.ofString? (fieldName name) = some ident ∧ ident.Legal := by
  refine exists_legal_escape ?_
  rw [toSnake, String.toList_ofList]
  exact isPlainName_snakeFrom h

theorem hash_notMem_toSnake {name : String} (h : '#' ∉ name.toList) :
    '#' ∉ (toSnake name).toList := by
  rw [toSnake, String.toList_ofList]
  exact hash_notMem_snakeFrom none h

end Field

section Pascal

/-- In Pascal case a name is a legal identifier, though no keyword is escaped, unless it comes out
as the only one with a capital. -/
theorem ofString?_toPascal {name : String} (h : isPlainName name.toList = true) :
    Ident.ofString? (toPascal name) = some ⟨false, toPascal name⟩ := by
  have hpascal := isPascalName_pascalFrom h
  rw [← toList_toPascal] at hpascal
  exact Ident.ofString?_of_isPlainName (isPlainName_of_isPascalName hpascal)

theorem eq_self_of_isPascalName {name : String} (h : isPascalName name.toList = true)
    (hmem : name ∈ Ident.strictKeywords ++ Ident.reservedKeywords) : name = "Self" := by
  obtain hkeyword | hpath := keywordTables.covered name hmem
  · rw [keywordTables.small name hkeyword] at h
    cases h
  · exact keywordTables.capital name hpath h

theorem legal_toPascal_iff {name : String} (h : isPlainName name.toList = true) :
    Ident.Legal ⟨false, toPascal name⟩ ↔ ¬ IsSelf name := by
  have hpascal := isPascalName_pascalFrom h
  rw [← toList_toPascal] at hpascal
  rw [← toPascal_eq_self_iff h]
  constructor
  · intro hlegal hself
    have hkeyword : toPascal name ∈ Ident.strictKeywords ++ Ident.reservedKeywords := by
      rw [hself]
      simp [Ident.strictKeywords]
    exact absurd (hlegal.keyword hkeyword).1 Bool.false_ne_true
  · intro hself
    refine Ident.legal_of_isPlainName (isPlainName_of_isPascalName hpascal) fun hmem => ?_
    exact absurd (eq_self_of_isPascalName hpascal hmem) hself

end Pascal

section TypeName

/-- The name of a type before keywords are escaped. -/
def flatName (name package : String) : String :=
  String.join ((segments (relativeName name package)).map (toPascal ∘ String.ofList))

theorem typeName_eq (name package : String) :
    typeName name package = escape (flatName name package) := rfl

theorem isPascalName_append {first second : List Char} (hfirst : isPascalName first = true)
    (hsecond : second.all Char.isAlphanum = true) : isPascalName (first ++ second) = true := by
  cases first with
  | nil => cases hfirst
  | cons c cs =>
    rw [isPascalName, Bool.and_eq_true] at hfirst
    rw [List.cons_append, isPascalName, List.all_append, hfirst.1, hfirst.2, hsecond]
    rfl

theorem all_flatMap_pascalFrom {parts : List (List Char)}
    (h : ∀ part ∈ parts, isPlainName part = true) :
    (parts.flatMap (pascalFrom true)).all Char.isAlphanum = true := by
  rw [List.all_flatMap, List.all_eq_true]
  intro part hpart
  exact all_pascalFrom true (all_isNameChar_of_isPlainName (h part hpart))

theorem isPascalName_flatName {name package : String}
    (h : ∀ segment ∈ segments name, isPlainName segment = true) :
    isPascalName (flatName name package).toList = true := by
  have hparts : ∀ part ∈ segments (relativeName name package), isPlainName part = true :=
    fun part hpart => h part (mem_segments hpart)
  have hletters : (flatName name package).toList =
      (segments (relativeName name package)).flatMap (pascalFrom true) := by
    rw [flatName, String.toList_join, List.flatMap_map]
    congr 1
    funext part
    rw [Function.comp, toList_toPascal, String.toList_ofList]
  rw [hletters]
  cases hsplit : segments (relativeName name package) with
  | nil => exact absurd hsplit (splitAt_ne_nil _ _)
  | cons part parts =>
    rw [hsplit, List.forall_mem_cons] at hparts
    rw [List.flatMap_cons]
    exact isPascalName_append (isPascalName_pascalFrom hparts.1) (all_flatMap_pascalFrom hparts.2)

theorem exists_legal_typeName {name package : String}
    (h : ∀ segment ∈ segments name, isPlainName segment = true) :
    ∃ ident, Ident.ofString? (typeName name package) = some ident ∧ ident.Legal := by
  rw [typeName_eq]
  exact exists_legal_escape (isPlainName_of_isPascalName (isPascalName_flatName h))

end TypeName

section Module

theorem dropRaw_of_isPascalName {cs : List Char} (h : isPascalName cs = true) :
    dropRaw cs = cs := by
  unfold dropRaw
  split
  · exact absurd h (by simp [isPascalName])
  · rfl

theorem dropWhile_underscore {cs : List Char} (h : ∀ c ∈ cs, c.isAlphanum = true) :
    cs.dropWhile (· = '_') = cs := by
  cases cs with
  | nil => rfl
  | cons c cs =>
    have hne := ne_underscore (h c List.mem_cons_self)
    rw [List.dropWhile_cons, if_neg (by simpa using hne)]

/-- Nothing is trimmed off a name in letters and digits that starts with a capital. -/
theorem moduleName_of_isPascalName {name : String} (h : isPascalName name.toList = true) :
    moduleName name = fieldName name := by
  have htrimmed : name.toList.reverse.dropWhile (· = '_') = name.toList.reverse := by
    refine dropWhile_underscore fun c hc => ?_
    exact List.all_eq_true.1 (all_isAlphanum_of_isPascalName h) c (List.mem_reverse.1 hc)
  rw [moduleName, dropRaw_of_isPascalName h, htrimmed, List.reverse_reverse, String.ofList_toList]

/-- The module of a type is named for the type before keywords are escaped. -/
theorem moduleName_escape {name : String} (h : isPascalName name.toList = true) :
    moduleName (escape name) = fieldName name := by
  by_cases hmem : name ∈ keywords
  · rw [keywordTables.small name hmem] at h
    cases h
  · by_cases hself : name ∈ pathKeywords
    · rw [keywordTables.capital name hself h]
      exact keywordTables.selfModule
    · rw [escape_of_notMem hmem hself, moduleName_of_isPascalName h]

theorem exists_legal_moduleName {name package : String}
    (h : ∀ segment ∈ segments name, isPlainName segment = true) :
    ∃ ident, Ident.ofString? (moduleName (typeName name package)) = some ident ∧ ident.Legal := by
  have hflat : isPascalName (flatName name package).toList = true := isPascalName_flatName h
  rw [typeName_eq, moduleName_escape hflat]
  exact exists_legal_fieldName (isPlainName_of_isPascalName hflat)

/-- Types whose words are told apart by capitals have modules of their own. -/
theorem moduleName_inj {first second : String} (hfirst : IsCamel first) (hsecond : IsCamel second)
    (h : moduleName first = moduleName second) : first = second := by
  have hback {name : String} (hname : IsCamel name) :
      toPascal (unescape (moduleName name)) = name := by
    have hpascal := isPascalName_of_isCamel hname
    have hhash := Ident.hash_notMem_of_isPlainName (isPlainName_of_isPascalName hpascal)
    have hsuffixed : ∀ word ∈ pathKeywords, word ++ "_" ≠ toSnake name := by
      intro word hword heq
      have hsame : toPascal (word ++ "_") = name := by rw [heq, toPascal_toSnake hname]
      exact keywordTables.notCamel word hword (by rw [hsame, heq])
    rw [moduleName_of_isPascalName hpascal, fieldName,
      unescape_escape (hash_notMem_toSnake hhash) hsuffixed, toPascal_toSnake hname]
  rw [← hback hfirst, ← hback hsecond, h]

end Module

end ProtoPlan.Code
