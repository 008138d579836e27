import ProtoPlan.Code.Lexeme

/-!
Reading lexemes in order: each reader takes some from the front, fails if they are not there, and
yields code.
-/

namespace ProtoPlan.Code

abbrev Parser (α : Type) := StateT (List Lexeme) Option α

/-- What follows the punctuation of that spelling. Only its last character may be apart from what
follows. -/
def afterPunct? : (spelling : List Char) → List Lexeme → Option (List Lexeme)
  | [c], .punct d _ :: rest => if c = d then some rest else none
  | c :: cs, .punct d true :: rest => if c = d then afterPunct? cs rest else none
  | _, _ => none

/-- Whether the lexemes begin with the punctuation of that spelling. -/
def atPunct (spelling : String) (ls : List Lexeme) : Bool :=
  (afterPunct? spelling.toList ls).isSome

/-- Whether the lexemes begin with the punctuation of a spelling before something else. -/
def atPunctThen (spelling : String) (next : List Lexeme → Bool) (ls : List Lexeme) : Bool :=
  (afterPunct? spelling.toList ls).any next

/-- Whether the lexemes begin with a word that is no raw identifier. -/
def atWord (name : String) : List Lexeme → Bool
  | .ident i :: _ => i = ⟨false, name⟩
  | _ => false

/-- Whether the lexemes begin with any word. -/
def atAnyWord : List Lexeme → Bool
  | .ident _ :: _ => true
  | _ => false

def atLifetime : List Lexeme → Bool
  | .lifetime _ :: _ => true
  | _ => false

def atGroup (bracket : Bracket) : List Lexeme → Bool
  | .group b _ :: _ => b = bracket
  | _ => false

/-- A word that has a meaning of its own, and names something only in its raw form. -/
def Ident.isReserved (ident : Ident) : Bool :=
  !ident.raw && (ident.name = "_" || ident.name ∈ pathKeywords ||
    (ident.name ∈ keywords && ident.name ≠ "gen"))

/-- Whether the lexemes begin with a name. -/
def atName : List Lexeme → Bool
  | .ident i :: _ => !i.isReserved
  | _ => false

/-- Whether the lexemes begin with a literal; truth values are, and numbers with a minus sign. -/
def atLiteral : List Lexeme → Bool
  | .literal _ :: _ => true
  | .ident i :: _ => i = ⟨false, "true"⟩ || i = ⟨false, "false"⟩
  | .punct '-' _ :: .literal text :: _ => text.toList.head?.any Char.isDigit
  | _ => false

namespace Parser

/-- Whether the lexemes ahead pass a test. -/
def sees (test : List Lexeme → Bool) : Parser Bool := return test (← get)

/-- The first lexeme, if it passes a test. -/
def anyWhere (test : List Lexeme → Bool) : Parser Lexeme := do
  match ← get with
  | lexeme :: rest =>
    if test (lexeme :: rest) then
      set rest
      return lexeme
    else failure
  | [] => failure

/-- The first lexeme as it stands, if it passes a test. -/
def one (test : List Lexeme → Bool) : Parser Tokens := return [(← anyWhere test).token]

def punct (spelling : String) : Parser Tokens := do
  match afterPunct? spelling.toList (← get) with
  | some rest =>
    set rest
    return word spelling
  | none => failure

def reserved (name : String) : Parser Tokens := one (atWord name)

/-- What `body` reads if the lexemes ahead pass a test, else nothing. -/
def ifSees (test : List Lexeme → Bool) (body : Parser Tokens) : Parser Tokens := do
  if ← sees test then body else return []

/-- The punctuation of that spelling, if it is there. -/
def punct? (spelling : String) : Parser Tokens := ifSees (atPunct spelling) (punct spelling)

def reserved? (name : String) : Parser Tokens := ifSees (atWord name) (reserved name)

/-- Any word, be it a name or reserved. -/
def anyIdent : Parser Ident := do
  match ← anyWhere atAnyWord with
  | .ident i => return i
  | _ => failure

/-- A group of which `body` reads all. -/
def inGroup (bracket : Bracket) (body : Parser α) : Parser α := do
  match ← anyWhere (atGroup bracket) with
  | .group _ inner =>
    match body inner with
    | some (a, []) => return a
    | _ => failure
  | _ => failure

/-- Any group as it stands. -/
def anyGroup : Parser Tokens := one fun
  | .group .. :: _ => true
  | _ => false

/-- Items with commas between them, and perhaps one after the last, as far as the lexemes go. -/
def commaList (item : Parser Tokens) : Parser Tokens := do
  go (← get).length
where
  go : Nat → Parser Tokens
    | 0 => return []
    | n + 1 => do
      if (← get).isEmpty then return []
      let first ← item
      if (← get).isEmpty then return first
      let comma ← punct ","
      return first ++ comma ++ (← go n)

/-- Reads a whole text. -/
def run? (body : Parser α) (ls : List Lexeme) : Option α :=
  match body ls with
  | some (a, []) => some a
  | _ => none

end Parser

end ProtoPlan.Code
