import ProtoPlan.Code.Name

/-!
Identifiers of generated code.
-/

namespace ProtoPlan.Code

open Text

/-- An identifier. A raw one may be spelled like a keyword. -/
structure Ident where
  raw : Bool
  name : String
  deriving DecidableEq, Repr

namespace Ident

/-- Whether the letters spell an identifier, be it a keyword. -/
def isSpelling : List Char → Bool
  | [] => false
  | c :: cs => isIdentStart c && cs.all isIdentMore

/-- Names with no raw form. -/
def neverRaw : List String := "_" :: pathKeywords

/-- The identifier written `text`; `r#` in front makes it raw. -/
def ofString? (text : String) : Option Ident :=
  match dropStart? "r#".toList text.toList with
  | some name =>
    if isSpelling name && !(neverRaw.contains (String.ofList name)) then
      some ⟨true, String.ofList name⟩
    else none
  | none => if isSpelling text.toList then some ⟨false, text⟩ else none

def text (ident : Ident) : String :=
  if ident.raw then "r#" ++ ident.name else ident.name

end Ident

end ProtoPlan.Code
