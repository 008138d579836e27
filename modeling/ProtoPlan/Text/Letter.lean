import ProtoPlan.Text.CaseTable
import ProtoPlan.Text.IdentifierTable
import ProtoPlan.Text.PrintTable

/-!
Character classes and case mappings. ASCII is told by core's own tests; only the rest is looked up,
so that statements about ASCII need no table.
-/

namespace ProtoPlan.Text

/-- Whether a character lies in one of the ranges, each with its first and last member and the
stride between members. -/
def inRanges (table : List (Nat × Nat × Nat)) (c : Char) : Bool :=
  table.any fun (first, last, stride) =>
    first ≤ c.toNat && c.toNat ≤ last && (c.toNat - first) % stride == 0

/-- The image of a character under mapped ranges: as far from the image of the first member as the
character from the first member. -/
def mapped? (table : List (Nat × Nat × Nat × Nat)) (c : Char) : Option Char :=
  (table.find? fun (first, last, stride, _) =>
    first ≤ c.toNat && c.toNat ≤ last && (c.toNat - first) % stride == 0).map
    fun (first, _, _, image) => Char.ofNat (image + (c.toNat - first))

/-- The case form of a character: several characters, another one, or itself. -/
def caseForm (single : List (Nat × Nat × Nat × Nat)) (several : List (Nat × List Nat)) (c : Char) :
    List Char :=
  match several.lookup c.toNat with
  | some cs => cs.map Char.ofNat
  | none => [(mapped? single c).getD c]

def isAscii (c : Char) : Bool := c.toNat < 128

def isUppercase (c : Char) : Bool :=
  if isAscii c then c.isUpper else inRanges CaseTable.uppercase c

def isLowercase (c : Char) : Bool :=
  if isAscii c then c.isLower else inRanges CaseTable.lowercase c

def toLowercase (c : Char) : List Char :=
  if isAscii c then [c.toLower] else caseForm CaseTable.toLower CaseTable.toLowerSpecial c

def toUppercase (c : Char) : List Char :=
  if isAscii c then [c.toUpper] else caseForm CaseTable.toUpper CaseTable.toUpperSpecial c

/-- Whether an identifier may begin with the character. -/
def isIdentStart (c : Char) : Bool :=
  if isAscii c then c.isAlpha || c == '_' else inRanges IdentifierTable.start c

/-- Whether an identifier may go on with the character. -/
def isIdentMore (c : Char) : Bool :=
  if isAscii c then c.isAlphanum || c == '_' else inRanges IdentifierTable.more c

/-- Whether the character shows as itself wherever it stands. -/
def isPrintable (c : Char) : Bool :=
  if isAscii c then 32 ≤ c.toNat && c.toNat < 127
  else inRanges PrintTable.printable c && !inRanges PrintTable.extending c

/-- The parts between separators, of which there is always one. -/
def splitAt (separator : Char) : List Char → List (List Char)
  | [] => [[]]
  | c :: cs =>
    if c = separator then [] :: splitAt separator cs
    else
      match splitAt separator cs with
      | [] => [[c]]
      | part :: parts => (c :: part) :: parts

/-- `s` without `start` in front, if it is there. -/
def dropStart? (start s : List Char) : Option (List Char) :=
  if start.isPrefixOf s then some (s.drop start.length) else none

end ProtoPlan.Text
