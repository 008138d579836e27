import ProtoPlan.Code.Ident
import ProtoPlan.Code.Literal
import ProtoPlan.Code.Token

/-!
Source text as lexemes: names, lifetimes, literals, punctuation and bracketed groups. Blanks and
comments separate lexemes and are dropped; comments that document something are no part of the
texts that are read here, and are refused.
-/

namespace ProtoPlan.Code

open Text

inductive Lexeme where
  | ident (ident : Ident)
  | lifetime (ident : Ident)
  | literal (text : String)
  /-- A punctuation character. It is `joint` if another one follows at once. -/
  | punct (char : Char) (joint : Bool)
  | group (bracket : Bracket) (inner : List Lexeme)

namespace Lexeme

/-- A piece of text before groups are formed. -/
inductive Mark where
  | blank
  | leaf (lexeme : Lexeme)
  | opening (bracket : Bracket)
  | closing (bracket : Bracket)

/-- Blanks between lexemes: white space, and the marks of writing direction. -/
def isBlank (c : Char) : Bool :=
  c.toNat ∈ [9, 10, 11, 12, 13, 32, 0x85, 0xA0, 0x1680, 0x2028, 0x2029, 0x202F, 0x205F, 0x3000,
    0x200E, 0x200F] || (0x2000 ≤ c.toNat && c.toNat ≤ 0x200A)

/-- Whether a comment begins here. -/
def startsComment : List Char → Bool
  | '/' :: '/' :: _ | '/' :: '*' :: _ => true
  | _ => false

/-- Whether a punctuation character stands in front, and no comment begins there. -/
def startsPunct : List Char → Bool
  | [] => false
  | c :: cs => c ∈ "~!@#$%^&*-=+|;:,<.>/?'".toList && !startsComment (c :: cs)

/-- The characters of a block comment, in which others may be nested, as far as the end of the
outermost. -/
def blockLength (depth : Nat) : List Char → Option Nat
  | '/' :: '*' :: cs => (blockLength (depth + 1) cs).map (· + 2)
  | '*' :: '/' :: cs =>
    if depth = 1 then some 2 else (blockLength (depth - 1) cs).map (· + 2)
  | _ :: cs => (blockLength depth cs).map (· + 1)
  | [] => none

/-- The characters of the comment in front. -/
def commentLength (cs : List Char) : Option Nat :=
  match cs with
  | '/' :: '/' :: '/' :: '/' :: _ => some line
  | '/' :: '/' :: '/' :: _ | '/' :: '/' :: '!' :: _ => none
  | '/' :: '/' :: _ => some line
  | '/' :: '*' :: '*' :: '/' :: _ => some 4
  | '/' :: '*' :: '*' :: '*' :: _ => blockLength 0 cs
  | '/' :: '*' :: '*' :: _ | '/' :: '*' :: '!' :: _ => none
  | '/' :: '*' :: _ => blockLength 0 cs
  | _ => none
where
  line : Nat := (cs.takeWhile (· ≠ '\n')).length

/-- The characters of the identifier in front, with the mark of a raw one. -/
def identLength : List Char → Nat
  | 'r' :: '#' :: cs =>
    match Literal.nameLength cs with
    | 0 => 0
    | n => n + 2
  | cs => Literal.nameLength cs

/-- The identifier in front, and its characters. -/
def identAt? (cs : List Char) : Option (Ident × Nat) :=
  let n := identLength cs
  (Ident.ofString? (String.ofList (cs.take n))).map (·, n)

/-- What an identifier may not begin with: a quoted literal that is not closed. -/
def isBrokenLiteral (cs : List Char) : Bool :=
  ["r\"", "r#\"", "r##", "b\"", "b'", "br\"", "br#", "c\"", "cr\"", "cr#"].any fun start =>
    start.toList.isPrefixOf cs

/-- The lexeme in front, and its characters. A single quote that closes no character begins a
lifetime. -/
def leafAt? (cs : List Char) : Option (Lexeme × Nat) :=
  match Literal.length? cs, cs with
  | some n, _ => some (.literal (String.ofList (cs.take n)), n)
  | none, '\'' :: rest => do
    let (name, n) ← identAt? rest
    let next := (rest.drop n).head?
    if next = some '\'' || (next = some '#' && !name.raw) then none
    else some (.lifetime name, n + 1)
  | none, c :: rest =>
    if startsPunct cs then some (.punct c (startsPunct rest), 1)
    else if isBrokenLiteral cs then none
    else (identAt? cs).map fun (name, n) => (.ident name, n)
  | none, [] => none

/-- The piece in front, and its characters. -/
def markAt? (cs : List Char) : Option (Mark × Nat) :=
  match cs with
  | [] => none
  | c :: _ =>
    if isBlank c then some (.blank, 1)
    else if startsComment cs then (commentLength cs).map (.blank, ·)
    else
      match c with
      | '(' => some (.opening .paren, 1)
      | ')' => some (.closing .paren, 1)
      | '[' => some (.opening .square, 1)
      | ']' => some (.closing .square, 1)
      | '\x7b' => some (.opening .brace, 1)
      | '\x7d' => some (.closing .brace, 1)
      | _ => (leafAt? cs).map fun (lexeme, n) => (.leaf lexeme, n)

/-- The pieces of a text. Each has a character at least. -/
def marks (cs : List Char) : Option (List Mark) :=
  if cs.isEmpty then some []
  else
    match markAt? cs with
    | none => none
    | some (mark, n) =>
      if _ : (cs.drop n).length < cs.length then (marks (cs.drop n)).map (mark :: ·) else none
termination_by cs.length
decreasing_by assumption

/-- Forms groups. `before` holds what was read in the group at hand, last first, and `outer` the
groups around it with what was read of them. -/
def nest (outer : List (Bracket × List Lexeme)) (before : List Lexeme) :
    List Mark → Option (List Lexeme)
  | [] => if outer.isEmpty then some before.reverse else none
  | .blank :: ms => nest outer before ms
  | .leaf lexeme :: ms => nest outer (lexeme :: before) ms
  | .opening bracket :: ms => nest ((bracket, before) :: outer) [] ms
  | .closing bracket :: ms =>
    match outer with
    | [] => none
    | (opened, beforeGroup) :: outer =>
      if opened = bracket then nest outer (.group bracket before.reverse :: beforeGroup) ms
      else none

/-- The lexemes of a text, which may begin with the mark of its byte order. -/
def ofString? (text : String) : Option (List Lexeme) := do
  let cs :=
    match text.toList with
    | '\uFEFF' :: cs => cs
    | cs => cs
  nest [] [] (← marks cs)

/-- Whether nothing separates the lexeme from the next. -/
def isJoint : Lexeme → Bool
  | punct _ joint => joint
  | _ => false

mutual

/-- The lexeme as code. -/
def token : Lexeme → Token
  | ident i => .word i.text
  | lifetime i => .word ("'" ++ i.text)
  | literal text => .word text
  | punct c _ => .word c.toString
  | group bracket inner => .group bracket (tokens inner)

/-- Lexemes as code, as they stand: joint punctuation is one word with what follows it. -/
def tokens : List Lexeme → Tokens
  | [] => []
  | lexeme :: rest =>
    match lexeme.isJoint, lexeme.token, tokens rest with
    | true, .word a, .word b :: rest => .word (a ++ b) :: rest
    | _, token, rest => token :: rest

end

end Lexeme

end ProtoPlan.Code
