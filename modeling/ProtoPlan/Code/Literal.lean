import ProtoPlan.Text.Letter

/-!
Literals of source code: how many characters the one at the front of a text has. A literal is kept
as it is spelled, so its value is never needed.
-/

namespace ProtoPlan.Code.Literal

open Text

/-- The characters of the name at the front, none if the text does not begin with one. -/
def nameLength : List Char → Nat
  | [] => 0
  | c :: cs => if isIdentStart c then (cs.takeWhile isIdentMore).length + 1 else 0

/-- The value of a hexadecimal digit. -/
def hexDigit? (c : Char) : Option Nat :=
  if c.isDigit then some (c.toNat - '0'.toNat)
  else if 'a' ≤ c && c ≤ 'f' then some (c.toNat - 'a'.toNat + 10)
  else if 'A' ≤ c && c ≤ 'F' then some (c.toNat - 'A'.toNat + 10)
  else none

/-- The rest of an escape by code point, of one digit to six, as far as the closing brace. -/
def codePoint (value digits : Nat) : List Char → Option Nat
  | [] => none
  | c :: cs =>
    if c = '\x7d' then if 0 < digits ∧ value.isValidChar then some 1 else none
    else if c = '_' then if 0 < digits then (codePoint value digits cs).map (· + 1) else none
    else
      match hexDigit? c with
      | some d =>
        if digits < 6 then (codePoint (16 * value + d) (digits + 1) cs).map (· + 1) else none
      | none => none

/-- What follows the backslash of an escape. Only bytes may have all eight bits set, and only
characters are escaped by code point. -/
def escape (bytes : Bool) : List Char → Option Nat
  | 'x' :: high :: low :: _ =>
    let fits := (hexDigit? high).any fun d => bytes || d < 8
    if fits && (hexDigit? low).isSome then some 3 else none
  | 'u' :: '\x7b' :: cs => if bytes then none else (codePoint 0 0 cs).map (· + 2)
  | c :: _ => if c ∈ ['n', 'r', 't', '\\', '0', '\'', '"'] then some 1 else none
  | [] => none

/-- What follows the backslash that ends a line: the line break and the blanks of the next line. -/
def lineBreak : List Char → Option Nat
  | '\n' :: cs => some ((blanks cs) + 1)
  | '\r' :: '\n' :: cs => some ((blanks cs) + 2)
  | _ => none
where
  blanks (cs : List Char) : Nat := (cs.takeWhile (· ∈ [' ', '\t', '\n', '\r'])).length

/-- The rest of a quoted literal, closing quote included. The next `skip` characters belong to an
escape. -/
def quoted (bytes : Bool) (skip : Nat) : List Char → Option Nat
  | [] => none
  | c :: cs =>
    match skip with
    | skip + 1 => (quoted bytes skip cs).map (· + 1)
    | 0 =>
      if c = '"' then some 1
      else if c = '\\' then
        match (escape bytes cs).or (lineBreak cs) with
        | some n => (quoted bytes n cs).map (· + 1)
        | none => none
      else if (bytes && !isAscii c) || (c = '\r' && cs.head? ≠ some '\n') then none
      else (quoted bytes 0 cs).map (· + 1)

/-- The rest of a raw literal, which ends in a quote and `hashes` hashes. -/
def rawEnd (bytes : Bool) (hashes : Nat) : List Char → Option Nat
  | [] => none
  | c :: cs =>
    if c = '"' && (List.replicate hashes '#').isPrefixOf cs then some (hashes + 1)
    else if (bytes && !isAscii c) || (c = '\r' && cs.head? ≠ some '\n') then none
    else (rawEnd bytes hashes cs).map (· + 1)

/-- A raw literal after the letter that makes it raw. -/
def raw (bytes : Bool) (cs : List Char) : Option Nat :=
  let hashes := (cs.takeWhile (· = '#')).length
  match cs.drop hashes with
  | '"' :: rest =>
    if hashes ≤ 255 then (rawEnd bytes hashes rest).map (· + hashes + 1) else none
  | _ => none

/-- The rest of a character between single quotes. -/
def single (bytes : Bool) : List Char → Option Nat
  | '\\' :: cs => do
    let n ← escape bytes cs
    if (cs.drop n).head? = some '\'' then some (n + 2) else none
  | c :: '\'' :: _ => if bytes && !isAscii c then none else some 2
  | _ => none

def isDecimal (c : Char) : Bool := c.isDigit || c == '_'

/-- The digits of an exponent, which may have a sign. -/
def exponent (signed valued : Bool) : List Char → Option Nat
  | [] => if valued then some 0 else none
  | c :: cs =>
    if c = '+' || c = '-' then
      if valued then some 0
      else if signed then none
      else (exponent true valued cs).map (· + 1)
    else if c.isDigit then (exponent signed true cs).map (· + 1)
    else if c = '_' then (exponent signed valued cs).map (· + 1)
    else if valued then some 0
    else none

/-- A number with a point or an exponent, from its first digit on. A point before another one or
before a name is none of the number's. -/
def decimal (cs : List Char) : Option Nat :=
  let whole := (cs.takeWhile isDecimal).length
  match cs.drop whole with
  | [] => none
  | c :: rest =>
    if c = '.' then
      if rest.head?.any fun d => d == '.' || isIdentStart d then none
      else
        let places := (rest.takeWhile isDecimal).length
        some (whole + 1 + places + (power (rest.drop places)).getD 0)
    else (power (c :: rest)).map (whole + ·)
where
  power : List Char → Option Nat
    | c :: cs => if c = 'e' || c = 'E' then (exponent false false cs).map (· + 1) else none
    | [] => none

/-- The digits of a whole number. An underscore may come first only after the mark of a base. -/
def digits (base : Nat) (seen : Bool) : List Char → Option Nat
  | [] => if seen then some 0 else none
  | c :: cs =>
    if c = '_' then
      if !seen && base = 10 then none else (digits base seen cs).map (· + 1)
    else
      match hexDigit? c with
      | some d =>
        if d < base then (digits base true cs).map (· + 1)
        else if c.isDigit || !seen then none
        else some 0
      | none => if seen then some 0 else none

/-- A whole number, from its first digit on. -/
def integer : List Char → Option Nat
  | '0' :: 'x' :: cs => (digits 16 false cs).map (· + 2)
  | '0' :: 'o' :: cs => (digits 8 false cs).map (· + 2)
  | '0' :: 'b' :: cs => (digits 2 false cs).map (· + 2)
  | cs => digits 10 false cs

/-- A number with the name of its type, if it has one. -/
def number (cs : List Char) : Option Nat :=
  ((decimal cs).bind finish).or ((integer cs).bind finish)
where
  finish (n : Nat) : Option Nat :=
    let n := n + nameLength (cs.drop n)
    if (cs.drop n).head?.any isIdentMore then none else some n

/-- The characters of the literal at the front, if there is one. -/
def length? (cs : List Char) : Option Nat :=
  match cs with
  | '"' :: rest => suffixed ((quoted false 0 rest).map (· + 1))
  | '\'' :: rest => suffixed ((single false rest).map (· + 1))
  | 'r' :: rest => suffixed ((raw false rest).map (· + 1))
  | 'b' :: '"' :: rest => suffixed ((quoted true 0 rest).map (· + 2))
  | 'b' :: '\'' :: rest => suffixed ((single true rest).map (· + 2))
  | 'b' :: 'r' :: rest => suffixed ((raw true rest).map (· + 2))
  | 'c' :: '"' :: rest => suffixed ((quoted false 0 rest).map (· + 2))
  | 'c' :: 'r' :: rest => suffixed ((raw false rest).map (· + 2))
  | c :: _ => if c.isDigit then number cs else none
  | [] => none
where
  /-- A name may follow a quoted literal. -/
  suffixed (length : Option Nat) : Option Nat :=
    length.map fun n => n + nameLength (cs.drop n)

end ProtoPlan.Code.Literal
