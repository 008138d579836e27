import ProtoPlan.Text.Letter

/-!
Strings between double quotes. Quotes, backslashes and line breaks are escaped by a letter, what
does not show by its number; a single quote stands as it is.
-/

namespace ProtoPlan.Text

/-- A character as it is written in a quoted string. -/
def escapeChar (c : Char) : List Char :=
  if c = '"' then ['\\', '"']
  else if c = '\\' then ['\\', '\\']
  else if c = '\n' then ['\\', 'n']
  else if c = '\t' then ['\\', 't']
  else if c = '\r' then ['\\', 'r']
  else if c = '\x00' then ['\\', '0']
  else if isPrintable c then [c]
  else "\\u\x7b".toList ++ Nat.toDigits 16 c.toNat ++ ['\x7d']

/-- `s` between quotes. -/
def quote (s : String) : String :=
  String.ofList ('"' :: s.toList.flatMap escapeChar ++ ['"'])

/-- The escapes of a literal: as in quotes, but a NUL before an octal digit is written by its
number, lest the two be read as one escape. -/
def escapeLiteral : List Char → List Char
  | [] => []
  | c :: cs =>
    let octalNext := cs.head?.any fun d => '0' ≤ d && d ≤ '7'
    (if c = '\x00' && octalNext then "\\x00".toList else escapeChar c) ++ escapeLiteral cs

/-- `s` as a string literal of source code. -/
def literal (s : String) : String :=
  String.ofList ('"' :: escapeLiteral s.toList ++ ['"'])

end ProtoPlan.Text
