import ProtoPlan.Text.Letter

/-!
Source code as tokens: words, which are never split, and bracketed groups. The text of a list of
tokens has one space between any two; parentheses and square brackets hug what they hold.
-/

namespace ProtoPlan.Code

inductive Bracket where
  | paren
  | square
  | brace
  deriving DecidableEq, Repr

inductive Token where
  | word (text : String)
  | group (bracket : Bracket) (inner : List Token)

abbrev Tokens := List Token

namespace Token

mutual

def text : Token → String
  | word text => text
  | group .paren inner => "(" ++ textAll inner ++ ")"
  | group .square inner => "[" ++ textAll inner ++ "]"
  | group .brace inner => if inner.isEmpty then "\x7b \x7d" else "\x7b " ++ textAll inner ++ " \x7d"

def textAll : List Token → String
  | [] => ""
  | [token] => token.text
  | token :: rest => token.text ++ " " ++ textAll rest

end

end Token

/-- The text of a piece of code. -/
def Tokens.text (tokens : Tokens) : String := Token.textAll tokens

/-- The words of `text`, which are separated by single spaces. -/
def words (text : String) : Tokens :=
  (Text.splitAt ' ' text.toList).map fun letters => .word (String.ofList letters)

def word (text : String) : Tokens := [.word text]

def paren (inner : Tokens) : Tokens := [.group .paren inner]

def square (inner : Tokens) : Tokens := [.group .square inner]

def brace (inner : Tokens) : Tokens := [.group .brace inner]

end ProtoPlan.Code
