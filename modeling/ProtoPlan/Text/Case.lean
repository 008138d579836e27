import ProtoPlan.Text.Letter

/-!
Names in snake case and in Pascal case.
-/

namespace ProtoPlan.Text

/-- Whether a word begins at an upper-case letter with `before` and `after` around it: after a
lower-case letter or a digit, and where a run of upper-case letters ends in a lower-case one. -/
def startsWord (before after : Option Char) : Bool :=
  match before with
  | none => false
  | some b =>
    isLowercase b || b.isDigit || (isUppercase b && after.any isLowercase)

/-- The snake-case form of the letters that follow `before`. -/
def snakeFrom (before : Option Char) : List Char → List Char
  | [] => []
  | c :: cs =>
    let form :=
      if !isUppercase c then [c]
      else if startsWord before cs.head? then '_' :: toLowercase c
      else toLowercase c
    form ++ snakeFrom (some c) cs

/-- Lower case, with an underscore before each word but the first. Acronyms stay together. -/
def toSnake (name : String) : String := String.ofList (snakeFrom none name.toList)

/-- A word with its first letter in upper case. -/
def capitalize : List Char → List Char
  | [] => []
  | c :: cs => toUppercase c ++ cs

/-- The words between underscores, each capitalized, without the underscores. -/
def toPascal (name : String) : String :=
  String.ofList ((splitAt '_' name.toList).flatMap capitalize)

end ProtoPlan.Text
