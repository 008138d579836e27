import ProtoPlan.Code.Parser
import ProtoPlan.Code.Path

/-!
The grammar of paths, with the types and expressions that may be their arguments. Readers yield the
code they read; only lifetimes are moved, to the front of the arguments they are among. Types and
paths are covered whole, apart from attributes and what is only proposed; of expressions those of
array lengths and constant arguments are: operators, calls, fields, casts, blocks and conditions.

The readers call each other, so each takes how deep it may go. A text has at most so many lexemes as
characters, and between two lexemes only a few readers are entered.
-/

namespace ProtoPlan.Code

namespace Grammar

open ProtoPlan.Code.Parser

/-- What kind of type was read, as far as its surroundings ask. -/
inductive TypeForm where
  /-- A single name. -/
  | lone
  | path
  /-- A single trait that may be joined to others. -/
  | bound
  /-- A trait that need not hold. -/
  | relaxed
  | paren
  | other
  deriving DecidableEq

/-- An argument between angle brackets, and whether a comma follows. -/
structure Argument where
  isLifetime : Bool
  tokens : Tokens
  comma : Bool

/-- Arguments after what comes before them; `closed` tells that no comma is due. -/
def joinArguments (closed : Bool) : List Argument → Tokens
  | [] => []
  | a :: rest =>
    (if closed then [] else word ",") ++ a.tokens ++ (if a.comma then word "," else []) ++
      joinArguments a.comma rest

/-- Arguments in the order in which they are written: lifetimes first. -/
def orderArguments (arguments : List Argument) : Tokens :=
  let (lifetimes, others) := arguments.partition (·.isLifetime)
  joinArguments true lifetimes ++ joinArguments (lifetimes.getLast?.all (·.comma)) others

/-- An expression that was read. -/
structure Operand where
  tokens : Tokens
  /-- A comparison may not be compared again. -/
  isComparison : Bool := false
  /-- A block ends a statement without a semicolon. -/
  isBlock : Bool := false

/-- The binary operators, those that begin alike from long to short, with how tightly they bind. -/
def operators : List (String × Nat) :=
  [("||", 1), ("&&", 2), ("==", 3), ("!=", 3), ("<=", 3), (">=", 3), ("<<", 7), (">>", 7),
   ("<", 3), (">", 3), ("|", 4), ("^", 5), ("&", 6), ("+", 8), ("-", 8), ("*", 9), ("/", 9),
   ("%", 9)]

/-- How tightly comparisons bind. -/
def comparison : Nat := 3

/-- Whether type arguments begin. -/
def opensArguments (ls : List Lexeme) : Bool :=
  atPunct "<" ls && !atPunct "<=" ls && !atPunct "<<=" ls

/-- Whether parameters begin, perhaps after colons. -/
def opensParameters (ls : List Lexeme) : Bool :=
  atGroup .paren ls || atPunctThen "::" (atGroup .paren) ls

/-- Whether a path may begin. -/
def opensPath (ls : List Lexeme) : Bool :=
  atName ls || ["super", "self", "Self", "crate"].any (atWord · ls) || atPunct "::" ls

/-- Whether another bound may begin. -/
def opensBound (ls : List Lexeme) : Bool :=
  atAnyWord ls || atPunct "::" ls || atPunct "?" ls || atLifetime ls || atGroup .paren ls

/-- A literal; a minus sign is a word of its own. -/
def literal : Parser Tokens := do
  let sign ← punct? "-"
  return sign ++ (← one fun ls => atLiteral ls && !atPunct "-" ls)

/-- Lifetimes that bound another one, as far as a comma or the end of their list. -/
def lifetimeBounds : Nat → Parser Tokens
  | 0 => failure
  | fuel + 1 => do
    if ← sees fun ls => atPunct "," ls || atPunct ">" ls then return []
    let first ← one atLifetime
    if ← sees (atPunct "+") then
      let plus ← punct "+"
      return first ++ plus ++ (← lifetimeBounds fuel)
    return first

/-- Lifetimes with their bounds, as far as the angle bracket that closes them. -/
def lifetimeList : Nat → Parser Tokens
  | 0 => failure
  | fuel + 1 => do
    if ← sees (atPunct ">") then return []
    let mut first ← one atLifetime
    if ← sees (atPunct ":") then
      let colon ← punct ":"
      let bounds ← lifetimeBounds fuel
      if !bounds.isEmpty then first := first ++ colon ++ bounds
    if ← sees (atPunct ">") then return first
    let comma ← punct ","
    return first ++ comma ++ (← lifetimeList fuel)

/-- Lifetimes that stand for any. -/
def anyLifetimes (fuel : Nat) : Parser Tokens :=
  ifSees (atWord "for") do
    return (← reserved "for") ++ (← punct "<") ++ (← lifetimeList fuel) ++ (← punct ">")

mutual

/-- A segment of a path: its name, its code and its arguments. In expressions, colons stand before
arguments. -/
def segment : Nat → Bool → Parser (Ident × Tokens × Arguments)
  | 0, _ => failure
  | fuel + 1, inExpression => do
    let name ← anyIdent
    let tokens := word name.text
    if !name.raw && name.name ∈ ["super", "self", "crate", "try"] then
      return (name, tokens, .none)
    if name.isReserved && name ≠ ⟨false, "Self"⟩ then failure
    if !inExpression && (← sees opensArguments) then
      return (name, tokens ++ (← arguments fuel), .afterName)
    if ← sees (atPunctThen "::" opensArguments) then
      return (name, tokens ++ (← punct "::") ++ (← arguments fuel), .afterColons)
    return (name, tokens, .none)

def path : Nat → Bool → Parser Path
  | 0, _ => failure
  | fuel + 1, inExpression => do
    let colons ← punct? "::"
    let (first, tokens, args) ← segment fuel inExpression
    morePath fuel inExpression
      { tokens := colons ++ tokens, first, absolute := !colons.isEmpty, arguments := [args] }

/-- Further segments of a path. Parentheses after colons are none. -/
def morePath : Nat → Bool → Path → Parser Path
  | 0, _, _ => failure
  | fuel + 1, inExpression, path => do
    if ← sees (atPunctThen "::" fun ls => !atGroup .paren ls) then
      let colons ← punct "::"
      let (_, tokens, args) ← segment fuel inExpression
      morePath fuel inExpression
        { path with
          tokens := path.tokens ++ colons ++ tokens
          arguments := args :: path.arguments }
    else return path

/-- A path from a type between angle brackets, perhaps seen as a trait. -/
def qualifiedPath : Nat → Bool → Parser Tokens
  | 0, _ => failure
  | fuel + 1, inExpression => do
    let opening ← punct "<"
    let (type, _) ← type fuel true
    let trait ← ifSees (atWord "as") do
      return (← reserved "as") ++ (← path fuel false).tokens
    let closing ← punct ">"
    return opening ++ type ++ trait ++ closing ++ (← colonSegments fuel inExpression)

/-- Segments, each after colons, one at least. -/
def colonSegments : Nat → Bool → Parser Tokens
  | 0, _ => failure
  | fuel + 1, inExpression => do
    let colons ← punct "::"
    let (_, tokens, _) ← segment fuel inExpression
    if ← sees (atPunct "::") then
      return colons ++ tokens ++ (← colonSegments fuel inExpression)
    return colons ++ tokens

/-- Arguments between angle brackets. -/
def arguments : Nat → Parser Tokens
  | 0 => failure
  | fuel + 1 => do
    let opening ← punct "<"
    let args ← argumentList fuel
    return opening ++ orderArguments args ++ (← punct ">")

def argumentList : Nat → Parser (List Argument)
  | 0 => failure
  | fuel + 1 => do
    if ← sees (atPunct ">") then return []
    let isLifetime ← sees fun ls => atLifetime ls && !atPunct "+" (ls.drop 1)
    let tokens ← if isLifetime then one atLifetime else argument fuel
    if ← sees (atPunct ">") then return [⟨isLifetime, tokens, false⟩]
    let _ ← punct ","
    return ⟨isLifetime, tokens, true⟩ :: (← argumentList fuel)

/-- An argument that is no lifetime: a type, a constant, or an associated item that is set or
bounded. -/
def argument : Nat → Parser Tokens
  | 0 => failure
  | fuel + 1 => do
    if ← sees fun ls => atLiteral ls || atGroup .brace ls then return ← constant fuel
    let (tokens, form) ← type fuel true
    if form = .lone then
      if ← sees (atPunct "=") then
        let sign ← punct "="
        if ← sees fun ls => atLiteral ls || atGroup .brace ls then
          return tokens ++ sign ++ (← constant fuel)
        return tokens ++ sign ++ (← type fuel true).1
      if ← sees (atPunct ":") then
        return tokens ++ (← punct ":") ++ (← itemBounds fuel)
    return tokens

/-- A constant argument: a literal or a block. -/
def constant : Nat → Parser Tokens
  | 0 => failure
  | fuel + 1 => do
    if ← sees atLiteral then literal else block fuel

/-- Bounds of an associated item, as far as a comma or the end of the arguments. -/
def itemBounds : Nat → Parser Tokens
  | 0 => failure
  | fuel + 1 => do
    if ← sees fun ls => atPunct "," ls || atPunct ">" ls then return []
    let (first, _) ← bound fuel
    if ← sees (atPunct "+") then
      return first ++ (← punct "+") ++ (← itemBounds fuel)
    return first

/-- A bound, and whether it is a trait. -/
def bound : Nat → Parser (Tokens × Bool)
  | 0 => failure
  | fuel + 1 => do
    if ← sees atLifetime then return (← one atLifetime, false)
    if ← sees (atGroup .paren) then
      return (paren (← inGroup .paren (traitBound fuel)), true)
    return (← traitBound fuel, true)

/-- A trait, perhaps relaxed, for any lifetimes, or with parameters. -/
def traitBound : Nat → Parser Tokens
  | 0 => failure
  | fuel + 1 => do
    let early ← anyLifetimes fuel
    let relaxed ← punct? "?"
    let late ← if early.isEmpty && !relaxed.isEmpty then anyLifetimes fuel else pure []
    let path ← path fuel false
    let given ←
      if path.isOpen then ifSees opensParameters do return (← parameters fuel).1 else pure []
    return relaxed ++ early ++ late ++ path.tokens ++ given

/-- Bounds with plus signs between them, and whether one is a trait. Another one is read only if
`joined`. -/
def bounds : Nat → Bool → Parser (Tokens × Bool)
  | 0, _ => failure
  | fuel + 1, joined => do
    let (first, isTrait) ← bound fuel
    if joined && (← sees (atPunct "+")) then
      let plus ← punct "+"
      if ← sees opensBound then
        let (others, anyTrait) ← bounds fuel joined
        return (first ++ plus ++ others, isTrait || anyTrait)
      return (first ++ plus, isTrait)
    return (first, isTrait)

/-- Bounds of which one at least is a trait. -/
def traitBounds : Nat → Bool → Parser Tokens
  | 0, _ => failure
  | fuel + 1, joined => do
    let (tokens, anyTrait) ← bounds fuel joined
    if anyTrait then return tokens else failure

/-- Types of parameters and of the result, and whether a path may go on after them. Colons before
the parameters are dropped. -/
def parameters : Nat → Parser (Tokens × Bool)
  | 0 => failure
  | fuel + 1 => do
    let _ ← punct? "::"
    let inputs ← inGroup .paren (commaList do return (← type fuel true).1)
    let (output, form) ← result fuel
    return (paren inputs ++ output, output.isEmpty || form = .paren)

/-- The type of a result, if one is given. -/
def result : Nat → Parser (Tokens × TypeForm)
  | 0 => failure
  | fuel + 1 => do
    if ← sees (atPunct "->") then
      let arrow ← punct "->"
      let (tokens, form) ← type fuel false
      return (arrow ++ tokens, form)
    return ([], .other)

/-- A type. A trait may be joined to others only if `joined`. -/
def type : Nat → Bool → Parser (Tokens × TypeForm)
  | 0, _ => failure
  | fuel + 1, joined => do
    let lifetimes ← anyLifetimes fuel
    if ← sees fun ls => ["fn", "unsafe", "extern"].any (atWord · ls) then
      return (lifetimes ++ (← function fuel), .other)
    else if ← sees opensPath then pathType fuel lifetimes joined
    else if !lifetimes.isEmpty then failure
    else if ← sees (atPunct "<") then
      return (← qualifiedPath fuel false, .other)
    else if ← sees (atGroup .paren) then parenType fuel joined
    else if ← sees (atWord "dyn") then
      return ((← reserved "dyn") ++ (← traitBounds fuel joined), .other)
    else if ← sees (atWord "impl") then
      return ((← reserved "impl") ++ (← traitBounds fuel joined), .other)
    else if ← sees (atGroup .square) then
      return (square (← inGroup .square (elements fuel)), .other)
    else if ← sees (atPunct "*") then
      let star ← punct "*"
      let access ← one fun ls => atWord "const" ls || atWord "mut" ls
      return (star ++ access ++ (← type fuel false).1, .other)
    else if ← sees (atPunct "&") then
      let sign ← punct "&"
      let lifetime ← ifSees atLifetime (one atLifetime)
      let access ← reserved? "mut"
      return (sign ++ lifetime ++ access ++ (← type fuel false).1, .other)
    else if ← sees (atPunct "!") then return (← punct "!", .other)
    else if ← sees (atWord "_") then return (← reserved "_", .other)
    else if ← sees atLifetime then return (← traitBounds fuel true, .other)
    else failure

/-- A type that is a path, or begins with one: with parameters, invoked, or joined to bounds. -/
def pathType : Nat → Tokens → Bool → Parser (Tokens × TypeForm)
  | 0, _, _ => failure
  | fuel + 1, lifetimes, joined => do
    let path ← withParameters fuel (← path fuel false)
    let tokens := lifetimes ++ path.tokens
    if path.isPlain && (← sees fun ls => atPunct "!" ls && !atPunct "!=" ls) then
      return (tokens ++ (← punct "!") ++ (← anyGroup), .other)
    if joined && (← sees (atPunct "+")) then
      let others ← moreBounds fuel
      return (tokens ++ others, .other)
    if !lifetimes.isEmpty then return (tokens, .bound)
    return (tokens, if path.isLone then .lone else .path)

/-- A path with parameters after its last segment, if they are there. -/
def withParameters : Nat → Path → Parser Path
  | 0, _ => failure
  | fuel + 1, path => do
    if path.isOpen && (← sees opensParameters) then
      let (tokens, goesOn) ← parameters fuel
      let path :=
        { path with
          tokens := path.tokens ++ tokens
          arguments := .parameters :: path.arguments.drop 1 }
      if goesOn then withParameters fuel (← morePath fuel false path) else return path
    else return path

/-- Bounds that are joined to a first one; the plus sign may be the last word. -/
def moreBounds : Nat → Parser Tokens
  | 0 => failure
  | fuel + 1 => do
    let plus ← punct "+"
    if ← sees opensBound then return plus ++ (← bounds fuel true).1
    return plus

/-- What stands between parentheses: nothing, bounds, a relaxed bound, a type or several. -/
def parenContent : Nat → Parser (Tokens × TypeForm)
  | 0 => failure
  | fuel + 1 => do
    if (← get).isEmpty then return ([], .other)
    if ← sees atLifetime then return (← traitBounds fuel true, .paren)
    if ← sees (atPunct "?") then return (← traitBound fuel, .relaxed)
    let (first, form) ← type fuel true
    if ← sees (atPunct ",") then
      let comma ← punct ","
      let others ← commaList do return (← type fuel true).1
      return (first ++ comma ++ others, .other)
    return (first, if form = .lone || form = .path || form = .bound then .bound else .paren)

/-- A type between parentheses, a tuple, or the first of several bounds. -/
def parenType : Nat → Bool → Parser (Tokens × TypeForm)
  | 0, _ => failure
  | fuel + 1, joined => do
    let (inner, form) ← inGroup .paren (parenContent fuel)
    match form with
    | .bound =>
      let others ← if joined then plusBounds fuel else pure []
      return (paren inner ++ others, if others.isEmpty then .paren else .other)
    | .relaxed =>
      let others ← plusBounds fuel
      return (paren inner ++ others, if others.isEmpty then .bound else .other)
    | form => return (paren inner, form)

/-- Bounds, each after a plus sign. -/
def plusBounds : Nat → Parser Tokens
  | 0 => failure
  | fuel + 1 => ifSees (atPunct "+") do
    let plus ← punct "+"
    let (first, _) ← bound fuel
    return plus ++ first ++ (← plusBounds fuel)

/-- A slice, or an array with its length. -/
def elements : Nat → Parser Tokens
  | 0 => failure
  | fuel + 1 => do
    let (item, _) ← type fuel true
    if ← sees (atPunct ";") then
      return item ++ (← punct ";") ++ (← expression fuel 0).tokens
    return item

/-- The type of a function. -/
def function : Nat → Parser Tokens
  | 0 => failure
  | fuel + 1 => do
    let safety ← reserved? "unsafe"
    let convention ← ifSees (atWord "extern") do
      return (← reserved "extern") ++ (← ifSees (fun
        | .literal text :: _ => text.toList.head? = some '"' || text.toList.head? = some 'r'
        | _ => false) literal)
    let keyword ← reserved "fn"
    let inputs ← inGroup .paren (functionInputs fuel)
    return safety ++ convention ++ keyword ++ paren inputs ++ (← result fuel).1

/-- Parameters of a function, which may have names and end in any number more. -/
def functionInputs : Nat → Parser Tokens
  | 0 => failure
  | fuel + 1 => do
    if (← get).isEmpty then return []
    let name ← ifSees (fun ls =>
      (atName ls || atWord "_" ls || atWord "self" ls) && atPunct ":" (ls.drop 1) &&
        !atPunct "::" (ls.drop 1)) do
      let name ← anyIdent
      return word name.text ++ (← punct ":")
    if ← sees (atPunct "...") then return name ++ (← punct "...") ++ (← punct? ",")
    let (first, _) ← type fuel true
    if (← get).isEmpty then return name ++ first
    return name ++ first ++ (← punct ",") ++ (← functionInputs fuel)

/-- An expression whose operators bind at least as tightly as `least`. -/
def expression : Nat → Nat → Parser Operand
  | 0, _ => failure
  | fuel + 1, least => do operations fuel least (← unary fuel)

/-- Operators with their right sides, as far as they bind tightly enough. -/
def operations : Nat → Nat → Operand → Parser Operand
  | 0, _, _ => failure
  | fuel + 1, least, left => do
    if ← sees (atWord "as") then
      let cast ← reserved "as"
      let (type, _) ← type fuel false
      operations fuel least { tokens := left.tokens ++ cast ++ type }
    else
      let ls ← get
      match operators.find? fun (spelling, _) => atPunct spelling ls with
      | none => return left
      | some (spelling, strength) =>
        if strength < least then return left
        if strength = comparison && left.isComparison then failure
        let operator ← punct spelling
        let right ← expression fuel (strength + 1)
        operations fuel least
          { tokens := left.tokens ++ operator ++ right.tokens
            isComparison := strength = comparison }

def unary : Nat → Parser Operand
  | 0 => failure
  | fuel + 1 => do
    if ← sees (atPunct "&") then
      let sign ← punct "&"
      let access ← reserved? "mut"
      return { tokens := sign ++ access ++ (← unary fuel).tokens }
    if ← sees fun ls => ["*", "!", "-"].any (atPunct · ls) then
      let sign ← one fun _ => true
      return { tokens := sign ++ (← unary fuel).tokens }
    postfixes fuel (← atom fuel)

/-- Calls, fields, indices and early returns after an operand. -/
def postfixes : Nat → Operand → Parser Operand
  | 0, _ => failure
  | fuel + 1, operand => do
    if ← sees (atGroup .paren) then
      let args ← inGroup .paren (commaList do return (← expression fuel 0).tokens)
      postfixes fuel { tokens := operand.tokens ++ paren args }
    else if ← sees (atGroup .square) then
      let index ← inGroup .square do return (← expression fuel 0).tokens
      postfixes fuel { tokens := operand.tokens ++ square index }
    else if ← sees (atPunct "?") then
      postfixes fuel { tokens := operand.tokens ++ (← punct "?") }
    else if ← sees fun ls => atPunct "." ls && !atPunct ".." ls then
      let dot ← punct "."
      let member ← member fuel
      postfixes fuel { tokens := operand.tokens ++ dot ++ member }
    else return operand

/-- The field or method after a point. -/
def member : Nat → Parser Tokens
  | 0 => failure
  | fuel + 1 => do
    if ← sees (atWord "await") then return ← reserved "await"
    if ← sees atName then
      let name ← one atName
      let given ← ifSees (atPunctThen "::" (atPunct "<")) do
        return (← punct "::") ++ (← arguments fuel)
      if !given.isEmpty && !(← sees (atGroup .paren)) then failure
      return name ++ given
    one fun
      | .literal text :: _ => text.toList.all Char.isDigit
      | _ => false

/-- An operand without its operators. -/
def atom : Nat → Parser Operand
  | 0 => failure
  | fuel + 1 => do
    if ← sees atLiteral then return { tokens := ← literal }
    if ← sees (atGroup .paren) then
      let inner ← inGroup .paren (commaList do return (← expression fuel 0).tokens)
      return { tokens := paren inner }
    if ← sees (atGroup .square) then
      return { tokens := square (← inGroup .square (items fuel)) }
    if ← sees (atGroup .brace) then return { tokens := ← block fuel, isBlock := true }
    if ← sees (atWord "unsafe") then
      return { tokens := (← reserved "unsafe") ++ (← block fuel), isBlock := true }
    if ← sees (atWord "if") then return { tokens := ← condition fuel, isBlock := true }
    if ← sees (atPunct "<") then return { tokens := ← qualifiedPath fuel true }
    if ← sees fun ls => opensPath ls then
      let path ← path fuel true
      if path.isPlain && (← sees fun ls => atPunct "!" ls && !atPunct "!=" ls) then
        let mark ← punct "!"
        let isBlock ← sees (atGroup .brace)
        return { tokens := path.tokens ++ mark ++ (← anyGroup), isBlock }
      return { tokens := path.tokens }
    failure

/-- The elements of an array, or one and how often it is repeated. -/
def items : Nat → Parser Tokens
  | 0 => failure
  | fuel + 1 => do
    if (← get).isEmpty then return []
    let first ← expression fuel 0
    if (← get).isEmpty then return first.tokens
    if ← sees (atPunct ";") then
      return first.tokens ++ (← punct ";") ++ (← expression fuel 0).tokens
    let comma ← punct ","
    return first.tokens ++ comma ++ (← commaList do return (← expression fuel 0).tokens)

/-- A condition with its blocks. -/
def condition : Nat → Parser Tokens
  | 0 => failure
  | fuel + 1 => do
    let keyword ← reserved "if"
    let test ← expression fuel 0
    let holds ← block fuel
    let fails ← ifSees (atWord "else") do
      let keyword ← reserved "else"
      return keyword ++ (← if ← sees (atWord "if") then condition fuel else block fuel)
    return keyword ++ test.tokens ++ holds ++ fails

def block : Nat → Parser Tokens
  | 0 => failure
  | fuel + 1 => do return brace (← inGroup .brace (statements fuel))

/-- Statements, of which the last one may lack its semicolon. -/
def statements : Nat → Parser Tokens
  | 0 => failure
  | fuel + 1 => do
    if (← get).isEmpty then return []
    if ← sees (atPunct ";") then return (← punct ";") ++ (← statements fuel)
    if ← sees (atWord "let") then
      let keyword ← reserved "let"
      let access ← reserved? "mut"
      let name ← one fun ls => atName ls || atWord "_" ls
      let type ← ifSees (atPunct ":") do return (← punct ":") ++ (← type fuel true).1
      let value ← ifSees (atPunct "=") do
        return (← punct "=") ++ (← expression fuel 0).tokens
      return keyword ++ access ++ name ++ type ++ value ++ (← punct ";") ++ (← statements fuel)
    let first ← expression fuel 0
    if (← get).isEmpty then return first.tokens
    let ending ← if first.isBlock then punct? ";" else punct ";"
    return first.tokens ++ ending ++ (← statements fuel)

end

end Grammar

/-- The path written `text`, if it is one. -/
def Path.ofString? (text : String) : Option Path := do
  Parser.run? (Grammar.path (16 * (text.length + 1)) false) (← Lexeme.ofString? text)

end ProtoPlan.Code
