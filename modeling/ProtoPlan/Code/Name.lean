import ProtoPlan.Text.Case

/-!
Names of generated Rust items. A name that comes out as a keyword is written as a raw identifier,
and a path keyword, which has no raw form, gets an underscore.
-/

namespace ProtoPlan.Code

open Text

/-- Words that are identifiers only in their raw form. -/
def keywords : List String :=
  ["as", "async", "await", "break", "const", "continue", "dyn", "else", "enum", "extern", "false",
   "fn", "for", "if", "impl", "in", "let", "loop", "match", "mod", "move", "mut", "pub", "ref",
   "return", "static", "struct", "trait", "true", "type", "unsafe", "use", "where", "while",
   "abstract", "become", "box", "do", "final", "gen", "macro", "override", "priv", "try", "typeof",
   "unsized", "virtual", "yield"]

/-- Words that stand for places in a path and are never identifiers. -/
def pathKeywords : List String := ["crate", "self", "Self", "super"]

def escape (name : String) : String :=
  if name ∈ keywords then "r#" ++ name
  else if name ∈ pathKeywords then name ++ "_"
  else name

/-- A full message name without the package in front of it. -/
def relativeName (name package : String) : String :=
  if package = "" then name
  else
    match dropStart? (package ++ ".").toList name.toList with
    | some rest => String.ofList rest
    | none => name

/-- The type of a message: the segments of its name in its package, each in Pascal case, joined. -/
def typeName (name package : String) : String :=
  escape (String.join
    ((splitAt '.' (relativeName name package).toList).map (toPascal ∘ String.ofList)))

/-- The struct field of a message field or a oneof. -/
def fieldName (name : String) : String := escape (toSnake name)

/-- `cs` without any number of `r#` in front. -/
def dropRaw : List Char → List Char
  | 'r' :: '#' :: cs => dropRaw cs
  | cs => cs

/-- The module of a message's oneofs, from the name of its type. -/
def moduleName (typeName : String) : String :=
  fieldName (String.ofList ((dropRaw typeName.toList).reverse.dropWhile (· = '_')).reverse)

/-- The module of a schema, from its package. -/
def packageModule (package : String) : String :=
  if package = "" then "_"
  else "_".intercalate ((splitAt '.' package.toList).map (toSnake ∘ String.ofList))

end ProtoPlan.Code
