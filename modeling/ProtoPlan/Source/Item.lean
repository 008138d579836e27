import ProtoPlan.Source.Decoder

/-!
Source code of a message: a struct, a module with an enum for each oneof, and the decoder. The
struct and the enums are declarations before they are code, so that the names they declare can be
told.
-/

namespace ProtoPlan.Source

open Code

/-- A field of a struct or a variant of an enum: a name and the type of its value. -/
structure Member where
  ident : Ident
  type : Tokens

/-- The enum of a oneof. -/
structure OneofEnum where
  oneof : String
  ident : Ident
  variants : List Member

/-- All that is generated for a message. -/
structure MessageItems where
  message : String
  ident : Ident
  fields : List Member
  /-- The module of the oneofs. It is left out if there are none. -/
  oneofModule : Ident
  oneofs : List OneofEnum
  decoder : Tokens
  /-- The configured paths that stand in the place of types. -/
  types : List Path
  /-- Those that also stand in expressions. -/
  expressions : List Path

/-- Adds a variant to the enum of a oneof, after those it has. -/
def addVariant (oneof : String) (variant : Member) : List OneofEnum → List OneofEnum
  | [] => []
  | e :: rest =>
    if e.oneof = oneof then { e with variants := e.variants ++ [variant] } :: rest
    else e :: addVariant oneof variant rest

/-- The type of a struct field that is in no oneof, around the type of its values. -/
def fieldType (store : Store) (value : Tokens) : Tokens :=
  match store with
  | .set => value
  | .setOptional => optional value
  | .merge isBoxed => if isBoxed then optionalBoxed value else optional value
  | .append => list value
  | .select .. => value

/-- Adds what a rule declares to the struct fields and the oneofs declared so far. A oneof has one
struct field, at its first member. -/
def declare (oneofModule : Ident) (declared : List Member × List OneofEnum) (rule : Rule) :
    Except PlanError (List Member × List OneofEnum) := do
  let (fields, oneofs) := declared
  match rule with
  | .field rule =>
    let field ← ident rule.fieldName
    let value ← valueType rule.read
    match rule.store with
    | .select oneof variant isBoxed =>
      let variant : Member :=
        { ident := ← ident variant, type := if isBoxed then boxed value else value }
      if oneofs.any (·.oneof = oneof) then return (fields, addVariant oneof variant oneofs)
      else
        let field ← ident (fieldName oneof)
        let enum ← ident (Text.toPascal oneof)
        let type := optional (name oneofModule ++ word "::" ++ name enum)
        return (fields ++ [⟨field, type⟩], oneofs ++ [⟨oneof, enum, [variant]⟩])
    | store => return (fields ++ [⟨field, fieldType store value⟩], oneofs)
  | .map rule =>
    let field ← ident rule.fieldName
    let key ← valueType rule.key.read
    let value ← valueType rule.value.read
    let type := applied ":: std :: collections :: BTreeMap" (key ++ word "," ++ value)
    return (fields ++ [⟨field, type⟩], oneofs)

/-- The struct fields that hold what no rule claims. -/
def storeFields (scope : Scope) (plan : Plan) : List Member :=
  (if plan.preserveUnknown then [⟨⟨false, "unknown_fields"⟩, list (word "u8")⟩] else []) ++
  (if plan.hasExtensions then [⟨⟨false, "extensions"⟩, runtime scope ":: Extensions"⟩] else [])

/-- The paths of the messages that a rule reads. -/
def messagePaths (rule : Rule) : Except PlanError (List Path) :=
  let reads :=
    match rule with
    | .field rule => [rule.read]
    | .map rule => [rule.key.read, rule.value.read]
  reads.filterMapM fun
    | .message target => return some (← typePath target)
    | _ => return none

namespace MessageItems

/-- As soon as there is a rule, the runtime is named in expressions too. -/
def ofPlan (scope : Scope) (plan : Plan) : Except PlanError MessageItems := do
  let type ← Source.ident plan.typeName
  let oneofModule ← Source.ident (moduleName plan.typeName)
  let (fields, oneofs) ← plan.rules.foldlM (declare oneofModule) ([], [])
  let decoder ← Source.decoder scope plan
  let paths := [scope.runtime, scope.errorType]
  let messages ← plan.rules.mapM messagePaths
  return {
    message := plan.message
    ident := type
    fields := fields ++ storeFields scope plan
    oneofModule, oneofs, decoder
    types := paths ++ messages.flatten
    expressions := if plan.rules.isEmpty then [] else paths }

/-- A list of derived traits. -/
def derive (traits : String) : Tokens :=
  word "#" ++ square (word "derive" ++ paren (words traits))

def enumTokens (e : OneofEnum) : Tokens :=
  derive "Debug , Clone , PartialEq" ++ words "pub enum" ++ name e.ident ++
    brace (e.variants.flatMap fun v => name v.ident ++ paren v.type ++ word ",")

def oneofTokens (items : MessageItems) : Tokens :=
  if items.oneofs.isEmpty then []
  else words "pub mod" ++ name items.oneofModule ++
    brace (word "#" ++ square (words "allow (unused_imports)") ++ words "use super :: * ;" ++
      items.oneofs.flatMap enumTokens)

def tokens (items : MessageItems) : Tokens :=
  word "#" ++ square (words "doc =" ++ string (" Decoded form of `" ++ items.message ++ "`.")) ++
  derive "Debug , Clone , Default , PartialEq" ++ words "pub struct" ++ name items.ident ++
  brace (items.fields.flatMap fun f =>
    word "pub" ++ name f.ident ++ word ":" ++ f.type ++ word ",") ++
  items.oneofTokens ++ items.decoder

/-- Whether the code can be read back: paths stand only where they may, the underscore names no
field, and `Self` no enum and no variant. -/
def isWellFormed (items : MessageItems) : Bool :=
  items.types.all (·.isType) && items.expressions.all (·.isExpression) &&
  items.fields.all (·.ident ≠ ⟨false, "_"⟩) &&
  items.oneofs.all fun e =>
    e.ident ≠ ⟨false, "Self"⟩ && e.variants.all (·.ident ≠ ⟨false, "Self"⟩)

end MessageItems

end ProtoPlan.Source
