import ProtoPlan.Plan.Scope

/-!
Source code of single values: the type that holds one and the expression that reads one.
-/

namespace ProtoPlan.Source

open Wire Code

/-- The identifier of that spelling. -/
def ident (name : String) : Except PlanError Ident :=
  match Ident.ofString? name with
  | some ident => .ok ident
  | none => .error (.invalidIdentifier name)

/-- The path of a message type. -/
def typePath (target : MessageRef) : Except PlanError Path :=
  match Path.ofString? target.path with
  | some path => .ok path
  | none => .error .malformedCode

def name (ident : Ident) : Tokens := word ident.text

def number (n : Nat) : Tokens := word (toString n)

def string (s : String) : Tokens := word (Text.literal s)

/-- An item of the runtime. -/
def runtime (scope : Scope) (item : String) : Tokens := scope.runtime.tokens ++ words item

/-- `type` with an argument. -/
def applied (type : String) (argument : Tokens) : Tokens :=
  words type ++ word "<" ++ argument ++ word ">"

def optional : Tokens → Tokens := applied ":: core :: option :: Option"

def boxed : Tokens → Tokens := applied ":: std :: boxed :: Box"

def list : Tokens → Tokens := applied ":: std :: vec :: Vec"

/-- An optional box. The template closes both brackets in one. -/
def optionalBoxed (type : Tokens) : Tokens :=
  words ":: core :: option :: Option < :: std :: boxed :: Box <" ++ type ++ word ">>"

/-- The type of numbers of a kind. -/
def scalarType : Scalar → String
  | .bool => "bool"
  | .enum | .int32 | .sint32 | .sfixed32 => "i32"
  | .int64 | .sint64 | .sfixed64 => "i64"
  | .uint32 | .fixed32 => "u32"
  | .uint64 | .fixed64 => "u64"
  | .float => "f32"
  | .double => "f64"

/-- The type of a value that is read. -/
def valueType : Read → Except PlanError Tokens
  | .scalar kind => .ok (word (scalarType kind))
  | .string => .ok (words ":: std :: string :: String")
  | .bytes => .ok (list (word "u8"))
  | .message target => return (← typePath target).tokens

/-- The cursor's read of numbers of a kind. -/
def scalarRead : Scalar → String
  | .bool => "read_bool"
  | .enum | .int32 => "read_int32"
  | .int64 => "read_int64"
  | .uint32 => "read_uint32"
  | .uint64 => "read_uint64"
  | .sint32 => "read_zigzag32"
  | .sint64 => "read_zigzag64"
  | .fixed32 => "read_fixed32"
  | .fixed64 => "read_fixed64"
  | .sfixed32 => "read_sfixed32"
  | .sfixed64 => "read_sfixed64"
  | .float => "read_float"
  | .double => "read_double"

def wireTypeName : WireType → String
  | .varint => "Varint"
  | .fixed64 => "I64"
  | .lengthDelimited => "Len"
  | .startGroup => "SGroup"
  | .endGroup => "EGroup"
  | .fixed32 => "I32"

def wireType (scope : Scope) (w : WireType) : Tokens :=
  runtime scope (":: WireType :: " ++ wireTypeName w)

/-- Takes an instance of `type` from its pool. -/
def acquire (scope : Scope) (type : Tokens) : Tokens :=
  word "<" ++ type ++ word "as" ++ runtime scope ":: Pooled > :: acquire"

/-- A fresh instance of a message type. -/
def fresh (scope : Scope) (target : MessageRef) : Except PlanError Tokens := do
  let type := (← typePath target).tokens
  return if target.pooled then acquire scope type ++ word "()"
    else word "<" ++ type ++ words "as :: core :: default :: Default > :: default ()"

/-- Merges the rest of the cursor `sub` into `into`. Well-known types share one decoder. -/
def merge (scope : Scope) (target : MessageRef) (into : Tokens) : Tokens :=
  runtime scope (if target.origin = .wellKnown then ":: well_known :: merge"
    else ":: DecodeMessage :: merge_from") ++ paren (into ++ words ", & mut sub")

/-- Reads a single value from `cursor`; `field` is named in faults. -/
def readValue (scope : Scope) (cursor field : String) : Read → Except PlanError Tokens
  | .scalar kind => .ok (words (cursor ++ " . " ++ scalarRead kind ++ " () ?"))
  | .string =>
    .ok (words ":: std :: string :: String :: from" ++
      paren (words (cursor ++ " . read_string") ++ paren (string field) ++ word "?"))
  | .bytes => .ok (words (cursor ++ " . read_bytes () ? . to_vec ()"))
  | .message target => do
    let init ← fresh scope target
    return brace (words ("let mut sub = " ++ cursor ++ " . read_nested () ? ; let mut value =") ++
      init ++ word ";" ++ merge scope target (words "& mut value") ++ words "? ; value")

/-- Leaves the decoder because `field` came with another wire type. -/
def mismatch (scope : Scope) (field : String) : Tokens :=
  words "return :: core :: result :: Result :: Err" ++
    paren (scope.errorType.tokens ++ words ":: wire_type_mismatch" ++
      paren (string field ++ words ", wire_type . into_val ()"))

/-- Leaves the decoder unless the wire type is `w`. -/
def expect (scope : Scope) (w : WireType) (field : String) : Tokens :=
  words "if wire_type !=" ++ wireType scope w ++ brace (mismatch scope field ++ word ";")

end ProtoPlan.Source
