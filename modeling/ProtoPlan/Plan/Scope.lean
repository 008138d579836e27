import ProtoPlan.Code.Grammar
import ProtoPlan.Plan.Basic
import ProtoPlan.Plan.Error
import ProtoPlan.Plan.Options
import ProtoPlan.Schema.WellKnown
import ProtoPlan.WellKnown.Basic

/-!
What the planning of one schema needs to know of it and of the options: the types that fields may
refer to, the fields that lead back to their message, and the paths of the runtime.
-/

namespace ProtoPlan

open Schema WellKnown Code

/-- A type that fields may refer to. -/
structure TypeInfo where
  /-- Path of the type; types of the schema stand in the generated module itself. -/
  path : String
  origin : TypeOrigin
  deriving DecidableEq, Repr

structure Scope where
  options : Options
  /-- Path of the runtime. -/
  runtime : Path
  /-- Path of the runtime's type of decoding faults. -/
  errorType : Path
  /-- The types by full name. -/
  types : SortedMap String TypeInfo
  recursive : List FieldRef

namespace Scope

/-- A type of the runtime's `google.protobuf` package. -/
def runtimeType (options : Options) (name : String) : TypeInfo :=
  ⟨options.runtime ++ "::well_known::" ++ name, .wellKnown⟩

def wellKnownTypes (options : Options) : SortedMap String TypeInfo :=
  WellKnown.messages.foldl
    (fun types m => types.insert m.name (runtimeType options m.shortName)) {}

/-- The messages that get a decoder of their own: all outside `google.protobuf`. -/
def ownMessages (schema : Schema) : List Message :=
  schema.messages.filter fun m => !isWellKnown m.name

/-- Adds the types of `messages`. No two may be generated under one name; `named` tells which
message took a name. -/
def addOwnTypes (package : String) (named : SortedMap String String)
    (types : SortedMap String TypeInfo) :
    List Message → Except PlanError (SortedMap String TypeInfo)
  | [] => .ok types
  | m :: rest =>
    let name := typeName m.name package
    match named.get? name with
    | some first => .error (.typeNameCollision first m.name name)
    | none =>
      addOwnTypes package (named.insert name m.name) (types.insert m.name ⟨name, .schema⟩) rest

/-- Adds the types defined elsewhere, in the place of those of the schema. -/
def addExternTypes (options : Options) (types : SortedMap String TypeInfo) :
    SortedMap String TypeInfo :=
  options.externPaths.entries.foldl
    (fun types (name, path) =>
      if isWellKnown name then types else types.insert name ⟨path, .external⟩) types

def ofSchema (options : Options) (schema : Schema) : Except PlanError Scope := do
  let some runtime := Path.ofString? options.runtime | throw .malformedCode
  let some errorType := Path.ofString? (options.runtime ++ "::DecodeError")
    | throw .malformedCode
  let types ← addOwnTypes schema.package {} (wellKnownTypes options) (ownMessages schema)
  return {
    options, runtime, errorType
    types := addExternTypes options types
    recursive := schema.recursiveFields }

/-- The type of that name. Every name in `google.protobuf` has one: messages that are not decoded
by their fields are kept raw. -/
def type? (scope : Scope) (name : String) : Option TypeInfo :=
  match scope.types.get? name with
  | some info => some info
  | none => if isWellKnown name then some (runtimeType scope.options "RawMessage") else none

/-- Whether the field leads back to its message. -/
def isRecursive (scope : Scope) (message field : String) : Bool :=
  ⟨message, field⟩ ∈ scope.recursive

def isPooled (scope : Scope) (name : String) : Bool := name ∈ scope.options.pooled

end Scope

end ProtoPlan
