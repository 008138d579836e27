import ProtoPlan.Schema.Basic

/-!
Inline references between messages. A singular message field holds its message inside the message
it belongs to; a field that leads back to its own message cannot, since the message would contain
itself. Lists and maps hold their values elsewhere and count for nothing here.
-/

namespace ProtoPlan.Schema

/-- A type name without leading dots. -/
def trimDots (name : String) : String := String.ofList (name.toList.dropWhile (· = '.'))

/-- The message whose value the field holds inline. -/
def Field.inlineTarget? (field : Field) : Option String :=
  match field.isInline, field.kind with
  | true, .message name => some (trimDots name)
  | _, _ => none

/-- A field by the name of its message and its own. -/
structure FieldRef where
  message : String
  field : String
  deriving DecidableEq, Repr

/-- The inline references of a message: field and target. Of two messages of one name the last
counts. -/
def inlineRefs (schema : Schema) (message : String) : List (String × String) :=
  match schema.messages.reverse.find? (·.name = message) with
  | some m => m.fields.filterMap fun field => field.inlineTarget?.map (field.name, ·)
  | none => []

/-- The references to `start` that are met from `current` on. `path` has the messages that lead
from `start` to `current`: none is entered twice. A path of distinct messages takes fewer steps than
there are messages, which bounds the recursion. -/
def closingFields (schema : Schema) (start : String) : Nat → List String → String → List FieldRef
  | 0, _, _ => []
  | steps + 1, path, current =>
    (schema.inlineRefs current).flatMap fun (field, target) =>
      if target = start then [⟨current, field⟩]
      else if target ∈ path then []
      else closingFields schema start steps (target :: path) target

/-- The fields that lead back to their own message, each once: those that close a cycle which
starts at some message. -/
def recursiveFields (schema : Schema) : List FieldRef :=
  (schema.messages.flatMap fun m =>
    schema.closingFields m.name schema.messages.length [m.name] m.name).eraseDups

end ProtoPlan.Schema
