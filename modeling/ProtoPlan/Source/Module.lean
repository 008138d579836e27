import ProtoPlan.Plan.OfMessage
import ProtoPlan.Source.Item

/-!
The source code of a schema: the items of all its messages in one module, named for the package.
-/

namespace ProtoPlan.Source

open Code

structure Module where
  name : String
  source : String
  deriving DecidableEq, Repr

/-- The file that the module is conventionally written to. -/
def Module.fileName (m : Module) : String := m.name ++ ".rs"

/-- The module of a schema. Code that cannot be read back is refused. -/
def Module.ofSchema (options : Options) (schema : Schema) : Except PlanError Module := do
  let scope ← Scope.ofSchema options schema
  let plans ← (Scope.ownMessages schema).mapM (Plan.ofMessage scope)
  let items ← plans.mapM (MessageItems.ofPlan scope)
  if items.all (·.isWellFormed) then
    return {
      name := packageModule schema.package
      source := Tokens.text (items.flatMap (·.tokens)) }
  else throw .malformedCode

end ProtoPlan.Source
