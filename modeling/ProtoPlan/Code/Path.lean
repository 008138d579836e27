import ProtoPlan.Code.Ident
import ProtoPlan.Code.Token

/-!
Paths to types and items, as code: segments between double colons, each a name that may have
arguments. Where a path may stand depends on a little more than its code.
-/

namespace ProtoPlan.Code

/-- The arguments of a segment of a path. -/
inductive Arguments where
  | none
  /-- They follow the name at once, which they may only in a type. -/
  | afterName
  | afterColons
  /-- The types of parameters, between parentheses. -/
  | parameters
  deriving DecidableEq, Repr

structure Path where
  tokens : Tokens
  /-- The name of the first segment. -/
  first : Ident
  /-- Whether colons stand in front. -/
  absolute : Bool
  /-- The arguments of each segment, last first. -/
  arguments : List Arguments

namespace Path

/-- Whether it is names alone. -/
def isPlain (path : Path) : Bool := path.arguments.all (· = .none)

/-- Whether its last segment may still be given arguments. -/
def isOpen (path : Path) : Bool := path.arguments.head? = some .none

/-- Whether it is one name, perhaps with type arguments, as an associated type is named. -/
def isLone (path : Path) : Bool :=
  !path.absolute && path.arguments.length = 1 && path.arguments.all (· ≠ .parameters)

/-- Whether a type may begin with it: `try` in front begins none. -/
def isType (path : Path) : Bool := path.absolute || path.first ≠ ⟨false, "try"⟩

/-- Whether an expression may begin with it: there, arguments follow colons. -/
def isExpression (path : Path) : Bool := path.isType && path.arguments.all (· ≠ .afterName)

end Path

end ProtoPlan.Code
