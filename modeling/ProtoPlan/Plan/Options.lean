import ProtoPlan.Data.SortedMap
import ProtoPlan.Schema.Inline

/-!
Options of planning: where the runtime of the generated code is, which messages are defined
elsewhere or pooled, and whether unknown fields are kept.
-/

namespace ProtoPlan

open Schema

structure Options where
  /-- Path of the runtime that generated code uses. -/
  runtime : String := "::protodec"
  /-- Paths of messages defined elsewhere, by full name. -/
  externPaths : SortedMap String String := {}
  /-- Messages whose instances are taken from a pool. -/
  pooled : List String := []
  preserveUnknown : Bool := true

namespace Options

/-- Declares a message to be defined elsewhere, in the place of an earlier declaration. -/
def externPath (options : Options) (name path : String) : Options :=
  { options with externPaths := options.externPaths.insert (trimDots name) path }

def pool (options : Options) (name : String) : Options :=
  { options with pooled := trimDots name :: options.pooled }

end Options

end ProtoPlan
