import ProtoPlan.Wire.Varint

/-!
Extension fields kept as raw bytes: every occurrence in wire order, never interpreted.
-/

namespace ProtoPlan.Wire

/-- One occurrence of an extension field: its number, and its key and value as they were read. -/
structure ExtensionRecord where
  number : Nat
  raw : Bytes
  deriving DecidableEq, Repr

structure ExtensionStore where
  records : List ExtensionRecord := []
  deriving DecidableEq, Repr, Inhabited

namespace ExtensionStore

/-- Adds an occurrence after all others. -/
def append (store : ExtensionStore) (number : Nat) (raw : Bytes) : ExtensionStore :=
  ⟨store.records ++ [⟨number, raw⟩]⟩

def size (store : ExtensionStore) : Nat := store.records.length

def isEmpty (store : ExtensionStore) : Bool := store.records.isEmpty

/-- The raw bytes of every occurrence of `number`, joined in wire order. -/
def rawFor (store : ExtensionStore) (number : Nat) : Bytes :=
  (store.records.filter (·.number = number)).flatMap (·.raw)

@[simp] theorem records_append (store : ExtensionStore) (number : Nat) (raw : Bytes) :
    (store.append number raw).records = store.records ++ [⟨number, raw⟩] := rfl

end ExtensionStore

end ProtoPlan.Wire
