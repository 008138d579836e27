import ProtoPlan.Wire.Skip

/-!
A message is a sequence of fields, each a key and a value. What a message type does with a field is
a function of the key; a field that it does not claim is skipped by its wire type.
-/

namespace ProtoPlan.Wire.Reader

/-- Reads a value only if it is framed as the field asks. -/
def expect (key : Key) (wireType : WireType) (field : String) (body : Reader α) : Reader α :=
  if key.wireType = wireType then body
  else throw (.wireTypeMismatch field key.wireType.toNat)

/-- The elements of a packed block, appended to `list`. -/
def elements (read : Reader α) : List α → Reader (List α) :=
  drain fun list => do return list ++ [← read]

/-- A record of a repeated numeric field: one element, or a packed block of any number. -/
def packable (key : Key) (wireType : WireType) (field : String) (read : Reader α) (list : List α) :
    Reader (List α) :=
  if key.wireType = wireType then do return list ++ [← read]
  else if key.wireType = .lengthDelimited then delimited (elements read list)
  else throw (.wireTypeMismatch field key.wireType.toNat)

/-- An embedded message, read by `body` with one level of nesting less. Without budget nothing is
read. -/
def nested (budget : Nat) (body : Nat → Reader α) : Reader α :=
  match budget with
  | 0 => throw .recursionLimitReached
  | budget + 1 => delimited (body budget)

/-- One field: handed to `claimed` if that answers to its key, else skipped and handed to
`unclaimed` with its number and its raw bytes, key included. -/
def field (budget : Nat) (claimed : Key → σ → Option (Reader σ))
    (unclaimed : Nat → Bytes → σ → σ) (state : σ) : Reader σ := do
  let start ← get
  let key ← key
  match claimed key state with
  | some body => body
  | none =>
    skipValue budget key.wireType
    return unclaimed key.number (← since start) state

/-- All fields of the unread bytes, merged into `state` in wire order. -/
def fields (budget : Nat) (claimed : Key → σ → Option (Reader σ))
    (unclaimed : Nat → Bytes → σ → σ) (state : σ) : Reader σ :=
  drain (field budget claimed unclaimed) state

/-- A field that no one keeps. -/
def ignore (_ : Nat) (_ : Bytes) (state : σ) : σ := state

end ProtoPlan.Wire.Reader
