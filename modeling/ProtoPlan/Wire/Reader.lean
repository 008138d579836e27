import ProtoPlan.Wire.Varint
import ProtoPlan.Wire.WireType

/-!
Reading from the unread bytes of a buffer. A reader yields a value or a fault, and either way the
bytes still unread: a primitive that fails leaves them as they were, a composite one keeps what its
earlier pieces took.
-/

namespace ProtoPlan.Wire

abbrev Reader (α : Type) := EStateM Fault Bytes α

/-- Number and wire type of the field that follows. -/
structure Key where
  number : Nat
  wireType : WireType
  deriving DecidableEq, Repr

namespace Reader

/-- Exactly `count` bytes. -/
def take (count : Nat) : Reader Bytes := fun bytes =>
  if count ≤ bytes.length then .ok (bytes.take count) (bytes.drop count)
  else .error .truncated bytes

def varint : Reader UInt64 := fun bytes =>
  match Varint.decode bytes with
  | .ok (value, length) => .ok value (bytes.drop length)
  | .error fault => .error fault bytes

/-- Negative numbers arrive sign-extended to ten bytes: the low half is the number. -/
def int32 : Reader Int32 := return (← varint).toUInt32.toInt32

def int64 : Reader Int64 := return (← varint).toInt64

def uint32 : Reader UInt32 := return (← varint).toUInt32

def uint64 : Reader UInt64 := varint

def bool : Reader Bool := return (← varint) != 0

def sint32 : Reader Int32 := return Varint.unzigzag32 (← varint)

def sint64 : Reader Int64 := return Varint.unzigzag64 (← varint)

/-- The number whose base-256 digits are `bytes`, least significant first. -/
def littleEndian (bytes : Bytes) : Nat :=
  bytes.foldr (fun b high => b.toNat + 256 * high) 0

def fixed32 : Reader UInt32 := return UInt32.ofNat (littleEndian (← take 4))

def fixed64 : Reader UInt64 := return UInt64.ofNat (littleEndian (← take 8))

def sfixed32 : Reader Int32 := return (← fixed32).toInt32

def sfixed64 : Reader Int64 := return (← fixed64).toInt64

/-- The length prefix of a span. Lengths that are negative as 64-bit numbers are refused. -/
def length : Reader Nat := do
  let value ← varint
  if value.toNat < 0x8000000000000000 then return value.toNat else throw .invalidLength

/-- A length-delimited span. -/
def span : Reader Bytes := do take (← length)

/-- A span that must be valid UTF-8; `field` is named in the fault. -/
def text (field : String) : Reader String := do
  match String.fromUTF8? (← span).toByteArray with
  | some s => return s
  | none => throw (.invalidUtf8 field)

/-- Splits a key. Keys past 32 bits, end-group keys, field number zero and wire types that do not
exist are refused, in this order. -/
def splitKey (key : Nat) : Except Fault Key :=
  if 0x100000000 ≤ key then .error (.malformedKey .tooLarge)
  else if key % 8 = WireType.endGroup.toNat then .error (.malformedKey .endGroup)
  else if key / 8 = 0 then .error (.malformedKey .numberOutOfRange)
  else match WireType.ofNat? (key % 8) with
    | some wireType => .ok ⟨key / 8, wireType⟩
    | none => .error (.invalidWireType (key % 8))

def key : Reader Key := do
  match splitKey (← varint).toNat with
  | .ok key => return key
  | .error fault => throw fault

/-- What was read since `start`, the unread bytes of an earlier moment. -/
def since (start : Bytes) : Reader Bytes := do
  return start.take (start.length - (← get).length)

/-- Runs `body` on a span alone. -/
def within (span : Bytes) (body : Reader α) : Reader α := fun bytes =>
  match body span with
  | .ok a _ => .ok a bytes
  | .error fault _ => .error fault bytes

/-- A length-delimited span read by `body`, which is built only once the span is there. -/
@[macro_inline] def delimited (body : Reader α) : Reader α := do within (← span) body

/-- Repeats `step` until no byte is left. A step that reads nothing ends the loop. -/
def drain (step : σ → Reader σ) (state : σ) : Reader σ := fun bytes =>
  if bytes.isEmpty then .ok state bytes
  else
    match step state bytes with
    | .error fault rest => .error fault rest
    | .ok state' rest =>
      if rest.length < bytes.length then drain step state' rest else .ok state' rest
termination_by bytes => bytes.length

/-- The outcome of reading a whole buffer. -/
def run (body : Reader α) (bytes : Bytes) : Except Fault α :=
  match body bytes with
  | .ok a _ => .ok a
  | .error fault _ => .error fault

theorem bind_eq_ok_iff {x : Reader α} {f : α → Reader β} {bytes rest : Bytes} {b : β} :
    (x >>= f) bytes = .ok b rest ↔ ∃ a mid, x bytes = .ok a mid ∧ f a mid = .ok b rest := by
  simp only [bind, EStateM.bind]
  constructor
  · intro h
    split at h
    · rename_i a mid ha
      exact ⟨a, mid, ha, h⟩
    · cases h
  · rintro ⟨a, mid, ha, hf⟩
    simp [ha, hf]

@[simp] theorem drain_nil (step : σ → Reader σ) (state : σ) :
    drain step state [] = .ok state [] := by
  rw [drain]
  rfl

/-- Exactly the bytes in front are taken. -/
theorem take_append (taken rest : Bytes) :
    take taken.length (taken ++ rest) = .ok taken rest := by
  simp [take]

theorem varint_shorter {bytes rest : Bytes} {value : UInt64} (h : varint bytes = .ok value rest) :
    rest.length < bytes.length := by
  unfold varint at h
  split at h
  · rename_i v n hd
    have := Varint.decode_length_le hd
    cases h
    simp
    omega
  · cases h

theorem take_shorter {bytes rest taken : Bytes} {count : Nat}
    (h : take count bytes = .ok taken rest) : rest.length + count = bytes.length := by
  unfold take at h
  split at h
  · cases h
    simp
    omega
  · cases h

end Reader

end ProtoPlan.Wire
