import ProtoPlan.Wire.Reader

/-!
Skipping a value whose key was read, by its wire type alone. Groups nest, and the groups opened
inside a skipped group may be no deeper than the nesting budget.
-/

namespace ProtoPlan.Wire.Reader

/-- Skips a varint by its length, without its value. -/
def skipVarint : Reader Unit := fun bytes =>
  match Varint.length bytes with
  | .ok length => .ok () (bytes.drop length)
  | .error fault => .error fault bytes

def skipBytes (count : Nat) : Reader Unit := do
  let _ ← take count

/-- Skips a value that is no group. -/
def skipPlain : WireType → Reader Unit
  | .varint => skipVarint
  | .fixed64 => skipBytes 8
  | .fixed32 => skipBytes 4
  | .lengthDelimited => do skipBytes (← length)
  | .startGroup | .endGroup => throw .unexpectedEndOfGroup

theorem skipPlain_le {w : WireType} {bytes rest : Bytes}
    (h : skipPlain w bytes = .ok () rest) : rest.length ≤ bytes.length := by
  have skip {count : Nat} {bytes rest : Bytes} (h : skipBytes count bytes = .ok () rest) :
      rest.length ≤ bytes.length := by
    simp only [skipBytes, bind, EStateM.bind] at h
    split at h
    · rename_i hd
      cases h
      have := take_shorter hd
      omega
    · cases h
  cases w with
  | varint =>
    simp only [skipPlain, skipVarint] at h
    split at h
    · cases h
      simp
    · cases h
  | fixed64 => exact skip h
  | fixed32 => exact skip h
  | lengthDelimited =>
    simp only [skipPlain, length, bind, EStateM.bind] at h
    split at h
    · rename_i a s hd
      split at hd
      · rename_i hv
        have := varint_shorter hv
        split at hd
        · cases hd
          have := skip h
          omega
        · cases hd
      · cases hd
    · cases h
  | startGroup => cases h
  | endGroup => cases h

/-- Skips what is left of a group with `outer` more groups open around it, as far as the end of the
outermost. Keys inside a group are plain varints of which only the wire type is looked at. -/
def closeGroup (budget outer : Nat) : Reader Unit := fun bytes =>
  match hk : varint bytes with
  | .error fault rest => .error fault rest
  | .ok key rest =>
    have := varint_shorter hk
    match WireType.ofNat? (key.toNat % 8) with
    | none => .error (.invalidWireType (key.toNat % 8)) rest
    | some .startGroup =>
      if outer + 2 ≤ budget then closeGroup budget (outer + 1) rest
      else .error .recursionLimitReached rest
    | some .endGroup =>
      match outer with
      | 0 => .ok () rest
      | outer + 1 => closeGroup budget outer rest
    | some wireType =>
      match hs : skipPlain wireType rest with
      | .error fault rest => .error fault rest
      | .ok () rest =>
        have := skipPlain_le hs
        closeGroup budget outer rest
termination_by bytes => bytes.length

/-- Skips one value whose key was read. A start-group takes everything up to its end-group. -/
def skipValue (budget : Nat) : WireType → Reader Unit
  | .startGroup => closeGroup budget 0
  | wireType => skipPlain wireType

end ProtoPlan.Wire.Reader
