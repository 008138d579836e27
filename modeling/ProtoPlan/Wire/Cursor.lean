import ProtoPlan.Wire.Skip
import ProtoPlan.Wire.Scalar

/-!
A cursor over an encoded message: the buffer, the offset of the next byte and how many levels of
nesting may still be entered. Reads move the offset as far as their reader went, also when they
fail.
-/

namespace ProtoPlan.Wire

structure Cursor where
  buffer : Bytes
  position : Nat
  budget : Nat
  deriving DecidableEq, Repr

namespace Cursor

/-- The levels of nested messages or groups that may be entered unless a limit is given. -/
def defaultBudget : Nat := 100

/-- At the start of `buffer`. -/
def ofBytes (buffer : Bytes) (budget : Nat) : Cursor := ⟨buffer, 0, budget⟩

def unread (c : Cursor) : Bytes := c.buffer.drop c.position

def remaining (c : Cursor) : Nat := c.buffer.length - c.position

def hasRemaining (c : Cursor) : Bool := c.position < c.buffer.length

/-- The bytes from offset `start` to the cursor; none when `start` lies past it. -/
def rawSince (c : Cursor) (start : Nat) : Bytes := (c.buffer.take c.position).drop start

/-- Runs a reader on the unread bytes. -/
def read (c : Cursor) (body : Reader α) : Except Fault α × Cursor :=
  match body c.unread with
  | .ok a rest => (.ok a, { c with position := c.buffer.length - rest.length })
  | .error fault rest => (.error fault, { c with position := c.buffer.length - rest.length })

section Read

variable {c c' : Cursor} {body : Reader α}

theorem read_eq_ok_iff {a : α} :
    c.read body = (.ok a, c') ↔
      ∃ rest, body c.unread = .ok a rest ∧
        c' = { c with position := c.buffer.length - rest.length } := by
  unfold read
  cases body c.unread with
  | ok b rest => simp [and_assoc, eq_comm]
  | error fault rest => simp

theorem read_eq_error_iff {fault : Fault} :
    c.read body = (.error fault, c') ↔
      ∃ rest, body c.unread = .error fault rest ∧
        c' = { c with position := c.buffer.length - rest.length } := by
  unfold read
  cases body c.unread with
  | ok b rest => simp
  | error fault' rest => simp [and_assoc, eq_comm]

end Read

/-- The cursor over an embedded message, one level deeper. Without budget nothing is read. -/
def nested (c : Cursor) : Except Fault Cursor × Cursor :=
  match c.budget with
  | 0 => (.error .recursionLimitReached, c)
  | budget + 1 =>
    let (span, c) := c.read Reader.span
    (span.map (ofBytes · budget), c)

/-- The cursor over the block of a packed field, on the same level. -/
def packed (c : Cursor) : Except Fault Cursor × Cursor :=
  let (span, c') := c.read Reader.span
  (span.map (ofBytes · c.budget), c')

/-- Skips a value and tells how many bytes it took. -/
def skip (c : Cursor) (wireType : WireType) : Except Fault Nat × Cursor :=
  let (skipped, c') := c.read (Reader.skipValue c.budget wireType)
  (skipped.map fun () => c'.position - c.position, c')

end Cursor

/-- A step on a stack of cursors. All act on the top one. -/
inductive CursorOp where
  | varint
  | scalar (kind : Scalar)
  | length
  | bytes
  | text (field : String)
  | key
  | skip (wireType : WireType)
  | rawSince (start : Nat)
  /-- Pushes the cursor over an embedded message. -/
  | nested
  /-- Pushes the cursor over a packed block. -/
  | packed
  /-- Drops the top cursor unless it is the only one. -/
  | pop
  | state
  deriving DecidableEq, Repr

/-- What a step on a stack of cursors yields. -/
inductive CursorAnswer where
  | none
  | scalar (value : ScalarValue)
  | length (value : Nat)
  | bytes (value : Bytes)
  | text (value : String)
  | key (value : Key)
  | skipped (count : Nat)
  | state (cursor : Cursor)

structure CursorStack where
  top : Cursor
  below : List Cursor := []
  deriving DecidableEq, Repr

namespace CursorStack

def depth (s : CursorStack) : Nat := s.below.length

/-- Reads through the top cursor. -/
def read (s : CursorStack) (body : Reader α) (answer : α → CursorAnswer) :
    Except Fault CursorAnswer × CursorStack :=
  let (outcome, top) := s.top.read body
  (outcome.map answer, { s with top })

/-- Puts the cursor of a sub-buffer, if there is one, above the moved top. -/
def push (s : CursorStack) : Except Fault Cursor × Cursor → Except Fault CursorAnswer × CursorStack
  | (.ok sub, top) => (.ok .none, ⟨sub, top :: s.below⟩)
  | (.error fault, top) => (.error fault, { s with top })

def step (s : CursorStack) : CursorOp → Except Fault CursorAnswer × CursorStack
  | .varint => s.read Reader.varint fun v => .scalar (.uint64 v)
  | .scalar kind => s.read kind.read .scalar
  | .length => s.read Reader.length .length
  | .bytes => s.read Reader.span .bytes
  | .text field => s.read (Reader.text field) .text
  | .key => s.read Reader.key .key
  | .skip wireType =>
    let (skipped, top) := s.top.skip wireType
    (skipped.map .skipped, { s with top })
  | .rawSince start => (.ok (.bytes (s.top.rawSince start)), s)
  | .nested => s.push s.top.nested
  | .packed => s.push s.top.packed
  | .pop =>
    match s.below with
    | [] => (.ok .none, s)
    | top :: below => (.ok .none, ⟨top, below⟩)
  | .state => (.ok (.state s.top), s)

/-- The answers of a run, each with the stack after it. A step that fails does not end the run. -/
def run (s : CursorStack) : List CursorOp → List (Except Fault CursorAnswer × CursorStack)
  | [] => []
  | op :: ops =>
    let answer := s.step op
    answer :: answer.2.run ops

end CursorStack

end ProtoPlan.Wire
