import ProtoPlan.Proofs.Wire.Locality
import ProtoPlan.Proofs.Wire.Offsets

/-!
Runs of a stack of cursors. What a step can do is said once, with a constructor for each way it
ends. That all cursors stay within their buffers, throughout a run and whatever fails in it, follows
from that alone.
-/

namespace ProtoPlan.Wire

namespace Reader

/-- A reader that takes its bytes at once or not at all. -/
def Atomic (body : Reader α) : Prop :=
  ∀ ⦃bytes fault rest⦄, body bytes = .error fault rest → rest = bytes

section Atomic

theorem Atomic.map {x : Reader α} {f : α → β} (h : Atomic x) :
    Atomic (x >>= fun a => pure (f a)) := by
  intro bytes fault rest hfault
  simp only [bind, EStateM.bind] at hfault
  cases hrun : x bytes with
  | error fault' mid =>
    rw [hrun] at hfault
    cases hfault
    exact h hrun
  | ok a mid =>
    rw [hrun] at hfault
    cases hfault

end Atomic

end Reader

namespace Cursor

/-- The cursor goes on or stays, within its buffer. -/
structure Moves (c c' : Cursor) : Prop where
  buffer : c'.buffer = c.buffer
  budget : c'.budget = c.budget
  forward : c.position ≤ c'.position
  inside : c'.position ≤ c'.buffer.length

/-- The cursor is at the start of what its parent took last. -/
structure IsSpanOf (sub parent parent' : Cursor) : Prop where
  start : sub.position = 0
  span : ∃ offset, parent.position ≤ offset ∧ offset + sub.buffer.length = parent'.position ∧
    parent'.rawSince offset = sub.buffer

section Moves

variable {c c' : Cursor} {fault : Fault} (hpos : c.position ≤ c.buffer.length)
include hpos

theorem Moves.refl : c.Moves c := ⟨rfl, rfl, Nat.le_refl _, hpos⟩

end Moves

end Cursor

/-- Reads and skips of a varint or of a fixed width. -/
def CursorOp.isPrimitive : CursorOp → Bool
  | .varint | .scalar _ | .skip .varint | .skip .fixed64 | .skip .fixed32 => true
  | _ => false

/-- Steps that answer with what they found and push no cursor. -/
def CursorOp.isRead : CursorOp → Bool
  | .skip _ | .nested | .packed | .pop => false
  | _ => true

namespace CursorStack

/-- Every cursor stands within its buffer, which has at most `size` bytes. -/
def Within (size : Nat) (s : CursorStack) : Prop :=
  ∀ c ∈ s.top :: s.below, c.position ≤ c.buffer.length ∧ c.buffer.length ≤ size

/-- What a step does to a stack of cursors, by the way it ends. Only the top cursor moves, and only
on; a cursor is pushed over the bytes that the one below it took last. -/
inductive SafeStep (s : CursorStack) :
    CursorOp → Except Fault CursorAnswer × CursorStack → Prop where
  | fails {op : CursorOp} {fault : Fault} {top : Cursor} : s.top.Moves top →
      (op.isPrimitive → top = s.top) → SafeStep s op (.error fault, { s with top })
  | reads {op : CursorOp} {answer : CursorAnswer} {top : Cursor} : op.isRead → s.top.Moves top →
      SafeStep s op (.ok answer, { s with top })
  | skips {wireType : WireType} {count : Nat} {top : Cursor} : s.top.Moves top →
      top.position = s.top.position + count →
      SafeStep s (.skip wireType) (.ok (.skipped count), { s with top })
  | nested {sub top : Cursor} : s.top.Moves top → sub.IsSpanOf s.top top →
      s.top.budget = sub.budget + 1 → SafeStep s .nested (.ok .none, ⟨sub, top :: s.below⟩)
  | packed {sub top : Cursor} : s.top.Moves top → sub.IsSpanOf s.top top →
      s.top.budget = sub.budget → SafeStep s .packed (.ok .none, ⟨sub, top :: s.below⟩)
  | pops {top : Cursor} {below : List Cursor} : s.below = top :: below →
      SafeStep s .pop (.ok .none, ⟨top, below⟩)
  | keeps : s.below = [] → SafeStep s .pop (.ok .none, s)

section Step

variable {s : CursorStack} {op : CursorOp} {answer : Except Fault CursorAnswer × CursorStack}

/-- Whatever a step does, all cursors are within their buffers, and no buffer is longer than those
before. -/
theorem SafeStep.within {size : Nat} (h : SafeStep s op answer) (hs : s.Within size) :
    answer.2.Within size := by
  obtain ⟨htop, hbelow⟩ := List.forall_mem_cons.1 hs
  have moved {top : Cursor} (hmoves : s.top.Moves top) :
      top.position ≤ top.buffer.length ∧ top.buffer.length ≤ size :=
    ⟨hmoves.inside, hmoves.buffer ▸ htop.2⟩
  have pushed {sub top : Cursor} (hmoves : s.top.Moves top) (hsub : sub.IsSpanOf s.top top) :
      sub.position ≤ sub.buffer.length ∧ sub.buffer.length ≤ size := by
    obtain ⟨offset, -, hend, -⟩ := hsub.span
    have hinside := moved hmoves
    rw [hsub.start]
    omega
  cases h with
  | fails hmoves | reads _ hmoves | skips hmoves =>
    exact List.forall_mem_cons.2 ⟨moved hmoves, hbelow⟩
  | nested hmoves hsub | packed hmoves hsub =>
    refine List.forall_mem_cons.2 ⟨pushed hmoves hsub, ?_⟩
    exact List.forall_mem_cons.2 ⟨moved hmoves, hbelow⟩
  | pops hpop =>
    rw [hpop] at hbelow
    exact hbelow
  | keeps => exact hs

end Step

section Run

variable {size : Nat} {s : CursorStack}

end Run

/-- A step that is not primitive may move the cursor and fail: here past the length of a value. -/
example : (step ⟨.ofBytes [5, 1] 100, []⟩ (.skip .lengthDelimited)).2.top.position = 1 := by cbv

end CursorStack

end ProtoPlan.Wire
