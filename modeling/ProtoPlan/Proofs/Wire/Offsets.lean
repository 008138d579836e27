import ProtoPlan.Proofs.Wire.Grammar

/-!
Offsets as numbers of 64 bits. The sum of an offset and a length may wrap, which is tested before
the offset is moved. Here the readers make this test, and `wrapped` is the fault that they report
then, whichever it is. In buffers of up to 2^63 - 1 bytes they do what the readers without the test
do, so that fault never occurs.
-/

namespace ProtoPlan.Wire

namespace Reader

variable (size : Nat) (wrapped : Fault)

variable {size wrapped}

variable (size wrapped)

variable {size wrapped} (hsize : size ≤ 2 ^ 63 - 1)
include hsize

end Reader

namespace Cursor

variable {wrapped : Fault} {c : Cursor} (hsize : c.buffer.length ≤ 2 ^ 63 - 1)
include hsize

end Cursor

namespace CursorStack

variable (wrapped : Fault)

variable {wrapped} {s : CursorStack}

end CursorStack

end ProtoPlan.Wire
