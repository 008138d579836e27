import ProtoPlan.Wire.Cursor

/-!
A message type with a decoder of its own: a name, the message that holds nothing, and how the
fields of a buffer are merged into a message.
-/

namespace ProtoPlan.Wire

structure MessageType (α : Type) where
  name : String
  empty : α
  /-- Merges all unread bytes into a message, with a nesting budget. -/
  merge : (budget : Nat) → α → Reader α

namespace MessageType

/-- Decodes a buffer into a fresh message. -/
def decode (type : MessageType α) (bytes : Bytes) : Except Fault α :=
  (type.merge Cursor.defaultBudget type.empty).run bytes

/-- Decodes a buffer that came in pieces. -/
def decodeChunks (type : MessageType α) (chunks : List Bytes) : Except Fault α :=
  type.decode chunks.flatten

/-- Merges buffers one after the other into `message`: its state after each, up to and with the
first fault. -/
def mergeSteps (type : MessageType α) (budget : Nat) (message : α) :
    List Bytes → List (Except Fault α)
  | [] => []
  | bytes :: rest =>
    match (type.merge budget message).run bytes with
    | .ok next => .ok next :: type.mergeSteps budget next rest
    | .error fault => [.error fault]

end MessageType

end ProtoPlan.Wire
