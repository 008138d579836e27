/-!
Why bytes could not be decoded, and the two wordings of each cause: the one of the decoders
themselves and the one of plans run on dynamic messages.
-/

namespace ProtoPlan.Wire

/-- Why a field key was rejected. -/
inductive KeyFault where
  /-- The key does not fit in 32 bits. -/
  | tooLarge
  /-- Field number zero. -/
  | numberOutOfRange
  /-- An end-group key with no group open. -/
  | endGroup
  deriving DecidableEq, Repr

def KeyFault.text : KeyFault → String
  | tooLarge => "key does not fit in 32 bits"
  | numberOutOfRange => "field number out of range"
  | endGroup => "end group wire type for non-group"

/-- Why a buffer could not be decoded. Every fault ends the decoding that met it. -/
inductive Fault where
  /-- A read or a length-delimited span needs more bytes than remain. -/
  | truncated
  /-- A varint goes on past its tenth byte. -/
  | overflow
  /-- A length that no buffer can have. -/
  | invalidLength
  /-- An end-group marker where a value was to be skipped. -/
  | unexpectedEndOfGroup
  | malformedKey (cause : KeyFault)
  /-- Wire type 6 or 7, neither of which exists. -/
  | invalidWireType (value : Nat)
  | wireTypeMismatch (field : String) (wireType : Nat)
  | requiredFieldMissing (message : String)
  | invalidUtf8 (field : String)
  | recursionLimitReached
  /-- No plan decodes the named message. -/
  | unknownMessage (message : String)
  deriving DecidableEq, Repr

namespace Fault

/-- The cause alone. -/
def text : Fault → String
  | truncated => "unexpected end of buffer"
  | overflow => "varint overflows 64 bits"
  | invalidLength => "invalid length prefix"
  | unexpectedEndOfGroup => "end-group marker without a matching start-group"
  | malformedKey cause => "malformed tag: " ++ cause.text
  | invalidWireType value => "invalid 'wire type' value: " ++ toString value
  | wireTypeMismatch field wireType =>
    "wrong wire type " ++ toString wireType ++ " for field '" ++ field ++ "'"
  | requiredFieldMissing message => "required field not set in '" ++ message ++ "'"
  | invalidUtf8 field => "invalid UTF-8 in string field '" ++ field ++ "'"
  | recursionLimitReached => "recursion limit reached"
  | unknownMessage message => "no decode plan for message `" ++ message ++ "`"

/-- What a decoder reports. -/
def message (fault : Fault) : String :=
  "failed to decode protobuf message: " ++ fault.text

/-- Whether the fault was met while reading bytes, before any field of a plan was involved. -/
def isPrimitive : Fault → Bool
  | wireTypeMismatch .. | requiredFieldMissing _ | invalidUtf8 _ | unknownMessage _ => false
  | _ => true

/-- What a plan run on a dynamic message reports: faults of fields and messages in its own words,
all others as a decoder does. -/
def planMessage : Fault → String
  | wireTypeMismatch field wireType =>
    "field `" ++ field ++ "` arrived with wire type " ++ toString wireType
  | invalidUtf8 field => "field `" ++ field ++ "` is not valid UTF-8"
  | requiredFieldMissing message => "message `" ++ message ++ "` is missing a required field"
  | unknownMessage message => "no decode plan for message `" ++ message ++ "`"
  | fault => fault.message

/-- Whether the input ended early. A cut inside a length prefix can show as an invalid length. -/
def isTruncation : Fault → Bool
  | truncated | invalidLength => true
  | _ => false

end Fault

end ProtoPlan.Wire
