import ProtoPlan.Plan.Scope
import ProtoPlan.Plan.Layout

/-!
The plan of a message. The read of a field follows from its kind, the store from its layout; the
numbers of the fields are checked before any rule is made, and the names of the generated struct
fields after all are.
-/

namespace ProtoPlan

open Wire Schema Code

/-- The reference of a field to a message type. -/
def MessageRef.resolve (scope : Scope) (message : Message) (field type : String) :
    Except PlanError MessageRef :=
  let name := trimDots type
  if name = "" then .error (.missingMessageType message.name field)
  else
    match scope.type? name with
    | none => .error (.unknownMessage (message.name ++ "." ++ field) name)
    | some info =>
      .ok { name, path := info.path, origin := info.origin, pooled := scope.isPooled name }

/-- The read of a single value of a kind. -/
def Read.ofKind (scope : Scope) (message : Message) (field : String) :
    Kind → Except PlanError Read
  | .scalar kind => .ok (.scalar kind)
  | .string => .ok .string
  | .bytes => .ok .bytes
  | .message type => (MessageRef.resolve scope message field type).map .message
  | .group _ => .error (.unsupportedGroup message.name field)

/-- One side of the entries of a map field. -/
def EntrySide.ofField (scope : Scope) (message : Message) (field : String) (layout : Layout)
    (side : Field) : Except PlanError EntrySide := do
  return { wireType := layout.wireType, read := ← Read.ofKind scope message field side.kind }

/-- The store of a field by how it is kept. Maps have none. -/
def Store.ofStorage (boxed : Bool) (field : Field) : Storage Layout → Option Store
  | .plain => some .set
  | .optional => some .setOptional
  | .nullable => some (.merge boxed)
  | .list => some .append
  | .oneof name => some (.select name (Text.toPascal field.name) boxed)
  | .map .. => none

/-- The rule of a field of `message`, with its bit among the required fields if it is one. -/
def Rule.ofField (scope : Scope) (message : Message) (field : Field)
    (requiredBit : Option Nat) : Except PlanError Rule := do
  let layout ← Layout.ofField message field
  match layout.storage with
  | .map keyLayout valueLayout =>
    match field.cardinality with
    | .map key value =>
      return .map {
        name := field.name
        fieldName := fieldName field.name
        number := field.number
        key := ← EntrySide.ofField scope message field.name keyLayout key
        value := ← EntrySide.ofField scope message field.name valueLayout value }
    | _ => throw (.invalidMapEntry message.name field.name .missing)
  | storage =>
    let boxed := scope.isRecursive message.name field.name
    let some store := Store.ofStorage boxed field storage
      | throw (.invalidMapEntry message.name field.name .missing)
    return .field {
      name := field.name
      fieldName := fieldName field.name
      number := field.number
      wireType := field.kind.wireType
      read := ← Read.ofKind scope message field.name field.kind
      store
      packed := if layout.packable then some field.kind.elementCount else none
      requiredBit }

namespace Plan

/-- Checks that the numbers of the fields are in range, and differ from each other and from those
in `seen`. -/
def checkNumbers (message : Message) (seen : List Nat) : List Field → Except PlanError Unit
  | [] => .ok ()
  | field :: rest =>
    if field.number < minFieldNumber ∨ maxFieldNumber < field.number then
      .error (.invalidFieldNumber message.name field.name field.number)
    else if field.number ∈ seen then
      .error (.duplicateFieldNumber message.name field.number)
    else checkNumbers message (field.number :: seen) rest

/-- The rules of fields in order. Required fields take the bits from `bit` on. -/
def rulesOf (scope : Scope) (message : Message) (bit : Nat) :
    List Field → Except PlanError (List Rule)
  | [] => .ok []
  | field :: rest => do
    let rule ← Rule.ofField scope message field (if field.isRequired then some bit else none)
    let more ← rulesOf scope message (if field.isRequired then bit + 1 else bit) rest
    return rule :: more

/-- The struct fields of rules: one for each but for oneofs, whose members share one, at the first
of them. `oneofs` have their field already. -/
def declaredFields (oneofs : List String) : List Rule → List String
  | [] => []
  | .map rule :: rest => rule.fieldName :: declaredFields oneofs rest
  | .field rule :: rest =>
    match rule.store with
    | .select oneof .. =>
      if oneof ∈ oneofs then declaredFields oneofs rest
      else Code.fieldName oneof :: declaredFields (oneof :: oneofs) rest
    | _ => rule.fieldName :: declaredFields oneofs rest

/-- All fields of the generated struct in order. -/
def structFields (plan : Plan) : List String :=
  declaredFields [] plan.rules ++
    (if plan.preserveUnknown then ["unknown_fields"] else []) ++
    (if plan.hasExtensions then ["extensions"] else [])

/-- The first name that stands twice in a list. -/
def firstRepeated? (seen : List String) : List String → Option String
  | [] => none
  | name :: rest => if name ∈ seen then some name else firstRepeated? (name :: seen) rest

/-- The name of the generated struct. A message that is defined elsewhere is named in full. -/
def structName (scope : Scope) (message : String) : String :=
  match scope.type? message with
  | some ⟨path, .schema⟩ => path
  | _ => Code.typeName message ""

def ofMessage (scope : Scope) (message : Message) : Except PlanError Plan := do
  checkNumbers message [] message.fields
  let rules ← rulesOf scope message 0 message.fields
  let plan : Plan :=
    { message := message.name
      typeName := structName scope message.name
      rules
      extensionRanges := message.extensionRanges
      preserveUnknown := scope.options.preserveUnknown
      requiredCount := (message.fields.filter (·.isRequired)).length }
  match firstRepeated? [] plan.structFields with
  | some name => throw (.fieldNameCollision message.name name)
  | none => return plan

end Plan

namespace Schema

/-- The plans of the messages outside `google.protobuf`, in declaration order. -/
def plans (options : Options) (schema : Schema) : Except PlanError (List Plan) := do
  let scope ← Scope.ofSchema options schema
  (Scope.ownMessages schema).mapM (Plan.ofMessage scope)

/-- The plans of a schema and those of the `google.protobuf` messages. -/
def allPlans (options : Options) (schema : Schema) : Except PlanError (List Plan) := do
  let own ← schema.plans options
  let scope ← Scope.ofSchema options WellKnown.schema
  return own ++ (← WellKnown.messages.mapM (Plan.ofMessage scope))

end Schema

end ProtoPlan
