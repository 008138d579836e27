import ProtoPlan.Source.Value

/-!
Source code of a message's decoder: one loop over the fields of a buffer, with an arm for each
field number.
-/

namespace ProtoPlan.Source

open Wire Code

/-- The fields of an embedded message, merged into the one that the struct holds, which is made if
absent. -/
def mergeInto (scope : Scope) (field : Ident) (target : MessageRef) (isBoxed : Bool)
    (cursor : String) : Except PlanError Tokens := do
  let type := (← typePath target).tokens
  let init :=
    if !target.pooled then words ":: core :: default :: Default :: default"
    else if !isBoxed then acquire scope type
    else words "|| :: std :: boxed :: Box :: new" ++ paren (acquire scope type ++ word "()")
  let into := words (if isBoxed then "& mut * * target" else "target")
  return words ("let mut sub = " ++ cursor ++ " . read_nested () ? ; let target = self .") ++
    name field ++ words ". get_or_insert_with" ++ paren init ++ word ";" ++
    merge scope target into ++ words "? ;"

/-- One value read from `cursor`, stored as the rule says. `oneofs` is the module of the message's
oneofs. -/
def storeValue (scope : Scope) (oneofs : Ident) (rule : FieldRule) (cursor : String) :
    Except PlanError Tokens := do
  let field ← ident rule.fieldName
  let self := words "self ." ++ name field
  let present (value : Tokens) := words ":: core :: option :: Option :: Some" ++ paren value
  match rule.store, rule.read with
  | .set, read =>
    return self ++ word "=" ++ (← readValue scope cursor rule.name read) ++ word ";"
  | .setOptional, read =>
    return self ++ word "=" ++ present (← readValue scope cursor rule.name read) ++ word ";"
  | .append, read =>
    return self ++ words ". push" ++ paren (← readValue scope cursor rule.name read) ++ word ";"
  | .merge isBoxed, .message target => mergeInto scope field target isBoxed cursor
  | .merge _, read =>
    return self ++ word "=" ++ present (← readValue scope cursor rule.name read) ++ word ";"
  | .select oneof variant isBoxed, read =>
    let oneofField ← ident (fieldName oneof)
    let enum ← ident (Text.toPascal oneof)
    let variant ← ident variant
    let value ← readValue scope cursor rule.name read
    let value :=
      if isBoxed then words ":: std :: boxed :: Box :: new" ++ paren value else value
    return words "self ." ++ name oneofField ++ word "=" ++
      present (name oneofs ++ word "::" ++ name enum ++ word "::" ++ name variant ++ paren value) ++
      word ";"

/-- The expected number of elements of the block under the cursor `packed`. -/
def countElements (scope : Scope) : ElementCount → Tokens
  | .varintTerminators =>
    runtime scope ":: packed :: varint_element_count" ++
      paren (words "packed . remaining_slice ()")
  | .fixedWidth width =>
    runtime scope ":: packed :: fixed_element_count" ++
      paren (words "packed . remaining_slice () ," ++ number width)
  | .onePerByte =>
    runtime scope ":: packed :: bool_element_count" ++ paren (words "packed . remaining_slice ()")

/-- The arm of a field that is no map. -/
def fieldArm (scope : Scope) (oneofs : Ident) (rule : FieldRule) :
    Except PlanError Tokens := do
  let single ← storeValue scope oneofs rule "cur"
  match rule.packed with
  | none =>
    let required :=
      match rule.requiredBit with
      | some bit => words "required . set" ++ paren (number bit) ++ word ";"
      | none => []
    return number rule.number ++ word "=>" ++
      brace (expect scope rule.wireType rule.name ++ single ++ required)
  | some count =>
    let element ← storeValue scope oneofs rule "packed"
    let field ← ident rule.fieldName
    let block := words "let mut packed = cur . read_packed () ? ; self ." ++ name field ++
      words ". reserve" ++ paren (countElements scope count) ++
      words "; while packed . has_remaining ()" ++ brace element
    return number rule.number ++ words "=> match wire_type" ++
      brace (wireType scope rule.wireType ++ word "=>" ++ brace single ++
        wireType scope .lengthDelimited ++ word "=>" ++ brace block ++
        words "_ =>" ++ mismatch scope rule.name ++ word ",") ++ word ","

/-- One side of a map entry, read into the variable `slot`. -/
def entrySide (scope : Scope) (side : EntrySide) (field slot : String) :
    Except PlanError Tokens := do
  let store ←
    match side.read with
    | .message target =>
      pure (words "let mut sub = entry . read_nested () ? ;" ++
        merge scope target (words ("& mut " ++ slot)) ++ words "? ;")
    | read => do
      pure (words (slot ++ " =") ++ (← readValue scope "entry" field read) ++ word ";")
  return expect scope side.wireType field ++ store

/-- The arm of a map field. -/
def mapArm (scope : Scope) (rule : MapRule) : Except PlanError Tokens := do
  let field ← ident rule.fieldName
  let keyType ← valueType rule.key.read
  let slotType ← valueType rule.value.read
  let key ← entrySide scope rule.key (rule.name ++ ".key") "key"
  let value ← entrySide scope rule.value (rule.name ++ ".value") "value"
  let absent := words ":: core :: default :: Default :: default ()"
  let init ←
    match rule.value.read with
    | .message target => fresh scope target
    | _ => pure absent
  return number rule.number ++ word "=>" ++ brace (
    expect scope .lengthDelimited rule.name ++
    words "let mut entry = cur . read_nested () ? ; let mut key :" ++ keyType ++ word "=" ++
    absent ++ words "; let mut value :" ++ slotType ++ word "=" ++ init ++
    words "; while entry . has_remaining ()" ++ brace (
      words "let (number , wire_type) = entry . read_key () ? ; match number" ++ brace (
        words "1 =>" ++ brace key ++ words "2 =>" ++ brace value ++
        words "_ =>" ++ brace (words "entry . skip_value (wire_type) ? ;"))) ++
    words "self ." ++ name field ++ words ". insert (key , value) ;")

def arm (scope : Scope) (oneofs : Ident) : Rule → Except PlanError Tokens
  | .field rule => fieldArm scope oneofs rule
  | .map rule => mapArm scope rule

/-- The arm of the numbers in the extension ranges, if there are any. -/
def extensionArm (ranges : List Schema.ExtensionRange) : Tokens :=
  if ranges.isEmpty then []
  else
    let tests := ranges.map fun range =>
      paren (number range.first ++ word ".." ++ number range.limit) ++ words ". contains (& n)"
    words "n if" ++ (word "||").intercalate tests ++ word "=>" ++
      brace (words "cur . skip_value (wire_type) ? ; self . extensions . append" ++
        paren (words "n , cur . raw_since (start)") ++ word ";")

/-- What is done with all other fields. -/
def unknownArm (preserve : Bool) : Tokens :=
  words "_ =>" ++ brace (words "cur . skip_value (wire_type) ? ;" ++
    if preserve then words "self . unknown_fields . extend_from_slice" ++
      paren (words "cur . raw_since (start)") ++ word ";"
    else [])

/-- The decoder of a message, as an implementation of the runtime's trait. -/
def decoder (scope : Scope) (plan : Plan) : Except PlanError Tokens := do
  let type ← ident plan.typeName
  let oneofs ← ident (moduleName plan.typeName)
  let arms ← plan.rules.mapM (arm scope oneofs)
  let start :=
    if plan.preserveUnknown || plan.hasExtensions then words "let start = cur . position () ;"
    else []
  let error := scope.errorType.tokens
  let (tracked, checked) :=
    if plan.requiredCount = 0 then ([], [])
    else
      (words "let mut required =" ++ runtime scope ":: RequiredFieldBitset :: <" ++
        number plan.requiredWords ++ words "> :: new () ;",
       words "if required . first_missing" ++ paren (number plan.requiredCount) ++
        words ". is_some ()" ++
        brace (words "return :: core :: result :: Result :: Err" ++
          paren (error ++ words ":: required_field_missing (Self :: NAME)") ++ word ";"))
  let loop := words "while cur . has_remaining ()" ++ brace (
    start ++ words "let (number , wire_type) = cur . read_key () ? ; match number" ++
    brace (arms.flatten ++ extensionArm plan.extensionRanges ++ unknownArm plan.preserveUnknown))
  return word "impl" ++ runtime scope ":: DecodeMessage for" ++ name type ++ brace (
    words "const NAME : & 'static str =" ++ string plan.message ++
    words "; fn merge_from" ++
    paren (words "& mut self , cur : & mut" ++ runtime scope ":: DecodeCursor < '_ > ,") ++
    words "-> :: core :: result :: Result < () ," ++ error ++ word ">" ++
    brace (tracked ++ loop ++ checked ++ words ":: core :: result :: Result :: Ok (())"))

end ProtoPlan.Source
