import ProtoPlan.Proofs.Dynamic.Framing

/-!
What rules do, told by the schema. A rule that fits a field merges a record as the field's kind and
cardinality say; the rest of what the rule holds is of no matter to a run.
-/

namespace ProtoPlan.Dynamic

open Wire Schema Reader

/-- What an entry holds for a kind whose record never came. -/
def Value.zeroOf : Kind → Value
  | .scalar kind => .scalar kind.zero
  | .string => .text ""
  | .bytes | .group _ => .bytes []
  | .message type => .message (Message.ofName (trimDots type))

namespace Nested

variable {nested : Nested}

/-- A single value of a kind. Groups have no value. -/
def valueOf (nested : Nested) (field : String) : Kind → Reader Value
  | .scalar kind => return .scalar (← kind.read)
  | .string => return .text (← Reader.text field)
  | .bytes => return .bytes (← Reader.span)
  | .message type =>
    return .message (← nested.message (trimDots type) (Message.ofName (trimDots type)))
  | .group _ => throw .unexpectedEndOfGroup

/-- A record of a field that is no map, merged into `m` as the field's cardinality says. -/
def mergeField (nested : Nested) (field : Field) (key : Key) (m : Message) : Reader Message :=
  match field.cardinality with
  | .repeated =>
    if field.kind.isPackable && key.wireType == .lengthDelimited then
      Reader.delimited do
        let values ← Reader.elements (nested.valueOf field.name field.kind) (m.list field.number)
        return m.set field.number (.list values)
    else
      Reader.expect key field.kind.wireType field.name do
        let value ← nested.valueOf field.name field.kind
        return m.set field.number (.list (m.list field.number ++ [value]))
  | .oneof oneof =>
    Reader.expect key field.kind.wireType field.name do
      return m.select oneof field.number (← nested.valueOf field.name field.kind)
  | _ =>
    Reader.expect key field.kind.wireType field.name <|
      match field.kind with
      | .message type => do
        let value ← nested.message (trimDots type) (m.submessage field.number (trimDots type))
        return m.set field.number (.message value)
      | kind => do return m.set field.number (← nested.valueOf field.name kind)

/-- A single field that is no message is overwritten. -/
theorem mergeField_set {field : Field} (hin : field.isInline = true) (hone : field.oneof? = none)
    (hkind : field.kind.isMessage = false) (key : Key) (m : Message) :
    nested.mergeField field key m = expect key field.kind.wireType field.name (do
      return m.set field.number (← nested.valueOf field.name field.kind)) := by
  unfold mergeField
  cases hk : field.kind <;> cases hc : field.cardinality <;>
    simp_all [Field.isInline, Field.oneof?, Kind.isMessage]

/-- A single message field is merged into. -/
theorem mergeField_merge {field : Field} {type : String} (hin : field.isInline = true)
    (hone : field.oneof? = none) (hkind : field.kind = .message type) (key : Key) (m : Message) :
    nested.mergeField field key m = expect key .lengthDelimited field.name (do
      let value ← nested.message (trimDots type) (m.submessage field.number (trimDots type))
      return m.set field.number (.message value)) := by
  unfold mergeField
  cases hc : field.cardinality <;>
    simp_all [Field.isInline, Field.oneof?, Kind.wireType]

/-- A record of one side of a map entry, merged into `slot` if both are messages. -/
def mergeSide (nested : Nested) (key : Key) (field : String) (kind : Kind) (slot : Value) :
    Reader Value :=
  Reader.expect key kind.wireType field <|
    match kind, slot with
    | .message type, .message existing =>
      return .message (← nested.message (trimDots type) existing)
    | kind, _ => nested.valueOf field kind

/-- What is done with a record of an entry of the map field `name`: the key is under 1 and the value
under 2. -/
def claimSide (nested : Nested) (name : String) (keyKind valueKind : Kind) (key : Key)
    (entry : Value × Value) : Option (Reader (Value × Value)) :=
  match key.number with
  | 1 => some do return (← nested.mergeSide key (name ++ ".key") keyKind entry.1, entry.2)
  | 2 => some do return (entry.1, ← nested.mergeSide key (name ++ ".value") valueKind entry.2)
  | _ => none

/-- The key and the value of an entry of the map field `name`, merged into those at hand. -/
def mergeEntry (budget : Nat) (nested : Nested) (name : String) (keyKind valueKind : Kind) :
    Value × Value → Reader (Value × Value) :=
  Reader.fields budget (nested.claimSide name keyKind valueKind) Reader.ignore

theorem value_eq {kind : Kind} {read : Read} (h : Read.Fits kind read) (field : String) :
    nested.value field read = nested.valueOf field kind := by
  cases h with
  | scalar | string | bytes => rfl
  | message name => rw [Nested.value, Nested.valueOf, name]

/-- A record of a single value. -/
theorem store_eq {field : Field} {bit : Option Nat} {rule : FieldRule}
    (h : FieldRule.Fits field bit rule) (m : Message) {key : Key}
    (hkey : (rule.packed.isSome && key.wireType == .lengthDelimited) = false) :
    expect key rule.wireType rule.name (nested.store rule m) = nested.mergeField field key m := by
  have hvalue : nested.value rule.name rule.read = nested.valueOf rule.name field.kind :=
    value_eq h.read rule.name
  rw [h.wireType]
  have hstore := h.store
  have hread := h.read
  have hpacked := h.packed
  generalize hst : rule.store = store at hstore
  cases hstore with
  | append hc =>
    have hsingle : (field.kind.isPackable && key.wireType == .lengthDelimited) = false := by
      cases hp : field.kind.isPackable <;> simp_all
    rw [mergeField, ← h.name, ← h.number]
    simp only [hc, hsingle, Nested.store, hst, hvalue]
    rfl
  | select hc =>
    rw [mergeField, ← h.name, ← h.number]
    simp only [hc, Nested.store, hst, hvalue]
  | merge hin hone hm =>
    obtain ⟨type, hk⟩ : ∃ type, field.kind = .message type := by
      cases hk : field.kind <;> simp_all [Kind.isMessage]
    rw [hk] at hread
    generalize hr : rule.read = read at hread
    cases hread with
    | message hname =>
      rw [mergeField_merge hin hone hk, hk, ← h.name, ← h.number]
      simp only [Nested.store, hst, hr, hname, Kind.wireType]
  | set hin hone hm hor =>
    rw [mergeField_set hin hone hm, ← h.name, ← h.number]
    rcases hor with rfl | rfl <;> simp only [Nested.store, hst, hvalue]

theorem plainField_eq {field : Field} {bit : Option Nat} {rule : FieldRule}
    (h : FieldRule.Fits field bit rule) (key : Key) (m : Message) :
    nested.plainField rule key m = nested.mergeField field key m := by
  cases hkey : rule.packed.isSome && key.wireType == .lengthDelimited with
  | false =>
    rw [Nested.plainField, hkey]
    exact store_eq h m hkey
  | true =>
    obtain ⟨hp, hw⟩ := Bool.and_eq_true_iff.1 hkey
    obtain ⟨hst, hpack⟩ := h.packed.1 hp
    have hstore := h.store
    rw [hst] at hstore
    cases hstore with
    | append hc =>
      have hblock : (field.kind.isPackable && key.wireType == .lengthDelimited) = true := by
        rw [hpack, hw]
        rfl
      simp only [Nested.plainField, mergeField, hkey, hc, hblock, h.name, h.number,
        value_eq h.read, if_pos]
    | set hin hone hm hor => simp at hor

/-- A rule for a field that is no map merges a record as the field says. -/
theorem apply_eq {field : Field} {bit : Option Nat} {rule : Rule} (h : Rule.Fits field bit rule)
    (hmap : ∀ key value, field.cardinality ≠ .map key value) (key : Key) (m : Message)
    (seen : List Nat) :
    nested.apply rule key m seen =
      (nested.mergeField field key m >>= fun m => pure (m, bit.toList ++ seen)) := by
  cases h with
  | field h => rw [Nested.apply, plainField_eq h, h.requiredBit]
  | map hc => exact absurd hc (hmap _ _)

/-- A rule for a single field that is no message. -/
theorem apply_set_eq {field : Field} {bit : Option Nat} {rule : Rule}
    (h : Rule.Fits field bit rule) (hin : field.isInline = true) (hone : field.oneof? = none)
    (hkind : field.kind.isMessage = false) (key : Key) (m : Message) (seen : List Nat) :
    nested.apply rule key m seen = expect key field.kind.wireType field.name (do
      let value ← nested.valueOf field.name field.kind
      return (m.set field.number value, bit.toList ++ seen)) := by
  rw [apply_eq h (Field.cardinality_ne_map hin), mergeField_set hin hone hkind, ← expect_map, bind_assoc]
  simp only [pure_bind]

/-- A rule for a repeated field that is never packed. -/
theorem apply_append_eq {field : Field} {bit : Option Nat} {rule : Rule}
    (h : Rule.Fits field bit rule) (hc : field.cardinality = .repeated)
    (hpack : field.kind.isPackable = false) (key : Key) (m : Message) (seen : List Nat) :
    nested.apply rule key m seen = expect key field.kind.wireType field.name (do
      let value ← nested.valueOf field.name field.kind
      return (m.set field.number (.list (m.list field.number ++ [value])),
        bit.toList ++ seen)) := by
  rw [apply_eq h (by simp [hc])]
  simp only [mergeField, hc, hpack, Bool.false_and, Bool.false_eq_true, if_false]
  rw [← expect_map, bind_assoc]
  simp only [pure_bind]

theorem side_eq {kind : Kind} {side : EntrySide} (h : EntrySide.Fits kind side) (key : Key)
    (field : String) (slot : Value) :
    nested.side key side field slot = nested.mergeSide key field kind slot := by
  have hread := h.read
  unfold Nested.side mergeSide
  rw [h.wireType]
  generalize hr : side.read = read at hread
  cases hread with
  | scalar | string | bytes => cases slot <;> rfl
  | message name => cases slot <;> simp only [Nested.value, valueOf, name]

theorem zero_eq {kind : Kind} {read : Read} (h : Read.Fits kind read) :
    Value.zero read = Value.zeroOf kind := by
  cases h with
  | scalar | string | bytes => rfl
  | message name => rw [Value.zero, Value.zeroOf, name, Message.ofName]

theorem entryFields_eq {field key value : Field} {rule : MapRule}
    (h : MapRule.Fits field key value rule) (budget : Nat) :
    nested.entryFields budget rule =
      nested.mergeEntry budget field.name key.kind value.kind
        (Value.zeroOf key.kind, Value.zeroOf value.kind) := by
  simp only [Nested.entryFields, mergeEntry, side_eq h.key, side_eq h.value, h.name,
    zero_eq h.key.read, zero_eq h.value.read]
  rfl

end Nested

namespace DecoderSet

variable (set : DecoderSet)

/-- An embedded message is merged like one of its own with one level of nesting less. -/
theorem nested_message (budget : Nat) (name : String) (m : Message) :
    (set.nested budget).message name m =
      Reader.nested budget fun budget => set.mergeWith budget (set.nested budget) name m := by
  cases budget <;> rfl

theorem nested_entry (budget : Nat) (rule : MapRule) :
    (set.nested budget).entry rule =
      Reader.nested budget fun budget => (set.nested budget).entryFields budget rule := by
  cases budget <;> rfl

/-- A rule for a map field merges an entry with one level of nesting less and puts it into the
map. -/
theorem apply_map_eq {field key value : Field} {bit : Option Nat} {rule : Rule}
    (h : Rule.Fits field bit rule) (hc : field.cardinality = .map key value) (budget : Nat)
    (k : Key) (m : Message) (seen : List Nat) :
    (set.nested budget).apply rule k m seen =
      expect k .lengthDelimited field.name (do
        let entry ← Reader.nested budget fun budget =>
          (set.nested budget).mergeEntry budget field.name key.kind value.kind
            (Value.zeroOf key.kind, Value.zeroOf value.kind)
        return m.putEntry field.number entry) >>= fun m => pure (m, seen) := by
  cases h with
  | map hmap h =>
    rw [hmap] at hc
    cases hc
    rw [Nested.apply, Nested.mapField_eq, nested_entry, h.name, h.number]
    simp only [Nested.entryFields_eq h]
  | field h => exact absurd hc (h.not_map key value)

theorem byFrame_valueOf (budget : Nat) (field : String) (kind : Kind) :
    ByFrame kind.wireType ((set.nested budget).valueOf field kind) := by
  cases kind with
  | scalar kind => exact (byFrame_scalar kind).map
  | string => exact (byFrame_text field).map
  | bytes => exact byFrame_span.map
  | message type => exact ((byFrame_kept.keeps_nested set budget).message _ _).map
  | group type => exact ByFrame.throw _

theorem byFrame_mergeSide (budget : Nat) (key : Key) (field : String) (kind : Kind) (slot : Value) :
    ByFrame key.wireType ((set.nested budget).mergeSide key field kind slot) := by
  unfold Nested.mergeSide
  apply ByFrame.expect
  split
  · exact ((byFrame_kept.keeps_nested set budget).message _ _).map
  · exact set.byFrame_valueOf budget field kind

theorem claimsByFrame_claimSide (budget : Nat) (name : String) (keyKind valueKind : Kind) :
    ClaimsByFrame ((set.nested budget).claimSide name keyKind valueKind) := by
  intro key entry body hc
  unfold Nested.claimSide at hc
  split at hc
  · cases hc
    exact (set.byFrame_mergeSide budget key _ keyKind entry.1).map
  · cases hc
    exact (set.byFrame_mergeSide budget key _ valueKind entry.2).map
  · cases hc

end DecoderSet

end ProtoPlan.Dynamic
