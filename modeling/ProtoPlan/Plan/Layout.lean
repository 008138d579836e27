import ProtoPlan.Plan.Error

/-!
The layout of a field: how its values are kept in the generated struct and how they are framed on
the wire.
-/

namespace ProtoPlan

open Wire Schema

/-- How a field is kept. The two sides of a map have layouts of their own. -/
inductive Storage (side : Type) where
  /-- The value itself, zero when unset. -/
  | plain
  /-- An optional scalar, string or bytes value. -/
  | optional
  /-- An optional message. -/
  | nullable
  /-- A list in wire order. -/
  | list
  | map (key value : side)
  /-- A variant of the named oneof. -/
  | oneof (name : String)

structure Layout where
  /-- Framing of a single value. -/
  wireType : WireType
  storage : Storage Layout
  /-- Whether a length-delimited record is a block of values. -/
  packable : Bool

namespace Layout

/-- A side of a map entry is a plain value, or a message that may be absent. -/
def ofEntrySide (kind : Kind) : Layout :=
  { wireType := kind.wireType
    storage := if kind.isMessage then .nullable else .plain
    packable := false }

/-- The storage of a map, whose entries must have a singular key under 1, of a kind that can be a
key, and a singular value under 2. -/
def ofEntry (message : Message) (field key value : Field) : Except PlanError (Storage Layout) :=
  if key.number ≠ 1 ∨ value.number ≠ 2 then
    .error (.invalidMapEntry message.name field.name .numbers)
  else if !(key.isSingular && value.isSingular) then
    .error (.invalidMapEntry message.name field.name .cardinality)
  else if !key.kind.isMapKey then .error (.invalidMapKey message.name field.name key.kind)
  else if value.kind.isGroup then .error (.unsupportedGroup message.name field.name)
  else .ok (.map (ofEntrySide key.kind) (ofEntrySide value.kind))

/-- The storage of a field that is no group. -/
def storage? (message : Message) (field : Field) : Except PlanError (Storage Layout) :=
  match field.cardinality with
  | .repeated => .ok .list
  | .map key value => ofEntry message field key value
  | .oneof name => .ok (.oneof name)
  | .optional => .ok (if field.kind.isMessage then .nullable else .optional)
  | .required => .ok (if field.kind.isMessage then .nullable else .plain)
  | .singular =>
    .ok (if field.kind.isMessage then .nullable
      else if message.presence = .explicit then .optional else .plain)

/-- The layout of a field of `message`. -/
def ofField (message : Message) (field : Field) : Except PlanError Layout := do
  if field.kind.isGroup then throw (.unsupportedGroup message.name field.name)
  match ← storage? message field with
  | .map key value =>
    return { wireType := .lengthDelimited, storage := .map key value, packable := false }
  | .list =>
    return { wireType := field.kind.wireType, storage := .list, packable := field.kind.isPackable }
  | storage => return { wireType := field.kind.wireType, storage, packable := false }

end Layout

end ProtoPlan
