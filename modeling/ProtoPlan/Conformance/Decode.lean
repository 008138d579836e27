import ProtoPlan.Conformance.Basic
import ProtoPlan.WellKnown.Decode
import ProtoPlan.Wire.PresenceBits

/-!
Decoders of the `conformance` package, one field at a time and straight into the native types. A
field that a type does not declare is kept with its unknown bytes, or among the extensions if its
number is in an extension range.
-/

namespace ProtoPlan.Conformance

open Wire WellKnown

def Scalars.merge (budget : Nat) : Scalars → Reader Scalars :=
  Reader.fields budget (fun key s =>
    match key.number with
    | 1 => some <| Reader.expect key .fixed64 "f_double" do
      return { s with double := ← Reader.fixed64 }
    | 2 => some <| Reader.expect key .fixed32 "f_float" do
      return { s with float := ← Reader.fixed32 }
    | 3 => some <| Reader.expect key .varint "f_int32" do return { s with int32 := ← Reader.int32 }
    | 4 => some <| Reader.expect key .varint "f_int64" do return { s with int64 := ← Reader.int64 }
    | 5 => some <| Reader.expect key .varint "f_uint32" do
      return { s with uint32 := ← Reader.uint32 }
    | 6 => some <| Reader.expect key .varint "f_uint64" do
      return { s with uint64 := ← Reader.uint64 }
    | 7 => some <| Reader.expect key .varint "f_sint32" do
      return { s with sint32 := ← Reader.sint32 }
    | 8 => some <| Reader.expect key .varint "f_sint64" do
      return { s with sint64 := ← Reader.sint64 }
    | 9 => some <| Reader.expect key .fixed32 "f_fixed32" do
      return { s with fixed32 := ← Reader.fixed32 }
    | 10 => some <| Reader.expect key .fixed64 "f_fixed64" do
      return { s with fixed64 := ← Reader.fixed64 }
    | 11 => some <| Reader.expect key .fixed32 "f_sfixed32" do
      return { s with sfixed32 := ← Reader.sfixed32 }
    | 12 => some <| Reader.expect key .fixed64 "f_sfixed64" do
      return { s with sfixed64 := ← Reader.sfixed64 }
    | 13 => some <| Reader.expect key .varint "f_bool" do return { s with bool := ← Reader.bool }
    | 14 => some <| Reader.expect key .lengthDelimited "f_string" do
      return { s with string := ← Reader.text "f_string" }
    | 15 => some <| Reader.expect key .lengthDelimited "f_bytes" do
      return { s with bytes := ← Reader.span }
    | 16 => some <| Reader.expect key .varint "f_enum" do return { s with enum := ← Reader.int32 }
    | _ => none)
    fun _ raw s => { s with unknown := s.unknown ++ raw }

def Repeated.merge (budget : Nat) : Repeated → Reader Repeated :=
  Reader.fields budget (fun key r =>
    match key.number with
    | 1 => some do
      return { r with int32 := ← Reader.packable key .varint "r_int32" Reader.int32 r.int32 }
    | 2 => some do
      return { r with sint64 := ← Reader.packable key .varint "r_sint64" Reader.sint64 r.sint64 }
    | 3 => some do
      return { r with
        fixed64 := ← Reader.packable key .fixed64 "r_fixed64" Reader.fixed64 r.fixed64 }
    | 4 => some do
      return { r with double := ← Reader.packable key .fixed64 "r_double" Reader.fixed64 r.double }
    | 5 => some do
      return { r with bool := ← Reader.packable key .varint "r_bool" Reader.bool r.bool }
    | 6 => some <| Reader.expect key .lengthDelimited "r_string" do
      return { r with string := r.string ++ [← Reader.text "r_string"] }
    | 7 => some <| Reader.expect key .lengthDelimited "r_bytes" do
      return { r with bytes := r.bytes ++ [← Reader.span] }
    | 8 => some do
      return { r with enum := ← Reader.packable key .varint "r_enum" Reader.int32 r.enum }
    | _ => none)
    fun _ raw r => { r with unknown := r.unknown ++ raw }

def Inner.merge (budget : Nat) : Inner → Reader Inner :=
  Reader.fields budget (fun key inner =>
    match key.number with
    | 1 => some <| Reader.expect key .varint "value" do
      return { inner with value := ← Reader.int32 }
    | 2 => some <| Reader.expect key .lengthDelimited "label" do
      return { inner with label := ← Reader.text "label" }
    | _ => none)
    fun _ raw inner => { inner with unknown := inner.unknown ++ raw }

/-- The key and the value of a `by_name` entry. The last key wins and values merge. -/
def Nested.mergeByName (budget : Nat) : String × Inner → Reader (String × Inner) :=
  Reader.fields budget (fun key (name, inner) =>
    match key.number with
    | 1 => some <| Reader.expect key .lengthDelimited "by_name.key" do
      return (← Reader.text "by_name.key", inner)
    | 2 => some <| Reader.expect key .lengthDelimited "by_name.value" do
      return (name, ← Reader.nested budget fun budget => Inner.merge budget inner)
    | _ => none) Reader.ignore

/-- The key and the value of a `labels` entry. The last of each wins. -/
def Nested.mergeLabel (budget : Nat) : Int32 × String → Reader (Int32 × String) :=
  Reader.fields budget (fun key (number, label) =>
    match key.number with
    | 1 => some <| Reader.expect key .varint "labels.key" do return (← Reader.int32, label)
    | 2 => some <| Reader.expect key .lengthDelimited "labels.value" do
      return (number, ← Reader.text "labels.value")
    | _ => none) Reader.ignore

def Nested.merge (budget : Nat) : Nested → Reader Nested :=
  Reader.fields budget (fun key n =>
    match key.number with
    | 1 => some <| Reader.expect key .lengthDelimited "child" do
      let child ← Reader.nested budget fun budget => Inner.merge budget (n.child.getD {})
      return { n with child := some child }
    | 2 => some <| Reader.expect key .lengthDelimited "children" do
      let child ← Reader.nested budget fun budget => Inner.merge budget {}
      return { n with children := n.children ++ [child] }
    | 3 => some <| Reader.expect key .lengthDelimited "by_name" do
      let (name, inner) ← Reader.nested budget fun budget => Nested.mergeByName budget ("", {})
      return { n with byName := n.byName.insert name inner }
    | 4 => some <| Reader.expect key .lengthDelimited "labels" do
      let (number, label) ← Reader.nested budget fun budget => Nested.mergeLabel budget (0, "")
      return { n with labels := n.labels.insert number label }
    | 5 => some <| Reader.expect key .lengthDelimited "inner_choice" do
      let inner ← Reader.nested budget fun budget => Inner.merge budget {}
      return { n with pick := some (.innerChoice inner) }
    | 6 => some <| Reader.expect key .lengthDelimited "text_choice" do
      return { n with pick := some (.textChoice (← Reader.text "text_choice")) }
    | 7 => some <| Reader.expect key .lengthDelimited "at" do
      let time ← Reader.nested budget fun budget => Time.merge budget (n.time.getD {})
      return { n with time := some time }
    | 8 => some <| Reader.expect key .lengthDelimited "count" do
      let count ← Reader.nested budget fun budget => Wrapper.int32 budget (n.count.getD ⟨0⟩)
      return { n with count := some count }
    | 9 => some <| Reader.expect key .lengthDelimited "nothing" do
      let nothing ← Reader.nested budget fun budget =>
        WellKnown.Empty.merge budget (n.nothing.getD {})
      return { n with nothing := some nothing }
    | _ => none)
    fun _ raw n => { n with unknown := n.unknown ++ raw }

/-- The fields of a tree, whose branches are merged by `branch`. -/
def Node.mergeWith (budget : Nat) (branch : Node → Reader Node) : Node → Reader Node :=
  Reader.fields budget (fun key node =>
    match key.number with
    | 1 => some <| Reader.expect key .varint "value" do
      return { node with value := ← Reader.int32 }
    | 2 => some <| Reader.expect key .lengthDelimited "left" do
      return { node with left := some (← branch (node.left.getD {})) }
    | 3 => some <| Reader.expect key .lengthDelimited "right" do
      return { node with right := some (← branch (node.right.getD {})) }
    | _ => none)
    fun _ raw node => { node with unknown := node.unknown ++ raw }

/-- A branch takes one level of nesting. -/
def Node.branch : (budget : Nat) → Node → Reader Node
  | 0, _ => throw .recursionLimitReached
  | budget + 1, node => Reader.delimited (Node.mergeWith budget (Node.branch budget) node)

def Node.merge (budget : Nat) : Node → Reader Node := Node.mergeWith budget (Node.branch budget)

/-- The two required fields of `Legacy` have the bits 0 and 1; both must have been seen when the
bytes end, whatever the message held before. -/
def Legacy.merge (budget : Nat) (legacy : Legacy) : Reader Legacy := do
  let (legacy, seen) ← Reader.fields budget (fun key (l, seen) =>
    match key.number with
    | 1 => some <| Reader.expect key .varint "id" do
      return ({ l with id := ← Reader.int32 }, seen.mark 0)
    | 2 => some <| Reader.expect key .lengthDelimited "name" do
      return ({ l with name := ← Reader.text "name" }, seen.mark 1)
    | 3 => some <| Reader.expect key .varint "score" do
      return ({ l with score := some (← Reader.sint32) }, seen)
    | 4 => some <| Reader.expect key .lengthDelimited "tags" do
      return ({ l with tags := l.tags ++ [← Reader.text "tags"] }, seen)
    | 5 => some <| Reader.expect key .lengthDelimited "blob" do
      return ({ l with blob := some (← Reader.span) }, seen)
    | _ => none)
    (fun number raw (l, seen) =>
      if 100 ≤ number ∧ number < 200 then
        ({ l with extensions := l.extensions.append number raw }, seen)
      else ({ l with unknown := l.unknown ++ raw }, seen))
    (legacy, PresenceBits.empty 1)
  match seen.firstMissing 2 with
  | some none => return legacy
  | _ => throw (.requiredFieldMissing "conformance.Legacy")

def Meta.merge (budget : Nat) : Meta → Reader Meta :=
  Reader.fields budget (fun key m =>
    match key.number with
    | 1 => some <| Reader.expect key .lengthDelimited "any" do
      let any ← Reader.nested budget fun budget => Any.merge budget (m.any.getD {})
      return { m with any := some any }
    | 2 => some <| Reader.expect key .lengthDelimited "mask" do
      let mask ← Reader.nested budget fun budget => FieldMask.merge budget (m.mask.getD {})
      return { m with mask := some mask }
    | 3 => some <| Reader.expect key .lengthDelimited "attrs" do
      let attrs ← Reader.nested budget fun budget => Struct.merge budget (m.attrs.getD {})
      return { m with attrs := some attrs }
    | 4 => some <| Reader.expect key .lengthDelimited "source" do
      let source ← Reader.nested budget fun budget => RawMessage.merge budget (m.source.getD {})
      return { m with source := some source }
    | _ => none)
    fun _ raw m => { m with unknown := m.unknown ++ raw }

/-! The types under their full names. -/

def scalars : MessageType Scalars := ⟨"conformance.Scalars", {}, Scalars.merge⟩

def repeated : MessageType Repeated := ⟨"conformance.Repeated", {}, Repeated.merge⟩

def inner : MessageType Inner := ⟨"conformance.Inner", {}, Inner.merge⟩

def nested : MessageType Nested := ⟨"conformance.Nested", {}, Nested.merge⟩

def node : MessageType Node := ⟨"conformance.Node", {}, Node.merge⟩

def legacy : MessageType Legacy := ⟨"conformance.Legacy", {}, Legacy.merge⟩

def metadata : MessageType Meta := ⟨"conformance.Meta", {}, Meta.merge⟩

end ProtoPlan.Conformance
