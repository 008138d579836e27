import ProtoPlan.Proofs.Wire.Packed
import ProtoPlan.Proofs.Plan.Message

/-!
The capacity hints of packed fields. A rule of a plan counts the elements of a block in the way of
the kind that it reads, so what holds of the loop over elements of a kind holds of the fields of
plans: the hint is never below the number of elements read, and exact on a block that decodes unless
its elements are flags.
-/

namespace ProtoPlan

open Wire Schema
open ProtoPlan.Dynamic (Nested Value)

/-- A rule counts elements as the kind of its field asks. -/
theorem Rule.packed_ofField {scope : Scope} {message : Message} {field : Field} {bit : Option Nat}
    {rule : FieldRule} (h : Rule.ofField scope message field bit = .ok (.field rule))
    {count : ElementCount} (hcount : rule.packed = some count) :
    count = field.kind.elementCount := by
  obtain ⟨layout, -, hrule⟩ := ofField_eq_ok_iff.1 h
  cases hrule with
  | field =>
    dsimp only at hcount
    split at hcount
    · exact (Option.some.inj hcount).symm
    · cases hcount

/-- A packable rule reads numbers and counts as the numbers of their kind are counted. -/
theorem Rule.scalar_of_packed {scope : Scope} {message : Message} {field : Field}
    {bit : Option Nat} {rule : FieldRule}
    (h : Rule.ofField scope message field bit = .ok (.field rule)) {count : ElementCount}
    (hcount : rule.packed = some count) :
    ∃ kind : Scalar, rule.read = .scalar kind ∧ count = kind.elementCount := by
  cases Rule.fits_ofField h with
  | field hfits =>
    obtain ⟨-, hpackable⟩ := hfits.packed.1 (by rw [hcount]; rfl)
    obtain ⟨kind, hread⟩ := hfits.read.isPackable_iff.1 hpackable
    have hkind : field.kind = .scalar kind := Read.fits_scalar_iff.1 (hread ▸ hfits.read)
    refine ⟨kind, hread, ?_⟩
    rw [packed_ofField h hcount, hkind]
    rfl

theorem Plan.packed_ofMessage {scope : Scope} {message : Message} {plan : Plan}
    (h : ofMessage scope message = .ok plan) {rule : FieldRule} (hrule : .field rule ∈ plan.rules)
    {count : ElementCount} (hcount : rule.packed = some count) :
    ∃ kind : Scalar, rule.read = .scalar kind ∧ count = kind.elementCount := by
  obtain ⟨field, -, bit, hfield⟩ := exists_of_forall₂ (rules_ofMessage h) hrule
  exact Rule.scalar_of_packed hfield hcount

/-- The elements that a rule reads off a block, and what becomes of a record with the block: they
are appended to what the field holds, or the record fails. -/
structure FieldRule.ReadsBlock (rule : FieldRule) (block : Bytes) (values : List Value)
    (outcome : Except Fault Unit) : Prop where
  elements : ∀ nested : Nested, Elements (nested.value rule.name rule.read) block values outcome
  record : ∀ (nested : Nested) (key : Key) (m : Dynamic.Message) (bytes rest : Bytes),
    key.wireType = .lengthDelimited → Reader.span bytes = .ok block rest →
    nested.plainField rule key m bytes =
      match outcome with
      | .ok () => .ok (m.set rule.number (.list (m.list rule.number ++ values))) rest
      | .error fault => .error fault rest

theorem FieldRule.readsBlock {rule : FieldRule} {kind : Scalar} (hread : rule.read = .scalar kind)
    (hpacked : rule.packed.isSome = true) {block : Bytes} {vs : List ScalarValue}
    {outcome : Except Fault Unit} (h : Elements kind.read block vs outcome) :
    rule.ReadsBlock block (vs.map .scalar) outcome := by
  have helements (nested : Nested) :
      Elements (nested.value rule.name rule.read) block (vs.map .scalar) outcome := by
    rw [hread]
    exact h.map Value.scalar
  refine ⟨helements, fun nested key m bytes rest hkey hspan => ?_⟩
  have hshorter {bytes rest : Bytes} {v : Value}
      (h : nested.value rule.name rule.read bytes = .ok v rest) : rest.length < bytes.length := by
    rw [hread] at h
    obtain ⟨a, mid, ha, hv⟩ := Reader.bind_eq_ok_iff.1 h
    cases hv
    exact Scalar.read_shorter ha
  have hloop := (helements nested).elements_eq hshorter (m.list rule.number)
  have hblock : (rule.packed.isSome && key.wireType == .lengthDelimited) = true := by
    simp [hpacked, hkey]
  rw [Nested.plainField, if_pos hblock, Reader.delimited]
  simp only [bind, EStateM.bind, hspan, Reader.within]
  rw [Reader.run] at hloop
  cases hrun : Reader.elements (nested.value rule.name rule.read) (m.list rule.number) block with
  | ok values left =>
    rw [hrun] at hloop
    cases outcome with
    | ok =>
      cases hloop
      rfl
    | error fault => cases hloop
  | error fault left =>
    rw [hrun] at hloop
    cases outcome with
    | ok => cases hloop
    | error fault' =>
      cases hloop
      rfl

/-- The hint of a packable field is at most the length of the block and at least the number of
elements that are read off it before it ends or fails. When the block is read to its end, the hint
is the number of elements appended, unless these are flags. -/
theorem Plan.packed_hint {scope : Scope} {message : Message} {plan : Plan}
    (hplan : ofMessage scope message = .ok plan) {rule : FieldRule}
    (hrule : .field rule ∈ plan.rules) {count : ElementCount} (hcount : rule.packed = some count)
    (block : Bytes) :
    ∃ hint values outcome, count.hint block = some hint ∧ rule.ReadsBlock block values outcome ∧
      values.length ≤ hint ∧ hint ≤ block.length ∧
      (outcome = .ok () → rule.read ≠ .scalar .bool → values.length = hint) := by
  obtain ⟨kind, hread, rfl⟩ := packed_ofMessage hplan hrule hcount
  obtain ⟨weigh, hweigh⟩ := kind.exists_weighs
  obtain ⟨vs, outcome, h⟩ := Elements.exists_of_shorter Scalar.read_shorter block
  refine ⟨weigh block, vs.map .scalar, outcome, hweigh.hint block,
    FieldRule.readsBlock hread (by rw [hcount]; rfl) h, ?_, hweigh.le_length block, ?_⟩
  · rw [List.length_map]
    exact h.length_le hweigh.step_le
  · intro hdone hbool
    have hne : kind ≠ .bool := by
      rintro rfl
      exact hbool hread
    rw [List.length_map]
    exact h.length_eq hweigh.nil (hweigh.step_eq hne) hdone

/-- Two elements in three bytes, of which the second is overlong. -/
theorem Plan.packed_hint_overlong :
    let message : Message := { name := "M", fields := [⟨"a", 1, .scalar .int32, .repeated⟩] }
    let scope := Scope.ofTypes {} { messages := [message] } Scope.knownTypes
    let block : Bytes := [2, 0x83, 0]
    ∃ plan rule values, ofMessage scope message = .ok plan ∧ .field rule ∈ plan.rules ∧
      rule.packed = some .varintTerminators ∧ rule.ReadsBlock block values (.ok ()) ∧
      values = [.scalar (.int32 2), .scalar (.int32 3)] ∧
      ElementCount.varintTerminators.hint block = some 2 := by
  intro message scope block
  let rule : FieldRule :=
    { name := "a", fieldName := "a", number := 1, wireType := .varint, read := .scalar .int32
      store := .append, packed := some .varintTerminators, requiredBit := none }
  have hrules : ((ofMessage scope message).toOption.bind fun plan => some plan.rules) =
      some [.field rule] := by
    decide +kernel
  obtain ⟨plan, hplan, hrule⟩ := exists_ok_of_bind hrules
  have hmem : .field rule ∈ plan.rules := by simp [Option.some.inj hrule]
  obtain ⟨hint, values, outcome, hhint, hreads, -, -, hexact⟩ :=
    packed_hint hplan hmem rfl block
  have helements : Elements (Nested.value ((⟨[]⟩ : Dynamic.DecoderSet).nested 0) "a"
      (.scalar .int32)) block [.scalar (.int32 2), .scalar (.int32 3)] (.ok ()) :=
    .more (List.cons_ne_nil _ _) rfl (.more (List.cons_ne_nil _ _) rfl .done)
  obtain ⟨rfl, rfl⟩ := (hreads.elements _).unique helements
  refine ⟨plan, rule, _, hplan, hmem, rfl, hreads, rfl, ?_⟩
  rw [hhint, ← hexact rfl (by decide)]
  rfl

end ProtoPlan
