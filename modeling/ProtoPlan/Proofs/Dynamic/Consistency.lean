import ProtoPlan.Proofs.Dynamic.Hints
import ProtoPlan.Proofs.Dynamic.Shape
import ProtoPlan.Proofs.Plan.Causes
import ProtoPlan.Proofs.Plan.WellFormed

/-!
Rules agree with themselves. Framing, read, store and count of a rule come out of separate tables;
that they go together is what decoding relies on where it is ready for anything. In no plan of a
schema does a rule merge what is no message, or key a map by what makes no key.
-/

namespace ProtoPlan

open Wire Schema Reader
open ProtoPlan.Dynamic (DecoderSet Nested)

section Rules

/-- Whoever reads the value, and whatever a message is merged into, a successful read goes as far as
skipping a value of that wire type would. -/
structure Read.FramedBy (read : Read) (wireType : WireType) : Prop where
  value : ∀ (set : DecoderSet) (budget : Nat) (field : String) (skipBudget : Nat),
    Follows ((set.nested budget).value field read) (skipValue skipBudget wireType)
  merged : ∀ target, read = .message target →
    ∀ (set : DecoderSet) (budget : Nat) (m : Dynamic.Message) (skipBudget : Nat),
      Follows ((set.nested budget).message target.name m) (skipValue skipBudget wireType)

/-- Every value takes that many bytes. -/
def Read.TakesWidth (read : Read) (width : Nat) : Prop :=
  ∀ (nested : Nested) (field : String) bytes v rest,
    nested.value field read bytes = .ok v rest → bytes.length = rest.length + width

/-- What is read is a truth value, a string or an integer that is no enum. -/
def Read.IsKey : Read → Prop
  | .string => True
  | .scalar kind => kind ≠ .enum ∧ kind ≠ .float ∧ kind ≠ .double
  | .bytes | .message _ => False

def Wire.WireType.IsGroup (wireType : WireType) : Prop :=
  wireType = .startGroup ∨ wireType = .endGroup

/-- A rule for single values that goes together. -/
structure FieldRule.Consistent (rule : FieldRule) : Prop where
  framed : rule.read.FramedBy rule.wireType
  noGroup : ¬ rule.wireType.IsGroup
  merge : ∀ boxed, rule.store = .merge boxed → ∃ target, rule.read = .message target
  packed : rule.packed.isSome = true ↔ rule.store = .append ∧ ∃ kind, rule.read = .scalar kind
  width : ∀ count, rule.packed = some count →
    ∀ width, count = .fixedWidth width ↔ rule.read.TakesWidth width
  required : rule.requiredBit.isSome = true →
    rule.store = .set ∨ ∃ boxed, rule.store = .merge boxed

structure EntrySide.Consistent (side : EntrySide) : Prop where
  framed : side.read.FramedBy side.wireType
  noGroup : ¬ side.wireType.IsGroup

structure MapRule.Consistent (rule : MapRule) : Prop where
  key : rule.key.Consistent
  value : rule.value.Consistent
  keyed : rule.key.read.IsKey

def Rule.Consistent : Rule → Prop
  | .field rule => rule.Consistent
  | .map rule => rule.Consistent

section Read

variable {kind : Kind} {read : Read}

theorem Read.Fits.framedBy (h : Read.Fits kind read) : read.FramedBy kind.wireType := by
  constructor
  · intro set budget field skipBudget
    have hkeeps := Dynamic.framed_kept.keeps_nested set budget
    exact (Dynamic.framed_kept.value hkeeps h field).follows_skipValue skipBudget
  · rintro target rfl set budget m skipBudget
    cases h
    exact ((set.framed_nested budget).message target.name m).follows_skipValue skipBudget

theorem Read.Fits.noGroup (h : Read.Fits kind read) : ¬ kind.wireType.IsGroup := by
  rintro (hgroup | hgroup)
  all_goals
    cases h with
    | scalar kind => cases kind <;> cases hgroup
    | string | bytes | message => cases hgroup

theorem Read.Fits.isKey (h : Read.Fits kind read) (hkey : kind.IsKey) : read.IsKey := by
  rcases hkey with rfl | ⟨scalar, rfl, hscalar⟩
  · cases h
    trivial
  · cases h
    exact hscalar

theorem Read.takesWidth_scalar_iff {kind : Scalar} {width : Nat} :
    (Read.scalar kind).TakesWidth width ↔ ∀ bytes v rest, kind.read bytes = .ok v rest →
      bytes.length = rest.length + width := by
  constructor
  · intro h bytes v rest hread
    let nested : Nested := DecoderSet.nested ⟨[]⟩ 0
    exact h nested "" bytes (.scalar v) rest (bind_eq_ok_iff.2 ⟨v, rest, hread, rfl⟩)
  · intro h nested field bytes v rest hread
    obtain ⟨v, mid, hread, hv⟩ := bind_eq_ok_iff.1 hread
    cases hv
    exact h bytes v rest hread

end Read

theorem EntrySide.Fits.consistent {kind : Kind} {side : EntrySide} (h : EntrySide.Fits kind side) :
    side.Consistent := by
  refine ⟨?_, ?_⟩ <;> rw [h.wireType]
  · exact h.read.framedBy
  · exact h.read.noGroup

section OfField

variable {scope : Scope} {message : Message} {field : Field} {bit : Option Nat}

/-- A required field is written over or merged into. It is never kept as an optional value: its bit
alone tells its presence. -/
theorem Rule.store_of_required (hrequired : field.isRequired = true) {rule : FieldRule}
    (h : Rule.ofField scope message field bit = .ok (.field rule)) :
    rule.store = .set ∨ ∃ boxed, rule.store = .merge boxed := by
  obtain ⟨layout, hlayout, hrule⟩ := ofField_eq_ok_iff.1 h
  cases hrule with
  | field hstore =>
    rcases Layout.storage_of_required hrequired hlayout with heq | heq
    · rw [heq] at hstore
      cases hstore
      exact .inl rfl
    · rw [heq] at hstore
      cases hstore
      exact .inr ⟨_, rfl⟩

theorem FieldRule.Fits.message_of_merge {rule : FieldRule} (h : FieldRule.Fits field bit rule)
    {boxed : Bool} (hmerge : rule.store = .merge boxed) :
    ∃ target, rule.read = .message target := by
  have hstore := h.store
  rw [hmerge] at hstore
  refine h.read.isMessage_iff.1 ?_
  cases hstore with
  | merge _ _ hmessage => exact hmessage
  | set _ _ _ hor => rcases hor with hset | hset <;> cases hset

theorem Rule.fixedWidth_iff {rule : FieldRule}
    (h : Rule.ofField scope message field bit = .ok (.field rule)) {count : ElementCount}
    (hcount : rule.packed = some count) (width : Nat) :
    count = .fixedWidth width ↔ rule.read.TakesWidth width := by
  obtain ⟨kind, hread, rfl⟩ := Rule.scalar_of_packed h hcount
  rw [hread, Read.takesWidth_scalar_iff]
  exact kind.elementCount_eq_fixedWidth_iff width

/-- The rule of a field goes together. Its bit is that of a required field, if it has one. -/
theorem Rule.consistent_ofField {rule : Rule} (hbit : bit.isSome = true → field.isRequired = true)
    (h : Rule.ofField scope message field bit = .ok rule) : rule.Consistent := by
  cases Rule.fits_ofField h with
  | @field rule hfits =>
    exact
      { framed := hfits.wireType ▸ hfits.read.framedBy
        noGroup := hfits.wireType ▸ hfits.read.noGroup
        merge := fun boxed => hfits.message_of_merge
        packed := hfits.packed.trans (and_congr_right' hfits.read.isPackable_iff)
        width := fun count hcount => Rule.fixedWidth_iff h hcount
        required := fun hrequired =>
          Rule.store_of_required (hbit (hfits.requiredBit ▸ hrequired)) h }
  | map _ hfits =>
    exact
      { key := hfits.key.consistent
        value := hfits.value.consistent
        keyed := hfits.key.read.isKey (Kind.isMapKey_iff.1 hfits.keyKind) }

theorem Plan.consistent_ofMessage {plan : Plan} (h : ofMessage scope message = .ok plan)
    {rule : Rule} (hrule : rule ∈ plan.rules) : rule.Consistent := by
  have hrules := forall₂_rulesOf_bit (ofMessage_eq_ok_iff.1 h).2.1
  obtain ⟨field, -, bit, hbit, hof⟩ := exists_of_forall₂ hrules hrule
  exact Rule.consistent_ofField hbit hof

end OfField

end Rules

namespace Dynamic

/-- What is done with a message where a rule asks for what no plan has it ask: to merge a value that
is no message, or to put an entry under a value that makes no key. -/
abbrev Fallback := Rule → Message → Reader Message

namespace Nested

variable (fallback : Fallback) (nested : Nested)

/-- One value stored as the rule says; `fallback` stands in for merging what is no message. -/
def storeOr (rule : FieldRule) (m : Message) : Reader Message :=
  match rule.store, rule.read with
  | .merge _, .message _ => nested.store rule m
  | .merge _, _ => fallback (.field rule) m
  | _, _ => nested.store rule m

def plainFieldOr (rule : FieldRule) (key : Key) (m : Message) : Reader Message :=
  if rule.packed.isSome && key.wireType == .lengthDelimited then nested.plainField rule key m
  else expect key rule.wireType rule.name (nested.storeOr fallback rule m)

/-- A record of a map field; `fallback` stands in for leaving out an entry without a key. -/
def mapFieldOr (rule : MapRule) (key : Key) (m : Message) : Reader Message :=
  expect key .lengthDelimited rule.name do
    let entry ← nested.entry rule
    if entry.1.toKey?.isSome then return m.putEntry rule.number entry
    else fallback (.map rule) m

def applyOr (rule : Rule) (key : Key) (m : Message) (seen : List Nat) :
    Reader (Message × List Nat) :=
  match rule with
  | .field rule =>
    do return (← nested.plainFieldOr fallback rule key m, rule.requiredBit.toList ++ seen)
  | .map rule => do return (← nested.mapFieldOr fallback rule key m, seen)

end Nested

/-- Merging by a plan, with `fallback` in the places that no rule should come to. -/
def mergeByPlanOr (fallback : Fallback) (budget : Nat) (nested : Nested) (plan : Plan)
    (m : Message) : Reader Message := do
  let (m, seen) ← Reader.fields budget
    (fun key (m, seen) =>
      (plan.rule? key.number).map fun rule => nested.applyOr fallback rule key m seen)
    (fun number raw (m, seen) => (keepUnclaimed plan number raw m, seen))
    (m, [])
  if (List.range plan.requiredCount).all (· ∈ seen) then return m
  else throw (.requiredFieldMissing plan.message)

namespace DecoderSet

variable (set : DecoderSet) (fallback : Fallback)

def mergeWithOr (budget : Nat) (nested : Nested) (name : String) (m : Message) : Reader Message :=
  match set.planFor? name with
  | some plan => mergeByPlanOr fallback budget nested plan m
  | none => throw (.unknownMessage name)

def nestedOr : (budget : Nat) → Nested
  | 0 =>
    { message := fun _ _ => throw .recursionLimitReached
      entry := fun _ => throw .recursionLimitReached }
  | budget + 1 =>
    { message := fun name m =>
        delimited (set.mergeWithOr fallback budget (nestedOr budget) name m)
      entry := fun rule => delimited ((nestedOr budget).entryFields budget rule) }

/-- Merges a buffer into `m`, with `fallback` in the places that no rule should come to. -/
def mergeOr (m : Message) (bytes : Bytes) : Except Fault Message :=
  (set.mergeWithOr fallback Cursor.defaultBudget (set.nestedOr fallback Cursor.defaultBudget) m.name
    m).run bytes

end DecoderSet

section Unreachable

variable {set : DecoderSet} {fallback : Fallback} {nested : Nested}

/-- What a key is read as makes a key. -/
theorem HasType.isSome_toKey? {read : Read} {v : Value} (h : HasType set read v)
    (hkey : read.IsKey) : v.toKey?.isSome = true := by
  cases h with
  | @scalar kind v hadmits =>
    obtain ⟨henum, hfloat, hdouble⟩ := hkey
    cases kind <;> cases v <;> first | rfl | contradiction
  | string => rfl
  | bytes | message => cases hkey

namespace Nested

theorem storeOr_eq {rule : FieldRule} (h : rule.Consistent) (m : Message) :
    nested.storeOr fallback rule m = nested.store rule m := by
  unfold storeOr
  split
  · rfl
  · rename_i boxed hstore hnot
    obtain ⟨target, hread⟩ := h.merge boxed hstore
    exact absurd hread (hnot target)
  · rfl

theorem plainFieldOr_eq {rule : FieldRule} (h : rule.Consistent) (key : Key) (m : Message) :
    nested.plainFieldOr fallback rule key m = nested.plainField rule key m := by
  unfold plainFieldOr
  split
  · rfl
  · rename_i hsingle
    rw [plainField, if_neg hsingle, storeOr_eq h]

theorem mapFieldOr_eq {rule : MapRule} (h : rule.Consistent) (hnested : nested.Shapes set)
    (key : Key) (m : Message) :
    nested.mapFieldOr fallback rule key m = nested.mapField rule key m := by
  rw [mapField_eq, mapFieldOr]
  congr 1
  refine (hnested.entry rule).bind_congr fun entry hentry => ?_
  rw [if_pos (hentry.1.isSome_toKey? h.keyed)]

theorem applyOr_eq {rule : Rule} (h : rule.Consistent) (hnested : nested.Shapes set) (key : Key)
    (m : Message) (seen : List Nat) :
    nested.applyOr fallback rule key m seen = nested.apply rule key m seen := by
  cases rule with
  | field rule => rw [applyOr, apply, plainFieldOr_eq h]
  | map rule => rw [applyOr, apply, mapFieldOr_eq h hnested]

end Nested

theorem mergeByPlanOr_eq {plan : Plan} (h : ∀ rule ∈ plan.rules, rule.Consistent)
    (hnested : nested.Shapes set) (budget : Nat) (m : Message) :
    mergeByPlanOr fallback budget nested plan m = mergeByPlan budget nested plan m := by
  have happly (number : Nat) (key : Key) (m : Message) (seen : List Nat) :
      (plan.rule? number).map (nested.applyOr fallback · key m seen) =
        (plan.rule? number).map (nested.apply · key m seen) := by
    cases hrule : plan.rule? number with
    | none => rfl
    | some rule =>
      have hmem : rule ∈ plan.rules := List.mem_of_find?_eq_some hrule
      rw [Option.map_some, Option.map_some, Nested.applyOr_eq (h rule hmem) hnested]
  unfold mergeByPlanOr mergeByPlan
  simp only [happly]

variable {options : Options} {schema : Schema}
  (hset : DecoderSet.ofSchema options schema = .ok set)
  (hrules : ∀ plan ∈ set.plans, ∀ rule ∈ plan.rules, rule.Consistent)
include hrules

theorem DecoderSet.mergeWithOr_eq (hnested : nested.Shapes set) (budget : Nat) (name : String)
    (m : Message) :
    set.mergeWithOr fallback budget nested name m = set.mergeWith budget nested name m := by
  unfold mergeWithOr mergeWith
  cases hplan : set.planFor? name with
  | none => rfl
  | some plan =>
    refine mergeByPlanOr_eq (fun rule hrule => ?_) hnested budget m
    rcases mem_of_planFor? hplan with hmem | rfl
    · exact hrules plan hmem rule hrule
    · cases hrule

include hset

/-- Records at any depth never come to the fallback. -/
theorem DecoderSet.nestedOr_eq (budget : Nat) :
    set.nestedOr fallback budget = set.nested budget := by
  induction budget with
  | zero => rfl
  | succ budget ih =>
    have hmerge (name : String) (m : Message) :
        set.mergeWithOr fallback budget (set.nested budget) name m =
          set.mergeWith budget (set.nested budget) name m :=
      mergeWithOr_eq hrules (shapes_nested hset budget) budget name m
    simp only [nestedOr, nested, ih, hmerge]

theorem DecoderSet.mergeOr_eq (m : Message) (bytes : Bytes) :
    set.mergeOr fallback m bytes = set.merge m bytes := by
  rw [mergeOr, merge, nestedOr_eq hset hrules,
    mergeWithOr_eq hrules (shapes_nested hset Cursor.defaultBudget)]

end Unreachable

end Dynamic

/-- All rules that planning makes go together, those of the `google.protobuf` messages included. So
the fallbacks of planning and decoding are never reached: no schema is refused for a map that is not
declared, and whatever were done in the place of merging what is no message, or of an entry without
a key, every buffer would be decoded as it is. -/
theorem Schema.plans_consistent (options : Options) (schema : Schema) :
    (∀ message field, schema.plans options ≠ .error (.invalidMapEntry message field .missing) ∧
      DecoderSet.ofSchema options schema ≠ .error (.invalidMapEntry message field .missing)) ∧
    ∀ plans, schema.plans options = .ok plans →
      ∃ set, DecoderSet.ofSchema options schema = .ok set ∧ plans ⊆ set.plans ∧
        (∀ plan ∈ set.plans, ∀ rule ∈ plan.rules, rule.Consistent) ∧
        ∀ fallback m bytes, set.mergeOr fallback m bytes = set.merge m bytes := by
  constructor
  · intro message field
    refine ⟨fun h => avoids_plans message field options schema _ h rfl, fun h => ?_⟩
    exact (avoids_allPlans message field options schema).map DecoderSet.mk _ h rfl
  · intro plans hplans
    obtain ⟨known, hset⟩ := DecoderSet.exists_known hplans
    have hrules (plan : Plan) (hplan : plan ∈ plans ++ known) (rule : Rule)
        (hrule : rule ∈ plan.rules) : rule.Consistent := by
      obtain ⟨source, scope, message, -, -, hof⟩ := DecoderSet.exists_ofMessage hset hplan
      exact Plan.consistent_ofMessage hof hrule
    refine ⟨_, hset, List.subset_append_left plans known, hrules, fun fallback m bytes => ?_⟩
    exact Dynamic.DecoderSet.mergeOr_eq hset hrules m bytes

/-- A packable list of fixed width, a map whose field is declared to be of another kind, a required
message and a member of a oneof. -/
theorem Schema.plans_consistent_mixed :
    let schema : Schema :=
      { messages := [{ name := "M",
                       fields := [⟨"marks", 1, .scalar .fixed32, .repeated⟩,
                                  ⟨"by_id", 2, .scalar .float,
                                    .map (.singular "key" 1 (.scalar .sint64))
                                      (.singular "value" 2 (.message "N"))⟩,
                                  ⟨"n", 3, .message ".N", .required⟩,
                                  ⟨"text", 4, .string, .oneof "pick"⟩] },
                     { name := "N", fields := [⟨"flag", 1, .scalar .bool, .required⟩] }] }
    let marks : FieldRule :=
      { name := "marks", fieldName := "marks", number := 1, wireType := .fixed32
        read := .scalar .fixed32, store := .append, packed := some (.fixedWidth 4)
        requiredBit := none }
    let byId : MapRule :=
      { name := "by_id", fieldName := "by_id", number := 2, key := ⟨.varint, .scalar .sint64⟩
        value := ⟨.lengthDelimited, .message ⟨"N", "N", .schema, false⟩⟩ }
    ∃ plan more set, schema.plans {} = .ok (plan :: more) ∧
      .field marks ∈ plan.rules ∧ marks.read.TakesWidth 4 ∧
      .map byId ∈ plan.rules ∧ byId.key.read.IsKey ∧
      DecoderSet.ofSchema {} schema = .ok set ∧
      ∀ fallback bytes, set.mergeOr fallback (.ofName "M") bytes = set.decode "M" bytes := by
  intro schema marks byId
  have hrun : ((schema.plans {}).toOption.bind fun plans => plans.head?.map fun plan =>
      decide (.field marks ∈ plan.rules ∧ .map byId ∈ plan.rules)) = some true := by
    rw [Schema.plans_eq rfl]
    decide +kernel
  obtain ⟨plans, hplans, hhead⟩ := exists_ok_of_bind hrun
  cases plans with
  | nil => cases hhead
  | cons plan more =>
    obtain ⟨hmarks, hbyId⟩ := of_decide_eq_true (Option.some.inj hhead)
    obtain ⟨set, hset, hsub, hrules, hmerge⟩ := (Schema.plans_consistent {} schema).2 _ hplans
    have hplan : plan ∈ set.plans := hsub List.mem_cons_self
    have hmarksConsistent : marks.Consistent := hrules plan hplan _ hmarks
    have hbyIdConsistent : byId.Consistent := hrules plan hplan _ hbyId
    exact ⟨plan, more, set, hplans, hmarks, (hmarksConsistent.width _ rfl 4).1 rfl, hbyId,
      hbyIdConsistent.keyed, hset, fun fallback bytes => hmerge fallback (.ofName "M") bytes⟩

end ProtoPlan
