import ProtoPlan.Proofs.Plan.Message
import ProtoPlan.Proofs.Wire.Runs

/-!
Plans read values as they are framed. Whatever a fitting rule does with a record, it takes the bytes
that skipping the record would take.
-/

namespace ProtoPlan.Dynamic

open Wire Schema Reader

/-- Embedded messages and map entries are length-delimited. -/
structure Nested.Framed (nested : Nested) : Prop where
  message : ∀ name m, Reader.Framed .lengthDelimited (nested.message name m)
  entry : ∀ rule, Reader.Framed .lengthDelimited (nested.entry rule)

theorem DecoderSet.framed_nested (set : DecoderSet) (budget : Nat) :
    (set.nested budget).Framed := by
  cases budget with
  | zero => exact ⟨fun _ _ => Reader.Framed.throw _, fun _ => Reader.Framed.throw _⟩
  | succ budget => exact ⟨fun _ _ => framed_delimited _, fun _ => framed_delimited _⟩

/-- Puts an entry into a map field. An entry whose key makes no key leaves the message alone. -/
def Message.putEntry (m : Message) (number : Nat) (entry : Value × Value) : Message :=
  match entry.1.toKey? with
  | some key => m.set number (.map ((m.map number).insert key entry.2))
  | none => m

namespace Nested

variable {nested : Nested}

theorem mapField_eq (rule : MapRule) (key : Key) (m : Message) :
    nested.mapField rule key m = expect key .lengthDelimited rule.name
      (nested.entry rule >>= fun entry => pure (m.putEntry rule.number entry)) := by
  unfold Nested.mapField
  congr 2
  funext ⟨k, v⟩
  dsimp only [Message.putEntry]
  cases k.toKey? <;> rfl

end Nested

/-- A property of readers of values that plans keep: it holds of the reads of single values and of
whatever is read inside a span, and what is made of a value is of no matter to it. -/
structure KeptByPlans (P : (α : Type) → WireType → Reader α → Prop) : Prop where
  throw : ∀ {α : Type} {wireType : WireType} (fault : Fault), P α wireType (throw fault)
  map : ∀ {α β : Type} {wireType : WireType} {body : Reader α} {f : α → β},
    P α wireType body → P β wireType (body >>= fun a => pure (f a))
  scalar : ∀ kind : Scalar, P ScalarValue kind.wireType kind.read
  text : ∀ field : String, P String .lengthDelimited (Reader.text field)
  span : P Bytes .lengthDelimited Reader.span
  delimited : ∀ {α : Type} (body : Reader α), P α .lengthDelimited (delimited body)

/-- The readers of embedded messages and of map entries have the property. -/
structure Nested.Keeps (P : (α : Type) → WireType → Reader α → Prop) (nested : Nested) : Prop where
  message : ∀ name m, P Message .lengthDelimited (nested.message name m)
  entry : ∀ rule, P (Value × Value) .lengthDelimited (nested.entry rule)

namespace KeptByPlans

variable {P : (α : Type) → WireType → Reader α → Prop} {nested : Nested}

theorem keeps_nested (hP : KeptByPlans P) (set : DecoderSet) (budget : Nat) :
    (set.nested budget).Keeps P := by
  cases budget with
  | zero => exact ⟨fun _ _ => hP.throw _, fun _ => hP.throw _⟩
  | succ budget => exact ⟨fun _ _ => hP.delimited _, fun _ => hP.delimited _⟩

theorem expect (hP : KeptByPlans P) {key : Key} {wireType : WireType} {field : String}
    {body : Reader α} (h : P α wireType body) :
    P α key.wireType (Reader.expect key wireType field body) := by
  unfold Reader.expect
  split
  · rename_i hw
    rw [hw]
    exact h
  · exact hP.throw _

theorem value (hP : KeptByPlans P) (h : nested.Keeps P) {kind : Kind} {read : Read}
    (hread : Read.Fits kind read) (field : String) :
    P Value kind.wireType (nested.value field read) := by
  cases hread with
  | scalar kind => exact hP.map (hP.scalar kind)
  | string => exact hP.map (hP.text field)
  | bytes => exact hP.map hP.span
  | message name => exact hP.map (h.message _ _)

theorem store (hP : KeptByPlans P) (h : nested.Keeps P) {field : Field} {bit : Option Nat}
    {rule : FieldRule} (hfits : FieldRule.Fits field bit rule) (m : Message) :
    P Message rule.wireType (nested.store rule m) := by
  have hvalue : P Value rule.wireType (nested.value rule.name rule.read) := by
    rw [hfits.wireType]
    exact hP.value h hfits.read rule.name
  have hread := hfits.read
  have hwire := hfits.wireType
  unfold Nested.store
  split
  · exact hP.map hvalue
  · rename_i target hstore htarget
    rw [htarget] at hread
    cases hk : field.kind <;> rw [hk] at hread hwire <;> cases hread
    rw [hwire]
    exact hP.map (h.message _ _)
  · exact hP.map hvalue
  · exact hP.map hvalue

theorem plainField (hP : KeptByPlans P) (h : nested.Keeps P) {field : Field} {bit : Option Nat}
    {rule : FieldRule} (hfits : FieldRule.Fits field bit rule) (key : Key) (m : Message) :
    P Message key.wireType (nested.plainField rule key m) := by
  unfold Nested.plainField
  split
  · rename_i hpacked
    have hlen : key.wireType = .lengthDelimited := by
      simp only [Bool.and_eq_true, beq_iff_eq] at hpacked
      exact hpacked.2
    rw [hlen]
    exact hP.delimited _
  · exact hP.expect (hP.store h hfits m)

theorem mapField (hP : KeptByPlans P) (h : nested.Keeps P) (rule : MapRule) (key : Key)
    (m : Message) : P Message key.wireType (nested.mapField rule key m) := by
  rw [Nested.mapField_eq]
  exact hP.expect (hP.map (h.entry rule))

/-- What a fitting rule does with a record has the property as the record is framed. -/
theorem apply (hP : KeptByPlans P) (h : nested.Keeps P) {field : Field} {bit : Option Nat}
    {rule : Rule} (hfits : Rule.Fits field bit rule) (key : Key) (m : Message) (seen : List Nat) :
    P (Message × List Nat) key.wireType (nested.apply rule key m seen) := by
  cases hfits with
  | field hfits => exact hP.map (hP.plainField h hfits key m)
  | map _ _ => exact hP.map (hP.mapField h _ key m)

end KeptByPlans

theorem framed_kept : KeptByPlans fun _ => Reader.Framed where
  throw := .throw
  map := .map
  scalar := framed_scalar
  text := framed_text
  span := framed_span
  delimited := framed_delimited

theorem byFrame_kept : KeptByPlans fun _ => ByFrame where
  throw := .throw
  map := .map
  scalar := byFrame_scalar
  text := byFrame_text
  span := byFrame_span
  delimited := byFrame_delimited

/-- What a fitting rule does with a record goes as far as skipping the record would. -/
theorem Nested.Framed.apply {nested : Nested} (h : nested.Framed) {field : Field}
    {bit : Option Nat} {rule : Rule} (hfits : Rule.Fits field bit rule) (key : Key) (m : Message)
    (seen : List Nat) : Reader.Framed key.wireType (nested.apply rule key m seen) :=
  framed_kept.apply ⟨h.message, h.entry⟩ hfits key m seen

end ProtoPlan.Dynamic
