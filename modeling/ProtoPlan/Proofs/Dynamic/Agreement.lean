import ProtoPlan.Proofs.Dynamic.Projection
import ProtoPlan.Proofs.Dynamic.Rules
import ProtoPlan.Proofs.Wire.Agrees

/-!
A plan and a native decoder that agree. Both go through the same fields; it is enough that they
agree on each field that the message declares, and that the native decoder claims no other.
-/

namespace ProtoPlan.Dynamic

open Wire Schema Reader

variable {τ : Type} {nested : Nested} {R : Message → τ → Prop}

namespace Nested

/-- A number that the native decoder reads by `read` and `view` gets back from the value. -/
theorem agrees_scalar {kind : Scalar} {read : Reader β} {make : β → ScalarValue}
    (view : Value → β) (hread : kind.read = read >>= fun b => pure (make b))
    (hview : ∀ b, view (.scalar (make b)) = b) (field : String) :
    Agrees (fun v b => b = view v) (nested.valueOf field (.scalar kind)) read := by
  rw [valueOf, hread, bind_assoc]
  simp only [pure_bind]
  refine (agrees_map (fun b => Value.scalar (make b)) read).mono ?_
  rintro _ b rfl
  exact (hview b).symm

theorem agrees_text (field : String) :
    Agrees (fun v b => v = .text b) (nested.valueOf field .string) (Reader.text field) :=
  agrees_map Value.text _

theorem agrees_toText (field : String) :
    Agrees (fun v b => b = v.toText) (nested.valueOf field .string) (Reader.text field) :=
  (agrees_text field).mono fun _ _ h => by rw [h, Value.toText]

theorem agrees_toBytes (field : String) :
    Agrees (fun v b => b = v.toBytes) (nested.valueOf field .bytes) Reader.span :=
  (agrees_map Value.bytes _).mono fun _ _ h => by rw [h, Value.toBytes]

/-- A value that holds a message, and what the message stands for. -/
def Holds (R : Message → τ → Prop) (v : Value) (t : τ) : Prop := ∃ m, v = .message m ∧ R m t

theorem agrees_holds {x : Reader Message} {body : Reader τ} (h : Agrees R x body) :
    Agrees (Holds R) (do return .message (← x)) body := by
  have hmap := h.map (f := Value.message) (g := id) (S := Holds R) fun m _ hR => ⟨m, rfl, hR⟩
  simpa using hmap

theorem agrees_message {type name : String} {body : Reader τ} (hname : trimDots type = name)
    (h : Agrees R (nested.message name (Message.ofName name)) body) (field : String) :
    Agrees (Holds R) (nested.valueOf field (.message type)) body := by
  subst hname
  exact agrees_holds h

theorem agrees_mergeSide {type name : String} {body : Reader τ} {m : Message}
    (hname : trimDots type = name) (h : Agrees R (nested.message name m) body) (key : Key)
    (field : String) :
    Agrees (Holds R) (nested.mergeSide key field (.message type) (.message m))
      (expect key .lengthDelimited field body) := by
  subst hname
  exact (agrees_holds h).expect

/-- The bits of required fields are of no matter to the message. -/
theorem agrees_seen {x : Reader Message} {body : Reader τ} (h : Agrees R x body)
    (seen : List Nat) :
    Agrees (fun s t => R s.1 t) (x >>= fun m => pure (m, seen)) body := by
  have hmap := h.map (f := fun m => (m, seen)) (g := id) (S := fun s t => R s.1 t)
    fun _ _ hR => hR
  simpa using hmap

/-- What the native decoder claims for a number of `field` agrees with what rules do that fit it. -/
def AgreesOn (nested : Nested) (R : Message → τ → Prop) (claimed : Key → τ → Option (Reader τ))
    (field : Field) : Prop :=
  ∀ rule, Rule.Fits field none rule → ∀ key m t seen, key.number = field.number → R m t →
    Option.Rel (Agrees fun s t => R s.1 t) (some (nested.apply rule key m seen)) (claimed key t)

/-- A field that is no map is merged as its kind and cardinality say. -/
theorem agreesOn_mergeField {claimed : Key → τ → Option (Reader τ)} {field : Field}
    (hmap : ∀ key value, field.cardinality ≠ .map key value)
    (h : ∀ wireType m t, R m t → ∃ body, claimed ⟨field.number, wireType⟩ t = some body ∧
      Agrees R (nested.mergeField field ⟨field.number, wireType⟩ m) body) :
    nested.AgreesOn R claimed field := by
  rintro rule hrule ⟨number, wireType⟩ m t seen hnumber hR
  dsimp only at hnumber
  subst hnumber
  obtain ⟨body, hc, hbody⟩ := h wireType m t hR
  rw [hc, apply_eq hrule hmap]
  exact .some (agrees_seen hbody _)

section Fields

variable {claimed : Key → τ → Option (Reader τ)} {field : Field} {S : Value → β → Prop}
  {read : Reader β} {make : τ → β → τ}

theorem agreesOn_set (hin : field.isInline = true) (hone : field.oneof? = none)
    (hkind : field.kind.isMessage = false)
    (hread : Agrees S (nested.valueOf field.name field.kind) read)
    (hclaimed : ∀ wireType t, claimed ⟨field.number, wireType⟩ t =
      some (expect ⟨field.number, wireType⟩ field.kind.wireType field.name do
        return make t (← read)))
    (hR : ∀ m t v b, R m t → S v b → R (m.set field.number v) (make t b)) :
    nested.AgreesOn R claimed field := by
  refine agreesOn_mergeField (Field.cardinality_ne_map hin) fun wireType m t ht =>
    ⟨_, hclaimed wireType t, ?_⟩
  rw [mergeField_set hin hone hkind]
  exact (hread.map fun v b hvb => hR m t v b ht hvb).expect

/-- A single field that both a projection `f` and the native decoder read by `view`. -/
theorem agreesOn_view {f : Message → τ} {view : Value → β} (hin : field.isInline = true)
    (hone : field.oneof? = none) (hkind : field.kind.isMessage = false)
    (hread : Agrees (fun v b => b = view v) (nested.valueOf field.name field.kind) read)
    (hclaimed : ∀ wireType t, claimed ⟨field.number, wireType⟩ t =
      some (expect ⟨field.number, wireType⟩ field.kind.wireType field.name do
        return make t (← read)))
    (hf : ∀ m v, make (f m) (view v) = f (m.set field.number v)) :
    nested.AgreesOn (fun m t => t = f m) claimed field := by
  refine agreesOn_set hin hone hkind hread hclaimed ?_
  rintro m _ v _ rfl rfl
  exact hf m v

theorem agreesOn_merge {type name : String} {S : Message → β → Prop} {body : τ → Reader β}
    (hin : field.isInline = true) (hone : field.oneof? = none) (hkind : field.kind = .message type)
    (hname : trimDots type = name)
    (hbody : ∀ m t, R m t →
      Agrees S (nested.message name (m.submessage field.number name)) (body t))
    (hclaimed : ∀ wireType t, claimed ⟨field.number, wireType⟩ t =
      some (expect ⟨field.number, wireType⟩ .lengthDelimited field.name do
        return make t (← body t)))
    (hR : ∀ m t inner b, R m t → S inner b → R (m.set field.number (.message inner)) (make t b)) :
    nested.AgreesOn R claimed field := by
  refine agreesOn_mergeField (Field.cardinality_ne_map hin) fun wireType m t ht =>
    ⟨_, hclaimed wireType t, ?_⟩
  rw [mergeField_merge hin hone hkind, hname]
  exact ((hbody m t ht).map fun inner b hb => hR m t inner b ht hb).expect

theorem agreesOn_append (hc : field.cardinality = .repeated) (hpack : field.kind.isPackable = false)
    (hread : Agrees S (nested.valueOf field.name field.kind) read)
    (hclaimed : ∀ wireType t, claimed ⟨field.number, wireType⟩ t =
      some (expect ⟨field.number, wireType⟩ field.kind.wireType field.name do
        return make t (← read)))
    (hR : ∀ m t v b, R m t → S v b →
      R (m.set field.number (.list (m.list field.number ++ [v]))) (make t b)) :
    nested.AgreesOn R claimed field := by
  refine agreesOn_mergeField (by simp [hc]) fun wireType m t ht => ⟨_, hclaimed wireType t, ?_⟩
  simp only [mergeField, hc, hpack, Bool.false_and, Bool.false_eq_true, if_false]
  exact (hread.map fun v b hvb => hR m t v b ht hvb).expect

/-- A repeated numeric field. The block is tried first here and last there: no single value comes
length-delimited. -/
theorem agreesOn_packable {kind : Scalar} {f : Message → τ} {list : τ → List β} {view : Value → β}
    {make : τ → List β → τ} (hc : field.cardinality = .repeated) (hkind : field.kind = .scalar kind)
    (hread : Agrees (fun v b => b = view v) (nested.valueOf field.name field.kind) read)
    (hclaimed : ∀ wireType t, claimed ⟨field.number, wireType⟩ t =
      some do
        return make t (← packable ⟨field.number, wireType⟩ kind.wireType field.name read (list t)))
    (hlist : ∀ m, list (f m) = (m.list field.number).map view)
    (hf : ∀ m values, make (f m) (values.map view) = f (m.set field.number (.list values))) :
    nested.AgreesOn (fun m t => t = f m) claimed field := by
  refine agreesOn_mergeField (by simp [hc]) fun wireType m t ht => ⟨_, hclaimed wireType t, ?_⟩
  subst ht
  have hwire : field.kind.wireType = kind.wireType := by rw [hkind, Kind.wireType]
  have hpack : field.kind.isPackable = true := by rw [hkind, Kind.isPackable]
  simp only [mergeField, hc, packable, hlist m, hpack, hwire, Bool.true_and, beq_iff_eq]
  by_cases hblock : wireType = .lengthDelimited
  · rw [if_pos hblock, if_neg (hblock ▸ kind.wireType_ne_lengthDelimited.symm), if_pos hblock,
      ← delimited_map]
    refine Agrees.delimited ((hread.elements _).map ?_)
    rintro values _ rfl
    exact hf m values
  · rw [if_neg hblock, if_neg hblock]
    unfold expect
    by_cases hw : wireType = kind.wireType
    · rw [if_pos hw, if_pos hw, bind_assoc]
      simp only [pure_bind]
      refine hread.map ?_
      rintro v _ rfl
      simpa using hf m (m.list field.number ++ [v])
    · rw [if_neg hw, if_neg hw]
      exact Agrees.throw _

/-- A map field, whose entries take one level of nesting. -/
theorem agreesOn_map {set : DecoderSet} {budget : Nat} {keyField valueField : Field}
    {S : Value × Value → β → Prop} (hc : field.cardinality = .map keyField valueField)
    (hread : Agrees S (Reader.nested budget fun budget =>
      (set.nested budget).mergeEntry budget field.name keyField.kind valueField.kind
        (Value.zeroOf keyField.kind, Value.zeroOf valueField.kind)) read)
    (hclaimed : ∀ wireType t, claimed ⟨field.number, wireType⟩ t =
      some (expect ⟨field.number, wireType⟩ .lengthDelimited field.name do return make t (← read)))
    (hR : ∀ m t entry b, R m t → S entry b → R (m.putEntry field.number entry) (make t b)) :
    (set.nested budget).AgreesOn R claimed field := by
  rintro rule hrule ⟨number, wireType⟩ m t seen hnumber ht
  dsimp only at hnumber
  subst hnumber
  rw [hclaimed wireType t, DecoderSet.apply_map_eq set hrule hc]
  exact .some (agrees_seen (hread.map fun entry b hb => hR m t entry b ht hb).expect seen)

theorem agreesOn_select {oneof : String} (hc : field.cardinality = .oneof oneof)
    (hread : Agrees S (nested.valueOf field.name field.kind) read)
    (hclaimed : ∀ wireType t, claimed ⟨field.number, wireType⟩ t =
      some (expect ⟨field.number, wireType⟩ field.kind.wireType field.name do
        return make t (← read)))
    (hR : ∀ m t v b, R m t → S v b → R (m.select oneof field.number v) (make t b)) :
    nested.AgreesOn R claimed field := by
  refine agreesOn_mergeField (by simp [hc]) fun wireType m t ht => ⟨_, hclaimed wireType t, ?_⟩
  simp only [mergeField, hc]
  exact (hread.map fun v b hvb => hR m t v b ht hvb).expect

end Fields

section Entries

/-- An entry and its native counterpart match side by side. -/
def EntryMatches (K : Value → β → Prop) (V : Value → γ → Prop) (entry : Value × Value)
    (e : β × γ) : Prop :=
  K entry.1 e.1 ∧ V entry.2 e.2

variable {K : Value → β → Prop} {V : Value → γ → Prop} {keyKind valueKind : Kind} {name : String}
  {claimed : Key → β × γ → Option (Reader (β × γ))} {read : Reader β}

theorem mergeSide_plain {kind : Kind} (hkind : kind.isMessage = false) (key : Key) (field : String)
    (slot : Value) :
    nested.mergeSide key field kind slot =
      expect key kind.wireType field (nested.valueOf field kind) := by
  cases kind with
  | message => cases hkind
  | scalar | string | bytes | group => rfl

/-- Entries agree if both sides do. The key is read afresh, what is read of the value may go on
from what the entry holds. -/
theorem agrees_mergeEntry {budget : Nat} (slot : γ → Reader γ)
    (hkeyKind : keyKind.isMessage = false)
    (hkey : Agrees K (nested.valueOf (name ++ ".key") keyKind) read)
    (hvalue : ∀ wireType v c, V v c →
      Agrees V (nested.mergeSide ⟨2, wireType⟩ (name ++ ".value") valueKind v)
        (expect ⟨2, wireType⟩ valueKind.wireType (name ++ ".value") (slot c)))
    (hone : ∀ wireType e, claimed ⟨1, wireType⟩ e =
      some (expect ⟨1, wireType⟩ keyKind.wireType (name ++ ".key") do return (← read, e.2)))
    (htwo : ∀ wireType e, claimed ⟨2, wireType⟩ e =
      some (expect ⟨2, wireType⟩ valueKind.wireType (name ++ ".value") do
        return (e.1, ← slot e.2)))
    (hfree : ∀ key e, key.number ≠ 1 → key.number ≠ 2 → claimed key e = none)
    {entry : Value × Value} {e : β × γ} (h : EntryMatches K V entry e) :
    Agrees (EntryMatches K V)
      (nested.mergeEntry budget name keyKind valueKind entry)
      (Reader.fields budget claimed ignore e) := by
  refine Agrees.fields ?_ (fun _ _ _ _ h _ => h) h
  rintro ⟨number, wireType⟩ ⟨k, v⟩ ⟨b, c⟩ ⟨hK, hV⟩
  dsimp only at hK hV
  unfold claimSide
  dsimp only
  split
  · rw [hone, mergeSide_plain hkeyKind, ← expect_map]
    exact .some (Agrees.expect (hkey.map fun k b hK => ⟨hK, hV⟩))
  · rw [htwo, expect_map]
    exact .some ((hvalue wireType v c hV).map fun v c hV => ⟨hK, hV⟩)
  · rename_i h1 h2
    rw [hfree _ _ h1 h2]
    exact .none

end Entries

end Nested

/-- A plan without required fields agrees with a native decoder that claims the same fields. -/
theorem agrees_mergeByPlan {message : ProtoPlan.Message} {plan : Plan}
    (hfits : Plan.Fits message plan) (hrequired : message.requiredNumbers = [])
    {budget : Nat} {claimed : Key → τ → Option (Reader τ)} {unclaimed : Nat → Bytes → τ → τ}
    (hclaimed : ∀ field ∈ message.fields, nested.AgreesOn R claimed field)
    (hfree : ∀ key t, key.number ∉ message.fields.map (·.number) → claimed key t = none)
    (hunclaimed : ∀ number m t raw, R m t →
      R (keepUnclaimed plan number raw m) (unclaimed number raw t))
    {m : Message} {t : τ} (h : R m t) :
    Agrees R (mergeByPlan budget nested plan m) (Reader.fields budget claimed unclaimed t) := by
  have hbit (number : Nat) : message.requiredBit? number = none := by
    simp [Message.requiredBit?, hrequired]
  have hcount : plan.requiredCount = 0 := by rw [hfits.requiredCount, hrequired, List.length_nil]
  have hfields : Agrees (fun s t => R s.1 t) (Reader.fields budget
      (fun key s => (plan.rule? key.number).map fun rule => nested.apply rule key s.1 s.2)
      (fun number raw s => (keepUnclaimed plan number raw s.1, s.2)) (m, []))
      (Reader.fields budget claimed unclaimed t) := by
    refine Agrees.fields ?_ (fun key s t raw hs _ => hunclaimed key.number s.1 t raw hs) h
    rintro key ⟨m, seen⟩ t hR
    rcases hfits.rule?_cases key.number with ⟨field, hf, hnumber, rule, hrule, happly⟩ | ⟨hn, hnone⟩
    · rw [hbit] at happly
      simpa only [hrule, Option.map_some] using
        hclaimed field hf rule happly key m t seen hnumber.symm hR
    · rw [hfree key t hn]
      simpa only [hnone, Option.map_none] using Option.Rel.none
  have hall : (List.range plan.requiredCount).all (· ∈ ([] : List Nat)) = true := by
    rw [hcount]
    rfl
  have hmerge := hfields.bind (S := R) (g := pure)
    (f := fun s => if (List.range plan.requiredCount).all (· ∈ s.2) then pure s.1
      else throw (.requiredFieldMissing plan.message)) ?_
  · simpa [mergeByPlan] using hmerge
  · rintro ⟨m, seen⟩ t hR
    simp only [hcount]
    exact Agrees.pure hR

/-- A plan that keeps unknown fields, and whose message has no extension range, keeps all of them in
one place. -/
theorem keepUnclaimed_eq {message : ProtoPlan.Message} {plan : Plan}
    (hfits : Plan.Fits message plan) (hranges : message.extensionRanges = [])
    (hkeep : plan.preserveUnknown = true) (number : Nat) (raw : Bytes) (m : Message) :
    keepUnclaimed plan number raw m = { m with unknown := m.unknown ++ raw } := by
  have hext : plan.isExtension number = false := by
    rw [Plan.isExtension, hfits.extensionRanges, hranges]
    rfl
  rw [keepUnclaimed, hext, hkeep]
  rfl

/-- Putting in an entry is inserting it, as views of keys and values read the map. The keys are of
one kind and in its order, and stay so. -/
theorem Message.entries_putEntry [Ord κ] {make : κ → MapKey} (view : MapKey → κ)
    (viewValue : Value → ν) (hview : ∀ key, view (make key) = key)
    (horder : ∀ a b, compare (make a) (make b) = compare a b) {m : Message} {number : Nat}
    (hkeys : m.KeysOf number make) {k : Value} (v : Value) {key : κ}
    (hkey : k.toKey? = some (make key)) :
    (m.putEntry number (k, v)).entries number view viewValue =
        (m.entries number view viewValue).insert key (viewValue v) ∧
      (m.putEntry number (k, v)).KeysOf number make := by
  have hput : m.putEntry number (k, v) =
      m.set number (.map ((m.map number).insert (make key) v)) := by
    rw [putEntry, hkey]
  rw [hput]
  constructor
  · have hrename (entry : MapKey × Value) (hentry : entry ∈ (m.map number).entries) :
        compare (view (make key)) (view entry.1) = compare (make key) entry.1 := by
      obtain ⟨other, hother⟩ := hkeys entry hentry
      rw [hother, hview, hview, horder]
    simp only [entries, map_set, if_pos, SortedMap.insert]
    rw [SortedMap.map_insertEntry view viewValue hrename, hview]
  · intro entry hentry
    rw [map_set, if_pos rfl] at hentry
    rcases SortedMap.mem_insertEntry hentry with rfl | hentry
    · exact ⟨key, rfl⟩
    · exact hkeys entry hentry

namespace DecoderSet

theorem mergeWith_eq {set : DecoderSet} {name : String} {plan : Plan}
    (h : set.planFor? name = some plan) (budget : Nat) (nested : Nested) (m : Message) :
    set.mergeWith budget nested name m = mergeByPlan budget nested plan m := by
  rw [DecoderSet.mergeWith, h]

/-- Merging into messages of that name agrees with the native `merge` into what `view` makes of
them. -/
def MergesAs (set : DecoderSet) (name : String) (view : Message → τ) (merge : Nat → τ → Reader τ) :
    Prop :=
  ∀ budget m, Agrees (fun m t => t = view m) (set.mergeWith budget (set.nested budget) name m)
    (merge budget (view m))

/-- On every buffer the native decoder yields what `view` makes of the dynamic message, or both fail
with the same fault. -/
def DecodesAs (set : DecoderSet) (type : MessageType τ) (view : Message → τ) : Prop :=
  ∀ bytes, type.decode bytes = (set.decode type.name bytes).map view

theorem mergesAs_of_agrees {options : Options} {schema : Schema} {set : DecoderSet}
    (hset : ofSchema options schema = .ok set) {name : String} {view : Message → τ}
    {merge : Nat → τ → Reader τ} {message : ProtoPlan.Message}
    (hdeclared : schema.declaration? name = some message)
    (hmerge : ∀ plan, Plan.Fits message plan → plan.preserveUnknown = options.preserveUnknown →
      ∀ budget m, Agrees (fun m t => t = view m) (mergeByPlan budget (set.nested budget) plan m)
        (merge budget (view m))) : set.MergesAs name view merge := by
  obtain ⟨plan, hplan, hfits, hkeep⟩ := planFor?_of_declaration hset hdeclared
  intro budget m
  rw [mergeWith_eq hplan]
  exact hmerge plan hfits hkeep budget m

/-- An embedded message is merged as one of its own is, with one level of nesting less. -/
theorem MergesAs.submessage {set : DecoderSet} {name : String} {view : Message → τ}
    {merge : Nat → τ → Reader τ} (h : set.MergesAs name view merge) (budget : Nat) (m : Message) :
    Agrees (fun m t => t = view m) ((set.nested budget).message name m)
      (Reader.nested budget fun budget => merge budget (view m)) := by
  rw [nested_message]
  cases budget with
  | zero => exact Agrees.throw _
  | succ budget => exact (h budget m).delimited

/-- A single message field that projections read by `view`, and the native decoder merges into what
it has of the field. -/
theorem MergesAs.agreesOn {set : DecoderSet} {budget : Nat} {claimed : Key → τ → Option (Reader τ)}
    {field : Field} {type name : String} {view : Message → β} {absent : β}
    {merge : Nat → β → Reader β} {child : τ → Option β} {make : τ → β → τ}
    (h : set.MergesAs name view merge) (habsent : ∀ name, view (Message.ofName name) = absent)
    (hin : field.isInline = true) (hone : field.oneof? = none) (hkind : field.kind = .message type)
    (hname : trimDots type = name)
    (hclaimed : ∀ wireType t, claimed ⟨field.number, wireType⟩ t =
      some (expect ⟨field.number, wireType⟩ .lengthDelimited field.name do
        return make t (← Reader.nested budget fun budget =>
          merge budget ((child t).getD absent))))
    (hchild : ∀ m t, R m t →
      child t = (m.fields.get? field.number).map fun value => view value.toMessage)
    (hR : ∀ m t inner, R m t → R (m.set field.number (.message inner)) (make t (view inner))) :
    (set.nested budget).AgreesOn R claimed field := by
  have hbody (m : Message) (t : τ) (ht : R m t) :
      Agrees (fun m b => b = view m)
        ((set.nested budget).message name (m.submessage field.number name))
        (Reader.nested budget fun budget => merge budget ((child t).getD absent)) := by
    rw [hchild m t ht, Message.view_submessage habsent m field.number name]
    exact h.submessage budget _
  refine Nested.agreesOn_merge hin hone hkind hname hbody hclaimed ?_
  rintro m t inner _ ht rfl
  exact hR m t inner ht

theorem decodesAs_of_agrees {options : Options} {schema : Schema} {set : DecoderSet}
    (hset : ofSchema options schema = .ok set) {type : MessageType τ} {view : Message → τ}
    {message : ProtoPlan.Message} (hdeclared : schema.declaration? type.name = some message)
    (hmerge : ∀ plan, Plan.Fits message plan → plan.preserveUnknown = options.preserveUnknown →
      Agrees R (mergeByPlan Cursor.defaultBudget (set.nested Cursor.defaultBudget) plan
        (Message.ofName type.name)) (type.merge Cursor.defaultBudget type.empty))
    (hview : ∀ m t, R m t → t = view m) : set.DecodesAs type view := by
  obtain ⟨plan, hplan, hfits, hkeep⟩ := planFor?_of_declaration hset hdeclared
  intro bytes
  have hagrees := hmerge plan hfits hkeep
  rw [← mergeWith_eq hplan] at hagrees
  exact hagrees.run_eq hview bytes

end DecoderSet

end ProtoPlan.Dynamic
