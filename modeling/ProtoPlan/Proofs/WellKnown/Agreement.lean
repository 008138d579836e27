import ProtoPlan.Proofs.Dynamic.Agreement
import ProtoPlan.Proofs.Plan.WellFormed
import ProtoPlan.Proofs.WellKnown.Projection
import ProtoPlan.WellKnown.Decode

/-!
The native decoders of the `google.protobuf` types do what their plans do. Each type is followed
field by field; the JSON types refer to each other and are followed together, by induction on the
nesting budget.
-/

namespace ProtoPlan.WellKnown

open Wire Wire.Reader Schema ProtoPlan.Dynamic Value Nested DecoderSet

section Flat

variable {nested : Dynamic.Nested} {plan : Plan} {budget : Nat}

/-- A wrapper agrees with its plan if the reads of its value do. -/
theorem Wrapper.agrees {name : String} {kind : Kind} {wireType : WireType} {read : Reader α}
    {view : Dynamic.Value → α} {absent : α}
    (hfits : Plan.Fits (Schema.WellKnown.wrapper name kind) plan)
    (hkind : kind.isMessage = false) (hwire : kind.wireType = wireType)
    (hread : Agrees (fun v a => a = view v) (nested.valueOf "value" kind) read)
    (m : Dynamic.Message) :
    Agrees (fun m t => t = Wrapper.ofMessage view absent m) (mergeByPlan budget nested plan m)
      (Wrapper.merge wireType read budget (Wrapper.ofMessage view absent m)) := by
  subst hwire
  refine agrees_mergeByPlan hfits rfl ?_ ?_ ?_ rfl
  · intro field hf
    obtain rfl := List.mem_singleton.1 hf
    refine agreesOn_view rfl rfl hkind hread (fun _ _ => rfl) fun m v => ?_
    simp [ofMessage, Message.get_set, Field.singular]
  · intro key t hn
    split
    · rename_i hnumber
      exact absurd (List.mem_singleton.2 hnumber) hn
    · rfl
  · rintro number m t raw rfl
    simp [ignore, ofMessage, Message.get]

theorem Time.agrees {name : String} (hfits : Plan.Fits (Schema.WellKnown.time name) plan)
    (m : Dynamic.Message) :
    Agrees (fun m t => t = Time.ofMessage m) (mergeByPlan budget nested plan m)
      (Time.merge budget (Time.ofMessage m)) := by
  refine agrees_mergeByPlan hfits rfl ?_ ?_ ?_ rfl
  · rw [Schema.WellKnown.time, Schema.WellKnown.fields_message, List.forall_mem_cons,
      List.forall_mem_singleton]
    constructor
    · refine agreesOn_view rfl rfl rfl (agrees_scalar toInt64 rfl (fun _ => rfl) _)
        (fun _ _ => rfl) fun m v => ?_
      simp [ofMessage, Message.get_set, Field.singular]
    · refine agreesOn_view rfl rfl rfl (agrees_scalar toInt32 rfl (fun _ => rfl) _)
        (fun _ _ => rfl) fun m v => ?_
      simp [ofMessage, Message.get_set, Field.singular]
  · intro key t hn
    split <;> simp_all [Schema.WellKnown.time, Field.singular]
  · rintro number m t raw rfl
    simp [ignore, ofMessage, Message.get]

theorem Empty.agrees {name : String} (hfits : Plan.Fits (Schema.WellKnown.message name []) plan)
    (m : Dynamic.Message) :
    Agrees (fun m t => t = Empty.ofMessage m) (mergeByPlan budget nested plan m)
      (Empty.merge budget (Empty.ofMessage m)) := by
  refine agrees_mergeByPlan hfits rfl ?_ (fun _ _ _ => rfl) (fun _ _ _ _ _ => rfl) rfl
  intro field hf
  cases hf

theorem Any.agrees {name : String}
    (hfits : Plan.Fits (Schema.WellKnown.message name
      [.singular "type_url" 1 .string, .singular "value" 2 .bytes]) plan)
    (m : Dynamic.Message) :
    Agrees (fun m t => t = Any.ofMessage m) (mergeByPlan budget nested plan m)
      (Any.merge budget (Any.ofMessage m)) := by
  refine agrees_mergeByPlan hfits rfl ?_ ?_ ?_ rfl
  · rw [Schema.WellKnown.fields_message, List.forall_mem_cons, List.forall_mem_singleton]
    constructor
    · refine agreesOn_view rfl rfl rfl (agrees_toText _) (fun _ _ => rfl) fun m v => ?_
      simp [ofMessage, Message.get_set, Field.singular]
    · refine agreesOn_view rfl rfl rfl (agrees_toBytes _) (fun _ _ => rfl) fun m v => ?_
      simp [ofMessage, Message.get_set, Field.singular]
  · intro key t hn
    split <;> simp_all [Field.singular]
  · rintro number m t raw rfl
    simp [ignore, ofMessage, Message.get]

theorem FieldMask.agrees {name : String}
    (hfits : Plan.Fits (Schema.WellKnown.message name [⟨"paths", 1, .string, .repeated⟩]) plan)
    (m : Dynamic.Message) :
    Agrees (fun m t => t = FieldMask.ofMessage m) (mergeByPlan budget nested plan m)
      (FieldMask.merge budget (FieldMask.ofMessage m)) := by
  refine agrees_mergeByPlan hfits rfl ?_ ?_ ?_ rfl
  · rw [Schema.WellKnown.fields_message, List.forall_mem_singleton]
    refine agreesOn_append rfl rfl (agrees_toText _) (fun _ _ => rfl) ?_
    rintro m _ v _ rfl rfl
    simp [ofMessage, Message.list_set]
  · intro key t hn
    split <;> simp_all
  · rintro number m t raw rfl
    simp [ignore, ofMessage, Message.list]

/-- Messages of which nothing is known keep all their bytes either way. -/
theorem RawMessage.agrees (name : String) (m : Dynamic.Message) :
    Agrees (fun m t => t = RawMessage.ofMessage m)
      (mergeByPlan budget nested (Plan.rawFields name) m)
      (RawMessage.merge budget (RawMessage.ofMessage m)) := by
  refine agrees_mergeByPlan (Plan.fits_rawFields name) rfl ?_ (fun _ _ _ => rfl) ?_ rfl
  · intro field hf
    cases hf
  · rintro number m t raw rfl
    rw [keepUnclaimed_eq (Plan.fits_rawFields name) rfl rfl]
    rfl

end Flat

section Json

/-- An object agrees if the keys of its entries are texts, as they are declared. -/
def Struct.Matches (m : Dynamic.Message) (struct : Struct) : Prop :=
  struct = Struct.ofMessage m ∧ m.KeysOf 1 .text

def Value.Matches (m : Dynamic.Message) (value : Value) : Prop := value = Value.ofMessage m

/-- The native readers of embedded JSON messages agree with those of a set, for one budget. -/
structure Nested.Agrees (set : DecoderSet) (budget : Nat) : Prop where
  struct : Reader.Agrees Struct.Matches
    ((set.nested budget).message "google.protobuf.Struct" (Message.ofName "google.protobuf.Struct"))
    (nested budget).struct
  list : Reader.Agrees (fun m list => list = ListValue.ofMessage m)
    ((set.nested budget).message "google.protobuf.ListValue"
      (Message.ofName "google.protobuf.ListValue"))
    (nested budget).list
  value : ∀ m, Reader.Agrees Value.Matches
    ((set.nested budget).message "google.protobuf.Value" m)
    ((nested budget).value (Value.ofMessage m))
  entry : Reader.Agrees (EntryMatches (fun k name => k = .text name) (Holds Value.Matches))
    (Reader.nested budget fun budget => (set.nested budget).mergeEntry budget "fields" .string
      Schema.WellKnown.value (.text "", .message (Message.ofName "google.protobuf.Value")))
    (nested budget).entry

variable {set : DecoderSet} {plan : Plan} {budget : Nat}

theorem Value.agrees (h : Nested.Agrees set budget)
    (hfits : Plan.Fits (Schema.WellKnown.message "Value"
      [⟨"null_value", 1, .scalar .enum, .oneof "kind"⟩,
       ⟨"number_value", 2, .scalar .double, .oneof "kind"⟩,
       ⟨"string_value", 3, .string, .oneof "kind"⟩,
       ⟨"bool_value", 4, .scalar .bool, .oneof "kind"⟩,
       ⟨"struct_value", 5, .message "google.protobuf.Struct", .oneof "kind"⟩,
       ⟨"list_value", 6, .message "google.protobuf.ListValue", .oneof "kind"⟩]) plan)
    (m : Dynamic.Message) :
    Reader.Agrees Value.Matches
      (mergeByPlan budget (set.nested budget) plan m)
      (Value.mergeWith budget (nested budget) (Value.ofMessage m)) := by
  refine agrees_mergeByPlan hfits rfl ?_ ?_ ?_ rfl
  · rw [Schema.WellKnown.fields_message]
    simp only [List.forall_mem_cons]
    refine ⟨?_, ?_, ?_, ?_, ?_, ?_, List.forall_mem_nil _⟩
    · refine agreesOn_select rfl (agrees_scalar toInt32 rfl (fun _ => rfl) _) (fun _ _ => rfl) ?_
      rintro m _ v _ rfl rfl
      simp [Matches, ofMessage_eq, Message.whichOneof_select, Message.get, Message.get?_select]
    · refine agreesOn_select rfl (agrees_scalar toDouble rfl (fun _ => rfl) _) (fun _ _ => rfl) ?_
      rintro m _ v _ rfl rfl
      simp [Matches, ofMessage_eq, Message.whichOneof_select, Message.get, Message.get?_select]
    · refine agreesOn_select rfl (agrees_toText _) (fun _ _ => rfl) ?_
      rintro m _ v _ rfl rfl
      simp [Matches, ofMessage_eq, Message.whichOneof_select, Message.get, Message.get?_select]
    · refine agreesOn_select rfl (agrees_scalar toBool rfl (fun _ => rfl) _) (fun _ _ => rfl) ?_
      rintro m _ v _ rfl rfl
      simp [Matches, ofMessage_eq, Message.whichOneof_select, Message.get, Message.get?_select]
    · refine agreesOn_select rfl (agrees_message (by decide) h.struct _) (fun _ _ => rfl) ?_
      rintro m _ v _ rfl ⟨inner, rfl, rfl, -⟩
      simp [Matches, ofMessage_eq, Message.whichOneof_select, Message.submessage,
        Message.get?_select]
    · refine agreesOn_select rfl (agrees_message (by decide) h.list _) (fun _ _ => rfl) ?_
      rintro m _ v _ rfl ⟨inner, rfl, rfl⟩
      simp [Matches, ofMessage_eq, Message.whichOneof_select, Message.submessage,
        Message.get?_select]
  · intro key t hn
    split <;> simp_all
  · rintro number m t raw rfl
    simp [Matches, ignore, ofMessage_eq, Message.get, Message.submessage, Message.whichOneof]

theorem ListValue.agrees (h : Nested.Agrees set budget)
    (hfits : Plan.Fits (Schema.WellKnown.message "ListValue"
      [⟨"values", 1, Schema.WellKnown.value, .repeated⟩]) plan)
    (m : Dynamic.Message) :
    Reader.Agrees (fun m list => list = ListValue.ofMessage m)
      (mergeByPlan budget (set.nested budget) plan m)
      (ListValue.mergeWith budget (nested budget) (ListValue.ofMessage m)) := by
  refine agrees_mergeByPlan hfits rfl ?_ ?_ ?_ rfl
  · rw [Schema.WellKnown.fields_message, List.forall_mem_singleton]
    have hvalue := h.value (Message.ofName "google.protobuf.Value")
    rw [Value.ofMessage_ofName] at hvalue
    refine agreesOn_append rfl rfl (agrees_message (by decide) hvalue _) (fun _ _ => rfl) ?_
    rintro m _ v _ rfl ⟨inner, rfl, rfl⟩
    simp [ofMessage, Value.ofMessage, Message.list_set]
  · intro key t hn
    split <;> simp_all
  · rintro number m t raw rfl
    simp [ignore, ofMessage, Message.list]

theorem Struct.agrees_entry (h : Nested.Agrees set budget) :
    Reader.Agrees (EntryMatches (fun k name => k = .text name) (Holds Value.Matches))
      ((set.nested budget).mergeEntry budget "fields" .string Schema.WellKnown.value
        (.text "", .message (Message.ofName "google.protobuf.Value")))
      (Struct.mergeEntry budget (nested budget) ("", .unset)) := by
  have hvalue (wireType : WireType) (v : Dynamic.Value) (value : Value)
      (hv : Holds Value.Matches v value) :
      Reader.Agrees (Holds Value.Matches)
        ((set.nested budget).mergeSide ⟨2, wireType⟩ "fields.value" Schema.WellKnown.value v)
        (expect ⟨2, wireType⟩ .lengthDelimited "fields.value" ((nested budget).value value)) := by
    obtain ⟨m, rfl, rfl⟩ := hv
    exact agrees_mergeSide (by decide) (h.value m) _ _
  refine agrees_mergeEntry (nested budget).value rfl (agrees_text "fields.key") hvalue (fun _ _ => rfl)
    (fun _ _ => rfl) ?_ ?_
  · intro key e h1 h2
    dsimp only
    split
    · contradiction
    · contradiction
    · rfl
  · exact ⟨rfl, Message.ofName "google.protobuf.Value", rfl, (Value.ofMessage_ofName _).symm⟩

theorem Struct.agrees (h : Nested.Agrees set budget)
    (hfits : Plan.Fits (Schema.WellKnown.message "Struct"
      [.map "fields" 1 .string Schema.WellKnown.value]) plan)
    {m : Dynamic.Message} {struct : Struct} (hm : Struct.Matches m struct) :
    Reader.Agrees Struct.Matches (mergeByPlan budget (set.nested budget) plan m)
      (Struct.mergeWith budget (nested budget) struct) := by
  refine agrees_mergeByPlan hfits rfl ?_ ?_ ?_ hm
  · rw [Schema.WellKnown.fields_message, List.forall_mem_singleton]
    refine agreesOn_map rfl h.entry (fun _ _ => rfl) ?_
    rintro m _ ⟨k, v⟩ ⟨name, value⟩ ⟨rfl, hkeys⟩ ⟨hk, inner, hv, hvalue⟩
    dsimp only at hk hv hvalue
    subst hk hv hvalue
    obtain ⟨hput, hkept⟩ := Message.entries_putEntry MapKey.toText Value.ofDynamic
      (fun _ => rfl) (fun _ _ => rfl) hkeys (.message inner) (k := .text name) rfl
    exact ⟨congrArg Struct.mk hput.symm, hkept⟩
  · intro key t hn
    split <;> simp_all [Field.map]
  · rintro number m t raw ⟨rfl, hkeys⟩
    simpa [Struct.Matches, ignore, Struct.ofMessage, Message.entries, Message.map,
      Message.KeysOf] using hkeys

theorem Nested.agrees {options : Options} {schema : Schema}
    (hset : DecoderSet.ofSchema options schema = .ok set) (budget : Nat) :
    Nested.Agrees set budget := by
  obtain ⟨structPlan, hstruct, hstructFits, -⟩ := DecoderSet.planFor?_of_declaration hset
    (rfl : schema.declaration? "google.protobuf.Struct" = some _)
  obtain ⟨valuePlan, hvalue, hvalueFits, -⟩ := DecoderSet.planFor?_of_declaration hset
    (rfl : schema.declaration? "google.protobuf.Value" = some _)
  obtain ⟨listPlan, hlist, hlistFits, -⟩ := DecoderSet.planFor?_of_declaration hset
    (rfl : schema.declaration? "google.protobuf.ListValue" = some _)
  induction budget with
  | zero =>
    exact ⟨Agrees.throw _, Agrees.throw _, fun _ => Agrees.throw _, Agrees.throw _⟩
  | succ budget ih =>
    refine ⟨Agrees.delimited ?_, Agrees.delimited ?_, fun m => Agrees.delimited ?_,
      (Struct.agrees_entry ih).delimited⟩
    · rw [DecoderSet.mergeWith_eq hstruct]
      exact Struct.agrees ih hstructFits ⟨rfl, Message.keysOf_ofName _ _ _⟩
    · rw [DecoderSet.mergeWith_eq hlist]
      exact ListValue.agrees ih hlistFits _
    · rw [DecoderSet.mergeWith_eq hvalue]
      exact Value.agrees ih hvalueFits m

end Json

theorem Wrapper.decodesAs {options : Options} {schema : Schema} {set : DecoderSet}
    (hset : DecoderSet.ofSchema options schema = .ok set) {type : MessageType (Wrapper α)}
    {name : String} {kind : Kind} {wireType : WireType} {read : Reader α}
    {view : Dynamic.Value → α} {absent : α}
    (hdeclared : schema.declaration? type.name = some (Schema.WellKnown.wrapper name kind))
    (hkind : kind.isMessage = false) (hwire : kind.wireType = wireType)
    (hempty : type.empty = ⟨absent⟩) (hmerge : type.merge = Wrapper.merge wireType read)
    (hread : ∀ nested : Dynamic.Nested,
      Agrees (fun v a => a = view v) (nested.valueOf "value" kind) read) :
    set.DecodesAs type (Wrapper.ofMessage view absent) := by
  refine decodesAs_of_agrees hset hdeclared (fun plan h _ => ?_) fun _ _ h => h
  rw [hempty, hmerge]
  exact Wrapper.agrees h hkind hwire (hread _) _

/-- The native decoders agree with the plans of their messages. -/
theorem decodesAs_ofSchema {options : Options} {schema : Schema} {set : DecoderSet}
    (hset : DecoderSet.ofSchema options schema = .ok set) :
    set.DecodesAs doubleValue (Wrapper.ofMessage toDouble 0) ∧
    set.DecodesAs floatValue (Wrapper.ofMessage toFloat 0) ∧
    set.DecodesAs int64Value (Wrapper.ofMessage toInt64 0) ∧
    set.DecodesAs uint64Value (Wrapper.ofMessage toUInt64 0) ∧
    set.DecodesAs int32Value (Wrapper.ofMessage toInt32 0) ∧
    set.DecodesAs uint32Value (Wrapper.ofMessage toUInt32 0) ∧
    set.DecodesAs boolValue (Wrapper.ofMessage Value.toBool false) ∧
    set.DecodesAs stringValue (Wrapper.ofMessage toText "") ∧
    set.DecodesAs bytesValue (Wrapper.ofMessage toBytes []) ∧
    set.DecodesAs timestamp Time.ofMessage ∧
    set.DecodesAs duration Time.ofMessage ∧
    set.DecodesAs empty Empty.ofMessage ∧
    set.DecodesAs any Any.ofMessage ∧
    set.DecodesAs fieldMask FieldMask.ofMessage ∧
    set.DecodesAs struct Struct.ofMessage ∧
    set.DecodesAs value Value.ofMessage ∧
    set.DecodesAs listValue ListValue.ofMessage := by
  have hjson := Nested.agrees hset Cursor.defaultBudget
  refine ⟨?_, ?_, ?_, ?_, ?_, ?_, ?_, ?_, ?_, ?_, ?_, ?_, ?_, ?_, ?_, ?_, ?_⟩
  · exact Wrapper.decodesAs hset rfl rfl rfl rfl rfl fun _ => agrees_scalar _ rfl (fun _ => rfl) _
  · exact Wrapper.decodesAs hset rfl rfl rfl rfl rfl fun _ => agrees_scalar _ rfl (fun _ => rfl) _
  · exact Wrapper.decodesAs hset rfl rfl rfl rfl rfl fun _ => agrees_scalar _ rfl (fun _ => rfl) _
  · exact Wrapper.decodesAs hset rfl rfl rfl rfl rfl fun _ => agrees_scalar _ rfl (fun _ => rfl) _
  · exact Wrapper.decodesAs hset rfl rfl rfl rfl rfl fun _ => agrees_scalar _ rfl (fun _ => rfl) _
  · exact Wrapper.decodesAs hset rfl rfl rfl rfl rfl fun _ => agrees_scalar _ rfl (fun _ => rfl) _
  · exact Wrapper.decodesAs hset rfl rfl rfl rfl rfl fun _ => agrees_scalar _ rfl (fun _ => rfl) _
  · exact Wrapper.decodesAs hset rfl rfl rfl rfl rfl fun _ => agrees_toText _
  · exact Wrapper.decodesAs hset rfl rfl rfl rfl rfl fun _ => agrees_toBytes _
  · exact decodesAs_of_agrees hset rfl (fun _ h _ => Time.agrees h _) fun _ _ h => h
  · exact decodesAs_of_agrees hset rfl (fun _ h _ => Time.agrees h _) fun _ _ h => h
  · exact decodesAs_of_agrees hset rfl (fun _ h _ => Empty.agrees h _) fun _ _ h => h
  · exact decodesAs_of_agrees hset rfl (fun _ h _ => Any.agrees h _) fun _ _ h => h
  · exact decodesAs_of_agrees hset rfl (fun _ h _ => FieldMask.agrees h _) fun _ _ h => h
  · refine decodesAs_of_agrees hset rfl (fun _ h _ => Struct.agrees hjson h ?_) fun _ _ h => h.1
    exact ⟨rfl, Message.keysOf_ofName _ _ _⟩
  · refine decodesAs_of_agrees hset rfl (fun _ h _ => ?_) fun _ _ h => h
    have hvalue := Value.agrees hjson h (Message.ofName "google.protobuf.Value")
    rwa [Value.ofMessage_ofName] at hvalue
  · exact decodesAs_of_agrees hset rfl (fun _ h _ => ListValue.agrees hjson h _) fun _ _ h => h

/-- The schema without messages has the `google.protobuf` types alone. -/
theorem decodesAs_ofSchema_empty :
    ∃ set, DecoderSet.ofSchema {} {} = .ok set ∧
      set.DecodesAs int32Value (Wrapper.ofMessage toInt32 0) ∧
      (set.decode "google.protobuf.Int32Value" [8, 5]).map (Wrapper.ofMessage toInt32 0) =
        .ok ⟨5⟩ := by
  have hplans : (Schema.plans {} {}).toOption.isSome = true := by
    rw [Schema.plans_eq rfl]
    decide +kernel
  obtain ⟨set, hset⟩ := DecoderSet.exists_ofSchema hplans
  have hdecodes := (decodesAs_ofSchema hset).2.2.2.2.1
  have hnative : int32Value.decode [8, 5] = .ok ⟨5⟩ := by decide +kernel
  exact ⟨set, hset, hdecodes, (hdecodes [8, 5]).symm.trans hnative⟩

end ProtoPlan.WellKnown
