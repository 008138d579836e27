import ProtoPlan.Proofs.Dynamic.Encoding
import ProtoPlan.Proofs.Dynamic.Holding
import ProtoPlan.Proofs.Dynamic.Rules

/-!
Reading the records of a field. Each record takes what the field holds one step further, whatever
the rest of the message is, and the records of a value lead from an absent field to the value.
-/

namespace ProtoPlan.Wire

theorem Key.encode_ne_nil (key : Key) : key.encode ≠ [] := Varint.encode_ne_nil _

theorem length_le_spanBytes (bytes : Bytes) : bytes.length ≤ (spanBytes bytes).length := by
  simp [spanBytes]

theorem Scalar.encode_ne_nil {kind : Scalar} {v : ScalarValue} {bytes : Bytes}
    (h : kind.encode? v = some bytes) : bytes ≠ [] := by
  unfold encode? at h
  split at h <;> cases h <;> first | exact Varint.encode_ne_nil _ | simp [fixedBytes]

/-- Elements one after the other are read as one block. -/
theorem Reader.elements_flatten {read : Reader α} {values : List α} {parts : List Bytes}
    (h : List.Forall₂ (fun v bytes => bytes ≠ [] ∧ Takes read bytes v) values parts)
    (list : List α) : elements read list parts.flatten = .ok (list ++ values) [] := by
  have hsteps : Steps (fun list => do return list ++ [← read]) list parts (list ++ values) := by
    induction h generalizing list with
    | nil => simpa using Steps.done list
    | @cons v bytes values parts hv _ ih =>
      have hmore := ih (list ++ [v])
      rw [List.append_assoc, List.singleton_append] at hmore
      exact .more hv.1 (hv.2.map (Takes.pure _)) hmore
  exact hsteps.drain

end ProtoPlan.Wire

namespace ProtoPlan.Schema.Kind

theorem wireType_ne_endGroup (kind : Kind) : kind.wireType ≠ .endGroup := by
  cases kind with
  | scalar kind => exact kind.wireType_ne_endGroup
  | string | bytes | message | group => simp [wireType]

end ProtoPlan.Schema.Kind

namespace ProtoPlan.Dynamic

open Wire Schema Reader

/-- Within `budget` levels, what is well typed is read back from its encodings. No buffer has 2^63
bytes. -/
structure DecoderSet.Reads (set : DecoderSet) (schema : Schema) (budget : Nat) : Prop where
  message : ∀ {name m bytes}, (typing schema budget).message name m →
    Encodes schema name m bytes → bytes.length < 2 ^ 63 →
    Takes ((set.nested budget).message name (Message.ofName name)) (spanBytes bytes) m
  entry : ∀ {key value entry keyBytes valueBytes bytes},
    (typing schema budget).entry key value entry →
    EncodesValue schema key entry.1.toValue keyBytes →
    EncodesValue schema value entry.2 valueBytes →
    bytes = (Key.encode ⟨1, key.wireType⟩ ++ keyBytes) ++
      (Key.encode ⟨2, value.wireType⟩ ++ valueBytes) → bytes.length < 2 ^ 63 →
    ∀ name, Takes (Reader.nested budget fun budget =>
      (set.nested budget).mergeEntry budget name key value
        (Value.zeroOf key, Value.zeroOf value)) (spanBytes bytes) (entry.1.toValue, entry.2)

section Values

variable {set : DecoderSet} {schema : Schema} {budget : Nat}

theorem takes_valueOf (h : set.Reads schema budget) {kind : Kind} {v : Value} {bytes : Bytes}
    (hv : HasKind (typing schema budget).message kind v) (he : EncodesValue schema kind v bytes)
    (hlen : bytes.length < 2 ^ 63) (field : String) :
    Takes ((set.nested budget).valueOf field kind) bytes v := by
  cases he with
  | scalar hbytes => exact (takes_scalar hbytes).map (Takes.pure _)
  | string v =>
    have := length_le_spanBytes v.toUTF8.data.toList
    exact (takes_text field (by omega)).map (Takes.pure _)
  | bytes v =>
    have := length_le_spanBytes v
    exact (takes_span (by omega)).map (Takes.pure _)
  | @message type m bytes hm =>
    have := length_le_spanBytes bytes
    cases hv with
    | message htyped => exact (h.message htyped hm (by omega)).map (Takes.pure _)

/-- A value framed as its kind is taken with its key. -/
theorem takes_expect {wireType : WireType} {number : Nat} {field : String} {body : Reader α}
    {bytes : Bytes} {a : α} (h : Takes body bytes a) :
    Takes (expect ⟨number, wireType⟩ wireType field body) bytes a := by
  unfold expect
  rw [if_pos rfl]
  exact h

/-- A side of an entry that holds nothing yet is read afresh. -/
theorem mergeSide_zeroOf (nested : Nested) (key : Key) (field : String) (kind : Kind) :
    nested.mergeSide key field kind (Value.zeroOf kind) =
      expect key kind.wireType field (nested.valueOf field kind) := by
  cases kind <;> rfl

theorem takes_mergeSide (h : set.Reads schema budget) {kind : Kind} {v : Value} {bytes : Bytes}
    (hv : HasKind (typing schema budget).message kind v) (he : EncodesValue schema kind v bytes)
    (hlen : bytes.length < 2 ^ 63) (number : Nat) (field : String) :
    Takes ((set.nested budget).mergeSide ⟨number, kind.wireType⟩ field kind (Value.zeroOf kind))
      bytes v := by
  rw [mergeSide_zeroOf]
  exact takes_expect (takes_valueOf h hv he hlen field)

theorem mergeEntry_encodes (h : set.Reads schema budget) {key value : Kind}
    {entry : MapKey × Value} {keyBytes valueBytes : Bytes}
    (hk : HasKind (typing schema budget).message key entry.1.toValue)
    (hv : HasKind (typing schema budget).message value entry.2)
    (hkey : EncodesValue schema key entry.1.toValue keyBytes)
    (hvalue : EncodesValue schema value entry.2 valueBytes)
    (hlen : keyBytes.length < 2 ^ 63 ∧ valueBytes.length < 2 ^ 63) (name : String) :
    (set.nested budget).mergeEntry budget name key value (Value.zeroOf key, Value.zeroOf value)
      ((Key.encode ⟨1, key.wireType⟩ ++ keyBytes) ++
        (Key.encode ⟨2, value.wireType⟩ ++ valueBytes)) =
      .ok (entry.1.toValue, entry.2) [] := by
  have hone : Takes Reader.key (Key.encode ⟨1, key.wireType⟩) ⟨1, key.wireType⟩ :=
    takes_key (by decide) (by decide) key.wireType_ne_endGroup
  have htwo : Takes Reader.key (Key.encode ⟨2, value.wireType⟩) ⟨2, value.wireType⟩ :=
    takes_key (by decide) (by decide) value.wireType_ne_endGroup
  have hfirst : Takes (Reader.field budget ((set.nested budget).claimSide name key value) ignore
      (Value.zeroOf key, Value.zeroOf value)) (Key.encode ⟨1, key.wireType⟩ ++ keyBytes)
      (entry.1.toValue, Value.zeroOf value) :=
    hone.field rfl ((takes_mergeSide h hk hkey hlen.1 1 (name ++ ".key")).map (Takes.pure _))
  have hsecond : Takes (Reader.field budget ((set.nested budget).claimSide name key value) ignore
      (entry.1.toValue, Value.zeroOf value)) (Key.encode ⟨2, value.wireType⟩ ++ valueBytes)
      (entry.1.toValue, entry.2) :=
    htwo.field rfl ((takes_mergeSide h hv hvalue hlen.2 2 (name ++ ".value")).map (Takes.pure _))
  have hsteps := (Steps.single (by simp [Key.encode_ne_nil]) hfirst).append
    (Steps.single (by simp [Key.encode_ne_nil]) hsecond)
  unfold Nested.mergeEntry Reader.fields
  simpa using hsteps.drain

end Values

/-- Puts a value in the place of all that the field held, or its oneof if it is a member of one. -/
def Message.put (m : Message) (field : Field) (v : Value) : Message :=
  match field.oneof? with
  | some oneof => m.select oneof field.number v
  | none => m.set field.number v

theorem Message.put_eq_place (m : Message) (field : Field) (v : Value) :
    m.put field v = m.place field.oneof? field.number v := rfl

theorem Message.put_eq_set {field : Field} (h : field.oneof? = none) (m : Message) (v : Value) :
    m.put field v = m.set field.number v := by
  rw [put, h]

/-- A record takes a field from `current` to `next`, whatever the rest of the message is, and tells
that a required field was seen. -/
def Nested.Advances (nested : Nested) (field : Field) (current : Option Value) (record : Bytes)
    (next : Value) : Prop :=
  ∃ wireType value, record = Key.encode ⟨field.number, wireType⟩ ++ value ∧
    wireType ≠ .endGroup ∧
    ∀ bit rule, Rule.Fits field bit rule → ∀ m seen, m.fields.get? field.number = current →
      ∃ seen', Takes (nested.apply rule ⟨field.number, wireType⟩ m seen) value
          (m.put field next, seen') ∧ seen ⊆ seen' ∧
        (field.isRequired = true → bit.toList ⊆ seen')

section Advances

variable {set : DecoderSet} {schema : Schema} {budget : Nat} {field : Field}

/-- A record of a field that is no map: it is merged into the message, and its bit is noted. -/
theorem advances_of_mergeField {nested : Nested} {wireType : WireType} {bytes : Bytes}
    {current : Option Value} {next : Value}
    (hmap : ∀ key value, field.cardinality ≠ .map key value) (hw : wireType ≠ .endGroup)
    (h : ∀ m : Message, m.fields.get? field.number = current →
      Takes (nested.mergeField field ⟨field.number, wireType⟩ m) bytes (m.put field next)) :
    nested.Advances field current (Key.encode ⟨field.number, wireType⟩ ++ bytes) next := by
  refine ⟨wireType, bytes, rfl, hw, fun bit rule hrule m seen hm => ?_⟩
  refine ⟨bit.toList ++ seen, ?_, List.subset_append_right _ _,
    fun _ => List.subset_append_left _ _⟩
  rw [Nested.apply_eq hrule hmap]
  exact (h m hm).map (Takes.pure _)

theorem advances_single (h : set.Reads schema budget) (hin : field.isInline = true) {v : Value}
    {bytes : Bytes} (hv : HasKind (typing schema budget).message field.kind v)
    (he : EncodesValue schema field.kind v bytes) (hlen : bytes.length < 2 ^ 63) :
    (set.nested budget).Advances field none
      (Key.encode ⟨field.number, field.kind.wireType⟩ ++ bytes) v := by
  have hvalue := takes_valueOf h hv he hlen field.name
  refine advances_of_mergeField (Field.cardinality_ne_map hin)
    field.kind.wireType_ne_endGroup fun m hm => ?_
  unfold Message.put
  cases hone : field.oneof? with
  | some oneof =>
    have hc : field.cardinality = .oneof oneof := by
      cases hc : field.cardinality <;> simp_all [Field.oneof?]
    simp only [Nested.mergeField, hc]
    exact takes_expect (hvalue.map (Takes.pure _))
  | none =>
    cases hkind : field.kind.isMessage with
    | false =>
      rw [Nested.mergeField_set hin hone hkind]
      exact takes_expect (hvalue.map (Takes.pure _))
    | true =>
      obtain ⟨type, hk⟩ : ∃ type, field.kind = .message type := by
        cases hk : field.kind <;> simp_all [Kind.isMessage]
      have hfresh : m.submessage field.number (trimDots type) = Message.ofName (trimDots type) := by
        rw [Message.submessage, hm]
      rw [hk] at hv he
      rw [Nested.mergeField_merge hin hone hk, hfresh, hk, Kind.wireType]
      cases he with
      | @message _ inner bytes hinner =>
        cases hv with
        | message htyped =>
          have := length_le_spanBytes bytes
          exact takes_expect ((h.message htyped hinner (by omega)).map (Takes.pure _))

theorem advances_append (h : set.Reads schema budget) (hc : field.cardinality = .repeated)
    (current : Option Value) {v : Value} {bytes : Bytes}
    (hv : HasKind (typing schema budget).message field.kind v)
    (he : EncodesValue schema field.kind v bytes) (hlen : bytes.length < 2 ^ 63) :
    (set.nested budget).Advances field current
      (Key.encode ⟨field.number, field.kind.wireType⟩ ++ bytes)
      (.list (Value.listOf current ++ [v])) := by
  have hvalue := takes_valueOf h hv he hlen field.name
  refine advances_of_mergeField (by simp [hc]) field.kind.wireType_ne_endGroup fun m hm => ?_
  have hsingle : (field.kind.isPackable && field.kind.wireType == .lengthDelimited) = false := by
    cases field.kind with
    | scalar kind => simp [Kind.wireType, kind.wireType_ne_lengthDelimited]
    | string | bytes | message | group => rfl
  rw [Message.put_eq_set (by simp [Field.oneof?, hc]), ← Message.list_eq hm]
  simp only [Nested.mergeField, hc, hsingle, Bool.false_eq_true, if_false]
  exact takes_expect (hvalue.map (Takes.pure _))

/-- A packed block of elements is put after those at hand. -/
theorem advances_packed (set : DecoderSet) (budget : Nat) (hc : field.cardinality = .repeated)
    {kind : Scalar} (hkind : field.kind = .scalar kind) (current : Option Value)
    {block : List ScalarValue} {parts : List Bytes}
    (he : List.Forall₂ (fun v bytes => kind.encode? v = some bytes) block parts)
    (hlen : parts.flatten.length < 2 ^ 63) :
    (set.nested budget).Advances field current
      (Key.encode ⟨field.number, .lengthDelimited⟩ ++ spanBytes parts.flatten)
      (.list (Value.listOf current ++ block.map .scalar)) := by
  refine advances_of_mergeField (by simp [hc]) (by simp) fun m hm => ?_
  have hblock : (field.kind.isPackable && WireType.lengthDelimited == .lengthDelimited) = true := by
    rw [hkind]
    rfl
  have hparts : List.Forall₂ (fun v bytes => bytes ≠ [] ∧
      Takes ((set.nested budget).valueOf field.name field.kind) bytes v)
      (block.map Value.scalar) parts := by
    rw [List.forall₂_map_left_iff, hkind]
    exact he.imp fun v bytes hv =>
      ⟨Scalar.encode_ne_nil hv, (takes_scalar hv).map (Takes.pure _)⟩
  have helements := elements_flatten hparts (m.list field.number)
  rw [Message.put_eq_set (by simp [Field.oneof?, hc]), ← Message.list_eq hm]
  simp only [Nested.mergeField, hc, hblock, if_pos]
  exact (takes_span hlen).delimited (bind_eq_ok_iff.2 ⟨_, _, helements, rfl⟩)

theorem advances_entry (h : set.Reads schema budget) {key value : Field}
    (hc : field.cardinality = .map key value) (current : Option Value) {entry : MapKey × Value}
    {keyBytes valueBytes bytes : Bytes}
    (hentry : (typing schema budget).entry key.kind value.kind entry)
    (hkey : EncodesValue schema key.kind entry.1.toValue keyBytes)
    (hvalue : EncodesValue schema value.kind entry.2 valueBytes)
    (hbytes : bytes = (Key.encode ⟨1, key.kind.wireType⟩ ++ keyBytes) ++
      (Key.encode ⟨2, value.kind.wireType⟩ ++ valueBytes)) (hlen : bytes.length < 2 ^ 63) :
    (set.nested budget).Advances field current
      (Key.encode ⟨field.number, .lengthDelimited⟩ ++ spanBytes bytes)
      (.map ((Value.mapOf current).insert entry.1 entry.2)) := by
  refine ⟨.lengthDelimited, _, rfl, by simp, fun bit rule hrule m seen hm => ?_⟩
  refine ⟨seen, ?_, List.Subset.refl _, ?_⟩
  · rw [set.apply_map_eq hrule hc]
    have hread := h.entry hentry hkey hvalue hbytes hlen field.name
    have hput : m.put field (.map ((Value.mapOf current).insert entry.1 entry.2)) =
        m.putEntry field.number (entry.1.toValue, entry.2) := by
      rw [Message.put_eq_set (by simp [Field.oneof?, hc]), Message.putEntry,
        MapKey.toKey?_toValue, ← Message.map_eq hm]
    rw [hput]
    exact (takes_expect (hread.map (f := fun entry => pure (m.putEntry field.number entry))
      (Takes.pure _))).map (Takes.pure _)
  · intro hreq
    simp [Field.isRequired, hc] at hreq

end Advances

/-- Records lead a field from `current` to `last`, each a step further. -/
inductive Nested.Leads (nested : Nested) (field : Field) :
    (current : Option Value) → List Bytes → (last : Option Value) → Prop where
  | done (current : Option Value) : Leads nested field current [] current
  | more {current last : Option Value} {next : Value} {record : Bytes} {records : List Bytes} :
      nested.Advances field current record next → Leads nested field (some next) records last →
      Leads nested field current (record :: records) last

section Leads

variable {set : DecoderSet} {schema : Schema} {budget : Nat} {field : Field}

/-- The first record of a repeated field puts its elements after those at hand. -/
theorem advances_first (h : set.Reads schema budget) (hc : field.cardinality = .repeated)
    {values : List Value} {record : Bytes} {records : List Bytes}
    (he : EncodesList schema field values (record :: records))
    (hvalues : ∀ v ∈ values, HasKind (typing schema budget).message field.kind v)
    (hlen : record.length < 2 ^ 63) :
    ∃ first rest, values = first ++ rest ∧ EncodesList schema field rest records ∧
      ∀ current, (set.nested budget).Advances field current record
        (.list (Value.listOf current ++ first)) := by
  cases he with
  | @single _ v bytes rest _ hv hrest =>
    rw [List.length_append] at hlen
    exact ⟨[v], rest, rfl, hrest, fun current =>
      advances_append h hc current (hvalues v List.mem_cons_self) hv (by omega)⟩
  | @packed _ _ block parts rest _ hkind hblock hrest =>
    rw [List.length_append] at hlen
    have := length_le_spanBytes parts.flatten
    exact ⟨block.map .scalar, rest, rfl, hrest, fun current =>
      advances_packed set budget hc hkind current hblock (by omega)⟩

/-- Records of elements lead from elements to these and more. -/
theorem leads_list (h : set.Reads schema budget) (hc : field.cardinality = .repeated)
    {values : List Value} {records : List Bytes} (he : EncodesList schema field values records)
    (hvalues : ∀ v ∈ values, HasKind (typing schema budget).message field.kind v)
    (hlen : ∀ record ∈ records, record.length < 2 ^ 63) (before : List Value) :
    (set.nested budget).Leads field (some (.list before)) records
      (some (.list (before ++ values))) := by
  induction records generalizing values before with
  | nil =>
    cases he
    rw [List.append_nil]
    exact .done _
  | cons record records ih =>
    obtain ⟨first, rest, rfl, hrest, hstep⟩ :=
      advances_first h hc he hvalues (hlen record List.mem_cons_self)
    rw [← List.append_assoc]
    exact .more (hstep _) (ih hrest (fun v hv => hvalues v (List.mem_append_right _ hv))
      (fun other hother => hlen other (List.mem_cons_of_mem _ hother)) _)

/-- Records of entries lead from a map to the one with these entries put in. -/
theorem leads_entries (h : set.Reads schema budget) {key value : Field}
    (hc : field.cardinality = .map key value) {entries : List (MapKey × Value)}
    {records : List Bytes}
    (he : EncodesEntries schema field.number key.kind value.kind entries records)
    (hentries : ∀ entry ∈ entries, (typing schema budget).entry key.kind value.kind entry)
    (hlen : ∀ record ∈ records, record.length < 2 ^ 63) (hne : entries ≠ [])
    (current : Option Value) :
    (set.nested budget).Leads field current records
      (some (.map ((Value.mapOf current).insertAll entries))) := by
  induction records generalizing entries current with
  | nil =>
    cases he
    exact absurd rfl hne
  | cons record records ih =>
    cases he with
    | @cons _ _ _ entry keyBytes valueBytes rest _ hkey hvalue hrest =>
      have hlong := hlen _ List.mem_cons_self
      rw [List.length_append] at hlong
      have hspan := length_le_spanBytes ((Key.encode ⟨1, key.kind.wireType⟩ ++ keyBytes) ++
        (Key.encode ⟨2, value.kind.wireType⟩ ++ valueBytes))
      have hstep := advances_entry h hc current (hentries entry List.mem_cons_self) hkey hvalue rfl
        (by omega)
      refine .more hstep ?_
      -- The hypothesis is about entries to come, and there may be none.
      by_cases hlast : rest = []
      · subst hlast
        cases hrest
        exact .done _
      · exact ih hrest (fun other hother => hentries other (List.mem_cons_of_mem _ hother))
          (fun other hother => hlen other (List.mem_cons_of_mem _ hother)) hlast _

/-- The records of a value lead from an absent field to the value. -/
theorem leads_of_encodes (h : set.Reads schema budget) {v : Value} {records : List Bytes}
    (hv : (typing schema budget).HasField field v) (he : EncodesField schema field v records)
    (hlen : ∀ record ∈ records, record.length < 2 ^ 63) :
    (set.nested budget).Leads field none records (some v) := by
  cases hv with
  | single hin hkind =>
    cases he with
    | single _ hbytes =>
      have hlong := hlen _ List.mem_cons_self
      rw [List.length_append] at hlong
      exact .more (advances_single h hin hkind hbytes (by omega)) (.done _)
    | list hc => exact absurd hc (Field.cardinality_ne_repeated hin)
    | map hc => exact absurd hc (Field.cardinality_ne_map hin _ _)
  | list hc hne hvalues =>
    cases he with
    | single hin => exact absurd hc (Field.cardinality_ne_repeated hin)
    | list _ hlist =>
      cases records with
      | nil =>
        cases hlist
        exact absurd rfl hne
      | cons record records =>
        -- The first record finds the field absent, all others find a list.
        obtain ⟨first, rest, rfl, hrest, hstep⟩ :=
          advances_first h hc hlist hvalues (hlen record List.mem_cons_self)
        exact .more (hstep none) (leads_list h hc hrest
          (fun v hv => hvalues v (List.mem_append_right _ hv))
          (fun other hother => hlen other (List.mem_cons_of_mem _ hother)) _)
  | map hc hsorted hne hentries =>
    cases he with
    | single hin => exact absurd hc (Field.cardinality_ne_map hin _ _)
    | map hc' hperm hrecords =>
      rw [hc] at hc'
      cases hc'
      have hleads := leads_entries h hc hrecords
        (fun entry hentry => hentries entry (hperm.mem_iff.2 hentry)) hlen
        (fun hnil => hne (List.Perm.eq_nil (hnil ▸ hperm))) none
      have hempty : Value.mapOf none = {} := rfl
      rwa [hempty, SortedMap.insertAll_perm hsorted hperm] at hleads

end Leads

end ProtoPlan.Dynamic
