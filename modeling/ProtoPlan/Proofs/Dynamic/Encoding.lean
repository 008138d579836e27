import ProtoPlan.Proofs.Dynamic.Typing

/-!
The wire encoding of messages, as a relation: the records of different fields may come in any order,
map entries too, and each numeric repeated field may come packed, unpacked or in a mixture of both.
Every well-typed message has an encoding.
-/

namespace ProtoPlan.Dynamic

open Wire Schema

/-- The records under a number, of records with their numbers. -/
def recordsOf (records : List (Nat × Bytes)) (number : Nat) : List Bytes :=
  (records.filter (·.1 = number)).map (·.2)

mutual

/-- The encoding of a message of the named type: its records one after the other, those of each
field in their order. -/
inductive Encodes (schema : Schema) : (name : String) → Message → Bytes → Prop where
  | of_records {name : String} {message : ProtoPlan.Message} {m : Message}
      (records : List (Nat × Bytes)) : schema.declaration? name = some message →
      (∀ number, EncodesSlot schema message.fields number (m.fields.get? number)
        (recordsOf records number)) →
      Encodes schema name m (records.flatMap (·.2))

/-- The records of what a message declared with `fields` holds under a number. -/
inductive EncodesSlot (schema : Schema) :
    (fields : List Field) → (number : Nat) → Option Value → List Bytes → Prop where
  | absent (fields : List Field) (number : Nat) : EncodesSlot schema fields number none []
  | present {fields : List Field} {field : Field} {v : Value} {records : List Bytes} :
      field ∈ fields → EncodesField schema field v records →
      EncodesSlot schema fields field.number (some v) records

inductive EncodesField (schema : Schema) : Field → Value → List Bytes → Prop where
  | single {field : Field} {v : Value} {bytes : Bytes} : field.isInline = true →
      EncodesValue schema field.kind v bytes →
      EncodesField schema field v [Key.encode ⟨field.number, field.kind.wireType⟩ ++ bytes]
  | list {field : Field} {values : List Value} {records : List Bytes} :
      field.cardinality = .repeated → EncodesList schema field values records →
      EncodesField schema field (.list values) records
  | map {field key value : Field} {entries : SortedMap MapKey Value}
      {order : List (MapKey × Value)} {records : List Bytes} :
      field.cardinality = .map key value → entries.entries.Perm order →
      EncodesEntries schema field.number key.kind value.kind order records →
      EncodesField schema field (.map entries) records

/-- The records of a repeated field: one for each element, or for a packed block of elements. -/
inductive EncodesList (schema : Schema) : Field → List Value → List Bytes → Prop where
  | nil (field : Field) : EncodesList schema field [] []
  | single {field : Field} {v : Value} {bytes : Bytes} {values : List Value}
      {records : List Bytes} : EncodesValue schema field.kind v bytes →
      EncodesList schema field values records →
      EncodesList schema field (v :: values)
        ((Key.encode ⟨field.number, field.kind.wireType⟩ ++ bytes) :: records)
  | packed {field : Field} {kind : Scalar} {block : List ScalarValue} {parts : List Bytes}
      {values : List Value} {records : List Bytes} : field.kind = .scalar kind →
      List.Forall₂ (fun v bytes => kind.encode? v = some bytes) block parts →
      EncodesList schema field values records →
      EncodesList schema field (block.map .scalar ++ values)
        ((Key.encode ⟨field.number, .lengthDelimited⟩ ++ spanBytes parts.flatten) :: records)

/-- The records of map entries, each a message with the key under 1 and the value under 2. -/
inductive EncodesEntries (schema : Schema) :
    (number : Nat) → (key value : Kind) → List (MapKey × Value) → List Bytes → Prop where
  | nil (number : Nat) (key value : Kind) : EncodesEntries schema number key value [] []
  | cons {number : Nat} {key value : Kind} {entry : MapKey × Value} {keyBytes valueBytes : Bytes}
      {entries : List (MapKey × Value)} {records : List Bytes} :
      EncodesValue schema key entry.1.toValue keyBytes →
      EncodesValue schema value entry.2 valueBytes →
      EncodesEntries schema number key value entries records →
      EncodesEntries schema number key value (entry :: entries)
        ((Key.encode ⟨number, .lengthDelimited⟩ ++
          spanBytes ((Key.encode ⟨1, key.wireType⟩ ++ keyBytes) ++
            (Key.encode ⟨2, value.wireType⟩ ++ valueBytes))) :: records)

/-- The encoding of a single value of a kind. -/
inductive EncodesValue (schema : Schema) : Kind → Value → Bytes → Prop where
  | scalar {kind : Scalar} {v : ScalarValue} {bytes : Bytes} : kind.encode? v = some bytes →
      EncodesValue schema (.scalar kind) (.scalar v) bytes
  | string (v : String) : EncodesValue schema .string (.text v) (spanBytes v.toUTF8.data.toList)
  | bytes (v : Bytes) : EncodesValue schema .bytes (.bytes v) (spanBytes v)
  | message {type : String} {m : Message} {bytes : Bytes} :
      Encodes schema (trimDots type) m bytes →
      EncodesValue schema (.message type) (.message m) (spanBytes bytes)

end

structure Typing.Encodable (schema : Schema) (typing : Typing) : Prop where
  message : ∀ name m, typing.message name m → ∃ bytes, Encodes schema name m bytes
  entry : ∀ key value entry, typing.entry key value entry →
    (∃ bytes, EncodesValue schema key entry.1.toValue bytes) ∧
      ∃ bytes, EncodesValue schema value entry.2 bytes

section Existence

variable {schema : Schema} {typing : Typing} {embedded : String → Message → Prop}

theorem exists_encodesValue
    (h : ∀ name m, embedded name m → ∃ bytes, Encodes schema name m bytes) {kind : Kind} {v : Value}
    (hv : HasKind embedded kind v) : ∃ bytes, EncodesValue schema kind v bytes := by
  cases hv with
  | scalar hkind =>
    obtain ⟨bytes, hbytes⟩ := Scalar.exists_encode hkind
    exact ⟨bytes, .scalar hbytes⟩
  | string v => exact ⟨_, .string v⟩
  | bytes v => exact ⟨_, .bytes v⟩
  | message hm =>
    obtain ⟨bytes, hbytes⟩ := h _ _ hm
    exact ⟨_, .message hbytes⟩

theorem exists_encodesList (h : typing.Encodable schema) (field : Field) {values : List Value}
    (hvalues : ∀ v ∈ values, HasKind typing.message field.kind v) :
    ∃ records, EncodesList schema field values records := by
  induction values with
  | nil => exact ⟨[], .nil field⟩
  | cons v values ih =>
    obtain ⟨bytes, hbytes⟩ := exists_encodesValue h.message (hvalues v List.mem_cons_self)
    obtain ⟨records, hrecords⟩ := ih fun other hother =>
      hvalues other (List.mem_cons_of_mem _ hother)
    exact ⟨_, .single hbytes hrecords⟩

theorem exists_encodesEntries (h : typing.Encodable schema) (number : Nat) {key value : Kind}
    {entries : List (MapKey × Value)} (hentries : ∀ entry ∈ entries, typing.entry key value entry) :
    ∃ records, EncodesEntries schema number key value entries records := by
  induction entries with
  | nil => exact ⟨[], .nil number key value⟩
  | cons entry entries ih =>
    obtain ⟨⟨keyBytes, hkey⟩, valueBytes, hvalue⟩ :=
      h.entry key value entry (hentries entry List.mem_cons_self)
    obtain ⟨records, hrecords⟩ := ih fun other hother =>
      hentries other (List.mem_cons_of_mem _ hother)
    exact ⟨_, .cons hkey hvalue hrecords⟩

theorem exists_encodesField (h : typing.Encodable schema) {field : Field} {v : Value}
    (hv : typing.HasField field v) : ∃ records, EncodesField schema field v records := by
  cases hv with
  | single hin hkind =>
    obtain ⟨bytes, hbytes⟩ := exists_encodesValue h.message hkind
    exact ⟨_, .single hin hbytes⟩
  | list hc _ hvalues =>
    obtain ⟨records, hrecords⟩ := exists_encodesList h field hvalues
    exact ⟨records, .list hc hrecords⟩
  | map hc _ _ hentries =>
    obtain ⟨records, hrecords⟩ := exists_encodesEntries h field.number hentries
    exact ⟨records, .map hc (.refl _) hrecords⟩

@[simp] theorem recordsOf_nil (number : Nat) : recordsOf [] number = [] := rfl

theorem recordsOf_cons (record : Nat × Bytes) (records : List (Nat × Bytes)) (number : Nat) :
    recordsOf (record :: records) number =
      if record.1 = number then record.2 :: recordsOf records number
      else recordsOf records number := by
  unfold recordsOf
  by_cases h : record.1 = number <;> simp [h]

theorem recordsOf_append (pieces : List Bytes) (own number : Nat) (records : List (Nat × Bytes)) :
    recordsOf (pieces.map (own, ·) ++ records) number =
      if own = number then pieces ++ recordsOf records number else recordsOf records number := by
  induction pieces with
  | nil => simp
  | cons piece pieces ih =>
    rw [List.map_cons, List.cons_append, recordsOf_cons, ih]
    split <;> rfl

/-- Fields that have records can be written one after the other. -/
theorem exists_recordsOf {entries : List (Nat × Value)} {P : Nat → Value → List Bytes → Prop}
    (hdistinct : entries.Pairwise fun first second => first.1 ≠ second.1)
    (h : ∀ entry ∈ entries, ∃ pieces, P entry.1 entry.2 pieces) :
    ∃ records, (∀ entry ∈ entries, P entry.1 entry.2 (recordsOf records entry.1)) ∧
      ∀ number, (∀ entry ∈ entries, entry.1 ≠ number) → recordsOf records number = [] := by
  induction entries with
  | nil => exact ⟨[], by simp, fun _ _ => rfl⟩
  | cons first rest ih =>
    obtain ⟨hfirst, hrest⟩ := List.pairwise_cons.1 hdistinct
    obtain ⟨records, hheld, hfree⟩ := ih hrest fun entry hentry =>
      h entry (List.mem_cons_of_mem _ hentry)
    obtain ⟨pieces, hpieces⟩ := h first List.mem_cons_self
    -- The other entries have other numbers, so what goes in front leaves their records alone.
    refine ⟨pieces.map (first.1, ·) ++ records, ?_, ?_⟩
    · intro entry hentry
      rw [recordsOf_append]
      rcases List.mem_cons.1 hentry with rfl | hentry
      · rwa [if_pos rfl, hfree entry.1 fun other hother => (hfirst other hother).symm,
          List.append_nil]
      · rw [if_neg (hfirst entry hentry)]
        exact hheld entry hentry
    · intro number hnumber
      rw [recordsOf_append, if_neg (hnumber first List.mem_cons_self)]
      exact hfree number fun entry hentry => hnumber entry (List.mem_cons_of_mem _ hentry)

theorem exists_encodes (h : typing.Encodable schema) {name : String} {message : ProtoPlan.Message}
    {m : Message} (hdeclared : schema.declaration? name = some message)
    (hm : typing.WellTyped message m) : ∃ bytes, Encodes schema name m bytes := by
  obtain ⟨records, hheld, hfree⟩ := exists_recordsOf
    (P := fun number v pieces => EncodesSlot schema message.fields number (some v) pieces)
    hm.sortedFields.distinct fun entry hentry => by
      have hget := SortedMap.get?_of_mem hm.sortedFields hentry
      obtain ⟨field, hf, hnumber, hv⟩ := hm.field _ _ hget
      obtain ⟨pieces, hpieces⟩ := exists_encodesField h hv
      rw [← hnumber]
      exact ⟨pieces, .present hf hpieces⟩
  refine ⟨_, .of_records records hdeclared fun number => ?_⟩
  cases hget : m.fields.get? number with
  | some v => exact hheld _ (SortedMap.mem_of_get? hget)
  | none =>
    rw [hfree number]
    · exact .absent _ _
    · rintro entry hentry rfl
      rw [SortedMap.get?_of_mem hm.sortedFields hentry] at hget
      cases hget

end Existence

/-- Every well-typed message has an encoding. -/
theorem encodable_typing (schema : Schema) (levels : Nat) :
    (typing schema levels).Encodable schema := by
  induction levels with
  | zero => exact ⟨fun _ _ h => h.elim, fun _ _ _ h => h.elim⟩
  | succ levels ih =>
    constructor
    · rintro name m ⟨message, hdeclared, hm⟩
      exact exists_encodes ih hdeclared hm
    · rintro key value entry ⟨hkey, hvalue⟩
      exact ⟨exists_encodesValue ih.message hkey, exists_encodesValue ih.message hvalue⟩

end ProtoPlan.Dynamic
