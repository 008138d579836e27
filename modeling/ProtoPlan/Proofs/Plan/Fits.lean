import ProtoPlan.Plan.OfMessage
import ProtoPlan.Proofs.Data.List

/-!
What planning a schema yields. A rule fits a field if it reads the field's kind, framed as that kind
is, and stores it as the field's cardinality asks; a plan fits a message if it has a fitting rule
for each field, and for no other number.
-/

namespace ProtoPlan

open Wire Schema

theorem except_bind_eq_ok_iff {x : Except ε α} {f : α → Except ε β} {b : β} :
    x >>= f = .ok b ↔ ∃ a, x = .ok a ∧ f a = .ok b := by
  cases x <;> simp [bind, Except.bind]

theorem eq_ok_get_of_isSome {x : Except ε α} (h : x.toOption.isSome = true) :
    x = .ok (x.toOption.get h) := by
  cases x with
  | error e => cases h
  | ok a => rfl

theorem exists_ok_of_isSome {x : Except ε α} (h : x.toOption.isSome = true) :
    ∃ a, x = .ok a := ⟨_, eq_ok_get_of_isSome h⟩

theorem exists_ok_ok_of_isSome {x : Except ε α} {f : α → Except ε' β}
    (h : (x.toOption.bind fun a => (f a).toOption).isSome = true) :
    ∃ a b, x = .ok a ∧ f a = .ok b := by
  cases x with
  | error e => cases h
  | ok a =>
    obtain ⟨b, hb⟩ := exists_ok_of_isSome h
    exact ⟨a, b, rfl, hb⟩

theorem exists_ok_of_map {x : Except ε α} {f : α → β} {b : β} (h : x.toOption.map f = some b) :
    ∃ a, x = .ok a ∧ f a = b := by
  cases x with
  | error e => cases h
  | ok a => exact ⟨a, rfl, Option.some.inj h⟩

theorem exists_ok_of_bind {x : Except ε α} {f : α → Option β} {b : β}
    (h : x.toOption.bind f = some b) : ∃ a, x = .ok a ∧ f a = some b := by
  cases x with
  | error e => cases h
  | ok a => exact ⟨a, rfl, h⟩

theorem mapM_eq_ok_iff {f : α → Except ε β} {xs : List α} {ys : List β} :
    xs.mapM f = .ok ys ↔ List.Forall₂ (fun x y => f x = .ok y) xs ys := by
  induction xs generalizing ys with
  | nil => simp [Pure.pure, Except.pure, eq_comm]
  | cons x xs ih =>
    rw [List.mapM_cons, except_bind_eq_ok_iff, List.forall₂_cons_left_iff]
    constructor
    · rintro ⟨y, hy, h⟩
      obtain ⟨more, hmore, h⟩ := except_bind_eq_ok_iff.1 h
      cases h
      exact ⟨y, more, hy, ih.1 hmore, rfl⟩
    · rintro ⟨y, more, hy, hmore, rfl⟩
      exact ⟨y, hy, except_bind_eq_ok_iff.2 ⟨more, ih.2 hmore, rfl⟩⟩

/-- The kind of the values that a field holds: of a map, those of its entries. -/
def Schema.Field.heldKind (field : Field) : Kind :=
  match field.cardinality with
  | .map _ value => value.kind
  | _ => field.kind

theorem Schema.Field.cardinality_ne_repeated {field : Field} (h : field.isInline = true) :
    field.cardinality ≠ .repeated := by
  intro hc
  simp [isInline, hc] at h

theorem Schema.Field.cardinality_ne_map {field : Field} (h : field.isInline = true)
    (key value : Field) : field.cardinality ≠ .map key value := by
  intro hc
  simp [isInline, hc] at h

/-- The read of a kind; messages are read by full name. -/
inductive Read.Fits : Kind → Read → Prop where
  | scalar (kind : Scalar) : Fits (.scalar kind) (.scalar kind)
  | string : Fits .string .string
  | bytes : Fits .bytes .bytes
  | message {type : String} {target : MessageRef} (name : target.name = trimDots type) :
      Fits (.message type) (.message target)

theorem Read.fits_scalar_iff {kind : Kind} {scalar : Scalar} :
    Read.Fits kind (.scalar scalar) ↔ kind = .scalar scalar := by
  constructor
  · intro h
    cases h
    rfl
  · rintro rfl
    exact .scalar scalar

theorem Read.Fits.isPackable_iff {kind : Kind} {read : Read} (h : Read.Fits kind read) :
    kind.isPackable = true ↔ ∃ scalar, read = .scalar scalar := by
  cases h <;> simp [Kind.isPackable]

theorem Read.Fits.isMessage_iff {kind : Kind} {read : Read} (h : Read.Fits kind read) :
    kind.isMessage = true ↔ ∃ target, read = .message target := by
  cases h <;> simp [Kind.isMessage]

/-- The store of a field that is no map. -/
inductive Store.Fits : Field → Store → Prop where
  | append {field : Field} : field.cardinality = .repeated → Fits field .append
  | select {field : Field} {oneof variant : String} {boxed : Bool} :
      field.cardinality = .oneof oneof → Fits field (.select oneof variant boxed)
  | merge {field : Field} {boxed : Bool} :
      field.isInline = true → field.oneof? = none → field.kind.isMessage = true →
        Fits field (.merge boxed)
  | set {field : Field} {store : Store} :
      field.isInline = true → field.oneof? = none → field.kind.isMessage = false →
        store = .set ∨ store = .setOptional → Fits field store

/-- A rule for single values of a field. -/
structure FieldRule.Fits (field : Field) (bit : Option Nat) (rule : FieldRule) : Prop where
  name : rule.name = field.name
  number : rule.number = field.number
  wireType : rule.wireType = field.kind.wireType
  read : Read.Fits field.kind rule.read
  store : Store.Fits field rule.store
  packed : rule.packed.isSome = true ↔ rule.store = .append ∧ field.kind.isPackable = true
  requiredBit : rule.requiredBit = bit

/-- Map fields have rules of their own. -/
theorem FieldRule.Fits.not_map {field : Field} {bit : Option Nat} {rule : FieldRule}
    (h : FieldRule.Fits field bit rule) (key value : Field) :
    field.cardinality ≠ .map key value := by
  intro hc
  have hstore := h.store
  generalize rule.store = store at hstore
  cases hstore <;> simp_all [Field.isInline]

structure EntrySide.Fits (kind : Kind) (side : EntrySide) : Prop where
  wireType : side.wireType = kind.wireType
  read : Read.Fits kind side.read

/-- A rule for the entries of a map field. -/
structure MapRule.Fits (field key value : Field) (rule : MapRule) : Prop where
  name : rule.name = field.name
  number : rule.number = field.number
  keyKind : key.kind.isMapKey = true
  key : EntrySide.Fits key.kind rule.key
  value : EntrySide.Fits value.kind rule.value

/-- A rule for a field, with its bit among the required fields. Map fields are never required. -/
inductive Rule.Fits (field : Field) (bit : Option Nat) : Rule → Prop where
  | field {rule : FieldRule} : FieldRule.Fits field bit rule → Fits field bit (.field rule)
  | map {rule : MapRule} {key value : Field} :
      field.cardinality = .map key value → MapRule.Fits field key value rule →
        Fits field bit (.map rule)

theorem Rule.Fits.number {field : Field} {bit : Option Nat} {rule : Rule}
    (h : Rule.Fits field bit rule) : rule.number = field.number := by
  cases h with
  | field h => exact h.number
  | map _ h => exact h.number

theorem Rule.oneof?_field (rule : FieldRule) :
    (Rule.field rule).oneof? =
      match rule.store with
      | .select oneof .. => some oneof
      | _ => none := by
  obtain ⟨name, fieldName, number, wireType, read, store, packed, bit⟩ := rule
  cases store <;> rfl

theorem Rule.Fits.oneof? {field : Field} {bit : Option Nat} {rule : Rule}
    (h : Rule.Fits field bit rule) : rule.oneof? = field.oneof? := by
  cases h with
  | @field rule h =>
    have hstore := h.store
    rw [oneof?_field]
    generalize rule.store = store at hstore
    cases hstore with
    | append hc => simp [Field.oneof?, hc]
    | select hc => simp [Field.oneof?, hc]
    | merge _ hone _ => exact hone.symm
    | set _ hone _ hor => rcases hor with rfl | rfl <;> exact hone.symm
  | map hc => simp [Rule.oneof?, Field.oneof?, hc]

/-- A reference is to the type in scope that the field names. -/
theorem MessageRef.resolve_eq_ok_iff {scope : Scope} {message : Message} {field type : String}
    {ref : MessageRef} :
    resolve scope message field type = .ok ref ↔
      trimDots type ≠ "" ∧ ∃ info, scope.type? (trimDots type) = some info ∧
        ref = ⟨trimDots type, info.path, info.origin, scope.isPooled (trimDots type)⟩ := by
  unfold resolve
  by_cases hempty : trimDots type = ""
  · simp [hempty]
  · simp only [hempty, if_false]
    cases scope.type? (trimDots type) <;> simp [hempty, eq_comm]

theorem Read.ofKind_message_eq_ok_iff {scope : Scope} {message : Message} {field type : String}
    {read : Read} :
    ofKind scope message field (.message type) = .ok read ↔
      ∃ ref, MessageRef.resolve scope message field type = .ok ref ∧ read = .message ref := by
  rw [ofKind]
  cases MessageRef.resolve scope message field type <;> simp [Except.map, eq_comm]

theorem Read.fits_ofKind {scope : Scope} {message : Message} {field : String} {kind : Kind}
    {read : Read} (h : Read.ofKind scope message field kind = .ok read) : Read.Fits kind read := by
  cases kind with
  | scalar kind =>
    cases h
    exact .scalar kind
  | string =>
    cases h
    exact .string
  | bytes =>
    cases h
    exact .bytes
  | group type => cases h
  | message type =>
    obtain ⟨ref, href, rfl⟩ := ofKind_message_eq_ok_iff.1 h
    obtain ⟨-, info, -, rfl⟩ := MessageRef.resolve_eq_ok_iff.1 href
    exact .message rfl

theorem EntrySide.fits_ofField {scope : Scope} {message : Message} {field : String}
    {side : Field} {result : EntrySide}
    (h : EntrySide.ofField scope message field (Layout.ofEntrySide side.kind) side = .ok result) :
    EntrySide.Fits side.kind result := by
  obtain ⟨read, hr, h⟩ := except_bind_eq_ok_iff.1 h
  cases h
  exact ⟨rfl, Read.fits_ofKind hr⟩

/-- What the storage of a field says of the field. -/
inductive Layout.StorageFits (field : Field) : Storage Layout → Prop where
  | list : field.cardinality = .repeated → StorageFits field .list
  | oneof {name : String} : field.cardinality = .oneof name → StorageFits field (.oneof name)
  | nullable : field.isInline = true → field.oneof? = none → field.kind.isMessage = true →
      StorageFits field .nullable
  | plain {storage : Storage Layout} : field.isInline = true → field.oneof? = none →
      field.kind.isMessage = false → storage = .plain ∨ storage = .optional →
      StorageFits field storage
  | map {key value : Field} : field.cardinality = .map key value → key.kind.isMapKey = true →
      StorageFits field (.map (ofEntrySide key.kind) (ofEntrySide value.kind))

/-- Only a map field is kept as a map. -/
theorem Layout.StorageFits.cardinality_of_map {field : Field} {keyLayout valueLayout : Layout}
    (h : StorageFits field (.map keyLayout valueLayout)) :
    ∃ key value, field.cardinality = .map key value := by
  generalize hstorage : Storage.map keyLayout valueLayout = storage at h
  cases h with
  | map hc => exact ⟨_, _, hc⟩
  | plain _ _ _ hor => rcases hor with rfl | rfl <;> cases hstorage
  | _ => cases hstorage

theorem Layout.fits_storage? {message : Message} {field : Field} {storage : Storage Layout}
    (h : storage? message field = .ok storage) : StorageFits field storage := by
  unfold storage? at h
  split at h
  · rename_i hc
    cases h
    exact .list hc
  · rename_i key value hc
    simp only [ofEntry] at h
    split at h
    · cases h
    · split at h
      · cases h
      · split at h
        · cases h
        · rename_i hkey
          split at h
          · cases h
          · cases h
            exact .map hc (by simpa using hkey)
  · rename_i name hc
    cases h
    exact .oneof hc
  · rename_i hc
    cases h
    cases hm : field.kind.isMessage
    · exact .plain (by simp [Field.isInline, hc]) (by simp [Field.oneof?, hc]) hm (.inr rfl)
    · exact .nullable (by simp [Field.isInline, hc]) (by simp [Field.oneof?, hc]) hm
  · rename_i hc
    cases h
    cases hm : field.kind.isMessage
    · exact .plain (by simp [Field.isInline, hc]) (by simp [Field.oneof?, hc]) hm (.inl rfl)
    · exact .nullable (by simp [Field.isInline, hc]) (by simp [Field.oneof?, hc]) hm
  · rename_i hc
    cases h
    have hin : field.isInline = true := by simp [Field.isInline, hc]
    have hone : field.oneof? = none := by simp [Field.oneof?, hc]
    cases hm : field.kind.isMessage
    · refine .plain hin hone hm ?_
      by_cases hp : message.presence = .explicit <;> simp [hp]
    · exact .nullable hin hone hm

/-- A field is kept as its storage says, and only lists are packable. -/
theorem Layout.storage_ofField {message : Message} {field : Field} {layout : Layout}
    (h : ofField message field = .ok layout) :
    storage? message field = .ok layout.storage ∧
      (layout.packable = true ↔ layout.storage = .list ∧ field.kind.isPackable = true) := by
  unfold ofField at h
  obtain ⟨-, h⟩ : field.kind.isGroup = false ∧ _ := by
    cases hg : field.kind.isGroup
    · exact ⟨rfl, by simpa [hg] using h⟩
    · simp [hg, bind, Except.bind, throw, throwThe, MonadExceptOf.throw] at h
  obtain ⟨storage, hs, h⟩ := except_bind_eq_ok_iff.1 h
  cases storage <;> cases h <;> exact ⟨hs, by simp⟩

theorem Layout.fits_ofField {message : Message} {field : Field} {layout : Layout}
    (h : ofField message field = .ok layout) :
    StorageFits field layout.storage ∧
      (layout.packable = true ↔ field.cardinality = .repeated ∧ field.kind.isPackable = true) := by
  obtain ⟨hstorage, hpack⟩ := storage_ofField h
  have hfits := fits_storage? hstorage
  refine ⟨hfits, hpack.trans (and_congr_left' ?_)⟩
  generalize layout.storage = storage at hfits
  cases hfits with
  | list hc => simp [hc]
  | oneof hc => simp [hc]
  | nullable hin => simp [Field.cardinality_ne_repeated hin]
  | plain hin _ _ hst => rcases hst with rfl | rfl <;> simp [Field.cardinality_ne_repeated hin]
  | map hc => simp [hc]

/-- A required field is kept as it is, or as a message that may be absent. -/
theorem Layout.storage_of_required {message : Message} {field : Field} {layout : Layout}
    (hrequired : field.isRequired = true) (h : ofField message field = .ok layout) :
    layout.storage = .plain ∨ layout.storage = .nullable := by
  have hc : field.cardinality = .required := by
    unfold Field.isRequired at hrequired
    split at hrequired
    · assumption
    · cases hrequired
  have hstorage := (storage_ofField h).1
  simp only [storage?, hc] at hstorage
  rw [← Except.ok.inj hstorage]
  split <;> simp

theorem Store.fits_ofStorage {boxed : Bool} {field : Field} {storage : Storage Layout}
    {store : Store} (hfits : Layout.StorageFits field storage)
    (h : Store.ofStorage boxed field storage = some store) :
    Store.Fits field store ∧ (store = .append ↔ field.cardinality = .repeated) := by
  cases hfits with
  | list hc =>
    cases h
    exact ⟨.append hc, by simp [hc]⟩
  | oneof hc =>
    cases h
    exact ⟨.select hc, by simp [hc]⟩
  | nullable hin hone hm =>
    cases h
    exact ⟨.merge hin hone hm, by simp [Field.cardinality_ne_repeated hin]⟩
  | plain hin hone hm hst =>
    have hset : store = .set ∨ store = .setOptional := by
      rcases hst with rfl | rfl <;> cases h <;> simp
    refine ⟨.set hin hone hm hset, ?_⟩
    rcases hset with rfl | rfl <;> simp [Field.cardinality_ne_repeated hin]
  | map hc hkey => cases h

/-- The rule of a field that has that layout. -/
inductive Rule.OfLayout (scope : Scope) (message : Message) (field : Field) (bit : Option Nat)
    (layout : Layout) : Rule → Prop where
  | map {keyLayout valueLayout : Layout} {key value : Field} {keySide valueSide : EntrySide} :
      layout.storage = .map keyLayout valueLayout → field.cardinality = .map key value →
        EntrySide.ofField scope message field.name keyLayout key = .ok keySide →
        EntrySide.ofField scope message field.name valueLayout value = .ok valueSide →
        OfLayout scope message field bit layout (.map {
          name := field.name
          fieldName := Code.fieldName field.name
          number := field.number
          key := keySide
          value := valueSide })
  | field {store : Store} {read : Read} :
      Store.ofStorage (scope.isRecursive message.name field.name) field layout.storage =
          some store →
        Read.ofKind scope message field.name field.kind = .ok read →
        OfLayout scope message field bit layout (.field {
          name := field.name
          fieldName := Code.fieldName field.name
          number := field.number
          wireType := field.kind.wireType
          read
          store
          packed := if layout.packable then some field.kind.elementCount else none
          requiredBit := bit })

/-- A rule is made from the layout of its field. All storages but that of maps differ in the store
alone. -/
theorem Rule.ofField_eq_ok_iff {scope : Scope} {message : Message} {field : Field}
    {bit : Option Nat} {rule : Rule} :
    Rule.ofField scope message field bit = .ok rule ↔
      ∃ layout, Layout.ofField message field = .ok layout ∧
        Rule.OfLayout scope message field bit layout rule := by
  rw [Rule.ofField, except_bind_eq_ok_iff]
  refine exists_congr fun layout => and_congr_right fun _ => ?_
  obtain ⟨wireType, storage, packable⟩ := layout
  cases storage with
  | map keyLayout valueLayout =>
    constructor
    · intro h
      dsimp only at h
      split at h
      · rename_i key value hc
        obtain ⟨keySide, hkey, h⟩ := except_bind_eq_ok_iff.1 h
        obtain ⟨valueSide, hvalue, h⟩ := except_bind_eq_ok_iff.1 h
        cases h
        exact .map rfl hc hkey hvalue
      · cases h
    · intro h
      cases h with
      | map hstorage hc hkey hvalue =>
        cases hstorage
        simp only [hc]
        exact except_bind_eq_ok_iff.2 ⟨_, hkey, except_bind_eq_ok_iff.2 ⟨_, hvalue, rfl⟩⟩
      | field hstore => cases hstore
  | _ =>
    constructor
    · intro h
      obtain ⟨read, hread, h⟩ := except_bind_eq_ok_iff.1 h
      cases h
      exact .field rfl hread
    · intro h
      cases h with
      | map hstorage => cases hstorage
      | field hstore hread =>
        cases hstore
        exact except_bind_eq_ok_iff.2 ⟨_, hread, rfl⟩

theorem Rule.fits_ofField {scope : Scope} {message : Message} {field : Field} {bit : Option Nat}
    {rule : Rule} (h : Rule.ofField scope message field bit = .ok rule) :
    Rule.Fits field bit rule := by
  obtain ⟨layout, hlayout, hrule⟩ := ofField_eq_ok_iff.1 h
  obtain ⟨hstorage, hpack⟩ := Layout.fits_ofField hlayout
  cases hrule with
  | @map _ _ key value _ _ hmap hc hkey hvalue =>
    rw [hmap] at hstorage
    cases hstorage with
    | map hentry hkind =>
      cases hc.symm.trans hentry
      exact .map hc ⟨rfl, rfl, hkind, EntrySide.fits_ofField hkey, EntrySide.fits_ofField hvalue⟩
    | plain _ _ _ hor => rcases hor with heq | heq <;> cases heq
  | field hstore hread =>
    obtain ⟨hfits, happend⟩ := Store.fits_ofStorage hstorage hstore
    refine .field ⟨rfl, rfl, rfl, Read.fits_ofKind hread, hfits, ?_, rfl⟩
    cases hp : layout.packable <;> simp_all

end ProtoPlan
