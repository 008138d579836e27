import ProtoPlan.Proofs.Dynamic.Projection
import ProtoPlan.Proofs.Plan.Narrower

/-!
What is left of a message under a narrower schema. Of two messages that were read from the same
bytes, by a schema and by a narrower one, the second holds the same in all fields that are left.
-/

namespace ProtoPlan

open Wire Schema

namespace Dynamic

mutual

/-- As messages of the name, the second holds in the fields of the narrower schema what the first
holds. Each oneof of the first holds one of its members, as the wider schema declares them. -/
inductive Keeps (schema narrow : Schema) : String → Message → Message → Prop where
  | intro {name : String} {m m' : Message} (named : m'.name = m.name)
      (present : ∀ field ∈ narrow.fieldsOf name,
        (m'.fields.get? field.number).isSome = (m.fields.get? field.number).isSome)
      (held : ∀ field ∈ narrow.fieldsOf name, ∀ v v', m.fields.get? field.number = some v →
        m'.fields.get? field.number = some v' → KeepsValue schema narrow field.heldKind v v')
      (oneofs : ∀ field ∈ narrow.fieldsOf name, ∀ oneof, field.oneof? = some oneof →
        m'.whichOneof oneof = m.whichOneof oneof)
      (members : ∀ oneof number, m.whichOneof oneof = some number →
        ∃ field ∈ schema.fieldsOf name, field.number = number ∧ field.oneof? = some oneof) :
      Keeps schema narrow name m m'

/-- The same for the value of a field that holds values of the kind. -/
inductive KeepsValue (schema narrow : Schema) : Kind → Value → Value → Prop where
  | scalar {kind : Kind} (v : ScalarValue) : KeepsValue schema narrow kind (.scalar v) (.scalar v)
  | text {kind : Kind} (v : String) : KeepsValue schema narrow kind (.text v) (.text v)
  | bytes {kind : Kind} (v : Bytes) : KeepsValue schema narrow kind (.bytes v) (.bytes v)
  | message {type : String} {m m' : Message} : Keeps schema narrow (trimDots type) m m' →
      KeepsValue schema narrow (.message type) (.message m) (.message m')
  | list {kind : Kind} {vs vs' : List Value} (length : vs.length = vs'.length)
      (values : ∀ v v', (v, v') ∈ vs.zip vs' → KeepsValue schema narrow kind v v') :
      KeepsValue schema narrow kind (.list vs) (.list vs')
  | map {kind : Kind} {es es' : SortedMap MapKey Value}
      (length : es.entries.length = es'.entries.length)
      (keys : ∀ e e', (e, e') ∈ es.entries.zip es'.entries → e'.1 = e.1)
      (values : ∀ e e', (e, e') ∈ es.entries.zip es'.entries →
        KeepsValue schema narrow kind e.2 e'.2) :
      KeepsValue schema narrow kind (.map es) (.map es')

end

section Values

variable {schema narrow : Schema} {name : String} {m m' : Message}

theorem Keeps.named (h : Keeps schema narrow name m m') : m'.name = m.name := by
  cases h
  assumption

theorem Keeps.oneofs (h : Keeps schema narrow name m m') {field : Field}
    (hf : field ∈ narrow.fieldsOf name) {oneof : String} (hone : field.oneof? = some oneof) :
    m'.whichOneof oneof = m.whichOneof oneof := by
  cases h with
  | intro named present held oneofs members => exact oneofs field hf oneof hone

theorem Keeps.members (h : Keeps schema narrow name m m') {oneof : String} {number : Nat}
    (hwhich : m.whichOneof oneof = some number) :
    ∃ field ∈ schema.fieldsOf name, field.number = number ∧ field.oneof? = some oneof := by
  cases h with
  | intro named present held oneofs members => exact members oneof number hwhich

theorem Keeps.rel (h : Keeps schema narrow name m m') {field : Field}
    (hf : field ∈ narrow.fieldsOf name) :
    Option.Rel (KeepsValue schema narrow field.heldKind) (m.fields.get? field.number)
      (m'.fields.get? field.number) := by
  cases h with
  | intro named present held oneofs members =>
    have hsome := present field hf
    have hheld := held field hf
    cases hm : m.fields.get? field.number <;> cases hm' : m'.fields.get? field.number <;>
      rw [hm, hm'] at hsome
    · exact .none
    · cases hsome
    · cases hsome
    · exact .some (hheld _ _ hm hm')

theorem keeps_of_rel (named : m'.name = m.name)
    (hrel : ∀ field ∈ narrow.fieldsOf name,
      Option.Rel (KeepsValue schema narrow field.heldKind) (m.fields.get? field.number)
        (m'.fields.get? field.number))
    (oneofs : ∀ field ∈ narrow.fieldsOf name, ∀ oneof, field.oneof? = some oneof →
      m'.whichOneof oneof = m.whichOneof oneof)
    (members : ∀ oneof number, m.whichOneof oneof = some number →
      ∃ field ∈ schema.fieldsOf name, field.number = number ∧ field.oneof? = some oneof) :
    Keeps schema narrow name m m' := by
  refine .intro named (fun field hf => ?_) (fun field hf v v' hv hv' => ?_) oneofs members
  · have hfield := hrel field hf
    revert hfield
    generalize m.fields.get? field.number = v
    generalize m'.fields.get? field.number = v'
    rintro (_ | _) <;> rfl
  · have hfield := hrel field hf
    rw [hv, hv'] at hfield
    cases hfield with
    | some hvalue => exact hvalue

theorem keeps_ofName (schema narrow : Schema) (name : String) :
    Keeps schema narrow name (Message.ofName name) (Message.ofName name) := by
  refine keeps_of_rel rfl (fun _ _ => .none) (fun _ _ _ _ => rfl) ?_
  intro oneof number h
  cases h

theorem KeepsValue.toKey? {kind : Kind} {v v' : Value} (h : KeepsValue schema narrow kind v v') :
    v'.toKey? = v.toKey? := by
  cases h <;> rfl

theorem keepsValue_list {kind : Kind} {vs vs' : List Value}
    (h : List.Forall₂ (KeepsValue schema narrow kind) vs vs') :
    KeepsValue schema narrow kind (.list vs) (.list vs') := by
  obtain ⟨hlength, hvalues⟩ := List.forall₂_iff_zip.1 h
  exact .list hlength fun _ _ hmem => hvalues hmem

/-- Under the same keys the entries keep their values. -/
def KeepsEntries (schema narrow : Schema) (kind : Kind) (es es' : SortedMap MapKey Value) : Prop :=
  List.Forall₂ (fun e e' => e'.1 = e.1 ∧ KeepsValue schema narrow kind e.2 e'.2) es.entries
    es'.entries

theorem keepsValue_map {kind : Kind} {es es' : SortedMap MapKey Value}
    (h : KeepsEntries schema narrow kind es es') :
    KeepsValue schema narrow kind (.map es) (.map es') := by
  obtain ⟨hlength, hentries⟩ := List.forall₂_iff_zip.1 h
  exact .map hlength (fun _ _ hmem => (hentries hmem).1) fun _ _ hmem => (hentries hmem).2

theorem Keeps.list (h : Keeps schema narrow name m m') {field : Field}
    (hf : field ∈ narrow.fieldsOf name) :
    List.Forall₂ (KeepsValue schema narrow field.heldKind) (m.list field.number)
      (m'.list field.number) := by
  have hrel := h.rel hf
  unfold Message.list
  generalize field.heldKind = kind at hrel ⊢
  generalize m.fields.get? field.number = v at hrel ⊢
  generalize m'.fields.get? field.number = v' at hrel ⊢
  cases hrel with
  | none => exact .nil
  | some hvalue =>
    cases hvalue with
    | list hlength hvalues => exact List.forall₂_iff_zip.2 ⟨hlength, fun hmem => hvalues _ _ hmem⟩
    | _ => exact .nil

theorem Keeps.map (h : Keeps schema narrow name m m') {field : Field}
    (hf : field ∈ narrow.fieldsOf name) :
    KeepsEntries schema narrow field.heldKind (m.map field.number) (m'.map field.number) := by
  have hrel := h.rel hf
  unfold Message.map
  generalize field.heldKind = kind at hrel ⊢
  generalize m.fields.get? field.number = v at hrel ⊢
  generalize m'.fields.get? field.number = v' at hrel ⊢
  cases hrel with
  | none => exact .nil
  | some hvalue =>
    cases hvalue with
    | map hlength hkeys hvalues =>
      exact List.forall₂_iff_zip.2 ⟨hlength, fun hmem => ⟨hkeys _ _ hmem, hvalues _ _ hmem⟩⟩
    | _ => exact .nil

theorem Keeps.submessage (h : Keeps schema narrow name m m') {field : Field}
    (hf : field ∈ narrow.fieldsOf name) {type : String} (hkind : field.heldKind = .message type) :
    Keeps schema narrow (trimDots type) (m.submessage field.number (trimDots type))
      (m'.submessage field.number (trimDots type)) := by
  have hrel := h.rel hf
  rw [hkind] at hrel
  unfold Message.submessage
  generalize m.fields.get? field.number = v at hrel ⊢
  generalize m'.fields.get? field.number = v' at hrel ⊢
  cases hrel with
  | none => exact keeps_ofName schema narrow _
  | some hvalue =>
    cases hvalue with
    | message hinner => exact hinner
    | _ => exact keeps_ofName schema narrow _

/-- Only the name, the fields and the oneofs count. -/
theorem Keeps.congr (h : Keeps schema narrow name m m') {n n' : Message}
    (hn : n.name = m.name ∧ n.fields = m.fields ∧ n.oneofs = m.oneofs)
    (hn' : n'.name = m'.name ∧ n'.fields = m'.fields ∧ n'.oneofs = m'.oneofs) :
    Keeps schema narrow name n n' := by
  refine keeps_of_rel ?_ (fun field hf => ?_) (fun field hf oneof hone => ?_)
    fun oneof number hwhich => ?_
  · rw [hn.1, hn'.1, h.named]
  · rw [hn.2.1, hn'.2.1]
    exact h.rel hf
  · rw [Message.whichOneof, Message.whichOneof, hn.2.2, hn'.2.2]
    exact h.oneofs hf hone
  · rw [Message.whichOneof, hn.2.2] at hwhich
    exact h.members hwhich

section Unclaimed

variable (h : Keeps schema narrow name m m') (plan : Plan) (number : Nat) (raw : Bytes)
include h

theorem Keeps.keepUnclaimed_left : Keeps schema narrow name (keepUnclaimed plan number raw m) m' :=
  h.congr ⟨name_keepUnclaimed plan number raw m, fields_keepUnclaimed plan number raw m,
    oneofs_keepUnclaimed plan number raw m⟩ ⟨rfl, rfl, rfl⟩

theorem Keeps.keepUnclaimed_right : Keeps schema narrow name m (keepUnclaimed plan number raw m') :=
  h.congr ⟨rfl, rfl, rfl⟩ ⟨name_keepUnclaimed plan number raw m',
    fields_keepUnclaimed plan number raw m', oneofs_keepUnclaimed plan number raw m'⟩

end Unclaimed

theorem Keeps.set_deleted (h : Keeps schema narrow name m m') {number : Nat}
    (hdeleted : number ∉ (narrow.fieldsOf name).map (·.number)) (v : Value) :
    Keeps schema narrow name (m.set number v) m' := by
  refine keeps_of_rel h.named (fun field hf => ?_) (fun _ hf _ hone => h.oneofs hf hone)
    fun _ _ hwhich => h.members hwhich
  have hne : field.number ≠ number := fun heq => hdeleted (heq ▸ List.mem_map_of_mem hf)
  rw [Message.get?_set, if_neg hne]
  exact h.rel hf

variable (hless : schema.FewerFields narrow name)
include hless

theorem Keeps.set (h : Keeps schema narrow name m m') {field : Field}
    (hf : field ∈ narrow.fieldsOf name) {v v' : Value}
    (hv : KeepsValue schema narrow field.heldKind v v') :
    Keeps schema narrow name (m.set field.number v) (m'.set field.number v') := by
  refine keeps_of_rel h.named (fun other ho => ?_) (fun _ ho _ hone => h.oneofs ho hone)
    fun _ _ hwhich => h.members hwhich
  rw [Message.get?_set, Message.get?_set]
  by_cases hnumber : other.number = field.number
  · obtain rfl := hless.same (hless.kept other ho) hf hnumber
    rw [if_pos rfl, if_pos rfl]
    exact .some hv
  · rw [if_neg hnumber, if_neg hnumber]
    exact h.rel ho

theorem Keeps.select (h : Keeps schema narrow name m m') {field : Field}
    (hf : field ∈ narrow.fieldsOf name) {oneof : String} (hone : field.oneof? = some oneof)
    {v v' : Value} (hv : KeepsValue schema narrow field.heldKind v v') :
    Keeps schema narrow name (m.select oneof field.number v) (m'.select oneof field.number v') := by
  refine keeps_of_rel h.named (fun other ho => ?_) (fun other ho which hwhich => ?_)
    fun which number hwhich => ?_
  · rw [Message.get?_select, Message.get?_select, h.oneofs hf hone]
    by_cases hnumber : other.number = field.number
    · obtain rfl := hless.same (hless.kept other ho) hf hnumber
      rw [if_pos rfl, if_pos rfl]
      exact .some hv
    · rw [if_neg hnumber, if_neg hnumber]
      split
      · exact .none
      · exact h.rel ho
  · rw [Message.whichOneof_select, Message.whichOneof_select, h.oneofs ho hwhich]
  · rw [Message.whichOneof_select] at hwhich
    split at hwhich
    · rename_i hw
      cases hwhich
      exact ⟨field, hless.kept field hf, rfl, hw ▸ hone⟩
    · exact h.members hwhich

/-- A deleted member takes the place of none but another deleted one. -/
theorem Keeps.select_deleted (h : Keeps schema narrow name m m') {field : Field}
    (hf : field ∈ schema.fieldsOf name)
    (hdeleted : field.number ∉ (narrow.fieldsOf name).map (·.number)) {oneof : String}
    (hone : field.oneof? = some oneof) (v : Value) :
    Keeps schema narrow name (m.select oneof field.number v) m' := by
  refine keeps_of_rel h.named (fun other ho => ?_) (fun other ho which hwhich => ?_)
    fun which number hwhich => ?_
  · have hne : other.number ≠ field.number := fun heq => hdeleted (heq ▸ List.mem_map_of_mem ho)
    have hheld : m.whichOneof oneof ≠ some other.number := by
      intro heq
      obtain ⟨member, hm, hnumber, hmember⟩ := h.members heq
      obtain rfl := hless.same hm ho hnumber
      exact hless.oneof_ne hf hdeleted hone ho hmember
    rw [Message.get?_select_of_ne _ _ _ _ hne hheld]
    exact h.rel ho
  · have hne : which ≠ oneof := by
      rintro rfl
      exact hless.oneof_ne hf hdeleted hone ho hwhich
    rw [Message.whichOneof_select, if_neg hne]
    exact h.oneofs ho hwhich
  · rw [Message.whichOneof_select] at hwhich
    split at hwhich
    · rename_i hw
      cases hwhich
      exact ⟨field, hf, rfl, hw ▸ hone⟩
    · exact h.members hwhich

end Values

end Dynamic

end ProtoPlan
