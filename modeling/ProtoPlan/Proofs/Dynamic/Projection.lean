import ProtoPlan.Dynamic.Decode
import ProtoPlan.Proofs.Data.SortedMap

/-!
Typed views of dynamic messages. A view reads a value as one of a fixed type; a value of any other
kind, or none at all, reads as that type's zero.
-/

namespace ProtoPlan.Dynamic

open Wire

namespace Value

def toBool : Value → Bool
  | scalar (.bool v) => v
  | _ => false

def toInt32 : Value → Int32
  | scalar (.int32 v) => v
  | _ => 0

def toInt64 : Value → Int64
  | scalar (.int64 v) => v
  | _ => 0

def toUInt32 : Value → UInt32
  | scalar (.uint32 v) => v
  | _ => 0

def toUInt64 : Value → UInt64
  | scalar (.uint64 v) => v
  | _ => 0

/-- The bits of a float. -/
def toFloat : Value → UInt32
  | scalar (.float bits) => bits
  | _ => 0

/-- The bits of a double. -/
def toDouble : Value → UInt64
  | scalar (.double bits) => bits
  | _ => 0

def toText : Value → String
  | text v => v
  | _ => ""

def toBytes : Value → Bytes
  | bytes v => v
  | _ => []

def toMessage : Value → Message
  | message m => m
  | _ => Message.ofName ""

@[simp] theorem toMessage_message (m : Message) : (message m).toMessage = m := rfl

end Value

namespace MapKey

def toInt32 : MapKey → Int32
  | int32 v => v
  | _ => 0

def toText : MapKey → String
  | text v => v
  | _ => ""

end MapKey

namespace Message

/-- A field as `view` reads it; `absent` if it never came. -/
def get (m : Message) (number : Nat) (view : Value → α) (absent : α) : α :=
  ((m.fields.get? number).map view).getD absent

/-- A map field as views of keys and values read it. -/
def entries (m : Message) (number : Nat) (key : MapKey → κ) (value : Value → ν) :
    SortedMap κ ν :=
  ⟨(m.map number).entries.map fun entry => (key entry.1, value entry.2)⟩

/-- All keys of a map field are of one kind. -/
def KeysOf (m : Message) (number : Nat) (make : κ → MapKey) : Prop :=
  ∀ entry ∈ (m.map number).entries, ∃ key, entry.1 = make key

theorem keysOf_ofName (name : String) (number : Nat) (make : κ → MapKey) :
    (ofName name).KeysOf number make := by
  intro entry hentry
  cases hentry

/-- The message of a field as `view` reads it, which reads all messages that hold nothing alike. -/
theorem view_submessage {view : Message → α} {absent : α}
    (h : ∀ name, view (ofName name) = absent) (m : Message) (number : Nat) (name : String) :
    ((m.fields.get? number).map fun value => view value.toMessage).getD absent =
      view (m.submessage number name) := by
  unfold submessage
  cases m.fields.get? number with
  | none => exact (h name).symm
  | some value => cases value <;> simp [Value.toMessage, h]

variable (m : Message) (number other : Nat) (value : Value)

@[simp] theorem get?_set : (m.set number value).fields.get? other =
    if other = number then some value else m.fields.get? other :=
  SortedMap.get?_insert ..

@[simp] theorem whichOneof_set (oneof : String) :
    (m.set number value).whichOneof oneof = m.whichOneof oneof := rfl

@[simp] theorem unknown_set : (m.set number value).unknown = m.unknown := rfl

@[simp] theorem extensions_set : (m.set number value).extensions = m.extensions := rfl

theorem get_set (view : Value → α) (absent : α) :
    (m.set number value).get other view absent =
      if other = number then view value else m.get other view absent := by
  unfold get
  rw [get?_set]
  split <;> rfl

theorem list_set : (m.set number value).list other =
    if other = number then (match value with | .list values => values | _ => [])
    else m.list other := by
  unfold list
  rw [get?_set]
  by_cases h : other = number
  · rw [if_pos h, if_pos h]
    cases value <;> rfl
  · rw [if_neg h, if_neg h]

theorem map_set : (m.set number value).map other =
    if other = number then (match value with | .map entries => entries | _ => {})
    else m.map other := by
  unfold map
  rw [get?_set]
  by_cases h : other = number
  · rw [if_pos h, if_pos h]
    cases value <;> rfl
  · rw [if_neg h, if_neg h]

theorem KeysOf.set {m : Message} {number other : Nat} {make : κ → MapKey}
    (h : m.KeysOf other make) (hne : other ≠ number) (value : Value) :
    (m.set number value).KeysOf other make := by
  intro entry hentry
  rw [map_set, if_neg hne] at hentry
  exact h entry hentry

theorem whichOneof_select (oneof which : String) :
    (m.select oneof number value).whichOneof which =
      if which = oneof then some number else m.whichOneof which :=
  SortedMap.get?_insert ..

/-- Selecting a member puts in its value and takes out the former member. -/
theorem get?_select (oneof : String) :
    (m.select oneof number value).fields.get? other =
      if other = number then some value
      else if m.whichOneof oneof = some other then none
      else m.fields.get? other := by
  unfold select
  rw [SortedMap.get?_insert]
  by_cases h : other = number
  · rw [if_pos h, if_pos h]
  · rw [if_neg h, if_neg h, whichOneof]
    cases ho : m.oneofs.get? oneof with
    | none => simp
    | some previous =>
      rw [SortedMap.get?_erase]
      by_cases hp : other = previous
      · rw [if_pos hp, if_pos (congrArg some hp.symm)]
      · have hne : some previous ≠ some other := fun he => hp (Option.some.inj he).symm
        rw [if_neg hp, if_neg hne]

theorem get?_select_of_ne {oneof : String} (hne : other ≠ number)
    (h : m.whichOneof oneof ≠ some other) :
    (m.select oneof number value).fields.get? other = m.fields.get? other := by
  rw [get?_select, if_neg hne, if_neg h]

theorem KeysOf.select {m : Message} {number other : Nat} {oneof : String} {make : κ → MapKey}
    (h : m.KeysOf other make) (hne : other ≠ number) (hother : m.whichOneof oneof ≠ some other)
    (value : Value) : (m.select oneof number value).KeysOf other make := by
  intro entry hentry
  apply h
  unfold map at hentry ⊢
  rwa [get?_select_of_ne m number other value hne hother] at hentry

@[simp] theorem unknown_select (oneof : String) :
    (m.select oneof number value).unknown = m.unknown := rfl

@[simp] theorem extensions_select (oneof : String) :
    (m.select oneof number value).extensions = m.extensions := rfl

theorem ext_of {m m' : Message} (hname : m.name = m'.name) (hfields : m.fields = m'.fields)
    (honeofs : m.oneofs = m'.oneofs) (hunknown : m.unknown = m'.unknown)
    (hextensions : m.extensions = m'.extensions) : m = m' := by
  cases m
  cases m'
  simp_all

/-- Puts in the value of a field, which takes the place of all that its oneof held if it is a
member of one. -/
def place (m : Message) (oneof? : Option String) (number : Nat) (value : Value) : Message :=
  match oneof? with
  | some oneof => m.select oneof number value
  | none => m.set number value

section Place

variable (oneof? : Option String)

@[simp] theorem name_place : (m.place oneof? number value).name = m.name := by
  cases oneof? <;> rfl

@[simp] theorem unknown_place : (m.place oneof? number value).unknown = m.unknown := by
  cases oneof? <;> rfl

@[simp] theorem extensions_place : (m.place oneof? number value).extensions = m.extensions := by
  cases oneof? <;> rfl

theorem whichOneof_place (oneof : String) : (m.place oneof? number value).whichOneof oneof =
    if oneof? = some oneof then some number else m.whichOneof oneof := by
  cases oneof? with
  | none => rfl
  | some own => simp [place, whichOneof_select, eq_comm]

theorem get?_place : (m.place oneof? number value).fields.get? other =
    if other = number then some value
    else if oneof?.bind m.whichOneof = some other then none
    else m.fields.get? other := by
  cases oneof? with
  | none => simp [place]
  | some own => simp [place, get?_select]

variable {m}

theorem sortedFields_place (h : m.fields.Sorted) :
    (m.place oneof? number value).fields.Sorted := by
  cases oneof? with
  | none => exact h.insert number value
  | some oneof =>
    apply SortedMap.Sorted.insert
    cases m.oneofs.get? oneof with
    | none => exact h
    | some previous => exact h.erase previous

theorem sortedOneofs_place (h : m.oneofs.Sorted) :
    (m.place oneof? number value).oneofs.Sorted := by
  cases oneof? with
  | none => exact h
  | some oneof => exact h.insert oneof number

end Place

end Message

section Unclaimed

variable (plan : Plan) (number : Nat) (raw : Bytes) (m : Message)

@[simp] theorem name_keepUnclaimed : (keepUnclaimed plan number raw m).name = m.name := by
  unfold keepUnclaimed
  split
  · rfl
  · split <;> rfl

@[simp] theorem fields_keepUnclaimed : (keepUnclaimed plan number raw m).fields = m.fields := by
  unfold keepUnclaimed
  split
  · rfl
  · split <;> rfl

@[simp] theorem oneofs_keepUnclaimed : (keepUnclaimed plan number raw m).oneofs = m.oneofs := by
  unfold keepUnclaimed
  split
  · rfl
  · split <;> rfl

end Unclaimed

end ProtoPlan.Dynamic
