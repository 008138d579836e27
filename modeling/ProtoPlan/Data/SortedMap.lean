/-!
Finite maps as lists of entries in increasing key order, so that equal maps are equal lists.
-/

namespace ProtoPlan

structure SortedMap (κ ν : Type) where
  entries : List (κ × ν) := []
  deriving DecidableEq, Repr, Inhabited

namespace SortedMap

variable {κ ν : Type} [Ord κ]

/-- Puts `value` under `key` in a list of entries, in the place of what stood there. -/
def insertEntry (key : κ) (value : ν) : List (κ × ν) → List (κ × ν)
  | [] => [(key, value)]
  | (k, v) :: rest =>
    match compare key k with
    | .lt => (key, value) :: (k, v) :: rest
    | .eq => (key, value) :: rest
    | .gt => (k, v) :: insertEntry key value rest

def insert (m : SortedMap κ ν) (key : κ) (value : ν) : SortedMap κ ν :=
  ⟨insertEntry key value m.entries⟩

def get? (m : SortedMap κ ν) (key : κ) : Option ν :=
  (m.entries.find? fun entry => compare key entry.1 == .eq).map (·.2)

def erase (m : SortedMap κ ν) (key : κ) : SortedMap κ ν :=
  ⟨m.entries.filter fun entry => compare key entry.1 != .eq⟩

def contains (m : SortedMap κ ν) (key : κ) : Bool := (m.get? key).isSome

def size (m : SortedMap κ ν) : Nat := m.entries.length

def keys (m : SortedMap κ ν) : List κ := m.entries.map (·.1)

@[simp] theorem get?_empty (key : κ) : ({} : SortedMap κ ν).get? key = none := rfl

variable [DecidableEq κ] [Std.LawfulEqOrd κ]

theorem find?_insertEntry (key other : κ) (value : ν) (entries : List (κ × ν)) :
    (insertEntry key value entries).find? (fun entry => compare other entry.1 == .eq) =
      if other = key then some (key, value)
      else entries.find? fun entry => compare other entry.1 == .eq := by
  induction entries with
  | nil => by_cases h : other = key <;> simp [insertEntry, h]
  | cons entry rest ih =>
    obtain ⟨k, v⟩ := entry
    rw [insertEntry]
    split
    · by_cases h : other = key <;> simp [h]
    · rename_i hk
      have hk := Std.LawfulEqOrd.eq_of_compare hk
      subst hk
      by_cases h : other = key <;> simp [h]
    · rename_i hk
      have hne : key ≠ k := by
        rintro rfl
        simp at hk
      by_cases h : other = key
      · subst h
        simp [hne, ih]
      · simp only [List.find?_cons, ih, if_neg h]

/-- The inserted value stands under its key, all other keys are as before. -/
theorem get?_insert (m : SortedMap κ ν) (key other : κ) (value : ν) :
    (m.insert key value).get? other = if other = key then some value else m.get? other := by
  rw [get?, insert, find?_insertEntry]
  split <;> rfl

/-- The erased key stands for nothing, all other keys are as before. -/
theorem get?_erase (m : SortedMap κ ν) (key other : κ) :
    (m.erase key).get? other = if other = key then none else m.get? other := by
  rw [get?, erase, List.find?_filter]
  by_cases h : other = key
  · subst h
    simp
  · rw [if_neg h, get?]
    congr 2
    funext entry
    by_cases he : other = entry.1
    · subst he
      have : compare key entry.1 ≠ .eq := fun hc => h (Std.LawfulEqOrd.eq_of_compare hc).symm
      simp [this]
    · have : compare other entry.1 ≠ .eq := fun hc => he (Std.LawfulEqOrd.eq_of_compare hc)
      simp [this]

end SortedMap

end ProtoPlan
