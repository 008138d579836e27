import ProtoPlan.Data.SortedMap
import Mathlib.Data.List.Forall2

/-!
Sorted maps as finite functions. Insertion keeps the entries in order, and a map in order is settled
by what stands under each key.
-/

namespace ProtoPlan.SortedMap

variable {κ ν κ' ν' : Type} [Ord κ] [Ord κ']

/-- The entries stand in increasing key order. -/
def Sorted (m : SortedMap κ ν) : Prop :=
  m.entries.Pairwise fun first second => compare first.1 second.1 = .lt

theorem sorted_empty : ({} : SortedMap κ ν).Sorted := List.Pairwise.nil

/-- Entries that correspond under equal keys still do after both were given one more. -/
theorem forall₂_insertEntry {R : ν → ν' → Prop} {entries : List (κ × ν)}
    {entries' : List (κ × ν')}
    (h : List.Forall₂ (fun e e' => e'.1 = e.1 ∧ R e.2 e'.2) entries entries') (key : κ) {value : ν}
    {value' : ν'} (hvalue : R value value') :
    List.Forall₂ (fun e e' => e'.1 = e.1 ∧ R e.2 e'.2) (insertEntry key value entries)
      (insertEntry key value' entries') := by
  induction h with
  | nil => exact .cons ⟨rfl, hvalue⟩ .nil
  | @cons first first' rest rest' hfirst hrest ih =>
    obtain ⟨k, v⟩ := first
    obtain ⟨k', v'⟩ := first'
    obtain rfl : k' = k := hfirst.1
    cases hcompare : compare key k' <;> simp only [insertEntry, hcompare]
    · exact .cons ⟨rfl, hvalue⟩ (.cons hfirst hrest)
    · exact .cons ⟨rfl, hvalue⟩ hrest
    · exact .cons hfirst ih

theorem mem_insertEntry {key : κ} {value : ν} {entries : List (κ × ν)} {entry : κ × ν}
    (h : entry ∈ insertEntry key value entries) : entry = (key, value) ∨ entry ∈ entries := by
  induction entries with
  | nil => simpa [insertEntry] using h
  | cons first rest ih =>
    rw [insertEntry] at h
    split at h
    · simpa using h
    · rcases List.mem_cons.1 h with rfl | h
      · exact .inl rfl
      · exact .inr (List.mem_cons_of_mem _ h)
    · rcases List.mem_cons.1 h with rfl | h
      · exact .inr List.mem_cons_self
      · exact (ih h).imp_right (List.mem_cons_of_mem _)

/-- Of two values put under one key the last stays. -/
theorem insertEntry_insertEntry [Std.ReflOrd κ] (key : κ) (old new : ν) (entries : List (κ × ν)) :
    insertEntry key new (insertEntry key old entries) = insertEntry key new entries := by
  induction entries with
  | nil => simp [insertEntry]
  | cons first rest ih =>
    obtain ⟨k, v⟩ := first
    rw [insertEntry, insertEntry]
    split
    · simp [insertEntry]
    · simp [insertEntry]
    · rename_i hgt
      rw [insertEntry, hgt]
      dsimp only
      rw [ih]

/-- Insertion keeps its place when keys are renamed in order. -/
theorem map_insertEntry (f : κ → κ') (g : ν → ν') {key : κ} {value : ν} {entries : List (κ × ν)}
    (h : ∀ entry ∈ entries, compare (f key) (f entry.1) = compare key entry.1) :
    (insertEntry key value entries).map (fun entry => (f entry.1, g entry.2)) =
      insertEntry (f key) (g value) (entries.map fun entry => (f entry.1, g entry.2)) := by
  induction entries with
  | nil => rfl
  | cons first rest ih =>
    have hfirst := h first List.mem_cons_self
    have hrest := ih fun entry hentry => h entry (List.mem_cons_of_mem _ hentry)
    rw [List.map_cons, insertEntry, insertEntry, hfirst]
    cases compare key first.1
    · rfl
    · rfl
    · rw [← hrest]
      rfl

theorem Sorted.insert [Std.TransOrd κ] {m : SortedMap κ ν} (h : m.Sorted) (key : κ)
    (value : ν) : (m.insert key value).Sorted := by
  obtain ⟨entries⟩ := m
  unfold Sorted SortedMap.insert at *
  dsimp only at h ⊢
  induction entries with
  | nil => simp [insertEntry]
  | cons first rest ih =>
    obtain ⟨hfirst, hrest⟩ := List.pairwise_cons.1 h
    rw [insertEntry]
    split
    · rename_i hlt
      refine List.pairwise_cons.2 ⟨?_, h⟩
      intro entry hentry
      rcases List.mem_cons.1 hentry with rfl | hentry
      · exact hlt
      · exact Std.TransCmp.lt_trans hlt (hfirst entry hentry)
    · rename_i heq
      refine List.pairwise_cons.2 ⟨fun entry hentry => ?_, hrest⟩
      exact Std.TransCmp.lt_of_eq_of_lt heq (hfirst entry hentry)
    · rename_i hgt
      refine List.pairwise_cons.2 ⟨?_, ih hrest⟩
      intro entry hentry
      rcases mem_insertEntry hentry with rfl | hentry
      · exact Std.OrientedCmp.lt_of_gt hgt
      · exact hfirst entry hentry

theorem Sorted.erase {m : SortedMap κ ν} (h : m.Sorted) (key : κ) : (m.erase key).Sorted :=
  h.sublist List.filter_sublist

/-- Puts in entries one after the other. -/
def insertAll (m : SortedMap κ ν) (entries : List (κ × ν)) : SortedMap κ ν :=
  entries.foldl (fun m entry => m.insert entry.1 entry.2) m

theorem Sorted.insertAll [Std.TransOrd κ] {m : SortedMap κ ν} (h : m.Sorted)
    (entries : List (κ × ν)) : (m.insertAll entries).Sorted := by
  induction entries generalizing m with
  | nil => exact h
  | cons entry entries ih => exact ih (h.insert entry.1 entry.2)

section Lookup

variable [Std.LawfulEqOrd κ]

/-- In a map in order, what stands under a key is the value of its entry. -/
theorem get?_of_mem {m : SortedMap κ ν} (h : m.Sorted) {entry : κ × ν}
    (hentry : entry ∈ m.entries) : m.get? entry.1 = some entry.2 := by
  obtain ⟨entries⟩ := m
  unfold Sorted at h
  unfold get?
  dsimp only at h hentry ⊢
  induction entries with
  | nil => cases hentry
  | cons first rest ih =>
    obtain ⟨hfirst, hrest⟩ := List.pairwise_cons.1 h
    rcases List.mem_cons.1 hentry with rfl | hentry
    · simp
    · have hlt := hfirst entry hentry
      have hne : (compare entry.1 first.1 == .eq) = false := by
        cases hc : compare entry.1 first.1 with
        | eq =>
          have heq := Std.LawfulEqOrd.eq_of_compare hc
          simp [heq] at hlt
        | lt | gt => rfl
      rw [List.find?_cons, hne]
      exact ih hrest hentry

theorem Sorted.distinct {m : SortedMap κ ν} (h : m.Sorted) :
    m.entries.Pairwise fun first second => first.1 ≠ second.1 := by
  refine h.imp ?_
  intro first second hlt heq
  simp [heq] at hlt

theorem mem_of_get? {m : SortedMap κ ν} {key : κ} {value : ν} (h : m.get? key = some value) :
    (key, value) ∈ m.entries := by
  obtain ⟨entry, hfind, rfl⟩ := Option.map_eq_some_iff.1 h
  have hkey := List.find?_some hfind
  have heq : key = entry.1 := Std.LawfulEqOrd.eq_of_compare (by simpa using hkey)
  rw [heq]
  exact List.mem_of_find?_eq_some hfind

theorem mem_keys_iff {m : SortedMap κ ν} {key : κ} :
    key ∈ m.keys ↔ (m.get? key).isSome = true := by
  rw [keys, List.mem_map, get?, Option.isSome_map, List.find?_isSome]
  constructor
  · intro h
    obtain ⟨entry, hentry, rfl⟩ := h
    exact ⟨entry, hentry, by simp⟩
  · intro h
    obtain ⟨entry, hentry, hkey⟩ := h
    exact ⟨entry, hentry, (Std.LawfulEqOrd.eq_of_compare (by simpa using hkey)).symm⟩

/-- Maps in order are equal if they hold the same under each key. -/
theorem ext_of_get? [Std.TransOrd κ] {m m' : SortedMap κ ν} (hm : m.Sorted) (hm' : m'.Sorted)
    (h : ∀ key, m.get? key = m'.get? key) : m = m' := by
  have hsub {m m' : SortedMap κ ν} (hm : m.Sorted) (h : ∀ key, m.get? key = m'.get? key) :
      m.entries ⊆ m'.entries := by
    intro entry hentry
    apply mem_of_get?
    rw [← h, get?_of_mem hm hentry]
  have hperm : m.entries.Perm m'.entries := by
    have hnodup {m : SortedMap κ ν} (hm : m.Sorted) : m.entries.Nodup :=
      hm.distinct.imp fun hne heq => hne (congrArg (·.1) heq)
    exact (List.perm_ext_iff_of_nodup (hnodup hm) (hnodup hm')).2 fun entry =>
      ⟨fun he => hsub hm h he, fun he => hsub hm' (fun key => (h key).symm) he⟩
  obtain ⟨entries⟩ := m
  obtain ⟨entries'⟩ := m'
  have heq : entries = entries' := by
    refine hperm.eq_of_pairwise ?_ hm hm'
    intro first second _ _ hlt hgt
    exact absurd (Std.OrientedCmp.gt_of_lt hgt) (by simp [hlt])
  rw [heq]

variable [DecidableEq κ]

/-- Under a key stands what was put in there last, or else what stood there before. -/
theorem get?_insertAll (m : SortedMap κ ν) (entries : List (κ × ν)) (key : κ) :
    (m.insertAll entries).get? key =
      ((entries.reverse.find? (·.1 = key)).map (·.2)).or (m.get? key) := by
  induction entries generalizing m with
  | nil => rfl
  | cons entry entries ih =>
    have hrest := ih (m.insert entry.1 entry.2)
    rw [get?_insert] at hrest
    rw [List.reverse_cons, List.find?_append, Option.map_or, Option.or_assoc]
    refine hrest.trans (congrArg _ ?_)
    by_cases h : key = entry.1
    · simp [h]
    · simp [h, Ne.symm h]

theorem get?_insertAll_of_notMem (m : SortedMap κ ν) {entries : List (κ × ν)} {key : κ}
    (h : ∀ entry ∈ entries, entry.1 ≠ key) : (m.insertAll entries).get? key = m.get? key := by
  have hnone : entries.reverse.find? (·.1 = key) = none := by simpa using h
  rw [get?_insertAll, hnone]
  rfl

/-- No key is dropped: those of all that was put in are there, with those that were there. -/
theorem mem_keys_insertAll {m : SortedMap κ ν} {entries : List (κ × ν)} {key : κ} :
    key ∈ (m.insertAll entries).keys ↔ key ∈ m.keys ∨ key ∈ entries.map (·.1) := by
  have hfound : (entries.reverse.find? (·.1 = key)).isSome = true ↔ key ∈ entries.map (·.1) := by
    simp
  rw [mem_keys_iff, mem_keys_iff, get?_insertAll, Option.isSome_or, Option.isSome_map,
    Bool.or_eq_true, hfound, or_comm]

theorem get?_insertAll_of_mem (m : SortedMap κ ν) {entries : List (κ × ν)}
    (hnodup : entries.Pairwise fun first second => first.1 ≠ second.1) {entry : κ × ν}
    (h : entry ∈ entries) : (m.insertAll entries).get? entry.1 = some entry.2 := by
  induction entries generalizing m with
  | nil => cases h
  | cons first entries ih =>
    obtain ⟨hfirst, hrest⟩ := List.pairwise_cons.1 hnodup
    rcases List.mem_cons.1 h with rfl | h
    · have hkeep := get?_insertAll_of_notMem (m.insert entry.1 entry.2) fun other hother =>
        (hfirst other hother).symm
      rw [get?_insert, if_pos rfl] at hkeep
      exact hkeep
    · exact ih (m.insert first.1 first.2) hrest h

/-- The entries of a map in order make the map again, in whatever order they are put in. -/
theorem insertAll_perm [Std.TransOrd κ] {m : SortedMap κ ν} (hm : m.Sorted)
    {entries : List (κ × ν)} (h : m.entries.Perm entries) :
    ({} : SortedMap κ ν).insertAll entries = m := by
  -- Both maps are in order, so that their look-ups tell them apart.
  refine ext_of_get? (sorted_empty.insertAll entries) hm fun key => ?_
  cases hget : m.get? key with
  | some value =>
    have hmem : (key, value) ∈ entries := h.mem_iff.1 (mem_of_get? hget)
    exact get?_insertAll_of_mem _ (h.pairwise hm.distinct fun hne => hne.symm) hmem
  | none =>
    rw [get?_insertAll_of_notMem, get?_empty]
    rintro entry hentry rfl
    rw [get?_of_mem hm (h.mem_iff.2 hentry)] at hget
    cases hget

end Lookup

end ProtoPlan.SortedMap
