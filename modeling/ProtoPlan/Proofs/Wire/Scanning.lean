import ProtoPlan.Proofs.Wire.Record

/-!
Where the scanner cuts. Its budget is of no matter to the records that it finds: with too little it
fails, and with enough it finds the same ones.
-/

namespace ProtoPlan.Wire

namespace Record

/-- What stands after the key. -/
def value (record : Record) : Bytes :=
  match Reader.key record.raw with
  | .ok _ value => value
  | .error _ _ => []

/-- The payload of a length-delimited record. -/
def payload? (record : Record) : Option Bytes :=
  if record.key.wireType = .lengthDelimited then
    match Reader.span record.value with
    | .ok payload [] => some payload
    | _ => none
  else none

end Record

namespace Reader

/-- A record is a key and what it frames, with the bytes that both took. -/
theorem record_eq_ok_iff {budget : Nat} {bytes rest : Bytes} {r : Record} :
    record budget bytes = .ok r rest ↔
      ∃ k mid, key bytes = .ok k mid ∧ skipValue budget k.wireType mid = .ok () rest ∧
        r = ⟨k, bytes.take (bytes.length - rest.length)⟩ := by
  constructor
  · intro h
    obtain ⟨start, mid, hstart, h⟩ := bind_eq_ok_iff.1 h
    cases hstart
    obtain ⟨k, mid, hk, h⟩ := bind_eq_ok_iff.1 h
    obtain ⟨⟨⟩, rest', hskip, h⟩ := bind_eq_ok_iff.1 h
    obtain ⟨raw, rest'', hsince, h⟩ := bind_eq_ok_iff.1 h
    cases hsince
    cases h
    exact ⟨k, mid, hk, hskip, rfl⟩
  · intro h
    obtain ⟨k, mid, hk, hskip, rfl⟩ := h
    refine bind_eq_ok_iff.2 ⟨bytes, bytes, rfl, ?_⟩
    exact bind_eq_ok_iff.2 ⟨k, mid, hk, bind_eq_ok_iff.2 ⟨(), rest, hskip, rfl⟩⟩

theorem value_of_record {budget : Nat} {r : Record} (h : Takes (record budget) r.raw r) :
    ∃ keyBytes, r.raw = keyBytes ++ r.value ∧ Takes key keyBytes r.key ∧
      Takes (skipValue budget r.key.wireType) r.value () := by
  obtain ⟨k, mid, hk, hskip, hr⟩ := record_eq_ok_iff.1 h.ends
  have hvalue : r.value = mid := by rw [Record.value, hk]
  have hkey : r.key = k := congrArg Record.key hr
  obtain ⟨keyBytes, hraw, hkeyTakes⟩ := isLocal_key hk
  obtain ⟨skipped, hmid, hskipTakes⟩ := isLocal_skipValue budget k.wireType hskip
  rw [List.append_nil] at hmid
  refine ⟨keyBytes, by rw [hvalue, hraw], by rw [hkey]; exact hkeyTakes, ?_⟩
  rw [hvalue, hkey, hmid]
  exact hskipTakes

theorem record_shorter {budget : Nat} {bytes rest : Bytes} {r : Record}
    (h : record budget bytes = .ok r rest) : rest.length < bytes.length := by
  obtain ⟨k, mid, hk, hskip, -⟩ := record_eq_ok_iff.1 h
  have hlt := key_shorter hk
  have hle := (isLocal_skipValue budget k.wireType).rest_le hskip
  omega

theorem isLocal_record (budget : Nat) : IsLocal (record budget) := by
  intro bytes r rest h
  obtain ⟨k, mid, hk, hskip, rfl⟩ := record_eq_ok_iff.1 h
  obtain ⟨keyBytes, rfl, hkey⟩ := isLocal_key hk
  obtain ⟨value, rfl, hvalue⟩ := isLocal_skipValue budget k.wireType hskip
  refine ⟨keyBytes ++ value, (List.append_assoc ..).symm, ?_⟩
  rw [← List.append_assoc, take_before]
  exact hkey.record hvalue

/-- A record is found with all its bytes. -/
theorem raw_of_record {budget : Nat} {piece : Bytes} {r : Record}
    (h : Takes (record budget) piece r) : r.raw = piece := by
  obtain ⟨k, mid, -, -, rfl⟩ := record_eq_ok_iff.1 h.ends
  simp

/-- The scanner leaves nothing, and finds records that make up the bytes. -/
theorem records_eq_ok_iff {budget : Nat} {bytes rest : Bytes} {rs : List Record} :
    records budget bytes = .ok rs rest ↔
      rest = [] ∧ rs.flatMap (·.raw) = bytes ∧ ∀ r ∈ rs, Takes (record budget) r.raw r := by
  constructor
  · intro h
    have hlocal (found : List Record) :
        IsLocal (do return found ++ [← record budget] : Reader (List Record)) :=
      (isLocal_record budget).bind fun _ => IsLocal.pure _
    have hshorter {found : List Record} {bytes : Bytes} {next : List Record} {rest : Bytes}
        (h : (do return found ++ [← record budget] : Reader (List Record)) bytes = .ok next rest) :
        rest.length < bytes.length := by
      obtain ⟨r, mid, hr, h⟩ := bind_eq_ok_iff.1 h
      cases h
      exact record_shorter hr
    have hfound {found last : List Record} {pieces : List Bytes}
        (h : Steps (fun found => do return found ++ [← record budget]) found pieces last) :
        ∃ rs, last = found ++ rs ∧ rs.map (·.raw) = pieces ∧
          ∀ r ∈ rs, Takes (record budget) r.raw r := by
      induction h with
      | done found => exact ⟨[], by simp⟩
      | @more found next last piece pieces _ ht _ ih =>
        obtain ⟨rs, rfl, hpieces, hall⟩ := ih
        have hrun := ht.ends
        obtain ⟨r, mid, hr, hrun⟩ := bind_eq_ok_iff.1 hrun
        cases hrun
        obtain ⟨taken, hpiece, hr⟩ := isLocal_record budget hr
        rw [List.append_nil] at hpiece
        subst hpiece
        have hraw := raw_of_record hr
        refine ⟨r :: rs, by simp, by rw [List.map_cons, hpieces, hraw], ?_⟩
        intro other hother
        rcases List.mem_cons.1 hother with rfl | hother
        · rwa [hraw]
        · exact hall other hother
    obtain ⟨hrest, pieces, rfl, hsteps⟩ := steps_of_drain hlocal hshorter h
    obtain ⟨found, hrs, hpieces, hall⟩ := hfound hsteps
    rw [List.nil_append] at hrs
    subst hrs
    exact ⟨hrest, by rw [List.flatMap_def, hpieces], hall⟩
  · rintro ⟨rfl, rfl, hall⟩
    exact records_flatMap hall

theorem closeGroup_unique {budget budget' outer : Nat} {bytes rest rest' : Bytes}
    (h : closeGroup budget outer bytes = .ok () rest)
    (h' : closeGroup budget' outer bytes = .ok () rest') : rest = rest' := by
  -- Both follow the same keys, and only whether they go on depends on the budget.
  have follow {outer : Nat} {bytes mid : Bytes} {key : UInt64} (hk : varint bytes = .ok key mid)
      (h' : closeGroup budget' outer bytes = .ok () rest') :
      closeGroupAfter budget' outer key mid = .ok () rest' := by
    rw [closeGroup_eq] at h'
    obtain ⟨key', mid', hk', h'⟩ := bind_eq_ok_iff.1 h'
    rw [hk] at hk'
    cases hk'
    exact h'
  fun_induction closeGroup budget outer bytes with
  | case1 | case2 | case4 | case7 => cases h
  | case3 outer bytes key mid hk _ hw hle ih =>
    have hafter := follow hk h'
    simp only [closeGroupAfter, hw] at hafter
    split at hafter
    · exact ih h hafter
    · cases hafter
  | case5 bytes key mid hk _ hw =>
    have hafter := follow hk h'
    simp only [closeGroupAfter, hw] at hafter
    cases h
    cases hafter
    rfl
  | case6 bytes key mid hk _ hw outer ih =>
    have hafter := follow hk h'
    simp only [closeGroupAfter, hw] at hafter
    exact ih h hafter
  | case8 outer bytes key mid hk _ w hstart hend hw more hs _ ih =>
    have hafter := follow hk h'
    rw [closeGroupAfter_of_skipPlain hw hs] at hafter
    obtain ⟨⟨⟩, more', hs', hafter⟩ := bind_eq_ok_iff.1 hafter
    rw [hs] at hs'
    cases hs'
    exact ih h hafter

theorem skipValue_unique {budget budget' : Nat} {wireType : WireType} {bytes rest rest' : Bytes}
    (h : skipValue budget wireType bytes = .ok () rest)
    (h' : skipValue budget' wireType bytes = .ok () rest') : rest = rest' := by
  cases wireType
  case startGroup => exact closeGroup_unique h h'
  all_goals
    have hsame := h.symm.trans h'
    cases hsame
    rfl

theorem record_unique {budget budget' : Nat} {r r' : Record} {rest rest' : Bytes}
    (hr : Takes (record budget) r.raw r) (hr' : Takes (record budget') r'.raw r')
    (h : r.raw ++ rest = r'.raw ++ rest') : r = r' := by
  obtain ⟨keyBytes, hraw, hkey, hskip⟩ := value_of_record hr
  obtain ⟨keyBytes', hraw', hkey', hskip'⟩ := value_of_record hr'
  have hboth := hkey (r.value ++ rest)
  rw [← List.append_assoc, ← hraw, h, hraw', List.append_assoc, hkey'] at hboth
  obtain ⟨hk, hmid⟩ := EStateM.Result.ok.inj hboth
  have hskips := hskip' rest'
  rw [hmid, hk] at hskips
  have hrest : rest = rest' := skipValue_unique (hskip rest) hskips
  rw [hrest] at h
  have hsame : r.raw = r'.raw := List.append_cancel_right h
  obtain ⟨k, raw⟩ := r
  obtain ⟨k', raw'⟩ := r'
  dsimp only at hk hsame
  rw [hk, hsame]

/-- The scanner cuts the bytes into these records, under some budget. -/
def Cuts (bytes : Bytes) (rs : List Record) : Prop := ∃ budget, (records budget).run bytes = .ok rs

theorem cuts_iff {bytes : Bytes} {rs : List Record} :
    Cuts bytes rs ↔
      rs.flatMap (·.raw) = bytes ∧ ∃ budget, ∀ r ∈ rs, Takes (record budget) r.raw r := by
  constructor
  · rintro ⟨budget, h⟩
    obtain ⟨rest, h⟩ := run_eq_ok_iff.1 h
    obtain ⟨-, hwhole, hall⟩ := records_eq_ok_iff.1 h
    exact ⟨hwhole, budget, hall⟩
  · rintro ⟨hwhole, budget, hall⟩
    exact ⟨budget, run_eq_ok_iff.2 ⟨[], records_eq_ok_iff.2 ⟨rfl, hwhole, hall⟩⟩⟩

/-- A cut of the first part of some bytes is the first part of their cut. -/
theorem Cuts.of_append {first more : Bytes} {rs records : List Record} (h : Cuts first rs)
    (hall : Cuts (first ++ more) records) : ∃ rs', records = rs ++ rs' ∧ Cuts more rs' := by
  obtain ⟨rfl, budget, hrs⟩ := cuts_iff.1 h
  obtain ⟨hwhole, budget', hrecords⟩ := cuts_iff.1 hall
  clear h hall
  induction rs generalizing records with
  | nil => exact ⟨records, rfl, cuts_iff.2 ⟨hwhole, budget', hrecords⟩⟩
  | cons r rs ih =>
    obtain ⟨hr, htail⟩ := List.forall_mem_cons.1 hrs
    rw [List.flatMap_cons, List.append_assoc] at hwhole
    cases records with
    | nil =>
      have hne := record_ne_nil hr
      simp [hne] at hwhole
    | cons r' records =>
      obtain ⟨hr', hrecords⟩ := List.forall_mem_cons.1 hrecords
      rw [List.flatMap_cons] at hwhole
      obtain rfl := record_unique hr' hr hwhole
      obtain ⟨rs', rfl, hcuts⟩ := ih htail (List.append_cancel_left hwhole) hrecords
      exact ⟨rs', rfl, hcuts⟩

theorem Cuts.unique {bytes : Bytes} {rs rs' : List Record} (h : Cuts bytes rs)
    (h' : Cuts bytes rs') : rs = rs' := by
  rw [← List.append_nil bytes] at h'
  obtain ⟨more, rfl, hmore⟩ := h.of_append h'
  obtain ⟨hwhole, budget, hall⟩ := cuts_iff.1 hmore
  cases more with
  | nil => exact (List.append_nil rs).symm
  | cons r more =>
    have hne := record_ne_nil (hall r List.mem_cons_self)
    simp [hne] at hwhole

end Reader

end ProtoPlan.Wire
