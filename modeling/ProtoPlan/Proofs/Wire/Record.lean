import ProtoPlan.Proofs.Wire.Taking

/-!
Messages as sequences of records. A record is a key with the value after it; where one record ends
and the next begins is settled by keys and wire types alone, so that every decoder that reads the
values as they are framed cuts its input at the same places.
-/

namespace ProtoPlan.Wire

/-- A field as it stands in a message: its key, and all its bytes, those of the key included. -/
structure Record where
  key : Key
  raw : Bytes
  deriving DecidableEq, Repr

def Record.number (record : Record) : Nat := record.key.number

namespace Reader

/-- A record, whatever it means: a key, and a value that is skipped by its wire type. -/
def record (budget : Nat) : Reader Record := do
  let start ← get
  let key ← key
  skipValue budget key.wireType
  return ⟨key, ← since start⟩

/-- All unread bytes cut into records. -/
def records (budget : Nat) : Reader (List Record) := elements (record budget) []

/-- A run of `step` over pieces of its input, none of them empty. Each step takes its own piece
whatever follows. -/
inductive Steps (step : σ → Reader σ) : σ → List Bytes → σ → Prop where
  | done (state : σ) : Steps step state [] state
  | more {state next last : σ} {piece : Bytes} {pieces : List Bytes} :
      piece ≠ [] → Takes (step state) piece next → Steps step next pieces last →
      Steps step state (piece :: pieces) last

section Steps

variable {step : σ → Reader σ} {state next last : σ} {pieces more : List Bytes}

theorem Steps.single {piece : Bytes} (hne : piece ≠ []) (h : Takes (step state) piece next) :
    Steps step state [piece] next :=
  .more hne h (.done next)

theorem Steps.append (h : Steps step state pieces next) (h' : Steps step next more last) :
    Steps step state (pieces ++ more) last := by
  induction h with
  | done => exact h'
  | more hne ht _ ih => exact .more hne ht (ih h')

/-- A loop goes through the pieces of a run and ends where they end. -/
theorem Steps.drain (h : Steps step state pieces last) :
    Reader.drain step state pieces.flatten = .ok last [] := by
  induction h with
  | done => exact drain_nil step _
  | @more state next last piece pieces hne ht _ ih =>
    have hlt : pieces.flatten.length < (piece ++ pieces.flatten).length := by
      have := List.length_pos_iff.2 hne
      rw [List.length_append]
      omega
    have hfull : ¬(piece ++ pieces.flatten).isEmpty := by simp [hne]
    rw [List.flatten_cons, Reader.drain, if_neg hfull, ht pieces.flatten]
    exact (if_pos hlt).trans ih

/-- A loop whose steps are local and take something is a run, and leaves nothing. -/
theorem steps_of_drain (hlocal : ∀ state, IsLocal (step state))
    (hshorter : ∀ {state : σ} {bytes : Bytes} {next : σ} {rest : Bytes},
      step state bytes = .ok next rest → rest.length < bytes.length)
    {bytes rest : Bytes} (h : drain step state bytes = .ok last rest) :
    rest = [] ∧ ∃ pieces, bytes = pieces.flatten ∧ Steps step state pieces last := by
  -- Each step is shorter, so the loop's own way out, a step that takes nothing, is never met.
  induction hn : bytes.length using Nat.strongRecOn generalizing bytes state with
  | ind n ih =>
    subst hn
    rw [drain] at h
    split at h
    · rename_i hempty
      have hnil : bytes = [] := List.isEmpty_iff.1 hempty
      cases h
      exact ⟨hnil, [], hnil, .done _⟩
    · split at h
      · cases h
      · rename_i next mid hs
        have hlt := hshorter hs
        rw [if_pos hlt] at h
        obtain ⟨hrest, pieces, hmid, hsteps⟩ := ih mid.length hlt h rfl
        obtain ⟨piece, rfl, ht⟩ := hlocal state hs
        have hne : piece ≠ [] := by
          rintro rfl
          simp at hlt
        exact ⟨hrest, piece :: pieces, by rw [List.flatten_cons, hmid], .more hne ht hsteps⟩

end Steps

theorem key_eq_ok_iff {bytes rest : Bytes} {k : Key} :
    key bytes = .ok k rest ↔
      ∃ value, varint bytes = .ok value rest ∧ splitKey value.toNat = .ok k := by
  rw [key, bind_eq_ok_iff]
  constructor
  · rintro ⟨value, mid, hv, h⟩
    cases hs : splitKey value.toNat with
    | ok k' =>
      rw [hs] at h
      cases h
      exact ⟨value, hv, hs⟩
    | error fault =>
      rw [hs] at h
      cases h
  · rintro ⟨value, hv, hs⟩
    refine ⟨value, rest, hv, ?_⟩
    rw [hs]
    rfl

theorem key_shorter {bytes rest : Bytes} {k : Key} (h : key bytes = .ok k rest) :
    rest.length < bytes.length := by
  obtain ⟨value, hv, -⟩ := key_eq_ok_iff.1 h
  exact varint_shorter hv

theorem ne_nil_of_key {keyBytes : Bytes} {k : Key} (h : Takes key keyBytes k) : keyBytes ≠ [] := by
  rintro rfl
  have := key_shorter (h [])
  simp at this

/-- What was taken is what stands before the rest. -/
theorem take_before (taken rest : Bytes) :
    (taken ++ rest).take ((taken ++ rest).length - rest.length) = taken := by
  simp

/-- One field: the body that claims it reads the value, or else the value is skipped and the raw
bytes are handed on. -/
theorem field_eq_ok_iff {budget : Nat} {claimed : Key → σ → Option (Reader σ)}
    {unclaimed : Nat → Bytes → σ → σ} {state next : σ} {bytes rest : Bytes} :
    field budget claimed unclaimed state bytes = .ok next rest ↔
      ∃ k mid, key bytes = .ok k mid ∧
        match claimed k state with
        | some body => body mid = .ok next rest
        | none => skipValue budget k.wireType mid = .ok () rest ∧
            next = unclaimed k.number (bytes.take (bytes.length - rest.length)) state := by
  have hget : (get : Reader Bytes) bytes = .ok bytes bytes := rfl
  rw [field, bind_eq_ok_iff]
  constructor
  · rintro ⟨start, mid, hstart, h⟩
    rw [hget] at hstart
    cases hstart
    obtain ⟨k, mid, hk, h⟩ := bind_eq_ok_iff.1 h
    refine ⟨k, mid, hk, ?_⟩
    cases hc : claimed k state with
    | some body =>
      rw [hc] at h
      exact h
    | none =>
      rw [hc] at h
      obtain ⟨⟨⟩, mid', hs, h⟩ := bind_eq_ok_iff.1 h
      cases h
      exact ⟨hs, rfl⟩
  · rintro ⟨k, mid, hk, h⟩
    refine ⟨bytes, bytes, hget, bind_eq_ok_iff.2 ⟨k, mid, hk, ?_⟩⟩
    cases hc : claimed k state with
    | some body =>
      rw [hc] at h
      exact h
    | none =>
      rw [hc] at h
      obtain ⟨hs, rfl⟩ := h
      exact bind_eq_ok_iff.2 ⟨(), rest, hs, rfl⟩

section Field

variable {budget : Nat} {claimed : Key → σ → Option (Reader σ)}
  {unclaimed : Nat → Bytes → σ → σ} {state next : σ}

theorem field_shorter (hlocal : ∀ {k state body}, claimed k state = some body → IsLocal body)
    {bytes rest : Bytes} (h : field budget claimed unclaimed state bytes = .ok next rest) :
    rest.length < bytes.length := by
  obtain ⟨k, mid, hk, h⟩ := field_eq_ok_iff.1 h
  have hlt := key_shorter hk
  split at h
  · rename_i body hc
    have := (hlocal hc).rest_le h
    omega
  · have := (isLocal_skipValue budget k.wireType).rest_le h.1
    omega

/-- A claimed field is taken as its key and its body are. -/
theorem Takes.field {keyBytes value : Bytes} {k : Key} {body : Reader σ}
    (hk : Takes key keyBytes k) (hc : claimed k state = some body) (hb : Takes body value next) :
    Takes (Reader.field budget claimed unclaimed state) (keyBytes ++ value) next := by
  intro rest
  rw [field_eq_ok_iff]
  refine ⟨k, value ++ rest, by rw [List.append_assoc, hk], ?_⟩
  rw [hc]
  exact hb rest

/-- An unclaimed field is handed on with all its bytes. -/
theorem Takes.field_unclaimed {keyBytes value : Bytes} {k : Key} (hk : Takes key keyBytes k)
    (hc : claimed k state = none) (hs : Takes (skipValue budget k.wireType) value ()) :
    Takes (Reader.field budget claimed unclaimed state) (keyBytes ++ value)
      (unclaimed k.number (keyBytes ++ value) state) := by
  intro rest
  rw [field_eq_ok_iff]
  refine ⟨k, value ++ rest, by rw [List.append_assoc, hk], ?_⟩
  rw [hc]
  refine ⟨hs rest, ?_⟩
  rw [take_before]

theorem isLocal_field (hlocal : ∀ {k state body}, claimed k state = some body → IsLocal body)
    (state : σ) : IsLocal (field budget claimed unclaimed state) := by
  intro bytes next rest h
  obtain ⟨k, mid, hk, h⟩ := field_eq_ok_iff.1 h
  obtain ⟨keyBytes, rfl, hkey⟩ := isLocal_key hk
  split at h
  · rename_i body hc
    obtain ⟨value, rfl, hb⟩ := hlocal hc h
    exact ⟨keyBytes ++ value, (List.append_assoc ..).symm, hkey.field hc hb⟩
  · rename_i hc
    obtain ⟨hs, rfl⟩ := h
    obtain ⟨value, rfl, hv⟩ := isLocal_skipValue budget k.wireType hs
    refine ⟨keyBytes ++ value, (List.append_assoc ..).symm, ?_⟩
    rw [← List.append_assoc, take_before]
    exact hkey.field_unclaimed hc hv

/-- The fields of a message as a run: nothing is left, and each field took its own bytes. -/
theorem steps_of_fields
    (hlocal : ∀ {k state body}, claimed k state = some body → IsLocal body)
    {bytes rest : Bytes} (h : fields budget claimed unclaimed state bytes = .ok next rest) :
    rest = [] ∧ ∃ pieces, bytes = pieces.flatten ∧
      Steps (field budget claimed unclaimed) state pieces next :=
  steps_of_drain (isLocal_field hlocal) (field_shorter hlocal) h

/-- Where `body` reads a value, `skip` goes past it. -/
def Follows (body : Reader α) (skip : Reader Unit) : Prop :=
  ∀ ⦃bytes a rest⦄, body bytes = .ok a rest → skip bytes = .ok () rest

theorem Takes.record {keyBytes value : Bytes} {k : Key} (hk : Takes key keyBytes k)
    (hs : Takes (skipValue budget k.wireType) value ()) :
    Takes (Reader.record budget) (keyBytes ++ value) ⟨k, keyBytes ++ value⟩ := by
  intro rest
  have hget : (get : Reader Bytes) (keyBytes ++ value ++ rest) = .ok (keyBytes ++ value ++ rest)
    (keyBytes ++ value ++ rest) := rfl
  have hkey := hk (value ++ rest)
  rw [← List.append_assoc] at hkey
  refine bind_eq_ok_iff.2 ⟨_, _, hget, bind_eq_ok_iff.2 ⟨k, _, hkey, ?_⟩⟩
  refine bind_eq_ok_iff.2 ⟨(), rest, hs rest, ?_⟩
  have hraw : since (keyBytes ++ value ++ rest) rest = .ok (keyBytes ++ value) rest :=
    congrArg (EStateM.Result.ok · rest) (take_before (keyBytes ++ value) rest)
  exact bind_eq_ok_iff.2 ⟨_, _, hraw, rfl⟩

/-- A step over one field is one over a record: the same bytes, either read by the body that claims
the key or handed on as they are. -/
theorem record_of_field
    (hlocal : ∀ {k state body}, claimed k state = some body → IsLocal body)
    (hfollows : ∀ {k state body}, claimed k state = some body →
      Follows body (skipValue budget k.wireType))
    {piece : Bytes} (h : Takes (field budget claimed unclaimed state) piece next) :
    ∃ r : Record, r.raw = piece ∧ Takes (record budget) piece r ∧
      ((∃ body value, claimed r.key state = some body ∧ Takes body value next) ∨
        (claimed r.key state = none ∧ next = unclaimed r.number piece state)) := by
  have hp := h.ends
  obtain ⟨k, mid, hk, hf⟩ := field_eq_ok_iff.1 hp
  obtain ⟨keyBytes, rfl, hkey⟩ := isLocal_key hk
  have hskip : skipValue budget k.wireType mid = .ok () [] := by
    split at hf
    · rename_i body hc
      exact hfollows hc hf
    · exact hf.1
  have hs := (isLocal_skipValue budget k.wireType).takes hskip
  refine ⟨⟨k, keyBytes ++ mid⟩, rfl, hkey.record hs, ?_⟩
  split at hf
  · rename_i body hc
    obtain ⟨value, -, hb⟩ := hlocal hc hf
    exact .inl ⟨body, value, hc, hb⟩
  · rename_i hc
    refine .inr ⟨hc, ?_⟩
    rw [hf.2, List.length_nil, Nat.sub_zero, List.take_length]
    rfl

end Field

theorem record_ne_nil {budget : Nat} {piece : Bytes} {r : Record}
    (h : Takes (record budget) piece r) : piece ≠ [] := by
  rintro rfl
  obtain ⟨start, mid, hstart, h⟩ := bind_eq_ok_iff.1 (h [])
  cases hstart
  obtain ⟨k, mid', hk, -⟩ := bind_eq_ok_iff.1 h
  have := key_shorter hk
  simp at this

/-- Bytes that are records one after the other are cut into these records. -/
theorem records_flatMap {budget : Nat} {rs : List Record}
    (h : ∀ r ∈ rs, Takes (record budget) r.raw r) :
    records budget (rs.flatMap (·.raw)) = .ok rs [] := by
  have hsteps (found : List Record) :
      Steps (fun found => do return found ++ [← record budget]) found (rs.map (·.raw))
        (found ++ rs) := by
    induction rs generalizing found with
    | nil => simpa using Steps.done found
    | cons r rs ih =>
      have hr : Takes (record budget) r.raw r := h r (by simp)
      have hmore := ih (fun r' hr' => h r' (by simp [hr'])) (found ++ [r])
      rw [List.append_assoc, List.singleton_append] at hmore
      exact .more (record_ne_nil hr) (hr.map (Takes.pure _)) hmore
  have hdrain := (hsteps []).drain
  rwa [List.nil_append, ← List.flatMap_def] at hdrain

/-! Reads of single values go as far as skipping goes. -/

theorem Follows.bind {x : Reader α} {f : α → Reader β} {skip : Reader Unit}
    (hx : Follows x skip)
    (hf : ∀ {a : α} {bytes : Bytes} {b : β} {rest : Bytes}, f a bytes = .ok b rest → rest = bytes) :
    Follows (x >>= f) skip := by
  intro bytes b rest h
  obtain ⟨a, mid, ha, hb⟩ := bind_eq_ok_iff.1 h
  rw [hf hb]
  exact hx ha

theorem Follows.map {x : Reader α} {f : α → β} {skip : Reader Unit} (hx : Follows x skip) :
    Follows (x >>= fun a => pure (f a)) skip := by
  apply hx.bind
  intro a bytes b rest h
  cases h
  rfl

theorem Follows.throw (fault : Fault) (skip : Reader Unit) :
    Follows (throw fault : Reader α) skip := by
  intro bytes a rest h
  cases h

theorem follows_varint : Follows varint (skipPlain .varint) := by
  intro bytes value rest h
  change skipVarint bytes = _
  rw [skipVarint_eq]
  exact bind_eq_ok_iff.2 ⟨value, rest, h, rfl⟩

theorem follows_take (count : Nat) : Follows (take count) (skipBytes count) := by
  intro bytes taken rest h
  exact bind_eq_ok_iff.2 ⟨taken, rest, h, rfl⟩

theorem follows_scalar (kind : Scalar) : Follows kind.read (skipPlain kind.wireType) := by
  rcases scalar_read_eq kind with ⟨hw, f, hf⟩ | ⟨hw, f, hf⟩ | ⟨hw, f, hf⟩
  · rw [hw, hf]
    exact follows_varint.map
  · rw [hw, hf]
    exact (follows_take 8).map
  · rw [hw, hf]
    exact (follows_take 4).map

theorem follows_span : Follows span (skipPlain .lengthDelimited) := by
  intro bytes taken rest h
  obtain ⟨count, mid, hc, ht⟩ := bind_eq_ok_iff.1 h
  exact bind_eq_ok_iff.2 ⟨count, mid, hc, follows_take count ht⟩

theorem follows_text (field : String) : Follows (text field) (skipPlain .lengthDelimited) := by
  apply follows_span.bind
  intro bytes more b rest h
  cases hs : String.fromUTF8? bytes.toByteArray with
  | some s =>
    rw [hs] at h
    cases h
    rfl
  | none =>
    rw [hs] at h
    cases h

theorem follows_delimited (body : Reader α) :
    Follows (delimited body) (skipPlain .lengthDelimited) := by
  apply follows_span.bind
  intro span bytes b rest h
  unfold within at h
  split at h <;> cases h
  rfl

/-- A reader of values framed as `wireType`. -/
structure Framed (wireType : WireType) (body : Reader α) : Prop where
  isLocal : IsLocal body
  follows : Follows body (skipPlain wireType)

theorem Framed.throw {wireType : WireType} (fault : Fault) :
    Framed wireType (throw fault : Reader α) :=
  ⟨IsLocal.throw fault, Follows.throw fault _⟩

theorem Framed.map {wireType : WireType} {body : Reader α} {f : α → β}
    (h : Framed wireType body) : Framed wireType (body >>= fun a => pure (f a)) :=
  ⟨h.isLocal.bind fun _ => IsLocal.pure _, h.follows.map⟩

theorem framed_scalar (kind : Scalar) : Framed kind.wireType kind.read :=
  ⟨isLocal_scalar kind, follows_scalar kind⟩

theorem framed_span : Framed .lengthDelimited span := ⟨isLocal_span, follows_span⟩

theorem framed_text (field : String) : Framed .lengthDelimited (text field) :=
  ⟨isLocal_text field, follows_text field⟩

theorem framed_delimited (body : Reader α) : Framed .lengthDelimited (delimited body) :=
  ⟨isLocal_delimited body, follows_delimited body⟩

/-- No single value is framed as a group, so that skipping it is no matter of nesting. -/
theorem Framed.follows_skipValue {wireType : WireType} {body : Reader α}
    (h : Framed wireType body) (budget : Nat) : Follows body (skipValue budget wireType) := by
  cases wireType
  case startGroup =>
    intro bytes a rest hb
    have := h.follows hb
    cases this
  all_goals exact h.follows

end Reader

end ProtoPlan.Wire
