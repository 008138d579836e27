import ProtoPlan.Proofs.Dynamic.Truncation
import ProtoPlan.Proofs.Wire.Occurrence

/-!
The nesting budget of a set. What a set accepts under one budget it accepts under any other that is
as large as the levels that the buffer opens, and refuses for the limit under any that is not. A
level is an embedded message or a map entry; of skipped groups those count that have a group inside.
-/

namespace ProtoPlan

open Wire Schema

namespace Schema

/-- The fields of a message that stands for a value of the kind. -/
def insideKind? (schema : Schema) : Kind → Option (List Field)
  | .message type => some (schema.fieldsOf (trimDots type))
  | _ => none

/-- The fields of a map entry. -/
def entryFields (key value : Kind) : List Field :=
  [.singular "key" 1 key, .singular "value" 2 value]

theorem mem_entryFields_iff {field : Field} {key value : Kind} :
    field ∈ entryFields key value ↔
      field = .singular "key" 1 key ∨ field = .singular "value" 2 value := by
  simp [entryFields]

/-- The fields inside a record of the field, if it is embedded. -/
def inside? (schema : Schema) (field : Field) : Option (List Field) :=
  match field.cardinality with
  | .map key value => some (entryFields key.kind value.kind)
  | _ => schema.insideKind? field.kind

end Schema

namespace Dynamic

open Reader

/-- The levels that a record opens in a message with these fields. Groups that are skipped count if
they reach the depth `least`. -/
inductive Opens (schema : Schema) (least : Nat) : List Field → Record → Nat → Prop where
  | embedded {fields inner : List Field} {field : Field} {r : Record} :
      field ∈ fields → field.number = r.number → schema.inside? field = some inner →
      Opens schema least fields r 1
  | deeper {fields inner : List Field} {field : Field} {r r' : Record} {payload : Bytes}
      {records : List Record} {depth : Nat} :
      field ∈ fields → field.number = r.number → schema.inside? field = some inner →
      r.payload? = some payload → Cuts payload records → r' ∈ records →
      Opens schema least inner r' depth → Opens schema least fields r (depth + 1)
  | group {fields : List Field} {r : Record} {depth : Nat} :
      r.number ∉ fields.map (·.number) → r.key.wireType = .startGroup → least ≤ depth →
      GroupOpens 0 r.value depth → Opens schema least fields r depth

/-- Some record of the bytes opens more levels than the limit. -/
def DeeperThan (schema : Schema) (least limit : Nat) (fields : List Field) (bytes : Bytes) : Prop :=
  ∃ records, Cuts bytes records ∧ ∃ r ∈ records, ∃ depth, limit < depth ∧
    Opens schema least fields r depth

/-- So does a record with that payload. -/
def EmbedsDeeper (schema : Schema) (least limit : Nat) (fields : List Field) (payload : Bytes) :
    Prop :=
  match limit with
  | 0 => True
  | limit + 1 => DeeperThan schema least limit fields payload

section Opens

variable {schema : Schema} {least limit : Nat} {fields : List Field} {r : Record}

theorem deep_iff_of_undeclared (h : r.number ∉ fields.map (·.number)) :
    (∃ depth, limit < depth ∧ Opens schema 2 fields r depth) ↔
      DeepGroup limit r.key.wireType r.value := by
  constructor
  · rintro ⟨depth, hlimit, hopens⟩
    cases hopens with
    | embedded hf hnumber => exact absurd (hnumber ▸ List.mem_map_of_mem hf) h
    | deeper hf hnumber => exact absurd (hnumber ▸ List.mem_map_of_mem hf) h
    | group _ hw hleast hgroup => exact ⟨hw, depth, hlimit, hleast, hgroup⟩
  · rintro ⟨hw, depth, hlimit, hleast, hgroup⟩
    exact ⟨depth, hlimit, .group h hw hleast hgroup⟩

theorem deep_iff_of_declared (hnodup : (fields.map (·.number)).Nodup) {field : Field}
    (hf : field ∈ fields) (hnumber : field.number = r.number) :
    (∃ depth, limit < depth ∧ Opens schema least fields r depth) ↔
      ∃ inner, schema.inside? field = some inner ∧ (limit = 0 ∨
        ∃ payload, r.payload? = some payload ∧ EmbedsDeeper schema least limit inner payload) := by
  have same {other : Field} (ho : other ∈ fields) (hn : other.number = r.number) :
      other = field :=
    List.inj_on_of_nodup_map hnodup ho hf (hn.trans hnumber.symm)
  constructor
  · rintro ⟨depth, hlimit, hopens⟩
    cases hopens with
    | embedded ho hn hinside =>
      rw [same ho hn] at hinside
      exact ⟨_, hinside, .inl (by omega)⟩
    | @deeper _ inner _ _ r' payload records depth ho hn hinside hpayload hcuts hr' hopens =>
      rw [same ho hn] at hinside
      refine ⟨inner, hinside, ?_⟩
      cases limit with
      | zero => exact .inl rfl
      | succ limit =>
        exact .inr ⟨payload, hpayload, records, hcuts, r', hr', depth, by omega, hopens⟩
    | group hn => exact absurd (hnumber ▸ List.mem_map_of_mem hf) hn
  · rintro ⟨inner, hinside, hdeep⟩
    cases limit with
    | zero => exact ⟨1, Nat.one_pos, .embedded hf hnumber hinside⟩
    | succ limit =>
      rcases hdeep with hzero | ⟨payload, hpayload, records, hcuts, r', hr', depth, hlt, hopens⟩
      · cases hzero
      · exact ⟨depth + 1, Nat.succ_lt_succ hlt,
          .deeper hf hnumber hinside hpayload hcuts hr' hopens⟩

end Opens

/-- Two readers of one value, of which the first accepts and the second has a limit: a value that is
no message is accepted by both, a message by both unless it is too deep. -/
def Limited (schema : Schema) (limit : Nat) (wireType : WireType) (inside : Option (List Field))
    (x : Reader α) (y : Reader β) : Prop :=
  ∀ ⦃value a⦄, Takes x value a →
    match inside with
    | none => ∃ b, Takes y value b
    | some fields => wireType = .lengthDelimited ∧ ∃ payload, Takes span value payload ∧
        TakesUnless (EmbedsDeeper schema 2 limit fields payload) y value

section Limited

variable {schema : Schema} {limit : Nat} {wireType : WireType} {inside : Option (List Field)}
  {x : Reader α} {y : Reader β}

theorem limited_of_agrees (hy : IsLocal y) (h : Agrees (fun _ _ => True) x y) :
    Limited schema limit wireType none x y := by
  intro value a hx
  have hrun := hx.ends
  rcases h value with ⟨_, b, rest, hx', hy', -⟩ | ⟨fault, rest, rest', hx', -⟩
  · rw [hrun] at hx'
    cases hx'
    exact ⟨b, hy.takes hy'⟩
  · rw [hrun] at hx'
    cases hx'

theorem limited_self (x : Reader α) : Limited schema limit wireType none x x :=
  fun _ a hx => ⟨a, hx⟩

theorem limited_throw (fault : Fault) :
    Limited schema limit wireType inside (throw fault : Reader α) y := by
  intro value a hx
  cases hx []

theorem takes_of_map {f : α → γ} {value : Bytes} {c : γ} (hx : IsLocal x)
    (h : Takes (x >>= fun a => pure (f a)) value c) : ∃ a, Takes x value a := by
  have hrun := h.ends
  obtain ⟨a, mid, ha, hc⟩ := bind_eq_ok_iff.1 hrun
  cases hc
  exact ⟨a, hx.takes ha⟩

theorem Limited.map {f : α → γ} {g : β → δ} (hx : IsLocal x)
    (h : Limited schema limit wireType inside x y) :
    Limited schema limit wireType inside (x >>= fun a => pure (f a))
      (y >>= fun b => pure (g b)) := by
  intro value c hc
  obtain ⟨a, ha⟩ := takes_of_map hx hc
  have hy := h ha
  cases inside with
  | none =>
    obtain ⟨b, hb⟩ := hy
    exact ⟨g b, hb.map (Takes.pure _)⟩
  | some fields =>
    obtain ⟨hw, payload, hspan, hunless⟩ := hy
    exact ⟨hw, payload, hspan, hunless.map⟩

theorem Limited.expect {key : Key} {field : String}
    (h : Limited schema limit wireType inside x y) :
    Limited schema limit key.wireType inside (expect key wireType field x)
      (expect key wireType field y) := by
  unfold Reader.expect
  split
  · rename_i hw
    rw [hw]
    exact h
  · exact limited_throw _

/-- The outcome of a run that is accepted unless it is too deep. -/
def RunsUnless (deep : Prop) (outcome : Except Fault α) : Prop :=
  (¬deep ∧ ∃ a, outcome = .ok a) ∨ (deep ∧ outcome = .error .recursionLimitReached)

theorem limited_nested {fields : List Field} {budget : Nat} {x : Nat → Reader α}
    {y : Nat → Reader β}
    (h : ∀ lower limit payload a, budget = lower + 1 → (x lower).run payload = .ok a →
      RunsUnless (DeeperThan schema 2 limit fields payload) ((y limit).run payload)) :
    Limited schema limit .lengthDelimited (some fields) (nested budget x) (nested limit y) := by
  intro value a hx
  cases budget with
  | zero => cases hx []
  | succ budget =>
    have hrun := hx.ends
    obtain ⟨payload, mid, hspan, hwithin⟩ := bind_eq_ok_iff.1 hrun
    obtain ⟨spanBytes, rfl, htakes⟩ := isLocal_span hspan
    unfold within at hwithin
    split at hwithin
    · rename_i a left hbody
      cases hwithin
      rw [List.append_nil]
      refine ⟨rfl, payload, htakes, ?_⟩
      cases limit with
      | zero => exact (Fails.throw _ _).unless
      | succ limit =>
        have hread := spanReads_delimited (y limit) htakes
        rcases h budget limit payload a rfl (run_eq_ok_iff.2 ⟨left, hbody⟩) with
          ⟨hno, b, hb⟩ | ⟨hdeep, hfault⟩
        · rw [hb] at hread
          exact .inl ⟨hno, b, hread⟩
        · rw [hfault] at hread
          exact .inr ⟨hdeep, hread⟩
    · cases hwithin

end Limited

section Loop

variable {schema : Schema} {limit budget : Nat} {fields : List Field} {σ τ : Type}
  {claimed : Key → σ → Option (Reader σ)} {claimed' : Key → τ → Option (Reader τ)}
  {unclaimed : Nat → Bytes → σ → σ} {unclaimed' : Nat → Bytes → τ → τ}

/-- Both decoders claim the declared fields, the second within a limit, and no others. -/
def ClaimsLimited (schema : Schema) (limit : Nat) (fields : List Field)
    (claimed : Key → σ → Option (Reader σ)) (claimed' : Key → τ → Option (Reader τ)) : Prop :=
  ∀ key s t,
    (∃ field ∈ fields, field.number = key.number ∧ ∃ x y, claimed key s = some x ∧
      claimed' key t = some y ∧
      Limited schema limit key.wireType (schema.inside? field) x y) ∨
    (key.number ∉ fields.map (·.number) ∧ claimed key s = none ∧ claimed' key t = none)

theorem takesUnless_claimed {deep : Prop} {keyBytes value : Bytes} {k : Key} {t : τ}
    {body : Reader τ} (hk : Takes key keyBytes k) (hc : claimed' k t = some body)
    (h : TakesUnless deep body value) :
    TakesUnless deep (field limit claimed' unclaimed' t) (keyBytes ++ value) := by
  rcases h with ⟨hno, next, hnext⟩ | ⟨hyes, hfails⟩
  · exact .inl ⟨hno, next, hk.field hc hnext⟩
  · refine .inr ⟨hyes, Fails.field hk fun start => ?_⟩
    rw [fieldAfter, hc]
    exact hfails

theorem takesUnless_unclaimed {deep : Prop} {keyBytes value : Bytes} {k : Key} {t : τ}
    (hk : Takes key keyBytes k) (hc : claimed' k t = none)
    (h : TakesUnless deep (skipValue limit k.wireType) value) :
    TakesUnless deep (field limit claimed' unclaimed' t) (keyBytes ++ value) := by
  rcases h with ⟨hno, ⟨⟩, hskip⟩ | ⟨hyes, hfails⟩
  · exact .inl ⟨hno, _, hk.field_unclaimed hc hskip⟩
  · refine .inr ⟨hyes, Fails.field hk fun start => ?_⟩
    rw [fieldAfter, hc]
    exact hfails.bind_left

/-- A record that the first decoder takes is taken by the second unless it is too deep. -/
theorem field_limit (hnodup : (fields.map (·.number)).Nodup) (hframe : ClaimsByFrame claimed)
    (hclaims : ClaimsLimited schema limit fields claimed claimed') {found : Nat} {r : Record}
    (hr : Takes (record found) r.raw r) {s next : σ}
    (h : Takes (field budget claimed unclaimed s) r.raw next) (t : τ) :
    TakesUnless (∃ depth, limit < depth ∧ Opens schema 2 fields r depth)
      (field limit claimed' unclaimed' t) r.raw := by
  obtain ⟨keyBytes, hraw, hkey, -⟩ := value_of_record hr
  have hvalue := value_of_field hframe hr h
  rw [hraw]
  rcases hclaims r.key s t with ⟨field, hf, hnumber, x, y, hx, hy, hlimited⟩ | ⟨hn, hx, hy⟩
  · rw [hx] at hvalue
    rw [deep_iff_of_declared hnodup hf hnumber]
    refine takesUnless_claimed hkey hy ?_
    have hboth := hlimited hvalue
    cases hinside : schema.inside? field with
    | none =>
      rw [hinside] at hboth
      obtain ⟨b, hb⟩ := hboth
      apply hb.unless.iff
      simp
    | some inner =>
      rw [hinside] at hboth
      obtain ⟨hw, payload, hspan, hunless⟩ := hboth
      have hpayload : r.payload? = some payload := by
        have hrun := hspan.ends
        rw [Record.payload?, if_pos hw, hrun]
      apply hunless.iff
      simp only [hpayload, Option.some.injEq, exists_eq_left', iff_or_self]
      rintro rfl
      trivial
  · rw [hx] at hvalue
    rw [deep_iff_of_undeclared hn]
    exact takesUnless_unclaimed hkey hy (skipValue_limit limit hvalue)

/-- So is a whole buffer. -/
theorem fields_limit (hnodup : (fields.map (·.number)).Nodup) (hframe : ClaimsByFrame claimed)
    (hclaims : ClaimsLimited schema limit fields claimed claimed') {s last : σ}
    {bytes rest : Bytes} (h : Reader.fields budget claimed unclaimed s bytes = .ok last rest)
    (t : τ) :
    (¬DeeperThan schema 2 limit fields bytes ∧
        ∃ last', Reader.fields limit claimed' unclaimed' t bytes = .ok last' []) ∨
      (DeeperThan schema 2 limit fields bytes ∧ ∃ left,
        Reader.fields limit claimed' unclaimed' t bytes = .error .recursionLimitReached left) := by
  obtain ⟨rs, rfl, hrs, hsteps⟩ := records_of_fields hframe h
  have hcuts : Cuts (rs.flatMap (·.raw)) rs := cuts_iff.2 ⟨rfl, budget, hrs⟩
  have hdeep : DeeperThan schema 2 limit fields (rs.flatMap (·.raw)) ↔
      ∃ r ∈ rs, ∃ depth, limit < depth ∧ Opens schema 2 fields r depth := by
    constructor
    · rintro ⟨rs', hcuts', hdeep⟩
      rwa [hcuts.unique hcuts']
    · intro hdeep
      exact ⟨rs, hcuts, hdeep⟩
  have hstep (r : Record) (s next : σ) (t : τ) (hr : Takes (record budget) r.raw r)
      (hnext : Takes (field budget claimed unclaimed s) r.raw next) :
      TakesUnless (∃ depth, limit < depth ∧ Opens schema 2 fields r depth)
        (field limit claimed' unclaimed' t) r.raw :=
    field_limit hnodup hframe hclaims hr hnext t
  rw [hdeep]
  rcases hsteps.unless hstep hrs t with ⟨hno, last', hlast⟩ | ⟨hyes, hfails⟩
  · have hdrain := hlast.drain
    rw [← List.flatMap_def] at hdrain
    exact .inl ⟨hno, last', hdrain⟩
  · obtain ⟨left, hleft⟩ := hfails []
    rw [List.append_nil] at hleft
    exact .inr ⟨hyes, left, hleft⟩

end Loop

end Dynamic

end ProtoPlan
