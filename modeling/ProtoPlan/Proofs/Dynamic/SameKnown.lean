import ProtoPlan.Proofs.Dynamic.Holding
import ProtoPlan.Proofs.Plan.Message

/-!
Messages that are the same but for their unknown fields. Under two sets of options a message may
have its unknown fields kept or dropped, and so may each message inside it; all else that it holds
is the same.
-/

namespace ProtoPlan

open Wire Schema

/-- Whether the unknown fields of messages of the name are kept: as the options have it, and always
for those messages of `google.protobuf` of which nothing is known. -/
def Options.keepsUnknown (options : Options) (name : String) : Bool :=
  options.preserveUnknown ||
    (WellKnown.isWellKnown name && WellKnown.messages.all (·.name ≠ name))

namespace Dynamic

mutual

/-- The messages hold the same, unknown fields apart. These are the same if both options keep them,
and there are none where they are not kept. -/
inductive SameKnown (options options' : Options) : Message → Message → Prop where
  | intro {m m' : Message} (named : m'.name = m.name)
      (length : m.fields.entries.length = m'.fields.entries.length)
      (numbers : ∀ e e', (e, e') ∈ m.fields.entries.zip m'.fields.entries → e'.1 = e.1)
      (values : ∀ e e', (e, e') ∈ m.fields.entries.zip m'.fields.entries →
        SameKnownValue options options' e.2 e'.2)
      (oneofs : m'.oneofs = m.oneofs) (extensions : m'.extensions = m.extensions)
      (unknown : options.keepsUnknown m.name = true → options'.keepsUnknown m.name = true →
        m'.unknown = m.unknown)
      (dropped : options.keepsUnknown m.name = false → m.unknown = [])
      (dropped' : options'.keepsUnknown m.name = false → m'.unknown = []) :
      SameKnown options options' m m'

/-- The same for values, and for the messages in them. -/
inductive SameKnownValue (options options' : Options) : Value → Value → Prop where
  | scalar (v : ScalarValue) : SameKnownValue options options' (.scalar v) (.scalar v)
  | text (v : String) : SameKnownValue options options' (.text v) (.text v)
  | bytes (v : Bytes) : SameKnownValue options options' (.bytes v) (.bytes v)
  | message {m m' : Message} : SameKnown options options' m m' →
      SameKnownValue options options' (.message m) (.message m')
  | list {vs vs' : List Value} (length : vs.length = vs'.length)
      (values : ∀ v v', (v, v') ∈ vs.zip vs' → SameKnownValue options options' v v') :
      SameKnownValue options options' (.list vs) (.list vs')
  | map {es es' : SortedMap MapKey Value} (length : es.entries.length = es'.entries.length)
      (keys : ∀ e e', (e, e') ∈ es.entries.zip es'.entries → e'.1 = e.1)
      (values : ∀ e e', (e, e') ∈ es.entries.zip es'.entries →
        SameKnownValue options options' e.2 e'.2) :
      SameKnownValue options options' (.map es) (.map es')

end

section Equal

theorem eq_of_forall_zip {as bs : List α} (length : as.length = bs.length)
    (h : ∀ a b, (a, b) ∈ as.zip bs → b = a) : bs = as := by
  have hall : List.Forall₂ (fun a b => a = b) as bs :=
    List.forall₂_iff_zip.2 ⟨length, fun hmem => (h _ _ hmem).symm⟩
  rw [List.forall₂_eq_eq_eq] at hall
  exact hall.symm

theorem eq_of_entries {es es' : SortedMap κ ν} (h : es'.entries = es.entries) : es' = es := by
  cases es
  cases es'
  cases h
  rfl

variable {options options' : Options}

mutual

/-- If the options agree on unknown fields, nothing sets the messages apart. -/
theorem SameKnown.eq {m m' : Message}
    (hkeep : options'.preserveUnknown = options.preserveUnknown) :
    SameKnown options options' m m' → m' = m
  | .intro named length numbers values oneofs extensions unknown dropped dropped' => by
    have hfields : m'.fields.entries = m.fields.entries :=
      eq_of_forall_zip length fun e e' hmem =>
        Prod.ext (numbers e e' hmem) (SameKnownValue.eq hkeep (values e e' hmem))
    have hsame : options'.keepsUnknown m.name = options.keepsUnknown m.name := by
      rw [Options.keepsUnknown, Options.keepsUnknown, hkeep]
    have hunknown : m'.unknown = m.unknown := by
      cases hk : options.keepsUnknown m.name with
      | true => exact unknown hk (hsame.trans hk)
      | false => rw [dropped hk, dropped' (hsame.trans hk)]
    exact Message.ext_of named (eq_of_entries hfields) oneofs hunknown extensions

theorem SameKnownValue.eq {v v' : Value}
    (hkeep : options'.preserveUnknown = options.preserveUnknown) :
    SameKnownValue options options' v v' → v' = v
  | .scalar v => rfl
  | .text v => rfl
  | .bytes v => rfl
  | .message h => by rw [SameKnown.eq hkeep h]
  | .list length values => by
    rw [eq_of_forall_zip length fun v v' hmem => SameKnownValue.eq hkeep (values v v' hmem)]
  | @SameKnownValue.map _ _ es es' length keys values => by
    have hentries : es'.entries = es.entries :=
      eq_of_forall_zip length fun e e' hmem =>
        Prod.ext (keys e e' hmem) (SameKnownValue.eq hkeep (values e e' hmem))
    rw [eq_of_entries hentries]

end

end Equal

variable {options options' : Options}

/-- Under the same keys stand values that are the same but for unknown fields. -/
def SameEntries (options options' : Options) (es es' : List (κ × Value)) : Prop :=
  List.Forall₂ (fun e e' => e'.1 = e.1 ∧ SameKnownValue options options' e.2 e'.2) es es'

section Messages

variable {m m' : Message}

theorem SameKnown.named (h : SameKnown options options' m m') : m'.name = m.name := by
  cases h
  assumption

theorem SameKnown.oneofs (h : SameKnown options options' m m') : m'.oneofs = m.oneofs := by
  cases h
  assumption

theorem SameKnown.extensions (h : SameKnown options options' m m') :
    m'.extensions = m.extensions := by
  cases h
  assumption

theorem SameKnown.entries (h : SameKnown options options' m m') :
    SameEntries options options' m.fields.entries m'.fields.entries := by
  cases h with
  | intro named length numbers values =>
    exact List.forall₂_iff_zip.2 ⟨length, fun hmem => ⟨numbers _ _ hmem, values _ _ hmem⟩⟩

/-- The unknown fields of two messages of the name. -/
structure SameUnknown (options options' : Options) (name : String) (unknown unknown' : Bytes) :
    Prop where
  kept : options.keepsUnknown name = true → options'.keepsUnknown name = true →
    unknown' = unknown
  dropped : options.keepsUnknown name = false → unknown = []
  dropped' : options'.keepsUnknown name = false → unknown' = []

theorem SameKnown.unknown (h : SameKnown options options' m m') :
    SameUnknown options options' m.name m.unknown m'.unknown := by
  cases h with
  | intro named length numbers values oneofs extensions unknown dropped dropped' =>
    exact ⟨unknown, dropped, dropped'⟩

theorem SameUnknown.append {name : String} {unknown unknown' : Bytes}
    (h : SameUnknown options options' name unknown unknown') (raw : Bytes) :
    SameUnknown options options' name
      (if options.keepsUnknown name then unknown ++ raw else unknown)
      (if options'.keepsUnknown name then unknown' ++ raw else unknown') := by
  constructor
  · intro hkeep hkeep'
    rw [if_pos hkeep, if_pos hkeep', h.kept hkeep hkeep']
  · intro hdrop
    rw [hdrop, if_neg Bool.false_ne_true, h.dropped hdrop]
  · intro hdrop
    rw [hdrop, if_neg Bool.false_ne_true, h.dropped' hdrop]

/-- What is done with an unclaimed record that is no extension. -/
theorem keepUnclaimed_of_isExtension {plan : Plan} {number : Nat}
    (hext : plan.isExtension number = false) (raw : Bytes) (m : Message) :
    keepUnclaimed plan number raw m =
      { m with unknown := if plan.preserveUnknown then m.unknown ++ raw else m.unknown } := by
  unfold keepUnclaimed
  rw [hext, if_neg Bool.false_ne_true]
  split <;> rfl

theorem sameKnown_of_entries (named : m'.name = m.name)
    (entries : SameEntries options options' m.fields.entries m'.fields.entries)
    (oneofs : m'.oneofs = m.oneofs) (extensions : m'.extensions = m.extensions)
    (unknown : SameUnknown options options' m.name m.unknown m'.unknown) :
    SameKnown options options' m m' := by
  obtain ⟨hlength, hentries⟩ := List.forall₂_iff_zip.1 entries
  exact .intro named hlength (fun _ _ hmem => (hentries hmem).1)
    (fun _ _ hmem => (hentries hmem).2) oneofs extensions unknown.kept unknown.dropped
    unknown.dropped'

theorem sameKnown_ofName (options options' : Options) (name : String) :
    SameKnown options options' (Message.ofName name) (Message.ofName name) :=
  sameKnown_of_entries rfl .nil rfl rfl ⟨fun _ _ => rfl, fun _ => rfl, fun _ => rfl⟩

end Messages

section Values

theorem SameKnownValue.toKey? {v v' : Value} (h : SameKnownValue options options' v v') :
    v'.toKey? = v.toKey? := by
  cases h <;> rfl

theorem sameKnownValue_list {vs vs' : List Value}
    (h : List.Forall₂ (SameKnownValue options options') vs vs') :
    SameKnownValue options options' (.list vs) (.list vs') := by
  obtain ⟨hlength, hvalues⟩ := List.forall₂_iff_zip.1 h
  exact .list hlength fun _ _ hmem => hvalues hmem

theorem sameKnownValue_map {es es' : SortedMap MapKey Value}
    (h : SameEntries options options' es.entries es'.entries) :
    SameKnownValue options options' (.map es) (.map es') := by
  obtain ⟨hlength, hentries⟩ := List.forall₂_iff_zip.1 h
  exact .map hlength (fun _ _ hmem => (hentries hmem).1) fun _ _ hmem => (hentries hmem).2

theorem sameKnownValue_zero (read : Read) :
    SameKnownValue options options' (Value.zero read) (Value.zero read) := by
  cases read with
  | scalar kind => exact .scalar _
  | string => exact .text ""
  | bytes => exact .bytes []
  | message target => exact .message (sameKnown_ofName options options' target.name)

variable {held held' : Option Value}
  (h : Option.Rel (SameKnownValue options options') held held')
include h

theorem sameKnown_listOf :
    List.Forall₂ (SameKnownValue options options') (Value.listOf held) (Value.listOf held') := by
  cases h with
  | none => exact .nil
  | some hvalue =>
    cases hvalue with
    | list length values => exact List.forall₂_iff_zip.2 ⟨length, fun hmem => values _ _ hmem⟩
    | _ => exact .nil

theorem sameKnown_mapOf :
    SameEntries options options' (Value.mapOf held).entries (Value.mapOf held').entries := by
  cases h with
  | none => exact .nil
  | some hvalue =>
    cases hvalue with
    | map length keys values =>
      exact List.forall₂_iff_zip.2 ⟨length, fun hmem => ⟨keys _ _ hmem, values _ _ hmem⟩⟩
    | _ => exact .nil

theorem sameKnown_messageOf (name : String) :
    SameKnown options options' (Value.messageOf name held) (Value.messageOf name held') := by
  cases h with
  | none => exact sameKnown_ofName options options' name
  | some hvalue =>
    cases hvalue with
    | message hm => exact hm
    | _ => exact sameKnown_ofName options options' name

end Values

namespace SameKnown

variable {m m' : Message} (h : SameKnown options options' m m')
include h

theorem rel (number : Nat) :
    Option.Rel (SameKnownValue options options') (m.fields.get? number)
      (m'.fields.get? number) := by
  have hentries := h.entries
  unfold SortedMap.get?
  generalize m.fields.entries = es at hentries
  generalize m'.fields.entries = es' at hentries
  induction hentries with
  | nil => exact .none
  | @cons e e' es es' hfirst _ ih =>
    rw [List.find?_cons, List.find?_cons, hfirst.1]
    split
    · exact .some hfirst.2
    · exact ih

/-- A value that is put in, whether or not the oneof gives up another member. -/
theorem place {v v' : Value} (hv : SameKnownValue options options' v v')
    (oneof? : Option String) (number : Nat) :
    SameKnown options options' (m.place oneof? number v) (m'.place oneof? number v') := by
  have hunknown := h.unknown
  rw [← Message.unknown_place m number v oneof?, ← Message.unknown_place m' number v' oneof?,
    ← Message.name_place m number v oneof?] at hunknown
  refine sameKnown_of_entries (by simp [h.named]) ?_ ?_ (by simp [h.extensions]) hunknown
  · cases oneof? with
    | none => exact SortedMap.forall₂_insertEntry h.entries number hv
    | some oneof =>
      refine SortedMap.forall₂_insertEntry ?_ number hv
      rw [h.oneofs]
      cases m.oneofs.get? oneof with
      | none => exact h.entries
      | some previous =>
        refine List.rel_filter (fun e e' he => ?_) h.entries
        simp only [he.1]
  · cases oneof? with
    | none => exact h.oneofs
    | some oneof => exact congrArg (·.insert oneof number) h.oneofs

theorem hold {held held' : Option Value}
    (hheld : Option.Rel (SameKnownValue options options') held held') (rule : Rule) :
    SameKnown options options' (m.hold rule held) (m'.hold rule held') := by
  cases hheld with
  | none => exact h
  | some hv => exact h.place hv rule.oneof? rule.number

/-- A record that no rule claims: an extension under both plans, or an unknown field that each of
them keeps as its options have it. -/
theorem keepUnclaimed {plan plan' : Plan}
    (hext : plan'.extensionRanges = plan.extensionRanges)
    (hkeep : plan.preserveUnknown = options.keepsUnknown m.name)
    (hkeep' : plan'.preserveUnknown = options'.keepsUnknown m.name) (number : Nat) (raw : Bytes) :
    SameKnown options options' (keepUnclaimed plan number raw m)
      (keepUnclaimed plan' number raw m') := by
  have hsame : plan'.isExtension number = plan.isExtension number := by
    rw [Plan.isExtension, Plan.isExtension, hext]
  cases hx : plan.isExtension number with
  | true =>
    rw [hx] at hsame
    simp only [Dynamic.keepUnclaimed, hx, hsame, if_true]
    exact sameKnown_of_entries h.named h.entries h.oneofs (by rw [h.extensions]) h.unknown
  | false =>
    rw [hx] at hsame
    rw [keepUnclaimed_of_isExtension hx, keepUnclaimed_of_isExtension hsame, hkeep, hkeep']
    exact sameKnown_of_entries h.named h.entries h.oneofs h.extensions (h.unknown.append raw)

end SameKnown

end Dynamic

end ProtoPlan
