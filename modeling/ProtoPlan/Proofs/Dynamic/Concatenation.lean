import ProtoPlan.Proofs.Dynamic.Truncation
import ProtoPlan.Proofs.Wire.Occurrence

/-!
Merging one buffer after the other is merging both as one, if no field is required. So two
occurrences of an embedded message are one with both payloads.
-/

namespace ProtoPlan

open Wire Schema

/-- No field of the message is required. -/
def Schema.RequiresNothing (schema : Schema) (name : String) : Prop :=
  ∀ field ∈ schema.fieldsOf name, field.isRequired = false

theorem Schema.RequiresNothing.requiredCount {options : Options} {schema : Schema}
    {set : Dynamic.DecoderSet} (hset : Dynamic.DecoderSet.ofSchema options schema = .ok set)
    {name : String} (h : schema.RequiresNothing name) {plan : Plan}
    (hplan : set.planFor? name = some plan) : plan.requiredCount = 0 := by
  obtain ⟨message, hfits, -, hfields⟩ := Dynamic.DecoderSet.exists_fits hset hplan
  rw [hfits.requiredCount, Message.requiredNumbers, List.length_map, List.length_eq_zero_iff,
    List.filter_eq_nil_iff]
  intro field hf
  rw [hfields] at hf
  simp [h field hf]

namespace Dynamic

open Reader

theorem Message.set_set (m : Message) (number : Nat) (old new : Value) :
    (m.set number old).set number new = m.set number new := by
  simp only [Message.set, SortedMap.insert, SortedMap.insertEntry_insertEntry]

theorem Message.submessage_set (m : Message) (number : Nat) (inner : Message) (name : String) :
    (m.set number (.message inner)).submessage number name = inner := by
  simp [Message.submessage]

section Run

variable {budget : Nat} {nested : Nested} {plan : Plan}

/-- What a merge comes to in the end. -/
def checkSeen (plan : Plan) (state : Message × List Nat) : Except Fault Message :=
  if (List.range plan.requiredCount).all (· ∈ state.2) then .ok state.1
  else .error (.requiredFieldMissing plan.message)

/-- The outcome of a merge that goes on with a buffer after some required fields were seen. -/
def mergeFrom (budget : Nat) (nested : Nested) (plan : Plan) (state : Message × List Nat)
    (bytes : Bytes) : Except Fault Message :=
  (drain (mergeRecord budget nested plan) state).run bytes >>= checkSeen plan

theorem run_mergeByPlan (m : Message) (bytes : Bytes) :
    (mergeByPlan budget nested plan m).run bytes = mergeFrom budget nested plan (m, []) bytes := by
  rw [mergeByPlan_eq, mergeFrom]
  simp only [run, bind, EStateM.bind, Except.bind]
  cases drain (mergeRecord budget nested plan) (m, []) bytes with
  | error fault rest => rfl
  | ok state rest =>
    by_cases hall : (List.range plan.requiredCount).all (· ∈ state.2) = true
    · simp only [requireSeen, checkSeen, if_pos hall]
      rfl
    · simp only [requireSeen, checkSeen, if_neg hall]
      rfl

theorem agrees_apply_seen {S : List Nat → List Nat → Prop}
    (hS : ∀ bits seen seen', S seen seen' → S (bits ++ seen) (bits ++ seen')) (rule : Rule)
    (key : Key) (m : Message) {seen seen' : List Nat} (h : S seen seen') :
    Agrees (fun s t => s.1 = t.1 ∧ S s.2 t.2) (nested.apply rule key m seen)
      (nested.apply rule key m seen') := by
  cases rule with
  | field rule => exact (agrees_self _).map fun _ _ hm => ⟨hm, hS _ _ _ h⟩
  | map rule => exact (agrees_self _).map fun _ _ hm => ⟨hm, h⟩

/-- Of the required fields that were seen before, only those that are still to come matter. -/
theorem mergeFrom_seen {seen seen' : List Nat}
    (h : ∀ bit < plan.requiredCount, bit ∈ seen ↔ bit ∈ seen') (m : Message) (bytes : Bytes) :
    mergeFrom budget nested plan (m, seen) bytes =
      mergeFrom budget nested plan (m, seen') bytes := by
  have hdrain : Agrees
      (fun s t => s.1 = t.1 ∧ ∀ bit < plan.requiredCount, bit ∈ s.2 ↔ bit ∈ t.2)
      (drain (mergeRecord budget nested plan) (m, seen))
      (drain (mergeRecord budget nested plan) (m, seen')) := by
    refine Agrees.fields ?_ ?_ ⟨rfl, h⟩
    · rintro key ⟨m, seen⟩ ⟨_, seen'⟩ ⟨rfl, hseen⟩
      cases hrule : plan.rule? key.number with
      | none => exact .none
      | some rule =>
        refine .some (agrees_apply_seen
          (S := fun seen seen' => ∀ bit < plan.requiredCount, bit ∈ seen ↔ bit ∈ seen') ?_ rule key
          m hseen)
        intro bits seen seen' hseen bit hbit
        rw [List.mem_append, List.mem_append, hseen bit hbit]
    · rintro key ⟨m, seen⟩ ⟨_, seen'⟩ raw ⟨rfl, hseen⟩ -
      exact ⟨rfl, hseen⟩
  rw [mergeFrom, mergeFrom, run, run]
  rcases hdrain bytes with ⟨⟨m', s⟩, ⟨_, t⟩, rest, hs, ht, rfl, hst⟩ | ⟨fault, rest, rest', hs, ht⟩
  · have hall : (List.range plan.requiredCount).all (· ∈ s) =
        (List.range plan.requiredCount).all (· ∈ t) := by
      rw [Bool.eq_iff_iff, List.all_eq_true, List.all_eq_true]
      refine forall₂_congr fun bit hbit => ?_
      simpa using hst bit (List.mem_range.1 hbit)
    rw [hs, ht]
    simp only [bind, Except.bind, checkSeen, hall]
  · rw [hs, ht]

/-- A record that a rule claims counts for what the rule makes of its payload. -/
theorem mergeFrom_occurrence {number : Nat} {rule : Rule} (hrule : plan.rule? number = some rule)
    {m : Message} {seen : List Nat} {read : Bytes → Except Fault (Message × List Nat)}
    (hread : SpanReads (nested.apply rule ⟨number, .lengthDelimited⟩ m seen) read)
    {payload bytes : Bytes} (h : Occurrence number payload bytes) (rest : Bytes) :
    mergeFrom budget nested plan (m, seen) (bytes ++ rest) =
      read payload >>= fun state => mergeFrom budget nested plan state rest := by
  have hclaimed : ((plan.rule? number).map fun rule =>
      nested.apply rule ⟨number, .lengthDelimited⟩ m seen) =
        some (nested.apply rule ⟨number, .lengthDelimited⟩ m seen) := by
    rw [hrule, Option.map_some]
  have hstep : (drain (mergeRecord budget nested plan) (m, seen)).run (bytes ++ rest) =
      read payload >>= fun state => (drain (mergeRecord budget nested plan) state).run rest :=
    run_fields_occurrence hclaimed hread h rest
  rw [mergeFrom, hstep, bind_assoc]
  rfl

variable (hclaims : ClaimsByFrame fun key ((m, seen) : Message × List Nat) =>
  (plan.rule? key.number).map fun rule => nested.apply rule key m seen)
include hclaims

theorem mergeFrom_append {rs : List Record} {first : Bytes} (h : Cuts first rs)
    (state : Message × List Nat) (second : Bytes) :
    mergeFrom budget nested plan state (first ++ second) =
      (drain (mergeRecord budget nested plan) state).run first >>= fun mid =>
        mergeFrom budget nested plan mid second := by
  have happend : (drain (mergeRecord budget nested plan) state).run (first ++ second) =
      (drain (mergeRecord budget nested plan) state).run first >>= fun mid =>
        (drain (mergeRecord budget nested plan) mid).run second :=
    run_fields_append hclaims h state second
  rw [mergeFrom, happend, bind_assoc]
  rfl

end Run

namespace DecoderSet

/-- Merges a buffer into `m` with a nesting budget. -/
def mergeWithin (set : DecoderSet) (budget : Nat) (m : Message) (bytes : Bytes) :
    Except Fault Message :=
  (set.mergeWith budget (set.nested budget) m.name m).run bytes

/-- Under some budget, and merged into some message, the bytes are accepted. -/
def Accepts (set : DecoderSet) (name : String) (bytes : Bytes) : Prop :=
  ∃ budget m m', (set.mergeWith budget (set.nested budget) name m).run bytes = .ok m'

theorem name_of_mergeWith {set : DecoderSet} {budget : Nat} {nested : Nested} {name : String}
    {m : Message} : Ensures (set.mergeWith budget nested name m) fun m' => m'.name = m.name := by
  unfold mergeWith
  split
  · rename_i plan _
    have hfields : Ensures (drain (mergeRecord budget nested plan) (m, []))
        fun state => state.1.name = m.name := by
      refine ensures_fields ?_ ?_ rfl
      · rintro key ⟨mid, seen⟩ body hmid hc
        obtain ⟨rule, -, rfl⟩ := Option.map_eq_some_iff.1 hc
        exact Nested.ensures_apply (P := fun result => result.name = m.name) (fun _ => hmid)
          (fun _ _ _ => hmid) hmid key seen
      · rintro number raw ⟨mid, seen⟩ hmid
        rw [name_keepUnclaimed]
        exact hmid
    refine hfields.bind fun state hstate => ?_
    dsimp only
    split
    · exact Ensures.pure hstate
    · exact Ensures.throw _
  · exact Ensures.throw _

variable {options : Options} {schema : Schema} {set : DecoderSet}
  (hset : ofSchema options schema = .ok set)
include hset

/-- What is accepted is a sequence of records. -/
theorem cuts_of_mergeWith {budget : Nat} {name : String} {m m' : Message} {bytes : Bytes}
    (h : (set.mergeWith budget (set.nested budget) name m).run bytes = .ok m') :
    ∃ rs, Cuts bytes rs := by
  obtain ⟨rest, hmerge⟩ := run_eq_ok_iff.1 h
  obtain ⟨plan, hplan, hmerge⟩ := mergeWith_eq_ok_iff.1 hmerge
  have hframed : FramedPlan (set.nested budget) plan :=
    framedPlan_ofSchema hset hplan (set.framed_nested budget)
  obtain ⟨rs, seen, hrs, rfl, -⟩ := records_of_mergeByPlan hframed hmerge
  exact ⟨rs, budget, run_eq_ok_iff.2 ⟨[], records_flatMap hrs⟩⟩

/-- A message that requires nothing is merged from two buffers as from one. -/
theorem run_mergeWith_append {name : String} (hnothing : schema.RequiresNothing name)
    {rs : List Record} {first : Bytes} (hfirst : Cuts first rs) (budget : Nat) (m : Message)
    (second : Bytes) :
    (set.mergeWith budget (set.nested budget) name m).run (first ++ second) =
      (set.mergeWith budget (set.nested budget) name m).run first >>= fun mid =>
        (set.mergeWith budget (set.nested budget) name mid).run second := by
  cases hplan : set.planFor? name with
  | none =>
    unfold mergeWith
    rw [hplan]
    rfl
  | some plan =>
    have hcount := hnothing.requiredCount hset hplan
    have hcheck (state : Message × List Nat) : checkSeen plan state = .ok state.1 := by
      simp [checkSeen, hcount]
    have hforget (state : Message × List Nat) (bytes : Bytes) :
        mergeFrom budget (set.nested budget) plan (state.1, []) bytes =
          mergeFrom budget (set.nested budget) plan state bytes := by
      apply mergeFrom_seen
      intro bit hbit
      omega
    simp only [mergeWith_eq hplan, run_mergeByPlan]
    rw [mergeFrom_append (claimsByFrame_ofSchema hset hplan budget) hfirst, mergeFrom, bind_assoc]
    congr 1
    funext state
    rw [hcheck, ← hforget state]
    rfl

/-- So is an embedded one. -/
theorem runNested_append {name : String} (hnothing : schema.RequiresNothing name)
    {rs : List Record} {first : Bytes} (hfirst : Cuts first rs) (budget : Nat) (m : Message)
    (second : Bytes) :
    runNested budget (fun budget => set.mergeWith budget (set.nested budget) name m)
        (first ++ second) =
      runNested budget (fun budget => set.mergeWith budget (set.nested budget) name m) first >>=
        fun mid => runNested budget
          (fun budget => set.mergeWith budget (set.nested budget) name mid) second := by
  cases budget with
  | zero => rfl
  | succ budget => exact run_mergeWith_append hset hnothing hfirst budget m second

omit hset

/-- One occurrence of a single message field, by a rule that fits it. -/
theorem mergeFrom_submessage {type : String} {plan : Plan} {field : Field} {bit : Option Nat}
    {rule : Rule} (hrule : plan.rule? field.number = some rule) (hfits : Rule.Fits field bit rule)
    (hin : field.isInline = true) (hone : field.oneof? = none) (hkind : field.kind = .message type)
    {payload bytes : Bytes} (h : Occurrence field.number payload bytes) (budget : Nat)
    (m : Message) (seen : List Nat) (rest : Bytes) :
    mergeFrom budget (set.nested budget) plan (m, seen) (bytes ++ rest) =
      runNested budget (fun budget => set.mergeWith budget (set.nested budget) (trimDots type)
        (m.submessage field.number (trimDots type))) payload >>= fun inner =>
          mergeFrom budget (set.nested budget) plan
            (m.set field.number (.message inner), bit.toList ++ seen) rest := by
  have happly := (set.nested budget).apply_eq hfits (Field.cardinality_ne_map hin)
    ⟨field.number, .lengthDelimited⟩ m seen
  rw [Nested.mergeField_merge hin hone hkind, expect, if_pos rfl, nested_message] at happly
  simp only [bind_assoc, pure_bind] at happly
  have hread := (spanReads_nested budget fun budget => set.mergeWith budget (set.nested budget)
    (trimDots type) (m.submessage field.number (trimDots type))).map
    (f := fun inner => (m.set field.number (.message inner), bit.toList ++ seen))
  rw [← happly] at hread
  rw [mergeFrom_occurrence hrule hread h rest, bind_map_left]

/-- One occurrence of a map field, by a rule that fits it. -/
theorem mergeFrom_entry {plan : Plan} {field key value : Field} {bit : Option Nat}
    {rule : Rule} (hrule : plan.rule? field.number = some rule) (hfits : Rule.Fits field bit rule)
    (hc : field.cardinality = .map key value)
    {payload bytes : Bytes} (h : Occurrence field.number payload bytes) (budget : Nat)
    (m : Message) (seen : List Nat) (rest : Bytes) :
    mergeFrom budget (set.nested budget) plan (m, seen) (bytes ++ rest) =
      runNested budget (fun budget => (set.nested budget).mergeEntry budget field.name key.kind
        value.kind (Value.zeroOf key.kind, Value.zeroOf value.kind)) payload >>= fun entry =>
          mergeFrom budget (set.nested budget) plan (m.putEntry field.number entry, seen) rest := by
  have happly := set.apply_map_eq hfits hc budget ⟨field.number, .lengthDelimited⟩ m seen
  rw [expect, if_pos rfl] at happly
  simp only [bind_assoc, pure_bind] at happly
  have hread := (spanReads_nested budget fun budget => (set.nested budget).mergeEntry budget
    field.name key.kind value.kind (Value.zeroOf key.kind, Value.zeroOf value.kind)).map
    (f := fun entry => (m.putEntry field.number entry, seen))
  rw [← happly] at hread
  rw [mergeFrom_occurrence hrule hread h rest, bind_map_left]

/-- The value of an entry stays a message. -/
theorem ensures_mergeEntry (budget : Nat) (name : String) (keyKind : Kind) (type : String)
    (k : Value) (e : Message) :
    Ensures ((set.nested budget).mergeEntry budget name keyKind (.message type) (k, .message e))
      fun entry => ∃ e', entry.2 = .message e' := by
  refine ensures_fields ?_ (fun _ _ _ h => h) ⟨e, rfl⟩
  rintro key ⟨k, _⟩ body ⟨e, rfl⟩ hc
  unfold Nested.claimSide at hc
  split at hc
  · cases hc
    exact Ensures.map fun _ => ⟨e, rfl⟩
  · cases hc
    have hside : Ensures ((set.nested budget).mergeSide key (name ++ ".value") (.message type)
        (.message e)) fun value => ∃ e', value = .message e' := by
      exact (Ensures.map fun e' => ⟨e', rfl⟩).expect
    exact hside.bind fun value hvalue => Ensures.pure hvalue
  · cases hc

/-- One occurrence of the value of an entry. -/
theorem run_mergeEntry_value {payload bytes : Bytes} (h : Occurrence 2 payload bytes)
    (budget : Nat) (name : String) (keyKind : Kind) (type : String) (k : Value) (e : Message)
    (rest : Bytes) :
    ((set.nested budget).mergeEntry budget name keyKind (.message type) (k, .message e)).run
        (bytes ++ rest) =
      runNested budget (fun budget => set.mergeWith budget (set.nested budget) (trimDots type) e)
        payload >>= fun inner =>
          ((set.nested budget).mergeEntry budget name keyKind (.message type)
            (k, .message inner)).run rest := by
  have hclaimed : (set.nested budget).claimSide name keyKind (.message type)
      ⟨2, .lengthDelimited⟩ (k, .message e) = some (do
        let inner ← Reader.nested budget fun budget =>
          set.mergeWith budget (set.nested budget) (trimDots type) e
        return (k, .message inner)) := by
    simp only [Nested.claimSide, Nested.mergeSide, expect, Kind.wireType, if_pos, nested_message,
      bind_assoc, pure_bind]
  unfold Nested.mergeEntry
  rw [run_fields_occurrence hclaimed (spanReads_nested budget _).map h rest, bind_map_left]

theorem run_mergeEntry_append {before : Bytes} {rs : List Record} (hbefore : Cuts before rs)
    (budget : Nat) (name : String) (keyKind valueKind : Kind) (entry : Value × Value)
    (rest : Bytes) :
    ((set.nested budget).mergeEntry budget name keyKind valueKind entry).run (before ++ rest) =
      ((set.nested budget).mergeEntry budget name keyKind valueKind entry).run before >>=
        fun mid => ((set.nested budget).mergeEntry budget name keyKind valueKind mid).run rest :=
  run_fields_append (set.claimsByFrame_claimSide budget name keyKind valueKind) hbefore entry rest

include hset

/-- In the payload of an entry two occurrences of the value are one with both payloads. -/
theorem run_mergeEntry_join {type : String} (hnothing : schema.RequiresNothing (trimDots type))
    {p q first second joined before : Bytes} {rs rs' : List Record} (hp : Cuts p rs)
    (hfirst : Occurrence 2 p first) (hsecond : Occurrence 2 q second)
    (hjoined : Occurrence 2 (p ++ q) joined) (hbefore : Cuts before rs') (after : Bytes)
    (budget : Nat) (name : String) (keyKind : Kind) (k : Value) (e : Message) :
    ((set.nested budget).mergeEntry budget name keyKind (.message type) (k, .message e)).run
        (before ++ (first ++ (second ++ after))) =
      ((set.nested budget).mergeEntry budget name keyKind (.message type) (k, .message e)).run
        (before ++ (joined ++ after)) := by
  rw [run_mergeEntry_append hbefore, run_mergeEntry_append hbefore]
  cases hrun : ((set.nested budget).mergeEntry budget name keyKind (.message type)
      (k, .message e)).run before with
  | error fault => rfl
  | ok entry =>
    obtain ⟨rest, hentry⟩ := run_eq_ok_iff.1 hrun
    obtain ⟨k', v⟩ := entry
    obtain ⟨e', hv⟩ := ensures_mergeEntry budget name keyKind type k e hentry
    dsimp only at hv
    subst hv
    simp only [bind, Except.bind]
    rw [run_mergeEntry_value hfirst, run_mergeEntry_value hjoined,
      runNested_append hset hnothing hp, bind_assoc]
    congr 1
    funext inner
    rw [run_mergeEntry_value hsecond]

/-- What two buffers do after the same records, on the field that they begin with. -/
theorem run_mergeWith_after {name : String} {field : Field} (hf : field ∈ schema.fieldsOf name)
    {before bytes bytes' : Bytes} {rs : List Record} (hbefore : Cuts before rs) {budget : Nat}
    (h : ∀ plan rule bit, plan.rule? field.number = some rule → Rule.Fits field bit rule →
      ∀ m seen, mergeFrom budget (set.nested budget) plan (m, seen) bytes =
        mergeFrom budget (set.nested budget) plan (m, seen) bytes') (m : Message) :
    (set.mergeWith budget (set.nested budget) name m).run (before ++ bytes) =
      (set.mergeWith budget (set.nested budget) name m).run (before ++ bytes') := by
  cases hplan : set.planFor? name with
  | none =>
    unfold mergeWith
    rw [hplan]
    rfl
  | some plan =>
    obtain ⟨message, hfits, -, hfields⟩ := exists_fits hset hplan
    rw [← hfields] at hf
    obtain ⟨rule, hrule, hrulefits⟩ := hfits.rule field hf
    have hclaims := claimsByFrame_ofSchema hset hplan budget
    simp only [mergeWith_eq hplan, run_mergeByPlan]
    rw [mergeFrom_append hclaims hbefore, mergeFrom_append hclaims hbefore]
    congr 1
    funext ⟨mid, seen⟩
    exact h plan rule _ hrule hrulefits mid seen

/-- In a buffer two occurrences of a single message field are one with both payloads. -/
theorem run_mergeWith_join {name type : String} {field : Field} (hf : field ∈ schema.fieldsOf name)
    (hin : field.isInline = true) (hone : field.oneof? = none) (hkind : field.kind = .message type)
    (hnothing : schema.RequiresNothing (trimDots type))
    {p q first second joined before : Bytes} {rs rs' : List Record} (hp : Cuts p rs)
    (hfirst : Occurrence field.number p first) (hsecond : Occurrence field.number q second)
    (hjoined : Occurrence field.number (p ++ q) joined) (hbefore : Cuts before rs')
    (after : Bytes) (budget : Nat) (m : Message) :
    (set.mergeWith budget (set.nested budget) name m).run (before ++ (first ++ (second ++ after))) =
      (set.mergeWith budget (set.nested budget) name m).run (before ++ (joined ++ after)) := by
  refine run_mergeWith_after hset hf hbefore ?_ m
  intro plan rule bit hrule hfits m seen
  rw [mergeFrom_submessage hrule hfits hin hone hkind hfirst,
    mergeFrom_submessage hrule hfits hin hone hkind hjoined,
    runNested_append hset hnothing hp, bind_assoc]
  congr 1
  funext inner
  rw [mergeFrom_submessage hrule hfits hin hone hkind hsecond, Message.submessage_set]
  congr 1
  funext both
  rw [Message.set_set]
  apply mergeFrom_seen
  intro bit _
  simp

/-- Entries with payloads of one outcome may stand for each other. -/
theorem run_mergeWith_entry {name : String} {field key value : Field}
    (hf : field ∈ schema.fieldsOf name) (hc : field.cardinality = .map key value)
    {payload payload' bytes bytes' before : Bytes} {rs : List Record}
    (hsame : ∀ budget, ((set.nested budget).mergeEntry budget field.name key.kind value.kind
        (Value.zeroOf key.kind, Value.zeroOf value.kind)).run payload =
      ((set.nested budget).mergeEntry budget field.name key.kind value.kind
        (Value.zeroOf key.kind, Value.zeroOf value.kind)).run payload')
    (h : Occurrence field.number payload bytes) (h' : Occurrence field.number payload' bytes')
    (hbefore : Cuts before rs) (after : Bytes) (budget : Nat) (m : Message) :
    (set.mergeWith budget (set.nested budget) name m).run (before ++ (bytes ++ after)) =
      (set.mergeWith budget (set.nested budget) name m).run (before ++ (bytes' ++ after)) := by
  refine run_mergeWith_after hset hf hbefore ?_ m
  intro plan rule bit hrule hfits m seen
  rw [mergeFrom_entry hrule hfits hc h, mergeFrom_entry hrule hfits hc h']
  cases budget with
  | zero => rfl
  | succ budget =>
    simp only [runNested]
    rw [hsame budget]

end DecoderSet

/-- Merging is a homomorphism from buffers. A message that requires nothing is merged from two
buffers as from one; two records of an embedded message, or of the value of a map entry, are merged
as one with both payloads. -/
theorem merge_append {options : Options} {schema : Schema} {set : DecoderSet}
    (hset : DecoderSet.ofSchema options schema = .ok set) :
    (∀ budget m, schema.RequiresNothing m.name → ∀ first m',
      set.mergeWithin budget m first = .ok m' → ∀ second,
        set.mergeWithin budget m (first ++ second) = set.mergeWithin budget m' second) ∧
    (∀ budget m, ∀ field ∈ schema.fieldsOf m.name, field.isInline = true → field.oneof? = none →
      ∀ type, field.kind = .message type → schema.RequiresNothing (trimDots type) →
      ∀ p q first second joined, set.Accepts (trimDots type) p →
      Occurrence field.number p first → Occurrence field.number q second →
      Occurrence field.number (p ++ q) joined →
      ∀ before rs, Cuts before rs → ∀ after,
        set.mergeWithin budget m (before ++ (first ++ (second ++ after))) =
          set.mergeWithin budget m (before ++ (joined ++ after))) ∧
    (∀ budget m, ∀ field ∈ schema.fieldsOf m.name, ∀ key value,
      field.cardinality = .map key value →
      ∀ type, value.kind = .message type → schema.RequiresNothing (trimDots type) →
      ∀ p q first second joined, set.Accepts (trimDots type) p →
      Occurrence 2 p first → Occurrence 2 q second → Occurrence 2 (p ++ q) joined →
      ∀ inside rs, Cuts inside rs → ∀ rest bytes bytes',
      Occurrence field.number (inside ++ (first ++ (second ++ rest))) bytes →
      Occurrence field.number (inside ++ (joined ++ rest)) bytes' →
      ∀ before rs', Cuts before rs' → ∀ after,
        set.mergeWithin budget m (before ++ (bytes ++ after)) =
          set.mergeWithin budget m (before ++ (bytes' ++ after))) ∧
    ∀ (α : Type) (type : MessageType α), WellKnown.IsNative type → ∀ budget t first t',
      (type.merge budget t).run first = .ok t' → ∀ second,
        (type.merge budget t).run (first ++ second) = (type.merge budget t').run second := by
  refine ⟨?_, ?_, ?_, ?_⟩
  · intro budget m hnothing first m' hfirst second
    obtain ⟨rs, hcuts⟩ := DecoderSet.cuts_of_mergeWith hset hfirst
    obtain ⟨rest, hmerge⟩ := run_eq_ok_iff.1 hfirst
    have hname : m'.name = m.name := DecoderSet.name_of_mergeWith hmerge
    have happend := DecoderSet.run_mergeWith_append hset hnothing hcuts budget m second
    unfold DecoderSet.mergeWithin at hfirst ⊢
    rw [happend, hfirst, hname]
    rfl
  · intro budget m field hf hin hone type hkind hnothing p q first second joined hp hfirst hsecond
      hjoined before rs hbefore after
    obtain ⟨budget', e, e', hp⟩ := hp
    obtain ⟨rs', hcuts⟩ := DecoderSet.cuts_of_mergeWith hset hp
    exact DecoderSet.run_mergeWith_join hset hf hin hone hkind hnothing hcuts hfirst hsecond hjoined
      hbefore after budget m
  · intro budget m field hf key value hc type hkind hnothing p q first second joined hp hfirst
      hsecond hjoined inside rs hinside rest bytes bytes' h h' before rs' hbefore after
    obtain ⟨budget', e, e', hp⟩ := hp
    obtain ⟨rs', hcuts⟩ := DecoderSet.cuts_of_mergeWith hset hp
    refine DecoderSet.run_mergeWith_entry hset hf hc ?_ h h' hbefore after budget m
    intro budget
    rw [hkind, Value.zeroOf]
    exact DecoderSet.run_mergeEntry_join hset hnothing hcuts hfirst hsecond hjoined hinside rest
      budget field.name key.kind _ _
  · intro α type hnative budget t first t' hfirst second
    exact hnative.byFields.run_append hfirst second

/-- One field of an embedded message after the other, and both in one record. -/
theorem merge_append_submessage :
    let schema : Schema :=
      { messages := [{ name := "M", fields := [.singular "n" 1 (.message "N")] },
                     { name := "N", fields := [.singular "a" 1 (.scalar .int32),
                                               .singular "b" 2 (.scalar .int32)] }] }
    ∃ set m, DecoderSet.ofSchema {} schema = .ok set ∧ set.decode "N" [8, 1] = .ok m ∧
      set.merge (Message.ofName "M") [0x0a, 2, 8, 1, 0x0a, 2, 0x10, 2] =
        set.merge (Message.ofName "M") [0x0a, 4, 8, 1, 0x10, 2] := by
  intro schema
  have hrun : ((DecoderSet.ofSchema {} schema).toOption.bind fun set =>
      (set.decode "N" [8, 1]).toOption).isSome = true := by
    rw [DecoderSet.ofSchema_eq, Schema.plans_eq rfl]
    decide +kernel
  obtain ⟨set, m, hset, hm⟩ := exists_ok_ok_of_isSome hrun
  have hkey : Takes key [0x0a] ⟨1, .lengthDelimited⟩ := fun rest => rfl
  have hfirst : Occurrence 1 [8, 1] [0x0a, 2, 8, 1] :=
    ⟨[0x0a], [2, 8, 1], rfl, hkey, fun rest => rfl⟩
  have hsecond : Occurrence 1 [0x10, 2] [0x0a, 2, 0x10, 2] :=
    ⟨[0x0a], [2, 0x10, 2], rfl, hkey, fun rest => rfl⟩
  have hjoined : Occurrence 1 [8, 1, 0x10, 2] [0x0a, 4, 8, 1, 0x10, 2] :=
    ⟨[0x0a], [4, 8, 1, 0x10, 2], rfl, hkey, fun rest => rfl⟩
  have hnothing : schema.RequiresNothing (trimDots "N") := by
    unfold Schema.RequiresNothing
    decide +kernel
  have hbefore : Cuts [] [] := cuts_iff.2 ⟨rfl, 0, by simp⟩
  refine ⟨set, m, hset, hm, ?_⟩
  exact (merge_append hset).2.1 Cursor.defaultBudget (Message.ofName "M")
    (.singular "n" 1 (.message "N")) List.mem_cons_self rfl rfl "N" rfl hnothing [8, 1]
    [0x10, 2] _ _ _ ⟨_, _, m, hm⟩ hfirst hsecond hjoined [] [] hbefore []

end Dynamic

end ProtoPlan
