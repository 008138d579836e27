import ProtoPlan.Proofs.Dynamic.Accounting
import ProtoPlan.Proofs.Dynamic.Holding
import ProtoPlan.Proofs.Dynamic.Typing

/-!
The shape of messages. However many buffers were merged, each field that is there is declared and
holds what its rule makes: a list, a map or a single value, of what the rule reads, and messages
that are of the type the rule names and well shaped themselves. So no rule ever finds a value that
it would have to drop.
-/

namespace ProtoPlan.Dynamic

open Wire Schema Reader

mutual

/-- As a message of that name, all that is there is declared by the plan of the name and has the
shape of its rule. -/
inductive WellShaped (set : DecoderSet) : String → Message → Prop where
  | intro {name : String} {m : Message} (named : m.name = name)
      (declared : ∀ number, (m.fields.get? number).isSome = true →
        ∃ plan rule, set.planFor? name = some plan ∧ plan.rule? number = some rule)
      (shaped : ∀ number v plan rule, m.fields.get? number = some v →
        set.planFor? name = some plan → plan.rule? number = some rule → HasShape set rule v) :
      WellShaped set name m

/-- What the field of a rule may hold. -/
inductive HasShape (set : DecoderSet) : Rule → Value → Prop where
  | single {rule : FieldRule} {v : Value} : rule.store ≠ .append → HasType set rule.read v →
      HasShape set (.field rule) v
  | list {rule : FieldRule} {values : List Value} : rule.store = .append →
      (∀ v ∈ values, HasType set rule.read v) → HasShape set (.field rule) (.list values)
  | map {rule : MapRule} {entries : SortedMap MapKey Value} :
      (∀ entry ∈ entries.entries, HasType set rule.key.read entry.1.toValue) →
      (∀ entry ∈ entries.entries, HasType set rule.value.read entry.2) →
      HasShape set (.map rule) (.map entries)

/-- What a read yields. -/
inductive HasType (set : DecoderSet) : Read → Value → Prop where
  | scalar {kind : Scalar} {v : ScalarValue} : kind.admits v = true →
      HasType set (.scalar kind) (.scalar v)
  | string (v : String) : HasType set .string (.text v)
  | bytes (v : Bytes) : HasType set .bytes (.bytes v)
  | message {target : MessageRef} {m : Message} : WellShaped set target.name m →
      HasType set (.message target) (.message m)

end

variable {set : DecoderSet}

section Messages

variable {name : String} {m : Message}

theorem WellShaped.named (h : WellShaped set name m) : m.name = name := by
  cases h with
  | intro named declared shaped => exact named

theorem WellShaped.declared (h : WellShaped set name m) {number : Nat}
    (hsome : (m.fields.get? number).isSome = true) :
    ∃ plan rule, set.planFor? name = some plan ∧ plan.rule? number = some rule := by
  cases h with
  | intro named declared shaped => exact declared number hsome

theorem WellShaped.shaped (h : WellShaped set name m) {number : Nat} {v : Value} {plan : Plan}
    {rule : Rule} (hv : m.fields.get? number = some v) (hplan : set.planFor? name = some plan)
    (hrule : plan.rule? number = some rule) : HasShape set rule v := by
  cases h with
  | intro named declared shaped => exact shaped number v plan rule hv hplan hrule

theorem wellShaped_ofName (set : DecoderSet) (name : String) :
    WellShaped set name (Message.ofName name) := by
  refine .intro rfl ?_ ?_
  · intro number hsome
    cases hsome
  · intro number v plan rule hv
    cases hv

/-- Only the name and the fields count. -/
theorem WellShaped.congr (h : WellShaped set name m) {m' : Message} (hname : m'.name = m.name)
    (hfields : m'.fields = m.fields) : WellShaped set name m' := by
  refine .intro (hname.trans h.named) ?_ ?_
  · intro number hsome
    rw [hfields] at hsome
    exact h.declared hsome
  · intro number v plan rule hv hplan hrule
    rw [hfields] at hv
    exact h.shaped hv hplan hrule

theorem hasType_zero (read : Read) : HasType set read (Value.zero read) := by
  cases read with
  | scalar kind => cases kind <;> exact .scalar rfl
  | string => exact .string ""
  | bytes => exact .bytes []
  | message target => exact .message (wellShaped_ofName set target.name)

/-- A value that makes a key is the value of the key. -/
theorem Value.toValue_toKey? {v : Value} {key : MapKey} (h : v.toKey? = some key) :
    key.toValue = v := by
  unfold toKey? at h
  split at h <;> cases h <;> rfl

end Messages

section Held

variable {held : Option Value}

theorem HasShape.listOf {rule : FieldRule} (happend : rule.store = .append)
    (h : ∀ v, held = some v → HasShape set (.field rule) v) :
    ∀ v ∈ Value.listOf held, HasType set rule.read v := by
  unfold Value.listOf
  split
  · rename_i values
    cases h _ rfl with
    | single hstore => exact absurd happend hstore
    | list _ hvalues => exact hvalues
  · intro v hv
    cases hv

theorem HasShape.messageOf {rule : FieldRule} {target : MessageRef}
    (hread : rule.read = .message target) (h : ∀ v, held = some v → HasShape set (.field rule) v) :
    WellShaped set target.name (Value.messageOf target.name held) := by
  unfold Value.messageOf
  split
  · rename_i m
    cases h _ rfl with
    | single _ htype =>
      rw [hread] at htype
      cases htype with
      | message hm => exact hm
  · exact wellShaped_ofName set target.name

theorem HasShape.mapOf {rule : MapRule} (h : ∀ v, held = some v → HasShape set (.map rule) v) :
    HasShape set (.map rule) (.map (Value.mapOf held)) := by
  unfold Value.mapOf
  split
  · exact h _ rfl
  · exact .map (fun _ hentry => absurd hentry List.not_mem_nil)
      fun _ hentry => absurd hentry List.not_mem_nil

/-- A map with one entry more. -/
theorem HasShape.insert {rule : MapRule} {entries : SortedMap MapKey Value}
    (h : HasShape set (.map rule) (.map entries)) {key : MapKey} {v : Value}
    (hkey : HasType set rule.key.read key.toValue) (hv : HasType set rule.value.read v) :
    HasShape set (.map rule) (.map (entries.insert key v)) := by
  cases h with
  | map hkeys hvalues =>
    refine .map ?_ ?_
    · intro entry hentry
      rcases SortedMap.mem_insertEntry hentry with rfl | hentry
      · exact hkey
      · exact hkeys entry hentry
    · intro entry hentry
      rcases SortedMap.mem_insertEntry hentry with rfl | hentry
      · exact hv
      · exact hvalues entry hentry

/-- A field that is put in keeps the message well shaped, whether or not its oneof gives up another
member. -/
theorem WellShaped.hold {name : String} {m : Message} (h : WellShaped set name m) {plan : Plan}
    (hplan : set.planFor? name = some plan) {number : Nat} {rule : Rule}
    (hrule : plan.rule? number = some rule) (hheld : ∀ v, held = some v → HasShape set rule v) :
    WellShaped set name (m.hold rule held) := by
  obtain rfl : rule.number = number := by simpa using List.find?_some hrule
  cases held with
  | none => exact h
  | some v =>
    have hfield (other : Nat) (v' : Value)
        (hv' : (m.hold rule (some v)).fields.get? other = some v') :
        (other = rule.number ∧ v' = v) ∨ m.fields.get? other = some v' := by
      rw [Message.hold, Message.get?_place] at hv'
      split at hv'
      · rename_i heq
        exact .inl ⟨heq, (Option.some.inj hv').symm⟩
      · split at hv'
        · cases hv'
        · exact .inr hv'
    refine .intro ?_ ?_ ?_
    · exact (Message.name_place ..).trans h.named
    · intro other hsome
      obtain ⟨v', hv'⟩ := Option.isSome_iff_exists.1 hsome
      rcases hfield other v' hv' with ⟨rfl, -⟩ | hm
      · exact ⟨plan, rule, hplan, hrule⟩
      · exact h.declared (by rw [hm]; rfl)
    · intro other v' plan' rule' hv' hplan' hrule'
      rcases hfield other v' hv' with ⟨rfl, rfl⟩ | hm
      · rw [hplan] at hplan'
        cases hplan'
        rw [hrule] at hrule'
        cases hrule'
        exact hheld _ rfl
      · exact h.shaped hm hplan' hrule'

end Held

/-- What embedded messages and map entries are read to is well shaped. -/
structure Nested.Shapes (set : DecoderSet) (nested : Nested) : Prop where
  message : ∀ name m, WellShaped set name m →
    Ensures (nested.message name m) (WellShaped set name)
  entry : ∀ rule, Ensures (nested.entry rule) fun entry =>
    HasType set rule.key.read entry.1 ∧ HasType set rule.value.read entry.2

theorem ensures_scalar (kind : Scalar) : Ensures kind.read fun v => kind.admits v = true := by
  cases kind <;> exact Ensures.map fun _ => rfl

theorem ensures_elements {read : Reader α} {P : α → Prop} (h : Ensures read P) {list : List α}
    (hlist : ∀ a ∈ list, P a) : Ensures (elements read list) fun list => ∀ a ∈ list, P a := by
  refine Ensures.drain (fun list hlist => h.bind fun a ha => Ensures.pure ?_) hlist
  intro b hb
  rcases List.mem_append.1 hb with hb | hb
  · exact hlist b hb
  · rw [List.mem_singleton.1 hb]
    exact ha

namespace Nested.Shapes

variable {nested : Nested} (h : nested.Shapes set)
include h

theorem value (field : String) (read : Read) :
    Ensures (nested.value field read) (HasType set read) := by
  cases read with
  | scalar kind => exact (ensures_scalar kind).bind fun v hv => Ensures.pure (.scalar hv)
  | string => exact Ensures.map fun v => .string v
  | bytes => exact Ensures.map fun v => .bytes v
  | message target =>
    exact (h.message _ _ (wellShaped_ofName set target.name)).bind fun m hm =>
      Ensures.pure (.message hm)

theorem nextSingle {rule : FieldRule} {held : Option Value}
    (hheld : ∀ v, held = some v → HasShape set (.field rule) v) :
    Ensures (nested.nextSingle rule held) (HasShape set (.field rule)) := by
  unfold Nested.nextSingle
  split
  · rename_i hstore
    refine (h.value rule.name rule.read).bind fun v hv => Ensures.pure (.list hstore ?_)
    intro v' hv'
    rcases List.mem_append.1 hv' with hv' | hv'
    · exact HasShape.listOf hstore hheld v' hv'
    · rw [List.mem_singleton.1 hv']
      exact hv
  · rename_i boxed target hstore hread
    refine (h.message _ _ (HasShape.messageOf hread hheld)).bind fun m hm => Ensures.pure ?_
    refine .single (by simp [hstore]) ?_
    rw [hread]
    exact .message hm
  · rename_i happend _
    intro bytes v rest hv
    exact .single happend (h.value rule.name rule.read hv)

/-- A record makes of what a field of that shape holds what is of that shape again. -/
theorem next {rule : Rule} {field : Field} {bit : Option Nat} (hfits : Rule.Fits field bit rule)
    (key : Key) {held : Option Value} (hheld : ∀ v, held = some v → HasShape set rule v) :
    Ensures (nested.next rule key held) fun v => ∀ v', v = some v' → HasShape set rule v' := by
  have hsome {rule : Rule} {v : Value} (hv : HasShape set rule v) :
      ∀ v', some v = some v' → HasShape set rule v' := by
    intro v' heq
    cases heq
    exact hv
  cases hfits with
  | @field rule hfits =>
    unfold Nested.next
    dsimp only
    split
    · rename_i hblock
      obtain ⟨hstore, -⟩ := hfits.packed.1 (Bool.and_eq_true_iff.1 hblock).1
      refine Ensures.delimited ?_
      refine (ensures_elements (h.value rule.name rule.read)
        (HasShape.listOf hstore hheld)).bind fun values hvalues => Ensures.pure ?_
      exact hsome (.list hstore hvalues)
    · exact ((h.nextSingle hheld).bind fun v hv => Ensures.pure (hsome hv)).expect
  | @map rule =>
    unfold Nested.next
    refine ((h.entry rule).bind fun entry hentry => Ensures.pure ?_).expect
    intro v hv
    obtain ⟨key, hkey, rfl⟩ := Option.map_eq_some_iff.1 hv
    refine (HasShape.mapOf hheld).insert ?_ hentry.2
    rw [Value.toValue_toKey? hkey]
    exact hentry.1

/-- One side of an entry, merged into what the entry holds already. -/
theorem side (key : Key) (side : EntrySide) (field : String) {slot : Value}
    (hslot : HasType set side.read slot) :
    Ensures (nested.side key side field slot) (HasType set side.read) := by
  unfold Nested.side
  apply Ensures.expect
  split
  · rename_i target m hread
    rw [hread] at hslot ⊢
    cases hslot with
    | message hm =>
      exact (h.message _ _ hm).bind fun m hm => Ensures.pure (.message hm)
  · exact h.value field side.read

theorem entryFields (budget : Nat) (rule : MapRule) :
    Ensures (nested.entryFields budget rule) fun entry =>
      HasType set rule.key.read entry.1 ∧ HasType set rule.value.read entry.2 := by
  apply ensures_fields
  · intro key entry body hentry hc
    dsimp only at hc
    split at hc
    · cases hc
      exact (h.side key rule.key _ hentry.1).bind fun v hv => Ensures.pure ⟨hv, hentry.2⟩
    · cases hc
      exact (h.side key rule.value _ hentry.2).bind fun v hv => Ensures.pure ⟨hentry.1, hv⟩
    · cases hc
  · intro number raw entry hentry
    exact hentry
  · exact ⟨hasType_zero rule.key.read, hasType_zero rule.value.read⟩

end Nested.Shapes

section Run

variable {options : Options} {schema : Schema}
  (hset : DecoderSet.ofSchema options schema = .ok set) {name : String} {plan : Plan}
  (hplan : set.planFor? name = some plan)
include hset hplan

/-- What is done with a record keeps the message well shaped. -/
theorem ensures_claimed {nested : Nested} (hnested : nested.Shapes set) {number : Nat} {rule : Rule}
    (hrule : plan.rule? number = some rule) (key : Key) {m : Message} (seen : List Nat)
    (hm : WellShaped set name m) :
    Ensures (nested.apply rule key m seen) fun result => WellShaped set name result.1 := by
  obtain ⟨message, hfits, -⟩ := DecoderSet.exists_fits hset hplan
  obtain ⟨field, -, -, hfits'⟩ := hfits.of_rule? hrule
  obtain rfl : rule.number = number := by simpa using List.find?_some hrule
  rw [Nested.apply_eq_next hfits']
  refine (hnested.next hfits' key fun v hv => hm.shaped hv hplan hrule).bind fun v hv =>
    Ensures.pure ?_
  exact hm.hold hplan hrule hv

theorem ensures_mergeRecord {budget : Nat} {nested : Nested} (hnested : nested.Shapes set)
    {m : Message} (seen : List Nat) (hm : WellShaped set name m) :
    Ensures (mergeRecord budget nested plan (m, seen)) fun result =>
      WellShaped set name result.1 := by
  refine ensures_field (P := fun state : Message × List Nat => WellShaped set name state.1) ?_ ?_ hm
  · intro key state body hstate hc
    obtain ⟨rule, hrule, rfl⟩ := Option.map_eq_some_iff.1 hc
    exact ensures_claimed hset hplan hnested hrule key state.2 hstate
  · intro number raw state hstate
    exact hstate.congr (by simp) (by simp)

end Run

section Merge

variable {options : Options} {schema : Schema}
  (hset : DecoderSet.ofSchema options schema = .ok set)
include hset

theorem ensures_mergeWith {budget : Nat} {nested : Nested} (hnested : nested.Shapes set)
    {name : String} {m : Message} (hm : WellShaped set name m) :
    Ensures (set.mergeWith budget nested name m) (WellShaped set name) := by
  unfold DecoderSet.mergeWith
  split
  · rename_i plan hplan
    intro bytes m' rest hmerge
    obtain ⟨seen, hdrain, -⟩ := mergeByPlan_eq_ok_iff.1 hmerge
    have hrun : Ensures (drain (mergeRecord budget nested plan) (m, [])) fun result =>
        WellShaped set name result.1 :=
      Ensures.drain (fun state hstate => ensures_mergeRecord hset hplan hnested state.2 hstate) hm
    exact hrun hdrain
  · exact Ensures.throw _

/-- At every depth embedded messages and map entries come out well shaped. -/
theorem shapes_nested (budget : Nat) : (set.nested budget).Shapes set := by
  induction budget with
  | zero => exact ⟨fun _ _ _ => Ensures.throw _, fun _ => Ensures.throw _⟩
  | succ budget ih =>
    refine ⟨fun name m hm => ?_, fun rule => ?_⟩
    · exact (ensures_mergeWith hset ih hm).delimited
    · exact (ih.entryFields budget rule).delimited

theorem wellShaped_merge {name : String} {m m' : Message} {bytes : Bytes}
    (hm : WellShaped set name m) (h : set.merge m bytes = .ok m') : WellShaped set name m' := by
  obtain ⟨rest, hmerge⟩ := run_eq_ok_iff.1 h
  rw [hm.named] at hmerge
  exact ensures_mergeWith hset (shapes_nested hset _) hm hmerge

theorem wellShaped_foldlM {name : String} {buffers : List Bytes} {m m' : Message}
    (hm : WellShaped set name m) (h : buffers.foldlM set.merge m = .ok m') :
    WellShaped set name m' := by
  induction buffers generalizing m with
  | nil =>
    cases h
    exact hm
  | cons bytes buffers ih =>
    rw [List.foldlM_cons] at h
    obtain ⟨next, hnext, h⟩ := except_bind_eq_ok_iff.1 h
    exact ih (wellShaped_merge hset hm hnext) h

end Merge

/-- The messages that decoding has at hand, at whatever depth and whether or not it succeeds in the
end: new ones, what a record makes of one, and those that a field of one gives out to be merged
into. -/
inductive AtHand (set : DecoderSet) : String → Message → Prop where
  | start (name : String) : AtHand set name (Message.ofName name)
  | record {name : String} {m m' : Message} {plan : Plan} {budget : Nat} {seen seen' : List Nat}
      {bytes rest : Bytes} : AtHand set name m → set.planFor? name = some plan →
      mergeRecord budget (set.nested budget) plan (m, seen) bytes = .ok (m', seen') rest →
      AtHand set name m'
  | embedded {name : String} {m : Message} {plan : Plan} {rule : FieldRule} {boxed : Bool}
      {target : MessageRef} : AtHand set name m → set.planFor? name = some plan →
      plan.rule? rule.number = some (.field rule) → rule.store = .merge boxed →
      rule.read = .message target →
      AtHand set target.name (m.submessage rule.number target.name)

/-- What the rules of the plan take out of the message to put it in again with more: nothing at all,
or just what the field holds. -/
structure TakesWhole (plan : Plan) (m : Message) : Prop where
  list : ∀ rule : FieldRule, plan.rule? rule.number = some (.field rule) → rule.store = .append →
    m.fields.get? rule.number = none ∨
      m.fields.get? rule.number = some (.list (m.list rule.number))
  map : ∀ rule : MapRule, plan.rule? rule.number = some (.map rule) →
    m.fields.get? rule.number = none ∨
      m.fields.get? rule.number = some (.map (m.map rule.number))
  message : ∀ (rule : FieldRule) boxed (target : MessageRef),
    plan.rule? rule.number = some (.field rule) → rule.store = .merge boxed →
    rule.read = .message target →
    m.fields.get? rule.number = none ∨
      m.fields.get? rule.number = some (.message (m.submessage rule.number target.name))

theorem WellShaped.takesWhole {name : String} {m : Message} {plan : Plan}
    (h : WellShaped set name m) (hplan : set.planFor? name = some plan) : TakesWhole plan m := by
  constructor
  · intro rule hrule hstore
    cases hv : m.fields.get? rule.number with
    | none => exact .inl rfl
    | some v =>
      rw [Message.list_eq hv]
      cases h.shaped hv hplan hrule with
      | single hnot => exact absurd hstore hnot
      | list => exact .inr rfl
  · intro rule hrule
    cases hv : m.fields.get? rule.number with
    | none => exact .inl rfl
    | some v =>
      rw [Message.map_eq hv]
      cases h.shaped hv hplan hrule with
      | map => exact .inr rfl
  · intro rule boxed target hrule hstore hread
    cases hv : m.fields.get? rule.number with
    | none => exact .inl rfl
    | some v =>
      rw [Message.submessage_eq hv]
      cases h.shaped hv hplan hrule with
      | single _ htype =>
        rw [hread] at htype
        cases htype with
        | message => exact .inr rfl
      | list happend => simp [hstore] at happend

theorem wellShaped_atHand {options : Options} {schema : Schema}
    (hset : DecoderSet.ofSchema options schema = .ok set) {name : String} {m : Message}
    (h : AtHand set name m) : WellShaped set name m := by
  induction h with
  | start name => exact wellShaped_ofName set name
  | record _ hplan hrecord ih =>
    exact ensures_mergeRecord hset hplan (shapes_nested hset _) _ ih hrecord
  | embedded _ hplan hrule _ hread ih =>
    rw [Message.submessage_eq rfl]
    exact HasShape.messageOf hread fun v hv => ih.shaped hv hplan hrule

/-- Messages stay well shaped over any merges, and no rule ever finds a value to drop: whatever
message decoding has at hand is well shaped, so what its rules take out of it is all that their
fields hold. -/
theorem wellShaped_of_merges {options : Options} {schema : Schema} {set : DecoderSet}
    (hset : DecoderSet.ofSchema options schema = .ok set) :
    (∀ name (buffers : List Bytes) m, buffers.foldlM set.merge (Message.ofName name) = .ok m →
      WellShaped set name m) ∧
    ∀ name m, AtHand set name m → WellShaped set name m ∧
      ∀ plan, set.planFor? name = some plan → TakesWhole plan m := by
  constructor
  · intro name buffers m h
    exact wellShaped_foldlM hset (wellShaped_ofName set name) h
  · intro name m h
    have hm := wellShaped_atHand hset h
    exact ⟨hm, fun plan hplan => hm.takesWhole hplan⟩

/-- Two buffers with a list, a map of messages and an embedded message that comes twice. -/
theorem wellShaped_of_merges_twice :
    let schema : Schema :=
      { messages := [{ name := "M", fields := [⟨"list", 1, .scalar .int32, .repeated⟩,
                                               .map "map" 2 .string (.message "N"),
                                               .singular "n" 3 (.message "N")] },
                     { name := "N", fields := [.singular "a" 1 (.scalar .int32)] }] }
    let buffers : List Bytes :=
      [[8, 5, 0x12, 3, 0x0a, 1, 0x61, 0x1a, 2, 8, 7], [0x0a, 2, 1, 2, 0x1a, 2, 8, 9]]
    ∃ set m, DecoderSet.ofSchema {} schema = .ok set ∧
      buffers.foldlM set.merge (Message.ofName "M") = .ok m ∧ WellShaped set "M" m := by
  intro schema buffers
  have hrun : ((DecoderSet.ofSchema {} schema).toOption.bind fun set =>
      (buffers.foldlM set.merge (Message.ofName "M")).toOption).isSome = true := by
    rw [DecoderSet.ofSchema_eq, Schema.plans_eq rfl]
    decide +kernel
  obtain ⟨set, m, hset, hm⟩ := exists_ok_ok_of_isSome hrun
  exact ⟨set, m, hset, hm, (wellShaped_of_merges hset).1 "M" buffers m hm⟩

end ProtoPlan.Dynamic
