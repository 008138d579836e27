import ProtoPlan.Proofs.Dynamic.Accounting
import ProtoPlan.Proofs.Dynamic.Reading
import ProtoPlan.Proofs.Plan.WellFormed

/-!
Decoding an encoding. While the records of a well-typed message are merged, whatever their order,
each field is led from nothing to its value by those of its own number; so that after the last the
message is the one that was encoded.
-/

namespace ProtoPlan.Dynamic

open Wire Schema Reader

/-- What a number holds while its records are merged, and what it will hold after them. -/
def Nested.Pending (nested : Nested) (fields : List Field) (number : Nat) (current : Option Value)
    (records : List Bytes) (last : Option Value) : Prop :=
  (∃ field ∈ fields, field.number = number ∧ nested.Leads field current records last) ∨
    (records = [] ∧ current = last)

/-- A message on its way to `target`, with some records of `target` still to come. -/
structure Merging (nested : Nested) (message : ProtoPlan.Message) (target m : Message)
    (seen : List Nat) (records : List (Nat × Bytes)) : Prop where
  name : m.name = target.name
  sortedFields : m.fields.Sorted
  sortedOneofs : m.oneofs.Sorted
  unknown : m.unknown = []
  extensions : m.extensions = {}
  pending : ∀ number, nested.Pending message.fields number (m.fields.get? number)
    (recordsOf records number) (target.fields.get? number)
  oneof : ∀ oneof number, m.whichOneof oneof = some number ↔
    Typing.HasMember message.fields m oneof number
  seen : ∀ field ∈ message.fields, field.isRequired = true →
    (m.fields.get? field.number).isSome = true →
    (message.requiredBit? field.number).toList ⊆ seen

section Merging

variable {nested : Nested} {message : ProtoPlan.Message} {plan : Plan} {target m : Message}
  {seen : List Nat} {records : List (Nat × Bytes)}

theorem Nested.Leads.isSome {field : Field} {current last : Option Value} {pieces : List Bytes}
    (h : nested.Leads field current pieces last) (hcurrent : current.isSome = true) :
    last.isSome = true := by
  induction h with
  | done => exact hcurrent
  | more _ _ ih => exact ih rfl

theorem Nested.Pending.isSome {fields : List Field} {number : Nat} {current last : Option Value}
    {pieces : List Bytes} (h : nested.Pending fields number current pieces last)
    (hcurrent : current.isSome = true) : last.isSome = true := by
  rcases h with ⟨field, -, -, hleads⟩ | ⟨-, rfl⟩
  · exact hleads.isSome hcurrent
  · exact hcurrent

theorem Nested.Pending.eq_of_nil {fields : List Field} {number : Nat} {current last : Option Value}
    (h : nested.Pending fields number current [] last) : current = last := by
  rcases h with ⟨field, -, -, hleads⟩ | ⟨-, h⟩
  · cases hleads
    rfl
  · exact h

/-- The first record of a number takes its field a step further. -/
theorem Nested.Pending.step {fields : List Field} {number : Nat} {current last : Option Value}
    {record : Bytes} {pieces : List Bytes}
    (h : nested.Pending fields number current (record :: pieces) last) :
    ∃ field ∈ fields, field.number = number ∧ ∃ next, nested.Advances field current record next ∧
      nested.Leads field (some next) pieces last := by
  rcases h with ⟨field, hf, hnumber, hleads⟩ | ⟨hnil, -⟩
  · cases hleads with
    | more hstep hmore => exact ⟨field, hf, hnumber, _, hstep, hmore⟩
  · cases hnil

theorem Merging.member_of_whichOneof (h : Merging nested message target m seen records)
    {oneof : String} {number : Nat} (hw : m.whichOneof oneof = some number) :
    Typing.HasMember message.fields target oneof number := by
  obtain ⟨field, hf, hnumber, hone, hsome⟩ := (h.oneof oneof number).1 hw
  exact ⟨field, hf, hnumber, hone, (h.pending number).isSome hsome⟩

/-- Of the members of a oneof, only one is on its way. -/
theorem Merging.eq_of_whichOneof (h : Merging nested message target m seen records)
    (htarget : ∀ oneof number, target.whichOneof oneof = some number ↔
      Typing.HasMember message.fields target oneof number) {field : Field}
    (hf : field ∈ message.fields) (hsome : (target.fields.get? field.number).isSome = true)
    {oneof : String} (hone : field.oneof? = some oneof) {number : Nat}
    (hw : m.whichOneof oneof = some number) : number = field.number := by
  have hown := (htarget oneof field.number).2 ⟨field, hf, rfl, hone, hsome⟩
  have hother := (htarget oneof number).2 (h.member_of_whichOneof hw)
  rw [hown] at hother
  exact (Option.some.inj hother).symm

/-- Putting a value of `target` into a field leaves all other fields alone. -/
theorem Merging.get?_put (h : Merging nested message target m seen records)
    (htarget : ∀ oneof number, target.whichOneof oneof = some number ↔
      Typing.HasMember message.fields target oneof number) {field : Field}
    (hf : field ∈ message.fields) (hsome : (target.fields.get? field.number).isSome = true)
    (v : Value) (number : Nat) :
    (m.put field v).fields.get? number =
      if number = field.number then some v else m.fields.get? number := by
  unfold Message.put
  cases hone : field.oneof? with
  | none => exact Message.get?_set m field.number number v
  | some oneof =>
    rw [Message.get?_select]
    by_cases hn : number = field.number
    · rw [if_pos hn, if_pos hn]
    · rw [if_neg hn, if_neg hn, if_neg]
      exact fun hw => hn (h.eq_of_whichOneof htarget hf hsome hone hw)

/-- After a field was put in, each oneof still holds its member. -/
theorem Merging.oneof_put (hnodup : (message.fields.map (·.number)).Nodup)
    (h : Merging nested message target m seen records)
    (htarget : ∀ oneof number, target.whichOneof oneof = some number ↔
      Typing.HasMember message.fields target oneof number) {field : Field}
    (hf : field ∈ message.fields) (hsome : (target.fields.get? field.number).isSome = true)
    (v : Value) (oneof : String) (number : Nat) :
    (m.put field v).whichOneof oneof = some number ↔
      Typing.HasMember message.fields (m.put field v) oneof number := by
  have hget := h.get?_put htarget hf hsome v number
  by_cases hn : number = field.number
  · -- The number has one field, so that its oneof is the one in question or none is.
    subst hn
    have hmember : Typing.HasMember message.fields (m.put field v) oneof field.number ↔
        field.oneof? = some oneof := by
      constructor
      · rintro ⟨other, hother, hnumber, hone, -⟩
        rwa [List.inj_on_of_nodup_map hnodup hother hf hnumber] at hone
      · intro hone
        exact ⟨field, hf, rfl, hone, by simp [hget]⟩
    rw [hmember, Message.put_eq_place, Message.whichOneof_place]
    split
    · rename_i hone
      exact iff_of_true rfl hone
    · rename_i hone
      refine iff_of_false (fun hw => hone ?_) hone
      obtain ⟨other, hother, hnumber, hother', -⟩ := (h.oneof oneof field.number).1 hw
      rwa [List.inj_on_of_nodup_map hnodup hother hf hnumber] at hother'
  · -- No other number changed; only a `field` in the oneof could have taken its member out.
    have hmember : Typing.HasMember message.fields (m.put field v) oneof number ↔
        Typing.HasMember message.fields m oneof number := by
      unfold Typing.HasMember
      rw [hget, if_neg hn]
    rw [hmember, ← h.oneof, Message.put_eq_place, Message.whichOneof_place]
    split
    · rename_i hone
      constructor
      · intro heq
        exact absurd (Option.some.inj heq).symm hn
      · intro hw
        exact absurd (h.eq_of_whichOneof htarget hf hsome hone hw) hn
    · exact Iff.rfl

/-- One record takes the message a step further. -/
theorem Merging.step (hfits : Plan.Fits message plan) {number : Nat} {record : Bytes}
    (h : Merging nested message target m seen ((number, record) :: records))
    (htarget : ∀ oneof number, target.whichOneof oneof = some number ↔
      Typing.HasMember message.fields target oneof number) (budget : Nat) :
    ∃ m' seen', record ≠ [] ∧
      Takes (mergeRecord budget nested plan (m, seen)) record (m', seen') ∧
      Merging nested message target m' seen' records := by
  -- The number still has a record to come, so it is declared, and its field can go a step further.
  have hpending := h.pending number
  rw [recordsOf_cons, if_pos rfl] at hpending
  obtain ⟨field, hf, rfl, next, ⟨wireType, value, rfl, hw, happly⟩, hleads⟩ := hpending.step
  obtain ⟨rule, hrule, hrfits⟩ := hfits.rule field hf
  obtain ⟨seen', htakes, hsub, hbit⟩ := happly _ rule hrfits m seen rfl
  obtain ⟨hmin, hmax⟩ := hfits.inRange field hf
  have hsome : (target.fields.get? field.number).isSome = true := hleads.isSome rfl
  have hget := h.get?_put htarget hf hsome next
  refine ⟨m.put field next, seen', by simp [Key.encode_ne_nil], ?_, ?_⟩
  · refine (takes_key hmin hmax hw).field ?_ htakes
    simp only [hrule, Option.map_some]
  · refine
      { name := by rw [Message.put_eq_place, Message.name_place, h.name]
        sortedFields := Message.sortedFields_place _ _ _ h.sortedFields
        sortedOneofs := Message.sortedOneofs_place _ _ _ h.sortedOneofs
        unknown := by rw [Message.put_eq_place, Message.unknown_place, h.unknown]
        extensions := by rw [Message.put_eq_place, Message.extensions_place, h.extensions]
        pending := fun number => ?_
        oneof := h.oneof_put hfits.numbers htarget hf hsome next
        seen := fun other hother hreq hthere => ?_ }
    · rw [hget]
      by_cases hn : number = field.number
      · rw [if_pos hn, hn]
        exact .inl ⟨field, hf, rfl, hleads⟩
      · have hkeep := h.pending number
        rw [recordsOf_cons, if_neg (Ne.symm hn)] at hkeep
        rwa [if_neg hn]
    · rw [hget] at hthere
      by_cases hn : other.number = field.number
      · obtain rfl := List.inj_on_of_nodup_map hfits.numbers hother hf hn
        exact hbit hreq
      · rw [if_neg hn] at hthere
        exact List.Subset.trans (h.seen other hother hreq hthere) hsub

/-- All records take the message as far as it goes. -/
theorem Merging.run (hfits : Plan.Fits message plan)
    (h : Merging nested message target m seen records)
    (htarget : ∀ oneof number, target.whichOneof oneof = some number ↔
      Typing.HasMember message.fields target oneof number) (budget : Nat) :
    ∃ m' seen', Steps (mergeRecord budget nested plan) (m, seen) (records.map (·.2)) (m', seen') ∧
      Merging nested message target m' seen' [] := by
  induction records generalizing m seen with
  | nil => exact ⟨m, seen, .done _, h⟩
  | cons record records ih =>
    obtain ⟨mid, seenMid, hne, htakes, hmid⟩ := h.step hfits htarget budget
    obtain ⟨m', seen', hsteps, hlast⟩ := ih hmid
    exact ⟨m', seen', .more hne htakes hsteps, hlast⟩

/-- With no record left, the message is the one that was to be merged. -/
theorem Merging.eq_target {typing : Typing} (h : Merging nested message target m seen [])
    (htarget : typing.WellTyped message target) : m = target := by
  have hfields : m.fields = target.fields :=
    SortedMap.ext_of_get? h.sortedFields htarget.sortedFields fun number =>
      (h.pending number).eq_of_nil
  have honeofs : m.oneofs = target.oneofs := by
    refine SortedMap.ext_of_get? h.sortedOneofs htarget.sortedOneofs fun oneof => ?_
    apply Option.ext
    intro number
    have hmine := h.oneof oneof number
    have htheirs := htarget.oneof oneof number
    unfold Typing.HasMember at hmine htheirs
    rw [hfields] at hmine
    exact hmine.trans htheirs.symm
  exact Message.ext_of h.name hfields honeofs (h.unknown.trans htarget.unknown.symm)
    (h.extensions.trans htarget.extensions.symm)

end Merging

section Decode

variable {options : Options} {schema : Schema} {set : DecoderSet} {message : ProtoPlan.Message}
  {plan : Plan} {budget : Nat} {target : Message}

/-- Before the first record of an encoding, all of the message is still to come. -/
theorem merging_start (hfits : Plan.Fits message plan) (h : set.Reads schema budget)
    (htarget : (typing schema budget).WellTyped message target) {records : List (Nat × Bytes)}
    (he : ∀ number, EncodesSlot schema message.fields number (target.fields.get? number)
      (recordsOf records number)) (hlen : ∀ record ∈ records, record.2.length < 2 ^ 63) :
    Merging (set.nested budget) message target (Message.ofName message.name) [] records where
  name := htarget.name.symm
  sortedFields := SortedMap.sorted_empty
  sortedOneofs := SortedMap.sorted_empty
  unknown := rfl
  extensions := rfl
  pending := by
    intro number
    have hshort : ∀ piece ∈ recordsOf records number, piece.length < 2 ^ 63 := by
      intro piece hpiece
      obtain ⟨record, hrecord, rfl⟩ := List.mem_map.1 hpiece
      exact hlen record (List.mem_filter.1 hrecord).1
    have hslot := he number
    generalize recordsOf records number = pieces at hshort hslot
    cases hget : target.fields.get? number with
    | none =>
      rw [hget] at hslot
      cases hslot
      exact .inr ⟨rfl, rfl⟩
    | some v =>
      rw [hget] at hslot
      cases hslot with
      | present hf hencodes =>
        obtain ⟨field, hfield, hnumber, hv⟩ := htarget.field _ _ hget
        obtain rfl := List.inj_on_of_nodup_map hfits.numbers hfield hf hnumber
        exact .inl ⟨field, hf, rfl, leads_of_encodes h hv hencodes hshort⟩
  oneof := by
    intro oneof number
    refine iff_of_false (by simp [Message.whichOneof, Message.ofName]) ?_
    rintro ⟨_, -, -, -, hsome⟩
    cases hsome
  seen := by
    intro field hf hreq hsome
    cases hsome

/-- A plan decodes the encodings of well-typed messages. -/
theorem mergeByPlan_encodes (hfits : Plan.Fits message plan) (h : set.Reads schema budget)
    (hdeclared : schema.declaration? message.name = some message)
    (htarget : (typing schema budget).WellTyped message target) {bytes : Bytes}
    (he : Encodes schema message.name target bytes) (hlen : bytes.length < 2 ^ 63) :
    mergeByPlan budget (set.nested budget) plan (Message.ofName message.name) bytes =
      .ok target [] := by
  cases he with
  | of_records records hdeclared' hslots =>
    rw [hdeclared] at hdeclared'
    cases hdeclared'
    have hshort : ∀ record ∈ records, record.2.length < 2 ^ 63 := by
      intro record hrecord
      have hpart : record.2.Sublist (records.flatMap (·.2)) := by
        rw [List.flatMap_def]
        exact List.sublist_flatten_of_mem (List.mem_map_of_mem hrecord)
      have := hpart.length_le
      omega
    obtain ⟨m, seen, hsteps, hlast⟩ :=
      (merging_start hfits h htarget hslots hshort).run hfits htarget.oneof budget
    obtain rfl := hlast.eq_target htarget
    rw [mergeByPlan_eq_ok_iff, List.flatMap_def]
    refine ⟨seen, hsteps.drain, fun bit hbit => ?_⟩
    rw [hfits.requiredCount] at hbit
    -- The field of each bit is there at the end, and what is there was seen.
    obtain ⟨field, hf, hreq, hidx⟩ := Message.exists_required hfits.numbers hbit
    have hseen := hlast.seen field hf hreq (htarget.required field hf hreq)
    rw [hidx] at hseen
    exact hseen List.mem_cons_self

/-- Within any number of levels, what is well typed is read back. -/
theorem reads_ofSchema (hset : DecoderSet.ofSchema options schema = .ok set) (budget : Nat) :
    set.Reads schema budget := by
  -- Without a level left nothing is well typed; what is embedded at a level has one level less.
  induction budget with
  | zero => exact ⟨fun h => h.elim, fun h => h.elim⟩
  | succ budget ih =>
    constructor
    · rintro name m bytes ⟨message, hdeclared, hm⟩ he hlen
      obtain rfl := Schema.name_of_declaration? hdeclared
      obtain ⟨plan, hplan, hfits, -⟩ := DecoderSet.planFor?_of_declaration hset hdeclared
      have hmerge : set.mergeWith budget (set.nested budget) message.name
          (Message.ofName message.name) bytes = .ok m [] := by
        rw [DecoderSet.mergeWith, hplan]
        exact mergeByPlan_encodes hfits ih hdeclared hm he hlen
      exact (takes_span hlen).delimited hmerge
    · rintro key value entry keyBytes valueBytes _ ⟨hk, hv⟩ hkey hvalue rfl hlen name
      have hparts := hlen
      simp only [List.length_append] at hparts
      exact (takes_span hlen).delimited
        (mergeEntry_encodes ih hk hv hkey hvalue ⟨by omega, by omega⟩ name)

/-- Decoding brings back every well-typed message, within 100 levels, from each of its encodings. -/
theorem decode_encodes (hset : DecoderSet.ofSchema options schema = .ok set)
    (hm : message ∈ schema.messages) (hown : WellKnown.isWellKnown message.name = false)
    (htarget : (typing schema 100).WellTyped message target) :
    (∃ bytes, Encodes schema message.name target bytes) ∧
      ∀ bytes, Encodes schema message.name target bytes → bytes.length < 2 ^ 63 →
        set.decode message.name bytes = .ok target := by
  have hdeclared := DecoderSet.declaration?_of_mem hset hm hown
  refine ⟨exists_encodes (encodable_typing schema 100) hdeclared htarget, ?_⟩
  intro bytes he hlen
  obtain ⟨plan, hplan, hfits, -⟩ := DecoderSet.planFor?_of_declaration hset hdeclared
  have hmerge := mergeByPlan_encodes hfits (reads_ofSchema hset 100) hdeclared htarget he hlen
  exact DecoderSet.decode_eq_ok_iff.2 ⟨plan, [], hplan, hmerge⟩

end Decode

/-- A message type with a required number and a list of numbers. -/
def sampleType : ProtoPlan.Message :=
  { name := "M"
    fields := [⟨"f", 1, .scalar .sint32, .required⟩, ⟨"xs", 2, .scalar .uint32, .repeated⟩] }

def sample : Message :=
  { name := "M"
    fields := ⟨[(1, .scalar (.int32 (-1))),
      (2, .list [.scalar (.uint32 300), .scalar (.uint32 0)])]⟩ }

theorem wellTyped_sample (typing : Typing) : typing.WellTyped sampleType sample where
  name := rfl
  sortedFields := by
    unfold SortedMap.Sorted
    decide
  sortedOneofs := SortedMap.sorted_empty
  field := by
    intro number v hget
    have hmem := SortedMap.mem_of_get? hget
    simp only [sample, List.mem_cons, Prod.mk.injEq, List.not_mem_nil, or_false] at hmem
    rcases hmem with ⟨rfl, rfl⟩ | ⟨rfl, rfl⟩
    · exact ⟨_, List.mem_cons_self, rfl, .single rfl (.scalar rfl)⟩
    · refine ⟨_, List.mem_cons_of_mem _ List.mem_cons_self, rfl, .list rfl (by simp) ?_⟩
      simp only [List.mem_cons, List.not_mem_nil, or_false, forall_eq_or_imp, forall_eq]
      exact ⟨.scalar rfl, .scalar rfl⟩
  required := by
    intro field hf hreq
    simp only [sampleType, List.mem_cons, List.not_mem_nil, or_false] at hf
    rcases hf with rfl | rfl
    · rfl
    · cases hreq
  oneof := by
    intro oneof number
    refine iff_of_false (by simp [Message.whichOneof, sample]) ?_
    rintro ⟨field, hf, -, hone, -⟩
    simp only [sampleType, List.mem_cons, List.not_mem_nil, or_false] at hf
    rcases hf with rfl | rfl <;> cases hone
  unknown := rfl
  extensions := rfl

/-- The number as a zigzag varint, then the list as one block. -/
theorem encodes_sample :
    Encodes { messages := [sampleType] } "M" sample [8, 1, 18, 3, 172, 2, 0] := by
  have hnumber : [8, 1] = Key.encode ⟨1, .varint⟩ ++ Varint.encode (Varint.zigzag (-1)) := by
    decide +kernel
  have hblock : [18, 3, 172, 2, 0] = Key.encode ⟨2, .lengthDelimited⟩ ++
      spanBytes [Varint.encode 300, Varint.encode 0].flatten := by
    decide +kernel
  have hdeclared : Schema.declaration? { messages := [sampleType] } "M" = some sampleType := rfl
  refine .of_records [(1, [8, 1]), (2, [18, 3, 172, 2, 0])] hdeclared fun number => ?_
  by_cases hone : number = 1
  · subst hone
    rw [hnumber]
    exact .present List.mem_cons_self (.single rfl (.scalar rfl))
  by_cases htwo : number = 2
  · subst htwo
    rw [hblock]
    have hparts : List.Forall₂ (fun v bytes => Scalar.uint32.encode? v = some bytes)
        [.uint32 300, .uint32 0] [Varint.encode 300, Varint.encode 0] := .cons rfl (.cons rfl .nil)
    refine .present (List.mem_cons_of_mem _ List.mem_cons_self) (.list rfl ?_)
    exact .packed rfl hparts (.nil _)
  · have hrecords : recordsOf [(1, [8, 1]), (2, [18, 3, 172, 2, 0])] number = [] := by
      simp [recordsOf_cons, Ne.symm hone, Ne.symm htwo]
    have hget : sample.fields.get? number = none := by
      simp [sample, SortedMap.get?, hone, htwo]
    rw [hrecords, hget]
    exact .absent _ _

/-- The sample is read back from a packed encoding. -/
theorem decode_encodes_packed : ∃ set,
    DecoderSet.ofSchema {} { messages := [sampleType] } = .ok set ∧
      set.decode "M" [8, 1, 18, 3, 172, 2, 0] = .ok sample := by
  have hplans : (Schema.plans {} { messages := [sampleType] }).toOption.isSome = true := by
    rw [Schema.plans_eq rfl]
    decide +kernel
  obtain ⟨set, hset⟩ := DecoderSet.exists_ofSchema hplans
  have hall := decode_encodes hset List.mem_cons_self (by decide) (wellTyped_sample _)
  exact ⟨set, hset, hall.2 _ encodes_sample (by decide)⟩

end ProtoPlan.Dynamic
