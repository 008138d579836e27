import ProtoPlan.Proofs.Wire.Agrees
import ProtoPlan.Proofs.Wire.Truncation

/-!
Values go by their frames. A reader of a field either refuses the value before it reads anything, or
takes what the wire type frames, and from there on no byte past the frame matters: not to the value
that is read, and not to the fault if none can be made of the frame.
-/

namespace ProtoPlan.Wire.Reader

/-- `body` fails on `value` with that fault, whatever follows. -/
def Fails (body : Reader α) (value : Bytes) (fault : Fault) : Prop :=
  ∀ rest, ∃ left, body (value ++ rest) = .error fault left

/-- On `value` the reader succeeds or fails, and whatever follows does not change that. -/
def Settles (body : Reader α) (value : Bytes) : Prop :=
  (∃ a, Takes body value a) ∨ ∃ fault, Fails body value fault

theorem Fails.throw (fault : Fault) (value : Bytes) : Fails (throw fault : Reader α) value fault :=
  fun rest => ⟨value ++ rest, rfl⟩

theorem Fails.bind_left {x : Reader α} {f : α → Reader β} {value : Bytes} {fault : Fault}
    (h : Fails x value fault) : Fails (x >>= f) value fault := by
  intro rest
  obtain ⟨left, hleft⟩ := h rest
  refine ⟨left, ?_⟩
  simp only [bind, EStateM.bind, hleft]

theorem Fails.bind_right {x : Reader α} {f : α → Reader β} {first second : Bytes} {a : α}
    {fault : Fault} (hx : Takes x first a) (h : Fails (f a) second fault) :
    Fails (x >>= f) (first ++ second) fault := by
  intro rest
  obtain ⟨left, hleft⟩ := h rest
  refine ⟨left, ?_⟩
  rw [List.append_assoc]
  simp only [bind, EStateM.bind, hx (second ++ rest), hleft]

/-- A reader that goes by the frame of the value. -/
def ByFrame (wireType : WireType) (body : Reader α) : Prop :=
  (∃ fault, body = throw fault) ∨
    (∀ ⦃bytes fault rest⦄, skipPlain wireType bytes = .error fault rest →
      ∃ left, body bytes = .error fault left) ∧
    ∀ ⦃value⦄, Takes (skipPlain wireType) value () → Settles body value

section ByFrame

variable {wireType : WireType} {body : Reader α}

theorem ByFrame.throw (fault : Fault) : ByFrame wireType (throw fault : Reader α) :=
  .inl ⟨fault, rfl⟩

/-- A reader that succeeds and fails as skipping does. -/
theorem byFrame_of_agrees (hlocal : IsLocal body)
    (h : Agrees (fun _ _ => True) body (skipPlain wireType)) : ByFrame wireType body := by
  refine .inr ⟨?_, ?_⟩
  · intro bytes fault rest hskip
    rcases h bytes with ⟨a, _, mid, _, hskip', -⟩ | ⟨fault', left, rest', hbody, hskip'⟩
    · rw [hskip] at hskip'
      cases hskip'
    · rw [hskip] at hskip'
      cases hskip'
      exact ⟨left, hbody⟩
  · intro value hvalue
    have hskip := hvalue.ends
    rcases h value with ⟨a, _, rest, hbody, hskip', -⟩ | ⟨fault, left, rest, -, hskip'⟩
    · rw [hskip] at hskip'
      cases hskip'
      exact .inl ⟨a, hlocal.takes hbody⟩
    · rw [hskip] at hskip'
      cases hskip'

/-- What is made of the value once it was read needs no more bytes. -/
theorem ByFrame.bind {f : α → Reader β} (h : ByFrame wireType body)
    (hf : ∀ a, (∃ b, f a = pure b) ∨ ∃ fault, f a = MonadExcept.throw fault) :
    ByFrame wireType (body >>= f) := by
  rcases h with ⟨fault, rfl⟩ | ⟨hunframed, hframed⟩
  · exact .throw fault
  · refine .inr ⟨?_, ?_⟩
    · intro bytes fault rest hskip
      obtain ⟨left, hleft⟩ := hunframed hskip
      refine ⟨left, ?_⟩
      simp only [Bind.bind, EStateM.bind, hleft]
    · intro value hvalue
      rcases hframed hvalue with ⟨a, ha⟩ | ⟨fault, hfails⟩
      · rcases hf a with ⟨b, hb⟩ | ⟨fault, hfault⟩
        · exact .inl ⟨b, ha.map (by rw [hb]; exact Takes.pure b)⟩
        · have hfails := Fails.bind_right (f := f) ha (by rw [hfault]; exact Fails.throw fault [])
          rw [List.append_nil] at hfails
          exact .inr ⟨fault, hfails⟩
      · exact .inr ⟨fault, hfails.bind_left⟩

theorem ByFrame.map {f : α → β} (h : ByFrame wireType body) :
    ByFrame wireType (body >>= fun a => pure (f a)) :=
  h.bind fun a => .inl ⟨f a, rfl⟩

theorem ByFrame.expect {key : Key} {field : String} (h : ByFrame wireType body) :
    ByFrame key.wireType (expect key wireType field body) := by
  unfold Reader.expect
  split
  · rename_i hw
    rw [hw]
    exact h
  · exact .throw _

theorem byFrame_varint : ByFrame .varint varint := by
  apply byFrame_of_agrees isLocal_varint
  change Agrees _ varint skipVarint
  rw [skipVarint_eq]
  intro bytes
  simp only [bind, EStateM.bind]
  cases varint bytes with
  | ok value rest => exact .inl ⟨value, (), rest, rfl, rfl, trivial⟩
  | error fault rest => exact .inr ⟨fault, rest, rest, rfl, rfl⟩

theorem agrees_take (count : Nat) : Agrees (fun _ _ => True) (take count) (skipBytes count) := by
  intro bytes
  simp only [skipBytes, bind, EStateM.bind]
  cases take count bytes with
  | ok taken rest => exact .inl ⟨taken, (), rest, rfl, rfl, trivial⟩
  | error fault rest => exact .inr ⟨fault, rest, rest, rfl, rfl⟩

theorem byFrame_span : ByFrame .lengthDelimited span := by
  apply byFrame_of_agrees isLocal_span
  intro bytes
  simp only [span, skipPlain, bind, EStateM.bind]
  cases length bytes with
  | ok count mid => exact agrees_take count mid
  | error fault rest => exact .inr ⟨fault, rest, rest, rfl, rfl⟩

theorem byFrame_take64 : ByFrame .fixed64 (take 8) :=
  byFrame_of_agrees (isLocal_take 8) (agrees_take 8)

theorem byFrame_take32 : ByFrame .fixed32 (take 4) :=
  byFrame_of_agrees (isLocal_take 4) (agrees_take 4)

theorem byFrame_int32 : ByFrame .varint int32 := byFrame_varint.map

theorem byFrame_int64 : ByFrame .varint int64 := byFrame_varint.map

theorem byFrame_uint32 : ByFrame .varint uint32 := byFrame_varint.map

theorem byFrame_sint32 : ByFrame .varint sint32 := byFrame_varint.map

theorem byFrame_sint64 : ByFrame .varint sint64 := byFrame_varint.map

theorem byFrame_bool : ByFrame .varint bool := byFrame_varint.map

theorem byFrame_fixed32 : ByFrame .fixed32 fixed32 := byFrame_take32.map

theorem byFrame_fixed64 : ByFrame .fixed64 fixed64 := byFrame_take64.map

theorem byFrame_sfixed32 : ByFrame .fixed32 sfixed32 := byFrame_fixed32.map

theorem byFrame_sfixed64 : ByFrame .fixed64 sfixed64 := byFrame_fixed64.map

theorem byFrame_scalar (kind : Scalar) : ByFrame kind.wireType kind.read := by
  rcases scalar_read_eq kind with ⟨hw, f, hf⟩ | ⟨hw, f, hf⟩ | ⟨hw, f, hf⟩
  · rw [hw, hf]
    exact byFrame_varint.map
  · rw [hw, hf]
    exact byFrame_take64.map
  · rw [hw, hf]
    exact byFrame_take32.map

theorem byFrame_text (field : String) : ByFrame .lengthDelimited (text field) := by
  apply byFrame_span.bind
  intro bytes
  split
  · exact .inl ⟨_, rfl⟩
  · exact .inr ⟨_, rfl⟩

/-- Whatever is read inside a span, with success or without, the span is what it goes by. -/
theorem byFrame_delimited (body : Reader α) : ByFrame .lengthDelimited (delimited body) := by
  apply byFrame_span.bind
  intro span
  cases hbody : body span with
  | ok a rest => exact .inl ⟨a, by funext bytes; simp only [within, hbody]; rfl⟩
  | error fault rest => exact .inr ⟨fault, by funext bytes; simp only [within, hbody]; rfl⟩

/-- A value is taken as its frame is. -/
theorem ByFrame.takes_skipPlain (h : ByFrame wireType body) {bytes rest : Bytes} {a : α}
    (hbody : body bytes = .ok a rest) :
    ∃ value, bytes = value ++ rest ∧ Takes (skipPlain wireType) value () ∧
      Takes body value a := by
  rcases h with ⟨fault, rfl⟩ | ⟨hunframed, hframed⟩
  · cases hbody
  · cases hskip : skipPlain wireType bytes with
    | error fault mid =>
      obtain ⟨left, hleft⟩ := hunframed hskip
      rw [hbody] at hleft
      cases hleft
    | ok _ mid =>
      obtain ⟨value, rfl, hvalue⟩ := isLocal_skipPlain wireType hskip
      rcases hframed hvalue with ⟨b, hb⟩ | ⟨fault, hfails⟩
      · rw [hb mid] at hbody
        cases hbody
        exact ⟨value, rfl, hvalue, hb⟩
      · obtain ⟨left, hleft⟩ := hfails mid
        rw [hbody] at hleft
        cases hleft

theorem ByFrame.framed (h : ByFrame wireType body) : Framed wireType body := by
  constructor
  · intro bytes a rest hbody
    obtain ⟨value, hbytes, -, htaken⟩ := h.takes_skipPlain hbody
    exact ⟨value, hbytes, htaken⟩
  · intro bytes a rest hbody
    obtain ⟨value, rfl, hvalue, -⟩ := h.takes_skipPlain hbody
    exact hvalue rest

theorem ByFrame.breaks (h : ByFrame wireType body) : Breaks body := by
  intro taken a ha part more hparts hmore
  have hskip : Takes (skipPlain wireType) taken () := by
    have hrun := ha []
    obtain ⟨value, hvalue, hskip, -⟩ := h.takes_skipPlain hrun
    rw [List.append_nil, List.append_nil] at hvalue
    rwa [hvalue]
  obtain ⟨rest, hbreak⟩ := breaks_skipPlain wireType hskip hparts hmore
  rcases h with ⟨fault, rfl⟩ | ⟨hunframed, -⟩
  · cases ha []
  · exact hunframed hbreak

/-- A record as it was skipped settles its reader, also where no value was framed: a group can be no
value of a field. -/
theorem ByFrame.settles (h : ByFrame wireType body) {budget : Nat} {value : Bytes}
    (hvalue : Takes (skipValue budget wireType) value ()) : Settles body value := by
  rcases h with ⟨fault, rfl⟩ | ⟨hunframed, hframed⟩
  · exact .inr ⟨fault, Fails.throw fault value⟩
  · cases wireType
    case startGroup => exact .inr ⟨.unexpectedEndOfGroup, fun rest => hunframed rfl⟩
    all_goals exact hframed hvalue

end ByFrame

end ProtoPlan.Wire.Reader
