import AkashicSystem.Amtp.SerializerRoundTrip

/-!
# From one serializer to the other

What `serialize` has written fits, so `deserialize` reads it back: a session
receives the frames its peer has sent.
-/

set_option autoImplicit false

namespace AkashicSystem.Amtp

open AkashicSystem.Js AkashicSystem.Js.Buffer

def ControlFrame.IdsSmall : ControlFrame → Prop
  | .channel _ _ channelId _ => channelId ≤ 0x7fffffff
  | .pipe _ _ _ _ pipeId _ => pipeId ≤ 0x7fffffff
  | _ => True

namespace Serializer

theorem of_assert {condition : Prop} [Decidable condition] {message : String}
    (h : assert condition message = .ok ()) : condition := by
  by_contra fails
  rw [decide_eq_false fails] at h
  cases h

theorem writeUInt32BE_le {buf : Buffer} {value offset : Nat} {out : Buffer}
    (h : writeUInt32BE buf value offset = .ok out) : value ≤ 0xffffffff := by
  by_cases large : 0xffffffff < value
  · rw [writeUInt32BE, if_pos large] at h
    cases h
  · exact Nat.not_lt.mp large

variable (buf : Buffer)

theorem fitsLabel_of_appendLabel (label : String) (out : Buffer)
    (h : appendLabel buf label = .ok out) : fitsLabel label := by
  by_cases empty : label = ""
  · subst empty
    decide
  · rw [appendLabel, if_neg empty] at h
    obtain ⟨_, checked, -⟩ := bind_eq_ok.mp h
    exact of_assert checked

variable (frame : ControlFrame)

theorem fits_of_serializeControlFrame (data : Buffer)
    (assigned : ∀ type id, frame ≠ .other type id)
    (written : serializeControlFrame frame = .ok data) : frame.Fits := by
  rw [serializeControlFrame.eq_def] at written
  obtain ⟨_, positive, written⟩ := bind_eq_ok.mp written
  refine ⟨of_assert positive, ?_⟩
  cases frame with
  | accept id data =>
    obtain ⟨buf, id32, -⟩ := bind_eq_ok.mp written
    exact writeUInt32BE_le id32
  | deny id => exact writeUInt32BE_le written
  | «open» id random version identifier =>
    obtain ⟨_, identifier32, written⟩ := bind_eq_ok.mp written
    obtain ⟨_, version8, written⟩ := bind_eq_ok.mp written
    obtain ⟨_, random32, written⟩ := bind_eq_ok.mp written
    obtain ⟨buf, id32, -⟩ := bind_eq_ok.mp written
    exact ⟨writeUInt32BE_le id32, of_assert random32,
      of_assert version8,
      of_assert identifier32⟩
  | channel id primary channelId label =>
    obtain ⟨_, channel31, written⟩ := bind_eq_ok.mp written
    obtain ⟨buf, id32, written⟩ := bind_eq_ok.mp written
    obtain ⟨buf', -, written⟩ := bind_eq_ok.mp written
    exact ⟨writeUInt32BE_le id32, of_assert channel31,
      fitsLabel_of_appendLabel _ _ _ written⟩
  | pipe id primary request channelId pipeId label =>
    obtain ⟨_, channel31, written⟩ := bind_eq_ok.mp written
    obtain ⟨_, pipe31, written⟩ := bind_eq_ok.mp written
    obtain ⟨buf, id32, written⟩ := bind_eq_ok.mp written
    obtain ⟨buf', -, written⟩ := bind_eq_ok.mp written
    obtain ⟨buf'', -, written⟩ := bind_eq_ok.mp written
    exact ⟨writeUInt32BE_le id32, of_assert channel31,
      of_assert pipe31, fitsLabel_of_appendLabel _ _ _ written⟩
  | close id => exact writeUInt32BE_le written
  | closeChannel id channelId =>
    obtain ⟨_, channel31, written⟩ := bind_eq_ok.mp written
    obtain ⟨buf, id32, -⟩ := bind_eq_ok.mp written
    exact ⟨writeUInt32BE_le id32, of_assert channel31⟩
  | closePipe id request channelId pipeId =>
    obtain ⟨_, channel31, written⟩ := bind_eq_ok.mp written
    obtain ⟨_, pipe31, written⟩ := bind_eq_ok.mp written
    obtain ⟨buf, id32, -⟩ := bind_eq_ok.mp written
    exact ⟨writeUInt32BE_le id32, of_assert channel31,
      of_assert pipe31⟩
  | other type id => exact absurd rfl (assigned type id)

theorem fitsField_of_writeField (present : Bool) (header : Buffer) (value : Option Nat)
    (limit : Nat) (message : String) (offset : Nat) (out : Buffer)
    (absent : present = false → value = none)
    (written : writeField present header value limit message offset = .ok out) :
    fitsField present limit value := by
  cases present with
  | false =>
    rw [absent rfl]
    exact ⟨⟨fun h => h, fun h => h⟩, fun _ there => nomatch there⟩
  | true =>
    cases value with
    | none => cases written
    | some value =>
      obtain ⟨_, small, -⟩ := bind_eq_ok.mp written
      refine ⟨⟨fun _ => rfl, fun _ => rfl⟩, fun value' there => ?_⟩
      obtain rfl : value = value' := Option.some.inj there
      exact of_assert small

/-- A data frame that was written fits, if it has no field that its flags elide. -/
theorem fits_of_serializeDataFrame (f : DataFrame) (data : Buffer)
    (channelAbsent : f.primaryChannel = true → f.channelId = none)
    (pipeAbsent : f.primaryPipe = true → f.pipeId = none)
    (requestAbsent : f.request = false → f.requestId = none)
    (written : serializeDataFrame f = .ok data) : f.Fits := by
  obtain ⟨header, channel, written⟩ := bind_eq_ok.mp written
  obtain ⟨header', pipe, written⟩ := bind_eq_ok.mp written
  obtain ⟨header'', request, -⟩ := bind_eq_ok.mp written
  refine ⟨?_, ?_, ?_⟩
  · exact fitsField_of_writeField _ _ _ _ _ _ _
      (fun elided => channelAbsent (by simpa using elided)) channel
  · exact fitsField_of_writeField _ _ _ _ _ _ _
      (fun elided => pipeAbsent (by simpa using elided)) pipe
  · exact fitsField_of_writeField _ _ _ _ _ _ _ requestAbsent request

theorem deserialize_of_fits (frame : Frame) (data : Buffer) (fits : frame.Fits)
    (written : serialize frame = .ok data) : deserialize data = .ok frame.identifyEmpty := by
  obtain ⟨data', written', read⟩ := serialize_fits frame fits
  obtain rfl : data = data' := Except.ok.inj (written.symm.trans written')
  exact read

theorem deserialize_eq_control
    (read : deserialize buf = .ok (.control frame)) : deserializeControlFrame buf = .ok frame := by
  unfold deserialize at read
  split_ifs at read
  · obtain ⟨frame', read', same⟩ := bind_eq_ok.mp read
    cases same
    exact read'
  · obtain ⟨frame', _, same⟩ := bind_eq_ok.mp read
    cases same

theorem deserialize_eq_data (frame : DataFrame)
    (read : deserialize buf = .ok (.data frame)) : deserializeDataFrame buf = .ok frame := by
  unfold deserialize at read
  split_ifs at read
  · obtain ⟨frame', _, same⟩ := bind_eq_ok.mp read
    cases same
  · obtain ⟨frame', read', same⟩ := bind_eq_ok.mp read
    cases same
    exact read'

theorem idsSmall_of_deserialize
    (read : deserialize buf = .ok (.control frame)) : frame.IdsSmall := by
  have read := deserialize_eq_control buf frame read
  unfold deserializeControlFrame at read
  split at read
  · obtain ⟨_, _, read⟩ := bind_eq_ok.mp read
    obtain ⟨_, _, read⟩ := bind_eq_ok.mp read
    obtain ⟨_, _, read⟩ := bind_eq_ok.mp read
    cases read
    trivial
  · obtain ⟨_, _, read⟩ := bind_eq_ok.mp read
    obtain ⟨_, _, read⟩ := bind_eq_ok.mp read
    cases read
    exact low31_le _
  · obtain ⟨_, _, read⟩ := bind_eq_ok.mp read
    obtain ⟨_, _, read⟩ := bind_eq_ok.mp read
    obtain ⟨_, _, read⟩ := bind_eq_ok.mp read
    cases read
    exact low31_le _
  · obtain ⟨_, _, read⟩ := bind_eq_ok.mp read
    obtain ⟨_, _, read⟩ := bind_eq_ok.mp read
    cases read
    trivial
  · obtain ⟨_, _, read⟩ := bind_eq_ok.mp read
    obtain ⟨_, _, read⟩ := bind_eq_ok.mp read
    obtain ⟨_, _, read⟩ := bind_eq_ok.mp read
    cases read
    trivial
  · obtain ⟨_, _, read⟩ := bind_eq_ok.mp read
    cases read
    trivial
  · obtain ⟨_, _, read⟩ := bind_eq_ok.mp read
    cases read
    trivial
  · obtain ⟨_, _, read⟩ := bind_eq_ok.mp read
    split_ifs at read <;> cases read <;> trivial

theorem readUInt32BE_small (offset value : Nat)
    (read : readUInt32BE buf offset = .ok value) : value ≤ 0xffffffff := by
  unfold readUInt32BE at read
  split_ifs at read
  cases read
  exact Nat.le_of_lt_succ (wordOf_lt _ _ _ _)

theorem readField_small (present : Bool) (buf : Buffer) (offset : Nat) (field : Option Nat)
    (read : readField present buf offset = .ok field) : ∀ value ∈ field, value ≤ 0xffffffff := by
  intro value there
  unfold readField at read
  split_ifs at read
  · obtain ⟨value', word, same⟩ := bind_eq_ok.mp read
    cases same
    cases there
    exact readUInt32BE_small buf offset _ word
  · cases read
    cases there

theorem requestId_of_deserialize (frame : DataFrame)
    (read : deserialize buf = .ok (.data frame)) : frame.requestId.getD 0 ≤ 0xffffffff := by
  have read := deserialize_eq_data buf frame read
  obtain ⟨_, _, read⟩ := bind_eq_ok.mp read
  obtain ⟨_, _, read⟩ := bind_eq_ok.mp read
  obtain ⟨requestId, field, read⟩ := bind_eq_ok.mp read
  cases read
  cases requestId with
  | none => exact Nat.zero_le _
  | some value => exact readField_small _ _ _ _ field value rfl
end Serializer
end AkashicSystem.Amtp
