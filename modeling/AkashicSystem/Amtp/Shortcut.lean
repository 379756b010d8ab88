import AkashicSystem.Amtp.Endpoint
import AkashicSystem.Amtp.SerializerRoundTrip

/-!
# The receive shortcut

`_onRecv` hands a buffer whose first byte is zero to the primary push pipe of the
primary channel without looking at the session's state or at what is missing on
the way there.  The general path looks at both.
-/

set_option autoImplicit false

namespace AkashicSystem.Amtp.Session

open AkashicSystem.Js List

variable (s : Session)

def primaryPushTarget : Option (Ref × Ref) := do
  let ch ← s.primaryChannelHolder.recv
  let pp ← (s.channels.objs ch).primaryIncomingPushPipe
  return (ch, pp)

/-- The session is open, has a primary channel to receive on, and that channel has
a primary incoming push pipe. -/
def ShortcutReady : Prop := s.readyState = .open ∧ (primaryPushTarget s).isSome

variable (data : Buffer)

theorem deserialize_zero : Serializer.deserialize (0x0 :: data) =
      .ok (.data ⟨true, true, false, none, none, none, data⟩) := by
  have read := Serializer.deserializeDataFrame_fixed 0x0
    ⟨true, true, false, none, none, none, data⟩ rfl rfl rfl ⟨rfl, rfl, rfl⟩
    (fun value there => (not_mem_nil there).elim)
  have eq : Serializer.fixed 0x0 [] data = 0x0 :: data := rfl
  have data : (Buffer.byteAt (0x0 :: data) 0 &&& 0x80 == 0x80) = false := by
    change ((0x0 : UInt8) &&& 0x80 == 0x80) = false
    decide
  rw [Serializer.deserialize_data _ data, ← eq]
  exact congrArg (Except.map Frame.data) read

theorem onRecv_zero : onRecv (0x0 :: data) = onRecvPrimaryPush (0x0 :: data) :=
  if_pos rfl

theorem onRecvFrame_zero :
    onRecvFrame (0x0 :: data) = onDataFrame ⟨true, true, false, none, none, none, data⟩ := by
  rw [onRecvFrame, deserialize_zero]

variable (target : Ref × Ref)

def pushed (data : Buffer) : Session :=
  { s with events := s.events ++ [Event.push target.1 target.2 data] }

theorem onRecvPrimaryPush_run :
    onRecvPrimaryPush (0x0 :: data) s =
      match primaryPushTarget s with
      | none => .error .nullAccess s
      | some target => .ok () (pushed s target data) := by
  cases recv : s.primaryChannelHolder.recv with
  | none => simp [onRecvPrimaryPush, primaryPushTarget, recv]
  | some ch =>
    cases pipe : (s.channels.objs ch).primaryIncomingPushPipe with
    | none => simp [onRecvPrimaryPush, primaryPushTarget, recv, pipe]
    | some pp =>
      simp [onRecvPrimaryPush, primaryPushTarget, recv, pipe, Pipe.onPush, emit, pushed,
        Buffer.slice]

theorem onDataFrame_run :
    onDataFrame ⟨true, true, false, none, none, none, data⟩ s =
      if s.readyState = .open then
        match primaryPushTarget s with
        | none => .error (.assertion (if s.primaryChannelHolder.recv.isNone then "channel is null"
            else "incoming push pipe is null")) s
        | some target => .ok () (pushed s target data)
      else .ok () s := by
  by_cases isOpen : s.readyState = .open
  · cases recv : s.primaryChannelHolder.recv with
    | none => simp [onDataFrame, primaryPushTarget, resolveChannel, isOpen, recv]
    | some ch =>
      cases pipe : (s.channels.objs ch).primaryIncomingPushPipe with
      | none =>
        simp [onDataFrame, onChannelData, primaryPushTarget, resolveChannel,
          resolveIncomingPushPipe, isOpen, recv, pipe]
      | some pp =>
        simp [onDataFrame, onChannelData, primaryPushTarget, resolveChannel,
          resolveIncomingPushPipe, isOpen, recv, pipe, Pipe.onPush, emit, pushed]
  · simp [onDataFrame, isOpen]

theorem pushed_ne (data : Buffer) :
    pushed s target data ≠ s := by
  intro same
  have events := congrArg (fun s => s.events.length) same
  simp only [pushed, length_append, length_cons, length_nil] at events
  omega

theorem onRecv_ne_onRecvFrame
    (reaches : primaryPushTarget s = some target) (notOpen : s.readyState ≠ .open) :
    onRecv (0x0 :: data) s ≠ onRecvFrame (0x0 :: data) s := by
  rw [onRecv_zero, onRecvFrame_zero, onRecvPrimaryPush_run, onDataFrame_run, reaches,
    if_neg notOpen]
  intro same
  exact pushed_ne s target data (EStateM.Result.ok.inj same).2

theorem onRecv_ne_of_no_target
    (missing : primaryPushTarget s = none) :
    onRecv (0x0 :: data) s ≠ onRecvFrame (0x0 :: data) s := by
  rw [onRecv_zero, onRecvFrame_zero, onRecvPrimaryPush_run, onDataFrame_run, missing]
  intro same
  by_cases isOpen : s.readyState = .open
  · rw [if_pos isOpen] at same
    cases (EStateM.Result.error.inj same).1
  · rw [if_neg isOpen] at same
    cases same

/-- The shortcut and the general path have the same effect exactly when the
session is open and the primary push pipe of its primary channel is there. -/
theorem onRecv_iff_onRecvFrame (buf : Buffer) (first : buf[0]? = some 0x0) :
    onRecv buf s = onRecvFrame buf s ↔ ShortcutReady s := by
  cases buf with
  | nil => cases first
  | cons byte data =>
    obtain rfl : byte = 0x0 := Option.some.inj first
    cases reaches : primaryPushTarget s with
    | none =>
      refine ⟨fun same => absurd same (onRecv_ne_of_no_target s data reaches), fun ready => ?_⟩
      rw [ShortcutReady, reaches] at ready
      exact absurd ready.2 Bool.false_ne_true
    | some target =>
      by_cases isOpen : s.readyState = .open
      · have ready : ShortcutReady s := ⟨isOpen, by rw [reaches]; rfl⟩
        refine ⟨fun _ => ready, fun _ => ?_⟩
        rw [onRecv_zero, onRecvFrame_zero, onRecvPrimaryPush_run, onDataFrame_run,
          reaches, if_pos isOpen]
      · exact ⟨fun same => absurd same (onRecv_ne_onRecvFrame s data target reaches isOpen),
          fun ready => absurd ready.1 isOpen⟩

/-- The handshake, a primary channel and a primary push pipe on it, from a client. -/
def openedCalls : List Call :=
  [.recv [0x83, 0, 0, 0, 1, 0x41, 0x4d, 0x54, 0x50, 1, 0, 0, 0, 5],
    .recv [0x84, 0, 0, 0, 3, 0x80, 0, 0, 1],
    .recv [0x85, 0, 0, 0, 5, 0x80, 0, 0, 1, 0, 0, 0, 1]]

def openedServer : Session := openedCalls.foldl after newServer

theorem reachable_foldl (calls : List Call) (s : Session) (reached : Reachable s)
    (received : ∀ call ∈ calls, ∃ buf, call = .recv buf) : Reachable (calls.foldl after s) := by
  induction calls generalizing s with
  | nil => exact reached
  | cons call calls ih =>
    obtain ⟨buf, rfl⟩ := received call mem_cons_self
    exact ih (s.after (.recv buf)) (.call s (.recv buf) reached trivial)
      fun call there => received call (mem_cons_of_mem _ there)

theorem openedServer_reachable : Reachable openedServer := by
  refine reachable_foldl openedCalls newServer .server fun call there => ?_
  simp only [openedCalls, mem_cons, not_mem_nil, or_false] at there
  rcases there with rfl | rfl | rfl <;> exact ⟨_, rfl⟩

theorem onRecv_iff_onRecvFrame_opened :
    onRecv [0x0, 7] openedServer = onRecvFrame [0x0, 7] openedServer :=
  (onRecv_iff_onRecvFrame openedServer [0x0, 7] rfl).mpr ⟨by decide, by decide⟩

/-- A session that has begun to close still delivers through the shortcut. -/
theorem shortcut_while_closing : ¬ ∀ s : Session, Reachable s → ∀ buf : Buffer, buf[0]? = some 0x0 →
      onRecv buf s = onRecvFrame buf s := by
  intro agree
  have reached : Reachable (openedServer.after .close) :=
    .call openedServer .close openedServer_reachable trivial
  have same := agree (openedServer.after .close) reached [0x0, 7] rfl
  exact onRecv_ne_onRecvFrame (openedServer.after .close) [7] (0, 0) (by decide) (by decide) same

end AkashicSystem.Amtp.Session
