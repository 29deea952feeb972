import LoraServer.Join.Frames

/-!
# A join-accept against its acknowledgement

`sendJoinAcceptResponse` hands the first candidate to the gateway backend, and only then does
`saveRemainingFrames` store the others, which the acknowledgement handler falls through to when
the gateway rejects the first. The gateway may acknowledge a frame as soon as it has it, and
`HandleDownlinkTXAcks` dispatches every acknowledgement in a goroutine of its own, so the
acknowledgement and the rest of `Handle` run in any order.

The model interleaves three parties: `Handle`, which runs the next task of `tasks`; the
gateway, which acknowledges the frames it accepted, in order; and the consumer of the
acknowledgements, which dispatches the oldest one to `ack.HandleDownlinkTXAck` together with
what the store holds at that moment. What the gateway accepted and what the store holds are
read off the successful calls of `Handle`. The pipeline of every interleaving is the loop of
`Handle` run on the tasks it has run so far (`raceRun_follows_handle`), and every acknowledgement
is for the first candidate and finds in the store either nothing or exactly the candidates after
it (`raceRun_dispatched_store_view`): the store only grows, and `Handle` stores nothing but those.
-/

namespace LoraServer.Join

variable {PHYPayload : Type}

namespace Call

/-- The frame a call handed to the gateway backend, when the backend accepted it. -/
def accepted (w : World PHYPayload) : Call → Option Gw.DownlinkFrame
  | .sendTXPacket frame =>
    match w.sendTXPacket frame with
    | .ok () => some frame
    | .error _ => none
  | _ => none

/-- The frames a call stored for a device, when the store accepted them. -/
def stored (w : World PHYPayload) : Call → Option (EUI64 × List Gw.DownlinkFrame)
  | .saveDownlinkFrames devEUI frames =>
    match w.saveDownlinkFrames devEUI frames with
    | .ok () => some (devEUI, frames)
    | .error _ => none
  | _ => none

end Call

/-- A state of the interleaving. -/
structure Race (PHYPayload : Type) where
  /-- How many tasks of `tasks` `Handle` has run. -/
  ran : Nat
  /-- The context the last task left, or the failure that ended `Handle`. -/
  jctx : Except Failure (JoinContext PHYPayload)
  /-- The calls `Handle` has made. -/
  calls : List Call
  /-- How many of the frames it accepted the gateway has acknowledged. -/
  acknowledged : Nat
  /-- The acknowledgements sent and not yet dispatched. -/
  acks : List Gw.DownlinkFrame
  /-- The acknowledgements dispatched to `ack.HandleDownlinkTXAck`, each with what the store
  held then. -/
  dispatched : List (Gw.DownlinkFrame × List (EUI64 × List Gw.DownlinkFrame))

/-- A step of one of the three parties. -/
inductive RaceEvent where
  /-- `Handle` runs its next task. -/
  | handle
  /-- The gateway acknowledges the next frame it accepted. -/
  | acknowledge
  /-- The consumer of `DownlinkTXAckChan` dispatches the oldest acknowledgement. -/
  | dispatch
  deriving DecidableEq, Repr

section Race

variable (s : NetworkSettings) (w : World PHYPayload)

/-- The step of an event, or `none` when the event cannot happen in the state. -/
def raceStep (st : Race PHYPayload) : RaceEvent → Option (Race PHYPayload)
  | .handle =>
    match (tasks s w)[st.ran]?, st.jctx with
    | some t, .ok jctx =>
      some { st with ran := st.ran + 1, jctx := (t jctx).result,
                     calls := st.calls ++ (t jctx).calls }
    | _, _ => none
  | .acknowledge =>
    match (st.calls.filterMap (Call.accepted w))[st.acknowledged]? with
    | some frame => some { st with acknowledged := st.acknowledged + 1, acks := st.acks ++ [frame] }
    | none => none
  | .dispatch =>
    match st.acks with
    | frame :: rest =>
      let stored := st.calls.filterMap (Call.stored w)
      some { st with acks := rest, dispatched := st.dispatched ++ [(frame, stored)] }
    | [] => none

/-- The state after a schedule, or `none` when one of its events cannot happen. -/
def raceRun (st : Race PHYPayload) : List RaceEvent → Option (Race PHYPayload)
  | [] => some st
  | e :: es => (raceStep s w st e).bind fun st' => raceRun st' es

end Race

/-- The state in which `Handle` is called. -/
def raceStart (ctx : Context) (ds : DeviceSession) (rxPacket : RXPacket) (phy : PHYPayload) :
    Race PHYPayload :=
  ⟨0, .ok (initialContext ctx ds rxPacket phy), [], 0, [], []⟩

section Steps

variable (s : NetworkSettings) (w : World PHYPayload) {st st' : Race PHYPayload}

/-- What a step of the interleaving can do: `Handle` runs its next task on the context the last
one left; the gateway acknowledges the next frame it accepted; the consumer dispatches the
oldest acknowledgement with what the store holds. -/
theorem raceStep_cases {e : RaceEvent} (stepped : raceStep s w st e = some st') :
    (∃ t jctx, (tasks s w)[st.ran]? = some t ∧ st.jctx = .ok jctx ∧
      st' = { st with ran := st.ran + 1, jctx := (t jctx).result,
                      calls := st.calls ++ (t jctx).calls }) ∨
    (∃ frame, (st.calls.filterMap (Call.accepted w))[st.acknowledged]? = some frame ∧
      st' = { st with acknowledged := st.acknowledged + 1, acks := st.acks ++ [frame] }) ∨
    (∃ frame rest, st.acks = frame :: rest ∧
      st' = { st with acks := rest,
                      dispatched :=
                        st.dispatched ++ [(frame, st.calls.filterMap (Call.stored w))] }) := by
  cases e <;> simp only [raceStep] at stepped <;> split at stepped <;> cases stepped
  · exact .inl ⟨_, _, ‹_›, ‹_›, rfl⟩
  · exact .inr (.inl ⟨_, ‹_›, rfl⟩)
  · exact .inr (.inr ⟨_, _, ‹_›, rfl⟩)

/-- A property every step keeps holds after every schedule. -/
theorem raceRun_preserves {P : Race PHYPayload → Prop}
    (preserved : ∀ {st st' : Race PHYPayload} {e : RaceEvent}, raceStep s w st e = some st' →
      P st → P st')
    {es : List RaceEvent} (ran : raceRun s w st es = some st') (holds : P st) : P st' := by
  induction es generalizing st with
  | nil =>
    cases ran
    exact holds
  | cons e es ih =>
    obtain ⟨middle, stepped, rest⟩ := Option.bind_eq_some.mp ran
    exact ih rest (preserved stepped holds)

end Steps

theorem Effects.calls_bind_extends {α β : Type} (x : Effects α) (f : α → Effects β) :
    x.calls <+: (x.bind f).calls := by
  unfold Effects.bind
  split
  · exact ⟨_, rfl⟩
  · exact ⟨[], List.append_nil _⟩

section Follows

variable (s : NetworkSettings) (w : World PHYPayload) {init : JoinContext PHYPayload}
  {st st' : Race PHYPayload}

/-- The pipeline of a state is the loop of `Handle` run from `init` on the tasks it has run. -/
def FollowsHandle (init : JoinContext PHYPayload) (st : Race PHYPayload) : Prop :=
  runTasks ((tasks s w).take st.ran) init = ⟨st.calls, st.jctx⟩

theorem runTasks_take_succ {k : Nat} {t : Task PHYPayload} (found : (tasks s w)[k]? = some t) :
    runTasks ((tasks s w).take (k + 1)) init = (runTasks ((tasks s w).take k) init).bind t := by
  have single : runTasks [t] = t := funext fun jctx => Effects.bind_pure (t jctx)
  rw [List.take_succ, found, Option.toList_some, runTasks_append, single]

theorem raceStep_follows {e : RaceEvent} (stepped : raceStep s w st e = some st')
    (follows : FollowsHandle s w init st) : FollowsHandle s w init st' := by
  rcases raceStep_cases s w stepped with ⟨t, jctx, found, current, rfl⟩ | ⟨_, _, rfl⟩ |
    ⟨_, _, _, rfl⟩
  · unfold FollowsHandle at *
    rw [runTasks_take_succ s w found, follows, current]
    rfl
  · exact follows
  · exact follows

end Follows

theorem Call.accepted_eq_some {w : World PHYPayload} {call : Call} {frame : Gw.DownlinkFrame} :
    call.accepted w = some frame ↔ call = .sendTXPacket frame ∧ w.sendTXPacket frame = .ok () := by
  cases call with
  | sendTXPacket sent =>
    simp only [Call.accepted, Call.sendTXPacket.injEq]
    constructor
    · intro accepted
      split at accepted
      · rename_i sending
        cases accepted
        exact ⟨rfl, sending⟩
      · cases accepted
    · rintro ⟨rfl, sending⟩
      rw [sending]
  | _ => simp [Call.accepted]

section Acks

variable (s : NetworkSettings) (w : World PHYPayload) {st st' : Race PHYPayload}

/-- The gateway acknowledges the frames it accepted in order, each once: the acknowledgements
dispatched, then those still in the channel, are the first frames it accepted. -/
structure AcksInOrder (st : Race PHYPayload) : Prop where
  bounded : st.acknowledged ≤ (st.calls.filterMap (Call.accepted w)).length
  inOrder : st.dispatched.map Prod.fst ++ st.acks =
    (st.calls.filterMap (Call.accepted w)).take st.acknowledged

theorem raceStep_acksInOrder {e : RaceEvent} (stepped : raceStep s w st e = some st')
    (inOrder : AcksInOrder w st) : AcksInOrder w st' := by
  obtain ⟨bounded, acks⟩ := inOrder
  rcases raceStep_cases s w stepped with ⟨t, jctx, -, -, rfl⟩ | ⟨frame, found, rfl⟩ |
    ⟨frame, rest, pending, rfl⟩
  · refine ⟨?_, ?_⟩ <;> simp only [List.filterMap_append]
    · exact bounded.trans (by simp)
    · rw [List.take_append_of_le_length bounded]
      exact acks
  · refine ⟨(List.getElem?_eq_some.mp found).1, ?_⟩
    simp only [List.take_succ, found, Option.toList_some, ← acks, List.append_assoc]
  · refine ⟨bounded, ?_⟩
    simp only [List.map_append, List.map_cons, List.map_nil, List.append_assoc,
      List.singleton_append, ← pending, acks]

/-- Every acknowledgement was dispatched with a view of the store that the store still extends:
the pipeline only adds calls. -/
def ViewsExtend (st : Race PHYPayload) : Prop :=
  ∀ acked ∈ st.dispatched, acked.2 <+: st.calls.filterMap (Call.stored w)

theorem raceStep_viewsExtend {e : RaceEvent} (stepped : raceStep s w st e = some st')
    (views : ViewsExtend w st) : ViewsExtend w st' := by
  rcases raceStep_cases s w stepped with ⟨t, jctx, -, -, rfl⟩ | ⟨frame, -, rfl⟩ |
    ⟨frame, rest, -, rfl⟩
  · intro acked mem
    simpa only [List.filterMap_append] using (views acked mem).trans (List.prefix_append _ _)
  · exact views
  · intro acked mem
    rcases List.mem_append.mp mem with mem | mem
    · exact views acked mem
    · obtain rfl := List.mem_singleton.mp mem
      exact List.prefix_refl _

end Acks

section Store

variable (s : NetworkSettings) (w : World PHYPayload) {ctx : Context} {ds : DeviceSession}
  {rxPacket : RXPacket} {phy : PHYPayload}

@[simp]
theorem logDownlinkFrame_filterMap_stored {devEUI : EUI64} {frame : Gw.DownlinkFrame} :
    (logDownlinkFrame w devEUI frame).filterMap (Call.stored w) = [] :=
  List.filterMap_eq_nil_iff.mpr fun c mem => by
    have isLog := logDownlinkFrame_isLog w c mem
    cases c <;> simp_all [Call.isLog, Call.stored]

/-- What `Handle` leaves in the store once it handed a frame to the gateway backend: that frame
was the first candidate, and the store holds nothing, or the candidates after it for the device
when there are any and the store accepted them. -/
theorem handle_sent_stored {frame : Gw.DownlinkFrame}
    (sent : Call.sendTXPacket frame ∈ (handle s w ctx ds rxPacket phy).calls) :
    ∃ reached rest, prepare s w (initialContext ctx ds rxPacket phy) = .ok reached ∧
      reached.downlinkFrames = frame :: rest ∧
      ((handle s w ctx ds rxPacket phy).calls.filterMap (Call.stored w) = [] ∨
        rest ≠ [] ∧ w.saveDownlinkFrames ds.devEUI rest = .ok () ∧
        (handle s w ctx ds rxPacket phy).calls.filterMap (Call.stored w) =
          [(ds.devEUI, rest)]) := by
  rcases @handle_cases _ s w ctx ds rxPacket phy with
    ⟨f, prepared, run⟩ | ⟨reached, prepared, frames, run⟩ |
    ⟨reached, first, rest, err, prepared, frames, -, run⟩ |
    ⟨reached, first, prepared, frames, -, run⟩ |
    ⟨reached, first, next, rest, prepared, frames, -, run⟩ <;> rw [run] at sent ⊢
  · cases sent
  · cases sent
  · obtain rfl : frame = first := by simpa using sent
    exact ⟨reached, rest, prepared, frames, .inl (by simp [Call.stored])⟩
  · obtain rfl : frame = first := by simpa [sendTXPacket_not_mem_logDownlinkFrame w] using sent
    exact ⟨reached, [], prepared, frames, .inl (by simp [Call.stored])⟩
  · obtain rfl : frame = first := by simpa [sendTXPacket_not_mem_logDownlinkFrame w] using sent
    refine ⟨reached, next :: rest, prepared, frames, ?_⟩
    cases saved : w.saveDownlinkFrames ds.devEUI (next :: rest) with
    | error err => exact .inl (by simp [Call.stored, saved])
    | ok u => exact .inr ⟨List.cons_ne_nil _ _, rfl, by simp [Call.stored, saved]⟩

end Store

section Dispatch

variable (s : NetworkSettings) (w : World PHYPayload) {ctx : Context} {ds : DeviceSession}
  {rxPacket : RXPacket} {phy : PHYPayload}

/-- The calls of the first tasks are the first calls of all of them. -/
theorem runTasks_take_calls (k : Nat) (init : JoinContext PHYPayload) :
    (runTasks ((tasks s w).take k) init).calls <+: (runTasks (tasks s w) init).calls :=
  calc (runTasks ((tasks s w).take k) init).calls
      <+: ((runTasks ((tasks s w).take k) init).bind (runTasks ((tasks s w).drop k))).calls :=
        Effects.calls_bind_extends _ _
    _ = (runTasks (tasks s w) init).calls := by rw [← runTasks_append, List.take_append_drop]

/-- Over every schedule, the pipeline of the interleaving is the loop of `Handle` on the tasks
it has run, whatever the gateway and the consumer of acknowledgements did meanwhile; once it has
run them all, its calls and its outcome are those of `Handle`. -/
theorem raceRun_follows_handle {schedule : List RaceEvent} {st : Race PHYPayload}
    (ran : raceRun s w (raceStart ctx ds rxPacket phy) schedule = some st) :
    runTasks ((tasks s w).take st.ran) (initialContext ctx ds rxPacket phy) = ⟨st.calls, st.jctx⟩ ∧
      ((tasks s w).length ≤ st.ran →
        handle s w ctx ds rxPacket phy = ⟨st.calls, st.jctx.map fun _ => ()⟩) := by
  have follows : FollowsHandle s w (initialContext ctx ds rxPacket phy) st :=
    raceRun_preserves s w (raceStep_follows s w) ran rfl
  refine ⟨follows, fun all => ?_⟩
  unfold FollowsHandle at follows
  rw [List.take_of_length_le all] at follows
  rw [handle, follows]
  rfl

/-- What an acknowledgement was dispatched with: a frame that `Handle` handed to the gateway
backend and the backend accepted, and a view of the store that the store as `Handle` leaves it
extends. -/
theorem raceRun_dispatched_sent {schedule : List RaceEvent} {st : Race PHYPayload}
    (ran : raceRun s w (raceStart ctx ds rxPacket phy) schedule = some st) :
    ∀ acked ∈ st.dispatched,
      Call.sendTXPacket acked.1 ∈ (handle s w ctx ds rxPacket phy).calls ∧
        w.sendTXPacket acked.1 = .ok () ∧
        acked.2 <+: (handle s w ctx ds rxPacket phy).calls.filterMap (Call.stored w) := by
  intro acked mem
  have inOrder : AcksInOrder w st :=
    raceRun_preserves s w (raceStep_acksInOrder s w) ran ⟨Nat.zero_le _, rfl⟩
  have follows : FollowsHandle s w (initialContext ctx ds rxPacket phy) st :=
    raceRun_preserves s w (raceStep_follows s w) ran rfl
  have views : ViewsExtend w st := raceRun_preserves s w (raceStep_viewsExtend s w) ran nofun
  have earlier : st.calls <+: (handle s w ctx ds rxPacket phy).calls := by
    have taken := runTasks_take_calls s w st.ran (initialContext ctx ds rxPacket phy)
    rwa [follows] at taken
  have accepted : acked.1 ∈ st.calls.filterMap (Call.accepted w) :=
    List.mem_of_mem_take (inOrder.inOrder ▸ List.mem_append_left _ (List.mem_map_of_mem _ mem))
  obtain ⟨call, called, acceptedCall⟩ := List.mem_filterMap.mp accepted
  obtain ⟨rfl, sending⟩ := Call.accepted_eq_some.mp acceptedCall
  exact ⟨earlier.subset called, sending, (views acked mem).trans (earlier.filterMap _)⟩

/-- Every acknowledgement dispatched is for the first candidate of the join-accept, which the
gateway backend accepted. -/
theorem raceRun_dispatched_first_candidate {schedule : List RaceEvent} {st : Race PHYPayload}
    (ran : raceRun s w (raceStart ctx ds rxPacket phy) schedule = some st) :
    ∀ acked ∈ st.dispatched, w.sendTXPacket acked.1 = .ok () ∧
      ∃ reached, prepare s w (initialContext ctx ds rxPacket phy) = .ok reached ∧
        reached.downlinkFrames.head? = some acked.1 := by
  intro acked mem
  obtain ⟨handled, sending, -⟩ := raceRun_dispatched_sent s w ran acked mem
  exact ⟨sending, (handle_sendTXPacket_first s w).2 _ handled⟩

/-- Whatever the interleaving, the acknowledgement of the join-accept's first candidate is
dispatched with one of two views of the store: nothing, or exactly the candidates after it, for
the device, once the store accepted them from `saveRemainingFrames`. -/
theorem raceRun_dispatched_store_view {schedule : List RaceEvent} {st : Race PHYPayload}
    (ran : raceRun s w (raceStart ctx ds rxPacket phy) schedule = some st) :
    ∀ acked ∈ st.dispatched, ∃ reached rest,
      prepare s w (initialContext ctx ds rxPacket phy) = .ok reached ∧
      reached.downlinkFrames = acked.1 :: rest ∧
      (acked.2 = [] ∨
        rest ≠ [] ∧ w.saveDownlinkFrames ds.devEUI rest = .ok () ∧
          acked.2 = [(ds.devEUI, rest)]) := by
  intro acked mem
  obtain ⟨handled, -, view⟩ := raceRun_dispatched_sent s w ran acked mem
  obtain ⟨reached, rest, prepared, frames, stored⟩ := handle_sent_stored s w handled
  refine ⟨reached, rest, prepared, frames, ?_⟩
  rcases stored with nothing | ⟨more, saved, stored⟩
  · rw [nothing] at view
    exact .inl (List.prefix_nil.mp view)
  · rw [stored, List.prefix_cons_iff] at view
    rcases view with empty | ⟨t, viewed, nothingElse⟩
    · exact .inl empty
    · exact .inr ⟨more, saved, by rw [viewed, List.prefix_nil.mp nothingElse]⟩

end Dispatch

theorem raceRun_follows_handle_example :
    ∃ st, raceRun ⟨0, -1⟩ exampleWorld (raceStart ⟨none⟩ exampleSession exampleRXPacket ())
        [.handle, .handle, .handle, .handle, .handle, .acknowledge, .dispatch, .handle] = some st ∧
      st.ran = 6 ∧
      runTasks ((tasks ⟨0, -1⟩ exampleWorld).take st.ran)
          (initialContext ⟨none⟩ exampleSession exampleRXPacket ()) = ⟨st.calls, st.jctx⟩ ∧
      ((tasks ⟨0, -1⟩ exampleWorld).length ≤ st.ran →
        handle ⟨0, -1⟩ exampleWorld ⟨none⟩ exampleSession exampleRXPacket () =
          ⟨st.calls, st.jctx.map fun _ => ()⟩) :=
  ⟨_, rfl, rfl, @raceRun_follows_handle _ ⟨0, -1⟩ exampleWorld ⟨none⟩ exampleSession
    exampleRXPacket ()
    [.handle, .handle, .handle, .handle, .handle, .acknowledge, .dispatch, .handle] _ rfl⟩

theorem raceRun_dispatched_first_candidate_example :
    ∃ st, raceRun ⟨0, -1⟩ exampleWorld (raceStart ⟨none⟩ exampleSession exampleRXPacket ())
        [.handle, .handle, .handle, .handle, .handle, .acknowledge, .dispatch] = some st ∧
      st.dispatched.length = 1 ∧
      ∀ acked ∈ st.dispatched, exampleWorld.sendTXPacket acked.1 = .ok () ∧
        ∃ reached, prepare ⟨0, -1⟩ exampleWorld
            (initialContext ⟨none⟩ exampleSession exampleRXPacket ()) = .ok reached ∧
          reached.downlinkFrames.head? = some acked.1 :=
  ⟨_, rfl, rfl, @raceRun_dispatched_first_candidate _ ⟨0, -1⟩ exampleWorld ⟨none⟩ exampleSession
    exampleRXPacket () [.handle, .handle, .handle, .handle, .handle, .acknowledge, .dispatch] _ rfl⟩

theorem raceRun_dispatched_store_view_example :
    ∃ st, raceRun ⟨0, -1⟩ exampleWorld (raceStart ⟨none⟩ exampleSession exampleRXPacket ())
        [.handle, .handle, .handle, .handle, .handle, .handle, .acknowledge, .dispatch] = some st ∧
      st.dispatched.map (fun acked => acked.2.length) = [1] ∧
      ∀ acked ∈ st.dispatched, ∃ reached rest,
        prepare ⟨0, -1⟩ exampleWorld
            (initialContext ⟨none⟩ exampleSession exampleRXPacket ()) = .ok reached ∧
        reached.downlinkFrames = acked.1 :: rest ∧
        (acked.2 = [] ∨
          rest ≠ [] ∧ exampleWorld.saveDownlinkFrames exampleSession.devEUI rest = .ok () ∧
            acked.2 = [(exampleSession.devEUI, rest)]) :=
  ⟨_, rfl, rfl, @raceRun_dispatched_store_view _ ⟨0, -1⟩ exampleWorld ⟨none⟩ exampleSession
    exampleRXPacket ()
    [.handle, .handle, .handle, .handle, .handle, .handle, .acknowledge, .dispatch] _ rfl⟩

/-- With both windows served, the gateway acknowledges the RX1 frame and the consumer dispatches
the acknowledgement between `sendJoinAcceptResponse` and `saveRemainingFrames`: the handler finds
nothing stored, and `Handle` then succeeds and stores the RX2 frame. -/
theorem ack_dispatched_before_remaining_frames_saved :
    ∃ st, raceRun ⟨0, -1⟩ exampleWorld (raceStart ⟨none⟩ exampleSession exampleRXPacket ())
        [.handle, .handle, .handle, .handle, .handle, .acknowledge, .dispatch, .handle] = some st ∧
      st.ran = 6 ∧ st.dispatched.map Prod.snd = [[]] ∧
      ∃ jctx, st.jctx = .ok jctx ∧ jctx.downlinkFrames.length = 2 ∧
        st.dispatched.map Prod.fst = jctx.downlinkFrames.take 1 ∧
        st.calls.filterMap (Call.stored exampleWorld) =
          [(exampleSession.devEUI, jctx.downlinkFrames.drop 1)] :=
  ⟨_, rfl, rfl, rfl, _, rfl, rfl, rfl, rfl⟩

end LoraServer.Join
