import LoraServer.Join.Stages

/-!
# What `Handle` does, over every input and every collaborator

`Handle` has five kinds of run: a computing stage fails; no candidate was built; the send
fails; one candidate was sent; several were, and the others were stored. `handle_cases` says
so once, from the stage lemmas, and the contract of the join downlink follows by a case split
on it: the loop stops at the first failure and returns it, nothing panics, nothing is sent
or saved before the send stage, the gateway gets at most the first candidate, the store at
most the others and only after the send succeeded, and the frame log only adds log lines.

Whether `Handle` answers every join request it reports as handled depends on the configured
receive window: `Setup` accepts any integer, and a window other than 0, 1 or 2 builds no
candidate, which `sendJoinAcceptResponse` treats as nothing to send.
-/

namespace LoraServer.Join

variable {PHYPayload : Type} (s : NetworkSettings) (w : World PHYPayload)

/-- The context `Handle` has once `setDeviceGatewayRXInfo` succeeded. -/
def received (ctx : Context) (ds : DeviceSession) (rxPacket : RXPacket) (phy : PHYPayload) :
    JoinContext PHYPayload :=
  { initialContext ctx ds rxPacket phy with
    deviceGatewayRXInfo := rxPacket.rxInfoSet.map (toDeviceGatewayRXInfo w) }

variable {ctx : Context} {ds : DeviceSession} {rxPacket : RXPacket} {phy : PHYPayload}
  {reached : JoinContext PHYPayload}

/-- The context with which `Handle` reaches `sendJoinAcceptResponse`: the receptions of the
uplink, and the candidates of the served windows stamped with one token, the context id and
the marshalled join-accept. -/
theorem prepare_initialContext_eq_ok
    (prepared : prepare s w (initialContext ctx ds rxPacket phy) = .ok reached) :
    ∃ b phyB, ∃ rx1 rx2 : Option Gw.DownlinkFrame,
      rxPacket.rxInfoSet ≠ [] ∧ w.randRead.head = .ok b ∧ w.marshalBinary phy = .ok phyB ∧
      (rx1.isSome ↔ s.rxWindow = 0 ∨ s.rxWindow = 1) ∧
      (rx2.isSome ↔ s.rxWindow = 0 ∨ s.rxWindow = 2) ∧
      (∀ frame ∈ rx1, AppendsRX1 s w (received w ctx ds rxPacket phy) frame) ∧
      (∀ frame ∈ rx2, AppendsRX2 s w (received w ctx ds rxPacket phy) frame) ∧
      reached = { received w ctx ds rxPacket phy with
        downlinkFrames := (rx1.toList ++ rx2.toList).map fun frame =>
          { stamp b ctx frame with phyPayload := phyB } } := by
  simp only [prepare, except_bind_eq_ok] at prepared
  obtain ⟨withTokens, ⟨withCandidates, ⟨withReceptions, first, second⟩, third⟩, fourth⟩ := prepared
  obtain ⟨nonempty, rfl⟩ := (setDeviceGatewayRXInfo_eq_ok w).mp first
  obtain ⟨rx1, rx2, rfl, served1, served2, appends1, appends2⟩ := setTXInfo_eq_ok s w second
  obtain ⟨b, random, rfl⟩ := (setToken_eq_ok w).mp third
  obtain ⟨phyB, marshalled, rfl⟩ := (setDownlinkFrame_eq_ok w).mp fourth
  refine ⟨b, phyB, rx1, rx2, by simpa [initialContext] using nonempty, random, marshalled,
    served1, served2, appends1, appends2, ?_⟩
  simp [received, initialContext, Function.comp_def]

/-- Every run of `Handle` is one of five: a computing stage fails; no candidate was built; the
send fails; the only candidate was sent; the first was sent and the others were stored. -/
theorem handle_cases :
    (∃ f, prepare s w (initialContext ctx ds rxPacket phy) = .error f ∧
      handle s w ctx ds rxPacket phy = ⟨[], .error f⟩) ∨
    (∃ reached, prepare s w (initialContext ctx ds rxPacket phy) = .ok reached ∧
      reached.downlinkFrames = [] ∧ handle s w ctx ds rxPacket phy = ⟨[], .ok ()⟩) ∨
    (∃ reached frame rest err, prepare s w (initialContext ctx ds rxPacket phy) = .ok reached ∧
      reached.downlinkFrames = frame :: rest ∧ w.sendTXPacket frame = .error err ∧
      handle s w ctx ds rxPacket phy =
        ⟨[.sendTXPacket frame], .error (.error (Errors.wrap err "send downlink frame error"))⟩) ∨
    (∃ reached frame, prepare s w (initialContext ctx ds rxPacket phy) = .ok reached ∧
      reached.downlinkFrames = [frame] ∧ w.sendTXPacket frame = .ok () ∧
      handle s w ctx ds rxPacket phy =
        ⟨.sendTXPacket frame :: logDownlinkFrame w ds.devEUI frame, .ok ()⟩) ∨
    (∃ reached frame next rest, prepare s w (initialContext ctx ds rxPacket phy) = .ok reached ∧
      reached.downlinkFrames = frame :: next :: rest ∧ w.sendTXPacket frame = .ok () ∧
      handle s w ctx ds rxPacket phy =
        ⟨.sendTXPacket frame :: logDownlinkFrame w ds.devEUI frame ++
            [.saveDownlinkFrames ds.devEUI (next :: rest)],
          (wrapError "save downlink-frames error"
            (w.saveDownlinkFrames ds.devEUI (next :: rest))).map fun _ => ()⟩) := by
  rw [handle_eq]
  cases prepared : prepare s w (initialContext ctx ds rxPacket phy) with
  | error f => exact .inl ⟨f, rfl, rfl⟩
  | ok reached =>
    have session : reached.deviceSession = ds := by
      obtain ⟨_, _, _, _, _, _, _, _, _, _, _, rfl⟩ := prepare_initialContext_eq_ok s w prepared
      rfl
    simp only [Effects.ofExcept_ok_bind]
    rcases frames : reached.downlinkFrames with _ | ⟨frame, _ | ⟨next, rest⟩⟩
    · exact .inr (.inl ⟨reached, rfl, frames, by simp [deliver_of_nil w frames, Effects.map,
        Effects.pure, Except.map]⟩)
    · cases sent : w.sendTXPacket frame with
      | error err =>
        exact .inr (.inr (.inl ⟨reached, frame, [], err, rfl, frames, sent,
          by simp [deliver_of_send_error w frames sent, Effects.map, Except.map]⟩))
      | ok =>
        exact .inr (.inr (.inr (.inl ⟨reached, frame, rfl, frames, sent,
          by simp [deliver_of_single w frames sent, Effects.map, Except.map, session]⟩)))
    · cases sent : w.sendTXPacket frame with
      | error err =>
        exact .inr (.inr (.inl ⟨reached, frame, next :: rest, err, rfl, frames, sent,
          by simp [deliver_of_send_error w frames sent, Effects.map, Except.map]⟩))
      | ok =>
        refine .inr (.inr (.inr (.inr ⟨reached, frame, next, rest, rfl, frames, sent, ?_⟩)))
        rw [deliver_of_cons_cons w frames sent, session]
        simp only [Effects.map, Effects.mk.injEq, true_and]
        cases w.saveDownlinkFrames ds.devEUI (next :: rest) <;> rfl

/-- A failure of the stages before `sendJoinAcceptResponse` ends `Handle` before any call. -/
theorem handle_of_prepare_error {f : Failure}
    (prepared : prepare s w (initialContext ctx ds rxPacket phy) = .error f) :
    handle s w ctx ds rxPacket phy = ⟨[], .error f⟩ := by
  rw [handle_eq, prepared]
  rfl

/-- Stages that succeed without building a candidate end `Handle` with nil before any call. -/
theorem handle_of_no_frames
    (prepared : prepare s w (initialContext ctx ds rxPacket phy) = .ok reached)
    (empty : reached.downlinkFrames = []) : handle s w ctx ds rxPacket phy = ⟨[], .ok ()⟩ := by
  rw [handle_eq, prepared, Effects.ofExcept_ok_bind, deliver_of_nil w empty]
  rfl

/-- The same collaborators with another frame log. -/
def World.withFrameLog (w : World PHYPayload) (logGateway : Gw.DownlinkFrame → Except Error Unit)
    (logDevEUI : EUI64 → Gw.DownlinkFrame → Except Error Unit) : World PHYPayload :=
  { w with logDownlinkFrameForGateway := logGateway, logDownlinkFrameForDevEUI := logDevEUI }

theorem logged_isLog {call : Call} {result : Except Error Unit} {message : String}
    (logCall : call.isLog) : ∀ c ∈ logged call result message, c.isLog := by
  unfold logged
  split <;> simp_all [Call.isLog]

theorem logDownlinkFrame_isLog {devEUI : EUI64} {frame : Gw.DownlinkFrame} :
    ∀ c ∈ logDownlinkFrame w devEUI frame, c.isLog := by
  intro c mem
  rcases List.mem_append.mp mem with mem | mem
  · exact @logged_isLog (.logDownlinkFrameForGateway frame) _ _ rfl c mem
  · exact @logged_isLog (.logDownlinkFrameForDevEUI devEUI frame) _ _ rfl c mem

theorem logDownlinkFrame_filter {devEUI : EUI64} {frame : Gw.DownlinkFrame} :
    (logDownlinkFrame w devEUI frame).filter (fun c => !c.isLog) = [] := by
  simpa using logDownlinkFrame_isLog w

/-- The loop reaches `sendJoinAcceptResponse` exactly when `prepare` succeeds. -/
theorem runTasks_take_result (jctx : JoinContext PHYPayload) :
    (runTasks ((tasks s w).take 4) jctx).result = prepare s w jctx := by
  rw [runTasks_take_prepare]
  rfl

theorem handle_eq_error_first_stage {f : Failure}
    (failed : (handle s w ctx ds rxPacket phy).result = .error f) :
    ∃ pre t post reached, tasks s w = pre ++ t :: post ∧
      (runTasks pre (initialContext ctx ds rxPacket phy)).result = .ok reached ∧
      (t reached).result = .error f ∧
      (handle s w ctx ds rxPacket phy).calls =
        (runTasks pre (initialContext ctx ds rxPacket phy)).calls ++ (t reached).calls := by
  have loopFailed :
      (runTasks (tasks s w) (initialContext ctx ds rxPacket phy)).result = .error f := by
    simp only [handle, Effects.map] at failed
    cases loop : (runTasks (tasks s w) (initialContext ctx ds rxPacket phy)).result <;>
      simp_all [Except.map]
  exact runTasks_eq_error _ _ loopFailed

theorem handle_noPanic : NoPanic (handle s w ctx ds rxPacket phy).result := by
  rcases @handle_cases _ s w ctx ds rxPacket phy with
    ⟨f, prepared, run⟩ | ⟨_, _, _, run⟩ | ⟨_, _, _, _, _, _, _, run⟩ | ⟨_, _, _, _, _, run⟩ |
    ⟨_, _, _, _, _, _, _, run⟩ <;> rw [run]
  · intro p failed
    simp only [Except.error.injEq] at failed
    subst failed
    exact prepare_noPanic s w (initialContext ctx ds rxPacket phy) p prepared
  · exact NoPanic.ok ()
  · intro p
    simp
  · exact NoPanic.ok ()
  · intro p
    cases w.saveDownlinkFrames ds.devEUI _ <;> simp [wrapError, Except.mapError, Except.map]

theorem logDownlinkFrame_countP {devEUI : EUI64} {frame : Gw.DownlinkFrame} {p : Call → Bool}
    (notLog : ∀ c, p c → c.isLog = false) : (logDownlinkFrame w devEUI frame).countP p = 0 :=
  List.countP_eq_zero.mpr fun c mem pc => by
    simpa [notLog c pc] using logDownlinkFrame_isLog w c mem

@[simp]
theorem logDownlinkFrame_countP_isSendTXPacket {devEUI : EUI64} {frame : Gw.DownlinkFrame} :
    (logDownlinkFrame w devEUI frame).countP Call.isSendTXPacket = 0 :=
  logDownlinkFrame_countP w fun c isSend => by
    cases c <;> simp_all [Call.isSendTXPacket, Call.isLog]

@[simp]
theorem logDownlinkFrame_countP_isSaveDownlinkFrames {devEUI : EUI64} {frame : Gw.DownlinkFrame} :
    (logDownlinkFrame w devEUI frame).countP Call.isSaveDownlinkFrames = 0 :=
  logDownlinkFrame_countP w fun c isSave => by
    cases c <;> simp_all [Call.isSaveDownlinkFrames, Call.isLog]

theorem sendTXPacket_not_mem_logDownlinkFrame {devEUI : EUI64} {frame g : Gw.DownlinkFrame} :
    Call.sendTXPacket g ∉ logDownlinkFrame w devEUI frame :=
  fun mem => by simpa [Call.isLog] using logDownlinkFrame_isLog w _ mem

theorem saveDownlinkFrames_not_mem_logDownlinkFrame {devEUI d : EUI64} {frame : Gw.DownlinkFrame}
    {frames : List Gw.DownlinkFrame} :
    Call.saveDownlinkFrames d frames ∉ logDownlinkFrame w devEUI frame :=
  fun mem => by simpa [Call.isLog] using logDownlinkFrame_isLog w _ mem

/-- The gateway backend is handed at most one frame, the first candidate. -/
theorem handle_sendTXPacket_first :
    (handle s w ctx ds rxPacket phy).calls.countP Call.isSendTXPacket ≤ 1 ∧
    ∀ frame, Call.sendTXPacket frame ∈ (handle s w ctx ds rxPacket phy).calls →
      ∃ reached, prepare s w (initialContext ctx ds rxPacket phy) = .ok reached ∧
        reached.downlinkFrames.head? = some frame := by
  rcases @handle_cases _ s w ctx ds rxPacket phy with
    ⟨f, prepared, run⟩ | ⟨reached, prepared, frames, run⟩ |
    ⟨reached, frame, rest, err, prepared, frames, sent, run⟩ |
    ⟨reached, frame, prepared, frames, sent, run⟩ |
    ⟨reached, frame, next, rest, prepared, frames, sent, run⟩ <;> rw [run]
  · simp
  · simp
  · refine ⟨by simp [Call.isSendTXPacket], fun g mem => ⟨reached, prepared, ?_⟩⟩
    simp_all
  · refine ⟨by simp [Call.isSendTXPacket], fun g mem => ⟨reached, prepared, ?_⟩⟩
    simp [sendTXPacket_not_mem_logDownlinkFrame w] at mem
    simp [frames, mem]
  · refine ⟨by simp [Call.isSendTXPacket], fun g mem => ⟨reached, prepared, ?_⟩⟩
    simp [sendTXPacket_not_mem_logDownlinkFrame w] at mem
    simp [frames, mem]

/-- The store is asked at most once, last, after the first candidate was handed to the gateway
backend without error, and only for the other candidates, when there are any. -/
theorem handle_saveDownlinkFrames_after_send :
    (handle s w ctx ds rxPacket phy).calls.countP Call.isSaveDownlinkFrames ≤ 1 ∧
    ∀ devEUI frames,
      Call.saveDownlinkFrames devEUI frames ∈ (handle s w ctx ds rxPacket phy).calls →
      ∃ reached first, prepare s w (initialContext ctx ds rxPacket phy) = .ok reached ∧
        reached.downlinkFrames = first :: frames ∧ frames ≠ [] ∧ devEUI = ds.devEUI ∧
        w.sendTXPacket first = .ok () ∧
        (handle s w ctx ds rxPacket phy).calls.head? = some (.sendTXPacket first) ∧
        (handle s w ctx ds rxPacket phy).calls.getLast? =
          some (.saveDownlinkFrames devEUI frames) := by
  rcases @handle_cases _ s w ctx ds rxPacket phy with
    ⟨f, prepared, run⟩ | ⟨reached, prepared, frames, run⟩ |
    ⟨reached, frame, rest, err, prepared, frames, sent, run⟩ |
    ⟨reached, frame, prepared, frames, sent, run⟩ |
    ⟨reached, frame, next, rest, prepared, frames, sent, run⟩ <;> rw [run]
  · simp
  · simp
  · simp [Call.isSaveDownlinkFrames]
  · refine ⟨by simp [Call.isSaveDownlinkFrames], fun d fs mem => ?_⟩
    simp [saveDownlinkFrames_not_mem_logDownlinkFrame w] at mem
  · refine ⟨by simp [Call.isSaveDownlinkFrames], fun d fs mem => ?_⟩
    simp [saveDownlinkFrames_not_mem_logDownlinkFrame w] at mem
    obtain ⟨rfl, rfl⟩ := mem
    exact ⟨reached, frame, prepared, frames, by simp, rfl, sent, rfl,
      List.getLast?_concat _⟩

/-- The frame log's answers change neither the result of `Handle` nor what it hands to the
gateway backend and the store. -/
theorem handle_frameLog_irrelevant (logGateway : Gw.DownlinkFrame → Except Error Unit)
    (logDevEUI : EUI64 → Gw.DownlinkFrame → Except Error Unit) :
    (handle s (w.withFrameLog logGateway logDevEUI) ctx ds rxPacket phy).result =
      (handle s w ctx ds rxPacket phy).result ∧
    (handle s (w.withFrameLog logGateway logDevEUI) ctx ds rxPacket phy).calls.filter
        (fun c => !c.isLog) =
      (handle s w ctx ds rxPacket phy).calls.filter (fun c => !c.isLog) := by
  let quiet := w.withFrameLog logGateway logDevEUI
  have samePrepare : prepare s quiet (initialContext ctx ds rxPacket phy) =
      prepare s w (initialContext ctx ds rxPacket phy) := rfl
  rw [handle_eq, handle_eq, samePrepare]
  cases prepare s w (initialContext ctx ds rxPacket phy) with
  | error f => exact ⟨rfl, rfl⟩
  | ok reached =>
    simp only [Effects.ofExcept_ok_bind]
    rcases frames : reached.downlinkFrames with _ | ⟨frame, _ | ⟨next, rest⟩⟩
    · simp [deliver_of_nil _ frames]
    · cases sent : w.sendTXPacket frame with
      | error err =>
        rw [deliver_of_send_error w frames sent, deliver_of_send_error quiet frames sent]
        exact ⟨rfl, rfl⟩
      | ok =>
        rw [deliver_of_single w frames sent, deliver_of_single quiet frames sent]
        exact ⟨rfl, by
          simp only [Effects.map, List.filter_cons, List.filter_append, logDownlinkFrame_filter]⟩
    · cases sent : w.sendTXPacket frame with
      | error err =>
        rw [deliver_of_send_error w frames sent, deliver_of_send_error quiet frames sent]
        exact ⟨rfl, rfl⟩
      | ok =>
        rw [deliver_of_cons_cons w frames sent, deliver_of_cons_cons quiet frames sent]
        exact ⟨rfl, by
          simp only [Effects.map, List.filter_cons, List.filter_append, logDownlinkFrame_filter]⟩

/-- A stage that fails after the stages before it succeeded makes `Handle` return its failure. -/
theorem handle_of_stage_error {pre post : List (Task PHYPayload)} {t : Task PHYPayload}
    {reached : JoinContext PHYPayload} {f : Failure} (split : tasks s w = pre ++ t :: post)
    (preOk : (runTasks pre (initialContext ctx ds rxPacket phy)).result = .ok reached)
    (tFails : (t reached).result = .error f) :
    (handle s w ctx ds rxPacket phy).result = .error f := by
  simp only [handle, Effects.map, split, runTasks_of_error _ preOk tFails]
  rfl

/-- A band plan in the style of EU868. -/
def exampleBand : Band where
  getRX1DataRateIndex uplinkDR rx1DROffset := .ok (uplinkDR - rx1DROffset)
  getRX1FrequencyForUplinkFrequency frequency := .ok frequency
  getDownlinkTXPower _ := 14
  getDefaults :=
    { rx2Frequency := 869525000, rx2DataRate := 0, joinAcceptDelay1 := 5000000000,
      joinAcceptDelay2 := 6000000000 }

/-- Collaborators that all succeed. -/
def exampleWorld : World Unit where
  band := exampleBand
  getGatewayID rxInfo := (FixedBytes.zero 8).copy rxInfo.gatewayId
  setDownlinkTXInfoDataRate dr := .ok (.lora 125 (12 - dr.toNat) "4/5" true)
  randRead n := .ok (42, 23 + n.toUInt8)
  marshalBinary _ := .ok [32, 1, 2, 3]
  sendTXPacket _ := .ok ()
  logDownlinkFrameForGateway _ := .ok ()
  logDownlinkFrameForDevEUI _ _ := .ok ()
  saveDownlinkFrames _ _ := .ok ()

/-- A join request heard by one gateway on 868.1 MHz at data-rate 5. -/
def exampleRXPacket : RXPacket where
  rxInfoSet :=
    [{ gatewayId := [1, 2, 3, 4, 5, 6, 7, 8], rssi := -60, loraSnr := 7.5, board := 0,
       antenna := 0, context := [0, 0, 0, 1] }]
  txInfo := { frequency := 868100000 }
  dr := 5

/-- The device that sent it. -/
def exampleSession : DeviceSession := ⟨⟨[0, 0, 0, 0, 0, 0, 0, 1], rfl⟩⟩

/-- Every candidate that reaches `sendJoinAcceptResponse` carries the marshalled join-accept. -/
theorem prepare_phyPayload
    (prepared : prepare s w (initialContext ctx ds rxPacket phy) = .ok reached) :
    ∀ frame ∈ reached.downlinkFrames, w.marshalBinary phy = .ok frame.phyPayload := by
  obtain ⟨_, phyB, _, _, _, _, marshalled, _, _, _, _, rfl⟩ :=
    prepare_initialContext_eq_ok s w prepared
  intro frame mem
  simp only [received, List.mem_map] at mem
  obtain ⟨_, _, rfl⟩ := mem
  exact marshalled

/-- A window of 0, 1 or 2 builds at least one candidate. -/
theorem prepare_downlinkFrames_ne_nil (window : s.rxWindow = 0 ∨ s.rxWindow = 1 ∨ s.rxWindow = 2)
    (prepared : prepare s w (initialContext ctx ds rxPacket phy) = .ok reached) :
    reached.downlinkFrames ≠ [] := by
  obtain ⟨_, _, rx1, rx2, _, _, _, served1, served2, _, _, rfl⟩ :=
    prepare_initialContext_eq_ok s w prepared
  have : rx1.isSome ∨ rx2.isSome := by
    rcases window with window | window | window <;> simp_all
  cases rx1 <;> cases rx2 <;> simp_all [received]

/-- Any other window builds no candidate. -/
theorem prepare_downlinkFrames_eq_nil
    (window : s.rxWindow ≠ 0 ∧ s.rxWindow ≠ 1 ∧ s.rxWindow ≠ 2)
    (prepared : prepare s w (initialContext ctx ds rxPacket phy) = .ok reached) :
    reached.downlinkFrames = [] := by
  obtain ⟨_, _, rx1, rx2, _, _, _, served1, served2, _, _, rfl⟩ :=
    prepare_initialContext_eq_ok s w prepared
  have none1 : rx1 = none := by cases rx1 <;> simp_all
  have none2 : rx2 = none := by cases rx2 <;> simp_all
  simp [received, none1, none2]

/-- Any other window builds no candidate, and `Handle` then returns nil without calling the
gateway backend, the frame log or the store. -/
theorem handle_of_rxWindow_unserved
    (window : s.rxWindow ≠ 0 ∧ s.rxWindow ≠ 1 ∧ s.rxWindow ≠ 2)
    (prepared : prepare s w (initialContext ctx ds rxPacket phy) = .ok reached) :
    handle s w ctx ds rxPacket phy = ⟨[], .ok ()⟩ :=
  handle_of_no_frames s w prepared (prepare_downlinkFrames_eq_nil s w window prepared)

theorem handle_of_rxWindow_unserved_example :
    handle ⟨-1, -1⟩ exampleWorld ⟨none⟩ exampleSession exampleRXPacket () = ⟨[], .ok ()⟩ :=
  handle_of_rxWindow_unserved ⟨-1, -1⟩ exampleWorld ⟨by decide, by decide, by decide⟩ rfl

/-- For a receive window of 0, 1 or 2, a join request that `Handle` reports as handled was
answered: the gateway backend accepted exactly one frame, and that frame carries the
marshalled join-accept. `Setup` accepts any other window too, and then no candidate is built:
`Handle` never calls the gateway backend, and it returns nil whenever the stages before
`sendJoinAcceptResponse` succeed. -/
theorem handle_ok_sends_join_accept (conf : NetworkSettings) (_accepted : setup conf = .ok s) :
    ((s.rxWindow = 0 ∨ s.rxWindow = 1 ∨ s.rxWindow = 2) →
      (handle s w ctx ds rxPacket phy).result = .ok () →
      (handle s w ctx ds rxPacket phy).calls.countP Call.isSendTXPacket = 1 ∧
      ∃ frame, Call.sendTXPacket frame ∈ (handle s w ctx ds rxPacket phy).calls ∧
        w.sendTXPacket frame = .ok () ∧ w.marshalBinary phy = .ok frame.phyPayload) ∧
    ((s.rxWindow ≠ 0 ∧ s.rxWindow ≠ 1 ∧ s.rxWindow ≠ 2) →
      (handle s w ctx ds rxPacket phy).calls.countP Call.isSendTXPacket = 0 ∧
      ∀ reached, prepare s w (initialContext ctx ds rxPacket phy) = .ok reached →
        reached.downlinkFrames = [] ∧ handle s w ctx ds rxPacket phy = ⟨[], .ok ()⟩) := by
  refine ⟨fun window handled => ?_, fun window => ⟨?_, fun reached prepared => ?_⟩⟩
  · rcases @handle_cases _ s w ctx ds rxPacket phy with
      ⟨f, prepared, run⟩ | ⟨reached, prepared, frames, run⟩ |
      ⟨reached, frame, rest, err, prepared, frames, sent, run⟩ |
      ⟨reached, frame, prepared, frames, sent, run⟩ |
      ⟨reached, frame, next, rest, prepared, frames, sent, run⟩ <;> rw [run] at handled ⊢
    · cases handled
    · exact absurd frames (prepare_downlinkFrames_ne_nil s w window prepared)
    · cases handled
    all_goals exact ⟨by simp [Call.isSendTXPacket], frame, by simp, sent,
      prepare_phyPayload s w prepared frame (by simp [frames])⟩
  · cases prepared : prepare s w (initialContext ctx ds rxPacket phy) with
    | error f => simp [handle_of_prepare_error s w prepared]
    | ok reached =>
      simp [handle_of_no_frames s w prepared (prepare_downlinkFrames_eq_nil s w window prepared)]
  · have empty := prepare_downlinkFrames_eq_nil s w window prepared
    exact ⟨empty, handle_of_no_frames s w prepared empty⟩

theorem handle_ok_sends_join_accept_example :
    setup ⟨0, -1⟩ = .ok ⟨0, -1⟩ ∧
      (handle ⟨0, -1⟩ exampleWorld ⟨none⟩ exampleSession exampleRXPacket ()).result = .ok () ∧
      ((handle ⟨0, -1⟩ exampleWorld ⟨none⟩ exampleSession exampleRXPacket ()).calls.countP
          Call.isSendTXPacket = 1 ∧
        ∃ frame, Call.sendTXPacket frame ∈
            (handle ⟨0, -1⟩ exampleWorld ⟨none⟩ exampleSession exampleRXPacket ()).calls ∧
          exampleWorld.sendTXPacket frame = .ok () ∧
          exampleWorld.marshalBinary () = .ok frame.phyPayload) ∧
      setup ⟨3, -1⟩ = .ok ⟨3, -1⟩ ∧
      (handle ⟨3, -1⟩ exampleWorld ⟨none⟩ exampleSession exampleRXPacket ()).calls.countP
          Call.isSendTXPacket = 0 :=
  ⟨rfl, rfl,
    (handle_ok_sends_join_accept ⟨0, -1⟩ exampleWorld ⟨0, -1⟩ rfl).1 (.inl rfl) rfl, rfl,
    ((handle_ok_sends_join_accept ⟨3, -1⟩ exampleWorld ⟨3, -1⟩ rfl).2
      ⟨by decide, by decide, by decide⟩).1⟩

/-- With the receive window set to 3, which `Setup` accepts, `Handle` returns nil for a join
request it never answered. -/
theorem handle_rxWindow_three_returns_nil_without_send :
    setup ⟨3, -1⟩ = .ok ⟨3, -1⟩ ∧
      (handle ⟨3, -1⟩ exampleWorld ⟨none⟩ exampleSession exampleRXPacket ()).result = .ok () ∧
      (handle ⟨3, -1⟩ exampleWorld ⟨none⟩ exampleSession exampleRXPacket ()).calls = [] :=
  ⟨rfl, rfl, rfl⟩

end LoraServer.Join
