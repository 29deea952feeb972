import LoraServer.Join.Basic

/-!
# What each stage of the join downlink does

One lemma per stage says everything the stage can do: on success, the context it leaves; on
failure, that the failure is an error and not a panic, as long as the stage's input is one
that `Handle` can give it. The loop of `Handle` is characterised once, for any list of
tasks, and `tasks` itself splits into `prepare`, the four stages that only compute, and
`deliver`, the two that call the gateway backend and the store.
-/

namespace LoraServer.Join

namespace Effects

variable {α β γ : Type}

@[simp]
theorem pure_bind (a : α) (f : α → Effects β) : (pure a).bind f = f a := by
  simp [pure, bind]

@[simp]
theorem ofExcept_ok_bind (a : α) (f : α → Effects β) : (ofExcept (.ok a)).bind f = f a := by
  simp [ofExcept, bind]

@[simp]
theorem bind_pure (x : Effects α) : x.bind pure = x := by
  cases x with
  | mk calls result => cases result <;> simp [bind, pure]

theorem bind_assoc (x : Effects α) (f : α → Effects β) (g : β → Effects γ) :
    (x.bind f).bind g = x.bind fun a => (f a).bind g := by
  cases x with
  | mk calls result =>
    cases result with
    | error e => rfl
    | ok a =>
      simp only [bind]
      generalize f a = y
      cases y with
      | mk calls' result' => cases result' <;> simp

theorem ofExcept_bind_ofExcept (r : Except Failure α) (g : α → Except Failure β)
    (f : β → Effects γ) :
    (ofExcept (r >>= g)).bind f = (ofExcept r).bind fun a => (ofExcept (g a)).bind f := by
  cases r <;> rfl

end Effects

variable {PHYPayload : Type}

theorem runTasks_append (ts us : List (Task PHYPayload)) (jctx : JoinContext PHYPayload) :
    runTasks (ts ++ us) jctx = (runTasks ts jctx).bind (runTasks us) := by
  induction ts generalizing jctx with
  | nil => simp [runTasks]
  | cons t ts ih =>
    rw [List.cons_append, runTasks, runTasks, Effects.bind_assoc]
    exact congrArg _ (funext ih)

/-- The loop stops at the first task that fails and returns that task's failure: every task
before it succeeded, and the calls made are those of the tasks that ran, in order. -/
theorem runTasks_eq_error (ts : List (Task PHYPayload)) (jctx : JoinContext PHYPayload)
    {f : Failure} (failed : (runTasks ts jctx).result = .error f) :
    ∃ pre t post reached, ts = pre ++ t :: post ∧ (runTasks pre jctx).result = .ok reached ∧
      (t reached).result = .error f ∧
      (runTasks ts jctx).calls = (runTasks pre jctx).calls ++ (t reached).calls := by
  induction ts generalizing jctx with
  | nil => simp [runTasks, Effects.pure] at failed
  | cons t ts ih =>
    simp only [runTasks, Effects.bind] at failed ⊢
    split at failed
    · rename_i next tOk
      obtain ⟨pre, t', post, reached, split, preOk, tFails, calls⟩ := ih next failed
      refine ⟨t :: pre, t', post, reached, by simp [split], ?_, tFails, ?_⟩
      · simp [runTasks, Effects.bind, tOk, preOk]
      · simp [tOk, calls, runTasks, Effects.bind]
    · rename_i e tFails
      refine ⟨[], t, ts, jctx, rfl, rfl, ?_, ?_⟩
      · simpa using failed ▸ tFails
      · simp [tFails, runTasks, Effects.pure]

/-- A task that fails after every task before it succeeded ends the loop with its failure. -/
theorem runTasks_of_error {pre post : List (Task PHYPayload)} {t : Task PHYPayload}
    (jctx : JoinContext PHYPayload) {reached : JoinContext PHYPayload} {f : Failure}
    (preOk : (runTasks pre jctx).result = .ok reached) (tFails : (t reached).result = .error f) :
    (runTasks (pre ++ t :: post) jctx).result = .error f := by
  rw [runTasks_append]
  simp only [Effects.bind, preOk, runTasks, tFails]

/-- An outcome that is not a run-time panic. -/
def NoPanic {α : Type} (r : Except Failure α) : Prop := ∀ p, r ≠ .error (.panic p)

namespace NoPanic

variable {α β : Type}

theorem ok (a : α) : NoPanic (.ok a : Except Failure α) := by
  intro p
  simp

theorem wrapError (message : String) (r : Except Error α) : NoPanic (wrapError message r) := by
  intro p
  cases r <;> simp [Join.wrapError, Except.mapError]

theorem bind {x : Except Failure α} {f : α → Except Failure β} (first : NoPanic x)
    (rest : ∀ a, x = .ok a → NoPanic (f a)) : NoPanic (x >>= f) := by
  intro p failed
  rcases except_bind_eq_error.mp failed with failed | ⟨a, xOk, fails⟩
  · exact first p failed
  · exact rest a xOk p fails

end NoPanic

section Stages

variable (s : NetworkSettings) (w : World PHYPayload) {ctx ctx' : JoinContext PHYPayload}

theorem setDeviceGatewayRXInfo_eq_ok :
    setDeviceGatewayRXInfo w ctx = .ok ctx' ↔
      ctx.deviceGatewayRXInfo ++ ctx.rxPacket.rxInfoSet.map (toDeviceGatewayRXInfo w) ≠ [] ∧
      ctx' = { ctx with deviceGatewayRXInfo :=
        ctx.deviceGatewayRXInfo ++ ctx.rxPacket.rxInfoSet.map (toDeviceGatewayRXInfo w) } := by
  dsimp only [setDeviceGatewayRXInfo]
  split
  · rename_i empty
    simp only [List.length_eq_zero] at empty
    simp [empty]
  · rename_i nonempty
    simp only [List.length_eq_zero] at nonempty
    simp only [Except.ok.injEq, ne_eq, nonempty, not_false_eq_true, true_and]
    exact eq_comm

theorem setDeviceGatewayRXInfo_noPanic : NoPanic (setDeviceGatewayRXInfo w ctx) := by
  intro p
  dsimp only [setDeviceGatewayRXInfo]
  split <;> simp

/-- The candidate `setTXInfoForRX1` appends: it is built from the first reception and the
band's answers for the uplink's data-rate and frequency. -/
def AppendsRX1 (ctx : JoinContext PHYPayload) (frame : Gw.DownlinkFrame) : Prop :=
  ∃ rxInfo rx1DR modulationInfo freq,
    ctx.deviceGatewayRXInfo.head? = some rxInfo ∧
    w.band.getRX1DataRateIndex ctx.rxPacket.dr 0 = .ok rx1DR ∧
    w.setDownlinkTXInfoDataRate rx1DR = .ok modulationInfo ∧
    w.band.getRX1FrequencyForUplinkFrequency ctx.rxPacket.txInfo.frequency.toNat = .ok freq ∧
    frame = candidate s w rxInfo (toUint32 freq) modulationInfo w.band.getDefaults.joinAcceptDelay1

/-- The candidate `setTXInfoForRX2` appends: it is built from the first reception and the
band's defaults. -/
def AppendsRX2 (ctx : JoinContext PHYPayload) (frame : Gw.DownlinkFrame) : Prop :=
  ∃ rxInfo modulationInfo,
    ctx.deviceGatewayRXInfo.head? = some rxInfo ∧
    w.setDownlinkTXInfoDataRate w.band.getDefaults.rx2DataRate = .ok modulationInfo ∧
    frame = candidate s w rxInfo (toUint32 w.band.getDefaults.rx2Frequency) modulationInfo
      w.band.getDefaults.joinAcceptDelay2

theorem setTXInfoForRX1_eq_ok (succeeded : setTXInfoForRX1 s w ctx = .ok ctx') :
    ∃ frame, AppendsRX1 s w ctx frame ∧
      ctx' = { ctx with downlinkFrames := ctx.downlinkFrames ++ [frame] } := by
  simp only [setTXInfoForRX1, except_bind_eq_ok, mapError_eq_ok, index_zero_eq_ok, wrapError,
    pure, Except.pure, Except.ok.injEq] at succeeded
  obtain ⟨rxInfo, first, rx1DR, dr, modulationInfo, rate, freq, frequency, rfl⟩ := succeeded
  exact ⟨_, ⟨rxInfo, rx1DR, modulationInfo, freq, first, dr, rate, frequency, rfl⟩, rfl⟩

theorem setTXInfoForRX1_noPanic (received : ctx.deviceGatewayRXInfo ≠ []) :
    NoPanic (setTXInfoForRX1 s w ctx) := by
  obtain ⟨rxInfo, rest, first⟩ := List.exists_cons_of_ne_nil received
  simp only [setTXInfoForRX1, first, index_cons_zero, mapError_ok]
  exact .bind (.ok rxInfo) fun _ _ => .bind (.wrapError _ _) fun _ _ =>
    .bind (.wrapError _ _) fun _ _ => .bind (.wrapError _ _) fun _ _ => .ok _

theorem setTXInfoForRX2_eq_ok (succeeded : setTXInfoForRX2 s w ctx = .ok ctx') :
    ∃ frame, AppendsRX2 s w ctx frame ∧
      ctx' = { ctx with downlinkFrames := ctx.downlinkFrames ++ [frame] } := by
  simp only [setTXInfoForRX2, except_bind_eq_ok, mapError_eq_ok, index_zero_eq_ok, wrapError,
    pure, Except.pure, Except.ok.injEq] at succeeded
  obtain ⟨rxInfo, first, modulationInfo, rate, rfl⟩ := succeeded
  exact ⟨_, ⟨rxInfo, modulationInfo, first, rate, rfl⟩, rfl⟩

theorem setTXInfoForRX2_noPanic (received : ctx.deviceGatewayRXInfo ≠ []) :
    NoPanic (setTXInfoForRX2 s w ctx) := by
  obtain ⟨rxInfo, rest, first⟩ := List.exists_cons_of_ne_nil received
  simp only [setTXInfoForRX2, first, index_cons_zero, mapError_ok]
  exact .bind (.ok rxInfo) fun _ _ => .bind (.wrapError _ _) fun _ _ => .ok _

/-- A window of `setTXInfo`: when it is served, its stage appends one frame. -/
theorem window_eq_ok {served : Prop} [Decidable served]
    {stage : JoinContext PHYPayload → Except Failure (JoinContext PHYPayload)}
    {Appends : Gw.DownlinkFrame → Prop}
    (appendsOne : ∀ {ctx'}, stage ctx = .ok ctx' →
      ∃ frame, Appends frame ∧ ctx' = { ctx with downlinkFrames := ctx.downlinkFrames ++ [frame] })
    (succeeded : (if served then stage ctx else .ok ctx) = .ok ctx') :
    ∃ frame : Option Gw.DownlinkFrame,
      ctx' = { ctx with downlinkFrames := ctx.downlinkFrames ++ frame.toList } ∧
      (frame.isSome ↔ served) ∧ ∀ f ∈ frame, Appends f := by
  by_cases window : served
  · rw [if_pos window] at succeeded
    obtain ⟨frame, appends, rfl⟩ := appendsOne succeeded
    exact ⟨some frame, rfl, by simpa using window, by simpa using appends⟩
  · rw [if_neg window] at succeeded
    cases succeeded
    exact ⟨none, by simp, by simpa using window, by simp⟩

/-- What `setTXInfo` does: it appends the RX1 candidate for windows 0 and 1, then the RX2
candidate for windows 0 and 2, and changes nothing else. -/
theorem setTXInfo_eq_ok (succeeded : setTXInfo s w ctx = .ok ctx') :
    ∃ rx1 rx2 : Option Gw.DownlinkFrame,
      ctx' = { ctx with downlinkFrames := ctx.downlinkFrames ++ rx1.toList ++ rx2.toList } ∧
      (rx1.isSome ↔ s.rxWindow = 0 ∨ s.rxWindow = 1) ∧
      (rx2.isSome ↔ s.rxWindow = 0 ∨ s.rxWindow = 2) ∧
      (∀ frame ∈ rx1, AppendsRX1 s w ctx frame) ∧ (∀ frame ∈ rx2, AppendsRX2 s w ctx frame) := by
  obtain ⟨middle, first, second⟩ := except_bind_eq_ok.mp succeeded
  obtain ⟨rx1, rfl, served1, appends1⟩ := window_eq_ok (setTXInfoForRX1_eq_ok s w) first
  obtain ⟨rx2, rfl, served2, appends2⟩ := window_eq_ok (setTXInfoForRX2_eq_ok s w) second
  exact ⟨rx1, rx2, rfl, served1, served2, appends1, appends2⟩

theorem setTXInfo_noPanic (received : ctx.deviceGatewayRXInfo ≠ []) :
    NoPanic (setTXInfo s w ctx) := by
  unfold setTXInfo
  refine .bind ?_ fun middle first => ?_
  · split
    · exact setTXInfoForRX1_noPanic s w received
    · exact .ok ctx
  · have kept : middle.deviceGatewayRXInfo = ctx.deviceGatewayRXInfo := by
      split at first
      · obtain ⟨_, _, rfl⟩ := setTXInfoForRX1_eq_ok s w first
        rfl
      · cases first
        rfl
    split
    · exact setTXInfoForRX2_noPanic s w (kept ▸ received)
    · exact .ok middle

/-- The frame `setToken` makes of a candidate. -/
def stamp (b : UInt8 × UInt8) (ctx : Context) (frame : Gw.DownlinkFrame) : Gw.DownlinkFrame :=
  { frame with token := (bigEndianUint16 b).toUInt32, downlinkId := (downID ctx).bytes }

theorem setToken_eq_ok :
    setToken w ctx = .ok ctx' ↔ ∃ b, w.randRead.head = .ok b ∧
      ctx' = { ctx with downlinkFrames := ctx.downlinkFrames.map (stamp b ctx.ctx) } := by
  simp only [setToken, except_bind_eq_ok, wrapError, mapError_eq_ok, pure, Except.pure,
    Except.ok.injEq, stamp]
  exact exists_congr fun _ => and_congr_right fun _ => eq_comm

theorem setToken_noPanic : NoPanic (setToken w ctx) :=
  .bind (.wrapError _ _) fun _ _ => .ok _

theorem setDownlinkFrame_eq_ok :
    setDownlinkFrame w ctx = .ok ctx' ↔ ∃ phyB, w.marshalBinary ctx.phyPayload = .ok phyB ∧
      ctx' = { ctx with downlinkFrames :=
        ctx.downlinkFrames.map fun frame => { frame with phyPayload := phyB } } := by
  simp only [setDownlinkFrame, except_bind_eq_ok, wrapError, mapError_eq_ok, pure, Except.pure,
    Except.ok.injEq]
  exact exists_congr fun _ => and_congr_right fun _ => eq_comm

theorem setDownlinkFrame_noPanic : NoPanic (setDownlinkFrame w ctx) :=
  .bind (.wrapError _ _) fun _ _ => .ok _

section Split

variable (s : NetworkSettings) (w : World PHYPayload)

/-- The first four tasks, which make no call that outlives the run. Their result is the
context with which `Handle` reaches `sendJoinAcceptResponse`. -/
def prepare (ctx : JoinContext PHYPayload) : Except Failure (JoinContext PHYPayload) :=
  setDeviceGatewayRXInfo w ctx >>= setTXInfo s w >>= setToken w >>= setDownlinkFrame w

/-- The last two tasks. -/
def deliver (ctx : JoinContext PHYPayload) : Effects (JoinContext PHYPayload) :=
  (sendJoinAcceptResponse w ctx).bind (saveRemainingFrames w)

theorem runTasks_take_prepare (jctx : JoinContext PHYPayload) :
    runTasks ((tasks s w).take 4) jctx = .ofExcept (prepare s w jctx) := by
  have done : (runTasks [] : Task PHYPayload) = Effects.pure := rfl
  rw [← Effects.bind_pure (Effects.ofExcept (prepare s w jctx))]
  simp only [tasks, List.take, runTasks, prepare, Effects.ofExcept_bind_ofExcept, done]

theorem runTasks_tasks (jctx : JoinContext PHYPayload) :
    runTasks (tasks s w) jctx = (Effects.ofExcept (prepare s w jctx)).bind (deliver w) := by
  simp only [tasks, runTasks, prepare, Effects.ofExcept_bind_ofExcept, Effects.bind_pure]
  rfl

theorem handle_eq (ctx : Context) (ds : DeviceSession) (rxPacket : RXPacket) (phy : PHYPayload) :
    handle s w ctx ds rxPacket phy =
      ((Effects.ofExcept (prepare s w (initialContext ctx ds rxPacket phy))).bind
        (deliver w)).map fun _ => () := by
  rw [handle, runTasks_tasks]

theorem prepare_noPanic (ctx : JoinContext PHYPayload) : NoPanic (prepare s w ctx) := by
  unfold prepare
  refine .bind (.bind (.bind (setDeviceGatewayRXInfo_noPanic w) fun ctx1 first => ?_)
    fun _ _ => setToken_noPanic w) fun _ _ => setDownlinkFrame_noPanic w
  obtain ⟨received, rfl⟩ := (setDeviceGatewayRXInfo_eq_ok w).mp first
  exact setTXInfo_noPanic s w received

variable {ctx : JoinContext PHYPayload} {frame next : Gw.DownlinkFrame}
  {rest : List Gw.DownlinkFrame}

theorem deliver_of_nil (noFrames : ctx.downlinkFrames = []) : deliver w ctx = .pure ctx := by
  simp [deliver, sendJoinAcceptResponse, saveRemainingFrames, noFrames]

theorem deliver_of_send_error {err : Error} (frames : ctx.downlinkFrames = frame :: rest)
    (failed : w.sendTXPacket frame = .error err) :
    deliver w ctx =
      ⟨[.sendTXPacket frame], .error (.error (Errors.wrap err "send downlink frame error"))⟩ := by
  simp [deliver, sendJoinAcceptResponse, frames, failed, Effects.bind]

theorem deliver_of_single (frames : ctx.downlinkFrames = [frame])
    (sent : w.sendTXPacket frame = .ok ()) :
    deliver w ctx = ⟨.sendTXPacket frame :: logDownlinkFrame w ctx.deviceSession.devEUI frame,
      .ok ctx⟩ := by
  simp [deliver, sendJoinAcceptResponse, saveRemainingFrames, frames, sent, Effects.bind,
    Effects.pure]

theorem deliver_of_cons_cons (frames : ctx.downlinkFrames = frame :: next :: rest)
    (sent : w.sendTXPacket frame = .ok ()) :
    deliver w ctx =
      ⟨.sendTXPacket frame :: logDownlinkFrame w ctx.deviceSession.devEUI frame ++
          [.saveDownlinkFrames ctx.deviceSession.devEUI (next :: rest)],
        (wrapError "save downlink-frames error"
          (w.saveDownlinkFrames ctx.deviceSession.devEUI (next :: rest))).map fun _ => ctx⟩ := by
  have several : ¬rest.length + 1 + 1 < 2 := by omega
  cases saved : w.saveDownlinkFrames ctx.deviceSession.devEUI (next :: rest) <;>
    simp [deliver, sendJoinAcceptResponse, saveRemainingFrames, frames, sent, saved, several,
      Effects.bind, wrapError, Except.mapError, Except.map]

end Split

end Stages

end LoraServer.Join
