import LoraServer.Join.Handle

/-!
# What `Handle` returns when it fails

An error of the join downlink comes from one of nine places. `setDeviceGatewayRXInfo` reports
an uplink that no gateway received with `errors.New`; every other stage returns the error of the
collaborator call that failed through `errors.Wrap`, with a message that names the call: the band
plan's RX1 data-rate and frequency, the data-rate helper in either window, the random source,
the marshaller, the gateway backend on the first candidate and the store on the others. Each
failed call is recorded with the arguments `Handle` made it with. The text of an error of
`Handle` is therefore the message of the call that failed, a colon and the collaborator's own
text, and `errors.Cause` finds the collaborator's error under it. The index expressions of the stages do not panic on the inputs
`Handle` gives them, so there is no other way to fail.
-/

namespace LoraServer.Join

variable {PHYPayload : Type}

/-- A collaborator call of the join downlink that failed with `err`, with the arguments
`Handle` made it with, and the message the stage wraps that error in. -/
inductive FailedCall (s : NetworkSettings) (w : World PHYPayload) (ctx : Context)
    (ds : DeviceSession) (rxPacket : RXPacket) (phy : PHYPayload) : String → Error → Prop
  /-- The band's RX1 data-rate for the uplink's data-rate, with offset 0. -/
  | getRX1DataRateIndex {err : Error} : s.rxWindow = 0 ∨ s.rxWindow = 1 →
    w.band.getRX1DataRateIndex rxPacket.dr 0 = .error err →
    FailedCall s w ctx ds rxPacket phy "get rx1 data-rate index error" err
  /-- The data-rate helper, on the RX1 data-rate the band gave. -/
  | setDownlinkTXInfoDataRateRX1 {rx1DR : Int} {err : Error} : s.rxWindow = 0 ∨ s.rxWindow = 1 →
    w.band.getRX1DataRateIndex rxPacket.dr 0 = .ok rx1DR →
    w.setDownlinkTXInfoDataRate rx1DR = .error err →
    FailedCall s w ctx ds rxPacket phy "set downlink tx-info data-rate error" err
  /-- The band's RX1 frequency for the uplink's frequency. -/
  | getRX1FrequencyForUplinkFrequency {err : Error} : s.rxWindow = 0 ∨ s.rxWindow = 1 →
    w.band.getRX1FrequencyForUplinkFrequency rxPacket.txInfo.frequency.toNat = .error err →
    FailedCall s w ctx ds rxPacket phy "get rx1 frequency error" err
  /-- The data-rate helper, on the band's default RX2 data-rate. -/
  | setDownlinkTXInfoDataRateRX2 {err : Error} : s.rxWindow = 0 ∨ s.rxWindow = 2 →
    w.setDownlinkTXInfoDataRate w.band.getDefaults.rx2DataRate = .error err →
    FailedCall s w ctx ds rxPacket phy "set downlink tx-info data-rate error" err
  /-- The one call of the random source. -/
  | randRead {err : Error} :
    w.randRead.head = .error err → FailedCall s w ctx ds rxPacket phy "read random error" err
  /-- The marshaller, on the join-accept. -/
  | marshalBinary {err : Error} :
    w.marshalBinary phy = .error err →
    FailedCall s w ctx ds rxPacket phy "marshal phypayload error" err
  /-- The gateway backend, on `DownlinkFrames[0]`. -/
  | sendTXPacket {reached : JoinContext PHYPayload} {frame : Gw.DownlinkFrame}
    {rest : List Gw.DownlinkFrame} {err : Error} :
    prepare s w (initialContext ctx ds rxPacket phy) = .ok reached →
    reached.downlinkFrames = frame :: rest → w.sendTXPacket frame = .error err →
    FailedCall s w ctx ds rxPacket phy "send downlink frame error" err
  /-- The store, on `DownlinkFrames[1:]` for the device, after the gateway backend accepted
  `DownlinkFrames[0]`. -/
  | saveDownlinkFrames {reached : JoinContext PHYPayload} {frame : Gw.DownlinkFrame}
    {rest : List Gw.DownlinkFrame} {err : Error} :
    prepare s w (initialContext ctx ds rxPacket phy) = .ok reached →
    reached.downlinkFrames = frame :: rest → rest ≠ [] → w.sendTXPacket frame = .ok () →
    w.saveDownlinkFrames ds.devEUI rest = .error err →
    FailedCall s w ctx ds rxPacket phy "save downlink-frames error" err

section Stages

variable (s : NetworkSettings) (w : World PHYPayload) {ctx : JoinContext PHYPayload} {err : Error}

/-- A stage that wraps the error of a collaborator call it failed on. -/
def WrapsFailedCall (ctx : JoinContext PHYPayload) (err : Error) : Prop :=
  ∃ message cause,
    FailedCall s w ctx.ctx ctx.deviceSession ctx.rxPacket ctx.phyPayload message cause ∧
      err = Errors.wrap cause message

theorem setDeviceGatewayRXInfo_eq_error {f : Failure}
    (failed : setDeviceGatewayRXInfo w ctx = .error f) :
    ctx.deviceGatewayRXInfo ++ ctx.rxPacket.rxInfoSet.map (toDeviceGatewayRXInfo w) = [] ∧
      f = .error (Errors.new "DeviceGatewayRXInfo is empty!") := by
  dsimp only [setDeviceGatewayRXInfo] at failed
  split at failed
  · cases failed
    exact ⟨List.length_eq_zero.mp ‹_›, rfl⟩
  · cases failed

theorem setTXInfoForRX1_eq_error (window : s.rxWindow = 0 ∨ s.rxWindow = 1)
    (failed : setTXInfoForRX1 s w ctx = .error (.error err)) : WrapsFailedCall s w ctx err := by
  simp only [setTXInfoForRX1, except_bind_eq_error, wrapError, mapError_eq_error, mapError_eq_ok,
    pure, Except.pure, reduceCtorEq, Failure.error.injEq, and_false, exists_false, false_or,
    or_false] at failed
  rcases failed with ⟨_, -, ⟨cause, called, rfl⟩ | ⟨_, rx1DR, ⟨cause, called, rfl⟩ |
    ⟨_, -, cause, called, rfl⟩⟩⟩
  · exact ⟨_, _, .getRX1DataRateIndex window called, rfl⟩
  · exact ⟨_, _, .setDownlinkTXInfoDataRateRX1 window rx1DR called, rfl⟩
  · exact ⟨_, _, .getRX1FrequencyForUplinkFrequency window called, rfl⟩

theorem setTXInfoForRX2_eq_error (window : s.rxWindow = 0 ∨ s.rxWindow = 2)
    (failed : setTXInfoForRX2 s w ctx = .error (.error err)) : WrapsFailedCall s w ctx err := by
  simp only [setTXInfoForRX2, except_bind_eq_error, wrapError, mapError_eq_error, mapError_eq_ok,
    pure, Except.pure, reduceCtorEq, Failure.error.injEq, and_false, exists_false, false_or,
    or_false] at failed
  obtain ⟨-, -, cause, called, rfl⟩ := failed
  exact ⟨_, _, .setDownlinkTXInfoDataRateRX2 window called, rfl⟩

theorem setTXInfo_eq_error (failed : setTXInfo s w ctx = .error (.error err)) :
    WrapsFailedCall s w ctx err := by
  rcases except_bind_eq_error.mp failed with first | ⟨middle, first, second⟩
  · split at first
    · exact setTXInfoForRX1_eq_error s w ‹_› first
    · cases first
  · obtain ⟨rx1, rfl, -, -⟩ := window_eq_ok (setTXInfoForRX1_eq_ok s w) first
    split at second
    · exact (setTXInfoForRX2_eq_error s w ‹_› second :)
    · cases second

theorem setToken_eq_error (failed : setToken w ctx = .error (.error err)) :
    WrapsFailedCall s w ctx err := by
  simp only [setToken, except_bind_eq_error, wrapError, mapError_eq_error, mapError_eq_ok, pure,
    Except.pure, reduceCtorEq, Failure.error.injEq, and_false, exists_false, or_false] at failed
  obtain ⟨cause, called, rfl⟩ := failed
  exact ⟨_, _, .randRead called, rfl⟩

theorem setDownlinkFrame_eq_error (failed : setDownlinkFrame w ctx = .error (.error err)) :
    WrapsFailedCall s w ctx err := by
  simp only [setDownlinkFrame, except_bind_eq_error, wrapError, mapError_eq_error,
    mapError_eq_ok, pure, Except.pure, reduceCtorEq, Failure.error.injEq, and_false,
    exists_false, or_false] at failed
  obtain ⟨cause, called, rfl⟩ := failed
  exact ⟨_, _, .marshalBinary called, rfl⟩

end Stages

variable (s : NetworkSettings) (w : World PHYPayload) {ctx : Context} {ds : DeviceSession}
  {rxPacket : RXPacket} {phy : PHYPayload} {err : Error}

/-- Where an error of the first four stages comes from: no gateway received the uplink, or a
collaborator call failed. -/
theorem prepare_eq_error
    (failed : prepare s w (initialContext ctx ds rxPacket phy) = .error (.error err)) :
    (rxPacket.rxInfoSet = [] ∧ err = Errors.new "DeviceGatewayRXInfo is empty!") ∨
      WrapsFailedCall s w (initialContext ctx ds rxPacket phy) err := by
  simp only [prepare, except_bind_eq_error, except_bind_eq_ok] at failed
  rcases failed with ((first | ⟨withReceptions, first, second⟩) |
      ⟨withCandidates, ⟨withReceptions, first, second⟩, third⟩) |
    ⟨withTokens, ⟨withCandidates, ⟨withReceptions, first, second⟩, third⟩, fourth⟩
  · obtain ⟨empty, found⟩ := setDeviceGatewayRXInfo_eq_error w first
    cases found
    exact .inl ⟨List.map_eq_nil_iff.mp empty, rfl⟩
  all_goals obtain ⟨-, rfl⟩ := (setDeviceGatewayRXInfo_eq_ok w).mp first
  · exact .inr (setTXInfo_eq_error s w second :)
  all_goals obtain ⟨_, _, rfl, -⟩ := setTXInfo_eq_ok s w second
  · exact .inr (setToken_eq_error s w third :)
  · obtain ⟨_, -, rfl⟩ := (setToken_eq_ok w).mp third
    exact .inr (setDownlinkFrame_eq_error s w fourth :)

end LoraServer.Join
