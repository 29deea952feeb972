import Mathlib.Data.Stream.Defs
import LoraServer.Gw

/-!
# The join-accept downlink

The package `internal/downlink/join` answers a join request. `Handle` builds a `joinContext`
and runs the stages of `tasks` in order, returning the first error: it collects the receiving
gateways (`setDeviceGatewayRXInfo`), builds the RX1 and RX2 candidate frames as the configured
receive window asks (`setTXInfo`), stamps every candidate with one random token and the
request's context id (`setToken`) and with the marshalled join-accept (`setDownlinkFrame`),
hands the first candidate to the gateway backend (`sendJoinAcceptResponse`) and stores the
others for a fall-through on a scheduling error (`saveRemainingFrames`).

Go mutates the context through a pointer; here each stage takes the context and returns the
new one. The collaborators (band plan, helpers, random source, marshaller, gateway backend,
frame log, store) form a `World` of arbitrary functions; the random source answers each call
of `rand.Read` in turn. The calls whose effects outlive the
run (a frame handed to the gateway, written to the frame log or stored, and a logged error)
are recorded in order, and a failing stage keeps the calls it made.
-/

namespace LoraServer.Join

/-- The settings of `conf.NetworkServer.NetworkSettings` the join downlink reads. -/
structure NetworkSettings where
  rxWindow : Int
  downlinkTXPower : Int
  deriving DecidableEq, Repr

/-- The function `Setup`: it copies the two settings into the package variables `rxWindow`
and `downlinkTXPower` and returns nil, so the state it leaves is the settings themselves. -/
def setup (conf : NetworkSettings) : Except Error NetworkSettings := .ok conf

/-- The part of `storage.DeviceSession` the join downlink reads. -/
structure DeviceSession where
  devEUI : EUI64
  deriving DecidableEq, Repr

/-- The part of `models.RXPacket` the join downlink reads. In Go `TXInfo` and the entries of
`RXInfoSet` are pointers, which the packet collector, outside this repository, sets from the
frames the gateway backend decoded; the model takes them to be non-nil, as a nil one would
make `setDeviceGatewayRXInfo` or `setTXInfoForRX1` panic on a field read. -/
structure RXPacket where
  rxInfoSet : List Gw.UplinkRXInfo
  txInfo : Gw.UplinkTXInfo
  dr : Int
  deriving Repr

/-- The record `storage.DeviceGatewayRXInfo`. -/
structure DeviceGatewayRXInfo where
  gatewayID : EUI64
  rssi : Int
  loRaSNR : Float
  board : UInt32
  antenna : UInt32
  context : List UInt8
  deriving Repr

/-- The collaborators of the join downlink, each an arbitrary function of its arguments. -/
structure World (PHYPayload : Type) where
  band : Band
  /-- The helper `helpers.GetGatewayID`. -/
  getGatewayID : Gw.UplinkRXInfo → EUI64
  /-- The helper `helpers.SetDownlinkTXInfoDataRate` with the band of `band.Band()`. -/
  setDownlinkTXInfoDataRate : Int → Except Error Gw.ModulationInfo
  /-- The answers of the successive calls `rand.Read(b)` on a buffer of two bytes, from the
  start of `Handle` on. -/
  randRead : Stream' (Except Error (UInt8 × UInt8))
  /-- The method `MarshalBinary` of `lorawan.PHYPayload`. -/
  marshalBinary : PHYPayload → Except Error (List UInt8)
  /-- The method `SendTXPacket` of `gateway.Backend()`. -/
  sendTXPacket : Gw.DownlinkFrame → Except Error Unit
  /-- The function `framelog.LogDownlinkFrameForGateway`. -/
  logDownlinkFrameForGateway : Gw.DownlinkFrame → Except Error Unit
  /-- The function `framelog.LogDownlinkFrameForDevEUI`. -/
  logDownlinkFrameForDevEUI : EUI64 → Gw.DownlinkFrame → Except Error Unit
  /-- The function `storage.SaveDownlinkFrames`. -/
  saveDownlinkFrames : EUI64 → List Gw.DownlinkFrame → Except Error Unit

/-- A call whose effect outlives the run. -/
inductive Call where
  | sendTXPacket (frame : Gw.DownlinkFrame)
  | logDownlinkFrameForGateway (frame : Gw.DownlinkFrame)
  | logDownlinkFrameForDevEUI (devEUI : EUI64) (frame : Gw.DownlinkFrame)
  | saveDownlinkFrames (devEUI : EUI64) (frames : List Gw.DownlinkFrame)
  /-- A line `log.WithError(err).Error(message)`. -/
  | logError (message : String) (err : Error)
  deriving DecidableEq, Repr

namespace Call

/-- Whether a call hands a frame to the gateway backend. -/
def isSendTXPacket : Call → Bool
  | .sendTXPacket _ => true
  | _ => false

/-- Whether a call stores frames. -/
def isSaveDownlinkFrames : Call → Bool
  | .saveDownlinkFrames _ _ => true
  | _ => false

/-- Whether a call only writes the frame log or a log line. -/
def isLog : Call → Bool
  | .logDownlinkFrameForGateway _ | .logDownlinkFrameForDevEUI _ _ | .logError _ _ => true
  | _ => false

end Call

/-- How a stage can end other than by returning nil: with an error, or in a run-time panic. -/
inductive Failure where
  | error (err : Error)
  | panic (p : RuntimePanic)
  deriving DecidableEq, Repr

/-- A computation of the join downlink: the calls it made, in order, and how it ended. -/
structure Effects (α : Type) where
  calls : List Call
  result : Except Failure α

namespace Effects

variable {α β γ : Type}

/-- A computation that makes no call and returns `a`. -/
def pure (a : α) : Effects α := ⟨[], .ok a⟩

/-- A computation that makes no recorded call. -/
def ofExcept (r : Except Failure α) : Effects α := ⟨[], r⟩

/-- Run `x`, then `f` on its value; a failure of `x` keeps the calls `x` made. -/
def bind (x : Effects α) (f : α → Effects β) : Effects β :=
  match x.result with
  | .ok a => ⟨x.calls ++ (f a).calls, (f a).result⟩
  | .error e => ⟨x.calls, .error e⟩

/-- Change the value of a computation. -/
def map (f : α → β) (x : Effects α) : Effects β := ⟨x.calls, x.result.map f⟩

end Effects

/-- The context `joinContext` the stages share. -/
structure JoinContext (PHYPayload : Type) where
  ctx : Context
  deviceSession : DeviceSession
  deviceGatewayRXInfo : List DeviceGatewayRXInfo := []
  rxPacket : RXPacket
  phyPayload : PHYPayload
  downlinkFrames : List Gw.DownlinkFrame := []

/-- A stage of `tasks`. -/
abbrev Task (PHYPayload : Type) := JoinContext PHYPayload → Effects (JoinContext PHYPayload)

section Stages

variable {PHYPayload : Type} {α : Type} (s : NetworkSettings) (w : World PHYPayload)

/-- A failing call's error, returned as `errors.Wrap(err, message)`. -/
def wrapError (message : String) (result : Except Error α) : Except Failure α :=
  result.mapError fun err => .error (Errors.wrap err message)

/-- The record the loop of `setDeviceGatewayRXInfo` appends for one gateway's reception. -/
def toDeviceGatewayRXInfo (rxInfo : Gw.UplinkRXInfo) : DeviceGatewayRXInfo :=
  { gatewayID := w.getGatewayID rxInfo, rssi := rxInfo.rssi, loRaSNR := rxInfo.loraSnr,
    board := rxInfo.board, antenna := rxInfo.antenna, context := rxInfo.context }

/-- The stage `setDeviceGatewayRXInfo`. -/
def setDeviceGatewayRXInfo (ctx : JoinContext PHYPayload) :
    Except Failure (JoinContext PHYPayload) :=
  let deviceGatewayRXInfo :=
    ctx.deviceGatewayRXInfo ++ ctx.rxPacket.rxInfoSet.map (toDeviceGatewayRXInfo w)
  if deviceGatewayRXInfo.length = 0 then
    .error (.error (Errors.new "DeviceGatewayRXInfo is empty!"))
  else .ok { ctx with deviceGatewayRXInfo }

/-- The block that sets a candidate's power, written alike in both windows: the configured
power unless it is `-1`, the band's power for the frequency otherwise. -/
def txPower (frequency : UInt32) : Int :=
  if s.downlinkTXPower ≠ -1 then toInt32 s.downlinkTXPower
  else toInt32 (w.band.getDownlinkTXPower frequency.toNat)

/-- The frame both windows append, `gw.DownlinkFrame{TxInfo: &txInfo}`: the gateway of the
first reception, the window's frequency, data-rate and delay, and the power for the
frequency. -/
def candidate (rxInfo : DeviceGatewayRXInfo) (frequency : UInt32)
    (modulationInfo : Gw.ModulationInfo) (delay : Duration) : Gw.DownlinkFrame :=
  { txInfo :=
    { gatewayId := rxInfo.gatewayID.bytes, board := rxInfo.board, antenna := rxInfo.antenna,
      context := rxInfo.context, modulationInfo, frequency, power := txPower s w frequency,
      timing := .DELAY, delayTimingInfo := delay } }

/-- The stage `setTXInfoForRX1`: the candidate for the first receive window. -/
def setTXInfoForRX1 (ctx : JoinContext PHYPayload) : Except Failure (JoinContext PHYPayload) := do
  let rxInfo ← (index ctx.deviceGatewayRXInfo 0).mapError .panic
  let rx1DR ← wrapError "get rx1 data-rate index error"
    (w.band.getRX1DataRateIndex ctx.rxPacket.dr 0)
  let modulationInfo ← wrapError "set downlink tx-info data-rate error"
    (w.setDownlinkTXInfoDataRate rx1DR)
  let freq ← wrapError "get rx1 frequency error"
    (w.band.getRX1FrequencyForUplinkFrequency ctx.rxPacket.txInfo.frequency.toNat)
  let frame := candidate s w rxInfo (toUint32 freq) modulationInfo
    w.band.getDefaults.joinAcceptDelay1
  return { ctx with downlinkFrames := ctx.downlinkFrames ++ [frame] }

/-- The stage `setTXInfoForRX2`: the candidate for the second receive window. -/
def setTXInfoForRX2 (ctx : JoinContext PHYPayload) : Except Failure (JoinContext PHYPayload) := do
  let rxInfo ← (index ctx.deviceGatewayRXInfo 0).mapError .panic
  let modulationInfo ← wrapError "set downlink tx-info data-rate error"
    (w.setDownlinkTXInfoDataRate w.band.getDefaults.rx2DataRate)
  let frame := candidate s w rxInfo (toUint32 w.band.getDefaults.rx2Frequency) modulationInfo
    w.band.getDefaults.joinAcceptDelay2
  return { ctx with downlinkFrames := ctx.downlinkFrames ++ [frame] }

/-- The stage `setTXInfo`: RX1 for windows 0 and 1, then RX2 for windows 0 and 2. -/
def setTXInfo (ctx : JoinContext PHYPayload) : Except Failure (JoinContext PHYPayload) :=
  (if s.rxWindow = 0 ∨ s.rxWindow = 1 then setTXInfoForRX1 s w ctx else .ok ctx) >>= fun ctx =>
    if s.rxWindow = 0 ∨ s.rxWindow = 2 then setTXInfoForRX2 s w ctx else .ok ctx

/-- The call `binary.BigEndian.Uint16(b)`. -/
def bigEndianUint16 (b : UInt8 × UInt8) : UInt16 := b.2.toUInt16 ||| (b.1.toUInt16 <<< 8)

/-- The variable `downID` of `setToken`: the `uuid.UUID` the context holds under
`logging.ContextIDKey`, or the zero uuid. -/
def downID (ctx : Context) : UUID :=
  match ctx.contextID with
  | some (.uuid id) => id
  | _ => FixedBytes.zero 16

/-- The stage `setToken`: one random token and the context id on every candidate. Its call of
`rand.Read` is the only one `Handle` makes, so it gets the first answer. -/
def setToken (ctx : JoinContext PHYPayload) : Except Failure (JoinContext PHYPayload) := do
  let b ← wrapError "read random error" w.randRead.head
  return { ctx with downlinkFrames := ctx.downlinkFrames.map fun frame =>
    { frame with token := (bigEndianUint16 b).toUInt32, downlinkId := (downID ctx.ctx).bytes } }

/-- The stage `setDownlinkFrame`: the marshalled join-accept on every candidate. -/
def setDownlinkFrame (ctx : JoinContext PHYPayload) : Except Failure (JoinContext PHYPayload) := do
  let phyB ← wrapError "marshal phypayload error" (w.marshalBinary ctx.phyPayload)
  return { ctx with downlinkFrames := ctx.downlinkFrames.map fun frame =>
    { frame with phyPayload := phyB } }

/-- The statement `if err := call; err != nil { log.WithError(err).Error(message) }`: the
call is made, and its failure only adds a log line. -/
def logged (call : Call) (result : Except Error Unit) (message : String) : List Call :=
  match result with
  | .ok () => [call]
  | .error err => [call, .logError message err]

/-- The two frame-log writes that follow a successful send. -/
def logDownlinkFrame (devEUI : EUI64) (frame : Gw.DownlinkFrame) : List Call :=
  logged (.logDownlinkFrameForGateway frame) (w.logDownlinkFrameForGateway frame)
      "log downlink frame for gateway error" ++
    logged (.logDownlinkFrameForDevEUI devEUI frame) (w.logDownlinkFrameForDevEUI devEUI frame)
      "log downlink frame for device error"

/-- The stage `sendJoinAcceptResponse`: the first candidate goes to the gateway backend, then
to the frame log. -/
def sendJoinAcceptResponse (ctx : JoinContext PHYPayload) : Effects (JoinContext PHYPayload) :=
  if ctx.downlinkFrames.length = 0 then .pure ctx else
  match index ctx.downlinkFrames 0 with
  | .error p => .ofExcept (.error (.panic p))
  | .ok frame =>
    match w.sendTXPacket frame with
    | .error err =>
      ⟨[.sendTXPacket frame], .error (.error (Errors.wrap err "send downlink frame error"))⟩
    | .ok () =>
      ⟨.sendTXPacket frame :: logDownlinkFrame w ctx.deviceSession.devEUI frame, .ok ctx⟩

/-- The stage `saveRemainingFrames`: the other candidates are stored for a fall-through. -/
def saveRemainingFrames (ctx : JoinContext PHYPayload) : Effects (JoinContext PHYPayload) :=
  if ctx.downlinkFrames.length < 2 then .pure ctx else
  match sliceFrom ctx.downlinkFrames 1 with
  | .error p => .ofExcept (.error (.panic p))
  | .ok remaining =>
    let devEUI := ctx.deviceSession.devEUI
    match w.saveDownlinkFrames devEUI remaining with
    | .error err =>
      ⟨[.saveDownlinkFrames devEUI remaining],
        .error (.error (Errors.wrap err "save downlink-frames error"))⟩
    | .ok () => ⟨[.saveDownlinkFrames devEUI remaining], .ok ctx⟩

/-- The list `tasks`, in its order. -/
def tasks : List (Task PHYPayload) :=
  [fun ctx => .ofExcept (setDeviceGatewayRXInfo w ctx),
   fun ctx => .ofExcept (setTXInfo s w ctx),
   fun ctx => .ofExcept (setToken w ctx),
   fun ctx => .ofExcept (setDownlinkFrame w ctx),
   sendJoinAcceptResponse w,
   saveRemainingFrames w]

end Stages

variable {PHYPayload : Type}

/-- The loop of `Handle`: each task runs on the context the one before it left, and the first
that fails ends the loop with its failure. -/
def runTasks : List (Task PHYPayload) → JoinContext PHYPayload → Effects (JoinContext PHYPayload)
  | [], jctx => .pure jctx
  | t :: ts, jctx => (t jctx).bind (runTasks ts)

/-- The context `Handle` starts from. -/
def initialContext (ctx : Context) (ds : DeviceSession) (rxPacket : RXPacket) (phy : PHYPayload) :
    JoinContext PHYPayload :=
  { ctx, deviceSession := ds, phyPayload := phy, rxPacket }

/-- The function `Handle`, which answers a join request. -/
def handle (s : NetworkSettings) (w : World PHYPayload) (ctx : Context) (ds : DeviceSession)
    (rxPacket : RXPacket) (phy : PHYPayload) : Effects Unit :=
  (runTasks (tasks s w) (initialContext ctx ds rxPacket phy)).map fun _ => ()

end LoraServer.Join
