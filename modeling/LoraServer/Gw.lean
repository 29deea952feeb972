import LoraServer.Errors

/-!
# Gateway messages, the band plan and the request context

The protobuf messages exchanged with the gateway backend (`api/gw`), the part of the band plan
the join downlink consults (`internal/band`), and the value a request context carries under
`logging.ContextIDKey`. Only the fields the modelled functions read or write are kept.

Every goroutine the uplink server spawns for a message builds a context that carries a context
id, so that the log lines of one message can be grouped. For an uplink frame the id is the
value `uuid.NewV4()` returned; for a downlink TX acknowledgement it is copied from the downlink
id the gateway echoes, which the join and data downlinks set to the id of the uplink they
answer.

Go's `[]byte` fields are lists of bytes. A nil slice and an empty one are the same list, except
for the downlink id of an acknowledgement, where the code tests for nil and the field is an
`Option`. A `time.Duration` is its number of nanoseconds; `ptypes.DurationProto` represents it
exactly, so the protobuf duration is not modelled apart.
-/

namespace LoraServer

/-- A `time.Duration`, in nanoseconds. -/
abbrev Duration := Int

namespace Gw

/-- The message `gw.UplinkRXInfo`: how one gateway received an uplink. -/
structure UplinkRXInfo where
  gatewayId : List UInt8
  rssi : Int
  loraSnr : Float
  board : UInt32
  antenna : UInt32
  context : List UInt8
  deriving Repr

/-- The message `gw.UplinkTXInfo`: how the device transmitted. -/
structure UplinkTXInfo where
  frequency : UInt32
  deriving DecidableEq, Repr

/-- The enum `gw.DownlinkTiming`. -/
inductive DownlinkTiming where
  | IMMEDIATELY
  | DELAY
  | GPS_EPOCH
  deriving DecidableEq, Repr

/-- The modulation fields of a `gw.DownlinkTXInfo`, as `helpers.SetDownlinkTXInfoDataRate`
fills them from a data-rate of the band. -/
inductive ModulationInfo where
  | lora (bandwidth spreadingFactor : Nat) (codeRate : String) (polarizationInversion : Bool)
  | fsk (frequencyDeviation datarate : Nat)
  deriving DecidableEq, Repr

/-- The message `gw.DownlinkTXInfo`; `delayTimingInfo` is the delay of its
`DelayTimingInfo`, the only timing information the join downlink sets. -/
structure DownlinkTXInfo where
  gatewayId : List UInt8
  frequency : UInt32
  power : Int
  modulationInfo : ModulationInfo
  board : UInt32
  antenna : UInt32
  timing : DownlinkTiming
  delayTimingInfo : Duration
  context : List UInt8
  deriving DecidableEq, Repr

/-- The message `gw.DownlinkFrame`. -/
structure DownlinkFrame where
  phyPayload : List UInt8 := []
  txInfo : DownlinkTXInfo
  token : UInt32 := 0
  downlinkId : List UInt8 := []
  deriving DecidableEq, Repr

/-- The message `gw.DownlinkTXAck`: the gateway's answer to a downlink frame. Of its fields the
modelled code reads only the downlink id; the gateway id, token and error are read by the log
line of a failed acknowledgement and by `ack.HandleDownlinkTXAck`, which are not modelled. -/
structure DownlinkTXAck where
  downlinkId : Option (List UInt8)
  deriving DecidableEq, Repr

end Gw

/-- The band defaults (`band.Defaults`) the join downlink reads. -/
structure Defaults where
  rx2Frequency : Int
  rx2DataRate : Int
  joinAcceptDelay1 : Duration
  joinAcceptDelay2 : Duration

/-- The band plan `band.Band()`, as the join downlink uses it: regional tables consulted as
lookups, any of which may fail. -/
structure Band where
  getRX1DataRateIndex : Int → Int → Except Error Int
  getRX1FrequencyForUplinkFrequency : Int → Except Error Int
  getDownlinkTXPower : Int → Int
  getDefaults : Defaults

/-- What a `context.Context` holds under `logging.ContextIDKey`: a `uuid.UUID`, or a value of
another type. -/
inductive ContextValue where
  | uuid (id : UUID)
  | other
  deriving DecidableEq, Repr

/-- A request context, by the value `ctx.Value(logging.ContextIDKey)` returns: nil or a value. -/
structure Context where
  contextID : Option ContextValue
  deriving DecidableEq, Repr

namespace Uplink

/-- The context the goroutine of `HandleUplinkFrames` builds from the value `uuid.NewV4()`
returned; a failure of `NewV4` is only logged, and the value returned is used all the same. -/
def uplinkFrameContext (ctxID : UUID) : Context := ⟨some (.uuid ctxID)⟩

/-- The variable `ctxID` of the goroutine of `HandleDownlinkTXAcks`: the zero uuid, into which
the acknowledgement's downlink id is copied when it is not nil. -/
def downlinkTXAckContextID (ack : Gw.DownlinkTXAck) : UUID :=
  match ack.downlinkId with
  | some downlinkId => (FixedBytes.zero 16).copy downlinkId
  | none => FixedBytes.zero 16

/-- The context that goroutine hands to `ack.HandleDownlinkTXAck`. -/
def downlinkTXAckContext (ack : Gw.DownlinkTXAck) : Context :=
  ⟨some (.uuid (downlinkTXAckContextID ack))⟩

/-- An acknowledgement that echoes the sixteen bytes of a uuid gets that uuid back as its
context id. -/
theorem downlinkTXAckContextID_of_echo {ack : Gw.DownlinkTXAck} {id : UUID}
    (echoed : ack.downlinkId = some id.bytes) : downlinkTXAckContextID ack = id := by
  apply FixedBytes.ext_bytes
  rw [downlinkTXAckContextID, echoed]
  exact FixedBytes.copy_bytes_of_length id.length_eq

end Uplink

end LoraServer
