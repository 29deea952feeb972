import LoraServer.Gw

/-!
# Handling a collected uplink

`collectUplinkFrames` hands `collectAndCallOnce` a callback that runs once per uplink, on the
frames of all gateways that received it. The callback updates the gateways' meta-data and logs
the frame set, and a failure of either is only logged; it then passes the uplink to the handler
of its message type and returns that handler's error. An uplink of any other message type is
dropped with nil.

The model takes the collaborators' outcomes for one uplink as given and records the calls the
callback makes, in order, with the log lines of the failures.
-/

namespace LoraServer.Uplink

/-- The message types `lorawan.MType`. -/
inductive MType where
  | JoinRequest
  | JoinAccept
  | UnconfirmedDataUp
  | UnconfirmedDataDown
  | ConfirmedDataUp
  | ConfirmedDataDown
  | RejoinRequest
  | Proprietary
  deriving DecidableEq, Repr

/-- The handlers of the uplink packages: `join.Handle`, `rejoin.Handle`, `data.Handle` and
`proprietary.Handle`. -/
inductive Handler where
  | join
  | rejoin
  | data
  | proprietary
  deriving DecidableEq, Repr

/-- The `switch` on the message type. -/
def handlerFor : MType → Option Handler
  | .JoinRequest => some .join
  | .RejoinRequest => some .rejoin
  | .UnconfirmedDataUp | .ConfirmedDataUp => some .data
  | .Proprietary => some .proprietary
  | _ => none

/-- A call of the callback whose effect outlives it. -/
inductive CollectCall where
  | updateMetaDataInRxInfoSet
  | logUplinkFrameForGateways
  /-- A line `log.WithError(err).Error(message)`. -/
  | logError (message : String) (err : Error)
  | handle (handler : Handler)
  deriving DecidableEq, Repr

/-- Whether a call only writes a log line. -/
def CollectCall.isLog : CollectCall → Bool
  | .logError _ _ => true
  | _ => false

/-- The outcomes of the callback's collaborators for one uplink. -/
structure CollectWorld where
  /-- The function `gateway.UpdateMetaDataInRxInfoSet`. -/
  updateMetaDataInRxInfoSet : Except Error Unit
  /-- The function `framelog.LogUplinkFrameForGateways`. -/
  logUplinkFrameForGateways : Except Error Unit
  /-- The handlers of the uplink packages. -/
  handle : Handler → Except Error Unit

/-- The statement `if err := call; err != nil { log...Error(message) }`. -/
def loggedCall (call : CollectCall) (result : Except Error Unit) (message : String) :
    List CollectCall :=
  match result with
  | .ok () => [call]
  | .error err => [call, .logError message err]

/-- The callback of `collectUplinkFrames` for an uplink of message type `mtype`: the calls it
makes and the error it returns. -/
def collected (w : CollectWorld) (mtype : MType) : List CollectCall × Except Error Unit :=
  let bookkeeping :=
    loggedCall .updateMetaDataInRxInfoSet w.updateMetaDataInRxInfoSet
        "uplink: update gateway meta-data in rx-info set error" ++
      loggedCall .logUplinkFrameForGateways w.logUplinkFrameForGateways
        "uplink: log uplink frames for gateways error"
  match handlerFor mtype with
  | some handler => (bookkeeping ++ [.handle handler], w.handle handler)
  | none => (bookkeeping, .ok ())

theorem loggedCall_filter {call : CollectCall} (notLog : call.isLog = false)
    (result : Except Error Unit) (message : String) :
    (loggedCall call result message).filter (fun c => !c.isLog) = [call] := by
  cases result <;> simp only [loggedCall, List.filter_cons, notLog, List.filter_nil] <;> rfl

/-- The callback returns exactly what the handler of the uplink's message type returns, and
nil for a type no handler takes; apart from log lines it updates the meta-data, logs the frame
set and then calls that handler, once. The meta-data and the frame log change only log lines. -/
theorem collected_eq (w : CollectWorld) (mtype : MType) :
    (collected w mtype).2 = ((handlerFor mtype).map w.handle).getD (.ok ()) ∧
    (collected w mtype).1.filter (fun c => !c.isLog) =
      [.updateMetaDataInRxInfoSet, .logUplinkFrameForGateways] ++
        ((handlerFor mtype).map CollectCall.handle).toList := by
  unfold collected
  cases handlerFor mtype <;>
    simp only [List.filter_append, @loggedCall_filter .updateMetaDataInRxInfoSet rfl,
      @loggedCall_filter .logUplinkFrameForGateways rfl, Option.map_none', Option.map_some',
      Option.getD_none, Option.getD_some, Option.toList_none, Option.toList_some] <;>
    constructor <;> trivial

end LoraServer.Uplink
