import LoraServer.Join.Handle

/-!
# The candidate frames of a join-accept

`setTXInfo` builds the candidates, RX1 first, and the next two stages stamp all of them alike,
so that the frames that reach `sendJoinAcceptResponse` are versions of one join-accept that
differ only in their radio parameters. The predicates below say what a candidate is in the
terms of the band plan: where it is sent, on which frequency and data-rate, after which delay
and at which power.

The power rule of the code tests the configured power against `-1`, the value that means
"use the band's power", and converts it with `int32`; any other negative setting is sent as it
is, and a setting outside the range of `int32` wraps.
-/

namespace LoraServer.Join

variable {PHYPayload : Type}

/-- A frame sent through the gateway of a reception, with its board, antenna and context. -/
structure ThroughGateway (w : World PHYPayload) (rxInfo : Gw.UplinkRXInfo)
    (frame : Gw.DownlinkFrame) : Prop where
  gatewayId : frame.txInfo.gatewayId = (w.getGatewayID rxInfo).bytes
  board : frame.txInfo.board = rxInfo.board
  antenna : frame.txInfo.antenna = rxInfo.antenna
  context : frame.txInfo.context = rxInfo.context

/-- The power a candidate is sent with: the configured power converted to `int32` unless it is
`-1`, the band's power for the candidate's frequency otherwise. -/
def PowerFor (s : NetworkSettings) (w : World PHYPayload) (frame : Gw.DownlinkFrame) : Prop :=
  frame.txInfo.power =
    if s.downlinkTXPower = -1 then toInt32 (w.band.getDownlinkTXPower frame.txInfo.frequency.toNat)
    else toInt32 s.downlinkTXPower

/-- The RX1 candidate of a join-accept: through the first gateway that heard the uplink, on the
band's RX1 frequency for the uplink frequency, at the RX1 data-rate for the uplink data-rate
with offset 0, after `JoinAcceptDelay1`. -/
structure IsRX1Candidate (s : NetworkSettings) (w : World PHYPayload) (rxPacket : RXPacket)
    (frame : Gw.DownlinkFrame) : Prop where
  gateway : ∃ rxInfo, rxPacket.rxInfoSet.head? = some rxInfo ∧ ThroughGateway w rxInfo frame
  dataRate : ∃ rx1DR, w.band.getRX1DataRateIndex rxPacket.dr 0 = .ok rx1DR ∧
    w.setDownlinkTXInfoDataRate rx1DR = .ok frame.txInfo.modulationInfo
  frequency : ∃ freq, w.band.getRX1FrequencyForUplinkFrequency rxPacket.txInfo.frequency.toNat =
    .ok freq ∧ frame.txInfo.frequency = toUint32 freq
  timing : frame.txInfo.timing = .DELAY
  delay : frame.txInfo.delayTimingInfo = w.band.getDefaults.joinAcceptDelay1
  power : PowerFor s w frame

/-- The RX2 candidate of a join-accept: through the first gateway that heard the uplink, on the
band's default RX2 frequency and data-rate, after `JoinAcceptDelay2`. -/
structure IsRX2Candidate (s : NetworkSettings) (w : World PHYPayload) (rxPacket : RXPacket)
    (frame : Gw.DownlinkFrame) : Prop where
  gateway : ∃ rxInfo, rxPacket.rxInfoSet.head? = some rxInfo ∧ ThroughGateway w rxInfo frame
  dataRate : w.setDownlinkTXInfoDataRate w.band.getDefaults.rx2DataRate =
    .ok frame.txInfo.modulationInfo
  frequency : frame.txInfo.frequency = toUint32 w.band.getDefaults.rx2Frequency
  timing : frame.txInfo.timing = .DELAY
  delay : frame.txInfo.delayTimingInfo = w.band.getDefaults.joinAcceptDelay2
  power : PowerFor s w frame

variable (s : NetworkSettings) (w : World PHYPayload) {ctx : Context} {ds : DeviceSession}
  {rxPacket : RXPacket} {phy : PHYPayload}

theorem candidate_powerFor (rxInfo : DeviceGatewayRXInfo) (frequency : UInt32)
    (modulationInfo : Gw.ModulationInfo) (delay : Duration) :
    PowerFor s w (candidate s w rxInfo frequency modulationInfo delay) := by
  unfold PowerFor candidate txPower
  split <;> simp_all

/-- Where the code's rule and the rule "the configured power when it is at least 0, the band's
otherwise" agree: for a configured power of `-1` or in the non-negative range of `int32`, and a
band power in the range of `int32`. -/
theorem power_eq_spec_rule_of_range {frame : Gw.DownlinkFrame} (power : PowerFor s w frame)
    (configured : s.downlinkTXPower = -1 ∨ 0 ≤ s.downlinkTXPower ∧ s.downlinkTXPower < 2147483648)
    (bandPower : -2147483648 ≤ w.band.getDownlinkTXPower frame.txInfo.frequency.toNat ∧
      w.band.getDownlinkTXPower frame.txInfo.frequency.toNat < 2147483648) :
    frame.txInfo.power = if 0 ≤ s.downlinkTXPower then s.downlinkTXPower
      else w.band.getDownlinkTXPower frame.txInfo.frequency.toNat := by
  unfold PowerFor at power
  rw [power]
  rcases configured with useBand | ⟨low, high⟩
  · rw [if_pos useBand, if_neg (by omega), toInt32_of_range bandPower.1 bandPower.2]
  · rw [if_neg (by omega), if_pos low, toInt32_of_range (by omega) high]

theorem power_eq_spec_rule_of_range_example :
    (candidate ⟨0, 20⟩ exampleWorld (toDeviceGatewayRXInfo exampleWorld
        exampleRXPacket.rxInfoSet[0]) 868100000 (.lora 125 7 "4/5" true) 5000000000).txInfo.power =
      20 :=
  power_eq_spec_rule_of_range ⟨0, 20⟩ exampleWorld (candidate_powerFor _ _ _ _ _ _)
    (.inr ⟨by decide, by decide⟩) ⟨by decide, by decide⟩

/-- The first reception `setDeviceGatewayRXInfo` records is that of the first gateway of the
uplink. -/
theorem received_head {rxInfo : DeviceGatewayRXInfo}
    (first : (received w ctx ds rxPacket phy).deviceGatewayRXInfo.head? = some rxInfo) :
    ∃ uplinkRXInfo, rxPacket.rxInfoSet.head? = some uplinkRXInfo ∧
      rxInfo = toDeviceGatewayRXInfo w uplinkRXInfo := by
  simp only [received, List.head?_map, Option.map_eq_some'] at first
  obtain ⟨uplinkRXInfo, head, rfl⟩ := first
  exact ⟨uplinkRXInfo, head, rfl⟩

theorem candidate_throughGateway {uplinkRXInfo : Gw.UplinkRXInfo} (frequency : UInt32)
    (modulationInfo : Gw.ModulationInfo) (delay : Duration) :
    ThroughGateway w uplinkRXInfo
      (candidate s w (toDeviceGatewayRXInfo w uplinkRXInfo) frequency modulationInfo delay) :=
  ⟨rfl, rfl, rfl, rfl⟩

theorem appendsRX1_isRX1Candidate {frame : Gw.DownlinkFrame}
    (appends : AppendsRX1 s w (received w ctx ds rxPacket phy) frame) :
    IsRX1Candidate s w rxPacket frame := by
  obtain ⟨rxInfo, rx1DR, modulationInfo, freq, first, dr, rate, frequency, rfl⟩ := appends
  obtain ⟨uplinkRXInfo, head, rfl⟩ := received_head w first
  exact ⟨⟨uplinkRXInfo, head, candidate_throughGateway s w _ _ _⟩, ⟨rx1DR, dr, rate⟩,
    ⟨freq, frequency, rfl⟩, rfl, rfl, candidate_powerFor s w _ _ _ _⟩

theorem appendsRX2_isRX2Candidate {frame : Gw.DownlinkFrame}
    (appends : AppendsRX2 s w (received w ctx ds rxPacket phy) frame) :
    IsRX2Candidate s w rxPacket frame := by
  obtain ⟨rxInfo, modulationInfo, first, rate, rfl⟩ := appends
  obtain ⟨uplinkRXInfo, head, rfl⟩ := received_head w first
  exact ⟨⟨uplinkRXInfo, head, candidate_throughGateway s w _ _ _⟩, rate, rfl, rfl, rfl,
    candidate_powerFor s w _ _ _ _⟩

/-- The first two tasks: the receptions, then the candidates. -/
theorem runTasks_take_two (jctx : JoinContext PHYPayload) :
    runTasks ((tasks s w).take 2) jctx =
      .ofExcept (setDeviceGatewayRXInfo w jctx >>= setTXInfo s w) := by
  have done : (runTasks [] : Task PHYPayload) = Effects.pure := rfl
  rw [← Effects.bind_pure (Effects.ofExcept _)]
  simp only [tasks, List.take, runTasks, Effects.ofExcept_bind_ofExcept, done]

/-- The candidates of a join-accept, as `setTXInfo` leaves them after the receptions were
collected: the RX1 candidate for windows 0 and 1, then the RX2 candidate for windows 0
and 2, each with the power of `PowerFor`. -/
theorem setTXInfo_candidates {withCandidates : JoinContext PHYPayload}
    (succeeded : (runTasks ((tasks s w).take 2) (initialContext ctx ds rxPacket phy)).result =
      .ok withCandidates) :
    ∃ rx1 rx2 : Option Gw.DownlinkFrame,
      withCandidates.downlinkFrames = rx1.toList ++ rx2.toList ∧
      (rx1.isSome ↔ s.rxWindow = 0 ∨ s.rxWindow = 1) ∧
      (rx2.isSome ↔ s.rxWindow = 0 ∨ s.rxWindow = 2) ∧
      (∀ frame ∈ rx1, IsRX1Candidate s w rxPacket frame) ∧
      (∀ frame ∈ rx2, IsRX2Candidate s w rxPacket frame) := by
  rw [runTasks_take_two] at succeeded
  obtain ⟨withReceptions, first, second⟩ := except_bind_eq_ok.mp succeeded
  obtain ⟨-, rfl⟩ := (setDeviceGatewayRXInfo_eq_ok w).mp first
  obtain ⟨rx1, rx2, rfl, served1, served2, appends1, appends2⟩ := setTXInfo_eq_ok s w second
  exact ⟨rx1, rx2, rfl, served1, served2,
    fun frame mem => appendsRX1_isRX1Candidate s w (appends1 frame mem),
    fun frame mem => appendsRX2_isRX2Candidate s w (appends2 frame mem)⟩

theorem setTXInfo_candidates_example :
    (runTasks ((tasks ⟨0, -1⟩ exampleWorld).take 2)
        (initialContext ⟨none⟩ exampleSession exampleRXPacket ())).result =
      .ok { received exampleWorld ⟨none⟩ exampleSession exampleRXPacket () with
        downlinkFrames :=
          [candidate ⟨0, -1⟩ exampleWorld (toDeviceGatewayRXInfo exampleWorld
              exampleRXPacket.rxInfoSet[0]) 868100000 (.lora 125 7 "4/5" true) 5000000000,
            candidate ⟨0, -1⟩ exampleWorld (toDeviceGatewayRXInfo exampleWorld
              exampleRXPacket.rxInfoSet[0]) 869525000 (.lora 125 12 "4/5" true) 6000000000] } ∧
      ∃ rx1 rx2 : Option Gw.DownlinkFrame,
        [candidate ⟨0, -1⟩ exampleWorld (toDeviceGatewayRXInfo exampleWorld
            exampleRXPacket.rxInfoSet[0]) 868100000 (.lora 125 7 "4/5" true) 5000000000,
          candidate ⟨0, -1⟩ exampleWorld (toDeviceGatewayRXInfo exampleWorld
            exampleRXPacket.rxInfoSet[0]) 869525000 (.lora 125 12 "4/5" true) 6000000000] =
          rx1.toList ++ rx2.toList ∧
        (rx1.isSome ↔ (0 : Int) = 0 ∨ (0 : Int) = 1) ∧
        (rx2.isSome ↔ (0 : Int) = 0 ∨ (0 : Int) = 2) ∧
        (∀ frame ∈ rx1, IsRX1Candidate ⟨0, -1⟩ exampleWorld exampleRXPacket frame) ∧
        (∀ frame ∈ rx2, IsRX2Candidate ⟨0, -1⟩ exampleWorld exampleRXPacket frame) :=
  ⟨rfl, @setTXInfo_candidates _ ⟨0, -1⟩ exampleWorld ⟨none⟩ exampleSession exampleRXPacket () _ rfl⟩

/-- A configured power of `-2`, which the rule "the configured power when it is at least 0,
the band's otherwise" sends at the band's 14 dBm, is sent as it is. -/
theorem setTXInfo_negative_power_kept :
    ((runTasks ((tasks ⟨0, -2⟩ exampleWorld).take 2)
        (initialContext ⟨none⟩ exampleSession exampleRXPacket ())).result.map fun jctx =>
      jctx.downlinkFrames.map fun frame => frame.txInfo.power) = .ok [-2, -2] ∧
      exampleBand.getDownlinkTXPower 868100000 = 14 ∧
      exampleBand.getDownlinkTXPower 869525000 = 14 :=
  ⟨rfl, rfl, rfl⟩

/-- The frames of one join-accept: one token drawn from the random source, the context id, the
marshalled join-accept and the gateway that first heard the uplink, on every frame. -/
structure OneJoinAccept (w : World PHYPayload) (ctx : Context) (rxPacket : RXPacket)
    (phy : PHYPayload) (frames : List Gw.DownlinkFrame) : Prop where
  token : ∃ b, w.randRead.head = .ok b ∧ (bigEndianUint16 b).toUInt32.toNat < 65536 ∧
    ∀ frame ∈ frames, frame.token = (bigEndianUint16 b).toUInt32
  downlinkId : ∀ frame ∈ frames, frame.downlinkId = (downID ctx).bytes
  phyPayload : ∃ phyB, w.marshalBinary phy = .ok phyB ∧ ∀ frame ∈ frames, frame.phyPayload = phyB
  gateway : ∃ rxInfo, rxPacket.rxInfoSet.head? = some rxInfo ∧
    ∀ frame ∈ frames, ThroughGateway w rxInfo frame

/-- Two frames of one join-accept carry the same token and downlink id. -/
theorem OneJoinAccept.agree {w : World PHYPayload} {ctx : Context} {rxPacket : RXPacket}
    {phy : PHYPayload} {frames : List Gw.DownlinkFrame} {frame other : Gw.DownlinkFrame}
    (one : OneJoinAccept w ctx rxPacket phy frames) (mem : frame ∈ frames)
    (otherMem : other ∈ frames) :
    other.token = frame.token ∧ other.downlinkId = frame.downlinkId := by
  obtain ⟨b, -, -, tokens⟩ := one.token
  rw [tokens frame mem, tokens other otherMem, one.downlinkId frame mem,
    one.downlinkId other otherMem]
  exact ⟨rfl, rfl⟩

/-- What `downID` holds: the uuid under `logging.ContextIDKey` when the context carries one,
sixteen zero bytes otherwise. -/
theorem downID_cases (ctx : Context) :
    (∃ id, ctx.contextID = some (.uuid id) ∧ downID ctx = id) ∨
      (∀ id, ctx.contextID ≠ some (.uuid id)) ∧ (downID ctx).bytes = List.replicate 16 0 := by
  unfold downID
  split
  · rename_i id carried
    exact .inl ⟨id, carried, rfl⟩
  · rename_i noUUID
    exact .inr ⟨noUUID, rfl⟩

theorem ThroughGateway.of_txInfo {rxInfo : Gw.UplinkRXInfo} {frame other : Gw.DownlinkFrame}
    (through : ThroughGateway w rxInfo frame) (same : other.txInfo = frame.txInfo) :
    ThroughGateway w rxInfo other := by
  obtain ⟨gatewayId, board, antenna, context⟩ := through
  exact ⟨same ▸ gatewayId, same ▸ board, same ▸ antenna, same ▸ context⟩

theorem throughGateway_of_head {rxInfo : Gw.UplinkRXInfo} {frame : Gw.DownlinkFrame}
    (through : ∃ rxInfo, rxPacket.rxInfoSet.head? = some rxInfo ∧ ThroughGateway w rxInfo frame)
    (head : rxPacket.rxInfoSet.head? = some rxInfo) : ThroughGateway w rxInfo frame := by
  obtain ⟨first, firstHead, firstThrough⟩ := through
  rwa [Option.some.inj (head.symm.trans firstHead)]

/-- The candidates that reach `sendJoinAcceptResponse` are versions of one join-accept. -/
theorem prepare_oneJoinAccept {reached : JoinContext PHYPayload}
    (prepared : prepare s w (initialContext ctx ds rxPacket phy) = .ok reached) :
    OneJoinAccept w ctx rxPacket phy reached.downlinkFrames := by
  obtain ⟨b, phyB, rx1, rx2, nonempty, random, marshalled, -, -, appends1, appends2, rfl⟩ :=
    prepare_initialContext_eq_ok s w prepared
  obtain ⟨rxInfo, head⟩ := Option.ne_none_iff_exists'.mp
    (by simpa using nonempty : rxPacket.rxInfoSet.head? ≠ none)
  have candidates : ∀ frame ∈ rx1.toList ++ rx2.toList, ThroughGateway w rxInfo frame := by
    intro frame mem
    rcases List.mem_append.mp mem with mem | mem
    · exact throughGateway_of_head w
        (appendsRX1_isRX1Candidate s w (appends1 frame (Option.mem_toList.mp mem))).gateway head
    · exact throughGateway_of_head w
        (appendsRX2_isRX2Candidate s w (appends2 frame (Option.mem_toList.mp mem))).gateway head
  exact ⟨⟨b, random, (bigEndianUint16 b).toBitVec.isLt, List.forall_mem_map.mpr fun _ _ => rfl⟩,
    List.forall_mem_map.mpr fun _ _ => rfl,
    ⟨phyB, marshalled, List.forall_mem_map.mpr fun _ _ => rfl⟩,
    ⟨rxInfo, head, List.forall_mem_map.mpr fun frame mem => (candidates frame mem).of_txInfo w rfl⟩⟩

/-- The frame handed to the gateway backend and every frame handed to the store carry the same
token and downlink id. -/
theorem handle_sent_saved_agree {frame : Gw.DownlinkFrame} {devEUI : EUI64}
    {remaining : List Gw.DownlinkFrame}
    (sent : Call.sendTXPacket frame ∈ (handle s w ctx ds rxPacket phy).calls)
    (saved : Call.saveDownlinkFrames devEUI remaining ∈ (handle s w ctx ds rxPacket phy).calls) :
    ∀ other ∈ remaining, other.token = frame.token ∧ other.downlinkId = frame.downlinkId := by
  obtain ⟨reached, prepared, head⟩ := (handle_sendTXPacket_first s w).2 frame sent
  obtain ⟨reached', first, prepared', frames, -⟩ :=
    (handle_saveDownlinkFrames_after_send s w).2 devEUI remaining saved
  obtain rfl : reached' = reached := Except.ok.inj (prepared'.symm.trans prepared)
  intro other mem
  exact (prepare_oneJoinAccept s w prepared).agree (List.mem_of_mem_head? head)
    (frames ▸ List.mem_cons_of_mem _ mem)

/-- An acknowledgement that echoes the downlink id of the frame handed to the gateway backend
gets the join request's context id back. -/
theorem handle_ack_contextID {frame : Gw.DownlinkFrame}
    (sent : Call.sendTXPacket frame ∈ (handle s w ctx ds rxPacket phy).calls)
    {ack : Gw.DownlinkTXAck} (echoed : ack.downlinkId = some frame.downlinkId) :
    Uplink.downlinkTXAckContextID ack = downID ctx := by
  obtain ⟨reached, prepared, head⟩ := (handle_sendTXPacket_first s w).2 frame sent
  rw [(prepare_oneJoinAccept s w prepared).downlinkId frame (List.mem_of_mem_head? head)] at echoed
  exact Uplink.downlinkTXAckContextID_of_echo echoed

/-- When `Handle` reaches `sendJoinAcceptResponse`, its candidates are versions of one
join-accept; the downlink id is the context id when the context carries one and zero
otherwise; the frame sent and the frames saved agree on token and downlink id; and an
acknowledgement that echoes the sent frame's downlink id gets the context id back. -/
theorem handle_frames_interchangeable {reached : JoinContext PHYPayload}
    (reachedSend : (runTasks ((tasks s w).take 4) (initialContext ctx ds rxPacket phy)).result =
      .ok reached) :
    OneJoinAccept w ctx rxPacket phy reached.downlinkFrames ∧
    ((∃ id, ctx.contextID = some (.uuid id) ∧ downID ctx = id) ∨
      (∀ id, ctx.contextID ≠ some (.uuid id)) ∧ (downID ctx).bytes = List.replicate 16 0) ∧
    (∀ frame devEUI remaining, Call.sendTXPacket frame ∈ (handle s w ctx ds rxPacket phy).calls →
      Call.saveDownlinkFrames devEUI remaining ∈ (handle s w ctx ds rxPacket phy).calls →
      ∀ other ∈ remaining, other.token = frame.token ∧ other.downlinkId = frame.downlinkId) ∧
    (∀ frame, Call.sendTXPacket frame ∈ (handle s w ctx ds rxPacket phy).calls →
      ∀ ack : Gw.DownlinkTXAck, ack.downlinkId = some frame.downlinkId →
        Uplink.downlinkTXAckContextID ack = downID ctx) := by
  rw [runTasks_take_result] at reachedSend
  exact ⟨prepare_oneJoinAccept s w reachedSend, downID_cases ctx,
    fun _ _ _ sent saved => handle_sent_saved_agree s w sent saved,
    fun _ sent _ echoed => handle_ack_contextID s w sent echoed⟩

/-- A join request answered under a context id, in both windows. -/
theorem handle_frames_interchangeable_example :
    ∃ reached, (runTasks ((tasks ⟨0, -1⟩ exampleWorld).take 4)
        (initialContext ⟨some (.uuid ⟨(List.range 16).map Nat.toUInt8, rfl⟩)⟩ exampleSession
          exampleRXPacket ())).result = .ok reached ∧
      OneJoinAccept exampleWorld ⟨some (.uuid ⟨(List.range 16).map Nat.toUInt8, rfl⟩)⟩
          exampleRXPacket () reached.downlinkFrames ∧
      reached.downlinkFrames.length = 2 := by
  refine ⟨_, rfl, (@handle_frames_interchangeable _ ⟨0, -1⟩ exampleWorld
    ⟨some (.uuid ⟨(List.range 16).map Nat.toUInt8, rfl⟩)⟩ exampleSession exampleRXPacket () _
    rfl).1,
    rfl⟩

/-- A join request handled under the context that the goroutine of `HandleUplinkFrames` built:
the goroutine of `HandleDownlinkTXAcks` that handles an acknowledgement echoing the downlink id
of the frame sent builds the same context, so the log lines of the uplink, of its join-accept
and of the acknowledgement share one context id. -/
theorem handle_ack_context_of_uplink {ctxID : UUID} {frame : Gw.DownlinkFrame}
    (sent : Call.sendTXPacket frame ∈
      (handle s w (Uplink.uplinkFrameContext ctxID) ds rxPacket phy).calls)
    {ack : Gw.DownlinkTXAck} (echoed : ack.downlinkId = some frame.downlinkId) :
    Uplink.downlinkTXAckContext ack = Uplink.uplinkFrameContext ctxID := by
  rw [Uplink.downlinkTXAckContext, handle_ack_contextID s w sent echoed]
  rfl

theorem handle_ack_context_of_uplink_example :
    ∃ frame, Call.sendTXPacket frame ∈ (handle ⟨0, -1⟩ exampleWorld
        (Uplink.uplinkFrameContext ⟨(List.range 16).map Nat.toUInt8, rfl⟩) exampleSession
        exampleRXPacket ()).calls ∧
      Uplink.downlinkTXAckContext ⟨some frame.downlinkId⟩ =
        Uplink.uplinkFrameContext ⟨(List.range 16).map Nat.toUInt8, rfl⟩ :=
  ⟨_, List.mem_cons_self _ _, @handle_ack_context_of_uplink _ ⟨0, -1⟩ exampleWorld exampleSession
    exampleRXPacket () ⟨(List.range 16).map Nat.toUInt8, rfl⟩ _ (List.mem_cons_self _ _) _ rfl⟩

end LoraServer.Join
