import Republisher.MstpFrame

/-!
# A master station on a serial bus

A station may send only while it has the token. It then sends what is queued, asks from time to
time whether there is a station behind it, and passes the token on. Everything it does follows a
frame that it received or the end of a wait.
-/

namespace BacnetTransport

/-- The states of a station. -/
inductive MasterState
  | idle
  | noToken
  | useToken
  | doneWithToken
  | passToken
  | waitForReply
  | pollForMaster
  | answerDataRequest
  deriving DecidableEq, Repr

/-- How a station is set up. -/
structure MstpConfig where
  thisStation : UInt8 := 0
  maxMaster : UInt8 := BacnetTransport.maxMaster
  maxInfoFrames : UInt8 := 1
  baudRate : UInt32 := 9600
  deriving DecidableEq, Repr

/-- A station. -/
structure MasterNode where
  config : MstpConfig
  state : MasterState
  nextStation : UInt8
  pollStation : UInt8
  tokenCount : UInt8
  frameCount : UInt8
  txQueue : List (UInt8 × Bytes)
  soleMaster : Bool
  pollCount : UInt8
  retryTokenCount : UInt8
  /-- There is a channel for the answer to a request. -/
  replyRx : Bool
  pendingReplySource : Option UInt8
  tSlotMs : ℕ
  eventCount : UInt32
  expectedReplySource : Option UInt8
  deriving DecidableEq, Repr

/-- A packet for the network layer, and whether an answer to it is waited for. -/
structure Indication where
  npdu : Bytes
  sourceMac : Bytes
  replyTx : Bool
  deriving DecidableEq, Repr

/-! ## Times and counts -/

/-- The milliseconds without a frame after which the token is taken as lost. -/
def tNoTokenMs : ℕ := 500

/-- The milliseconds that an answer is waited for. -/
def tReplyTimeoutMs : ℕ := 255

/-- The milliseconds in which the next station begins to use the token. -/
def tUsageTimeoutMs : ℕ := 20

/-- The milliseconds of a slot. -/
def calculateTSlotMs (_baudRate : UInt32) : ℕ := 10

/-- The milliseconds that a station takes at most to answer. -/
def tReplyDelayMs : ℕ := 250

/-- How often passing the token is tried again. -/
def nRetryToken : UInt8 := 1

/-- The packets that may be queued. -/
def maxTxQueueDepth : ℕ := 256

/-- The tokens between two polls. -/
def nPoll : UInt8 := 50

/-- How often a station is polled. -/
def maxPollRetries : UInt8 := 3

/-- The next address, which is zero after the largest. -/
def nextAddr (current maxMaster : UInt8) : UInt8 := if current ≥ maxMaster then 0 else current + 1

namespace MasterNode

/-- A station that was set up. -/
def new (config : MstpConfig) : Except Error MasterNode :=
  if config.thisStation > BacnetTransport.maxMaster then
    .error (.encoding (s!"MS/TP this_station {config.thisStation.toNat} exceeds MAX_MASTER " ++
      s!"({BacnetTransport.maxMaster.toNat})"))
  else
    .ok {
      config := config
      state := .idle
      nextStation := config.thisStation
      pollStation := config.thisStation
      tokenCount := nPoll
      frameCount := 0
      txQueue := []
      soleMaster := false
      pollCount := 0
      retryTokenCount := 0
      replyRx := false
      pendingReplySource := none
      tSlotMs := calculateTSlotMs config.baudRate
      eventCount := 0
      expectedReplySource := none }

/-- A frame of the station that carries nothing. -/
def bare (frameType : FrameType) (destination : UInt8) (n : MasterNode) : MstpFrame :=
  ⟨frameType, destination, n.config.thisStation, []⟩

/-! ## What a station sends with the token -/

/-- Passes the token. -/
def passToken (n : MasterNode) : MstpFrame × MasterNode :=
  (n.bare .token n.nextStation, { n with state := .passToken, retryTokenCount := 0 })

/-- The type of frame for a packet: a packet for one station says itself whether it is answered. -/
def dataType (dest : UInt8) (npdu : Bytes) : FrameType :=
  if dest = broadcastMac then .bacnetDataNotExpectingReply
  else if npdu.length ≥ 2 ∧ byteAt npdu 1 &&& 0x04 ≠ 0 then .bacnetDataExpectingReply
  else .bacnetDataNotExpectingReply

/-- Sends the first packet of the queue. -/
def sendFirst (dest : UInt8) (npdu : Bytes) (rest : List (UInt8 × Bytes)) (n : MasterNode) :
    MstpFrame × MasterNode :=
  let frameCount := n.frameCount + 1
  (⟨dataType dest npdu, dest, n.config.thisStation, npdu⟩,
    { n with
      txQueue := rest
      frameCount := frameCount
      expectedReplySource :=
        if dataType dest npdu = .bacnetDataExpectingReply then some dest
        else n.expectedReplySource
      state := if frameCount ≥ n.config.maxInfoFrames then .doneWithToken else n.state })

/-- Polls for the station behind the next one when it is time, and passes the token otherwise. -/
def pollOrPass (n : MasterNode) : MstpFrame × MasterNode :=
  if n.tokenCount ≥ nPoll then
    let pollStation := nextAddr n.nextStation n.config.maxMaster
    let n := { n with tokenCount := 0, state := .pollForMaster, pollStation := pollStation }
    if pollStation = n.config.thisStation then n.passToken
    else (n.bare .pollForMaster pollStation, n)
  else
    n.passToken

/-- What a station with the token sends next. -/
def useToken (n : MasterNode) : MstpFrame × MasterNode :=
  if n.frameCount < n.config.maxInfoFrames then
    match n.txQueue with
    | (dest, npdu) :: rest => n.sendFirst dest npdu rest
    | [] => n.pollOrPass
  else
    { n with state := .doneWithToken }.passToken

/-- A station with the token sends until it has passed it, polls or waits for an answer. A frame
that cannot be written ends it, too. -/
def tokenLoop : ℕ → MasterNode → MasterNode × List MstpFrame
  | 0, n => (n, [])
  | fuel + 1, n =>
    if n.state = .doneWithToken then
      let (token, n) := n.passToken
      (n, [token])
    else if n.state = .useToken then
      let (frame, n) := n.useToken
      match encodeFrame frame with
      | .error _ => (n, [])
      | .ok _ =>
        if frame.frameType = .bacnetDataExpectingReply then
          ({ n with state := .waitForReply }, [frame])
        else if frame.frameType = .token then (n, [frame])
        else
          let (n, frames) := tokenLoop fuel n
          (n, frame :: frames)
    else (n, [])

/-- Passes enough rounds of that. -/
def spendToken (n : MasterNode) : MasterNode × List MstpFrame := tokenLoop (n.txQueue.length + 2) n

/-! ## Frames that a station receives -/

/-- One more event, as far as they are counted. -/
def countEvent (n : MasterNode) : MasterNode :=
  { n with eventCount := if n.eventCount = 0xFFFFFFFF then n.eventCount else n.eventCount + 1 }

/-- A packet for the network layer. -/
def indicate (frame : MstpFrame) (replyTx : Bool) : Indication :=
  ⟨frame.data, [frame.source], replyTx⟩

/-- What a frame does to a station, and what the station answers and hands on. -/
def handleReceivedFrame (frame : MstpFrame) (n : MasterNode) :
    MasterNode × Option MstpFrame × List Indication :=
  let n := n.countEvent
  -- another station uses the token
  let n := if n.state = .passToken then { n with state := .idle } else n
  let mine := frame.destination = n.config.thisStation
  match frame.frameType with
  | .token =>
      if mine then
        ({ n with
            soleMaster := false, state := .useToken, frameCount := 0,
            tokenCount := n.tokenCount + 1, retryTokenCount := 0 }, none, [])
      else (n, none, [])
  | .pollForMaster =>
      if mine then (n, some (n.bare .replyToPollForMaster frame.source), []) else (n, none, [])
  | .replyToPollForMaster =>
      if n.state = .pollForMaster ∧ mine then
        let (token, n) := { n with
          nextStation := frame.source, soleMaster := false, pollStation := n.config.thisStation,
          tokenCount := 0, pollCount := 0 }.passToken
        (n, some token, [])
      else (n, none, [])
  | .bacnetDataNotExpectingReply =>
      if n.state = .waitForReply ∧ mine then
        ({ n with expectedReplySource := none, state := .doneWithToken }, none,
          if n.expectedReplySource = some frame.source then [indicate frame false] else [])
      else if mine ∨ frame.destination = broadcastMac then (n, none, [indicate frame false])
      else (n, none, [])
  | .bacnetDataExpectingReply =>
      if mine then
        ({ n with
            state := .answerDataRequest, pendingReplySource := some frame.source,
            replyRx := true }, none, [indicate frame true])
      else (n, none, [])
  | .testRequest =>
      if mine then
        (n, some ⟨.testResponse, frame.source, n.config.thisStation, frame.data⟩, [])
      else (n, none, [])
  | .replyPostponed =>
      if n.state = .waitForReply ∧ mine then
        ({ n with expectedReplySource := none, state := .doneWithToken }, none, [])
      else (n, none, [])
  | .testResponse | .unknown _ => (n, none, [])

/-- How long a station waits after a frame. -/
def waitAfterFrame (n : MasterNode) : ℕ :=
  match n.state with
  | .idle | .noToken => tNoTokenMs
  | .pollForMaster => n.tSlotMs
  | .waitForReply => tReplyTimeoutMs
  | .answerDataRequest => tReplyDelayMs
  | .passToken | .useToken | .doneWithToken => tUsageTimeoutMs

/-- What a station does with a frame: what it sends, what it hands on and how long it waits then.
When its answer cannot be written it does nothing more and waits on as before. -/
def onFrame (frame : MstpFrame) (n : MasterNode) :
    MasterNode × List MstpFrame × List Indication × Option ℕ :=
  let (n, response, indications) := n.handleReceivedFrame frame
  match response with
  | some answer =>
      match encodeFrame answer with
      | .error _ => (n, [], indications, none)
      | .ok _ =>
          let (n, frames) := n.spendToken
          (n, answer :: frames, indications, some n.waitAfterFrame)
  | none =>
      let (n, frames) := n.spendToken
      (n, frames, indications, some n.waitAfterFrame)

/-! ## The end of a wait -/

/-- The next station did not use the token. -/
def passTokenTimeout (n : MasterNode) : Option MstpFrame × MasterNode :=
  if n.retryTokenCount < nRetryToken then
    let n := { n with retryTokenCount := n.retryTokenCount + 1 }
    (some (n.bare .token n.nextStation), n)
  else if n.nextStation = n.config.thisStation then
    (none, { n with state := .noToken })
  else
    let n := { n with nextStation := nextAddr n.nextStation n.config.maxMaster }
    if n.nextStation = n.config.thisStation then
      (none, { n with soleMaster := true, state := .useToken, frameCount := 0 })
    else
      let n := { n with retryTokenCount := 0 }
      (some (n.bare .token n.nextStation), n)

/-- Polls the station whose turn it is. -/
def poll (n : MasterNode) : MstpFrame × MasterNode :=
  (n.bare .pollForMaster n.pollStation, { n with state := .pollForMaster })

/-- No station answered a poll. -/
def pollTimeout (n : MasterNode) : MstpFrame × MasterNode :=
  let n := { n with pollCount := n.pollCount + 1 }
  if n.pollCount ≥ maxPollRetries then
    let n := { n with pollCount := 0, pollStation := nextAddr n.pollStation n.config.maxMaster }
    if n.pollStation = n.config.thisStation then
      if n.nextStation = n.config.thisStation then
        let n := { n with soleMaster := true, state := .useToken, frameCount := 0, tokenCount := 0 }
        (n.bare .token n.config.thisStation, n)
      else n.passToken
    else if n.pollStation = n.nextStation then n.passToken
    else n.poll
  else n.poll

/-- A frame, if it can be written. -/
def written (frame : MstpFrame) : List MstpFrame :=
  match encodeFrame frame with
  | .ok _ => [frame]
  | .error _ => []

/-- How long a station waits that takes the token as lost. -/
def noTokenWait (n : MasterNode) : ℕ := tNoTokenMs + n.tSlotMs * n.config.thisStation.toNat

/-- What a station does at the end of a wait: what it sends and how long it waits then. An answer
that the application has given by then is sent. -/
def onTimeout (reply : Option Bytes) (n : MasterNode) : MasterNode × List MstpFrame × ℕ :=
  match n.state with
  | .idle => ({ n with state := .noToken, retryTokenCount := 0 }, [], n.noTokenWait)
  | .noToken =>
      let pollStation := nextAddr n.config.thisStation n.config.maxMaster
      ({ n with pollStation := pollStation, state := .pollForMaster, pollCount := 0 },
        written (n.bare .pollForMaster pollStation), n.tSlotMs)
  | .pollForMaster =>
      let (frame, n) := n.pollTimeout
      (n, written frame, if n.state = .pollForMaster then n.tSlotMs else tUsageTimeoutMs)
  | .waitForReply =>
      ({ n with
          expectedReplySource := none, frameCount := n.config.maxInfoFrames,
          state := .doneWithToken }, [], tUsageTimeoutMs)
  | .answerDataRequest =>
      let dest := n.pendingReplySource.getD broadcastMac
      let answer := if n.replyRx then reply else none
      let frame : MstpFrame := match answer with
        | some data => ⟨.bacnetDataNotExpectingReply, dest, n.config.thisStation, data⟩
        | none => n.bare .replyPostponed dest
      ({ n with replyRx := false, pendingReplySource := none, state := .idle },
        written frame, tUsageTimeoutMs)
  | .passToken =>
      let (frame, n) := n.passTokenTimeout
      (n, frame.toList.flatMap written,
        if n.state = .noToken then n.noTokenWait else tUsageTimeoutMs)
  | .useToken | .doneWithToken =>
      let (token, n) := n.passToken
      (n, written token, tUsageTimeoutMs)

/-! ## Packets to send -/

/-- Queues a packet. -/
def queueNpdu (dest : UInt8) (npdu : Bytes) (n : MasterNode) : Except Error MasterNode :=
  if n.txQueue.length ≥ maxTxQueueDepth then .error (.transport "MS/TP TX queue full")
  else .ok { n with txQueue := n.txQueue ++ [(dest, npdu)] }

end MasterNode

end BacnetTransport
