import Republisher.MasterNode

/-!
# The token at one station

What a frame and the end of a wait do to a station: which packets it sends, and where the token is
then. A station with the token sends packets in the order of its queue and passes the token on once.
-/

namespace BacnetTransport.MasterNode

/-- The station may send. -/
def HasToken (n : MasterNode) : Prop :=
  n.state = .useToken ∨ n.state = .doneWithToken ∨ n.state = .waitForReply ∨
    n.state = .pollForMaster

instance (n : MasterNode) : Decidable n.HasToken := inferInstanceAs (Decidable (_ ∨ _))

/-- The packets in the queue can be written. -/
def Fits (n : MasterNode) : Prop := ∀ p ∈ n.txQueue, p.2.length ≤ maxMpduData

/-- The frame passes the token. -/
def isToken (f : MstpFrame) : Bool := f.frameType = .token

/-- The frame carries a packet of the network layer. -/
def isPacket (f : MstpFrame) : Bool :=
  f.frameType = .bacnetDataExpectingReply ∨ f.frameType = .bacnetDataNotExpectingReply

/-- The packets that frames carry. -/
def packets (frames : List MstpFrame) : List (UInt8 × Bytes) :=
  (frames.filter isPacket).map fun f => (f.destination, f.data)

/-- The frame is one of the station and can be written. -/
structure Own (n : MasterNode) (f : MstpFrame) : Prop where
  source : f.source = n.config.thisStation
  frameType : FrameType.fromRaw f.frameType.toRaw = f.frameType
  length : f.data.length ≤ maxMpduData

/-- A frame that can be written is written. -/
theorem Own.encodes {n : MasterNode} {f : MstpFrame} (h : n.Own f) :
    ∃ bytes, encodeFrame f = .ok bytes := ⟨_, encodeFrame_eq_ok.mpr ⟨h.length, rfl⟩⟩

/-- The frame with which a station stops sending: it passes the token or polls. -/
structure Ends (n : MasterNode) (frame : MstpFrame) (m : MasterNode) : Prop where
  config : m.config = n.config
  slot : m.tSlotMs = n.tSlotMs
  queue : m.txQueue = n.txQueue
  count : m.frameCount = n.frameCount
  own : n.Own frame
  stops : (frame.frameType = .token ∧ m.state = .passToken) ∨
    (frame.frameType = .pollForMaster ∧ m.state = .pollForMaster)

/-- A frame that carries nothing is one of the station. -/
theorem own_bare (n : MasterNode) (destination : UInt8) {frameType : FrameType}
    (h : FrameType.fromRaw frameType.toRaw = frameType) : n.Own (n.bare frameType destination) :=
  ⟨rfl, h, Nat.zero_le _⟩

/-- Passing the token ends it. -/
theorem passToken_ends (n : MasterNode) : n.Ends n.passToken.1 n.passToken.2 :=
  ⟨rfl, rfl, rfl, rfl, n.own_bare _ (by decide), .inl ⟨rfl, rfl⟩⟩

/-- So does polling. -/
theorem pollOrPass_ends (n : MasterNode) : n.Ends n.pollOrPass.1 n.pollOrPass.2 := by
  unfold pollOrPass
  dsimp only
  split_ifs
  · exact ⟨rfl, rfl, rfl, rfl, n.own_bare _ (by decide), .inl ⟨rfl, rfl⟩⟩
  · exact ⟨rfl, rfl, rfl, rfl, n.own_bare _ (by decide), .inr ⟨rfl, rfl⟩⟩
  · exact n.passToken_ends

/-- A station with the token sends the first packet of its queue or stops sending. -/
theorem useToken_cases (n : MasterNode) :
    (∃ dest npdu rest, n.frameCount < n.config.maxInfoFrames ∧
      n.txQueue = (dest, npdu) :: rest ∧ n.useToken = n.sendFirst dest npdu rest) ∨
    n.Ends n.useToken.1 n.useToken.2 := by
  unfold useToken
  by_cases hcount : n.frameCount < n.config.maxInfoFrames
  · rw [if_pos hcount]
    cases hqueue : n.txQueue with
    | nil => exact .inr n.pollOrPass_ends
    | cons first rest => exact .inl ⟨first.1, first.2, rest, hcount, rfl, rfl⟩
  · rw [if_neg hcount]
    exact .inr ⟨rfl, rfl, rfl, rfl, n.own_bare _ (by decide), .inl ⟨rfl, rfl⟩⟩

/-- The frame of a packet carries it. -/
theorem isPacket_dataType (dest : UInt8) (npdu : Bytes) (source : UInt8) :
    isPacket ⟨dataType dest npdu, dest, source, npdu⟩ = true := by
  unfold isPacket dataType
  split_ifs <;> simp

/-- The packets in the queue that can be written. -/
def fitting (n : MasterNode) : List (UInt8 × Bytes) :=
  n.txQueue.filter fun p => p.2.length ≤ maxMpduData

/-- How many packets a station may still send with its token. -/
def room (n : MasterNode) : ℕ := n.config.maxInfoFrames.toNat - n.frameCount.toNat

/-- What a station does that may send as many packets: it sends packets from the front of its queue
in their order. Those that cannot be written are lost. -/
structure Sends (room : ℕ) (n m : MasterNode) (out : List MstpFrame) : Prop where
  config : m.config = n.config
  slot : m.tSlotMs = n.tSlotMs
  queue : n.fitting = packets out ++ m.fitting
  rest : m.txQueue <:+ n.txQueue
  own : ∀ f ∈ out, n.Own f
  few : (packets out).length + m.room ≤ room

/-- A frame without a packet adds nothing to what is sent. -/
theorem packets_cons_of_not {f : MstpFrame} (h : isPacket f = false) (out : List MstpFrame) :
    packets (f :: out) = packets out := by
  rw [packets, List.filter_cons_of_neg (by rw [h]; exact Bool.false_ne_true), packets]

/-- Frames of the same station are its own after a step. -/
theorem Own.of_config {n m : MasterNode} {f : MstpFrame} (h : m.Own f) (hm : m.config = n.config) :
    n.Own f := ⟨by rw [h.source, hm], h.frameType, h.length⟩

/-- A station that does nothing sends nothing. -/
theorem Sends.refl (n : MasterNode) : n.Sends n.room n [] :=
  ⟨rfl, rfl, rfl, List.suffix_refl _, by simp, Nat.le_of_eq (Nat.zero_add _)⟩

/-- The last frame of a station with the token carries no packet. -/
theorem Ends.isPacket {n m : MasterNode} {frame : MstpFrame} (h : n.Ends frame m) :
    MasterNode.isPacket frame = false := by
  unfold MasterNode.isPacket
  rcases h.stops with ⟨hf, -⟩ | ⟨hf, -⟩ <;> simp [hf]

/-- What the last frame of a station with the token is. -/
theorem Ends.sends {n m : MasterNode} {frame : MstpFrame} (h : n.Ends frame m) :
    n.Sends n.room m [frame] := by
  have hnone : packets [frame] = [] := packets_cons_of_not h.isPacket []
  refine ⟨h.config, h.slot, ?_, ⟨[], h.queue⟩, ?_, ?_⟩
  · rw [hnone, fitting, fitting, h.queue]
    rfl
  · intro f hf
    obtain rfl := List.mem_singleton.mp hf
    exact h.own
  · rw [hnone, List.length_nil, Nat.zero_add, room, room, h.config, h.count]

/-- A station without the token sends nothing. -/
theorem tokenLoop_of_stopped {fuel : ℕ} {n : MasterNode}
    (h : ¬ (n.state = .useToken ∨ n.state = .doneWithToken)) : tokenLoop fuel n = (n, []) := by
  cases fuel with
  | zero => rfl
  | succ fuel =>
    rw [tokenLoop, if_neg (fun hdone => h (.inr hdone)), if_neg (fun huse => h (.inl huse))]

/-- Sending the first packet of the queue. -/
theorem sendFirst_sends {n : MasterNode} {dest : UInt8} {npdu : Bytes}
    {rest : List (UInt8 × Bytes)} (hqueue : n.txQueue = (dest, npdu) :: rest)
    (hcount : n.frameCount < n.config.maxInfoFrames) :
    (n.sendFirst dest npdu rest).2.txQueue = rest ∧
      (n.sendFirst dest npdu rest).2.config = n.config ∧
      (n.sendFirst dest npdu rest).2.tSlotMs = n.tSlotMs ∧
      n.room = (n.sendFirst dest npdu rest).2.room + 1 ∧
      (npdu.length ≤ maxMpduData → n.Own (n.sendFirst dest npdu rest).1) ∧
      rest <:+ n.txQueue := by
  refine ⟨rfl, rfl, rfl, ?_, fun hfits => ⟨rfl, ?_, hfits⟩, ?_⟩
  · have hroom := UInt8.lt_iff_toNat_lt.mp hcount
    have hmax := n.config.maxInfoFrames.toNat_lt
    have hnext : (n.frameCount + 1).toNat = n.frameCount.toNat + 1 := by
      rw [UInt8.toNat_add]
      exact Nat.mod_eq_of_lt (by rw [UInt8.toNat_one]; omega)
    show n.config.maxInfoFrames.toNat - n.frameCount.toNat =
      n.config.maxInfoFrames.toNat - (n.frameCount + 1).toNat + 1
    omega
  · show FrameType.fromRaw (dataType dest npdu).toRaw = dataType dest npdu
    unfold dataType
    split_ifs <;> rfl
  · rw [hqueue]
    exact List.suffix_cons _ _

/-- What is sent first goes before what is sent then. -/
theorem packets_append (out out' : List MstpFrame) :
    packets (out ++ out') = packets out ++ packets out' := by
  rw [packets, packets, packets, ← List.map_append, ← List.filter_append]

/-- What a station does after it has sent packets counts with them. -/
theorem Sends.trans {room : ℕ} {n m k : MasterNode} {out out' : List MstpFrame}
    (h : n.Sends room m out) (h' : m.Sends m.room k out') : n.Sends room k (out ++ out') := by
  refine ⟨h'.config.trans h.config, h'.slot.trans h.slot, ?_, h'.rest.trans h.rest, ?_, ?_⟩
  · rw [h.queue, h'.queue, packets_append, List.append_assoc]
  · intro f hf
    rcases List.mem_append.mp hf with hf | hf
    · exact h.own f hf
    · exact (h'.own f hf).of_config h.config
  · have hfew := h.few
    have hfew' := h'.few
    rw [packets_append, List.length_append]
    omega

/-- The first packet of the queue is sent when it can be written. -/
theorem sendFirst_written {n : MasterNode} {dest : UInt8} {npdu : Bytes}
    {rest : List (UInt8 × Bytes)} (hqueue : n.txQueue = (dest, npdu) :: rest)
    (hcount : n.frameCount < n.config.maxInfoFrames) (hfits : npdu.length ≤ maxMpduData) :
    n.Sends n.room (n.sendFirst dest npdu rest).2 [(n.sendFirst dest npdu rest).1] := by
  obtain ⟨hrest, hconfig, hslot, hroom, hown, hsuffix⟩ := sendFirst_sends hqueue hcount
  have hsent : packets [(n.sendFirst dest npdu rest).1] = [(dest, npdu)] := by
    have hpacket : isPacket (n.sendFirst dest npdu rest).1 = true := isPacket_dataType _ _ _
    rw [packets, List.filter_cons_of_pos hpacket]
    rfl
  refine ⟨hconfig, hslot, ?_, by rw [hrest]; exact hsuffix, fun f hf => ?_, ?_⟩
  · rw [hsent, fitting, fitting, hqueue, hrest, List.filter_cons_of_pos (by simpa using hfits)]
    rfl
  · obtain rfl := List.mem_singleton.mp hf
    exact hown hfits
  · rw [hsent, hroom, List.length_singleton, Nat.add_comm]

/-- Otherwise it is lost. -/
theorem sendFirst_lost {n : MasterNode} {dest : UInt8} {npdu : Bytes}
    {rest : List (UInt8 × Bytes)} (hqueue : n.txQueue = (dest, npdu) :: rest)
    (hcount : n.frameCount < n.config.maxInfoFrames) (hlong : ¬ npdu.length ≤ maxMpduData) :
    (∃ e, encodeFrame (n.sendFirst dest npdu rest).1 = .error e) ∧
      n.Sends n.room (n.sendFirst dest npdu rest).2 [] := by
  obtain ⟨hrest, hconfig, hslot, hroom, -, hsuffix⟩ := sendFirst_sends hqueue hcount
  have hsent : (n.sendFirst dest npdu rest).1.data = npdu := rfl
  refine ⟨?_, hconfig, hslot, ?_, by rw [hrest]; exact hsuffix, by simp, ?_⟩
  · unfold encodeFrame
    rw [hsent, if_pos (by omega)]
    exact ⟨_, rfl⟩
  · rw [fitting, fitting, hqueue, hrest, List.filter_cons_of_neg (by simpa using hlong)]
    rfl
  · show 0 + (n.sendFirst dest npdu rest).2.room ≤ n.room
    omega

/-- A station with the token sends the packets of its queue in their order, no more than it may. -/
theorem tokenLoop_sends (fuel : ℕ) (n : MasterNode) :
    n.Sends n.room (tokenLoop fuel n).1 (tokenLoop fuel n).2 := by
  induction fuel generalizing n with
  | zero => exact .refl n
  | succ fuel ih =>
    unfold tokenLoop
    by_cases hdone : n.state = .doneWithToken
    · rw [if_pos hdone]
      exact n.passToken_ends.sends
    rw [if_neg hdone]
    by_cases hstate : n.state = .useToken
    swap
    · rw [if_neg hstate]
      exact .refl n
    rw [if_pos hstate]
    rcases n.useToken_cases with ⟨dest, npdu, rest, hcount, hqueue, huse⟩ | hends
    · rw [huse]
      dsimp only
      by_cases hlong : npdu.length ≤ maxMpduData
      swap
      · -- the packet is gone
        obtain ⟨⟨e, he⟩, hlost⟩ := sendFirst_lost hqueue hcount hlong
        rw [he]
        exact hlost
      have hfirst := sendFirst_written hqueue hcount hlong
      obtain ⟨bytes, hbytes⟩ := (hfirst.own _ (List.mem_singleton_self _)).encodes
      rw [hbytes]
      dsimp only
      split_ifs
      · exact ⟨hfirst.config, hfirst.slot, hfirst.queue, hfirst.rest, hfirst.own, hfirst.few⟩
      · exact hfirst
      · exact hfirst.trans (ih _)
    · generalize n.useToken = r at hends
      obtain ⟨frame, m⟩ := r
      obtain ⟨bytes, hbytes⟩ := hends.own.encodes
      dsimp only at hends hbytes ⊢
      rw [hbytes]
      dsimp only
      rcases hends.stops with ⟨hframe, -⟩ | ⟨hframe, hm⟩
      · rw [if_neg (by rw [hframe]; simp), if_pos hframe]
        exact hends.sends
      · rw [if_neg (by rw [hframe]; simp), if_neg (by rw [hframe]; simp),
          tokenLoop_of_stopped (by rw [hm]; simp)]
        exact hends.sends

/-- How a station is left that had the token and whose packets can be written: it has sent a frame,
and has passed the token, polls or waits for an answer. -/
structure Stops (m : MasterNode) (out : List MstpFrame) : Prop where
  sent : out ≠ []
  state : (m.state = .passToken ∧ out.countP isToken = 1) ∨
    ((m.state = .waitForReply ∨ m.state = .pollForMaster) ∧ out.countP isToken = 0)

/-- What its last frame leaves. -/
theorem Ends.left {n m : MasterNode} {frame : MstpFrame} (h : n.Ends frame m) :
    m.Stops [frame] := by
  refine ⟨by simp, ?_⟩
  rw [List.countP_singleton]
  rcases h.stops with ⟨hf, hm⟩ | ⟨hf, hm⟩
  · exact .inl ⟨hm, by simp [isToken, hf]⟩
  · exact .inr ⟨.inr hm, by simp [isToken, hf]⟩

/-- A packet's frame does not pass the token. -/
theorem isToken_of_isPacket {f : MstpFrame} (h : isPacket f = true) : isToken f = false := by
  unfold isPacket at h
  unfold isToken
  simp only [decide_eq_true_eq] at h
  rcases h with h | h <;> simp [h]

/-- In enough rounds a station with the token stops. -/
theorem tokenLoop_stops {fuel : ℕ} {n : MasterNode} (hfuel : n.txQueue.length < fuel)
    (hfits : n.Fits) (hstate : n.state = .useToken ∨ n.state = .doneWithToken) :
    (tokenLoop fuel n).1.Stops (tokenLoop fuel n).2 := by
  induction fuel generalizing n with
  | zero => omega
  | succ fuel ih =>
    unfold tokenLoop
    by_cases hdone : n.state = .doneWithToken
    · rw [if_pos hdone]
      exact n.passToken_ends.left
    rw [if_neg hdone, if_pos (hstate.resolve_right hdone)]
    rcases n.useToken_cases with ⟨dest, npdu, rest, hcount, hqueue, huse⟩ | hends
    · obtain ⟨hrest, -, -, -, hown, -⟩ := sendFirst_sends hqueue hcount
      have hlength : rest.length < fuel := by
        rw [hqueue, List.length_cons] at hfuel
        omega
      have hpacket : isPacket (n.sendFirst dest npdu rest).1 = true := isPacket_dataType _ _ _
      have hstill : (n.sendFirst dest npdu rest).2.state = .useToken ∨
          (n.sendFirst dest npdu rest).2.state = .doneWithToken := by
        show (if _ then _ else n.state) = _ ∨ (if _ then _ else n.state) = _
        split_ifs
        · exact .inr rfl
        · exact hstate
      rw [huse]
      generalize n.sendFirst dest npdu rest = r at hrest hown hpacket hstill
      obtain ⟨frame, m⟩ := r
      dsimp only at hrest hown hpacket hstill ⊢
      obtain ⟨bytes, hbytes⟩ :=
        (hown (hfits (dest, npdu) (by rw [hqueue]; exact List.mem_cons_self))).encodes
      have hplain := isToken_of_isPacket hpacket
      rw [hbytes]
      dsimp only
      by_cases hreply : frame.frameType = .bacnetDataExpectingReply
      · rw [if_pos hreply]
        exact ⟨by simp, .inr ⟨.inl rfl, by simp [hplain]⟩⟩
      · have hnot : frame.frameType ≠ .token := by simpa [isToken] using hplain
        rw [if_neg hreply, if_neg hnot]
        have hlast := ih (by rw [hrest]; exact hlength)
          (fun p hp => hfits p (by rw [hqueue, ← hrest]; exact List.mem_cons_of_mem _ hp)) hstill
        refine ⟨by simp, ?_⟩
        rw [List.countP_cons_of_neg (by simp [hplain])]
        exact hlast.state
    · generalize n.useToken = r at hends
      obtain ⟨frame, m⟩ := r
      obtain ⟨bytes, hbytes⟩ := hends.own.encodes
      dsimp only at hends hbytes ⊢
      rw [hbytes]
      dsimp only
      rcases hends.stops with ⟨hframe, -⟩ | ⟨hframe, hm⟩
      · rw [if_neg (by rw [hframe]; simp), if_pos hframe]
        exact hends.left
      · rw [if_neg (by rw [hframe]; simp), if_neg (by rw [hframe]; simp),
          tokenLoop_of_stopped (by rw [hm]; simp)]
        exact hends.left

/-! ## What one event does -/

/-- Whether the station has the token, as a number. -/
def weight (n : MasterNode) : ℕ := if n.HasToken then 1 else 0

/-- The frame passes the token to the station. -/
def isTokenFor (station : UInt8) (f : MstpFrame) : Bool :=
  f.frameType = .token ∧ f.destination = station

/-- What a frame does before the station sends with the token. -/
structure Handled (frame : MstpFrame) (n m : MasterNode) (response : Option MstpFrame) : Prop where
  config : m.config = n.config
  slot : m.tSlotMs = n.tSlotMs
  queue : m.txQueue = n.txQueue
  count : isTokenFor n.config.thisStation frame = true ∨ m.frameCount = n.frameCount
  own : ∀ f ∈ response, f.source = n.config.thisStation ∧
    FrameType.fromRaw f.frameType.toRaw = f.frameType ∧ isPacket f = false ∧
    (frame.data.length ≤ maxMpduData → f.data.length ≤ maxMpduData)
  how : ((m.state = n.state ∧ n.state ≠ .passToken ∨ m.state = .idle ∨
        m.state = .answerDataRequest) ∧ ∀ f ∈ response, isToken f = false) ∨
    (isTokenFor n.config.thisStation frame = true ∧ m.state = .useToken ∧ response = none) ∨
    (n.state = .pollForMaster ∧ m.state = .passToken ∧ ∃ f, response = some f ∧ isToken f = true) ∨
    (n.state = .waitForReply ∧ m.state = .doneWithToken ∧ response = none)

/-- What a frame does before the station sends with the token. -/
theorem handleReceivedFrame_handled (frame : MstpFrame) (n : MasterNode) :
    n.Handled frame (n.handleReceivedFrame frame).1 (n.handleReceivedFrame frame).2.1 := by
  obtain ⟨m, hm⟩ : ∃ m, (if n.countEvent.state = .passToken then
      { n.countEvent with state := .idle } else n.countEvent) = m := ⟨_, rfl⟩
  have hkept : m.config = n.config ∧ m.tSlotMs = n.tSlotMs ∧ m.txQueue = n.txQueue ∧
      m.frameCount = n.frameCount := by
    subst hm
    split_ifs <;> exact ⟨rfl, rfl, rfl, rfl⟩
  have hstate : m.state = n.state ∧ n.state ≠ .passToken ∨ m.state = .idle := by
    have hcount : n.countEvent.state = n.state := rfl
    subst hm
    rw [hcount]
    split_ifs with hpass
    · exact .inr rfl
    · exact .inl ⟨rfl, hpass⟩
  have hcame {state : MasterState} (h : m.state = state) (hidle : state ≠ .idle) :
      n.state = state := by
    rcases hstate with ⟨hsame, -⟩ | hsame
    · exact hsame.symm.trans h
    · exact absurd (h.symm.trans hsame) hidle
  obtain ⟨hconfig, hslot, hqueue, hcount⟩ := hkept
  have hkeeps : m.state = n.state ∧ n.state ≠ .passToken ∨ m.state = .idle ∨
      m.state = .answerDataRequest := hstate.elim .inl fun h => .inr (.inl h)
  have hnothing : n.Handled frame m none :=
    ⟨hconfig, hslot, hqueue, .inr hcount, by simp, .inl ⟨hkeeps, by simp⟩⟩
  unfold handleReceivedFrame
  dsimp only
  rw [hm, hconfig]
  cases hkind : frame.frameType
  case token =>
    dsimp only
    split_ifs with hmine
    · have htoken : isTokenFor n.config.thisStation frame = true := by
        simp [isTokenFor, hkind, hmine]
      exact ⟨rfl, hslot, hqueue, .inl htoken, by simp, .inr (.inl ⟨htoken, rfl, rfl⟩)⟩
    · exact hnothing
  case pollForMaster =>
    dsimp only
    split_ifs
    · refine ⟨hconfig, hslot, hqueue, .inr hcount, fun f hf => ?_,
        .inl ⟨hkeeps, fun f hf => ?_⟩⟩ <;> obtain rfl := Option.some.inj hf
      · exact ⟨by rw [bare, hconfig], rfl, rfl, fun _ => Nat.zero_le _⟩
      · rfl
    · exact hnothing
  case replyToPollForMaster =>
    dsimp only
    split_ifs with hpoll
    · refine ⟨rfl, hslot, hqueue, .inr hcount, fun f hf => ?_,
        .inr (.inr (.inl ⟨hcame hpoll.1 (by simp), rfl, _, rfl, rfl⟩))⟩
      obtain rfl := Option.some.inj hf
      exact ⟨rfl, rfl, rfl, fun _ => Nat.zero_le _⟩
    · exact hnothing
  case bacnetDataNotExpectingReply =>
    dsimp only
    split_ifs with hwait
    · exact ⟨rfl, hslot, hqueue, .inr hcount, by simp,
        .inr (.inr (.inr ⟨hcame hwait.1 (by simp), rfl, rfl⟩))⟩
    · exact ⟨rfl, hslot, hqueue, .inr hcount, by simp,
        .inr (.inr (.inr ⟨hcame hwait.1 (by simp), rfl, rfl⟩))⟩
    · exact hnothing
    · exact hnothing
  case bacnetDataExpectingReply =>
    dsimp only
    split_ifs
    · exact ⟨rfl, hslot, hqueue, .inr hcount, by simp, .inl ⟨.inr (.inr rfl), by simp⟩⟩
    · exact hnothing
  case testRequest =>
    dsimp only
    split_ifs
    · refine ⟨hconfig, hslot, hqueue, .inr hcount, fun f hf => ?_,
        .inl ⟨hkeeps, fun f hf => ?_⟩⟩ <;> obtain rfl := Option.some.inj hf
      · exact ⟨rfl, rfl, rfl, id⟩
      · rfl
    · exact hnothing
  case replyPostponed =>
    dsimp only
    split_ifs with hwait
    · exact ⟨rfl, hslot, hqueue, .inr hcount, by simp,
        .inr (.inr (.inr ⟨hcame hwait.1 (by simp), rfl, rfl⟩))⟩
    · exact hnothing
  case testResponse => exact hnothing
  case unknown raw => exact hnothing

/-- With the token a station counts one, and so does a token that it has sent. -/
theorem Stops.token {m : MasterNode} {out : List MstpFrame} (h : m.Stops out) :
    m.weight + out.countP isToken = 1 := by
  unfold weight HasToken
  rcases h.state with ⟨hm, hout⟩ | ⟨hm | hm, hout⟩ <;> simp [hm, hout]

/-- No station may send more packets than it may with a new token. -/
theorem room_le (n : MasterNode) : n.room ≤ n.config.maxInfoFrames.toNat := Nat.sub_le _ _

/-- What a station sends after a frame. Only a token that the frame passes to it gives it more
packets to send. -/
theorem onFrame_sends (frame : MstpFrame) (n : MasterNode) :
    n.Sends (if isTokenFor n.config.thisStation frame then n.config.maxInfoFrames.toNat
      else n.room) (n.onFrame frame).1 (n.onFrame frame).2.1 := by
  have hhandled := handleReceivedFrame_handled frame n
  unfold onFrame
  generalize n.handleReceivedFrame frame = r at hhandled
  obtain ⟨m, response, indications⟩ := r
  dsimp only at hhandled ⊢
  have hspent := tokenLoop_sends (m.txQueue.length + 2) m
  have hfitting : m.fitting = n.fitting := by rw [fitting, fitting, hhandled.queue]
  have hroom : m.room ≤ if isTokenFor n.config.thisStation frame then
      n.config.maxInfoFrames.toNat else n.room := by
    rcases hhandled.count with htoken | hcount
    · rw [if_pos htoken, ← hhandled.config]
      exact m.room_le
    · have hsame : m.room = n.room := by rw [room, room, hhandled.config, hcount]
      rw [hsame]
      split_ifs
      · exact n.room_le
      · exact Nat.le_refl _
  have hsends : n.Sends (if isTokenFor n.config.thisStation frame then
      n.config.maxInfoFrames.toNat else n.room) m.spendToken.1 m.spendToken.2 := by
    refine ⟨hspent.config.trans hhandled.config, hspent.slot.trans hhandled.slot, ?_, ?_,
      fun f hf => (hspent.own f hf).of_config hhandled.config, Nat.le_trans hspent.few hroom⟩
    · rw [← hfitting]
      exact hspent.queue
    · rw [← hhandled.queue]
      exact hspent.rest
  cases response with
  | none => exact hsends
  | some answer =>
    obtain ⟨hsource, htype, hpacket, -⟩ := hhandled.own answer rfl
    dsimp only
    cases hencode : encodeFrame answer with
    | error e =>
      exact ⟨hhandled.config, hhandled.slot, hfitting.symm, ⟨[], hhandled.queue⟩, by simp,
        Nat.le_trans (Nat.le_of_eq (Nat.zero_add _)) hroom⟩
    | ok bytes =>
      have hall := packets_cons_of_not hpacket m.spendToken.2
      refine ⟨hsends.config, hsends.slot, by rw [hall]; exact hsends.queue, hsends.rest, ?_,
        by rw [hall]; exact hsends.few⟩
      intro f hf
      rcases List.mem_cons.mp hf with rfl | hf
      · exact ⟨hsource, htype, (encodeFrame_eq_ok.mp hencode).1⟩
      · exact hsends.own f hf

/-- How the token goes when a station receives a frame. -/
structure Passes (frame : MstpFrame) (n m : MasterNode) (out : List MstpFrame)
    (wait : Option ℕ) : Prop where
  token : m.weight + out.countP isToken ≤
    n.weight + [frame].countP (isTokenFor n.config.thisStation)
  sent : m.HasToken ∨ m.state = .passToken →
    (out ≠ [] ∧ (n.HasToken ∨ isTokenFor n.config.thisStation frame = true)) ∨
      (n.HasToken ∧ m.state = n.state)
  wait : wait = some m.waitAfterFrame

/-- A station that has passed the token when it has received a frame had it or got it with the
frame, and has written something. -/
theorem Passes.passed_on {frame : MstpFrame} {n m : MasterNode} {out : List MstpFrame}
    {wait : Option ℕ} (h : n.Passes frame m out wait) (hm : m.state = .passToken) :
    out ≠ [] ∧ m.weight = 0 ∧
      0 < n.weight + [frame].countP (isTokenFor n.config.thisStation) := by
  rcases h.sent (.inr hm) with ⟨hsome, hhad⟩ | ⟨hhad, hsame⟩
  · refine ⟨hsome, if_neg (by simp [HasToken, hm]), ?_⟩
    rcases hhad with hhad | hhad
    · rw [weight, if_pos hhad]
      omega
    · rw [List.countP_singleton, if_pos hhad]
      omega
  · rw [hm] at hsame
    simp [HasToken, ← hsame] at hhad

/-- A station with the token, or to which a frame passes it, has it or passes it on once. -/
theorem onFrame_passes {frame : MstpFrame} {n : MasterNode}
    (hframe : frame.data.length ≤ maxMpduData) (hfits : n.Fits) :
    n.Passes frame (n.onFrame frame).1 (n.onFrame frame).2.1 (n.onFrame frame).2.2.2 := by
  have hhandled := handleReceivedFrame_handled frame n
  unfold onFrame
  generalize n.handleReceivedFrame frame = r at hhandled
  obtain ⟨m, response, indications⟩ := r
  dsimp only at hhandled ⊢
  have hstops (hstate : m.state = .useToken ∨ m.state = .doneWithToken) :
      m.spendToken.1.Stops m.spendToken.2 := by
    refine tokenLoop_stops (by omega) (fun p hp => hfits p ?_) hstate
    rw [← hhandled.queue]
    exact hp
  -- a station with the token that sends nothing but its answer
  have hspends (hstate : m.state = .useToken ∨ m.state = .doneWithToken)
      (hhad : n.HasToken ∨ isTokenFor n.config.thisStation frame = true) (answers : List MstpFrame)
      (hplain : answers.countP isToken = 0) : n.Passes frame m.spendToken.1
        (answers ++ m.spendToken.2) (some m.spendToken.1.waitAfterFrame) := by
    have hstop := hstops hstate
    refine ⟨?_, fun _ => .inl ⟨by simp [hstop.sent], hhad⟩, rfl⟩
    rw [List.countP_append, hplain, Nat.zero_add, hstop.token, List.countP_singleton]
    unfold weight
    rcases hhad with h | h
    · rw [if_pos h]
      omega
    · rw [if_pos h]
      omega
  have hidle (hstate : ¬ (m.state = .useToken ∨ m.state = .doneWithToken)) :
      m.spendToken = (m, []) := tokenLoop_of_stopped hstate
  -- a frame that leaves the token where it is
  have hstays (answers : List MstpFrame) (hplain : answers.countP isToken = 0)
      (hkeeps : m.state = n.state ∧ n.state ≠ .passToken ∨ m.state = .idle ∨
        m.state = .answerDataRequest) : n.Passes frame m.spendToken.1
          (answers ++ m.spendToken.2) (some m.spendToken.1.waitAfterFrame) := by
    by_cases hactive : m.state = .useToken ∨ m.state = .doneWithToken
    · refine hspends hactive (.inl ?_) answers hplain
      rcases hkeeps with ⟨hsame, -⟩ | hsame | hsame
      · rw [hsame] at hactive
        exact hactive.elim .inl fun h => .inr (.inl h)
      · simp [hsame] at hactive
      · simp [hsame] at hactive
    · rw [hidle hactive, List.append_nil]
      have hhas (h : m.HasToken ∨ m.state = .passToken) : n.HasToken ∧ m.state = n.state := by
        rcases hkeeps with ⟨hsame, hpass⟩ | hsame | hsame
        · exact ⟨by rw [HasToken, ← hsame]; exact h.resolve_right (hsame ▸ hpass), hsame⟩
        · simp [HasToken, hsame] at h
        · simp [HasToken, hsame] at h
      refine ⟨?_, fun h => .inr (hhas h), rfl⟩
      rw [hplain]
      unfold weight
      dsimp only
      by_cases hm : m.HasToken
      · rw [if_pos (hhas (.inl hm)).1]
        split_ifs
        omega
      · rw [if_neg hm]
        omega
  cases response with
  | none =>
    dsimp only
    rcases hhandled.how with ⟨hkeeps, -⟩ | ⟨htoken, hm, -⟩ | ⟨-, -, f, hf, -⟩ | ⟨hn, hm, -⟩
    · exact hstays [] rfl hkeeps
    · exact hspends (.inl hm) (.inr htoken) [] rfl
    · cases hf
    · exact hspends (.inr hm) (.inl (.inr (.inr (.inl hn)))) [] rfl
  | some answer =>
    obtain ⟨hsource, htype, hpacket, hshort⟩ := hhandled.own answer rfl
    have hown : n.Own answer := ⟨hsource, htype, hshort hframe⟩
    obtain ⟨bytes, hbytes⟩ := hown.encodes
    dsimp only
    rw [hbytes]
    dsimp only
    rcases hhandled.how with ⟨hkeeps, hplain⟩ | ⟨-, -, hnone⟩ | ⟨hn, hm, f, hf, hsent⟩ |
      ⟨-, -, hnone⟩
    · exact hstays [answer] (by simp [hplain answer rfl]) hkeeps
    · cases hnone
    · obtain rfl := Option.some.inj hf
      have hhad : n.HasToken := .inr (.inr (.inr hn))
      rw [hidle (by simp [hm])]
      refine ⟨?_, fun _ => .inl ⟨by simp, .inl hhad⟩, rfl⟩
      have hnot : ¬ m.HasToken := by simp [HasToken, hm]
      rw [weight, weight, if_neg hnot, if_pos hhad, List.countP_singleton, hsent]
      simp
    · cases hnone

/-! ## What the end of a wait does -/

/-- The frame passes the token away from the station. -/
def isTokenFrom (station : UInt8) (f : MstpFrame) : Bool :=
  f.frameType = .token ∧ f.destination ≠ station

/-- The tokens that a station sends are at most all that are sent. -/
theorem countP_isTokenFrom_le (station : UInt8) (out : List MstpFrame) :
    out.countP (isTokenFrom station) ≤ out.countP isToken := by
  refine List.countP_mono_left fun f _ hf => ?_
  unfold isTokenFrom at hf
  unfold isToken
  simp only [decide_eq_true_eq] at hf ⊢
  exact hf.1

/-- How long a station that may send waits at most after a frame, when every wait may end that much
late. -/
def patience (slack : ℕ) (n : MasterNode) : ℕ :=
  match n.state with
  | .passToken => tUsageTimeoutMs + slack
  | .useToken => 2 * (tUsageTimeoutMs + slack)
  | .doneWithToken => tReplyTimeoutMs + tUsageTimeoutMs + 2 * slack
  | .waitForReply => tReplyTimeoutMs + slack
  | .pollForMaster => n.tSlotMs + slack
  | .answerDataRequest => tReplyDelayMs + slack
  | .idle | .noToken => 0

/-- What the end of a wait does. Only a station that takes the token as lost, or that has passed it
in vain, makes a token. -/
structure Expires (n m : MasterNode) (out : List MstpFrame) (wait : ℕ) : Prop where
  config : m.config = n.config
  slot : m.tSlotMs = n.tSlotMs
  queue : m.txQueue = n.txQueue
  own : ∀ f ∈ out, n.Own f
  token : m.weight + out.countP (isTokenFrom n.config.thisStation) ≤
    if n.state = .noToken ∨ n.state = .passToken then 1 else n.weight
  lost : m.state = .noToken → tNoTokenMs ≤ wait
  quiet : n.state = .idle → out = []
  answered : m.state ≠ .answerDataRequest
  passing : m.state = .passToken → wait = tUsageTimeoutMs
  active : m.HasToken ∨ m.state = .passToken →
    (out ≠ [] ∧ wait ≤ m.patience 0 ∧ (n.HasToken ∨ n.state = .noToken ∨ n.state = .passToken)) ∨
      (wait = tUsageTimeoutMs ∧ (n.state = .waitForReply ∧ m.state = .doneWithToken ∨
        n.state = .passToken ∧ m.state = .useToken))

/-- A frame that carries nothing is written. -/
theorem written_bare (frameType : FrameType) (destination : UInt8) (n : MasterNode) :
    written (n.bare frameType destination) = [n.bare frameType destination] := by
  have hshort : (n.bare frameType destination).data.length ≤ maxMpduData := Nat.zero_le _
  rw [written, encodeFrame_eq_ok.mpr ⟨hshort, rfl⟩]

/-- What is written can be written. -/
theorem mem_written {f frame : MstpFrame} (h : f ∈ written frame) :
    f = frame ∧ frame.data.length ≤ maxMpduData := by
  unfold written at h
  cases hencode : encodeFrame frame with
  | error e => simp [hencode] at h
  | ok bytes =>
    rw [hencode] at h
    exact ⟨List.mem_singleton.mp h, (encodeFrame_eq_ok.mp hencode).1⟩

/-- A station whose polls end has found no other, or stops as one that has the token. -/
theorem pollTimeout_cases (n : MasterNode) :
    n.Ends n.pollTimeout.1 n.pollTimeout.2 ∨
      (n.pollTimeout.1 = n.bare .token n.config.thisStation ∧ n.pollTimeout.2.state = .useToken ∧
        n.pollTimeout.2.config = n.config ∧ n.pollTimeout.2.tSlotMs = n.tSlotMs ∧
        n.pollTimeout.2.txQueue = n.txQueue) := by
  unfold pollTimeout
  dsimp only
  split_ifs
  · exact .inr ⟨rfl, rfl, rfl, rfl, rfl⟩
  · exact .inl ⟨rfl, rfl, rfl, rfl, n.own_bare _ (by decide), .inl ⟨rfl, rfl⟩⟩
  · exact .inl ⟨rfl, rfl, rfl, rfl, n.own_bare _ (by decide), .inl ⟨rfl, rfl⟩⟩
  · exact .inl ⟨rfl, rfl, rfl, rfl, n.own_bare _ (by decide), .inr ⟨rfl, rfl⟩⟩
  · exact .inl ⟨rfl, rfl, rfl, rfl, n.own_bare _ (by decide), .inr ⟨rfl, rfl⟩⟩

/-- A station that has passed the token in vain passes it again, takes it as lost or uses it. -/
theorem passTokenTimeout_cases (n : MasterNode) :
    n.passTokenTimeout.2.config = n.config ∧ n.passTokenTimeout.2.tSlotMs = n.tSlotMs ∧
      n.passTokenTimeout.2.txQueue = n.txQueue ∧
      (n.passTokenTimeout.2.state = .useToken ∨
        n.passTokenTimeout.2.frameCount = n.frameCount) ∧
      ((∃ d, n.passTokenTimeout.1 = some (n.bare .token d) ∧
          n.passTokenTimeout.2.state = n.state) ∨
        (n.passTokenTimeout.1 = none ∧ (n.passTokenTimeout.2.state = .noToken ∨
          n.passTokenTimeout.2.state = .useToken))) := by
  unfold passTokenTimeout
  dsimp only
  split_ifs
  · exact ⟨rfl, rfl, rfl, .inr rfl, .inl ⟨_, rfl, rfl⟩⟩
  · exact ⟨rfl, rfl, rfl, .inr rfl, .inr ⟨rfl, .inl rfl⟩⟩
  · exact ⟨rfl, rfl, rfl, .inl rfl, .inr ⟨rfl, .inr rfl⟩⟩
  · exact ⟨rfl, rfl, rfl, .inr rfl, .inl ⟨_, rfl, rfl⟩⟩

/-- A station with the token passes it when its wait ends. -/
theorem passToken_expires {n : MasterNode} (hhad : n.HasToken) :
    n.Expires n.passToken.2 (written n.passToken.1) tUsageTimeoutMs := by
  have hends := n.passToken_ends
  rw [show written n.passToken.1 = [n.passToken.1] from written_bare _ _ n]
  refine ⟨hends.config, hends.slot, hends.queue, fun f hf => ?_, ?_, by simp [passToken],
    fun h => by simp [HasToken, h] at hhad, by simp [passToken], fun _ => rfl,
    fun _ => .inl ⟨by simp, Nat.le_refl _, .inl hhad⟩⟩
  · obtain rfl := List.mem_singleton.mp hf
    exact hends.own
  · have hone : (if n.state = .noToken ∨ n.state = .passToken then 1 else n.weight) = 1 := by
      rw [weight, if_pos hhad, ite_self]
    rw [hone, weight, if_neg (by simp [HasToken, passToken]), Nat.zero_add]
    exact List.countP_le_length

/-- No station has answered the poll. -/
theorem pollTimeout_expires {n : MasterNode} (hstate : n.state = .pollForMaster) :
    n.Expires n.pollTimeout.2 (written n.pollTimeout.1)
      (if n.pollTimeout.2.state = .pollForMaster then n.pollTimeout.2.tSlotMs
        else tUsageTimeoutMs) := by
  have hhad : n.HasToken := .inr (.inr (.inr hstate))
  have hone : n.weight = 1 := if_pos hhad
  rcases n.pollTimeout_cases with hends | ⟨hframe, hm, hconfig, hslot, hqueue⟩
  · generalize n.pollTimeout = r at hends
    obtain ⟨frame, m⟩ := r
    obtain ⟨bytes, hbytes⟩ := hends.own.encodes
    dsimp only at hends ⊢
    rw [written, hbytes]
    dsimp only
    refine ⟨hends.config, hends.slot, hends.queue, fun f hf => ?_, ?_, ?_, by simp [hstate], ?_,
      ?_, fun _ => .inl ⟨by simp, ?_, .inl hhad⟩⟩
    · obtain rfl := List.mem_singleton.mp hf
      exact hends.own
    · rw [hone]
      rcases hends.stops with ⟨-, hm⟩ | ⟨hframe, hm⟩
      · have hcount : [frame].countP (isTokenFrom n.config.thisStation) ≤ 1 :=
          List.countP_le_length
        simpa [weight, HasToken, hm] using hcount
      · simp [weight, HasToken, hm, isTokenFrom, hframe]
    all_goals rcases hends.stops with ⟨-, hm⟩ | ⟨-, hm⟩ <;> simp [hm, patience]
  · generalize n.pollTimeout = r at hframe hm hconfig hslot hqueue
    obtain ⟨frame, m⟩ := r
    dsimp only at hframe hm hconfig hslot hqueue ⊢
    subst hframe
    rw [written_bare]
    refine ⟨hconfig, hslot, hqueue, fun f hf => ?_, ?_, by simp [hm], by simp [hstate],
      by simp [hm], by simp [hm], fun _ => .inl ⟨by simp, ?_, .inl hhad⟩⟩
    · obtain rfl := List.mem_singleton.mp hf
      exact n.own_bare _ (by decide)
    · rw [hone]
      simp [weight, HasToken, hm, isTokenFrom, bare]
    · rw [if_neg (by simp [hm])]
      simp [patience, hm]
      omega

/-- The token that was passed has not been used. -/
theorem passTokenTimeout_expires {n : MasterNode} (hstate : n.state = .passToken) :
    n.Expires n.passTokenTimeout.2 (n.passTokenTimeout.1.toList.flatMap written)
      (if n.passTokenTimeout.2.state = .noToken then n.passTokenTimeout.2.noTokenWait
        else tUsageTimeoutMs) := by
  obtain ⟨hconfig, hslot, hqueue, -, hhow⟩ := n.passTokenTimeout_cases
  generalize n.passTokenTimeout = r at hconfig hslot hqueue hhow
  obtain ⟨frame, m⟩ := r
  dsimp only at hconfig hslot hqueue hhow ⊢
  rw [hstate] at hhow
  rcases hhow with ⟨d, rfl, hm⟩ | ⟨rfl, hm⟩
  · rw [Option.toList_some, List.flatMap_singleton, written_bare]
    refine ⟨hconfig, hslot, hqueue, fun f hf => ?_, ?_, by simp [hm], by simp [hstate],
      by simp [hm], by simp [hm], fun _ => .inl ⟨by simp, ?_, .inr (.inr hstate)⟩⟩
    · obtain rfl := List.mem_singleton.mp hf
      exact n.own_bare _ (by decide)
    · rw [if_pos (.inr hstate), weight, if_neg (by simp [HasToken, hm]), Nat.zero_add]
      exact List.countP_le_length
    · simp [patience, hm]
  · refine ⟨hconfig, hslot, hqueue, by simp, ?_, fun h => ?_, by simp [hstate], ?_, ?_,
      fun h => .inr ?_⟩
    · rw [if_pos (.inr hstate)]
      show m.weight + 0 ≤ 1
      unfold weight
      split_ifs <;> omega
    · rw [if_pos h]
      exact Nat.le_add_right _ _
    · rcases hm with hm | hm <;> simp [hm]
    · rcases hm with hm | hm <;> simp [hm]
    · have huse : m.state = .useToken := hm.resolve_left fun hm => by simp [HasToken, hm] at h
      exact ⟨if_neg (by simp [huse]), .inr ⟨hstate, huse⟩⟩

/-- The end of a wait. -/
theorem onTimeout_expires (reply : Option Bytes) (n : MasterNode) :
    n.Expires (n.onTimeout reply).1 (n.onTimeout reply).2.1 (n.onTimeout reply).2.2 := by
  unfold onTimeout
  cases hstate : n.state
  case idle =>
    refine ⟨rfl, rfl, rfl, by simp, ?_, fun _ => Nat.le_add_right _ _, fun _ => rfl, by simp,
      by simp, by simp [HasToken]⟩
    rw [weight, if_neg (by simp [HasToken])]
    exact Nat.zero_le _
  case noToken =>
    dsimp only
    rw [written_bare]
    refine ⟨rfl, rfl, rfl, fun f hf => ?_, ?_, by simp, by simp [hstate], by simp, by simp,
      fun _ => .inl ⟨by simp, Nat.le_refl _, .inr (.inl hstate)⟩⟩
    · obtain rfl := List.mem_singleton.mp hf
      exact n.own_bare _ (by decide)
    · rw [if_pos (.inl hstate), weight, List.countP_singleton]
      simp [isTokenFrom, bare, HasToken]
  case pollForMaster => exact pollTimeout_expires hstate
  case waitForReply =>
    refine ⟨rfl, rfl, rfl, by simp, ?_, by simp, fun _ => rfl, by simp, by simp,
      fun _ => .inr ⟨rfl, .inl ⟨hstate, rfl⟩⟩⟩
    simp [weight, HasToken, hstate]
  case answerDataRequest =>
    dsimp only
    refine ⟨rfl, rfl, rfl, fun f hf => ?_, ?_, by simp, by simp [hstate], by simp, by simp,
      by simp [HasToken]⟩
    · obtain ⟨rfl, hshort⟩ := mem_written hf
      refine ⟨?_, ?_, hshort⟩
      · split <;> rfl
      · split <;> rfl
    · rw [List.countP_eq_zero.mpr fun f hf => ?_, weight, if_neg (by simp [HasToken])]
      · exact Nat.zero_le _
      · obtain ⟨rfl, -⟩ := mem_written hf
        unfold isTokenFrom
        split <;> simp [bare]
  case passToken => exact passTokenTimeout_expires hstate
  case useToken => exact passToken_expires (.inl hstate)
  case doneWithToken => exact passToken_expires (.inr (.inl hstate))

/-! ## Runs of a station -/

/-- What happens to a station. -/
inductive Event
  | frame (f : MstpFrame)
  | timeout (reply : Option Bytes)
  | queue (dest : UInt8) (npdu : Bytes)
  deriving DecidableEq, Repr

/-- What an event leaves. A packet that finds the queue full is refused. -/
def step (n : MasterNode) : Event → MasterNode
  | .frame f => (n.onFrame f).1
  | .timeout reply => (n.onTimeout reply).1
  | .queue dest npdu =>
      match n.queueNpdu dest npdu with
      | .ok m => m
      | .error _ => n

/-- The packet that an event adds to the queue. -/
def accepts (n : MasterNode) : Event → List (UInt8 × Bytes)
  | .frame _ | .timeout _ => []
  | .queue dest npdu => if n.txQueue.length ≥ maxTxQueueDepth then [] else [(dest, npdu)]

/-- The packets that an event sends. What is sent at the end of a wait is in `answer`. -/
def sends (n : MasterNode) : Event → List (UInt8 × Bytes)
  | .frame f => packets (n.onFrame f).2.1
  | .timeout _ | .queue _ _ => []

/-- The event gives the station a token: one that another station passes to it, or a new one when
it finds at the end of a wait that there is no other station. -/
def gains (n : MasterNode) : Event → Bool
  | .frame f => isTokenFor n.config.thisStation f
  | .timeout reply => (n.onTimeout reply).1.state = .useToken
  | .queue _ _ => false

/-- The answer that a station sends at the end of a wait. -/
def answer (n : MasterNode) (reply : Option Bytes) : List (UInt8 × Bytes) :=
  match reply with
  | some data =>
      if n.state = .answerDataRequest ∧ n.replyRx ∧ data.length ≤ maxMpduData then
        [(n.pendingReplySource.getD broadcastMac, data)]
      else []
  | none => []

/-- What events leave. -/
def run (events : List Event) (n : MasterNode) : MasterNode := events.foldl step n

/-- The packets that events add to the queue. -/
def accepted : List Event → MasterNode → List (UInt8 × Bytes)
  | [], _ => []
  | e :: events, n => n.accepts e ++ accepted events (n.step e)

/-- The packets that events send: those until the station gains a token, and for each token that
it gains those until it gains the next. -/
def sent : List Event → MasterNode → List (UInt8 × Bytes) × List (List (UInt8 × Bytes))
  | [], _ => ([], [])
  | e :: events, n =>
    let (now, later) := sent events (n.step e)
    if n.gains e then ([], (n.sends e ++ now) :: later) else (n.sends e ++ now, later)

/-- Unless a station finds itself alone and makes a token, the end of a wait gives it no more
packets to send. -/
theorem onTimeout_room (reply : Option Bytes) (n : MasterNode) :
    (n.onTimeout reply).1.state = .useToken ∨ (n.onTimeout reply).1.room ≤ n.room := by
  have hsame {m : MasterNode} (hconfig : m.config = n.config)
      (hcount : m.frameCount = n.frameCount) : m.room ≤ n.room := by
    rw [room, room, hconfig, hcount]
  unfold onTimeout
  cases hstate : n.state
  case idle | noToken | answerDataRequest | useToken | doneWithToken =>
    exact .inr (hsame rfl rfl)
  case waitForReply =>
    -- it sends nothing more
    have hnone : (n.config.maxInfoFrames.toNat - n.config.maxInfoFrames.toNat) ≤ n.room := by
      rw [Nat.sub_self]
      exact Nat.zero_le _
    exact .inr hnone
  case pollForMaster =>
    rcases n.pollTimeout_cases with hends | ⟨-, huse, -⟩
    · exact .inr (hsame hends.config hends.count)
    · exact .inl huse
  case passToken =>
    obtain ⟨hconfig, -, -, huse | hcount, -⟩ := n.passTokenTimeout_cases
    · exact .inl huse
    · exact .inr (hsame hconfig hcount)

/-- An event sends the front of the queue and adds to its end. -/
theorem step_queue (e : Event) (n : MasterNode) :
    (n.step e).config = n.config ∧
      (n.txQueue ++ n.accepts e).filter (fun p => p.2.length ≤ maxMpduData) =
        n.sends e ++ (n.step e).fitting := by
  cases e with
  | frame f =>
    have hsends := onFrame_sends f n
    refine ⟨hsends.config, ?_⟩
    rw [accepts, List.append_nil, sends]
    exact hsends.queue
  | timeout reply =>
    have hexpires := onTimeout_expires reply n
    refine ⟨hexpires.config, ?_⟩
    rw [accepts, List.append_nil, sends, List.nil_append, fitting, step, hexpires.queue]
  | queue dest npdu =>
    refine ⟨?_, ?_⟩
    · rw [step, queueNpdu]
      split_ifs <;> rfl
    · rw [accepts, sends, List.nil_append, fitting, step, queueNpdu]
      split_ifs
      · rw [List.append_nil]
      · rfl

/-- What an event sends and what may be sent after it with the same token is no more than what
could be sent before, or with a new token if the station gains one. -/
theorem step_room (e : Event) (n : MasterNode) :
    (n.sends e).length + (n.step e).room ≤
      if n.gains e then n.config.maxInfoFrames.toNat else n.room := by
  cases e with
  | frame f => exact (onFrame_sends f n).few
  | timeout reply =>
    rw [sends, List.length_nil, Nat.zero_add]
    by_cases huse : (n.onTimeout reply).1.state = .useToken
    · rw [gains, if_pos (decide_eq_true huse), ← (onTimeout_expires reply n).config]
      exact room_le _
    · rw [gains, if_neg (by simpa using huse)]
      exact (n.onTimeout_room reply).resolve_left huse
  | queue dest npdu =>
    have hroom : (n.step (.queue dest npdu)).room = n.room := by
      rw [step, queueNpdu]
      split_ifs <;> rfl
    rw [sends, List.length_nil, Nat.zero_add, hroom, gains, if_neg Bool.false_ne_true]

/-- With a token a station sends no more packets than it may. -/
theorem sent_few (events : List Event) (n : MasterNode) :
    (sent events n).1.length ≤ n.room ∧
      ∀ burst ∈ (sent events n).2, burst.length ≤ n.config.maxInfoFrames.toNat := by
  induction events generalizing n with
  | nil => simp [sent]
  | cons e events ih =>
    have hstep := step_room e n
    obtain ⟨hnow, hlater⟩ := ih (n.step e)
    rw [(step_queue e n).1] at hlater
    rw [sent]
    dsimp only
    by_cases hgains : n.gains e = true
    · rw [if_pos hgains] at hstep ⊢
      refine ⟨Nat.zero_le _, fun burst hburst => ?_⟩
      rcases List.mem_cons.mp hburst with rfl | hburst
      · rw [List.length_append]
        omega
      · exact hlater burst hburst
    · rw [if_neg hgains] at hstep ⊢
      refine ⟨?_, hlater⟩
      rw [List.length_append]
      omega

/-- At the end of a wait a station sends no packet but the answer that it was given. -/
theorem packets_onTimeout (reply : Option Bytes) (n : MasterNode) :
    packets (n.onTimeout reply).2.1 = n.answer reply := by
  have hquiet (frame : MstpFrame) (h : isPacket frame = false) : packets (written frame) = [] := by
    unfold written
    cases encodeFrame frame with
    | error e => rfl
    | ok bytes => exact packets_cons_of_not h []
  have hnone (h : n.state ≠ .answerDataRequest) : n.answer reply = [] := by
    unfold answer
    cases reply with
    | none => rfl
    | some data => exact if_neg fun hand => h hand.1
  unfold onTimeout
  cases hstate : n.state
  case idle | waitForReply =>
    rw [hnone (by simp [hstate])]
    rfl
  case noToken =>
    rw [hnone (by simp [hstate])]
    exact hquiet (n.bare .pollForMaster _) rfl
  case useToken | doneWithToken =>
    rw [hnone (by simp [hstate])]
    exact hquiet (n.bare .token n.nextStation) rfl
  case pollForMaster =>
    rw [hnone (by simp [hstate])]
    refine hquiet _ ?_
    rcases n.pollTimeout_cases with hends | ⟨hframe, -⟩
    · exact hends.isPacket
    · rw [hframe]
      rfl
  case passToken =>
    rw [hnone (by simp [hstate])]
    obtain ⟨-, -, -, -, ⟨d, hframe, -⟩ | ⟨hframe, -⟩⟩ := n.passTokenTimeout_cases
    · dsimp only
      rw [hframe, Option.toList_some, List.flatMap_singleton]
      exact hquiet _ rfl
    · dsimp only
      rw [hframe]
      rfl
  case answerDataRequest =>
    dsimp only
    cases hreply : reply with
    | none =>
      rw [ite_self]
      exact hquiet _ rfl
    | some data =>
      rw [answer]
      by_cases hrx : n.replyRx = true
      swap
      · rw [if_neg hrx, if_neg fun hand => hrx hand.2.1]
        exact hquiet _ rfl
      rw [if_pos hrx]
      dsimp only
      by_cases hshort : data.length ≤ maxMpduData
      · rw [if_pos ⟨hstate, hrx, hshort⟩, written, encodeFrame_eq_ok.mpr ⟨hshort, rfl⟩]
        rfl
      · obtain ⟨e, he⟩ : ∃ e, encodeFrame ⟨.bacnetDataNotExpectingReply,
            n.pendingReplySource.getD broadcastMac, n.config.thisStation, data⟩ = .error e := by
          unfold encodeFrame
          rw [if_pos (by simpa using hshort)]
          exact ⟨_, rfl⟩
        rw [if_neg fun hand => hshort hand.2.2, written, he]
        rfl

/-- Over any run of a station, the packets that were queued leave in that order, each once, and
those that cannot be written are lost. From one token that the station gains to the next no more
leave than it may send with a token, and at the end of a wait nothing leaves but the answer to a
request. -/
theorem run_queue (events : List Event) (n : MasterNode) :
    (n.txQueue ++ accepted events n).filter (fun p => p.2.length ≤ maxMpduData) =
        ((sent events n).1 :: (sent events n).2).flatten ++ (run events n).fitting ∧
      (∀ burst ∈ (sent events n).1 :: (sent events n).2,
        burst.length ≤ n.config.maxInfoFrames.toNat) ∧
      ∀ m reply, packets (onTimeout reply m).2.1 = m.answer reply := by
  refine ⟨?_, ?_, fun m reply => packets_onTimeout reply m⟩
  · induction events generalizing n with
    | nil => simp [accepted, sent, run, fitting]
    | cons e events ih =>
      have hstep := (step_queue e n).2
      have hrest := ih (n.step e)
      have hsent : ((sent (e :: events) n).1 :: (sent (e :: events) n).2).flatten =
          n.sends e ++ ((sent events (n.step e)).1 :: (sent events (n.step e)).2).flatten := by
        rw [sent]
        dsimp only
        split_ifs
        · rw [List.flatten_cons, List.nil_append, List.flatten_cons, List.flatten_cons,
            List.append_assoc]
        · rw [List.flatten_cons, List.flatten_cons, List.append_assoc]
      rw [List.filter_append] at hstep hrest
      rw [accepted, hsent, ← List.append_assoc, List.filter_append, List.filter_append, hstep,
        List.append_assoc, List.append_assoc]
      exact congrArg _ hrest
  · intro burst hburst
    obtain ⟨hnow, hlater⟩ := sent_few events n
    rcases List.mem_cons.mp hburst with rfl | hburst
    · exact Nat.le_trans hnow n.room_le
    · exact hlater burst hburst

end BacnetTransport.MasterNode
