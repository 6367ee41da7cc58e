import Republisher.BdtFile

/-!
# Managing the tables of another device

A device asks a broadcast management device for its tables or changes them, and waits for the
next answer, whoever sends it. An answer that is longer than the receive buffer is cut off and
dropped, so that a large table of foreign devices cannot be read; a distribution table of the
largest size can be written but not read. A table too large for a frame keeps the client waiting
for an answer to a request that it has not sent.
-/

namespace BacnetTransport

open Wire

variable (codes : BvlcCodes)

/-! ## The client -/

/-- The result that a frame carries. -/
def resultOf (msg : BvllMessage) : BvlcResultCode := codes.resultFromRaw (wordAt msg.payload 0)

/-- What `read_bdt` makes of the answer. -/
def readBdt (msg : BvllMessage) : Except Error (List BdtEntry) :=
  if msg.function = .bvlcResult then
    let code :=
      if msg.payload.length ≥ 2 then resultOf codes msg else .readBroadcastDistributionTableNak
    .error (.encoding ("BVLC-Result: " ++ codes.debug code))
  else BbmdState.decodeBdt msg.payload

/-- What `write_bdt`, `delete_fdt_entry` and `register_foreign_device_bvlc` make of the answer. -/
def resultCode (msg : BvllMessage) : Except Error BvlcResultCode :=
  if msg.payload.length ≥ 2 then .ok (resultOf codes msg)
  else .error (.encoding "BVLC-Result too short")

namespace RecvContext

/-- A request takes the place of the one that waits, which must be free. -/
def startRequest (request : ℕ) (ctx : RecvContext) : Except Error RecvContext :=
  if ctx.bvlcResponse.isSome then
    .error (.encoding "BVLC management request already in flight")
  else .ok { ctx with bvlcResponse := some request }

variable {now : ℕ} {sender : Endpoint} {ctx : RecvContext}

/-- The seconds for which an answer is waited for. -/
def bvlcResponseTimeout : ℕ := 3

/-- The client waits for an answer. It takes the first that it gets of the datagrams `heard` before
the time is over. -/
def awaitAnswer (ctx : RecvContext) : List Arrival → Except Error BvllMessage × RecvContext
  | [] => (.error (.timeout bvlcResponseTimeout), { ctx with bvlcResponse := none })
  | a :: heard =>
      let (next, effects) := ctx.receive codes a.time a.data a.sender
      match effects.answered with
      | some (_, msg) => (.ok msg, next)
      | none => next.awaitAnswer heard

/-- A request of a client that gets the datagrams `heard` while it waits. The place of a request
that cannot be written stays taken. -/
def bvlcRequest (function : BvlcFunction) (payload : Bytes) (request : ℕ) (client : RecvContext)
    (heard : List Arrival) : Except Error BvllMessage × RecvContext :=
  match client.startRequest request with
  | .error e => (.error e, client)
  | .ok client =>
      match encodeBvll codes function payload with
      | .error e => (.error e, client)
      | .ok _ => client.awaitAnswer codes heard

/-- What a device does with the request. -/
def onRequest (now : ℕ) (function : BvlcFunction) (payload : Bytes) (clientAt : Endpoint)
    (device : RecvContext) : RecvContext × Effects :=
  match encodeBvll codes function payload with
  | .ok frame => device.receive codes now frame clientAt
  | .error _ => (device, {})

/-- A frame that the client takes for an answer. -/
def AnswerFunction (function : BvlcFunction) : Prop :=
  function = .bvlcResult ∨ function = .readBroadcastDistributionTableAck ∨
    function = .readForeignDeviceTableAck

/-- A datagram that a waiting client takes for an answer. -/
def IsAnswer (data : Bytes) : Prop :=
  ∃ msg, decodeBvll codes (data.take recvBufferLength) = .ok msg ∧ AnswerFunction msg.function

/-- While the client waits, the device gets the request, the client gets what the device sends
it, and it gets no answer of another. -/
def HearsAnswer (now : ℕ) (function : BvlcFunction) (payload : Bytes) (device : RecvContext)
    (clientAt : Endpoint) (heard : List Arrival) : Prop :=
  ∃ before answer after, heard = before ++ answer :: after ∧
    ⟨clientAt, answer.data⟩ ∈ (device.onRequest codes now function payload clientAt).2.sent ∧
      ∀ a ∈ before ++ after, ¬ IsAnswer codes a.data

/-- A datagram that is no answer leaves the client waiting. -/
theorem receive_of_not_answer {a : Arrival} (h : ¬ IsAnswer codes a.data) (ctx : RecvContext) :
    (ctx.receive codes a.time a.data a.sender).2.answered = none ∧
      (ctx.receive codes a.time a.data a.sender).1.bvlcResponse = ctx.bvlcResponse := by
  unfold receive
  cases hmsg : decodeBvll codes (a.data.take recvBufferLength) with
  | error e => exact ⟨rfl, rfl⟩
  | ok msg =>
    have hfunction : ¬ AnswerFunction msg.function := fun hanswer => h ⟨msg, hmsg, hanswer⟩
    dsimp only
    unfold handleBvllMessage onOriginalUnicast onOriginalBroadcast onForwarded onDistribute
      onRegister onReadBdt onWriteBdt onReadFdt onDeleteFdtEntry
    cases hname : msg.function <;> dsimp only
    case bvlcResult => exact absurd (.inl hname) hfunction
    case readBroadcastDistributionTableAck => exact absurd (.inr (.inl hname)) hfunction
    case readForeignDeviceTableAck => exact absurd (.inr (.inr hname)) hfunction
    all_goals repeat' split
    all_goals exact ⟨rfl, rfl⟩

/-- So do several. -/
theorem afterFrames_of_not_answer {heard : List Arrival}
    (h : ∀ a ∈ heard, ¬ IsAnswer codes a.data) (ctx : RecvContext) :
    (ctx.afterFrames codes heard).bvlcResponse = ctx.bvlcResponse ∧
      ∀ rest, ctx.awaitAnswer codes (heard ++ rest) =
        (ctx.afterFrames codes heard).awaitAnswer codes rest := by
  induction heard generalizing ctx with
  | nil => exact ⟨rfl, fun _ => rfl⟩
  | cons a heard ih =>
    obtain ⟨hnone, hwaits⟩ := receive_of_not_answer codes (h a List.mem_cons_self) ctx
    obtain ⟨hrest, hawaits⟩ := ih (fun b hb => h b (List.mem_cons_of_mem a hb))
      (ctx.receive codes a.time a.data a.sender).1
    refine ⟨hrest.trans hwaits, fun rest => ?_⟩
    rw [List.cons_append, awaitAnswer]
    dsimp only
    rw [hnone]
    exact hawaits rest

/-- A waiting client takes an answer, unless it is too long. -/
theorem receive_answer {answer : BvlcFunction} {carried sent : Bytes}
    (hanswer : AnswerFunction answer) (hcarried : encodeBvll codes answer carried = .ok sent)
    {request : ℕ} (hwaits : ctx.bvlcResponse = some request) :
    ctx.receive codes now sent sender =
      if sent.length ≤ recvBufferLength then
        ({ ctx with bvlcResponse := none },
          { answered := some (request, ⟨answer, carried, none, none⟩) })
      else (ctx, {}) := by
  have hname : ∀ raw, answer ≠ .other raw := by
    rintro raw rfl
    rcases hanswer with h | h | h <;> cases h
  have hforward : answer ≠ .forwardedNpdu := by
    rintro rfl
    rcases hanswer with h | h | h <;> cases h
  rw [receive_encodeBvll codes hname hforward hcarried]
  refine if_congr Iff.rfl ?_ rfl
  have hhandle : ctx.handleBvllMessage codes now ⟨answer, carried, none, none⟩ sender =
      ctx.onAnswer ⟨answer, carried, none, none⟩ := by
    unfold handleBvllMessage
    rcases hanswer with rfl | rfl | rfl <;> rfl
  rw [hhandle, onAnswer, hwaits]

/-- What a client gets that hears the one frame the device answers with, and no other answer.
Afterwards its place is free again. -/
theorem bvlcRequest_eq {function answer : BvlcFunction} {payload carried frame sent : Bytes}
    (request : ℕ) {client device : RecvContext} {clientAt : Endpoint} {heard : List Arrival}
    (hfree : client.bvlcResponse = none)
    (hrequest : encodeBvll codes function payload = .ok frame)
    (hsent : (device.receive codes now frame clientAt).2.sent = [⟨clientAt, sent⟩])
    (hanswer : AnswerFunction answer) (hcarried : encodeBvll codes answer carried = .ok sent)
    (hheard : HearsAnswer codes now function payload device clientAt heard) :
    (bvlcRequest codes function payload request client heard).1 =
        (if sent.length ≤ recvBufferLength then .ok ⟨answer, carried, none, none⟩
          else .error (.timeout bvlcResponseTimeout)) ∧
      (bvlcRequest codes function payload request client heard).2.bvlcResponse = none := by
  obtain ⟨before, a, after, rfl, hmem, hothers⟩ := hheard
  rw [onRequest, hrequest] at hmem
  dsimp only at hmem
  rw [hsent, List.mem_singleton, Sent.mk.injEq] at hmem
  obtain ⟨-, hdata⟩ := hmem
  have hstarted : bvlcRequest codes function payload request client (before ++ a :: after) =
      awaitAnswer codes { client with bvlcResponse := some request } (before ++ a :: after) := by
    unfold bvlcRequest startRequest
    rw [hfree, if_neg (by simp)]
    dsimp only
    rw [hrequest]
  obtain ⟨hwaits, hskip⟩ := afterFrames_of_not_answer codes
    (fun b hb => hothers b (List.mem_append_left after hb))
    { client with bvlcResponse := some request }
  rw [hstarted, hskip, awaitAnswer, hdata, receive_answer codes hanswer hcarried hwaits]
  by_cases hfits : sent.length ≤ recvBufferLength
  · rw [if_pos hfits, if_pos hfits]
    exact ⟨rfl, rfl⟩
  · rw [if_neg hfits, if_neg hfits]
    dsimp only
    have hlate := (afterFrames_of_not_answer codes
      (fun b hb => hothers b (List.mem_append_right before hb))
      (RecvContext.afterFrames codes { client with bvlcResponse := some request } before)).2 []
    rw [List.append_nil] at hlate
    rw [hlate]
    exact ⟨rfl, rfl⟩

/-- A device without tables. -/
def plainDevice : RecvContext :=
  ⟨[10, 0, 0, 7, 0xba, 0xc0], none, ⟨⟨10, 0, 0, 255⟩, 47808⟩, none, false⟩

/-- The address of a client. -/
def clientEndpoint : Endpoint := ⟨⟨10, 0, 0, 2⟩, 47808⟩

/-- The answer of a device to a request, which is all that the client hears. -/
def answersOf (now : ℕ) (function : BvlcFunction) (payload : Bytes) (device : RecvContext) :
    List Arrival :=
  (device.onRequest standardCodes now function payload clientEndpoint).2.sent.map fun sent =>
    ⟨now, sent.frame, ⟨⟨10, 0, 0, 1⟩, 47808⟩⟩

/-- A result is one frame of six bytes. -/
theorem exists_resultFrame (code : BvlcResultCode) :
    ∃ sent, encodeBvll codes .bvlcResult (be (codes.resultToRaw code)) = .ok sent ∧
      sent.length ≤ recvBufferLength ∧
        ∀ dest, sendBvlcResult codes dest code = [⟨dest, sent⟩] := by
  obtain ⟨sent, hsent⟩ : ∃ sent,
      encodeBvll codes .bvlcResult (be (codes.resultToRaw code)) = .ok sent :=
    ⟨_, (encodeBvll_eq_ok codes).mpr ⟨by simp [bvllHeaderLength, u16Max], rfl⟩⟩
  refine ⟨sent, hsent, ?_, fun dest => ?_⟩
  · rw [length_encodeBvll codes hsent]
    simp [bvllHeaderLength, recvBufferLength]
  · unfold sendBvlcResult
    rw [hsent]
    rfl

/-- The client is told the result that the device sends. -/
theorem resultCode_result {code : BvlcResultCode} (h : ∀ raw, code ≠ .other raw) :
    resultCode codes ⟨.bvlcResult, be (codes.resultToRaw code), none, none⟩ = .ok code := by
  have hword : wordAt (be (codes.resultToRaw code)) 0 = codes.resultToRaw code := word_high_low _
  unfold resultCode resultOf
  dsimp only
  rw [if_pos (by simp), hword, codes.resultFromRaw_toRaw code h]

/-- A device that is given a distribution table takes it, or refuses it and keeps its own. -/
theorem receive_writeBdt {device : RecvContext} {s : BbmdState} {entries : List BdtEntry}
    {frame : Bytes} (now : ℕ) (clientAt : Endpoint) (hctx : device.bbmd = some s)
    (hfits : entries.length ≤ 204)
    (hframe : encodeBvll codes .writeBroadcastDistributionTable (encodeBdtEntries entries) =
      .ok frame) :
    let accepted := s.isManagementAllowed clientAt.ip = true ∧
      entries.length ≤ BbmdState.maxBdtEntries
    let next := if accepted then BbmdState.ensureSelfInBdt { s with bdt := entries } else s
    let code := if accepted then .successfulCompletion else .writeBroadcastDistributionTableNak
    (device.receive codes now frame clientAt).1 = { device with bbmd := some next } ∧
      (device.receive codes now frame clientAt).2.sent = sendBvlcResult codes clientAt code := by
  have hsame : { device with bbmd := some s } = device := by rw [← hctx]
  have hlength : (encodeBdtEntries entries).length = entries.length * bdtEntrySize :=
    bdtRecord.length_encodeAll entries
  dsimp only
  rw [receive_encodeBvll codes (by simp) (by simp) hframe, if_pos]
  · unfold handleBvllMessage onWriteBdt
    dsimp only
    rw [hctx]
    dsimp only
    by_cases hacl : s.isManagementAllowed clientAt.ip = true
    · rw [if_neg (by simp [hacl]), decodeBdt_encodeBdtEntries]
      by_cases hshort : entries.length ≤ BbmdState.maxBdtEntries
      · rw [if_pos hshort, if_pos ⟨hacl, hshort⟩, if_pos ⟨hacl, hshort⟩]
        dsimp only
        rw [BbmdState.setBdt_eq_ok.mpr ⟨hshort, rfl⟩]
        exact ⟨rfl, rfl⟩
      · rw [if_neg hshort, if_neg fun h => hshort h.2, if_neg fun h => hshort h.2]
        exact ⟨hsame.symm, rfl⟩
    · rw [if_pos (by simpa using hacl), if_neg fun h => hacl h.1, if_neg fun h => hacl h.1]
      exact ⟨hsame.symm, rfl⟩
  · rw [length_encodeBvll codes hframe, hlength]
    unfold bvllHeaderLength bdtEntrySize recvBufferLength
    omega

/-- A device answers a request for its distribution table with the table in force. -/
theorem receive_readBdt {device : RecvContext} {s : BbmdState} {frame : Bytes} (now : ℕ)
    (clientAt : Endpoint) (hctx : device.bbmd = some s)
    (hshort : s.bdt.length ≤ BbmdState.maxBdtEntries + 1)
    (hframe : encodeBvll codes .readBroadcastDistributionTable [] = .ok frame) :
    ∃ sent, encodeBvll codes .readBroadcastDistributionTableAck (encodeBdtEntries s.bdt) =
        .ok sent ∧ sent.length ≤ recvBufferLength ∧
      device.receive codes now frame clientAt = (device, { sent := [⟨clientAt, sent⟩] }) := by
  have hlength : (encodeBdtEntries s.bdt).length = s.bdt.length * bdtEntrySize :=
    bdtRecord.length_encodeAll s.bdt
  unfold bdtEntrySize at hlength
  unfold BbmdState.maxBdtEntries at hshort
  obtain ⟨sent, hsent⟩ : ∃ sent, encodeBvll codes .readBroadcastDistributionTableAck
      (encodeBdtEntries s.bdt) = .ok sent := by
    refine ⟨_, (encodeBvll_eq_ok codes).mpr ⟨?_, rfl⟩⟩
    unfold bvllHeaderLength u16Max
    omega
  refine ⟨sent, hsent, ?_, ?_⟩
  · rw [length_encodeBvll codes hsent, hlength]
    unfold bvllHeaderLength recvBufferLength
    omega
  · rw [receive_encodeBvll codes (by simp) (by simp) hframe, if_pos]
    · unfold handleBvllMessage onReadBdt
      dsimp only
      rw [hctx]
      dsimp only
      rw [show s.encodeBdt = encodeBdtEntries s.bdt from rfl, hsent]
      rfl
    · rw [length_encodeBvll codes hframe]
      decide

/-- A client that writes a distribution table which fits into a frame that the device can receive
is told whether it is in force, and reads it then with the device added, unless that makes it too
long, when it hears the device and no other answer. A table that is refused leaves the one in
force. -/
theorem write_then_read_bdt {display : Error → String} {self : Endpoint} {config : List BdtEntry}
    {acl : List Octets} {file : Option Bytes} {start device client : RecvContext}
    {first : BbmdState}
    (hstart : startBbmd display self config acl file = .ok first) (hctx : start.bbmd = some first)
    {arrivals : List Arrival} (hdevice : device = start.afterFrames codes arrivals)
    (hfree : client.bvlcResponse = none) (request again : ℕ) {later : ℕ} {clientAt : Endpoint}
    {entries : List BdtEntry} (hfits : entries.length ≤ 204) {heard reheard : List Arrival}
    (hheard : HearsAnswer codes now .writeBroadcastDistributionTable (encodeBdtEntries entries)
      device clientAt heard)
    (hreheard : HearsAnswer codes later .readBroadcastDistributionTable []
      (device.onRequest codes now .writeBroadcastDistributionTable (encodeBdtEntries entries)
        clientAt).1 clientAt reheard) :
    ∃ s inForce, device.bbmd = some s ∧ s.managementAcl = acl ∧
      (let accepted := s.isManagementAllowed clientAt.ip = true ∧
          entries.length ≤ BbmdState.maxBdtEntries
        let written := bvlcRequest codes .writeBroadcastDistributionTable
          (encodeBdtEntries entries) request client heard
        inForce = (if accepted then (BbmdState.ensureSelfInBdt { s with bdt := entries }).bdt
          else s.bdt) ∧
        written.1.bind (resultCode codes) =
          .ok (if accepted then .successfulCompletion else .writeBroadcastDistributionTableNak) ∧
        (bvlcRequest codes .readBroadcastDistributionTable [] again written.2 reheard).1.bind
            (readBdt codes) =
          if inForce.length ≤ BbmdState.maxBdtEntries then .ok inForce
          else .error (.decoding 0
            s!"BDT entry count {inForce.length} exceeds maximum of {BbmdState.maxBdtEntries}")) := by
  obtain ⟨hconfig, hfirst⟩ := startBbmd_eq_ok.mp hstart
  obtain ⟨bdt, hbdt⟩ := BbmdState.ensureSelfInBdt_eq ⟨initialBdt config file, [], self, acl⟩
  have hacl : first.managementAcl = acl := by rw [hfirst, hbdt]
  have hlength : first.bdt.length ≤ BbmdState.maxBdtEntries + 1 := by
    have hgrown := BbmdState.length_ensureSelfInBdt ⟨initialBdt config file, [], self, acl⟩
    rw [← hfirst] at hgrown
    dsimp only at hgrown
    omega
  obtain ⟨s, hs, hsacl, hslength⟩ := afterFrames_invariant codes
    (P := fun t => t.managementAcl = acl ∧ t.bdt.length ≤ BbmdState.maxBdtEntries + 1)
    (fun hchanges h => ⟨hchanges.kept.2.1.trans h.1, hchanges.bdt_length h.2⟩) hctx
    ⟨hacl, hlength⟩ arrivals
  rw [← hdevice] at hs
  obtain ⟨frame, hframe⟩ : ∃ frame, encodeBvll codes .writeBroadcastDistributionTable
      (encodeBdtEntries entries) = .ok frame := by
    have hbytes : (encodeBdtEntries entries).length = entries.length * bdtEntrySize :=
      bdtRecord.length_encodeAll entries
    refine ⟨_, (encodeBvll_eq_ok codes).mpr ⟨?_, rfl⟩⟩
    rw [hbytes]
    unfold bvllHeaderLength bdtEntrySize u16Max
    omega
  obtain ⟨ask, hask⟩ : ∃ frame, encodeBvll codes .readBroadcastDistributionTable [] = .ok frame :=
    ⟨_, (encodeBvll_eq_ok codes).mpr ⟨by decide, rfl⟩⟩
  obtain ⟨hnext, hsent⟩ := receive_writeBdt codes now clientAt hs hfits hframe
  let accepted := s.isManagementAllowed clientAt.ip = true ∧
    entries.length ≤ BbmdState.maxBdtEntries
  let next := if accepted then BbmdState.ensureSelfInBdt { s with bdt := entries } else s
  let code : BvlcResultCode :=
    if accepted then .successfulCompletion else .writeBroadcastDistributionTableNak
  have hnamed : ∀ raw, code ≠ .other raw := by
    intro raw
    unfold code
    split_ifs <;> simp
  have hnextlength : next.bdt.length ≤ BbmdState.maxBdtEntries + 1 := by
    unfold next
    split_ifs with haccepted
    · have hgrown := BbmdState.length_ensureSelfInBdt { s with bdt := entries }
      have hshort := haccepted.2
      dsimp only at hgrown
      omega
    · exact hslength
  obtain ⟨result, hresult, hresultfits, hresultsent⟩ := exists_resultFrame codes code
  obtain ⟨hwritten, hfreed⟩ := bvlcRequest_eq codes request hfree hframe
    (hsent.trans (hresultsent clientAt)) (.inl rfl) hresult hheard
  rw [if_pos hresultfits] at hwritten
  obtain ⟨answer, hanswer, hanswerfits, hread⟩ := receive_readBdt codes later clientAt
    (rfl : { device with bbmd := some next }.bbmd = some next) hnextlength hask
  have hafter : (device.onRequest codes now .writeBroadcastDistributionTable
      (encodeBdtEntries entries) clientAt).1 = { device with bbmd := some next } := by
    rw [onRequest, hframe]
    exact hnext
  rw [hafter] at hreheard
  refine ⟨s, next.bdt, hs, hsacl, apply_ite BbmdState.bdt _ _ _, ?_, ?_⟩
  · rw [hwritten]
    exact resultCode_result codes hnamed
  · rw [(bvlcRequest_eq codes again hfreed hask (congrArg (fun r => r.2.sent) hread)
      (.inr (.inl rfl)) hanswer hreheard).1, if_pos hanswerfits]
    exact decodeBdt_encodeBdtEntries next.bdt

/-- A management device that has started without a configured table. -/
def startedDevice : RecvContext :=
  { bareDevice with
    bbmd := some (BbmdState.ensureSelfInBdt
      ⟨[], [], ⟨⟨10, 0, 0, 1⟩, 47808⟩, [⟨10, 0, 0, 2⟩]⟩) }

/-- A table of one peer. -/
def onePeer : List BdtEntry := [⟨⟨⟨10, 0, 3, 1⟩, 47808⟩, ⟨255, 255, 255, 0⟩⟩]

/-- The device once the table is written to it. -/
def onePeerDevice : RecvContext :=
  (startedDevice.onRequest standardCodes 0 .writeBroadcastDistributionTable
    (encodeBdtEntries onePeer) clientEndpoint).1

/-- The table is written to the device. -/
def onePeerWritten : Except Error BvllMessage × RecvContext :=
  bvlcRequest standardCodes .writeBroadcastDistributionTable (encodeBdtEntries onePeer) 0
    plainDevice (answersOf 0 .writeBroadcastDistributionTable (encodeBdtEntries onePeer)
      startedDevice)

/-- A client at the address that may change the tables writes one peer and reads it back with the
device. -/
theorem write_then_read_one_peer :
    onePeerWritten.1.bind (resultCode standardCodes) = .ok .successfulCompletion ∧
      (bvlcRequest standardCodes .readBroadcastDistributionTable [] 1 onePeerWritten.2
          (answersOf 0 .readBroadcastDistributionTable [] onePeerDevice)).1.bind
          (readBdt standardCodes) =
        .ok (onePeer ++ [⟨⟨⟨10, 0, 0, 1⟩, 47808⟩, BbmdState.allOnes⟩]) := by
  obtain ⟨s, inForce, hs, -, hinForce, hwritten, hread⟩ := write_then_read_bdt standardCodes
    (show startBbmd (fun _ => "") ⟨⟨10, 0, 0, 1⟩, 47808⟩ [] [⟨10, 0, 0, 2⟩] none = .ok _ from rfl)
    (show startedDevice.bbmd = some _ from rfl)
    (show startedDevice = startedDevice.afterFrames standardCodes [] from rfl)
    (show plainDevice.bvlcResponse = none from rfl) 0 1 (show onePeer.length ≤ 204 by decide)
    (show HearsAnswer standardCodes 0 _ _ startedDevice clientEndpoint
        (answersOf 0 .writeBroadcastDistributionTable (encodeBdtEntries onePeer) startedDevice) from
      ⟨[], _, [], rfl, by decide, by simp⟩)
    (show HearsAnswer standardCodes 0 _ _ onePeerDevice clientEndpoint
        (answersOf 0 .readBroadcastDistributionTable [] onePeerDevice) from
      ⟨[], _, [], rfl, by decide, by simp⟩)
  obtain rfl := Option.some.inj hs
  rw [if_pos (by decide)] at hinForce hwritten
  subst hinForce
  rw [if_pos (by decide)] at hread
  exact ⟨hwritten, hread⟩

/-! ## A request that is never sent -/

/-- While a request waits, no other is made. -/
theorem bvlcRequest_busy {client : RecvContext} (hbusy : client.bvlcResponse.isSome = true)
    (function : BvlcFunction) (payload : Bytes) (request : ℕ) (heard : List Arrival) :
    bvlcRequest codes function payload request client heard =
      (.error (.encoding "BVLC management request already in flight"), client) := by
  unfold bvlcRequest startRequest
  rw [if_pos hbusy]

/-- A distribution table that is too long for a frame is not sent, and then every request is
refused for as long as no answer comes to a request of before. -/
theorem write_bdt_too_long {client : RecvContext} (hfree : client.bvlcResponse = none)
    {entries : List BdtEntry} (hlong : 6554 ≤ entries.length) (request : ℕ)
    (heard : List Arrival) {others : List Arrival} (hothers : ∀ a ∈ others, ¬ IsAnswer codes a.data)
    (function : BvlcFunction) (payload : Bytes) (again : ℕ) (reheard : List Arrival) :
    let written := bvlcRequest codes .writeBroadcastDistributionTable (encodeBdtEntries entries)
      request client heard
    (∃ e, written.1 = .error e) ∧
      (bvlcRequest codes function payload again (written.2.afterFrames codes others) reheard).1 =
        .error (.encoding "BVLC management request already in flight") := by
  obtain ⟨e, he⟩ : ∃ e, encodeBvll codes .writeBroadcastDistributionTable
      (encodeBdtEntries entries) = .error e := by
    cases hframe : encodeBvll codes .writeBroadcastDistributionTable (encodeBdtEntries entries) with
    | error e => exact ⟨e, rfl⟩
    | ok frame =>
      have hshort := ((encodeBvll_eq_ok codes).mp hframe).1
      have hbytes : (encodeBdtEntries entries).length = entries.length * bdtEntrySize :=
        bdtRecord.length_encodeAll entries
      rw [hbytes] at hshort
      unfold bvllHeaderLength bdtEntrySize u16Max at hshort
      omega
  have hwritten : bvlcRequest codes .writeBroadcastDistributionTable (encodeBdtEntries entries)
      request client heard = (.error e, { client with bvlcResponse := some request }) := by
    unfold bvlcRequest startRequest
    rw [hfree, if_neg (by simp)]
    dsimp only
    rw [he]
  intro written
  have hstill := (afterFrames_of_not_answer codes hothers
    { client with bvlcResponse := some request }).1
  refine ⟨⟨e, congrArg Prod.fst hwritten⟩, ?_⟩
  rw [bvlcRequest_busy codes]
  rw [congrArg Prod.snd hwritten, hstill]
  rfl

end RecvContext

end BacnetTransport
