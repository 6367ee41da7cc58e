import Republisher.ScConnection
import Republisher.ScRegistry

/-!
# What a hub relays

A hub answers what a connection brings. An NPDU that it sends to a client comes from the one
connection that holds the address it names, and is what that connection has sent.
-/

namespace BacnetTransport

open Wire

/-- A message that is relayed has the parts of the one that was sent. -/
theorem relayMessage_wellFormed {msg : ScMessage} (hmsg : msg.WellFormed) (sender dest : Vmac) :
    (relayMessage sender dest msg).WellFormed := by
  unfold relayMessage
  split_ifs
  · exact ⟨hmsg.function, hmsg.destOptions, hmsg.dataOptions⟩
  · exact ⟨hmsg.function, hmsg.destOptions, hmsg.dataOptions⟩

/-- A message without addresses and options is read back. -/
theorem decodeScMessage_plain {function : ScFunction}
    (h : ScFunction.fromRaw function.toRaw = function) (messageId : UInt16) (payload : Bytes) :
    decodeScMessage (encodeScMessage (plainScMessage function messageId payload)) =
      .ok (plainScMessage function messageId payload) :=
  decodeScMessage_written (ScConnection.plainScMessage_wellFormed h messageId payload)

namespace Hub

variable {κ : Type}

/-- The connections that an NPDU of some length goes to. -/
def targets (h : Hub κ) (sender dest : Vmac) (npduLen : ℕ) : List κ :=
  if dest = broadcastVmac then
    (h.clients.filter fun entry => entry.1 ≠ sender).map fun entry => entry.2.sink
  else
    match h.get dest with
    | none => []
    | some client => if npduLen > client.maxNpdu.toNat then [] else [client.sink]

/-- An NPDU that names the address of its connection is relayed to all it goes to. -/
theorem onEncapsulatedNpdu_of_named {h : Hub κ} {c : κ} {msg : ScMessage} {vmac : Vmac}
    (hvmac : (h.tasks c).clientVmac = some vmac)
    (hnamed : msg.originatingVmac.getD unknownVmac = vmac) :
    onEncapsulatedNpdu h c msg =
      (h.targets vmac (msg.destinationVmac.getD broadcastVmac) msg.payload.length).map fun d =>
        (d, .binary (encodeScMessage
          (relayMessage vmac (msg.destinationVmac.getD broadcastVmac) msg))) := by
  unfold onEncapsulatedNpdu targets
  rw [hvmac, hnamed]
  dsimp only
  rw [if_neg (not_not.mpr rfl)]
  by_cases hall : msg.destinationVmac.getD broadcastVmac = broadcastVmac
  · rw [if_pos (by simp [isBroadcastVmac, hall]), if_pos hall, List.map_map]
    rfl
  · rw [if_neg (by simp [isBroadcastVmac, hall]), if_neg hall]
    cases h.get (msg.destinationVmac.getD broadcastVmac) with
    | none => rfl
    | some client =>
      by_cases hlong : msg.payload.length > client.maxNpdu.toNat
      · simp only [if_pos hlong, List.map_nil]
      · simp only [if_neg hlong, List.map_cons, List.map_nil]

/-- An NPDU that names another address is dropped. -/
theorem onEncapsulatedNpdu_of_other {h : Hub κ} {c : κ} {msg : ScMessage} {vmac : Vmac}
    (hvmac : (h.tasks c).clientVmac = some vmac)
    (hother : msg.originatingVmac.getD unknownVmac ≠ vmac) : onEncapsulatedNpdu h c msg = [] := by
  unfold onEncapsulatedNpdu
  rw [hvmac]
  exact if_pos hother

/-- An NPDU of a connection is relayed to another one: the sender holds the address that the
message names, and the receiver is one that the NPDU goes to. -/
structure Relays (h : Hub κ) (c d : κ) (msg m : ScMessage) (vmac : Vmac) : Prop where
  npdu : msg.function = .encapsulatedNpdu
  holds : (h.tasks c).held = some vmac
  named : msg.originatingVmac.getD unknownVmac = vmac
  same : m = relayMessage vmac (msg.destinationVmac.getD broadcastVmac) msg
  target : d ∈ h.targets vmac (msg.destinationVmac.getD broadcastVmac) msg.payload.length

/-- What a relayed message is read as. -/
theorem Relays.decode {h : Hub κ} {c d : κ} {data : Bytes} {msg m : ScMessage} {vmac : Vmac}
    (hrelays : Relays h c d msg m vmac) (hdata : decodeScMessage data = .ok msg) :
    decodeScMessage (encodeScMessage m) = .ok m := by
  rw [hrelays.same]
  exact decodeScMessage_written (relayMessage_wellFormed (wellFormed_of_decodeScMessage hdata) _ _)

/-- A relayed message carries an NPDU. -/
theorem Relays.function {h : Hub κ} {c d : κ} {msg m : ScMessage} {vmac : Vmac}
    (hrelays : Relays h c d msg m vmac) : m.function = .encapsulatedNpdu := by
  rw [hrelays.same, ← hrelays.npdu, relayMessage]
  split_ifs <;> rfl

variable (hub : ScHub)

/-- What is sent when a connection brings something: a refusal, an acknowledgement or the end of
the connection, or an acceptance, to the connection itself, or its NPDU to another one. -/
inductive Answers (h : Hub κ) (c : κ) (incoming : Incoming) : κ → Outgoing → Prop
  | refuses (messageId : UInt16) (resultFor : ScFunction) (classHi classLo codeHi codeLo : UInt8) :
      Answers h c incoming c (.binary (encodeScMessage
        (buildBvlcResultNak messageId resultFor classHi classLo codeHi codeLo)))
  | beats (messageId : UInt16) : Answers h c incoming c
      (.binary (encodeScMessage (plainScMessage .heartbeatAck messageId [])))
  | parts (messageId : UInt16) : Answers h c incoming c
      (.binary (encodeScMessage (plainScMessage .disconnectAck messageId [])))
  | accepts (vmac : Vmac) (request : asked incoming = some vmac) (free : h.get vmac = none)
      (messageId : UInt16) :
      Answers h c incoming c (.binary (encodeScMessage (hub.connectAccept messageId)))
  | relays {d : κ} {data : Bytes} {msg m : ScMessage} {vmac : Vmac}
      (brought : incoming = .binary data) (read : decodeScMessage data = .ok msg)
      (relayed : Relays h c d msg m vmac) : Answers h c incoming d (.binary (encodeScMessage m))
  | closes (code : ℕ) (reason : String) : Answers h c incoming c (.close code reason)

/-- One thing that is sent is an answer if it is one. -/
theorem Answers.of_mem {h : Hub κ} {c d : κ} {incoming : Incoming} {only out : Outgoing}
    (honly : Answers hub h c incoming c only) (hmem : (d, out) ∈ [(c, only)]) :
    Answers hub h c incoming d out := by
  obtain ⟨rfl, rfl⟩ := Prod.mk.injEq .. ▸ List.mem_singleton.mp hmem
  exact honly

/-- What is sent for an NPDU. -/
theorem onEncapsulatedNpdu_answers {h : Hub κ} {c d : κ} {data : Bytes} {msg : ScMessage}
    (hserving : (h.tasks c).phase = .serving) (hdata : decodeScMessage data = .ok msg)
    (hmsg : msg.function = .encapsulatedNpdu) {out : Outgoing}
    (hmem : (d, out) ∈ onEncapsulatedNpdu h c msg) : Answers hub h c (.binary data) d out := by
  cases hvmac : (h.tasks c).clientVmac with
  | none =>
    rw [onEncapsulatedNpdu, hvmac] at hmem
    exact .of_mem hub (.refuses _ _ _ _ _ _) hmem
  | some vmac =>
    by_cases hnamed : msg.originatingVmac.getD unknownVmac = vmac
    · rw [onEncapsulatedNpdu_of_named hvmac hnamed] at hmem
      obtain ⟨target, htarget, hsent⟩ := List.mem_map.mp hmem
      obtain ⟨rfl, rfl⟩ := Prod.mk.injEq .. ▸ hsent
      exact .relays rfl hdata ⟨hmsg, (ClientTask.held_of_serving hserving).trans hvmac, hnamed,
        rfl, htarget⟩
    · rw [onEncapsulatedNpdu_of_other hvmac hnamed] at hmem
      cases hmem

variable [DecidableEq κ]

/-- What is sent to a client that asks to be registered. -/
theorem onConnectRequest_answers {h : Hub κ} {c d : κ} {data : Bytes} {msg : ScMessage}
    (hdata : decodeScMessage data = .ok msg) (hmsg : msg.function = .connectRequest)
    {delivered : Bool} {out : Outgoing}
    (hmem : (d, out) ∈ (onConnectRequest hub h c msg delivered).2) :
    Answers hub h c (.binary data) d out := by
  unfold onConnectRequest at hmem
  dsimp only at hmem
  split_ifs at hmem with hshort hreserved htaken hfull
  · exact .of_mem hub (.refuses _ _ _ _ _ _) hmem
  · cases hmem
  · exact .of_mem hub (.refuses _ _ _ _ _ _) hmem
  · exact .of_mem hub (.refuses _ _ _ _ _ _) hmem
  · exact .of_mem hub
      (.accepts _ (asked_request hdata hmsg) (by simpa using htaken) _) hmem

/-- What is sent when a connection brings something. -/
theorem onIncoming_answers {h : Hub κ} {c d : κ} {incoming : Incoming} {delivered : Bool}
    {out : Outgoing} (hserving : (h.tasks c).phase = .serving)
    (hmem : (d, out) ∈ (onIncoming hub h c incoming delivered).2) :
    Answers hub h c incoming d out := by
  cases incoming with
  | binary data =>
    rw [onIncoming] at hmem
    cases hdata : decodeScMessage data with
    | error e =>
      rw [hdata] at hmem
      cases hmem
    | ok msg =>
      rw [hdata] at hmem
      simp only [onMessage] at hmem
      split at hmem
      · next hmsg => exact onConnectRequest_answers hub hdata hmsg hmem
      · exact .of_mem hub (.beats _) hmem
      · exact .of_mem hub (.parts _) hmem
      · next hmsg => exact onEncapsulatedNpdu_answers hub hserving hdata hmsg hmem
      · exact .of_mem hub (.refuses _ _ _ _ _ _) hmem
  | close => cases hmem
  | pingPong => cases hmem
  | other => exact .of_mem hub (.closes _ _) hmem
  | failed => cases hmem

/-- What is sent when a connection brings something is what is sent once it has been heard. -/
theorem sends_received {h : Hub κ} {c : κ} (hserving : (h.tasks c).phase = .serving)
    (incoming : Incoming) (now : ℕ) (delivered : Bool) :
    h.sends hub (.received c incoming now delivered) =
      (onIncoming hub (h.heard c now) c incoming delivered).2 := by
  rw [sends, handle, if_pos hserving]
  rfl

/-- A hub answers what a connection brings, or asks an idle client whether it is there. -/
theorem sends_cases {h : Hub κ} {e : Event κ} {d : κ} {out : Outgoing}
    (hmem : (d, out) ∈ h.sends hub e) :
    (∃ c incoming now delivered, e = .received c incoming now delivered ∧
      (h.tasks c).phase = .serving ∧ Answers hub (h.heard c now) c incoming d out) ∨
        out = .binary (encodeScMessage (plainScMessage .heartbeatRequest h.nextMsgId [])) := by
  cases e with
  | received c incoming now delivered =>
    by_cases hserving : (h.tasks c).phase = .serving
    · rw [sends_received hub hserving] at hmem
      exact .inl ⟨c, incoming, now, delivered, rfl, hserving,
        onIncoming_answers hub ((phase_heard h c now).trans hserving) hmem⟩
    · rw [sends, handle, if_neg hserving] at hmem
      cases hmem
  | opened c now =>
    rw [sends, handle] at hmem
    split_ifs at hmem <;> cases hmem
  | ended c =>
    rw [sends, handle] at hmem
    split_ifs at hmem <;> cases hmem
  | finished c =>
    rw [sends, handle] at hmem
    split_ifs at hmem <;> cases hmem
  | tick order now =>
    rw [sends, handle] at hmem
    split_ifs at hmem <;> cases hmem
  | heartbeat delivered =>
    rw [sends, handle] at hmem
    cases hidle : h.idleClients with
    | nil =>
      rw [hidle] at hmem
      cases hmem
    | cons first rest =>
      rw [hidle] at hmem
      obtain ⟨-, rfl⟩ := Prod.mk.injEq .. ▸ List.mem_singleton.mp hmem
      exact .inr rfl

/-- A message of a client that the hub has heard is relayed as before. -/
theorem Relays.of_heard {h : Hub κ} {c d : κ} {msg m : ScMessage} {vmac : Vmac} {now : ℕ}
    (hrelays : Relays (h.heard c now) c d msg m vmac) : Relays h c d msg m vmac where
  npdu := hrelays.npdu
  holds := by
    have hholds := hrelays.holds
    rw [heard, tasks_setTask_self] at hholds
    exact hholds
  named := hrelays.named
  same := hrelays.same
  target := hrelays.target

/-- A frame that is read as a plain message has its function. -/
theorem function_of_plain {function : ScFunction} {messageId : UInt16} {payload : Bytes}
    {m : ScMessage} (h : ScFunction.fromRaw function.toRaw = function)
    (hm : decodeScMessage (encodeScMessage (plainScMessage function messageId payload)) = .ok m) :
    m.function = function := by
  rw [decodeScMessage_plain h] at hm
  cases hm
  rfl

/-- An NPDU is only sent by a hub that relays a message that a connection has brought. -/
theorem sends_relays {h : Hub κ} {e : Event κ} {d : κ} {frame : Bytes} {m : ScMessage}
    (hmem : (d, Outgoing.binary frame) ∈ h.sends hub e) (hm : decodeScMessage frame = .ok m)
    (hnpdu : m.function = .encapsulatedNpdu) :
    ∃ c data now delivered msg vmac, e = .received c (.binary data) now delivered ∧
      decodeScMessage data = .ok msg ∧ Relays h c d msg m vmac := by
  rcases sends_cases hub hmem with ⟨c, incoming, now, delivered, rfl, -, hanswers⟩ | hbeat
  · cases hanswers with
    | refuses =>
      have hresult := function_of_plain rfl hm
      simp [hnpdu] at hresult
    | beats =>
      have hack := function_of_plain rfl hm
      simp [hnpdu] at hack
    | parts =>
      have hack := function_of_plain rfl hm
      simp [hnpdu] at hack
    | accepts =>
      have haccept := function_of_plain rfl hm
      simp [hnpdu] at haccept
    | relays hbrought hread hrelays =>
      rw [hrelays.decode hread] at hm
      cases hm
      exact ⟨c, _, now, delivered, _, _, by rw [hbrought], hread, hrelays.of_heard⟩
  · rw [Outgoing.binary.injEq] at hbeat
    subst hbeat
    have hrequest := function_of_plain rfl hm
    simp [hnpdu] at hrequest

/-- An acceptance is only sent to a connection that asks for a free address. -/
theorem sends_accepts {h : Hub κ} {e : Event κ} {d : κ} {frame : Bytes} {m : ScMessage}
    (hmem : (d, Outgoing.binary frame) ∈ h.sends hub e) (hm : decodeScMessage frame = .ok m)
    (haccept : m.function = .connectAccept) :
    ∃ incoming now delivered vmac, e = .received d incoming now delivered ∧
      (h.tasks d).phase = .serving ∧ asked incoming = some vmac ∧ h.get vmac = none := by
  rcases sends_cases hub hmem with ⟨c, incoming, now, delivered, rfl, hserving, hanswers⟩ | hbeat
  · cases hanswers with
    | refuses =>
      have hresult := function_of_plain rfl hm
      simp [haccept] at hresult
    | beats =>
      have hack := function_of_plain rfl hm
      simp [haccept] at hack
    | parts =>
      have hack := function_of_plain rfl hm
      simp [haccept] at hack
    | accepts vmac hasked hfree =>
      exact ⟨incoming, now, delivered, vmac, rfl, hserving, hasked, hfree⟩
    | relays hbrought hread hrelays =>
      rw [hrelays.decode hread] at hm
      cases hm
      rw [hrelays.function] at haccept
      cases haccept
  · rw [Outgoing.binary.injEq] at hbeat
    subst hbeat
    have hrequest := function_of_plain rfl hm
    simp [haccept] at hrequest

/-! ## Runs -/

/-- An NPDU that the hub sends names an address that one connection only holds, on which that
address is reached, and the hub has just been brought the NPDU by it. -/
def RelaysOnly (h : Hub κ) (e : Event κ) : Prop :=
  ∀ d frame m, (d, Outgoing.binary frame) ∈ h.sends hub e → decodeScMessage frame = .ok m →
    m.function = .encapsulatedNpdu →
      ∃ c data now delivered msg vmac, e = .received c (.binary data) now delivered ∧
        decodeScMessage data = .ok msg ∧ Relays h c d msg m vmac ∧
          msg.originatingVmac = some vmac ∧ h.reaches vmac = some c ∧
            ∀ other, (h.tasks other).held = some vmac → other = c

/-- In every run in which no sweep takes an address out of the table that a task still holds,
the hub only relays what the one connection has sent that holds the address it names. -/
theorem relayed {es : List (Event κ)}
    (hkeeps : Transition.Along (step hub) (fun h e _ => h.Keeps e) start es) :
    Transition.Along (step hub) (fun h e _ => h.RelaysOnly hub e) start es := by
  have hagrees := (agrees_iff hub agrees_start es).mpr hkeeps
  have hordered := ordered_throughout (κ := κ) hub es
  refine (Transition.throughout_and.mpr ⟨hagrees, hordered⟩).along ?_
  rintro h e t ⟨hagree, horder⟩ - d frame m hmem hm hnpdu
  obtain ⟨c, data, now, delivered, msg, vmac, rfl, hdata, hrelays⟩ := sends_relays hub hmem hm hnpdu
  have husable : Usable vmac :=
    horder.remembered c vmac (ClientTask.clientVmac_of_held hrelays.holds)
  refine ⟨c, data, now, delivered, msg, vmac, rfl, hdata, hrelays, ?_, hagree c vmac hrelays.holds,
    fun other hother => ?_⟩
  · cases hnamed : msg.originatingVmac with
    | none =>
      have hunknown := hrelays.named
      rw [hnamed] at hunknown
      exact absurd hunknown.symm husable.1
    | some named =>
      have hsame := hrelays.named
      rw [hnamed] at hsame
      exact congrArg some hsame
  · exact Option.some.inj ((hagree other vmac hother).symm.trans (hagree c vmac hrelays.holds))

/-! ## Two nodes -/

/-- The hub of two nodes. -/
def pairHub : ScHub := ⟨⟨0, 0, 0, 0, 0, 9⟩, .zero⟩

/-- The node on either connection. -/
def pairNode (second : Bool) : ScConnection :=
  .new ⟨2, 0, 0, 0, 0, if second then 2 else 1⟩ .zero

/-- A node asks to be registered. -/
def pairConnect (second : Bool) : Event Bool :=
  .received second (.binary (encodeScMessage (pairNode second).buildConnectRequest.2)) 0 true

/-- Both nodes register, and one sends an NPDU to all. -/
def pairRun : List (Event Bool) :=
  [.opened false 0, .opened true 0, pairConnect false, pairConnect true,
    .received false (.binary (encodeScMessage
      ((pairNode false).buildEncapsulatedNpdu broadcastVmac [1, 32]).2)) 1 true]

/-- No address is taken out of the table while every client can be reached. -/
theorem keeps_of_reached {h : Hub κ} {es : List (Event κ)}
    (hes : Event.heartbeat false ∉ es) :
    Transition.Along (step hub) (fun h e _ => h.Keeps e) h es := by
  induction es generalizing h with
  | nil => trivial
  | cons e es ih =>
    obtain ⟨hne, hrest⟩ := not_or.mp (mt List.mem_cons.mpr hes)
    refine fun t _ => ⟨fun vmac hvmac => ?_, ih hrest⟩
    exfalso
    unfold evicts at hvmac
    split at hvmac
    · exact hne rfl
    · cases hvmac

/-- Nothing is taken away from the two nodes. -/
theorem pairRun_keeps :
    Transition.Along (step pairHub) (fun h e _ => h.Keeps e) start pairRun :=
  keeps_of_reached pairHub (by simp [pairRun, pairConnect])

/-- What the hub of the two nodes sends is what the one has sent. -/
theorem relayed_pair :
    Transition.Along (step pairHub) (fun h e _ => h.RelaysOnly pairHub e) start pairRun :=
  relayed pairHub pairRun_keeps

end Hub

end BacnetTransport
