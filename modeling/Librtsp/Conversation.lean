import Librtsp.ByteChannel
import Librtsp.ResponseMatching
import Librtsp.ServerTraffic

/-!
# A client and a server

The two machines with the bytes under way between them.  Everything happens in any order: calls
of either application, timers, arrivals of some of the bytes, frames between the messages, and
whatever the server does for its other clients.  The channel keeps the order of the bytes; the
messages can be read as they were written.  The server has one buffer for all its clients, so
the bytes of the others come and go where no message of this one is under way.
-/

namespace Librtsp

open CString

/-! ## Interleaved data -/

/-- The frame, if it is sent. -/
def rtspClientSendInterleaved (env : ClientEnv) (client : RtspClient) (channel : UInt8)
    (data : Bytes) : Except Errno Bytes :=
  if data.length = 0 then .error .einval
  else if 65535 < data.length then .error .einval
  else if client.connState ≠ .connected then .error .epipe
  else if ¬ client.channelUsed channel then .error .enoent
  else
    match rtspBuildInterleaved channel data with
    | .error e => .error e
    | .ok frame =>
        if client.sock then env.send.map fun () => frame
        else .error .eproto

/-- The frame goes to every client. -/
def rtspServerSendInterleaved (env : Env) (channel : UInt8) (data : Bytes) : Except Errno Bytes :=
  if data.length = 0 then .error .einval
  else if 65535 < data.length then .error .einval
  else
    match rtspBuildInterleaved channel data with
    | .error e => .error e
    | .ok frame => env.send.map fun () => frame

/-! ## States and steps -/

/-- The client, the server with its one receive buffer, and the two directions of the
connection. -/
structure Conversation where
  client : ClientState
  server : ServerState
  receiver : Receiver := {}
  up : ByteChannel := {}
  down : ByteChannel := {}

inductive ConversationInput where
  | client (env : ClientEnv) (input : ClientInput)
  | clientFrame (env : ClientEnv) (channel : UInt8) (data : Bytes)
  | server (env : Env) (input : ServerInput)
  /-- Bytes of any client arrive. -/
  | serverData (env : Env) (sender : Conn) (chunk : Bytes)
  | serverFrame (env : Env) (channel : UInt8) (data : Bytes)

inductive ConversationHalt where
  | client (halt : ClientHalt)
  | server (halt : Halt)
  | fault (f : Fault)

def clientWrites : ClientEvent → Option Bytes
  | .sent _ message => some message
  | .answered _ message => some message
  | _ => none

def serverWrites (conn : Conn) : ServerEvent → Option Bytes
  | .response _ c _ message => if c = conn then some message else none
  | .broadcast message => some message
  | _ => none

def ReceiveEvent.message : ReceiveEvent → Option Delivery
  | .deliver message => some message
  | .skip _ _ => none

/-- Messages reach the server in bytes only. -/
def ServerInput.handsMessages : ServerInput → Bool
  | .receive _ _ => true
  | _ => false

section Step

variable (E : HeaderEdit) (P : Platform) (conn : Conn) (s : Conversation)

def conversationStep : ConversationInput → Except ConversationHalt Conversation
  | .client env input =>
      match clientStep E P env s.client input with
      | .error halt => .error (.client halt)
      | .ok client =>
          .ok { s with
            client
            up := s.up.write
              ((client.events.drop s.client.events.length).filterMap clientWrites)
            down := s.down.arrive input.chunk }
  | .clientFrame env channel data =>
      .ok { s with
        up := s.up.write
          (rtspClientSendInterleaved env s.client.client channel data).toOption.toList }
  | .server env input =>
      if input.handsMessages then .error (.server .disabled)
      else
        match serverStep P env s.server input with
        | .error halt => .error (.server halt)
        | .ok server =>
            .ok { s with
              server
              down := s.down.write
                ((server.events.drop s.server.events.length).filterMap (serverWrites conn)) }
  | .serverData env sender chunk =>
      match receiveChunk E P s.receiver chunk with
      | .error f => .error (.fault f)
      | .ok (events, receiver) =>
          match serverStep P env s.server
            (.receive sender (events.filterMap ReceiveEvent.message)) with
          | .error halt => .error (.server halt)
          | .ok server =>
              .ok { s with
                server, receiver
                up := if sender = conn then s.up.arrive [chunk] else s.up }
  | .serverFrame env channel data =>
      .ok { s with
        down := s.down.write (rtspServerSendInterleaved env channel data).toOption.toList }

variable {E P conn s} {s' : Conversation}

theorem conversationStep_ofClient {env : ClientEnv} {input : ClientInput}
    (h : conversationStep E P conn s (.client env input) = .ok s') :
    ∃ client, clientStep E P env s.client input = .ok client ∧
      s' = { s with
        client
        up := s.up.write ((client.events.drop s.client.events.length).filterMap clientWrites)
        down := s.down.arrive input.chunk } := by
  unfold conversationStep at h
  dsimp only at h
  split at h
  next => cases h
  next client hclient =>
    cases h
    exact ⟨client, hclient, rfl⟩

theorem conversationStep_ofServer {env : Env} {input : ServerInput}
    (h : conversationStep E P conn s (.server env input) = .ok s') :
    input.handsMessages = false ∧ ∃ server, serverStep P env s.server input = .ok server ∧
      s' = { s with
        server
        down := s.down.write
          ((server.events.drop s.server.events.length).filterMap (serverWrites conn)) } := by
  unfold conversationStep at h
  dsimp only at h
  split at h
  next => cases h
  next hhands =>
    split at h
    next => cases h
    next server hserver =>
      cases h
      exact ⟨Bool.eq_false_iff.mpr hhands, server, hserver, rfl⟩

theorem conversationStep_ofData {env : Env} {sender : Conn} {chunk : Bytes}
    (h : conversationStep E P conn s (.serverData env sender chunk) = .ok s') :
    ∃ events receiver server, receiveChunk E P s.receiver chunk = .ok (events, receiver) ∧
      serverStep P env s.server (.receive sender (events.filterMap ReceiveEvent.message)) =
        .ok server ∧
      s' = { s with
        server, receiver
        up := if sender = conn then s.up.arrive [chunk] else s.up } := by
  unfold conversationStep at h
  dsimp only at h
  split at h
  next => cases h
  next events receiver hchunk =>
    split at h
    next => cases h
    next server hserver =>
      cases h
      exact ⟨events, receiver, server, hchunk, hserver, rfl⟩

end Step

/-- The chunk that arrives at the client. -/
def ConversationInput.toClient : ConversationInput → List Bytes
  | .client _ input => input.chunk
  | _ => []

/-- The chunk that arrives at the server, and whose it is. -/
def ConversationInput.toServer : ConversationInput → List (Conn × Bytes)
  | .serverData _ sender chunk => [(sender, chunk)]
  | _ => []

/-- The buffer is between two messages when the chunk arrives and after it. -/
def WholeMessages (E : HeaderEdit) (P : Platform) (r : Receiver) (chunk : Bytes) : Prop :=
  r.BetweenMessages ∧ ∀ result ∈ (receiveChunk E P r chunk).toOption, result.2.BetweenMessages

instance (E : HeaderEdit) (P : Platform) (r : Receiver) (chunk : Bytes) :
    Decidable (WholeMessages E P r chunk) :=
  inferInstanceAs (Decidable (_ ∧ _))

/-- What arrives is the next part of what was written; other clients send whole messages where
no message of this one is under way; and the client has numbers left. -/
structure Carried (E : HeaderEdit) (P : Platform) (conn : Conn) (s : Conversation)
    (input : ConversationInput) : Prop where
  down : ∀ chunk ∈ input.toClient, s.down.Carries chunk
  up : ∀ data ∈ input.toServer, data.1 = conn → s.up.Carries data.2
  others : ∀ data ∈ input.toServer, data.1 ≠ conn → WholeMessages E P s.receiver data.2
  numbers : s.client.client.cseq.toNat < 2 ^ 31

instance (E : HeaderEdit) (P : Platform) (conn : Conn) (s : Conversation)
    (input : ConversationInput) : Decidable (Carried E P conn s input) :=
  decidable_of_iff
    ((∀ chunk ∈ input.toClient, s.down.Carries chunk) ∧
      (∀ data ∈ input.toServer, data.1 = conn → s.up.Carries data.2) ∧
      (∀ data ∈ input.toServer, data.1 ≠ conn → WholeMessages E P s.receiver data.2) ∧
      s.client.client.cseq.toNat < 2 ^ 31)
    ⟨fun h => ⟨h.1, h.2.1, h.2.2.1, h.2.2.2⟩, fun h => ⟨h.down, h.up, h.others, h.numbers⟩⟩

/-! ## Messages that can be read -/

section Readable

variable (P : Platform)

/-- The message is a request with this header, and its number is read as it was written. -/
def ReadsRequest (header : RtspRequestHeader) (message : Bytes) : Prop :=
  ∃ m : WireRequest P, m.source = header ∧ m.header.cseq = header.cseq ∧
    m.text ++ m.body = message

/-- The message is a response whose number is read as it was written. -/
def ReadsResponse (message : Bytes) : Prop :=
  ∃ m : WireResponse P, 0 ≤ m.source.cseq ∧ m.header.cseq = m.source.cseq ∧
    (∃ reason ∈ m.source.statusString, FieldText reason) ∧ m.text ++ m.body = message

/-- Every message that was written can be read. -/
structure Readable (conn : Conn) (s : Conversation) : Prop where
  sent : ∀ header message, .sent header message ∈ s.client.events → ReadsRequest P header message
  answered : ∀ header message, .answered header message ∈ s.client.events → ReadsResponse P message
  response : ∀ a status message, .response a conn status message ∈ s.server.events →
    ReadsResponse P message
  broadcast : ∀ message, .broadcast message ∈ s.server.events →
    ∃ m : WireRequest P, m.text ++ m.body = message

/-- A header whose fields are kept is read with its number. -/
theorem SentRequest.readsRequest {P : Platform} (hP : P.ExactWhole) (m : SentRequest P) :
    ReadsRequest P m.header (m.text ++ m.body) :=
  ⟨m.wire hP, rfl, rfl, rfl⟩

theorem SentResponse.readsResponse {P : Platform} (hP : P.ExactWhole) (m : SentResponse P) :
    ReadsResponse P (m.text ++ m.body) := by
  obtain ⟨reason, hreason, -, hclean⟩ := m.kept.statusString
  exact ⟨m.wire hP, m.kept.cseq, rfl, ⟨reason, hreason, hclean⟩, rfl⟩

end Readable

/-! ## What was written -/

section Written

variable {P : Platform}

/-- The requests among the messages, as they are read. -/
def requestsOf (ms : List (WireMessage P)) : List (RtspRequestHeader × Bytes) :=
  (ms.map WireMessage.delivery).filterMap requestOf

/-- The headers the requests among the messages were written from. -/
def sourcesOf (ms : List (WireMessage P)) : List RtspRequestHeader :=
  ms.filterMap fun
    | .request m => some m.source
    | _ => none

@[simp] theorem requestsOf_append (ms ms' : List (WireMessage P)) :
    requestsOf (ms ++ ms') = requestsOf ms ++ requestsOf ms' := by
  simp [requestsOf]

@[simp] theorem sourcesOf_append (ms ms' : List (WireMessage P)) :
    sourcesOf (ms ++ ms') = sourcesOf ms ++ sourcesOf ms' :=
  List.filterMap_append

/-- The requests are read with the numbers they were written with. -/
def NumbersKept (ms : List (WireMessage P)) : Prop :=
  ∀ m, .request m ∈ ms → m.header.cseq = m.source.cseq

/-- The responses among the messages are among the events. -/
def RespondedIn (conn : Conn) (events : List ServerEvent) (ms : List (WireMessage P)) : Prop :=
  ∀ m, .response m ∈ ms → NumberedLine (m.text ++ m.body) m.header.cseq ∧
    ∃ a status, .response a conn status (m.text ++ m.body) ∈ events

/-- What the client writes, as messages. -/
theorem clientWrites_messages {events : List ClientEvent}
    (hsent : ∀ header message, .sent header message ∈ events → ReadsRequest P header message)
    (hanswered : ∀ header message, .answered header message ∈ events → ReadsResponse P message) :
    ∃ ms : List (WireMessage P), ms.map WireMessage.wire = events.filterMap clientWrites ∧
      sourcesOf ms = sentHeaders events ∧ NumbersKept ms := by
  induction events with
  | nil => exact ⟨[], rfl, rfl, fun _ h => absurd h List.not_mem_nil⟩
  | cons event events ih =>
      obtain ⟨ms, hwires, hsources, hnumbers⟩ :=
        ih (fun header message h => hsent header message (List.mem_cons_of_mem _ h))
          (fun header message h => hanswered header message (List.mem_cons_of_mem _ h))
      cases event with
      | sent header message =>
          obtain ⟨m, rfl, hnumber, rfl⟩ := hsent header message List.mem_cons_self
          refine ⟨.request m :: ms, congrArg (_ :: ·) hwires, congrArg (_ :: ·) hsources, ?_⟩
          intro m' hm'
          rcases List.mem_cons.mp hm' with heq | hm'
          · cases heq
            exact hnumber
          · exact hnumbers m' hm'
      | answered header message =>
          obtain ⟨m, -, -, -, rfl⟩ := hanswered header message List.mem_cons_self
          refine ⟨.response m :: ms, congrArg (_ :: ·) hwires, hsources, fun m' hm' => ?_⟩
          rcases List.mem_cons.mp hm' with heq | hm'
          · cases heq
          · exact hnumbers m' hm'
      | _ => exact ⟨ms, hwires, hsources, hnumbers⟩

theorem ReadsResponse.numberedLine {m : WireResponse P} (hcseq : 0 ≤ m.source.cseq)
    (hnumber : m.header.cseq = m.source.cseq)
    (hreason : ∃ reason ∈ m.source.statusString, FieldText reason) :
    NumberedLine (m.text ++ m.body) m.header.cseq := by
  obtain ⟨reason, hsome, hclean⟩ := hreason
  obtain ⟨line, rest, hline, htext⟩ :=
    responseHeaderWrite_numberedLine hsome hclean hcseq m.written
  have htext' : m.text = _ := htext
  refine ⟨line, rest ++ m.body, hline, ?_⟩
  rw [htext', hnumber]
  simp only [List.append_assoc]

/-- What the server writes to the connection, as messages. -/
theorem serverWrites_messages {conn : Conn} {events : List ServerEvent}
    (hresponse : ∀ a status message, .response a conn status message ∈ events →
      ReadsResponse P message)
    (hbroadcast : ∀ message, .broadcast message ∈ events →
      ∃ m : WireRequest P, m.text ++ m.body = message) :
    ∃ ms : List (WireMessage P), ms.map WireMessage.wire = events.filterMap (serverWrites conn) ∧
      RespondedIn conn events ms := by
  induction events with
  | nil => exact ⟨[], rfl, fun _ h => absurd h List.not_mem_nil⟩
  | cons event events ih =>
      obtain ⟨ms, hwires, hresponded⟩ :=
        ih (fun a status message h => hresponse a status message (List.mem_cons_of_mem _ h))
          (fun message h => hbroadcast message (List.mem_cons_of_mem _ h))
      have hmore : RespondedIn conn (event :: events) ms := fun m hm => by
        obtain ⟨hline, a, status, hevent⟩ := hresponded m hm
        exact ⟨hline, a, status, List.mem_cons_of_mem _ hevent⟩
      cases event with
      | received conn' a header body => exact ⟨ms, hwires, hmore⟩
      | response a conn' status message =>
          by_cases hconn : conn' = conn
          · subst hconn
            obtain ⟨m, hcseq, hnumber, hreason, rfl⟩ :=
              hresponse a status message List.mem_cons_self
            refine ⟨.response m :: ms, ?_, fun m' hm' => ?_⟩
            · rw [List.map_cons, hwires]
              simp [serverWrites, WireMessage.wire]
            · rcases List.mem_cons.mp hm' with heq | hm'
              · cases heq
                exact ⟨ReadsResponse.numberedLine hcseq hnumber hreason, a, status,
                  List.mem_cons_self⟩
              · exact hmore m' hm'
          · refine ⟨ms, ?_, hmore⟩
            rw [hwires]
            simp [serverWrites, hconn]
      | broadcast message =>
          obtain ⟨m, rfl⟩ := hbroadcast message List.mem_cons_self
          refine ⟨.request m :: ms, congrArg (_ :: ·) hwires, fun m' hm' => ?_⟩
          rcases List.mem_cons.mp hm' with heq | hm'
          · cases heq
          · exact hmore m' hm'

/-- A frame that was sent is one message. -/
theorem frame_messages {frame : Except Errno Bytes} {channel : UInt8} {data : Bytes}
    (h : ∀ wire, frame = .ok wire → rtspBuildInterleaved channel data = .ok wire) :
    ∃ ms : List (WireMessage P), ms.map WireMessage.wire = frame.toOption.toList ∧
      sourcesOf ms = [] ∧ ∀ m ∈ ms, ∃ f, m = .frame f := by
  cases frame with
  | error e => exact ⟨[], rfl, rfl, fun _ h => absurd h List.not_mem_nil⟩
  | ok wire =>
      refine ⟨[.frame ⟨channel, data, wire, h wire rfl⟩], rfl, rfl, fun m hm => ?_⟩
      exact ⟨_, List.mem_singleton.mp hm⟩

theorem rtspClientSendInterleaved_frame {env : ClientEnv} {client : RtspClient}
    {channel : UInt8} {data wire : Bytes}
    (h : rtspClientSendInterleaved env client channel data = .ok wire) :
    rtspBuildInterleaved channel data = .ok wire := by
  unfold rtspClientSendInterleaved at h
  split at h
  next => cases h
  next =>
    split at h
    next => cases h
    next =>
      split at h
      next => cases h
      next =>
        split at h
        next => cases h
        next =>
          split at h
          next => cases h
          next frame hbuilt =>
            split at h
            next =>
              obtain ⟨_, -, rfl⟩ := except_map_ok.mp h
              exact hbuilt
            next => cases h

theorem rtspServerSendInterleaved_frame {env : Env} {channel : UInt8} {data wire : Bytes}
    (h : rtspServerSendInterleaved env channel data = .ok wire) :
    rtspBuildInterleaved channel data = .ok wire := by
  unfold rtspServerSendInterleaved at h
  split at h
  next => cases h
  next =>
    split at h
    next => cases h
    next =>
      split at h
      next => cases h
      next frame hbuilt =>
        obtain ⟨_, -, rfl⟩ := except_map_ok.mp h
        exact hbuilt

end Written

/-! ## The invariant -/

/-- Each side has taken whole messages of the other, in their order.  The server has received
the requests among them, up to those it still has to process; the client has delivered what it
has taken, up to what its loop still has to deliver. -/
structure Agrees (E : HeaderEdit) (P : Platform) (conn : Conn) (s : Conversation) : Prop where
  client : WireNumbered s.client
  loop : LoopBelow E P {} s.down.arrived (deliveredIn s.client.events) s.client.client
    s.client.tasks
  server : Recorded s.server
  up : ∃ (ms done : List (WireMessage P)), s.up.Taken E ms done s.receiver ∧
    sourcesOf ms = sentHeaders s.client.events ∧ NumbersKept ms ∧
    s.server.events.filterMap (receivedOn conn) ++
      (s.server.activity.left conn).filterMap requestOf = requestsOf done
  down : ∃ (ms done : List (WireMessage P)) (r : Receiver), s.down.TakenAlone E ms done r ∧
    RespondedIn conn s.server.events ms

section Steps

variable {E : HeaderEdit} {P : Platform} {conn : Conn} {s s' : Conversation}

theorem NumbersKept.append {ms ms' : List (WireMessage P)} (h : NumbersKept ms)
    (h' : NumbersKept ms') : NumbersKept (ms ++ ms') := by
  intro m hm
  rcases List.mem_append.mp hm with hm | hm
  · exact h m hm
  · exact h' m hm

theorem RespondedIn.append {events more : List ServerEvent} {ms ms' : List (WireMessage P)}
    (h : RespondedIn conn events ms) (h' : RespondedIn conn more ms') :
    RespondedIn conn (events ++ more) (ms ++ ms') := by
  intro m hm
  rcases List.mem_append.mp hm with hm | hm
  · obtain ⟨hline, a, status, hevent⟩ := h m hm
    exact ⟨hline, a, status, List.mem_append_left _ hevent⟩
  · obtain ⟨hline, a, status, hevent⟩ := h' m hm
    exact ⟨hline, a, status, List.mem_append_right _ hevent⟩

/-- A step of the client. -/
theorem Agrees.client_step (h : Agrees E P conn s) {env : ClientEnv} {input : ClientInput}
    {client : ClientState} (hcarries : ∀ chunk ∈ input.chunk, s.down.Carries chunk)
    (hnumbers : s.client.client.cseq.toNat < 2 ^ 31)
    (hstep : clientStep E P env s.client input = .ok client)
    (hsent : ∀ header message, .sent header message ∈ client.events →
      ReadsRequest P header message)
    (hanswered : ∀ header message, .answered header message ∈ client.events →
      ReadsResponse P message) :
    Agrees E P conn { s with
      client
      up := s.up.write ((client.events.drop s.client.events.length).filterMap clientWrites)
      down := s.down.arrive input.chunk } := by
  obtain ⟨events, hevents, hloop⟩ := clientStep_loopBelow h.client.wellFormed h.loop hstep
  have hnew : client.events.drop s.client.events.length = events := by
    rw [hevents, List.drop_left]
  have hcost : s.client.client.cseq.toNat + numbersTaken s.client client ≤ 2 ^ 31 := by
    have hone : numbersTaken s.client client ≤ 1 := by
      unfold numbersTaken
      split
      next => exact Nat.zero_le 1
      next => exact Nat.le_refl 1
    omega
  have hstep' : clientEnvStep E P s.client (env, input) = .ok client := hstep
  obtain ⟨hclient, -⟩ := clientEnvStep_wireNumbered h.client hcost hstep'
  obtain ⟨new, hwires, hsources, hkept⟩ := @clientWrites_messages P events
    (fun header message hmem => hsent header message (hevents ▸ List.mem_append_right _ hmem))
    (fun header message hmem => hanswered header message (hevents ▸ List.mem_append_right _ hmem))
  obtain ⟨ups, upDone, hup, hupSources, hupKept, hreceived⟩ := h.up
  obtain ⟨downs, downDone, r, hdown, hresponded⟩ := h.down
  rw [hnew, ← hwires]
  refine ⟨hclient, ?_, h.server, ?_, ?_⟩
  · rw [← deliveredIn_append, ← hevents] at hloop
    exact hloop
  · refine ⟨ups ++ new, upDone, hup.write new, ?_, hupKept.append hkept, hreceived⟩
    rw [sourcesOf_append, hupSources, hsources, hevents, sentHeaders_append]
  · cases hchunk : input.chunk with
    | nil =>
        refine ⟨downs, downDone, r, ?_, hresponded⟩
        have hsame : s.down.arrive [] = s.down := by rw [ByteChannel.arrive, List.append_nil]
        rwa [hsame]
    | cons chunk chunks =>
        have hone : chunks = [] := by
          cases input with
          | data chunk' => exact (List.cons.inj hchunk).2.symm
          | _ => cases hchunk
        subst hone
        obtain ⟨more, r', htaken⟩ :=
          hdown.arrive (hcarries chunk (by rw [hchunk]; exact List.mem_cons_self))
        exact ⟨downs, downDone ++ more, r', htaken, hresponded⟩

/-- Either side writes frames. -/
theorem Agrees.clientFrame (h : Agrees E P conn s) {frames : List Bytes}
    (hframes : ∃ ms : List (WireMessage P), ms.map WireMessage.wire = frames ∧
      sourcesOf ms = [] ∧ ∀ m ∈ ms, ∃ f, m = .frame f) :
    Agrees E P conn { s with up := s.up.write frames } := by
  obtain ⟨new, rfl, hsources, hframe⟩ := hframes
  obtain ⟨ups, done, hup, hupSources, hkept, hreceived⟩ := h.up
  refine ⟨h.client, h.loop, h.server, ⟨ups ++ new, done, hup.write new, ?_, ?_, hreceived⟩,
    h.down⟩
  · rw [sourcesOf_append, hupSources, hsources, List.append_nil]
  · refine hkept.append fun m hm => ?_
    obtain ⟨f, heq⟩ := hframe _ hm
    cases heq

theorem Agrees.serverFrame (h : Agrees E P conn s) {frames : List Bytes}
    (hframes : ∃ ms : List (WireMessage P), ms.map WireMessage.wire = frames ∧
      sourcesOf ms = [] ∧ ∀ m ∈ ms, ∃ f, m = .frame f) :
    Agrees E P conn { s with down := s.down.write frames } := by
  obtain ⟨new, rfl, -, hframe⟩ := hframes
  obtain ⟨downs, done, r, hdown, hresponded⟩ := h.down
  refine ⟨h.client, h.loop, h.server, h.up, downs ++ new, done, r, hdown.write new, ?_⟩
  intro m hm
  rcases List.mem_append.mp hm with hm | hm
  · exact hresponded m hm
  · obtain ⟨f, heq⟩ := hframe _ hm
    cases heq

/-- A step of the server, which may be handed messages of the connection. -/
theorem Agrees.server_step (h : Agrees E P conn s) {env : Env} {input : ServerInput}
    {server : ServerState} {receiver : Receiver} {up : ByteChannel}
    (hstep : serverStep P env s.server input = .ok server)
    (hup : ∀ ms done, s.up.Taken E ms done s.receiver → ∃ more : List (WireMessage P),
      up.Taken E ms (done ++ more) receiver ∧
        input.messagesOn conn = more.map WireMessage.delivery)
    (hresponse : ∀ a status message, .response a conn status message ∈ server.events →
      ReadsResponse P message)
    (hbroadcast : ∀ message, .broadcast message ∈ server.events →
      ∃ m : WireRequest P, m.text ++ m.body = message) :
    Agrees E P conn { s with
      server, receiver, up
      down := s.down.write
        ((server.events.drop s.server.events.length).filterMap (serverWrites conn)) } := by
  obtain ⟨events, hevents, hreceived⟩ := serverStep_received conn h.server.consistent hstep
  have hnew : server.events.drop s.server.events.length = events := by
    rw [hevents, List.drop_left]
  have hleft := serverStep_left conn hstep
  obtain ⟨ups, done, htaken, hsources, hkept, hbefore⟩ := h.up
  obtain ⟨more, htaken', hhanded⟩ := hup ups done htaken
  obtain ⟨new, hwires, hnewResponded⟩ := @serverWrites_messages P conn events
    (fun a status message hmem =>
      hresponse a status message (hevents ▸ List.mem_append_right _ hmem))
    (fun message hmem => hbroadcast message (hevents ▸ List.mem_append_right _ hmem))
  obtain ⟨downs, downDone, r, hdown, hresponded⟩ := h.down
  rw [hnew, ← hwires]
  refine ⟨h.client, h.loop, serverStep_recorded h.server hstep,
    ⟨ups, done ++ more, htaken', hsources, hkept, ?_⟩, downs ++ new, downDone, r,
    hdown.write new, ?_⟩
  · rw [requestsOf_append, ← hbefore]
    change server.events.filterMap (receivedOn conn) ++
      (server.activity.left conn).filterMap requestOf = _
    rw [hevents, List.filterMap_append, hreceived, List.append_assoc, ← List.filterMap_append,
      ← hleft, List.filterMap_append, hhanded, List.append_assoc]
    rfl
  · change RespondedIn conn server.events _
    rw [hevents]
    exact hresponded.append hnewResponded

/-- Messages are handed over without an event. -/
theorem serverStep_receive {env : Env} {σ σ' : ServerState} {messages : List Delivery}
    (h : serverStep P env σ (.receive conn messages) = .ok σ') : σ'.events = σ.events := by
  unfold serverStep at h
  dsimp only at h
  split at h
  next =>
    cases h
    rfl
  next => cases h

theorem messagesOn_nil {input : ServerInput} (h : input.handsMessages = false) :
    input.messagesOn conn = [] := by
  cases input with
  | receive c messages => cases h
  | _ => rfl

/-- Of the bytes that arrive, those of the connection complete messages of it, and those of
another client leave no trace in the buffer. -/
theorem arrive_taken {env : Env} {sender : Conn} {chunk : Bytes} {events : List ReceiveEvent}
    {receiver : Receiver} (hcarried : Carried E P conn s (.serverData env sender chunk))
    (hchunk : receiveChunk E P s.receiver chunk = .ok (events, receiver))
    (ms done : List (WireMessage P)) (htaken : s.up.Taken E ms done s.receiver) :
    ∃ more : List (WireMessage P),
      (if sender = conn then s.up.arrive [chunk] else s.up).Taken E ms (done ++ more) receiver ∧
        ServerInput.messagesOn conn (.receive sender (events.filterMap ReceiveEvent.message)) =
          more.map WireMessage.delivery := by
  by_cases hsender : sender = conn
  · obtain ⟨more, r', hresult, -, hmore⟩ :=
      htaken.arrive (hcarried.up _ List.mem_cons_self hsender)
    cases hchunk.symm.trans hresult
    rw [if_pos hsender]
    refine ⟨more, hmore, ?_⟩
    simp [ServerInput.messagesOn, hsender, deliveries, ReceiveEvent.message, Function.comp_def]
  · obtain ⟨hbefore, hafter⟩ := hcarried.others _ List.mem_cons_self hsender
    rw [hchunk] at hafter
    rw [if_neg hsender]
    refine ⟨[], ?_, if_neg hsender⟩
    rw [List.append_nil]
    exact htaken.others hbefore (hafter _ rfl)

/-- A step of the conversation. -/
theorem conversationStep_agrees {input : ConversationInput} (h : Agrees E P conn s)
    (hcarried : Carried E P conn s input) (hstep : conversationStep E P conn s input = .ok s')
    (hreadable : Readable P conn s') : Agrees E P conn s' := by
  cases input with
  | client env input =>
      obtain ⟨client, hclient, rfl⟩ := conversationStep_ofClient hstep
      exact h.client_step hcarried.down hcarried.numbers hclient hreadable.sent
        hreadable.answered
  | clientFrame env channel data =>
      cases hstep
      exact h.clientFrame (frame_messages fun _ => rtspClientSendInterleaved_frame)
  | server env input =>
      obtain ⟨hhands, server, hserver, rfl⟩ := conversationStep_ofServer hstep
      refine h.server_step hserver (fun ms done htaken => ⟨[], ?_, messagesOn_nil hhands⟩)
        hreadable.response hreadable.broadcast
      rw [List.append_nil]
      exact htaken
  | serverData env sender chunk =>
      obtain ⟨events, receiver, server, hchunk, hserver, rfl⟩ := conversationStep_ofData hstep
      have hquiet : server.events.drop s.server.events.length = [] := by
        rw [serverStep_receive hserver, List.drop_length]
      have hnext := h.server_step hserver (arrive_taken hcarried hchunk)
        hreadable.response hreadable.broadcast
      rw [hquiet] at hnext
      have hsame : s.down.write [] = s.down := by rw [ByteChannel.write, List.append_nil]
      rw [List.filterMap_nil, hsame] at hnext
      exact hnext
  | serverFrame env channel data =>
      cases hstep
      exact h.serverFrame (frame_messages fun _ => rtspServerSendInterleaved_frame)

/-! ## Runs -/

def conversationStart (client : ClientState) (server : ServerState) : Conversation :=
  { client, server }

/-- What the machines are in any run. -/
structure Sound (s : Conversation) : Prop where
  client : s.client.client.WellFormed
  server : s.server.Consistent

/-- The events are kept. -/
theorem conversationStep_grows {input : ConversationInput} (h : Sound s)
    (hstep : conversationStep E P conn s input = .ok s') :
    Sound s' ∧ s.client.events <+: s'.client.events ∧ s.server.events <+: s'.server.events := by
  have hserver : ∀ {env : Env} {input : ServerInput} {server : ServerState},
      serverStep P env s.server input = .ok server →
        server.Consistent ∧ s.server.events <+: server.events := by
    intro env input server hstep
    obtain ⟨events, hevents, -⟩ := serverStep_changes h.server hstep
    exact ⟨serverStep_consistent h.server hstep, hevents ▸ List.prefix_append _ _⟩
  cases input with
  | client env input =>
      obtain ⟨client, hclient, rfl⟩ := conversationStep_ofClient hstep
      obtain ⟨events, hevents, hchange⟩ := clientStep_changes h.client hclient
      exact ⟨⟨hchange.wellFormed h.client, h.server⟩, hevents ▸ List.prefix_append _ _,
        List.prefix_rfl⟩
  | clientFrame env channel data =>
      cases hstep
      exact ⟨⟨h.client, h.server⟩, List.prefix_rfl, List.prefix_rfl⟩
  | server env input =>
      obtain ⟨-, server, hserver', rfl⟩ := conversationStep_ofServer hstep
      obtain ⟨hconsistent, hgrows⟩ := hserver hserver'
      exact ⟨⟨h.client, hconsistent⟩, List.prefix_rfl, hgrows⟩
  | serverData env sender chunk =>
      obtain ⟨_, _, server, -, hserver', rfl⟩ := conversationStep_ofData hstep
      obtain ⟨hconsistent, hgrows⟩ := hserver hserver'
      exact ⟨⟨h.client, hconsistent⟩, List.prefix_rfl, hgrows⟩
  | serverFrame env channel data =>
      cases hstep
      exact ⟨⟨h.client, h.server⟩, List.prefix_rfl, List.prefix_rfl⟩

/-- Only a step of the client changes the client. -/
theorem conversationStep_client {input : ConversationInput}
    (hstep : conversationStep E P conn s input = .ok s') :
    s'.client = s.client ∨ ∃ env i, clientStep E P env s.client i = .ok s'.client ∧
      s'.server = s.server := by
  cases input with
  | client env input =>
      obtain ⟨client, hclient, rfl⟩ := conversationStep_ofClient hstep
      exact .inr ⟨env, input, hclient, rfl⟩
  | clientFrame env channel data =>
      cases hstep
      exact .inl rfl
  | server env input =>
      obtain ⟨-, server, -, rfl⟩ := conversationStep_ofServer hstep
      exact .inl rfl
  | serverData env sender chunk =>
      obtain ⟨_, _, server, -, -, rfl⟩ := conversationStep_ofData hstep
      exact .inl rfl
  | serverFrame env channel data =>
      cases hstep
      exact .inl rfl

theorem Readable.before (h : Readable P conn s') (hclient : s.client.events <+: s'.client.events)
    (hserver : s.server.events <+: s'.server.events) : Readable P conn s where
  sent header message hmem := h.sent header message (hclient.subset hmem)
  answered header message hmem := h.answered header message (hclient.subset hmem)
  response a status message hmem := h.response a status message (hserver.subset hmem)
  broadcast message hmem := h.broadcast message (hserver.subset hmem)

variable (clientName serverName : Option Bytes) (clientCbs : RtspClientCbs)
  (serverCbs : RtspServerCbs) (replyTimeoutMs sessionTimeoutMs : Int32)

theorem conversation_agrees {inputs : List ConversationInput}
    (hguard : Execution.Guarded (conversationStep E P conn) (Carried E P conn)
      (conversationStart (clientStart clientName clientCbs)
        (serverStart serverName replyTimeoutMs sessionTimeoutMs serverCbs)) inputs)
    (hrun : Execution.run (conversationStep E P conn)
      (conversationStart (clientStart clientName clientCbs)
        (serverStart serverName replyTimeoutMs sessionTimeoutMs serverCbs)) inputs = .ok s) :
    Sound s ∧ (Readable P conn s → Agrees E P conn s) := by
  apply Execution.invariant (fun s => Sound s ∧ (Readable P conn s → Agrees E P conn s)) _ _
    hguard hrun
  · intro s input s' ⟨hsound, hbefore⟩ hcarried hstep
    obtain ⟨hsound', hclient, hserver⟩ := conversationStep_grows hsound hstep
    refine ⟨hsound', fun hreadable => ?_⟩
    exact conversationStep_agrees (hbefore (hreadable.before hclient hserver)) hcarried hstep
      hreadable
  · refine ⟨⟨RtspClient.WellFormed.new clientName clientCbs, serverStart_consistent ..⟩,
      fun _ => ?_⟩
    refine ⟨clientStart_wireNumbered clientName clientCbs, ?_, serverStart_recorded .., ?_, ?_⟩
    · exact ⟨[], [], rfl, .inl .nil, .between .nothing⟩
    · exact ⟨[], [], ByteChannel.taken_init, rfl, fun _ hmem => absurd hmem List.not_mem_nil, rfl⟩
    · exact ⟨[], [], {}, ByteChannel.takenAlone_init, fun _ hmem => absurd hmem List.not_mem_nil⟩

end Steps

end Librtsp
