import Librtsp.Conversation

/-!
# What the two sides have processed

In any interleaving the messages of one side reach the other once and in their order, and the
responses are told apart by their numbers: what the client takes for the answer to a request is
what the server has made of that request.
-/

namespace Librtsp

open CString

/-! ## Messages -/

section Messages

variable {E : HeaderEdit} {P : Platform} {conn : Conn} {s : Conversation}
  (clientName serverName : Option Bytes) (clientCbs : RtspClientCbs)
  (serverCbs : RtspServerCbs) (replyTimeoutMs sessionTimeoutMs : Int32)

/-- What one side has processed of what the other has written: the first messages, each once and
in their order; and all of them when everything has arrived and nothing is left to do. -/
structure ByteChannel.InOrder {α : Type} (c : ByteChannel) (ms : List (WireMessage P))
    (read processed : List α) (idle : Prop) : Prop where
  written : c.written = ms.map WireMessage.wire
  first : processed <+: read
  all : c.arrived.flatten = c.written.flatten → idle → processed = read

/-- In every run, each side has processed the first messages of the other, in their order and
each once: the server the requests of the client, the client all that is written to it; and
when everything has arrived and nothing is left to do, no message is missing. -/
theorem conversation_inOrder {inputs : List ConversationInput}
    (hguard : Execution.Guarded (conversationStep E P conn) (Carried E P conn)
      (conversationStart (clientStart clientName clientCbs)
        (serverStart serverName replyTimeoutMs sessionTimeoutMs serverCbs)) inputs)
    (hrun : Execution.run (conversationStep E P conn)
      (conversationStart (clientStart clientName clientCbs)
        (serverStart serverName replyTimeoutMs sessionTimeoutMs serverCbs)) inputs = .ok s)
    (hreadable : Readable P conn s) :
    (∃ ms : List (WireMessage P), sourcesOf ms = sentHeaders s.client.events ∧
      s.up.InOrder ms (requestsOf ms) (s.server.events.filterMap (receivedOn conn))
        (s.server.activity = .idle)) ∧
      ∃ ms : List (WireMessage P), s.down.InOrder ms (ms.map WireMessage.delivery)
        (deliveredIn s.client.events) (s.client.tasks = []) := by
  have h := (conversation_agrees clientName serverName clientCbs serverCbs replyTimeoutMs
    sessionTimeoutMs hguard hrun).2 hreadable
  obtain ⟨ups, upDone, hup, hsources, -, hreceived⟩ := h.up
  obtain ⟨downs, downDone, r, ⟨hdown, hreceives⟩, -⟩ := h.down
  refine ⟨⟨ups, hsources, hup.written, ?_, ?_⟩, downs, hdown.written, ?_, ?_⟩
  · obtain ⟨rest, held, hms, -⟩ := hup.held
    rw [hms, requestsOf_append, ← hreceived, List.append_assoc]
    exact List.prefix_append _ _
  · intro harrived hidle
    rw [hidle] at hreceived
    rw [← hup.all harrived, ← hreceived]
    exact (List.append_nil _).symm
  · obtain ⟨rest, held, hms, -⟩ := hdown.held
    rw [hms, List.map_append]
    exact (h.loop.delivers hreceives).trans (List.prefix_append _ _)
  · intro harrived htasks
    obtain ⟨above, below, hnone, -, hloop⟩ := h.loop
    rw [htasks] at hnone
    obtain ⟨rfl, rfl⟩ := List.append_eq_nil_iff.mp hnone.symm
    rw [← hdown.all harrived]
    cases hloop with
    | between hdone => exact (hdone.unique hreceives).1

end Messages

def askHeader : RtspRequestHeader :=
  { optionsHeader with userAgent := some (ascii "c") }

def sentAsk : SentRequest wholePlatform where
  header := askHeader
  body := []
  maxLen := clientBufferSize
  text := ascii "OPTIONS * RTSP/1.0\r\nCSeq: 1\r\nUser-Agent: c\r\n\r\n"
  kept :=
    { optionsHeader_kept with
      userAgent := fieldString_some (by decide) (fieldText_ascii (by decide)) }
  authorization _ h := by cases h
  written := by decide +kernel
  contentLength := rfl
  size := by decide +kernel

def answerHeader : RtspResponseHeader where
  statusCode := 200
  statusString := some (ascii "OK")
  cseq := 1
  publicMethods := 1278
  server := some (ascii "s")

theorem answerHeader_kept : answerHeader.FieldsKept wholePlatform where
  statusCode := show (0 : Int) < 200 ∧ (200 : Int) < 2 ^ 31 by decide
  statusString := ⟨_, rfl, by decide, fieldText_ascii (by decide)⟩
  cseq := show (0 : Int32) ≤ 1 by decide
  date _ h := by cases h
  session := ⟨fieldString_none, fun _ h => absurd h (by simp [answerHeader]), fun _ => rfl⟩
  transport _ h := by cases h
  authenticate := rfl
  contentType := fieldString_none
  scale := rfl
  publicMethods := show (1278 : UInt32) &&& 0x7ff = 1278 by decide
  allowedMethods := show (0 : UInt32) &&& 0x7ff = 0 by decide
  rtpInfo _ h := absurd h List.not_mem_nil
  server := fieldString_some (by decide) (fieldText_ascii (by decide))
  range := .inl rfl
  contentEncoding := fieldString_none
  contentLanguage := fieldString_none
  contentBase := fieldString_none
  contentLocation := fieldString_none
  ext _ h := absurd h List.not_mem_nil

def sentAnswer : SentResponse wholePlatform where
  header := answerHeader
  body := []
  maxLen := 8191
  text :=
    ascii "RTSP/1.0 200 OK\r\nCSeq: 1\r\nPublic: DESCRIBE,ANNOUNCE,SETUP,PLAY,PAUSE,TEARDOWN," ++
      ascii "GET_PARAMETER,RECORD\r\nServer: s\r\nContent-Length: 0\r\n\r\n"
  kept := answerHeader_kept
  rtpInfo := Nat.zero_le 1
  written := by decide +kernel
  contentLength := rfl
  size := by decide +kernel

/-- A client connects and sends an OPTIONS request; the server writes a frame, answers, and gets
the same request from another client.  Request and response arrive in two parts. -/
def dialogue : List ConversationInput :=
  connectInputs.map (fun input => ConversationInput.client input.1 input.2) ++
    ([.client {} (.call (.options {})), .serverFrame {} 0 [7],
      .serverData {} 1 (sentAsk.text.take 10), .server {} .resume,
      .serverData {} 1 (sentAsk.text.drop 10), .server {} .resume, .server {} .resume,
      .serverData {} 2 sentAsk.text, .server {} .resume, .server {} .resume,
      .client {} (.data (0x24 :: 0 :: 0 :: 1 :: 7 :: sentAnswer.text.take 3)),
      .client {} .resume, .client {} .callbackReturns, .client {} .resume, .client {} .resume,
      .client {} (.data (sentAnswer.text.drop 3))] : List ConversationInput)

def dialogueStart : Conversation :=
  conversationStart (clientStart (some (ascii "c")) {}) (serverStart (some (ascii "s")) 1000 60 {})

/-- The request and its answer are all that is written. -/
structure DialogueWritten (s : Conversation) : Prop where
  client : ∀ event ∈ s.client.events, clientWrites event ≠ none →
    event = .sent askHeader sentAsk.text
  server : ∀ event ∈ s.server.events, serverWrites 1 event ≠ none →
    event = .response 0 1 200 sentAnswer.text

instance (s : Conversation) : Decidable (DialogueWritten s) :=
  decidable_of_iff
    ((∀ event ∈ s.client.events, clientWrites event ≠ none →
        event = .sent askHeader sentAsk.text) ∧
      ∀ event ∈ s.server.events, serverWrites 1 event ≠ none →
        event = .response 0 1 200 sentAnswer.text)
    ⟨fun h => ⟨h.1, h.2⟩, fun h => ⟨h.client, h.server⟩⟩

theorem DialogueWritten.readable {s : Conversation} (h : DialogueWritten s) :
    Readable wholePlatform 1 s where
  sent header message hmem := by
    obtain ⟨rfl, rfl⟩ := ClientEvent.sent.inj (h.client _ hmem (Option.some_ne_none _))
    rw [← List.append_nil sentAsk.text]
    exact sentAsk.readsRequest wholePlatform_exact
  answered header message hmem := by
    cases h.client _ hmem (Option.some_ne_none _)
  response a status message hmem := by
    have hsame := h.server (.response a 1 status message) hmem (by simp [serverWrites])
    rw [(ServerEvent.response.inj hsame).2.2.2]
    rw [← List.append_nil sentAnswer.text]
    exact sentAnswer.readsResponse wholePlatform_exact
  broadcast message hmem := by
    cases h.server _ hmem (Option.some_ne_none _)

theorem dialogue_carried :
    Execution.Guarded (conversationStep .words wholePlatform 1) (Carried .words wholePlatform 1)
      dialogueStart (dialogue ++ [ConversationInput.client {} .resume]) := by
  decide +kernel

/-- The response arrives while its request is pending, and ends it. -/
theorem dialogue_runs :
    Execution.Reaches (conversationStep .words wholePlatform 1)
      (fun s => s.client.client.request.isPending = true ∧
        ∃ s' ∈ (conversationStep .words wholePlatform 1 s (.client {} .resume)).toOption,
          DialogueWritten s' ∧ s'.client.client.request.isPending = false ∧
            .delivered (.text (.response answerHeader) []) ∈
              s'.client.events.drop s.client.events.length)
      dialogueStart dialogue := by
  decide +kernel

theorem conversation_inOrder_dialogue :
    ∃ s, Execution.run (conversationStep .words wholePlatform 1) dialogueStart
        (dialogue ++ [ConversationInput.client {} .resume]) = .ok s ∧
      (∃ ms : List (WireMessage wholePlatform), sourcesOf ms = sentHeaders s.client.events ∧
        s.up.InOrder ms (requestsOf ms) (s.server.events.filterMap (receivedOn 1))
          (s.server.activity = .idle)) ∧
        ∃ ms : List (WireMessage wholePlatform), s.down.InOrder ms
          (ms.map WireMessage.delivery) (deliveredIn s.client.events) (s.client.tasks = []) := by
  obtain ⟨s, hrun, -, s', hs', hwritten, -⟩ := dialogue_runs
  have hstep := Execution.ok_of_toOption hs'
  have hlast : Execution.run (conversationStep .words wholePlatform 1) dialogueStart
      (dialogue ++ [ConversationInput.client {} .resume]) = .ok s' := by
    rw [Execution.run_append hrun, Execution.run, hstep]
    rfl
  exact ⟨s', hlast, conversation_inOrder (some (ascii "c")) (some (ascii "s")) {} {} 1000 60
    dialogue_carried hlast hwritten.readable⟩

/-! ## Responses -/

section Responses

variable {E : HeaderEdit} {P : Platform} {conn : Conn} {s s' : Conversation}

/-- A response to the client is one to a request it has put on the wire before. -/
theorem Agrees.request (h : Agrees E P conn s) {a : Addr} {status : Int} {message : Bytes}
    {number : Int32} (hresponse : .response a conn status message ∈ s.server.events)
    (hnumber : NumberedLine message number) :
    ∃ request ∈ sentHeaders s.client.events, request.cseq = number ∧
      ∃ header body, .received conn a header body ∈ s.server.events ∧ header.cseq = number := by
  obtain ⟨before, after, hevents⟩ := List.append_of_mem hresponse
  obtain ⟨header, body, hbefore, hline⟩ := h.server.answers before _ after hevents
  have hreceived : .received conn a header body ∈ s.server.events := by
    rw [hevents]
    exact List.mem_append_left _ hbefore
  obtain ⟨ms, done, htaken, hsources, hkept, hrequests⟩ := h.up
  have hmem : (header, body) ∈ requestsOf ms := by
    obtain ⟨rest, held, hms, -⟩ := htaken.held
    rw [hms, requestsOf_append, ← hrequests]
    refine List.mem_append_left _ (List.mem_append_left _ ?_)
    exact List.mem_filterMap.mpr ⟨_, hreceived, if_pos rfl⟩
  obtain ⟨delivery, hdelivery, hrequest⟩ := List.mem_filterMap.mp hmem
  obtain ⟨m, hm, rfl⟩ := List.mem_map.mp hdelivery
  cases m with
  | request m =>
      cases hrequest
      have hsource : m.source ∈ sentHeaders s.client.events := by
        rw [← hsources]
        exact List.mem_filterMap.mpr ⟨_, hm, rfl⟩
      have hsame := hkept m hm
      have hpos : 0 ≤ m.header.cseq := by
        rw [hsame, Int32.le_iff_toInt_le]
        exact (h.client.numbered.below _ hsource).1.le
      have heq := (hline hpos).unique hnumber
      exact ⟨m.source, hsource, hsame.symm.trans heq, m.header, m.body, hreceived, heq⟩
  | response m => cases hrequest
  | frame m => cases hrequest

/-- What the client delivers as a response is a response the server has sent to it. -/
theorem Agrees.response (h : Agrees E P conn s) {response : RtspResponseHeader} {body : Bytes}
    (hdelivered : .text (.response response) body ∈ deliveredIn s.client.events) :
    ∃ m : WireResponse P, m.header = response ∧ m.body = body ∧
      NumberedLine (m.text ++ m.body) response.cseq ∧
      ∃ a status, .response a conn status (m.text ++ m.body) ∈ s.server.events := by
  obtain ⟨ms, done, r, ⟨htaken, hreceives⟩, hresponded⟩ := h.down
  obtain ⟨rest, held, hms, -⟩ := htaken.held
  have hmem := (h.loop.delivers hreceives).subset hdelivered
  obtain ⟨m, hm, hread⟩ := List.mem_map.mp hmem
  cases m with
  | request m => cases hread
  | response m =>
      cases hread
      obtain ⟨hline, hevent⟩ := hresponded m (hms ▸ List.mem_append_left _ hm)
      exact ⟨m, rfl, rfl, hline, hevent⟩
  | frame m => cases hread

/-- A delivered response with the number of a request on the wire ends that request, where it is
the pending one, and is dropped otherwise. -/
theorem Agrees.endsOrDrops (h : Agrees E P conn s) {env : ClientEnv} {input : ClientInput}
    {client : ClientState} {events : List ClientEvent} {response : RtspResponseHeader}
    {body : Bytes} {request : RtspRequestHeader}
    (hstep : clientStep E P env s.client input = .ok client)
    (hevents : client.events = s.client.events ++ events)
    (hdelivered : .text (.response response) body ∈ deliveredIn events)
    (hrequest : request ∈ sentHeaders s.client.events) (hcseq : request.cseq = response.cseq) :
    (s.client.client.request.isPending = true ∧ s.client.client.request.header = request) ∨
      ResponseDropped s.client client (.text (.response response) body) := by
  obtain ⟨rest, receiver, totalLen, p, htasks, -, hp, hafter⟩ :=
    clientStep_delivery h.client.wellFormed hstep hevents hdelivered
  rw [hafter]
  by_cases hpending : s.client.client.request.isPending = true ∧
      response.cseq = s.client.client.request.header.cseq
  · refine .inl ⟨hpending.1, ?_⟩
    exact (h.client.numbered.slot request hrequest (hcseq.trans hpending.2)).symm
  · refine .inr (response_dropped h.client.wellFormed htasks ?_ hp)
    exact fun hbusy hequal => hpending ⟨hbusy, hequal⟩

variable (clientName serverName : Option Bytes) (clientCbs : RtspClientCbs)
  (serverCbs : RtspServerCbs) (replyTimeoutMs sessionTimeoutMs : Int32)

end Responses

end Librtsp
