import Librtsp.RequestUris
import Librtsp.Execution

/-!
# What a step does to the client

Every step of the client is a chain of the changes of `ClientChange`.  The end of a request
is the longest of them; `CompletedMethod` says what it does for each method.
-/

namespace Librtsp

open CString RecordList

/-! ## The end of a request -/

/-- The client when the slot is released and its authorization is up to date. -/
def releasedClient (client : RtspClient) (resp : RtspResponseHeader) : RtspClient :=
  forgetAuth (releaseSlot (updateAuthFromServer client resp.authenticate)) resp

/-- The response of `request_complete`, if need be a dummy. -/
def responseOrDummy (client : RtspClient) (resp : Option RtspResponseHeader)
    (status : RtspClientReqStatus) : RtspResponseHeader :=
  resp.getD (dummyResponse client.request.header.sessionId status)

/-- The status the application is told. -/
def statusOf (resp : RtspResponseHeader) (status : RtspClientReqStatus) : RtspClientReqStatus :=
  if status = .ok ∧ resp.statusCode.tdiv 100 ≠ 2 then .failed else status

/-- The session id of a response: its own, or the one of the request. -/
def responseSessionId (client : RtspClient) (resp : RtspResponseHeader) : Option Bytes :=
  resp.sessionId.or client.request.header.sessionId

def endedRequest (client : RtspClient) : EndedRequest where
  method := client.request.header.method
  uri := client.request.header.uri
  channels := requestedChannels client.request.header
  userdata := client.request.userdata

def completionOf (client : RtspClient) (resp : RtspResponseHeader)
    (status : RtspClientReqStatus) : Completion where
  sessionId := responseSessionId client resp
  status := statusOf resp status
  statusCode := resp.statusCode
  sessionRemoved := resp.statusCode = 454

/-- The session of a response, and the client with it. -/
def sessionOf (client : RtspClient) (resp : RtspResponseHeader) :
    Option RtspClientSession × RtspClient :=
  completeSession (releasedClient client resp) client.request.header.method
    (responseSessionId client resp) resp.sessionTimeout

theorem requestComplete_idle {client : RtspClient} {resp : Option RtspResponseHeader}
    {body : Bytes} {status : RtspClientReqStatus} (h : client.request.isPending = false) :
    requestComplete client resp body status = .ok { client } := by
  unfold requestComplete
  rw [if_pos]
  simp [h]

theorem requestComplete_pending {client : RtspClient} {resp : Option RtspResponseHeader}
    {body : Bytes} {status : RtspClientReqStatus} (h : client.request.isPending = true) :
    requestComplete client resp body status =
      completeMethod (sessionOf client (responseOrDummy client resp status)).2
        (sessionOf client (responseOrDummy client resp status)).1
        (responseSessionId client (responseOrDummy client resp status)) (endedRequest client)
        (responseOrDummy client resp status) body
        (completionOf client (responseOrDummy client resp status) status) := by
  unfold requestComplete
  rw [if_neg (not_not.mpr h)]
  rfl

/-- What the methods do at the end of their request. -/
inductive CompletedMethod (client : RtspClient) (session : Option RtspClientSession)
    (ended : EndedRequest) (resp : RtspResponseHeader) (completion : Completion) :
    Progress → Prop where
  | plain (response : ClientResponse) (methodsAllowed : UInt32)
      (hmethod : ended.method ≠ .setup ∧ ended.method ≠ .teardown ∧
        ended.method ≠ .getParameter)
      (hallowed : ended.method ≠ .options → methodsAllowed = client.methodsAllowed)
      (hresponse : response.method = ended.method ∧ response.userdata = ended.userdata)
      (hcallback : client.cbs.resp ended.method = true) :
      CompletedMethod client session ended resp completion
        { client := { client with methodsAllowed }
          events := [.callback (.response response)]
          tasks := [.inCallback, .conclude completion] }
  | setUp (response : ClientResponse) (transport : RtspTransportHeader)
      (hmethod : ended.method = .setup) (hstatus : completion.status = .ok)
      (htransport : resp.transport = some transport)
      (hresponse : response.method = .setup ∧ response.userdata = ended.userdata)
      (hcallback : client.cbs.resp .setup = true) :
      CompletedMethod client session ended resp completion
        { client :=
            { client with
              channelUsed :=
                if transport.lowerTransport = .tcp then
                  updateInterleavedChannels client.channelUsed ended.channels
                    (transportChannels transport)
                else client.channelUsed }
          events := [.callback (.response response)]
          tasks :=
            [.inCallback,
              .addMedia (session.map RtspClientSession.addr) ended.uri
                (if transport.lowerTransport = .tcp then some (transportChannels transport)
                else none),
              .conclude completion] }
  | notSetUp (response : ClientResponse) (hmethod : ended.method = .setup)
      (hstatus : completion.status ≠ .ok)
      (hresponse : response.method = .setup ∧ response.userdata = ended.userdata)
      (hcallback : client.cbs.resp .setup = true) :
      CompletedMethod client session ended resp completion
        { client :=
            { client with
              channelUsed := setChannelPairUsed client.channelUsed ended.channels false }
          events := [.callback (.response response)]
          tasks := [.inCallback, .conclude completion] }
  | silent (task : ClientTask) (hmethod : ended.method = .teardown)
      (htask : task = .conclude completion ∨
        ∃ s media, session = some s ∧ task = .applyTeardown s.addr media completion) :
      CompletedMethod client session ended resp completion { client, tasks := [task] }
  | tornDown (response : ClientResponse) (task : ClientTask) (hmethod : ended.method = .teardown)
      (htask : task = .conclude completion ∨
        ∃ s media, session = some s ∧ task = .applyTeardown s.addr media completion)
      (hresponse : response.method = .teardown ∧ response.userdata = ended.userdata)
      (hcallback : client.cbs.resp .teardown = true) :
      CompletedMethod client session ended resp completion
        { client
          events := [.callback (.response response)]
          tasks :=
            [.inCallback, .teardownReported (session.map RtspClientSession.addr), task] }
  | keepAlive (hmethod : ended.method = .getParameter) :
      CompletedMethod client session ended resp completion
        (keepAliveComplete client session completion)
  | other (hmethod : ended.method ≠ .setup ∧ ended.method ≠ .teardown ∧
        ended.method ≠ .getParameter)
      (hcallback : ∀ cbs : RtspClientCbs, cbs.resp ended.method = false) :
      CompletedMethod client session ended resp completion
        { client, tasks := [.conclude completion] }

theorem respond_ok {client : RtspClient} {response : ClientResponse} {tasks : List ClientTask}
    {p : Progress} (h : respond client response tasks = .ok p) :
    client.cbs.resp response.method = true ∧ p = callBack client (.response response) tasks := by
  unfold respond at h
  split at h
  next hcallback =>
    cases h
    exact ⟨hcallback, rfl⟩
  next => cases h

section Cases

variable {client : RtspClient} {ended : EndedRequest} {resp : RtspResponseHeader}
  {completion : Completion} {p : Progress}

theorem setupRequestComplete_cases {session : Option RtspClientSession}
    {sessionId : Option Bytes} (hmethod : ended.method = .setup)
    (h : setupRequestComplete client (session.map RtspClientSession.addr) sessionId ended resp
      completion = .ok p) :
    CompletedMethod client session ended resp completion p := by
  unfold setupRequestComplete at h
  dsimp only at h
  split at h
  next hstatus =>
    split at h
    next => cases h
    next transport htransport =>
      obtain ⟨hcallback, rfl⟩ := respond_ok h
      by_cases htcp : transport.lowerTransport = .tcp
      · have hpair : transportChannels transport = transport.interleaved.headD ⟨0, 0⟩ :=
          if_pos htcp
        have hcompleted := @CompletedMethod.setUp client session ended resp completion
          { method := .setup
            sessionId
            status := completion.status
            error := rtspStatusToErrno resp.statusCode
            detail := .transport (transportChannels transport).rtp.toUInt16
              (transportChannels transport).rtcp.toUInt16 transport.ssrcValid transport.ssrc
            ext := resp.ext
            userdata := ended.userdata } transport hmethod hstatus htransport ⟨rfl, rfl⟩
        simp only [if_pos htcp] at hcallback hcompleted ⊢
        simpa [callBack, hpair] using hcompleted hcallback
      · have hcompleted := @CompletedMethod.setUp client session ended resp completion
          { method := .setup
            sessionId
            status := completion.status
            error := rtspStatusToErrno resp.statusCode
            detail := .transport transport.srcStreamPort transport.srcControlPort
              transport.ssrcValid transport.ssrc
            ext := resp.ext
            userdata := ended.userdata } transport hmethod hstatus htransport ⟨rfl, rfl⟩
        simp only [if_neg htcp] at hcallback hcompleted ⊢
        exact hcompleted hcallback
  next hstatus =>
    obtain ⟨hcallback, rfl⟩ := respond_ok h
    exact .notSetUp _ hmethod hstatus ⟨rfl, rfl⟩ hcallback

theorem teardownRequestComplete_cases {session : Option RtspClientSession}
    {sessionId : Option Bytes} (hmethod : ended.method = .teardown)
    (h : teardownRequestComplete client session sessionId ended resp completion = .ok p) :
    CompletedMethod client session ended resp completion p := by
  unfold teardownRequestComplete at h
  dsimp only at h
  split at h
  next =>
    split at h
    next =>
      cases h
      exact .silent _ hmethod (.inl rfl)
    next =>
      obtain ⟨hcallback, rfl⟩ := respond_ok h
      exact .tornDown _ _ hmethod (.inl rfl) ⟨rfl, rfl⟩ hcallback
  next session =>
    split at h
    next path basePath hpath hbase =>
      split at h
      next =>
        cases h
        exact .silent _ hmethod (.inl rfl)
      next =>
        split at h
        next =>
          cases h
          exact .silent _ hmethod (.inr ⟨session, _, rfl, rfl⟩)
        next =>
          obtain ⟨hcallback, rfl⟩ := respond_ok h
          exact .tornDown _ _ hmethod (.inr ⟨session, _, rfl, rfl⟩) ⟨rfl, rfl⟩ hcallback
    next =>
      cases h
      exact .silent _ hmethod (.inl rfl)

theorem completeMethod_cases {session : Option RtspClientSession} {sessionId : Option Bytes}
    {body : Bytes}
    (h : completeMethod client session sessionId ended resp body completion = .ok p) :
    CompletedMethod client session ended resp completion p := by
  have hplain : ∀ (response : ClientResponse) (methodsAllowed : UInt32),
      (ended.method ≠ .setup ∧ ended.method ≠ .teardown ∧ ended.method ≠ .getParameter) →
      (ended.method ≠ .options → methodsAllowed = client.methodsAllowed) →
      response.method = ended.method → response.userdata = ended.userdata →
      respond { client with methodsAllowed } response [.conclude completion] = .ok p →
      CompletedMethod client session ended resp completion p := by
    intro response methodsAllowed hmethod hallowed hsame hdata h
    obtain ⟨hcallback, rfl⟩ := respond_ok h
    rw [hsame] at hcallback
    exact .plain response methodsAllowed hmethod hallowed ⟨hsame, hdata⟩ hcallback
  have hother : ∀ method, method ≠ RtspMethodType.setup ∧ method ≠ .teardown ∧
        method ≠ .getParameter → ended.method = method →
      (∀ cbs : RtspClientCbs, cbs.resp method = false) →
      CompletedMethod client session ended resp completion
        { client, tasks := [.conclude completion] } := by
    intro method hne hmethod hcallback
    subst hmethod
    exact .other hne hcallback
  unfold completeMethod at h
  cases hmethod : ended.method with
  | setup =>
      rw [hmethod] at h
      exact setupRequestComplete_cases hmethod h
  | teardown =>
      rw [hmethod] at h
      exact teardownRequestComplete_cases hmethod h
  | getParameter =>
      rw [hmethod] at h
      cases h
      exact .keepAlive hmethod
  | options =>
      rw [hmethod] at h
      refine hplain _ resp.publicMethods ?_ (fun hne => absurd hmethod hne) hmethod.symm rfl h
      rw [hmethod]
      decide
  | describe | announce | play | pause | record =>
      rw [hmethod] at h
      refine hplain _ client.methodsAllowed ?_ (fun _ => rfl) hmethod.symm rfl h
      rw [hmethod]
      decide
  | _ =>
      rw [hmethod] at h
      cases h
      exact hother _ (by decide) hmethod fun _ => rfl

end Cases

/-! ## Changes -/

/-- The client draws up a request of its own that it does not send. -/
def draftedClient (client : RtspClient) (header : RtspRequestHeader)
    (auth : Option RtspAuthorizationHeader) : RtspClient :=
  { client with auth, request := { client.request with header } }

/-- A keep-alive has the slot. -/
def keptAliveClient (client : RtspClient) (session : RtspClientSession)
    (header : RtspRequestHeader) (auth : Option RtspAuthorizationHeader) : RtspClient :=
  { draftedClient client header auth with
    sessions :=
      replace RtspClientSession.addr { session with keepAliveInProgress := true } client.sessions
    request :=
      { client.request with
        header
        isPending := true
        timer := some rtspClientDefaultRespTimeoutMs }
    cseq := client.cseq + 1 }

/-- The header of a keep-alive. -/
structure KeepAliveHeader (env : ClientEnv) (client : RtspClient) (header : RtspRequestHeader)
    (auth : Option RtspAuthorizationHeader) : Prop where
  method : header.method = .getParameter
  number : header.cseq = client.cseq.toInt32
  transport : header.transport = []
  auth : Authorized env client.auth header.authorization auth

/-- What a step may be about beside the removal of sessions: a call of a request function, the
client's own teardown, the end of a request, keep-alives, a media that joins its session,
received bytes, an answer to the server, a new connection, or the URL and the state of the
connection. -/
inductive ChangeKind where
  | call
  | teardown
  | completion
  | keepAlive
  | media
  | reception
  | answer
  | connection
  | link
  deriving DecidableEq, Repr

/-- The text of the URL is kept, or unset, or set to that of a URL without its credentials. -/
def KeepsUrlStr (env : ClientEnv) (client client' : RtspClient) : Prop :=
  client'.urlStr = client.urlStr ∨ client'.urlStr = none ∨
    ∃ addr text, rtspUrlStripCredentials env.inetPton addr = .ok text ∧ client'.urlStr = some text

/-- What a step of the client is made of. -/
inductive ClientChange (env : ClientEnv) (kinds : List ChangeKind) :
    RtspClient → List ClientEvent → RtspClient → Prop where
  | refl (client : RtspClient) : ClientChange env kinds client [] client
  | trans {a b c : RtspClient} {events events' : List ClientEvent}
      (hab : ClientChange env kinds a events b) (hbc : ClientChange env kinds b events' c) :
      ClientChange env kinds a (events ++ events') c
  | told (client : RtspClient) (callback : ClientCallback)
      (hcallback : ∀ response, callback ≠ .response response) :
      ClientChange env kinds client [.callback callback] client
  | answered (hkind : .answer ∈ kinds) (client : RtspClient) (header : RtspResponseHeader)
      (message : Bytes) : ClientChange env kinds client [.answered header message] client
  | connecting (hkind : .connection ∈ kinds) (client : RtspClient) :
      ClientChange env kinds client
        [.connect (client.url.bind fun url => url.2.resolvedHost)
          ((client.url.map fun url => url.2.port).getD 0)] client
  | delivered (hkind : .reception ∈ kinds) (client : RtspClient) (delivery : Delivery) :
      ClientChange env kinds client [.delivered delivery] client
  | received (hkind : .reception ∈ kinds) (client : RtspClient) (receiver : Receiver) :
      ClientChange env kinds client [] { client with receiver }
  | linked {client client' : RtspClient} (haddr : client.nextAddr ≤ client'.nextAddr)
      (h : client' =
        { client with
          url := client'.url
          urlStr := client'.urlStr
          resolvReqId := client'.resolvReqId
          resolvTimer := client'.resolvTimer
          connState := client'.connState
          failedRequests := client'.failedRequests
          sock := client'.sock
          active := client'.active
          resolving := client'.resolving
          nextAddr := client'.nextAddr })
      (hkind : .link ∈ kinds) (htext : KeepsUrlStr env client client') :
      ClientChange env kinds client [] client'
  | forgotten (client : RtspClient) :
      ClientChange env kinds client [] { client with auth := none, serverAuth := none }
  | called {client : RtspClient} (hkind : .call ∈ kinds) (call : ClientCall)
      {marked : Option RtspClientSession} {called : Called}
      (houtcome : CallOutcome env client call.method call.args.userdata call.args.timeoutMs false
        (call.stages env client) marked called)
      (huris : SentTo (call.Addresses env client)
        (called.accept call.method call.args.userdata).events)
      (hbase : called.client.request.contentBase = client.request.contentBase ∨
        ∃ asked args base, call = .setup asked args ∧
          rtspUrlStripCredentials env.inetPton asked.contentBase = .ok base ∧
            called.client.request.contentBase = some base) :
      ClientChange env kinds client (called.accept call.method call.args.userdata).events
        called.client
  | tearsDown {client : RtspClient} (hkind : .teardown ∈ kinds)
      {sessionId : Option Bytes} {args : RequestArgs} {marked : Option RtspClientSession}
      {called : Called}
      (houtcome : CallOutcome env client .teardown args.userdata args.timeoutMs true
        ((ClientCall.teardown none sessionId args).stages env client) marked called)
      (huris : SentTo (fun uri => ∃ session ∈ client.sessions, uri = session.contentBase)
        called.events) :
      ClientChange env kinds client called.events called.client
  | completed {client : RtspClient} (hkind : .completion ∈ kinds)
      (resp : RtspResponseHeader) (status : RtspClientReqStatus) {p : Progress}
      (hpending : client.request.isPending = true)
      (h : CompletedMethod (sessionOf client resp).2 (sessionOf client resp).1
        (endedRequest client) resp (completionOf client resp status) p) :
      ClientChange env kinds client p.events p.client
  | expired (hkind : .completion ∈ kinds) (client : RtspClient) :
      ClientChange env kinds client []
        { client with request := { client.request with timer := none } }
  | fired (hkind : .keepAlive ∈ kinds) {client : RtspClient} {session : RtspClientSession}
      (hfind : client.findSession session.addr = some session) :
      ClientChange env kinds client [] (client.setSession { session with timer := none })
  | rearmed (hkind : .keepAlive ∈ kinds) {client : RtspClient} {session : RtspClientSession}
      (hfind : client.findSession session.addr = some session) (failed : Nat)
      (timerMsec : UInt32) :
      ClientChange env kinds client []
        (client.setSession
          (resetKeepAliveTimer { session with failedKeepAlive := failed } timerMsec))
  | drafted (hkind : .keepAlive ∈ kinds) {client : RtspClient} {header : RtspRequestHeader}
      {auth : Option RtspAuthorizationHeader} (hpending : client.request.isPending = false)
      (hheader : KeepAliveHeader env client header auth) :
      ClientChange env kinds client [] (draftedClient client header auth)
  | keptAlive (hkind : .keepAlive ∈ kinds) {client : RtspClient}
      {session : RtspClientSession} {header : RtspRequestHeader}
      {auth : Option RtspAuthorizationHeader} {events : List ClientEvent}
      (hfind : client.findSession session.addr = some session)
      (hpending : client.request.isPending = false) (hstate : client.connState = .connected)
      (hheader : KeepAliveHeader env client header auth)
      (hsession : header.sessionId = some session.id)
      (hagent : header.userAgent = some client.softwareName)
      (hevents : events = [] ∨ ∃ message, events = [.sent header message])
      (huri : header.Addressed fun uri => uri = session.contentBase) :
      ClientChange env kinds client events (keptAliveClient client session header auth)
  | resumed (hkind : .completion ∈ kinds) {client : RtspClient} {session : RtspClientSession}
      (hfind : client.findSession session.addr = some session)
      (hprogress : session.keepAliveInProgress = true) :
      ClientChange env kinds client []
        (client.setSession
          (resetKeepAliveTimer { session with keepAliveInProgress := false }
            (session.timeoutMs / 2)))
  | unmarked {client : RtspClient} {session : RtspClientSession}
      (hfind : client.findSession session.addr = some session) :
      ClientChange env kinds client []
        (client.setSession { session with internalTeardown := false })
  | external (client : RtspClient) :
      ClientChange env kinds client []
        { client with request := { client.request with isInternal := false } }
  | mediaAdded (hkind : .media ∈ kinds) {client client' : RtspClient}
      {session : RtspClientSession} {path : Option Bytes} {pair : Option RtspChannelPair}
      (hfind : client.findSession session.addr = some session)
      (hadd : rtspClientSessionMediaAdd client session path pair = some client') :
      ClientChange env kinds client [] client'
  | mediaDropped {client : RtspClient} {session : RtspClientSession}
      {media : RtspClientSessionMedia} (hfind : client.findSession session.addr = some session)
      (hmedia : lookup RtspClientSessionMedia.addr media.addr session.medias = some media) :
      ClientChange env kinds client [] (dropMedia client session media)
  | mediasDropped {client : RtspClient} {session : RtspClientSession}
      (hfind : client.findSession session.addr = some session) :
      ClientChange env kinds client [] (dropMedias client session)
  | unlinked {client : RtspClient} {session : RtspClientSession}
      (hfind : client.findSession session.addr = some session) :
      ClientChange env kinds client []
        { client with
          sessions := remove RtspClientSession.addr session.addr client.sessions }

/-! ## Well-formed clients -/

/-- Sessions and medias are known by their addresses, which have been given out. -/
structure RtspClient.WellFormed (client : RtspClient) : Prop where
  keys : (client.sessions.map RtspClientSession.addr).Nodup
  bounded : ∀ session ∈ client.sessions, session.addr < client.nextAddr
  mediaKeys : ∀ session ∈ client.sessions,
    (session.medias.map RtspClientSessionMedia.addr).Nodup
  mediasBounded : ∀ session ∈ client.sessions, ∀ media ∈ session.medias,
    media.addr < client.nextAddr

namespace RtspClient

variable {client client' : RtspClient} {session : RtspClientSession}

theorem WellFormed.new (softwareName : Option Bytes) (cbs : RtspClientCbs) :
    (rtspClientNew softwareName cbs).WellFormed where
  keys := List.nodup_nil
  bounded _ hmem := absurd hmem List.not_mem_nil
  mediaKeys _ hmem := absurd hmem List.not_mem_nil
  mediasBounded _ hmem := absurd hmem List.not_mem_nil

theorem findSession_some {addr : Addr} (h : client.findSession addr = some session) :
    session ∈ client.sessions ∧ session.addr = addr :=
  lookup_some h

theorem mem_setSession {x : RtspClientSession} :
    x ∈ (client.setSession session).sessions ↔
      (x ∈ client.sessions ∧ x.addr ≠ session.addr) ∨
        (x = session ∧ ∃ y ∈ client.sessions, y.addr = session.addr) :=
  mem_replace

theorem WellFormed.of_sessions (hwf : client.WellFormed) (h : client'.sessions = client.sessions)
    (haddr : client.nextAddr ≤ client'.nextAddr) : client'.WellFormed where
  keys := by
    rw [h]
    exact hwf.keys
  bounded := by
    rw [h]
    exact fun session hmem => (hwf.bounded session hmem).trans_le haddr
  mediaKeys := by
    rw [h]
    exact hwf.mediaKeys
  mediasBounded := by
    rw [h]
    exact fun session hmem media hmedia =>
      (hwf.mediasBounded session hmem media hmedia).trans_le haddr

/-- A session is replaced by itself with other marks or less medias. -/
theorem WellFormed.replaced (hwf : client.WellFormed) {old : RtspClientSession}
    (h : client'.sessions = replace RtspClientSession.addr session client.sessions)
    (hnext : client'.nextAddr = client.nextAddr) (hold : old ∈ client.sessions)
    (haddr : session.addr = old.addr) (hmedias : session.medias.Sublist old.medias) :
    client'.WellFormed where
  keys := by
    rw [h, map_key_replace]
    exact hwf.keys
  bounded := by
    rw [h, hnext]
    intro x hx
    rcases mem_replace.mp hx with ⟨hx, -⟩ | ⟨rfl, -⟩
    · exact hwf.bounded x hx
    · rw [haddr]
      exact hwf.bounded old hold
  mediaKeys := by
    rw [h]
    intro x hx
    rcases mem_replace.mp hx with ⟨hx, -⟩ | ⟨rfl, -⟩
    · exact hwf.mediaKeys x hx
    · exact (hwf.mediaKeys old hold).sublist (hmedias.map _)
  mediasBounded := by
    rw [h, hnext]
    intro x hx media hmedia
    rcases mem_replace.mp hx with ⟨hx, -⟩ | ⟨rfl, -⟩
    · exact hwf.mediasBounded x hx media hmedia
    · exact hwf.mediasBounded old hold media (hmedias.subset hmedia)

/-- A new session has no media. -/
theorem WellFormed.appended (hwf : client.WellFormed) (haddr : session.addr = client.nextAddr)
    (hmedias : session.medias = []) (h : client'.sessions = client.sessions ++ [session])
    (hnext : client'.nextAddr = client.nextAddr + 1) : client'.WellFormed where
  keys := by
    rw [h]
    apply nodup_append hwf.keys
    intro x hx
    rw [haddr]
    exact (hwf.bounded x hx).ne
  bounded := by
    rw [h, hnext]
    intro x hx
    rcases List.mem_append.mp hx with hx | hx
    · exact Nat.lt_succ_of_lt (hwf.bounded x hx)
    · rw [List.mem_singleton.mp hx, haddr]
      exact Nat.lt_succ_self _
  mediaKeys := by
    rw [h]
    intro x hx
    rcases List.mem_append.mp hx with hx | hx
    · exact hwf.mediaKeys x hx
    · rw [List.mem_singleton.mp hx, hmedias]
      exact List.nodup_nil
  mediasBounded := by
    rw [h, hnext]
    intro x hx media hmedia
    rcases List.mem_append.mp hx with hx | hx
    · exact Nat.lt_succ_of_lt (hwf.mediasBounded x hx media hmedia)
    · rw [List.mem_singleton.mp hx, hmedias] at hmedia
      cases hmedia

theorem WellFormed.mediaAdded {path : Option Bytes} {pair : Option RtspChannelPair}
    (hwf : client.WellFormed) (hmem : session ∈ client.sessions)
    (h : rtspClientSessionMediaAdd client session path pair = some client') :
    client'.WellFormed := by
  unfold rtspClientSessionMediaAdd at h
  split at h
  next path =>
    cases h
    constructor
    · change ((replace RtspClientSession.addr _ client.sessions).map _).Nodup
      rw [map_key_replace]
      exact hwf.keys
    · intro x hx
      rcases mem_setSession.mp hx with ⟨hx, -⟩ | ⟨rfl, -⟩
      · exact Nat.lt_succ_of_lt (hwf.bounded x hx)
      · exact Nat.lt_succ_of_lt (hwf.bounded session hmem)
    · intro x hx
      rcases mem_setSession.mp hx with ⟨hx, -⟩ | ⟨rfl, -⟩
      · exact hwf.mediaKeys x hx
      · apply nodup_append (hwf.mediaKeys session hmem)
        intro media hmedia
        exact (hwf.mediasBounded session hmem media hmedia).ne
    · intro x hx media hmedia
      rcases mem_setSession.mp hx with ⟨hx, -⟩ | ⟨rfl, -⟩
      · exact Nat.lt_succ_of_lt (hwf.mediasBounded x hx media hmedia)
      · rcases List.mem_append.mp hmedia with hmedia | hmedia
        · exact Nat.lt_succ_of_lt (hwf.mediasBounded session hmem media hmedia)
        · rw [List.mem_singleton.mp hmedia]
          exact Nat.lt_succ_self _
  next => cases h

theorem resetKeepAliveTimer_addr (session : RtspClientSession) (timerMsec : UInt32) :
    (resetKeepAliveTimer session timerMsec).addr = session.addr := by
  unfold resetKeepAliveTimer
  split
  next => rfl
  next => rfl

theorem resetKeepAliveTimer_id (session : RtspClientSession) (timerMsec : UInt32) :
    (resetKeepAliveTimer session timerMsec).id = session.id := by
  unfold resetKeepAliveTimer
  split
  next => rfl
  next => rfl

theorem resetKeepAliveTimer_contentBase (session : RtspClientSession) (timerMsec : UInt32) :
    (resetKeepAliveTimer session timerMsec).contentBase = session.contentBase := by
  unfold resetKeepAliveTimer
  split
  next => rfl
  next => rfl

theorem resetKeepAliveTimer_medias (session : RtspClientSession) (timerMsec : UInt32) :
    (resetKeepAliveTimer session timerMsec).medias = session.medias := by
  unfold resetKeepAliveTimer
  split
  next => rfl
  next => rfl

end RtspClient

/-! ## The session of a response -/

theorem forgetAuth_eq (client : RtspClient) (resp : RtspResponseHeader) :
    forgetAuth client resp =
      { client with
        auth := (forgetAuth client resp).auth
        serverAuth := (forgetAuth client resp).serverAuth } := by
  unfold forgetAuth
  split
  next => rfl
  next => rfl

/-- Apart from the authorization only the slot is released. -/
theorem releasedClient_eq (client : RtspClient) (resp : RtspResponseHeader) :
    releasedClient client resp =
      { releaseSlot client with
        auth := (releasedClient client resp).auth
        serverAuth := (releasedClient client resp).serverAuth } := by
  unfold releasedClient
  cases resp.authenticate with
  | none => exact forgetAuth_eq _ _
  | some server => exact forgetAuth_eq _ _

/-- Apart from the sessions only the content base of the slot changes. -/
theorem completeSession_frame (client : RtspClient) (method : RtspMethodType)
    (sessionId : Option Bytes) (sessionTimeout : UInt32) :
    (completeSession client method sessionId sessionTimeout).2 =
      { client with
        sessions := (completeSession client method sessionId sessionTimeout).2.sessions
        nextAddr := (completeSession client method sessionId sessionTimeout).2.nextAddr
        request :=
          { client.request with
            contentBase :=
              (completeSession client method sessionId
                sessionTimeout).2.request.contentBase } } := by
  unfold completeSession rtspClientGetSession
  cases rtspClientSessionFind client sessionId with
  | some session => rfl
  | none =>
      cases sessionId with
      | none => rfl
      | some id =>
          cases decide (method = .setup) with
          | true => rfl
          | false => rfl

/-- The session after a response to one of its requests. -/
def answeredSession (session : RtspClientSession) (contentBase : Option Bytes)
    (sessionTimeout : UInt32) : RtspClientSession :=
  resetKeepAliveTimer
    { session with
      keepAliveInProgress := false
      timeoutMs := clientSessionTimeoutMs sessionTimeout
      contentBase := session.contentBase.or contentBase }
    (clientSessionTimeoutMs sessionTimeout)

theorem answeredSession_addr (session : RtspClientSession) (contentBase : Option Bytes)
    (sessionTimeout : UInt32) :
    (answeredSession session contentBase sessionTimeout).addr = session.addr :=
  RtspClient.resetKeepAliveTimer_addr _ _

theorem answeredSession_id (session : RtspClientSession) (contentBase : Option Bytes)
    (sessionTimeout : UInt32) :
    (answeredSession session contentBase sessionTimeout).id = session.id :=
  RtspClient.resetKeepAliveTimer_id _ _

theorem answeredSession_contentBase (session : RtspClientSession) (contentBase : Option Bytes)
    (sessionTimeout : UInt32) :
    (answeredSession session contentBase sessionTimeout).contentBase =
      session.contentBase.or contentBase :=
  RtspClient.resetKeepAliveTimer_contentBase _ _

theorem answeredSession_medias (session : RtspClientSession) (contentBase : Option Bytes)
    (sessionTimeout : UInt32) :
    (answeredSession session contentBase sessionTimeout).medias = session.medias :=
  RtspClient.resetKeepAliveTimer_medias _ _

/-- The ways a response finds its session: it names none that is known, it names one, or
one is added for it. -/
inductive CompletedSession (client : RtspClient) (method : RtspMethodType)
    (sessionId : Option Bytes) (sessionTimeout : UInt32) :
    Option RtspClientSession × RtspClient → Prop where
  | unknown (hfind : rtspClientSessionFind client sessionId = none)
      (hadd : method ≠ .setup ∨ sessionId = none) :
      CompletedSession client method sessionId sessionTimeout (none, client)
  | known {session : RtspClientSession}
      (hfind : rtspClientSessionFind client sessionId = some session) :
      CompletedSession client method sessionId sessionTimeout
        (some (answeredSession session client.request.contentBase sessionTimeout),
          { client with
            sessions :=
              replace RtspClientSession.addr
                (answeredSession session client.request.contentBase sessionTimeout)
                client.sessions
            request := { client.request with contentBase := none } })
  | added {id : Bytes} (hfind : rtspClientSessionFind client sessionId = none)
      (hmethod : method = .setup) (hid : sessionId = some id) :
      CompletedSession client method sessionId sessionTimeout
        (some
          (answeredSession { addr := client.nextAddr, id } client.request.contentBase
            sessionTimeout),
          { client with
            sessions :=
              client.sessions ++
                [answeredSession { addr := client.nextAddr, id } client.request.contentBase
                  sessionTimeout]
            nextAddr := client.nextAddr + 1
            request := { client.request with contentBase := none } })

theorem completeSession_cases {client : RtspClient} (hwf : client.WellFormed)
    (method : RtspMethodType) (sessionId : Option Bytes) (sessionTimeout : UInt32) :
    CompletedSession client method sessionId sessionTimeout
      (completeSession client method sessionId sessionTimeout) := by
  unfold completeSession rtspClientGetSession
  cases hfind : rtspClientSessionFind client sessionId with
  | some session => exact .known hfind
  | none =>
      cases hid : sessionId with
      | none =>
          subst hid
          exact .unknown hfind (.inr rfl)
      | some id =>
          subst hid
          by_cases hmethod : method = .setup
          · rw [decide_eq_true hmethod]
            have hadded := @CompletedSession.added client method (some id) sessionTimeout id hfind
              hmethod rfl
            rw [← replace_append RtspClientSession.addr
              (x := answeredSession { addr := client.nextAddr, id } client.request.contentBase
                sessionTimeout)
              (y := { addr := client.nextAddr, id })] at hadded
            · exact hadded
            · rw [answeredSession_addr]
            · intro session hsession
              rw [answeredSession_addr]
              exact (hwf.bounded session hsession).ne
          · rw [decide_eq_false hmethod]
            exact .unknown hfind (.inl hmethod)

/-! ## What the end of a request leaves alone -/

theorem keepAliveComplete_frame (client : RtspClient) (session : Option RtspClientSession)
    (completion : Completion) :
    (keepAliveComplete client session completion).client =
      { client with
        sessions := (keepAliveComplete client session completion).client.sessions } := by
  unfold keepAliveComplete
  split
  next => rfl
  next =>
    split
    next =>
      dsimp only
      split
      next => rfl
      next => rfl
    next => rfl

/-- The application is not told of the end of a keep-alive. -/
theorem keepAliveComplete_events (client : RtspClient) (session : Option RtspClientSession)
    (completion : Completion) : (keepAliveComplete client session completion).events = [] := by
  unfold keepAliveComplete
  split
  next => rfl
  next =>
    split
    next =>
      dsimp only
      split
      next => rfl
      next => rfl
    next => rfl

theorem CompletedMethod.unsent {client : RtspClient} {session : Option RtspClientSession}
    {ended : EndedRequest} {resp : RtspResponseHeader} {completion : Completion} {p : Progress}
    (h : CompletedMethod client session ended resp completion p) : sentHeaders p.events = [] := by
  cases h with
  | keepAlive hmethod =>
      rw [keepAliveComplete_events]
      rfl
  | _ => rfl

theorem CompletedMethod.frame {client : RtspClient} {session : Option RtspClientSession}
    {ended : EndedRequest} {resp : RtspResponseHeader} {completion : Completion} {p : Progress}
    (h : CompletedMethod client session ended resp completion p) :
    p.client =
      { client with
        methodsAllowed := p.client.methodsAllowed
        channelUsed := p.client.channelUsed
        sessions := p.client.sessions } := by
  cases h with
  | keepAlive hmethod =>
      rw [keepAliveComplete_frame]
  | _ => rfl

/-- Apart from the slot, which is free, the end of a request changes the authorization, the
sessions, the channels and the methods of the server. -/
theorem completed_frame {client : RtspClient} {session : Option RtspClientSession}
    {ended : EndedRequest} {resp : RtspResponseHeader} {completion : Completion} {p : Progress}
    (h : CompletedMethod (sessionOf client resp).2 session ended resp completion p) :
    p.client =
      { releaseSlot client with
        auth := (releasedClient client resp).auth
        serverAuth := (releasedClient client resp).serverAuth
        methodsAllowed := p.client.methodsAllowed
        channelUsed := p.client.channelUsed
        sessions := p.client.sessions
        nextAddr := p.client.nextAddr
        request :=
          { (releaseSlot client).request with
            contentBase := p.client.request.contentBase } } := by
  have hsession := completeSession_frame (releasedClient client resp)
    client.request.header.method (responseSessionId client resp) resp.sessionTimeout
  change (sessionOf client resp).2 = _ at hsession
  have hframe := h.frame
  rw [hsession, releasedClient_eq] at hframe
  rw [hframe]

/-! ## Changes keep a client well-formed -/

section WellFormed

variable {env : ClientEnv} {kinds : List ChangeKind} {client client' : RtspClient}
  {events : List ClientEvent}

@[simp] theorem accept_client (called : Called) (method : RtspMethodType) (userdata : Nat) :
    (called.accept method userdata).client = called.client := by
  unfold Called.accept
  split
  next => rfl
  next => rfl

theorem accept_ret (called : Called) (method : RtspMethodType) (userdata : Nat) :
    (called.accept method userdata).ret = called.ret := by
  unfold Called.accept
  split
  next => rfl
  next => rfl

/-- A call changes the mark of a session at most. -/
theorem CallOutcome.sessions {method : RtspMethodType} {userdata : Nat} {timeoutMs : UInt32}
    {internal : Bool} {stages : CallStages} {marked : Option RtspClientSession} {called : Called}
    (h : CallOutcome env client method userdata timeoutMs internal stages marked called) :
    called.client.nextAddr = client.nextAddr ∧
      (called.client.sessions = client.sessions ∨
        ∃ session, marked = some session ∧ client.findSession session.addr = some session ∧
          called.client.sessions =
            replace RtspClientSession.addr { session with internalTeardown := internal }
              client.sessions) := by
  have hbuilt : ∀ {built}, Filled env (Librtsp.claimed client) built method userdata →
      built.nextAddr = client.nextAddr ∧ built.sessions = client.sessions := by
    intro built hfilled
    rw [hfilled.same]
    exact ⟨rfl, rfl⟩
  cases h with
  | refused e hclaims => exact ⟨rfl, .inl rfl⟩
  | claimed e hclaim hclaims hlookups => exact ⟨rfl, .inl rfl⟩
  | unnumbered e hclaim hclaims hlookups hreserves hunset => exact ⟨rfl, .inl rfl⟩
  | unsent e hclaim hclaims hlookups hreserves hfilled =>
      exact ⟨(hbuilt hfilled).1, .inl (hbuilt hfilled).2⟩
  | sent message hclaim hmethod hfilled hagent hsock hsend =>
      exact ⟨(hbuilt hfilled).1, .inl (hbuilt hfilled).2⟩
  | @tearsDown built session message hclaim hmethod hteardown hfilled hagent hsock hsend
      hfind =>
      refine ⟨(hbuilt hfilled).1, .inr ⟨session, rfl, hfind, ?_⟩⟩
      change replace RtspClientSession.addr _ built.sessions = _
      rw [(hbuilt hfilled).2]

theorem CallOutcome.wellFormed {method : RtspMethodType} {userdata : Nat} {timeoutMs : UInt32}
    {internal : Bool} {stages : CallStages} {marked : Option RtspClientSession} {called : Called}
    (h : CallOutcome env client method userdata timeoutMs internal stages marked called)
    (hwf : client.WellFormed) : called.client.WellFormed := by
  obtain ⟨hnext, hsame | ⟨session, -, hfind, hsessions⟩⟩ := h.sessions
  · exact hwf.of_sessions hsame hnext.ge
  · exact hwf.replaced hsessions hnext (RtspClient.findSession_some hfind).1 rfl
      (List.Sublist.refl _)

theorem releasedClient_wellFormed (hwf : client.WellFormed) (resp : RtspResponseHeader) :
    (releasedClient client resp).WellFormed := by
  rw [releasedClient_eq]
  exact hwf.of_sessions rfl le_rfl

theorem sessionOf_wellFormed (hwf : client.WellFormed) (resp : RtspResponseHeader) :
    (sessionOf client resp).2.WellFormed ∧
      ∀ session, (sessionOf client resp).1 = some session →
        (sessionOf client resp).2.findSession session.addr = some session := by
  have hreleased := releasedClient_wellFormed hwf resp
  have hcases := completeSession_cases hreleased client.request.header.method
    (responseSessionId client resp) resp.sessionTimeout
  change CompletedSession _ _ _ _ (sessionOf client resp) at hcases
  generalize sessionOf client resp = found at hcases
  cases hcases with
  | unknown hfind hadd => exact ⟨hreleased, fun session h => (by cases h)⟩
  | @known session hfind =>
      have hmem := List.mem_of_find?_eq_some (Option.bind_eq_some_iff.mp hfind).choose_spec.2
      have hwf' := @RtspClient.WellFormed.replaced (releasedClient client resp)
        { releasedClient client resp with
          sessions :=
            replace RtspClientSession.addr
              (answeredSession session (releasedClient client resp).request.contentBase
                resp.sessionTimeout) (releasedClient client resp).sessions
          request := { (releasedClient client resp).request with contentBase := none } }
        (answeredSession session (releasedClient client resp).request.contentBase
          resp.sessionTimeout) hreleased session rfl rfl hmem (answeredSession_addr _ _ _)
        (by rw [answeredSession_medias])
      refine ⟨hwf', fun session' h => ?_⟩
      cases h
      exact lookup_replace ⟨session, hmem, (answeredSession_addr _ _ _).symm⟩
  | @added id hfind hmethod hid =>
      have hwf' := @RtspClient.WellFormed.appended (releasedClient client resp)
        { releasedClient client resp with
          sessions :=
            (releasedClient client resp).sessions ++
              [answeredSession { addr := (releasedClient client resp).nextAddr, id }
                (releasedClient client resp).request.contentBase resp.sessionTimeout]
          nextAddr := (releasedClient client resp).nextAddr + 1
          request := { (releasedClient client resp).request with contentBase := none } }
        _ hreleased (answeredSession_addr _ _ _) (answeredSession_medias _ _ _) rfl rfl
      refine ⟨hwf', fun session' h => ?_⟩
      cases h
      exact lookup_of_mem hwf'.keys (List.mem_append_right _ (List.mem_singleton_self _))

theorem keepAliveComplete_wellFormed {session : Option RtspClientSession}
    {completion : Completion} (hwf : client.WellFormed)
    (hfind : ∀ s, session = some s → client.findSession s.addr = some s) :
    (keepAliveComplete client session completion).client.WellFormed := by
  unfold keepAliveComplete
  split
  next => exact hwf
  next session =>
    have hmem := (RtspClient.findSession_some (hfind session rfl)).1
    split
    next =>
      dsimp only
      split
      next => exact hwf.replaced rfl rfl hmem rfl (List.Sublist.refl _)
      next => exact hwf.replaced rfl rfl hmem rfl (List.Sublist.refl _)
    next => exact hwf.replaced rfl rfl hmem rfl (List.Sublist.refl _)

theorem CompletedMethod.wellFormed {session : Option RtspClientSession} {ended : EndedRequest}
    {resp : RtspResponseHeader} {completion : Completion} {p : Progress}
    (h : CompletedMethod client session ended resp completion p) (hwf : client.WellFormed)
    (hfind : ∀ s, session = some s → client.findSession s.addr = some s) :
    p.client.WellFormed := by
  cases h with
  | keepAlive hmethod => exact keepAliveComplete_wellFormed hwf hfind
  | _ => exact hwf.of_sessions rfl le_rfl

theorem ClientChange.wellFormed (h : ClientChange env kinds client events client')
    (hwf : client.WellFormed) : client'.WellFormed := by
  induction h with
  | refl => exact hwf
  | trans _ _ ihab ihbc => exact ihbc (ihab hwf)
  | told => exact hwf
  | answered => exact hwf
  | connecting => exact hwf
  | delivered => exact hwf
  | received => exact hwf.of_sessions rfl le_rfl
  | linked haddr h =>
      refine hwf.of_sessions ?_ haddr
      rw [h]
  | forgotten => exact hwf.of_sessions rfl le_rfl
  | called _ call houtcome => exact houtcome.wellFormed hwf
  | tearsDown _ houtcome => exact houtcome.wellFormed hwf
  | completed _ resp status hpending h =>
      obtain ⟨hwf', hfind⟩ := sessionOf_wellFormed hwf resp
      exact h.wellFormed hwf' hfind
  | expired => exact hwf.of_sessions rfl le_rfl
  | fired _ hfind =>
      exact hwf.replaced rfl rfl (RtspClient.findSession_some hfind).1 rfl (List.Sublist.refl _)
  | rearmed _ hfind failed timerMsec =>
      exact hwf.replaced rfl rfl (RtspClient.findSession_some hfind).1
        (RtspClient.resetKeepAliveTimer_addr _ _) (by rw [RtspClient.resetKeepAliveTimer_medias])
  | drafted => exact hwf.of_sessions rfl le_rfl
  | keptAlive _ hfind =>
      exact hwf.replaced rfl rfl (RtspClient.findSession_some hfind).1 rfl (List.Sublist.refl _)
  | resumed _ hfind =>
      exact hwf.replaced rfl rfl (RtspClient.findSession_some hfind).1
        (RtspClient.resetKeepAliveTimer_addr _ _) (by rw [RtspClient.resetKeepAliveTimer_medias])
  | unmarked hfind =>
      exact hwf.replaced rfl rfl (RtspClient.findSession_some hfind).1 rfl (List.Sublist.refl _)
  | external => exact hwf.of_sessions rfl le_rfl
  | mediaAdded _ hfind hadd => exact hwf.mediaAdded (RtspClient.findSession_some hfind).1 hadd
  | mediaDropped hfind =>
      exact hwf.replaced rfl rfl (RtspClient.findSession_some hfind).1 rfl List.filter_sublist
  | mediasDropped hfind =>
      exact hwf.replaced rfl rfl (RtspClient.findSession_some hfind).1 rfl (List.nil_sublist _)
  | unlinked hfind =>
      constructor
      · exact nodup_remove hwf.keys
      · exact fun session hmem => hwf.bounded session (mem_remove.mp hmem).1
      · exact fun session hmem => hwf.mediaKeys session (mem_remove.mp hmem).1
      · exact fun session hmem => hwf.mediasBounded session (mem_remove.mp hmem).1

end WellFormed

/-! ## The content bases of the sessions -/

section Bases

variable {client : RtspClient} {holds : Option Bytes → Prop}

theorem rtspClientSessionFind_mem {sessionId : Option Bytes} {session : RtspClientSession}
    (h : rtspClientSessionFind client sessionId = some session) : session ∈ client.sessions := by
  obtain ⟨id, -, hfind⟩ := Option.bind_eq_some_iff.mp h
  exact List.mem_of_find?_eq_some hfind

/-- What holds of the content bases, and stays true when a missing one is taken from the slot,
holds after a response. -/
theorem sessionOf_bases (hwf : client.WellFormed)
    (hbases : ∀ session ∈ client.sessions, holds session.contentBase)
    (hor : ∀ base, holds base → holds (base.or client.request.contentBase))
    (hslot : client.request.header.method = .setup → holds client.request.contentBase)
    (resp : RtspResponseHeader) :
    ∀ session ∈ (sessionOf client resp).2.sessions, holds session.contentBase := by
  have hreleased : (releasedClient client resp).sessions = client.sessions ∧
      (releasedClient client resp).request.contentBase = client.request.contentBase := by
    rw [releasedClient_eq]
    exact ⟨rfl, rfl⟩
  have hwf' := releasedClient_wellFormed hwf resp
  have hcases := completeSession_cases hwf' client.request.header.method
    (responseSessionId client resp) resp.sessionTimeout
  change CompletedSession _ _ _ _ (sessionOf client resp) at hcases
  generalize sessionOf client resp = found at hcases
  have hold : ∀ session ∈ (releasedClient client resp).sessions, holds session.contentBase := by
    rw [hreleased.1]
    exact hbases
  cases hcases with
  | unknown hfind hadd => exact hold
  | known hfind =>
      intro x hx
      rcases mem_replace.mp hx with ⟨hx, -⟩ | ⟨rfl, -⟩
      · exact hold x hx
      · rw [answeredSession_contentBase, hreleased.2]
        exact hor _ (hold _ (rtspClientSessionFind_mem hfind))
  | added hfind hmethod hid =>
      intro x hx
      rcases List.mem_append.mp hx with hx | hx
      · exact hold x hx
      · rw [List.mem_singleton.mp hx, answeredSession_contentBase, hreleased.2]
        exact hslot hmethod

theorem keepAliveComplete_bases {session : Option RtspClientSession} {completion : Completion}
    (hbases : ∀ session ∈ client.sessions, holds session.contentBase)
    (hfind : ∀ s, session = some s → client.findSession s.addr = some s) :
    ∀ s ∈ (keepAliveComplete client session completion).client.sessions,
      holds s.contentBase := by
  unfold keepAliveComplete
  split
  next => exact hbases
  next session =>
    have hbase := hbases session (RtspClient.findSession_some (hfind session rfl)).1
    have hset : ∀ {s : RtspClientSession}, s.contentBase = session.contentBase →
        ∀ x ∈ (client.setSession s).sessions, holds x.contentBase := by
      intro s hsame x hx
      rcases RtspClient.mem_setSession.mp hx with ⟨hx, -⟩ | ⟨rfl, -⟩
      · exact hbases x hx
      · rw [hsame]
        exact hbase
    split
    next =>
      dsimp only
      split
      next => exact hset rfl
      next => exact hset rfl
    next => exact hset rfl

theorem completed_bases {resp : RtspResponseHeader} {completion : Completion}
    {ended : EndedRequest} {p : Progress} (hwf : client.WellFormed)
    (hbases : ∀ session ∈ client.sessions, holds session.contentBase)
    (hor : ∀ base, holds base → holds (base.or client.request.contentBase))
    (hslot : client.request.header.method = .setup → holds client.request.contentBase)
    (h : CompletedMethod (sessionOf client resp).2 (sessionOf client resp).1 ended resp
      completion p) : ∀ session ∈ p.client.sessions, holds session.contentBase := by
  have hfound := sessionOf_bases hwf hbases hor hslot resp
  cases h with
  | keepAlive hmethod => exact keepAliveComplete_bases hfound (sessionOf_wellFormed hwf resp).2
  | _ => exact hfound

/-- The content base of the slot is handed to the session of the response. -/
theorem completed_slotBase {resp : RtspResponseHeader} {completion : Completion}
    {session : Option RtspClientSession} {ended : EndedRequest} {p : Progress}
    (hwf : client.WellFormed)
    (h : CompletedMethod (sessionOf client resp).2 session ended resp completion p) :
    p.client.request.contentBase = none ∨
      p.client.request.contentBase = client.request.contentBase := by
  have hcases := completeSession_cases (releasedClient_wellFormed hwf resp)
    client.request.header.method (responseSessionId client resp) resp.sessionTimeout
  change CompletedSession _ _ _ _ (sessionOf client resp) at hcases
  rw [h.frame]
  generalize sessionOf client resp = found at hcases
  cases hcases with
  | unknown hfind hadd =>
      apply Or.inr
      dsimp only
      rw [releasedClient_eq]
      rfl
  | known hfind => exact .inl rfl
  | added hfind hmethod hid => exact .inl rfl

end Bases

end Librtsp
