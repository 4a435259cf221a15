import Librtsp.Message
import Librtsp.ServerReply
import Librtsp.Url

/-!
# The server

The server is a state machine that gives control to the application in its
callbacks.  `ServerState` holds, besides the server, where the code stands while
a callback runs, the forced teardowns the application started and
that have not returned, and the events so far.  An input is something the event
loop or the application does: data from a client, a disconnection, a timer, a
call of the interface, or the return of the callback that runs.

Sockets, the resolution of the peer's address and the application's own data do
not appear.  A peer has an IPv4 address, as the server listens on one.
-/

namespace Librtsp

open CString

/-! ## States -/

/-- The callback that runs for a request, with what its function still needs. -/
inductive Callback where
  | interleavedData
  | describe (request : Addr)
  | announce (request : Addr)
  | setup (request session : Addr)
  /-- The loop over the medias of a PLAY, PAUSE, RECORD or TEARDOWN request. -/
  | media (method : RtspMethodType) (request session current : Addr) (rest : List Addr)
  deriving DecidableEq, Repr

inductive Activity where
  | idle
  /-- `rtsp_server_pomp_cb` between two messages. -/
  | receiving (conn : Conn) (messages : List Delivery)
  | calling (conn : Conn) (messages : List Delivery) (callback : Callback)
  /-- `rtsp_server_timer_cb` in the timeout callback of a request. -/
  | sweeping (now : UInt64) (request : Addr) (next : Option Addr)
  /-- `rtsp_server_session_timer_cb` in the teardown callback of a media. -/
  | expiring (session media : Addr)
  deriving DecidableEq, Repr

/-- `rtsp_server_force_teardown` in the teardown callback of a media. -/
structure ForcedTeardown where
  session : Addr
  target : Option Addr
  current : Addr
  ext : List RtspHeaderExt
  deriving DecidableEq, Repr

structure ServerState where
  server : RtspServer
  activity : Activity := .idle
  forced : List ForcedTeardown := []
  events : List ServerEvent := []
  deriving DecidableEq, Repr

/-! ## Inputs -/

inductive ApiCall where
  | replyToDescribe (request : Addr) (status : Int) (ext : List RtspHeaderExt)
      (sessionDescription : Option Bytes)
  | replyToAnnounce (request : Addr) (status : Int) (ext : List RtspHeaderExt)
  | replyToSetup (request media : Addr) (reply : SetupReply)
  | replyToPlay (request media : Addr) (reply : MediaReply)
  | replyToPause (request media : Addr) (reply : MediaReply)
  | replyToRecord (request media : Addr) (reply : MediaReply)
  | replyToTeardown (request media : Addr) (reply : MediaReply)
  | forceTeardown (sessionId : Bytes) (path : Option Bytes) (ext : List RtspHeaderExt)
  deriving DecidableEq, Repr

inductive ServerInput where
  | receive (conn : Conn) (messages : List Delivery)
  | disconnected (conn : Conn)
  | timer
  | sessionTimer (session : Addr)
  | removeIdle (session : Addr)
  | call (call : ApiCall)
  | resume
  deriving DecidableEq, Repr

section Handlers

variable (P : Platform) (env : Env)

/-! ## Request handlers -/

/-- How a handler ends before the application has answered: with an error and the
status to answer, by returning, or in a callback. -/
inductive Processed where
  | failed (e : Errno) (status : Int) (request : RtspServerPendingRequest) (server : RtspServer)
  | returns (server : RtspServer) (events : List ServerEvent)
  | calls (server : RtspServer) (callback : Callback)

/-- Answer a request without asking the application. -/
def answerDirectly (server : RtspServer) (request : RtspServerPendingRequest) : Processed :=
  match request.conn with
  | none => .failed .econnreset 0 request server
  | some conn =>
      match writeResponse P server request.responseHeader none, env.send with
      | .error e, _ => .failed e 0 request server
      | .ok _, .error e => .failed e 0 request server
      | .ok message, .ok () =>
          .returns (rtspServerPendingRequestRemove server request.addr)
            (sendResponse request conn message (.ok ()))

def publicMethods : UInt32 :=
  [RtspMethodType.describe, .setup, .teardown, .play, .pause, .getParameter, .announce,
    .record].foldl (fun flags method => flags ||| rtspMethodFlag method) 0

def rtspServerOptions (server : RtspServer) (request : RtspServerPendingRequest) : Processed :=
  let request := fillAnswer env server 200 request
  answerDirectly P env server
    { request with
      responseHeader := { request.responseHeader with publicMethods := publicMethods } }

def rtspServerDescribe (server : RtspServer) (request : RtspServerPendingRequest) :
    Processed :=
  match rtspUrlParseHostAndPath request.requestHeader.uri with
  | .error e => .failed e 0 request server
  | .ok _ =>
      .calls (server.setRequest { request with inCallback := true }) (.describe request.addr)

/-- Without a callback the library replies itself. -/
def rtspServerAnnounceReq (server : RtspServer) (request : RtspServerPendingRequest) :
    Processed :=
  match rtspUrlParseHostAndPath request.requestHeader.uri with
  | .error e => .failed e 0 request server
  | .ok _ =>
      .calls (server.setRequest { request with inCallback := true }) (.announce request.addr)

def sessionNotFound : Int := 454

/-- The session of a SETUP request: a new one, or the one the request names. -/
def setupSession (server : RtspServer) (request : RtspServerPendingRequest)
    (contentBase : Option Bytes) :
    Except Halt (Option (RtspServerSession × RtspServer)) :=
  match request.requestHeader.sessionId with
  | none =>
      match rtspServerSessionAdd env.ids server server.sessionTimeoutMs contentBase with
      | none => .error .disabled
      | some added => .ok (some added)
  | some sessionId =>
      .ok ((rtspServerSessionFind server sessionId).map fun session => (session, server))

def rtspServerSetup (server : RtspServer) (request : RtspServerPendingRequest) :
    Except Halt Processed :=
  if request.requestHeader.transport.length ≠ 1 then .ok (.failed .enosys 0 request server)
  else
    match rtspUrlParseHostAndPath request.requestHeader.uri with
    | .error e => .ok (.failed e 0 request server)
    | .ok (_, path) =>
        match strrchr 0x2f (request.requestHeader.uri.getD []) with
        | none => .ok (.failed .einval 0 request server)
        | some (contentBase, _) =>
            match setupSession env server request (some contentBase) with
            | .error halt => .error halt
            | .ok none => .ok (.failed .enoent sessionNotFound request server)
            | .ok (some (session, server)) =>
                match rtspServerSessionMediaAdd server session request.requestHeader.uri path with
                | none =>
                    .ok (.failed .eproto 0 request
                      (if request.requestHeader.sessionId.isNone then
                        rtspServerSessionRemove server session.addr
                      else server))
                | some (media, session, server) =>
                    .ok (.calls
                      ((server.setSession
                        { rtspServerSessionResetTimeout session with
                          opInProgress := .setup }).setRequest
                        { request with
                          inCallback := true
                          target := some session.addr
                          given := some media.addr })
                      (.setup request.addr session.addr))

/-- The session a request names, with its medias; it must have one. -/
def namedSession (server : RtspServer) (sessionId : Bytes) :
    Option (RtspServerSession × RtspServerSessionMedia × List RtspServerSessionMedia) :=
  match rtspServerSessionFind server sessionId with
  | none => none
  | some session =>
      match session.medias with
      | [] => none
      | media :: rest => some (session, media, rest)

/-- The session stays for its whole time again, the request takes hold of it and of these
medias, and the first callback of its loop runs. -/
def startOperation (server : RtspServer) (request : RtspServerPendingRequest)
    (session : RtspServerSession) (method : RtspMethodType) (first : Addr) (rest : List Addr) :
    Processed :=
  .calls
    ((server.setSession
      { rtspServerSessionResetTimeout session with opInProgress := method }).setRequest
      { request with
        inCallback := true
        target := some session.addr
        medias := (first :: rest).map fun media => { media } })
    (.media method request.addr session.addr first rest)

/-- PLAY, PAUSE and RECORD concern every media of the session. -/
def sessionRequest (method : RtspMethodType) (server : RtspServer)
    (request : RtspServerPendingRequest) : Processed :=
  match request.requestHeader.sessionId with
  | none => .failed .einval 0 request server
  | some sessionId =>
      match rtspUrlParsePath request.requestHeader.uri with
      | .error e => .failed e 0 request server
      | .ok _ =>
          match namedSession server sessionId with
          | none => .failed .enoent sessionNotFound request server
          | some (session, media, rest) =>
              startOperation server request session method media.addr
                (rest.map RtspServerSessionMedia.addr)

def rtspServerPlay := sessionRequest .play

def rtspServerPause := sessionRequest .pause

def rtspServerRecord := sessionRequest .record

/-- The medias a TEARDOWN request selects: the one with its path, else those
whose path begins with it when it has no slash, else all. -/
def teardownSelects (session : RtspServerSession) (path : Option Bytes)
    (media : RtspServerSessionMedia) : Bool :=
  match path with
  | none => true
  | some path =>
      if (rtspServerSessionMediaFind session (some path)).isSome then path = media.path
      else if (strchr 0x2f path).isNone then strncmpEq path media.path path.length
      else true

def rtspServerTeardown (server : RtspServer) (request : RtspServerPendingRequest) : Processed :=
  match request.requestHeader.sessionId with
  | none => .failed .einval 0 request server
  | some sessionId =>
      match rtspUrlParsePath request.requestHeader.uri with
      | .error e => .failed e 0 request server
      | .ok path =>
          match namedSession server sessionId with
          | none => .failed .enoent sessionNotFound request server
          | some (session, _, _) =>
              let marked :=
                { session with
                  medias := session.medias.map fun media =>
                    if teardownSelects session path media then
                      { media with isTearingDown := true }
                    else media }
              match (session.medias.filter (teardownSelects session path)).map
                RtspServerSessionMedia.addr with
              | [] =>
                  .failed .enoent 0 request
                    (server.setSession
                      { rtspServerSessionResetTimeout marked with opInProgress := .teardown })
              | first :: rest => startOperation server request marked .teardown first rest

def rtspServerGetParameter (server : RtspServer) (request : RtspServerPendingRequest) :
    Processed :=
  match request.requestHeader.sessionId with
  | none => .failed .einval 0 request server
  | some sessionId =>
      match rtspUrlParsePath request.requestHeader.uri with
      | .error e => .failed e 0 request server
      | .ok _ =>
          match namedSession server sessionId with
          | none => .failed .enoent sessionNotFound request server
          | some (session, _, _) =>
              let request := fillAnswer env server 200 request
              answerDirectly P env (server.setSession (rtspServerSessionResetTimeout session))
                { request with
                  responseHeader :=
                    { request.responseHeader with
                      sessionId := some sessionId
                      sessionTimeout := session.timeoutMs / 1000 } }

/-- SET_PARAMETER, REDIRECT and unknown methods are left pending. -/
def handleRequest (server : RtspServer) (request : RtspServerPendingRequest) :
    Except Halt Processed :=
  match request.requestHeader.method with
  | .unknown => .ok (.returns server [])
  | .options => .ok (rtspServerOptions P env server request)
  | .describe => .ok (rtspServerDescribe server request)
  | .announce => .ok (rtspServerAnnounceReq server request)
  | .setup => rtspServerSetup env server request
  | .play => .ok (rtspServerPlay server request)
  | .pause => .ok (rtspServerPause server request)
  | .teardown => .ok (rtspServerTeardown server request)
  | .getParameter => .ok (rtspServerGetParameter P env server request)
  | .setParameter => .ok (.returns server [])
  | .redirect => .ok (.returns server [])
  | .record => .ok (rtspServerRecord server request)

/-- Server, events and the callback that runs, if any. -/
def rtspServerRequestProcess (server : RtspServer) (conn : Conn) (header : RtspRequestHeader)
    (body : Bytes) : Except Halt (RtspServer × List ServerEvent × Option Callback) := do
  let (request, server) :=
    rtspServerPendingRequestAdd env.now server conn server.replyTimeoutMs header body
  let received := ServerEvent.received conn request.addr header body
  match ← handleRequest P env server request with
  | .failed e status request server =>
      let error := errorResponse P env server request
        (if statusIsFailure status then status else e.ret)
      .ok (rtspServerPendingRequestRemove server request.addr, received :: error.2, none)
  | .returns server events => .ok (server, received :: events, none)
  | .calls server callback => .ok (server, [received], some callback)

end Handlers

/-! ## When a callback returns -/

section Resume

variable (P : Platform) (env : Env)

/-- The end of a handler: a request that was replied to during its callback
leaves the list. -/
def finishRequest (server : RtspServer) (request : Addr)
    (replied : RtspServerPendingRequest → Except Halt RtspServer)
    (waiting : RtspServerPendingRequest → RtspServer) : Except Halt RtspServer :=
  match server.findRequest request with
  | none => .error .useAfterFree
  | some request => if request.replied then replied request else .ok (waiting request)

/-- `session->op_in_progress = RTSP_METHOD_TYPE_UNKNOWN`, then the removal. -/
def finishOperation (server : RtspServer) (request session : Addr) : Except Halt RtspServer :=
  match server.findSession session with
  | none => .error .useAfterFree
  | some session =>
      .ok (rtspServerPendingRequestRemove
        (server.setSession { session with opInProgress := .unknown }) request)

/-- The callback for one media; a missing one is the library's own reply. -/
def mediaCallback (server : RtspServer) (method : RtspMethodType) (request media : Addr) :
    Except Halt (RtspServer × List ServerEvent) :=
  if method = .record ∧ ¬ server.cbs.record then
    match server.findRequest request with
    | none => .error .useAfterFree
    | some r =>
        (rtspServerReplyToRecord P env server request media
          { status := Errno.enosys.ret, range := some r.requestHeader.range }).map Prod.snd
  else .ok (server, [])

def returnFromCallback (server : RtspServer) : Callback →
    Except Halt (RtspServer × List ServerEvent × Option Callback)
  | .interleavedData => .ok (server, [], none)
  | .describe request => do
      let server ← finishRequest server request
        (fun request => .ok (rtspServerPendingRequestRemove server request.addr))
        (fun request => server.setRequest { request with inCallback := false })
      .ok (server, [], none)
  | .announce request => do
      -- a missing callback is the library's own reply
      let (server, events) :=
        if server.cbs.announce then (server, [])
        else (rtspServerReplyToAnnounce P env server request Errno.enosys.ret []).2
      let server ← finishRequest server request
        (fun request => .ok (rtspServerPendingRequestRemove server request.addr))
        (fun request => server.setRequest { request with inCallback := false })
      .ok (server, events, none)
  | .setup request session => do
      let server ← finishRequest server request
        (fun request => finishOperation server request.addr session)
        (fun request => server.setRequest { request with inCallback := false })
      .ok (server, [], none)
  | .media method request session current rest => do
      let (server, events) ← mediaCallback P env server method request current
      match rest with
      | next :: rest =>
          if (server.findSession session).isNone ∨ (server.mediaSession next).isNone then
            .error .useAfterFree
          else .ok (server, events, some (.media method request session next rest))
      | [] =>
          let server ← finishRequest server request
            (fun request => do
              let server ← finishOperation server request.addr session
              .ok (if method = .teardown then removeTornDown session server else server))
            (fun request =>
              server.setRequest
                { request with
                  inCallback := false
                  requestFirstReply := method ≠ .teardown || request.requestFirstReply })
          .ok (server, events, none)

/-! ## Timers -/

/-- Goes through the pending requests until one has expired, which is answered
with an error; then the timeout callback runs. -/
def sweepFrom (server : RtspServer) (now : UInt64) :
    List RtspServerPendingRequest → RtspServer × List ServerEvent × Activity
  | [] => (server, [], .idle)
  | request :: rest =>
      if 0 < request.timeout ∧ request.timeout < now then
        let error := errorResponse P env server request internalServerError
        (server.setRequest error.1, error.2,
          .sweeping now request.addr (rest.head?.map RtspServerPendingRequest.addr))
      else sweepFrom server now rest

/-- The walk has read the next request before the callback ran. -/
def resumeSweep (server : RtspServer) (now : UInt64) (request : Addr) (next : Option Addr) :
    Except Halt (RtspServer × List ServerEvent × Activity) :=
  let server := rtspServerPendingRequestRemove server request
  match next with
  | none => .ok (server, [], .idle)
  | some next =>
      match server.pendingRequests.dropWhile (·.addr ≠ next) with
      | [] => .error .useAfterFree
      | request :: rest => .ok (sweepFrom P env server now (request :: rest))

/-- The medias of the session from the one after `media`; that one is read. -/
def mediasAfter (server : RtspServer) (session media : Addr) :
    Except Halt (List RtspServerSessionMedia) :=
  match server.findSession session with
  | none => .error .useAfterFree
  | some session =>
      match session.medias.dropWhile (·.addr ≠ media) with
      | [] => .error .useAfterFree
      | _ :: rest => .ok rest

def expireMedias (server : RtspServer) (session : Addr) :
    List RtspServerSessionMedia → RtspServer × Activity
  | [] => (rtspServerSessionRemove server session, .idle)
  | media :: _ => (server, .expiring session media.addr)

/-! ## Forced teardown -/

/-- A TEARDOWN request to every client. -/
def rtspServerSendTeardown (server : RtspServer) (uri : Option Bytes) (sessionId : Bytes)
    (ext : List RtspHeaderExt) : RtspServer × List ServerEvent :=
  match nonEmpty uri with
  | none => (server, [])
  | some uri =>
      let header : RtspRequestHeader :=
        { method := .teardown, uri := some uri, cseq := server.cseq.toInt32
          sessionId := some sessionId, ext }
      let server := { server with cseq := server.cseq + 1 }
      match rtspRequestHeaderWrite P header { maxLen := server.maxMsgSize } with
      | .error _ => (server, [])
      | .ok request => (server, [.broadcast request.str])

/-- After the last callback: the message, then the removal. -/
def finishForced (server : RtspServer) (session : RtspServerSession) (target : Option Addr)
    (ext : List RtspHeaderExt) : RtspServer × List ServerEvent :=
  match target with
  | none =>
      let sent := rtspServerSendTeardown P server session.uri session.sessionId ext
      (rtspServerSessionRemove sent.1 session.addr, sent.2)
  | some target =>
      let sent := rtspServerSendTeardown P server
        ((session.medias.find? (·.addr = target)).bind RtspServerSessionMedia.uri)
        session.sessionId ext
      (rtspServerSessionMediaRemove sent.1 session target, sent.2)

/-- Server, events and the callback the call makes next, if any. -/
def rtspServerForceTeardown (server : RtspServer) (sessionId : Bytes) (path : Option Bytes)
    (ext : List RtspHeaderExt) : RtspServer × List ServerEvent × Option ForcedTeardown :=
  match rtspServerSessionFind server sessionId with
  | none => (server, [], none)
  | some session =>
      let media := rtspServerSessionMediaFind session path
      if path.isSome ∧ media.isNone then (server, [], none)
      else if session.opInProgress ≠ .unknown then (server, [], none)
      else
        let target := media.map RtspServerSessionMedia.addr
        match media.or session.medias.head? with
        | some current =>
            (server, [], some { session := session.addr, target, current := current.addr, ext })
        | none =>
            let done := finishForced P server session target ext
            (done.1, done.2, none)

def resumeForced (server : RtspServer) (call : ForcedTeardown) :
    Except Halt (RtspServer × List ServerEvent × Option ForcedTeardown) := do
  let rest ← mediasAfter server call.session call.current
  match call.target, rest with
  | none, next :: _ => .ok (server, [], some { call with current := next.addr })
  | target, _ =>
      match server.findSession call.session with
      | none => .error .useAfterFree
      | some session =>
          let done := finishForced P server session target call.ext
          .ok (done.1, done.2, none)

end Resume

/-! ## Steps -/

/-- The application runs at the top of the event loop and in its callbacks. -/
def ServerState.applicationRuns (σ : ServerState) : Bool :=
  σ.forced ≠ [] ||
    match σ.activity with
    | .idle => true
    | .receiving _ _ => false
    | .calling _ _ (.announce _) => σ.server.cbs.announce
    | .calling _ _ (.media method _ _ _ _) => method ≠ .record || σ.server.cbs.record
    | .calling _ _ _ => true
    | .sweeping _ _ _ => true
    | .expiring _ _ => true

def ServerState.isIdle (σ : ServerState) : Bool :=
  σ.activity = .idle && σ.forced = []

section Step

variable (P : Platform) (env : Env) (σ : ServerState)

def ServerState.replied (reply : Reply) : ServerState :=
  { σ with server := reply.2.1, events := σ.events ++ reply.2.2 }

def callStep : ApiCall → Except Halt ServerState
  | .replyToDescribe request status ext sessionDescription =>
      .ok (σ.replied
        (rtspServerReplyToDescribe P env σ.server request status ext sessionDescription))
  | .replyToAnnounce request status ext =>
      .ok (σ.replied (rtspServerReplyToAnnounce P env σ.server request status ext))
  | .replyToSetup request media reply =>
      (rtspServerReplyToSetup P env σ.server request media reply).map σ.replied
  | .replyToPlay request media reply =>
      (rtspServerReplyToPlay P env σ.server request media reply).map σ.replied
  | .replyToPause request media reply =>
      (rtspServerReplyToPause P env σ.server request media reply).map σ.replied
  | .replyToRecord request media reply =>
      (rtspServerReplyToRecord P env σ.server request media reply).map σ.replied
  | .replyToTeardown request media reply =>
      (rtspServerReplyToTeardown P env σ.server request media reply).map σ.replied
  | .forceTeardown sessionId path ext =>
      let (server, events, call) := rtspServerForceTeardown P σ.server sessionId path ext
      .ok { σ with
        server
        forced := call.toList ++ σ.forced
        events := σ.events ++ events }

/-- One message of the receive loop. -/
def processMessage (conn : Conn) (messages : List Delivery) :
    Delivery → Except Halt ServerState
  | .text (.request header) body => do
      let (server, events, callback) ←
        rtspServerRequestProcess P env σ.server conn header body
      .ok { σ with
        server
        activity := match callback with
          | none => .receiving conn messages
          | some callback => .calling conn messages callback
        events := σ.events ++ events }
  | .text (.response _) _ => .ok { σ with activity := .receiving conn messages }
  | .interleaved _ _ =>
      .ok { σ with
        activity :=
          if σ.server.cbs.interleavedData then .calling conn messages .interleavedData
          else .receiving conn messages }

/-- The code goes on after a callback, or with the next message. -/
def resumeStep : Except Halt ServerState :=
  match σ.forced with
  | call :: forced => do
      let (server, events, call) ← resumeForced P σ.server call
      .ok { σ with server, forced := call.toList ++ forced, events := σ.events ++ events }
  | [] =>
      match σ.activity with
      | .idle => .error .disabled
      | .receiving _ [] => .ok { σ with activity := .idle }
      | .receiving conn (message :: messages) => processMessage P env σ conn messages message
      | .calling conn messages callback => do
          let (server, events, callback) ← returnFromCallback P env σ.server callback
          .ok { σ with
            server
            activity := match callback with
              | none => .receiving conn messages
              | some callback => .calling conn messages callback
            events := σ.events ++ events }
      | .sweeping now request next => do
          let (server, events, activity) ← resumeSweep P env σ.server now request next
          .ok { σ with server, activity, events := σ.events ++ events }
      | .expiring session media => do
          let rest ← mediasAfter σ.server session media
          let (server, activity) := expireMedias σ.server session rest
          .ok { σ with server, activity }

def serverStep : ServerInput → Except Halt ServerState
  | .receive conn messages =>
      if σ.isIdle then .ok { σ with activity := .receiving conn messages }
      else .error .disabled
  | .disconnected conn =>
      if σ.isIdle then
        .ok { σ with
          server :=
            { σ.server with
              pendingRequests := σ.server.pendingRequests.map fun request =>
                if request.conn = some conn then { request with conn := none } else request } }
      else .error .disabled
  | .timer =>
      if σ.isIdle then
        let (server, events, activity) :=
          sweepFrom P env σ.server env.now σ.server.pendingRequests
        .ok { σ with server, activity, events := σ.events ++ events }
      else .error .disabled
  | .sessionTimer session =>
      match σ.isIdle, σ.server.findSession session with
      | true, some s =>
          let (server, activity) := expireMedias σ.server session s.medias
          .ok { σ with server, activity }
      | _, _ => .error .disabled
  | .removeIdle session =>
      if σ.isIdle ∧ session ∈ σ.server.removeIdle then
        if (σ.server.findSession session).isNone then .error .useAfterFree
        else .ok { σ with server := rtspServerSessionRemove σ.server session }
      else .error .disabled
  | .call call =>
      if σ.applicationRuns then callStep P env σ call else .error .disabled
  | .resume => resumeStep P env σ

end Step

end Librtsp
