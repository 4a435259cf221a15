import Librtsp.ServerAnswer

/-!
# What a step does to the table

Each step of the server changes its table in one of the ways of `Change`, which
also says what is sent and where the code stands afterwards.  The functions
before it say, from the state before a step and its input, which request leaves
the list, which session or media is removed, and which answer is attempted.
-/

namespace Librtsp

open CString RecordList

/-! ## Where the code stands -/

/-- A request that leaves the list, the session whose operation that ends, and
whether the session's medias that are torn down go with it. -/
structure Leaving where
  request : Addr
  clears : Option Addr := none
  tearsDown : Bool := false
  deriving DecidableEq, Repr

/-- The request in whose callback the application runs, and what its handler does
at its end when the request has been replied to. -/
def Callback.anchor : Callback → Option Leaving
  | .interleavedData => none
  | .describe request => some { request }
  | .announce request => some { request }
  | .setup request session => some { request, clears := some session }
  | .media method request session _ _ =>
      some { request, clears := some session, tearsDown := method = .teardown }

def Activity.anchor : Activity → Option Leaving
  | .calling _ _ callback => callback.anchor
  | _ => none

/-- The request in whose timeout callback the application runs. -/
def Activity.swept : Activity → Option Addr
  | .sweeping _ request _ => some request
  | _ => none

/-! ## What a step is about -/

/-- The kind, the request and the media of a call that replies for one media
among several. -/
def ApiCall.mediaReply : ApiCall → Option (MediaReplyKind × Addr × Addr × MediaReply)
  | .replyToPlay request media reply => some (playKind, request, media, reply)
  | .replyToPause request media reply => some (pauseKind, request, media, reply)
  | .replyToRecord request media reply => some (recordKind, request, media, reply)
  | .replyToTeardown request media reply => some (teardownKind, request, media, reply)
  | _ => none

section About

variable (P : Platform) (env : Env) (σ : ServerState)

/-- The pending request, unless its callback is running. -/
def RtspServer.waiting (server : RtspServer) (request : Addr) :
    Option RtspServerPendingRequest :=
  (server.findRequest request).filter fun request => !request.inCallback

def leavingByCall (call : ApiCall) : Option Leaving :=
  match call with
  | .replyToDescribe request _ _ _ =>
      (σ.server.waiting request).map fun _ => { request }
  | .replyToAnnounce request _ _ =>
      (σ.server.waiting request).map fun _ => { request }
  | .replyToSetup request media _ =>
      match σ.server.waiting request, σ.server.mediaSession media with
      | some _, some session => some { request, clears := some session.addr }
      | _, _ => none
  | .forceTeardown _ _ _ => none
  | call =>
      match call.mediaReply with
      | none => none
      | some (K, request, media, reply) =>
          match σ.server.waiting request, σ.server.mediaSession media with
          | some r, some session =>
              (replyAttempt P env σ.server K session r media reply).map fun _ =>
                { request, clears := some session.addr, tearsDown := K.tearsDown }
          | _, _ => none

/-- The library replies itself for a callback that is missing. -/
def leavingByReturn (callback : Callback) : Option Leaving :=
  let replied (request : Addr) : Bool :=
    ((σ.server.findRequest request).map RtspServerPendingRequest.replied).getD false
  match callback with
  | .interleavedData => none
  | .describe request => if replied request then some { request } else none
  | .announce request =>
      if replied request || !σ.server.cbs.announce then some { request } else none
  | .setup request session =>
      if replied request then some { request, clears := some session } else none
  | .media _ _ _ _ (_ :: _) => none
  | .media method request session _ [] =>
      if replied request || (method = .record && !σ.server.cbs.record) then
        some { request, clears := some session, tearsDown := method = .teardown }
      else none

def leaving : ServerInput → Option Leaving
  | .call call => leavingByCall P env σ call
  | .resume =>
      match σ.forced, σ.activity with
      | [], .calling _ _ callback => leavingByReturn σ callback
      | [], .sweeping _ request _ => some { request }
      | _, _ => none
  | _ => none

/-- The session that a step removes without a request, or its media. -/
def dropped : ServerInput → Option (Addr × Option Addr)
  | .sessionTimer session =>
      match σ.server.findSession session with
      | some { medias := [], .. } => some (session, none)
      | _ => none
  | .removeIdle session => some (session, none)
  | .call (.forceTeardown sessionId path _) =>
      match rtspServerSessionFind σ.server sessionId, path with
      | some { addr, opInProgress := .unknown, medias := [], .. }, none => some (addr, none)
      | _, _ => none
  | .resume =>
      match σ.forced, σ.activity with
      | call :: _, _ =>
          match call.target, mediasAfter σ.server call.session call.current with
          | some media, .ok _ => some (call.session, some media)
          | none, .ok [] => some (call.session, none)
          | _, _ => none
      | [], .expiring session media =>
          match mediasAfter σ.server session media with
          | .ok [] => some (session, none)
          | _ => none
      | [], _ => none
  | _ => none

/-- The request has been added to the pending ones. -/
def RtspServer.enqueue (server : RtspServer) (request : RtspServerPendingRequest) : RtspServer :=
  { server with
    pendingRequests := server.pendingRequests ++ [request]
    nextAddr := server.nextAddr + 1 }

/-- The message the next step processes, with the request it becomes. -/
def arriving : ServerInput → Option RtspServerPendingRequest
  | .resume =>
      match σ.forced, σ.activity with
      | [], .receiving conn (.text (.request header) body :: _) =>
          some (rtspServerPendingRequestAdd env.now σ.server conn σ.server.replyTimeoutMs
            header body).1
      | _, _ => none
  | _ => none

/-- The session of a TEARDOWN request that selects none of its medias. -/
def mismatched (input : ServerInput) : Option Addr :=
  match arriving env σ input with
  | none => none
  | some request =>
      if request.requestHeader.method ≠ .teardown then none
      else
        match request.requestHeader.sessionId, rtspUrlParsePath request.requestHeader.uri with
        | some sessionId, .ok path =>
            match namedSession σ.server sessionId with
            | none => none
            | some (session, _, _) =>
                if session.medias.any (teardownSelects session path) then none
                else some session.addr
        | _, _ => none

/-- The session a request names. -/
def namedBy (server : RtspServer) (request : RtspServerPendingRequest) :
    Option RtspServerSession :=
  request.requestHeader.sessionId.bind (rtspServerSessionFind server)

/-- Whether a TEARDOWN request about the session selects one of its medias. -/
def selectsMedia (request : RtspServerPendingRequest) (session : RtspServerSession) : Bool :=
  match rtspUrlParsePath request.requestHeader.uri with
  | .error _ => false
  | .ok path => session.medias.any (teardownSelects session path)

/-- The answer a step attempts to give to a request. -/
inductive Attempts : ServerInput → RtspServerPendingRequest → Attempt → Prop where
  | describe {a : Addr} {request : RtspServerPendingRequest}
      (hfind : σ.server.findRequest a = some request) (status : Int) (ext : List RtspHeaderExt)
      (sessionDescription : Option Bytes) :
      Attempts (.call (.replyToDescribe a status ext sessionDescription)) request
        (describeAttempt P env σ.server request status ext sessionDescription)
  | announce {a : Addr} {request : RtspServerPendingRequest}
      (hfind : σ.server.findRequest a = some request) (status : Int)
      (ext : List RtspHeaderExt) :
      Attempts (.call (.replyToAnnounce a status ext)) request
        (announceAttempt P env σ.server request status ext)
  | setup {a media : Addr} {request : RtspServerPendingRequest} {session : RtspServerSession}
      (hmedia : σ.server.mediaSession media = some session)
      (hfind : σ.server.findRequest a = some request) (reply : SetupReply) :
      Attempts (.call (.replyToSetup a media reply)) request
        (setupAttempt P env σ.server session request reply).1
  | media {call : ApiCall} {K : MediaReplyKind} {a media : Addr} {reply : MediaReply}
      {request : RtspServerPendingRequest} {session session' : RtspServerSession}
      {attempt : Attempt} (hcall : call.mediaReply = some (K, a, media, reply))
      (hmedia : σ.server.mediaSession media = some session)
      (hfind : σ.server.findRequest a = some request)
      (hattempt : replyAttempt P env σ.server K session request media reply =
        some (session', attempt)) :
      Attempts (.call call) request attempt
  | noAnnounce {conn : Conn} {messages : List Delivery} {a : Addr}
      {request : RtspServerPendingRequest}
      (hactivity : σ.activity = .calling conn messages (.announce a))
      (hcbs : σ.server.cbs.announce = false)
      (hfind : σ.server.findRequest a = some request) :
      Attempts .resume request (announceAttempt P env σ.server request Errno.enosys.ret [])
  | noRecord {conn : Conn} {messages : List Delivery} {a session current : Addr}
      {rest : List Addr} {request : RtspServerPendingRequest}
      {s s' : RtspServerSession} {attempt : Attempt}
      (hactivity : σ.activity =
        .calling conn messages (.media .record a session current rest))
      (hcbs : σ.server.cbs.record = false)
      (hmedia : σ.server.mediaSession current = some s)
      (hfind : σ.server.findRequest a = some request)
      (hattempt : replyAttempt P env σ.server recordKind s request current
        { status := Errno.enosys.ret, range := some request.requestHeader.range } =
          some (s', attempt)) :
      Attempts .resume request attempt
  | failed {request request' : RtspServerPendingRequest} {e : Errno} {status : Int}
      {server : RtspServer} (harriving : arriving env σ .resume = some request)
      (hhandle : handleRequest P env (σ.server.enqueue request) request =
        .ok (.failed e status request' server)) :
      Attempts .resume request
        { errorStatus := if statusIsFailure status then status else e.ret
          request := request' }
  | expired {input : ServerInput} {request : RtspServerPendingRequest} {now : UInt64}
      (hnow : input = .timer ∧ now = env.now ∨
        ∃ a next, input = .resume ∧ σ.activity = .sweeping now a next ∧ request.addr ≠ a)
      (hanchor : σ.activity.anchor = none)
      (hpending : request ∈ σ.server.pendingRequests)
      (htimeout : 0 < request.timeout ∧ request.timeout < now) :
      Attempts input request { errorStatus := internalServerError, request }

end About

/-! ## The changes -/

def Table.leave (l : Leaving) (t : Table) : Table :=
  match l.clears with
  | none => t.removeRequest l.request
  | some session =>
      match lookup SessionEntry.addr session t.sessions with
      | none => t.removeRequest l.request
      | some e =>
          if l.tearsDown then
            ((t.setSession { e with op := .unknown }).removeRequest l.request).removeTornDown
              session
          else (t.setSession { e with op := .unknown }).removeRequest l.request

def IsReceived (request : RtspServerPendingRequest) (event : ServerEvent) : Prop :=
  ∃ conn, event = .received conn request.addr request.requestHeader request.body ∧
    request.conn = some conn

def IsBroadcast (event : ServerEvent) : Prop :=
  ∃ message, event = .broadcast message

/-- The medias a TEARDOWN request selects are marked. -/
def markMedias (method : RtspMethodType) (selected : List Addr) (medias : List (Addr × Bool)) :
    List (Addr × Bool) :=
  medias.map fun media =>
    (media.1, media.2 || (decide (method = .teardown) && selected.contains media.1))

def SessionMethod (method : RtspMethodType) : Prop :=
  method = .play ∨ method = .pause ∨ method = .record ∨ method = .teardown

section Changes

variable (P : Platform) (env : Env) (σ : ServerState) (input : ServerInput)

/-- The table after the step, where the code then stands, and the events. -/
inductive Change : Table → Activity → List ServerEvent → Prop where
  /-- The code moves on, or a reply is recorded. -/
  | moves {activity : Activity} {events : List ServerEvent}
      (hanchor : activity.anchor = σ.activity.anchor) (hswept : activity.swept = σ.activity.swept)
      (hevents : ∀ event ∈ events, IsBroadcast event) :
      Change σ.server.table activity events
  /-- A request of a method the server does not implement stays pending. -/
  | admits {request : RtspServerPendingRequest} {activity : Activity} {event : ServerEvent}
      (harriving : arriving env σ input = some request) (hreceived : IsReceived request event)
      (hactivity : activity.anchor = none ∧ activity.swept = none) :
      Change ((σ.server.table.addRequest request.entry).allocate (σ.server.table.next + 1))
        activity [event]
  /-- A request is answered with an error before its callback. -/
  | refuses {request : RtspServerPendingRequest} {activity : Activity} {event : ServerEvent}
      {attempt : Attempt} {next : Addr} (harriving : arriving env σ input = some request)
      (hreceived : IsReceived request event)
      (hattempt : Attempts P env σ input request attempt)
      (hactivity : activity.anchor = none ∧ activity.swept = none)
      (hnext : σ.server.table.next < next) :
      Change (σ.server.table.allocate next) activity
        (event :: outcome P env σ.server attempt)
  /-- A TEARDOWN request selects no media. -/
  | mismatches {request : RtspServerPendingRequest} {activity : Activity}
      {event : ServerEvent} {attempt : Attempt} {e : SessionEntry}
      (harriving : arriving env σ input = some request)
      (hreceived : IsReceived request event)
      (hattempt : Attempts P env σ input request attempt)
      (hactivity : activity.anchor = none ∧ activity.swept = none)
      (he : e ∈ σ.server.table.sessions) (hmismatched : mismatched env σ input = some e.addr) :
      Change ((σ.server.table.setSession { e with op := .teardown }).allocate
          (σ.server.table.next + 1))
        activity (event :: outcome P env σ.server attempt)
  /-- The server answers by itself. -/
  | answers {request : RtspServerPendingRequest} {activity : Activity}
      {event response : ServerEvent} (harriving : arriving env σ input = some request)
      (hreceived : IsReceived request event) (hresponse : IsResponseTo request.entry response)
      (hactivity : activity.anchor = none ∧ activity.swept = none) :
      Change (σ.server.table.allocate (σ.server.table.next + 1)) activity [event, response]
  /-- The callback of a request without a session runs. -/
  | asks {request : RtspServerPendingRequest} {activity : Activity} {event : ServerEvent}
      (harriving : arriving env σ input = some request) (hreceived : IsReceived request event)
      (hanchor : activity.anchor = some { request := request.addr })
      (hswept : activity.swept = none) :
      Change ((σ.server.table.addRequest { request.entry with inCallback := true }).allocate
          (σ.server.table.next + 1))
        activity [event]
  /-- The first callback of a PLAY, PAUSE, RECORD or TEARDOWN request runs. -/
  | starts {request : RtspServerPendingRequest} {activity : Activity} {event : ServerEvent}
      {e : SessionEntry} {medias : List Addr}
      (harriving : arriving env σ input = some request) (hreceived : IsReceived request event)
      (hmethod : SessionMethod request.requestHeader.method) (he : e ∈ σ.server.table.sessions)
      (hnamed : (namedBy σ.server request).map RtspServerSession.addr = some e.addr)
      (hmedias : medias.Sublist (e.medias.map Prod.fst)) (hsome : medias ≠ [])
      (hanchor : activity.anchor = some
        { request := request.addr
          clears := some e.addr
          tearsDown := request.requestHeader.method = .teardown })
      (hswept : activity.swept = none)
      (hselects : request.requestHeader.method = .teardown →
        ∀ session ∈ namedBy σ.server request, selectsMedia request session = true) :
      Change (((σ.server.table.setSession
            { e with
              op := request.requestHeader.method
              medias := markMedias request.requestHeader.method medias e.medias }).addRequest
            { request.entry with
              inCallback := true
              target := some e.addr
              references := medias }).allocate (σ.server.table.next + 1))
        activity [event]
  /-- A SETUP request adds a media to a session. -/
  | joins {request : RtspServerPendingRequest} {activity : Activity} {event : ServerEvent}
      {e : SessionEntry} (harriving : arriving env σ input = some request)
      (hreceived : IsReceived request event) (hmethod : request.requestHeader.method = .setup)
      (he : e ∈ σ.server.table.sessions)
      (hanchor : activity.anchor = some { request := request.addr, clears := some e.addr })
      (hswept : activity.swept = none) :
      Change (((σ.server.table.setSession
            { e with
              op := .setup
              medias := e.medias ++ [(σ.server.table.next + 1, false)] }).addRequest
            { request.entry with
              inCallback := true
              target := some e.addr
              references := [σ.server.table.next + 1] }).allocate (σ.server.table.next + 2))
        activity [event]
  /-- A SETUP request opens a session with its first media. -/
  | opens {request : RtspServerPendingRequest} {activity : Activity} {event : ServerEvent}
      (harriving : arriving env σ input = some request) (hreceived : IsReceived request event)
      (hmethod : request.requestHeader.method = .setup)
      (hanchor : activity.anchor = some
        { request := request.addr, clears := some (σ.server.table.next + 1) })
      (hswept : activity.swept = none) :
      Change (((σ.server.table.addSession
            { addr := σ.server.table.next + 1
              op := .setup
              medias := [(σ.server.table.next + 2, false)] }).addRequest
            { request.entry with
              inCallback := true
              target := some (σ.server.table.next + 1)
              references := [σ.server.table.next + 2] }).allocate (σ.server.table.next + 3))
        activity [event]
  /-- A request is answered during its callback. -/
  | answered {request : RtspServerPendingRequest} {activity : Activity} {attempt : Attempt}
      (hpending : request ∈ σ.server.pendingRequests) (hcallback : request.inCallback = true)
      (hattempt : Attempts P env σ input request attempt)
      (hanchor : activity.anchor = σ.activity.anchor)
      (hswept : activity.swept = σ.activity.swept) :
      Change (σ.server.table.setRequest { request.entry with replied := true }) activity
        (outcome P env σ.server attempt)
  /-- A request is answered and leaves the list. -/
  | leaves {request : RtspServerPendingRequest} {l : Leaving} {activity : Activity}
      {attempt : Attempt} (hpending : request ∈ σ.server.pendingRequests)
      (hrequest : request.addr = l.request) (hcallback : request.inCallback = false)
      (hleaving : leaving P env σ input = some l)
      (hattempt : Attempts P env σ input request attempt)
      (hanchor : activity.anchor = σ.activity.anchor)
      (hswept : activity.swept = σ.activity.swept) :
      Change (σ.server.table.leave l) activity (outcome P env σ.server attempt)
  /-- The callback of a request returns that was replied to meanwhile. -/
  | finishes {request : RtspServerPendingRequest} {l : Leaving} {activity : Activity}
      (hpending : request ∈ σ.server.pendingRequests)
      (hrequest : request.addr = l.request) (hreplied : request.replied = true)
      (hleaving : leaving P env σ input = some l)
      (hbefore : σ.activity.anchor = some l)
      (hactivity : activity.anchor = none ∧ activity.swept = none) :
      Change (σ.server.table.leave l) activity []
  /-- The library's own reply in place of a missing callback. -/
  | finishesSelf {request : RtspServerPendingRequest} {l : Leaving} {activity : Activity}
      {attempt : Attempt} (hpending : request ∈ σ.server.pendingRequests)
      (hrequest : request.addr = l.request) (hcallback : request.inCallback = true)
      (hleaving : leaving P env σ input = some l)
      (hattempt : Attempts P env σ input request attempt)
      (hbefore : σ.activity.anchor = some l)
      (hactivity : activity.anchor = none ∧ activity.swept = none) :
      Change (σ.server.table.leave l) activity (outcome P env σ.server attempt)
  /-- The callback of a request returns that stays pending. -/
  | returns {request : RtspServerPendingRequest} {l : Leaving} {activity : Activity}
      (hpending : request ∈ σ.server.pendingRequests) (hreplied : request.replied = false)
      (hrequest : request.addr = l.request) (hbefore : σ.activity.anchor = some l)
      (hactivity : activity.anchor = none ∧ activity.swept = none) :
      Change (σ.server.table.setRequest { request.entry with inCallback := false }) activity []
  /-- A session is removed on its own. -/
  | drops {session : Addr} {activity : Activity} {events : List ServerEvent}
      (hdropped : dropped σ input = some (session, none))
      (hanchor : activity.anchor = σ.activity.anchor) (hswept : activity.swept = σ.activity.swept)
      (hevents : ∀ event ∈ events, IsBroadcast event) :
      Change (σ.server.table.removeSession session) activity events
  /-- A media is removed on its own. -/
  | dropsMedia {e : SessionEntry} {media : Addr} {activity : Activity}
      {events : List ServerEvent} (hdropped : dropped σ input = some (e.addr, some media))
      (he : e ∈ σ.server.table.sessions)
      (hanchor : activity.anchor = σ.activity.anchor) (hswept : activity.swept = σ.activity.swept)
      (hevents : ∀ event ∈ events, IsBroadcast event) :
      Change (σ.server.table.setSession
          { e with medias := e.medias.filter fun m => m.1 ≠ media }) activity events
  /-- A request has expired and is answered; its timeout callback runs. -/
  | expires {request : RtspServerPendingRequest} {activity : Activity} {attempt : Attempt}
      (hidle : σ.activity.anchor = none ∧ σ.activity.swept = none)
      (hpending : request ∈ σ.server.pendingRequests)
      (hattempt : Attempts P env σ input request attempt)
      (hactivity : activity.anchor = none ∧ activity.swept = some request.addr) :
      Change σ.server.table activity (outcome P env σ.server attempt)
  /-- An expired request leaves the list. -/
  | sweeps {a : Addr} {activity : Activity} (hbefore : σ.activity.swept = some a)
      (hleaving : leaving P env σ input = some { request := a })
      (hactivity : activity.anchor = none ∧ activity.swept = none) :
      Change (σ.server.table.removeRequest a) activity []
  /-- An expired request leaves the list and another one has expired. -/
  | sweepsOn {a : Addr} {request : RtspServerPendingRequest} {activity : Activity}
      {attempt : Attempt} (hbefore : σ.activity.swept = some a)
      (hleaving : leaving P env σ input = some { request := a })
      (hpending : request ∈ σ.server.pendingRequests) (hother : request.addr ≠ a)
      (hattempt : Attempts P env σ input request attempt)
      (hactivity : activity.anchor = none ∧ activity.swept = some request.addr) :
      Change (σ.server.table.removeRequest a) activity (outcome P env σ.server attempt)
  | disconnects (conn : Conn) (hinput : input = .disconnected conn) :
      Change (σ.server.table.disconnect conn) σ.activity []

/-- A step and the change it makes. -/
def Changes (σ' : ServerState) : Prop :=
  ∃ events, σ'.events = σ.events ++ events ∧
    Change P env σ input σ'.server.table σ'.activity events

end Changes

end Librtsp
