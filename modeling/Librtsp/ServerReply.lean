import Librtsp.HeaderWrite
import Librtsp.ServerStore

/-!
# Answering requests

`errorResponse` and the functions by which the application replies to a request.
A response is built in the response header of the pending request: an
error found on the way is answered with the same header, as far as it was filled.

PLAY, PAUSE, RECORD and TEARDOWN call back once for each media and are answered
when every media has been replied to.  The four reply functions share their
steps; `MediaReplyKind` holds what differs.
-/

namespace Librtsp

open CString

/-- What the platform gives during one step: the clock, the random numbers, and
the results of sending a response and an error response. -/
structure Env where
  now : UInt64 := 0
  ids : List UInt64 := []
  send : Except Errno Unit := .ok ()
  sendError : Except Errno Unit := .ok ()

/-- Why a step has no result: the application or the event loop cannot take it
now, or the code uses an object after freeing it or a null pointer. -/
inductive Halt where
  | disabled
  | useAfterFree
  | nullPointer
  deriving DecidableEq, Repr

/-- What the server does on its connections, in order. -/
inductive ServerEvent where
  | received (conn : Conn) (request : Addr) (header : RtspRequestHeader) (body : Bytes)
  | response (request : Addr) (conn : Conn) (status : Int) (message : Bytes)
  | broadcast (message : Bytes)
  deriving DecidableEq, Repr

def Errno.econnreset : Errno := .other 103

def internalServerError : Int := 500

/-- `RTSP_STATUS_CLASS(status) > RTSP_STATUS_CLASS_SUCCESS` -/
def statusIsFailure (status : Int) : Bool :=
  2 < status.tdiv 100

section Answers

variable (P : Platform) (env : Env) (server : RtspServer)

/-- The fields every answer fills. -/
def fillAnswer (status : Int) (request : RtspServerPendingRequest) : RtspServerPendingRequest :=
  { request with
    responseHeader :=
      { request.responseHeader with
        statusCode := (rtspStatusGet status).1
        statusString := some (rtspStatusGet status).2
        cseq := request.requestHeader.cseq
        server := some server.softwareName
        date := env.now / 1000000 } }

/-- `rtsp_response_header_copy_ext` -/
def rtspResponseHeaderCopyExt (ext : List RtspHeaderExt) (header : RtspResponseHeader) :
    RtspResponseHeader :=
  if ext = [] then header else { header with ext }

/-- Write the response header and the body into the message buffer. -/
def writeResponse (header : RtspResponseHeader) (body : Option Bytes) :
    Except Errno Bytes := do
  let response ← rtspResponseHeaderWrite P header { maxLen := server.maxMsgSize }
  match body with
  | none => .ok response.str
  | some body => do
      let response ← rtspSprintf response body
      .ok response.str

/-- `pomp_conn_send_raw_buf`: only what is sent shows in the events. -/
def sendResponse (request : RtspServerPendingRequest) (conn : Conn) (message : Bytes) :
    Except Errno Unit → List ServerEvent
  | .ok () => [.response request.addr conn request.responseHeader.statusCode message]
  | .error _ => []

/-- The request with its response header filled, and the response when it could
be written and sent. -/
def errorResponse (request : RtspServerPendingRequest) (status : Int) :
    RtspServerPendingRequest × List ServerEvent :=
  match request.conn with
  | none => (request, [])
  | some conn =>
      let request := fillAnswer env server status request
      match writeResponse P server request.responseHeader none with
      | .error _ => (request, [])
      | .ok message => (request, sendResponse request conn message env.sendError)

/-- Either no error was found, or it is answered. -/
def answerError (request : RtspServerPendingRequest) (errorStatus : Int) :
    RtspServerPendingRequest × List ServerEvent :=
  if errorStatus = 0 then (request, []) else errorResponse P env server request errorStatus

/-- What an attempt to answer comes to: the value to return, the error status
to answer instead (zero for none), and what was sent. -/
structure Attempt where
  ret : Int := 0
  errorStatus : Int := 0
  request : RtspServerPendingRequest
  events : List ServerEvent := []

/-- Write and send the response header of the request. -/
def attemptResponse (request : RtspServerPendingRequest) (conn : Conn) (body : Option Bytes) :
    Attempt :=
  match writeResponse P server request.responseHeader body with
  | .error e => { ret := e.ret, errorStatus := internalServerError, request }
  | .ok message =>
      match env.send with
      | .error e => { ret := e.ret, request }
      | .ok () => { request, events := sendResponse request conn message (.ok ()) }

/-- A reply without a media ends the request, unless its callback is running. -/
def concludeRequest (request : RtspServerPendingRequest) : RtspServer :=
  if request.inCallback then server.setRequest { request with replied := true }
  else rtspServerPendingRequestRemove server request.addr

/-! ## DESCRIBE and ANNOUNCE -/

def describeAttempt (request : RtspServerPendingRequest) (status : Int)
    (ext : List RtspHeaderExt) (sessionDescription : Option Bytes) : Attempt :=
  match request.conn with
  | none => { ret := Errno.econnreset.ret, request }
  | some conn =>
      if status < 0 ∨ statusIsFailure status then { errorStatus := status, request }
      else
        match nonEmpty sessionDescription with
        | none => { ret := Errno.einval.ret, errorStatus := internalServerError, request }
        | some description =>
            if 65535 ≤ description.length then
              { ret := Errno.einval.ret, errorStatus := internalServerError, request }
            else
              let request := fillAnswer env server status request
              let request :=
                { request with
                  responseHeader := rtspResponseHeaderCopyExt ext
                    { request.responseHeader with
                      contentLength := Int32.ofNat description.length
                      contentType := some (ascii "application/sdp")
                      contentBase := request.requestHeader.uri } }
              attemptResponse P env server request conn (some description)

def announceAttempt (request : RtspServerPendingRequest) (status : Int)
    (ext : List RtspHeaderExt) : Attempt :=
  match request.conn with
  | none => { ret := Errno.econnreset.ret, request }
  | some conn =>
      if status < 0 ∨ statusIsFailure status then { errorStatus := status, request }
      else
        let request := fillAnswer env server status request
        let request :=
          { request with
            responseHeader := rtspResponseHeaderCopyExt ext request.responseHeader }
        attemptResponse P env server request conn none

/-- The value returned, the server and what was sent. -/
abbrev Reply := Int × RtspServer × List ServerEvent

def finishReply (attempt : Attempt) : Reply :=
  let error := answerError P env server attempt.request attempt.errorStatus
  (attempt.ret, concludeRequest server error.1, attempt.events ++ error.2)

def rtspServerReplyToDescribe (request : Addr) (status : Int) (ext : List RtspHeaderExt)
    (sessionDescription : Option Bytes) : Reply :=
  match server.findRequest request with
  | none => (Errno.enoent.ret, server, [])
  | some request =>
      finishReply P env server
        (describeAttempt P env server request status ext sessionDescription)

def rtspServerReplyToAnnounce (request : Addr) (status : Int) (ext : List RtspHeaderExt) :
    Reply :=
  match server.findRequest request with
  | none => (Errno.enoent.ret, server, [])
  | some request =>
      finishReply P env server (announceAttempt P env server request status ext)

/-! ## SETUP -/

structure SetupReply where
  status : Int
  srcStreamPort : UInt16 := 0
  srcControlPort : UInt16 := 0
  ssrcValid : Bool := false
  ssrc : UInt32 := 0
  ext : List RtspHeaderExt := []
  deriving DecidableEq, Repr

/-- The transport of the answer repeats the one that was asked for. -/
def setupTransport (asked : RtspTransportHeader) (reply : SetupReply) : RtspTransportHeader where
  transportProtocol := some (ascii "RTP")
  transportProfile := some (ascii "AVP")
  lowerTransport := asked.lowerTransport
  delivery := asked.delivery
  method := asked.method
  interleaved := if asked.lowerTransport = .tcp then asked.interleaved else []
  dstStreamPort := asked.dstStreamPort
  dstControlPort := asked.dstControlPort
  srcStreamPort := reply.srcStreamPort
  srcControlPort := reply.srcControlPort
  ssrcValid := reply.ssrcValid
  ssrc := reply.ssrc

/-- The attempt, and whether the setup failed. -/
def setupAttempt (session : RtspServerSession) (request : RtspServerPendingRequest)
    (reply : SetupReply) : Attempt × Bool :=
  match request.conn with
  | none => ({ ret := Errno.econnreset.ret, request }, true)
  | some conn =>
      if reply.status < 0 ∨ statusIsFailure reply.status then
        ({ errorStatus := reply.status, request }, true)
      else if reply.srcStreamPort = 0 ∨ reply.srcControlPort = 0 then
        ({ ret := Errno.einval.ret, errorStatus := internalServerError, request }, true)
      else
        let request := fillAnswer env server reply.status request
        let request :=
          { request with
            responseHeader := rtspResponseHeaderCopyExt reply.ext
              { request.responseHeader with
                sessionId := some session.sessionId
                sessionTimeout := session.timeoutMs / 1000
                transport :=
                  some (setupTransport (request.requestHeader.transport.headD {}) reply) } }
        let attempt := attemptResponse P env server request conn none
        (attempt, attempt.ret < 0)

/-- A reply that concerns a media also ends the operation of the media's
session. -/
def concludeOperation (session : RtspServerSession) (request : RtspServerPendingRequest) :
    RtspServer :=
  if request.inCallback then
    (server.setSession session).setRequest { request with replied := true }
  else
    rtspServerPendingRequestRemove
      (server.setSession { session with opInProgress := .unknown }) request.addr

/-- The session of a first setup that failed is removed later, from the idle
callback. -/
def rtspServerReplyToSetup (request media : Addr) (reply : SetupReply) : Except Halt Reply :=
  match server.mediaSession media with
  | none => .error .useAfterFree
  | some session =>
      match server.findRequest request with
      | none => .ok (Errno.enoent.ret, server, [])
      | some request =>
          let (attempt, failed) := setupAttempt P env server session request reply
          let error := answerError P env server attempt.request attempt.errorStatus
          let server :=
            if failed ∧ session.medias.length = 1 then
              { server with removeIdle := server.removeIdle ++ [session.addr] }
            else server
          .ok (attempt.ret, concludeOperation server session error.1, attempt.events ++ error.2)

/-! ## A request that is not found -/

/-- `request->media_count` -/
def mediaCount (request : Option Addr) : Except Halt Nat :=
  match request with
  | none => .error .nullPointer
  | some request =>
      match server.findRequest request with
      | none => .error .useAfterFree
      | some request => .ok request.medias.length

/-- The test for concluding the request at the end of a reply function: `request != NULL`,
alone or together with `replied == request->media_count`, which stands behind it or in front
of it. -/
inductive ExitTest where
  | pointer
  | pointerAndCount
  | countAndPointer
  deriving DecidableEq, Repr

def ExitTest.holds (request : Option Addr) (replied : Nat) : ExitTest → Except Halt Bool
  | .pointer => .ok request.isSome
  | .pointerAndCount =>
      if request.isSome then (mediaCount server request).map (replied == ·) else .ok false
  | .countAndPointer =>
      (mediaCount server request).map fun count => replied == count && request.isSome

/-- What is left of a reply function once the lookup has failed. -/
def lookupFailed (test : ExitTest) : Except Halt Reply :=
  match test.holds server none 0 with
  | .error halt => .error halt
  | .ok true => .error .nullPointer
  | .ok false => .ok (Errno.enoent.ret, server, [])

/-- Only the test that reads the count first has no result. -/
theorem lookupFailed_eq (test : ExitTest) :
    lookupFailed server test =
      if test = .countAndPointer then .error .nullPointer
      else .ok (Errno.enoent.ret, server, []) := by
  cases test with
  | pointer => rfl
  | pointerAndCount => rfl
  | countAndPointer => rfl

/-! ## Replies for one media among several -/

/-- The medias torn down leave the session, and an empty session the server. -/
def removeTornDown (session : Addr) (server : RtspServer) : RtspServer :=
  match server.findSession session with
  | none => server
  | some s =>
      if s.medias.all RtspServerSessionMedia.isTearingDown then
        rtspServerSessionRemove server session
      else server.setSession { s with medias := s.medias.filter (!·.isTearingDown) }

structure MediaReply where
  status : Int
  range : Option RtspRange := none
  scale : UInt32 := 0
  seq : Option UInt16 := none
  rtptime : Option UInt32 := none
  ext : List RtspHeaderExt := []
  deriving DecidableEq, Repr

/-- What one of the four reply functions does differently: whether the replies
carry a range and a scale that must agree, what becomes of the session when all
medias are replied to, what the answer adds to the header, whether the medias
torn down are removed after the request, and the test at its end. -/
structure MediaReplyKind where
  ranged : Bool := true
  scaled : Bool := false
  completed : RtspServerSession → RtspServerSession := id
  header : RtspServerSession → RtspRequestHeader → RtspResponseHeader → RtspResponseHeader
  tearsDown : Bool := false
  exitTest : ExitTest := .pointerAndCount

def rtspTimeCmp (time1 time2 : RtspTime) : Bool :=
  time1.format = time2.format &&
    match time1.format with
    | .unknown => true
    | .npt => time1.now = time2.now && time1.infinity = time2.infinity &&
        time1.sec = time2.sec && time1.usec = time2.usec
    | _ => time1.infinity = time2.infinity && time1.sec = time2.sec && time1.usec = time2.usec

def rtspRangeCmp (range1 range2 : RtspRange) : Bool :=
  rtspTimeCmp range1.start range2.start && rtspTimeCmp range1.stop range2.stop &&
    range1.time = range2.time

/-- `scale1 == scale2`: the zeros are equal, and nothing equals a NaN. -/
def floatEq (scale1 scale2 : UInt32) : Bool :=
  (scale1 &&& 0x7fffffff ≤ 0x7f800000) && (scale2 &&& 0x7fffffff ≤ 0x7f800000) &&
    (scale1 = scale2 || (scale1 ||| scale2) &&& 0x7fffffff = 0)

def rtspRtpInfoMaxCount : Nat := 10

inductive Verdict where
  /-- The value returned and the error status answered, zero for none. -/
  | refused (ret errorStatus : Int)
  | accepted
  deriving DecidableEq, Repr

variable (K : MediaReplyKind)

/-- The first reply settles range and scale for the session. -/
def settleRange (session : RtspServerSession) (request : RtspServerPendingRequest)
    (reply : MediaReply) : RtspServerSession × RtspServerPendingRequest :=
  if K.ranged ∧ request.requestFirstReply then
    ({ session with
        range := reply.range.getD {}
        scale := if K.scaled then reply.scale else session.scale },
      { request with requestFirstReply := false })
  else (session, request)

def judgeReply (session : RtspServerSession) (request : RtspServerPendingRequest)
    (media : Addr) (reply : MediaReply) : Verdict :=
  if request.conn.isNone then .refused Errno.econnreset.ret 0
  else if reply.status < 0 ∨ statusIsFailure reply.status then .refused 0 reply.status
  else if K.ranged ∧ reply.range.isNone then .refused Errno.einval.ret internalServerError
  else if ¬ request.medias.any (·.media = media) then
    .refused Errno.enoent.ret internalServerError
  else if K.ranged ∧ ¬ rtspRangeCmp (reply.range.getD {})
      (settleRange K session request reply).1.range then
    .refused Errno.eproto.ret internalServerError
  else if K.scaled ∧ ¬ floatEq reply.scale (settleRange K session request reply).1.scale then
    .refused Errno.eproto.ret internalServerError
  else .accepted

/-- Session and request after the range was settled; a reply refused before
that leaves them alone. -/
def settled (session : RtspServerSession) (request : RtspServerPendingRequest)
    (media : Addr) (reply : MediaReply) : RtspServerSession × RtspServerPendingRequest :=
  if request.conn.isNone ∨ reply.status < 0 ∨ statusIsFailure reply.status ∨
      (K.ranged ∧ reply.range.isNone) ∨ ¬ request.medias.any (·.media = media) then
    (session, request)
  else settleRange K session request reply

def markReplied (media : Addr) :
    List RtspServerPendingRequestMedia → List RtspServerPendingRequestMedia
  | [] => []
  | m :: rest => if m.media = media then { m with replied := true } :: rest
      else m :: markReplied media rest

/-- An accepted reply: the media's RTP-Info and its mark. -/
def acceptReply (session : RtspServerSession) (request : RtspServerPendingRequest)
    (media : Addr) (reply : MediaReply) : RtspServerPendingRequest :=
  let rtpInfo := request.responseHeader.rtpInfo
  let rtpInfo :=
    if K.scaled ∧ (reply.seq.isSome ∨ reply.rtptime.isSome) ∧
        rtpInfo.length < rtspRtpInfoMaxCount then
      rtpInfo ++
        [{ url := (session.medias.find? (·.addr = media)).map RtspServerSessionMedia.path
           seqValid := reply.seq.isSome
           seq := reply.seq.getD 0
           rtptimeValid := reply.rtptime.isSome
           rtptime := reply.rtptime.getD 0 }]
    else rtpInfo
  { request with
    responseHeader := { request.responseHeader with rtpInfo }
    medias := markReplied media request.medias }

/-- Every media has been replied to: the answer of the request. -/
def mediaAttempt (session : RtspServerSession) (request : RtspServerPendingRequest)
    (conn : Conn) (reply : MediaReply) : Attempt :=
  let request := fillAnswer env server reply.status request
  let request :=
    { request with
      responseHeader := rtspResponseHeaderCopyExt reply.ext
        (K.header session request.requestHeader request.responseHeader) }
  attemptResponse P env server request conn none

/-- The attempt a reply leads to, with the session as it is then; none while
other medias have not been replied to. -/
def replyAttempt (session : RtspServerSession) (request : RtspServerPendingRequest)
    (media : Addr) (reply : MediaReply) : Option (RtspServerSession × Attempt) :=
  let now := settled K session request media reply
  match judgeReply K session request media reply, request.conn with
  | .refused ret errorStatus, _ => some (now.1, { ret, errorStatus, request := now.2 })
  | .accepted, none => none
  | .accepted, some conn =>
      let request := acceptReply K now.1 now.2 media reply
      if request.medias.all RtspServerPendingRequestMedia.replied then
        some (K.completed now.1,
          mediaAttempt P env server K (K.completed now.1) request conn reply)
      else none

/-- The request is answered or its connection is closed. -/
def concludeMedia (session : RtspServerSession) (request : RtspServerPendingRequest) :
    RtspServer :=
  if ¬ request.inCallback ∧ K.tearsDown then
    removeTornDown session.addr (concludeOperation server session request)
  else concludeOperation server session request

def replyToMedia (request media : Addr) (reply : MediaReply) : Except Halt Reply :=
  match server.mediaSession media with
  | none => .error .useAfterFree
  | some session =>
      match server.findRequest request with
      | none => lookupFailed server K.exitTest
      | some request =>
          match replyAttempt P env server K session request media reply with
          | some (session, attempt) =>
              let error := answerError P env server attempt.request attempt.errorStatus
              .ok (attempt.ret, concludeMedia server K session error.1,
                attempt.events ++ error.2)
          | none =>
              let now := settled K session request media reply
              .ok (0, (server.setSession now.1).setRequest
                (acceptReply K now.1 now.2 media reply), [])

end Answers

def sessionAnswer (session : RtspServerSession) (header : RtspResponseHeader) :
    RtspResponseHeader :=
  { header with
    sessionId := some session.sessionId
    sessionTimeout := session.timeoutMs / 1000
    range := session.range }

def playKind : MediaReplyKind where
  scaled := true
  completed session := { session with playing := true }
  header session _ header := { sessionAnswer session header with scale := session.scale }

def pauseKind : MediaReplyKind where
  completed session := { session with playing := false, recording := false }
  header session _ := sessionAnswer session

/-- The conjuncts of the test at the end stand the other way round. -/
def recordKind : MediaReplyKind where
  completed session := { session with recording := true }
  header session _ := sessionAnswer session
  exitTest := .countAndPointer

def teardownKind : MediaReplyKind where
  ranged := false
  header session requestHeader header :=
    { header with
      sessionId := requestHeader.sessionId
      sessionTimeout := session.timeoutMs / 1000 }
  tearsDown := true

section Members

variable (P : Platform) (env : Env) (server : RtspServer)

def rtspServerReplyToPlay := replyToMedia P env server playKind

def rtspServerReplyToPause := replyToMedia P env server pauseKind

def rtspServerReplyToRecord := replyToMedia P env server recordKind

def rtspServerReplyToTeardown := replyToMedia P env server teardownKind

end Members

end Librtsp
