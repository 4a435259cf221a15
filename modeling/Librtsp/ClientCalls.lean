import Librtsp.ClientAuth

/-!
# Requests of the client

The functions an application calls to send a request, and the requests the client sends by
itself: keep-alives, and the teardown of a session that does not answer them.  There is one
slot for the pending request.  A request of the application may take it from a keep-alive.

The functions for OPTIONS, DESCRIBE, ANNOUNCE, SETUP, PLAY, PAUSE, RECORD and TEARDOWN
share their beginning and their end; they differ in the request header they fill.
-/

namespace Librtsp

open CString

/-- Why a step has no result: the event loop or the application cannot take it now, the
code uses an object after freeing it or a null pointer or reads outside of a buffer, or it
does not come to an end. -/
inductive ClientHalt where
  | disabled
  | useAfterFree
  | nullPointer
  | hangs
  | fault (f : Fault)
  deriving DecidableEq, Repr

/-! ## Callbacks and events -/

/-- What a response callback is told beside what all of them are. -/
inductive ResponseDetail where
  | none
  | methods (methods : UInt32)
  | description (contentBase : Option Bytes) (sdp : Bytes)
  | transport (srcStreamPort srcControlPort : UInt16) (ssrcValid : Bool) (ssrc : UInt32)
  | playing (range : Option RtspRange) (scale : UInt32) (rtpInfo : RtspRtpInfoHeader)
  | range (range : Option RtspRange)
  deriving DecidableEq, Repr

structure ClientResponse where
  method : RtspMethodType
  sessionId : Option Bytes := none
  status : RtspClientReqStatus
  error : Int
  detail : ResponseDetail := .none
  ext : List RtspHeaderExt := []
  userdata : Nat
  deriving DecidableEq, Repr

inductive ClientCallback where
  | readyToSend
  | interleavedData (channel : UInt8) (data : Bytes)
  | connectionState (state : RtspClientConnState)
  | sessionRemoved (sessionId : Bytes) (status : Int)
  | response (response : ClientResponse)
  | announce (contentBase : Option Bytes) (ext : List RtspHeaderExt) (sdp : Bytes)
  | teardown (path sessionId : Option Bytes) (ext : List RtspHeaderExt)
  deriving DecidableEq, Repr

/-- What the client does, in order.  A call of the application that returns zero shows as
an accepted request. -/
inductive ClientEvent where
  | sent (header : RtspRequestHeader) (message : Bytes)
  | answered (header : RtspResponseHeader) (message : Bytes)
  | accepted (method : RtspMethodType) (userdata : Nat)
  | callback (callback : ClientCallback)
  | delivered (message : Delivery)
  | connect (host : Option Bytes) (port : UInt16)
  deriving DecidableEq, Repr

/-- The end of a request that `request_complete` still has to run. -/
structure Completion where
  sessionId : Option Bytes
  status : RtspClientReqStatus
  statusCode : Int
  sessionRemoved : Bool
  internalTeardown : Bool := false
  deriving DecidableEq, Repr

/-- What is left to do of a function that has called the application back, and the parts
of the event loop that call several of them one after the other. -/
inductive ClientTask where
  | inCallback
  | receive
  | consume (totalLen : Nat)
  | answer (header : RtspRequestHeader) (status : Int)
  | tornDown (header : RtspRequestHeader) (session : Addr) (media : Option Addr)
  | addMedia (session : Option Addr) (uri : Option Bytes) (pair : Option RtspChannelPair)
  | teardownReported (session : Option Addr)
  | applyTeardown (session : Addr) (media : Option Addr) (completion : Completion)
  | conclude (completion : Completion)
  | countFailure (status : RtspClientReqStatus)
  | setState (state : RtspClientConnState)
  | reconnect
  | unlinkSession (session : Addr)
  | sendKeepAlive (session : Addr)
  | keepAliveAll
  | keepAliveAfter (session : Addr)
  | resolveHost (url : Addr)
  | clearRemote
  | stopTransport (alreadyDisconnected : Bool)
  | finishDisconnect
  | removeAll
  | removeFrom (session : Option Addr)
  deriving DecidableEq, Repr

/-- The client after a piece of code, what it did, and what it leaves to do. -/
structure Progress where
  client : RtspClient
  events : List ClientEvent := []
  tasks : List ClientTask := []

def Progress.andThen (p : Progress) (tasks : List ClientTask) : Progress :=
  { p with tasks := p.tasks ++ tasks }

/-- The application is called back. -/
def callBack (client : RtspClient) (callback : ClientCallback) (tasks : List ClientTask) :
    Progress where
  client := client
  events := [.callback callback]
  tasks := .inCallback :: tasks

/-! ## URIs -/

def rtspSchemeTcp : Bytes := ascii "rtsp://"

/-- `make_uri`; a null pointer is printed by the C library as a word. -/
def makeUri (client : RtspClient) (path : Option Bytes) : Option Bytes :=
  match path with
  | none => client.urlStr
  | some path => some (client.urlStr.getD (ascii "(null)") ++ ascii "/" ++ path)

def getLastChar (str : Bytes) (maxLen : Nat) : Option UInt8 :=
  if maxLen ≤ str.length then none else str.getLast?

/-- `base/control`, with one slash between them. -/
def formatRequestUri (contentBase : Option Bytes) (controlUrl : Bytes) : Except Errno Bytes :=
  if rtspSchemeTcp.isPrefixOf controlUrl then .ok controlUrl
  else
    match contentBase with
    | none => .error .einval
    | some contentBase =>
        .ok (contentBase ++
          (if getLastChar contentBase pathMax = some 0x2f then [] else ascii "/") ++ controlUrl)

/-! ## Sending -/

section Calls

variable (P : Platform) (env : ClientEnv)

/-- The header and the content. -/
def writeRequest (header : RtspRequestHeader) (content : Option Bytes) : Except Errno Bytes := do
  let request ← rtspRequestHeaderWrite P header { maxLen := clientBufferSize }
  match content with
  | none => .ok request.str
  | some content => do
      let request ← rtspSprintf request content
      .ok request.str

/-- `send_request`: only what is sent shows in the events. -/
def sendRequest (client : RtspClient) (content : Option Bytes) (timeoutMs : UInt32) :
    Except Errno (RtspClient × List ClientEvent) :=
  match writeRequest P client.request.header content with
  | .error e => .error e
  | .ok message =>
      if client.sock then
        match env.send with
        | .error e => .error e
        | .ok () =>
            .ok
              ({ client with
                  request :=
                    { client.request with
                      timer := if 0 < timeoutMs then some timeoutMs else client.request.timer } },
                [.sent client.request.header message])
      else .error .eproto

/-- A pending keep-alive of any session loses its response timer. -/
def clearPendingKeepAliveTimer (client : RtspClient) : RtspClient × Bool :=
  if client.sessions.any RtspClientSession.keepAliveInProgress then
    ({ client with request := { client.request with timer := none } }, true)
  else (client, false)

def Errno.epipe : Errno := .other 31

def Errno.e2big : Errno := .other 6

def methodAllowed (client : RtspClient) (method : RtspMethodType) : Bool :=
  client.methodsAllowed = 0 || methodSet client.methodsAllowed method

/-- The callback and the server's methods. -/
def checkMethod (client : RtspClient) (method : RtspMethodType) : Except Errno Unit :=
  if ¬ client.cbs.resp method then .error .enosys
  else if method ≠ .options ∧ ¬ methodAllowed client method then .error .enosys
  else .ok ()

/-- The slot of the pending request, free or taken by a keep-alive. -/
def claimSlot (client : RtspClient) : Except Errno RtspClient :=
  if client.connState ≠ .connected then .error .epipe
  else
    let (client, keepAlive) := clearPendingKeepAliveTimer client
    if client.request.isPending ∧ ¬ keepAlive then .error .ebusy else .ok client

/-- The request header is cleared for a new request. -/
def newRequest (client : RtspClient) (method : RtspMethodType) (userdata : Nat) : RtspClient :=
  { client with request := { client.request with header := { method }, userdata } }

/-- URI and number of the new request. -/
def numberRequest (client : RtspClient) (uri : Option Bytes) : RtspClient :=
  client.setHeader { client.request.header with uri, cseq := client.cseq.toInt32 }

/-- What a call returns, with the client it leaves. -/
structure Called where
  ret : Except Errno Unit
  client : RtspClient
  events : List ClientEvent := []

def Called.failed (client : RtspClient) (e : Errno) : Called where
  ret := .error e
  client := client

/-- Send the request and take the slot. -/
def submitRequest (client : RtspClient) (content : Option Bytes) (timeoutMs : UInt32) : Called :=
  match sendRequest P env client content timeoutMs with
  | .error e => .failed client e
  | .ok (client, events) =>
      { ret := .ok ()
        client :=
          { client with
            request := { client.request with isPending := true }
            cseq := client.cseq + 1 }
        events }

/-- The request has been accepted when the call succeeds. -/
def Called.accept (called : Called) (method : RtspMethodType) (userdata : Nat) : Called :=
  match called.ret with
  | .error _ => called
  | .ok () => { called with events := called.events ++ [.accepted method userdata] }

/-- The arguments every request has. -/
structure RequestArgs where
  ext : List RtspHeaderExt := []
  userdata : Nat := 0
  timeoutMs : UInt32 := 4000
  deriving DecidableEq, Repr

/-- `rtsp_request_header_copy_ext` -/
def rtspRequestHeaderCopyExt (ext : List RtspHeaderExt) (header : RtspRequestHeader) :
    RtspRequestHeader :=
  if ext = [] then header else { header with ext }

/-- Authorize the request, unless that fails with an error that counts; then fill the other
fields and send it. -/
def completeRequest (client : RtspClient) (tolerated : Errno → Bool) (args : RequestArgs)
    (fields : RtspRequestHeader → RtspRequestHeader) (content : Option Bytes) :
    Except ClientHalt Called :=
  let submit (client : RtspClient) :=
    submitRequest P env
      (client.setHeader
        (rtspRequestHeaderCopyExt args.ext
          (fields
            { client.request.header with userAgent := some client.softwareName })))
      content args.timeoutMs
  match generateAuthorizationHeader env client with
  | .error (.fault f) => .error (.fault f)
  | .error (.errno e) => .ok (if tolerated e then submit client else .failed client e)
  | .ok client => .ok (submit client)

/-! ## Requests about no session -/

def rtspClientOptions (client : RtspClient) (args : RequestArgs) : Called :=
  match checkMethod client .options, claimSlot client with
  | .error e, _ => .failed client e
  | _, .error e => .failed client e
  | .ok (), .ok client =>
      let client := numberRequest (newRequest client .options args.userdata) (some (ascii "*"))
      (submitRequest P env
        (client.setHeader
          (rtspRequestHeaderCopyExt args.ext
            { client.request.header with userAgent := some client.softwareName }))
        none args.timeoutMs).accept .options args.userdata

/-- A digest without a nonce yet is left out. -/
def rtspClientDescribe (client : RtspClient) (path : Option Bytes) (args : RequestArgs) :
    Except ClientHalt Called :=
  match checkMethod client .describe, claimSlot client with
  | .error e, _ => .ok (.failed client e)
  | _, .error e => .ok (.failed client e)
  | .ok (), .ok client =>
      (completeRequest P env
        (numberRequest (newRequest client .describe args.userdata) (makeUri client path))
        (· = .eagain) args
        (fun header => { header with accept := some (ascii "application/sdp") })
        none).map fun called => called.accept .describe args.userdata

def rtspSessionDescriptionMaxLen : Nat := 65535

def rtspClientAnnounce (client : RtspClient) (path sessionDescription : Option Bytes)
    (args : RequestArgs) : Except ClientHalt Called :=
  match nonEmpty sessionDescription with
  | none => .ok (.failed client .einval)
  | some description =>
      match checkMethod client .announce, claimSlot client with
      | .error e, _ => .ok (.failed client e)
      | .ok (), slot =>
          if rtspSessionDescriptionMaxLen ≤ description.length then .ok (.failed client .einval)
          else
            match slot with
            | .error e => .ok (.failed client e)
            | .ok client =>
                (completeRequest P env
                  (numberRequest (newRequest client .announce args.userdata)
                    (makeUri client path))
                  (· = .eagain) args
                  (fun header =>
                    { header with
                      contentType := some (ascii "application/sdp")
                      contentLength := Int32.ofNat description.length })
                  (some description)).map fun called => called.accept .announce args.userdata

/-! ## SETUP -/

structure SetupArgs where
  contentBase : Option Bytes
  resourceUrl : Option Bytes
  sessionId : Option Bytes := none
  delivery : RtspDelivery := .unicast
  lowerTransport : RtspLowerTransport := .udp
  clientStreamPort : UInt16 := 0
  clientControlPort : UInt16 := 0
  method : RtspTransportMethod := .play
  deriving DecidableEq, Repr

/-- The ports, which are channels over TCP: there a pair of zeros asks for a free one. -/
def setupPortsValid (args : SetupArgs) : Bool :=
  if args.lowerTransport = .tcp then
    ¬ (args.clientStreamPort ≠ 0 ∧ args.clientControlPort ≠ 0 ∧
        args.clientStreamPort = args.clientControlPort) ∧
      args.clientStreamPort ≤ 255 ∧ args.clientControlPort ≤ 255
  else args.clientStreamPort ≠ 0 ∧ args.clientControlPort ≠ 0

def setupPair (args : SetupArgs) : RtspChannelPair where
  rtp := args.clientStreamPort.toUInt8
  rtcp := args.clientControlPort.toUInt8

/-- The channels from zero on, two by two. -/
def evenChannels : List UInt8 :=
  (List.range 128).map fun k => UInt8.ofNat (2 * k)

def countChannelUnused (channelUsed : UInt8 → Bool) : Nat :=
  ((List.range 256).filter fun k => ¬ channelUsed (UInt8.ofNat k)).length

/-- The search counts in eight bits: it comes back to channel zero until it finds a pair. -/
def allocateInterleavedChannels (channelUsed : UInt8 → Bool) (pair : RtspChannelPair) :
    Except ClientHalt (Except Errno (RtspChannelPair × (UInt8 → Bool))) :=
  if pair.isValid then
    if channelUsed pair.rtp ∨ channelUsed pair.rtcp then .ok (.error .eexist)
    else .ok (.ok (pair, setChannelPairUsed channelUsed pair true))
  else
    match evenChannels.find? fun i => ¬ channelUsed i ∧ ¬ channelUsed (i + 1) with
    | none => .error .hangs
    | some i =>
        let pair : RtspChannelPair := { rtp := i, rtcp := i + 1 }
        .ok (.ok (pair, setChannelPairUsed channelUsed pair true))

/-- The session a SETUP names must be known and have this content base. -/
def checkSetupSession (client : RtspClient) (sessionId : Option Bytes) (contentBase : Bytes) :
    Except ClientHalt (Except Errno Unit) :=
  match nonEmpty sessionId with
  | none => .ok (.ok ())
  | some sessionId =>
      match rtspClientSessionFind client (some sessionId) with
      | none => .ok (.error .enoent)
      | some session =>
          match session.contentBase with
          | none => .error .nullPointer
          | some base => if base = contentBase then .ok (.ok ()) else .ok (.error .einval)

/-- The SETUP request before its authorization. -/
def setupRequest (client : RtspClient) (uri contentBase : Bytes) (userdata : Nat) : RtspClient :=
  let client := newRequest client .setup userdata
  numberRequest
    { client with
      request := { client.request with uri := some uri, contentBase := some contentBase } }
    (some uri)

/-- The transport a SETUP asks for, without the channels. -/
def setupRequestTransport (args : SetupArgs) : RtspTransportHeader where
  transportProtocol := some (ascii "RTP")
  transportProfile := some (ascii "AVP")
  lowerTransport := args.lowerTransport
  delivery := args.delivery
  method := args.method

/-- The part from the transport on. -/
def submitSetup (client : RtspClient) (setup : SetupArgs) (args : RequestArgs) :
    Except ClientHalt Called :=
  let transport := setupRequestTransport setup
  let withTransport (client : RtspClient) (transport : RtspTransportHeader) :=
    client.setHeader
      { client.request.header with
        userAgent := some client.softwareName
        transport := [transport] }
  let submit (client : RtspClient) : Called :=
    submitRequest P env
      (client.setHeader
        (rtspRequestHeaderCopyExt args.ext
          { client.request.header with sessionId := setup.sessionId }))
      none args.timeoutMs
  if setup.lowerTransport = .tcp then
    if countChannelUnused client.channelUsed < 2 then
      .ok (.failed (withTransport client transport) .e2big)
    else
      match allocateInterleavedChannels client.channelUsed (setupPair setup) with
      | .error halt => .error halt
      | .ok (.error e) => .ok (.failed (withTransport client transport) e)
      | .ok (.ok (pair, channelUsed)) =>
          .ok (submit (withTransport { client with channelUsed }
            { transport with interleaved := [pair] }))
  else
    .ok (submit (withTransport client
      { transport with
        dstStreamPort := setup.clientStreamPort
        dstControlPort := setup.clientControlPort }))

def rtspClientSetup (client : RtspClient) (setup : SetupArgs) (args : RequestArgs) :
    Except ClientHalt Called :=
  match nonEmpty setup.contentBase, nonEmpty setup.resourceUrl with
  | some contentBase, some resourceUrl =>
      if ¬ setupPortsValid setup then .ok (.failed client .einval)
      else
        match checkMethod client .setup, claimSlot client with
        | .error e, _ => .ok (.failed client e)
        | _, .error e => .ok (.failed client e)
        | .ok (), .ok client =>
            match rtspUrlStripCredentials env.inetPton (some contentBase) with
            | .error e => .ok (.failed client e)
            | .ok contentBase =>
                match checkSetupSession client setup.sessionId contentBase with
                | .error halt => .error halt
                | .ok (.error e) => .ok (.failed client e)
                | .ok (.ok ()) =>
                    match formatRequestUri (some contentBase) resourceUrl with
                    | .error e => .ok (.failed (newRequest client .setup args.userdata) e)
                    | .ok uri =>
                        let client := setupRequest client uri contentBase args.userdata
                        match generateAuthorizationHeader env client with
                        | .error (.fault f) => .error (.fault f)
                        | .error (.errno e) => .ok (.failed client e)
                        | .ok client =>
                            (submitSetup P env client setup args).map fun called =>
                              called.accept .setup args.userdata
  | _, _ => .ok (.failed client .einval)

/-! ## Requests about a session -/

/-- PLAY, PAUSE and RECORD. -/
def sessionCall (method : RtspMethodType) (client : RtspClient) (sessionId : Option Bytes)
    (range : Option RtspRange) (scale : UInt32) (args : RequestArgs) :
    Except ClientHalt Called :=
  match nonEmpty sessionId, range with
  | some sessionId, some range =>
      match checkMethod client method, claimSlot client with
      | .error e, _ => .ok (.failed client e)
      | _, .error e => .ok (.failed client e)
      | .ok (), .ok client =>
          match rtspClientSessionFind client (some sessionId) with
          | none => .ok (.failed client .enoent)
          | some session =>
              (completeRequest P env
                (numberRequest (newRequest client method args.userdata) session.contentBase)
                (fun _ => false) args
                (fun header => { header with sessionId := some sessionId, range, scale })
                none).map fun called => called.accept method args.userdata
  | _, _ => .ok (.failed client .einval)

def rtspClientPlay := sessionCall P env .play

def rtspClientPause (client : RtspClient) (sessionId : Option Bytes) (range : Option RtspRange)
    (args : RequestArgs) : Except ClientHalt Called :=
  sessionCall P env .pause client sessionId range 0 args

def rtspClientRecord (client : RtspClient) (sessionId : Option Bytes)
    (range : Option RtspRange) (args : RequestArgs) : Except ClientHalt Called :=
  sessionCall P env .record client sessionId range 0 args

/-- Whether the teardown is the client's own. -/
def markTeardown (called : Called) (session : Addr) (internal : Bool) : Called :=
  match called.ret, called.client.findSession session with
  | .ok (), some session =>
      { called with
        client :=
          { called.client.setSession { session with internalTeardown := internal } with
            request := { called.client.request with isInternal := internal } } }
  | _, _ => called

def teardownUri (session : RtspClientSession) (resourceUrl : Option Bytes) :
    Except Errno (Option Bytes) :=
  match nonEmpty resourceUrl with
  | none => .ok session.contentBase
  | some resourceUrl => (formatRequestUri session.contentBase resourceUrl).map some

def sendTeardown (client : RtspClient) (resourceUrl sessionId : Option Bytes)
    (args : RequestArgs) (internal : Bool) : Except ClientHalt Called :=
  match nonEmpty sessionId with
  | none => .ok (.failed client .einval)
  | some sessionId =>
      match checkMethod client .teardown, claimSlot client with
      | .error e, _ => .ok (.failed client e)
      | _, .error e => .ok (.failed client e)
      | .ok (), .ok client =>
          match rtspClientSessionFind client (some sessionId) with
          | none => .ok (.failed client .enoent)
          | some session =>
              let client := newRequest client .teardown args.userdata
              match teardownUri session resourceUrl with
              | .error e => .ok (.failed client e)
              | .ok uri =>
                  (completeRequest P env (numberRequest client uri) (fun _ => false) args
                    (fun header => { header with sessionId := some sessionId }) none).map
                      fun called => markTeardown called session.addr internal

def rtspClientTeardown (client : RtspClient) (resourceUrl sessionId : Option Bytes)
    (args : RequestArgs) : Except ClientHalt Called :=
  (sendTeardown P env client resourceUrl sessionId args false).map fun called =>
    called.accept .teardown args.userdata

/-! ## Removing a session -/

/-- The medias go first; the session leaves the list after the callback. -/
def rtspClientRemoveSessionInternal (client : RtspClient) (sessionId : Option Bytes)
    (statusCode : Int) : Progress :=
  match rtspClientSessionFind client sessionId with
  | none => { client }
  | some session =>
      callBack (dropMedias client session)
        (.sessionRemoved session.id (rtspStatusToErrno statusCode))
        [.unlinkSession session.addr]

/-! ## Keep-alives -/

/-- The keep-alive has the slot. -/
def keepAliveSent (client : RtspClient) (session : RtspClientSession)
    (events : List ClientEvent) : Progress where
  client :=
    { client.setSession { session with keepAliveInProgress := true } with
      request := { client.request with isPending := true }
      cseq := client.cseq + 1 }
  events := events

/-- `send_keep_alive`: a request that the transport cannot take yet counts as sent. -/
def sendKeepAlive (client : RtspClient) (session : RtspClientSession) :
    Except ClientHalt Progress :=
  if ¬ methodAllowed client .getParameter then .ok { client }
  else if client.connState ≠ .connected then
    let session := { session with failedKeepAlive := session.failedKeepAlive + 1 }
    if rtspClientMaxFailedKeepAlive ≤ session.failedKeepAlive then
      .ok
        (rtspClientRemoveSessionInternal (client.setSession session) (some session.id)
          Errno.epipe.ret)
    else
      .ok { client := client.setSession (resetKeepAliveTimer session (session.timeoutMs / 3)) }
  else if session.keepAliveInProgress then .ok { client }
  else if client.request.isPending then
    .ok { client := client.setSession (resetKeepAliveTimer session (session.timeoutMs / 2)) }
  else
    let client := newRequest client .getParameter client.request.userdata
    match generateAuthorizationHeader env (numberRequest client session.contentBase) with
    | .error (.fault f) => .error (.fault f)
    | .error (.errno _) => .ok { client := numberRequest client session.contentBase }
    | .ok client =>
        let client :=
          client.setHeader
            { client.request.header with
              userAgent := some client.softwareName
              sessionId := some session.id }
        match sendRequest P env client none rtspClientDefaultRespTimeoutMs with
        | .ok (client, events) => .ok (keepAliveSent client session events)
        | .error .eagain =>
            .ok
              (keepAliveSent
                { client with
                  request :=
                    { client.request with timer := some rtspClientDefaultRespTimeoutMs } }
                session [])
        | .error _ => .ok { client }

end Calls

end Librtsp
