import Librtsp.ClientCalls

/-!
# The client

The client is a state machine that gives control to the application in its callbacks.
`ClientState` holds, besides the client, the tasks that are left to do, the next one first,
and the events so far.  Where a callback runs, the tasks begin with `inCallback`: the
application may call the interface, whose own tasks come before, and then returns.  Every
other task is run by the input `resume`.

The event loop delivers its events when nothing is left to do.  The transport delivers
data and its disconnection while it is connected; told to stop, it reports a disconnection
at once if it was connected.
-/

namespace Librtsp

open CString

section Completion

/-! ## The end of a request -/

/-- The response callback, which is never null when the request was sent. -/
def respond (client : RtspClient) (response : ClientResponse) (tasks : List ClientTask) :
    Except ClientHalt Progress :=
  if client.cbs.resp response.method then .ok (callBack client (.response response) tasks)
  else .error .nullPointer

/-- `update_interleaved_channels` -/
def updateInterleavedChannels (channelUsed : UInt8 → Bool)
    (requested returned : RtspChannelPair) : UInt8 → Bool :=
  setChannelPairUsed
    (if requested = returned then channelUsed else setChannelPairUsed channelUsed requested false)
    returned true

/-- The request that ends, as `request_complete` saves it. -/
structure EndedRequest where
  method : RtspMethodType
  uri : Option Bytes
  channels : RtspChannelPair
  userdata : Nat
  deriving DecidableEq, Repr

def transportChannels (transport : RtspTransportHeader) : RtspChannelPair :=
  if transport.lowerTransport = .tcp then transport.interleaved.headD { rtp := 0, rtcp := 0 }
  else { rtp := 0, rtcp := 0 }

/-- The channels a SETUP request has reserved. -/
def requestedChannels (header : RtspRequestHeader) : RtspChannelPair :=
  match header.method, header.transport with
  | .setup, transport :: _ => transportChannels transport
  | _, _ => { rtp := 0, rtcp := 0 }

def setupRequestComplete (client : RtspClient) (session : Option Addr) (sessionId : Option Bytes)
    (ended : EndedRequest) (resp : RtspResponseHeader) (completion : Completion) :
    Except ClientHalt Progress :=
  let response : ClientResponse :=
    { method := .setup
      sessionId
      status := completion.status
      error := rtspStatusToErrno resp.statusCode
      userdata := ended.userdata }
  if completion.status = .ok then
    match resp.transport with
    | none => .error .nullPointer
    | some transport =>
        let isTcp := transport.lowerTransport = .tcp
        let pair := transport.interleaved.headD { rtp := 0, rtcp := 0 }
        let streamPort := if isTcp then pair.rtp.toUInt16 else transport.srcStreamPort
        let controlPort := if isTcp then pair.rtcp.toUInt16 else transport.srcControlPort
        let returned : RtspChannelPair :=
          { rtp := streamPort.toUInt8, rtcp := controlPort.toUInt8 }
        let client :=
          if isTcp then
            { client with
              channelUsed :=
                updateInterleavedChannels client.channelUsed ended.channels returned }
          else client
        respond client
          { response with
            detail := .transport streamPort controlPort transport.ssrcValid transport.ssrc
            ext := resp.ext }
          [.addMedia session ended.uri (if isTcp then some returned else none),
            .conclude completion]
  else
    respond
      { client with channelUsed := setChannelPairUsed client.channelUsed ended.channels false }
      { response with detail := .transport 0 0 false 0 } [.conclude completion]

/-- The application is not told of a teardown of a resource that is not found or cannot be
read, and of the client's own. -/
def teardownRequestComplete (client : RtspClient) (session : Option RtspClientSession)
    (sessionId : Option Bytes) (ended : EndedRequest) (resp : RtspResponseHeader)
    (completion : Completion) : Except ClientHalt Progress :=
  let response : ClientResponse :=
    { method := .teardown
      sessionId
      status := completion.status
      error := rtspStatusToErrno resp.statusCode
      ext := resp.ext
      userdata := ended.userdata }
  match session with
  | none =>
      if client.request.isInternal then .ok { client, tasks := [.conclude completion] }
      else respond client response [.teardownReported none, .conclude completion]
  | some session =>
      match rtspUrlParsePath ended.uri, rtspUrlParsePath session.contentBase with
      | .ok path, .ok basePath =>
          let media := rtspClientSessionMediaFind session path
          if media.isNone ∧ path.getD [] ≠ basePath.getD [] then
            .ok { client, tasks := [.conclude completion] }
          else
            let apply :=
              .applyTeardown session.addr (media.map RtspClientSessionMedia.addr) completion
            if session.internalTeardown then .ok { client, tasks := [apply] }
            else
              respond client { response with sessionId := some session.id }
                [.teardownReported (some session.addr), apply]
      | _, _ => .ok { client, tasks := [.conclude completion] }

/-- A keep-alive that is not answered is repeated, and the third one ends the session. -/
def keepAliveComplete (client : RtspClient) (session : Option RtspClientSession)
    (completion : Completion) : Progress :=
  match session with
  | none => { client, tasks := [.conclude completion] }
  | some session =>
      if completion.status = .timeout then
        let session := { session with failedKeepAlive := session.failedKeepAlive + 1 }
        if rtspClientMaxFailedKeepAlive ≤ session.failedKeepAlive then
          { client := client.setSession { session with timer := none }
            tasks := [.conclude { completion with internalTeardown := true }] }
        else
          { client := client.setSession session
            tasks := [.sendKeepAlive session.addr, .conclude completion] }
      else
        { client := client.setSession { session with failedKeepAlive := 0 }
          tasks := [.conclude completion] }

/-- What the methods do differently. -/
def completeMethod (client : RtspClient) (session : Option RtspClientSession)
    (sessionId : Option Bytes) (ended : EndedRequest) (resp : RtspResponseHeader) (body : Bytes)
    (completion : Completion) : Except ClientHalt Progress :=
  let response : ClientResponse :=
    { method := ended.method
      status := completion.status
      error := rtspStatusToErrno resp.statusCode
      ext := resp.ext
      userdata := ended.userdata }
  let succeeded := completion.status = .ok
  match ended.method with
  | .options =>
      respond { client with methodsAllowed := resp.publicMethods }
        { response with detail := .methods resp.publicMethods } [.conclude completion]
  | .describe =>
      respond client
        { response with
          detail := .description ((resp.contentBase.or resp.contentLocation).or ended.uri) body }
        [.conclude completion]
  | .announce => respond client response [.conclude completion]
  | .setup =>
      setupRequestComplete client (session.map RtspClientSession.addr) sessionId ended resp
        completion
  | .play =>
      respond client
        { response with
          sessionId
          detail :=
            if succeeded then
              .playing (some resp.range) resp.scale (resp.rtpInfo.headD {})
            else .playing none 0 {}
          ext := if succeeded then resp.ext else [] }
        [.conclude completion]
  | .pause =>
      respond client
        { response with
          sessionId
          detail := .range (if succeeded then some resp.range else none) }
        [.conclude completion]
  | .record => respond client { response with sessionId } [.conclude completion]
  | .teardown => teardownRequestComplete client session sessionId ended resp completion
  | .getParameter => .ok (keepAliveComplete client session completion)
  | _ => .ok { client, tasks := [.conclude completion] }

/-- The session of a response: its keep-alive is over, and the next one is due after a
time that depends on the one the server has given. -/
def completeSession (client : RtspClient) (method : RtspMethodType) (sessionId : Option Bytes)
    (sessionTimeout : UInt32) : Option RtspClientSession × RtspClient :=
  match rtspClientGetSession client sessionId (method = .setup) with
  | none => (none, client)
  | some (session, client) =>
      let session :=
        resetKeepAliveTimer
          { session with
            keepAliveInProgress := false
            timeoutMs := clientSessionTimeoutMs sessionTimeout
            contentBase := session.contentBase.or client.request.contentBase }
          (clientSessionTimeoutMs sessionTimeout)
      (some session,
        { client.setSession session with
          request := { client.request with contentBase := none } })

/-- What stands for a response where there is none. -/
def dummyResponse (sessionId : Option Bytes) (status : RtspClientReqStatus) :
    RtspResponseHeader where
  sessionId := sessionId
  statusCode := if status = .timeout then 408 else 0

/-- The slot is free again. -/
def releaseSlot (client : RtspClient) : RtspClient :=
  { client with
    request :=
      { client.request with
        header := {}
        isPending := false
        uri := none
        userdata := 0
        timer := none } }

/-- A refusal without a challenge: the nonce is probably no longer valid. -/
def forgetAuth (client : RtspClient) (resp : RtspResponseHeader) : RtspClient :=
  if resp.statusCode = 401 ∧ resp.authenticate = none ∧ client.serverAuth ≠ none then
    { client with serverAuth := none, auth := none }
  else client

def requestComplete (client : RtspClient) (resp : Option RtspResponseHeader) (body : Bytes)
    (status : RtspClientReqStatus) : Except ClientHalt Progress :=
  if ¬ client.request.isPending then .ok { client }
  else
    let header := client.request.header
    let resp := resp.getD (dummyResponse header.sessionId status)
    let ended : EndedRequest :=
      { method := header.method
        uri := header.uri
        channels := requestedChannels header
        userdata := client.request.userdata }
    let status :=
      if status = .ok ∧ resp.statusCode.tdiv 100 ≠ 2 then RtspClientReqStatus.failed else status
    let sessionId := resp.sessionId.or header.sessionId
    let client := forgetAuth (releaseSlot (updateAuthFromServer client resp.authenticate)) resp
    let (session, client) := completeSession client header.method sessionId resp.sessionTimeout
    completeMethod client session sessionId ended resp body
      { sessionId
        status
        statusCode := resp.statusCode
        sessionRemoved := resp.statusCode = 454 }

end Completion

/-! ## The connection -/

/-- A new state is reported. -/
def setConnectionState (client : RtspClient) (state : RtspClientConnState) : Progress :=
  if client.connState = state then { client }
  else callBack { client with connState := state } (.connectionState state) []

def clearRemoteInfo (client : RtspClient) : RtspClient :=
  { client with url := none, urlStr := none, auth := none, serverAuth := none }

/-- The transport reports its disconnection. -/
def clientDisconnected (client : RtspClient) : Except ClientHalt Progress :=
  let client := { client with sock := false }
  match client.connState with
  | .disconnecting =>
      (requestComplete (clearRemoteInfo client) none [] .aborted).map
        (·.andThen [.setState .disconnected])
  | .connected =>
      (requestComplete client none [] .aborted).map (·.andThen [.setState .connecting])
  | _ => .ok { client }

/-- `tskt_client_stop` -/
def tsktClientStop (client : RtspClient) : Except ClientHalt Progress :=
  let client := { client with active := false }
  if client.sock then clientDisconnected client else .ok { client }

section Transport

variable (env : ClientEnv)

/-- `tskt_client_connect`, to the resolved host of the URL. -/
def tsktClientConnect (client : RtspClient) : Except Errno (RtspClient × List ClientEvent) := do
  env.connect
  .ok
    ({ client with active := true },
      [.connect (client.url.bind fun url => url.2.resolvedHost)
        ((client.url.map fun url => url.2.port).getD 0)])

def rtspClientConnect (client : RtspClient) (addr : Option Bytes) : Progress :=
  if addr.isNone ∨ client.connState ≠ .disconnected then { client }
  else
    let client := clearRemoteInfo client
    match rtspUrlParse env.inetPton addr with
    | .error _ => { client }
    | .ok url =>
        let client :=
          { client with
            url := some (client.nextAddr, url)
            urlStr := (rtspUrlStripCredentials env.inetPton addr).toOption
            nextAddr := client.nextAddr + 1 }
        (setConnectionState client .connecting).andThen [.resolveHost (client.nextAddr - 1)]

/-- The second half of `rtsp_client_connect`; the host is still the one of the URL that was
parsed before the callback. -/
def resolveHost (client : RtspClient) (url : Addr) : Except ClientHalt Progress :=
  match client.url with
  | none => .error .useAfterFree
  | some (current, object) =>
      if current ≠ url then .error .useAfterFree
      else
        let failed (client : RtspClient) :=
          (setConnectionState client .disconnected).andThen [.clearRemote]
        match if object.scheme = .tcpTls then env.tls else .ok () with
        | .error _ => .ok (failed client)
        | .ok () =>
            let client := { client with resolvTimer := true }
            match env.getaddrinfo with
            | .error _ => .ok (failed client)
            | .ok () =>
                .ok
                  { client :=
                      { client with
                        resolving := client.resolving ++ [client.nextAddr]
                        resolvReqId := client.nextAddr
                        nextAddr := client.nextAddr + 1 } }

/-- `tskt_resolv_cb`: the result is for the URL the client has now. -/
def resolved (client : RtspClient) (result : Option Bytes) : Progress :=
  let client := { client with resolvTimer := false }
  match result, client.url with
  | some host, some (url, object) =>
      let client := { client with url := some (url, { object with resolvedHost := some host }) }
      match tsktClientConnect env client with
      | .error _ => setConnectionState client .disconnected
      | .ok (client, events) => { client, events }
  | _, _ => setConnectionState client .disconnected

/-- The first half of `rtsp_client_disconnect`. -/
def rtspClientDisconnect (client : RtspClient) : Progress :=
  match client.connState with
  | .disconnected => { client }
  | .disconnecting => { client }
  | state =>
      (setConnectionState client .disconnecting).andThen [.stopTransport (state = .connecting)]

end Transport

/-! ## Received messages -/

section Receive

variable (E : HeaderEdit) (P : Platform) (env : ClientEnv)

/-- `client_uri_to_content_base` -/
def clientUriToContentBase (client : RtspClient) (uri : Option Bytes) :
    Except ClientHalt (Option Bytes) :=
  match uri, client.urlStr with
  | none, _ => .ok none
  | some _, none => .error .nullPointer
  | some uri, some urlStr =>
      if urlStr = [] ∨ pathMax ≤ urlStr.length then .ok none
      else if rtspSchemeTcp.isPrefixOf uri then .ok (some uri)
      else
        let uri := if uri.head? = some 0x2f then uri.drop 1 else uri
        .ok (some (urlStr ++
          (if getLastChar urlStr pathMax = some 0x2f then [] else ascii "/") ++ uri))

/-- `teardown_request_process`, up to the callback. -/
def teardownRequestProcess (client : RtspClient) (header : RtspRequestHeader) :
    Except ClientHalt Progress :=
  match rtspClientSessionFind client header.sessionId with
  | none => .ok { client }
  | some session =>
      match rtspUrlParsePath header.uri with
      | .error _ => .ok { client }
      | .ok none => .ok { client }
      | .ok (some path) =>
          match session.contentBase with
          | none => .error .nullPointer
          | some base =>
              let media :=
                if header.uri = some base then none
                else rtspClientSessionMediaFind session (some path)
              if client.cbs.teardown then
                .ok
                  (callBack client
                    (.teardown (some ((media.map RtspClientSessionMedia.path).getD path))
                      header.sessionId header.ext)
                    [.tornDown header session.addr (media.map RtspClientSessionMedia.addr),
                      .answer header 200])
              else .error .nullPointer

/-- The media or the whole session goes. -/
def tornDown (client : RtspClient) (header : RtspRequestHeader) (session : Addr)
    (media : Option Addr) : Except ClientHalt Progress :=
  match media with
  | none => .ok (rtspClientRemoveSessionInternal client header.sessionId 200)
  | some media =>
      match client.findSession session with
      | none => .error .useAfterFree
      | some session =>
          match RecordList.lookup RtspClientSessionMedia.addr media session.medias with
          | none => .error .useAfterFree
          | some media =>
              let client := dropMedia client session media
              if session.medias.length = 1 then
                .ok (rtspClientRemoveSessionInternal client header.sessionId 200)
              else .ok { client }

def rtspClientRequestProcess (client : RtspClient) (header : RtspRequestHeader) (body : Bytes) :
    Except ClientHalt Progress :=
  match header.method with
  | .announce => do
      let contentBase ← clientUriToContentBase client header.uri
      .ok (callBack client (.announce contentBase header.ext body) [.answer header 200])
  | .getParameter => .ok { client, tasks := [.answer header (if body = [] then 200 else 501)] }
  | .teardown => teardownRequestProcess client header
  | _ => .ok { client, tasks := [.answer header 501] }

/-- The response to a request of the server. -/
def answerRequest (client : RtspClient) (header : RtspRequestHeader) (status : Int) : Progress :=
  let response : RtspResponseHeader :=
    { cseq := header.cseq
      statusCode := status
      statusString := some (rtspStatusGet status).2
      date := env.now }
  match rtspResponseHeaderWrite P response { maxLen := clientBufferSize } with
  | .error _ => { client }
  | .ok str =>
      match client.sock, env.send with
      | true, .ok () => { client, events := [.answered response str.str] }
      | _, _ => { client }

/-- A response that is not for the pending request is taken for the one to a keep-alive. -/
def rtspClientResponseProcess (client : RtspClient) (header : RtspResponseHeader)
    (body : Bytes) : Except ClientHalt Progress :=
  if header.cseq = client.request.header.cseq then requestComplete client (some header) body .ok
  else
    match client.sessions.find? RtspClientSession.keepAliveInProgress with
    | none => .ok { client }
    | some session =>
        .ok
          { client :=
              client.setSession
                (resetKeepAliveTimer { session with keepAliveInProgress := false }
                  (session.timeoutMs / 2)) }

def processDelivery (client : RtspClient) : Delivery → Except ClientHalt Progress
  | .interleaved channel data =>
      .ok
        (if client.cbs.interleavedData then
          callBack client (.interleavedData channel data) []
        else { client })
  | .text (.request header) body => rtspClientRequestProcess client header body
  | .text (.response header) body => rtspClientResponseProcess client header body

/-- One turn of the loop over the messages in the buffer. -/
def receiveMessage (client : RtspClient) : Except ClientHalt Progress :=
  match rtspGetNextMessage E P client.receiver.buf client.receiver.ctx with
  | .error f => .error (.fault f)
  | .ok next =>
      let receiver : Receiver := { buf := next.data, ctx := next.ctx }
      match next.result with
      | .error _ =>
          .ok
            { client :=
                { client with
                  receiver :=
                    { receiver with
                      buf := rtspBufferRemoveFirstBytes receiver.buf next.totalLen } } }
      | .ok message =>
          let delivery := message.delivery next.data
          (processDelivery { client with receiver } delivery).map fun p =>
            { p.andThen [.consume next.totalLen, .receive] with
              events := .delivered delivery :: p.events }

end Receive

/-! ## Tasks -/

section Tasks

variable (E : HeaderEdit) (P : Platform) (env : ClientEnv)

/-- The media of a successful SETUP joins the session, if the session is known and the path
of the URI can be read and is new. -/
def addMedia (client : RtspClient) (session : Option Addr) (uri : Option Bytes)
    (pair : Option RtspChannelPair) : Except ClientHalt Progress :=
  match rtspUrlParsePath uri, session with
  | .error _, _ => .ok { client }
  | .ok _, none => .ok { client }
  | .ok none, some _ => .ok { client }
  | .ok path, some session =>
      match client.findSession session with
      | none => .error .useAfterFree
      | some session =>
          .ok { client := (rtspClientSessionMediaAdd client session path pair).getD client }

/-- The marks of the client's own teardown are taken away. -/
def teardownReported (client : RtspClient) (session : Option Addr) : Except ClientHalt Progress :=
  let clear (client : RtspClient) : Progress :=
    { client := { client with request := { client.request with isInternal := false } } }
  match session with
  | none => .ok (clear client)
  | some session =>
      match client.findSession session with
      | none => .error .useAfterFree
      | some session => .ok (clear (client.setSession { session with internalTeardown := false }))

/-- The media is removed, and the session with its last media; without a media, the session. -/
def applyTeardown (client : RtspClient) (session : Addr) (media : Option Addr)
    (completion : Completion) : Except ClientHalt Progress :=
  match media with
  | none => .ok { client, tasks := [.conclude { completion with sessionRemoved := true }] }
  | some media =>
      match client.findSession session with
      | none => .error .useAfterFree
      | some session =>
          match RecordList.lookup RtspClientSessionMedia.addr media session.medias with
          | none => .error .useAfterFree
          | some media =>
              .ok
                { client := dropMedia client session media
                  tasks :=
                    [.conclude
                      { completion with sessionRemoved := session.medias.length = 1 }] }

/-- The client's own teardown. -/
def ownTeardown (client : RtspClient) (completion : Completion) : Except ClientHalt Called :=
  if completion.internalTeardown then
    sendTeardown P env client none completion.sessionId
      { timeoutMs := rtspClientDefaultRespTimeoutMs } true
  else .ok { ret := .ok (), client }

/-- The removal of the session behind a response that ends it, or behind a teardown of the
client's own that fails. -/
def afterTeardown (called : Called) (completion : Completion) : Progress :=
  let removed := completion.sessionRemoved || (called.ret matches .error _)
  let p :=
    if removed then
      rtspClientRemoveSessionInternal called.client completion.sessionId
        (if completion.status = .timeout then Errno.etimedout.ret else completion.statusCode)
    else { client := called.client }
  { p.andThen [.countFailure completion.status] with events := called.events ++ p.events }

/-- The end of `request_complete`: the client's own teardown, and the removal of the session. -/
def concludeRequestComplete (client : RtspClient) (completion : Completion) :
    Except ClientHalt Progress :=
  (ownTeardown P env client completion).map fun called => afterTeardown called completion

/-- Too many requests without a response: connect again. -/
def countFailure (client : RtspClient) (status : RtspClientReqStatus) :
    Except ClientHalt Progress :=
  if status = .timeout then
    let client := { client with failedRequests := client.failedRequests + 1 }
    if rtspClientMaxFailedRequests ≤ client.failedRequests then
      (tsktClientStop client).map (·.andThen [.setState .connecting, .reconnect])
    else .ok { client }
  else .ok { client := { client with failedRequests := 0 } }

def reconnect (client : RtspClient) : Progress :=
  match tsktClientConnect env client with
  | .error _ => { client }
  | .ok (client, events) => { client, events }

/-- The session leaves the list after its callback. -/
def unlinkSession (client : RtspClient) (session : Addr) : Except ClientHalt Progress :=
  match client.findSession session with
  | none => .error .useAfterFree
  | some session =>
      .ok
        { client :=
            { client with
              sessions :=
                RecordList.remove RtspClientSession.addr session.addr client.sessions } }

/-- The session behind this one in the list, which the walk reads from it. -/
def sessionAfter (client : RtspClient) (session : Addr) :
    Except ClientHalt (Option RtspClientSession) :=
  match client.sessions.dropWhile (·.addr ≠ session) with
  | [] => .error .useAfterFree
  | _ :: rest => .ok rest.head?

/-- One turn of the walk that sends a keep-alive for every session. -/
def keepAliveFor (client : RtspClient) (session : Option RtspClientSession) :
    Except ClientHalt Progress :=
  match session with
  | none => .ok { client }
  | some session =>
      (sendKeepAlive P env client session).map (·.andThen [.keepAliveAfter session.addr])

/-- `rtsp_client_disconnect` after the callback. -/
def stopTransport (client : RtspClient) (alreadyDisconnected : Bool) :
    Except ClientHalt Progress :=
  (tsktClientStop client).map
    (·.andThen ((if alreadyDisconnected then [.finishDisconnect] else []) ++ [.removeAll]))

/-- The walk that removes all sessions; it has read the next one before. -/
def removeFrom (client : RtspClient) (session : Option Addr) : Except ClientHalt Progress :=
  match session with
  | none => .ok { client }
  | some addr =>
      match client.findSession addr with
      | none => .error .useAfterFree
      | some session => do
          let next ← sessionAfter client addr
          .ok
            ((rtspClientRemoveSessionInternal client (some session.id) 0).andThen
              [.removeFrom (next.map RtspClientSession.addr)])

def runTask (client : RtspClient) : ClientTask → Except ClientHalt Progress
  | .inCallback => .error .disabled
  | .receive => receiveMessage E P client
  | .consume totalLen =>
      .ok
        { client :=
            { client with
              receiver :=
                { client.receiver with
                  buf := rtspBufferRemoveFirstBytes client.receiver.buf totalLen } } }
  | .answer header status => .ok (answerRequest P env client header status)
  | .tornDown header session media => tornDown client header session media
  | .addMedia session uri pair => addMedia client session uri pair
  | .teardownReported session => teardownReported client session
  | .applyTeardown session media completion => applyTeardown client session media completion
  | .conclude completion => concludeRequestComplete P env client completion
  | .countFailure status => countFailure client status
  | .setState state => .ok (setConnectionState client state)
  | .reconnect => .ok (reconnect env client)
  | .unlinkSession session => unlinkSession client session
  | .sendKeepAlive session =>
      match client.findSession session with
      | none => .error .useAfterFree
      | some session => sendKeepAlive P env client session
  | .keepAliveAll => keepAliveFor P env client client.sessions.head?
  | .keepAliveAfter session => do
      let next ← sessionAfter client session
      keepAliveFor P env client next
  | .resolveHost url => resolveHost env client url
  | .clearRemote => .ok { client := clearRemoteInfo client }
  | .stopTransport alreadyDisconnected => stopTransport client alreadyDisconnected
  | .finishDisconnect =>
      (requestComplete (clearRemoteInfo client) none [] .aborted).map
        (·.andThen [.setState .disconnected])
  | .removeAll => removeFrom client (client.sessions.head?.map RtspClientSession.addr)
  | .removeFrom session => removeFrom client session

end Tasks

/-! ## Inputs -/

inductive ClientCall where
  | options (args : RequestArgs)
  | describe (path : Option Bytes) (args : RequestArgs)
  | announce (path sessionDescription : Option Bytes) (args : RequestArgs)
  | setup (setup : SetupArgs) (args : RequestArgs)
  | play (sessionId : Option Bytes) (range : Option RtspRange) (scale : UInt32)
      (args : RequestArgs)
  | pause (sessionId : Option Bytes) (range : Option RtspRange) (args : RequestArgs)
  | record (sessionId : Option Bytes) (range : Option RtspRange) (args : RequestArgs)
  | teardown (resourceUrl sessionId : Option Bytes) (args : RequestArgs)
  deriving DecidableEq, Repr

def ClientCall.method : ClientCall → RtspMethodType
  | .options _ => .options
  | .describe _ _ => .describe
  | .announce _ _ _ => .announce
  | .setup _ _ => .setup
  | .play _ _ _ _ => .play
  | .pause _ _ _ => .pause
  | .record _ _ _ => .record
  | .teardown _ _ _ => .teardown

def ClientCall.args : ClientCall → RequestArgs
  | .options args => args
  | .describe _ args => args
  | .announce _ _ args => args
  | .setup _ args => args
  | .play _ _ _ args => args
  | .pause _ _ args => args
  | .record _ _ args => args
  | .teardown _ _ args => args

/-- A call of a request function. -/
def callRequest (P : Platform) (env : ClientEnv) (client : RtspClient) :
    ClientCall → Except ClientHalt Called
  | .options args => .ok (rtspClientOptions P env client args)
  | .describe path args => rtspClientDescribe P env client path args
  | .announce path sessionDescription args =>
      rtspClientAnnounce P env client path sessionDescription args
  | .setup setup args => rtspClientSetup P env client setup args
  | .play sessionId range scale args => rtspClientPlay P env client sessionId range scale args
  | .pause sessionId range args => rtspClientPause P env client sessionId range args
  | .record sessionId range args => rtspClientRecord P env client sessionId range args
  | .teardown resourceUrl sessionId args =>
      rtspClientTeardown P env client resourceUrl sessionId args

inductive ClientInput where
  /-- Calls of the application. -/
  | call (call : ClientCall)
  | cancel
  | removeSession (sessionId : Option Bytes)
  | connect (addr : Option Bytes)
  | disconnect
  | callbackReturns
  /-- The code goes on. -/
  | resume
  /-- Events of the loop. -/
  | connected
  | disconnected
  | data (chunk : Bytes)
  | readyToSend
  | responseTimeout
  | keepAliveTimer (session : Addr)
  | resolvTimeout
  | resolved (id : Nat) (result : Option Bytes)
  deriving DecidableEq, Repr

structure ClientState where
  client : RtspClient
  tasks : List ClientTask := []
  events : List ClientEvent := []

section Step

variable (E : HeaderEdit) (P : Platform) (env : ClientEnv)

/-- What the application does, in a callback or when nothing is left to do. -/
def callProgress (client : RtspClient) : ClientInput → Except ClientHalt Progress
  | .call call =>
      (callRequest P env client call).map fun called =>
        { client := called.client, events := called.events }
  | .cancel => requestComplete client none [] .canceled
  | .removeSession sessionId => .ok (rtspClientRemoveSessionInternal client sessionId 408)
  | .connect addr => .ok (rtspClientConnect env client addr)
  | .disconnect => .ok (rtspClientDisconnect client)
  | _ => .error .disabled

/-- What the event loop does when nothing is left to do. -/
def loopProgress (client : RtspClient) : ClientInput → Except ClientHalt Progress
  | .connected =>
      if client.active ∧ ¬ client.sock then
        .ok ((setConnectionState { client with sock := true } .connected).andThen [.keepAliveAll])
      else .error .disabled
  | .disconnected => if client.sock then clientDisconnected client else .error .disabled
  | .data chunk =>
      if client.sock then
        .ok
          { client :=
              { client with
                receiver := { client.receiver with buf := client.receiver.buf ++ chunk } }
            tasks := [.receive] }
      else .error .disabled
  | .readyToSend =>
      if client.sock ∧ client.cbs.readyToSend then .ok (callBack client .readyToSend [])
      else .error .disabled
  | .responseTimeout =>
      if client.request.timer.isSome then
        requestComplete { client with request := { client.request with timer := none } } none []
          .timeout
      else .error .disabled
  | .keepAliveTimer addr =>
      match client.findSession addr with
      | some session =>
          if session.timer.isSome then
            let session := { session with timer := none }
            sendKeepAlive P env (client.setSession session) session
          else .error .disabled
      | none => .error .disabled
  | .resolvTimeout =>
      if client.resolvTimer then
        .ok
          (rtspClientDisconnect
            { client with
              resolvTimer := false
              resolving := client.resolving.erase client.resolvReqId })
      else .error .disabled
  | .resolved id result =>
      if id ∈ client.resolving then
        .ok (resolved env { client with resolving := client.resolving.erase id } result)
      else .error .disabled
  | input => callProgress P env client input

/-- The progress is made in front of what was left to do. -/
def ClientState.after (s : ClientState) (rest : List ClientTask) (p : Progress) : ClientState where
  client := p.client
  tasks := p.tasks ++ rest
  events := s.events ++ p.events

def clientStep (s : ClientState) (input : ClientInput) : Except ClientHalt ClientState :=
  match s.tasks with
  | [] =>
      match input with
      | .callbackReturns => .error .disabled
      | .resume => .error .disabled
      | input => (loopProgress P env s.client input).map (s.after [])
  | .inCallback :: rest =>
      match input with
      | .callbackReturns => .ok { s with tasks := rest }
      | input => (callProgress P env s.client input).map (s.after s.tasks)
  | task :: rest =>
      match input with
      | .resume => (runTask E P env s.client task).map (s.after rest)
      | _ => .error .disabled

end Step

end Librtsp
