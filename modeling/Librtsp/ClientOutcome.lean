import Librtsp.Client

/-!
# What a request function can do

A call is refused before it touches the client; or it has claimed the slot of the pending
request and is refused then; or it fails after it has filled the request; or the request is
sent.  One relation says this for all request functions, and for the client's own teardown.
-/

namespace Librtsp

open CString

section Outcome

variable {P : Platform} {env : ClientEnv}

/-! ## Sending -/

/-- What `sendRequest` does when it succeeds. -/
theorem sendRequest_ok {client client' : RtspClient} {content : Option Bytes}
    {timeoutMs : UInt32} {events : List ClientEvent}
    (h : sendRequest P env client content timeoutMs = .ok (client', events)) :
    client.sock = true ∧ env.send = .ok () ∧
      (∃ message, events = [.sent client.request.header message]) ∧
      client' =
        { client with
          request :=
            { client.request with
              timer := if 0 < timeoutMs then some timeoutMs else client.request.timer } } := by
  unfold sendRequest at h
  split at h
  next => cases h
  next message hmessage =>
    split at h
    next hsock =>
      split at h
      next => cases h
      next hsend =>
        cases h
        exact ⟨hsock, hsend, ⟨message, rfl⟩, rfl⟩
    next => cases h

/-! ## Authorization -/

/-- How the authorization of a request comes from the state it is made of. -/
inductive Authorized (env : ClientEnv) :
    Option RtspAuthorizationHeader → Option RtspAuthorizationHeader →
      Option RtspAuthorizationHeader → Prop where
  | without (auth : Option RtspAuthorizationHeader) : Authorized env auth none auth
  | basic {current auth : RtspAuthorizationHeader} (htype : current.type = .basic)
      (hauth : auth.type = .basic) (hnc : auth.nc = current.nc) :
      Authorized env (some current) (some auth)
        (some (rtspAuthorizationHeaderCopyClientFields auth current))
  | digest {current auth : RtspAuthorizationHeader} {uri : Option Bytes} {pass : Bytes}
      {method : RtspMethodType} (htype : current.type = .digest)
      (hauth : rtspAuthGenerateDigestResponse env { current with uri } pass method = .ok auth) :
      Authorized env (some current) (some auth)
        (some (rtspAuthorizationHeaderCopyClientFields auth current))

theorem rtspAuthGenerateBasicResponse_ok {auth auth' : RtspAuthorizationHeader} {pass : Bytes}
    (h : rtspAuthGenerateBasicResponse auth pass = .ok auth') :
    ∃ credentials, auth' = { auth with credentials := some credentials } := by
  unfold rtspAuthGenerateBasicResponse at h
  split at h
  next => cases h
  next username husername =>
    cases hencode : rtspBase64Encode (username ++ ascii ":" ++ pass) with
    | error e =>
        rw [hencode] at h
        cases h
    | ok credentials =>
        rw [hencode] at h
        cases h
        exact ⟨credentials, rfl⟩

theorem authorize_ok {current auth : RtspAuthorizationHeader} {pass : Bytes}
    {header : RtspRequestHeader} (h : authorize env current pass header = .ok auth) :
    Authorized env (some current) (some auth)
      (some (rtspAuthorizationHeaderCopyClientFields auth current)) := by
  unfold authorize at h
  split at h
  next htype =>
    split at h
    next =>
      obtain ⟨credentials, rfl⟩ := rtspAuthGenerateBasicResponse_ok (except_mapError_ok.mp h)
      exact .basic htype htype rfl
    next =>
      cases h
      exact .basic htype htype rfl
  next htype => exact .digest htype h
  next => cases h

/-- Only the authorization and its state change. -/
theorem generateAuthorizationHeader_ok {client client' : RtspClient}
    (h : generateAuthorizationHeader env client = .ok client')
    (hnone : client.request.header.authorization = none) :
    ∃ authorization auth, Authorized env client.auth authorization auth ∧
      client' =
        { client.setHeader { client.request.header with authorization } with auth } := by
  unfold generateAuthorizationHeader at h
  split at h
  next hauth =>
    cases h
    refine ⟨none, client.auth, .without _, ?_⟩
    rw [← hnone]
    rfl
  next current hauth =>
    split at h
    next => cases h
    next =>
      split at h
      next => cases h
      next =>
        split at h
        next => cases h
        next pass hpass =>
          split at h
          next => cases h
          next auth hauthorize =>
            cases h
            refine ⟨some auth, _, ?_, rfl⟩
            rw [hauth]
            exact authorize_ok hauthorize

/-! ## Claiming the slot -/

/-- The client with the slot claimed. -/
def claimed (client : RtspClient) : RtspClient :=
  { client with
    request :=
      { client.request with
        timer :=
          if client.sessions.any RtspClientSession.keepAliveInProgress then none
          else client.request.timer } }

theorem clearPendingKeepAliveTimer_eq (client : RtspClient) :
    clearPendingKeepAliveTimer client =
      (claimed client, client.sessions.any RtspClientSession.keepAliveInProgress) := by
  unfold clearPendingKeepAliveTimer claimed
  split
  next h => simp only [h]
  next h => simp [h]

/-- The slot can be claimed when the client is connected and no request but a keep-alive is
pending. -/
theorem claimSlot_ok {client slot : RtspClient} (h : claimSlot client = .ok slot) :
    slot = claimed client ∧ client.connState = .connected ∧
      (client.request.isPending = true →
        client.sessions.any RtspClientSession.keepAliveInProgress = true) := by
  unfold claimSlot at h
  split at h
  next => cases h
  next hstate =>
    rw [clearPendingKeepAliveTimer_eq] at h
    dsimp only at h
    split at h
    next => cases h
    next hbusy =>
      cases h
      rw [not_not] at hstate
      refine ⟨rfl, hstate, fun hpending => ?_⟩
      rw [not_and, not_not] at hbusy
      exact hbusy hpending

/-! ## Filling the request -/

/-- The request is filled: the client changes in its request, in the state of its
authorization and in the channels it has reserved for the request. -/
structure Filled (env : ClientEnv) (slot built : RtspClient) (method : RtspMethodType)
    (userdata : Nat) : Prop where
  same : built =
    { slot with
      auth := built.auth
      channelUsed := built.channelUsed
      request :=
        { slot.request with
          header := built.request.header
          uri := built.request.uri
          contentBase := built.request.contentBase
          userdata } }
  sameMethod : built.request.header.method = method
  number : built.request.header.cseq = slot.cseq.toInt32
  auth : Authorized env slot.auth built.request.header.authorization built.auth
  channels : built.channelUsed =
    setChannelPairUsed slot.channelUsed (requestedChannels built.request.header) true
  free : (requestedChannels built.request.header).isValid = true →
    slot.channelUsed (requestedChannels built.request.header).rtp = false ∧
      slot.channelUsed (requestedChannels built.request.header).rtcp = false
  contentBase : if method = .setup then built.request.contentBase.isSome = true
    else built.request.contentBase = slot.request.contentBase

/-- The client after the request has been sent. -/
def sentClient (built : RtspClient) (timeoutMs : UInt32) : RtspClient :=
  { built with
    request :=
      { built.request with
        timer := if 0 < timeoutMs then some timeoutMs else built.request.timer
        isPending := true }
    cseq := built.cseq + 1 }

/-- The client after a teardown request has been sent for the session. -/
def markedClient (sent : RtspClient) (session : RtspClientSession) (internal : Bool) :
    RtspClient :=
  { sent.setSession { session with internalTeardown := internal } with
    request := { sent.request with isInternal := internal } }

/-- How far a call gets: it passes its first checks and claims the slot; the session and the
base it names are found; it reserves channels. -/
structure CallStages where
  claims : Prop
  lookups : Prop
  reserves : Prop

/-- The checks of the arguments. -/
def ClientCall.argsValid : ClientCall → Bool
  | .options _ => true
  | .describe _ _ => true
  | .announce _ sessionDescription _ =>
      (nonEmpty sessionDescription).any (·.length < rtspSessionDescriptionMaxLen)
  | .setup asked _ =>
      (nonEmpty asked.contentBase).isSome && (nonEmpty asked.resourceUrl).isSome &&
        setupPortsValid asked
  | .play sessionId range _ _ => (nonEmpty sessionId).isSome && range.isSome
  | .pause sessionId range _ => (nonEmpty sessionId).isSome && range.isSome
  | .record sessionId range _ => (nonEmpty sessionId).isSome && range.isSome
  | .teardown _ sessionId _ => (nonEmpty sessionId).isSome

/-- The session a call names is known, and the base of a SETUP is the one of its session. -/
def ClientCall.findsSession (env : ClientEnv) (client : RtspClient) : ClientCall → Prop
  | .options _ => True
  | .describe _ _ => True
  | .announce _ _ _ => True
  | .setup asked _ =>
      ∃ base, rtspUrlStripCredentials env.inetPton asked.contentBase = .ok base ∧
        checkSetupSession client asked.sessionId base = .ok (.ok ())
  | .play sessionId _ _ _ => (rtspClientSessionFind client sessionId).isSome = true
  | .pause sessionId _ _ => (rtspClientSessionFind client sessionId).isSome = true
  | .record sessionId _ _ => (rtspClientSessionFind client sessionId).isSome = true
  | .teardown _ sessionId _ => (rtspClientSessionFind client sessionId).isSome = true

/-- A SETUP over TCP that is authorized and finds the channels it asks for. -/
def ClientCall.reserves (env : ClientEnv) (client : RtspClient) : ClientCall → Prop
  | .setup asked args =>
      asked.lowerTransport = .tcp ∧ 2 ≤ countChannelUnused client.channelUsed ∧
        (∃ found, allocateInterleavedChannels client.channelUsed (setupPair asked) =
          .ok (.ok found)) ∧
        ∃ base resource uri authorized,
          rtspUrlStripCredentials env.inetPton asked.contentBase = .ok base ∧
            asked.resourceUrl = some resource ∧ formatRequestUri (some base) resource = .ok uri ∧
            generateAuthorizationHeader env (setupRequest (claimed client) uri base args.userdata) =
              .ok authorized
  | _ => False

def ClientCall.stages (env : ClientEnv) (client : RtspClient) (call : ClientCall) :
    CallStages where
  claims := call.argsValid = true ∧ checkMethod client call.method = .ok () ∧
    claimSlot client = .ok (claimed client)
  lookups := call.findsSession env client
  reserves := call.reserves env client

section Relation

variable (env : ClientEnv) (client : RtspClient) (method : RtspMethodType) (userdata : Nat)
  (timeoutMs : UInt32) (internal : Bool) (stages : CallStages)

/-- What a request function, or the client's own teardown, can do; a teardown marks its
session. -/
inductive CallOutcome : Option RtspClientSession → Called → Prop where
  | refused {marked : Option RtspClientSession} (e : Errno) (hclaims : ¬ stages.claims) :
      CallOutcome marked (.failed client e)
  | claimed {marked : Option RtspClientSession} (e : Errno)
      (hclaim : claimSlot client = .ok (claimed client)) (hclaims : stages.claims)
      (hlookups : ¬ stages.lookups) : CallOutcome marked (.failed (claimed client) e)
  | unnumbered {marked : Option RtspClientSession} (e : Errno)
      (hclaim : claimSlot client = .ok (claimed client)) (hclaims : stages.claims)
      (hlookups : stages.lookups) (hreserves : ¬ stages.reserves) (hunset : method ≠ .setup) :
      CallOutcome marked (.failed (newRequest (claimed client) method userdata) e)
  | unsent {marked : Option RtspClientSession} {built : RtspClient} (e : Errno)
      (hclaim : claimSlot client = .ok (claimed client)) (hclaims : stages.claims)
      (hlookups : stages.lookups)
      (hreserves : (requestedChannels built.request.header).isValid = true ↔ stages.reserves)
      (hfilled : Filled env (claimed client) built method userdata) :
      CallOutcome marked (.failed built e)
  | sent {built : RtspClient} (message : Bytes)
      (hclaim : claimSlot client = .ok (claimed client))
      (hmethod : client.cbs.resp method = true)
      (hfilled : Filled env (claimed client) built method userdata)
      (hagent : built.request.header.userAgent = some client.softwareName)
      (hsock : built.sock = true) (hsend : env.send = .ok ()) :
      CallOutcome none
        { ret := .ok ()
          client := sentClient built timeoutMs
          events := [.sent built.request.header message] }
  | tearsDown {built : RtspClient} {session : RtspClientSession} (message : Bytes)
      (hclaim : claimSlot client = .ok (claimed client))
      (hmethod : client.cbs.resp method = true) (hteardown : method = .teardown)
      (hfilled : Filled env (claimed client) built method userdata)
      (hagent : built.request.header.userAgent = some client.softwareName)
      (hsock : built.sock = true) (hsend : env.send = .ok ())
      (hfind : client.findSession session.addr = some session) :
      CallOutcome (some session)
        { ret := .ok ()
          client := markedClient (sentClient built timeoutMs) session internal
          events := [.sent built.request.header message] }

end Relation

variable {client built : RtspClient} {method : RtspMethodType} {userdata : Nat}
  {timeoutMs : UInt32} {internal : Bool} {stages : CallStages}

theorem submitRequest_outcome {content : Option Bytes}
    (hclaim : claimSlot client = .ok (claimed client)) (hmethod : client.cbs.resp method = true)
    (hclaims : stages.claims) (hlookups : stages.lookups)
    (hreserves : (requestedChannels built.request.header).isValid = true ↔ stages.reserves)
    (hfilled : Filled env (claimed client) built method userdata)
    (hagent : built.request.header.userAgent = some client.softwareName) :
    CallOutcome env client method userdata timeoutMs internal stages none
      (submitRequest P env built content timeoutMs) := by
  unfold submitRequest
  split
  next e hsend => exact .unsent e hclaim hclaims hlookups hreserves hfilled
  next built' events hsend =>
    obtain ⟨hsock, hok, ⟨message, rfl⟩, rfl⟩ := sendRequest_ok hsend
    exact .sent message hclaim hmethod hfilled hagent hsock hok

/-- A request that asks for no transport reserves no channels. -/
theorem requestedChannels_nil {header : RtspRequestHeader} (h : header.transport = []) :
    requestedChannels header = { rtp := 0, rtcp := 0 } := by
  unfold requestedChannels
  rw [h]
  split
  next heq => cases heq
  next => rfl

/-- The fields a request function sets when the request is authorized. -/
structure PlainFields (fields : RtspRequestHeader → RtspRequestHeader) : Prop where
  method : ∀ header, (fields header).method = header.method
  cseq : ∀ header, (fields header).cseq = header.cseq
  transport : ∀ header, (fields header).transport = header.transport
  authorization : ∀ header, (fields header).authorization = header.authorization
  userAgent : ∀ header, (fields header).userAgent = header.userAgent

theorem PlainFields.copyExt {fields : RtspRequestHeader → RtspRequestHeader}
    (h : PlainFields fields) (ext : List RtspHeaderExt) :
    PlainFields fun header => rtspRequestHeaderCopyExt ext (fields header) := by
  constructor
  all_goals
    intro header
    unfold rtspRequestHeaderCopyExt
    split
  · exact h.method header
  · exact h.method header
  · exact h.cseq header
  · exact h.cseq header
  · exact h.transport header
  · exact h.transport header
  · exact h.authorization header
  · exact h.authorization header
  · exact h.userAgent header
  · exact h.userAgent header

/-- The client with the request filled in and the authorization state. -/
def fillRequest (slot : RtspClient) (header : RtspRequestHeader) (userdata : Nat)
    (auth : Option RtspAuthorizationHeader) : RtspClient :=
  { slot with auth, request := { slot.request with header, userdata } }

theorem numberRequest_fill (slot : RtspClient) (uri : Option Bytes) :
    numberRequest (newRequest slot method userdata) uri =
      fillRequest slot { method, uri, cseq := slot.cseq.toInt32 } userdata slot.auth := rfl

theorem setHeader_fill (slot : RtspClient) (header header' : RtspRequestHeader)
    (auth : Option RtspAuthorizationHeader) :
    (fillRequest slot header userdata auth).setHeader header' =
      fillRequest slot header' userdata auth := rfl

theorem authorized_fill (slot : RtspClient) (header : RtspRequestHeader)
    (auth auth' : Option RtspAuthorizationHeader) :
    { fillRequest slot header userdata auth with auth := auth' } =
      fillRequest slot header userdata auth' := rfl

/-- A request that asks for no transport. -/
theorem filled_plain {slot : RtspClient} {header : RtspRequestHeader}
    {auth : Option RtspAuthorizationHeader} (hsetup : method ≠ .setup)
    (hmethod : header.method = method) (hnumber : header.cseq = slot.cseq.toInt32)
    (htransport : header.transport = [])
    (hauth : Authorized env slot.auth header.authorization auth) :
    Filled env slot (fillRequest slot header userdata auth) method userdata where
  same := rfl
  sameMethod := hmethod
  number := hnumber
  auth := hauth
  channels := by
    unfold fillRequest
    rw [requestedChannels_nil htransport]
    rfl
  free hvalid := by
    unfold fillRequest at hvalid
    rw [requestedChannels_nil htransport] at hvalid
    cases hvalid
  contentBase := by
    rw [if_neg hsetup]
    rfl

theorem completeRequest_outcome {uri : Option Bytes} {tolerated : Errno → Bool}
    {args : RequestArgs} {fields : RtspRequestHeader → RtspRequestHeader}
    {content : Option Bytes} {called : Called} (hclaim : claimSlot client = .ok (claimed client))
    (hmethod : client.cbs.resp method = true) (hsetup : method ≠ .setup)
    (hclaims : stages.claims) (hlookups : stages.lookups) (hreserves : ¬ stages.reserves)
    (hfields : PlainFields fields)
    (h : completeRequest P env (numberRequest (newRequest (claimed client) method userdata) uri)
      tolerated args fields content = .ok called) :
    CallOutcome env client method userdata args.timeoutMs internal stages none called := by
  have hcopy := hfields.copyExt args.ext
  have hnone : ∀ header : RtspRequestHeader, header.transport = [] →
      ((requestedChannels header).isValid = true ↔ stages.reserves) := by
    intro header htransport
    rw [requestedChannels_nil htransport]
    exact ⟨fun hvalid => absurd hvalid (by decide), fun h => absurd h hreserves⟩
  have hfilled : ∀ header auth, header.method = method →
      header.cseq = (claimed client).cseq.toInt32 → header.transport = [] →
      Authorized env (claimed client).auth header.authorization auth →
      CallOutcome env client method userdata args.timeoutMs internal stages none
        (submitRequest P env
          ((fillRequest (claimed client) header userdata auth).setHeader
            (rtspRequestHeaderCopyExt args.ext
              (fields { header with userAgent := some (claimed client).softwareName })))
          content args.timeoutMs) := by
    intro header auth hheader hnumber htransport hauth
    rw [setHeader_fill]
    apply submitRequest_outcome hclaim hmethod hclaims hlookups
    · apply hnone
      exact (hcopy.transport _).trans htransport
    · apply filled_plain hsetup
      · rw [hcopy.method]
        exact hheader
      · rw [hcopy.cseq]
        exact hnumber
      · rw [hcopy.transport]
        exact htransport
      · rw [hcopy.authorization]
        exact hauth
    · exact hcopy.userAgent _
  unfold completeRequest at h
  rw [numberRequest_fill] at h
  split at h
  next => cases h
  next e herror =>
    cases h
    split
    next => exact hfilled _ _ rfl rfl rfl (.without _)
    next =>
      exact .unsent e hclaim hclaims hlookups (hnone _ rfl)
        (filled_plain hsetup rfl rfl rfl (.without _))
  next authorized hok =>
    cases h
    obtain ⟨authorization, auth, hauth, rfl⟩ := generateAuthorizationHeader_ok hok rfl
    rw [setHeader_fill, authorized_fill]
    exact hfilled _ _ rfl rfl rfl hauth

theorem Filled.sessions {slot : RtspClient} (h : Filled env slot built method userdata) :
    built.sessions = slot.sessions := by
  rw [h.same]

theorem markTeardown_outcome {called : Called} {session : RtspClientSession}
    (hsession : client.findSession session.addr = some session)
    (h : CallOutcome env client .teardown userdata timeoutMs internal stages none called) :
    CallOutcome env client .teardown userdata timeoutMs internal stages (some session)
      (markTeardown called session.addr internal) := by
  cases h with
  | refused e hclaims => exact .refused e hclaims
  | claimed e hclaim hclaims hlookups => exact .claimed e hclaim hclaims hlookups
  | unnumbered e hclaim hclaims hlookups hreserves hunset =>
      exact .unnumbered e hclaim hclaims hlookups hreserves hunset
  | unsent e hclaim hclaims hlookups hreserves hfilled =>
      exact .unsent e hclaim hclaims hlookups hreserves hfilled
  | @sent built message hclaim hmethod hfilled hagent hsock hsend =>
      have hfind : (sentClient built timeoutMs).findSession session.addr = some session := by
        change RecordList.lookup RtspClientSession.addr session.addr built.sessions = some session
        rw [hfilled.sessions]
        exact hsession
      unfold markTeardown
      rw [hfind]
      exact .tearsDown message hclaim hmethod rfl hfilled hagent hsock hsend hsession

/-! ## SETUP -/

theorem succ_ne (i : UInt8) : i ≠ i + 1 := by
  intro h
  have hnat := congrArg UInt8.toNat h
  rw [UInt8.toNat_add] at hnat
  change i.toNat = (i.toNat + 1) % 256 at hnat
  have := i.toNat_lt
  omega

/-- The channels found are a pair of free ones, and are marked. -/
theorem allocateInterleavedChannels_ok {channelUsed used : UInt8 → Bool}
    {pair found : RtspChannelPair}
    (h : allocateInterleavedChannels channelUsed pair = .ok (.ok (found, used))) :
    found.isValid = true ∧ used = setChannelPairUsed channelUsed found true ∧
      channelUsed found.rtp = false ∧ channelUsed found.rtcp = false := by
  unfold allocateInterleavedChannels at h
  split at h
  next hvalid =>
    split at h
    next => cases h
    next hfree =>
      cases h
      rw [not_or, Bool.not_eq_true, Bool.not_eq_true] at hfree
      exact ⟨hvalid, rfl, hfree.1, hfree.2⟩
  next =>
    split at h
    next => cases h
    next i hfind =>
      cases h
      have hfree := List.find?_some hfind
      simp only [Bool.not_eq_true, Bool.decide_and, Bool.and_eq_true, decide_eq_true_eq] at hfree
      exact ⟨decide_eq_true (succ_ne i), rfl, hfree.1, hfree.2⟩

/-- The client with the SETUP request filled in. -/
def fillSetup (slot : RtspClient) (header : RtspRequestHeader) (uri base : Bytes)
    (userdata : Nat) (auth : Option RtspAuthorizationHeader) (channelUsed : UInt8 → Bool) :
    RtspClient :=
  { slot with
    auth
    channelUsed
    request :=
      { slot.request with header, uri := some uri, contentBase := some base, userdata } }

theorem setupRequest_fill (slot : RtspClient) (uri base : Bytes) :
    setupRequest slot uri base userdata =
      fillSetup slot { method := .setup, uri := some uri, cseq := slot.cseq.toInt32 } uri base
        userdata slot.auth slot.channelUsed := rfl

theorem setHeader_fillSetup (slot : RtspClient) (header header' : RtspRequestHeader)
    (uri base : Bytes) (auth : Option RtspAuthorizationHeader) (channelUsed : UInt8 → Bool) :
    (fillSetup slot header uri base userdata auth channelUsed).setHeader header' =
      fillSetup slot header' uri base userdata auth channelUsed := rfl

theorem authorized_fillSetup (slot : RtspClient) (header : RtspRequestHeader) (uri base : Bytes)
    (auth auth' : Option RtspAuthorizationHeader) (channelUsed : UInt8 → Bool) :
    { fillSetup slot header uri base userdata auth channelUsed with auth := auth' } =
      fillSetup slot header uri base userdata auth' channelUsed := rfl

theorem filled_setup {slot : RtspClient} {header : RtspRequestHeader} {uri base : Bytes}
    {auth : Option RtspAuthorizationHeader} {channelUsed : UInt8 → Bool}
    (hmethod : header.method = .setup) (hnumber : header.cseq = slot.cseq.toInt32)
    (hauth : Authorized env slot.auth header.authorization auth)
    (hchannels : channelUsed = setChannelPairUsed slot.channelUsed (requestedChannels header) true)
    (hfree : (requestedChannels header).isValid = true →
      slot.channelUsed (requestedChannels header).rtp = false ∧
        slot.channelUsed (requestedChannels header).rtcp = false) :
    Filled env slot (fillSetup slot header uri base userdata auth channelUsed) .setup
      userdata where
  same := rfl
  sameMethod := hmethod
  number := hnumber
  auth := hauth
  channels := hchannels
  free := hfree
  contentBase := rfl

theorem setupRequest_filled (slot : RtspClient) (uri base : Bytes) :
    Filled env slot (setupRequest slot uri base userdata) .setup userdata := by
  rw [setupRequest_fill]
  refine filled_setup rfl rfl (.without _) rfl fun hvalid => ?_
  cases hvalid

/-- A copied extension leaves the channels a SETUP asks for. -/
theorem requestedChannels_copyExt (ext : List RtspHeaderExt) (header : RtspRequestHeader) :
    requestedChannels (rtspRequestHeaderCopyExt ext header) = requestedChannels header := by
  unfold rtspRequestHeaderCopyExt
  split
  next => rfl
  next => rfl

/-- The channels of a SETUP with one transport. -/
theorem requestedChannels_setup {header : RtspRequestHeader} (hmethod : header.method = .setup)
    (transport : RtspTransportHeader) (userAgent sessionId : Option Bytes) :
    requestedChannels { header with userAgent, transport := [transport], sessionId } =
      transportChannels transport := by
  unfold requestedChannels
  dsimp only
  rw [hmethod]

theorem fillSetup_header (slot : RtspClient) (header : RtspRequestHeader) (uri base : Bytes)
    (auth : Option RtspAuthorizationHeader) (channelUsed : UInt8 → Bool) :
    (fillSetup slot header uri base userdata auth channelUsed).request.header = header := rfl

/-! ## The request functions -/

theorem checkMethod_ok (h : checkMethod client method = .ok ()) :
    client.cbs.resp method = true := by
  unfold checkMethod at h
  split at h
  next => cases h
  next hresp => simpa using hresp

/-- A call whose first checks fail is refused. -/
theorem refused_outcome {call : ClientCall} {marked : Option RtspClientSession} (e : Errno)
    (h : ∀ slot, call.argsValid = true → checkMethod client call.method = .ok () →
      claimSlot client = .ok slot → False) :
    CallOutcome env client method userdata timeoutMs internal (call.stages env client) marked
      (.failed client e) :=
  .refused e fun hclaims => h _ hclaims.1 hclaims.2.1 hclaims.2.2

/-- The part of a SETUP from the transport on. -/
theorem submitSetup_outcome {asked : SetupArgs} {args : RequestArgs}
    {header : RtspRequestHeader} {uri base : Bytes} {auth : Option RtspAuthorizationHeader}
    {called : Called} (hclaim : claimSlot client = .ok (claimed client))
    (hmethod : client.cbs.resp .setup = true) (hclaims : stages.claims)
    (hlookups : stages.lookups)
    (hreserves : stages.reserves ↔
      asked.lowerTransport = .tcp ∧ 2 ≤ countChannelUnused client.channelUsed ∧
        ∃ found, allocateInterleavedChannels client.channelUsed (setupPair asked) =
          .ok (.ok found))
    (hheader : header.method = .setup) (hnumber : header.cseq = (claimed client).cseq.toInt32)
    (hauth : Authorized env (claimed client).auth header.authorization auth)
    (h : submitSetup P env
        (fillSetup (claimed client) header uri base userdata auth client.channelUsed) asked args =
      .ok called) :
    CallOutcome env client .setup userdata args.timeoutMs internal stages none called := by
  -- whatever the transport, the request differs in its channels only
  have hfilled : ∀ (transport : RtspTransportHeader) (sessionId : Option Bytes)
      (channelUsed : UInt8 → Bool),
      channelUsed = setChannelPairUsed client.channelUsed (transportChannels transport) true →
      ((transportChannels transport).isValid = true →
        client.channelUsed (transportChannels transport).rtp = false ∧
          client.channelUsed (transportChannels transport).rtcp = false) →
      Filled env (claimed client)
        (fillSetup (claimed client)
          { header with
            userAgent := some (claimed client).softwareName
            transport := [transport]
            sessionId } uri base userdata auth channelUsed) .setup userdata := by
    intro transport sessionId channelUsed hchannels hfree
    refine filled_setup ?_ ?_ ?_ ?_ ?_
    · exact hheader
    · exact hnumber
    · exact hauth
    · rw [requestedChannels_setup hheader]
      exact hchannels
    · rw [requestedChannels_setup hheader]
      exact hfree
  have hrefused : ∀ (transport : RtspTransportHeader) (e : Errno),
      (transportChannels transport).isValid = false → ¬ stages.reserves →
      CallOutcome env client .setup userdata args.timeoutMs internal stages none
        (.failed
          (fillSetup (claimed client)
            { header with
              userAgent := some (claimed client).softwareName
              transport := [transport] } uri base userdata auth client.channelUsed) e) := by
    intro transport e hnone hnot
    refine .unsent e hclaim hclaims hlookups ?_
      (hfilled transport header.sessionId client.channelUsed ?_ ?_)
    · rw [fillSetup_header, requestedChannels_setup hheader, hnone]
      exact ⟨fun hvalid => absurd hvalid (by decide), fun h => absurd h hnot⟩
    · unfold setChannelPairUsed
      rw [hnone]
      rfl
    · intro hvalid
      rw [hnone] at hvalid
      cases hvalid
  have hsubmitted : ∀ (transport : RtspTransportHeader) (channelUsed : UInt8 → Bool),
      channelUsed = setChannelPairUsed client.channelUsed (transportChannels transport) true →
      ((transportChannels transport).isValid = true →
        client.channelUsed (transportChannels transport).rtp = false ∧
          client.channelUsed (transportChannels transport).rtcp = false) →
      ((transportChannels transport).isValid = true ↔ stages.reserves) →
      CallOutcome env client .setup userdata args.timeoutMs internal stages none
        (submitRequest P env
          (fillSetup (claimed client)
            (rtspRequestHeaderCopyExt args.ext
              { header with
                userAgent := some (claimed client).softwareName
                transport := [transport]
                sessionId := asked.sessionId }) uri base userdata auth channelUsed)
          none args.timeoutMs) := by
    intro transport channelUsed hchannels hfree hvalid
    have hcopy : PlainFields (rtspRequestHeaderCopyExt args.ext) :=
      @PlainFields.copyExt id
        ⟨fun _ => rfl, fun _ => rfl, fun _ => rfl, fun _ => rfl, fun _ => rfl⟩ args.ext
    apply submitRequest_outcome hclaim hmethod hclaims hlookups
    · rw [fillSetup_header, requestedChannels_copyExt, requestedChannels_setup hheader]
      exact hvalid
    · apply filled_setup
      · rw [hcopy.method]
        exact hheader
      · rw [hcopy.cseq]
        exact hnumber
      · rw [hcopy.authorization]
        exact hauth
      · rw [requestedChannels_copyExt, requestedChannels_setup hheader]
        exact hchannels
      · rw [requestedChannels_copyExt, requestedChannels_setup hheader]
        exact hfree
    · exact hcopy.userAgent _
  unfold submitSetup at h
  dsimp only at h
  split at h
  next htcp =>
    split at h
    next hfew =>
      cases h
      rw [setHeader_fillSetup]
      apply hrefused
      · unfold transportChannels
        split
        next => rfl
        next => rfl
      · rw [hreserves]
        rintro ⟨-, hmany, -⟩
        have hfew : countChannelUnused client.channelUsed < 2 := hfew
        omega
    next hmany =>
      have hmany : 2 ≤ countChannelUnused client.channelUsed := not_lt.mp hmany
      split at h
      next => cases h
      next e hallocate =>
        cases h
        rw [setHeader_fillSetup]
        apply hrefused
        · unfold transportChannels
          split
          next => rfl
          next => rfl
        · rw [hreserves]
          rintro ⟨-, -, found, hfound⟩
          cases hallocate.symm.trans hfound
      next pair channelUsed hallocate =>
        cases h
        obtain ⟨hvalid, hused, hfree⟩ := allocateInterleavedChannels_ok hallocate
        have hpair : transportChannels
            { setupRequestTransport asked with interleaved := [pair] } = pair := by
          unfold transportChannels setupRequestTransport
          rw [if_pos htcp]
          rfl
        refine hsubmitted { setupRequestTransport asked with interleaved := [pair] } channelUsed
          ?_ ?_ ?_
        · rw [hpair]
          exact hused
        · rw [hpair]
          exact fun _ => hfree
        · rw [hpair, hreserves]
          exact ⟨fun _ => ⟨htcp, hmany, _, hallocate⟩, fun _ => hvalid⟩
  next hudp =>
    cases h
    have hnone : transportChannels
        { setupRequestTransport asked with
          dstStreamPort := asked.clientStreamPort
          dstControlPort := asked.clientControlPort } = { rtp := 0, rtcp := 0 } := by
      unfold transportChannels setupRequestTransport
      rw [if_neg hudp]
    refine hsubmitted
      { setupRequestTransport asked with
        dstStreamPort := asked.clientStreamPort
        dstControlPort := asked.clientControlPort } client.channelUsed ?_ ?_ ?_
    · rw [hnone]
      rfl
    · rw [hnone]
      intro hvalid
      cases hvalid
    · rw [hnone, hreserves]
      exact ⟨fun hvalid => absurd hvalid (by decide), fun h => absurd h.1 hudp⟩

/-- With a base the request URI can be made. -/
theorem formatRequestUri_base (base controlUrl : Bytes) :
    ∃ uri, formatRequestUri (some base) controlUrl = .ok uri := by
  unfold formatRequestUri
  split
  next => exact ⟨_, rfl⟩
  next => exact ⟨_, rfl⟩

theorem rtspClientSetup_outcome {asked : SetupArgs} {args : RequestArgs} {called : Called}
    (h : rtspClientSetup P env client asked args = .ok called) :
    ∃ called', CallOutcome env client .setup args.userdata args.timeoutMs false
        ((ClientCall.setup asked args).stages env client) none called' ∧
      called = called'.accept .setup args.userdata := by
  unfold rtspClientSetup at h
  split at h
  next base resource hbase hresource =>
    have hgiven : asked.contentBase = some base := nonEmpty_some hbase
    have hargs : (ClientCall.setup asked args).argsValid = setupPortsValid asked := by
      simp only [ClientCall.argsValid, hbase, hresource, Option.isSome_some, Bool.and_true,
        Bool.true_and]
    split at h
    next hports =>
      cases h
      refine ⟨_, refused_outcome .einval fun slot hvalid _ _ => ?_, rfl⟩
      rw [hargs] at hvalid
      exact hports hvalid
    next hports =>
      rw [not_not] at hports
      split at h
      next herror =>
        cases h
        refine ⟨_, refused_outcome _ fun slot _ hcheck _ => ?_, rfl⟩
        cases hcheck.symm.trans herror
      next herror _ =>
        cases h
        refine ⟨_, refused_outcome _ fun slot _ _ hslot => ?_, rfl⟩
        cases hslot.symm.trans herror
      next slot hcheck hslot =>
        obtain ⟨rfl, -⟩ := claimSlot_ok hslot
        have hclaims : ((ClientCall.setup asked args).stages env client).claims :=
          ⟨hargs.trans hports, hcheck, hslot⟩
        split at h
        next herror =>
          cases h
          refine ⟨_, .claimed _ hslot hclaims ?_, rfl⟩
          rintro ⟨base', hstrip, -⟩
          rw [hgiven] at hstrip
          cases hstrip.symm.trans herror
        next stripped hstrip =>
          split at h
          next => cases h
          next e hsession =>
            cases h
            refine ⟨_, .claimed _ hslot hclaims ?_, rfl⟩
            rintro ⟨base', hstrip', hsession'⟩
            rw [hgiven, hstrip] at hstrip'
            cases hstrip'
            cases hsession.symm.trans hsession'
          next hsession =>
            have hlookups : ((ClientCall.setup asked args).stages env client).lookups := by
              refine ⟨stripped, ?_, hsession⟩
              rw [hgiven]
              exact hstrip
            split at h
            next e hformat =>
              obtain ⟨uri, huri⟩ := formatRequestUri_base stripped resource
              cases hformat.symm.trans huri
            next uri hformat =>
              dsimp only at h
              split at h
              next => cases h
              next e hauth =>
                cases h
                refine ⟨_, .unsent _ hslot hclaims hlookups ?_
                  (setupRequest_filled (claimed client) uri stripped), rfl⟩
                refine ⟨fun hvalid => (by cases hvalid), ?_⟩
                rintro ⟨-, -, -, base', resource', uri', authorized, hstrip', hresource', huri,
                  hauthorized⟩
                rw [hgiven, hstrip] at hstrip'
                cases hstrip'
                rw [nonEmpty_some hresource] at hresource'
                cases hresource'
                rw [hformat] at huri
                cases huri
                cases hauth.symm.trans hauthorized
              next authorized hauth =>
                rw [except_map_ok] at h
                obtain ⟨called', hcalled, rfl⟩ := h
                refine ⟨called', ?_, rfl⟩
                obtain ⟨authorization, auth, hauthorized, rfl⟩ :=
                  generateAuthorizationHeader_ok hauth rfl
                rw [setupRequest_fill, setHeader_fillSetup, authorized_fillSetup] at hcalled
                change Authorized env (claimed client).auth authorization auth at hauthorized
                refine submitSetup_outcome hslot (checkMethod_ok hcheck) hclaims hlookups ?_ rfl
                  rfl hauthorized hcalled
                constructor
                · rintro ⟨htcp, hmany, hfound, -⟩
                  exact ⟨htcp, hmany, hfound⟩
                · rintro ⟨htcp, hmany, hfound⟩
                  refine ⟨htcp, hmany, hfound, stripped, resource, uri, _, ?_,
                    nonEmpty_some hresource, hformat, hauth⟩
                  rw [hgiven]
                  exact hstrip
  next hmissing =>
    cases h
    refine ⟨_, refused_outcome .einval fun slot hvalid _ _ => ?_, rfl⟩
    simp only [ClientCall.argsValid, Bool.and_eq_true, Option.isSome_iff_exists] at hvalid
    obtain ⟨⟨⟨base, hbase⟩, resource, hresource⟩, -⟩ := hvalid
    exact hmissing base resource hbase hresource

section Functions

variable (client) (args : RequestArgs)

theorem rtspClientOptions_outcome :
    ∃ called, CallOutcome env client .options args.userdata args.timeoutMs false
        ((ClientCall.options args).stages env client) none called ∧
      rtspClientOptions P env client args = called.accept .options args.userdata := by
  unfold rtspClientOptions
  split
  next herror =>
    exact ⟨_, refused_outcome _ fun slot _ hcheck _ => (by cases hcheck.symm.trans herror), rfl⟩
  next herror _ =>
    exact ⟨_, refused_outcome _ fun slot _ _ hslot => (by cases hslot.symm.trans herror), rfl⟩
  next slot hcheck hslot =>
    obtain ⟨rfl, -⟩ := claimSlot_ok hslot
    refine ⟨_, ?_, rfl⟩
    have hcopy : PlainFields (rtspRequestHeaderCopyExt args.ext) :=
      @PlainFields.copyExt id
        ⟨fun _ => rfl, fun _ => rfl, fun _ => rfl, fun _ => rfl, fun _ => rfl⟩ args.ext
    rw [numberRequest_fill, setHeader_fill]
    have hclaims : ((ClientCall.options args).stages env client).claims := ⟨rfl, hcheck, hslot⟩
    apply submitRequest_outcome hslot (checkMethod_ok hcheck) hclaims trivial
    · unfold fillRequest
      rw [requestedChannels_nil (hcopy.transport _)]
      exact ⟨fun hvalid => absurd hvalid (by decide), False.elim⟩
    · apply filled_plain
      · intro hsetup
        cases hsetup
      · rw [hcopy.method]
        rfl
      · rw [hcopy.cseq]
        rfl
      · rw [hcopy.transport]
        rfl
      · rw [hcopy.authorization]
        exact .without _
    · exact hcopy.userAgent _

theorem rtspClientDescribe_outcome (path : Option Bytes) {called : Called}
    (h : rtspClientDescribe P env client path args = .ok called) :
    ∃ called', CallOutcome env client .describe args.userdata args.timeoutMs false
        ((ClientCall.describe path args).stages env client) none called' ∧
      called = called'.accept .describe args.userdata := by
  unfold rtspClientDescribe at h
  split at h
  next herror =>
    cases h
    exact ⟨_, refused_outcome _ fun slot _ hcheck _ => (by cases hcheck.symm.trans herror), rfl⟩
  next herror _ =>
    cases h
    exact ⟨_, refused_outcome _ fun slot _ _ hslot => (by cases hslot.symm.trans herror), rfl⟩
  next slot hcheck hslot =>
    obtain ⟨rfl, -⟩ := claimSlot_ok hslot
    obtain ⟨called', hcalled, rfl⟩ := except_map_ok.mp h
    refine ⟨called', ?_, rfl⟩
    apply completeRequest_outcome hslot (checkMethod_ok hcheck) _ _ _ _ _ hcalled
    · intro hsetup
      cases hsetup
    · exact ⟨rfl, hcheck, hslot⟩
    · trivial
    · exact id
    · exact ⟨fun _ => rfl, fun _ => rfl, fun _ => rfl, fun _ => rfl, fun _ => rfl⟩

theorem rtspClientAnnounce_outcome (path sessionDescription : Option Bytes) {called : Called}
    (h : rtspClientAnnounce P env client path sessionDescription args = .ok called) :
    ∃ called', CallOutcome env client .announce args.userdata args.timeoutMs false
        ((ClientCall.announce path sessionDescription args).stages env client) none called' ∧
      called = called'.accept .announce args.userdata := by
  have hvalid : ∀ description, nonEmpty sessionDescription = some description →
      (ClientCall.announce path sessionDescription args).argsValid =
        decide (description.length < rtspSessionDescriptionMaxLen) := by
    intro description hdescription
    simp only [ClientCall.argsValid, hdescription, Option.any_some]
  unfold rtspClientAnnounce at h
  split at h
  next hnone =>
    cases h
    refine ⟨_, refused_outcome .einval fun slot hargs _ _ => ?_, rfl⟩
    simp [ClientCall.argsValid, hnone] at hargs
  next description hdescription =>
    split at h
    next herror =>
      cases h
      exact ⟨_, refused_outcome _ fun slot _ hcheck _ => (by cases hcheck.symm.trans herror), rfl⟩
    next hcheck =>
      split at h
      next hlong =>
        cases h
        refine ⟨_, refused_outcome .einval fun slot hargs _ _ => ?_, rfl⟩
        rw [hvalid description hdescription, decide_eq_true_iff] at hargs
        omega
      next hshort =>
        split at h
        next herror =>
          cases h
          exact ⟨_, refused_outcome _ fun slot _ _ hslot => (by cases hslot.symm.trans herror), rfl⟩
        next slot hslot =>
          obtain ⟨rfl, -⟩ := claimSlot_ok hslot
          obtain ⟨called', hcalled, rfl⟩ := except_map_ok.mp h
          refine ⟨called', ?_, rfl⟩
          apply completeRequest_outcome hslot (checkMethod_ok hcheck) _ _ _ _ _ hcalled
          · intro hsetup
            cases hsetup
          · refine ⟨?_, hcheck, hslot⟩
            rw [hvalid description hdescription, decide_eq_true_iff]
            omega
          · trivial
          · exact id
          · exact ⟨fun _ => rfl, fun _ => rfl, fun _ => rfl, fun _ => rfl, fun _ => rfl⟩

/-- PLAY, PAUSE and RECORD. -/
theorem sessionCall_outcome (hsetup : method ≠ .setup) (sessionId : Option Bytes)
    (asked : Option RtspRange) (scale : UInt32)
    (hclaims : stages.claims ↔ ((nonEmpty sessionId).isSome && asked.isSome) = true ∧
      checkMethod client method = .ok () ∧ claimSlot client = .ok (claimed client))
    (hlookups : stages.lookups ↔ (rtspClientSessionFind client sessionId).isSome = true)
    (hreserves : ¬ stages.reserves) {called : Called}
    (h : sessionCall P env method client sessionId asked scale args = .ok called) :
    ∃ called', CallOutcome env client method args.userdata args.timeoutMs false stages none
        called' ∧
      called = called'.accept method args.userdata := by
  unfold sessionCall at h
  split at h
  next id range' hid =>
    split at h
    next herror =>
      cases h
      refine ⟨_, .refused _ fun h => ?_, rfl⟩
      cases (hclaims.mp h).2.1.symm.trans herror
    next herror _ =>
      cases h
      refine ⟨_, .refused _ fun h => ?_, rfl⟩
      cases (hclaims.mp h).2.2.symm.trans herror
    next slot hcheck hslot =>
      obtain ⟨rfl, -⟩ := claimSlot_ok hslot
      have hentered : stages.claims := by
        rw [hclaims, hid]
        exact ⟨rfl, hcheck, hslot⟩
      split at h
      next hunknown =>
        cases h
        refine ⟨_, .claimed .enoent hslot hentered fun h => ?_, rfl⟩
        rw [hlookups, nonEmpty_some hid] at h
        change (rtspClientSessionFind client (some id)) = none at hunknown
        rw [hunknown] at h
        cases h
      next session hfind =>
        obtain ⟨called', hcalled, rfl⟩ := except_map_ok.mp h
        refine ⟨called', ?_, rfl⟩
        apply completeRequest_outcome hslot (checkMethod_ok hcheck) hsetup hentered _ _ _ hcalled
        · rw [hlookups, nonEmpty_some hid]
          change (rtspClientSessionFind client (some id)) = some session at hfind
          rw [hfind]
          rfl
        · exact hreserves
        · exact ⟨fun _ => rfl, fun _ => rfl, fun _ => rfl, fun _ => rfl, fun _ => rfl⟩
  next asked _ _ hargs =>
    cases h
    refine ⟨_, .refused .einval fun h => ?_, rfl⟩
    have hsome := (hclaims.mp h).1
    cases hid : nonEmpty sessionId with
    | none =>
        rw [hid] at hsome
        cases hsome
    | some id =>
        cases hasked : asked with
        | none =>
            rw [hasked, Bool.and_eq_true] at hsome
            cases hsome.2
        | some range => exact hargs id range hid hasked

/-- The session a teardown names is the one it marks. -/
theorem sendTeardown_outcome (hkeys : (client.sessions.map RtspClientSession.addr).Nodup)
    (resourceUrl sessionId : Option Bytes)
    (hclaims : stages.claims ↔ (nonEmpty sessionId).isSome = true ∧
      checkMethod client .teardown = .ok () ∧ claimSlot client = .ok (claimed client))
    (hlookups : stages.lookups ↔ (rtspClientSessionFind client sessionId).isSome = true)
    (hreserves : ¬ stages.reserves) {called : Called}
    (h : sendTeardown P env client resourceUrl sessionId args internal = .ok called) :
    ∃ marked, CallOutcome env client .teardown args.userdata args.timeoutMs internal stages marked
      called := by
  unfold sendTeardown at h
  split at h
  next hnone =>
    cases h
    refine ⟨none, .refused .einval fun h => ?_⟩
    have hsome := (hclaims.mp h).1
    rw [hnone] at hsome
    cases hsome
  next id hid =>
    split at h
    next herror =>
      cases h
      refine ⟨none, .refused _ fun h => ?_⟩
      cases (hclaims.mp h).2.1.symm.trans herror
    next herror _ =>
      cases h
      refine ⟨none, .refused _ fun h => ?_⟩
      cases (hclaims.mp h).2.2.symm.trans herror
    next slot hcheck hslot =>
      obtain ⟨rfl, -⟩ := claimSlot_ok hslot
      have hentered : stages.claims := by
        rw [hclaims, hid]
        exact ⟨rfl, hcheck, hslot⟩
      split at h
      next hunknown =>
        cases h
        refine ⟨none, .claimed .enoent hslot hentered fun h => ?_⟩
        rw [hlookups, nonEmpty_some hid] at h
        change (rtspClientSessionFind client (some id)) = none at hunknown
        rw [hunknown] at h
        cases h
      next session hfind =>
        change (rtspClientSessionFind client (some id)) = some session at hfind
        have hfound : stages.lookups := by
          rw [hlookups, nonEmpty_some hid, hfind]
          rfl
        dsimp only at h
        split at h
        next e huri =>
          cases h
          exact ⟨none, .unnumbered e hslot hentered hfound hreserves (by simp)⟩
        next uri huri =>
          have hsession : client.findSession session.addr = some session :=
            RecordList.lookup_of_mem hkeys (List.mem_of_find?_eq_some hfind)
          obtain ⟨called', hcalled, rfl⟩ := except_map_ok.mp h
          refine ⟨some session, markTeardown_outcome hsession ?_⟩
          apply completeRequest_outcome hslot (checkMethod_ok hcheck) _ _ _ _ _ hcalled
          · intro hsetup
            cases hsetup
          · exact hentered
          · exact hfound
          · exact hreserves
          · exact ⟨fun _ => rfl, fun _ => rfl, fun _ => rfl, fun _ => rfl, fun _ => rfl⟩

end Functions

/-! ## Calls that do not return -/

/-- Only the authorization of a request may not come to an end. -/
theorem completeRequest_halts {tolerated : Errno → Bool} {args : RequestArgs}
    {fields : RtspRequestHeader → RtspRequestHeader} {content : Option Bytes} {halt : ClientHalt}
    (h : completeRequest P env client tolerated args fields content = .error halt) :
    ∃ f, halt = .fault f := by
  unfold completeRequest at h
  dsimp only at h
  split at h
  next f hfault =>
    cases h
    exact ⟨f, rfl⟩
  next => cases h
  next => cases h

theorem sessionCall_halts {sessionId : Option Bytes} {asked : Option RtspRange} {scale : UInt32}
    {args : RequestArgs} {halt : ClientHalt}
    (h : sessionCall P env method client sessionId asked scale args = .error halt) :
    ∃ f, halt = .fault f := by
  unfold sessionCall at h
  split at h
  next =>
    split at h
    next => cases h
    next => cases h
    next =>
      split at h
      next => cases h
      next => exact completeRequest_halts (except_map_error.mp h)
  next => cases h

theorem sendTeardown_halts {resourceUrl sessionId : Option Bytes} {args : RequestArgs}
    {halt : ClientHalt}
    (h : sendTeardown P env client resourceUrl sessionId args internal = .error halt) :
    ∃ f, halt = .fault f := by
  unfold sendTeardown at h
  split at h
  next => cases h
  next =>
    split at h
    next => cases h
    next => cases h
    next =>
      split at h
      next => cases h
      next =>
        dsimp only at h
        split at h
        next => cases h
        next => exact completeRequest_halts (except_map_error.mp h)

theorem rtspClientDescribe_halts {path : Option Bytes} {args : RequestArgs} {halt : ClientHalt}
    (h : rtspClientDescribe P env client path args = .error halt) : ∃ f, halt = .fault f := by
  unfold rtspClientDescribe at h
  split at h
  next => cases h
  next => cases h
  next => exact completeRequest_halts (except_map_error.mp h)

theorem rtspClientAnnounce_halts {path sessionDescription : Option Bytes} {args : RequestArgs}
    {halt : ClientHalt}
    (h : rtspClientAnnounce P env client path sessionDescription args = .error halt) :
    ∃ f, halt = .fault f := by
  unfold rtspClientAnnounce at h
  split at h
  next => cases h
  next =>
    split at h
    next => cases h
    next =>
      split at h
      next => cases h
      next =>
        split at h
        next => cases h
        next => exact completeRequest_halts (except_map_error.mp h)

theorem sendKeepAlive_halts {session : RtspClientSession} {halt : ClientHalt}
    (h : sendKeepAlive P env client session = .error halt) : ∃ f, halt = .fault f := by
  unfold sendKeepAlive at h
  split at h
  next => cases h
  next =>
    split at h
    next =>
      dsimp only at h
      split at h
      next => cases h
      next => cases h
    next =>
      split at h
      next => cases h
      next =>
        split at h
        next => cases h
        next =>
          dsimp only at h
          split at h
          next f hfault =>
            cases h
            exact ⟨f, rfl⟩
          next => cases h
          next =>
            split at h
            next => cases h
            next => cases h
            next => cases h

/-- What a call of a request function does. -/
theorem callRequest_outcome {call : ClientCall} {called : Called}
    (hkeys : (client.sessions.map RtspClientSession.addr).Nodup)
    (h : callRequest P env client call = .ok called) :
    ∃ marked called', CallOutcome env client call.method call.args.userdata call.args.timeoutMs
        false (call.stages env client) marked called' ∧
      called = called'.accept call.method call.args.userdata := by
  cases call with
  | options args =>
      cases h
      exact ⟨none, rtspClientOptions_outcome client args⟩
  | describe path args => exact ⟨none, rtspClientDescribe_outcome client args path h⟩
  | announce path sessionDescription args =>
      exact ⟨none, rtspClientAnnounce_outcome client args path sessionDescription h⟩
  | setup asked args => exact ⟨none, rtspClientSetup_outcome h⟩
  | play sessionId range scale args =>
      refine ⟨none, sessionCall_outcome client args ?_ sessionId range scale .rfl .rfl id h⟩
      intro hsetup
      cases hsetup
  | pause sessionId range args =>
      refine ⟨none, sessionCall_outcome client args ?_ sessionId range 0 .rfl .rfl id h⟩
      intro hsetup
      cases hsetup
  | record sessionId range args =>
      refine ⟨none, sessionCall_outcome client args ?_ sessionId range 0 .rfl .rfl id h⟩
      intro hsetup
      cases hsetup
  | teardown resourceUrl sessionId args =>
      obtain ⟨called', hcalled, rfl⟩ := except_map_ok.mp h
      obtain ⟨marked, houtcome⟩ :=
        @sendTeardown_outcome P env client false
          ((ClientCall.teardown resourceUrl sessionId args).stages env client) args hkeys
          resourceUrl sessionId .rfl .rfl id _ hcalled
      exact ⟨marked, _, houtcome, rfl⟩

end Outcome

end Librtsp
