import Librtsp.ClientOutcome

/-!
# The URI of a request

Where a request function takes the URI of its request from: the URL of the connection, the
content base of the session, or a resource URL, which is joined to the content base unless it
is an absolute one.  A Digest repeats this URI.
-/

namespace Librtsp

open CString

section Uris

variable {P : Platform} {env : ClientEnv} {client : RtspClient} {source : Option Bytes → Prop}

/-! ## What is sent -/

def sentHeaders (events : List ClientEvent) : List RtspRequestHeader :=
  events.filterMap fun
    | .sent header _ => some header
    | _ => none

@[simp] theorem sentHeaders_nil : sentHeaders [] = [] := rfl

@[simp] theorem sentHeaders_append (events events' : List ClientEvent) :
    sentHeaders (events ++ events') = sentHeaders events ++ sentHeaders events' :=
  List.filterMap_append

@[simp] theorem sentHeaders_sent (header : RtspRequestHeader) (message : Bytes)
    (events : List ClientEvent) :
    sentHeaders (.sent header message :: events) = header :: sentHeaders events := rfl

theorem sentHeaders_accept (called : Called) (method : RtspMethodType) (userdata : Nat) :
    sentHeaders (called.accept method userdata).events = sentHeaders called.events := by
  unfold Called.accept
  split
  next => rfl
  next => simp [sentHeaders]

/-- The URI of the header comes from the source, and a Digest repeats it. -/
def RtspRequestHeader.Addressed (header : RtspRequestHeader) (source : Option Bytes → Prop) :
    Prop :=
  source header.uri ∧ ∀ auth ∈ header.authorization, auth.type = .digest → auth.uri = header.uri

/-- Every request among the events is addressed from the source. -/
def SentTo (source : Option Bytes → Prop) (events : List ClientEvent) : Prop :=
  ∀ header message, .sent header message ∈ events → header.Addressed source

theorem SentTo.nil : SentTo source [] := fun _ _ h => nomatch h

theorem SentTo.one {header : RtspRequestHeader} (h : header.Addressed source) (message : Bytes) :
    SentTo source [.sent header message] := by
  intro header' message' hmem
  rw [List.mem_singleton] at hmem
  cases hmem
  exact h

theorem mem_sentHeaders {events : List ClientEvent} {header : RtspRequestHeader} :
    header ∈ sentHeaders events ↔ ∃ message, .sent header message ∈ events := by
  unfold sentHeaders
  rw [List.mem_filterMap]
  constructor
  · rintro ⟨event, hevent, hheader⟩
    cases event with
    | sent header' message =>
        cases hheader
        exact ⟨message, hevent⟩
    | _ => cases hheader
  · rintro ⟨message, hsent⟩
    exact ⟨_, hsent, rfl⟩

theorem SentTo.of_unsent {events : List ClientEvent} (h : sentHeaders events = []) :
    SentTo source events := by
  intro header message hmem
  have hsent := mem_sentHeaders.mpr ⟨message, hmem⟩
  rw [h] at hsent
  cases hsent

theorem SentTo.append {events events' : List ClientEvent} (h : SentTo source events)
    (h' : SentTo source events') : SentTo source (events ++ events') := by
  intro header message hmem
  rcases List.mem_append.mp hmem with hmem | hmem
  · exact h header message hmem
  · exact h' header message hmem

theorem SentTo.mono {events : List ClientEvent} {source' : Option Bytes → Prop}
    (h : SentTo source events) (himp : ∀ uri, source uri → source' uri) :
    SentTo source' events :=
  fun header message hmem => ⟨himp _ (h header message hmem).1, (h header message hmem).2⟩

theorem SentTo.accept {called : Called} (h : SentTo source called.events)
    (method : RtspMethodType) (userdata : Nat) :
    SentTo source (called.accept method userdata).events := by
  unfold Called.accept
  split
  next => exact h
  next =>
    apply h.append
    intro header message hmem
    rw [List.mem_singleton] at hmem
    cases hmem

theorem sendRequest_uris {client' : RtspClient} {content : Option Bytes} {timeoutMs : UInt32}
    {events : List ClientEvent} (haddressed : client.request.header.Addressed source)
    (h : sendRequest P env client content timeoutMs = .ok (client', events)) :
    SentTo source events := by
  obtain ⟨-, -, ⟨message, rfl⟩, -⟩ := sendRequest_ok h
  exact .one haddressed message

theorem submitRequest_uris {content : Option Bytes} {timeoutMs : UInt32}
    (haddressed : client.request.header.Addressed source) :
    SentTo source (submitRequest P env client content timeoutMs).events := by
  unfold submitRequest
  split
  next => exact .nil
  next hsend => exact sendRequest_uris haddressed hsend

/-! ## Authorization -/

theorem rtspAuthGenerateDigestResponse_uri {auth auth' : RtspAuthorizationHeader} {pass : Bytes}
    {method : RtspMethodType}
    (h : rtspAuthGenerateDigestResponse env auth pass method = .ok auth') :
    auth'.uri = auth.uri := by
  obtain ⟨username, realm, uri, nonce, cnonce, ha1, ha2, response, -, rfl⟩ :=
    digestAnswer_ok.mp (rtspAuthGenerateDigestResponse_ok.mp h).1
  rfl

theorem authorize_uri {current auth : RtspAuthorizationHeader} {pass : Bytes}
    {header : RtspRequestHeader} (h : authorize env current pass header = .ok auth) :
    auth.type = .digest → auth.uri = header.uri := by
  intro hdigest
  unfold authorize at h
  split at h
  next htype =>
    split at h
    next =>
      obtain ⟨credentials, rfl⟩ := rtspAuthGenerateBasicResponse_ok (except_mapError_ok.mp h)
      rw [htype] at hdigest
      cases hdigest
    next =>
      cases h
      rw [htype] at hdigest
      cases hdigest
  next => exact rtspAuthGenerateDigestResponse_uri h
  next => cases h

/-- The authorization repeats the URI of its request. -/
theorem generateAuthorizationHeader_uri {client' : RtspClient}
    (h : generateAuthorizationHeader env client = .ok client')
    (hnone : client.request.header.authorization = none) :
    client'.request.contentBase = client.request.contentBase ∧
      client'.request.header.uri = client.request.header.uri ∧
        ∀ auth ∈ client'.request.header.authorization, auth.type = .digest →
          auth.uri = client.request.header.uri := by
  unfold generateAuthorizationHeader at h
  split at h
  next =>
    cases h
    rw [hnone]
    exact ⟨rfl, rfl, fun auth hauth => nomatch hauth⟩
  next current hauth =>
    split at h
    next => cases h
    next =>
      split at h
      next => cases h
      next =>
        split at h
        next => cases h
        next pass hpass =>
          split at h
          next => cases h
          next auth hauthorize =>
            cases h
            refine ⟨rfl, rfl, ?_⟩
            rintro auth' ⟨⟩
            exact authorize_uri hauthorize

/-! ## Request functions -/

/-- The fields a request function fills in after the URI. -/
structure KeepsUri (fields : RtspRequestHeader → RtspRequestHeader) : Prop where
  uri : ∀ header, (fields header).uri = header.uri
  authorization : ∀ header, (fields header).authorization = header.authorization

theorem KeepsUri.copyExt {fields : RtspRequestHeader → RtspRequestHeader}
    (h : KeepsUri fields) (ext : List RtspHeaderExt) :
    KeepsUri fun header => rtspRequestHeaderCopyExt ext (fields header) := by
  constructor
  · intro header
    unfold rtspRequestHeaderCopyExt
    split
    next => exact h.uri header
    next => exact h.uri header
  · intro header
    unfold rtspRequestHeaderCopyExt
    split
    next => exact h.authorization header
    next => exact h.authorization header

theorem KeepsUri.addressed {fields : RtspRequestHeader → RtspRequestHeader} (h : KeepsUri fields)
    {header : RtspRequestHeader} (haddressed : header.Addressed source) :
    (fields header).Addressed source := by
  unfold RtspRequestHeader.Addressed
  rw [h.uri, h.authorization]
  exact haddressed

theorem completeRequest_uris {tolerated : Errno → Bool} {args : RequestArgs}
    {fields : RtspRequestHeader → RtspRequestHeader} {content : Option Bytes} {called : Called}
    (hsource : source client.request.header.uri)
    (hnone : client.request.header.authorization = none) (hfields : KeepsUri fields)
    (h : completeRequest P env client tolerated args fields content = .ok called) :
    SentTo source called.events := by
  have hsubmit : ∀ filled : RtspClient, filled.request.header.Addressed source →
      SentTo source (submitRequest P env
        (filled.setHeader
          (rtspRequestHeaderCopyExt args.ext
            (fields { filled.request.header with userAgent := some filled.softwareName })))
        content args.timeoutMs).events := by
    intro filled haddressed
    exact submitRequest_uris ((hfields.copyExt args.ext).addressed haddressed)
  unfold completeRequest at h
  dsimp only at h
  split at h
  next => cases h
  next e herror =>
    cases h
    split
    next =>
      apply hsubmit
      refine ⟨hsource, ?_⟩
      rw [hnone]
      exact fun auth hauth => nomatch hauth
    next => exact .nil
  next authorized hauthorized =>
    cases h
    obtain ⟨-, huri, hdigest⟩ := generateAuthorizationHeader_uri hauthorized hnone
    apply hsubmit
    rw [← huri] at hsource hdigest
    exact ⟨hsource, hdigest⟩

/-- The URIs a request function may give its request. -/
def ClientCall.Addresses (env : ClientEnv) (client : RtspClient) :
    ClientCall → Option Bytes → Prop
  | .options _, uri => uri = some (ascii "*")
  | .describe path _, uri => uri = makeUri client path
  | .announce path _ _, uri => uri = makeUri client path
  | .setup asked _, uri =>
      ∃ base resource found, rtspUrlStripCredentials env.inetPton asked.contentBase = .ok base ∧
        nonEmpty asked.resourceUrl = some resource ∧
          formatRequestUri (some base) resource = .ok found ∧ uri = some found
  | .play _ _ _ _, uri => ∃ session ∈ client.sessions, uri = session.contentBase
  | .pause _ _ _, uri => ∃ session ∈ client.sessions, uri = session.contentBase
  | .record _ _ _, uri => ∃ session ∈ client.sessions, uri = session.contentBase
  | .teardown resourceUrl _ _, uri =>
      ∃ session ∈ client.sessions, teardownUri session resourceUrl = .ok uri

theorem sessionFind_claimed {sessionId : Option Bytes} {session : RtspClientSession}
    (h : rtspClientSessionFind (claimed client) sessionId = some session) :
    session ∈ client.sessions := by
  obtain ⟨id, -, hfind⟩ := Option.bind_eq_some_iff.mp h
  exact List.mem_of_find?_eq_some hfind

theorem sessionCall_uris {method : RtspMethodType} {sessionId : Option Bytes}
    {range : Option RtspRange} {scale : UInt32} {args : RequestArgs} {called : Called}
    (h : sessionCall P env method client sessionId range scale args = .ok called) :
    SentTo (fun uri => ∃ session ∈ client.sessions, uri = session.contentBase)
      called.events := by
  unfold sessionCall at h
  split at h
  next id range' hid =>
    split at h
    next =>
      cases h
      exact .nil
    next =>
      cases h
      exact .nil
    next slot hmethod hslot =>
      obtain ⟨rfl, -, -⟩ := claimSlot_ok hslot
      split at h
      next =>
        cases h
        exact .nil
      next session hfind =>
        obtain ⟨called', hcalled, rfl⟩ := except_map_ok.mp h
        apply SentTo.accept
        apply completeRequest_uris _ _ _ hcalled
        · exact ⟨session, sessionFind_claimed hfind, rfl⟩
        · rfl
        · exact ⟨fun _ => rfl, fun _ => rfl⟩
  next =>
    cases h
    exact .nil

theorem markTeardown_events (called : Called) (session : Addr) (internal : Bool) :
    (markTeardown called session internal).events = called.events := by
  unfold markTeardown
  split
  next => rfl
  next => rfl

theorem sendTeardown_uris {resourceUrl sessionId : Option Bytes} {args : RequestArgs}
    {internal : Bool} {called : Called}
    (h : sendTeardown P env client resourceUrl sessionId args internal = .ok called) :
    SentTo (fun uri => ∃ session ∈ client.sessions, teardownUri session resourceUrl = .ok uri)
      called.events := by
  unfold sendTeardown at h
  split at h
  next =>
    cases h
    exact .nil
  next id hid =>
    split at h
    next =>
      cases h
      exact .nil
    next =>
      cases h
      exact .nil
    next slot hmethod hslot =>
      obtain ⟨rfl, -, -⟩ := claimSlot_ok hslot
      split at h
      next =>
        cases h
        exact .nil
      next session hfind =>
        dsimp only at h
        split at h
        next =>
          cases h
          exact .nil
        next uri huri =>
          obtain ⟨called', hcalled, rfl⟩ := except_map_ok.mp h
          rw [markTeardown_events]
          apply completeRequest_uris _ _ _ hcalled
          · exact ⟨session, sessionFind_claimed hfind, huri⟩
          · rfl
          · exact ⟨fun _ => rfl, fun _ => rfl⟩

theorem submitSetup_uris {setup : SetupArgs} {args : RequestArgs} {called : Called}
    (haddressed : client.request.header.Addressed source)
    (h : submitSetup P env client setup args = .ok called) : SentTo source called.events := by
  have hcopy := KeepsUri.copyExt
    (⟨fun _ => rfl, fun _ => rfl⟩ : KeepsUri fun header =>
      { header with sessionId := setup.sessionId }) args.ext
  unfold submitSetup at h
  dsimp only at h
  split at h
  next =>
    split at h
    next =>
      cases h
      exact .nil
    next =>
      split at h
      next => cases h
      next =>
        cases h
        exact .nil
      next pair channelUsed halloc =>
        cases h
        exact submitRequest_uris (hcopy.addressed haddressed)
  next =>
    cases h
    exact submitRequest_uris (hcopy.addressed haddressed)

theorem rtspClientSetup_uris {setup : SetupArgs} {args : RequestArgs} {called : Called}
    (h : rtspClientSetup P env client setup args = .ok called) :
    SentTo ((ClientCall.setup setup args).Addresses env client) called.events := by
  unfold rtspClientSetup at h
  split at h
  next contentBase resource hbase hresource =>
    split at h
    next =>
      cases h
      exact .nil
    next =>
      split at h
      next =>
        cases h
        exact .nil
      next =>
        cases h
        exact .nil
      next slot hmethod hslot =>
        obtain ⟨rfl, -, -⟩ := claimSlot_ok hslot
        split at h
        next =>
          cases h
          exact .nil
        next base hstrip =>
          split at h
          next => cases h
          next =>
            cases h
            exact .nil
          next =>
            split at h
            next =>
              cases h
              exact .nil
            next uri huri =>
              dsimp only at h
              split at h
              next => cases h
              next =>
                cases h
                exact .nil
              next authorized hauthorized =>
                obtain ⟨called', hcalled, rfl⟩ := except_map_ok.mp h
                obtain ⟨-, hsame, hdigest⟩ := generateAuthorizationHeader_uri hauthorized rfl
                refine SentTo.accept (submitSetup_uris ⟨?_, ?_⟩ hcalled) _ _
                · rw [hsame]
                  rw [← nonEmpty_some hbase] at hstrip
                  exact ⟨base, resource, uri, hstrip, hresource, huri, rfl⟩
                · rw [hsame]
                  exact hdigest
  next =>
    cases h
    exact .nil

theorem callRequest_uris {call : ClientCall} {called : Called}
    (h : callRequest P env client call = .ok called) :
    SentTo (call.Addresses env client) called.events := by
  have hplain : ∀ {method : RtspMethodType} {args : RequestArgs} {uri : Option Bytes}
      {tolerated : Errno → Bool} {fields : RtspRequestHeader → RtspRequestHeader}
      {content : Option Bytes}, KeepsUri fields →
      (completeRequest P env (numberRequest (newRequest (claimed client) method args.userdata) uri)
        tolerated args fields content).map (fun called => called.accept method args.userdata) =
          .ok called →
      SentTo (fun found => found = uri) called.events := by
    intro method args uri tolerated fields content hfields h
    obtain ⟨called', hcalled, rfl⟩ := except_map_ok.mp h
    apply SentTo.accept
    apply completeRequest_uris _ _ hfields hcalled
    · rfl
    · rfl
  cases call with
  | options args =>
      cases h
      unfold rtspClientOptions
      split
      next => exact .nil
      next => exact .nil
      next slot hmethod hslot =>
        apply SentTo.accept
        apply submitRequest_uris
        have hcopy := (⟨fun _ => rfl, fun _ => rfl⟩ : KeepsUri id).copyExt args.ext
        exact hcopy.addressed ⟨rfl, fun auth hauth => nomatch hauth⟩
  | describe path args =>
      change rtspClientDescribe P env client path args = .ok called at h
      unfold rtspClientDescribe at h
      split at h
      next =>
        cases h
        exact .nil
      next =>
        cases h
        exact .nil
      next slot hmethod hslot =>
        obtain ⟨rfl, -, -⟩ := claimSlot_ok hslot
        apply hplain _ h
        exact ⟨fun _ => rfl, fun _ => rfl⟩
  | announce path sessionDescription args =>
      change rtspClientAnnounce P env client path sessionDescription args = .ok called at h
      unfold rtspClientAnnounce at h
      split at h
      next =>
        cases h
        exact .nil
      next description hdescription =>
        split at h
        next =>
          cases h
          exact .nil
        next hmethod =>
          split at h
          next =>
            cases h
            exact .nil
          next =>
            split at h
            next =>
              cases h
              exact .nil
            next slot hslot =>
              obtain ⟨rfl, -, -⟩ := claimSlot_ok hslot
              apply hplain _ h
              exact ⟨fun _ => rfl, fun _ => rfl⟩
  | setup asked args => exact rtspClientSetup_uris h
  | play sessionId range scale args => exact sessionCall_uris h
  | pause sessionId range args => exact sessionCall_uris h
  | record sessionId range args => exact sessionCall_uris h
  | teardown resourceUrl sessionId args =>
      obtain ⟨called', hcalled, rfl⟩ := except_map_ok.mp h
      exact SentTo.accept (sendTeardown_uris hcalled) _ _

/-! ## The content base of the slot -/

theorem submitRequest_base {content : Option Bytes} {timeoutMs : UInt32} :
    (submitRequest P env client content timeoutMs).client.request.contentBase =
      client.request.contentBase := by
  unfold submitRequest
  split
  next => rfl
  next hsend =>
    obtain ⟨-, -, -, rfl⟩ := sendRequest_ok hsend
    rfl

theorem submitSetup_base {asked : SetupArgs} {args : RequestArgs} {called : Called}
    (h : submitSetup P env client asked args = .ok called) :
    called.client.request.contentBase = client.request.contentBase := by
  unfold submitSetup at h
  dsimp only at h
  split at h
  next =>
    split at h
    next =>
      cases h
      rfl
    next =>
      split at h
      next => cases h
      next =>
        cases h
        rfl
      next pair channelUsed halloc =>
        cases h
        rw [submitRequest_base]
        rfl
  next =>
    cases h
    rw [submitRequest_base]
    rfl

/-- A SETUP leaves the stripped content base in the slot, or what was there. -/
theorem rtspClientSetup_base {asked : SetupArgs} {args : RequestArgs} {called : Called}
    (h : rtspClientSetup P env client asked args = .ok called) :
    called.client.request.contentBase = client.request.contentBase ∨
      ∃ base, rtspUrlStripCredentials env.inetPton asked.contentBase = .ok base ∧
        called.client.request.contentBase = some base := by
  unfold rtspClientSetup at h
  split at h
  next contentBase resource hbase hresource =>
    split at h
    next =>
      cases h
      exact .inl rfl
    next =>
      split at h
      next =>
        cases h
        exact .inl rfl
      next =>
        cases h
        exact .inl rfl
      next slot hmethod hslot =>
        obtain ⟨rfl, -, -⟩ := claimSlot_ok hslot
        split at h
        next =>
          cases h
          exact .inl rfl
        next base hstrip =>
          rw [← nonEmpty_some hbase] at hstrip
          split at h
          next => cases h
          next =>
            cases h
            exact .inl rfl
          next =>
            split at h
            next =>
              cases h
              exact .inl rfl
            next uri huri =>
              dsimp only at h
              split at h
              next => cases h
              next =>
                cases h
                exact .inr ⟨base, hstrip, rfl⟩
              next authorized hauthorized =>
                obtain ⟨called', hcalled, rfl⟩ := except_map_ok.mp h
                obtain ⟨hsame, -, -⟩ := generateAuthorizationHeader_uri hauthorized rfl
                refine .inr ⟨base, hstrip, ?_⟩
                have haccepted : (called'.accept .setup args.userdata).client =
                    called'.client := by
                  unfold Called.accept
                  split
                  next => rfl
                  next => rfl
                rw [haccepted, submitSetup_base hcalled, hsame]
                rfl
  next =>
    cases h
    exact .inl rfl

end Uris

end Librtsp
