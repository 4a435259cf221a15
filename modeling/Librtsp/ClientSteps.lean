import Librtsp.ClientChange

/-!
# The steps of the client

For each function of the client the chain of changes it is; together, the changes of a step
of the machine.  A run keeps the client well-formed.
-/

namespace Librtsp

open CString RecordList

section Functions

variable {env : ClientEnv} {kinds : List ChangeKind} {client : RtspClient}

/-- What the piece of code has done to the client. -/
def Progress.Changes (env : ClientEnv) (kinds : List ChangeKind) (client : RtspClient)
    (p : Progress) : Prop :=
  ClientChange env kinds client p.events p.client

theorem Progress.Changes.andThen {p : Progress} (h : p.Changes env kinds client)
    (tasks : List ClientTask) : (p.andThen tasks).Changes env kinds client := h

/-- A change without events before the rest. -/
theorem ClientChange.before {client' : RtspClient} (h : ClientChange env kinds client [] client')
    {p : Progress} (hp : p.Changes env kinds client') : p.Changes env kinds client :=
  h.trans hp

/-! ## The connection -/

theorem setConnectionState_changes (hlink : .link ∈ kinds) (client : RtspClient)
    (state : RtspClientConnState) :
    (setConnectionState client state).Changes env kinds client := by
  unfold setConnectionState
  split
  next => exact .refl client
  next =>
    have hlinked : ClientChange env kinds client [] { client with connState := state } :=
      .linked le_rfl rfl hlink (.inl rfl)
    exact hlinked.trans (.told _ _ fun response h => (by cases h))

theorem clearRemoteInfo_change (hlink : .link ∈ kinds) (client : RtspClient) :
    ClientChange env kinds client [] (clearRemoteInfo client) :=
  (ClientChange.forgotten client).trans (.linked le_rfl rfl hlink (.inr (.inl rfl)))

theorem requestComplete_changes {resp : Option RtspResponseHeader} {body : Bytes}
    {status : RtspClientReqStatus} {p : Progress} (hkind : .completion ∈ kinds)
    (h : requestComplete client resp body status = .ok p) : p.Changes env kinds client := by
  cases hpending : client.request.isPending with
  | false =>
      rw [requestComplete_idle hpending] at h
      cases h
      exact .refl client
  | true =>
      rw [requestComplete_pending hpending] at h
      exact .completed hkind _ status hpending (completeMethod_cases h)

theorem clientDisconnected_changes {p : Progress} (hkind : .completion ∈ kinds)
    (hlink : .link ∈ kinds)
    (h : clientDisconnected client = .ok p) : p.Changes env kinds client := by
  have hlost : ClientChange env kinds client [] { client with sock := false } :=
    .linked le_rfl rfl hlink (.inl rfl)
  unfold clientDisconnected at h
  dsimp only at h
  split at h
  next =>
    rw [except_map_ok] at h
    obtain ⟨p', hp, rfl⟩ := h
    exact hlost.before
      ((clearRemoteInfo_change hlink _).before ((requestComplete_changes hkind hp).andThen _))
  next =>
    rw [except_map_ok] at h
    obtain ⟨p', hp, rfl⟩ := h
    exact hlost.before ((requestComplete_changes hkind hp).andThen _)
  next =>
    cases h
    exact hlost

theorem tsktClientStop_changes {p : Progress} (hkind : .completion ∈ kinds)
    (hlink : .link ∈ kinds)
    (h : tsktClientStop client = .ok p) : p.Changes env kinds client := by
  have hstopped : ClientChange env kinds client [] { client with active := false } :=
    .linked le_rfl rfl hlink (.inl rfl)
  unfold tsktClientStop at h
  dsimp only at h
  split at h
  next => exact hstopped.before (clientDisconnected_changes hkind hlink h)
  next =>
    cases h
    exact hstopped

theorem tsktClientConnect_changes {client' : RtspClient} {events : List ClientEvent}
    (hkind : .connection ∈ kinds) (hlink : .link ∈ kinds)
    (h : tsktClientConnect env client = .ok (client', events)) :
    ClientChange env kinds client events client' := by
  unfold tsktClientConnect at h
  obtain ⟨-, -, h⟩ := except_bind_ok.mp h
  cases h
  have hactive : ClientChange env kinds client [] { client with active := true } :=
    .linked le_rfl rfl hlink (.inl rfl)
  exact hactive.trans (.connecting hkind _)

theorem rtspClientConnect_changes (hlink : .link ∈ kinds) (client : RtspClient)
    (addr : Option Bytes) :
    (rtspClientConnect env client addr).Changes env kinds client := by
  unfold rtspClientConnect
  split
  next => exact .refl client
  next =>
    dsimp only
    split
    next => exact clearRemoteInfo_change hlink client
    next url hurl =>
      apply (clearRemoteInfo_change hlink client).before
      refine ClientChange.before ?_ ((setConnectionState_changes hlink _ _).andThen _)
      refine .linked (Nat.le_succ _) rfl hlink (.inr ?_)
      cases hstrip : rtspUrlStripCredentials env.inetPton addr with
      | error e => exact .inl rfl
      | ok text => exact .inr ⟨addr, text, hstrip, rfl⟩

theorem resolveHost_changes {url : Addr} {p : Progress} (hlink : .link ∈ kinds)
    (h : resolveHost env client url = .ok p) : p.Changes env kinds client := by
  unfold resolveHost at h
  split at h
  next => cases h
  next current object hurl =>
    split at h
    next => cases h
    next =>
      dsimp only at h
      split at h
      next =>
        cases h
        exact (setConnectionState_changes hlink _ _).andThen _
      next =>
        have htimer : ClientChange env kinds client [] { client with resolvTimer := true } :=
          .linked le_rfl rfl hlink (.inl rfl)
        split at h
        next =>
          cases h
          exact htimer.before ((setConnectionState_changes hlink _ _).andThen _)
        next =>
          cases h
          exact .linked (Nat.le_succ _) rfl hlink (.inl rfl)

theorem resolved_changes (hkind : .connection ∈ kinds) (hlink : .link ∈ kinds)
    (client : RtspClient) (result : Option Bytes) :
    (resolved env client result).Changes env kinds client := by
  have htimer : ClientChange env kinds client [] { client with resolvTimer := false } :=
    .linked le_rfl rfl hlink (.inl rfl)
  unfold resolved
  dsimp only
  split
  next host url object hurl =>
    have hhost : ClientChange env kinds client []
        { client with
          resolvTimer := false
          url := some (url, { object with resolvedHost := some host }) } :=
      .linked le_rfl rfl hlink (.inl rfl)
    split
    next => exact hhost.before (setConnectionState_changes hlink _ _)
    next client' events hconnect =>
      exact hhost.trans (tsktClientConnect_changes hkind hlink hconnect)
  next => exact htimer.before (setConnectionState_changes hlink _ _)

theorem rtspClientDisconnect_changes (hlink : .link ∈ kinds) (client : RtspClient) :
    (rtspClientDisconnect client).Changes env kinds client := by
  unfold rtspClientDisconnect
  split
  next => exact .refl client
  next => exact .refl client
  next => exact (setConnectionState_changes hlink _ _).andThen _

theorem reconnect_changes (hkind : .connection ∈ kinds) (hlink : .link ∈ kinds)
    (client : RtspClient) :
    (reconnect env client).Changes env kinds client := by
  unfold reconnect
  split
  next => exact .refl client
  next hconnect => exact tsktClientConnect_changes hkind hlink hconnect

/-! ## Sessions -/

theorem RtspClient.WellFormed.find {session : RtspClientSession} (hwf : client.WellFormed)
    (hmem : session ∈ client.sessions) : client.findSession session.addr = some session :=
  lookup_of_mem hwf.keys hmem

theorem removeSession_changes (hwf : client.WellFormed) (sessionId : Option Bytes)
    (statusCode : Int) :
    (rtspClientRemoveSessionInternal client sessionId statusCode).Changes env kinds client := by
  unfold rtspClientRemoveSessionInternal
  split
  next => exact .refl client
  next session hfind =>
    have hdropped : ClientChange env kinds client [] (dropMedias client session) :=
      .mediasDropped (hwf.find (rtspClientSessionFind_mem hfind))
    exact hdropped.trans (.told _ _ fun response h => (by cases h))

theorem tornDown_changes {header : RtspRequestHeader} {session : Addr} {media : Option Addr}
    {p : Progress} (hwf : client.WellFormed)
    (h : tornDown client header session media = .ok p) : p.Changes env kinds client := by
  unfold tornDown at h
  split at h
  next =>
    cases h
    exact removeSession_changes hwf _ _
  next media =>
    split at h
    next => cases h
    next session hsession =>
      split at h
      next => cases h
      next media hmedia =>
        obtain ⟨-, haddr⟩ := RtspClient.findSession_some hsession
        obtain ⟨-, hkey⟩ := lookup_some hmedia
        subst haddr hkey
        have hdropped : ClientChange env kinds client [] (dropMedia client session media) :=
          .mediaDropped hsession hmedia
        dsimp only at h
        split at h
        next =>
          cases h
          exact hdropped.before (removeSession_changes (hdropped.wellFormed hwf) _ _)
        next =>
          cases h
          exact hdropped

theorem addMedia_changes {session : Option Addr} {uri : Option Bytes}
    {pair : Option RtspChannelPair} {p : Progress} (hkind : .media ∈ kinds)
    (h : addMedia client session uri pair = .ok p) : p.Changes env kinds client := by
  unfold addMedia at h
  split at h
  next =>
    cases h
    exact .refl client
  next =>
    cases h
    exact .refl client
  next =>
    cases h
    exact .refl client
  next path session hpath hsome =>
    split at h
    next => cases h
    next session' hsession =>
      obtain ⟨-, rfl⟩ := RtspClient.findSession_some hsession
      cases h
      cases hadd : rtspClientSessionMediaAdd client session' path pair with
      | none => exact .refl client
      | some client' => exact .mediaAdded hkind hsession hadd

theorem teardownReported_changes {session : Option Addr} {p : Progress}
    (h : teardownReported client session = .ok p) : p.Changes env kinds client := by
  unfold teardownReported at h
  dsimp only at h
  split at h
  next =>
    cases h
    exact .external client
  next session =>
    split at h
    next => cases h
    next session' hsession =>
      obtain ⟨-, rfl⟩ := RtspClient.findSession_some hsession
      cases h
      exact (ClientChange.unmarked hsession).trans (.external _)

theorem applyTeardown_changes {session : Addr} {media : Option Addr} {completion : Completion}
    {p : Progress} (h : applyTeardown client session media completion = .ok p) :
    p.Changes env kinds client := by
  unfold applyTeardown at h
  split at h
  next =>
    cases h
    exact .refl client
  next media =>
    split at h
    next => cases h
    next session' hsession =>
      split at h
      next => cases h
      next media' hmedia =>
        obtain ⟨-, rfl⟩ := RtspClient.findSession_some hsession
        obtain ⟨-, rfl⟩ := lookup_some hmedia
        cases h
        exact .mediaDropped hsession hmedia

theorem unlinkSession_changes {session : Addr} {p : Progress}
    (h : unlinkSession client session = .ok p) : p.Changes env kinds client := by
  unfold unlinkSession at h
  split at h
  next => cases h
  next session' hsession =>
    obtain ⟨-, rfl⟩ := RtspClient.findSession_some hsession
    cases h
    exact .unlinked hsession

/-! ## Keep-alives -/

theorem newRequest_draft (client : RtspClient) (uri : Option Bytes) :
    numberRequest (newRequest client .getParameter client.request.userdata) uri =
      draftedClient client { method := .getParameter, uri, cseq := client.cseq.toInt32 }
        client.auth := rfl

theorem setHeader_draft (client : RtspClient) (header header' : RtspRequestHeader)
    (auth : Option RtspAuthorizationHeader) :
    (draftedClient client header auth).setHeader header' = draftedClient client header' auth := rfl

theorem authorized_draft (client : RtspClient) (header : RtspRequestHeader)
    (auth auth' : Option RtspAuthorizationHeader) :
    { draftedClient client header auth with auth := auth' } = draftedClient client header auth' :=
  rfl

theorem sendKeepAlive_changes {P : Platform} {session : RtspClientSession} {p : Progress}
    (hkind : .keepAlive ∈ kinds)
    (hwf : client.WellFormed) (hfind : client.findSession session.addr = some session)
    (h : sendKeepAlive P env client session = .ok p) : p.Changes env kinds client := by
  unfold sendKeepAlive at h
  split at h
  next =>
    cases h
    exact .refl client
  next =>
    split at h
    next =>
      dsimp only at h
      split at h
      next =>
        cases h
        have hcounted : ClientChange env kinds client []
            (client.setSession
              { session with failedKeepAlive := session.failedKeepAlive + 1 }) :=
          .rearmed hkind hfind (session.failedKeepAlive + 1) 0
        exact hcounted.before (removeSession_changes (hcounted.wellFormed hwf) _ _)
      next =>
        cases h
        exact .rearmed hkind hfind (session.failedKeepAlive + 1) (session.timeoutMs / 3)
    next hstate =>
      rw [not_not] at hstate
      split at h
      next =>
        cases h
        exact .refl client
      next =>
        split at h
        next =>
          cases h
          exact .rearmed hkind hfind session.failedKeepAlive (session.timeoutMs / 2)
        next hpending =>
          rw [Bool.not_eq_true] at hpending
          dsimp only at h
          rw [newRequest_draft] at h
          split at h
          next => cases h
          next =>
            cases h
            exact .drafted hkind hpending ⟨rfl, rfl, rfl, .without _⟩
          next authorized hauthorized =>
            obtain ⟨-, -, hdigest⟩ := generateAuthorizationHeader_uri hauthorized rfl
            obtain ⟨authorization, auth, hauth, rfl⟩ :=
              generateAuthorizationHeader_ok hauthorized rfl
            rw [setHeader_draft, authorized_draft, setHeader_draft] at h
            have hheader : KeepAliveHeader env client
                { method := .getParameter
                  uri := session.contentBase
                  cseq := client.cseq.toInt32
                  authorization
                  userAgent := some client.softwareName
                  sessionId := some session.id } auth := ⟨rfl, rfl, rfl, hauth⟩
            split at h
            next sent events hsend =>
              cases h
              obtain ⟨-, -, hevents, rfl⟩ := sendRequest_ok hsend
              exact .keptAlive hkind hfind hpending hstate hheader rfl rfl (.inr hevents)
                ⟨rfl, hdigest⟩
            next =>
              cases h
              exact .keptAlive hkind hfind hpending hstate hheader rfl rfl (.inl rfl)
                ⟨rfl, hdigest⟩
            next =>
              cases h
              exact .drafted hkind hpending hheader

/-- The end of a request may tear the session down, and may remove it. -/
theorem concludeRequestComplete_cases {P : Platform} {completion : Completion} {p : Progress}
    (hwf : client.WellFormed) (h : concludeRequestComplete P env client completion = .ok p) :
    ∃ (called : Called) (removed : List ClientEvent),
      (completion.internalTeardown = false ∧ called = { ret := .ok (), client } ∨
        completion.internalTeardown = true ∧
          ∃ marked, CallOutcome env client .teardown 0 rtspClientDefaultRespTimeoutMs true
            ((ClientCall.teardown none completion.sessionId
              { timeoutMs := rtspClientDefaultRespTimeoutMs }).stages env client) marked called) ∧
      p.events = called.events ++ removed ∧ ClientChange env kinds called.client removed p.client ∧
      SentTo (fun uri => ∃ session ∈ client.sessions, uri = session.contentBase)
        called.events := by
  have hremoved : ∀ (removed : Bool) (statusCode : Int) {client : RtspClient},
      client.WellFormed → Progress.Changes env kinds client
        (if removed = true then
          rtspClientRemoveSessionInternal client completion.sessionId statusCode
        else { client }) := by
    intro removed statusCode client hwf
    split
    next => exact removeSession_changes hwf _ _
    next => exact .refl _
  obtain ⟨called, hcalled, rfl⟩ := except_map_ok.mp h
  unfold afterTeardown
  dsimp only
  unfold ownTeardown at hcalled
  split at hcalled
  next hinternal =>
    obtain ⟨marked, houtcome⟩ :=
      @sendTeardown_outcome P env client true
        ((ClientCall.teardown none completion.sessionId
          { timeoutMs := rtspClientDefaultRespTimeoutMs }).stages env client)
        { timeoutMs := rtspClientDefaultRespTimeoutMs } hwf.keys none completion.sessionId
        .rfl .rfl id _ hcalled
    refine ⟨_, _, .inr ⟨hinternal, marked, houtcome⟩, rfl,
      hremoved _ _ (houtcome.wellFormed hwf), ?_⟩
    apply (sendTeardown_uris hcalled).mono
    rintro uri ⟨session, hsession, huri⟩
    exact ⟨session, hsession, (Except.ok.inj huri).symm⟩
  next hplain =>
    rw [Bool.not_eq_true] at hplain
    cases hcalled
    exact ⟨_, _, .inl ⟨hplain, rfl⟩, rfl, hremoved _ _ hwf, .nil⟩

theorem concludeRequestComplete_changes {P : Platform} {completion : Completion} {p : Progress}
    (hkind : .teardown ∈ kinds) (hwf : client.WellFormed)
    (h : concludeRequestComplete P env client completion = .ok p) : p.Changes env kinds client := by
  obtain ⟨called, removed, hcalled, hevents, hchange, huris⟩ :=
    @concludeRequestComplete_cases env kinds client P completion p hwf h
  unfold Progress.Changes
  rw [hevents]
  rcases hcalled with ⟨-, rfl⟩ | ⟨-, marked, houtcome⟩
  · exact hchange
  · exact (@ClientChange.tearsDown env kinds client hkind completion.sessionId
      { timeoutMs := rtspClientDefaultRespTimeoutMs } marked called houtcome huris).trans hchange

theorem sessionAfter_mem {session : Addr} {next : RtspClientSession}
    (h : sessionAfter client session = .ok (some next)) : next ∈ client.sessions := by
  unfold sessionAfter at h
  split at h
  next => cases h
  next first rest hdrop =>
    simp only [Except.ok.injEq] at h
    have hmem : next ∈ first :: rest := List.mem_cons_of_mem _ (List.mem_of_mem_head? h)
    rw [← hdrop] at hmem
    exact (List.dropWhile_suffix _).subset hmem

theorem keepAliveFor_changes {P : Platform} {session : Option RtspClientSession} {p : Progress}
    (hkind : .keepAlive ∈ kinds)
    (hwf : client.WellFormed) (hmem : ∀ s, session = some s → s ∈ client.sessions)
    (h : keepAliveFor P env client session = .ok p) : p.Changes env kinds client := by
  unfold keepAliveFor at h
  split at h
  next =>
    cases h
    exact .refl client
  next session =>
    obtain ⟨p', hp, rfl⟩ := except_map_ok.mp h
    exact (sendKeepAlive_changes hkind hwf (hwf.find (hmem session rfl)) hp).andThen _

theorem countFailure_changes {status : RtspClientReqStatus} {p : Progress}
    (hkind : .completion ∈ kinds) (hlink : .link ∈ kinds)
    (h : countFailure client status = .ok p) : p.Changes env kinds client := by
  have hcounted : ∀ failedRequests,
      ClientChange env kinds client [] { client with failedRequests } :=
    fun _ => .linked le_rfl rfl hlink (.inl rfl)
  unfold countFailure at h
  split at h
  next =>
    dsimp only at h
    split at h
    next =>
      rw [except_map_ok] at h
      obtain ⟨p', hp, rfl⟩ := h
      exact (hcounted _).before ((tsktClientStop_changes hkind hlink hp).andThen _)
    next =>
      cases h
      exact hcounted _
  next =>
    cases h
    exact hcounted _

theorem stopTransport_changes {alreadyDisconnected : Bool} {p : Progress}
    (hkind : .completion ∈ kinds) (hlink : .link ∈ kinds)
    (h : stopTransport client alreadyDisconnected = .ok p) : p.Changes env kinds client := by
  unfold stopTransport at h
  rw [except_map_ok] at h
  obtain ⟨p', hp, rfl⟩ := h
  exact (tsktClientStop_changes hkind hlink hp).andThen _

theorem removeFrom_changes {session : Option Addr} {p : Progress} (hwf : client.WellFormed)
    (h : removeFrom client session = .ok p) : p.Changes env kinds client := by
  unfold removeFrom at h
  split at h
  next =>
    cases h
    exact .refl client
  next addr =>
    split at h
    next => cases h
    next session hsession =>
      obtain ⟨next, -, h⟩ := except_bind_ok.mp h
      cases h
      exact (removeSession_changes hwf _ _).andThen _

/-! ## Received messages -/

theorem told_changes (client : RtspClient) {callback : ClientCallback}
    (hcallback : ∀ response, callback ≠ .response response) (tasks : List ClientTask) :
    (callBack client callback tasks).Changes env kinds client :=
  .told client callback hcallback

theorem teardownRequestProcess_changes {header : RtspRequestHeader} {p : Progress}
    (h : teardownRequestProcess client header = .ok p) : p.Changes env kinds client := by
  unfold teardownRequestProcess at h
  split at h
  next =>
    cases h
    exact .refl client
  next session hsession =>
    split at h
    next =>
      cases h
      exact .refl client
    next =>
      cases h
      exact .refl client
    next path hpath =>
      split at h
      next => cases h
      next base hbase =>
        dsimp only at h
        split at h
        next =>
          cases h
          exact told_changes client (fun response h => (by cases h)) _
        next => cases h

theorem rtspClientRequestProcess_changes {header : RtspRequestHeader} {body : Bytes}
    {p : Progress} (h : rtspClientRequestProcess client header body = .ok p) :
    p.Changes env kinds client := by
  unfold rtspClientRequestProcess at h
  split at h
  next =>
    obtain ⟨contentBase, -, h⟩ := except_bind_ok.mp h
    cases h
    exact told_changes client (fun response h => (by cases h)) _
  next =>
    cases h
    exact .refl client
  next => exact teardownRequestProcess_changes h
  next =>
    cases h
    exact .refl client

theorem answerRequest_changes (P : Platform) (hkind : .answer ∈ kinds) (client : RtspClient)
    (header : RtspRequestHeader) (status : Int) :
    (answerRequest P env client header status).Changes env kinds client := by
  unfold answerRequest
  dsimp only
  split
  next => exact .refl client
  next =>
    split
    next => exact .answered hkind client _ _
    next => exact .refl client

theorem rtspClientResponseProcess_changes {header : RtspResponseHeader} {body : Bytes}
    {p : Progress} (hkind : .completion ∈ kinds) (hwf : client.WellFormed)
    (h : rtspClientResponseProcess client header body = .ok p) : p.Changes env kinds client := by
  unfold rtspClientResponseProcess at h
  split at h
  next => exact requestComplete_changes hkind h
  next =>
    split at h
    next =>
      cases h
      exact .refl client
    next session hfind =>
      cases h
      exact .resumed hkind (hwf.find (List.mem_of_find?_eq_some hfind)) (List.find?_some hfind)

theorem processDelivery_changes {delivery : Delivery} {p : Progress}
    (hkind : .completion ∈ kinds) (hwf : client.WellFormed)
    (h : processDelivery client delivery = .ok p) : p.Changes env kinds client := by
  unfold processDelivery at h
  split at h
  next =>
    cases h
    split
    next => exact told_changes client (fun response h => (by cases h)) _
    next => exact .refl client
  next => exact rtspClientRequestProcess_changes h
  next => exact rtspClientResponseProcess_changes hkind hwf h

theorem receiveMessage_changes {E : HeaderEdit} {P : Platform} {p : Progress}
    (hkind : .completion ∈ kinds) (hreception : .reception ∈ kinds)
    (hwf : client.WellFormed) (h : receiveMessage E P client = .ok p) :
    p.Changes env kinds client := by
  unfold receiveMessage at h
  split at h
  next => cases h
  next next hnext =>
    dsimp only at h
    split at h
    next =>
      cases h
      exact .received hreception client _
    next message hmessage =>
      rw [except_map_ok] at h
      obtain ⟨p', hp, rfl⟩ := h
      have hreceived : ClientChange env kinds client []
          { client with receiver := { buf := next.data, ctx := next.ctx } } :=
        .received hreception _ _
      have hprocessed : p'.Changes env kinds _ :=
        processDelivery_changes hkind (hreceived.wellFormed hwf) hp
      exact hreceived.trans ((ClientChange.delivered hreception _ _).trans hprocessed)

/-! ## Calls -/

/-- Only a SETUP fills the content base of the slot. -/
theorem CallOutcome.base {method : RtspMethodType} {userdata : Nat} {timeoutMs : UInt32}
    {internal : Bool} {stages : CallStages} {marked : Option RtspClientSession} {called : Called}
    (h : CallOutcome env client method userdata timeoutMs internal stages marked called)
    (hmethod : method ≠ .setup) :
    called.client.request.contentBase = client.request.contentBase := by
  have hfilled : ∀ {built}, Filled env (Librtsp.claimed client) built method userdata →
      built.request.contentBase = client.request.contentBase := by
    intro built hfilled
    have hbase := hfilled.contentBase
    rw [if_neg hmethod] at hbase
    exact hbase
  cases h with
  | refused => rfl
  | claimed => rfl
  | unnumbered => rfl
  | unsent e hclaim hclaims hlookups hreserves hbuilt => exact hfilled hbuilt
  | sent message hclaim hmethod hbuilt hagent hsock hsend => exact (hfilled hbuilt :)
  | tearsDown message hclaim hmethod hteardown hbuilt hagent hsock hsend hfind =>
      exact (hfilled hbuilt :)

theorem callRequest_base {P : Platform} {call : ClientCall} {called : Called}
    (hwf : client.WellFormed) (h : callRequest P env client call = .ok called) :
    called.client.request.contentBase = client.request.contentBase ∨
      ∃ asked args base, call = .setup asked args ∧
        rtspUrlStripCredentials env.inetPton asked.contentBase = .ok base ∧
          called.client.request.contentBase = some base := by
  by_cases hmethod : call.method = .setup
  · cases call with
    | setup asked args =>
        rcases rtspClientSetup_base h with hsame | ⟨base, hstrip, hbase⟩
        · exact .inl hsame
        · exact .inr ⟨asked, args, base, rfl, hstrip, hbase⟩
    | _ => cases hmethod
  · obtain ⟨marked, called', houtcome, rfl⟩ := callRequest_outcome hwf.keys h
    rw [accept_client]
    exact .inl (houtcome.base hmethod)

end Functions

/-! ## The machine -/

section Machine

/-- What a task may be about. -/
def ClientTask.kinds : ClientTask → List ChangeKind
  | .receive => [.completion, .reception]
  | .consume _ => [.reception]
  | .addMedia _ _ _ => [.media]
  | .conclude _ => [.teardown]
  | .countFailure _ => [.completion, .link]
  | .sendKeepAlive _ => [.keepAlive]
  | .keepAliveAll => [.keepAlive]
  | .keepAliveAfter _ => [.keepAlive]
  | .stopTransport _ => [.completion, .link]
  | .finishDisconnect => [.completion, .link]
  | .answer _ _ => [.answer]
  | .reconnect => [.connection, .link]
  | .setState _ => [.link]
  | .resolveHost _ => [.link]
  | .clearRemote => [.link]
  | _ => []

/-- What an input may be about. -/
def ClientInput.kinds : ClientInput → List ChangeKind
  | .call _ => [.call]
  | .cancel => [.completion]
  | .connect _ => [.link]
  | .disconnect => [.link]
  | .connected => [.link]
  | .disconnected => [.completion, .link]
  | .data _ => [.reception]
  | .responseTimeout => [.completion]
  | .keepAliveTimer _ => [.keepAlive]
  | .resolvTimeout => [.link]
  | .resolved _ _ => [.connection, .link]
  | _ => []

/-- What a step may be about. -/
def ClientState.kinds (s : ClientState) (input : ClientInput) : List ChangeKind :=
  match s.tasks with
  | [] => input.kinds
  | .inCallback :: _ => input.kinds
  | task :: _ => task.kinds

variable {E : HeaderEdit} {P : Platform} {env : ClientEnv} {client : RtspClient} {p : Progress}

theorem runTask_changes {task : ClientTask} (hwf : client.WellFormed)
    (h : runTask E P env client task = .ok p) : p.Changes env task.kinds client := by
  cases task with
  | inCallback => cases h
  | receive => exact receiveMessage_changes (.head _) (.tail _ (.head _)) hwf h
  | consume totalLen =>
      cases h
      exact .received (.head _) client _
  | answer header status =>
      cases h
      exact answerRequest_changes P (.head _) client header status
  | tornDown header session media => exact tornDown_changes hwf h
  | addMedia session uri pair => exact addMedia_changes (.head _) h
  | teardownReported session => exact teardownReported_changes h
  | applyTeardown session media completion => exact applyTeardown_changes h
  | conclude completion => exact concludeRequestComplete_changes (.head _) hwf h
  | countFailure status => exact countFailure_changes (.head _) (.tail _ (.head _)) h
  | setState state =>
      cases h
      exact setConnectionState_changes (.head _) client state
  | reconnect =>
      cases h
      exact reconnect_changes (.head _) (.tail _ (.head _)) client
  | unlinkSession session => exact unlinkSession_changes h
  | sendKeepAlive session =>
      unfold runTask at h
      dsimp only at h
      split at h
      next => cases h
      next session' hsession =>
        obtain ⟨-, rfl⟩ := RtspClient.findSession_some hsession
        exact sendKeepAlive_changes (.head _) hwf hsession h
  | keepAliveAll =>
      exact keepAliveFor_changes (.head _) hwf
        (fun session hsession => List.mem_of_mem_head? hsession) h
  | keepAliveAfter session =>
      obtain ⟨next, hnext, h⟩ := except_bind_ok.mp h
      apply keepAliveFor_changes (.head _) hwf _ h
      intro session' hsession
      rw [hsession] at hnext
      exact sessionAfter_mem hnext
  | resolveHost url => exact resolveHost_changes (.head _) h
  | clearRemote =>
      cases h
      exact clearRemoteInfo_change (.head _) client
  | stopTransport alreadyDisconnected => exact stopTransport_changes (.head _) (.tail _ (.head _)) h
  | finishDisconnect =>
      obtain ⟨p', hp, rfl⟩ := except_map_ok.mp h
      exact (clearRemoteInfo_change (.tail _ (.head _)) client).before
        ((requestComplete_changes (.head _) hp).andThen _)
  | removeAll => exact removeFrom_changes hwf h
  | removeFrom session => exact removeFrom_changes hwf h

theorem callProgress_changes {input : ClientInput} (hwf : client.WellFormed)
    (h : callProgress P env client input = .ok p) : p.Changes env input.kinds client := by
  cases input with
  | call call =>
      obtain ⟨called, hcalled, rfl⟩ := except_map_ok.mp h
      have huris := callRequest_uris hcalled
      have hbase := callRequest_base hwf hcalled
      obtain ⟨marked, called', houtcome, rfl⟩ := callRequest_outcome hwf.keys hcalled
      rw [accept_client] at hbase
      have hchange := @ClientChange.called env [.call] client (.head _) call marked called' houtcome
        huris hbase
      unfold Progress.Changes
      rw [accept_client]
      exact hchange
  | cancel => exact requestComplete_changes (.head _) h
  | removeSession sessionId =>
      cases h
      exact removeSession_changes hwf _ _
  | connect addr =>
      cases h
      exact rtspClientConnect_changes (.head _) client addr
  | disconnect =>
      cases h
      exact rtspClientDisconnect_changes (.head _) client
  | _ => cases h

theorem loopProgress_changes {input : ClientInput} (hwf : client.WellFormed)
    (h : loopProgress P env client input = .ok p) : p.Changes env input.kinds client := by
  cases input with
  | connected =>
      unfold loopProgress at h
      dsimp only at h
      split at h
      next =>
        cases h
        have hlinked : ClientChange env [.link] client [] { client with sock := true } :=
          .linked le_rfl rfl (.head _) (.inl rfl)
        exact hlinked.before ((setConnectionState_changes (.head _) _ _).andThen _)
      next => cases h
  | disconnected =>
      unfold loopProgress at h
      dsimp only at h
      split at h
      next => exact clientDisconnected_changes (.head _) (.tail _ (.head _)) h
      next => cases h
  | data chunk =>
      unfold loopProgress at h
      dsimp only at h
      split at h
      next =>
        cases h
        exact .received (.head _) client _
      next => cases h
  | readyToSend =>
      unfold loopProgress at h
      dsimp only at h
      split at h
      next =>
        cases h
        exact told_changes client (fun response h => (by cases h)) _
      next => cases h
  | responseTimeout =>
      unfold loopProgress at h
      dsimp only at h
      split at h
      next =>
        exact (ClientChange.expired (.head _) client).before (requestComplete_changes (.head _) h)
      next => cases h
  | keepAliveTimer addr =>
      unfold loopProgress at h
      dsimp only at h
      split at h
      next session hsession =>
        split at h
        next =>
          obtain ⟨-, rfl⟩ := RtspClient.findSession_some hsession
          have hfired : ClientChange env [.keepAlive] client []
              (client.setSession { session with timer := none }) := .fired (.head _) hsession
          apply hfired.before
          apply sendKeepAlive_changes (.head _) (hfired.wellFormed hwf) _ h
          exact lookup_replace ⟨session, (lookup_some hsession).1, rfl⟩
        next => cases h
      next => cases h
  | resolvTimeout =>
      unfold loopProgress at h
      dsimp only at h
      split at h
      next =>
        cases h
        refine ClientChange.before ?_ (rtspClientDisconnect_changes (.head _) _)
        exact .linked le_rfl rfl (.head _) (.inl rfl)
      next => cases h
  | resolved id result =>
      unfold loopProgress at h
      dsimp only at h
      split at h
      next =>
        cases h
        refine ClientChange.before ?_ (resolved_changes (.head _) (.tail _ (.head _)) _ _)
        exact .linked le_rfl rfl (.tail _ (.head _)) (.inl rfl)
      next => cases h
  | call call => exact @callProgress_changes P env client p (.call call) hwf h
  | cancel => exact @callProgress_changes P env client p .cancel hwf h
  | removeSession sessionId =>
      exact @callProgress_changes P env client p (.removeSession sessionId) hwf h
  | connect addr => exact @callProgress_changes P env client p (.connect addr) hwf h
  | disconnect => exact @callProgress_changes P env client p .disconnect hwf h
  | callbackReturns => cases h
  | resume => cases h

variable (E P env) in
/-- The ways to take a step: an event of the loop or a call outside of a callback, the
return from a callback, a call in it, and a task. -/
inductive StepCase (s : ClientState) (input : ClientInput) : ClientState → Prop where
  | loop {p : Progress} (htasks : s.tasks = [])
      (h : loopProgress P env s.client input = .ok p) : StepCase s input (s.after [] p)
  | returns {rest : List ClientTask} (htasks : s.tasks = .inCallback :: rest)
      (hinput : input = .callbackReturns) : StepCase s input { s with tasks := rest }
  | inCallback {rest : List ClientTask} {p : Progress} (htasks : s.tasks = .inCallback :: rest)
      (h : callProgress P env s.client input = .ok p) : StepCase s input (s.after s.tasks p)
  | task {task : ClientTask} {rest : List ClientTask} {p : Progress}
      (htasks : s.tasks = task :: rest) (hcallback : task ≠ .inCallback)
      (hinput : input = .resume) (h : runTask E P env s.client task = .ok p) :
      StepCase s input (s.after rest p)

theorem clientStep_cases {s s' : ClientState} {input : ClientInput}
    (h : clientStep E P env s input = .ok s') : StepCase E P env s input s' := by
  unfold clientStep at h
  split at h
  next htasks =>
    split at h
    next => cases h
    next => cases h
    next =>
      obtain ⟨p, hp, rfl⟩ := except_map_ok.mp h
      exact .loop htasks hp
  next rest htasks =>
    split at h
    next =>
      cases h
      exact .returns htasks rfl
    next =>
      obtain ⟨p, hp, rfl⟩ := except_map_ok.mp h
      exact .inCallback htasks hp
  next task rest hcallback htasks =>
    split at h
    next =>
      obtain ⟨p, hp, rfl⟩ := except_map_ok.mp h
      exact .task htasks hcallback rfl hp
    next => cases h

/-- A call of a request function. -/
theorem clientStep_call {s s' : ClientState} {call : ClientCall}
    (h : clientStep E P env s (.call call) = .ok s') :
    ∃ called, callRequest P env s.client call = .ok called ∧ s'.client = called.client ∧
      s'.events = s.events ++ called.events ∧ s'.tasks = s.tasks := by
  cases clientStep_cases h with
  | loop htasks hp =>
      obtain ⟨called, hcalled, rfl⟩ := except_map_ok.mp hp
      exact ⟨called, hcalled, rfl, rfl, htasks.symm⟩
  | returns htasks hinput => cases hinput
  | inCallback htasks hp =>
      obtain ⟨called, hcalled, rfl⟩ := except_map_ok.mp hp
      exact ⟨called, hcalled, rfl, rfl, rfl⟩
  | task htasks hcallback hinput hp => cases hinput

/-- Only a call is about a call. -/
theorem call_of_kinds {s : ClientState} {input : ClientInput} (h : .call ∈ s.kinds input) :
    ∃ call, input = .call call := by
  have hinput : .call ∈ input.kinds → ∃ call, input = .call call := by
    cases input with
    | call call => exact fun _ => ⟨call, rfl⟩
    | _ => simp [ClientInput.kinds]
  unfold ClientState.kinds at h
  split at h
  next => exact hinput h
  next => exact hinput h
  next task rest _ htasks =>
    cases task with
    | _ => simp [ClientTask.kinds] at h

/-- Only the end of a request is about a teardown. -/
theorem teardown_of_kinds {s : ClientState} {input : ClientInput}
    (h : .teardown ∈ s.kinds input) :
    ∃ completion rest, s.tasks = .conclude completion :: rest := by
  have hinput : .teardown ∉ input.kinds := by
    cases input with
    | _ => simp [ClientInput.kinds]
  unfold ClientState.kinds at h
  split at h
  next => exact absurd h hinput
  next => exact absurd h hinput
  next task rest _ htasks =>
    cases task with
    | conclude completion => exact ⟨completion, rest, htasks⟩
    | _ => simp [ClientTask.kinds] at h

/-- The end of a request. -/
theorem clientStep_conclude {s s' : ClientState} {input : ClientInput}
    {completion : Completion} {rest : List ClientTask}
    (htasks : s.tasks = .conclude completion :: rest)
    (h : clientStep E P env s input = .ok s') :
    ∃ p, concludeRequestComplete P env s.client completion = .ok p ∧ s' = s.after rest p := by
  cases clientStep_cases h with
  | loop htasks' hp =>
      rw [htasks] at htasks'
      cases htasks'
  | returns htasks' hinput =>
      rw [htasks] at htasks'
      cases htasks'
  | inCallback htasks' hp =>
      rw [htasks] at htasks'
      cases htasks'
  | task htasks' hcallback hinput hp =>
      rw [htasks] at htasks'
      cases htasks'
      exact ⟨_, hp, rfl⟩

/-- A step is a chain of changes, whose events it adds. -/
theorem clientStep_changes {s s' : ClientState} {input : ClientInput}
    (hwf : s.client.WellFormed) (h : clientStep E P env s input = .ok s') :
    ∃ events, s'.events = s.events ++ events ∧
      ClientChange env (s.kinds input) s.client events s'.client := by
  have hkinds : ∀ {tasks}, s.tasks = tasks → s.kinds input =
      ({ s with tasks } : ClientState).kinds input := by
    rintro tasks rfl
    rfl
  cases clientStep_cases h with
  | @loop p htasks hp =>
      rw [hkinds htasks]
      exact ⟨p.events, rfl, loopProgress_changes hwf hp⟩
  | returns htasks hinput => exact ⟨[], (List.append_nil _).symm, .refl _⟩
  | @inCallback rest p htasks hp =>
      rw [hkinds htasks]
      exact ⟨p.events, rfl, callProgress_changes hwf hp⟩
  | @task task rest p htasks hcallback hinput hp =>
      have htask : s.kinds input = task.kinds := by
        rw [hkinds htasks]
        cases task with
        | inCallback => exact absurd rfl hcallback
        | _ => rfl
      rw [htask]
      exact ⟨p.events, rfl, runTask_changes hwf hp⟩

variable (E P) in
/-- The inputs of a run come with what the environment answers to the step. -/
def clientEnvStep (s : ClientState) (input : ClientEnv × ClientInput) :
    Except ClientHalt ClientState :=
  clientStep E P input.1 s input.2

/-- The state of a client that has just been made. -/
def clientStart (softwareName : Option Bytes) (cbs : RtspClientCbs) : ClientState where
  client := rtspClientNew softwareName cbs

/-- Inputs in an environment where nothing fails. -/
def undisturbed (inputs : List ClientInput) : List (ClientEnv × ClientInput) :=
  inputs.map fun input => ({}, input)

/-- A run to a connected client. -/
def connectInputs : List (ClientEnv × ClientInput) :=
  undisturbed
    [.connect (some (ascii "rtsp://a")), .callbackReturns, .resume,
      .resolved 1 (some (ascii "10.0.0.1")), .connected, .callbackReturns, .resume]

theorem clientEnvStep_wellFormed {s s' : ClientState} {input : ClientEnv × ClientInput}
    (hwf : s.client.WellFormed) (h : clientEnvStep E P s input = .ok s') :
    s'.client.WellFormed := by
  obtain ⟨events, -, hchange⟩ := clientStep_changes hwf h
  exact hchange.wellFormed hwf

/-- Every run keeps the client well-formed. -/
theorem run_wellFormed {softwareName : Option Bytes} {cbs : RtspClientCbs} {s : ClientState}
    {inputs : List (ClientEnv × ClientInput)}
    (h : Execution.run (clientEnvStep E P) (clientStart softwareName cbs) inputs = .ok s) :
    s.client.WellFormed :=
  Execution.invariant (fun s => s.client.WellFormed)
    (fun _ _ _ hwf _ hstep => clientEnvStep_wellFormed hwf hstep)
    (RtspClient.WellFormed.new softwareName cbs)
    (Execution.guarded_of_forall (fun _ _ => trivial) _ _) h

end Machine

end Librtsp
