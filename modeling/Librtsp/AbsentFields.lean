import Librtsp.ClientSteps

/-!
# Absent fields and callbacks of the client

`RtspClient.Present` holds in every run: the content base of a session and the response
callback of the request in the slot are never missing where they are read without a check.
What can be missing there comes from the server: the Transport of a successful SETUP, the
callback of a TEARDOWN request, and the URL the URI of an ANNOUNCE request is resolved
against, which is gone after a disconnection in a callback.
-/

namespace Librtsp

open CString RecordList

/-! ## What is always there -/

/-- The callback for the request in the slot is given, and the content bases are known. -/
structure RtspClient.Present (client : RtspClient) : Prop where
  callback : client.cbs.resp client.request.header.method = true ∨
    ∀ cbs : RtspClientCbs, cbs.resp client.request.header.method = false
  slotBase : client.request.header.method = .setup → client.request.contentBase.isSome = true
  bases : ∀ session ∈ client.sessions, session.contentBase.isSome = true

namespace RtspClient

variable {client client' : RtspClient} {session : RtspClientSession}

theorem Present.new (softwareName : Option Bytes) (cbs : RtspClientCbs) :
    (rtspClientNew softwareName cbs).Present where
  callback := .inr fun _ => rfl
  slotBase hsetup := by cases hsetup
  bases _ hmem := absurd hmem List.not_mem_nil

theorem Present.sameSlot (h : client.Present) (hcbs : client'.cbs = client.cbs)
    (hheader : client'.request.header = client.request.header)
    (hbase : client'.request.contentBase = client.request.contentBase)
    (hsessions : ∀ session ∈ client'.sessions, session.contentBase.isSome = true) :
    client'.Present where
  callback := by
    rw [hcbs, hheader]
    exact h.callback
  slotBase := by
    rw [hheader, hbase]
    exact h.slotBase
  bases := hsessions

/-- A session is replaced by itself. -/
theorem Present.replaced (h : client.Present) {old : RtspClientSession} {addr : Addr}
    (hfind : client.findSession addr = some old)
    (hsessions : client'.sessions = replace RtspClientSession.addr session client.sessions)
    (hsame : session.contentBase = old.contentBase) (hcbs : client'.cbs = client.cbs)
    (hheader : client'.request.header = client.request.header)
    (hbase : client'.request.contentBase = client.request.contentBase) : client'.Present := by
  apply h.sameSlot hcbs hheader hbase
  rw [hsessions]
  intro x hx
  rcases mem_replace.mp hx with ⟨hx, -⟩ | ⟨rfl, -⟩
  · exact h.bases x hx
  · rw [hsame]
    exact h.bases old (findSession_some hfind).1

/-- The slot is given to a request whose callback is given. -/
theorem Present.filled {method : RtspMethodType}
    (hmethod : client'.request.header.method = method)
    (hcallback : client'.cbs.resp method = true ∨
      ∀ cbs : RtspClientCbs, cbs.resp method = false)
    (hbase : method = .setup → client'.request.contentBase.isSome = true)
    (hsessions : ∀ session ∈ client'.sessions, session.contentBase.isSome = true) :
    client'.Present where
  callback := by
    rw [hmethod]
    exact hcallback
  slotBase := by
    rw [hmethod]
    exact hbase
  bases := hsessions

end RtspClient

section Changes

variable {env : ClientEnv} {kinds : List ChangeKind} {client client' : RtspClient}
  {events : List ClientEvent}

theorem CallOutcome.present {method : RtspMethodType} {userdata : Nat} {timeoutMs : UInt32}
    {internal : Bool} {stages : CallStages} {marked : Option RtspClientSession} {called : Called}
    (h : CallOutcome env client method userdata timeoutMs internal stages marked called)
    (hstages : stages.claims → client.cbs.resp method = true) (hpresent : client.Present) :
    called.client.Present := by
  have hbuilt : ∀ {built}, Filled env (Librtsp.claimed client) built method userdata →
      client.cbs.resp method = true → built.Present := by
    intro built hfilled hcallback
    have hcbs : built.cbs = client.cbs := by
      rw [hfilled.same]
      rfl
    apply RtspClient.Present.filled hfilled.sameMethod
    · rw [hcbs]
      exact .inl hcallback
    · intro hsetup
      have hbase := hfilled.contentBase
      rwa [if_pos hsetup] at hbase
    · rw [hfilled.sessions]
      exact hpresent.bases
  cases h with
  | refused e hclaims => exact hpresent
  | claimed e hclaim hclaims hlookups => exact hpresent.sameSlot rfl rfl rfl hpresent.bases
  | unnumbered e hclaim hclaims hlookups hreserves hunset =>
      exact .filled rfl (.inl (hstages hclaims)) (fun h => absurd h hunset) hpresent.bases
  | unsent e hclaim hclaims hlookups hreserves hfilled =>
      exact hbuilt hfilled (hstages hclaims)
  | sent message hclaim hmethod hfilled hagent hsock hsend =>
      have hsent := hbuilt hfilled hmethod
      exact hsent.sameSlot rfl rfl rfl hsent.bases
  | @tearsDown built session message hclaim hmethod hteardown hfilled hagent hsock hsend hfind =>
      have hsent := hbuilt hfilled hmethod
      have hfound : built.findSession session.addr = some session := by
        change lookup RtspClientSession.addr session.addr built.sessions = some session
        rw [hfilled.sessions]
        exact hfind
      exact hsent.replaced hfound rfl rfl rfl rfl rfl

theorem completed_present {resp : RtspResponseHeader} {completion : Completion}
    {ended : EndedRequest} {p : Progress} (hwf : client.WellFormed) (hpresent : client.Present)
    (h : CompletedMethod (sessionOf client resp).2 (sessionOf client resp).1 ended resp
      completion p) : p.client.Present := by
  have hsessions : ∀ session ∈ p.client.sessions, session.contentBase.isSome = true := by
    apply @completed_bases client (fun base => base.isSome = true) _ _ _ _ hwf hpresent.bases _
      hpresent.slotBase h
    intro base hbase
    simp [hbase]
  have hframe := completed_frame h
  have hheader : p.client.request.header = {} := by
    rw [hframe]
    rfl
  refine ⟨?_, ?_, hsessions⟩
  · rw [hheader]
    exact .inr fun _ => rfl
  · rw [hheader]
    intro hsetup
    cases hsetup

theorem ClientChange.present (h : ClientChange env kinds client events client')
    (hwf : client.WellFormed) (hpresent : client.Present) : client'.Present := by
  induction h with
  | refl => exact hpresent
  | trans hab _ ihab ihbc => exact ihbc (hab.wellFormed hwf) (ihab hwf hpresent)
  | told => exact hpresent
  | answered => exact hpresent
  | connecting => exact hpresent
  | delivered => exact hpresent
  | received => exact hpresent.sameSlot rfl rfl rfl hpresent.bases
  | linked haddr h =>
      rw [h]
      exact hpresent.sameSlot rfl rfl rfl hpresent.bases
  | forgotten => exact hpresent.sameSlot rfl rfl rfl hpresent.bases
  | called _ call houtcome =>
      exact houtcome.present (fun hclaims => checkMethod_ok hclaims.2.1) hpresent
  | tearsDown _ houtcome =>
      exact houtcome.present (fun hclaims => checkMethod_ok hclaims.2.1) hpresent
  | completed _ resp status hpending h => exact completed_present hwf hpresent h
  | expired => exact hpresent.sameSlot rfl rfl rfl hpresent.bases
  | fired _ hfind => exact hpresent.replaced hfind rfl rfl rfl rfl rfl
  | rearmed _ hfind failed timerMsec =>
      exact hpresent.replaced hfind rfl (RtspClient.resetKeepAliveTimer_contentBase _ _) rfl rfl
        rfl
  | drafted _ hidle hheader =>
      exact .filled hheader.method (.inr fun _ => rfl) (fun h => (by cases h)) hpresent.bases
  | keptAlive _ hfind hidle hstate hheader hsession =>
      refine .filled hheader.method (.inr fun _ => rfl) (fun h => (by cases h)) ?_
      intro x hx
      rcases mem_replace.mp hx with ⟨hx, -⟩ | ⟨rfl, -⟩
      · exact hpresent.bases x hx
      · have hbase := hpresent.bases _ (RtspClient.findSession_some hfind).1
        exact hbase
  | resumed _ hfind =>
      exact hpresent.replaced hfind rfl (RtspClient.resetKeepAliveTimer_contentBase _ _) rfl rfl
        rfl
  | unmarked hfind => exact hpresent.replaced hfind rfl rfl rfl rfl rfl
  | external => exact hpresent.sameSlot rfl rfl rfl hpresent.bases
  | mediaAdded _ hfind hadd =>
      unfold rtspClientSessionMediaAdd at hadd
      split at hadd
      next =>
        cases hadd
        exact hpresent.replaced hfind rfl rfl rfl rfl rfl
      next => cases hadd
  | mediaDropped hfind => exact hpresent.replaced hfind rfl rfl rfl rfl rfl
  | mediasDropped hfind => exact hpresent.replaced hfind rfl rfl rfl rfl rfl
  | unlinked hfind =>
      exact hpresent.sameSlot rfl rfl rfl fun x hx => hpresent.bases x (mem_remove.mp hx).1

end Changes

/-! ## What can be missing -/

/-- What the message needs to be processed is not there: the Transport of a successful
SETUP, the URL for the URI of an ANNOUNCE request, or the callback for a TEARDOWN request
about a known session. -/
def LacksPart (client : RtspClient) : Delivery → Prop
  | .text (.response header) _ =>
      header.cseq = client.request.header.cseq ∧ client.request.isPending = true ∧
        client.request.header.method = .setup ∧ header.statusCode.tdiv 100 = 2 ∧
        header.transport = none
  | .text (.request header) _ =>
      (header.method = .announce ∧ header.uri.isSome = true ∧ client.urlStr = none) ∨
        (header.method = .teardown ∧ client.cbs.teardown = false ∧
          (rtspClientSessionFind client header.sessionId).isSome = true ∧
          ∃ path, rtspUrlParsePath header.uri = .ok (some path))
  | .interleaved _ _ => False

section Halts

variable {E : HeaderEdit} {P : Platform} {env : ClientEnv} {client : RtspClient}

theorem respond_halts {response : ClientResponse} {tasks : List ClientTask} {halt : ClientHalt}
    (h : respond client response tasks = .error halt) :
    client.cbs.resp response.method = false := by
  unfold respond at h
  split at h
  next => cases h
  next hcallback => simpa using hcallback

theorem setupRequestComplete_halts_iff {session : Option Addr} {sessionId : Option Bytes}
    {ended : EndedRequest} {resp : RtspResponseHeader} {completion : Completion}
    (hcallback : client.cbs.resp .setup = true) :
    setupRequestComplete client session sessionId ended resp completion = .error .nullPointer ↔
      completion.status = .ok ∧ resp.transport = none := by
  have hresponds : ∀ {client' : RtspClient} {response : ClientResponse} {tasks},
      client'.cbs = client.cbs → response.method = .setup →
        respond client' response tasks ≠ .error .nullPointer := by
    intro client' response tasks hcbs hmethod h
    have hmissing := respond_halts h
    rw [hcbs, hmethod, hcallback] at hmissing
    cases hmissing
  unfold setupRequestComplete
  dsimp only
  split
  next hok =>
    split
    next htransport => simp [hok, htransport]
    next transport htransport =>
      apply iff_of_false
      · apply hresponds
        · split
          next => rfl
          next => rfl
        · rfl
      · simp [htransport]
  next hfailed =>
    apply iff_of_false
    · exact hresponds rfl rfl
    · exact fun h => hfailed h.1

theorem teardownRequestComplete_runs {session : Option RtspClientSession}
    {sessionId : Option Bytes} {ended : EndedRequest} {resp : RtspResponseHeader}
    {completion : Completion} (hcallback : client.cbs.resp .teardown = true)
    (halt : ClientHalt) :
    teardownRequestComplete client session sessionId ended resp completion ≠ .error halt := by
  intro h
  have hresponds : ∀ {response : ClientResponse} {tasks}, response.method = .teardown →
      respond client response tasks ≠ .error halt := by
    intro response tasks hmethod h
    have hmissing := respond_halts h
    rw [hmethod, hcallback] at hmissing
    cases hmissing
  unfold teardownRequestComplete at h
  dsimp only at h
  split at h
  next =>
    split at h
    next => cases h
    next => exact hresponds rfl h
  next =>
    split at h
    next =>
      split at h
      next => cases h
      next =>
        split at h
        next => cases h
        next => exact hresponds rfl h
    next => cases h

/-- Of the ends of a request only the one of a successful SETUP misses something. -/
theorem completeMethod_halts_iff {session : Option RtspClientSession}
    {sessionId : Option Bytes} {ended : EndedRequest} {resp : RtspResponseHeader} {body : Bytes}
    {completion : Completion}
    (hcallback : client.cbs.resp ended.method = true ∨
      ∀ cbs : RtspClientCbs, cbs.resp ended.method = false) :
    completeMethod client session sessionId ended resp body completion = .error .nullPointer ↔
      ended.method = .setup ∧ completion.status = .ok ∧ resp.transport = none := by
  unfold completeMethod
  cases hmethod : ended.method with
  | setup =>
      rw [hmethod] at hcallback
      have hgiven : client.cbs.resp .setup = true :=
        hcallback.resolve_right fun hnone => absurd (hnone {}) (by decide)
      simpa using setupRequestComplete_halts_iff hgiven
  | teardown =>
      rw [hmethod] at hcallback
      have hgiven : client.cbs.resp .teardown = true :=
        hcallback.resolve_right fun hnone => absurd (hnone {}) (by decide)
      simpa using teardownRequestComplete_runs hgiven .nullPointer
  | options | describe | announce | play | pause | record =>
      rw [hmethod] at hcallback
      have hgiven := hcallback.resolve_right fun hnone => absurd (hnone {}) (by decide)
      apply iff_of_false
      · intro h
        exact Bool.noConfusion (hgiven.symm.trans (respond_halts h))
      · simp
  | _ => simp

theorem requestComplete_halts_iff (hpresent : client.Present) {resp : Option RtspResponseHeader}
    {body : Bytes} {status : RtspClientReqStatus} :
    requestComplete client resp body status = .error .nullPointer ↔
      client.request.isPending = true ∧ client.request.header.method = .setup ∧
        statusOf (responseOrDummy client resp status) status = .ok ∧
        (responseOrDummy client resp status).transport = none := by
  cases hpending : client.request.isPending with
  | false =>
      rw [requestComplete_idle hpending]
      simp
  | true =>
      rw [requestComplete_pending hpending, completeMethod_halts_iff]
      · simp [endedRequest, completionOf]
      · have hsession := completeSession_frame
          (releasedClient client (responseOrDummy client resp status))
          client.request.header.method
          (responseSessionId client (responseOrDummy client resp status))
          (responseOrDummy client resp status).sessionTimeout
        have hcbs : (sessionOf client (responseOrDummy client resp status)).2.cbs =
            client.cbs := by
          change (sessionOf client (responseOrDummy client resp status)).2 = _ at hsession
          rw [hsession, releasedClient_eq]
          rfl
        rw [hcbs]
        exact hpresent.callback

/-- A request that ends without a response has all it needs. -/
theorem requestComplete_runs (hpresent : client.Present) {resp : Option RtspResponseHeader}
    {body : Bytes} {status : RtspClientReqStatus} (hstatus : status ≠ .ok) :
    requestComplete client resp body status ≠ .error .nullPointer := by
  intro h
  obtain ⟨-, -, hok, -⟩ := (requestComplete_halts_iff hpresent).mp h
  unfold statusOf at hok
  split at hok
  next => cases hok
  next => exact hstatus hok

theorem clientUriToContentBase_halts_iff {uri : Option Bytes} :
    clientUriToContentBase client uri = .error .nullPointer ↔
      uri.isSome = true ∧ client.urlStr = none := by
  unfold clientUriToContentBase
  split
  next => simp
  next hnone => simp [hnone]
  next hsome =>
    apply iff_of_false
    · split
      next => exact fun h => (by cases h)
      next =>
        split
        next => exact fun h => (by cases h)
        next => exact fun h => (by cases h)
    · simp [hsome]

theorem teardownRequestProcess_halts_iff
    (hbases : ∀ session ∈ client.sessions, session.contentBase.isSome = true)
    {header : RtspRequestHeader} :
    teardownRequestProcess client header = .error .nullPointer ↔
      client.cbs.teardown = false ∧
        (rtspClientSessionFind client header.sessionId).isSome = true ∧
        ∃ path, rtspUrlParsePath header.uri = .ok (some path) := by
  unfold teardownRequestProcess
  split
  next hfind => simp [hfind]
  next session hfind =>
    split
    next hpath => simp [hpath]
    next hpath => simp [hpath]
    next path hpath =>
      split
      next hbase =>
        have hsome := hbases session (rtspClientSessionFind_mem hfind)
        rw [hbase] at hsome
        cases hsome
      next =>
        cases hcallback : client.cbs.teardown with
        | true => simp
        | false => simp [hfind, hpath]

theorem processDelivery_halts_iff (hpresent : client.Present) {message : Delivery} :
    processDelivery client message = .error .nullPointer ↔ LacksPart client message := by
  cases message with
  | interleaved channel data =>
      unfold processDelivery
      simp [LacksPart]
  | text header body =>
      cases header with
      | request header =>
          unfold processDelivery rtspClientRequestProcess LacksPart
          dsimp only
          cases hmethod : header.method with
          | announce =>
              cases hbase : clientUriToContentBase client header.uri with
              | error halt =>
                  have hiff := @clientUriToContentBase_halts_iff client header.uri
                  rw [hbase] at hiff
                  simpa [Bind.bind, Except.bind] using hiff
              | ok contentBase =>
                  have hiff := @clientUriToContentBase_halts_iff client header.uri
                  rw [hbase] at hiff
                  simpa [Bind.bind, Except.bind] using hiff
          | teardown => simpa using teardownRequestProcess_halts_iff hpresent.bases
          | _ => simp
      | response header =>
          unfold processDelivery rtspClientResponseProcess LacksPart
          dsimp only
          split
          next hcseq =>
            rw [requestComplete_halts_iff hpresent]
            simp only [responseOrDummy, Option.getD_some, hcseq, true_and]
            have hstatus : statusOf header .ok = .ok ↔ header.statusCode.tdiv 100 = 2 := by
              unfold statusOf
              split
              next h => simp [h.2]
              next h => simpa using h
            rw [hstatus]
          next hcseq =>
            apply iff_of_false
            · split
              next => exact fun h => (by cases h)
              next => exact fun h => (by cases h)
            · exact fun h => hcseq h.1

/-! ## Calls, tasks and steps -/

theorem callRequest_runs
    (hbases : ∀ session ∈ client.sessions, session.contentBase.isSome = true)
    {call : ClientCall} : callRequest P env client call ≠ .error .nullPointer := by
  have hsession : ∀ {sessionId : Option Bytes} {base : Bytes},
      checkSetupSession (claimed client) sessionId base ≠ .error .nullPointer := by
    intro sessionId base h
    unfold checkSetupSession at h
    split at h
    next => cases h
    next =>
      split at h
      next => cases h
      next session hfind =>
        split at h
        next hbase =>
          have hmem : session ∈ client.sessions := rtspClientSessionFind_mem hfind
          have hsome := hbases session hmem
          rw [hbase] at hsome
          cases hsome
        next =>
          split at h
          next => cases h
          next => cases h
  have hallocate : ∀ {channelUsed : UInt8 → Bool} {pair : RtspChannelPair},
      allocateInterleavedChannels channelUsed pair ≠ .error .nullPointer := by
    intro channelUsed pair h
    unfold allocateInterleavedChannels at h
    split at h
    next =>
      split at h
      next => cases h
      next => cases h
    next =>
      split at h
      next => cases h
      next => cases h
  cases call with
  | setup asked args =>
      intro h
      change rtspClientSetup P env client asked args = _ at h
      unfold rtspClientSetup at h
      split at h
      next =>
        split at h
        next => cases h
        next =>
          split at h
          next => cases h
          next => cases h
          next slot hcheck hslot =>
            obtain ⟨rfl, -⟩ := claimSlot_ok hslot
            split at h
            next => cases h
            next =>
              split at h
              next halt hhalt =>
                cases h
                exact hsession hhalt
              next => cases h
              next =>
                split at h
                next => cases h
                next =>
                  dsimp only at h
                  split at h
                  next => cases h
                  next => cases h
                  next =>
                    have hsubmit := except_map_error.mp h
                    unfold submitSetup at hsubmit
                    dsimp only at hsubmit
                    split at hsubmit
                    next =>
                      split at hsubmit
                      next => cases hsubmit
                      next =>
                        split at hsubmit
                        next halt hhalt =>
                          cases hsubmit
                          exact hallocate hhalt
                        next => cases hsubmit
                        next => cases hsubmit
                    next => cases hsubmit
      next => cases h
  | options args => exact fun h => (by cases h)
  | describe path args =>
      intro h
      obtain ⟨f, hfault⟩ := rtspClientDescribe_halts h
      cases hfault
  | announce path sessionDescription args =>
      intro h
      obtain ⟨f, hfault⟩ := rtspClientAnnounce_halts h
      cases hfault
  | play sessionId range scale args =>
      intro h
      obtain ⟨f, hfault⟩ := sessionCall_halts h
      cases hfault
  | pause sessionId range args =>
      intro h
      obtain ⟨f, hfault⟩ := sessionCall_halts h
      cases hfault
  | record sessionId range args =>
      intro h
      obtain ⟨f, hfault⟩ := sessionCall_halts h
      cases hfault
  | teardown resourceUrl sessionId args =>
      intro h
      obtain ⟨f, hfault⟩ := sendTeardown_halts (except_map_error.mp h)
      cases hfault

theorem sendKeepAlive_runs (session : RtspClientSession) :
    sendKeepAlive P env client session ≠ .error .nullPointer := by
  intro h
  obtain ⟨f, hfault⟩ := sendKeepAlive_halts h
  cases hfault

theorem keepAliveFor_runs (session : Option RtspClientSession) :
    keepAliveFor P env client session ≠ .error .nullPointer := by
  intro h
  unfold keepAliveFor at h
  split at h
  next => cases h
  next => exact sendKeepAlive_runs _ (except_map_error.mp h)

theorem clientDisconnected_runs (hpresent : client.Present) :
    clientDisconnected client ≠ .error .nullPointer := by
  intro h
  unfold clientDisconnected at h
  dsimp only at h
  split at h
  next =>
    refine requestComplete_runs ?_ ?_ (except_map_error.mp h)
    · exact hpresent.sameSlot rfl rfl rfl hpresent.bases
    · simp
  next =>
    refine requestComplete_runs ?_ ?_ (except_map_error.mp h)
    · exact hpresent.sameSlot rfl rfl rfl hpresent.bases
    · simp
  next => cases h

theorem tsktClientStop_runs (hpresent : client.Present) :
    tsktClientStop client ≠ .error .nullPointer := by
  intro h
  unfold tsktClientStop at h
  dsimp only at h
  split at h
  next =>
    refine clientDisconnected_runs ?_ h
    exact hpresent.sameSlot rfl rfl rfl hpresent.bases
  next => cases h

theorem sessionAfter_runs (session : Addr) :
    sessionAfter client session ≠ .error .nullPointer := by
  intro h
  unfold sessionAfter at h
  split at h
  next => cases h
  next => cases h

theorem removeFrom_runs (session : Option Addr) :
    removeFrom client session ≠ .error .nullPointer := by
  intro h
  unfold removeFrom at h
  split at h
  next => cases h
  next addr =>
    split at h
    next => cases h
    next =>
      cases hafter : sessionAfter client addr with
      | error halt =>
          rw [hafter] at h
          cases h
          exact sessionAfter_runs addr hafter
      | ok next =>
          rw [hafter] at h
          cases h

/-- The message that is next in the buffer lacks a part. -/
def NextLacksPart (E : HeaderEdit) (P : Platform) (client : RtspClient) : Prop :=
  ∃ next message, rtspGetNextMessage E P client.receiver.buf client.receiver.ctx = .ok next ∧
    next.result = .ok message ∧ LacksPart client (message.delivery next.data)

theorem receiveMessage_halts_iff (hpresent : client.Present) :
    receiveMessage E P client = .error .nullPointer ↔ NextLacksPart E P client := by
  unfold receiveMessage NextLacksPart
  split
  next f hnext => simp [hnext]
  next next hnext =>
    dsimp only
    split
    next e hresult => simp [hnext, hresult]
    next message hresult =>
      rw [except_map_error, processDelivery_halts_iff]
      · simp only [hnext, Except.ok.injEq, exists_and_left, exists_eq_left', hresult]
        exact Iff.rfl
      · exact hpresent.sameSlot rfl rfl rfl hpresent.bases

theorem runTask_halts_iff (hpresent : client.Present) {task : ClientTask} :
    runTask E P env client task = .error .nullPointer ↔
      task = .receive ∧ NextLacksPart E P client := by
  cases task with
  | receive => exact (receiveMessage_halts_iff hpresent).trans (by simp)
  | tornDown header session media =>
      refine iff_of_false (fun h => ?_) (by simp)
      change tornDown client header session media = _ at h
      unfold tornDown at h
      split at h
      next => cases h
      next =>
        split at h
        next => cases h
        next =>
          split at h
          next => cases h
          next =>
            dsimp only at h
            split at h
            next => cases h
            next => cases h
  | addMedia session uri pair =>
      refine iff_of_false (fun h => ?_) (by simp)
      change addMedia client session uri pair = _ at h
      unfold addMedia at h
      split at h
      next => cases h
      next => cases h
      next => cases h
      next =>
        split at h
        next => cases h
        next => cases h
  | teardownReported session =>
      refine iff_of_false (fun h => ?_) (by simp)
      change teardownReported client session = _ at h
      unfold teardownReported at h
      dsimp only at h
      split at h
      next => cases h
      next =>
        split at h
        next => cases h
        next => cases h
  | applyTeardown session media completion =>
      refine iff_of_false (fun h => ?_) (by simp)
      change applyTeardown client session media completion = _ at h
      unfold applyTeardown at h
      split at h
      next => cases h
      next =>
        split at h
        next => cases h
        next =>
          split at h
          next => cases h
          next => cases h
  | countFailure status =>
      refine iff_of_false (fun h => ?_) (by simp)
      change countFailure client status = _ at h
      unfold countFailure at h
      split at h
      next =>
        dsimp only at h
        split at h
        next =>
          refine tsktClientStop_runs ?_ (except_map_error.mp h)
          exact hpresent.sameSlot rfl rfl rfl hpresent.bases
        next => cases h
      next => cases h
  | unlinkSession session =>
      refine iff_of_false (fun h => ?_) (by simp)
      change unlinkSession client session = _ at h
      unfold unlinkSession at h
      split at h
      next => cases h
      next => cases h
  | sendKeepAlive session =>
      refine iff_of_false (fun h => ?_) (by simp)
      unfold runTask at h
      dsimp only at h
      split at h
      next => cases h
      next => exact sendKeepAlive_runs _ h
  | keepAliveAll => exact iff_of_false (keepAliveFor_runs _) (by simp)
  | keepAliveAfter session =>
      refine iff_of_false (fun h => ?_) (by simp)
      change (sessionAfter client session >>= fun next => keepAliveFor P env client next) = _ at h
      cases hafter : sessionAfter client session with
      | error halt =>
          rw [hafter] at h
          cases h
          exact sessionAfter_runs session hafter
      | ok next =>
          rw [hafter] at h
          exact keepAliveFor_runs next h
  | conclude completion =>
      refine iff_of_false (fun h => ?_) (by simp)
      have hteardown := except_map_error.mp h
      unfold ownTeardown at hteardown
      split at hteardown
      next =>
        obtain ⟨f, hfault⟩ := sendTeardown_halts hteardown
        cases hfault
      next => cases hteardown
  | resolveHost url =>
      refine iff_of_false (fun h => ?_) (by simp)
      change resolveHost env client url = _ at h
      unfold resolveHost at h
      split at h
      next => cases h
      next =>
        split at h
        next => cases h
        next =>
          dsimp only at h
          split at h
          next => cases h
          next =>
            split at h
            next => cases h
            next => cases h
  | stopTransport alreadyDisconnected =>
      refine iff_of_false (fun h => ?_) (by simp)
      exact tsktClientStop_runs hpresent (except_map_error.mp h)
  | finishDisconnect =>
      refine iff_of_false (fun h => ?_) (by simp)
      refine requestComplete_runs ?_ ?_ (except_map_error.mp h)
      · exact hpresent.sameSlot rfl rfl rfl hpresent.bases
      · simp
  | removeFrom session => exact iff_of_false (removeFrom_runs session) (by simp)
  | removeAll => exact iff_of_false (removeFrom_runs _) (by simp)
  | _ => exact iff_of_false (fun h => (by cases h)) (by simp)

theorem callProgress_runs (hpresent : client.Present) {input : ClientInput} :
    callProgress P env client input ≠ .error .nullPointer := by
  intro h
  cases input with
  | call call => exact callRequest_runs hpresent.bases (except_map_error.mp h)
  | cancel => exact requestComplete_runs hpresent (by simp) h
  | _ => cases h

theorem loopProgress_runs (hpresent : client.Present) {input : ClientInput} :
    loopProgress P env client input ≠ .error .nullPointer := by
  intro h
  cases input with
  | disconnected =>
      unfold loopProgress at h
      dsimp only at h
      split at h
      next => exact clientDisconnected_runs hpresent h
      next => cases h
  | responseTimeout =>
      unfold loopProgress at h
      dsimp only at h
      split at h
      next =>
        refine requestComplete_runs ?_ ?_ h
        · exact hpresent.sameSlot rfl rfl rfl hpresent.bases
        · simp
      next => cases h
  | keepAliveTimer addr =>
      unfold loopProgress at h
      dsimp only at h
      split at h
      next =>
        split at h
        next => exact sendKeepAlive_runs _ h
        next => cases h
      next => cases h
  | connected | data | readyToSend | resolvTimeout | resolved =>
      unfold loopProgress at h
      dsimp only at h
      split at h
      next => cases h
      next => cases h
  | call call => exact @callProgress_runs P env client hpresent (.call call) h
  | cancel => exact @callProgress_runs P env client hpresent .cancel h
  | _ => cases h

/-- The step takes a message from the buffer that lacks a part. -/
def ReceivesLacking (E : HeaderEdit) (P : Platform) (s : ClientState) (input : ClientInput) :
    Prop :=
  input = .resume ∧ s.tasks.head? = some .receive ∧ NextLacksPart E P s.client

theorem clientStep_halts_iff {s : ClientState} (hpresent : s.client.Present)
    {input : ClientInput} :
    clientStep E P env s input = .error .nullPointer ↔ ReceivesLacking E P s input := by
  unfold clientStep ReceivesLacking
  split
  next htasks =>
    apply iff_of_false
    · split
      next => exact fun h => (by cases h)
      next => exact fun h => (by cases h)
      next => exact fun h => loopProgress_runs hpresent (except_map_error.mp h)
    · simp [htasks]
  next rest htasks =>
    apply iff_of_false
    · split
      next => exact fun h => (by cases h)
      next => exact fun h => callProgress_runs hpresent (except_map_error.mp h)
    · simp [htasks]
  next task rest hcallback htasks =>
    split
    next =>
      rw [except_map_error, runTask_halts_iff hpresent, htasks]
      simp
    next hinput => exact iff_of_false (fun h => (by cases h)) fun h => hinput h.1

end Halts

theorem run_present {E : HeaderEdit} {P : Platform} {softwareName : Option Bytes}
    {cbs : RtspClientCbs} {s : ClientState} {inputs : List (ClientEnv × ClientInput)}
    (h : Execution.run (clientEnvStep E P) (clientStart softwareName cbs) inputs = .ok s) :
    s.client.Present := by
  refine (Execution.invariant (fun s => s.client.WellFormed ∧ s.client.Present) ?_
    ⟨RtspClient.WellFormed.new softwareName cbs, RtspClient.Present.new softwareName cbs⟩
    (Execution.guarded_of_forall (fun _ _ => trivial) _ _) h).2
  intro s input s' hs _ hstep
  obtain ⟨events, -, hchange⟩ := clientStep_changes hs.1 hstep
  exact ⟨hchange.wellFormed hs.1, hchange.present hs.1 hs.2⟩

/-- In every state of every run, with any callbacks, a step uses nothing that is absent
exactly when it does not process a message that lacks a part. -/
theorem absentParts_unused_iff {E : HeaderEdit} {P : Platform} {softwareName : Option Bytes}
    {cbs : RtspClientCbs} {s : ClientState} {inputs : List (ClientEnv × ClientInput)}
    (hrun : Execution.run (clientEnvStep E P) (clientStart softwareName cbs) inputs = .ok s)
    (input : ClientEnv × ClientInput) :
    clientEnvStep E P s input ≠ .error .nullPointer ↔ ¬ ReceivesLacking E P s input.2 :=
  not_congr (clientStep_halts_iff (run_present hrun))

/-- The client has called SETUP, and the response has arrived. -/
def answeredSetup (response : Bytes) : List (ClientEnv × ClientInput) :=
  let asked : SetupArgs :=
    { contentBase := some (ascii "rtsp://a/s"), resourceUrl := some (ascii "t")
      clientStreamPort := 1, clientControlPort := 2 }
  connectInputs ++ undisturbed [.call (.setup asked {}), .data response]

theorem absentParts_unused_notFound :
    ∃ s, Execution.run (clientEnvStep .words .bare) (clientStart none {})
        (answeredSetup (ascii "RTSP/1.0 404 Not Found\r\nCSeq: 1\r\n\r\n")) = .ok s ∧
      ¬ ReceivesLacking .words .bare s .resume := by
  have hrun : Execution.Reaches (clientEnvStep .words .bare)
      (fun s => ((clientEnvStep .words .bare s ({}, .resume)).toOption).isSome = true)
      (clientStart none {})
      (answeredSetup (ascii "RTSP/1.0 404 Not Found\r\nCSeq: 1\r\n\r\n")) := by
    decide +kernel
  obtain ⟨s, hrun, hstep⟩ := hrun
  refine ⟨s, hrun, (absentParts_unused_iff hrun ({}, .resume)).mp fun hhalts => ?_⟩
  rw [hhalts] at hstep
  cases hstep

/-- A SETUP succeeds without a Transport. -/
theorem absentTransport_used :
    ∃ s, Execution.run (clientEnvStep .words .bare) (clientStart none {})
        (answeredSetup (ascii "RTSP/1.0 200 OK\r\nCSeq: 1\r\nSession: 1\r\n\r\n")) = .ok s ∧
      clientEnvStep .words .bare s ({}, .resume) = .error .nullPointer := by
  have hrun : Execution.Reaches (clientEnvStep .words .bare)
      (fun s => (clientEnvStep .words .bare s ({}, .resume)).map (fun _ => ()) =
        .error .nullPointer)
      (clientStart none {})
      (answeredSetup (ascii "RTSP/1.0 200 OK\r\nCSeq: 1\r\nSession: 1\r\n\r\n")) := by
    decide +kernel
  obtain ⟨s, hrun, hhalts⟩ := hrun
  exact ⟨s, hrun, except_map_error.mp hhalts⟩

end Librtsp
