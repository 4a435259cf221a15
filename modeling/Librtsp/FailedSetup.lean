import Librtsp.ClientSteps
import Librtsp.ServerOwnership

/-!
# Failed SETUP requests

The server adds a session and a media before it asks the application, and takes
back what it has added when the SETUP is refused.  The client creates a session
when the response names one.  `withdraw` takes away from the lists what a SETUP
request has brought; `Withdraws` and `KnowsSession` say when the code does the
same, and `failedSetup_traceless_iff` that it does so then and only then.
-/

namespace Librtsp

open CString RecordList

/-! ## The lists of the server -/

namespace RtspServer

/-- The sessions with their medias. -/
def mediaLists (server : RtspServer) : List (Addr × List Addr) :=
  server.sessions.map fun session =>
    (session.addr, session.medias.map RtspServerSessionMedia.addr)

/-- The idle work that is due has run. -/
def afterIdle (server : RtspServer) : RtspServer :=
  server.removeIdle.foldl rtspServerSessionRemove server

theorem foldl_remove_lists (idle : List Addr) (server : RtspServer) :
    (idle.foldl rtspServerSessionRemove server).mediaLists =
      server.mediaLists.filter fun entry => entry.1 ∉ idle := by
  induction idle generalizing server with
  | nil => simp
  | cons session idle ih =>
      rw [List.foldl_cons, ih]
      have hremove : (rtspServerSessionRemove server session).mediaLists =
          server.mediaLists.filter fun entry => entry.1 ≠ session := by
        unfold mediaLists rtspServerSessionRemove remove
        rw [List.filter_map]
        rfl
      rw [hremove, List.filter_filter]
      apply List.filter_congr
      intro entry _
      simp [Bool.and_comm]

theorem afterIdle_lists (server : RtspServer) :
    server.afterIdle.mediaLists =
      server.mediaLists.filter fun entry => entry.1 ∉ server.removeIdle :=
  foldl_remove_lists _ server

/-- One more session is due to be removed. -/
theorem afterIdle_schedule {server server' : RtspServer} {session : Addr}
    (hlists : server'.mediaLists = server.mediaLists)
    (hidle : server'.removeIdle = server.removeIdle ++ [session]) :
    server'.afterIdle.mediaLists =
      server.afterIdle.mediaLists.filter fun entry => entry.1 ≠ session := by
  rw [afterIdle_lists, afterIdle_lists, hlists, hidle, List.filter_filter]
  apply List.filter_congr
  intro entry _
  simp [and_comm]

theorem afterIdle_same {server server' : RtspServer}
    (hlists : server'.mediaLists = server.mediaLists)
    (hidle : server'.removeIdle = server.removeIdle) :
    server'.afterIdle.mediaLists = server.afterIdle.mediaLists := by
  rw [afterIdle_lists, afterIdle_lists, hlists, hidle]

theorem session_eq {server : RtspServer} (hwf : server.table.WellFormed)
    {session : RtspServerSession} (hmem : session ∈ server.sessions) {x : RtspServerSession}
    (hx : x ∈ server.sessions) (haddr : x.addr = session.addr) : x = session :=
  List.inj_on_of_nodup_map (session_keys_nodup hwf) hx hmem haddr

theorem findRequest_of_mem {server : RtspServer} (hwf : server.table.WellFormed)
    {request : RtspServerPendingRequest} (hmem : request ∈ server.pendingRequests) :
    server.findRequest request.addr = some request := by
  apply lookup_of_mem _ hmem
  have hdistinct := hwf.requestsDistinct
  rwa [table, List.map_map] at hdistinct

/-- A session keeps its medias. -/
theorem setSession_lists {server : RtspServer} (hwf : server.table.WellFormed)
    {session session' : RtspServerSession} (hmem : session ∈ server.sessions)
    (haddr : session'.addr = session.addr) (hmedias : session'.medias = session.medias) :
    (server.setSession session').mediaLists = server.mediaLists := by
  unfold mediaLists setSession replace
  rw [List.map_map]
  apply List.map_congr_left
  intro x hx
  by_cases hsame : x.addr = session'.addr
  · have heq := session_eq hwf hmem hx (hsame.trans haddr)
    subst heq
    simp [haddr, hmedias]
  · simp [hsame]

end RtspServer

/-! ## What a SETUP request brings -/

namespace RtspServerPendingRequest

/-- The session is the one the request has opened, or has the media it was given. -/
def TraceIn (request : RtspServerPendingRequest) (entry : Addr × List Addr) : Prop :=
  match request.requestHeader.sessionId with
  | none => request.target = some entry.1
  | some _ => ∃ media ∈ entry.2, request.given = some media

/-- The lists without what the request has brought. -/
def withdraw (request : RtspServerPendingRequest) (lists : List (Addr × List Addr)) :
    List (Addr × List Addr) :=
  match request.requestHeader.sessionId with
  | none => lists.filter fun entry => request.target ≠ some entry.1
  | some _ =>
      lists.map fun entry => (entry.1, entry.2.filter fun media => request.given ≠ some media)

theorem withdraw_eq_self_iff (request : RtspServerPendingRequest)
    (lists : List (Addr × List Addr)) :
    request.withdraw lists = lists ↔ ∀ entry ∈ lists, ¬ request.TraceIn entry := by
  unfold withdraw TraceIn
  cases request.requestHeader.sessionId with
  | none => simp
  | some sessionId =>
      dsimp only
      have hentry : ∀ entry : Addr × List Addr,
          (entry.1, entry.2.filter fun media => request.given ≠ some media) = entry ↔
            ¬ ∃ media ∈ entry.2, request.given = some media := by
        intro entry
        rw [Prod.ext_iff, List.filter_eq_self]
        simp
      constructor
      · intro hmap entry hmem
        have hself : lists.map _ = lists.map id := hmap.trans (List.map_id lists).symm
        exact (hentry entry).mp (List.map_inj_left.mp hself entry hmem)
      · intro hnone
        conv_rhs => rw [← List.map_id lists]
        apply List.map_congr_left
        intro entry hmem
        exact (hentry entry).mpr (hnone entry hmem)

end RtspServerPendingRequest

/-! ## Answers to a SETUP request -/

/-- The reply is taken for a success, and its status is not one the library knows: what is
sent is an internal server error. -/
def SetupReply.SentAsError (reply : SetupReply) : Prop :=
  ¬ (reply.status < 0 ∨ statusIsFailure reply.status) ∧
    ¬ (reply.srcStreamPort = 0 ∨ reply.srcControlPort = 0) ∧
      statusIsFailure (rtspStatusGet reply.status).1

instance (reply : SetupReply) : Decidable reply.SentAsError :=
  inferInstanceAs (Decidable (_ ∧ _ ∧ _))

theorem rtspStatusGet_unlisted {status : Int}
    (hsuccess : ¬ (status < 0 ∨ statusIsFailure status))
    (hfails : statusIsFailure (rtspStatusGet status).1) :
    rtspStatusGet status = rtspStatusGet internalServerError := by
  have hnone : rtspStatusTable.find? (fun entry => entry.1 == status) = none := by
    cases hfind : rtspStatusTable.find? (fun entry => entry.1 == status) with
    | none => rfl
    | some entry =>
        have hentry : entry.1 = status := by simpa using List.find?_some hfind
        unfold rtspStatusGet at hfails
        rw [hfind] at hfails
        dsimp only at hfails
        rw [hentry] at hfails
        exact absurd (.inr hfails) hsuccess
  have hother : rtspStatusOfErrno status = 200 ∨ rtspStatusOfErrno status = 500 := by
    have hnonneg : 0 ≤ status := by
      by_contra hneg
      exact hsuccess (.inl (by omega))
    have hne : ∀ e : Errno, status ≠ e.ret := fun e heq => by
      have := e.ret_neg
      omega
    unfold rtspStatusOfErrno
    simp only [hne, or_self, if_false]
    split
    next => exact .inl rfl
    next => exact .inr rfl
  have hget : rtspStatusGet status = rtspStatusGet (rtspStatusOfErrno status) ∨
      rtspStatusGet status = rtspStatusGet 500 := by
    unfold rtspStatusGet
    rw [hnone]
    rcases hother with h | h
    · rw [h]
      exact .inl rfl
    · rw [h]
      exact .inr rfl
  rcases hget with h | h
  · rcases hother with h' | h'
    · rw [h, h'] at hfails
      exact absurd hfails (by decide)
    · rw [h, h']
      rfl
  · exact h

section Answers

variable {P : Platform} {env : Env} {server : RtspServer} {session : RtspServerSession}
  {request : RtspServerPendingRequest} {reply : SetupReply}

/-- A response with an error status to the request. -/
def IsErrorTo (request : Addr) : ServerEvent → Prop
  | .response answered _ status _ => answered = request ∧ statusIsFailure status = true
  | _ => False

instance (request : Addr) : DecidablePred (IsErrorTo request)
  | .response _ _ _ _ => inferInstanceAs (Decidable (_ ∧ _))
  | .received _ _ _ _ => isFalse id
  | .broadcast _ => isFalse id

theorem isErrorTo_response {event : ServerEvent} {a : Addr} (h : IsErrorTo a event) :
    ∃ conn status message, statusIsFailure status = true ∧
      event = .response a conn status message := by
  cases event with
  | response answered conn status message =>
      obtain ⟨rfl, hfails⟩ := h
      exact ⟨conn, status, message, hfails, rfl⟩
  | received => cases h
  | broadcast => cases h

/-- Filling an answer a second time, with a status that reads the same, changes nothing. -/
theorem fillAnswer_again {status status' : Int} {ext : List RtspHeaderExt}
    {sessionId : Option Bytes} {sessionTimeout : UInt32} {transport : Option RtspTransportHeader}
    (hsame : rtspStatusGet status = rtspStatusGet status') :
    fillAnswer env server status'
        { fillAnswer env server status request with
          responseHeader := rtspResponseHeaderCopyExt ext
            { (fillAnswer env server status request).responseHeader with
              sessionId, sessionTimeout, transport } } =
      { fillAnswer env server status request with
        responseHeader := rtspResponseHeaderCopyExt ext
          { (fillAnswer env server status request).responseHeader with
            sessionId, sessionTimeout, transport } } := by
  unfold rtspResponseHeaderCopyExt
  split
  next => simp [fillAnswer, hsame]
  next => simp [fillAnswer, hsame]

/-- An error is answered because the response could not be written, or as the response. -/
theorem attemptResponse_error {conn : Conn}
    (herror : ∃ event ∈ outcome P env server (attemptResponse P env server request conn none),
      IsErrorTo request.addr event) :
    ((attemptResponse P env server request conn none).ret < 0 ∧
        fillAnswer env server internalServerError request ≠ request) ∨
      ((attemptResponse P env server request conn none).ret = 0 ∧
        statusIsFailure request.responseHeader.statusCode = true) := by
  obtain ⟨event, hevent, herror⟩ := herror
  obtain ⟨conn', status, message', hfails, rfl⟩ := isErrorTo_response herror
  unfold outcome at hevent
  cases hwrite : writeResponse P server request.responseHeader none with
  | error e =>
      have hattempt : attemptResponse P env server request conn none =
          { ret := e.ret, errorStatus := internalServerError, request } := by
        unfold attemptResponse
        rw [hwrite]
      rw [hattempt] at hevent ⊢
      refine .inl ⟨e.ret_neg, fun hsame => ?_⟩
      have hnothing : (errorResponse P env server request internalServerError).2 = [] := by
        unfold errorResponse
        split
        next => rfl
        next =>
          dsimp only
          rw [hsame, hwrite]
      have hstatus : internalServerError ≠ 0 := by decide
      simp [answerError, hstatus, hnothing] at hevent
  | ok message =>
      cases hsend : env.send with
      | error e =>
          have hattempt : attemptResponse P env server request conn none =
              { ret := e.ret, request } := by
            unfold attemptResponse
            rw [hwrite, hsend]
          rw [hattempt] at hevent
          simp [answerError] at hevent
      | ok =>
          have hattempt : attemptResponse P env server request conn none =
              { request, events := sendResponse request conn message (.ok ()) } := by
            unfold attemptResponse
            rw [hwrite, hsend]
          rw [hattempt] at hevent ⊢
          refine .inr ⟨rfl, ?_⟩
          simp only [sendResponse, answerError, if_true, List.append_nil, List.mem_singleton,
            ServerEvent.response.injEq] at hevent
          exact hevent.2.2.1 ▸ hfails

/-- Where the answer is an error, the setup counts as failed unless the reply is one of those
that are sent as errors. -/
theorem setupAttempt_failed_iff
    (herror : ∃ event ∈ outcome P env server (setupAttempt P env server session request reply).1,
      IsErrorTo request.addr event) :
    (setupAttempt P env server session request reply).2 = true ↔ ¬ reply.SentAsError := by
  obtain ⟨event, hevent, herror⟩ := herror
  obtain ⟨conn', status, message', hfails, rfl⟩ := isErrorTo_response herror
  unfold outcome setupAttempt at *
  split at hevent
  next => simp [answerError] at hevent
  next conn hconn =>
    split at hevent
    next hstatus => simp [SetupReply.SentAsError, hstatus]
    next hstatus =>
      split at hevent
      next hports =>
        rw [if_neg hstatus, if_pos hports]
        exact ⟨fun _ hsent => hsent.2.1 hports, fun _ => rfl⟩
      next hports =>
        rw [if_neg hstatus, if_neg hports]
        rcases attemptResponse_error ⟨_, hevent, rfl, hfails⟩ with
          ⟨hret, hother⟩ | ⟨hret, hcode⟩
        · refine ⟨fun _ hsent => hother ?_, fun _ => by simpa using hret⟩
          -- the error response is the one that could not be written
          exact fillAnswer_again (rtspStatusGet_unlisted hstatus hsent.2.2)
        · rw [rtspResponseHeaderCopyExt_statusCode] at hcode
          refine ⟨fun hneg => ?_, fun hnot => absurd ⟨hstatus, hports, hcode⟩ hnot⟩
          exact absurd (hret.symm.trans_lt (of_decide_eq_true hneg)) (lt_irrefl _)

theorem concludeOperation_lists (hwf : server.table.WellFormed)
    (hsession : session ∈ server.sessions) :
    (concludeOperation server session request).mediaLists = server.mediaLists ∧
      (concludeOperation server session request).removeIdle = server.removeIdle := by
  unfold concludeOperation
  split
  next => exact ⟨RtspServer.setSession_lists hwf hsession rfl rfl, rfl⟩
  next => exact ⟨RtspServer.setSession_lists hwf hsession rfl rfl, rfl⟩

/-- A reply takes nothing out of the lists; a setup that failed has the session removed later
if it has one media. -/
theorem rtspServerReplyToSetup_lists (hwf : server.table.WellFormed) {media : Addr}
    {result : Reply} (hsession : server.mediaSession media = some session)
    (hfind : server.findRequest request.addr = some request)
    (h : rtspServerReplyToSetup P env server request.addr media reply = .ok result) :
    result.2.1.mediaLists = server.mediaLists ∧
      result.2.1.removeIdle =
        (if (setupAttempt P env server session request reply).2 ∧ session.medias.length = 1 then
          server.removeIdle ++ [session.addr]
        else server.removeIdle) ∧
      result.2.2 = outcome P env server (setupAttempt P env server session request reply).1 := by
  unfold rtspServerReplyToSetup at h
  rw [hsession] at h
  simp only [hfind, Except.ok.injEq] at h
  subst h
  have hmem := (RtspServer.mediaSession_some hsession).1
  refine ⟨?_, ?_, rfl⟩
  · split
    next => exact (concludeOperation_lists (by exact hwf) (by exact hmem)).1
    next => exact (concludeOperation_lists hwf hmem).1
  · dsimp only
    split
    next => exact (concludeOperation_lists (by exact hwf) (by exact hmem)).2
    next => exact (concludeOperation_lists hwf hmem).2

theorem sweepFrom_lists (now : UInt64) (requests : List RtspServerPendingRequest) :
    (sweepFrom P env server now requests).1.mediaLists = server.mediaLists ∧
      (sweepFrom P env server now requests).1.removeIdle = server.removeIdle := by
  induction requests with
  | nil => exact ⟨rfl, rfl⟩
  | cons request rest ih =>
      unfold sweepFrom
      split
      next => exact ⟨rfl, rfl⟩
      next => exact ih

theorem resumeSweep_lists {now : UInt64} {a : Addr} {next : Option Addr}
    {result : RtspServer × List ServerEvent × Activity}
    (h : resumeSweep P env server now a next = .ok result) :
    result.1.mediaLists = server.mediaLists ∧ result.1.removeIdle = server.removeIdle := by
  unfold resumeSweep at h
  dsimp only at h
  split at h
  next =>
    cases h
    exact ⟨rfl, rfl⟩
  next =>
    split at h
    next => cases h
    next =>
      cases h
      exact sweepFrom_lists _ _

end Answers

/-- The ways a SETUP request is answered that waits for the application: the application
replies for the media it was given, or the request expires. -/
inductive AnswersSetup (σ : ServerState) (request : RtspServerPendingRequest) :
    ServerInput → Prop where
  | reply {media : Addr} (reply : SetupReply) (hgiven : request.given = some media) :
      AnswersSetup σ request (.call (.replyToSetup request.addr media reply))
  | timer (hgiven : request.given.isSome) : AnswersSetup σ request .timer
  | sweeps {now : UInt64} {a : Addr} {next : Option Addr} (hgiven : request.given.isSome)
      (hforced : σ.forced = []) (hactivity : σ.activity = .sweeping now a next) :
      AnswersSetup σ request .resume

/-- Nothing of what the request has brought is left when the idle work that is due has run;
or the application refuses the only media of the session the request has opened. -/
def Withdraws (σ : ServerState) (request : RtspServerPendingRequest) (input : ServerInput) :
    Prop :=
  (∀ entry ∈ σ.server.afterIdle.mediaLists, ¬ request.TraceIn entry) ∨
    ∃ media reply session, input = .call (.replyToSetup request.addr media reply) ∧
      σ.server.mediaSession media = some session ∧ request.requestHeader.sessionId = none ∧
        session.medias.length = 1 ∧ ¬ reply.SentAsError

/-- The step answers the request with an error. -/
def AnswersError (σ σ' : ServerState) (request : Addr) : Prop :=
  ∃ event ∈ σ'.events.drop σ.events.length, IsErrorTo request event

instance (σ σ' : ServerState) (request : Addr) : Decidable (AnswersError σ σ' request) :=
  inferInstanceAs (Decidable (∃ event ∈ _, IsErrorTo request event))

/-- After the idle work the lists are as they would be without the request. -/
def LeavesNoTrace (σ σ' : ServerState) (request : RtspServerPendingRequest) : Prop :=
  σ'.server.afterIdle.mediaLists = request.withdraw σ.server.afterIdle.mediaLists

instance (σ σ' : ServerState) (request : RtspServerPendingRequest) :
    Decidable (LeavesNoTrace σ σ' request) :=
  inferInstanceAs (Decidable (_ = _))

section Answer

variable {P : Platform} {env : Env} {σ σ' : ServerState} {request : RtspServerPendingRequest}
  {input : ServerInput}

/-- A step that removes nothing and schedules nothing. -/
theorem leavesNoTrace_of_same
    (hinput : ∀ media reply, input ≠ .call (.replyToSetup request.addr media reply))
    (hsame : σ'.server.afterIdle.mediaLists = σ.server.afterIdle.mediaLists) :
    LeavesNoTrace σ σ' request ↔ Withdraws σ request input := by
  unfold LeavesNoTrace Withdraws
  rw [hsame, eq_comm, request.withdraw_eq_self_iff, or_iff_left]
  rintro ⟨media, reply, session, hcall, -⟩
  exact hinput media reply hcall

/-- The session of the media that a request was given is the one it took hold of. -/
theorem given_target (howned : σ.server.table.Owned)
    (hpending : request ∈ σ.server.pendingRequests) {media : Addr}
    (hgiven : request.given = some media) {session : RtspServerSession}
    (hsession : σ.server.mediaSession media = some session) :
    request.target = some session.addr := by
  obtain ⟨hmem, m, hm, rfl⟩ := RtspServer.mediaSession_some hsession
  have hreference : m.addr ∈ request.entry.references := by
    rw [RtspServerPendingRequest.entry_references]
    unfold RtspServerPendingRequest.references
    rw [hgiven]
    simp
  apply howned.references _ (RtspServer.entry_mem_requests hpending) _ hreference _
    (RtspServer.entry_mem_sessions hmem)
  rw [RtspServerSession.entry_medias_fst]
  exact List.mem_map_of_mem hm

/-- A session that was there before the request is removed only if it was due to be. -/
theorem withdraw_joined_iff (hwf : σ.server.table.WellFormed) {media : Addr}
    {sessionId : Bytes} (hgiven : request.given = some media)
    (hid : request.requestHeader.sessionId = some sessionId) {session : RtspServerSession}
    (hsession : σ.server.mediaSession media = some session) :
    (σ.server.afterIdle.mediaLists.filter fun entry => entry.1 ≠ session.addr) =
        request.withdraw σ.server.afterIdle.mediaLists ↔
      ∀ entry ∈ σ.server.afterIdle.mediaLists, ¬ request.TraceIn entry := by
  have htrace : ∀ entry ∈ σ.server.afterIdle.mediaLists, entry.1 = session.addr →
      request.TraceIn entry := by
    intro entry hentry haddr
    obtain ⟨hmem, m, hm, rfl⟩ := RtspServer.mediaSession_some hsession
    rw [RtspServer.afterIdle_lists] at hentry
    obtain ⟨x, hx, rfl⟩ := List.mem_map.mp (List.mem_filter.mp hentry).1
    have heq := RtspServer.session_eq hwf hmem hx haddr
    subst heq
    unfold RtspServerPendingRequest.TraceIn
    rw [hid]
    exact ⟨m.addr, List.mem_map_of_mem hm, hgiven⟩
  rw [← request.withdraw_eq_self_iff]
  constructor
  · intro hfilter
    -- nothing is filtered out, as the other side has as many entries
    have hlength := congrArg List.length hfilter
    unfold RtspServerPendingRequest.withdraw at hlength
    rw [hid, List.length_map] at hlength
    have hself := List.filter_sublist.eq_of_length hlength
    rw [← hfilter]
    exact hself
  · intro hself
    rw [hself, List.filter_eq_self]
    intro entry hentry
    have hnone := (request.withdraw_eq_self_iff _).mp hself entry hentry
    simpa using fun haddr => hnone (htrace entry hentry haddr)

theorem setupReply_leavesNoTrace_iff (hconsistent : σ.Consistent)
    (howned : σ.server.table.Owned) (hpending : request ∈ σ.server.pendingRequests)
    {media : Addr} {reply : SetupReply} (hgiven : request.given = some media)
    (herror : AnswersError σ σ' request.addr)
    (hstep : serverStep P env σ (.call (.replyToSetup request.addr media reply)) = .ok σ') :
    LeavesNoTrace σ σ' request ↔
      Withdraws σ request (.call (.replyToSetup request.addr media reply)) := by
  have hwf := hconsistent.wellFormed
  have hfind : σ.server.findRequest request.addr = some request :=
    RtspServer.findRequest_of_mem hwf hpending
  unfold serverStep at hstep
  dsimp only at hstep
  split at hstep
  case isFalse => cases hstep
  obtain ⟨result, hresult, rfl⟩ := except_map_ok.mp hstep
  cases hsession : σ.server.mediaSession media with
  | none => simp [rtspServerReplyToSetup, hsession] at hresult
  | some session =>
      obtain ⟨hlists, hidle, hevents⟩ :=
        rtspServerReplyToSetup_lists hwf hsession hfind hresult
      change ∃ event ∈ (σ.events ++ result.2.2).drop σ.events.length, _ at herror
      rw [List.drop_left, hevents] at herror
      have hfailed := setupAttempt_failed_iff herror
      have htarget := given_target howned hpending hgiven hsession
      unfold LeavesNoTrace Withdraws
      change result.2.1.afterIdle.mediaLists = _ ↔ _
      by_cases hone : (setupAttempt P env σ.server session request reply).2 = true ∧
          session.medias.length = 1
      · rw [if_pos hone] at hidle
        rw [RtspServer.afterIdle_schedule hlists hidle]
        cases hid : request.requestHeader.sessionId with
        | none =>
            apply iff_of_true
            · unfold RtspServerPendingRequest.withdraw
              rw [hid]
              simp only [htarget, ne_eq, Option.some.injEq, eq_comm]
            · exact .inr ⟨media, reply, session, rfl, hsession, rfl, hone.2, hfailed.mp hone.1⟩
        | some sessionId =>
            rw [or_iff_left (fun ⟨_, _, _, _, _, hnone, _⟩ => by cases hnone)]
            exact withdraw_joined_iff hwf hgiven hid hsession
      · rw [if_neg hone] at hidle
        rw [RtspServer.afterIdle_same hlists hidle, eq_comm, request.withdraw_eq_self_iff,
          or_iff_left]
        rintro ⟨media', reply', session', hcall, hsession', -, hlength, hsent⟩
        cases hcall
        cases hsession.symm.trans hsession'
        exact hone ⟨hfailed.mpr hsent, hlength⟩

/-- An answer with an error leaves no trace of the request exactly when it withdraws what the
request has brought. -/
theorem setupAnswer_leavesNoTrace_iff (hconsistent : σ.Consistent)
    (howned : σ.server.table.Owned) (hpending : request ∈ σ.server.pendingRequests)
    (hanswers : AnswersSetup σ request input) (herror : AnswersError σ σ' request.addr)
    (hstep : serverStep P env σ input = .ok σ') :
    LeavesNoTrace σ σ' request ↔ Withdraws σ request input := by
  cases hanswers with
  | reply reply hgiven =>
      exact setupReply_leavesNoTrace_iff hconsistent howned hpending hgiven herror hstep
  | timer =>
      apply leavesNoTrace_of_same (fun _ _ h => by cases h)
      unfold serverStep at hstep
      dsimp only at hstep
      split at hstep
      next =>
        cases hstep
        obtain ⟨hlists, hidle⟩ := @sweepFrom_lists P env σ.server env.now σ.server.pendingRequests
        exact RtspServer.afterIdle_same hlists hidle
      next => cases hstep
  | sweeps _ hforced hactivity =>
      apply leavesNoTrace_of_same (fun _ _ h => by cases h)
      change resumeStep P env σ = .ok σ' at hstep
      unfold resumeStep at hstep
      rw [hforced, hactivity] at hstep
      obtain ⟨result, hresult, hend⟩ := except_bind_ok.mp hstep
      cases hend
      obtain ⟨hlists, hidle⟩ := resumeSweep_lists hresult
      exact RtspServer.afterIdle_same hlists hidle

end Answer

/-! ## The arrival of a SETUP request -/

/-- The request has been refused and the lists are as before; or it waits for the application,
and without what it has brought the lists are as before. -/
def AddsOnly (σ σ' : ServerState) (request : Addr) : Prop :=
  match σ'.server.findRequest request with
  | none => σ'.server.mediaLists = σ.server.mediaLists
  | some request => request.withdraw σ'.server.mediaLists = σ.server.mediaLists

section Arrival

variable {P : Platform} {env : Env} {σ σ' : ServerState} {request : RtspServerPendingRequest}
  {input : ServerInput}

/-- The end of the handler: the request waits in its callback. -/
theorem findRequest_enqueued {server : RtspServer} (r : RtspServerPendingRequest)
    (haddr : r.addr = request.addr)
    (hpending : server.pendingRequests = (σ.server.enqueue request).pendingRequests) :
    (server.setRequest r).findRequest request.addr = some r := by
  rw [← haddr]
  apply lookup_replace
  rw [hpending]
  exact ⟨request, by simp [RtspServer.enqueue], haddr.symm⟩

theorem setupNew_lists (hwf : σ.server.table.WellFormed) {session : RtspServerSession}
    {media : RtspServerSessionMedia} (hid : request.requestHeader.sessionId = none)
    (haddr : session.addr = σ.server.nextAddr + 1) {x y : RtspServerSession}
    {server : RtspServer}
    (hsessions : server.sessions =
      replace RtspServerSession.addr x
        (replace RtspServerSession.addr y (σ.server.sessions ++ [session])))
    (hx : x.addr = session.addr) (hy : y.addr = session.addr) :
    ({ request with inCallback := true, target := some session.addr, given := some media.addr } :
      RtspServerPendingRequest).withdraw server.mediaLists = σ.server.mediaLists := by
  have hnew : ∀ s ∈ σ.server.sessions, s.addr ≠ session.addr := by
    intro s hs
    rw [haddr]
    exact ((hwf.sessionBelow _ (RtspServer.entry_mem_sessions hs)).trans (Nat.lt_succ_self _)).ne
  rw [replace_replace RtspServerSession.addr (hy.trans hx.symm),
    replace_append RtspServerSession.addr hx.symm (fun s hs => hx ▸ hnew s hs)] at hsessions
  unfold RtspServerPendingRequest.withdraw RtspServer.mediaLists
  rw [hid, hsessions]
  simp only [List.map_append, List.map_cons, List.map_nil, List.filter_append]
  rw [List.filter_eq_self.mpr]
  · simp [hx]
  · intro entry hentry
    obtain ⟨s, hs, rfl⟩ := List.mem_map.mp hentry
    simpa using fun h => hnew s hs h.symm

theorem setupOld_lists (hwf : σ.server.table.WellFormed) {session : RtspServerSession}
    {media : RtspServerSessionMedia} {sessionId : Bytes}
    (hid : request.requestHeader.sessionId = some sessionId)
    (hsession : session ∈ σ.server.sessions) (haddr : media.addr = σ.server.nextAddr + 1)
    {x y : RtspServerSession} {server : RtspServer}
    (hsessions : server.sessions =
      replace RtspServerSession.addr x
        (replace RtspServerSession.addr y σ.server.sessions))
    (hx : x.addr = session.addr) (hy : y.addr = session.addr)
    (hmedias : x.medias = session.medias ++ [media]) :
    ({ request with inCallback := true, target := some session.addr, given := some media.addr } :
      RtspServerPendingRequest).withdraw server.mediaLists = σ.server.mediaLists := by
  have hother : ∀ s ∈ σ.server.sessions, ∀ m ∈ s.medias, m.addr ≠ media.addr := by
    intro s hs m hm
    have hbelow := hwf.mediaBelow _ (RtspServer.entry_mem_sessions hs) (m.addr, m.isTearingDown)
      (List.mem_map_of_mem hm)
    rw [haddr]
    exact (hbelow.trans (Nat.lt_succ_self _)).ne
  rw [replace_replace RtspServerSession.addr (hy.trans hx.symm)] at hsessions
  unfold RtspServerPendingRequest.withdraw RtspServer.mediaLists
  rw [hid, hsessions]
  unfold replace
  dsimp only
  rw [List.map_map, List.map_map]
  apply List.map_congr_left
  intro s hs
  have hkept : (s.medias.map RtspServerSessionMedia.addr).filter
      (fun m => some media.addr ≠ some m) = s.medias.map RtspServerSessionMedia.addr := by
    rw [List.filter_eq_self]
    intro m hm
    obtain ⟨x, hx, rfl⟩ := List.mem_map.mp hm
    simpa using fun h => hother s hs x hx h.symm
  by_cases hsame : s.addr = x.addr
  · have heq := RtspServer.session_eq hwf hsession hs (hsame.trans hx)
    subst heq
    simp only [Function.comp_apply, if_pos hsame, hmedias, List.map_append, List.map_cons,
      List.map_nil, List.filter_append, hkept]
    simp [hx]
  · simp only [Function.comp_apply, if_neg hsame, hkept]

/-- How the handler of a SETUP request ends. -/
inductive SetupEnds (σ : ServerState) (request : RtspServerPendingRequest) : Processed → Prop where
  | failed (e : Errno) (status : Int) {server : RtspServer}
      (hlists : server.mediaLists = σ.server.mediaLists) :
      SetupEnds σ request (.failed e status request server)
  | calls (callback : Callback) {server : RtspServer} {r : RtspServerPendingRequest}
      (hfind : server.findRequest request.addr = some r)
      (hlists : r.withdraw server.mediaLists = σ.server.mediaLists) :
      SetupEnds σ request (.calls server callback)

theorem rtspServerSetup_ends (hwf : σ.server.table.WellFormed) {processed : Processed}
    (h : rtspServerSetup env (σ.server.enqueue request) request = .ok processed) :
    SetupEnds σ request processed := by
  unfold rtspServerSetup at h
  split at h
  next =>
    cases h
    exact .failed _ _ rfl
  next =>
    split at h
    next =>
      cases h
      exact .failed _ _ rfl
    next path _ =>
      split at h
      next =>
        cases h
        exact .failed _ _ rfl
      next contentBase _ _ =>
        unfold setupSession at h
        cases hid : request.requestHeader.sessionId with
        | none =>
            simp only [hid] at h
            cases hadd : rtspServerSessionAdd env.ids (σ.server.enqueue request)
              (σ.server.enqueue request).sessionTimeoutMs (some contentBase) with
            | none => simp [hadd] at h
            | some added =>
                obtain ⟨session, server⟩ := added
                obtain ⟨haddr, -, rfl⟩ := rtspServerSessionAdd_some hadd
                simp only [hadd] at h
                split at h
                next =>
                  simp only [Option.isNone_none, if_true, Except.ok.injEq] at h
                  subst h
                  apply SetupEnds.failed
                  have hnew : ∀ s ∈ σ.server.sessions, s.addr ≠ session.addr := by
                    intro s hs
                    rw [haddr]
                    exact ((hwf.sessionBelow _ (RtspServer.entry_mem_sessions hs)).trans
                      (Nat.lt_succ_self _)).ne
                  have hremove := remove_append hnew
                  unfold RtspServer.mediaLists
                  exact congrArg _ hremove
                next media session' server' hmedia =>
                  cases h
                  obtain ⟨-, -, rfl, rfl⟩ := rtspServerSessionMediaAdd_some hmedia
                  apply SetupEnds.calls
                  · apply findRequest_enqueued
                    · rfl
                    · rfl
                  · exact setupNew_lists hwf hid haddr rfl rfl rfl
        | some sessionId =>
            simp only [hid] at h
            cases hfind : rtspServerSessionFind (σ.server.enqueue request) sessionId with
            | none =>
                simp only [hfind, Option.map_none, Except.ok.injEq] at h
                subst h
                exact .failed _ _ rfl
            | some session =>
                simp only [hfind, Option.map_some] at h
                have hsession : session ∈ σ.server.sessions := List.mem_of_find?_eq_some hfind
                split at h
                next =>
                  simp only [Option.isNone_some, Bool.false_eq_true, if_false,
                    Except.ok.injEq] at h
                  subst h
                  exact .failed _ _ rfl
                next media session' server' hmedia =>
                  cases h
                  obtain ⟨haddr, -, rfl, rfl⟩ := rtspServerSessionMediaAdd_some hmedia
                  apply SetupEnds.calls
                  · apply findRequest_enqueued
                    · rfl
                    · rfl
                  · exact setupOld_lists hwf hid hsession haddr rfl rfl rfl rfl

theorem handleRequest_setup {server : RtspServer}
    (hmethod : request.requestHeader.method = .setup) :
    handleRequest P env server request = rtspServerSetup env server request := by
  unfold handleRequest
  rw [hmethod]

/-- A SETUP request that arrives brings what can be withdrawn, or nothing. -/
theorem setupArrival_addsOnly (hwf : σ.server.table.WellFormed)
    (harriving : arriving env σ input = some request)
    (hmethod : request.requestHeader.method = .setup)
    (hstep : serverStep P env σ input = .ok σ') : AddsOnly σ σ' request.addr := by
  unfold arriving at harriving
  split at harriving
  case h_2 => cases harriving
  split at harriving
  case h_2 => cases harriving
  next conn header body messages hforced hactivity =>
    cases harriving
    change resumeStep P env σ = .ok σ' at hstep
    unfold resumeStep at hstep
    rw [hforced, hactivity] at hstep
    obtain ⟨result, hresult, hend⟩ := except_bind_ok.mp hstep
    cases hend
    obtain ⟨processed, hprocessed, hend⟩ := except_bind_ok.mp hresult
    have hends := rtspServerSetup_ends hwf ((handleRequest_setup hmethod).symm.trans hprocessed)
    cases hends with
    | failed e status hlists =>
        cases hend
        unfold AddsOnly
        split
        next => exact hlists
        next r hfind =>
          exact absurd (RtspServer.findRequest_some hfind).2
            (mem_remove.mp (RtspServer.findRequest_some hfind).1).2
    | calls callback hfind hlists =>
        cases hend
        unfold AddsOnly
        split
        next hnone => exact absurd (hfind.symm.trans hnone) (by simp)
        next r hfind' =>
          cases hfind.symm.trans hfind'
          exact hlists

end Arrival

/-! ## The client -/

/-- The sessions with their ids and medias. -/
def RtspClient.mediaLists (client : RtspClient) :
    List (Addr × Bytes × List RtspClientSessionMedia) :=
  client.sessions.map fun session => (session.addr, session.id, session.medias)

/-- The step takes an error response to the pending SETUP request from the buffer. -/
structure ReceivesSetupError (s s' : ClientState) (resp : RtspResponseHeader) : Prop where
  pending : s.client.request.isPending = true
  method : s.client.request.header.method = .setup
  number : resp.cseq = s.client.request.header.cseq
  error : resp.statusCode.tdiv 100 ≠ 2
  known : resp.statusCode ≠ 454
  receives : ∃ rest, s.tasks = .receive :: rest
  delivered : ∃ body events,
    s'.events = s.events ++ .delivered (.text (.response resp) body) :: events

/-- The lists stay as they are, now and when the request is concluded after the callback. -/
def KeepsLists (s s' : ClientState) : Prop :=
  s'.client.mediaLists = s.client.mediaLists ∧
    ∃ completion rest, s'.tasks = .inCallback :: .conclude completion :: rest ∧
      ∀ P env client, ∃ p, concludeRequestComplete P env client completion = .ok p ∧
        p.client = client

/-- The response names no session, or one the client has. -/
def KnowsSession (client : RtspClient) (resp : RtspResponseHeader) : Prop :=
  responseSessionId client resp = none ∨
    (rtspClientSessionFind client (responseSessionId client resp)).isSome = true

section Client

variable {E : HeaderEdit} {P : Platform} {env : ClientEnv} {client : RtspClient}
  {s s' : ClientState} {resp : RtspResponseHeader}

/-- The call of a SETUP changes neither the sessions nor their medias. -/
theorem setupCall_lists {asked : SetupArgs} {args : RequestArgs}
    {called : Called} (h : callRequest P env client (.setup asked args) = .ok called) :
    called.client.mediaLists = client.mediaLists := by
  obtain ⟨called', houtcome, rfl⟩ := rtspClientSetup_outcome h
  rw [accept_client]
  unfold RtspClient.mediaLists
  rcases houtcome.sessions.2 with hsame | ⟨session, hmarked, -⟩
  · rw [hsame]
  · cases hmarked

/-- The session of a response is new if the response names one that is not known. -/
theorem completeSession_lists_iff (hwf : client.WellFormed) (sessionId : Option Bytes)
    (sessionTimeout : UInt32) :
    (completeSession client .setup sessionId sessionTimeout).2.mediaLists =
        client.mediaLists ↔
      sessionId = none ∨ (rtspClientSessionFind client sessionId).isSome = true := by
  have hcases := completeSession_cases hwf .setup sessionId sessionTimeout
  generalize completeSession client .setup sessionId sessionTimeout = result at hcases ⊢
  cases hcases with
  | unknown hfind hadd => exact iff_of_true rfl (.inl (hadd.resolve_left (by simp)))
  | @known session hfind =>
      apply iff_of_true _ (.inr (by rw [hfind]; rfl))
      have hmem : session ∈ client.sessions := by
        cases sessionId with
        | none => cases hfind
        | some id => exact List.mem_of_find?_eq_some hfind
      apply map_replace_same _ hwf.keys hmem
      · rw [answeredSession_addr]
      · simp [answeredSession_addr, answeredSession_id, answeredSession_medias]
  | @added id hfind hmethod hid =>
      apply iff_of_false
      · intro hlists
        have hlength := congrArg List.length hlists
        simp [RtspClient.mediaLists] at hlength
      · rw [hfind, hid]
        simp

theorem concludeRequestComplete_plain_client {completion : Completion}
    (hinternal : completion.internalTeardown = false)
    (hremoved : completion.sessionRemoved = false) (P : Platform) (env : ClientEnv)
    (client : RtspClient) :
    ∃ p, concludeRequestComplete P env client completion = .ok p ∧ p.client = client := by
  refine ⟨afterTeardown { ret := .ok (), client } completion, ?_, ?_⟩
  · unfold concludeRequestComplete ownTeardown
    simp [hinternal, Except.map]
  · simp [afterTeardown, hremoved, Progress.andThen]

theorem setupError_keepsLists_iff (hwf : client.WellFormed) {body : Bytes} {p : Progress}
    (hpending : client.request.isPending = true)
    (hmethod : client.request.header.method = .setup)
    (hnumber : resp.cseq = client.request.header.cseq) (herror : resp.statusCode.tdiv 100 ≠ 2)
    (h : rtspClientResponseProcess client resp body = .ok p) :
    (p.client.mediaLists = client.mediaLists ↔ KnowsSession client resp) ∧
      p.tasks = [.inCallback, .conclude (completionOf client resp .ok)] := by
  unfold rtspClientResponseProcess at h
  rw [if_pos hnumber, requestComplete_pending hpending] at h
  have hstatus : (completionOf client resp .ok).status ≠ .ok := by
    simp [completionOf, statusOf, herror]
  have hsetup : (endedRequest client).method = .setup := hmethod
  have hreleased : (releasedClient client resp).sessions = client.sessions := by
    rw [releasedClient_eq]
    rfl
  have hlists : (sessionOf client resp).2.mediaLists = client.mediaLists ↔
      KnowsSession client resp := by
    unfold sessionOf
    have hiff := completeSession_lists_iff (releasedClient_wellFormed hwf resp)
      (responseSessionId client resp) resp.sessionTimeout
    rw [hmethod]
    unfold KnowsSession
    unfold RtspClient.mediaLists rtspClientSessionFind at hiff ⊢
    rwa [hreleased] at hiff
  cases completeMethod_cases h with
  | notSetUp response _ _ _ hcallback => exact ⟨hlists, rfl⟩
  | setUp response transport _ hok => exact absurd hok hstatus
  | plain response methodsAllowed hother => exact absurd hsetup hother.1
  | silent task hother => rw [hsetup] at hother; cases hother
  | tornDown response task hother => rw [hsetup] at hother; cases hother
  | keepAlive hother => rw [hsetup] at hother; cases hother
  | other hother => exact absurd hsetup hother.1

/-- A turn of the receive loop that delivers a response. -/
theorem receiveMessage_response {body : Bytes} {events : List ClientEvent} {p : Progress}
    (h : receiveMessage E P client = .ok p)
    (hevents : p.events = .delivered (.text (.response resp) body) :: events) :
    ∃ p' receiver totalLen,
      rtspClientResponseProcess { client with receiver } resp body = .ok p' ∧
        p = { p'.andThen [.consume totalLen, .receive] with
          events := .delivered (.text (.response resp) body) :: p'.events } := by
  unfold receiveMessage at h
  split at h
  next => cases h
  next =>
    dsimp only at h
    split at h
    next =>
      cases h
      cases hevents
    next message _ =>
      obtain ⟨p', hprocessed, rfl⟩ := except_map_ok.mp h
      rw [List.cons.injEq, ClientEvent.delivered.injEq] at hevents
      rw [hevents.1] at hprocessed ⊢
      exact ⟨p', _, _, hprocessed, rfl⟩

/-- An error response leaves the lists alone exactly when it names no new session. -/
theorem clientStep_keepsLists_iff (hwf : s.client.WellFormed)
    (hreceives : ReceivesSetupError s s' resp)
    (hstep : clientStep E P env s .resume = .ok s') :
    KeepsLists s s' ↔ KnowsSession s.client resp := by
  obtain ⟨rest, htasks⟩ := hreceives.receives
  obtain ⟨body, events, hevents⟩ := hreceives.delivered
  unfold clientStep at hstep
  rw [htasks] at hstep
  obtain ⟨p, hp, rfl⟩ := except_map_ok.mp hstep
  have hdelivered : p.events = .delivered (.text (.response resp) body) :: events :=
    List.append_cancel_left hevents
  obtain ⟨p', receiver, totalLen, hprocessed, rfl⟩ := receiveMessage_response hp hdelivered
  have hwf' : ({ s.client with receiver } : RtspClient).WellFormed := hwf.of_sessions rfl le_rfl
  obtain ⟨hlists, htasks'⟩ := setupError_keepsLists_iff hwf' hreceives.pending
    hreceives.method hreceives.number hreceives.error hprocessed
  refine Iff.trans ⟨And.left, fun hsame => ⟨hsame, ?_⟩⟩ hlists
  refine ⟨_, _, congrArg (· ++ rest) (congrArg (· ++ _) htasks'), ?_⟩
  intro P env client
  apply concludeRequestComplete_plain_client
  · rfl
  · simpa [completionOf] using hreceives.known

end Client

/-! ## Runs -/

/-- A SETUP request that is refused on arrival adds nothing, and one that is taken adds only
what can be withdrawn.  An error that answers it later leaves no trace exactly when it
withdraws what the request has brought.  In the client a SETUP call adds nothing, and an error
response keeps the lists exactly when it names no new session. -/
theorem failedSetup_traceless_iff (E : HeaderEdit) (P : Platform) :
    (∀ (softwareName : Option Bytes) (replyTimeoutMs sessionTimeoutMs : Int32)
        (cbs : RtspServerCbs) (inputs : List (Env × ServerInput)) (input : Env × ServerInput)
        (σ σ' : ServerState) (request : RtspServerPendingRequest),
      Execution.run (envStep P) (serverStart softwareName replyTimeoutMs sessionTimeoutMs cbs)
          inputs = .ok σ →
        envStep P σ input = .ok σ' →
          (arriving input.1 σ input.2 = some request → request.requestHeader.method = .setup →
            AddsOnly σ σ' request.addr) ∧
          (request ∈ σ.server.pendingRequests → AnswersSetup σ request input.2 →
            AnswersError σ σ' request.addr →
              (LeavesNoTrace σ σ' request ↔ Withdraws σ request input.2))) ∧
      ∀ (softwareName : Option Bytes) (cbs : RtspClientCbs)
        (inputs : List (ClientEnv × ClientInput)) (env : ClientEnv) (s : ClientState),
      Execution.run (clientEnvStep E P) (clientStart softwareName cbs) inputs = .ok s →
        (∀ asked args called, callRequest P env s.client (.setup asked args) = .ok called →
          called.client.mediaLists = s.client.mediaLists) ∧
        ∀ s' resp, clientEnvStep E P s (env, .resume) = .ok s' →
          ReceivesSetupError s s' resp → (KeepsLists s s' ↔ KnowsSession s.client resp) := by
  constructor
  · intro softwareName replyTimeoutMs sessionTimeoutMs cbs inputs input σ σ' request hrun hstep
    obtain ⟨hconsistent, howned⟩ := run_owned hrun
    constructor
    · intro harriving hmethod
      exact setupArrival_addsOnly hconsistent.wellFormed harriving hmethod hstep
    · intro hpending hanswers herror
      exact setupAnswer_leavesNoTrace_iff hconsistent howned hpending hanswers herror hstep
  · intro softwareName cbs inputs env s hrun
    have hwf := run_wellFormed hrun
    constructor
    · intro asked args called hcall
      exact setupCall_lists hcall
    · intro s' resp hstep hreceives
      exact clientStep_keepsLists_iff hwf hreceives hstep

/-- A SETUP request that opens a session waits for its reply. -/
def openingSetup : List (Env × ServerInput) :=
  let setup : RtspRequestHeader :=
    { method := .setup, uri := some (ascii "rtsp://h/p/a"), cseq := 1, transport := [{}] }
  [({ ids := [1] }, .receive 0 [.text (.request setup) []]), ({ ids := [1] }, .resume)]

def refuseSetup (request media : Addr) : Env × ServerInput :=
  ({}, .call (.replyToSetup request media { status := 404 }))

/-- A SETUP call whose response has arrived. -/
def refusedSetupCall (response : Bytes) : List (ClientEnv × ClientInput) :=
  let asked : SetupArgs :=
    { contentBase := some (ascii "rtsp://a/s"), resourceUrl := some (ascii "t")
      clientStreamPort := 1, clientControlPort := 2 }
  connectInputs ++ undisturbed [.call (.setup asked {}), .data response]

def notFoundResponse : RtspResponseHeader :=
  { statusCode := 404, statusString := some (ascii "Not Found"), cseq := 1 }

theorem failedSetup_traceless_notFound :
    (∃ σ σ' request, Execution.run (envStep .bare) (serverStart none 0 0 {}) openingSetup =
        .ok σ ∧ envStep .bare σ (refuseSetup 0 2) = .ok σ' ∧
          request ∈ σ.server.pendingRequests ∧ LeavesNoTrace σ σ' request) ∧
      ∃ s s', Execution.run (clientEnvStep .words .bare) (clientStart none {})
          (refusedSetupCall (ascii "RTSP/1.0 404 Not Found\r\nCSeq: 1\r\n\r\n")) = .ok s ∧
        clientEnvStep .words .bare s ({}, .resume) = .ok s' ∧ KeepsLists s s' := by
  constructor
  · have hrun : Execution.Reaches (envStep .bare)
        (fun σ => ∃ σ' ∈ (envStep .bare σ (refuseSetup 0 2)).toOption,
          ∃ request ∈ σ.server.pendingRequests, (request.addr = 0 ∧ request.given = some 2 ∧
            request.requestHeader.sessionId = none) ∧ AnswersError σ σ' request.addr ∧
              (σ.server.mediaSession 2).map (fun session => session.medias.length) = some 1)
        (serverStart none 0 0 {}) openingSetup := by decide +kernel
    obtain ⟨σ, hrun, σ', hstep, request, hpending, ⟨haddr, hgiven, hid⟩, herror, hmedia⟩ := hrun
    obtain ⟨session, hsession, hlength⟩ := Option.map_eq_some_iff.mp hmedia
    refine ⟨σ, σ', request, hrun, Execution.ok_of_toOption hstep, hpending, ?_⟩
    have hanswers : AnswersSetup σ request (refuseSetup 0 2).2 := by
      have := @AnswersSetup.reply σ request 2 { status := 404 } hgiven
      rwa [haddr] at this
    apply (((failedSetup_traceless_iff .words .bare).1 none 0 0 {} openingSetup (refuseSetup 0 2)
      σ σ' request hrun (Execution.ok_of_toOption hstep)).2 hpending hanswers herror).mpr
    exact .inr ⟨2, { status := 404 }, session, by rw [haddr]; rfl, hsession, hid, hlength,
      by decide⟩
  · have hrun : Execution.Reaches (clientEnvStep .words .bare)
        (fun s => ∃ s' ∈ (clientEnvStep .words .bare s ({}, .resume)).toOption,
          (s.client.request.isPending = true ∧ s.client.request.header.method = .setup ∧
            s.client.request.header.cseq = 1 ∧ s.client.request.header.sessionId = none) ∧
          s.tasks = [.receive] ∧
          s'.events = s.events ++ .delivered (.text (.response notFoundResponse) []) ::
            s'.events.drop (s.events.length + 1))
        (clientStart none {})
        (refusedSetupCall (ascii "RTSP/1.0 404 Not Found\r\nCSeq: 1\r\n\r\n")) := by
      decide +kernel
    obtain ⟨s, hrun, s', hstep, ⟨hpending, hmethod, hnumber, hid⟩, htasks, hevents⟩ := hrun
    refine ⟨s, s', hrun, Execution.ok_of_toOption hstep, ?_⟩
    apply (((failedSetup_traceless_iff .words .bare).2 none {} _ {} s hrun).2 s' notFoundResponse
      (Execution.ok_of_toOption hstep)
      ⟨hpending, hmethod, hnumber.symm, by decide, by decide, ⟨[], htasks⟩, ⟨[], _, hevents⟩⟩).mpr
    exact .inl (by unfold responseSessionId; rw [hid]; rfl)

/-- The session is opened, and a SETUP request that adds a media waits for its reply. -/
def joiningSetup : List (Env × ServerInput) :=
  let setup : RtspRequestHeader :=
    { method := .setup, uri := some (ascii "rtsp://h/p/b"), cseq := 2, transport := [{}]
      sessionId := some (ascii "0000000000000001") }
  let joins : List (Env × ServerInput) :=
    [({}, .call (.replyToSetup 0 2 { status := 200, srcStreamPort := 1, srcControlPort := 2 })),
      ({}, .resume), ({}, .resume), ({}, .receive 0 [.text (.request setup) []]), ({}, .resume)]
  openingSetup ++ joins

/-- A second media that is refused stays in its session. -/
theorem refusedMedia_stays :
    Execution.Reaches (envStep .bare)
      (fun σ => ∃ σ' ∈ (envStep .bare σ (refuseSetup 3 4)).toOption,
        ∃ request ∈ σ.server.pendingRequests, request.addr = 3 ∧ request.given = some 4 ∧
          AnswersError σ σ' request.addr ∧ ¬ LeavesNoTrace σ σ' request ∧
            σ'.server.afterIdle.mediaLists = [(1, [2, 4])])
      (serverStart none 0 0 {}) joiningSetup := by
  decide +kernel

end Librtsp
