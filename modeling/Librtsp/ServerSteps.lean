import Librtsp.ServerHandlers

/-!
# Every step is one of the changes

The remaining functions of the server, and with them `serverStep_changes`: a
step from a consistent state is a change, and the state after it is consistent.
-/

namespace Librtsp

open CString RecordList

/-- Addresses are distinct, the application runs in the callback of at most one
request, and only a request in its callback has been replied to and is still
pending. -/
structure Table.Consistent (t : Table) (activity : Activity) : Prop where
  wellFormed : t.WellFormed
  anchored : ∀ l, activity.anchor = some l →
    ∃ r ∈ t.requests, r.addr = l.request ∧ r.inCallback = true ∧ r.target = l.clears ∧
      (l.clears = none ∨ l.tearsDown = decide (r.method = .teardown))
  running : ∀ r ∈ t.requests, r.inCallback = true →
    ∃ l, activity.anchor = some l ∧ l.request = r.addr
  replied : ∀ r ∈ t.requests, r.replied = true → r.inCallback = true

def ServerState.Consistent (σ : ServerState) : Prop :=
  σ.server.table.Consistent σ.activity

section Steps

variable {P : Platform} {env : Env} {σ σ' : ServerState}

/-! ## Messages -/

theorem processMessage_changes
    (hwf : σ.server.table.WellFormed) {conn : Conn} {message : Delivery}
    {messages : List Delivery} (hforced : σ.forced = [])
    (hactivity : σ.activity = .receiving conn (message :: messages))
    (h : processMessage P env σ conn messages message = .ok σ') :
    Changes P env σ .resume σ' := by
  have hanchor : σ.activity.anchor = none := by rw [hactivity]; rfl
  have hswept : σ.activity.swept = none := by rw [hactivity]; rfl
  unfold processMessage at h
  split at h
  next header body =>
    cases hprocess : rtspServerRequestProcess P env σ.server conn header body with
    | error halt => simp [hprocess] at h
    | ok result =>
        obtain ⟨server, events, callback⟩ := result
        simp only [hprocess, except_ok_bind, Except.ok.injEq] at h
        subst h
        refine ⟨events, rfl, ?_⟩
        apply rtspServerRequestProcess_changes hwf hforced hactivity hprocess
        · cases callback with
          | none => rfl
          | some callback => rfl
        · cases callback with
          | none => rfl
          | some callback => rfl
  next =>
    simp only [Except.ok.injEq] at h
    subst h
    exact ⟨[], by simp, .moves hanchor.symm hswept.symm (by simp)⟩
  next =>
    simp only [Except.ok.injEq] at h
    subst h
    refine ⟨[], by simp, .moves ?_ ?_ (by simp)⟩
    · rw [hanchor]
      dsimp only
      split
      next => rfl
      next => rfl
    · rw [hswept]
      dsimp only
      split
      next => rfl
      next => rfl

/-! ## The library's own replies -/

/-- The server after it has replied, during the callback, to a request itself. -/
def OwnReply (σ : ServerState) (request : RtspServerPendingRequest) (server : RtspServer) : Prop :=
  server.table = σ.server.table.setRequest { request.entry with replied := true } ∧
    ∃ r, server.findRequest request.addr = some r ∧ r.replied = true ∧ r.addr = request.addr

theorem ownReply_intro
    {request request' : RtspServerPendingRequest} {server : RtspServer}
    (hmem : request ∈ server.pendingRequests) (htable : server.table = σ.server.table)
    (hentry : request'.entry = request.entry) :
    OwnReply σ request (server.setRequest { request' with replied := true }) := by
  have haddr := addr_of_entry hentry
  refine ⟨?_, { request' with replied := true }, ?_, rfl, haddr⟩
  · rw [RtspServer.table_setRequest, replied_entry hentry, htable]
  · rw [← haddr]
    exact lookup_replace (x := { request' with replied := true }) ⟨request, hmem, haddr.symm⟩

variable (P env) in
theorem ownAnnounce
    {request : RtspServerPendingRequest} {a : Addr}
    (hfind : σ.server.findRequest a = some request) (hrunning : request.inCallback = true)
    (status : Int) (ext : List RtspHeaderExt) :
    OwnReply σ request (rtspServerReplyToAnnounce P env σ.server a status ext).2.1 ∧
      (rtspServerReplyToAnnounce P env σ.server a status ext).2.2 =
        outcome P env σ.server (announceAttempt P env σ.server request status ext) := by
  have hsound := announceAttempt_sound P env σ.server request status ext
  have hmem := (RtspServer.findRequest_some hfind).1
  have hentry : (answerError P env σ.server
      (announceAttempt P env σ.server request status ext).request
      (announceAttempt P env σ.server request status ext).errorStatus).1.entry =
      request.entry := by rw [answerError_entry, hsound.entry]
  unfold rtspServerReplyToAnnounce finishReply concludeRequest
  simp only [hfind, if_pos ((inCallback_of_entry hentry).trans hrunning)]
  exact ⟨ownReply_intro hmem rfl hentry, rfl⟩

variable (P env σ) in
/-- A failure status makes the first reply for one media the answer. -/
theorem replyAttempt_failure
    (K : MediaReplyKind) (session : RtspServerSession) (request : RtspServerPendingRequest)
    (media : Addr) {reply : MediaReply} (hstatus : reply.status < 0) :
    ∃ session' attempt,
      replyAttempt P env σ.server K session request media reply = some (session', attempt) := by
  have hjudge : ∃ ret errorStatus,
      judgeReply K session request media reply = .refused ret errorStatus := by
    unfold judgeReply
    split
    next => exact ⟨_, _, rfl⟩
    next => exact ⟨_, _, if_pos (.inl hstatus)⟩
  obtain ⟨ret, errorStatus, hjudge⟩ := hjudge
  unfold replyAttempt
  simp only [hjudge]
  exact ⟨_, _, rfl⟩

theorem ownRecord
    (hwf : σ.server.table.WellFormed) {request : RtspServerPendingRequest} {a media : Addr}
    {mediaReply : MediaReply} {reply : Reply}
    (hfind : σ.server.findRequest a = some request) (hrunning : request.inCallback = true)
    (hstatus : mediaReply.status < 0)
    (h : rtspServerReplyToRecord P env σ.server a media mediaReply = .ok reply) :
    ∃ session session' attempt, σ.server.mediaSession media = some session ∧
      replyAttempt P env σ.server recordKind session request media mediaReply =
        some (session', attempt) ∧
      OwnReply σ request reply.2.1 ∧ reply.2.2 = outcome P env σ.server attempt := by
  unfold rtspServerReplyToRecord replyToMedia at h
  cases hmedia : σ.server.mediaSession media with
  | none => simp [hmedia] at h
  | some session =>
      obtain ⟨session', attempt, hreply⟩ := replyAttempt_failure P env σ recordKind session request
        media hstatus
      have hmem := (RtspServer.findRequest_some hfind).1
      have hsession := (RtspServer.mediaSession_some hmedia).1
      obtain ⟨hs, hsound⟩ := replyAttempt_sound recordKind_lawful hreply
      have hentry : (answerError P env σ.server attempt.request attempt.errorStatus).1.entry =
          request.entry := by rw [answerError_entry, hsound.entry]
      have hcallback := (inCallback_of_entry hentry).trans hrunning
      simp only [hmedia, hfind, hreply, Except.ok.injEq] at h
      subst h
      refine ⟨session, session', attempt, rfl, hreply, ?_, rfl⟩
      have hconclude : concludeMedia σ.server recordKind session'
          (answerError P env σ.server attempt.request attempt.errorStatus).1 =
          (σ.server.setSession session').setRequest
            { (answerError P env σ.server attempt.request attempt.errorStatus).1 with
              replied := true } := by
        unfold concludeMedia concludeOperation
        rw [if_neg (by simp [hcallback]), if_pos hcallback]
      have hmem' : request ∈ (σ.server.setSession session').pendingRequests := hmem
      rw [hconclude]
      apply ownReply_intro hmem' _ hentry
      rw [RtspServer.table_setSession, hs,
        hwf.setSession_self (RtspServer.entry_mem_sessions hsession)]

/-! ## The return of a callback -/

section Return

variable {conn : Conn} {messages : List Delivery} {activity : Activity}
  (hforced : σ.forced = []) (hidle : activity.anchor = none ∧ activity.swept = none)

include hforced hidle

/-- The end of a handler whose request has no session. -/
theorem finishRequest_changes
    {callback : Callback} {a : Addr} {server : RtspServer}
    (hactivity : σ.activity = .calling conn messages callback)
    (hanchor : callback.anchor = some { request := a })
    (hleaving : ∀ request, σ.server.findRequest a = some request → request.replied = true →
      leavingByReturn σ callback = some { request := a })
    (h : finishRequest σ.server a
      (fun request => .ok (rtspServerPendingRequestRemove σ.server request.addr))
      (fun request => σ.server.setRequest { request with inCallback := false }) = .ok server) :
    Change P env σ .resume server.table activity [] := by
  have hbefore : σ.activity.anchor = some { request := a } := by
    rw [hactivity]
    exact hanchor
  unfold finishRequest at h
  cases hfind : σ.server.findRequest a with
  | none => simp [hfind] at h
  | some request =>
      obtain ⟨hmem, rfl⟩ := RtspServer.findRequest_some hfind
      simp only [hfind] at h
      split at h
      next hreplied =>
        simp only [Except.ok.injEq] at h
        subst h
        have hleave : leaving P env σ .resume = some { request := request.addr } := by
          simp only [leaving, hforced, hactivity]
          exact hleaving request hfind hreplied
        rw [RtspServer.table_removeRequest]
        exact .finishes hmem rfl hreplied hleave hbefore hidle
      next hreplied =>
        simp only [Except.ok.injEq] at h
        subst h
        rw [RtspServer.table_setRequest]
        exact .returns hmem (by simpa using hreplied) rfl hbefore hidle

omit hforced hidle in
theorem finishOperation_table
    {server server' : RtspServer} {request session : Addr}
    (h : finishOperation server request session = .ok server') (tearsDown : Bool) :
    (if tearsDown then removeTornDown session server' else server').table =
      server.table.leave { request, clears := some session, tearsDown } := by
  unfold finishOperation at h
  unfold Table.leave
  cases hfind : server.findSession session with
  | none => simp [hfind] at h
  | some s =>
      simp only [hfind, Except.ok.injEq] at h
      subst h
      simp only [RtspServer.lookup_table_sessions, hfind, Option.map_some]
      split
      next =>
        rw [RtspServer.table_removeTornDown, RtspServer.table_removeRequest,
          RtspServer.table_setSession]
        rfl
      next =>
        rw [RtspServer.table_removeRequest, RtspServer.table_setSession]
        rfl

omit hforced hidle in
/-- What a request that leaves was last set to does not matter. -/
theorem leave_setRequest
    {t : Table} {r : RequestEntry} {l : Leaving} (hrequest : r.addr = l.request) :
    (t.setRequest r).leave l = t.leave l := by
  have hremove : ∀ t : Table, (t.setRequest r).removeRequest l.request =
      t.removeRequest l.request := by
    intro t
    unfold Table.setRequest Table.removeRequest
    rw [remove_replace hrequest]
  have hcomm : ∀ e, (t.setRequest r).setSession e = (t.setSession e).setRequest r := fun _ => rfl
  unfold Table.leave
  simp only [Table.setRequest_sessions, hcomm, hremove]

/-- The end of a handler whose request has a session. -/
theorem finishSession_changes
    {callback : Callback} {a session : Addr} {server : RtspServer} (tearsDown first : Bool)
    (hactivity : σ.activity = .calling conn messages callback)
    (hanchor : callback.anchor = some { request := a, clears := some session, tearsDown })
    (hleaving : ∀ request, σ.server.findRequest a = some request → request.replied = true →
      leavingByReturn σ callback =
        some { request := a, clears := some session, tearsDown })
    (h : finishRequest σ.server a
      (fun request => do
        let server ← finishOperation σ.server request.addr session
        .ok (if tearsDown then removeTornDown session server else server))
      (fun request =>
        σ.server.setRequest
          { request with
            inCallback := false
            requestFirstReply := first || request.requestFirstReply }) = .ok server) :
    Change P env σ .resume server.table activity [] := by
  have hbefore : σ.activity.anchor =
      some { request := a, clears := some session, tearsDown } := by
    rw [hactivity]
    exact hanchor
  unfold finishRequest at h
  cases hfind : σ.server.findRequest a with
  | none => simp [hfind] at h
  | some request =>
      obtain ⟨hmem, rfl⟩ := RtspServer.findRequest_some hfind
      simp only [hfind] at h
      split at h
      next hreplied =>
        cases hfinish : finishOperation σ.server request.addr session with
        | error halt => simp [hfinish] at h
        | ok server' =>
            simp only [hfinish, except_ok_bind, Except.ok.injEq] at h
            subst h
            have hleave : leaving P env σ .resume =
                some { request := request.addr, clears := some session, tearsDown } := by
              simp only [leaving, hforced, hactivity]
              exact hleaving request hfind hreplied
            rw [finishOperation_table hfinish]
            exact .finishes hmem rfl hreplied hleave hbefore hidle
      next hreplied =>
        simp only [Except.ok.injEq] at h
        subst h
        rw [RtspServer.table_setRequest]
        exact .returns hmem (by simpa using hreplied) rfl hbefore hidle

end Return

/-- The request in whose callback the application runs. -/
theorem ServerState.Consistent.running_request
    (hconsistent : σ.Consistent) {l : Leaving} (hanchor : σ.activity.anchor = some l) :
    ∃ request, σ.server.findRequest l.request = some request ∧ request.inCallback = true := by
  obtain ⟨r, hr, haddr, hrunning, -⟩ := hconsistent.anchored l hanchor
  obtain ⟨request, hmem, rfl⟩ := List.mem_map.mp hr
  have hdistinct : (σ.server.pendingRequests.map RtspServerPendingRequest.addr).Nodup := by
    have h := hconsistent.wellFormed.requestsDistinct
    simpa [RtspServer.table, Function.comp_def] using h
  exact ⟨request, haddr ▸ lookup_of_mem hdistinct hmem, hrunning⟩

section Callbacks

variable (hconsistent : σ.Consistent) {conn : Conn} {messages : List Delivery}
  (hforced : σ.forced = []) {activity : Activity}

include hconsistent hforced

theorem announce_changes
    {a : Addr} {server : RtspServer} {events : List ServerEvent} {callback' : Option Callback}
    (hactivity : σ.activity = .calling conn messages (.announce a))
    (h : returnFromCallback P env σ.server (.announce a) = .ok (server, events, callback'))
    (hanchor : activity.anchor = callback'.bind Callback.anchor)
    (hswept : activity.swept = none) :
    Change P env σ .resume server.table activity events := by
  have hbefore : σ.activity.anchor = some { request := a } := by rw [hactivity]; rfl
  obtain ⟨request, hfind, hrunning⟩ := hconsistent.running_request hbefore
  obtain ⟨hmem, haddr⟩ := RtspServer.findRequest_some hfind
  unfold returnFromCallback at h
  by_cases hcbs : σ.server.cbs.announce = true
  · simp only [hcbs, if_true] at h
    obtain ⟨server', hfinish, heq⟩ := except_bind_ok.mp h
    simp only [Except.ok.injEq, Prod.mk.injEq] at heq
    obtain ⟨rfl, rfl, rfl⟩ := heq
    apply finishRequest_changes hforced ⟨hanchor, hswept⟩ hactivity rfl _ hfinish
    intro r hr hreplied
    simp [leavingByReturn, hr, hreplied]
  · have hcbs' : σ.server.cbs.announce = false := by simpa using hcbs
    obtain ⟨⟨htable, r, hr, hreplied, hraddr⟩, hevents⟩ := ownAnnounce P env
      hfind hrunning Errno.enosys.ret []
    rw [haddr] at hr hraddr
    simp only [hcbs', Bool.false_eq_true, if_false, hevents] at h
    obtain ⟨server', hfinish, heq⟩ := except_bind_ok.mp h
    simp only [Except.ok.injEq, Prod.mk.injEq] at heq
    obtain ⟨rfl, rfl, rfl⟩ := heq
    simp only [finishRequest, hr, hreplied, if_true, Except.ok.injEq] at hfinish
    have hleave : leaving P env σ .resume = some { request := a } := by
      simp [leaving, hforced, hactivity, leavingByReturn, hcbs']
    have hleft : server'.table = σ.server.table.leave { request := a } := by
      rw [← hfinish, hraddr, RtspServer.table_removeRequest, htable]
      exact leave_setRequest (l := { request := a }) haddr
    rw [hleft]
    exact .finishesSelf hmem haddr hrunning hleave (.noAnnounce hactivity hcbs' hfind) hbefore
      ⟨hanchor, hswept⟩

omit hconsistent in
theorem setup_changes
    {a session : Addr} {server : RtspServer} {events : List ServerEvent}
    {callback' : Option Callback}
    (hactivity : σ.activity = .calling conn messages (.setup a session))
    (h : returnFromCallback P env σ.server (.setup a session) = .ok (server, events, callback'))
    (hanchor : activity.anchor = callback'.bind Callback.anchor)
    (hswept : activity.swept = none) :
    Change P env σ .resume server.table activity events := by
  unfold returnFromCallback at h
  obtain ⟨server', hfinish, heq⟩ := except_bind_ok.mp h
  simp only [Except.ok.injEq, Prod.mk.injEq] at heq
  obtain ⟨rfl, rfl, rfl⟩ := heq
  apply finishSession_changes hforced ⟨hanchor, hswept⟩ false false hactivity rfl
  · intro r hr hreplied
    simp [leavingByReturn, hr, hreplied]
  · simpa using hfinish

/-- The callback for one media among several returns; another one may follow. -/
theorem media_changes
    {method : RtspMethodType} {a session current : Addr} {rest : List Addr}
    {server : RtspServer} {events : List ServerEvent} {callback' : Option Callback}
    (hactivity : σ.activity = .calling conn messages (.media method a session current rest))
    (h : returnFromCallback P env σ.server (.media method a session current rest) =
      .ok (server, events, callback'))
    (hanchor : activity.anchor = callback'.bind Callback.anchor)
    (hswept : activity.swept = none) :
    Change P env σ .resume server.table activity events := by
  have hbefore : σ.activity.anchor =
      some { request := a, clears := some session, tearsDown := method = .teardown } := by
    rw [hactivity]
    rfl
  have hswept' : σ.activity.swept = none := by rw [hactivity]; rfl
  obtain ⟨request, hfind, hrunning⟩ := hconsistent.running_request hbefore
  obtain ⟨hmem, haddr⟩ := RtspServer.findRequest_some hfind
  unfold returnFromCallback at h
  by_cases hown : method = .record ∧ ¬ σ.server.cbs.record
  · have hmethod := hown.1
    have hcbs : σ.server.cbs.record = false := by simpa using hown.2
    subst hmethod
    obtain ⟨⟨server', events'⟩, hreply, h⟩ := except_bind_ok.mp h
    rw [mediaCallback, if_pos hown, hfind] at hreply
    dsimp only at hreply
    cases hrecord : rtspServerReplyToRecord P env σ.server a current
      { status := Errno.enosys.ret, range := some request.requestHeader.range } with
    | error halt => simp [hrecord, Except.map] at hreply
    | ok reply =>
        simp only [hrecord, Except.map, Except.ok.injEq] at hreply
        obtain ⟨s, s', attempt, hmedia, hattempt, ⟨htable, r, hr, hreplied, hraddr⟩, hevents⟩ :=
          ownRecord hconsistent.wellFormed hfind hrunning (Errno.ret_neg _) hrecord
        rw [haddr] at hr hraddr
        rw [hreply] at htable hr hevents
        dsimp only at htable hr hevents
        have hattempts : Attempts P env σ .resume request attempt :=
          .noRecord hactivity hcbs hmedia hfind hattempt
        cases rest with
        | cons next rest =>
            dsimp only at h
            split at h
            next => simp at h
            next =>
              simp only [Except.ok.injEq, Prod.mk.injEq] at h
              obtain ⟨rfl, rfl, rfl⟩ := h
              rw [htable, hevents]
              exact .answered hmem hrunning hattempts (hanchor.trans hbefore.symm)
                (hswept.trans hswept'.symm)
        | nil =>
            dsimp only at h
            obtain ⟨server'', hfinish, heq⟩ := except_bind_ok.mp h
            simp only [Except.ok.injEq, Prod.mk.injEq] at heq
            obtain ⟨rfl, rfl, rfl⟩ := heq
            simp only [finishRequest, hr, hreplied, if_true, hraddr] at hfinish
            obtain ⟨server₁, hoperation, heq⟩ := except_bind_ok.mp hfinish
            have hleave : leaving P env σ .resume =
                some { request := a, clears := some session } := by
              simp [leaving, hforced, hactivity, leavingByReturn, hcbs]
            have hleft : server''.table =
                σ.server.table.leave { request := a, clears := some session } := by
              have hfinished := finishOperation_table hoperation false
              simp only [Bool.false_eq_true, if_false] at hfinished
              simp only [reduceCtorEq, if_false, Except.ok.injEq] at heq
              rw [← heq, hfinished, htable]
              exact leave_setRequest haddr
            rw [hleft, hevents]
            exact .finishesSelf hmem haddr hrunning hleave hattempts hbefore ⟨hanchor, hswept⟩
  · simp only [mediaCallback, if_neg hown, except_ok_bind] at h
    cases rest with
    | cons next rest =>
        dsimp only at h
        split at h
        next => simp at h
        next =>
          simp only [Except.ok.injEq, Prod.mk.injEq] at h
          obtain ⟨rfl, rfl, rfl⟩ := h
          exact .moves (hanchor.trans hbefore.symm) (hswept.trans hswept'.symm) (by simp)
    | nil =>
        dsimp only at h
        obtain ⟨server', hfinish, heq⟩ := except_bind_ok.mp h
        simp only [Except.ok.injEq, Prod.mk.injEq] at heq
        obtain ⟨rfl, rfl, rfl⟩ := heq
        apply finishSession_changes hforced ⟨hanchor, hswept⟩ (method = .teardown)
          (method ≠ .teardown) hactivity rfl
        · intro r hr hreplied
          simp [leavingByReturn, hr, hreplied]
        · simpa using hfinish

end Callbacks

theorem returnFromCallback_changes
    (hconsistent : σ.Consistent) {conn : Conn} {messages : List Delivery} {callback : Callback}
    (hforced : σ.forced = []) (hactivity : σ.activity = .calling conn messages callback)
    {server : RtspServer} {events : List ServerEvent} {callback' : Option Callback}
    (h : returnFromCallback P env σ.server callback = .ok (server, events, callback'))
    (activity : Activity) (hanchor : activity.anchor = callback'.bind Callback.anchor)
    (hswept : activity.swept = none) :
    Change P env σ .resume server.table activity events := by
  have hbefore : σ.activity.anchor = callback.anchor := by rw [hactivity]; rfl
  have hswept' : σ.activity.swept = none := by rw [hactivity]; rfl
  cases callback with
  | interleavedData =>
      simp only [returnFromCallback, Except.ok.injEq, Prod.mk.injEq] at h
      obtain ⟨rfl, rfl, rfl⟩ := h
      exact .moves (hanchor.trans hbefore.symm) (hswept.trans hswept'.symm) (by simp)
  | describe a =>
      unfold returnFromCallback at h
      obtain ⟨server', hfinish, heq⟩ := except_bind_ok.mp h
      simp only [Except.ok.injEq, Prod.mk.injEq] at heq
      obtain ⟨rfl, rfl, rfl⟩ := heq
      apply finishRequest_changes hforced ⟨hanchor, hswept⟩ hactivity rfl _ hfinish
      intro r hr hreplied
      simp [leavingByReturn, hr, hreplied]
  | announce a => exact announce_changes hconsistent hforced hactivity h hanchor hswept
  | setup a session => exact setup_changes hforced hactivity h hanchor hswept
  | media method a session current rest =>
      exact media_changes hconsistent hforced hactivity h hanchor hswept

/-! ## Timers -/

variable (P env) in
/-- The walk over the pending requests ends, or at a request that has expired. -/
theorem sweepFrom_cases
    (server : RtspServer) (now : UInt64) (requests : List RtspServerPendingRequest) :
    sweepFrom P env server now requests = (server, [], .idle) ∨
      ∃ request next, request ∈ requests ∧ (0 < request.timeout ∧ request.timeout < now) ∧
        sweepFrom P env server now requests =
          (server.setRequest (errorResponse P env server request internalServerError).1,
            (errorResponse P env server request internalServerError).2,
            .sweeping now request.addr next) := by
  induction requests with
  | nil => exact .inl rfl
  | cons request rest ih =>
      unfold sweepFrom
      split
      next hexpired => exact .inr ⟨request, _, List.mem_cons_self, hexpired, rfl⟩
      next =>
        rcases ih with hdone | ⟨r, next, hr, hexpired, heq⟩
        · exact .inl hdone
        · exact .inr ⟨r, next, List.mem_cons_of_mem _ hr, hexpired, heq⟩

theorem errorResponse_outcome (request : RtspServerPendingRequest) :
    (errorResponse P env σ.server request internalServerError).2 =
      outcome P env σ.server { errorStatus := internalServerError, request } := by
  simp [outcome, answerError, internalServerError]

theorem sweep_changes
    (hwf : σ.server.table.WellFormed)
    (hidle : σ.activity.anchor = none ∧ σ.activity.swept = none)
    {server : RtspServer} {events : List ServerEvent} {activity : Activity}
    (h : sweepFrom P env σ.server env.now σ.server.pendingRequests = (server, events, activity)) :
    Change P env σ .timer server.table activity events := by
  rcases sweepFrom_cases P env σ.server env.now σ.server.pendingRequests with
    hdone | ⟨request, next, hmem, hexpired, heq⟩
  · rw [hdone] at h
    cases h
    exact .moves hidle.1.symm hidle.2.symm (by simp)
  · rw [heq] at h
    cases h
    rw [RtspServer.table_setRequest, errorResponse_entry,
      hwf.setRequest_self (RtspServer.entry_mem_requests hmem), errorResponse_outcome]
    exact .expires hidle hmem (.expired (.inl ⟨rfl, rfl⟩) hidle.1 hmem hexpired) ⟨rfl, rfl⟩

theorem resumeSweep_changes
    (hwf : σ.server.table.WellFormed) (hforced : σ.forced = []) {now : UInt64} {a : Addr}
    {next : Option Addr} (hactivity : σ.activity = .sweeping now a next)
    {server : RtspServer} {events : List ServerEvent} {activity : Activity}
    (h : resumeSweep P env σ.server now a next = .ok (server, events, activity)) :
    Change P env σ .resume server.table activity events := by
  have hbefore : σ.activity.swept = some a := by rw [hactivity]; rfl
  have hanchor : σ.activity.anchor = none := by rw [hactivity]; rfl
  have hleaving : leaving P env σ .resume = some { request := a } := by
    simp [leaving, hforced, hactivity]
  have hremoved : Change P env σ .resume (rtspServerPendingRequestRemove σ.server a).table .idle
      [] := by
    rw [RtspServer.table_removeRequest]
    exact .sweeps hbefore hleaving ⟨rfl, rfl⟩
  unfold resumeSweep at h
  cases next with
  | none =>
      simp only [Except.ok.injEq, Prod.mk.injEq] at h
      obtain ⟨rfl, rfl, rfl⟩ := h
      exact hremoved
  | some next =>
      dsimp only at h
      split at h
      next => simp at h
      next request rest hwalk =>
        simp only [Except.ok.injEq] at h
        rcases sweepFrom_cases P env (rtspServerPendingRequestRemove σ.server a)
          now (request :: rest) with hdone | ⟨r, next', hr, hexpired, heq⟩
        · rw [hdone] at h
          cases h
          exact hremoved
        · rw [heq] at h
          cases h
          have hpending : r ∈ (rtspServerPendingRequestRemove σ.server a).pendingRequests := by
            rw [← hwalk] at hr
            exact (List.dropWhile_sublist _).subset hr
          obtain ⟨hmem, hother⟩ := mem_remove.mp hpending
          have hsame : errorResponse P env (rtspServerPendingRequestRemove σ.server a) r
              internalServerError = errorResponse P env σ.server r internalServerError :=
            errorResponse_congr rfl rfl _
          rw [RtspServer.table_setRequest, errorResponse_entry, RtspServer.table_removeRequest,
            (hwf.removeRequest a).setRequest_self
              (Table.mem_removeRequest.mpr ⟨RtspServer.entry_mem_requests hmem, hother⟩),
            hsame, errorResponse_outcome]
          exact .sweepsOn hbefore hleaving hmem hother
            (.expired (.inr ⟨a, _, rfl, hactivity, hother⟩) hanchor hmem hexpired) ⟨rfl, rfl⟩

/-! ## Forced teardown -/

theorem rtspServerSendTeardown_quiet
    (server : RtspServer) (uri : Option Bytes) (sessionId : Bytes) (ext : List RtspHeaderExt) :
    (rtspServerSendTeardown P server uri sessionId ext).1.table = server.table ∧
      ∀ event ∈ (rtspServerSendTeardown P server uri sessionId ext).2, IsBroadcast event := by
  unfold rtspServerSendTeardown
  split
  next => simp
  next =>
    dsimp only
    split
    next => exact ⟨rfl, by simp⟩
    next response _ =>
      refine ⟨rfl, ?_⟩
      intro event hevent
      rw [List.mem_singleton] at hevent
      exact ⟨_, hevent⟩

/-- The session, or the media, that was torn down is removed. -/
theorem finishForced_table
    (server : RtspServer) (session : RtspServerSession) (target : Option Addr)
    (ext : List RtspHeaderExt) :
    (finishForced P server session target ext).1.table =
        (match target with
        | none => server.table.removeSession session.addr
        | some media => server.table.setSession
            { session.entry with
              medias := session.entry.medias.filter fun m => m.1 ≠ media }) ∧
      ∀ event ∈ (finishForced P server session target ext).2, IsBroadcast event := by
  unfold finishForced
  cases target with
  | none =>
      obtain ⟨htable, hevents⟩ := rtspServerSendTeardown_quiet (P := P) server session.uri
        session.sessionId ext
      exact ⟨by rw [RtspServer.table_removeSession, htable], hevents⟩
  | some media =>
      obtain ⟨htable, hevents⟩ := rtspServerSendTeardown_quiet (P := P) server
        ((session.medias.find? (·.addr = media)).bind RtspServerSessionMedia.uri)
        session.sessionId ext
      refine ⟨?_, hevents⟩
      dsimp only
      rw [rtspServerSessionMediaRemove, RtspServer.table_setSession, htable]
      simp [RtspServerSession.entry, List.filter_map, Function.comp_def]

theorem forceTeardown_changes
    {sessionId : Bytes} {path : Option Bytes} {ext : List RtspHeaderExt}
    {server : RtspServer} {events : List ServerEvent} {call : Option ForcedTeardown}
    (h : rtspServerForceTeardown P σ.server sessionId path ext = (server, events, call)) :
    Change P env σ (.call (.forceTeardown sessionId path ext)) server.table σ.activity events := by
  have hquiet : Change P env σ (.call (.forceTeardown sessionId path ext)) σ.server.table
      σ.activity [] := .moves rfl rfl (by simp)
  unfold rtspServerForceTeardown at h
  split at h
  next => cases h; exact hquiet
  next session hfind =>
    dsimp only at h
    split at h
    next => cases h; exact hquiet
    next hfound =>
      split at h
      next => cases h; exact hquiet
      next hfree =>
        split at h
        next => cases h; exact hquiet
        next hnone =>
          cases h
          obtain ⟨hmedia, hempty⟩ := Option.or_eq_none_iff.mp hnone
          have hpath : path = none := by
            by_contra hsome
            exact hfound ⟨Option.isSome_iff_ne_none.mpr hsome, by simp [hmedia]⟩
          have hmedias : session.medias = [] := List.head?_eq_none_iff.mp hempty
          subst hpath
          obtain ⟨htable, hevents⟩ := finishForced_table (P := P) σ.server session none ext
          have hdropped : dropped σ (.call (.forceTeardown sessionId none ext)) =
              some (session.addr, none) := by
            obtain ⟨addr, id, uri, timeoutMs, sets, playing, recording, range, scale, op,
              medias⟩ :=
              session
            simp only [ne_eq, not_not] at hfree hmedias
            subst hfree hmedias
            simp [dropped, hfind]
          simp only [hmedia, Option.map_none] at htable hevents ⊢
          rw [htable]
          exact .drops hdropped rfl rfl hevents

theorem resumeForced_changes
    {call : ForcedTeardown} {forced : List ForcedTeardown} (hforced : σ.forced = call :: forced)
    {server : RtspServer} {events : List ServerEvent} {call' : Option ForcedTeardown}
    (h : resumeForced P σ.server call = .ok (server, events, call')) :
    Change P env σ .resume server.table σ.activity events := by
  unfold resumeForced at h
  obtain ⟨rest, hrest, h⟩ := except_bind_ok.mp h
  split at h
  next =>
    simp only [Except.ok.injEq, Prod.mk.injEq] at h
    obtain ⟨rfl, rfl, rfl⟩ := h
    exact .moves rfl rfl (by simp)
  next rest _ _ hlast =>
    split at h
    next => simp at h
    next session hfind =>
      simp only [Except.ok.injEq, Prod.mk.injEq] at h
      obtain ⟨rfl, rfl, rfl⟩ := h
      obtain ⟨hsession, haddr⟩ := RtspServer.findSession_some hfind
      cases htarget : call.target with
      | none =>
          obtain ⟨htable, hevents⟩ := finishForced_table (P := P) σ.server session none call.ext
          have hnil : rest = [] := by
            cases rest with
            | nil => rfl
            | cons next tail => exact absurd rfl (hlast next tail htarget)
          have hdropped : dropped σ .resume = some (session.addr, none) := by
            simp [dropped, hforced, htarget, hrest, hnil, haddr]
          rw [htable]
          exact .drops hdropped rfl rfl hevents
      | some media =>
          obtain ⟨htable, hevents⟩ := finishForced_table (P := P) σ.server session (some media)
            call.ext
          have hdropped : dropped σ .resume = some (session.entry.addr, some media) := by
            simp [dropped, hforced, htarget, hrest, haddr]
          rw [htable]
          exact .dropsMedia hdropped (RtspServer.entry_mem_sessions hsession) rfl rfl hevents

/-! ## Steps -/

/-- The session timer: the next media's teardown callback, or the removal. -/
theorem expireMedias_changes
    {input : ServerInput} {session : Addr} {medias : List RtspServerSessionMedia}
    (hidle : σ.activity.anchor = none ∧ σ.activity.swept = none)
    (hdropped : medias = [] → dropped σ input = some (session, none)) :
    Change P env σ input (expireMedias σ.server session medias).1.table
      (expireMedias σ.server session medias).2 [] := by
  cases medias with
  | nil =>
      unfold expireMedias
      rw [RtspServer.table_removeSession]
      exact .drops (hdropped rfl) hidle.1.symm hidle.2.symm (by simp)
  | cons media rest => exact .moves hidle.1.symm hidle.2.symm (by simp)

theorem callStep_changes
    (hwf : σ.server.table.WellFormed) {call : ApiCall} (h : callStep P env σ call = .ok σ') :
    Changes P env σ (.call call) σ' := by
  cases call with
  | replyToDescribe a status ext sessionDescription =>
      simp only [callStep, Except.ok.injEq] at h
      exact h ▸ replyToDescribe_changes a status ext sessionDescription
  | replyToAnnounce a status ext =>
      simp only [callStep, Except.ok.injEq] at h
      exact h ▸ replyToAnnounce_changes a status ext
  | replyToSetup a media reply =>
      obtain ⟨result, hreply, rfl⟩ := except_map_ok.mp h
      exact replyToSetup_changes hwf hreply
  | replyToPlay a media reply =>
      obtain ⟨result, hreply, rfl⟩ := except_map_ok.mp h
      exact replyToMedia_changes hwf rfl playKind_lawful hreply
  | replyToPause a media reply =>
      obtain ⟨result, hreply, rfl⟩ := except_map_ok.mp h
      exact replyToMedia_changes hwf rfl pauseKind_lawful hreply
  | replyToRecord a media reply =>
      obtain ⟨result, hreply, rfl⟩ := except_map_ok.mp h
      exact replyToMedia_changes hwf rfl recordKind_lawful hreply
  | replyToTeardown a media reply =>
      obtain ⟨result, hreply, rfl⟩ := except_map_ok.mp h
      exact replyToMedia_changes hwf rfl teardownKind_lawful hreply
  | forceTeardown sessionId path ext =>
      simp only [callStep, Except.ok.injEq] at h
      subst h
      exact ⟨_, rfl, forceTeardown_changes rfl⟩

theorem resumeStep_changes (hconsistent : σ.Consistent) (h : resumeStep P env σ = .ok σ') :
    Changes P env σ .resume σ' := by
  have hwf := hconsistent.wellFormed
  unfold resumeStep at h
  split at h
  next call forced hforced =>
    obtain ⟨⟨server, events, call'⟩, hresume, heq⟩ := except_bind_ok.mp h
    simp only [Except.ok.injEq] at heq
    subst heq
    exact ⟨events, rfl, resumeForced_changes hforced hresume⟩
  next hforced =>
    split at h
    next => simp at h
    next hactivity =>
      simp only [Except.ok.injEq] at h
      subst h
      refine ⟨[], by simp, .moves ?_ ?_ (by simp)⟩
      · rw [hactivity]
        rfl
      · rw [hactivity]
        rfl
    next hactivity => exact processMessage_changes hwf hforced hactivity h
    next conn messages callback hactivity =>
      obtain ⟨⟨server, events, callback'⟩, hreturn, heq⟩ := except_bind_ok.mp h
      simp only [Except.ok.injEq] at heq
      subst heq
      refine ⟨events, rfl, ?_⟩
      apply returnFromCallback_changes hconsistent hforced hactivity hreturn
      · cases callback' with
        | none => rfl
        | some callback => rfl
      · cases callback' with
        | none => rfl
        | some callback => rfl
    next now a next hactivity =>
      obtain ⟨⟨server, events, activity⟩, hresume, heq⟩ := except_bind_ok.mp h
      simp only [Except.ok.injEq] at heq
      subst heq
      exact ⟨events, rfl, resumeSweep_changes hwf hforced hactivity hresume⟩
    next session media hactivity =>
      obtain ⟨rest, hrest, heq⟩ := except_bind_ok.mp h
      simp only [Except.ok.injEq] at heq
      subst heq
      refine ⟨[], by simp, ?_⟩
      apply expireMedias_changes
      · rw [hactivity]; exact ⟨rfl, rfl⟩
      · intro hnil
        simp [dropped, hforced, hactivity, hrest, hnil]

theorem isIdle_activity (h : σ.isIdle = true) :
    σ.activity.anchor = none ∧ σ.activity.swept = none := by
  simp only [ServerState.isIdle, Bool.and_eq_true, decide_eq_true_eq] at h
  rw [h.1]
  exact ⟨rfl, rfl⟩

theorem serverStep_changes
    (hconsistent : σ.Consistent) {input : ServerInput} (h : serverStep P env σ input = .ok σ') :
    Changes P env σ input σ' := by
  have hwf := hconsistent.wellFormed
  unfold serverStep at h
  cases input with
  | receive conn messages =>
      dsimp only at h
      split at h
      next hidle =>
        obtain ⟨hanchor, hswept⟩ := isIdle_activity hidle
        simp only [Except.ok.injEq] at h
        subst h
        exact ⟨[], by simp, .moves hanchor.symm hswept.symm (by simp)⟩
      next => simp at h
  | disconnected conn =>
      dsimp only at h
      split at h
      next =>
        simp only [Except.ok.injEq] at h
        subst h
        refine ⟨[], by simp, ?_⟩
        convert Change.disconnects conn rfl using 1
        apply Table.ext
        · rfl
        · simp only [RtspServer.table, Table.disconnect, List.map_map]
          apply List.map_congr_left
          intro request _
          by_cases hconn : request.conn = some conn
          · simp [RtspServerPendingRequest.entry, RtspServerPendingRequest.references, hconn]
          · simp [RtspServerPendingRequest.entry, hconn]
        · rfl
      next => simp at h
  | timer =>
      dsimp only at h
      split at h
      next hidle =>
        simp only [Except.ok.injEq] at h
        subst h
        exact ⟨_, rfl, sweep_changes hwf (isIdle_activity hidle) rfl⟩
      next => simp at h
  | sessionTimer session =>
      dsimp only at h
      split at h
      next s hidle hfind =>
        simp only [Except.ok.injEq] at h
        subst h
        refine ⟨[], by simp, expireMedias_changes (isIdle_activity hidle) ?_⟩
        intro hnil
        obtain ⟨addr, id, uri, timeoutMs, sets, playing, recording, range, scale, op, medias⟩ := s
        dsimp only at hnil
        subst hnil
        simp [dropped, hfind]
      next => simp at h
  | removeIdle session =>
      dsimp only at h
      split at h
      next hidle =>
        split at h
        next => simp at h
        next =>
          simp only [Except.ok.injEq] at h
          subst h
          refine ⟨[], by simp, ?_⟩
          rw [RtspServer.table_removeSession]
          exact .drops rfl rfl rfl (by simp)
      next => simp at h
  | call call =>
      dsimp only at h
      split at h
      next => exact callStep_changes hwf h
      next => simp at h
  | resume => exact resumeStep_changes hconsistent h

/-- What becomes of the server, and the events. -/
def Processed.outcome (P : Platform) (env : Env) : Processed → RtspServer × List ServerEvent
  | .failed e status request server =>
      (rtspServerPendingRequestRemove server request.addr,
        (errorResponse P env server request (if statusIsFailure status then status else e.ret)).2)
  | .returns server events => (server, events)
  | .calls server _ => (server, [])

/-- A request that arrives is handled, and what its handler comes to is what the step does. -/
theorem arriving_outcome {input : ServerInput} {request : RtspServerPendingRequest}
    (harriving : arriving env σ input = some request)
    (hstep : serverStep P env σ input = .ok σ') :
    ∃ conn processed, request.conn = some conn ∧
      handleRequest P env (σ.server.enqueue request) request = .ok processed ∧
      σ'.server = (processed.outcome P env).1 ∧
      σ'.events =
        σ.events ++
          .received conn request.addr request.requestHeader request.body ::
            (processed.outcome P env).2 := by
  unfold arriving at harriving
  split at harriving
  case h_2 => cases harriving
  split at harriving
  case h_2 => cases harriving
  next conn header body messages hforced hactivity =>
    cases harriving
    change resumeStep P env σ = .ok σ' at hstep
    unfold resumeStep at hstep
    rw [hforced, hactivity] at hstep
    obtain ⟨result, hresult, hend⟩ := except_bind_ok.mp hstep
    cases hend
    obtain ⟨processed, hprocessed, hend⟩ := except_bind_ok.mp hresult
    refine ⟨conn, processed, rfl, hprocessed, ?_⟩
    cases processed with
    | failed e status request server =>
        cases hend
        exact ⟨rfl, rfl⟩
    | returns server events =>
        cases hend
        exact ⟨rfl, rfl⟩
    | calls server callback =>
        cases hend
        exact ⟨rfl, rfl⟩

end Steps

end Librtsp
