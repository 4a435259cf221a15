import Librtsp.ServerChange

/-!
# Replies are changes

What the reply functions of the interface do to the table and what they send.
-/

namespace Librtsp

open CString RecordList

section Steps

variable {P : Platform} {env : Env} {σ σ' : ServerState}

/-! ## How requests end -/

section Conclusions

variable (server : RtspServer) (session : RtspServerSession)
  {request request' : RtspServerPendingRequest} (hentry : request'.entry = request.entry)

include hentry

theorem inCallback_of_entry : request'.inCallback = request.inCallback :=
  congrArg RequestEntry.inCallback hentry

theorem addr_of_entry : request'.addr = request.addr :=
  congrArg RequestEntry.addr hentry

theorem replied_entry :
    ({ request' with replied := true } : RtspServerPendingRequest).entry =
      { request.entry with replied := true } := by
  rw [← hentry]
  rfl

theorem concludeRequest_table :
    (concludeRequest server request').table =
      if request.inCallback then
        server.table.setRequest { request.entry with replied := true }
      else server.table.removeRequest request.addr := by
  have hcallback := inCallback_of_entry hentry
  unfold concludeRequest
  by_cases hrunning : request.inCallback = true
  · rw [if_pos (hcallback.trans hrunning), if_pos hrunning, RtspServer.table_setRequest,
      replied_entry hentry]
  · rw [if_neg (by rwa [hcallback]), if_neg hrunning, RtspServer.table_removeRequest,
      addr_of_entry hentry]

theorem concludeOperation_table :
    (concludeOperation server session request').table =
      if request.inCallback then
        (server.table.setSession session.entry).setRequest { request.entry with replied := true }
      else
        (server.table.setSession { session.entry with op := .unknown }).removeRequest
          request.addr := by
  have hcallback := inCallback_of_entry hentry
  unfold concludeOperation
  by_cases hrunning : request.inCallback = true
  · rw [if_pos (hcallback.trans hrunning), if_pos hrunning, RtspServer.table_setRequest,
      RtspServer.table_setSession, replied_entry hentry]
  · rw [if_neg (by rwa [hcallback]), if_neg hrunning, RtspServer.table_removeRequest,
      RtspServer.table_setSession, addr_of_entry hentry]
    rfl

theorem concludeMedia_table (K : MediaReplyKind) :
    (concludeMedia server K session request').table =
      if request.inCallback then
        (server.table.setSession session.entry).setRequest { request.entry with replied := true }
      else if K.tearsDown then
        ((server.table.setSession { session.entry with op := .unknown }).removeRequest
          request.addr).removeTornDown session.addr
      else
        (server.table.setSession { session.entry with op := .unknown }).removeRequest
          request.addr := by
  unfold concludeMedia
  rw [inCallback_of_entry hentry]
  by_cases hcallback : request.inCallback = true
  · rw [if_neg (by simp [hcallback]), concludeOperation_table server session hentry,
      if_pos hcallback, if_pos hcallback]
  · by_cases htears : K.tearsDown = true
    · rw [if_pos ⟨hcallback, htears⟩, RtspServer.table_removeTornDown,
        concludeOperation_table server session hentry, if_neg hcallback, if_neg hcallback,
        if_pos htears]
    · rw [if_neg (by simp [htears]), concludeOperation_table server session hentry,
        if_neg hcallback, if_neg hcallback, if_neg htears]

end Conclusions

/-- A session found in the list gives its entry by address. -/
theorem lookup_entry
    (hwf : σ.server.table.WellFormed) {session : RtspServerSession}
    (hmem : session ∈ σ.server.sessions) :
    lookup SessionEntry.addr session.addr σ.server.table.sessions = some session.entry :=
  lookup_of_mem hwf.sessionsDistinct (RtspServer.entry_mem_sessions hmem)

theorem leave_clears
    (hwf : σ.server.table.WellFormed) {session : RtspServerSession}
    (hmem : session ∈ σ.server.sessions) (request : Addr) (tearsDown : Bool) :
    σ.server.table.leave { request, clears := some session.addr, tearsDown } =
      if tearsDown then
        ((σ.server.table.setSession { session.entry with op := .unknown }).removeRequest
          request).removeTornDown session.addr
      else
        (σ.server.table.setSession { session.entry with op := .unknown }).removeRequest
          request := by
  unfold Table.leave
  simp only [lookup_entry hwf hmem]

theorem waiting_eq
    {a : Addr} {request : RtspServerPendingRequest} (hfind : σ.server.findRequest a = some request)
    (hcallback : request.inCallback = false) : σ.server.waiting a = some request := by
  simp [RtspServer.waiting, hfind, hcallback]

/-! ## Replies -/

/-- A reply to a request without a media. -/
theorem finishReply_changes
    {call : ApiCall} {a : Addr}
    {request : RtspServerPendingRequest} {attempt : Attempt}
    (hfind : σ.server.findRequest a = some request)
    (hsound : attempt.Sound env request)
    (hattempt : Attempts P env σ (.call call) request attempt)
    (hleaving : request.inCallback = false →
      leaving P env σ (.call call) = some { request := a }) :
    Changes P env σ (.call call) (σ.replied (finishReply P env σ.server attempt)) := by
  obtain ⟨hmem, rfl⟩ := RtspServer.findRequest_some hfind
  have hentry : (answerError P env σ.server attempt.request attempt.errorStatus).1.entry =
      request.entry := by rw [answerError_entry, hsound.entry]
  refine ⟨outcome P env σ.server attempt, rfl, ?_⟩
  simp only [ServerState.replied, finishReply, concludeRequest_table _ hentry]
  by_cases hrunning : request.inCallback = true
  · rw [if_pos hrunning]
    exact .answered hmem hrunning hattempt rfl rfl
  · have hwaiting : request.inCallback = false := by simpa using hrunning
    rw [if_neg hrunning]
    exact .leaves hmem rfl hwaiting (hleaving hwaiting) hattempt rfl rfl

theorem replied_none (ret : Int) (call : ApiCall) :
    Changes P env σ (.call call) (σ.replied (ret, σ.server, [])) :=
  ⟨[], by simp [ServerState.replied], .moves rfl rfl (by simp)⟩

theorem replyToDescribe_changes
    (a : Addr) (status : Int) (ext : List RtspHeaderExt)
    (sessionDescription : Option Bytes) :
    Changes P env σ (.call (.replyToDescribe a status ext sessionDescription))
      (σ.replied
        (rtspServerReplyToDescribe P env σ.server a status ext sessionDescription)) := by
  unfold rtspServerReplyToDescribe
  cases hfind : σ.server.findRequest a with
  | none => exact replied_none _ _
  | some request =>
      apply finishReply_changes hfind (describeAttempt_sound ..)
      · exact .describe hfind ..
      · intro hcallback
        simp [leaving, leavingByCall, waiting_eq hfind hcallback]

theorem replyToAnnounce_changes
    (a : Addr) (status : Int) (ext : List RtspHeaderExt) :
    Changes P env σ (.call (.replyToAnnounce a status ext))
      (σ.replied (rtspServerReplyToAnnounce P env σ.server a status ext)) := by
  unfold rtspServerReplyToAnnounce
  cases hfind : σ.server.findRequest a with
  | none => exact replied_none _ _
  | some request =>
      apply finishReply_changes hfind (announceAttempt_sound ..)
      · exact .announce hfind ..
      · intro hcallback
        simp [leaving, leavingByCall, waiting_eq hfind hcallback]

theorem replyToSetup_changes
    (hwf : σ.server.table.WellFormed) {a media : Addr} {setup : SetupReply} {reply : Reply}
    (h : rtspServerReplyToSetup P env σ.server a media setup = .ok reply) :
    Changes P env σ (.call (.replyToSetup a media setup)) (σ.replied reply) := by
  unfold rtspServerReplyToSetup at h
  cases hmedia : σ.server.mediaSession media with
  | none => simp [hmedia] at h
  | some session =>
      cases hfind : σ.server.findRequest a with
      | none =>
          simp only [hmedia, hfind, Except.ok.injEq] at h
          subst h
          exact replied_none _ _
      | some request =>
          obtain ⟨hmem, rfl⟩ := RtspServer.findRequest_some hfind
          obtain ⟨hsession, -⟩ := RtspServer.mediaSession_some hmedia
          have hsound := setupAttempt_sound P env σ.server session request setup
          have hattempt : Attempts P env σ (.call (.replyToSetup request.addr media setup))
              request (setupAttempt P env σ.server session request setup).1 :=
            .setup hmedia hfind setup
          simp only [hmedia, hfind, Except.ok.injEq] at h
          subst h
          refine ⟨outcome P env σ.server (setupAttempt P env σ.server session request setup).1,
            rfl, ?_⟩
          generalize (setupAttempt P env σ.server session request setup).1 = attempt at *
          generalize (setupAttempt P env σ.server session request setup).2 = failed
          have hentry : (answerError P env σ.server attempt.request attempt.errorStatus).1.entry =
              request.entry := by rw [answerError_entry, hsound.entry]
          have hidle : (if failed = true ∧ session.medias.length = 1 then
              { σ.server with removeIdle := σ.server.removeIdle ++ [session.addr] }
              else σ.server).table = σ.server.table := by
            split
            next => rfl
            next => rfl
          simp only [ServerState.replied, concludeOperation_table _ _ hentry, hidle]
          by_cases hrunning : request.inCallback = true
          · rw [if_pos hrunning,
              hwf.setSession_self (RtspServer.entry_mem_sessions hsession)]
            exact .answered hmem hrunning hattempt rfl rfl
          · have hwaiting : request.inCallback = false := by simpa using hrunning
            have hleave := leave_clears hwf hsession request.addr false
            rw [if_neg (by simp)] at hleave
            rw [if_neg hrunning, ← hleave]
            apply Change.leaves hmem rfl hwaiting _ hattempt rfl rfl
            simp [leaving, leavingByCall, waiting_eq hfind hwaiting, hmedia]

/-- The four replies for one media among several. -/
theorem replyToMedia_changes
    (hwf : σ.server.table.WellFormed) {call : ApiCall} {K : MediaReplyKind} {a media : Addr}
    {mediaReply : MediaReply} {reply : Reply}
    (hcall : call.mediaReply = some (K, a, media, mediaReply)) (hlawful : K.Lawful)
    (h : replyToMedia P env σ.server K a media mediaReply = .ok reply) :
    Changes P env σ (.call call) (σ.replied reply) := by
  unfold replyToMedia at h
  cases hmedia : σ.server.mediaSession media with
  | none => simp [hmedia] at h
  | some session =>
      obtain ⟨hsession, -⟩ := RtspServer.mediaSession_some hmedia
      have hsession' := RtspServer.entry_mem_sessions hsession
      cases hfind : σ.server.findRequest a with
      | none =>
          simp only [hmedia, hfind, lookupFailed_eq] at h
          split at h
          next => cases h
          next =>
            cases h
            exact replied_none _ _
      | some request =>
          obtain ⟨hmem, rfl⟩ := RtspServer.findRequest_some hfind
          have hmem' := RtspServer.entry_mem_requests hmem
          simp only [hmedia, hfind] at h
          cases hreply : replyAttempt P env σ.server K session request media mediaReply with
          | none =>
              obtain ⟨hs, hr⟩ := settled_entry (K := K) session request media mediaReply
              simp only [hreply, Except.ok.injEq] at h
              subst h
              refine ⟨[], by simp [ServerState.replied], ?_⟩
              simp only [ServerState.replied, RtspServer.table_setRequest,
                RtspServer.table_setSession, acceptReply_entry, hs, hr,
                hwf.setSession_self hsession', hwf.setRequest_self hmem']
              exact .moves rfl rfl (by simp)
          | some result =>
              obtain ⟨session', attempt⟩ := result
              obtain ⟨hs, hsound⟩ := replyAttempt_sound hlawful hreply
              have hattempt : Attempts P env σ (.call call) request attempt :=
                .media hcall hmedia hfind hreply
              simp only [hreply, Except.ok.injEq] at h
              subst h
              refine ⟨outcome P env σ.server attempt, rfl, ?_⟩
              have hentry : (answerError P env σ.server attempt.request
                  attempt.errorStatus).1.entry = request.entry := by
                rw [answerError_entry, hsound.entry]
              have hsaddr : session'.addr = session.addr := congrArg SessionEntry.addr hs
              simp only [ServerState.replied, concludeMedia_table _ _ hentry, hs, hsaddr]
              by_cases hrunning : request.inCallback = true
              · rw [if_pos hrunning, hwf.setSession_self hsession']
                exact .answered hmem hrunning hattempt rfl rfl
              · have hwaiting : request.inCallback = false := by simpa using hrunning
                rw [if_neg hrunning, ← leave_clears hwf hsession request.addr K.tearsDown]
                apply Change.leaves hmem rfl hwaiting _ hattempt rfl rfl
                unfold leaving leavingByCall
                cases call with
                | replyToDescribe => simp [ApiCall.mediaReply] at hcall
                | replyToAnnounce => simp [ApiCall.mediaReply] at hcall
                | replyToSetup => simp [ApiCall.mediaReply] at hcall
                | forceTeardown => simp [ApiCall.mediaReply] at hcall
                | replyToPlay => simp [hcall, waiting_eq hfind hwaiting, hmedia, hreply]
                | replyToPause => simp [hcall, waiting_eq hfind hwaiting, hmedia, hreply]
                | replyToRecord => simp [hcall, waiting_eq hfind hwaiting, hmedia, hreply]
                | replyToTeardown => simp [hcall, waiting_eq hfind hwaiting, hmedia, hreply]

end Steps

end Librtsp
