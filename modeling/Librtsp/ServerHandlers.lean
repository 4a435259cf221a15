import Librtsp.ServerReplies

/-!
# Requests that arrive are changes

What the handlers do with a request that has just been added to the list.  A
handler ends with an error, with an answer or in a callback; `Processed.Makes`
says which changes these are, and there is one lemma for each handler.
-/

namespace Librtsp

open CString RecordList

/-- A request that has just been added. -/
structure RtspServer.Fresh (server : RtspServer) (request : RtspServerPendingRequest) : Prop where
  addr : request.addr = server.nextAddr
  conn : request.conn.isSome
  responseHeader : request.responseHeader = {}
  target : request.target = none
  references : request.references = []
  inCallback : request.inCallback = false
  replied : request.replied = false

section Handlers

variable {P : Platform} {env : Env} {σ : ServerState} {input : ServerInput}
  {request request' : RtspServerPendingRequest}

theorem arriving_fresh (h : arriving env σ input = some request) : σ.server.Fresh request := by
  unfold arriving at h
  split at h
  next =>
    split at h
    next =>
      simp only [rtspServerPendingRequestAdd, Option.some.injEq] at h
      subst h
      exact ⟨rfl, rfl, rfl, rfl, rfl, rfl, rfl⟩
    next => simp at h
  next => simp at h

/-! ## The table with a request added -/

theorem RtspServer.table_enqueue (server : RtspServer) (request : RtspServerPendingRequest) :
    (server.enqueue request).table =
      (server.table.addRequest request.entry).allocate (server.table.next + 1) := by
  simp [RtspServer.table, RtspServer.enqueue, Table.addRequest, Table.allocate]

namespace Table

theorem removeRequest_added
    {t : Table} (hwf : t.WellFormed) {r : RequestEntry} (haddr : r.addr = t.next) (next : Addr) :
    ((t.addRequest r).allocate next).removeRequest r.addr = t.allocate next := by
  have hremove : remove RequestEntry.addr r.addr (t.requests ++ [r]) = t.requests := by
    apply remove_append
    intro r₀ hr₀
    exact haddr ▸ (hwf.requestBelow r₀ hr₀).ne
  simp [removeRequest, addRequest, allocate, hremove]

end Table

/-- An error response reads of the server only its name and the message size. -/
theorem errorResponse_congr
    {server server' : RtspServer} (hname : server'.softwareName = server.softwareName)
    (hsize : server'.maxMsgSize = server.maxMsgSize) (status : Int) :
    errorResponse P env server' request status = errorResponse P env server request status := by
  unfold errorResponse fillAnswer writeResponse
  rw [hname, hsize]

/-- The servers differ at most in what the table leaves out of a session. -/
structure SameTable (server server' : RtspServer) : Prop where
  table : server'.table = server.table
  softwareName : server'.softwareName = server.softwareName
  maxMsgSize : server'.maxMsgSize = server.maxMsgSize

theorem SameTable.refl (server : RtspServer) : SameTable server server :=
  ⟨rfl, rfl, rfl⟩

/-- The timer of a session is not in the table. -/
theorem rtspServerSessionResetTimeout_entry (session : RtspServerSession) :
    (rtspServerSessionResetTimeout session).entry = session.entry := rfl

/-! ## What a handler makes -/

/-- The changes a handler's result leads to. -/
def Processed.Makes (P : Platform) (env : Env) (σ : ServerState)
    (request : RtspServerPendingRequest) : Processed → Prop
  | .failed _ _ request' server =>
      (∀ attempt activity event, IsReceived request event → activity.anchor = none →
        activity.swept = none → Attempts P env σ .resume request attempt →
        Change P env σ .resume (server.table.removeRequest request'.addr) activity
          (event :: outcome P env σ.server attempt)) ∧
      server.softwareName = σ.server.softwareName ∧ server.maxMsgSize = σ.server.maxMsgSize
  | .returns server events =>
      ∀ activity event, IsReceived request event → activity.anchor = none →
        activity.swept = none → Change P env σ .resume server.table activity (event :: events)
  | .calls server callback =>
      ∀ activity event, IsReceived request event → activity.anchor = callback.anchor →
        activity.swept = none → Change P env σ .resume server.table activity [event]

theorem arriving_addr (harriving : arriving env σ .resume = some request) :
    request.entry.addr = σ.server.table.next :=
  (arriving_fresh harriving).addr

variable (hwf : σ.server.table.WellFormed) (harriving : arriving env σ .resume = some request)

include hwf harriving

/-- The request goes on with other fields, at the same address. -/
theorem setRequest_requests
    {server : RtspServer}
    (hpending : server.pendingRequests = σ.server.pendingRequests ++ [request])
    (haddr : request'.addr = request.addr) :
    (server.setRequest request').table.requests = σ.server.table.requests ++ [request'.entry] := by
  have hreplace : replace RtspServerPendingRequest.addr request' server.pendingRequests =
      σ.server.pendingRequests ++ [request'] := by
    rw [hpending]
    apply replace_append _ haddr.symm
    intro r hr
    rw [haddr, (arriving_fresh harriving).addr]
    exact (hwf.requestBelow r.entry (RtspServer.entry_mem_requests hr)).ne
  simp [RtspServer.table, RtspServer.setRequest, hreplace]

theorem removeRequest_requests
    {server : RtspServer}
    (hpending : server.pendingRequests = σ.server.pendingRequests ++ [request]) :
    (server.table.removeRequest request.addr).requests = σ.server.table.requests := by
  have htable : server.table.requests = σ.server.table.requests ++ [request.entry] := by
    simp [RtspServer.table, hpending]
  have hremoved := congrArg Table.requests
    (Table.removeRequest_added hwf (arriving_addr harriving) 0)
  rw [Table.removeRequest, htable]
  exact hremoved

omit harriving hwf in
theorem setSession_sessions (server : RtspServer) (session : RtspServerSession) :
    (server.setSession session).table.sessions =
      replace SessionEntry.addr session.entry server.table.sessions :=
  congrArg Table.sessions (RtspServer.table_setSession server session)

omit harriving in
theorem resetTimeout_sameTable
    {session : RtspServerSession} (hsession : session ∈ σ.server.sessions) :
    SameTable (σ.server.enqueue request)
      ((σ.server.enqueue request).setSession (rtspServerSessionResetTimeout session)) where
  table := by
    apply Table.ext
    · rw [setSession_sessions, rtspServerSessionResetTimeout_entry]
      exact replace_self hwf.sessionsDistinct (RtspServer.entry_mem_sessions hsession)
    · rfl
    · rfl
  softwareName := rfl
  maxMsgSize := rfl

/-- A handler that fails before it has changed a session, but for its timer. -/
theorem failed_makes
    {server : RtspServer} (hsame : SameTable (σ.server.enqueue request) server)
    (hentry : request'.entry = request.entry) (e : Errno) (status : Int) :
    (Processed.failed e status request' server).Makes P env σ request := by
  refine ⟨?_, hsame.softwareName, hsame.maxMsgSize⟩
  intro attempt activity event hreceived hanchor hswept hattempt
  have haddr : request'.addr = request.entry.addr := congrArg RequestEntry.addr hentry
  rw [hsame.table, RtspServer.table_enqueue, haddr,
    Table.removeRequest_added hwf (arriving_addr harriving)]
  exact .refuses harriving hreceived hattempt ⟨hanchor, hswept⟩ (Nat.lt_succ_self _)

theorem answerDirectly_makes
    {server : RtspServer} (hsame : SameTable (σ.server.enqueue request) server)
    (hentry : request'.entry = request.entry)
    (hanswers : AnswersWith request'.responseHeader request.requestHeader.cseq) :
    (answerDirectly P env server request').Makes P env σ request := by
  unfold answerDirectly
  split
  next => exact failed_makes hwf harriving hsame hentry _ _
  next conn hconn =>
    split
    next => exact failed_makes hwf harriving hsame hentry _ _
    next => exact failed_makes hwf harriving hsame hentry _ _
    next message hwrite _ =>
      intro activity event hreceived hanchor hswept
      have haddr : request'.addr = request.entry.addr := congrArg RequestEntry.addr hentry
      have hconn' : request.entry.conn = some conn :=
        (congrArg RequestEntry.conn hentry).symm.trans hconn
      rw [RtspServer.table_removeRequest, hsame.table, RtspServer.table_enqueue, haddr,
        Table.removeRequest_added hwf (arriving_addr harriving)]
      apply Change.answers harriving hreceived _ ⟨hanchor, hswept⟩
      exact ⟨conn, _, message, by rw [haddr], hconn', writeResponse_numberedLine hanswers hwrite⟩

theorem rtspServerOptions_makes :
    (rtspServerOptions P env (σ.server.enqueue request) request).Makes P env σ request :=
  answerDirectly_makes hwf harriving (.refl _) rfl ⟨rfl, 200, rfl⟩

/-- The callback of a request without a session. -/
theorem asks_makes
    {callback : Callback} (hanchor : callback.anchor = some { request := request.addr }) :
    (Processed.calls ((σ.server.enqueue request).setRequest { request with inCallback := true })
      callback).Makes P env σ request := by
  intro activity event hreceived hactivity hswept
  have hchange := Change.asks (P := P) harriving hreceived (hactivity.trans hanchor) hswept
  convert hchange using 1
  apply Table.ext
  · rfl
  · exact setRequest_requests hwf harriving rfl rfl
  · rfl

theorem rtspServerDescribe_makes :
    (rtspServerDescribe (σ.server.enqueue request) request).Makes P env σ request := by
  unfold rtspServerDescribe
  split
  next => exact failed_makes hwf harriving (.refl _) rfl _ _
  next => exact asks_makes hwf harriving rfl

theorem rtspServerAnnounceReq_makes :
    (rtspServerAnnounceReq (σ.server.enqueue request) request).Makes P env σ request := by
  unfold rtspServerAnnounceReq
  split
  next => exact failed_makes hwf harriving (.refl _) rfl _ _
  next => exact asks_makes hwf harriving rfl

/-! ## Requests on a session -/

/-- The request takes hold of the session; `session'` is the session with the
medias marked that the request selects. -/
theorem startOperation_makes
    {session session' : RtspServerSession} {method : RtspMethodType} {first : Addr}
    {rest : List Addr} (hsession : session ∈ σ.server.sessions)
    (hnamed : namedBy σ.server request = some session)
    (hmethod : request.requestHeader.method = method) (hkind : SessionMethod method)
    (hmarked : session'.entry =
      { session.entry with medias := markMedias method (first :: rest) session.entry.medias })
    (hmedias : (first :: rest).Sublist (session.entry.medias.map Prod.fst))
    (hselects : method = .teardown → selectsMedia request session = true) :
    (startOperation (σ.server.enqueue request) request session' method first rest).Makes P env σ
      request := by
  intro activity event hreceived hanchor hswept
  subst hmethod
  have haddr : session'.addr = session.addr := congrArg SessionEntry.addr hmarked
  have hfresh := arriving_fresh harriving
  have hgiven : request.given = none := by
    have hreferences := hfresh.references
    unfold RtspServerPendingRequest.references at hreferences
    simpa using (List.append_eq_nil_iff.mp hreferences).2
  have hrequest : ({ request with
      inCallback := true
      target := some session'.addr
      medias := (first :: rest).map fun media => { media } } :
        RtspServerPendingRequest).entry =
      { request.entry with
        inCallback := true
        target := some session.entry.addr
        references := first :: rest } := by
    simp [RtspServerPendingRequest.entry, RtspServerPendingRequest.references, hgiven, haddr,
      Function.comp_def]
  have hsession'' : ({ rtspServerSessionResetTimeout session' with
      opInProgress := request.requestHeader.method } : RtspServerSession).entry =
      { session.entry with
        op := request.requestHeader.method
        medias := markMedias request.requestHeader.method (first :: rest)
          session.entry.medias } :=
    congrArg (fun e : SessionEntry => { e with op := request.requestHeader.method }) hmarked
  have hchange := Change.starts (P := P) harriving hreceived hkind
    (RtspServer.entry_mem_sessions hsession) (by simp [hnamed]) hmedias (by simp) ?_ hswept ?_
  · rw [← hrequest, ← hsession''] at hchange
    convert hchange using 1
    apply Table.ext
    · exact setSession_sessions σ.server _
    · exact setRequest_requests hwf harriving rfl rfl
    · rfl
  · rw [hanchor, RtspServerSession.entry_addr, ← haddr]
    rfl
  · intro hteardown named hmem
    cases hnamed.symm.trans hmem
    exact hselects hteardown

omit harriving hwf in
theorem namedSession_some
    {server : RtspServer} {sessionId : Bytes} {session : RtspServerSession}
    {media : RtspServerSessionMedia} {rest : List RtspServerSessionMedia}
    (h : namedSession server sessionId = some (session, media, rest)) :
    session ∈ server.sessions ∧ rtspServerSessionFind server sessionId = some session ∧
      session.medias = media :: rest := by
  unfold namedSession at h
  split at h
  next => simp at h
  next s hfind =>
    split at h
    next => simp at h
    next m rest' hmedias =>
      simp only [Option.some.injEq, Prod.mk.injEq] at h
      obtain ⟨rfl, rfl, rfl⟩ := h
      exact ⟨List.mem_of_find?_eq_some hfind, hfind, hmedias⟩

omit harriving hwf in
theorem markMedias_of_ne
    {method : RtspMethodType} (hmethod : method ≠ .teardown) (selected : List Addr)
    (medias : List (Addr × Bool)) : markMedias method selected medias = medias := by
  simp [markMedias, hmethod]

theorem sessionRequest_makes
    {method : RtspMethodType} (hmethod : request.requestHeader.method = method)
    (hkind : SessionMethod method) (hother : method ≠ .teardown) :
    (sessionRequest method (σ.server.enqueue request) request).Makes P env σ request := by
  unfold sessionRequest
  split
  next => exact failed_makes hwf harriving (.refl _) rfl _ _
  next sessionId hid =>
    split
    next => exact failed_makes hwf harriving (.refl _) rfl _ _
    next =>
      split
      next => exact failed_makes hwf harriving (.refl _) rfl _ _
      next session media rest hnamed =>
        obtain ⟨hsession, hfind, hmedias⟩ := namedSession_some hnamed
        have hnamed' : namedBy σ.server request = some session := by
          rw [namedBy, hid]
          exact hfind
        apply startOperation_makes hwf harriving hsession hnamed' hmethod hkind
        · rw [markMedias_of_ne hother]
        · simp [RtspServerSession.entry, hmedias, Function.comp_def]
        · exact fun hteardown => absurd hteardown hother

omit harriving in
/-- Marking by the selection is marking by the addresses selected. -/
theorem marked_entry
    {session : RtspServerSession} (hsession : session ∈ σ.server.sessions)
    (selects : RtspServerSessionMedia → Bool) :
    ({ session with
      medias := session.medias.map fun media =>
        if selects media then { media with isTearingDown := true } else media } :
          RtspServerSession).entry =
      { session.entry with
        medias := markMedias .teardown
          ((session.medias.filter selects).map RtspServerSessionMedia.addr)
          session.entry.medias } := by
  have hdistinct := hwf.mediasDistinct _ (RtspServer.entry_mem_sessions hsession)
  have hinj : ∀ m ∈ session.medias, ∀ m' ∈ session.medias, m.addr = m'.addr → m = m' := by
    intro m hm m' hm' heq
    refine List.inj_on_of_nodup_map (f := RtspServerSessionMedia.addr) ?_ hm hm' heq
    simpa [RtspServerSession.entry, Function.comp_def] using hdistinct
  simp only [RtspServerSession.entry, markMedias, List.map_map, SessionEntry.mk.injEq, true_and]
  apply List.map_congr_left
  intro m hm
  have hselected : (((session.medias.filter selects).map RtspServerSessionMedia.addr).contains
      m.addr) = selects m := by
    rw [Bool.eq_iff_iff, List.contains_iff_mem, List.mem_map]
    constructor
    · intro h
      obtain ⟨m', hm', heq⟩ := h
      obtain ⟨hmem, hselects⟩ := List.mem_filter.mp hm'
      rwa [← hinj m' hmem m hm heq]
    · intro hselects
      exact ⟨m, List.mem_filter.mpr ⟨hm, hselects⟩, rfl⟩
  simp only [Function.comp_apply, hselected]
  by_cases h : selects m = true
  · simp [h]
  · simp [h]

theorem rtspServerTeardown_makes (hmethod : request.requestHeader.method = .teardown) :
    (rtspServerTeardown (σ.server.enqueue request) request).Makes P env σ request := by
  unfold rtspServerTeardown
  split
  next => exact failed_makes hwf harriving (.refl _) rfl _ _
  next sessionId hid =>
    split
    next => exact failed_makes hwf harriving (.refl _) rfl _ _
    next path hpath =>
      split
      next => exact failed_makes hwf harriving (.refl _) rfl _ _
      next session _ _ hnamed =>
        obtain ⟨hsession, hfind, -⟩ := namedSession_some hnamed
        have hsession' : session ∈ σ.server.sessions := hsession
        have hmarked := marked_entry hwf hsession' (teardownSelects session path)
        dsimp only
        split
        next hnone =>
          refine ⟨?_, rfl, rfl⟩
          intro attempt activity event hreceived hanchor hswept hattempt
          rw [hnone] at hmarked
          have hentry := congrArg (fun e : SessionEntry => { e with op := .teardown }) hmarked
          simp only [markMedias, List.contains_nil, Bool.and_false, Bool.or_false, Prod.mk.eta,
            List.map_id'] at hentry
          have hunselected : session.medias.any (teardownSelects session path) = false := by
            rw [List.any_eq_false]
            exact List.filter_eq_nil_iff.mp (List.map_eq_nil_iff.mp hnone)
          have hnamed' : namedSession σ.server sessionId = some (session, _, _) := hnamed
          have hmismatched : mismatched env σ .resume = some session.entry.addr := by
            simp [mismatched, harriving, hmethod, hid, hpath, hnamed', hunselected]
          have hchange := Change.mismatches (P := P) harriving hreceived hattempt
            ⟨hanchor, hswept⟩ (RtspServer.entry_mem_sessions hsession') hmismatched
          rw [← hentry] at hchange
          convert hchange using 1
          apply Table.ext
          · exact setSession_sessions σ.server _
          · exact removeRequest_requests hwf harriving rfl
          · rfl
        next first rest hselected =>
          have hnamed' : namedBy σ.server request = some session := by
            rw [namedBy, hid]
            exact hfind
          apply startOperation_makes hwf harriving hsession' hnamed' hmethod
            (.inr (.inr (.inr rfl)))
          · rw [← hselected]
            exact hmarked
          · rw [← hselected]
            have hsublist := (List.filter_sublist (p := teardownSelects session path)
              (l := session.medias)).map RtspServerSessionMedia.addr
            simpa [RtspServerSession.entry, Function.comp_def] using hsublist
          · intro _
            have hmem : first ∈ (session.medias.filter (teardownSelects session path)).map
                RtspServerSessionMedia.addr := by
              rw [hselected]
              exact List.mem_cons_self
            obtain ⟨media, hmedia, -⟩ := List.mem_map.mp hmem
            obtain ⟨hmedia, hselects⟩ := List.mem_filter.mp hmedia
            unfold selectsMedia
            rw [hpath]
            exact List.any_eq_true.mpr ⟨media, hmedia, hselects⟩

theorem rtspServerGetParameter_makes :
    (rtspServerGetParameter P env (σ.server.enqueue request) request).Makes P env σ request := by
  unfold rtspServerGetParameter
  split
  next => exact failed_makes hwf harriving (.refl _) rfl _ _
  next sessionId _ =>
    split
    next => exact failed_makes hwf harriving (.refl _) rfl _ _
    next =>
      split
      next => exact failed_makes hwf harriving (.refl _) rfl _ _
      next session _ _ hnamed =>
        obtain ⟨hsession, -⟩ := namedSession_some hnamed
        exact answerDirectly_makes hwf harriving (resetTimeout_sameTable hwf hsession) rfl
          ⟨rfl, 200, rfl⟩

/-! ## SETUP -/

omit harriving hwf in
theorem rtspServerSessionAdd_some
    {ids : List UInt64} {server server' : RtspServer} {timeoutMs : UInt32} {uri : Option Bytes}
    {session : RtspServerSession}
    (h : rtspServerSessionAdd ids server timeoutMs uri = some (session, server')) :
    session.addr = server.nextAddr ∧ session.medias = [] ∧
      server' = { server with
        sessions := server.sessions ++ [session]
        nextAddr := server.nextAddr + 1 } := by
  unfold rtspServerSessionAdd at h
  simp only [Option.map_eq_some_iff, Prod.mk.injEq] at h
  obtain ⟨id64, -, rfl, rfl⟩ := h
  exact ⟨rfl, rfl, rfl⟩

omit harriving hwf in
theorem rtspServerSessionMediaAdd_some
    {server server' : RtspServer} {session session' : RtspServerSession}
    {media : RtspServerSessionMedia} {uri path : Option Bytes}
    (h : rtspServerSessionMediaAdd server session uri path = some (media, session', server')) :
    media.addr = server.nextAddr ∧ media.isTearingDown = false ∧
      session' = { session with medias := session.medias ++ [media] } ∧
      server' = { server.setSession session' with nextAddr := server.nextAddr + 1 } := by
  unfold rtspServerSessionMediaAdd at h
  split at h
  next => simp at h
  next =>
    split at h
    next => simp at h
    next =>
      simp only [Option.some.injEq, Prod.mk.injEq] at h
      obtain ⟨rfl, rfl, rfl⟩ := h
      exact ⟨rfl, rfl, rfl, rfl⟩

omit hwf in
/-- The request as its SETUP callback runs. -/
theorem setup_entry (media : RtspServerSessionMedia) (session : Addr) :
    ({ request with inCallback := true, target := some session, given := some media.addr } :
      RtspServerPendingRequest).entry =
      { request.entry with
        inCallback := true
        target := some session
        references := [media.addr] } := by
  have hfresh := (arriving_fresh harriving).references
  unfold RtspServerPendingRequest.references at hfresh
  have hmedias : request.medias = [] := by
    simpa using (List.append_eq_nil_iff.mp hfresh).1
  simp [RtspServerPendingRequest.entry, RtspServerPendingRequest.references, hmedias]

/-- The new session is removed again. -/
theorem setupNew_failed
    {session : RtspServerSession} {e : Errno} {status : Int}
    (haddr : session.addr = σ.server.nextAddr + 1) :
    (Processed.failed e status request
      (rtspServerSessionRemove { σ.server.enqueue request with
        sessions := σ.server.sessions ++ [session]
        nextAddr := σ.server.nextAddr + 2 } session.addr)).Makes P env σ request := by
  refine ⟨?_, rfl, rfl⟩
  intro attempt activity event hreceived hanchor hswept hattempt
  have hnext : σ.server.table.next < σ.server.nextAddr + 2 := by simp
  have hchange := Change.refuses harriving hreceived hattempt ⟨hanchor, hswept⟩ hnext
  convert hchange using 1
  apply Table.ext
  · have hremove : remove RtspServerSession.addr session.addr
        (σ.server.sessions ++ [session]) = σ.server.sessions := by
      apply remove_append
      intro s hs
      rw [haddr]
      exact ((hwf.sessionBelow _ (RtspServer.entry_mem_sessions hs)).trans
        (Nat.lt_succ_self _)).ne
    simp [rtspServerSessionRemove, RtspServer.table, hremove]
  · exact removeRequest_requests hwf harriving rfl
  · rfl

theorem setupNew_calls
    {session session' : RtspServerSession} {media : RtspServerSessionMedia}
    {server : RtspServer} {uri path : Option Bytes}
    (hmethod : request.requestHeader.method = .setup)
    (haddr : session.addr = σ.server.nextAddr + 1) (hempty : session.medias = [])
    (hmedia : rtspServerSessionMediaAdd { σ.server.enqueue request with
        sessions := σ.server.sessions ++ [session]
        nextAddr := σ.server.nextAddr + 2 } session uri path = some (media, session', server)) :
    (Processed.calls
      ((server.setSession
        { rtspServerSessionResetTimeout session' with opInProgress := .setup }).setRequest
        { request with
          inCallback := true
          target := some session'.addr
          given := some media.addr })
      (.setup request.addr session'.addr)).Makes P env σ request := by
  intro activity event hreceived hanchor hswept
  obtain ⟨hmaddr, hmark, rfl, rfl⟩ := rtspServerSessionMediaAdd_some hmedia
  have hmaddr' : media.addr = σ.server.table.next + 2 := hmaddr
  have haddr' : session.addr = σ.server.table.next + 1 := haddr
  have hchange := Change.opens (P := P) harriving hreceived hmethod
    (by rw [hanchor, ← haddr']; rfl) hswept
  rw [← hmaddr', ← haddr', ← setup_entry harriving media session.addr] at hchange
  convert hchange using 1
  have hnew : ∀ s ∈ σ.server.sessions, s.addr ≠ session.addr := by
    intro s hs
    rw [haddr]
    exact ((hwf.sessionBelow _ (RtspServer.entry_mem_sessions hs)).trans
      (Nat.lt_succ_self _)).ne
  apply Table.ext
  · have hfirst := replace_append RtspServerSession.addr (x := { session with
        medias := session.medias ++ [media] }) (y := session) rfl hnew
    have hsecond := replace_append RtspServerSession.addr
      (x :=
        { rtspServerSessionResetTimeout { session with medias := session.medias ++ [media] } with
          opInProgress := .setup })
      (y := { session with medias := session.medias ++ [media] }) rfl hnew
    rw [← hfirst] at hsecond
    refine (congrArg (List.map RtspServerSession.entry) hsecond).trans ?_
    simp [RtspServer.table, Table.addSession, RtspServerSession.entry,
      rtspServerSessionResetTimeout, hempty, hmark]
  · exact setRequest_requests hwf harriving rfl rfl
  · rfl

theorem setupOld_calls
    {session session' : RtspServerSession} {media : RtspServerSessionMedia}
    {server : RtspServer} {uri path : Option Bytes}
    (hmethod : request.requestHeader.method = .setup) (hsession : session ∈ σ.server.sessions)
    (hmedia : rtspServerSessionMediaAdd (σ.server.enqueue request) session uri path =
      some (media, session', server)) :
    (Processed.calls
      ((server.setSession
        { rtspServerSessionResetTimeout session' with opInProgress := .setup }).setRequest
        { request with
          inCallback := true
          target := some session'.addr
          given := some media.addr })
      (.setup request.addr session'.addr)).Makes P env σ request := by
  intro activity event hreceived hanchor hswept
  obtain ⟨hmaddr, hmark, rfl, rfl⟩ := rtspServerSessionMediaAdd_some hmedia
  have hmaddr' : media.addr = σ.server.table.next + 1 := hmaddr
  have hchange := Change.joins (P := P) harriving hreceived hmethod
    (RtspServer.entry_mem_sessions hsession) hanchor hswept
  rw [← hmaddr', RtspServerSession.entry_addr,
    ← setup_entry harriving media session.addr] at hchange
  convert hchange using 1
  apply Table.ext
  · have hentry : ({ rtspServerSessionResetTimeout
          { session with medias := session.medias ++ [media] } with
            opInProgress := .setup } : RtspServerSession).entry =
        { session.entry with
          op := .setup
          medias := session.entry.medias ++ [(media.addr, false)] } := by
      simp [RtspServerSession.entry, rtspServerSessionResetTimeout, hmark]
    have hreplace := replace_replace SessionEntry.addr
      (x := { session.entry with
        op := .setup
        medias := session.entry.medias ++ [(media.addr, false)] })
      (y := ({ session with medias := session.medias ++ [media] } : RtspServerSession).entry) rfl
      σ.server.table.sessions
    have hfirst := setSession_sessions σ.server
      { session with medias := session.medias ++ [media] }
    have hsecond := setSession_sessions
      (σ.server.setSession { session with medias := session.medias ++ [media] })
      { rtspServerSessionResetTimeout { session with medias := session.medias ++ [media] } with
        opInProgress := .setup }
    rw [hfirst, hentry, hreplace] at hsecond
    exact hsecond
  · exact setRequest_requests hwf harriving rfl rfl
  · rfl

theorem rtspServerSetup_makes
    {processed : Processed} (hmethod : request.requestHeader.method = .setup)
    (h : rtspServerSetup env (σ.server.enqueue request) request = .ok processed) :
    processed.Makes P env σ request := by
  unfold rtspServerSetup at h
  split at h
  next =>
    cases h
    exact failed_makes hwf harriving (.refl _) rfl _ _
  next =>
    split at h
    next =>
      cases h
      exact failed_makes hwf harriving (.refl _) rfl _ _
    next path _ =>
      split at h
      next =>
        cases h
        exact failed_makes hwf harriving (.refl _) rfl _ _
      next contentBase _ _ =>
        unfold setupSession at h
        cases hid : request.requestHeader.sessionId with
        | none =>
            simp only [hid] at h
            cases hadd : rtspServerSessionAdd env.ids (σ.server.enqueue request)
              (σ.server.enqueue request).sessionTimeoutMs (some contentBase) with
            | none => simp [hadd] at h
            | some added =>
                obtain ⟨session, server⟩ := added
                obtain ⟨haddr, hempty, rfl⟩ := rtspServerSessionAdd_some hadd
                simp only [hadd] at h
                split at h
                next =>
                  simp only [Option.isNone_none, if_true, Except.ok.injEq] at h
                  subst h
                  exact setupNew_failed hwf harriving haddr
                next media session' server' hmedia =>
                  cases h
                  exact setupNew_calls hwf harriving hmethod haddr hempty hmedia
        | some sessionId =>
            simp only [hid] at h
            cases hfind : rtspServerSessionFind (σ.server.enqueue request) sessionId with
            | none =>
                simp only [hfind, Option.map_none, Except.ok.injEq] at h
                subst h
                exact failed_makes hwf harriving (.refl _) rfl _ _
            | some session =>
                simp only [hfind, Option.map_some] at h
                have hsession : session ∈ σ.server.sessions := List.mem_of_find?_eq_some hfind
                split at h
                next =>
                  simp only [Option.isNone_some, Bool.false_eq_true, if_false,
                    Except.ok.injEq] at h
                  subst h
                  exact failed_makes hwf harriving (.refl _) rfl _ _
                next media session' server' hmedia =>
                  cases h
                  exact setupOld_calls hwf harriving hmethod hsession hmedia

/-! ## Every method -/

theorem handleRequest_makes
    {processed : Processed}
    (h : handleRequest P env (σ.server.enqueue request) request = .ok processed) :
    processed.Makes P env σ request := by
  have hstays : (Processed.returns (σ.server.enqueue request) []).Makes P env σ request := by
    intro activity event hreceived hanchor hswept
    rw [RtspServer.table_enqueue]
    exact .admits harriving hreceived ⟨hanchor, hswept⟩
  unfold handleRequest at h
  split at h
  case h_5 hmethod => exact rtspServerSetup_makes hwf harriving hmethod h
  all_goals simp only [Except.ok.injEq] at h; subst h
  case h_1 => exact hstays
  case h_2 => exact rtspServerOptions_makes hwf harriving
  case h_3 => exact rtspServerDescribe_makes hwf harriving
  case h_4 => exact rtspServerAnnounceReq_makes hwf harriving
  case h_6 hmethod =>
    exact sessionRequest_makes hwf harriving hmethod (.inl rfl) (by decide)
  case h_7 hmethod =>
    exact sessionRequest_makes hwf harriving hmethod (.inr (.inl rfl)) (by decide)
  case h_8 hmethod => exact rtspServerTeardown_makes hwf harriving hmethod
  case h_9 => exact rtspServerGetParameter_makes hwf harriving
  case h_10 => exact hstays
  case h_11 => exact hstays
  case h_12 hmethod =>
    exact sessionRequest_makes hwf harriving hmethod (.inr (.inr (.inl rfl))) (by decide)

omit hwf harriving in
/-- The message of a request, from its arrival to its callback or its answer. -/
theorem rtspServerRequestProcess_changes
    (hwf : σ.server.table.WellFormed) {conn : Conn} {messages : List Delivery}
    {header : RtspRequestHeader} {body : Bytes} (hforced : σ.forced = [])
    (hactivity : σ.activity = .receiving conn (.text (.request header) body :: messages))
    {server : RtspServer} {events : List ServerEvent} {callback : Option Callback}
    (h : rtspServerRequestProcess P env σ.server conn header body =
      .ok (server, events, callback)) (activity : Activity)
    (hanchor : activity.anchor = callback.bind Callback.anchor) (hswept : activity.swept = none) :
    Change P env σ .resume server.table activity events := by
  have hreceived : ∀ request, arriving env σ .resume = some request →
      IsReceived request (.received conn request.addr header body) := by
    intro request harriving
    simp only [arriving, hforced, hactivity, Option.some.injEq] at harriving
    subst harriving
    exact ⟨conn, rfl, rfl⟩
  have hrequest : arriving env σ .resume = some (rtspServerPendingRequestAdd env.now σ.server conn
      σ.server.replyTimeoutMs header body).1 := by
    simp [arriving, hforced, hactivity]
  have henqueue : (rtspServerPendingRequestAdd env.now σ.server conn
      σ.server.replyTimeoutMs header body).2 = σ.server.enqueue
        (rtspServerPendingRequestAdd env.now σ.server conn σ.server.replyTimeoutMs header
          body).1 := rfl
  unfold rtspServerRequestProcess at h
  dsimp only at h
  rw [henqueue] at h
  generalize (rtspServerPendingRequestAdd env.now σ.server conn σ.server.replyTimeoutMs header
    body).1 = request at h hrequest henqueue
  cases hhandle : handleRequest P env (σ.server.enqueue request) request with
  | error halt => simp [hhandle] at h
  | ok processed =>
      have hmakes := handleRequest_makes hwf hrequest hhandle
      simp only [hhandle, except_ok_bind] at h
      cases processed with
      | failed e status request' server' =>
          simp only [Except.ok.injEq, Prod.mk.injEq] at h
          obtain ⟨rfl, rfl, rfl⟩ := h
          obtain ⟨hchange, hname, hsize⟩ := hmakes
          have hnonzero : (if statusIsFailure status then status else e.ret) ≠ 0 := by
            by_cases hfailure : statusIsFailure status = true
            · rw [if_pos hfailure]
              exact statusIsFailure_zero (.inr hfailure)
            · rw [if_neg hfailure]
              exact (Errno.ret_neg e).ne
          have hsent := hchange _ activity _ (hreceived request hrequest) hanchor hswept
            (.failed hrequest hhandle)
          simp only [outcome, answerError, if_neg hnonzero, List.nil_append] at hsent
          rw [RtspServer.table_removeRequest, errorResponse_congr hname hsize]
          exact hsent
      | returns server' events' =>
          simp only [Except.ok.injEq, Prod.mk.injEq] at h
          obtain ⟨rfl, rfl, rfl⟩ := h
          exact hmakes activity _ (hreceived request hrequest) hanchor hswept
      | calls server' callback' =>
          simp only [Except.ok.injEq, Prod.mk.injEq] at h
          obtain ⟨rfl, rfl, rfl⟩ := h
          exact hmakes activity _ (hreceived request hrequest) hanchor hswept

end Handlers

end Librtsp
