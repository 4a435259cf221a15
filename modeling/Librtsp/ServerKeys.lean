import Librtsp.ServerConsistency

/-!
# The ids of the server's sessions

A session keeps its id for as long as it is in the list, and a new session gets an id that
the server does not find among the others.
-/

namespace Librtsp

open CString RecordList

/-- The sessions with their ids. -/
def RtspServer.keys (server : RtspServer) : List (Addr × Bytes) :=
  server.sessions.map fun session => (session.addr, session.sessionId)

def RtspServerSession.key (session : RtspServerSession) : Addr × Bytes :=
  (session.addr, session.sessionId)

namespace RtspServer

variable {server server' : RtspServer} {session session' : RtspServerSession}

/-- The addresses of the sessions are distinct. -/
def KeysDistinct (server : RtspServer) : Prop :=
  (server.keys.map Prod.fst).Nodup

theorem keysDistinct_of_wellFormed (hwf : server.table.WellFormed) : server.KeysDistinct := by
  unfold KeysDistinct keys
  rw [List.map_map]
  exact session_keys_nodup hwf

theorem KeysDistinct.of_sublist (hold : server.KeysDistinct)
    (hkeys : server'.keys.Sublist server.keys) : server'.KeysDistinct :=
  hold.sublist (hkeys.map Prod.fst)

theorem key_mem (hmem : session ∈ server.sessions) : session.key ∈ server.keys :=
  List.mem_map_of_mem hmem

theorem key_mem_of_find {a : Addr} (h : server.findSession a = some session) :
    session.key ∈ server.keys :=
  key_mem (findSession_some h).1

/-- A session is replaced by itself. -/
theorem setSession_keys (hdistinct : server.KeysDistinct) (hmem : session.key ∈ server.keys)
    (hkey : session'.key = session.key) : (server.setSession session').keys = server.keys := by
  have hmap : (server.setSession session').keys =
      replace Prod.fst session'.key server.keys :=
    @map_replace _ _ _ _ RtspServerSession.addr Prod.fst RtspServerSession.key (fun _ => rfl)
      session' server.sessions
  rw [hmap, hkey]
  exact replace_self hdistinct hmem

theorem removeSession_keys (server : RtspServer) (a : Addr) :
    (rtspServerSessionRemove server a).keys.Sublist server.keys :=
  List.filter_sublist.map _

theorem removeTornDown_keys (hdistinct : server.KeysDistinct) (a : Addr) :
    (removeTornDown a server).keys.Sublist server.keys := by
  unfold removeTornDown
  split
  next => exact List.Sublist.refl _
  next session hfind =>
    split
    next => exact removeSession_keys server a
    next =>
      have hkept : RtspServerSession.key
          { session with medias := session.medias.filter (!·.isTearingDown) } = session.key := rfl
      rw [setSession_keys hdistinct (key_mem_of_find hfind) hkept]

end RtspServer

section Replies

variable {P : Platform} {env : Env} {server : RtspServer} {session : RtspServerSession}
  {request : RtspServerPendingRequest}

theorem concludeRequest_keys : (concludeRequest server request).keys = server.keys := by
  unfold concludeRequest
  split
  next => rfl
  next => rfl

theorem replyToDescribe_keys (a : Addr) (status : Int) (ext : List RtspHeaderExt)
    (sessionDescription : Option Bytes) :
    (rtspServerReplyToDescribe P env server a status ext sessionDescription).2.1.keys =
      server.keys := by
  unfold rtspServerReplyToDescribe
  split
  next => rfl
  next => exact concludeRequest_keys

theorem replyToAnnounce_keys (a : Addr) (status : Int) (ext : List RtspHeaderExt) :
    (rtspServerReplyToAnnounce P env server a status ext).2.1.keys = server.keys := by
  unfold rtspServerReplyToAnnounce
  split
  next => rfl
  next => exact concludeRequest_keys

theorem concludeOperation_keys (hdistinct : server.KeysDistinct)
    (hmem : session.key ∈ server.keys) :
    (concludeOperation server session request).keys = server.keys := by
  unfold concludeOperation
  split
  next => exact RtspServer.setSession_keys hdistinct hmem rfl
  next => exact RtspServer.setSession_keys hdistinct hmem rfl

theorem replyToSetup_keys (hdistinct : server.KeysDistinct) {a media : Addr}
    {reply : SetupReply} {result : Reply}
    (h : rtspServerReplyToSetup P env server a media reply = .ok result) :
    result.2.1.keys = server.keys := by
  unfold rtspServerReplyToSetup at h
  split at h
  next => cases h
  next session hsession =>
    have hmem := RtspServer.key_mem (RtspServer.mediaSession_some hsession).1
    split at h
    next =>
      cases h
      rfl
    next =>
      cases h
      have hidle : ∀ (due : Prop) [Decidable due],
          (if due then { server with removeIdle := server.removeIdle ++ [session.addr] }
            else server).keys = server.keys := by
        intro due _
        split
        next => rfl
        next => rfl
      refine (concludeOperation_keys ?_ ?_).trans (hidle _)
      · unfold RtspServer.KeysDistinct
        rw [hidle]
        exact hdistinct
      · rw [hidle]
        exact hmem

theorem concludeMedia_keys (hdistinct : server.KeysDistinct) (K : MediaReplyKind)
    (hmem : session.key ∈ server.keys) :
    (concludeMedia server K session request).keys.Sublist server.keys := by
  have hsame := @concludeOperation_keys server session request hdistinct hmem
  unfold concludeMedia
  split
  next =>
    rw [← hsame]
    apply RtspServer.removeTornDown_keys
    unfold RtspServer.KeysDistinct
    rwa [hsame]
  next => rw [hsame]

/-- The session keeps its id when all its medias have been replied to. -/
def MediaReplyKind.KeepsKey (K : MediaReplyKind) : Prop :=
  ∀ session, (K.completed session).key = session.key

theorem settled_key (K : MediaReplyKind) (session : RtspServerSession)
    (request : RtspServerPendingRequest) (media : Addr) (reply : MediaReply) :
    (settled K session request media reply).1.key = session.key := by
  unfold settled settleRange
  split
  next => rfl
  next =>
    split
    next => rfl
    next => rfl

theorem replyAttempt_key {K : MediaReplyKind} (hK : K.KeepsKey) {media : Addr}
    {reply : MediaReply} {session' : RtspServerSession} {attempt : Attempt}
    (h : replyAttempt P env server K session request media reply = some (session', attempt)) :
    session'.key = session.key := by
  have hkey := settled_key K session request media reply
  unfold replyAttempt at h
  dsimp only at h
  split at h
  next =>
    cases h
    exact hkey
  next => cases h
  next =>
    split at h
    next =>
      cases h
      exact (hK _).trans hkey
    next => cases h

theorem replyToMedia_keys {K : MediaReplyKind} (hK : K.KeepsKey)
    (hdistinct : server.KeysDistinct) {a media : Addr} {reply : MediaReply} {result : Reply}
    (h : replyToMedia P env server K a media reply = .ok result) :
    result.2.1.keys.Sublist server.keys := by
  unfold replyToMedia at h
  split at h
  next => cases h
  next session hsession =>
    have hmem := RtspServer.key_mem (RtspServer.mediaSession_some hsession).1
    split at h
    next =>
      rw [lookupFailed_eq] at h
      split at h
      next => cases h
      next =>
        cases h
        exact List.Sublist.refl _
    next request _ =>
      split at h
      next session' attempt hattempt =>
        cases h
        exact concludeMedia_keys hdistinct K (replyAttempt_key hK hattempt ▸ hmem)
      next =>
        cases h
        change (server.setSession _).keys.Sublist _
        rw [RtspServer.setSession_keys hdistinct hmem (settled_key K session request media reply)]

end Replies

/-! ## Requests that arrive -/

theorem rtspServerSessionAdd_new {ids : List UInt64} {server server' : RtspServer}
    {timeoutMs : UInt32} {uri : Option Bytes} {session : RtspServerSession}
    (h : rtspServerSessionAdd ids server timeoutMs uri = some (session, server')) :
    rtspServerSessionFind server session.sessionId = none := by
  unfold rtspServerSessionAdd at h
  obtain ⟨id64, hid, heq⟩ := Option.map_eq_some_iff.mp h
  cases heq
  have hnone : rtspServerSessionFind server (formatSessionId id64) = none := by
    simpa using List.find?_some hid
  exact hnone

/-- No session is added but one whose id the server did not find. -/
inductive KeysChange (server server' : RtspServer) : Prop where
  | fewer (h : server'.keys.Sublist server.keys)
  | added (session : RtspServerSession)
      (hnew : rtspServerSessionFind server session.sessionId = none)
      (h : server'.keys = server.keys ++ [session.key])

theorem KeysChange.same {server server' : RtspServer} (h : server'.keys = server.keys) :
    KeysChange server server' :=
  .fewer (by rw [h])

/-- Only the sessions count. -/
theorem KeysChange.congr {a a' b b' : RtspServer} (h : KeysChange a b)
    (hbefore : a'.sessions = a.sessions) (hafter : b'.sessions = b.sessions) :
    KeysChange a' b' := by
  cases h with
  | fewer h =>
      apply KeysChange.fewer
      unfold RtspServer.keys at h ⊢
      rwa [hbefore, hafter]
  | added session hnew h =>
      apply KeysChange.added session
      · unfold rtspServerSessionFind at hnew ⊢
        rwa [hbefore]
      · unfold RtspServer.keys at h ⊢
        rwa [hbefore, hafter]

def Processed.server : Processed → RtspServer
  | .failed _ _ _ server => server
  | .returns server _ => server
  | .calls server _ => server

section Handlers

variable {P : Platform} {env : Env} {server : RtspServer} {request : RtspServerPendingRequest}

theorem answerDirectly_keys : (answerDirectly P env server request).server.keys = server.keys := by
  unfold answerDirectly
  split
  next => rfl
  next =>
    split
    next => rfl
    next => rfl
    next => rfl

theorem startOperation_keys (hdistinct : server.KeysDistinct) {session : RtspServerSession}
    (hmem : session.key ∈ server.keys) (method : RtspMethodType) (first : Addr)
    (rest : List Addr) :
    (startOperation server request session method first rest).server.keys = server.keys :=
  RtspServer.setSession_keys hdistinct hmem rfl

theorem sessionRequest_keys (hdistinct : server.KeysDistinct) (method : RtspMethodType) :
    (sessionRequest method server request).server.keys = server.keys := by
  unfold sessionRequest
  split
  next => rfl
  next =>
    split
    next => rfl
    next =>
      split
      next => rfl
      next session media rest hnamed =>
        exact startOperation_keys hdistinct (RtspServer.key_mem (namedSession_some hnamed).1) _ _ _

theorem rtspServerTeardown_keys (hdistinct : server.KeysDistinct) :
    (rtspServerTeardown server request).server.keys = server.keys := by
  unfold rtspServerTeardown
  split
  next => rfl
  next =>
    split
    next => rfl
    next =>
      split
      next => rfl
      next session _ _ hnamed =>
        have hmem := RtspServer.key_mem (namedSession_some hnamed).1
        dsimp only
        split
        next => exact RtspServer.setSession_keys hdistinct hmem rfl
        next =>
          refine startOperation_keys hdistinct ?_ _ _ _
          exact hmem

/-- The session of a SETUP request gets its media and becomes busy. -/
theorem setupCalls_keys (hdistinct : server.KeysDistinct) {session x y : RtspServerSession}
    (hmem : session.key ∈ server.keys) {server' : RtspServer}
    (hsessions : server'.sessions =
      replace RtspServerSession.addr x (replace RtspServerSession.addr y server.sessions))
    (hx : x.key = session.key) (hy : y.key = session.key) : server'.keys = server.keys := by
  have hreplace : ∀ (z : RtspServerSession) (sessions : List RtspServerSession),
      (replace RtspServerSession.addr z sessions).map RtspServerSession.key =
        replace Prod.fst z.key (sessions.map RtspServerSession.key) :=
    @map_replace _ _ _ _ RtspServerSession.addr Prod.fst RtspServerSession.key fun _ => rfl
  change server'.sessions.map RtspServerSession.key = _
  rw [hsessions, hreplace, hreplace, hx, hy]
  have hself : replace Prod.fst session.key server.keys = server.keys :=
    replace_self hdistinct hmem
  change replace Prod.fst session.key (replace Prod.fst session.key server.keys) = server.keys
  rw [hself, hself]

theorem rtspServerSetup_keys (hdistinct : server.KeysDistinct)
    (hbounded : ∀ s ∈ server.sessions, s.addr < server.nextAddr) {processed : Processed}
    (h : rtspServerSetup env server request = .ok processed) :
    KeysChange server processed.server := by
  unfold rtspServerSetup at h
  split at h
  next =>
    cases h
    exact .same rfl
  next =>
    split at h
    next =>
      cases h
      exact .same rfl
    next path _ =>
      split at h
      next =>
        cases h
        exact .same rfl
      next contentBase _ _ =>
        unfold setupSession at h
        cases hid : request.requestHeader.sessionId with
        | none =>
            simp only [hid] at h
            cases hadd : rtspServerSessionAdd env.ids server server.sessionTimeoutMs
              (some contentBase) with
            | none => simp [hadd] at h
            | some added =>
                obtain ⟨session, server'⟩ := added
                have hnew := rtspServerSessionAdd_new hadd
                obtain ⟨haddr, -, rfl⟩ := rtspServerSessionAdd_some hadd
                have hbelow : ∀ s ∈ server.sessions, s.addr ≠ session.addr := by
                  intro s hs
                  rw [haddr]
                  exact (hbounded s hs).ne
                simp only [hadd] at h
                split at h
                next =>
                  simp only [Option.isNone_none, if_true, Except.ok.injEq] at h
                  subst h
                  exact .same (congrArg (List.map RtspServerSession.key) (remove_append hbelow))
                next media session' server' hmedia =>
                  cases h
                  obtain ⟨-, -, rfl, rfl⟩ := rtspServerSessionMediaAdd_some hmedia
                  refine .added session hnew ?_
                  refine Eq.trans
                    (@setupCalls_keys { server with sessions := server.sessions ++ [session] }
                      ?_ session _ _ ?_ _ rfl rfl rfl) ?_
                  · unfold RtspServer.KeysDistinct RtspServer.keys at hdistinct ⊢
                    rw [List.map_map] at hdistinct ⊢
                    exact nodup_append hdistinct hbelow
                  · exact RtspServer.key_mem (List.mem_append_right _ List.mem_cons_self)
                  · exact List.map_append
        | some sessionId =>
            simp only [hid] at h
            cases hfind : rtspServerSessionFind server sessionId with
            | none =>
                simp only [hfind, Option.map_none, Except.ok.injEq] at h
                subst h
                exact .same rfl
            | some session =>
                simp only [hfind, Option.map_some] at h
                have hmem := RtspServer.key_mem (List.mem_of_find?_eq_some hfind)
                split at h
                next =>
                  simp only [Option.isNone_some, Bool.false_eq_true, if_false,
                    Except.ok.injEq] at h
                  subst h
                  exact .same rfl
                next media session' server' hmedia =>
                  cases h
                  obtain ⟨-, -, rfl, rfl⟩ := rtspServerSessionMediaAdd_some hmedia
                  exact .same (setupCalls_keys hdistinct hmem rfl rfl rfl)

theorem handleRequest_keys (hdistinct : server.KeysDistinct)
    (hbounded : ∀ s ∈ server.sessions, s.addr < server.nextAddr) {processed : Processed}
    (h : handleRequest P env server request = .ok processed) :
    KeysChange server processed.server := by
  unfold handleRequest at h
  split at h
  case h_5 => exact rtspServerSetup_keys hdistinct hbounded h
  all_goals
    cases h
    apply KeysChange.same
  case h_2 => exact answerDirectly_keys
  case h_3 =>
    unfold rtspServerDescribe
    split
    next => rfl
    next => rfl
  case h_4 =>
    unfold rtspServerAnnounceReq
    split
    next => rfl
    next => rfl
  case h_6 => exact sessionRequest_keys hdistinct _
  case h_7 => exact sessionRequest_keys hdistinct _
  case h_8 => exact rtspServerTeardown_keys hdistinct
  case h_9 =>
    unfold rtspServerGetParameter
    split
    next => rfl
    next =>
      split
      next => rfl
      next =>
        split
        next => rfl
        next session _ _ hnamed =>
          have hmem := RtspServer.key_mem (namedSession_some hnamed).1
          exact answerDirectly_keys.trans (RtspServer.setSession_keys hdistinct hmem rfl)
  case h_12 => exact sessionRequest_keys hdistinct _
  all_goals rfl

theorem rtspServerRequestProcess_keys (hdistinct : server.KeysDistinct)
    (hbounded : ∀ s ∈ server.sessions, s.addr < server.nextAddr) {conn : Conn}
    {header : RtspRequestHeader} {body : Bytes}
    {result : RtspServer × List ServerEvent × Option Callback}
    (h : rtspServerRequestProcess P env server conn header body = .ok result) :
    KeysChange server result.1 := by
  unfold rtspServerRequestProcess at h
  obtain ⟨processed, hprocessed, hend⟩ := except_bind_ok.mp h
  have hadded := handleRequest_keys (by exact hdistinct)
    (by exact fun s hs => (hbounded s hs).trans (Nat.lt_succ_self _)) hprocessed
  have hchange : KeysChange server processed.server := hadded.congr rfl rfl
  cases processed with
  | failed e status request server' =>
      cases hend
      exact hchange.congr rfl rfl
  | returns server' events =>
      cases hend
      exact hchange
  | calls server' callback =>
      cases hend
      exact hchange

end Handlers

/-! ## Callbacks and timers -/

section Steps

variable {P : Platform} {env : Env} {server : RtspServer} {σ σ' : ServerState}

theorem finishRequest_keys {request : Addr} {server' : RtspServer}
    {replied : RtspServerPendingRequest → Except Halt RtspServer}
    {waiting : RtspServerPendingRequest → RtspServer}
    (hreplied : ∀ r x, replied r = .ok x → x.keys.Sublist server.keys)
    (hwaiting : ∀ r, (waiting r).keys = server.keys)
    (h : finishRequest server request replied waiting = .ok server') :
    server'.keys.Sublist server.keys := by
  unfold finishRequest at h
  split at h
  next => cases h
  next r _ =>
    split at h
    next => exact hreplied r server' h
    next =>
      cases h
      rw [hwaiting r]

theorem finishOperation_keys (hdistinct : server.KeysDistinct) {request session : Addr}
    {server' : RtspServer} (h : finishOperation server request session = .ok server') :
    server'.keys = server.keys := by
  unfold finishOperation at h
  split at h
  next => cases h
  next s hfind =>
    cases h
    exact RtspServer.setSession_keys hdistinct (RtspServer.key_mem_of_find hfind) rfl

theorem mediaCallback_keys (hdistinct : server.KeysDistinct) {method : RtspMethodType}
    {request media : Addr} {result : RtspServer × List ServerEvent}
    (h : mediaCallback P env server method request media = .ok result) :
    result.1.keys.Sublist server.keys := by
  unfold mediaCallback at h
  split at h
  next =>
    split at h
    next => cases h
    next =>
      obtain ⟨reply, hreply, rfl⟩ := except_map_ok.mp h
      exact replyToMedia_keys (fun _ => rfl) hdistinct hreply
  next =>
    cases h
    exact List.Sublist.refl _

theorem returnFromCallback_keys (hdistinct : server.KeysDistinct) {callback : Callback}
    {result : RtspServer × List ServerEvent × Option Callback}
    (h : returnFromCallback P env server callback = .ok result) :
    result.1.keys.Sublist server.keys := by
  unfold returnFromCallback at h
  split at h
  next =>
    cases h
    exact List.Sublist.refl _
  next =>
    obtain ⟨server', hfinish, hend⟩ := except_bind_ok.mp h
    cases hend
    apply finishRequest_keys _ _ hfinish
    · intro r x hx
      cases hx
      exact List.Sublist.refl _
    · exact fun _ => rfl
  next request =>
    dsimp only at h
    obtain ⟨server', hfinish, hend⟩ := except_bind_ok.mp h
    cases hend
    have hown : ∀ (b : Bool), (if b then (server, []) else
        (rtspServerReplyToAnnounce P env server request Errno.enosys.ret []).2).1.keys =
          server.keys := by
      intro b
      cases b with
      | true => rfl
      | false => exact replyToAnnounce_keys _ _ _
    rw [← hown server.cbs.announce]
    apply finishRequest_keys _ _ hfinish
    · intro r x hx
      cases hx
      exact List.Sublist.refl _
    · exact fun _ => rfl
  next request session =>
    obtain ⟨server', hfinish, hend⟩ := except_bind_ok.mp h
    cases hend
    apply finishRequest_keys _ _ hfinish
    · intro r x hx
      rw [finishOperation_keys hdistinct hx]
    · exact fun _ => rfl
  next method request session current rest =>
    obtain ⟨result', hcallback, hend⟩ := except_bind_ok.mp h
    have hfirst := mediaCallback_keys hdistinct hcallback
    have hdistinct' := hdistinct.of_sublist hfirst
    dsimp only at hend
    split at hend
    next =>
      split at hend
      next => cases hend
      next =>
        cases hend
        exact hfirst
    next =>
      obtain ⟨server', hfinish, hend⟩ := except_bind_ok.mp hend
      cases hend
      refine List.Sublist.trans ?_ hfirst
      apply finishRequest_keys _ _ hfinish
      · intro r x hx
        obtain ⟨y, hy, hend⟩ := except_bind_ok.mp hx
        have hsame := finishOperation_keys hdistinct' hy
        cases hend
        split
        next =>
          rw [← hsame]
          apply RtspServer.removeTornDown_keys
          unfold RtspServer.KeysDistinct
          rwa [hsame]
        next => rw [hsame]
      · exact fun _ => rfl

theorem sweepFrom_keys (now : UInt64) (requests : List RtspServerPendingRequest) :
    (sweepFrom P env server now requests).1.keys = server.keys := by
  induction requests with
  | nil => rfl
  | cons request rest ih =>
      unfold sweepFrom
      split
      next => rfl
      next => exact ih

theorem resumeSweep_keys {now : UInt64} {a : Addr} {next : Option Addr}
    {result : RtspServer × List ServerEvent × Activity}
    (h : resumeSweep P env server now a next = .ok result) : result.1.keys = server.keys := by
  unfold resumeSweep at h
  dsimp only at h
  split at h
  next =>
    cases h
    rfl
  next =>
    split at h
    next => cases h
    next =>
      cases h
      exact sweepFrom_keys _ _

theorem expireMedias_keys (session : Addr) (medias : List RtspServerSessionMedia) :
    (expireMedias server session medias).1.keys.Sublist server.keys := by
  unfold expireMedias
  split
  next => exact RtspServer.removeSession_keys server session
  next => exact List.Sublist.refl _

theorem rtspServerSendTeardown_keys (uri : Option Bytes) (sessionId : Bytes)
    (ext : List RtspHeaderExt) :
    (rtspServerSendTeardown P server uri sessionId ext).1.sessions = server.sessions := by
  unfold rtspServerSendTeardown
  split
  next => rfl
  next =>
    dsimp only
    split
    next => rfl
    next => rfl

theorem mediaRemove_keys (hdistinct : server.KeysDistinct) {session : RtspServerSession}
    (hmem : session.key ∈ server.keys) (media : Addr) {server' : RtspServer}
    (hkeys : server'.keys = server.keys) :
    (rtspServerSessionMediaRemove server' session media).keys = server.keys := by
  have hdistinct' : server'.KeysDistinct := hdistinct.of_sublist (by rw [hkeys])
  have hmem' : session.key ∈ server'.keys := hkeys ▸ hmem
  refine Eq.trans (RtspServer.setSession_keys hdistinct' hmem' ?_) hkeys
  rfl

theorem finishForced_keys (hdistinct : server.KeysDistinct) {session : RtspServerSession}
    (hmem : session.key ∈ server.keys) (target : Option Addr) (ext : List RtspHeaderExt) :
    (finishForced P server session target ext).1.keys.Sublist server.keys := by
  unfold finishForced
  split
  next =>
    dsimp only
    refine (RtspServer.removeSession_keys _ _).trans ?_
    unfold RtspServer.keys
    rw [rtspServerSendTeardown_keys]
  next =>
    dsimp only
    have hkeys : ∀ uri, (rtspServerSendTeardown P server uri session.sessionId ext).1.keys =
        server.keys := fun uri =>
      congrArg (List.map RtspServerSession.key) (rtspServerSendTeardown_keys uri _ ext)
    rw [mediaRemove_keys hdistinct hmem _ (hkeys _)]

theorem forceTeardown_keys (hdistinct : server.KeysDistinct) (sessionId : Bytes)
    (path : Option Bytes) (ext : List RtspHeaderExt) :
    (rtspServerForceTeardown P server sessionId path ext).1.keys.Sublist server.keys := by
  unfold rtspServerForceTeardown
  split
  next => exact List.Sublist.refl _
  next session hfind =>
    have hmem := RtspServer.key_mem (List.mem_of_find?_eq_some hfind)
    dsimp only
    split
    next => exact List.Sublist.refl _
    next =>
      split
      next => exact List.Sublist.refl _
      next =>
        split
        next => exact List.Sublist.refl _
        next => exact finishForced_keys hdistinct hmem _ _

theorem resumeForced_keys (hdistinct : server.KeysDistinct) {call : ForcedTeardown}
    {result : RtspServer × List ServerEvent × Option ForcedTeardown}
    (h : resumeForced P server call = .ok result) : result.1.keys.Sublist server.keys := by
  unfold resumeForced at h
  obtain ⟨rest, -, h⟩ := except_bind_ok.mp h
  split at h
  next =>
    cases h
    exact List.Sublist.refl _
  next =>
    split at h
    next => cases h
    next session hfind =>
      cases h
      exact finishForced_keys hdistinct (RtspServer.key_mem_of_find hfind) _ _

theorem callStep_keys (hdistinct : σ.server.KeysDistinct) {call : ApiCall}
    (h : callStep P env σ call = .ok σ') : σ'.server.keys.Sublist σ.server.keys := by
  unfold callStep at h
  cases call with
  | replyToDescribe a status ext sessionDescription =>
      cases h
      exact by rw [ServerState.replied, replyToDescribe_keys]
  | replyToAnnounce a status ext =>
      cases h
      exact by rw [ServerState.replied, replyToAnnounce_keys]
  | replyToSetup a media reply =>
      obtain ⟨result, hresult, rfl⟩ := except_map_ok.mp h
      exact by rw [ServerState.replied, replyToSetup_keys hdistinct hresult]
  | replyToPlay | replyToPause | replyToRecord | replyToTeardown =>
      obtain ⟨result, hresult, rfl⟩ := except_map_ok.mp h
      exact replyToMedia_keys (fun _ => rfl) hdistinct hresult
  | forceTeardown sessionId path ext =>
      cases h
      exact forceTeardown_keys hdistinct sessionId path ext

theorem resumeStep_keys (hdistinct : σ.server.KeysDistinct)
    (hbounded : ∀ s ∈ σ.server.sessions, s.addr < σ.server.nextAddr)
    (h : resumeStep P env σ = .ok σ') : KeysChange σ.server σ'.server := by
  unfold resumeStep at h
  split at h
  next =>
    obtain ⟨result, hresult, hend⟩ := except_bind_ok.mp h
    cases hend
    exact .fewer (resumeForced_keys hdistinct hresult)
  next =>
    split at h
    next => cases h
    next =>
      cases h
      exact .same rfl
    next message _ _ =>
      unfold processMessage at h
      split at h
      next =>
        obtain ⟨result, hresult, hend⟩ := except_bind_ok.mp h
        cases hend
        exact rtspServerRequestProcess_keys hdistinct hbounded hresult
      next =>
        cases h
        exact .same rfl
      next =>
        cases h
        exact .same rfl
    next =>
      obtain ⟨result, hresult, hend⟩ := except_bind_ok.mp h
      cases hend
      exact .fewer (returnFromCallback_keys hdistinct hresult)
    next =>
      obtain ⟨result, hresult, hend⟩ := except_bind_ok.mp h
      cases hend
      exact .same (resumeSweep_keys hresult)
    next =>
      obtain ⟨rest, -, hend⟩ := except_bind_ok.mp h
      cases hend
      exact .fewer (expireMedias_keys _ _)

/-- What a step does to the ids. -/
theorem serverStep_keys (hwf : σ.server.table.WellFormed) {input : ServerInput}
    (h : serverStep P env σ input = .ok σ') : KeysChange σ.server σ'.server := by
  have hdistinct := RtspServer.keysDistinct_of_wellFormed hwf
  have hbounded : ∀ s ∈ σ.server.sessions, s.addr < σ.server.nextAddr :=
    fun s hs => hwf.sessionBelow _ (RtspServer.entry_mem_sessions hs)
  unfold serverStep at h
  split at h
  next =>
    split at h
    next =>
      cases h
      exact .same rfl
    next => cases h
  next =>
    split at h
    next =>
      cases h
      exact .same rfl
    next => cases h
  next =>
    split at h
    next =>
      cases h
      exact .same (sweepFrom_keys _ _)
    next => cases h
  next =>
    split at h
    next =>
      cases h
      exact .fewer (expireMedias_keys _ _)
    next => cases h
  next =>
    split at h
    next =>
      split at h
      next => cases h
      next =>
        cases h
        exact .fewer (RtspServer.removeSession_keys _ _)
    next => cases h
  next =>
    split at h
    next => exact .fewer (callStep_keys hdistinct h)
    next => cases h
  next => exact resumeStep_keys hdistinct hbounded h

end Steps

end Librtsp
