import Librtsp.SessionIds

/-!
# The counters and back pointers of the server's lists

`rtsp_server_session.c` and `rtsp_server_request.c` once more, with the fields the
lists of `ServerStore` do without: the number kept beside each list, the session
pointer of a media, and the address of a pending request's media.  `calloc` returns an
address that no live object has, or `NULL`.  The copies of texts are made.

After every sequence of calls the store is consistent, the numbers being those of an
`unsigned int`, and a call that fails leaves it as it was.  Without the additional fields
the functions are those of `ServerStore`.
-/

namespace Librtsp.Counted

open CString RecordList

/-! ## The records -/

structure RtspServerSessionMedia where
  addr : Addr
  session : Addr
  uri : Bytes
  path : Bytes
  deriving DecidableEq, Repr

structure RtspServerSession where
  addr : Addr
  timeoutMs : UInt32
  sessionId : Bytes
  uri : Option Bytes
  mediaCount : UInt32 := 0
  medias : List RtspServerSessionMedia := []
  deriving DecidableEq, Repr

structure RtspServerPendingRequestMedia where
  addr : Addr
  media : Addr
  deriving DecidableEq, Repr

structure RtspServerPendingRequest where
  addr : Addr
  conn : Option Conn
  timeout : UInt64
  mediaCount : UInt32 := 0
  medias : List RtspServerPendingRequestMedia := []
  deriving DecidableEq, Repr

structure RtspServer where
  sessionCount : UInt32 := 0
  sessions : List RtspServerSession := []
  pendingRequestCount : UInt32 := 0
  pendingRequests : List RtspServerPendingRequest := []
  deriving DecidableEq, Repr

namespace RtspServer

def setSession (server : RtspServer) (session : RtspServerSession) : RtspServer :=
  { server with sessions := replace RtspServerSession.addr session server.sessions }

def setRequest (server : RtspServer) (request : RtspServerPendingRequest) : RtspServer :=
  { server with
    pendingRequests := replace RtspServerPendingRequest.addr request server.pendingRequests }

/-- The addresses `calloc` does not return. -/
def live (server : RtspServer) : List Addr :=
  server.sessions.map RtspServerSession.addr ++
    server.sessions.flatMap (fun session => session.medias.map RtspServerSessionMedia.addr) ++
    server.pendingRequests.map RtspServerPendingRequest.addr ++
    server.pendingRequests.flatMap fun request =>
      request.medias.map RtspServerPendingRequestMedia.addr

end RtspServer

/-! ## Sessions -/

/-- The loop over the numbers drawn.  A draw may fail, which ends it, and it goes on for as
long as each text drawn begins like the id of a session. -/
def drawSessionId (sessions : List RtspServerSession) :
    List (Option UInt64) → Option (Option Bytes)
  | [] => none
  | none :: _ => some none
  | some id64 :: draws =>
      let sessionId := formatSessionId id64
      if sessions.any fun session =>
          strncmpEq session.sessionId sessionId rtspServerSessionIdLength then
        drawSessionId sessions draws
      else some (some sessionId)

/-- There is no result while the loop over the draws goes on.  `timer` says whether the timer
is created and set. -/
def rtspServerSessionAdd (calloc : Option Addr) (timer : Bool) (draws : List (Option UInt64))
    (server : RtspServer) (timeoutMs : UInt32) (uri : Option Bytes) :
    Option (Option Addr × RtspServer) :=
  match calloc with
  | none => some (none, server)
  | some addr =>
      if 0 < timeoutMs ∧ !timer then some (none, server)
      else
        (drawSessionId server.sessions draws).map fun
          | none => (none, server)
          | some sessionId =>
              (some addr, { server with
                sessions := server.sessions ++ [{ addr, timeoutMs, sessionId, uri }]
                sessionCount := server.sessionCount + 1 })

def rtspServerSessionMediaFind (session : RtspServerSession) (path : Bytes) :
    Option RtspServerSessionMedia :=
  session.medias.find? (·.path = path)

def rtspServerSessionMediaAdd (calloc : Option Addr) (session : RtspServerSession) (uri : Bytes)
    (path : Option Bytes) : Option Addr × RtspServerSession :=
  match path with
  | none => (none, session)
  | some path =>
      if (rtspServerSessionMediaFind session path).isSome then (none, session)
      else
        match calloc with
        | none => (none, session)
        | some addr =>
            (some addr, { session with
              medias := session.medias ++ [{ addr, session := session.addr, uri, path }]
              mediaCount := session.mediaCount + 1 })

def rtspServerSessionMediaRemove (session : RtspServerSession) (media : Option Addr) :
    Except Errno Unit × RtspServerSession :=
  match media with
  | none => (.error .einval, session)
  | some media =>
      if session.medias.any (·.addr = media) then
        (.ok (), { session with
          medias := remove RtspServerSessionMedia.addr media session.medias
          mediaCount := session.mediaCount - 1 })
      else (.error .enoent, session)

/-- The loop over the medias, each removed from the session that remains. -/
def removeMedias (session : RtspServerSession) (medias : List RtspServerSessionMedia) :
    RtspServerSession :=
  medias.foldl (fun session media => (rtspServerSessionMediaRemove session media.addr).2) session

def rtspServerSessionRemove (server : RtspServer) (session : Option Addr) :
    Except Errno Unit × RtspServer :=
  match session with
  | none => (.error .einval, server)
  | some addr =>
      match lookup RtspServerSession.addr addr server.sessions with
      | none => (.error .enoent, server)
      | some session =>
          let server := server.setSession (removeMedias session session.medias)
          (.ok (), { server with
            sessions := remove RtspServerSession.addr addr server.sessions
            sessionCount := server.sessionCount - 1 })

/-! ## Pending requests -/

/-- `now` is the monotonic clock in microseconds. -/
def rtspServerPendingRequestAdd (calloc : Option Addr) (now : UInt64) (server : RtspServer)
    (conn : Option Conn) (timeout : UInt32) : Option Addr × RtspServer :=
  match calloc with
  | none => (none, server)
  | some addr =>
      (some addr, { server with
        pendingRequests := server.pendingRequests ++
          [{ addr, conn, timeout := if 0 < timeout then now + timeout.toUInt64 * 1000 else 0 }]
        pendingRequestCount := server.pendingRequestCount + 1 })

def rtspServerPendingRequestMediaAdd (calloc : Option Addr) (request : RtspServerPendingRequest)
    (media : Option Addr) : Option Addr × RtspServerPendingRequest :=
  match media, calloc with
  | some media, some addr =>
      (some addr, { request with
        medias := request.medias ++ [{ addr, media }]
        mediaCount := request.mediaCount + 1 })
  | _, _ => (none, request)

def rtspServerPendingRequestMediaRemove (request : RtspServerPendingRequest)
    (media : Option Addr) : Except Errno Unit × RtspServerPendingRequest :=
  match media with
  | none => (.error .einval, request)
  | some media =>
      if request.medias.any (·.addr = media) then
        (.ok (), { request with
          medias := remove RtspServerPendingRequestMedia.addr media request.medias
          mediaCount := request.mediaCount - 1 })
      else (.error .enoent, request)

/-- The medias are removed from a request that is no longer in the list, and freed with it. -/
def rtspServerPendingRequestRemove (server : RtspServer) (request : Option Addr) :
    Except Errno Unit × RtspServer :=
  match request with
  | none => (.error .einval, server)
  | some addr =>
      if server.pendingRequests.any (·.addr = addr) then
        (.ok (), { server with
          pendingRequests := remove RtspServerPendingRequest.addr addr server.pendingRequests
          pendingRequestCount := server.pendingRequestCount - 1 })
      else (.error .enoent, server)

/-! ## Sequences of calls -/

inductive StoreCall where
  | sessionAdd (calloc : Option Addr) (timer : Bool) (draws : List (Option UInt64))
      (timeoutMs : UInt32) (uri : Option Bytes)
  | sessionRemove (session : Option Addr)
  | sessionMediaAdd (calloc session : Option Addr) (uri : Bytes) (path : Option Bytes)
  | sessionMediaRemove (session media : Option Addr)
  | pendingRequestAdd (calloc : Option Addr) (now : UInt64) (conn : Option Conn)
      (timeout : UInt32)
  | pendingRequestRemove (request : Option Addr)
  | pendingRequestMediaAdd (calloc request media : Option Addr)
  | pendingRequestMediaRemove (request media : Option Addr)
  deriving DecidableEq, Repr

def StoreCall.calloc : StoreCall → Option Addr
  | .sessionAdd calloc _ _ _ _ => calloc
  | .sessionMediaAdd calloc _ _ _ => calloc
  | .pendingRequestAdd calloc _ _ _ => calloc
  | .pendingRequestMediaAdd calloc _ _ => calloc
  | _ => none

/-- What has no next state: a session or request pointer to no object, an address of a live
object from `calloc`, and draws that all begin like the id of a session. -/
inductive StoreHalt where
  | dangling
  | occupied
  | drawing
  deriving DecidableEq, Repr

/-- A call on the session at an address. -/
def onSession (server : RtspServer) (session : Option Addr)
    (call : RtspServerSession → Bool × RtspServerSession) : Except StoreHalt (Bool × RtspServer) :=
  match session with
  | none => .ok (false, server)
  | some addr =>
      match lookup RtspServerSession.addr addr server.sessions with
      | none => .error .dangling
      | some session => .ok ((call session).1, server.setSession (call session).2)

/-- A call on the pending request at an address. -/
def onRequest (server : RtspServer) (request : Option Addr)
    (call : RtspServerPendingRequest → Bool × RtspServerPendingRequest) :
    Except StoreHalt (Bool × RtspServer) :=
  match request with
  | none => .ok (false, server)
  | some addr =>
      match lookup RtspServerPendingRequest.addr addr server.pendingRequests with
      | none => .error .dangling
      | some request => .ok ((call request).1, server.setRequest (call request).2)

/-- Whether the call succeeds, and the store after it. -/
def storeCall (server : RtspServer) (call : StoreCall) : Except StoreHalt (Bool × RtspServer) :=
  if ∃ addr ∈ call.calloc, addr ∈ server.live then .error .occupied
  else
    match call with
    | .sessionAdd calloc timer draws timeoutMs uri =>
        match rtspServerSessionAdd calloc timer draws server timeoutMs uri with
        | none => .error .drawing
        | some (session, server) => .ok (session.isSome, server)
    | .sessionRemove session => .ok ((rtspServerSessionRemove server session).map (·.isOk) id)
    | .sessionMediaAdd calloc session uri path =>
        onSession server session fun session =>
          (rtspServerSessionMediaAdd calloc session uri path).map (·.isSome) id
    | .sessionMediaRemove session media =>
        onSession server session fun session =>
          (rtspServerSessionMediaRemove session media).map (·.isOk) id
    | .pendingRequestAdd calloc now conn timeout =>
        .ok ((rtspServerPendingRequestAdd calloc now server conn timeout).map (·.isSome) id)
    | .pendingRequestRemove request =>
        .ok ((rtspServerPendingRequestRemove server request).map (·.isOk) id)
    | .pendingRequestMediaAdd calloc request media =>
        onRequest server request fun request =>
          (rtspServerPendingRequestMediaAdd calloc request media).map (·.isSome) id
    | .pendingRequestMediaRemove request media =>
        onRequest server request fun request =>
          (rtspServerPendingRequestMediaRemove request media).map (·.isOk) id

def storeStep (server : RtspServer) (call : StoreCall) : Except StoreHalt RtspServer :=
  (storeCall server call).map Prod.snd

/-! ## The invariant -/

structure RtspServerSession.Consistent (session : RtspServerSession) : Prop where
  addrs : (session.medias.map RtspServerSessionMedia.addr).Nodup
  paths : (session.medias.map RtspServerSessionMedia.path).Nodup
  mediaCount : Counts session.mediaCount session.medias
  backPointers : ∀ media ∈ session.medias, media.session = session.addr

structure RtspServerPendingRequest.Consistent (request : RtspServerPendingRequest) : Prop where
  addrs : (request.medias.map RtspServerPendingRequestMedia.addr).Nodup
  mediaCount : Counts request.mediaCount request.medias

structure RtspServer.Consistent (server : RtspServer) : Prop where
  sessionAddrs : (server.sessions.map RtspServerSession.addr).Nodup
  requestAddrs : (server.pendingRequests.map RtspServerPendingRequest.addr).Nodup
  ids : BeginningsDistinct RtspServerSession.sessionId rtspServerSessionIdLength server.sessions
  sessionCount : Counts server.sessionCount server.sessions
  pendingRequestCount : Counts server.pendingRequestCount server.pendingRequests
  sessions : ∀ session ∈ server.sessions, session.Consistent
  requests : ∀ request ∈ server.pendingRequests, request.Consistent

theorem RtspServer.consistent_empty : ({} : RtspServer).Consistent where
  sessionAddrs := List.nodup_nil
  requestAddrs := List.nodup_nil
  ids := List.nodup_nil
  sessionCount := rfl
  pendingRequestCount := rfl
  sessions := fun _ h => nomatch h
  requests := fun _ h => nomatch h

/-! ### The medias of one session -/

/-- A session after a call on it: still consistent, and the same session. -/
structure RtspServerSession.Becomes (session session' : RtspServerSession) : Prop where
  addr : session'.addr = session.addr
  sessionId : session'.sessionId = session.sessionId
  consistent : session'.Consistent

theorem rtspServerSessionMediaAdd_becomes {session : RtspServerSession} {calloc : Option Addr}
    {uri : Bytes} {path : Option Bytes} (h : session.Consistent)
    (hfresh : ∀ addr ∈ calloc, ∀ media ∈ session.medias, media.addr ≠ addr) :
    session.Becomes (rtspServerSessionMediaAdd calloc session uri path).2 := by
  unfold rtspServerSessionMediaAdd
  cases path with
  | none => exact ⟨rfl, rfl, h⟩
  | some path =>
      dsimp only
      split
      next => exact ⟨rfl, rfl, h⟩
      next hnew =>
        cases calloc with
        | none => exact ⟨rfl, rfl, h⟩
        | some addr =>
            refine ⟨rfl, rfl, ⟨?_, ?_, h.mediaCount.append _, ?_⟩⟩
            · exact nodup_append h.addrs (hfresh addr rfl)
            · refine @nodup_append _ _ RtspServerSessionMedia.path _ _ h.paths ?_
              intro media hmedia hpath
              refine hnew (List.find?_isSome.mpr ⟨media, hmedia, ?_⟩)
              simpa using hpath
            · intro media hmedia
              rcases List.mem_append.mp hmedia with hold | hlast
              · exact h.backPointers media hold
              · rw [List.mem_singleton] at hlast
                rw [hlast]

theorem rtspServerSessionMediaRemove_becomes {session : RtspServerSession} {media : Option Addr}
    (h : session.Consistent) : session.Becomes (rtspServerSessionMediaRemove session media).2 := by
  unfold rtspServerSessionMediaRemove
  cases media with
  | none => exact ⟨rfl, rfl, h⟩
  | some media =>
      dsimp only
      split
      next hfound =>
        obtain ⟨found, hmem, haddr⟩ := List.any_eq_true.mp hfound
        obtain rfl : found.addr = media := by simpa using haddr
        refine ⟨rfl, rfl, ⟨nodup_remove h.addrs, ?_, h.mediaCount.remove h.addrs hmem, ?_⟩⟩
        · exact h.paths.sublist (List.filter_sublist.map _)
        · exact fun other hother => h.backPointers other (mem_remove.mp hother).1
      next => exact ⟨rfl, rfl, h⟩

theorem removeMedias_becomes {session : RtspServerSession} (h : session.Consistent)
    (medias : List RtspServerSessionMedia) : session.Becomes (removeMedias session medias) := by
  unfold removeMedias
  induction medias generalizing session with
  | nil => exact ⟨rfl, rfl, h⟩
  | cons media medias ih =>
      have hfirst := @rtspServerSessionMediaRemove_becomes session (some media.addr) h
      have hrest := ih hfirst.consistent
      exact ⟨hrest.addr.trans hfirst.addr, hrest.sessionId.trans hfirst.sessionId,
        hrest.consistent⟩

/-! ### The medias of one pending request -/

structure RtspServerPendingRequest.Becomes (request request' : RtspServerPendingRequest) :
    Prop where
  addr : request'.addr = request.addr
  consistent : request'.Consistent

theorem rtspServerPendingRequestMediaAdd_becomes {request : RtspServerPendingRequest}
    {calloc media : Option Addr} (h : request.Consistent)
    (hfresh : ∀ addr ∈ calloc, ∀ media ∈ request.medias, media.addr ≠ addr) :
    request.Becomes (rtspServerPendingRequestMediaAdd calloc request media).2 := by
  unfold rtspServerPendingRequestMediaAdd
  split
  next media addr =>
    exact ⟨rfl, ⟨nodup_append h.addrs (hfresh addr rfl), h.mediaCount.append _⟩⟩
  next => exact ⟨rfl, h⟩

theorem rtspServerPendingRequestMediaRemove_becomes {request : RtspServerPendingRequest}
    {media : Option Addr} (h : request.Consistent) :
    request.Becomes (rtspServerPendingRequestMediaRemove request media).2 := by
  unfold rtspServerPendingRequestMediaRemove
  cases media with
  | none => exact ⟨rfl, h⟩
  | some media =>
      dsimp only
      split
      next hfound =>
        obtain ⟨found, hmem, haddr⟩ := List.any_eq_true.mp hfound
        obtain rfl : found.addr = media := by simpa using haddr
        exact ⟨rfl, ⟨nodup_remove h.addrs, h.mediaCount.remove h.addrs hmem⟩⟩
      next => exact ⟨rfl, h⟩

/-! ### The lists of the server -/

theorem RtspServer.Consistent.setSession {server : RtspServer} (h : server.Consistent)
    {session session' : RtspServerSession} (hmem : session ∈ server.sessions)
    (hbecomes : session.Becomes session') : (server.setSession session').Consistent where
  sessionAddrs := by
    change ((replace _ _ _).map _).Nodup
    rw [map_key_replace]
    exact h.sessionAddrs
  requestAddrs := h.requestAddrs
  ids := by
    change ((replace _ _ _).map _).Nodup
    rw [map_replace_same _ h.sessionAddrs hmem hbecomes.addr (by rw [hbecomes.sessionId])]
    exact h.ids
  sessionCount := by
    have hlength : (replace RtspServerSession.addr session' server.sessions).length =
        server.sessions.length := List.length_map _
    exact h.sessionCount.trans (congrArg UInt32.ofNat hlength.symm)
  pendingRequestCount := h.pendingRequestCount
  sessions := by
    intro other hother
    rcases mem_replace.mp hother with ⟨hold, -⟩ | ⟨rfl, -⟩
    · exact h.sessions other hold
    · exact hbecomes.consistent
  requests := h.requests

theorem RtspServer.Consistent.setRequest {server : RtspServer} (h : server.Consistent)
    {request request' : RtspServerPendingRequest} (hbecomes : request.Becomes request') :
    (server.setRequest request').Consistent where
  sessionAddrs := h.sessionAddrs
  requestAddrs := by
    change ((replace _ _ _).map _).Nodup
    rw [map_key_replace]
    exact h.requestAddrs
  ids := h.ids
  sessionCount := h.sessionCount
  pendingRequestCount := by
    have hlength :
        (replace RtspServerPendingRequest.addr request' server.pendingRequests).length =
          server.pendingRequests.length := List.length_map _
    exact h.pendingRequestCount.trans (congrArg UInt32.ofNat hlength.symm)
  sessions := h.sessions
  requests := by
    intro other hother
    rcases mem_replace.mp hother with ⟨hold, -⟩ | ⟨rfl, -⟩
    · exact h.requests other hold
    · exact hbecomes.consistent

theorem RtspServer.Consistent.removeSession {server : RtspServer} (h : server.Consistent)
    {session : RtspServerSession} (hmem : session ∈ server.sessions) :
    { server with
      sessions := remove RtspServerSession.addr session.addr server.sessions
      sessionCount := server.sessionCount - 1 : RtspServer }.Consistent where
  sessionAddrs := nodup_remove h.sessionAddrs
  requestAddrs := h.requestAddrs
  ids := h.ids.of_ids (List.filter_sublist.map _)
  sessionCount := h.sessionCount.remove h.sessionAddrs hmem
  pendingRequestCount := h.pendingRequestCount
  sessions := fun other hother => h.sessions other (mem_remove.mp hother).1
  requests := h.requests

/-- An address from `calloc` is the address of no object in the lists. -/
structure RtspServer.Fresh (server : RtspServer) (calloc : Option Addr) : Prop where
  session : ∀ addr ∈ calloc, ∀ session ∈ server.sessions, session.addr ≠ addr
  sessionMedia : ∀ addr ∈ calloc, ∀ session ∈ server.sessions, ∀ media ∈ session.medias,
    media.addr ≠ addr
  request : ∀ addr ∈ calloc, ∀ request ∈ server.pendingRequests, request.addr ≠ addr
  requestMedia : ∀ addr ∈ calloc, ∀ request ∈ server.pendingRequests,
    ∀ media ∈ request.medias, media.addr ≠ addr

theorem RtspServer.fresh_of_not_live {server : RtspServer} {calloc : Option Addr}
    (h : ¬∃ addr ∈ calloc, addr ∈ server.live) : server.Fresh calloc := by
  have hnot : ∀ addr ∈ calloc, addr ∉ server.live := fun addr haddr hlive =>
    h ⟨addr, haddr, hlive⟩
  simp only [live, List.mem_append, List.mem_map, List.mem_flatMap, not_or, not_exists,
    not_and] at hnot
  refine ⟨?_, ?_, ?_, ?_⟩
  · exact fun addr haddr session hmem => (hnot addr haddr).1.1.1 session hmem
  · exact fun addr haddr session hmem media => (hnot addr haddr).1.1.2 session hmem media
  · exact fun addr haddr request hmem => (hnot addr haddr).1.2 request hmem
  · exact fun addr haddr request hmem media => (hnot addr haddr).2 request hmem media

/-- The text the loop ends with begins like the id of no session. -/
theorem drawSessionId_unused {sessions : List RtspServerSession} {draws : List (Option UInt64)}
    {sessionId : Bytes} (h : drawSessionId sessions draws = some (some sessionId)) :
    sessions.find? (fun session =>
      strncmpEq session.sessionId sessionId rtspServerSessionIdLength) = none := by
  induction draws with
  | nil => simp [drawSessionId] at h
  | cons draw draws ih =>
      cases draw with
      | none => simp [drawSessionId] at h
      | some id64 =>
          unfold drawSessionId at h
          dsimp only at h
          split at h
          next => exact ih h
          next hunused =>
            cases h
            rw [List.find?_eq_none]
            simpa using hunused

theorem rtspServerSessionAdd_consistent {server server' : RtspServer} {calloc : Option Addr}
    {timer : Bool} {draws : List (Option UInt64)} {timeoutMs : UInt32} {uri : Option Bytes}
    {result : Option Addr} (h : server.Consistent) (hfresh : server.Fresh calloc)
    (hadd : rtspServerSessionAdd calloc timer draws server timeoutMs uri =
      some (result, server')) :
    server'.Consistent := by
  unfold rtspServerSessionAdd at hadd
  split at hadd
  next =>
    cases hadd
    exact h
  next addr =>
    split at hadd
    next =>
      cases hadd
      exact h
    next =>
      cases hdraw : drawSessionId server.sessions draws with
      | none => simp [hdraw] at hadd
      | some drawn =>
          cases drawn with
          | none =>
              simp only [hdraw, Option.map_some, Option.some.injEq, Prod.mk.injEq] at hadd
              exact hadd.2 ▸ h
          | some sessionId =>
              simp only [hdraw, Option.map_some, Option.some.injEq, Prod.mk.injEq] at hadd
              obtain ⟨-, rfl⟩ := hadd
              refine ⟨nodup_append h.sessionAddrs (hfresh.session addr rfl), h.requestAddrs,
                h.ids.append (drawSessionId_unused hdraw), h.sessionCount.append _,
                h.pendingRequestCount, ?_, h.requests⟩
              intro session hmem
              rcases List.mem_append.mp hmem with hold | hlast
              · exact h.sessions session hold
              · rw [List.mem_singleton] at hlast
                rw [hlast]
                exact ⟨List.nodup_nil, List.nodup_nil, rfl, fun _ hmedia => nomatch hmedia⟩

theorem rtspServerSessionRemove_consistent {server : RtspServer} {session : Option Addr}
    (h : server.Consistent) : (rtspServerSessionRemove server session).2.Consistent := by
  unfold rtspServerSessionRemove
  cases session with
  | none => exact h
  | some addr =>
      dsimp only
      split
      next => exact h
      next session hlookup =>
        obtain ⟨hmem, rfl⟩ := lookup_some hlookup
        have hempty := removeMedias_becomes (h.sessions session hmem) session.medias
        have hset := h.setSession hmem hempty
        have hin : removeMedias session session.medias ∈
            (server.setSession (removeMedias session session.medias)).sessions :=
          mem_replace.mpr (.inr ⟨rfl, session, hmem, hempty.addr.symm⟩)
        rw [← hempty.addr]
        exact hset.removeSession hin

theorem rtspServerPendingRequestAdd_consistent {server : RtspServer} {calloc : Option Addr}
    {now : UInt64} {conn : Option Conn} {timeout : UInt32} (h : server.Consistent)
    (hfresh : server.Fresh calloc) :
    (rtspServerPendingRequestAdd calloc now server conn timeout).2.Consistent := by
  unfold rtspServerPendingRequestAdd
  cases calloc with
  | none => exact h
  | some addr =>
      refine ⟨h.sessionAddrs, nodup_append h.requestAddrs (hfresh.request addr rfl), h.ids,
        h.sessionCount, h.pendingRequestCount.append _, h.sessions, ?_⟩
      intro request hmem
      rcases List.mem_append.mp hmem with hold | hlast
      · exact h.requests request hold
      · rw [List.mem_singleton] at hlast
        rw [hlast]
        exact ⟨List.nodup_nil, rfl⟩

theorem rtspServerPendingRequestRemove_consistent {server : RtspServer} {request : Option Addr}
    (h : server.Consistent) : (rtspServerPendingRequestRemove server request).2.Consistent := by
  unfold rtspServerPendingRequestRemove
  cases request with
  | none => exact h
  | some addr =>
      dsimp only
      split
      next hfound =>
        obtain ⟨found, hmem, haddr⟩ := List.any_eq_true.mp hfound
        obtain rfl : found.addr = addr := by simpa using haddr
        exact ⟨h.sessionAddrs, nodup_remove h.requestAddrs, h.ids, h.sessionCount,
          h.pendingRequestCount.remove h.requestAddrs hmem, h.sessions,
          fun other hother => h.requests other (mem_remove.mp hother).1⟩
      next => exact h

theorem onSession_consistent {server server' : RtspServer} {session : Option Addr}
    {call : RtspServerSession → Bool × RtspServerSession} {success : Bool} (h : server.Consistent)
    (hcall : ∀ session ∈ server.sessions, session.Becomes (call session).2)
    (hon : onSession server session call = .ok (success, server')) : server'.Consistent := by
  unfold onSession at hon
  split at hon
  next =>
    cases hon
    exact h
  next addr =>
    split at hon
    next => cases hon
    next session hlookup =>
      cases hon
      have hmem := (lookup_some hlookup).1
      exact h.setSession hmem (hcall session hmem)

theorem onRequest_consistent {server server' : RtspServer} {request : Option Addr}
    {call : RtspServerPendingRequest → Bool × RtspServerPendingRequest} {success : Bool}
    (h : server.Consistent)
    (hcall : ∀ request ∈ server.pendingRequests, request.Becomes (call request).2)
    (hon : onRequest server request call = .ok (success, server')) : server'.Consistent := by
  unfold onRequest at hon
  split at hon
  next =>
    cases hon
    exact h
  next addr =>
    split at hon
    next => cases hon
    next request hlookup =>
      cases hon
      exact h.setRequest (hcall request (lookup_some hlookup).1)

theorem storeCall_consistent {server server' : RtspServer} {call : StoreCall} {success : Bool}
    (h : server.Consistent) (hcall : storeCall server call = .ok (success, server')) :
    server'.Consistent := by
  unfold storeCall at hcall
  split at hcall
  next => cases hcall
  next hlive =>
    have hfresh := RtspServer.fresh_of_not_live hlive
    cases call with
    | sessionAdd calloc timer draws timeoutMs uri =>
        dsimp only at hcall
        split at hcall
        next => cases hcall
        next hadd =>
          cases hcall
          exact rtspServerSessionAdd_consistent h hfresh hadd
    | sessionRemove session =>
        cases hcall
        exact rtspServerSessionRemove_consistent h
    | sessionMediaAdd calloc session uri path =>
        refine onSession_consistent h (fun session hmem => ?_) hcall
        exact rtspServerSessionMediaAdd_becomes (h.sessions session hmem)
          fun addr haddr => hfresh.sessionMedia addr haddr session hmem
    | sessionMediaRemove session media =>
        refine onSession_consistent h (fun session hmem => ?_) hcall
        exact rtspServerSessionMediaRemove_becomes (h.sessions session hmem)
    | pendingRequestAdd calloc now conn timeout =>
        cases hcall
        exact rtspServerPendingRequestAdd_consistent h hfresh
    | pendingRequestRemove request =>
        cases hcall
        exact rtspServerPendingRequestRemove_consistent h
    | pendingRequestMediaAdd calloc request media =>
        refine onRequest_consistent h (fun request hmem => ?_) hcall
        exact rtspServerPendingRequestMediaAdd_becomes (h.requests request hmem)
          fun addr haddr => hfresh.requestMedia addr haddr request hmem
    | pendingRequestMediaRemove request media =>
        refine onRequest_consistent h (fun request hmem => ?_) hcall
        exact rtspServerPendingRequestMediaRemove_becomes (h.requests request hmem)

/-! ## Calls that fail -/

theorem onSession_failed {server server' : RtspServer} {session : Option Addr}
    {call : RtspServerSession → Bool × RtspServerSession} (h : server.Consistent)
    (hcall : ∀ session, (call session).1 = false → (call session).2 = session)
    (hon : onSession server session call = .ok (false, server')) : server' = server := by
  unfold onSession at hon
  split at hon
  next =>
    cases hon
    rfl
  next addr =>
    split at hon
    next => cases hon
    next session hlookup =>
      simp only [Except.ok.injEq, Prod.mk.injEq] at hon
      obtain ⟨hfailed, rfl⟩ := hon
      rw [hcall session hfailed, RtspServer.setSession,
        replace_self h.sessionAddrs (lookup_some hlookup).1]

theorem onRequest_failed {server server' : RtspServer} {request : Option Addr}
    {call : RtspServerPendingRequest → Bool × RtspServerPendingRequest} (h : server.Consistent)
    (hcall : ∀ request, (call request).1 = false → (call request).2 = request)
    (hon : onRequest server request call = .ok (false, server')) : server' = server := by
  unfold onRequest at hon
  split at hon
  next =>
    cases hon
    rfl
  next addr =>
    split at hon
    next => cases hon
    next request hlookup =>
      simp only [Except.ok.injEq, Prod.mk.injEq] at hon
      obtain ⟨hfailed, rfl⟩ := hon
      rw [hcall request hfailed, RtspServer.setRequest,
        replace_self h.requestAddrs (lookup_some hlookup).1]

theorem rtspServerSessionAdd_failed {server server' : RtspServer} {calloc : Option Addr}
    {timer : Bool} {draws : List (Option UInt64)} {timeoutMs : UInt32} {uri : Option Bytes}
    (hadd : rtspServerSessionAdd calloc timer draws server timeoutMs uri =
      some (none, server')) : server' = server := by
  unfold rtspServerSessionAdd at hadd
  split at hadd
  next =>
    cases hadd
    rfl
  next addr =>
    split at hadd
    next =>
      cases hadd
      rfl
    next =>
      obtain ⟨drawn, -, hdrawn⟩ := Option.map_eq_some_iff.mp hadd
      cases drawn with
      | none =>
          cases hdrawn
          rfl
      | some sessionId => simp at hdrawn

theorem rtspServerSessionRemove_failed {server : RtspServer} {session : Option Addr}
    (hfailed : (rtspServerSessionRemove server session).1.isOk = false) :
    (rtspServerSessionRemove server session).2 = server := by
  unfold rtspServerSessionRemove at hfailed ⊢
  cases session with
  | none => rfl
  | some addr =>
      dsimp only at hfailed ⊢
      split at hfailed
      next => rfl
      next => cases hfailed

theorem rtspServerSessionMediaAdd_failed {session : RtspServerSession} {calloc : Option Addr}
    {uri : Bytes} {path : Option Bytes}
    (hfailed : (rtspServerSessionMediaAdd calloc session uri path).1.isSome = false) :
    (rtspServerSessionMediaAdd calloc session uri path).2 = session := by
  unfold rtspServerSessionMediaAdd at hfailed ⊢
  cases path with
  | none => rfl
  | some path =>
      dsimp only at hfailed ⊢
      split at hfailed
      next hfound => rw [if_pos hfound]
      next hnew =>
        rw [if_neg hnew]
        cases calloc with
        | none => rfl
        | some addr => cases hfailed

theorem rtspServerSessionMediaRemove_failed {session : RtspServerSession} {media : Option Addr}
    (hfailed : (rtspServerSessionMediaRemove session media).1.isOk = false) :
    (rtspServerSessionMediaRemove session media).2 = session := by
  unfold rtspServerSessionMediaRemove at hfailed ⊢
  cases media with
  | none => rfl
  | some media =>
      dsimp only at hfailed ⊢
      split at hfailed
      next => cases hfailed
      next hmissing => rw [if_neg hmissing]

theorem rtspServerPendingRequestRemove_failed {server : RtspServer} {request : Option Addr}
    (hfailed : (rtspServerPendingRequestRemove server request).1.isOk = false) :
    (rtspServerPendingRequestRemove server request).2 = server := by
  unfold rtspServerPendingRequestRemove at hfailed ⊢
  cases request with
  | none => rfl
  | some addr =>
      dsimp only at hfailed ⊢
      split at hfailed
      next => cases hfailed
      next hmissing => rw [if_neg hmissing]

theorem rtspServerPendingRequestMediaAdd_failed {request : RtspServerPendingRequest}
    {calloc media : Option Addr}
    (hfailed : (rtspServerPendingRequestMediaAdd calloc request media).1.isSome = false) :
    (rtspServerPendingRequestMediaAdd calloc request media).2 = request := by
  unfold rtspServerPendingRequestMediaAdd at hfailed ⊢
  split at hfailed
  next => cases hfailed
  next => rfl

theorem rtspServerPendingRequestMediaRemove_failed {request : RtspServerPendingRequest}
    {media : Option Addr}
    (hfailed : (rtspServerPendingRequestMediaRemove request media).1.isOk = false) :
    (rtspServerPendingRequestMediaRemove request media).2 = request := by
  unfold rtspServerPendingRequestMediaRemove at hfailed ⊢
  cases media with
  | none => rfl
  | some media =>
      dsimp only at hfailed ⊢
      split at hfailed
      next => cases hfailed
      next hmissing => rw [if_neg hmissing]

theorem storeCall_failed {server server' : RtspServer} {call : StoreCall} (h : server.Consistent)
    (hcall : storeCall server call = .ok (false, server')) : server' = server := by
  unfold storeCall at hcall
  split at hcall
  next => cases hcall
  next =>
    cases call with
    | sessionAdd calloc timer draws timeoutMs uri =>
        dsimp only at hcall
        split at hcall
        next => cases hcall
        next session after hadd =>
          simp only [Except.ok.injEq, Prod.mk.injEq, Option.isSome_eq_false_iff,
            Option.isNone_iff_eq_none] at hcall
          obtain ⟨rfl, rfl⟩ := hcall
          exact rtspServerSessionAdd_failed hadd
    | sessionRemove session =>
        simp only [Except.ok.injEq, Prod.map, Prod.mk.injEq, id] at hcall
        obtain ⟨hfailed, rfl⟩ := hcall
        exact rtspServerSessionRemove_failed hfailed
    | sessionMediaAdd calloc session uri path =>
        exact onSession_failed h (fun _ => rtspServerSessionMediaAdd_failed) hcall
    | sessionMediaRemove session media =>
        exact onSession_failed h (fun _ => rtspServerSessionMediaRemove_failed) hcall
    | pendingRequestAdd calloc now conn timeout =>
        simp only [Except.ok.injEq, Prod.map, Prod.mk.injEq, id] at hcall
        obtain ⟨hfailed, rfl⟩ := hcall
        cases calloc with
        | none => rfl
        | some addr => cases hfailed
    | pendingRequestRemove request =>
        simp only [Except.ok.injEq, Prod.map, Prod.mk.injEq, id] at hcall
        obtain ⟨hfailed, rfl⟩ := hcall
        exact rtspServerPendingRequestRemove_failed hfailed
    | pendingRequestMediaAdd calloc request media =>
        exact onRequest_failed h (fun _ => rtspServerPendingRequestMediaAdd_failed) hcall
    | pendingRequestMediaRemove request media =>
        exact onRequest_failed h (fun _ => rtspServerPendingRequestMediaRemove_failed) hcall

/-! ## Every sequence of calls -/

theorem storeRun_consistent {calls : List StoreCall} {server : RtspServer}
    (hrun : Execution.run storeStep {} calls = .ok server) : server.Consistent := by
  refine Execution.invariant RtspServer.Consistent (fun server call server' h _ hstep => ?_)
    RtspServer.consistent_empty
    (@Execution.guarded_of_forall _ _ _ _ (fun _ _ => True) (fun _ _ => trivial) _ _) hrun
  unfold storeStep at hstep
  cases hcall : storeCall server call with
  | error halt => simp [hcall, Except.map] at hstep
  | ok result =>
      obtain ⟨success, after⟩ := result
      simp only [hcall, Except.map, Except.ok.injEq] at hstep
      exact hstep ▸ storeCall_consistent h hcall

/-- After every sequence of calls from the empty server, and for a call that fails then. -/
def StoreInvariant (calls : List StoreCall) : Prop :=
  ∀ server, Execution.run storeStep {} calls = .ok server →
    server.Consistent ∧
      ∀ call server', storeCall server call = .ok (false, server') → server' = server

theorem storeInvariant (calls : List StoreCall) : StoreInvariant calls :=
  fun _ hrun =>
    ⟨storeRun_consistent hrun, fun _ _ hcall => storeCall_failed (storeRun_consistent hrun) hcall⟩

/-- One session with a media, and a pending request with `n` entries for it. -/
def entriesCalls (n : Nat) : List StoreCall :=
  [.sessionAdd (some 0) true [some 0] 60000 none,
    .sessionMediaAdd (some 1) (some 0) (ascii "rtsp://h/a") (some (ascii "/a")),
    .pendingRequestAdd (some 2) 0 none 0] ++
    (List.range n).map fun i => .pendingRequestMediaAdd (some (i + 3)) (some 2) (some 1)

def entriesServer (n : Nat) : RtspServer where
  sessionCount := 1
  sessions :=
    [{ addr := 0, timeoutMs := 60000, sessionId := formatSessionId 0, uri := none, mediaCount := 1
       medias := [{ addr := 1, session := 0, uri := ascii "rtsp://h/a", path := ascii "/a" }] }]
  pendingRequestCount := 1
  pendingRequests :=
    [{ addr := 2, conn := none, timeout := 0, mediaCount := UInt32.ofNat n
       medias := (List.range n).map fun i => { addr := i + 3, media := 1 } }]

theorem entriesServer_step (n : Nat) :
    storeStep (entriesServer n) (.pendingRequestMediaAdd (some (n + 3)) (some 2) (some 1)) =
      .ok (entriesServer (n + 1)) := by
  have hfresh : ¬∃ addr ∈ StoreCall.calloc
      (.pendingRequestMediaAdd (some (n + 3)) (some 2) (some 1)),
      addr ∈ (entriesServer n).live := by
    simp [StoreCall.calloc, RtspServer.live, entriesServer]
  have hlast : (List.range (n + 1)).map (fun i =>
      ({ addr := i + 3, media := 1 } : RtspServerPendingRequestMedia)) =
        (List.range n).map (fun i => { addr := i + 3, media := 1 }) ++
          [{ addr := n + 3, media := 1 }] := by
    rw [List.range_succ, List.map_append, List.map_singleton]
  rw [storeStep, storeCall, if_neg hfresh]
  unfold entriesServer
  rw [hlast, UInt32.ofNat_add]
  rfl

theorem entriesServer_run (n : Nat) :
    Execution.run storeStep {} (entriesCalls n) = .ok (entriesServer n) := by
  induction n with
  | zero => decide +kernel
  | succ n ih =>
      rw [entriesCalls, List.range_succ, List.map_append, ← List.append_assoc, ← entriesCalls,
        Execution.run_append ih, List.map_singleton, Execution.run, entriesServer_step]
      rfl

/-- The count of a list of 2^32 entries is zero. -/
theorem mediaCount_wraps :
    ∃ calls server, Execution.run storeStep {} calls = .ok server ∧
      ∃ request ∈ server.pendingRequests, request.mediaCount.toNat ≠ request.medias.length := by
  refine ⟨entriesCalls (2 ^ 32), _, entriesServer_run _, _, List.mem_singleton_self _, ?_⟩
  rw [List.length_map, List.length_range]
  decide

/-! ## Without the additional fields

The timer of a session has been set once, when it was added. -/

def RtspServerSessionMedia.erase (media : RtspServerSessionMedia) :
    Librtsp.RtspServerSessionMedia where
  addr := media.addr
  uri := media.uri
  path := media.path

def RtspServerSession.erase (session : RtspServerSession) : Librtsp.RtspServerSession where
  addr := session.addr
  sessionId := session.sessionId
  uri := session.uri
  timeoutMs := session.timeoutMs
  timerSets := 1
  medias := session.medias.map RtspServerSessionMedia.erase

def RtspServerPendingRequest.erase (request : RtspServerPendingRequest) :
    Librtsp.RtspServerPendingRequest where
  addr := request.addr
  conn := request.conn
  requestHeader := {}
  timeout := request.timeout
  medias := request.medias.map fun media => { media := media.media }

def RtspServer.erase (server : RtspServer) (nextAddr : Addr) : Librtsp.RtspServer where
  sessions := server.sessions.map RtspServerSession.erase
  pendingRequests := server.pendingRequests.map RtspServerPendingRequest.erase
  nextAddr := nextAddr

theorem RtspServerSessionMedia.erase_addr (media : RtspServerSessionMedia) :
    Librtsp.RtspServerSessionMedia.addr media.erase = media.addr := rfl

theorem RtspServerSession.erase_addr (session : RtspServerSession) :
    Librtsp.RtspServerSession.addr session.erase = session.addr := rfl

theorem RtspServerPendingRequest.erase_addr (request : RtspServerPendingRequest) :
    Librtsp.RtspServerPendingRequest.addr request.erase = request.addr := rfl

theorem drawSessionId_find (sessions : List RtspServerSession) (ids : List UInt64) :
    drawSessionId sessions (ids.map some) =
      (ids.find? fun id64 => (sessions.find? fun session =>
        strncmpEq session.sessionId (formatSessionId id64)
          rtspServerSessionIdLength).isNone).map fun id64 => some (formatSessionId id64) := by
  induction ids with
  | nil => rfl
  | cons id64 ids ih =>
      rw [List.map_cons, drawSessionId, List.find?_cons]
      cases hfound : sessions.find? fun session =>
          strncmpEq session.sessionId (formatSessionId id64) rtspServerSessionIdLength with
      | none =>
          have hunused : ¬sessions.any (fun session => strncmpEq session.sessionId
              (formatSessionId id64) rtspServerSessionIdLength) = true := by
            simpa using hfound
          rw [if_neg hunused]
          rfl
      | some session =>
          have hused : sessions.any (fun session => strncmpEq session.sessionId
              (formatSessionId id64) rtspServerSessionIdLength) = true :=
            List.any_eq_true.mpr ⟨session, List.mem_of_find?_eq_some hfound,
              by simpa using List.find?_some hfound⟩
          rw [if_pos hused, ih]
          rfl

theorem RtspServer.erase_setSession (server : RtspServer) (session : RtspServerSession)
    (nextAddr : Addr) :
    (server.setSession session).erase nextAddr =
      (server.erase nextAddr).setSession session.erase := by
  unfold erase setSession Librtsp.RtspServer.setSession
  rw [map_replace RtspServerSession.erase_addr]

theorem rtspServerSessionAdd_erase (ids : List UInt64) (server : RtspServer) (timeoutMs : UInt32)
    (uri : Option Bytes) (nextAddr : Addr) :
    (rtspServerSessionAdd (some nextAddr) true (ids.map some) server timeoutMs uri).map
        (fun result => result.2.erase (nextAddr + 1)) =
      (Librtsp.rtspServerSessionAdd ids (server.erase nextAddr) timeoutMs uri).map Prod.snd := by
  have hfind : ∀ text, (rtspServerSessionFind (server.erase nextAddr) text).isNone =
      (server.sessions.find? fun session =>
        strncmpEq session.sessionId text rtspServerSessionIdLength).isNone := by
    intro text
    unfold rtspServerSessionFind RtspServer.erase
    rw [List.find?_map, Option.isNone_map]
    rfl
  unfold rtspServerSessionAdd Librtsp.rtspServerSessionAdd
  dsimp only
  rw [if_neg (by simp), drawSessionId_find]
  simp only [hfind, Option.map_map]
  congr 1
  funext id64
  simp [RtspServer.erase, RtspServerSession.erase, rtspServerSessionResetTimeout]

theorem removeMedias_addr (session : RtspServerSession) (medias : List RtspServerSessionMedia) :
    (removeMedias session medias).addr = session.addr := by
  unfold removeMedias
  induction medias generalizing session with
  | nil => rfl
  | cons media medias ih =>
      rw [List.foldl_cons, ih]
      unfold rtspServerSessionMediaRemove
      split
      next => rfl
      next => split <;> rfl

theorem rtspServerSessionRemove_erase (server : RtspServer) (addr nextAddr : Addr) :
    (rtspServerSessionRemove server (some addr)).2.erase nextAddr =
      Librtsp.rtspServerSessionRemove (server.erase nextAddr) addr := by
  have hremove : ∀ l : List RtspServerSession,
      (remove RtspServerSession.addr addr l).map RtspServerSession.erase =
        remove Librtsp.RtspServerSession.addr addr (l.map RtspServerSession.erase) :=
    map_remove RtspServerSession.erase_addr addr
  unfold rtspServerSessionRemove Librtsp.rtspServerSessionRemove
  dsimp only
  split
  next hlookup =>
    have hsame : remove RtspServerSession.addr addr server.sessions = server.sessions := by
      unfold remove
      rw [List.filter_eq_self]
      simpa using lookup_none.mp hlookup
    unfold RtspServer.erase
    rw [← hremove, hsame]
    rfl
  next session hlookup =>
    obtain ⟨-, rfl⟩ := lookup_some hlookup
    unfold RtspServer.setSession RtspServer.erase
    dsimp only
    rw [remove_replace (removeMedias_addr session session.medias), hremove]
    rfl

theorem rtspServerSessionMediaAdd_erase (server : RtspServer) (session : RtspServerSession)
    (uri : Bytes) (path : Option Bytes) (nextAddr : Addr) :
    (rtspServerSessionMediaAdd (some nextAddr) session uri path).1.map (fun _ =>
        (server.setSession (rtspServerSessionMediaAdd (some nextAddr) session uri path).2).erase
          (nextAddr + 1)) =
      (Librtsp.rtspServerSessionMediaAdd (server.erase nextAddr) session.erase uri path).map
        fun result => result.2.2 := by
  unfold rtspServerSessionMediaAdd Librtsp.rtspServerSessionMediaAdd
  cases path with
  | none => rfl
  | some path =>
      have hfind : (Librtsp.rtspServerSessionMediaFind session.erase (some path)).isSome =
          (rtspServerSessionMediaFind session path).isSome := by
        unfold Librtsp.rtspServerSessionMediaFind rtspServerSessionMediaFind
        rw [Option.bind_some]
        unfold RtspServerSession.erase
        rw [List.find?_map, Option.isSome_map]
        rfl
      dsimp only
      rw [hfind]
      split
      next => rfl
      next =>
        simp [RtspServer.erase, RtspServer.setSession, Librtsp.RtspServer.setSession,
          map_replace RtspServerSession.erase_addr, RtspServerSession.erase,
          RtspServerSessionMedia.erase]

theorem rtspServerSessionMediaRemove_erase (server : RtspServer) (session : RtspServerSession)
    (media nextAddr : Addr) :
    (server.setSession (rtspServerSessionMediaRemove session (some media)).2).erase nextAddr =
      Librtsp.rtspServerSessionMediaRemove (server.erase nextAddr) session.erase media := by
  have hremove : (remove RtspServerSessionMedia.addr media session.medias).map
      RtspServerSessionMedia.erase =
        (session.medias.map RtspServerSessionMedia.erase).filter (·.addr ≠ media) :=
    map_remove RtspServerSessionMedia.erase_addr media session.medias
  rw [RtspServer.erase_setSession]
  unfold rtspServerSessionMediaRemove Librtsp.rtspServerSessionMediaRemove
  congr 1
  dsimp only
  split
  next =>
    unfold RtspServerSession.erase
    rw [← hremove]
  next hmissing =>
    have hsame : remove RtspServerSessionMedia.addr media session.medias = session.medias := by
      unfold remove
      rw [List.filter_eq_self]
      simpa using hmissing
    unfold RtspServerSession.erase
    rw [← hremove, hsame]

theorem rtspServerPendingRequestAdd_erase (now : UInt64) (server : RtspServer) (conn : Conn)
    (timeout : UInt32) (nextAddr : Addr) :
    (rtspServerPendingRequestAdd (some nextAddr) now server conn timeout).2.erase
        (nextAddr + 1) =
      (Librtsp.rtspServerPendingRequestAdd now (server.erase nextAddr) conn timeout {} []).2 := by
  unfold rtspServerPendingRequestAdd Librtsp.rtspServerPendingRequestAdd RtspServer.erase
  simp [RtspServerPendingRequest.erase]

theorem rtspServerPendingRequestRemove_erase (server : RtspServer) (addr nextAddr : Addr) :
    (rtspServerPendingRequestRemove server (some addr)).2.erase nextAddr =
      Librtsp.rtspServerPendingRequestRemove (server.erase nextAddr) addr := by
  have hremove : ∀ l : List RtspServerPendingRequest,
      (remove RtspServerPendingRequest.addr addr l).map RtspServerPendingRequest.erase =
        remove Librtsp.RtspServerPendingRequest.addr addr
          (l.map RtspServerPendingRequest.erase) :=
    map_remove RtspServerPendingRequest.erase_addr addr
  unfold rtspServerPendingRequestRemove Librtsp.rtspServerPendingRequestRemove RtspServer.erase
  dsimp only
  rw [← hremove]
  split
  next => rfl
  next hmissing =>
    have hsame : remove RtspServerPendingRequest.addr addr server.pendingRequests =
        server.pendingRequests := by
      unfold remove
      rw [List.filter_eq_self]
      simpa using hmissing
    rw [hsame]

end Librtsp.Counted
