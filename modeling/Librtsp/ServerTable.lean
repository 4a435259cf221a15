import Librtsp.Server

/-!
# The table of sessions and requests

What the server's bookkeeping is about, without the texts of its headers: which
sessions exist, which operation each is busy with and which of its medias are
marked for removal; which requests are pending, on which session and medias, and
whether they were replied to.  Every function of the server acts on the table in
one of a few ways, stated here beside its name.
-/

namespace Librtsp

open RecordList

structure SessionEntry where
  addr : Addr
  op : RtspMethodType
  /-- The medias, with their teardown marks. -/
  medias : List (Addr × Bool)
  deriving DecidableEq, Repr

structure RequestEntry where
  addr : Addr
  conn : Option Conn
  cseq : Int32
  method : RtspMethodType
  target : Option Addr
  /-- The medias of its list, and the one its SETUP callback was given. -/
  references : List Addr
  inCallback : Bool
  replied : Bool
  deriving DecidableEq, Repr

@[ext]
structure Table where
  sessions : List SessionEntry
  requests : List RequestEntry
  next : Addr
  deriving DecidableEq, Repr

def RtspServerSession.entry (session : RtspServerSession) : SessionEntry where
  addr := session.addr
  op := session.opInProgress
  medias := session.medias.map fun media => (media.addr, media.isTearingDown)

def RtspServerPendingRequest.references (request : RtspServerPendingRequest) : List Addr :=
  request.medias.map RtspServerPendingRequestMedia.media ++ request.given.toList

def RtspServerPendingRequest.entry (request : RtspServerPendingRequest) : RequestEntry where
  addr := request.addr
  conn := request.conn
  cseq := request.requestHeader.cseq
  method := request.requestHeader.method
  target := request.target
  references := request.references
  inCallback := request.inCallback
  replied := request.replied

def RtspServer.table (server : RtspServer) : Table where
  sessions := server.sessions.map RtspServerSession.entry
  requests := server.pendingRequests.map RtspServerPendingRequest.entry
  next := server.nextAddr

namespace Table

/-! ## Operations -/

def setSession (e : SessionEntry) (t : Table) : Table :=
  { t with sessions := replace SessionEntry.addr e t.sessions }

def addSession (e : SessionEntry) (t : Table) : Table :=
  { t with sessions := t.sessions ++ [e] }

def removeSession (session : Addr) (t : Table) : Table :=
  { t with sessions := remove SessionEntry.addr session t.sessions }

def setRequest (r : RequestEntry) (t : Table) : Table :=
  { t with requests := replace RequestEntry.addr r t.requests }

def addRequest (r : RequestEntry) (t : Table) : Table :=
  { t with requests := t.requests ++ [r] }

def removeRequest (request : Addr) (t : Table) : Table :=
  { t with requests := remove RequestEntry.addr request t.requests }

/-- Addresses up to `next` have been given out. -/
def allocate (next : Addr) (t : Table) : Table :=
  { t with next }

def disconnect (conn : Conn) (t : Table) : Table :=
  { t with
    requests := t.requests.map fun r => if r.conn = some conn then { r with conn := none } else r }

def removeTornDown (session : Addr) (t : Table) : Table :=
  match lookup SessionEntry.addr session t.sessions with
  | none => t
  | some e =>
      if e.medias.all Prod.snd then t.removeSession session
      else t.setSession { e with medias := e.medias.filter (!·.2) }

/-- Addresses are distinct, and below the next one to give out. -/
structure WellFormed (t : Table) : Prop where
  sessionsDistinct : (t.sessions.map SessionEntry.addr).Nodup
  requestsDistinct : (t.requests.map RequestEntry.addr).Nodup
  sessionBelow : ∀ e ∈ t.sessions, e.addr < t.next
  mediaBelow : ∀ e ∈ t.sessions, ∀ media ∈ e.medias, media.1 < t.next
  mediasDistinct : ∀ e ∈ t.sessions, (e.medias.map Prod.fst).Nodup
  requestBelow : ∀ r ∈ t.requests, r.addr < t.next
  targetBelow : ∀ r ∈ t.requests, ∀ session, r.target = some session → session < t.next
  referenceBelow : ∀ r ∈ t.requests, ∀ media ∈ r.references, media < t.next

section Fields

variable (t : Table) (e : SessionEntry) (r : RequestEntry) (a next : Addr)

@[simp] theorem setSession_requests : (t.setSession e).requests = t.requests := rfl
@[simp] theorem setSession_next : (t.setSession e).next = t.next := rfl
@[simp] theorem addSession_requests : (t.addSession e).requests = t.requests := rfl
@[simp] theorem addSession_next : (t.addSession e).next = t.next := rfl
@[simp] theorem removeSession_requests : (t.removeSession a).requests = t.requests := rfl
@[simp] theorem removeSession_next : (t.removeSession a).next = t.next := rfl
@[simp] theorem setRequest_sessions : (t.setRequest r).sessions = t.sessions := rfl
@[simp] theorem setRequest_next : (t.setRequest r).next = t.next := rfl
@[simp] theorem addRequest_sessions : (t.addRequest r).sessions = t.sessions := rfl
@[simp] theorem addRequest_next : (t.addRequest r).next = t.next := rfl
@[simp] theorem removeRequest_sessions : (t.removeRequest a).sessions = t.sessions := rfl
@[simp] theorem removeRequest_next : (t.removeRequest a).next = t.next := rfl
@[simp] theorem allocate_sessions : (t.allocate next).sessions = t.sessions := rfl
@[simp] theorem allocate_requests : (t.allocate next).requests = t.requests := rfl
@[simp] theorem allocate_next : (t.allocate next).next = next := rfl

@[simp] theorem disconnect_sessions (conn : Conn) : (t.disconnect conn).sessions = t.sessions := rfl
@[simp] theorem disconnect_next (conn : Conn) : (t.disconnect conn).next = t.next := rfl

@[simp] theorem removeTornDown_requests : (t.removeTornDown a).requests = t.requests := by
  unfold removeTornDown
  split
  next => rfl
  next =>
    split
    next => rfl
    next => rfl

@[simp] theorem removeTornDown_next : (t.removeTornDown a).next = t.next := by
  unfold removeTornDown
  split
  next => rfl
  next =>
    split
    next => rfl
    next => rfl

variable {t e r a}

@[simp] theorem mem_setSession {e' : SessionEntry} :
    e' ∈ (t.setSession e).sessions ↔
      (e' ∈ t.sessions ∧ e'.addr ≠ e.addr) ∨
        (e' = e ∧ ∃ e₀ ∈ t.sessions, e₀.addr = e.addr) :=
  mem_replace

@[simp] theorem mem_addSession {e' : SessionEntry} :
    e' ∈ (t.addSession e).sessions ↔ e' ∈ t.sessions ∨ e' = e := by
  simp [addSession]

@[simp] theorem mem_removeSession {e' : SessionEntry} :
    e' ∈ (t.removeSession a).sessions ↔ e' ∈ t.sessions ∧ e'.addr ≠ a :=
  mem_remove

@[simp] theorem mem_setRequest {r' : RequestEntry} :
    r' ∈ (t.setRequest r).requests ↔
      (r' ∈ t.requests ∧ r'.addr ≠ r.addr) ∨
        (r' = r ∧ ∃ r₀ ∈ t.requests, r₀.addr = r.addr) :=
  mem_replace

@[simp] theorem mem_addRequest {r' : RequestEntry} :
    r' ∈ (t.addRequest r).requests ↔ r' ∈ t.requests ∨ r' = r := by
  simp [addRequest]

@[simp] theorem mem_removeRequest {r' : RequestEntry} :
    r' ∈ (t.removeRequest a).requests ↔ r' ∈ t.requests ∧ r'.addr ≠ a :=
  mem_remove

/-- A request loses its connection and nothing else. -/
theorem mem_disconnect
    {conn : Conn} {r' : RequestEntry} (h : r' ∈ (t.disconnect conn).requests) :
    ∃ r ∈ t.requests, r' = { r with conn := r'.conn } ∧ (r'.conn = r.conn ∨ r'.conn = none) := by
  obtain ⟨r, hr, rfl⟩ := List.mem_map.mp h
  refine ⟨r, hr, ?_⟩
  split
  next => exact ⟨rfl, .inr rfl⟩
  next => exact ⟨rfl, .inl rfl⟩

end Fields

namespace WellFormed

variable {t : Table} (hwf : t.WellFormed)

include hwf

theorem setSession_self {e : SessionEntry} (he : e ∈ t.sessions) : t.setSession e = t := by
  unfold setSession
  rw [replace_self hwf.sessionsDistinct he]

theorem setRequest_self {r : RequestEntry} (hr : r ∈ t.requests) : t.setRequest r = t := by
  unfold setRequest
  rw [replace_self hwf.requestsDistinct hr]

theorem session_unique {e e' : SessionEntry} (he : e ∈ t.sessions) (he' : e' ∈ t.sessions)
    (h : e.addr = e'.addr) : e = e' :=
  List.inj_on_of_nodup_map hwf.sessionsDistinct he he' h

theorem request_unique {r r' : RequestEntry} (hr : r ∈ t.requests) (hr' : r' ∈ t.requests)
    (h : r.addr = r'.addr) : r = r' :=
  List.inj_on_of_nodup_map hwf.requestsDistinct hr hr' h

/-- A session keeps its address. -/
theorem setSession
    {e e' : SessionEntry} (he : e ∈ t.sessions) (haddr : e'.addr = e.addr)
    (hmedias : ∀ media ∈ e'.medias, media.1 < t.next)
    (hdistinct : (e'.medias.map Prod.fst).Nodup) : (t.setSession e').WellFormed where
  sessionsDistinct := by
    simp only [Table.setSession, map_key_replace]
    exact hwf.sessionsDistinct
  requestsDistinct := hwf.requestsDistinct
  sessionBelow := by
    intro e₁ he₁
    rcases mem_setSession.mp he₁ with ⟨he₁, -⟩ | ⟨rfl, -⟩
    · exact hwf.sessionBelow e₁ he₁
    · exact haddr ▸ hwf.sessionBelow e he
  mediaBelow := by
    intro e₁ he₁
    rcases mem_setSession.mp he₁ with ⟨he₁, -⟩ | ⟨rfl, -⟩
    · exact hwf.mediaBelow e₁ he₁
    · exact hmedias
  mediasDistinct := by
    intro e₁ he₁
    rcases mem_setSession.mp he₁ with ⟨he₁, -⟩ | ⟨rfl, -⟩
    · exact hwf.mediasDistinct e₁ he₁
    · exact hdistinct
  requestBelow := hwf.requestBelow
  targetBelow := hwf.targetBelow
  referenceBelow := hwf.referenceBelow

/-- A session gets no media but old ones. -/
theorem shrinkSession
    {e e' : SessionEntry} (he : e ∈ t.sessions) (haddr : e'.addr = e.addr)
    (hmedias : (e'.medias.map Prod.fst).Sublist (e.medias.map Prod.fst)) :
    (t.setSession e').WellFormed := by
  apply hwf.setSession he haddr
  · intro media hmedia
    have hmem : media.1 ∈ e.medias.map Prod.fst :=
      hmedias.subset (List.mem_map_of_mem hmedia)
    obtain ⟨media', hmedia', heq⟩ := List.mem_map.mp hmem
    exact heq ▸ hwf.mediaBelow e he media' hmedia'
  · exact (hwf.mediasDistinct e he).sublist hmedias

theorem setRequest {r r' : RequestEntry} (hr : r ∈ t.requests) (haddr : r'.addr = r.addr)
    (htarget : r'.target = r.target) (hreferences : r'.references = r.references) :
    (t.setRequest r').WellFormed where
  sessionsDistinct := hwf.sessionsDistinct
  requestsDistinct := by
    simp only [Table.setRequest, map_key_replace]
    exact hwf.requestsDistinct
  sessionBelow := hwf.sessionBelow
  mediaBelow := hwf.mediaBelow
  mediasDistinct := hwf.mediasDistinct
  requestBelow := by
    intro r₁ hr₁
    rcases mem_setRequest.mp hr₁ with ⟨hr₁, -⟩ | ⟨rfl, -⟩
    · exact hwf.requestBelow r₁ hr₁
    · exact haddr ▸ hwf.requestBelow r hr
  targetBelow := by
    intro r₁ hr₁
    rcases mem_setRequest.mp hr₁ with ⟨hr₁, -⟩ | ⟨rfl, -⟩
    · exact hwf.targetBelow r₁ hr₁
    · exact htarget ▸ hwf.targetBelow r hr
  referenceBelow := by
    intro r₁ hr₁
    rcases mem_setRequest.mp hr₁ with ⟨hr₁, -⟩ | ⟨rfl, -⟩
    · exact hwf.referenceBelow r₁ hr₁
    · exact hreferences ▸ hwf.referenceBelow r hr

theorem removeSession (session : Addr) : (t.removeSession session).WellFormed where
  sessionsDistinct := nodup_remove hwf.sessionsDistinct
  requestsDistinct := hwf.requestsDistinct
  sessionBelow := fun e he => hwf.sessionBelow e (mem_removeSession.mp he).1
  mediaBelow := fun e he => hwf.mediaBelow e (mem_removeSession.mp he).1
  mediasDistinct := fun e he => hwf.mediasDistinct e (mem_removeSession.mp he).1
  requestBelow := hwf.requestBelow
  targetBelow := hwf.targetBelow
  referenceBelow := hwf.referenceBelow

theorem removeRequest (request : Addr) : (t.removeRequest request).WellFormed where
  sessionsDistinct := hwf.sessionsDistinct
  requestsDistinct := nodup_remove hwf.requestsDistinct
  sessionBelow := hwf.sessionBelow
  mediaBelow := hwf.mediaBelow
  mediasDistinct := hwf.mediasDistinct
  requestBelow := fun r hr => hwf.requestBelow r (mem_removeRequest.mp hr).1
  targetBelow := fun r hr => hwf.targetBelow r (mem_removeRequest.mp hr).1
  referenceBelow := fun r hr => hwf.referenceBelow r (mem_removeRequest.mp hr).1

theorem removeTornDown (session : Addr) : (t.removeTornDown session).WellFormed := by
  unfold Table.removeTornDown
  split
  next => exact hwf
  next e hfound =>
    split
    next => exact hwf.removeSession session
    next =>
      apply hwf.shrinkSession (lookup_some hfound).1
      · rfl
      · exact List.filter_sublist.map Prod.fst

theorem disconnect (conn : Conn) : (t.disconnect conn).WellFormed where
  sessionsDistinct := hwf.sessionsDistinct
  requestsDistinct := by
    have hmap : (t.disconnect conn).requests.map RequestEntry.addr =
        t.requests.map RequestEntry.addr := by
      simp only [Table.disconnect, List.map_map]
      apply List.map_congr_left
      intro r _
      simp only [Function.comp_apply]
      split
      next => rfl
      next => rfl
    rw [hmap]
    exact hwf.requestsDistinct
  sessionBelow := hwf.sessionBelow
  mediaBelow := hwf.mediaBelow
  mediasDistinct := hwf.mediasDistinct
  requestBelow := by
    intro r' hr'
    obtain ⟨r, hr, heq, -⟩ := mem_disconnect hr'
    rw [heq]
    exact hwf.requestBelow r hr
  targetBelow := by
    intro r' hr'
    obtain ⟨r, hr, heq, -⟩ := mem_disconnect hr'
    rw [heq]
    exact hwf.targetBelow r hr
  referenceBelow := by
    intro r' hr'
    obtain ⟨r, hr, heq, -⟩ := mem_disconnect hr'
    rw [heq]
    exact hwf.referenceBelow r hr

theorem allocate {next : Addr} (hnext : t.next ≤ next) : (t.allocate next).WellFormed where
  sessionsDistinct := hwf.sessionsDistinct
  requestsDistinct := hwf.requestsDistinct
  sessionBelow := fun e he => lt_of_lt_of_le (hwf.sessionBelow e he) hnext
  mediaBelow := fun e he media hmedia => lt_of_lt_of_le (hwf.mediaBelow e he media hmedia) hnext
  mediasDistinct := hwf.mediasDistinct
  requestBelow := fun r hr => lt_of_lt_of_le (hwf.requestBelow r hr) hnext
  targetBelow := fun r hr session h => lt_of_lt_of_le (hwf.targetBelow r hr session h) hnext
  referenceBelow := fun r hr media h => lt_of_lt_of_le (hwf.referenceBelow r hr media h) hnext

/-- A request with a new address, on a session and medias that exist. -/
theorem addRequest {r : RequestEntry} (haddr : r.addr < t.next)
    (hnew : ∀ r' ∈ t.requests, r'.addr ≠ r.addr)
    (htarget : ∀ session, r.target = some session → session < t.next)
    (hreferences : ∀ media ∈ r.references, media < t.next) : (t.addRequest r).WellFormed where
  sessionsDistinct := hwf.sessionsDistinct
  requestsDistinct := nodup_append hwf.requestsDistinct hnew
  sessionBelow := hwf.sessionBelow
  mediaBelow := hwf.mediaBelow
  mediasDistinct := hwf.mediasDistinct
  requestBelow := by
    intro r' hr'
    rcases mem_addRequest.mp hr' with hr' | rfl
    · exact hwf.requestBelow r' hr'
    · exact haddr
  targetBelow := by
    intro r' hr'
    rcases mem_addRequest.mp hr' with hr' | rfl
    · exact hwf.targetBelow r' hr'
    · exact htarget
  referenceBelow := by
    intro r' hr'
    rcases mem_addRequest.mp hr' with hr' | rfl
    · exact hwf.referenceBelow r' hr'
    · exact hreferences

/-- A session with a new address and new medias. -/
theorem addSession {e : SessionEntry} (haddr : e.addr < t.next)
    (hnew : ∀ e' ∈ t.sessions, e'.addr ≠ e.addr)
    (hmedias : ∀ media ∈ e.medias, media.1 < t.next) (hdistinct : (e.medias.map Prod.fst).Nodup) :
    (t.addSession e).WellFormed where
  sessionsDistinct := nodup_append hwf.sessionsDistinct hnew
  requestsDistinct := hwf.requestsDistinct
  sessionBelow := by
    intro e' he'
    rcases mem_addSession.mp he' with he' | rfl
    · exact hwf.sessionBelow e' he'
    · exact haddr
  mediaBelow := by
    intro e' he'
    rcases mem_addSession.mp he' with he' | rfl
    · exact hwf.mediaBelow e' he'
    · exact hmedias
  mediasDistinct := by
    intro e' he'
    rcases mem_addSession.mp he' with he' | rfl
    · exact hwf.mediasDistinct e' he'
    · exact hdistinct
  requestBelow := hwf.requestBelow
  targetBelow := hwf.targetBelow
  referenceBelow := hwf.referenceBelow

end WellFormed

end Table

/-! ## The table of a server -/

@[simp] theorem RtspServerSession.entry_addr (session : RtspServerSession) :
    session.entry.addr = session.addr := rfl

@[simp] theorem RtspServerSession.entry_medias_fst (session : RtspServerSession) :
    session.entry.medias.map Prod.fst = session.medias.map RtspServerSessionMedia.addr := by
  simp [RtspServerSession.entry, Function.comp_def]

theorem RtspServerPendingRequest.entry_references (request : RtspServerPendingRequest) :
    request.entry.references = request.references := rfl

@[simp] theorem RtspServerPendingRequest.entry_addr (request : RtspServerPendingRequest) :
    request.entry.addr = request.addr := rfl

namespace RtspServer

variable (server : RtspServer)

@[simp] theorem table_next : server.table.next = server.nextAddr := rfl

@[simp] theorem table_setSession (session : RtspServerSession) :
    (server.setSession session).table = server.table.setSession session.entry := by
  simp only [table, setSession, Table.setSession]
  rw [map_replace RtspServerSession.entry_addr]

@[simp] theorem table_setRequest (request : RtspServerPendingRequest) :
    (server.setRequest request).table = server.table.setRequest request.entry := by
  simp only [table, setRequest, Table.setRequest]
  rw [map_replace RtspServerPendingRequest.entry_addr]

@[simp] theorem table_removeSession (session : Addr) :
    (rtspServerSessionRemove server session).table = server.table.removeSession session := by
  simp only [table, rtspServerSessionRemove, Table.removeSession]
  rw [map_remove RtspServerSession.entry_addr]

@[simp] theorem table_removeRequest (request : Addr) :
    (rtspServerPendingRequestRemove server request).table =
      server.table.removeRequest request := by
  simp only [table, rtspServerPendingRequestRemove, Table.removeRequest]
  rw [map_remove RtspServerPendingRequest.entry_addr]

variable {server}

theorem findSession_some
    {a : Addr} {session : RtspServerSession} (h : server.findSession a = some session) :
    session ∈ server.sessions ∧ session.addr = a :=
  lookup_some h

theorem findRequest_some
    {a : Addr} {request : RtspServerPendingRequest} (h : server.findRequest a = some request) :
    request ∈ server.pendingRequests ∧ request.addr = a :=
  lookup_some h

theorem mediaSession_some
    {media : Addr} {session : RtspServerSession} (h : server.mediaSession media = some session) :
    session ∈ server.sessions ∧ ∃ m ∈ session.medias, m.addr = media := by
  refine ⟨List.mem_of_find?_eq_some h, ?_⟩
  simpa using List.find?_some h

theorem session_keys_nodup (hwf : server.table.WellFormed) :
    (server.sessions.map RtspServerSession.addr).Nodup := by
  have hdistinct := hwf.sessionsDistinct
  rwa [table, List.map_map] at hdistinct

theorem entry_mem_sessions {session : RtspServerSession} (h : session ∈ server.sessions) :
    session.entry ∈ server.table.sessions :=
  List.mem_map_of_mem h

theorem entry_mem_requests
    {request : RtspServerPendingRequest} (h : request ∈ server.pendingRequests) :
    request.entry ∈ server.table.requests :=
  List.mem_map_of_mem h

theorem lookup_table_sessions (a : Addr) :
    lookup SessionEntry.addr a server.table.sessions =
      (server.findSession a).map RtspServerSession.entry := by
  simp only [table, findSession, lookup, List.find?_map]
  rfl

@[simp] theorem table_removeTornDown (session : Addr) :
    (removeTornDown session server).table = server.table.removeTornDown session := by
  unfold removeTornDown Table.removeTornDown
  rw [lookup_table_sessions]
  cases server.findSession session with
  | none => rfl
  | some s =>
      have hall : s.entry.medias.all Prod.snd =
          s.medias.all RtspServerSessionMedia.isTearingDown := by
        simp [RtspServerSession.entry, List.all_map, Function.comp_def]
      have hfilter : s.entry.medias.filter (!·.2) =
          (s.medias.filter (!·.isTearingDown)).map fun m => (m.addr, m.isTearingDown) := by
        simp [RtspServerSession.entry, List.filter_map, Function.comp_def]
      simp only [Option.map_some, hall]
      split
      next => rw [table_removeSession]
      next =>
        rw [table_setSession]
        simp only [RtspServerSession.entry] at hfilter ⊢
        rw [hfilter]

end RtspServer

end Librtsp
