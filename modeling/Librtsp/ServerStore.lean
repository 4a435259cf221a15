import Librtsp.Header
import Librtsp.RecordList

/-!
# Sessions and pending requests of the server

The lists the server keeps, with the functions that add to them, remove from
them and search them.  An object is known by its address.  An address is not
given out a second time, and allocation does not fail.

A media stands in the list of its session, so that the session pointer of a
media is the session it is found in.  The server counts the objects of its lists
in separate fields; here the count is the length.
-/

namespace Librtsp

open CString

abbrev Addr := Nat

abbrev Conn := Nat

/-! ## The records -/

structure RtspServerSessionMedia where
  addr : Addr
  uri : Option Bytes := none
  path : Bytes
  isTearingDown : Bool := false
  deriving DecidableEq, Repr

/-- The timer of a session is known by how often it has been set. -/
structure RtspServerSession where
  addr : Addr
  sessionId : Bytes
  uri : Option Bytes := none
  timeoutMs : UInt32 := 0
  timerSets : Nat := 0
  playing : Bool := false
  recording : Bool := false
  range : RtspRange := {}
  scale : UInt32 := 0
  opInProgress : RtspMethodType := .unknown
  medias : List RtspServerSessionMedia := []
  deriving DecidableEq, Repr

structure RtspServerPendingRequestMedia where
  media : Addr
  replied : Bool := false
  deriving DecidableEq, Repr

/-- A pending request.  The last two fields are not in the source: the session
whose operation the request became, and the media its SETUP callback was given. -/
structure RtspServerPendingRequest where
  addr : Addr
  conn : Option Conn
  requestHeader : RtspRequestHeader
  responseHeader : RtspResponseHeader := {}
  timeout : UInt64 := 0
  requestFirstReply : Bool := true
  inCallback : Bool := false
  replied : Bool := false
  body : Bytes := []
  medias : List RtspServerPendingRequestMedia := []
  target : Option Addr := none
  given : Option Addr := none
  deriving DecidableEq, Repr

/-- The callbacks an application may leave out. -/
structure RtspServerCbs where
  announce : Bool := true
  record : Bool := true
  interleavedData : Bool := true
  deriving DecidableEq, Repr

/-- The receive buffer and its parser context belong to the receive loop and are
kept beside the server. -/
structure RtspServer where
  maxMsgSize : Nat := 2 * 4096 - 1
  cbs : RtspServerCbs := {}
  softwareName : Bytes := ascii "librtsp_server"
  replyTimeoutMs : UInt32 := 1000
  sessionTimeoutMs : UInt32 := 60000
  sessions : List RtspServerSession := []
  pendingRequests : List RtspServerPendingRequest := []
  cseq : UInt32 := 1
  removeIdle : List Addr := []
  nextAddr : Addr := 0
  deriving DecidableEq, Repr

/-- A timeout of zero asks for the default. -/
def rtspServerNew (softwareName : Option Bytes) (replyTimeoutMs sessionTimeoutMs : Int32)
    (cbs : RtspServerCbs) : RtspServer where
  cbs := cbs
  softwareName := softwareName.getD (ascii "librtsp_server")
  replyTimeoutMs := if replyTimeoutMs = 0 then 1000 else replyTimeoutMs.toUInt32
  sessionTimeoutMs := if sessionTimeoutMs = 0 then 60000 else sessionTimeoutMs.toUInt32

def rtspServerSessionIdLength : Nat := 8

namespace RtspServer

/-! ## Lookup and update by address -/

def findSession (server : RtspServer) (session : Addr) : Option RtspServerSession :=
  RecordList.lookup RtspServerSession.addr session server.sessions

def findRequest (server : RtspServer) (request : Addr) : Option RtspServerPendingRequest :=
  RecordList.lookup RtspServerPendingRequest.addr request server.pendingRequests

/-- `media->session` -/
def mediaSession (server : RtspServer) (media : Addr) : Option RtspServerSession :=
  server.sessions.find? fun session => session.medias.any (·.addr = media)

def setSession (server : RtspServer) (session : RtspServerSession) : RtspServer :=
  { server with
    sessions := RecordList.replace RtspServerSession.addr session server.sessions }

def setRequest (server : RtspServer) (request : RtspServerPendingRequest) : RtspServer :=
  { server with
    pendingRequests :=
      RecordList.replace RtspServerPendingRequest.addr request server.pendingRequests }

end RtspServer

/-! ## Sessions -/

def rtspServerSessionFind (server : RtspServer) (sessionId : Bytes) :
    Option RtspServerSession :=
  server.sessions.find? fun session =>
    strncmpEq session.sessionId sessionId rtspServerSessionIdLength

def formatSessionId (id64 : UInt64) : Bytes :=
  (formatHex 16 id64.toNat).map toLower

/-- The timer is set again, for the whole time.  Every session has one, as the timeout of
the server is not zero. -/
def rtspServerSessionResetTimeout (session : RtspServerSession) : RtspServerSession :=
  { session with timerSets := session.timerSets + 1 }

/-- `ids` are the random numbers drawn: the loop ends at the first one whose
text no session has, and goes on for as long as there is none. -/
def rtspServerSessionAdd (ids : List UInt64) (server : RtspServer) (timeoutMs : UInt32)
    (uri : Option Bytes) : Option (RtspServerSession × RtspServer) :=
  (ids.find? fun id64 => (rtspServerSessionFind server (formatSessionId id64)).isNone).map
    fun id64 =>
      let session : RtspServerSession :=
        rtspServerSessionResetTimeout
          { addr := server.nextAddr, sessionId := formatSessionId id64, uri, timeoutMs }
      (session, { server with
        sessions := server.sessions ++ [session]
        nextAddr := server.nextAddr + 1 })

def rtspServerSessionRemove (server : RtspServer) (session : Addr) : RtspServer :=
  { server with
    sessions := RecordList.remove RtspServerSession.addr session server.sessions
    removeIdle := server.removeIdle.filter (· ≠ session) }

def rtspServerSessionMediaFind (session : RtspServerSession) (path : Option Bytes) :
    Option RtspServerSessionMedia :=
  path.bind fun path => session.medias.find? (·.path = path)

/-- The media and the session it was added to. -/
def rtspServerSessionMediaAdd (server : RtspServer) (session : RtspServerSession)
    (uri path : Option Bytes) :
    Option (RtspServerSessionMedia × RtspServerSession × RtspServer) :=
  match path with
  | none => none
  | some path =>
      if (rtspServerSessionMediaFind session (some path)).isSome then none
      else
        let media : RtspServerSessionMedia := { addr := server.nextAddr, uri, path }
        let session := { session with medias := session.medias ++ [media] }
        some (media, session,
          { server.setSession session with nextAddr := server.nextAddr + 1 })

def rtspServerSessionMediaRemove (server : RtspServer) (session : RtspServerSession)
    (media : Addr) : RtspServer :=
  server.setSession { session with medias := session.medias.filter (·.addr ≠ media) }

/-! ## Pending requests -/

/-- `now` is the monotonic clock in microseconds. -/
def rtspServerPendingRequestAdd (now : UInt64) (server : RtspServer) (conn : Conn)
    (timeout : UInt32) (requestHeader : RtspRequestHeader) (body : Bytes) :
    RtspServerPendingRequest × RtspServer :=
  let request : RtspServerPendingRequest :=
    { addr := server.nextAddr
      conn := some conn
      requestHeader
      timeout := if 0 < timeout then now + timeout.toUInt64 * 1000 else 0
      body }
  (request, { server with
    pendingRequests := server.pendingRequests ++ [request]
    nextAddr := server.nextAddr + 1 })

def rtspServerPendingRequestRemove (server : RtspServer) (request : Addr) : RtspServer :=
  { server with
    pendingRequests :=
      RecordList.remove RtspServerPendingRequest.addr request server.pendingRequests }

end Librtsp
