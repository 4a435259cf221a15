import Librtsp.Message
import Librtsp.SessionTimeouts
import Librtsp.UrlText

/-!
# The client and its sessions

The client object, the list of its sessions with their medias, and the map of the
interleaved channels in use.  As on the server, an object is known by its address, an
address is given out once, and allocation does not fail.

A timer is the delay it was armed with, or nothing; the transport client, which is
outside of the library, appears as what it was last told and whether it is connected.
-/

namespace Librtsp

open CString

/-! ## States of a connection and of a request -/

inductive RtspClientConnState where
  | disconnected
  | connecting
  | connected
  | disconnecting
  deriving DecidableEq, Repr

inductive RtspClientReqStatus where
  | ok
  | canceled
  | failed
  | aborted
  | timeout
  deriving DecidableEq, Repr

/-- The callbacks an application may leave out. -/
structure RtspClientCbs where
  readyToSend : Bool := true
  interleavedData : Bool := true
  optionsResp : Bool := true
  describeResp : Bool := true
  announceResp : Bool := true
  setupResp : Bool := true
  playResp : Bool := true
  pauseResp : Bool := true
  recordResp : Bool := true
  teardownResp : Bool := true
  teardown : Bool := true
  deriving DecidableEq, Repr

/-- The callback that reports the response to a request of the method. -/
def RtspClientCbs.resp (cbs : RtspClientCbs) : RtspMethodType → Bool
  | .options => cbs.optionsResp
  | .describe => cbs.describeResp
  | .announce => cbs.announceResp
  | .setup => cbs.setupResp
  | .play => cbs.playResp
  | .pause => cbs.pauseResp
  | .record => cbs.recordResp
  | .teardown => cbs.teardownResp
  | _ => false

/-! ## The records -/

structure RtspClientSessionMedia where
  addr : Addr
  path : Bytes
  channelPair : RtspChannelPair := { rtp := 0, rtcp := 0 }
  deriving DecidableEq, Repr

structure RtspClientSession where
  addr : Addr
  id : Bytes
  timer : Option UInt32 := none
  contentBase : Option Bytes := none
  timeoutMs : UInt32 := 0
  failedKeepAlive : Nat := 0
  keepAliveInProgress : Bool := false
  internalTeardown : Bool := false
  medias : List RtspClientSessionMedia := []
  deriving DecidableEq, Repr

structure RtspClientRequest where
  header : RtspRequestHeader := {}
  isPending : Bool := false
  isInternal : Bool := false
  uri : Option Bytes := none
  contentBase : Option Bytes := none
  userdata : Nat := 0
  timer : Option UInt32 := none
  deriving DecidableEq, Repr

/-- The fields after `receiver` are not in the source: the transport was told to connect,
the resolver requests that were not answered or cancelled, and the next address. -/
structure RtspClient where
  cbs : RtspClientCbs := {}
  softwareName : Bytes := ascii "librtsp_client"
  auth : Option RtspAuthorizationHeader := none
  serverAuth : Option RtspAuthorizationHeader := none
  channelUsed : UInt8 → Bool := fun _ => false
  url : Option (Addr × RtspUrlObject) := none
  urlStr : Option Bytes := none
  resolvReqId : Nat := 0
  resolvTimer : Bool := false
  connState : RtspClientConnState := .disconnected
  cseq : UInt32 := 1
  methodsAllowed : UInt32 := 0
  sessions : List RtspClientSession := []
  failedRequests : Nat := 0
  request : RtspClientRequest := {}
  sock : Bool := false
  receiver : Receiver := {}
  active : Bool := false
  resolving : List Nat := []
  nextAddr : Addr := 0

def rtspClientNew (softwareName : Option Bytes) (cbs : RtspClientCbs) : RtspClient where
  cbs := cbs
  softwareName := softwareName.getD (ascii "librtsp_client")

def rtspClientSessionIdLength : Nat := 8

def rtspClientMaxFailedRequests : Nat := 5

def rtspClientMaxFailedKeepAlive : Nat := 3

/-- The size of the buffers a message is written to. -/
def clientBufferSize : Nat := 4096 - 1

/-! ## Channels -/

/-- `is_channel_pair_valid` -/
def RtspChannelPair.isValid (pair : RtspChannelPair) : Bool :=
  pair.rtp ≠ pair.rtcp

def setChannelPairUsed (channelUsed : UInt8 → Bool) (pair : RtspChannelPair) (used : Bool) :
    UInt8 → Bool :=
  if pair.isValid then
    fun channel => if channel = pair.rtp ∨ channel = pair.rtcp then used else channelUsed channel
  else channelUsed

/-! ## Lookup and update by address -/

namespace RtspClient

def findSession (client : RtspClient) (session : Addr) : Option RtspClientSession :=
  RecordList.lookup RtspClientSession.addr session client.sessions

def setSession (client : RtspClient) (session : RtspClientSession) : RtspClient :=
  { client with
    sessions := RecordList.replace RtspClientSession.addr session client.sessions }

def setHeader (client : RtspClient) (header : RtspRequestHeader) : RtspClient :=
  { client with request := { client.request with header } }

end RtspClient

/-! ## Sessions -/

def rtspClientSessionFind (client : RtspClient) (sessionId : Option Bytes) :
    Option RtspClientSession :=
  sessionId.bind fun sessionId =>
    client.sessions.find? fun session =>
      strncmpEq session.id sessionId rtspClientSessionIdLength

/-- The session with this id, or one that is added for it, and the client. -/
def rtspClientGetSession (client : RtspClient) (sessionId : Option Bytes) (add : Bool) :
    Option (RtspClientSession × RtspClient) :=
  match rtspClientSessionFind client sessionId, sessionId with
  | some session, _ => some (session, client)
  | none, none => none
  | none, some sessionId =>
      if add then
        let session : RtspClientSession := { addr := client.nextAddr, id := sessionId }
        some (session,
          { client with
            sessions := client.sessions ++ [session]
            nextAddr := client.nextAddr + 1 })
      else none

/-- A delay of zero leaves the timer as it is, a negative one disarms it. -/
def resetKeepAliveTimer (session : RtspClientSession) (timerMsec : UInt32) : RtspClientSession :=
  if timerMsec = 0 then session
  else { session with timer := if 0 < timerMsec.toInt32 then some timerMsec else none }

/-! ## Medias -/

def rtspClientSessionMediaFind (session : RtspClientSession) (path : Option Bytes) :
    Option RtspClientSessionMedia :=
  path.bind fun path => session.medias.find? fun media => media.path = path

/-- The client with the media added, unless there is no path or the session has one with
this path. -/
def rtspClientSessionMediaAdd (client : RtspClient) (session : RtspClientSession)
    (path : Option Bytes) (channelPair : Option RtspChannelPair) : Option RtspClient :=
  match path, rtspClientSessionMediaFind session path with
  | some path, none =>
      let media : RtspClientSessionMedia :=
        { addr := client.nextAddr, path, channelPair := channelPair.getD { rtp := 0, rtcp := 0 } }
      some
        { client.setSession { session with medias := session.medias ++ [media] } with
          nextAddr := client.nextAddr + 1 }
  | _, _ => none

/-- The media leaves its session, and its channels are free again. -/
def dropMedia (client : RtspClient) (session : RtspClientSession)
    (media : RtspClientSessionMedia) : RtspClient :=
  { client.setSession
      { session with
        medias := RecordList.remove RtspClientSessionMedia.addr media.addr session.medias } with
    channelUsed := setChannelPairUsed client.channelUsed media.channelPair false }

/-- All medias of the session. -/
def dropMedias (client : RtspClient) (session : RtspClientSession) : RtspClient :=
  { client.setSession { session with medias := [] } with
    channelUsed :=
      session.medias.foldl (fun used media => setChannelPairUsed used media.channelPair false)
        client.channelUsed }

end Librtsp
