import Librtsp.CString

/-!
# RTSP headers

The records the library reads from and writes to the wire, with the names it
gives to methods, transports and statuses.  A nullable string is an `Option`,
a counted array is a list, a `float` is its bit pattern.  Failing
functions return negated error numbers with the values of Linux.
-/

namespace Librtsp

open CString

/-! ## Error numbers -/

/-- The error numbers the library names, and any other one. -/
inductive Errno where
  | eperm
  | enoent
  | eagain
  | enomem
  | eacces
  | ebusy
  | einval
  | erange
  | enametoolong
  | enosys
  | eproto
  | eprotonosupport
  | enobufs
  | etimedout
  | ealready
  | other (n : Nat)
  deriving DecidableEq, Repr

def Errno.num : Errno → Nat
  | .eperm => 1
  | .enoent => 2
  | .eagain => 11
  | .enomem => 12
  | .eacces => 13
  | .ebusy => 16
  | .einval => 22
  | .erange => 34
  | .enametoolong => 36
  | .enosys => 38
  | .eproto => 71
  | .eprotonosupport => 93
  | .enobufs => 105
  | .etimedout => 110
  | .ealready => 114
  | .other n => n + 1

/-- The return value of a function that fails with this error. -/
def Errno.ret (e : Errno) : Int := -(e.num : Int)

theorem Errno.ret_neg (e : Errno) : e.ret < 0 := by
  cases e <;> simp only [Errno.ret, Errno.num] <;> omega

/-! ## Time and number routines outside the library -/

inductive TimeFmt where
  | rfc1123
  | iso8601Short
  deriving DecidableEq, Repr

/-- The time helpers of futils and the floating point routines of the C library. -/
structure Platform where
  atof : Bytes → UInt32
  floatToUInt64 : UInt32 → UInt64
  floatMicros : UInt32 → UInt64 → UInt32
  formatFixed2 : UInt32 → Bytes
  formatMillis : UInt32 → Bytes
  timeLocalParse : Bytes → Except Errno UInt64
  timeLocalFormat : TimeFmt → UInt64 → Except Errno Bytes

/-- A platform without dates or floating point numbers. -/
def Platform.bare : Platform where
  atof _ := 0
  floatToUInt64 _ := 0
  floatMicros _ _ := 0
  formatFixed2 _ := []
  formatMillis _ := []
  timeLocalParse _ := .error .einval
  timeLocalFormat _ _ := .error .einval

/-! ## Methods -/

inductive RtspMethodType where
  | unknown
  | options
  | describe
  | announce
  | setup
  | play
  | pause
  | teardown
  | getParameter
  | setParameter
  | redirect
  | record
  deriving DecidableEq, Repr

def rtspMethodTypeStr : RtspMethodType → Bytes
  | .unknown => ascii "UNKNOWN"
  | .options => ascii "OPTIONS"
  | .describe => ascii "DESCRIBE"
  | .announce => ascii "ANNOUNCE"
  | .setup => ascii "SETUP"
  | .play => ascii "PLAY"
  | .pause => ascii "PAUSE"
  | .teardown => ascii "TEARDOWN"
  | .getParameter => ascii "GET_PARAMETER"
  | .setParameter => ascii "SET_PARAMETER"
  | .redirect => ascii "REDIRECT"
  | .record => ascii "RECORD"

/-- The methods in the order of their flags. -/
def rtspMethods : List RtspMethodType :=
  [.options, .describe, .announce, .setup, .play, .pause, .teardown, .getParameter,
    .setParameter, .redirect, .record]

def rtspMethodTypeEnum (val : Option Bytes) : RtspMethodType :=
  match val with
  | none => .unknown
  | some val => (rtspMethods.find? fun m => rtspMethodTypeStr m == val).getD .unknown

/-- The bit of a method in `Public` and `Allow` sets. -/
def rtspMethodFlag : RtspMethodType → UInt32
  | .unknown => 0
  | .options => 0x001
  | .describe => 0x002
  | .announce => 0x004
  | .setup => 0x008
  | .play => 0x010
  | .pause => 0x020
  | .teardown => 0x040
  | .getParameter => 0x080
  | .setParameter => 0x100
  | .redirect => 0x200
  | .record => 0x400

/-! ## Transport -/

inductive RtspDelivery where
  | multicast
  | unicast
  deriving DecidableEq, Repr

inductive RtspLowerTransport where
  | udp
  | tcp
  | mux
  deriving DecidableEq, Repr

def rtspLowerTransportStr : RtspLowerTransport → Bytes
  | .udp => ascii "UDP"
  | .tcp => ascii "TCP"
  | .mux => ascii "MUX"

inductive RtspTransportMethod where
  | unknown
  | play
  | record
  deriving DecidableEq, Repr

structure RtspChannelPair where
  rtp : UInt8
  rtcp : UInt8
  deriving DecidableEq, Repr

def rtspMaxInterleavedMedia : Nat := 10

structure RtspTransportHeader where
  transportProtocol : Option Bytes := none
  transportProfile : Option Bytes := none
  lowerTransport : RtspLowerTransport := .udp
  interleaved : List RtspChannelPair := []
  delivery : RtspDelivery := .multicast
  destination : Option Bytes := none
  source : Option Bytes := none
  layers : UInt32 := 0
  method : RtspTransportMethod := .unknown
  append : Bool := false
  ttl : UInt32 := 0
  srcStreamPort : UInt16 := 0
  srcControlPort : UInt16 := 0
  dstStreamPort : UInt16 := 0
  dstControlPort : UInt16 := 0
  ssrcValid : Bool := false
  ssrc : UInt32 := 0
  deriving DecidableEq, Repr

def rtspTransportMaxCount : Nat := 5

/-! ## Authorization -/

inductive RtspAuthType where
  | unknown
  | basic
  | digest
  deriving DecidableEq, Repr

/-- Only asked for the two known types. -/
def rtspAuthTypeStr : RtspAuthType → Bytes
  | .unknown => []
  | .basic => ascii "Basic"
  | .digest => ascii "Digest"

inductive RtspAuthAlgorithm where
  | unknown
  | unspecified
  | md5
  | md5Sess
  deriving DecidableEq, Repr

def rtspAuthAlgorithmStr : RtspAuthAlgorithm → Option Bytes
  | .unknown => none
  | .unspecified => none
  | .md5 => some (ascii "MD5")
  | .md5Sess => some (ascii "MD5-sess")

def rtspAuthAlgorithmFromStr (str : Option Bytes) : RtspAuthAlgorithm :=
  match str with
  | none => .unspecified
  | some [] => .unspecified
  | some str =>
      if strcasecmpEq str (ascii "MD5") then .md5
      else if strcasecmpEq str (ascii "MD5-sess") then .md5Sess
      else .unknown

inductive RtspAuthQop where
  | unknown
  | unspecified
  | auth
  | authInt
  deriving DecidableEq, Repr

def rtspAuthQopStr : RtspAuthQop → Option Bytes
  | .unknown => none
  | .unspecified => none
  | .auth => some (ascii "auth")
  | .authInt => some (ascii "auth-int")

def rtspAuthQopFromStr (str : Option Bytes) : RtspAuthQop :=
  match str with
  | none => .unspecified
  | some [] => .unspecified
  | some str =>
      if strcasecmpEq str (ascii "auth") then .auth
      else if strcasecmpEq str (ascii "auth-int") then .authInt
      else .unknown

structure RtspAuthorizationHeader where
  type : RtspAuthType := .unknown
  algorithm : RtspAuthAlgorithm := .unspecified
  username : Option Bytes := none
  uri : Option Bytes := none
  response : Option Bytes := none
  cnonce : Option Bytes := none
  nc : UInt32 := 0
  credentials : Option Bytes := none
  realm : Option Bytes := none
  nonce : Option Bytes := none
  opaqueData : Option Bytes := none
  qop : RtspAuthQop := .unspecified
  deriving DecidableEq, Repr

/-! ## Range, RTP-Info, extensions -/

inductive RtspTimeFormat where
  | unknown
  | npt
  | smpte
  | absolute
  deriving DecidableEq, Repr

/-- A time with the fields of its normal play time member, the only format
that is read or written. -/
structure RtspTime where
  format : RtspTimeFormat := .unknown
  now : Bool := false
  infinity : Bool := false
  sec : UInt64 := 0
  usec : UInt32 := 0
  deriving DecidableEq, Repr

structure RtspRange where
  start : RtspTime := {}
  stop : RtspTime := {}
  time : UInt64 := 0
  deriving DecidableEq, Repr

structure RtspRtpInfoHeader where
  url : Option Bytes := none
  seqValid : Bool := false
  seq : UInt16 := 0
  rtptimeValid : Bool := false
  rtptime : UInt32 := 0
  deriving DecidableEq, Repr

structure RtspHeaderExt where
  key : Bytes
  value : Bytes
  deriving DecidableEq, Repr

/-! ## Request and response -/

structure RtspRequestHeader where
  method : RtspMethodType := .unknown
  uri : Option Bytes := none
  cseq : Int32 := 0
  date : UInt64 := 0
  sessionId : Option Bytes := none
  sessionTimeout : UInt32 := 0
  transport : List RtspTransportHeader := []
  authorization : Option RtspAuthorizationHeader := none
  contentType : Option Bytes := none
  scale : UInt32 := 0
  userAgent : Option Bytes := none
  server : Option Bytes := none
  accept : Option Bytes := none
  range : RtspRange := {}
  contentLength : Int32 := 0
  ext : List RtspHeaderExt := []
  deriving DecidableEq, Repr

structure RtspResponseHeader where
  statusCode : Int := 0
  statusString : Option Bytes := none
  cseq : Int32 := 0
  date : UInt64 := 0
  sessionId : Option Bytes := none
  sessionTimeout : UInt32 := 0
  transport : Option RtspTransportHeader := none
  authenticate : Option RtspAuthorizationHeader := none
  contentType : Option Bytes := none
  scale : UInt32 := 0
  publicMethods : UInt32 := 0
  allowedMethods : UInt32 := 0
  rtpInfo : List RtspRtpInfoHeader := []
  server : Option Bytes := none
  range : RtspRange := {}
  contentLength : Int32 := 0
  contentEncoding : Option Bytes := none
  contentLanguage : Option Bytes := none
  contentBase : Option Bytes := none
  contentLocation : Option Bytes := none
  ext : List RtspHeaderExt := []
  deriving DecidableEq, Repr

def rtspVersion : Bytes := ascii "RTSP/1.0"

def pathMax : Nat := 4096

def rtspCrlf : Bytes := [0x0d, 0x0a]

/-- `scale != 0.`: both zeros of a `float` compare equal to zero. -/
def scaleSet (scale : UInt32) : Bool :=
  scale &&& 0x7fffffff != 0

/-- `str != NULL && str[0] != '\0'` -/
def nonEmpty (str : Option Bytes) : Option Bytes :=
  str.filter (· ≠ [])

theorem nonEmpty_some {str : Option Bytes} {text : Bytes} (h : nonEmpty str = some text) :
    str = some text := by
  unfold nonEmpty at h
  exact (Option.filter_eq_some_iff.mp h).1

/-! ## Statuses -/

/-- Code and reason phrase of every status the library knows. -/
def rtspStatusTable : List (Int × Bytes) :=
  [(100, ascii "Continue"), (200, ascii "OK"), (201, ascii "Created"),
    (250, ascii "Low On Storage Space"), (300, ascii "Multiple Choices"),
    (301, ascii "Moved Permanently"), (302, ascii "Moved Temporarily"),
    (303, ascii "See Other"), (304, ascii "Not Modified"), (305, ascii "Use Proxy"),
    (400, ascii "Bad Request"), (401, ascii "Unauthorized"),
    (402, ascii "Payment Required"), (403, ascii "Forbidden"), (404, ascii "Not Found"),
    (405, ascii "Method Not Allowed"), (406, ascii "Not Acceptable"),
    (407, ascii "Proxy Authentication Required"), (408, ascii "Request Time-out"),
    (410, ascii "Gone"), (411, ascii "Length Required"),
    (412, ascii "Precondition Failed"), (413, ascii "Request Entity Too Large"),
    (414, ascii "Request-URI Too Large"), (415, ascii "Unsupported Media Type"),
    (451, ascii "Parameter Not Understood"), (452, ascii "Conference Not Found"),
    (453, ascii "Not Enough Bandwidth"), (454, ascii "Session Not Found"),
    (455, ascii "Method Not Valid In This State"),
    (456, ascii "Header Field Not Valid For Resource"), (457, ascii "Invalid Range"),
    (458, ascii "Parameter Is Read-Only"), (459, ascii "Aggregate Operation Not Allowed"),
    (460, ascii "Only Aggregate Operation Allowed"), (461, ascii "Unsupported Transport"),
    (462, ascii "Destination Unreachable"), (500, ascii "Internal Server Error"),
    (501, ascii "Not Implemented"), (502, ascii "Bad Gateway"),
    (503, ascii "Service Unavailable"), (504, ascii "Gateway Time-out"),
    (505, ascii "RTSP Version Not Supported"), (551, ascii "Option Not Supported")]

/-- The status an error number stands for. -/
def rtspStatusOfErrno (status : Int) : Int :=
  if status = 0 then 200
  else if status = Errno.eproto.ret then 400
  else if status = Errno.eperm.ret then 401
  else if status = Errno.eacces.ret then 403
  else if status = Errno.enoent.ret then 404
  else if status = Errno.etimedout.ret then 408
  else if status = Errno.enosys.ret then 501
  else if status = Errno.ebusy.ret ∨ status = Errno.eagain.ret then 503
  else if status = Errno.eprotonosupport.ret then 461
  else 500

def rtspStatusGet (status : Int) : Int × Bytes :=
  match rtspStatusTable.find? fun entry => entry.1 == status with
  | some entry => entry
  | none =>
      match rtspStatusTable.find? fun entry => entry.1 == rtspStatusOfErrno status with
      | some entry => entry
      | none => (500, ascii "Internal Server Error")

def rtspStatusToErrno (status : Int) : Int :=
  if status < 0 then status
  else if status = 200 then 0
  else if status = 400 then Errno.eproto.ret
  else if status = 401 then Errno.eperm.ret
  else if status = 403 then Errno.eacces.ret
  else if status = 404 then Errno.enoent.ret
  else if status = 408 then Errno.etimedout.ret
  else if status = 501 then Errno.enosys.ret
  else if status = 503 then Errno.ebusy.ret
  else if status = 461 then Errno.eprotonosupport.ret
  else Errno.eproto.ret

/-- Whatever the status, the code and phrase returned are one of the table's. -/
theorem rtspStatusGet_mem (status : Int) : rtspStatusGet status ∈ rtspStatusTable := by
  unfold rtspStatusGet
  split
  next entry hfind => exact List.mem_of_find?_eq_some hfind
  next =>
    split
    next entry hfind => exact List.mem_of_find?_eq_some hfind
    next => decide

end Librtsp
