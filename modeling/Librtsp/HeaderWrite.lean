import Librtsp.Header

/-!
# Writing headers

A write function prints a sequence of formatted texts into a fixed-size string
and stops at the first text that does not fit.  It is given here by that
sequence: one entry for each `rtsp_sprintf` call in the order of the source,
and an error entry where the function itself returns an error.
-/

namespace Librtsp

open CString

/-! ## The bounded string -/

structure RtspString where
  str : Bytes := []
  maxLen : Nat
  deriving DecidableEq, Repr

/-- The room left, `max_len - len`, is compared as a signed 32-bit number. -/
def rtspSprintf (str : RtspString) (text : Bytes) : Except Errno RtspString :=
  if str.maxLen ≤ str.str.length then .error .enobufs
  else if 2 ^ 31 ≤ text.length then .error .eperm
  else if Int.bmod (str.maxLen - str.str.length : Nat) (2 ^ 32) ≤ (text.length : Int) then
    .error .enobufs
  else .ok { str with str := str.str ++ text }

/-- A formatted text, or the error a write function returns at that point. -/
abbrev Piece := Except Errno Bytes

/-- Prints the pieces one after the other. -/
def rtspPrint : List Piece → RtspString → Except Errno RtspString
  | [], str => .ok str
  | .error e :: _, _ => .error e
  | .ok text :: pieces, str =>
      match rtspSprintf str text with
      | .error e => .error e
      | .ok str => rtspPrint pieces str

/-- The text of a sequence of pieces none of which is an error. -/
def printed : List Piece → Option Bytes
  | [] => some []
  | .error _ :: _ => none
  | .ok text :: pieces => (printed pieces).map (text ++ ·)

theorem rtspSprintf_ok
    {str str' : RtspString} {text : Bytes} (h : rtspSprintf str text = .ok str') :
    str' = { str with str := str.str ++ text } := by
  unfold rtspSprintf at h
  split at h
  next => simp at h
  next =>
    split at h
    next => simp at h
    next =>
      split at h
      next => simp at h
      next => exact (Except.ok.inj h).symm

/-- A successful print has appended the text of its pieces. -/
theorem rtspPrint_ok
    {pieces : List Piece} {str str' : RtspString} (h : rtspPrint pieces str = .ok str') :
    ∃ text, printed pieces = some text ∧ str' = { str with str := str.str ++ text } := by
  induction pieces generalizing str with
  | nil =>
      simp only [rtspPrint, Except.ok.injEq] at h
      exact ⟨[], rfl, by simp [h]⟩
  | cons piece pieces ih =>
      cases piece with
      | error e => simp [rtspPrint] at h
      | ok text =>
          simp only [rtspPrint] at h
          split at h
          next => simp at h
          next str₁ hprint =>
            obtain ⟨rest, hrest, rfl⟩ := ih h
            have hstr := rtspSprintf_ok hprint
            subst hstr
            exact ⟨text ++ rest, by simp [printed, hrest], by simp⟩

theorem rtspSprintf_room
    {str : RtspString} {text : Bytes} (hmax : str.maxLen < 2 ^ 31)
    (hroom : str.str.length + text.length < str.maxLen) :
    rtspSprintf str text = .ok { str with str := str.str ++ text } := by
  have hle : ¬str.maxLen ≤ str.str.length := by omega
  have htext : ¬2 ^ 31 ≤ text.length := by omega
  have hsigned : Int.bmod (str.maxLen - str.str.length : Nat) (2 ^ 32) =
      (str.maxLen - str.str.length : Nat) := Int.bmod_eq_of_le (by omega) (by omega)
  unfold rtspSprintf
  rw [if_neg hle, if_neg htext, hsigned, if_neg (by omega)]

/-- Below 2^31 bytes of buffer, what fits is printed. -/
theorem rtspPrint_room
    {pieces : List Piece} {str : RtspString} {text : Bytes} (htext : printed pieces = some text)
    (hmax : str.maxLen < 2 ^ 31) (hroom : str.str.length + text.length < str.maxLen) :
    rtspPrint pieces str = .ok { str with str := str.str ++ text } := by
  induction pieces generalizing str text with
  | nil =>
      cases htext
      rw [rtspPrint, List.append_nil]
  | cons piece pieces ih =>
      cases piece with
      | error e => cases htext
      | ok first =>
          obtain ⟨rest, hrest, rfl⟩ := Option.map_eq_some_iff.mp htext
          rw [List.length_append] at hroom
          have hfirst := @rtspSprintf_room str first hmax (by omega)
          have hroom' : (str.str ++ first).length + rest.length < str.maxLen := by
            rw [List.length_append]
            omega
          have hthen := @ih { str with str := str.str ++ first } rest hrest hmax hroom'
          rw [rtspPrint, hfirst]
          dsimp only
          rw [hthen, List.append_assoc]

theorem printed_append
    {ps qs : List Piece} {text : Bytes} (h : printed (ps ++ qs) = some text) :
    ∃ s t, printed ps = some s ∧ printed qs = some t ∧ text = s ++ t := by
  induction ps generalizing text with
  | nil => exact ⟨[], text, rfl, h, rfl⟩
  | cons piece ps ih =>
      cases piece with
      | error e => simp [printed] at h
      | ok piece =>
          simp only [List.cons_append, printed, Option.map_eq_some_iff] at h
          obtain ⟨rest, hrest, rfl⟩ := h
          obtain ⟨s, t, hs, ht, rfl⟩ := ih hrest
          exact ⟨piece ++ s, t, by simp [printed, hs], ht, by simp⟩

@[simp] theorem printed_nil : printed [] = some [] := rfl

@[simp] theorem printed_ok (text : Bytes) (ps : List Piece) :
    printed (.ok text :: ps) = (printed ps).map (text ++ ·) := rfl

@[simp] theorem printed_error (e : Errno) (ps : List Piece) :
    printed (.error e :: ps) = none := rfl

theorem printed_append_some {ps : List Piece} {s : Bytes} (hps : printed ps = some s)
    (qs : List Piece) : printed (ps ++ qs) = (printed qs).map (s ++ ·) := by
  induction ps generalizing s with
  | nil =>
      obtain rfl : [] = s := by simpa using hps
      simp
  | cons piece ps ih =>
      cases piece with
      | error e => simp at hps
      | ok text =>
          rw [printed_ok, Option.map_eq_some_iff] at hps
          obtain ⟨rest, hrest, rfl⟩ := hps
          rw [List.cons_append, printed_ok, ih hrest, Option.map_map]
          simp [Function.comp_def]

/-! ## Small headers -/

/-- `name: value` and the line end, for a value that is present. -/
def fieldWrite (name : Bytes) (value : Option Bytes) : List Piece :=
  match nonEmpty value with
  | none => []
  | some value => [.ok (name ++ ascii ": " ++ value ++ rtspCrlf)]

def rtspSessionHeaderWrite (sessionId : Option Bytes) (sessionTimeout : UInt32) :
    List Piece :=
  match nonEmpty sessionId with
  | none => [.error .einval]
  | some sessionId =>
      [.ok (ascii "Session: " ++ sessionId)] ++
        (if 0 < sessionTimeout then [.ok (ascii ";timeout=" ++ formatSigned sessionTimeout)]
          else []) ++
        [.ok rtspCrlf]

def methodSet (methods : UInt32) (method : RtspMethodType) : Bool :=
  methods &&& rtspMethodFlag method != 0

/-- The names after the first are preceded by a comma. -/
def methodNamesWrite : Bool → List RtspMethodType → List Piece
  | _, [] => []
  | first, method :: rest =>
      .ok ((if first then [] else ascii ",") ++ rtspMethodTypeStr method) ::
        methodNamesWrite false rest

def rtspMethodsWrite (methods : UInt32) : List Piece :=
  methodNamesWrite true (rtspMethods.filter (methodSet methods))

def rtspAllowHeaderWrite (methods : UInt32) : List Piece :=
  if methods = 0 then [.error .einval]
  else [.ok (ascii "Allow: ")] ++ rtspMethodsWrite methods ++ [.ok rtspCrlf]

def rtspPublicHeaderWrite (methods : UInt32) : List Piece :=
  if methods = 0 then [.error .einval]
  else [.ok (ascii "Public: ")] ++ rtspMethodsWrite methods ++ [.ok rtspCrlf]

/-! ## Range -/

section Platform

variable (P : Platform)

def format02 (n : Nat) : Bytes :=
  if n < 10 then 0x30 :: formatNat n else formatNat n

def rtspTimeWrite (time : RtspTime) : List Piece :=
  match time.format with
  | .npt =>
      if time.now then [.ok (ascii "now")]
      else if time.infinity then [.error .einval]
      else
        let sec : UInt32 := (time.sec + (time.usec / 1000000).toUInt64).toUInt32
        let hrs := sec / (60 * 60)
        let min := sec / 60 - hrs * 60
        let sec := sec - min * 60 - hrs * 60 * 60
        let fraction := P.formatMillis time.usec
        if 0 < min ∨ 0 < hrs then
          [.ok (formatNat hrs.toNat ++ ascii ":" ++ format02 min.toNat ++ ascii ":" ++
            format02 sec.toNat ++ fraction)]
        else [.ok (formatNat sec.toNat ++ fraction)]
  | .smpte => [.error .enosys]
  | .absolute => [.error .enosys]
  | .unknown => [.error .einval]

def rtspRangeStopWrite (start stop : RtspTime) : List Piece :=
  if stop.format = .npt then
    if start.infinity ∧ start.infinity = stop.infinity then [.error .einval]
    else if stop.now then [.error .einval]
    else [.ok (ascii "-")] ++ (if stop.infinity then [] else rtspTimeWrite P stop)
  else []

def rtspRangeHeaderWrite (range : RtspRange) : List Piece :=
  if range.start.format ≠ range.stop.format ∧ range.stop.format ≠ .unknown then
    [.error .einval]
  else
    [.ok (ascii "Range: ")] ++
      (match range.start.format with
        | .npt =>
            [.ok (ascii "npt=")] ++
              (if range.start.infinity then [] else rtspTimeWrite P range.start) ++
              rtspRangeStopWrite P range.start range.stop
        | .smpte => [.error .enosys]
        | .absolute => [.error .enosys]
        | .unknown => [.error .einval]) ++
      (if 0 < range.time then
          match P.timeLocalFormat .iso8601Short range.time with
          | .error e => [.error e]
          | .ok timeStr => [.ok (ascii ";time=" ++ timeStr.take 15 ++ ascii "Z")]
        else []) ++
      [.ok rtspCrlf]

/-! ## RTP-Info -/

def rtpInfoWrite (rtpi : RtspRtpInfoHeader) (last : Bool) : List Piece :=
  match nonEmpty rtpi.url with
  | none => []
  | some url =>
      [.ok (ascii "url=" ++ url)] ++
        (if rtpi.seqValid then [.ok (ascii ";seq=" ++ formatNat rtpi.seq.toNat)] else []) ++
        (if rtpi.rtptimeValid then
          [.ok (ascii ";rtptime=" ++ formatNat rtpi.rtptime.toNat)] else []) ++
        (if last then [] else [.ok (ascii ",")])

def rtpInfosWrite : List RtspRtpInfoHeader → List Piece
  | [] => []
  | rtpi :: rest => rtpInfoWrite rtpi rest.isEmpty ++ rtpInfosWrite rest

def rtspRtpInfoHeaderWrite (rtpInfo : List RtspRtpInfoHeader) : List Piece :=
  if rtpInfo = [] then [.error .einval]
  else [.ok (ascii "RTP-Info: ")] ++ rtpInfosWrite rtpInfo ++ [.ok rtspCrlf]

/-! ## Transport -/

/-- A port pair; an unset control port is the one after the stream port. -/
def portsWrite (name : Bytes) (stream control : UInt16) : List Piece :=
  if stream = 0 then []
  else
    let control := if control = 0 then stream + 1 else control
    [.ok (ascii ";" ++ name ++ ascii "=" ++ formatNat stream.toNat ++ ascii "-" ++
      formatNat control.toNat)]

def channelPairsWrite : Bool → List RtspChannelPair → List Piece
  | _, [] => []
  | first, pair :: rest =>
      (if first then [] else [.ok (ascii ",")]) ++
        .ok (formatNat pair.rtp.toNat ++ ascii "-" ++ formatNat pair.rtcp.toNat) ::
          channelPairsWrite false rest

def transportWrite (trsp : RtspTransportHeader) (last : Bool) : List Piece :=
  match nonEmpty trsp.transportProtocol, nonEmpty trsp.transportProfile with
  | some protocol, some profile =>
      [.ok (protocol ++ ascii "/" ++ profile ++ ascii "/" ++
          rtspLowerTransportStr trsp.lowerTransport ++ ascii ";" ++
          (if trsp.delivery = .unicast then ascii "unicast" else ascii "multicast"))] ++
        (trsp.destination.toList.map fun dst => .ok (ascii ";destination=" ++ dst)) ++
        (trsp.source.toList.map fun src => .ok (ascii ";source=" ++ src)) ++
        (if trsp.append then [.ok (ascii ";append")] else []) ++
        (if trsp.ttl = 0 then [] else [.ok (ascii ";ttl=" ++ formatSigned trsp.ttl)]) ++
        (if trsp.layers = 0 then []
          else [.ok (ascii ";layers=" ++ formatSigned trsp.layers)]) ++
        (if trsp.delivery = .unicast then
            portsWrite (ascii "client_port") trsp.dstStreamPort trsp.dstControlPort ++
              portsWrite (ascii "server_port") trsp.srcStreamPort trsp.srcControlPort
          else portsWrite (ascii "port") trsp.dstStreamPort trsp.dstControlPort) ++
        (if trsp.lowerTransport = .tcp ∧ trsp.interleaved ≠ [] then
            .ok (ascii ";interleaved=") :: channelPairsWrite true trsp.interleaved
          else []) ++
        (if trsp.ssrcValid then [.ok (ascii ";ssrc=" ++ formatHex 8 trsp.ssrc.toNat)]
          else []) ++
        (match trsp.method with
          | .unknown => []
          | .record => [.ok (ascii ";mode=RECORD")]
          | .play => [.ok (ascii ";mode=PLAY")]) ++
        (if last then [] else [.ok (ascii ",")])
  | _, _ => []

def transportsWrite : List RtspTransportHeader → List Piece
  | [] => []
  | trsp :: rest => transportWrite trsp rest.isEmpty ++ transportsWrite rest

def rtspTransportHeaderWrite (transport : List RtspTransportHeader) : List Piece :=
  if transport = [] then [.error .einval]
  else [.ok (ascii "Transport: ")] ++ transportsWrite transport ++ [.ok rtspCrlf]

/-! ## Authorization -/

/-- The fields that are there, quoted and separated by a comma and a space. -/
def authFieldsWrite : Bool → List (Bytes × Option Bytes) → List Piece
  | _, [] => []
  | first, (_, none) :: rest => authFieldsWrite first rest
  | first, (name, some value) :: rest =>
      (if first then [] else [.ok (ascii ", ")]) ++
        .ok (name ++ ascii "=\"" ++ value ++ ascii "\"") :: authFieldsWrite false rest

def rtspAuthNcStr (nc : UInt32) : Bytes :=
  (formatHex 8 nc.toNat).map toLower

/-- A digest without a response ends the header after its name. -/
def rtspAuthorizationHeaderWrite (auth : RtspAuthorizationHeader) : List Piece :=
  .ok (ascii "Authorization: ") ::
    match auth.type with
    | .basic =>
        match nonEmpty auth.credentials with
        | none => [.error .eproto]
        | some credentials =>
            [.ok (rtspAuthTypeStr auth.type ++ ascii " " ++ credentials), .ok rtspCrlf]
    | .digest =>
        match nonEmpty auth.response with
        | none => []
        | some response =>
            .ok (rtspAuthTypeStr auth.type ++ ascii " ") ::
              authFieldsWrite true
                ([(ascii "username", auth.username), (ascii "realm", auth.realm),
                  (ascii "nonce", auth.nonce), (ascii "uri", auth.uri),
                  (ascii "response", some response),
                  (ascii "algorithm", rtspAuthAlgorithmStr auth.algorithm),
                  (ascii "opaque", nonEmpty auth.opaqueData)] ++
                  (if (rtspAuthQopStr auth.qop).isSome then
                    [(ascii "qop", rtspAuthQopStr auth.qop), (ascii "cnonce", auth.cnonce),
                      (ascii "nc", some (rtspAuthNcStr auth.nc))]
                    else [])) ++
              [.ok rtspCrlf]
    | .unknown => [.error .eproto]

/-! ## Request and response -/

def cseqWrite (cseq : Int32) : List Piece :=
  if 0 ≤ cseq then [.ok (ascii "CSeq: " ++ formatInt cseq.toInt ++ rtspCrlf)] else []

def dateWrite (date : UInt64) : List Piece :=
  if 0 < date then
    match P.timeLocalFormat .rfc1123 date with
    | .error e => [.error e]
    | .ok timeStr => [.ok (ascii "Date: " ++ timeStr ++ rtspCrlf)]
  else []

def scaleWrite (scale : UInt32) : List Piece :=
  if scaleSet scale then [.ok (ascii "Scale: " ++ P.formatFixed2 scale ++ rtspCrlf)] else []

def extWrite (ext : List RtspHeaderExt) : List Piece :=
  ext.map fun e => .ok (e.key ++ ascii ": " ++ e.value ++ rtspCrlf)

def contentLengthWrite (contentLength : Int32) : List Piece :=
  [.ok (ascii "Content-Length: " ++ formatInt contentLength.toInt ++ rtspCrlf)]

def sessionFieldWrite (sessionId : Option Bytes) (sessionTimeout : UInt32) : List Piece :=
  if (nonEmpty sessionId).isSome then rtspSessionHeaderWrite sessionId sessionTimeout else []

def rangeFieldWrite (range : RtspRange) : List Piece :=
  if range.start.format ≠ .unknown then rtspRangeHeaderWrite P range else []

def requestPieces (header : RtspRequestHeader) : List Piece :=
  match nonEmpty header.uri with
  | none => [.error .einval]
  | some uri =>
      if header.method = .unknown then [.error .einval]
      else
        [.ok (rtspMethodTypeStr header.method ++ ascii " " ++ uri ++ ascii " " ++
            rtspVersion ++ rtspCrlf)] ++
          cseqWrite header.cseq ++
          dateWrite P header.date ++
          sessionFieldWrite header.sessionId header.sessionTimeout ++
          (if header.transport = [] then [] else rtspTransportHeaderWrite header.transport) ++
          (match header.authorization with
            | none => []
            | some auth => rtspAuthorizationHeaderWrite auth) ++
          fieldWrite (ascii "Content-Type") header.contentType ++
          scaleWrite P header.scale ++
          fieldWrite (ascii "User-Agent") header.userAgent ++
          fieldWrite (ascii "Server") header.server ++
          fieldWrite (ascii "Accept") header.accept ++
          rangeFieldWrite P header.range ++
          (if 0 < header.contentLength then contentLengthWrite header.contentLength else []) ++
          extWrite header.ext ++
          [.ok rtspCrlf]

def rtspRequestHeaderWrite (header : RtspRequestHeader) (str : RtspString) :
    Except Errno RtspString :=
  rtspPrint (requestPieces P header) str

/-- The field lines of a response, without its status line and blank line. -/
def responseFieldPieces (header : RtspResponseHeader) : List Piece :=
  cseqWrite header.cseq ++
    dateWrite P header.date ++
    sessionFieldWrite header.sessionId header.sessionTimeout ++
    (match header.transport with
      | none => []
      | some trsp => rtspTransportHeaderWrite [trsp]) ++
    fieldWrite (ascii "Content-Type") header.contentType ++
    scaleWrite P header.scale ++
    (if 0 < header.publicMethods then rtspPublicHeaderWrite header.publicMethods else []) ++
    (if 0 < header.allowedMethods then rtspAllowHeaderWrite header.allowedMethods else []) ++
    (if header.rtpInfo = [] then [] else rtspRtpInfoHeaderWrite header.rtpInfo) ++
    fieldWrite (ascii "Server") header.server ++
    rangeFieldWrite P header.range ++
    contentLengthWrite header.contentLength ++
    fieldWrite (ascii "Content-Encoding") header.contentEncoding ++
    fieldWrite (ascii "Content-Language") header.contentLanguage ++
    fieldWrite (ascii "Content-Base") header.contentBase ++
    fieldWrite (ascii "Content-Location") header.contentLocation ++
    extWrite header.ext

def responsePieces (header : RtspResponseHeader) : List Piece :=
  if header.statusCode = 0 then [.error .einval]
  else
    match nonEmpty header.statusString with
    | none => [.error .einval]
    | some statusString =>
        [.ok (rtspVersion ++ ascii " " ++ formatInt header.statusCode ++ ascii " " ++
            statusString ++ rtspCrlf)] ++
          responseFieldPieces P header ++
          [.ok rtspCrlf]

def rtspResponseHeaderWrite (header : RtspResponseHeader) (str : RtspString) :
    Except Errno RtspString :=
  rtspPrint (responsePieces P header) str

end Platform

end Librtsp
