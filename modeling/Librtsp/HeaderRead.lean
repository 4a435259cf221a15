import Librtsp.Header

/-!
# Reading headers

The readers of the header fields and of whole request and response headers.
A reader cuts its text in place with nested tokenisers; the pieces are lists
of bytes here, and every call of `strtok_r` states which save pointer it
continues from.  A reader stops with an error number, or with the
fault of a string routine applied to a pointer it should not be given.
-/

namespace Librtsp

open CString

/-- Why a reader does not produce a header. -/
inductive Stop where
  | errno (e : Errno)
  | fault (fault : Fault)
  deriving DecidableEq, Repr

/-- Uses of unset pointers end the run of the reader. -/
def orFault {α : Type} (x : Except Fault α) : Except Stop α :=
  x.mapError Stop.fault

@[simp] theorem orFault_ok {α : Type} (a : α) : orFault (.ok a) = .ok a := rfl

@[simp] theorem orFault_error {α : Type} (f : Fault) :
    orFault (.error f : Except Fault α) = .error (.fault f) := rfl

@[simp] theorem except_ok_bind {ε α β : Type} (a : α) (f : α → Except ε β) :
    (Except.ok a >>= f) = f a := rfl

@[simp] theorem except_error_bind {ε α β : Type} (e : ε) (f : α → Except ε β) :
    ((Except.error e : Except ε α) >>= f) = .error e := rfl

@[simp] theorem except_bind_pure {ε α : Type} (x : Except ε α) :
    (x >>= fun a => Except.ok a) = x := by
  cases x with
  | error e => rfl
  | ok a => rfl

theorem except_map_ok {ε α β : Type} {x : Except ε α} {f : α → β} {b : β} :
    x.map f = .ok b ↔ ∃ a, x = .ok a ∧ f a = b := by
  cases x with
  | error e => simp [Except.map]
  | ok a => simp [Except.map]

theorem except_map_error {ε α β : Type} {x : Except ε α} {f : α → β} {e : ε} :
    x.map f = .error e ↔ x = .error e := by
  cases x with
  | error e' => simp [Except.map]
  | ok a => simp [Except.map]

theorem except_bind_ok {ε α β : Type} {x : Except ε α} {f : α → Except ε β} {b : β} :
    (x >>= f) = .ok b ↔ ∃ a, x = .ok a ∧ f a = .ok b := by
  cases x with
  | error e => simp
  | ok a => simp

theorem except_mapError_ok {ε ε' α : Type} {x : Except ε α} {f : ε → ε'} {a : α} :
    x.mapError f = .ok a ↔ x = .ok a := by
  cases x with
  | error e => simp [Except.mapError]
  | ok b => simp [Except.mapError]

/-! ## The end of a header -/

/-- First offset of `find` in the bytes before a NUL, at most `s.length` of them. -/
def strnstrFrom (c : UInt8) (find : Bytes) : Nat → Bytes → Option Nat
  | _, [] => none
  | i, sc :: s =>
      if find.length < (sc :: s).length then
        if sc = c ∧ strncmpEq s find find.length then some i
        else if sc = 0 then none
        else strnstrFrom c find (i + 1) s
      else none

def rtspStrnstr (s find : Bytes) : Option Nat :=
  match find with
  | [] => some 0
  | c :: find => strnstrFrom c find 0 s

def crlfCrlf : Bytes := [0x0d, 0x0a, 0x0d, 0x0a]

def lfCrlfCr : Bytes := [0x0a, 0x0d, 0x0a, 0x0d]

def lfLf : Bytes := [0x0a, 0x0a]

def crCr : Bytes := [0x0d, 0x0d]

/-- Offset and length of the blank line that ends the header. -/
def findDoubleNewline (s : Bytes) : Option (Nat × Nat) :=
  match rtspStrnstr s crlfCrlf with
  | some p => some (p, 4)
  | none =>
      match rtspStrnstr s lfCrlfCr with
      | some p => some (p, 4)
      | none =>
          match rtspStrnstr s lfLf with
          | some p => some (p, 2)
          | none =>
              match rtspStrnstr s crCr with
              | some p => some (p, 2)
              | none => none

/-! ## Methods, sessions, ranges -/

def comma : Bytes := [0x2c]

def semicolon : Bytes := [0x3b]

def equalSign : Bytes := [0x3d]

def space : Bytes := [0x20]

def slash : Bytes := [0x2f]

def skipSpaces (s : Bytes) : Bytes :=
  s.dropWhile (· == 0x20)

def rtspMethodsRead (str : Bytes) : UInt32 :=
  (tokens comma str).foldl
    (fun methods method =>
      methods ||| rtspMethodFlag (rtspMethodTypeEnum (some (skipSpaces method)))) 0

def rtspAllowHeaderRead (str : Bytes) : UInt32 := rtspMethodsRead str

def rtspPublicHeaderRead (str : Bytes) : UInt32 := rtspMethodsRead str

def rtspSessionHeaderRead (str : Bytes) : Bytes × UInt32 :=
  match strchr 0x3b str with
  | none => (str, 0)
  | some (sessionId, timeoutStr) =>
      if strncmpEq timeoutStr (ascii "timeout") 7 then
        match strchr 0x3d timeoutStr with
        | none => (sessionId, 0)
        | some (_, value) => (sessionId, UInt32.ofInt (atoi value).toInt)
      else (sessionId, 0)

section Platform

variable (P : Platform)

def rtspTimeRead (str : Bytes) (time : RtspTime) : Except Stop RtspTime :=
  match time.format with
  | .npt =>
      match strchr 0x3a str with
      | some (hrsStr, rest) =>
          match strchr 0x3a rest with
          | none => .error (.errno .einval)
          | some (minStr, secStr) =>
              let hrs := UInt32.ofInt (atoi hrsStr).toInt
              let min := UInt32.ofInt (atoi minStr).toInt
              let secF := P.atof secStr
              let whole := P.floatToUInt64 secF
              .ok { time with
                sec := whole + (min * 60 + hrs * 60 * 60).toUInt64
                usec := P.floatMicros secF whole.toUInt32.toUInt64 }
      | none =>
          if str = ascii "now" then .ok { time with now := true }
          else
            let secF := P.atof str
            let whole := P.floatToUInt64 secF
            .ok { time with sec := whole, usec := P.floatMicros secF whole }
  | .smpte => .error (.errno .enosys)
  | .absolute => .error (.errno .enosys)
  | .unknown => .error (.errno .einval)

/-- An empty time is an open end. -/
def nptRead (str : Bytes) : Except Stop RtspTime :=
  if str = [] then .ok { format := .npt, infinity := true }
  else rtspTimeRead P str { format := .npt }

def nptStopRead (stopStr : Option Bytes) : Except Stop RtspTime :=
  match stopStr with
  | none => .ok {}
  | some stopStr => nptRead P stopStr

/-- The `time` parameter of a range. -/
def rangeTimeRead (timeStr : Option Bytes) : Except Stop UInt64 :=
  match timeStr with
  | none => .ok 0
  | some timeStr =>
      if strncmpEq timeStr (ascii "time") 4 then
        match strchr 0x3d timeStr with
        | none => .error (.errno .einval)
        | some (_, value) => (P.timeLocalParse value).mapError Stop.errno
      else .ok 0

/-- The format keyword and the two times of a range. -/
def rangeTimesRead (str : Bytes) : Except Stop RtspRange :=
  match strchr 0x3d str with
  | none => .error (.errno .einval)
  | some (format, times) =>
      let (startStr, stopStr) :=
        match strchr 0x2d times with
        | none => (times, none)
        | some (startStr, stopStr) => (startStr, some stopStr)
      if format = ascii "npt" then do
        let start ← nptRead P startStr
        let stop ← nptStopRead P stopStr
        .ok { start, stop }
      else if format = ascii "smpte" then .error (.errno .enosys)
      else if format = ascii "clock" then .error (.errno .enosys)
      else .error (.errno .einval)

def rtspRangeHeaderRead (str : Bytes) : Except Stop RtspRange :=
  if pathMax ≤ str.length then .error (.errno .enametoolong)
  else
    let (str, timeStr) :=
      match strchr 0x3b str with
      | none => (str, none)
      | some (str, timeStr) => (str, some timeStr)
    do
      let range ← rangeTimesRead P str
      if range.stop.format ≠ .unknown ∧ range.stop.format ≠ range.start.format then
        .error (.errno .einval)
      else if range.stop.format ≠ .npt ∧ range.start.infinity ∧
          range.start.infinity = range.stop.infinity then
        .error (.errno .einval)
      else if range.stop.format ≠ .npt ∧ range.stop.now then
        .error (.errno .einval)
      else do
        let time ← rangeTimeRead P timeStr
        .ok { range with time }

end Platform

/-! ## RTP-Info -/

/-- One `key=value` parameter.  A number that is not one ends the whole reader
with the `errno` of `strtoul`, which is zero unless the number was too large. -/
def rtpInfoParamRead (rtpi : RtspRtpInfoHeader) (param : Bytes) :
    Except Stop (ForInStep RtspRtpInfoHeader) := do
  let (key, temp3) ← orFault (strtokR (some param) equalSign none)
  let (val, _) ← orFault (strtokR none [] temp3)
  match key with
  | none => .error (.errno .einval)
  | some key =>
      let rtpi :=
        match val with
        | none => rtpi
        | some val =>
            if key = ascii "seq" then
              { rtpi with seq := UInt16.ofInt (atoi val).toInt, seqValid := true }
            else rtpi
      match val with
      | none => .ok (.yield rtpi)
      | some val =>
          if key = ascii "rtptime" then
            let parsed := strtoul 10 val
            if parsed.rest ≠ some [] ∨ parsed.erange then
              if parsed.erange then .error (.errno .erange) else .ok (.done rtpi)
            else
              .ok (.yield { rtpi with rtptime := parsed.value.toUInt32, rtptimeValid := true })
          else .ok (.yield rtpi)

/-- One list entry: nothing for an empty entry, and whether the reader goes on. -/
def rtpInfoEntryRead (rtpInfo : List RtspRtpInfoHeader) (rtpiStr : Bytes) :
    Except Stop (ForInStep (List RtspRtpInfoHeader)) := do
  let (param, temp2) ← orFault (strtokR (some rtpiStr) semicolon none)
  match param with
  | none => .ok (.yield rtpInfo)
  | some param =>
      let (key, temp3) ← orFault (strtokR (some param) equalSign none)
      let (val, _) ← orFault (strtokR none [] temp3)
      match key, val with
      | some key, some val =>
          if key ≠ ascii "url" then .error (.errno .eproto)
          else
            match ← visit rtpInfoParamRead (tokens semicolon (temp2.getD []))
                { url := some val } with
            | .done _ => .ok (.done rtpInfo)
            | .yield rtpi => .ok (.yield (rtpInfo ++ [rtpi]))
      | _, _ => .error (.errno .eproto)

/-- A list reader goes on while there are entries and room for one. -/
def whileRoom {α : Type} (maxCount : Nat)
    (read : List α → Bytes → Except Stop (ForInStep (List α)))
    (items : List α) (entry : Bytes) : Except Stop (ForInStep (List α)) :=
  if items.length < maxCount then read items entry else .ok (.done items)

/-- What a visit has collected, however it ended. -/
def collected {σ : Type} : ForInStep σ → σ
  | .done s => s
  | .yield s => s

def rtspRtpInfoHeaderRead (str : Bytes) (maxCount : Nat) :
    Except Stop (List RtspRtpInfoHeader) := do
  let result ← visit (whileRoom maxCount rtpInfoEntryRead) (tokens comma str) []
  .ok (collected result)

/-! ## Transport -/

/-- `%u` of `sscanf`: the number and the text after it. -/
def scanUnsigned (s : Bytes) : Option (UInt32 × Bytes) :=
  let parsed := strtoul 10 s
  parsed.rest.map fun rest => (parsed.value.toUInt32, rest)

/-- `sscanf(s, "%u-%u", &rtp, &rtcp)` when it reads both. -/
def scanPair (s : Bytes) : Option (UInt32 × UInt32) :=
  match scanUnsigned s with
  | some (rtp, 0x2d :: rest) => (scanUnsigned rest).map fun rtcp => (rtp, rtcp.1)
  | _ => none

/-- `sscanf(s, "%08X", &ssrc)` when it reads a number. -/
def scanHex8 (s : Bytes) : Option UInt32 :=
  let parsed := strtoul 16 ((s.dropWhile isSpace).take 8)
  parsed.rest.map fun _ => parsed.value.toUInt32

/-- A stream port and the control port after the dash, the next one by default. -/
def portsRead (val : Bytes) : UInt16 × UInt16 :=
  let stream := UInt16.ofInt (atoi val).toInt
  match strchr 0x2d val with
  | some (_, control) => (stream, UInt16.ofInt (atoi control).toInt)
  | none => (stream, stream + 1)

/-- The pairs of an `interleaved` parameter from position `intIdx` on. -/
def channelPairsRead (trsp : RtspTransportHeader) : Nat → List Bytes → RtspTransportHeader
  | _, [] => trsp
  | intIdx, pairStr :: rest =>
      if rtspMaxInterleavedMedia ≤ intIdx then trsp
      else
        match scanPair pairStr with
        | none => trsp
        | some (rtp, rtcp) =>
            channelPairsRead
              { trsp with
                interleaved :=
                  trsp.interleaved.take intIdx ++ [⟨rtp.toUInt8, rtcp.toUInt8⟩] }
              (intIdx + 1) rest

/-- The tokeniser of the pairs starts with a save pointer nothing has set. -/
def interleavedRead (trsp : RtspTransportHeader) (val : Option Bytes) :
    Except Fault RtspTransportHeader := do
  let (pairStr, temp) ← strtokR val comma none
  .ok (channelPairsRead trsp 0 (pairStr.toList ++ tokens comma (temp.getD [])))

/-- Stores a string parameter that has a value. -/
def withValue (trsp : RtspTransportHeader) (val : Option Bytes)
    (store : Bytes → RtspTransportHeader) : RtspTransportHeader :=
  match val with
  | none => trsp
  | some val => store val

def modeRead (trsp : RtspTransportHeader) (val : Bytes) : RtspTransportHeader :=
  if strncasecmpEq val (ascii "PLAY") 4 then { trsp with method := .play }
  else if strncasecmpEq val (ascii "RECORD") 6 then { trsp with method := .record }
  else trsp

def ssrcRead (trsp : RtspTransportHeader) (val : Bytes) : RtspTransportHeader :=
  match scanHex8 val with
  | none => trsp
  | some ssrc => { trsp with ssrc, ssrcValid := true }

def dstPortsRead (trsp : RtspTransportHeader) (val : Bytes) : RtspTransportHeader :=
  { trsp with dstStreamPort := (portsRead val).1, dstControlPort := (portsRead val).2 }

def srcPortsRead (trsp : RtspTransportHeader) (val : Bytes) : RtspTransportHeader :=
  { trsp with srcStreamPort := (portsRead val).1, srcControlPort := (portsRead val).2 }

def processTransportKeyVal (trsp : RtspTransportHeader) (key : Bytes)
    (val : Option Bytes) : Except Fault RtspTransportHeader :=
  if key = ascii "unicast" then .ok { trsp with delivery := .unicast }
  else if key = ascii "multicast" then .ok { trsp with delivery := .multicast }
  else if key = ascii "destination" then
    .ok (withValue trsp val fun val => { trsp with destination := some val })
  else if key = ascii "source" then
    .ok (withValue trsp val fun val => { trsp with source := some val })
  else if key = ascii "append" then .ok { trsp with append := true }
  else if key = ascii "ttl" then
    .ok (withValue trsp val fun val => { trsp with ttl := UInt32.ofInt (atoi val).toInt })
  else if key = ascii "layers" then
    .ok (withValue trsp val fun val => { trsp with layers := UInt32.ofInt (atoi val).toInt })
  else if key = ascii "port" then .ok (withValue trsp val (dstPortsRead trsp))
  else if key = ascii "client_port" then .ok (withValue trsp val (dstPortsRead trsp))
  else if key = ascii "server_port" then .ok (withValue trsp val (srcPortsRead trsp))
  else if key = ascii "ssrc" then .ok (withValue trsp val (ssrcRead trsp))
  else if key = ascii "mode" then .ok (withValue trsp val (modeRead trsp))
  else if key = ascii "interleaved" then interleavedRead trsp val
  else .ok trsp

def transportParamRead (trsp : RtspTransportHeader) (param : Bytes) :
    Except Stop (ForInStep RtspTransportHeader) := do
  let (key, temp3) ← orFault (strtokR (some param) equalSign none)
  let (val, _) ← orFault (strtokR none [] temp3)
  match key with
  | none => .ok (.yield trsp)
  | some key => do
      let trsp ← orFault (processTransportKeyVal trsp key val)
      .ok (.yield trsp)

def lowerTransportRead (val : Option Bytes) : Except Stop RtspLowerTransport :=
  match val with
  | none => .ok .udp
  | some val =>
      if val = ascii "UDP" then .ok .udp
      else if val = ascii "TCP" then .ok .tcp
      else if val = ascii "MUX" then .ok .mux
      else .error (.errno .eproto)

/-- `protocol/profile[/lower-transport]` -/
def transportSpecRead (param : Bytes) : Except Stop RtspTransportHeader := do
  let (protocol, temp3) ← orFault (strtokR (some param) slash none)
  if protocol ≠ some (ascii "RTP") then .error (.errno .eproto)
  else
    let (profile, temp3) ← orFault (strtokR none slash temp3)
    if profile ≠ some (ascii "AVP") then .error (.errno .eproto)
    else
      let (val, _) ← orFault (strtokR none slash temp3)
      let lowerTransport ← lowerTransportRead val
      .ok { transportProtocol := protocol, transportProfile := profile, lowerTransport }

def transportEntryRead (transport : List RtspTransportHeader) (trspStr : Bytes) :
    Except Stop (ForInStep (List RtspTransportHeader)) := do
  let (param, temp2) ← orFault (strtokR (some trspStr) semicolon none)
  match param with
  | none => .ok (.yield transport)
  | some param =>
      let trsp ← transportSpecRead param
      let result ← visit transportParamRead (tokens semicolon (temp2.getD [])) trsp
      .ok (.yield (transport ++ [collected result]))

def rtspTransportHeaderRead (str : Bytes) (maxCount : Nat) :
    Except Stop (List RtspTransportHeader) := do
  let result ← visit (whileRoom maxCount transportEntryRead) (tokens comma str) []
  .ok (collected result)

/-! ## Authorization -/

def stripQuotes (s : Option Bytes) : Option Bytes :=
  match s with
  | none => none
  | some s =>
      if pathMax ≤ s.length then none
      else if 2 ≤ s.length ∧ s.head? = some 0x22 ∧ s.getLast? = some 0x22 then
        some ((s.drop 1).take (s.length - 2))
      else some s

def ncRead (auth : RtspAuthorizationHeader) (val : Option Bytes) : RtspAuthorizationHeader :=
  match stripQuotes val with
  | none => auth
  | some val =>
      let parsed := strtoul 16 val
      if parsed.erange ∨ 2 ^ 32 ≤ parsed.value.toNat ∨ parsed.rest ≠ some [] then auth
      else { auth with nc := parsed.value.toUInt32 }

def processAuthorizationKeyVal (auth : RtspAuthorizationHeader) (key val : Option Bytes) :
    Except Fault RtspAuthorizationHeader := do
  if ← strcmpPtr key (ascii "username") then
    return { auth with username := stripQuotes val }
  if ← strcmpPtr key (ascii "realm") then
    return { auth with realm := stripQuotes val }
  if ← strcmpPtr key (ascii "nonce") then
    return { auth with nonce := stripQuotes val }
  if ← strcmpPtr key (ascii "uri") then
    return { auth with uri := stripQuotes val }
  if ← strcmpPtr key (ascii "response") then
    return { auth with response := stripQuotes val }
  if ← strcmpPtr key (ascii "algorithm") then
    return { auth with algorithm := rtspAuthAlgorithmFromStr (stripQuotes val) }
  if ← strcmpPtr key (ascii "opaque") then
    return { auth with opaqueData := stripQuotes val }
  if ← strcmpPtr key (ascii "qop") then
    return { auth with qop := rtspAuthQopFromStr (stripQuotes val) }
  if ← strcmpPtr key (ascii "cnonce") then
    return { auth with cnonce := stripQuotes val }
  if ← strcmpPtr key (ascii "nc") then
    return ncRead auth val
  return auth

def parseDigestAuthParam (auth : RtspAuthorizationHeader) (param : Bytes) :
    Except Stop (ForInStep RtspAuthorizationHeader) := do
  let (key, temp3) ← orFault (strtokR (some param) equalSign none)
  let (val, _) ← orFault (strtokR none [] temp3)
  match key with
  | none => .ok (.yield auth)
  | some key => do
      let auth ← orFault
        (processAuthorizationKeyVal auth (some (skipSpaces key)) (val.map skipSpaces))
      .ok (.yield auth)

/-- The challenge form carries a realm, the response form raw credentials.  The
key of a challenge goes to the comparisons unchecked. -/
def basicAuthRead (auth : RtspAuthorizationHeader) (param : Bytes) :
    Except Stop RtspAuthorizationHeader :=
  if strncasecmpEq param (ascii "realm=") 6 then do
    let (key, temp3) ← orFault (strtokR (some param) equalSign none)
    let (val, _) ← orFault (strtokR none [] temp3)
    orFault (processAuthorizationKeyVal auth key val)
  else .ok { auth with credentials := some param }

def rtspAuthorizationHeaderRead (str : Bytes) : Except Stop RtspAuthorizationHeader := do
  let (token, temp) ← orFault (strtokR (some str) space none)
  match token with
  | none => .error (.errno .eproto)
  | some token =>
      if strcasecmpEq token (rtspAuthTypeStr .basic) then do
        let (param, _) ← orFault (strtokR none space temp)
        match param with
        | none => .error (.errno .eproto)
        | some param => basicAuthRead { type := .basic } param
      else if strcasecmpEq token (rtspAuthTypeStr .digest) then do
        let result ← visit parseDigestAuthParam (tokens comma (temp.getD []))
          { type := .digest }
        .ok (collected result)
      else .error (.errno .eproto)

/-! ## Whole headers -/

/-- A field is recognised by the first letters of its name. -/
def fieldIs (field name : Bytes) : Bool :=
  strncasecmpEq field name name.length

/-- Field name and value of a line; one space before the value is skipped. -/
def fieldSplit (line : Bytes) : Option (Bytes × Bytes) :=
  (strchr 0x3a line).map fun cut =>
    match cut.2 with
    | 0x20 :: value => (cut.1, value)
    | value => (cut.1, value)

section Platform

variable (P : Platform)

def dateRead (value : Bytes) : Except Stop UInt64 :=
  (P.timeLocalParse value).mapError Stop.errno

/-- One line of a request.  A `Transport` line without any transport ends the
reader before the lines after it. -/
def requestFieldRead (header : RtspRequestHeader) (line : Bytes) :
    Except Stop (ForInStep RtspRequestHeader) :=
  match fieldSplit line with
  | none => .ok (.yield header)
  | some (field, value) =>
      if fieldIs field (ascii "CSeq") then .ok (.yield { header with cseq := atoi value })
      else if fieldIs field (ascii "Date") then do
        let date ← dateRead P value
        .ok (.yield { header with date })
      else if fieldIs field (ascii "Session") then
        let session := rtspSessionHeaderRead value
        .ok (.yield { header with
          sessionId := some session.1, sessionTimeout := session.2 })
      else if fieldIs field (ascii "Transport") then do
        let transport ← rtspTransportHeaderRead value rtspTransportMaxCount
        if transport = [] then .ok (.done { header with transport })
        else .ok (.yield { header with transport })
      else if fieldIs field (ascii "Content-Type") then
        .ok (.yield { header with contentType := some value })
      else if fieldIs field (ascii "Scale") then
        .ok (.yield { header with scale := P.atof value })
      else if fieldIs field (ascii "Authorization") then do
        let auth ← rtspAuthorizationHeaderRead value
        .ok (.yield { header with authorization := some auth })
      else if fieldIs field (ascii "User-Agent") then
        .ok (.yield { header with userAgent := some value })
      else if fieldIs field (ascii "Server") then
        .ok (.yield { header with server := some value })
      else if fieldIs field (ascii "Accept") then
        .ok (.yield { header with accept := some value })
      else if fieldIs field (ascii "Range") then do
        let range ← rtspRangeHeaderRead P value
        .ok (.yield { header with range })
      else if fieldIs field (ascii "Content-Length") then
        .ok (.yield { header with contentLength := atoi value })
      else if fieldIs field (ascii "X-") then
        .ok (.yield { header with ext := header.ext ++ [⟨field, value⟩] })
      else .ok (.yield header)

/-- The request line: method, URI and protocol version. -/
def requestLineRead (line : Bytes) : Except Stop RtspRequestHeader := do
  let (method, temp2) ← orFault (strtokR (some line) space none)
  let (uri, temp2) ← orFault (strtokR none space temp2)
  let (version, _) ← orFault (strtokR none rtspCrlf temp2)
  if rtspMethodTypeEnum method = .unknown then .error (.errno .eproto)
  else if nonEmpty uri = none then .error (.errno .eproto)
  else if version ≠ some rtspVersion then .error (.errno .eproto)
  else .ok { method := rtspMethodTypeEnum method, uri }

def rtspRequestHeaderRead (data : Bytes) : Except Stop RtspRequestHeader :=
  match findDoubleNewline data with
  | none => .error (.errno .eproto)
  | some (p, _) => do
      let (line, temp) ← orFault (strtokR (some (data.take p)) rtspCrlf none)
      match line with
      | none => .error (.errno .eproto)
      | some line =>
          let header ← requestLineRead line
          let result ← visit (requestFieldRead P) (tokens rtspCrlf (temp.getD [])) header
          .ok (collected result)

/-- One line of a response.  `Transport` and `RTP-Info` lines without any entry
end the reader before the lines after them. -/
def responseFieldRead (header : RtspResponseHeader) (line : Bytes) :
    Except Stop (ForInStep RtspResponseHeader) :=
  match fieldSplit line with
  | none => .ok (.yield header)
  | some (field, value) =>
      if fieldIs field (ascii "CSeq") then .ok (.yield { header with cseq := atoi value })
      else if fieldIs field (ascii "Date") then do
        let date ← dateRead P value
        .ok (.yield { header with date })
      else if fieldIs field (ascii "Session") then
        let session := rtspSessionHeaderRead value
        .ok (.yield { header with
          sessionId := some session.1, sessionTimeout := session.2 })
      else if fieldIs field (ascii "Transport") then do
        let transport ← rtspTransportHeaderRead value 1
        match transport.head? with
        | none => .ok (.done header)
        | some trsp => .ok (.yield { header with transport := some trsp })
      else if fieldIs field (ascii "WWW-Authenticate") then do
        let auth ← rtspAuthorizationHeaderRead value
        .ok (.yield { header with authenticate := some auth })
      else if fieldIs field (ascii "Content-Type") then
        .ok (.yield { header with contentType := some value })
      else if fieldIs field (ascii "Scale") then
        .ok (.yield { header with scale := P.atof value })
      else if fieldIs field (ascii "Public") then
        .ok (.yield { header with publicMethods := rtspPublicHeaderRead value })
      else if fieldIs field (ascii "Allow") then
        .ok (.yield { header with allowedMethods := rtspAllowHeaderRead value })
      else if fieldIs field (ascii "RTP-Info") then do
        let rtpInfo ← rtspRtpInfoHeaderRead value 1
        if rtpInfo = [] then .ok (.done { header with rtpInfo })
        else .ok (.yield { header with rtpInfo })
      else if fieldIs field (ascii "Server") then
        .ok (.yield { header with server := some value })
      else if fieldIs field (ascii "Range") then do
        let range ← rtspRangeHeaderRead P value
        .ok (.yield { header with range })
      else if fieldIs field (ascii "Content-Length") then
        .ok (.yield { header with contentLength := atoi value })
      else if fieldIs field (ascii "Content-Encoding") then
        .ok (.yield { header with contentEncoding := some value })
      else if fieldIs field (ascii "Content-Language") then
        .ok (.yield { header with contentLanguage := some value })
      else if fieldIs field (ascii "Content-Base") then
        .ok (.yield { header with contentBase := some value })
      else if fieldIs field (ascii "Content-Location") then
        .ok (.yield { header with contentLocation := some value })
      else if fieldIs field (ascii "X-") then
        .ok (.yield { header with ext := header.ext ++ [⟨field, value⟩] })
      else .ok (.yield header)

/-- The status line: protocol version, status code and reason phrase. -/
def statusLineRead (line : Bytes) : Except Stop RtspResponseHeader := do
  let (version, temp2) ← orFault (strtokR (some line) space none)
  let (statusCodeStr, temp2) ← orFault (strtokR none space temp2)
  let (statusString, _) ← orFault (strtokR none rtspCrlf temp2)
  if version ≠ some rtspVersion then .error (.errno .eproto)
  else
    match statusCodeStr, statusString with
    | some statusCodeStr, some statusString =>
        .ok { statusCode := (atoi statusCodeStr).toInt, statusString := some statusString }
    | _, _ => .error (.errno .eproto)

def rtspResponseHeaderRead (data : Bytes) : Except Stop RtspResponseHeader :=
  match findDoubleNewline data with
  | none => .error (.errno .eproto)
  | some (p, _) => do
      let (line, temp) ← orFault (strtokR (some (data.take p)) rtspCrlf none)
      match line with
      | none => .error (.errno .eproto)
      | some line =>
          let header ← statusLineRead line
          let result ← visit (responseFieldRead P) (tokens rtspCrlf (temp.getD [])) header
          .ok (collected result)

end Platform

/-! ## Both readers as one loop over lines -/

/-- First line and field lines of a header text. -/
def headerLines (data : Bytes) : Option (Bytes × List Bytes) :=
  match findDoubleNewline data with
  | none => none
  | some (p, _) =>
      (firstToken rtspCrlf (data.take p)).map fun line =>
        (line, tokens rtspCrlf (afterToken rtspCrlf (data.take p)))

/-- Reading a header text, for any reader of its first line and of its fields. -/
def readLines {σ : Type} (first : Bytes → Except Stop σ)
    (step : σ → Bytes → Except Stop (ForInStep σ)) (data : Bytes) : Except Stop σ :=
  match headerLines data with
  | none => .error (.errno .eproto)
  | some (line, lines) => do
      let header ← first line
      let result ← visit step lines header
      .ok (collected result)

theorem rtspRequestHeaderRead_eq (P : Platform) (data : Bytes) :
    rtspRequestHeaderRead P data =
      readLines requestLineRead (requestFieldRead P) data := by
  unfold rtspRequestHeaderRead readLines headerLines
  cases findDoubleNewline data with
  | none => rfl
  | some cut =>
      simp only [strtokR_some, orFault_ok, except_ok_bind]
      cases firstToken rtspCrlf (data.take cut.1) <;> rfl

theorem rtspResponseHeaderRead_eq (P : Platform) (data : Bytes) :
    rtspResponseHeaderRead P data =
      readLines statusLineRead (responseFieldRead P) data := by
  unfold rtspResponseHeaderRead readLines headerLines
  cases findDoubleNewline data with
  | none => rfl
  | some cut =>
      simp only [strtokR_some, orFault_ok, except_ok_bind]
      cases firstToken rtspCrlf (data.take cut.1) <;> rfl

theorem firstToken_cons {delims : Bytes} {b : UInt8} {s : Bytes} (hb : b ∉ delims) :
    firstToken delims (b :: s) = some (b :: s.takeWhile (!delims.contains ·)) := by
  have hcontains : delims.contains b = false := by simpa using hb
  simp only [firstToken, strtok, List.dropWhile_cons, hcontains, Bool.false_eq_true,
    ↓reduceIte, List.takeWhile_cons, Bool.not_false, Option.map_some]

theorem rtspMethodTypeEnum_known {val : Option Bytes}
    (h : rtspMethodTypeEnum val ≠ .unknown) :
    ∃ m ∈ rtspMethods, val = some (rtspMethodTypeStr m) := by
  unfold rtspMethodTypeEnum at h
  split at h
  next => exact absurd rfl h
  next val =>
    cases hfind : rtspMethods.find? fun m => rtspMethodTypeStr m == val with
    | none => simp [hfind] at h
    | some m =>
        have hm := List.find?_some hfind
        refine ⟨m, List.mem_of_find?_eq_some hfind, ?_⟩
        simp only [beq_iff_eq] at hm
        rw [hm]

/-- The request line that is read starts with the name of a known method. -/
theorem requestLineRead_ok {line : Bytes} {header : RtspRequestHeader}
    (h : requestLineRead line = .ok header) :
    ∃ m ∈ rtspMethods, firstToken space line = some (rtspMethodTypeStr m) := by
  simp only [requestLineRead, strtokR_some, strtokR_none_some, orFault_ok,
    except_ok_bind] at h
  split at h
  next => simp at h
  next hmethod => exact rtspMethodTypeEnum_known hmethod

theorem readLines_ok {σ : Type} {first : Bytes → Except Stop σ}
    {step : σ → Bytes → Except Stop (ForInStep σ)} {data : Bytes} {s : σ}
    (h : readLines first step data = .ok s) :
    ∃ line lines s₀ result, headerLines data = some (line, lines) ∧ first line = .ok s₀ ∧
      visit step lines s₀ = .ok result ∧ s = collected result := by
  unfold readLines at h
  split at h
  next => simp at h
  next line lines hlines =>
    cases hfirst : first line with
    | error stop => simp [hfirst] at h
    | ok s₀ =>
        cases hvisit : visit step lines s₀ with
        | error stop => simp [hfirst, hvisit] at h
        | ok result =>
            simp only [hfirst, hvisit, except_ok_bind, Except.ok.injEq] at h
            exact ⟨line, lines, s₀, result, hlines, hfirst, hvisit, h.symm⟩

end Librtsp
