import Librtsp.AuthorizationText
import Librtsp.Base64Text
import Librtsp.HeaderFields
import Librtsp.HeaderLines

/-!
# Writing a request header and reading it back

What the reader finds in the lines of a written header, field by field in the order of the
writer.  Only an authorization may come back changed: a quoted text that reaches `PATH_MAX`
with its quotes is lost.
-/

namespace Librtsp

open CString

theorem requestTable : FieldTable RequestField.name requestFields where
  apart := requestFields_apart
  every := mem_requestFields
  titles := titles_text (by decide)

/-! ## Authorizations -/

/-- The line of the authorization is read as the other one. -/
def AuthRead (auth auth' : RtspAuthorizationHeader) : Prop :=
  ∃ value, PrintsLine (ascii "Authorization") value (rtspAuthorizationHeaderWrite auth) ∧
    rtspAuthorizationHeaderRead value = .ok auth'

theorem alphabet_text {c : UInt8} (hc : c ∈ Base64.alphabet) :
    isTextByte c = true ∧ c ≠ Base64.pad := by
  have hall : Base64.alphabet.all (fun c => isTextByte c && c != Base64.pad) = true := by
    decide
  simpa using List.all_eq_true.mp hall c hc

theorem padded_textByte {text : Bytes} (h : Base64.Padded text) {b : UInt8} (hb : b ∈ text) :
    isTextByte b = true := by
  obtain ⟨body, pads, rfl, -, hbody⟩ := h.letters
  rcases List.mem_append.mp hb with hb | hb
  · exact (alphabet_text (hbody b hb)).1
  · rw [(List.mem_replicate.mp hb).2]
    decide

theorem toLower_equalSign {b : UInt8} (h : toLower b = 0x3d) : b = 0x3d := by
  have hall : ∀ i : Fin 256,
      (toLower (UInt8.ofNat i) != 0x3d || UInt8.ofNat i == 0x3d) = true := by
    decide +kernel
  simpa [h] using hall ⟨b.toNat, b.toNat_lt⟩

/-- Padded text of that length has no pad character in the sixth place. -/
theorem padded_notRealm {text : Bytes} (h : Base64.Padded text) :
    strncasecmpEq text (ascii "realm=") 6 = false := by
  rw [← Bool.not_eq_true]
  intro hequal
  have htaken : (text.take 6).map toLower = ascii "realm=" := by
    have hname : ((ascii "realm=").take 6).map toLower = ascii "realm=" := by decide
    unfold strncasecmpEq strcasecmpEq at hequal
    rw [beq_iff_eq, hname] at hequal
    exact hequal
  have hsix : 6 ≤ text.length := by
    have hlength := congrArg List.length htaken
    rw [List.length_map, List.length_take, show (ascii "realm=").length = 6 from rfl] at hlength
    omega
  have hpad : text[5]? = some Base64.pad := by
    have hsixth := congrArg (fun l : Bytes => l[5]?) htaken
    have hname : (ascii "realm=")[5]? = some 0x3d := by decide
    rw [hname, List.getElem?_map, List.getElem?_take_of_lt (by decide)] at hsixth
    obtain ⟨b, hb, hlower⟩ := Option.map_eq_some_iff.mp hsixth
    rw [hb, toLower_equalSign hlower]
    rfl
  have hgroups := h.groups
  obtain ⟨body, pads, rfl, hpads, hbody⟩ := h.letters
  rw [List.length_append, List.length_replicate] at hsix hgroups
  have hinside : 5 < body.length := by omega
  rw [List.getElem?_append_left hinside] at hpad
  exact (alphabet_text (hbody _ (List.mem_of_getElem? hpad))).2 rfl

theorem basicAuth_read {credentials : Bytes} (h : Base64.Padded credentials) :
    AuthRead { type := .basic, credentials := some credentials }
      { type := .basic, credentials := some credentials } := by
  have htext : ∀ b ∈ credentials, isTextByte b = true := fun _ => padded_textByte h
  have hscheme : FieldText (ascii "Basic ") := fieldText_ascii (by decide)
  have htoken := token_textBytes h.nonempty htext
  have hfirst := (firstToken_token htoken [] atDelimiter_nil).1
  rw [List.append_nil] at hfirst
  refine ⟨ascii "Basic " ++ credentials, ⟨?_, fun text hline => ?_⟩, ?_⟩
  · exact fieldText_append hscheme (fieldText_textBytes htext)
  · unfold rtspAuthorizationHeaderWrite at hline
    dsimp only at hline
    rw [nonEmpty_of_ne h.nonempty] at hline
    cases hline
    have hname : ascii "Authorization: " = ascii "Authorization" ++ ascii ": " := rfl
    have hspace : ascii "Basic " = ascii "Basic" ++ ascii " " := rfl
    simp [fieldLine, rtspAuthTypeStr, hname, hspace]
  · rw [rtspAuthorizationHeaderRead_basic, hfirst]
    dsimp only
    unfold basicAuthRead
    rw [padded_notRealm h, if_neg Bool.false_ne_true]

theorem paramsText_fieldText {params : List (Bytes × Bytes)}
    (h : ∀ param ∈ params, FieldText param.1 ∧ FieldText param.2) :
    FieldText (paramsText params) := by
  have hparam : ∀ param ∈ params, FieldText (paramText param) := by
    intro param hmem
    have hopen : FieldText (ascii "=\"") := fieldText_ascii (by decide)
    have hclose : FieldText (ascii "\"") := fieldText_ascii (by decide)
    have htext : paramText param = param.1 ++ ascii "=\"" ++ param.2 ++ ascii "\"" := by
      simp [paramText, quoted, ascii]
    rw [htext]
    exact fieldText_append (fieldText_append (fieldText_append (h param hmem).1 hopen)
      (h param hmem).2) hclose
  cases params with
  | nil => exact fun _ hb => absurd hb List.not_mem_nil
  | cons param params =>
      have hcomma : FieldText (ascii ", ") := fieldText_ascii (by decide)
      refine fieldText_append (hparam param List.mem_cons_self) fun b hb => ?_
      obtain ⟨part, hpart, hb⟩ := List.mem_flatten.mp hb
      obtain ⟨other, hother, rfl⟩ := List.mem_map.mp hpart
      exact fieldText_append hcomma (hparam other (List.mem_cons_of_mem _ hother)) b hb

theorem digestText_fieldText {auth : RtspAuthorizationHeader} (h : DigestHeader auth) :
    FieldText (digestText auth) := by
  have hscheme : FieldText (ascii "Digest ") := fieldText_ascii (by decide)
  have hnames : digestNames.all (fun name => name.all isTextByte) = true := by decide
  have htexts : ∀ value ∈ quotedTexts auth, FieldText value := by
    intro value hvalue b hb
    have hclean := (h.texts value hvalue).clean b hb
    exact ⟨hclean.1, hclean.2.1, hclean.2.2.1⟩
  have halgorithm : ∀ value ∈ rtspAuthAlgorithmStr auth.algorithm, FieldText value := by
    cases auth.algorithm with
    | unknown => exact fun _ h => nomatch h
    | unspecified => exact fun _ h => nomatch h
    | md5 => simpa [rtspAuthAlgorithmStr] using fieldText_ascii (by decide)
    | md5Sess => simpa [rtspAuthAlgorithmStr] using fieldText_ascii (by decide)
  have hqop : ∀ value ∈ rtspAuthQopStr auth.qop, FieldText value := by
    cases auth.qop with
    | unknown => exact fun _ h => nomatch h
    | unspecified => exact fun _ h => nomatch h
    | auth => simpa [rtspAuthQopStr] using fieldText_ascii (by decide)
    | authInt => simpa [rtspAuthQopStr] using fieldText_ascii (by decide)
  have hnc : FieldText (rtspAuthNcStr auth.nc) :=
    fieldText_textBytes fun _ => (spells_formatHex_lower 8 auth.nc.toNat).textByte (by decide)
  refine fieldText_append hscheme (paramsText_fieldText fun param hparam => ?_)
  have hfield := mem_presentFields.mp hparam
  have hname := List.all_eq_true.mp hnames _ (digestFields_names hfield)
  exact ⟨fieldText_textBytes (List.all_eq_true.mp hname),
    digestFields_values htexts halgorithm hqop hnc _ hfield param.2 rfl⟩

/-- A response whose values hold no comma. -/
structure DigestResponse (auth : RtspAuthorizationHeader) : Prop where
  header : DigestHeader auth
  response : ∃ response ∈ auth.response, response ≠ []
  whole : ∀ value ∈ quotedTexts auth, 0x2c ∉ value

theorem digestAuth_read {auth : RtspAuthorizationHeader} (h : DigestResponse auth) :
    AuthRead auth (heldBack auth) := by
  obtain ⟨response, hresponse, hne⟩ := h.response
  refine ⟨digestText auth, ⟨digestText_fieldText h.header, fun text hline => ?_⟩, ?_⟩
  · rw [printed_rtspAuthorizationHeaderWrite h.header hresponse hne] at hline
    cases hline
    rfl
  · exact rtspAuthorizationHeaderRead_heldBack h.header h.whole

/-- Credentials in base64, or a response that the reader keeps whole. -/
inductive AuthKept : RtspAuthorizationHeader → Prop where
  | basic {credentials : Bytes} (padded : Base64.Padded credentials) :
      AuthKept { type := .basic, credentials := some credentials }
  | digest {auth : RtspAuthorizationHeader} (response : DigestResponse auth)
      (short : ∀ value ∈ quotedTexts auth, value.length + 2 < pathMax) : AuthKept auth

theorem AuthKept.read {auth : RtspAuthorizationHeader} (h : AuthKept auth) :
    AuthRead auth auth := by
  cases h with
  | basic padded => exact basicAuth_read padded
  | digest response short =>
      have hread := digestAuth_read response
      rw [heldBack_eq_iff.mpr short] at hread
      exact hread

/-! ## Fields -/

/-- A header whose fields are unset or have values that their lines can hold; of its
authorization nothing is said. -/
structure RtspRequestHeader.FieldsKept (P : Platform) (header : RtspRequestHeader) : Prop where
  method : header.method ≠ .unknown
  uri : ∃ uri ∈ header.uri, uri ≠ [] ∧ FieldText uri ∧ 0x20 ∉ uri
  cseq : 0 ≤ header.cseq
  date : DateKept P header.date
  session : SessionKept header.sessionId header.sessionTimeout
  transport : ∀ trsp ∈ header.transport, trsp.Explicit
  transportCount : header.transport.length ≤ rtspTransportMaxCount
  contentType : FieldString header.contentType
  scale : header.scale = 0
  userAgent : FieldString header.userAgent
  server : FieldString header.server
  accept : FieldString header.accept
  range : header.range = {} ∨ WholeRange header.range
  contentLength : 0 ≤ header.contentLength
  ext : ∀ e ∈ header.ext, ExtKept e

section Request

variable {P : Platform} {header : RtspRequestHeader}

/-- What is printed are lines of a request that take one header to the other. -/
abbrev RequestReads (P : Platform) (pieces : List Piece) (s s' : RtspRequestHeader) : Prop :=
  LinesRead (fieldLineRead RequestField.name requestFields (requestUpdate P)) pieces s s'

theorem transportField_read (h : ∀ trsp ∈ header.transport, trsp.Explicit)
    (hcount : header.transport.length ≤ rtspTransportMaxCount) {s : RtspRequestHeader}
    (hunset : s.transport = []) :
    RequestReads P
      (if header.transport = [] then [] else rtspTransportHeaderWrite header.transport)
      s { s with transport := header.transport } := by
  by_cases hnone : header.transport = []
  · rw [if_pos hnone, hnone]
    exact .nil (by rw [← hunset])
  · rw [if_neg hnone]
    obtain ⟨value, hprints, hread⟩ := transportLine_read hnone h
    refine .line requestTable .transport hprints ?_
    have hall := hread rtspTransportMaxCount
    rw [List.take_of_length_le hcount] at hall
    simp only [requestUpdate, hall, except_ok_bind, if_neg hnone]

theorem contentLengthField_read (h : 0 ≤ header.contentLength) {s : RtspRequestHeader}
    (hunset : s.contentLength = 0) :
    RequestReads P
      (if 0 < header.contentLength then contentLengthWrite header.contentLength else [])
      s { s with contentLength := header.contentLength } := by
  unfold contentLengthWrite
  split
  next =>
    refine .number requestTable .contentLength rfl
      (fun contentLength => { s with contentLength }) ?_ header.contentLength
    exact fun _ => rfl
  next hnone =>
    have hzero : header.contentLength = 0 := Int32.le_antisymm (Int32.not_lt.mp hnone) h
    exact .nil (by rw [hzero, ← hunset])

/-- The fields in front of the authorization. -/
theorem fieldsBefore_read (h : header.FieldsKept P) :
    RequestReads P (fieldsBefore P header)
      { method := header.method, uri := header.uri }
      { method := header.method, uri := header.uri, cseq := header.cseq, date := header.date,
        sessionId := header.sessionId, sessionTimeout := header.sessionTimeout,
        transport := header.transport } := by
  have hcseq : ∀ s : RtspRequestHeader,
      RequestReads P (cseqWrite header.cseq) s { s with cseq := header.cseq } :=
    fun s => .cseq requestTable .cseq rfl (fun cseq => { s with cseq }) (fun _ => rfl) h.cseq
  have hdate : ∀ s : RtspRequestHeader, s.date = 0 →
      RequestReads P (dateWrite P header.date) s { s with date := header.date } :=
    fun s hunset => .date requestTable .date rfl (fun date => { s with date }) (fun _ => rfl)
      (by rw [← hunset]) h.date
  have hsession : ∀ s : RtspRequestHeader, s.sessionId = none → s.sessionTimeout = 0 →
      RequestReads P (sessionFieldWrite header.sessionId header.sessionTimeout) s
        { s with sessionId := header.sessionId, sessionTimeout := header.sessionTimeout } :=
    fun s hid htimeout => .session requestTable .session rfl
      (fun sessionId sessionTimeout => { s with sessionId, sessionTimeout }) (fun _ => rfl)
      (by rw [← hid, ← htimeout]) h.session
  unfold fieldsBefore
  rw [List.append_assoc, List.append_assoc]
  refine .append (hcseq _) ?_
  refine .append (hdate _ rfl) ?_
  refine .append (hsession _ rfl rfl) ?_
  exact transportField_read h.transport h.transportCount rfl

/-- The fields behind it. -/
theorem fieldsAfter_read (hP : P.ExactWhole) (h : header.FieldsKept P)
    (authorization : Option RtspAuthorizationHeader) :
    RequestReads P (fieldsAfter P header)
      { method := header.method, uri := header.uri, cseq := header.cseq, date := header.date,
        sessionId := header.sessionId, sessionTimeout := header.sessionTimeout,
        transport := header.transport, authorization }
      { header with authorization } := by
  have htype : ∀ s : RtspRequestHeader, s.contentType = none →
      RequestReads P (fieldWrite (ascii "Content-Type") header.contentType) s
        { s with contentType := header.contentType } :=
    fun s hunset => .text requestTable .contentType (fun contentType => { s with contentType })
      (fun _ => rfl) (by rw [← hunset]) h.contentType
  have hscale : ∀ s : RtspRequestHeader, s.scale = 0 →
      RequestReads P (scaleWrite P header.scale) s { s with scale := header.scale } := by
    intro s hunset
    rw [h.scale]
    exact .nil (by rw [← hunset])
  have hagent : ∀ s : RtspRequestHeader, s.userAgent = none →
      RequestReads P (fieldWrite (ascii "User-Agent") header.userAgent) s
        { s with userAgent := header.userAgent } :=
    fun s hunset => .text requestTable .userAgent (fun userAgent => { s with userAgent })
      (fun _ => rfl) (by rw [← hunset]) h.userAgent
  have hserver : ∀ s : RtspRequestHeader, s.server = none →
      RequestReads P (fieldWrite (ascii "Server") header.server) s
        { s with server := header.server } :=
    fun s hunset => .text requestTable .server (fun server => { s with server })
      (fun _ => rfl) (by rw [← hunset]) h.server
  have haccept : ∀ s : RtspRequestHeader, s.accept = none →
      RequestReads P (fieldWrite (ascii "Accept") header.accept) s
        { s with accept := header.accept } :=
    fun s hunset => .text requestTable .accept (fun accept => { s with accept })
      (fun _ => rfl) (by rw [← hunset]) h.accept
  have hrange : ∀ s : RtspRequestHeader, s.range = {} →
      RequestReads P (rangeFieldWrite P header.range) s { s with range := header.range } :=
    fun s hunset => .range hP requestTable .range rfl (fun range => { s with range })
      (fun _ => rfl) (by rw [← hunset]) h.range
  have hext : ∀ s : RtspRequestHeader, s.ext = [] →
      RequestReads P (extWrite header.ext) s { s with ext := header.ext } := by
    intro s hunset
    have hfirst : { s with ext := [] } = s := by rw [← hunset]
    have hall : RequestReads P (extWrite header.ext) { s with ext := [] }
        { s with ext := [] ++ header.ext } :=
      .extensions requestTable .ext rfl (fun ext => { s with ext }) (fun _ _ _ => rfl) h.ext []
    rw [hfirst] at hall
    exact hall
  unfold fieldsAfter
  simp only [List.append_assoc]
  refine .append (htype _ rfl) ?_
  refine .append (hscale _ rfl) ?_
  refine .append (hagent _ rfl) ?_
  refine .append (hserver _ rfl) ?_
  refine .append (haccept _ rfl) ?_
  refine .append (hrange _ rfl) ?_
  refine .append (contentLengthField_read h.contentLength rfl) ?_
  exact hext _ rfl

theorem authorizationField_read {back : RtspAuthorizationHeader → RtspAuthorizationHeader}
    (h : ∀ auth ∈ header.authorization, AuthRead auth (back auth)) {s : RtspRequestHeader}
    (hunset : s.authorization = none) :
    RequestReads P (authorizationPieces header.authorization) s
      { s with authorization := header.authorization.map back } := by
  cases hauth : header.authorization with
  | none => exact .nil (by rw [Option.map_none, ← hunset])
  | some auth =>
      obtain ⟨value, hprints, hread⟩ := h auth hauth
      refine .line requestTable .authorization hprints ?_
      simp only [requestUpdate, hread, except_ok_bind, Option.map_some]

/-! ## The header -/

theorem requestLineRead_startLine (hmethod : header.method ≠ .unknown) {uri : Bytes}
    (hne : uri ≠ []) (hspace : 0x20 ∉ uri) :
    requestLineRead (requestStartLine header uri) =
      .ok { method := header.method, uri := some uri } := by
  have henum := rtspMethodTypeEnum_str hmethod
  have hmethodToken : IsToken space (rtspMethodTypeStr header.method) := by
    refine token_textBytes ?_ (methodTypeStr_text _)
    cases header.method <;> decide
  have huriToken : IsToken space uri := by
    refine ⟨hne, fun b hb hmem => hspace ?_⟩
    rw [← List.mem_singleton.mp hmem]
    exact hb
  have hversionToken : IsToken rtspCrlf rtspVersion := ⟨by decide, by decide +kernel⟩
  have hline : requestStartLine header uri =
      rtspMethodTypeStr header.method ++ 0x20 :: (uri ++ 0x20 :: rtspVersion) := by
    simp [requestStartLine, ascii]
  obtain ⟨hfirst, hafter⟩ := firstToken_token hmethodToken (0x20 :: (uri ++ 0x20 :: rtspVersion))
    (by simp [space])
  obtain ⟨hfirst', hafter'⟩ := firstToken_token huriToken (0x20 :: rtspVersion) (by simp [space])
  have hversion := (firstToken_token hversionToken [] atDelimiter_nil).1
  rw [List.append_nil] at hversion
  unfold requestLineRead
  simp only [hline, strtokR_some, strtokR_none_some, orFault_ok, except_ok_bind, hfirst, hafter,
    List.drop_one, List.tail_cons, hfirst', hafter', hversion, henum, nonEmpty_of_ne hne]
  rw [if_neg hmethod, if_neg (by simp), if_neg (by simp)]

theorem requestStartLine_clean {uri : Bytes} (huri : FieldText uri) :
    CleanLine (requestStartLine header uri) := by
  have hspace : FieldText (ascii " ") := fieldText_ascii (by decide)
  have hversion : FieldText rtspVersion := fieldText_ascii (by decide)
  have hmethod := fieldText_textBytes (methodTypeStr_text header.method)
  constructor
  · simp [requestStartLine, ascii]
  · exact fieldText_append (fieldText_append (fieldText_append (fieldText_append hmethod hspace)
      huri) hspace) hversion

/-- What is written are clean lines; the header that is read has the authorization that is
read of its line. -/
theorem requestHeader_written (hP : P.ExactWhole) (h : header.FieldsKept P)
    {back : RtspAuthorizationHeader → RtspAuthorizationHeader}
    (hauth : ∀ auth ∈ header.authorization, AuthRead auth (back auth)) {str str' : RtspString}
    (hwrite : rtspRequestHeaderWrite P header str = .ok str') :
    ∃ text, str'.str = str.str ++ text ∧ HeaderText text ∧ rtspRequestHeaderRead P text =
      .ok { header with authorization := header.authorization.map back } := by
  obtain ⟨uri, huri, hne, hclean, hspace⟩ := h.uri
  have huri' : nonEmpty header.uri = some uri := by
    rw [Option.mem_def.mp huri]
    exact nonEmpty_of_ne hne
  have hfields : RequestReads P
      (fieldsBefore P header ++ (authorizationPieces header.authorization ++ fieldsAfter P header))
      { method := header.method, uri := header.uri }
      { header with authorization := header.authorization.map back } :=
    .append (fieldsBefore_read h)
      (.append (authorizationField_read hauth rfl) (fieldsAfter_read hP h _))
  obtain ⟨text, htext, rfl⟩ := rtspPrint_ok hwrite
  rw [requestPieces_parts huri' h.method, ← List.append_assoc (authorizationPieces _),
    ← List.append_assoc (fieldsBefore P header)] at htext
  obtain ⟨rest, hrest, rfl⟩ := Option.map_eq_some_iff.mp htext
  obtain ⟨written, last, hwritten, hlast, rfl⟩ := printed_append hrest
  obtain ⟨lines, hlines, rfl, hvisit⟩ := hfields written hwritten
  obtain rfl : rtspCrlf = last := Option.some.inj hlast
  have hjoined : requestStartLine header uri ++ rtspCrlf ++ (joinLines lines ++ rtspCrlf) =
      joinLines (requestStartLine header uri :: lines) ++ rtspCrlf := by
    simp [rtspCrlf]
  have hall : ∀ line ∈ requestStartLine header uri :: lines, CleanLine line := by
    intro line hline
    rcases List.mem_cons.mp hline with rfl | hline
    · exact requestStartLine_clean hclean
    · exact hlines line hline
  refine ⟨_, rfl, ?_, ?_⟩
  · exact ⟨requestStartLine header uri :: lines, List.cons_ne_nil _ _, hall, hjoined⟩
  · rw [hjoined, rtspRequestHeaderRead_eq, readLines_joinLines _ _ hall,
      requestLineRead_startLine h.method hne hspace, except_ok_bind, requestFieldRead_eq,
      ← Option.mem_def.mp huri, hvisit]
    rfl

/-- The header that is read has the authorization that is read of its line. -/
theorem requestHeader_readBack (hP : P.ExactWhole) (h : header.FieldsKept P)
    {back : RtspAuthorizationHeader → RtspAuthorizationHeader}
    (hauth : ∀ auth ∈ header.authorization, AuthRead auth (back auth)) {str str' : RtspString}
    (hwrite : rtspRequestHeaderWrite P header str = .ok str') :
    ∃ text, str'.str = str.str ++ text ∧ rtspRequestHeaderRead P text =
      .ok { header with authorization := header.authorization.map back } := by
  obtain ⟨text, htext, -, hread⟩ := requestHeader_written hP h hauth hwrite
  exact ⟨text, htext, hread⟩

/-- A request header that is written is read back as it was. -/
theorem requestHeader_roundTrip (hP : P.ExactWhole) (h : header.FieldsKept P)
    (hauth : ∀ auth ∈ header.authorization, AuthKept auth) {str str' : RtspString}
    (hwrite : rtspRequestHeaderWrite P header str = .ok str') :
    ∃ text, str'.str = str.str ++ text ∧ rtspRequestHeaderRead P text = .ok header := by
  obtain ⟨text, htext, hread⟩ := requestHeader_readBack hP h
    (fun auth hmem => (hauth auth hmem).read) hwrite
  rw [Option.map_id'] at hread
  exact ⟨text, htext, hread⟩

end Request

/-- A digest with one text and a response. -/
def namedDigest (username : Bytes) : RtspAuthorizationHeader :=
  { type := .digest, username := some username, response := some (ascii "0") }

theorem namedDigest_response {username : Bytes} (h : QuotedText username)
    (hcomma : 0x2c ∉ username) : DigestResponse (namedDigest username) := by
  have hresponse : QuotedText (ascii "0") :=
    ⟨List.forall_mem_singleton.mpr (by decide), by decide⟩
  refine ⟨⟨rfl, rfl, nofun, nofun, nofun, fun _ => ⟨rfl, rfl⟩, ?_⟩, ⟨_, rfl, ?_⟩, ?_⟩
  · exact List.forall_mem_cons.mpr ⟨h, List.forall_mem_singleton.mpr hresponse⟩
  · decide
  · exact List.forall_mem_cons.mpr
      ⟨hcomma, List.forall_mem_singleton.mpr (by decide)⟩

/-- A request with most of its fields set. -/
def fullRequest : RtspRequestHeader :=
  { method := .setup
    uri := some (ascii "rtsp://h/a")
    cseq := 2
    date := 1
    sessionId := some (ascii "12345678")
    sessionTimeout := 60
    transport := [{ transportProtocol := some (ascii "RTP"), transportProfile := some (ascii "AVP"),
                    lowerTransport := .tcp, delivery := .unicast, interleaved := [⟨0, 1⟩] }]
    authorization := some (namedDigest (ascii "u"))
    contentType := some (ascii "application/sdp")
    userAgent := some (ascii "client")
    range := hourRange
    contentLength := 5
    ext := [⟨ascii "X-Test", ascii "1"⟩] }

theorem fullRequest_kept : fullRequest.FieldsKept firstSecondPlatform where
  method := by decide
  uri := ⟨_, rfl, by decide, fieldText_ascii (by decide), by decide⟩
  cseq := by decide
  date := firstSecond_kept
  session := by
    refine ⟨fieldString_some (by decide) (fieldText_ascii (by decide)), ?_, nofun⟩
    rintro id ⟨⟩
    decide
  transport := by
    refine List.forall_mem_singleton.mpr ⟨⟨rfl, rfl, nofun, nofun, by decide⟩, ?_, ?_, ?_, ?_, ?_⟩
    · exact fun h => absurd rfl h
    · exact fun _ => ⟨rfl, rfl⟩
    · exact fun _ => ⟨rfl, rfl⟩
    · nofun
    · exact fun _ => rfl
  transportCount := by decide
  contentType := fieldString_some (by decide) (fieldText_ascii (by decide))
  scale := rfl
  userAgent := fieldString_some (by decide) (fieldText_ascii (by decide))
  server := fieldString_none
  accept := fieldString_none
  range := .inr hourRange_whole
  contentLength := by decide
  ext := List.forall_mem_singleton.mpr
    ⟨by decide, ⟨fieldText_ascii (by decide), by decide⟩,
      fieldText_ascii (by decide)⟩

theorem fullRequest_roundTrip :
    ∃ str, rtspRequestHeaderWrite firstSecondPlatform fullRequest { maxLen := 1024 } = .ok str ∧
      ∃ text, str.str = [] ++ text ∧
        rtspRequestHeaderRead firstSecondPlatform text = .ok fullRequest := by
  have hwritten : (rtspRequestHeaderWrite firstSecondPlatform fullRequest
      { maxLen := 1024 }).toOption.isSome = true := by
    decide +kernel
  obtain ⟨str, hstr⟩ := Option.isSome_iff_exists.mp hwritten
  have hauth : ∀ auth ∈ fullRequest.authorization, AuthKept auth := by
    rintro auth ⟨⟩
    have hname : QuotedText (ascii "u") :=
      ⟨List.forall_mem_singleton.mpr (by decide), by decide⟩
    refine .digest (namedDigest_response hname (by decide)) ?_
    decide
  have hok := Execution.ok_of_toOption hstr
  exact ⟨str, hok, requestHeader_roundTrip firstSecondPlatform_exact fullRequest_kept hauth hok⟩

/-- A request of a user with that name. -/
def namedRequest (username : Bytes) : RtspRequestHeader :=
  { method := .describe, uri := some (ascii "rtsp://h/"), cseq := 1,
    authorization := some (namedDigest username) }

theorem namedRequest_kept (username : Bytes) :
    (namedRequest username).FieldsKept wholePlatform where
  method h := by cases h
  uri := ⟨_, rfl, by decide, fieldText_ascii (by decide), by decide⟩
  cseq := show (0 : Int32) ≤ 1 by decide
  date _ h := by cases h
  session := ⟨fieldString_none, (fun _ h => nomatch h), fun _ => rfl⟩
  transport _ h := nomatch h
  transportCount := Nat.zero_le _
  contentType := fieldString_none
  scale := rfl
  userAgent := fieldString_none
  server := fieldString_none
  accept := fieldString_none
  range := .inl rfl
  contentLength := Int32.le_refl 0
  ext _ h := nomatch h

/-- A name that reaches `PATH_MAX` with its quotes is not read back. -/
theorem namedRequest_loses {username : Bytes} (hresponse : DigestResponse (namedDigest username))
    (hlong : pathMax ≤ username.length + 2) {str : RtspString} {maxLen : Nat}
    (hwrite : rtspRequestHeaderWrite wholePlatform (namedRequest username) { maxLen } = .ok str) :
    rtspRequestHeaderRead wholePlatform str.str ≠ .ok (namedRequest username) := by
  have hauth : ∀ auth ∈ (namedRequest username).authorization, AuthRead auth (heldBack auth) := by
    rintro auth ⟨⟩
    exact digestAuth_read hresponse
  obtain ⟨text, htext, hread⟩ := requestHeader_readBack wholePlatform_exact
    (namedRequest_kept username) hauth hwrite
  rw [htext, List.nil_append, hread]
  intro hsame
  have hname := congrArg (fun header : RtspRequestHeader =>
    header.authorization.bind RtspAuthorizationHeader.username) (Except.ok.inj hsame)
  have hlost : unquoted username = some username := hname
  rw [unquoted, if_neg (by omega)] at hlost
  cases hlost

/-- A user name that is shorter than `PATH_MAX`, but not with its quotes. -/
def longName : Bytes :=
  List.replicate 4094 0x75

theorem longName_response : DigestResponse (namedDigest longName) := by
  have hbytes : ∀ b ∈ longName, b = 0x75 := fun _ hb => (List.mem_replicate.mp hb).2
  refine namedDigest_response ⟨fun b hb => ?_, ?_⟩ fun hmem => ?_
  · rw [hbytes b hb]
    decide
  · rw [longName, List.length_replicate]
    decide
  · exact absurd (hbytes _ hmem) (by decide)

theorem longNameRequest_loses :
    (namedRequest longName).FieldsKept wholePlatform ∧
      (∀ auth ∈ (namedRequest longName).authorization, DigestResponse auth) ∧
      ∃ str, rtspRequestHeaderWrite wholePlatform (namedRequest longName) { maxLen := 8192 } =
          .ok str ∧
        rtspRequestHeaderRead wholePlatform str.str ≠ .ok (namedRequest longName) := by
  have hshort : ((requestText wholePlatform (namedRequest longName)).any
      fun text => text.length < 8192) = true := by
    decide +kernel
  have hlong : pathMax ≤ longName.length + 2 := by
    rw [longName, List.length_replicate]
    decide
  obtain ⟨text, htext, hlength⟩ := (Option.any_eq_true _ _).mp hshort
  have hwritten : rtspRequestHeaderWrite wholePlatform (namedRequest longName)
      { maxLen := 8192 } = .ok { str := [] ++ text, maxLen := 8192 } :=
    rtspPrint_room htext (by decide) (by simpa using hlength)
  refine ⟨namedRequest_kept longName, ?_, _, hwritten,
    namedRequest_loses longName_response hlong hwritten⟩
  rintro auth ⟨⟩
  exact longName_response

end Librtsp
