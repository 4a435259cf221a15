import Librtsp.Execution
import Librtsp.HeaderFields
import Librtsp.RtpInfoText

/-!
# Writing a response header and reading it back

The reader of a response has room for one `RTP-Info` entry only, whatever the writer has
printed.  All the other fields come back as they were.
-/

namespace Librtsp

open CString

theorem responseTable : FieldTable ResponseField.name responseFields where
  apart := responseFields_apart
  every := mem_responseFields
  titles := titles_text (by decide)

/-! ## Sets of methods -/

/-- A set of methods without other bits. -/
def KnownMethods (methods : UInt32) : Prop :=
  methods &&& 0x7ff = methods

/-- The names of the methods of a set, with commas between them. -/
def methodsText (methods : UInt32) : Bytes :=
  List.intercalate comma ((rtspMethods.filter (methodSet methods)).map rtspMethodTypeStr)

theorem printed_methodNamesWrite (ms : List RtspMethodType) :
    printed (methodNamesWrite false ms) =
        some ((ms.map rtspMethodTypeStr).map (comma ++ ·)).flatten ∧
      printed (methodNamesWrite true ms) =
        some (List.intercalate comma (ms.map rtspMethodTypeStr)) := by
  induction ms with
  | nil => exact ⟨rfl, rfl⟩
  | cons m ms ih =>
      have hcomma : ascii "," = comma := rfl
      simp only [methodNamesWrite, Bool.false_eq_true, ↓reduceIte, List.nil_append, printed_ok,
        ih.1, List.map_cons, intercalate_cons_flatten, hcomma]
      simp

/-- The bit of a method that is in the set. -/
theorem and_flag {methods : UInt32} {m : RtspMethodType} (h : methodSet methods m = true) :
    methods &&& rtspMethodFlag m = rtspMethodFlag m := by
  have hset : methods &&& rtspMethodFlag m ≠ 0 := by simpa [methodSet] using h
  have hbit : ∀ i, (rtspMethodFlag m).toNat = 2 ^ i →
      methods &&& rtspMethodFlag m = rtspMethodFlag m := by
    intro i hflag
    have hvalue : (methods &&& rtspMethodFlag m).toNat =
        (methods.toNat.testBit i).toNat * 2 ^ i := by
      rw [UInt32.toNat_and, hflag, Nat.and_two_pow]
    cases hi : methods.toNat.testBit i with
    | false =>
        rw [hi, Bool.toNat_false, Nat.zero_mul] at hvalue
        exact absurd (UInt32.toNat_inj.mp hvalue) hset
    | true =>
        rw [hi, Bool.toNat_true, Nat.one_mul, ← hflag] at hvalue
        exact UInt32.toNat_inj.mp hvalue
  cases m with
  | unknown => simp [rtspMethodFlag] at hset
  | options => exact hbit 0 rfl
  | describe => exact hbit 1 rfl
  | announce => exact hbit 2 rfl
  | setup => exact hbit 3 rfl
  | play => exact hbit 4 rfl
  | pause => exact hbit 5 rfl
  | teardown => exact hbit 6 rfl
  | getParameter => exact hbit 7 rfl
  | setParameter => exact hbit 8 rfl
  | redirect => exact hbit 9 rfl
  | record => exact hbit 10 rfl

/-- The bits of some methods. -/
def flagsOf (ms : List RtspMethodType) : UInt32 :=
  ms.foldr (fun m flags => rtspMethodFlag m ||| flags) 0

/-- What the reader collects from the methods of a set are the bits of the set. -/
theorem foldl_flags (methods : UInt32) (ms : List RtspMethodType) (flags : UInt32) :
    (ms.filter (methodSet methods)).foldl (fun flags m => flags ||| rtspMethodFlag m) flags =
      flags ||| (methods &&& flagsOf ms) := by
  have hdistrib : ∀ x y z : UInt32, x &&& (y ||| z) = (x &&& y) ||| (x &&& z) := by
    intro x y z
    apply UInt32.toNat_inj.mp
    simp only [UInt32.toNat_and, UInt32.toNat_or, Nat.and_or_distrib_left]
  induction ms generalizing flags with
  | nil => simp [flagsOf]
  | cons m ms ih =>
      have hflags : flagsOf (m :: ms) = rtspMethodFlag m ||| flagsOf ms := rfl
      rw [hflags, hdistrib, ← UInt32.or_assoc]
      cases hset : methodSet methods m with
      | true => rw [List.filter_cons_of_pos hset, List.foldl_cons, ih, and_flag hset]
      | false =>
          have hnone : methods &&& rtspMethodFlag m = 0 := by simpa [methodSet] using hset
          rw [List.filter_cons_of_neg (by simp [hset]), ih, hnone, UInt32.or_zero]

theorem known_of_mem {methods : UInt32} {m : RtspMethodType}
    (h : m ∈ rtspMethods.filter (methodSet methods)) : m ≠ .unknown := by
  rintro rfl
  simp [rtspMethods] at h

/-- A set that is written is read back. -/
theorem rtspMethodsRead_text {methods : UInt32} (h : KnownMethods methods) :
    rtspMethodsRead (methodsText methods) = methods := by
  have hskip : ∀ m : RtspMethodType,
      skipSpaces (rtspMethodTypeStr m) = rtspMethodTypeStr m := by
    intro m
    cases m <;> rfl
  have hread : ∀ ms : List RtspMethodType, (∀ m ∈ ms, m ≠ .unknown) → ∀ flags,
      (ms.map rtspMethodTypeStr).foldl (fun methods method =>
        methods ||| rtspMethodFlag (rtspMethodTypeEnum (some (skipSpaces method)))) flags =
      ms.foldl (fun flags m => flags ||| rtspMethodFlag m) flags := by
    intro ms hms
    induction ms with
    | nil => exact fun _ => rfl
    | cons m ms ih =>
        intro flags
        rw [List.map_cons, List.foldl_cons, List.foldl_cons, hskip,
          rtspMethodTypeEnum_str (hms m List.mem_cons_self),
          ih fun m hm => hms m (List.mem_cons_of_mem _ hm)]
  have htokens : ∀ name ∈ (rtspMethods.filter (methodSet methods)).map rtspMethodTypeStr,
      IsToken comma name := by
    intro name hname
    obtain ⟨m, hm, rfl⟩ := List.mem_map.mp hname
    refine ⟨?_, fun b hb hmem => ?_⟩
    · cases m <;> decide
    · rw [List.mem_singleton.mp hmem] at hb
      exact absurd (methodTypeStr_text m _ hb) (by decide)
  have hflags : flagsOf rtspMethods = 0x7ff := by decide
  unfold rtspMethodsRead methodsText
  rw [comma] at htokens ⊢
  rw [tokens_joined htokens, hread _ fun m hm => known_of_mem hm, foldl_flags, hflags,
    UInt32.zero_or]
  exact h

theorem methodsText_fieldText (methods : UInt32) : FieldText (methodsText methods) := by
  refine intercalate_fieldText (by simp [FieldText, comma]) fun name hname => ?_
  obtain ⟨m, -, rfl⟩ := List.mem_map.mp hname
  exact fieldText_textBytes (methodTypeStr_text m)

/-- The line of a set of methods. -/
theorem methodsLine {title head : Bytes} (hhead : head = title ++ ascii ": ")
    (methods : UInt32) :
    PrintsLine title (methodsText methods)
      ([.ok head] ++ rtspMethodsWrite methods ++ [.ok rtspCrlf]) := by
  refine ⟨methodsText_fieldText methods, fun text htext => ?_⟩
  rw [List.append_assoc, List.singleton_append, printed_ok, rtspMethodsWrite,
    printed_append_some (printed_methodNamesWrite _).2] at htext
  cases htext
  subst hhead
  simp [fieldLine, methodsText]

theorem publicLine {methods : UInt32} (h : methods ≠ 0) :
    PrintsLine (ascii "Public") (methodsText methods) (rtspPublicHeaderWrite methods) := by
  unfold rtspPublicHeaderWrite
  rw [if_neg h]
  exact methodsLine rfl methods

theorem allowLine {methods : UInt32} (h : methods ≠ 0) :
    PrintsLine (ascii "Allow") (methodsText methods) (rtspAllowHeaderWrite methods) := by
  unfold rtspAllowHeaderWrite
  rw [if_neg h]
  exact methodsLine rfl methods

/-! ## RTP-Info entries -/

/-- An entry with a URL, whose unset numbers are zero. -/
structure RtspRtpInfoHeader.Explicit (rtpi : RtspRtpInfoHeader) : Prop where
  url : ∃ url ∈ rtpi.url, url ≠ [] ∧ ∀ b ∈ url, EntryByte b
  seq : rtpi.seqValid = false → rtpi.seq = 0
  rtptime : rtpi.rtptimeValid = false → rtpi.rtptime = 0

theorem RtspRtpInfoHeader.Explicit.cleared_eq {rtpi : RtspRtpInfoHeader} (h : rtpi.Explicit) :
    rtpi.cleared = rtpi := by
  have hseq : (if rtpi.seqValid = true then rtpi.seq else 0) = rtpi.seq := by
    split
    next => rfl
    next hunset => exact (h.seq (by simpa using hunset)).symm
  have hrtptime : (if rtpi.rtptimeValid = true then rtpi.rtptime else 0) = rtpi.rtptime := by
    split
    next => rfl
    next hunset => exact (h.rtptime (by simpa using hunset)).symm
  unfold RtspRtpInfoHeader.cleared
  rw [hseq, hrtptime]

theorem rtpInfos_kept {rtpInfo : List RtspRtpInfoHeader} (h : ∀ rtpi ∈ rtpInfo, rtpi.Explicit) :
    EntriesKept rtpInfoText rtpInfoOfParams rtpInfo := by
  intro rtpi hrtpi
  have hexplicit := h rtpi hrtpi
  obtain ⟨url, hurl, hne, hbytes⟩ := hexplicit.url
  have htext : rtpInfoText rtpi = some (List.intercalate semicolon (rtpInfoParams rtpi url)) := by
    rw [rtpInfoText, Option.mem_def.mp hurl, nonEmpty_of_ne hne]
    rfl
  have hbytes' : ∀ other ∈ rtpi.url, ∀ b ∈ other, EntryByte b := by
    intro other hother
    rw [Option.mem_unique hother hurl]
    exact hbytes
  obtain ⟨params, hparams, hsome, htexts, hread⟩ :=
    rtpInfoEntry_read (fun _ => entryByte_textByte) hbytes' htext
  rw [hexplicit.cleared_eq] at hread
  exact ⟨params, htext.trans (congrArg some hparams), hsome, htexts, hread⟩

/-- The line of some entries, which are read as long as there is room. -/
theorem rtpInfoLine_read {rtpInfo : List RtspRtpInfoHeader} (hne : rtpInfo ≠ [])
    (h : ∀ rtpi ∈ rtpInfo, rtpi.Explicit) :
    ∃ value, PrintsLine (ascii "RTP-Info") value (rtspRtpInfoHeaderWrite rtpInfo) ∧
      ∀ maxCount, rtspRtpInfoHeaderRead value maxCount = .ok (rtpInfo.take maxCount) := by
  have hkept := rtpInfos_kept h
  refine ⟨slotsText rtpInfoText (rtpInfo.map some), ?_, fun maxCount => ?_⟩
  · rw [← rtspRtpInfoHeaderWriteSlots_some, rtspRtpInfoHeaderWriteSlots,
      if_neg (by simpa using hne)]
    exact hkept.printsLine rtpInfoWrite_renders rfl
  · rw [rtspRtpInfoHeaderRead_eq]
    exact hkept.read maxCount

/-! ## Fields -/

/-- A response whose fields are unset or have values that their lines can hold. -/
structure RtspResponseHeader.FieldsKept (P : Platform) (header : RtspResponseHeader) : Prop where
  statusCode : 0 < header.statusCode ∧ header.statusCode < 2 ^ 31
  statusString : ∃ text ∈ header.statusString, text ≠ [] ∧ FieldText text
  cseq : 0 ≤ header.cseq
  date : DateKept P header.date
  session : SessionKept header.sessionId header.sessionTimeout
  transport : ∀ trsp ∈ header.transport, trsp.Explicit
  authenticate : header.authenticate = none
  contentType : FieldString header.contentType
  scale : header.scale = 0
  publicMethods : KnownMethods header.publicMethods
  allowedMethods : KnownMethods header.allowedMethods
  rtpInfo : ∀ rtpi ∈ header.rtpInfo, rtpi.Explicit
  server : FieldString header.server
  range : header.range = {} ∨ WholeRange header.range
  contentEncoding : FieldString header.contentEncoding
  contentLanguage : FieldString header.contentLanguage
  contentBase : FieldString header.contentBase
  contentLocation : FieldString header.contentLocation
  ext : ∀ e ∈ header.ext, ExtKept e

section Response

variable {P : Platform} {header : RtspResponseHeader}

/-- What is printed are lines of a response that take one header to the other. -/
abbrev ResponseReads (P : Platform) (pieces : List Piece) (s s' : RtspResponseHeader) : Prop :=
  LinesRead (fieldLineRead ResponseField.name responseFields (responseUpdate P)) pieces s s'

def singleTransportPieces : Option RtspTransportHeader → List Piece
  | none => []
  | some trsp => rtspTransportHeaderWrite [trsp]

theorem singleTransport_read (h : ∀ trsp ∈ header.transport, trsp.Explicit)
    {s : RtspResponseHeader} (hunset : s.transport = none) :
    ResponseReads P (singleTransportPieces header.transport) s
      { s with transport := header.transport } := by
  cases htransport : header.transport with
  | none => exact .nil (by rw [← hunset])
  | some trsp =>
      obtain ⟨value, hprints, hread⟩ := transportLine_read (List.cons_ne_nil trsp [])
        (List.forall_mem_singleton.mpr (h trsp htransport))
      refine .line responseTable .transport hprints ?_
      simp only [responseUpdate, hread, except_ok_bind, List.take_succ_cons, List.head?_cons]

/-- A set of methods is read of its line, whichever of the two fields it is. -/
theorem methodsField_read (f : ResponseField) {s : RtspResponseHeader}
    (store : UInt32 → RtspResponseHeader)
    (hstore : ∀ value, responseUpdate P f f.name value s =
      .ok (.yield (store (rtspMethodsRead value))))
    (hunset : store 0 = s) {methods : UInt32} (h : KnownMethods methods) {pieces : List Piece}
    (hprints : methods ≠ 0 → PrintsLine f.name (methodsText methods) pieces) :
    ResponseReads P (if 0 < methods then pieces else []) s (store methods) := by
  split
  next hpos =>
    have hne : methods ≠ 0 := by
      rintro rfl
      exact absurd hpos (by decide)
    have hread := hstore (methodsText methods)
    rw [rtspMethodsRead_text h] at hread
    exact .line responseTable f (hprints hne) hread
  next hnone =>
    have hzero : methods = 0 := by
      apply UInt32.toNat_inj.mp
      simpa [UInt32.lt_iff_toNat_lt] using hnone
    exact .nil (by rw [hzero, hunset])

/-- The reader keeps the first entry only. -/
theorem rtpInfoField_read (h : ∀ rtpi ∈ header.rtpInfo, rtpi.Explicit) {s : RtspResponseHeader}
    (hunset : s.rtpInfo = []) :
    ResponseReads P (if header.rtpInfo = [] then [] else rtspRtpInfoHeaderWrite header.rtpInfo)
      s { s with rtpInfo := header.rtpInfo.take 1 } := by
  by_cases hnone : header.rtpInfo = []
  · rw [if_pos hnone, hnone]
    exact .nil (by rw [List.take_nil, ← hunset])
  · rw [if_neg hnone]
    obtain ⟨value, hprints, hread⟩ := rtpInfoLine_read hnone h
    have hfirst : header.rtpInfo.take 1 ≠ [] := by simpa using hnone
    refine .line responseTable .rtpInfo hprints ?_
    simp only [responseUpdate, hread, except_ok_bind, if_neg hfirst]

/-- The fields up to the `RTP-Info` entries. -/
def leadingPieces (P : Platform) (header : RtspResponseHeader) : List Piece :=
  cseqWrite header.cseq ++ dateWrite P header.date ++
    sessionFieldWrite header.sessionId header.sessionTimeout ++
    singleTransportPieces header.transport ++
    fieldWrite (ascii "Content-Type") header.contentType ++ scaleWrite P header.scale ++
    (if 0 < header.publicMethods then rtspPublicHeaderWrite header.publicMethods else []) ++
    (if 0 < header.allowedMethods then rtspAllowHeaderWrite header.allowedMethods else []) ++
    (if header.rtpInfo = [] then [] else rtspRtpInfoHeaderWrite header.rtpInfo)

def trailingPieces (P : Platform) (header : RtspResponseHeader) : List Piece :=
  fieldWrite (ascii "Server") header.server ++ rangeFieldWrite P header.range ++
    contentLengthWrite header.contentLength ++
    fieldWrite (ascii "Content-Encoding") header.contentEncoding ++
    fieldWrite (ascii "Content-Language") header.contentLanguage ++
    fieldWrite (ascii "Content-Base") header.contentBase ++
    fieldWrite (ascii "Content-Location") header.contentLocation ++ extWrite header.ext

theorem responseFieldPieces_parts :
    responseFieldPieces P header = leadingPieces P header ++ trailingPieces P header := by
  unfold responseFieldPieces leadingPieces trailingPieces
  cases header.transport <;> simp only [singleTransportPieces, List.append_assoc]

theorem leadingPieces_read (h : header.FieldsKept P) :
    ResponseReads P (leadingPieces P header)
      { statusCode := header.statusCode, statusString := header.statusString }
      { statusCode := header.statusCode, statusString := header.statusString,
        cseq := header.cseq, date := header.date, sessionId := header.sessionId,
        sessionTimeout := header.sessionTimeout, transport := header.transport,
        contentType := header.contentType, scale := header.scale,
        publicMethods := header.publicMethods, allowedMethods := header.allowedMethods,
        rtpInfo := header.rtpInfo.take 1 } := by
  have hcseq : ∀ s : RtspResponseHeader,
      ResponseReads P (cseqWrite header.cseq) s { s with cseq := header.cseq } :=
    fun s => .cseq responseTable .cseq rfl (fun cseq => { s with cseq }) (fun _ => rfl) h.cseq
  have hdate : ∀ s : RtspResponseHeader, s.date = 0 →
      ResponseReads P (dateWrite P header.date) s { s with date := header.date } :=
    fun s hunset => .date responseTable .date rfl (fun date => { s with date }) (fun _ => rfl)
      (by rw [← hunset]) h.date
  have hsession : ∀ s : RtspResponseHeader, s.sessionId = none → s.sessionTimeout = 0 →
      ResponseReads P (sessionFieldWrite header.sessionId header.sessionTimeout) s
        { s with sessionId := header.sessionId, sessionTimeout := header.sessionTimeout } :=
    fun s hid htimeout => .session responseTable .session rfl
      (fun sessionId sessionTimeout => { s with sessionId, sessionTimeout }) (fun _ => rfl)
      (by rw [← hid, ← htimeout]) h.session
  have htype : ∀ s : RtspResponseHeader, s.contentType = none →
      ResponseReads P (fieldWrite (ascii "Content-Type") header.contentType) s
        { s with contentType := header.contentType } :=
    fun s hunset => .text responseTable .contentType (fun contentType => { s with contentType })
      (fun _ => rfl) (by rw [← hunset]) h.contentType
  have hscale : ∀ s : RtspResponseHeader, s.scale = 0 →
      ResponseReads P (scaleWrite P header.scale) s { s with scale := header.scale } := by
    intro s hunset
    rw [h.scale]
    exact .nil (by rw [← hunset])
  have hpublic : ∀ s : RtspResponseHeader, s.publicMethods = 0 →
      ResponseReads P
        (if 0 < header.publicMethods then rtspPublicHeaderWrite header.publicMethods else [])
        s { s with publicMethods := header.publicMethods } :=
    fun s hunset => methodsField_read .publicMethods (fun publicMethods => { s with publicMethods })
      (fun _ => rfl) (by rw [← hunset]) h.publicMethods publicLine
  have hallow : ∀ s : RtspResponseHeader, s.allowedMethods = 0 →
      ResponseReads P
        (if 0 < header.allowedMethods then rtspAllowHeaderWrite header.allowedMethods else [])
        s { s with allowedMethods := header.allowedMethods } :=
    fun s hunset => methodsField_read .allow (fun allowedMethods => { s with allowedMethods })
      (fun _ => rfl) (by rw [← hunset]) h.allowedMethods allowLine
  unfold leadingPieces
  simp only [List.append_assoc]
  refine .append (hcseq _) ?_
  refine .append (hdate _ rfl) ?_
  refine .append (hsession _ rfl rfl) ?_
  refine .append (singleTransport_read h.transport rfl) ?_
  refine .append (htype _ rfl) ?_
  refine .append (hscale _ rfl) ?_
  refine .append (hpublic _ rfl) ?_
  refine .append (hallow _ rfl) ?_
  exact rtpInfoField_read h.rtpInfo rfl

theorem trailingPieces_read (hP : P.ExactWhole) (h : header.FieldsKept P)
    (rtpInfo : List RtspRtpInfoHeader) :
    ResponseReads P (trailingPieces P header)
      { statusCode := header.statusCode, statusString := header.statusString,
        cseq := header.cseq, date := header.date, sessionId := header.sessionId,
        sessionTimeout := header.sessionTimeout, transport := header.transport,
        contentType := header.contentType, scale := header.scale,
        publicMethods := header.publicMethods, allowedMethods := header.allowedMethods, rtpInfo }
      { header with rtpInfo } := by
  have hserver : ∀ s : RtspResponseHeader, s.server = none →
      ResponseReads P (fieldWrite (ascii "Server") header.server) s
        { s with server := header.server } :=
    fun s hunset => .text responseTable .server (fun server => { s with server })
      (fun _ => rfl) (by rw [← hunset]) h.server
  have hrange : ∀ s : RtspResponseHeader, s.range = {} →
      ResponseReads P (rangeFieldWrite P header.range) s { s with range := header.range } :=
    fun s hunset => .range hP responseTable .range rfl (fun range => { s with range })
      (fun _ => rfl) (by rw [← hunset]) h.range
  have hlength : ∀ s : RtspResponseHeader,
      ResponseReads P (contentLengthWrite header.contentLength) s
        { s with contentLength := header.contentLength } := by
    intro s
    unfold contentLengthWrite
    refine .number responseTable .contentLength rfl
      (fun contentLength => { s with contentLength }) ?_ header.contentLength
    exact fun _ => rfl
  have hencoding : ∀ s : RtspResponseHeader, s.contentEncoding = none →
      ResponseReads P (fieldWrite (ascii "Content-Encoding") header.contentEncoding) s
        { s with contentEncoding := header.contentEncoding } :=
    fun s hunset => .text responseTable .contentEncoding
      (fun contentEncoding => { s with contentEncoding }) (fun _ => rfl) (by rw [← hunset])
      h.contentEncoding
  have hlanguage : ∀ s : RtspResponseHeader, s.contentLanguage = none →
      ResponseReads P (fieldWrite (ascii "Content-Language") header.contentLanguage) s
        { s with contentLanguage := header.contentLanguage } :=
    fun s hunset => .text responseTable .contentLanguage
      (fun contentLanguage => { s with contentLanguage }) (fun _ => rfl) (by rw [← hunset])
      h.contentLanguage
  have hbase : ∀ s : RtspResponseHeader, s.contentBase = none →
      ResponseReads P (fieldWrite (ascii "Content-Base") header.contentBase) s
        { s with contentBase := header.contentBase } :=
    fun s hunset => .text responseTable .contentBase (fun contentBase => { s with contentBase })
      (fun _ => rfl) (by rw [← hunset]) h.contentBase
  have hlocation : ∀ s : RtspResponseHeader, s.contentLocation = none →
      ResponseReads P (fieldWrite (ascii "Content-Location") header.contentLocation) s
        { s with contentLocation := header.contentLocation } :=
    fun s hunset => .text responseTable .contentLocation
      (fun contentLocation => { s with contentLocation }) (fun _ => rfl) (by rw [← hunset])
      h.contentLocation
  have hext : ∀ s : RtspResponseHeader, s.ext = [] →
      ResponseReads P (extWrite header.ext) s { s with ext := header.ext } := by
    intro s hunset
    have hfirst : { s with ext := [] } = s := by rw [← hunset]
    have hall : ResponseReads P (extWrite header.ext) { s with ext := [] }
        { s with ext := [] ++ header.ext } :=
      .extensions responseTable .ext rfl (fun ext => { s with ext }) (fun _ _ _ => rfl) h.ext []
    rw [hfirst] at hall
    exact hall
  have hlast : ({ header with rtpInfo } : RtspResponseHeader) =
      { header with rtpInfo, authenticate := none } := by
    rw [← h.authenticate]
  rw [hlast]
  unfold trailingPieces
  simp only [List.append_assoc]
  refine .append (hserver _ rfl) ?_
  refine .append (hrange _ rfl) ?_
  refine .append (hlength _) ?_
  refine .append (hencoding _ rfl) ?_
  refine .append (hlanguage _ rfl) ?_
  refine .append (hbase _ rfl) ?_
  refine .append (hlocation _ rfl) ?_
  exact hext _ rfl

/-! ## The header -/

def statusLine (statusCode : Int) (statusString : Bytes) : Bytes :=
  rtspVersion ++ ascii " " ++ formatInt statusCode ++ ascii " " ++ statusString

theorem rtspVersion_text : ∀ b ∈ rtspVersion, isTextByte b = true := by
  have hall : rtspVersion.all isTextByte = true := by decide
  exact List.all_eq_true.mp hall

theorem statusLineRead_text {statusCode : Int} (hcode : 0 < statusCode ∧ statusCode < 2 ^ 31)
    {statusString : Bytes} (hne : statusString ≠ []) (hclean : FieldText statusString) :
    statusLineRead (statusLine statusCode statusString) =
      .ok { statusCode, statusString := some statusString } := by
  have hversionToken := token_textBytes (by decide) rtspVersion_text
  have hcodeToken := token_textBytes (formatInt_ne_nil statusCode)
    (fun _ => @formatInt_textByte statusCode _)
  have hstringToken : IsToken rtspCrlf statusString := by
    refine ⟨hne, fun b hb => ?_⟩
    simp [rtspCrlf, (hclean b hb).2.1, (hclean b hb).2.2]
  have hline : statusLine statusCode statusString =
      rtspVersion ++ 0x20 :: (formatInt statusCode ++ 0x20 :: statusString) := by
    simp [statusLine, ascii]
  obtain ⟨hfirst, hafter⟩ := firstToken_token hversionToken
    (0x20 :: (formatInt statusCode ++ 0x20 :: statusString)) (by simp [space])
  obtain ⟨hfirst', hafter'⟩ := firstToken_token hcodeToken (0x20 :: statusString)
    (by simp [space])
  have hstring := (firstToken_token hstringToken [] atDelimiter_nil).1
  rw [List.append_nil] at hstring
  have hread := atoi_formatInt statusCode (by omega) pastDigits_nil
  rw [List.append_nil] at hread
  have hvalue : (Int32.ofInt statusCode).toInt = statusCode := by
    rw [Int32.toInt_ofInt, show Int32.size = 2 ^ 32 from rfl]
    exact Int.bmod_eq_of_le (by omega) (by omega)
  unfold statusLineRead
  simp only [hline, strtokR_some, strtokR_none_some, orFault_ok, except_ok_bind, hfirst, hafter,
    List.drop_one, List.tail_cons, hfirst', hafter', hstring, hread, hvalue]
  rfl

theorem statusLine_clean {statusCode : Int} {statusString : Bytes}
    (h : FieldText statusString) : CleanLine (statusLine statusCode statusString) := by
  have hspace : FieldText (ascii " ") := fieldText_ascii (by decide)
  have hversion := fieldText_textBytes rtspVersion_text
  have hcode : FieldText (formatInt statusCode) :=
    fieldText_textBytes fun _ => formatInt_textByte
  constructor
  · simp [statusLine, ascii]
  · exact fieldText_append (fieldText_append (fieldText_append (fieldText_append hversion hspace)
      hcode) hspace) h

/-- What is written are clean lines; the header that is read has the first `RTP-Info` entry
of the one that was written. -/
theorem responseHeader_written (hP : P.ExactWhole) (h : header.FieldsKept P)
    {str str' : RtspString} (hwrite : rtspResponseHeaderWrite P header str = .ok str') :
    ∃ text, str'.str = str.str ++ text ∧ HeaderText text ∧ rtspResponseHeaderRead P text =
      .ok { header with rtpInfo := header.rtpInfo.take 1 } := by
  obtain ⟨statusString, hstring, hne, hclean⟩ := h.statusString
  have hstring' : nonEmpty header.statusString = some statusString := by
    rw [Option.mem_def.mp hstring]
    exact nonEmpty_of_ne hne
  have hcode : header.statusCode ≠ 0 := by
    have hpos := h.statusCode.1
    omega
  have hfields := (leadingPieces_read h).append (trailingPieces_read hP h _)
  obtain ⟨text, htext, rfl⟩ := rtspPrint_ok hwrite
  unfold responsePieces at htext
  rw [if_neg hcode, hstring'] at htext
  dsimp only at htext
  rw [responseFieldPieces_parts, List.append_assoc, List.singleton_append] at htext
  obtain ⟨rest, hrest, rfl⟩ := Option.map_eq_some_iff.mp htext
  obtain ⟨written, last, hwritten, hlast, rfl⟩ := printed_append hrest
  obtain ⟨lines, hlines, rfl, hvisit⟩ := hfields written hwritten
  obtain rfl : rtspCrlf = last := Option.some.inj hlast
  have hjoined : rtspVersion ++ ascii " " ++ formatInt header.statusCode ++ ascii " " ++
      statusString ++ rtspCrlf ++ (joinLines lines ++ rtspCrlf) =
        joinLines (statusLine header.statusCode statusString :: lines) ++ rtspCrlf := by
    simp [rtspCrlf, statusLine]
  have hall : ∀ line ∈ statusLine header.statusCode statusString :: lines, CleanLine line := by
    intro line hline
    rcases List.mem_cons.mp hline with rfl | hline
    · exact statusLine_clean hclean
    · exact hlines line hline
  refine ⟨_, rfl, ?_, ?_⟩
  · exact ⟨statusLine header.statusCode statusString :: lines, List.cons_ne_nil _ _, hall, hjoined⟩
  · rw [hjoined, rtspResponseHeaderRead_eq, readLines_joinLines _ _ hall,
      statusLineRead_text h.statusCode hne hclean, except_ok_bind, responseFieldRead_eq,
      ← Option.mem_def.mp hstring, hvisit]
    rfl

/-- The header that is read has the first `RTP-Info` entry of the one that was written. -/
theorem responseHeader_readBack (hP : P.ExactWhole) (h : header.FieldsKept P)
    {str str' : RtspString} (hwrite : rtspResponseHeaderWrite P header str = .ok str') :
    ∃ text, str'.str = str.str ++ text ∧ rtspResponseHeaderRead P text =
      .ok { header with rtpInfo := header.rtpInfo.take 1 } := by
  obtain ⟨text, htext, -, hread⟩ := responseHeader_written hP h hwrite
  exact ⟨text, htext, hread⟩

/-- A response header that is written is read back as it was exactly when it has at most one
`RTP-Info` entry. -/
theorem responseHeader_roundTrip_iff (hP : P.ExactWhole) (h : header.FieldsKept P)
    {str str' : RtspString} (hwrite : rtspResponseHeaderWrite P header str = .ok str') :
    (∃ text, str'.str = str.str ++ text ∧ rtspResponseHeaderRead P text = .ok header) ↔
      header.rtpInfo.length ≤ 1 := by
  obtain ⟨text, htext, hread⟩ := responseHeader_readBack hP h hwrite
  have hsame : { header with rtpInfo := header.rtpInfo.take 1 } = header ↔
      header.rtpInfo.length ≤ 1 := by
    rw [← List.take_eq_self_iff]
    constructor
    · intro heq
      exact congrArg RtspResponseHeader.rtpInfo heq
    · intro heq
      rw [heq]
  rw [← hsame]
  constructor
  · rintro ⟨other, hother, hread'⟩
    obtain rfl : text = other := List.append_cancel_left (htext.symm.trans hother)
    exact Except.ok.inj (hread.symm.trans hread')
  · intro heq
    exact ⟨text, htext, hread.trans (congrArg Except.ok heq)⟩

end Response

/-- A track of a presentation that starts to play. -/
def trackInfo (url : Bytes) (seq : UInt16) : RtspRtpInfoHeader :=
  { url := some url, seqValid := true, seq }

/-- The answer to a request to play, with one entry for each track. -/
def playAnswer (rtpInfo : List RtspRtpInfoHeader) : RtspResponseHeader :=
  { statusCode := 200
    statusString := some (ascii "OK")
    cseq := 4
    date := 1
    sessionId := some (ascii "12345678")
    sessionTimeout := 60
    publicMethods := 0x7ff
    rtpInfo
    server := some (ascii "server")
    range := hourRange }

theorem playAnswer_kept {rtpInfo : List RtspRtpInfoHeader}
    (h : ∀ rtpi ∈ rtpInfo, rtpi.Explicit) :
    (playAnswer rtpInfo).FieldsKept firstSecondPlatform where
  statusCode := by
    change (0 : Int) < 200 ∧ (200 : Int) < 2 ^ 31
    decide
  statusString := ⟨_, rfl, by decide, fieldText_ascii (by decide)⟩
  cseq := show (0 : Int32) ≤ 4 by decide
  date := firstSecond_kept
  session := by
    refine ⟨fieldString_some (by decide) (fieldText_ascii (by decide)), ?_, ?_⟩
    · rintro id ⟨⟩
      decide
    · exact fun hnone => nomatch hnone
  transport _ hmem := nomatch hmem
  authenticate := rfl
  contentType := fieldString_none
  scale := rfl
  publicMethods := show (0x7ff : UInt32) &&& 0x7ff = 0x7ff by decide
  allowedMethods := show (0 : UInt32) &&& 0x7ff = 0 by decide
  rtpInfo := h
  server := fieldString_some (by decide) (fieldText_ascii (by decide))
  range := .inr hourRange_whole
  contentEncoding := fieldString_none
  contentLanguage := fieldString_none
  contentBase := fieldString_none
  contentLocation := fieldString_none
  ext _ hmem := nomatch hmem

theorem trackInfo_explicit {url : Bytes} (hne : url ≠ [])
    (h : ∀ b ∈ url, isTextByte b = true) (seq : UInt16) : (trackInfo url seq).Explicit where
  url := ⟨url, rfl, hne, fun b hb => entryByte_textByte (h b hb)⟩
  seq hunset := nomatch hunset
  rtptime _ := rfl

theorem firstTrack_explicit (seq : UInt16) : (trackInfo (ascii "rtsp://h/a") seq).Explicit := by
  have htext : (ascii "rtsp://h/a").all isTextByte = true := by decide
  exact trackInfo_explicit (by decide) (List.all_eq_true.mp htext) seq

theorem playAnswer_oneTrack :
    ∃ str, rtspResponseHeaderWrite firstSecondPlatform
        (playAnswer [trackInfo (ascii "rtsp://h/a") 7]) { maxLen := 1024 } = .ok str ∧
      ∃ text, str.str = [] ++ text ∧ rtspResponseHeaderRead firstSecondPlatform text =
        .ok (playAnswer [trackInfo (ascii "rtsp://h/a") 7]) := by
  have hwritten : (rtspResponseHeaderWrite firstSecondPlatform
      (playAnswer [trackInfo (ascii "rtsp://h/a") 7]) { maxLen := 1024 }).toOption.isSome =
        true := by
    decide +kernel
  obtain ⟨str, hstr⟩ := Option.isSome_iff_exists.mp hwritten
  have hok := Execution.ok_of_toOption hstr
  have hkept := playAnswer_kept (List.forall_mem_singleton.mpr (firstTrack_explicit 7))
  exact ⟨str, hok, (responseHeader_roundTrip_iff firstSecondPlatform_exact hkept hok).mpr
    (Nat.le_refl 1)⟩

/-- Of two tracks the second is not read back. -/
theorem playAnswer_twoTracks :
    (playAnswer [trackInfo (ascii "rtsp://h/a") 7, trackInfo (ascii "rtsp://h/b") 9]).FieldsKept
        firstSecondPlatform ∧
      ∃ str, rtspResponseHeaderWrite firstSecondPlatform
          (playAnswer [trackInfo (ascii "rtsp://h/a") 7, trackInfo (ascii "rtsp://h/b") 9])
          { maxLen := 1024 } = .ok str ∧
        rtspResponseHeaderRead firstSecondPlatform str.str =
          .ok (playAnswer [trackInfo (ascii "rtsp://h/a") 7]) ∧
        rtspResponseHeaderRead firstSecondPlatform str.str ≠
          .ok (playAnswer
            [trackInfo (ascii "rtsp://h/a") 7, trackInfo (ascii "rtsp://h/b") 9]) := by
  have hwritten : (rtspResponseHeaderWrite firstSecondPlatform
      (playAnswer [trackInfo (ascii "rtsp://h/a") 7, trackInfo (ascii "rtsp://h/b") 9])
      { maxLen := 1024 }).toOption.isSome = true := by
    decide +kernel
  obtain ⟨str, hstr⟩ := Option.isSome_iff_exists.mp hwritten
  have hok := Execution.ok_of_toOption hstr
  have htext : (ascii "rtsp://h/b").all isTextByte = true := by decide
  have hsecond := trackInfo_explicit (by decide) (List.all_eq_true.mp htext) 9
  have hkept := playAnswer_kept (List.forall_mem_cons.mpr
    ⟨firstTrack_explicit 7, List.forall_mem_singleton.mpr hsecond⟩)
  obtain ⟨text, hstr', hread⟩ := responseHeader_readBack firstSecondPlatform_exact hkept hok
  rw [List.nil_append] at hstr'
  have hone : rtspResponseHeaderRead firstSecondPlatform str.str =
      .ok (playAnswer [trackInfo (ascii "rtsp://h/a") 7]) := by
    rw [hstr', hread]
    rfl
  refine ⟨hkept, str, hok, hone, fun htwo => ?_⟩
  have hsame := congrArg RtspResponseHeader.rtpInfo (Except.ok.inj (hone.symm.trans htwo))
  exact absurd (congrArg List.length hsame) (by decide)

end Librtsp
