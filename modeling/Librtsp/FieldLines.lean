import Librtsp.HeaderText
import Librtsp.Tokens

/-!
# The lines of a header and the fields they set

Both readers look a line's name up in a table of field names and do with the
value what the table says.  A name is found when its first letters are those of
an entry, whatever their case; no entry begins like another one, so that the
order of the tests does not matter.
-/

namespace Librtsp

open CString

/-! ## Tables of field names -/

theorem fieldIs_iff {field name : Bytes} :
    fieldIs field name = true ↔ name.map toLower <+: field.map toLower := by
  unfold fieldIs strncasecmpEq strcasecmpEq
  rw [beq_iff_eq, List.take_length, List.prefix_iff_eq_take, List.length_map, List.map_take,
    eq_comm]

section Names

variable {F : Type} (name : F → Bytes) (fields : List F)

/-- The first field of the table whose name the text begins with. -/
def recognise (field : Bytes) : Option F :=
  fields.find? fun f => fieldIs field (name f)

/-- No name of the table begins with another one. -/
def NamesApart : Prop :=
  ∀ f ∈ fields, ∀ g ∈ fields, (name f).map toLower <+: (name g).map toLower → f = g

variable {name fields}

theorem recognise_some {field : Bytes} {f : F} (h : recognise name fields field = some f) :
    f ∈ fields ∧ fieldIs field (name f) = true :=
  ⟨List.mem_of_find?_eq_some h, by simpa using List.find?_some h⟩

theorem recognise_none {field : Bytes} :
    recognise name fields field = none ↔ ∀ f ∈ fields, fieldIs field (name f) = false := by
  simp [recognise]

theorem recognise_cons_elim {α : Type} (f : F) (field : Bytes) (unknown : α) (known : F → α) :
    (recognise name (f :: fields) field).elim unknown known =
      if fieldIs field (name f) then known f else
        (recognise name fields field).elim unknown known := by
  unfold recognise
  rw [List.find?_cons]
  cases fieldIs field (name f) with
  | true => rfl
  | false => rfl

theorem recognise_eq
    (hapart : NamesApart name fields) {f : F} (hf : f ∈ fields) {field : Bytes}
    (hfield : fieldIs field (name f) = true) : recognise name fields field = some f := by
  cases h : recognise name fields field with
  | none =>
      rw [recognise_none.mp h f hf] at hfield
      simp at hfield
  | some g =>
      obtain ⟨hg, hfound⟩ := recognise_some h
      rcases List.prefix_or_prefix_of_prefix (fieldIs_iff.mp hfield) (fieldIs_iff.mp hfound) with
        hprefix | hprefix
      · rw [hapart f hf g hg hprefix]
      · rw [hapart g hg f hf hprefix]

variable (name fields) in
/-- A reader of header lines: lines of unknown names are passed over. -/
def fieldLineRead {σ : Type} (update : F → Bytes → Bytes → σ → Except Stop (ForInStep σ))
    (header : σ) (line : Bytes) : Except Stop (ForInStep σ) :=
  match fieldSplit line with
  | none => .ok (.yield header)
  | some (field, value) =>
      (recognise name fields field).elim (.ok (.yield header)) fun f => update f field value header

end Names

/-! ## The fields of a request -/

inductive RequestField where
  | cseq
  | date
  | session
  | transport
  | contentType
  | scale
  | authorization
  | userAgent
  | server
  | accept
  | range
  | contentLength
  | ext
  deriving DecidableEq, Repr

def RequestField.name : RequestField → Bytes
  | .cseq => ascii "CSeq"
  | .date => ascii "Date"
  | .session => ascii "Session"
  | .transport => ascii "Transport"
  | .contentType => ascii "Content-Type"
  | .scale => ascii "Scale"
  | .authorization => ascii "Authorization"
  | .userAgent => ascii "User-Agent"
  | .server => ascii "Server"
  | .accept => ascii "Accept"
  | .range => ascii "Range"
  | .contentLength => ascii "Content-Length"
  | .ext => ascii "X-"

/-- In the order of the tests. -/
def requestFields : List RequestField :=
  [.cseq, .date, .session, .transport, .contentType, .scale, .authorization, .userAgent, .server,
    .accept, .range, .contentLength, .ext]

theorem mem_requestFields (f : RequestField) : f ∈ requestFields := by
  cases f <;> decide

theorem requestFields_apart : NamesApart RequestField.name requestFields := by
  unfold NamesApart
  decide +kernel

section Platform

variable (P : Platform)

/-- What a line of the field does. -/
def requestUpdate (f : RequestField) (field value : Bytes) (header : RtspRequestHeader) :
    Except Stop (ForInStep RtspRequestHeader) :=
  match f with
  | .cseq => .ok (.yield { header with cseq := atoi value })
  | .date => do
      let date ← dateRead P value
      .ok (.yield { header with date })
  | .session =>
      let session := rtspSessionHeaderRead value
      .ok (.yield { header with sessionId := some session.1, sessionTimeout := session.2 })
  | .transport => do
      let transport ← rtspTransportHeaderRead value rtspTransportMaxCount
      if transport = [] then .ok (.done { header with transport })
      else .ok (.yield { header with transport })
  | .contentType => .ok (.yield { header with contentType := some value })
  | .scale => .ok (.yield { header with scale := P.atof value })
  | .authorization => do
      let auth ← rtspAuthorizationHeaderRead value
      .ok (.yield { header with authorization := some auth })
  | .userAgent => .ok (.yield { header with userAgent := some value })
  | .server => .ok (.yield { header with server := some value })
  | .accept => .ok (.yield { header with accept := some value })
  | .range => do
      let range ← rtspRangeHeaderRead P value
      .ok (.yield { header with range })
  | .contentLength => .ok (.yield { header with contentLength := atoi value })
  | .ext => .ok (.yield { header with ext := header.ext ++ [⟨field, value⟩] })

theorem requestFieldRead_eq :
    requestFieldRead P = fieldLineRead RequestField.name requestFields (requestUpdate P) := by
  funext header line
  unfold requestFieldRead fieldLineRead
  cases fieldSplit line with
  | none => rfl
  | some cut =>
      unfold requestFields
      simp only [recognise_cons_elim]
      rfl

end Platform

/-! ## The fields of a response -/

inductive ResponseField where
  | cseq
  | date
  | session
  | transport
  | authenticate
  | contentType
  | scale
  | publicMethods
  | allow
  | rtpInfo
  | server
  | range
  | contentLength
  | contentEncoding
  | contentLanguage
  | contentBase
  | contentLocation
  | ext
  deriving DecidableEq, Repr

def ResponseField.name : ResponseField → Bytes
  | .cseq => ascii "CSeq"
  | .date => ascii "Date"
  | .session => ascii "Session"
  | .transport => ascii "Transport"
  | .authenticate => ascii "WWW-Authenticate"
  | .contentType => ascii "Content-Type"
  | .scale => ascii "Scale"
  | .publicMethods => ascii "Public"
  | .allow => ascii "Allow"
  | .rtpInfo => ascii "RTP-Info"
  | .server => ascii "Server"
  | .range => ascii "Range"
  | .contentLength => ascii "Content-Length"
  | .contentEncoding => ascii "Content-Encoding"
  | .contentLanguage => ascii "Content-Language"
  | .contentBase => ascii "Content-Base"
  | .contentLocation => ascii "Content-Location"
  | .ext => ascii "X-"

def responseFields : List ResponseField :=
  [.cseq, .date, .session, .transport, .authenticate, .contentType, .scale, .publicMethods, .allow,
    .rtpInfo, .server, .range, .contentLength, .contentEncoding, .contentLanguage, .contentBase,
    .contentLocation, .ext]

theorem mem_responseFields (f : ResponseField) : f ∈ responseFields := by
  cases f <;> decide

theorem responseFields_apart : NamesApart ResponseField.name responseFields := by
  unfold NamesApart
  decide +kernel

section Platform

variable (P : Platform)

def responseUpdate (f : ResponseField) (field value : Bytes) (header : RtspResponseHeader) :
    Except Stop (ForInStep RtspResponseHeader) :=
  match f with
  | .cseq => .ok (.yield { header with cseq := atoi value })
  | .date => do
      let date ← dateRead P value
      .ok (.yield { header with date })
  | .session =>
      let session := rtspSessionHeaderRead value
      .ok (.yield { header with sessionId := some session.1, sessionTimeout := session.2 })
  | .transport => do
      let transport ← rtspTransportHeaderRead value 1
      match transport.head? with
      | none => .ok (.done header)
      | some trsp => .ok (.yield { header with transport := some trsp })
  | .authenticate => do
      let auth ← rtspAuthorizationHeaderRead value
      .ok (.yield { header with authenticate := some auth })
  | .contentType => .ok (.yield { header with contentType := some value })
  | .scale => .ok (.yield { header with scale := P.atof value })
  | .publicMethods => .ok (.yield { header with publicMethods := rtspPublicHeaderRead value })
  | .allow => .ok (.yield { header with allowedMethods := rtspAllowHeaderRead value })
  | .rtpInfo => do
      let rtpInfo ← rtspRtpInfoHeaderRead value 1
      if rtpInfo = [] then .ok (.done { header with rtpInfo })
      else .ok (.yield { header with rtpInfo })
  | .server => .ok (.yield { header with server := some value })
  | .range => do
      let range ← rtspRangeHeaderRead P value
      .ok (.yield { header with range })
  | .contentLength => .ok (.yield { header with contentLength := atoi value })
  | .contentEncoding => .ok (.yield { header with contentEncoding := some value })
  | .contentLanguage => .ok (.yield { header with contentLanguage := some value })
  | .contentBase => .ok (.yield { header with contentBase := some value })
  | .contentLocation => .ok (.yield { header with contentLocation := some value })
  | .ext => .ok (.yield { header with ext := header.ext ++ [⟨field, value⟩] })

theorem responseFieldRead_eq :
    responseFieldRead P = fieldLineRead ResponseField.name responseFields (responseUpdate P) := by
  funext header line
  unfold responseFieldRead fieldLineRead
  cases fieldSplit line with
  | none => rfl
  | some cut =>
      unfold responseFields
      simp only [recognise_cons_elim]
      rfl

end Platform

/-! ## A line and its field -/

/-- `name: value` -/
def fieldLine (field value : Bytes) : Bytes :=
  field ++ ascii ": " ++ value

theorem fieldSplit_fieldLine {field : Bytes} (hfield : 0x3a ∉ field) (value : Bytes) :
    fieldSplit (fieldLine field value) = some (field, value) := by
  have hline : fieldLine field value = field ++ 0x3a :: 0x20 :: value := by
    simp [fieldLine, ascii]
  rw [hline, fieldSplit, strchr_append hfield]
  rfl

section Lines

variable {F σ : Type} {name : F → Bytes} {fields : List F}
  {update : F → Bytes → Bytes → σ → Except Stop (ForInStep σ)} {header : σ}

theorem fieldLineRead_unknown
    {field : Bytes} (hfield : 0x3a ∉ field)
    (hunknown : ∀ f ∈ fields, fieldIs field (name f) = false) (value : Bytes) :
    fieldLineRead name fields update header (fieldLine field value) = .ok (.yield header) := by
  unfold fieldLineRead
  rw [fieldSplit_fieldLine hfield]
  dsimp only
  rw [recognise_none.mpr hunknown, Option.elim_none]

theorem fieldLineRead_known
    (hapart : NamesApart name fields) {f : F} (hf : f ∈ fields) {line field value : Bytes}
    (hsplit : fieldSplit line = some (field, value)) (hfield : fieldIs field (name f) = true) :
    fieldLineRead name fields update header line = update f field value header := by
  unfold fieldLineRead
  rw [hsplit]
  dsimp only
  rw [recognise_eq hapart hf hfield, Option.elim_some]

end Lines

/-! ## Texts in CR LF lines -/

theorem CleanLine.isToken {line : Bytes} (h : CleanLine line) : IsToken rtspCrlf line := by
  constructor
  · exact h.nonempty
  · intro b hb
    simp [rtspCrlf, (h.clean b hb).2.1, (h.clean b hb).2.2]

theorem tokens_joinLines {lines : List Bytes} (hlines : ∀ line ∈ lines, CleanLine line) :
    tokens rtspCrlf (joinLines lines) = lines := by
  induction lines with
  | nil => rfl
  | cons line lines ih =>
      rw [joinLines_cons, tokens_token (hlines line (by simp)).isToken (by simp [rtspCrlf]),
        tokens_delimiter (by simp [rtspCrlf]), tokens_delimiter (by simp [rtspCrlf])]
      rw [ih fun line' hline' => hlines line' (by simp [hline'])]

theorem headerLines_eq {data : Bytes} {p n : Nat} (h : findDoubleNewline data = some (p, n)) :
    headerLines data =
      match tokens rtspCrlf (data.take p) with
      | [] => none
      | line :: lines => some (line, lines) := by
  unfold headerLines
  rw [h]
  dsimp only
  rw [tokens_first rtspCrlf (data.take p)]
  cases hfirst : firstToken rtspCrlf (data.take p) with
  | none =>
      have hafter : afterToken rtspCrlf (data.take p) = [] := by
        unfold firstToken at hfirst
        unfold afterToken
        rw [Option.map_eq_none_iff] at hfirst
        rw [hfirst]
        rfl
      simp [hafter]
  | some line => simp

/-- A text of lines is read line by line. -/
theorem readLines_joinLines
    {σ : Type} (first : Bytes → Except Stop σ) (step : σ → Bytes → Except Stop (ForInStep σ))
    {line : Bytes} {lines : List Bytes} (hlines : ∀ l ∈ line :: lines, CleanLine l) :
    readLines first step (joinLines (line :: lines) ++ rtspCrlf) =
      first line >>= fun header =>
        visit step lines header >>= fun result => .ok (collected result) := by
  have htext : HeaderText (joinLines (line :: lines) ++ rtspCrlf) :=
    ⟨line :: lines, by simp, hlines, rfl⟩
  obtain ⟨hfind, hlength⟩ := findDoubleNewline_headerText htext []
  rw [List.append_nil] at hfind
  have htake : tokens rtspCrlf ((joinLines (line :: lines) ++ rtspCrlf).take
      ((joinLines (line :: lines) ++ rtspCrlf).length - 4)) = line :: lines := by
    obtain ⟨body, hbody⟩ : ∃ body, joinLines (line :: lines) = body ++ rtspCrlf := by
      rw [joinLines, List.map_cons, List.flatten_cons]
      rcases List.eq_nil_or_concat lines with rfl | ⟨init, last, rfl⟩
      · exact ⟨line, by simp⟩
      · exact ⟨line ++ rtspCrlf ++ joinLines init ++ last, by simp [joinLines]⟩
    have hcut : ((joinLines (line :: lines) ++ rtspCrlf).take
        ((joinLines (line :: lines) ++ rtspCrlf).length - 4)) = body := by
      rw [hbody]
      simp [rtspCrlf]
    have htokens : tokens rtspCrlf (body ++ rtspCrlf) = tokens rtspCrlf body := by
      rw [tokens_append body (by simp [rtspCrlf])]
      have hnone : tokens rtspCrlf rtspCrlf = [] := by decide
      rw [hnone, List.append_nil]
    rw [hcut, ← htokens, ← hbody, tokens_joinLines hlines]
  unfold readLines
  rw [headerLines_eq hfind, htake]

end Librtsp
