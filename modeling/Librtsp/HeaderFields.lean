import Librtsp.RangeRoundTrip
import Librtsp.SessionTimeouts
import Librtsp.TransportText
import Librtsp.UnknownFields

/-!
# Fields that are written and read back

Each field of a header is printed as one line.  The reader recognises the line by its
name and finds in its value what the field said, so that the lines of a header, read one
after the other, set the fields they were written from.
-/

namespace Librtsp

open CString

/-! ## Texts of a line -/

/-- A byte of an entry of a list: it ends no line, no string and no parameter. -/
def EntryByte (b : UInt8) : Prop :=
  (b ≠ 0 ∧ b ≠ 0x0d ∧ b ≠ 0x0a) ∧ ListByte b

theorem fieldText_append {a b : Bytes} (ha : FieldText a) (hb : FieldText b) :
    FieldText (a ++ b) := by
  intro c hc
  rcases List.mem_append.mp hc with hc | hc
  · exact ha c hc
  · exact hb c hc

theorem entryByte_textByte {b : UInt8} (hb : isTextByte b = true) : EntryByte b := by
  have hlow : 0x21 ≤ b.toNat := by
    simp only [isTextByte, Bool.and_eq_true, decide_eq_true_eq] at hb
    exact UInt8.le_iff_toNat_le.mp hb.1.1.1
  refine ⟨⟨?_, ?_, ?_⟩, listByte_textByte hb⟩
  · rintro rfl
    exact absurd hlow (by decide)
  · rintro rfl
    exact absurd hlow (by decide)
  · rintro rfl
    exact absurd hlow (by decide)

theorem fieldText_textBytes {text : Bytes} (h : ∀ b ∈ text, isTextByte b = true) :
    FieldText text :=
  fun b hb => (entryByte_textByte (h b hb)).1

theorem intercalate_fieldText {separator : Bytes} {texts : List Bytes}
    (hseparator : FieldText separator) (htexts : ∀ text ∈ texts, FieldText text) :
    FieldText (List.intercalate separator texts) := by
  cases texts with
  | nil => exact fun _ hb => nomatch hb
  | cons text texts =>
      rw [intercalate_cons_flatten]
      refine fieldText_append (htexts text List.mem_cons_self) fun b hb => ?_
      obtain ⟨part, hpart, hb⟩ := List.mem_flatten.mp hb
      obtain ⟨other, hother, rfl⟩ := List.mem_map.mp hpart
      exact fieldText_append hseparator (htexts other (List.mem_cons_of_mem _ hother)) b hb

/-- Visible texts are not cut at a space. -/
theorem token_textBytes {text : Bytes} (hne : text ≠ [])
    (h : ∀ b ∈ text, isTextByte b = true) : IsToken space text := by
  refine ⟨hne, fun b hb hmem => ?_⟩
  rw [List.mem_singleton.mp hmem] at hb
  exact absurd (h _ hb) (by decide)

theorem methodTypeStr_text (method : RtspMethodType) :
    ∀ b ∈ rtspMethodTypeStr method, isTextByte b = true := by
  have hall : (rtspMethodTypeStr method).all isTextByte = true := by
    cases method <;> decide
  exact List.all_eq_true.mp hall

theorem rtspMethodTypeEnum_str {method : RtspMethodType} (h : method ≠ .unknown) :
    rtspMethodTypeEnum (some (rtspMethodTypeStr method)) = method := by
  have hall : rtspMethods.all
      (fun method => rtspMethodTypeEnum (some (rtspMethodTypeStr method)) == method) = true := by
    decide
  have hmem : method ∈ rtspMethods := by
    cases method with
    | unknown => exact absurd rfl h
    | _ => decide
  simpa using List.all_eq_true.mp hall method hmem

/-- A text that is unset or not empty. -/
def FieldString (str : Option Bytes) : Prop :=
  ∀ text ∈ str, text ≠ [] ∧ FieldText text

theorem fieldString_none : FieldString none := fun _ h => nomatch h

theorem fieldString_some {text : Bytes} (hne : text ≠ []) (h : FieldText text) :
    FieldString (some text) := by
  intro other hother
  cases hother
  exact ⟨hne, h⟩

/-! ## Lines that set fields -/

/-- The pieces, if they print anything, print the line of the field with the value. -/
structure PrintsLine (title value : Bytes) (pieces : List Piece) : Prop where
  clean : FieldText value
  line : ∀ text, printed pieces = some text → text = fieldLine title value ++ rtspCrlf

theorem PrintsLine.piece {title head value : Bytes} (hhead : head = title ++ ascii ": ")
    (hvalue : FieldText value) : PrintsLine title value [.ok (head ++ value ++ rtspCrlf)] := by
  refine ⟨hvalue, fun text htext => ?_⟩
  cases htext
  subst hhead
  exact List.append_nil _

section Lines

variable {σ : Type}

/-- What is printed, if it is, are lines that take one state to the other. -/
def LinesRead (step : σ → Bytes → Except Stop (ForInStep σ)) (pieces : List Piece)
    (s s' : σ) : Prop :=
  ∀ text, printed pieces = some text →
    ∃ lines, (∀ line ∈ lines, CleanLine line) ∧ text = joinLines lines ∧
      visit step lines s = .ok (.yield s')

variable {step : σ → Bytes → Except Stop (ForInStep σ)} {s s' s'' : σ}

theorem LinesRead.nil (h : s = s') : LinesRead step [] s s' := by
  intro text htext
  cases htext
  subst h
  refine ⟨[], ?_, rfl, rfl⟩
  simp

theorem LinesRead.append {ps qs : List Piece} (h : LinesRead step ps s s')
    (h' : LinesRead step qs s' s'') : LinesRead step (ps ++ qs) s s'' := by
  intro text htext
  obtain ⟨first, second, hfirst, hsecond, rfl⟩ := printed_append htext
  obtain ⟨lines, hclean, rfl, hread⟩ := h first hfirst
  obtain ⟨lines', hclean', rfl, hread'⟩ := h' second hsecond
  refine ⟨lines ++ lines', ?_, (joinLines_append lines lines').symm, ?_⟩
  · intro line hline
    rcases List.mem_append.mp hline with hline | hline
    · exact hclean line hline
    · exact hclean' line hline
  · rw [visit_append hread, hread']

end Lines

section Fields

variable {F σ : Type}

/-- Names that can be told apart and stand in front of a colon. -/
structure FieldTable (name : F → Bytes) (fields : List F) : Prop where
  apart : NamesApart name fields
  every : ∀ f, f ∈ fields
  titles : ∀ f ∈ fields, FieldText (name f) ∧ 0x3a ∉ name f

theorem titles_text {name : F → Bytes} {fields : List F}
    (h : (fields.all fun f => (name f).all fun b => b != 0x3a && isTextByte b) = true) :
    ∀ f ∈ fields, FieldText (name f) ∧ 0x3a ∉ name f := by
  intro f hf
  have hname : ∀ b ∈ name f, b ≠ 0x3a ∧ isTextByte b = true := by
    intro b hb
    simpa using List.all_eq_true.mp (List.all_eq_true.mp h f hf) b hb
  exact ⟨fieldText_textBytes fun b hb => (hname b hb).2, fun hmem => (hname _ hmem).1 rfl⟩

variable {name : F → Bytes} {fields : List F}
  {update : F → Bytes → Bytes → σ → Except Stop (ForInStep σ)} {s s' : σ}

/-- A line whose name begins like that of the field. -/
theorem LinesRead.titled (htable : FieldTable name fields) (f : F) {title value : Bytes}
    {pieces : List Piece} (htitle : FieldText title ∧ 0x3a ∉ title)
    (hfound : fieldIs title (name f) = true) (hprints : PrintsLine title value pieces)
    (hread : update f title value s = .ok (.yield s')) :
    LinesRead (fieldLineRead name fields update) pieces s s' := by
  intro text htext
  refine ⟨[fieldLine title value], ?_, ?_, ?_⟩
  · intro line hline
    rw [List.mem_singleton.mp hline]
    exact cleanLine_fieldLine htitle.1 hprints.clean
  · rw [hprints.line text htext]
    simp [joinLines]
  · rw [visit, fieldLineRead_known htable.apart (htable.every f)
      (fieldSplit_fieldLine htitle.2 value) hfound, hread]
    rfl

/-- A line of the field under its own name. -/
theorem LinesRead.line (htable : FieldTable name fields) (f : F) {value : Bytes}
    {pieces : List Piece} (hprints : PrintsLine (name f) value pieces)
    (hread : update f (name f) value s = .ok (.yield s')) :
    LinesRead (fieldLineRead name fields update) pieces s s' :=
  .titled htable f (htable.titles f (htable.every f)) (fieldIs_iff.mpr List.prefix_rfl) hprints
    hread

/-! ### Texts and numbers -/

theorem LinesRead.text (htable : FieldTable name fields) (f : F) (store : Option Bytes → σ)
    (hstore : ∀ value, update f (name f) value s = .ok (.yield (store (some value))))
    (hunset : store none = s) {text : Option Bytes} (htext : FieldString text) :
    LinesRead (fieldLineRead name fields update) (fieldWrite (name f) text) s (store text) := by
  cases text with
  | none => exact .nil hunset.symm
  | some value =>
      obtain ⟨hne, hclean⟩ := htext value rfl
      unfold fieldWrite
      rw [nonEmpty_of_ne hne]
      exact .line htable f (.piece rfl hclean) (hstore value)

theorem atoi_toInt (n : Int32) : atoi (formatInt n.toInt) = n := by
  have hlow := n.le_toInt
  have hhigh := n.toInt_lt
  have hread := atoi_formatInt n.toInt (by omega) pastDigits_nil
  rw [List.append_nil, Int32.ofInt_toInt] at hread
  exact hread

theorem LinesRead.number (htable : FieldTable name fields) (f : F) {head : Bytes}
    (hhead : head = name f ++ ascii ": ") (store : Int32 → σ)
    (hstore : ∀ value, update f (name f) value s = .ok (.yield (store (atoi value))))
    (n : Int32) :
    LinesRead (fieldLineRead name fields update)
      [.ok (head ++ formatInt n.toInt ++ rtspCrlf)] s (store n) := by
  have hread := hstore (formatInt n.toInt)
  rw [atoi_toInt] at hread
  exact .line htable f
    (.piece hhead (fieldText_textBytes fun _ => formatInt_textByte)) hread

theorem LinesRead.cseq (htable : FieldTable name fields) (f : F) (hname : name f = ascii "CSeq")
    (store : Int32 → σ)
    (hstore : ∀ value, update f (name f) value s = .ok (.yield (store (atoi value))))
    {cseq : Int32} (h : 0 ≤ cseq) :
    LinesRead (fieldLineRead name fields update) (cseqWrite cseq) s (store cseq) := by
  have hhead : ascii "CSeq: " = name f ++ ascii ": " := by
    rw [hname]
    rfl
  unfold cseqWrite
  rw [if_pos h]
  exact .number htable f hhead store hstore cseq

/-! ### Dates and ranges -/

/-- The time functions are inverse to each other on the date. -/
def DateKept (P : Platform) (date : UInt64) : Prop :=
  ∀ text, P.timeLocalFormat .rfc1123 date = .ok text →
    FieldText text ∧ P.timeLocalParse text = .ok date

theorem LinesRead.date {P : Platform} (htable : FieldTable name fields) (f : F)
    (hname : name f = ascii "Date") (store : UInt64 → σ)
    (hstore : ∀ value, update f (name f) value s =
      dateRead P value >>= fun date => .ok (.yield (store date)))
    (hunset : store 0 = s) {date : UInt64} (hdate : DateKept P date) :
    LinesRead (fieldLineRead name fields update) (dateWrite P date) s (store date) := by
  unfold dateWrite
  split
  next =>
    cases hformat : P.timeLocalFormat .rfc1123 date with
    | error e =>
        intro text htext
        cases htext
    | ok text =>
        obtain ⟨hclean, hparse⟩ := hdate text hformat
        refine .line htable f (.piece ?_ hclean) ?_
        · rw [hname]
          rfl
        · rw [hstore, dateRead, hparse]
          rfl
  next hnone =>
    have hzero : date = 0 := by
      apply UInt64.toNat_inj.mp
      simpa [UInt64.lt_iff_toNat_lt] using hnone
    exact .nil (by rw [hzero, hunset])

/-- A range in whole seconds of thirty-two bits, without a stop or with one of that kind. -/
structure WholeRange (range : RtspRange) : Prop where
  form : NptRange range
  fits : FitsSeconds range
  noStop : range.stop.format = .unknown → range.stop = {}

theorem RtspTime.shortened_eq {time : RtspTime} (h : time.sec.toNat < 2 ^ 32) :
    time.shortened = time := by
  unfold RtspTime.shortened
  rw [Nat.mod_eq_of_lt h, UInt64.ofNat_toNat]

theorem WholeRange.shortened_eq {range : RtspRange} (h : WholeRange range) :
    range.shortened = range := by
  obtain ⟨start, stop, time⟩ := range
  obtain rfl : time = 0 := h.form.time
  have hstart : start.shortened = start := RtspTime.shortened_eq h.fits.1
  have hstop : (if stop.format = .npt then stop.shortened else {}) = stop := by
    split
    next hnpt => exact RtspTime.shortened_eq (h.fits.2 hnpt)
    next hnpt =>
      refine (h.noStop ?_).symm
      exact h.form.stop.resolve_left fun hform => hnpt hform.format
  unfold RtspRange.shortened
  dsimp only
  rw [hstart, hstop]

theorem secondsText_textByte {sec : Nat} {b : UInt8} (hb : b ∈ secondsText sec) :
    isTextByte b = true := by
  have hcolon : ∀ b ∈ ascii ":", isTextByte b = true :=
    List.forall_mem_singleton.mpr (by decide)
  have hdigits : ∀ {text : Bytes} {n : Nat}, Spells 10 text n → ∀ b ∈ text,
      isTextByte b = true := fun htext _ => htext.textByte (by decide)
  unfold secondsText at hb
  split at hb
  next => exact hdigits (spells_formatNat _) b hb
  next =>
    simp only [List.mem_append] at hb
    rcases hb with (((hb | hb) | hb) | hb) | hb
    · exact hdigits (spells_formatNat _) b hb
    · exact hcolon b hb
    · exact hdigits (spells_format02 _) b hb
    · exact hcolon b hb
    · exact hdigits (spells_format02 _) b hb

theorem NptForm.fieldText {time : RtspTime} (h : NptForm time) : FieldText (nptText time) := by
  cases h with
  | time sec => exact fieldText_textBytes fun _ => secondsText_textByte
  | now => exact fieldText_ascii (by decide)
  | infinity => exact fun _ hb => nomatch hb

theorem NptRange.fieldText {range : RtspRange} (h : NptRange range) :
    FieldText (rangeText range) := by
  have hstop : FieldText ((stopParts range.stop).elim [] fun stop => ascii "-" ++ stop) := by
    have hdash : FieldText (ascii "-") := fieldText_ascii (by decide)
    unfold stopParts
    split
    next hnpt =>
      have hform := h.stop.resolve_right (by simp [hnpt])
      exact fieldText_append hdash hform.fieldText
    next => exact fun _ hb => nomatch hb
  have hname : FieldText (ascii "npt=") := fieldText_ascii (by decide)
  exact fieldText_append (fieldText_append hname h.start.fieldText) hstop

theorem LinesRead.range {P : Platform} (hP : P.ExactWhole) (htable : FieldTable name fields)
    (f : F) (hname : name f = ascii "Range") (store : RtspRange → σ)
    (hstore : ∀ value, update f (name f) value s =
      rtspRangeHeaderRead P value >>= fun range => .ok (.yield (store range)))
    (hunset : store {} = s) {range : RtspRange} (hrange : range = {} ∨ WholeRange range) :
    LinesRead (fieldLineRead name fields update) (rangeFieldWrite P range) s (store range) := by
  rcases hrange with rfl | hrange
  · exact .nil hunset.symm
  · have hset : range.start.format ≠ .unknown := by simp [hrange.form.start.format]
    unfold rangeFieldWrite
    rw [if_pos hset]
    refine .line htable f ⟨hrange.form.fieldText, fun text htext => ?_⟩ ?_
    · rw [hrange.form.written hP htext, hname]
      rfl
    · rw [hstore, hrange.form.read hP, hrange.shortened_eq]
      rfl

/-! ### Sessions -/

/-- A session whose identifier the reader does not cut; without one there is no timeout. -/
structure SessionKept (sessionId : Option Bytes) (sessionTimeout : UInt32) : Prop where
  text : FieldString sessionId
  whole : ∀ id ∈ sessionId, 0x3b ∉ id
  timeout : sessionId = none → sessionTimeout = 0

theorem sessionText_fieldText {sessionId : Bytes} (h : FieldText sessionId)
    (sessionTimeout : UInt32) : FieldText (sessionText sessionId sessionTimeout) := by
  have hname : FieldText (ascii ";timeout=") := fieldText_ascii (by decide)
  have hnumber : FieldText (formatSigned sessionTimeout) :=
    fieldText_textBytes fun _ => formatInt_textByte
  unfold sessionText
  split
  next => exact fieldText_append h (fieldText_append hname hnumber)
  next =>
    rw [List.append_nil]
    exact h

theorem LinesRead.session (htable : FieldTable name fields) (f : F)
    (hname : name f = ascii "Session") (store : Option Bytes → UInt32 → σ)
    (hstore : ∀ value, update f (name f) value s =
      .ok (.yield (store (some (rtspSessionHeaderRead value).1) (rtspSessionHeaderRead value).2)))
    (hunset : store none 0 = s) {sessionId : Option Bytes} {sessionTimeout : UInt32}
    (hsession : SessionKept sessionId sessionTimeout) :
    LinesRead (fieldLineRead name fields update) (sessionFieldWrite sessionId sessionTimeout) s
      (store sessionId sessionTimeout) := by
  cases sessionId with
  | none =>
      rw [hsession.timeout rfl]
      exact .nil hunset.symm
  | some id =>
      obtain ⟨hne, hclean⟩ := hsession.text id rfl
      have hread := hstore (sessionText id sessionTimeout)
      rw [rtspSessionHeaderRead_text (hsession.whole id rfl)] at hread
      unfold sessionFieldWrite
      rw [nonEmpty_of_ne hne, if_pos Option.isSome_some]
      refine .line htable f ⟨sessionText_fieldText hclean _, fun text htext => ?_⟩ hread
      rw [rtspSessionHeaderWrite_text hne] at htext
      cases htext
      rw [hname]
      rfl

/-! ### Extensions -/

/-- A field of an extension that the reader takes for one. -/
structure ExtKept (ext : RtspHeaderExt) : Prop where
  named : fieldIs ext.key (ascii "X-") = true
  key : FieldText ext.key ∧ 0x3a ∉ ext.key
  value : FieldText ext.value

theorem LinesRead.extensions (htable : FieldTable name fields) (f : F)
    (hname : name f = ascii "X-") (store : List RtspHeaderExt → σ)
    (hstore : ∀ exts title value, update f title value (store exts) =
      .ok (.yield (store (exts ++ [⟨title, value⟩]))))
    {ext : List RtspHeaderExt} (hext : ∀ e ∈ ext, ExtKept e) (exts : List RtspHeaderExt) :
    LinesRead (fieldLineRead name fields update) (extWrite ext) (store exts)
      (store (exts ++ ext)) := by
  induction ext generalizing exts with
  | nil => exact .nil (by rw [List.append_nil])
  | cons e ext ih =>
      have hfirst := hext e List.mem_cons_self
      have hrest := ih (fun e he => hext e (List.mem_cons_of_mem _ he)) (exts ++ [e])
      rw [List.append_assoc, List.singleton_append] at hrest
      have hline : LinesRead (fieldLineRead name fields update)
          [.ok (e.key ++ ascii ": " ++ e.value ++ rtspCrlf)] (store exts)
          (store (exts ++ [e])) :=
        .titled htable f hfirst.key (hname ▸ hfirst.named) (.piece rfl hfirst.value)
          (hstore exts e.key e.value)
      exact hline.append hrest

end Fields

/-! ## Lists of entries -/

section Entries

variable {α : Type} {write : α → Bool → List Piece} {text : α → Option Bytes}
  {one : List Bytes → Except Stop (Option α)} {entries : List α}

/-- Each entry is written, and its parameters say what it said. -/
def EntriesKept (text : α → Option Bytes) (one : List Bytes → Except Stop (Option α))
    (entries : List α) : Prop :=
  ∀ entry ∈ entries, ∃ params,
    text entry = some (List.intercalate semicolon params) ∧ params ≠ [] ∧
      TextsOf EntryByte params ∧ one params = .ok (some entry)

theorem EntriesKept.fieldText (h : EntriesKept text one entries) :
    FieldText (slotsText text (entries.map some)) := by
  have hcomma : FieldText comma := by simp [FieldText, comma]
  intro b hb
  rcases mem_slotsText hb with hb | ⟨entry, hentry, rendering, hrendering, hb⟩
  · exact hcomma b hb
  · obtain ⟨other, hother, heq⟩ := List.mem_map.mp hentry
    cases heq
    obtain ⟨params, htext, -, htexts, -⟩ := h entry hother
    obtain rfl : List.intercalate semicolon params = rendering :=
      Option.some.inj (htext.symm.trans hrendering)
    refine intercalate_fieldText (by simp [FieldText, semicolon]) (fun param hparam => ?_) b hb
    exact fun c hc => ((htexts param hparam).2 c hc).1

/-- They are read as long as there is room. -/
theorem EntriesKept.read (h : EntriesKept text one entries) (maxCount : Nat) :
    readEntries one (reachedEntries (slotsText text (entries.map some)) maxCount) =
      .ok (entries.take maxCount) := by
  have hwritten : writtenEntries text (entries.map some) = entries := by
    apply writtenEntries_all
    intro entry hentry
    obtain ⟨params, htext, -⟩ := h entry hentry
    rw [htext]
    rfl
  rw [@readEntries_slots_take _ text one id, hwritten, List.map_id]
  intro entry hentry rendering hrendering
  obtain ⟨other, hother, heq⟩ := List.mem_map.mp hentry
  cases heq
  obtain ⟨params, htext, hne, htexts, hread⟩ := h entry hother
  refine ⟨params, Option.some.inj (hrendering.symm.trans htext), ?_, hread⟩
  exact htexts.listParams hne fun _ hb => hb.2

theorem EntriesKept.printsLine (hwrite : Renders write text) (h : EntriesKept text one entries)
    {title head : Bytes} (hhead : head = title ++ ascii ": ") :
    PrintsLine title (slotsText text (entries.map some))
      ([.ok head] ++ slotsWrite write (entries.map some) ++ [.ok rtspCrlf]) := by
  refine ⟨h.fieldText, fun line hline => ?_⟩
  rw [printed_slotsHeader hwrite] at hline
  cases hline
  rw [hhead]
  rfl

end Entries

/-- A transport over RTP that says nothing it has no use for, with explicit ports. -/
structure RtspTransportHeader.Explicit (trsp : RtspTransportHeader) : Prop where
  overRtp : trsp.OverRtp EntryByte
  channels : trsp.lowerTransport ≠ .tcp → trsp.interleaved = []
  srcPorts : trsp.srcStreamPort = 0 ∨ trsp.srcControlPort = 0 →
    trsp.srcStreamPort = 0 ∧ trsp.srcControlPort = 0
  dstPorts : trsp.dstStreamPort = 0 ∨ trsp.dstControlPort = 0 →
    trsp.dstStreamPort = 0 ∧ trsp.dstControlPort = 0
  multicast : trsp.delivery = .multicast → trsp.srcStreamPort = 0
  ssrc : trsp.ssrcValid = false → trsp.ssrc = 0

theorem settledPorts_explicit {stream control : UInt16}
    (h : stream = 0 ∨ control = 0 → stream = 0 ∧ control = 0) :
    settledPorts stream control = (stream, control) := by
  unfold settledPorts
  split
  next hzero => rw [(h (.inl hzero)).1, (h (.inl hzero)).2]
  next hset =>
    split
    next hzero => exact absurd (h (.inr hzero)).1 hset
    next => rfl

theorem RtspTransportHeader.Explicit.settled_eq {trsp : RtspTransportHeader}
    (h : trsp.Explicit) : trsp.settled = trsp := by
  have hchannels : (if trsp.lowerTransport = .tcp then trsp.interleaved else []) =
      trsp.interleaved := by
    split
    next => rfl
    next hother => exact (h.channels hother).symm
  have hsource : ∀ port : UInt16, (trsp.delivery = .multicast → port = 0) →
      (if trsp.delivery = .unicast then port else 0) = port := by
    intro port hport
    cases hdelivery : trsp.delivery with
    | unicast => rfl
    | multicast => exact (hport hdelivery).symm
  have hcontrol : trsp.delivery = .multicast → trsp.srcControlPort = 0 :=
    fun hmulticast => (h.srcPorts (.inl (h.multicast hmulticast))).2
  have hssrc : (if trsp.ssrcValid = true then trsp.ssrc else 0) = trsp.ssrc := by
    split
    next => rfl
    next hunset => exact (h.ssrc (by simpa using hunset)).symm
  unfold RtspTransportHeader.settled
  rw [hchannels, settledPorts_explicit h.srcPorts, settledPorts_explicit h.dstPorts,
    hsource _ h.multicast, hsource _ hcontrol, hssrc]

theorem transports_kept {transport : List RtspTransportHeader}
    (h : ∀ trsp ∈ transport, trsp.Explicit) :
    EntriesKept transportText transportOfParams transport := by
  intro trsp htrsp
  have hexplicit := h trsp htrsp
  obtain ⟨rendering, htext⟩ := Option.isSome_iff_exists.mp (transportText_some hexplicit.overRtp)
  obtain ⟨params, rfl, hne, htexts, hread⟩ :=
    transportEntry_read (fun _ => entryByte_textByte) hexplicit.overRtp htext
  rw [hexplicit.settled_eq] at hread
  exact ⟨params, htext, hne, htexts, hread⟩

/-- The line of some transports, which are read as long as there is room. -/
theorem transportLine_read {transport : List RtspTransportHeader} (hne : transport ≠ [])
    (h : ∀ trsp ∈ transport, trsp.Explicit) :
    ∃ value, PrintsLine (ascii "Transport") value (rtspTransportHeaderWrite transport) ∧
      ∀ maxCount, rtspTransportHeaderRead value maxCount = .ok (transport.take maxCount) := by
  have hkept := transports_kept h
  refine ⟨slotsText transportText (transport.map some), ?_, fun maxCount => ?_⟩
  · rw [← rtspTransportHeaderWriteSlots_some, rtspTransportHeaderWriteSlots,
      if_neg (by simpa using hne)]
    exact hkept.printsLine transportWrite_renders rfl
  · rw [rtspTransportHeaderRead_eq]
    exact hkept.read maxCount

/-! ## A platform with a date -/

/-- A platform on which the first second has a date. -/
def firstSecondPlatform : Platform :=
  { wholePlatform with
    timeLocalParse := fun _ => .ok 1
    timeLocalFormat := fun _ _ => .ok (ascii "Thu, 01 Jan 1970 00:00:01 GMT") }

theorem firstSecondPlatform_exact : firstSecondPlatform.ExactWhole where
  whole htext hn := wholePlatform_exact.whole htext hn
  micros htext hn := wholePlatform_exact.micros htext hn
  millis := rfl

/-- The first second is read back. -/
theorem firstSecond_kept : DateKept firstSecondPlatform 1 := by
  intro text htext
  cases htext
  exact ⟨fieldText_ascii (by decide), rfl⟩

theorem hourRange_whole : WholeRange hourRange where
  form := ⟨.time 3661, .inl .infinity, rfl⟩
  fits := ⟨by decide, fun _ => by decide⟩
  noStop h := nomatch h

end Librtsp
