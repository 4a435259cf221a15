import Librtsp.FramingBounds
import Librtsp.HeaderText
import Librtsp.HeaderWrite

/-!
# Reassembly of messages from chunks

A stream of well-formed messages is cut into chunks and goes through the
receive loop.  The loop delivers exactly these messages unless a chunk ends
right after the third byte of a frame whose channel and length bytes are two
line feeds or two carriage returns: with fewer than four bytes the dollar sign
is not looked at, and the stub is taken for an empty text header and dropped.
-/

namespace Librtsp

open CString

section Platform

variable (P : Platform)

/-! ## Messages on the wire -/

/-- A request as the library writes it, with its body. -/
structure WireRequest where
  source : RtspRequestHeader
  maxLen : Nat
  text : Bytes
  body : Bytes
  header : RtspRequestHeader
  written : rtspRequestHeaderWrite P source { maxLen } = .ok { str := text, maxLen }
  headerText : HeaderText text
  read : rtspRequestHeaderRead P text = .ok header
  contentLength : header.contentLength.toInt = body.length
  size : text.length + body.length < 2 ^ 64

/-- A response as the library writes it, with its body. -/
structure WireResponse where
  source : RtspResponseHeader
  maxLen : Nat
  text : Bytes
  body : Bytes
  header : RtspResponseHeader
  written : rtspResponseHeaderWrite P source { maxLen } = .ok { str := text, maxLen }
  headerText : HeaderText text
  read : rtspResponseHeaderRead P text = .ok header
  contentLength : header.contentLength.toInt = body.length
  size : text.length + body.length < 2 ^ 64

/-- An interleaved frame as the library builds it. -/
structure WireFrame where
  channel : UInt8
  data : Bytes
  wire : Bytes
  built : rtspBuildInterleaved channel data = .ok wire

inductive WireMessage where
  | request (m : WireRequest P)
  | response (m : WireResponse P)
  | frame (m : WireFrame)

namespace WireMessage

variable {P}

def wire : WireMessage P → Bytes
  | .request m => m.text ++ m.body
  | .response m => m.text ++ m.body
  | .frame m => m.wire

/-- What the receiver of this message alone is given. -/
def delivery : WireMessage P → Delivery
  | .request m => .text (.request m.header) m.body
  | .response m => .text (.response m.header) m.body
  | .frame m => .interleaved m.channel m.data

end WireMessage

def wires (ms : List (WireMessage P)) : Bytes :=
  (ms.map WireMessage.wire).flatten

/-- Channel and high length byte are the same line end byte. -/
def WireFrame.LooksBlank (frame : WireFrame) : Prop :=
  frame.wire.take 3 = [0x24, 0x0a, 0x0a] ∨ frame.wire.take 3 = [0x24, 0x0d, 0x0d]

/-- Some chunk ends right after the third byte of a frame that looks blank. -/
def CutInBlankFrame (ms : List (WireMessage P)) (chunks : List Bytes) : Prop :=
  ∃ before after done frame rest, chunks = before ++ after ∧
    ms = done ++ .frame frame :: rest ∧ frame.LooksBlank ∧
    before.flatten = wires P done ++ frame.wire.take 3

/-! ## Both kinds of text message -/

/-- A text message, whichever reader it is meant for. -/
structure WireText where
  text : Bytes
  body : Bytes
  header : RtspMessageHeader
  headerText : HeaderText text
  read : readMessageHeader P text = .ok header
  contentLength : header.contentLength.toInt = body.length
  size : text.length + body.length < 2 ^ 64

variable {P}

/-- The name of a known method is not the beginning of the protocol version. -/
theorem requestRead_not_version {text : Bytes} {header : RtspRequestHeader}
    (hread : rtspRequestHeaderRead P text = .ok header) :
    ¬ strncmpEq text rtspVersion rtspVersion.length := by
  intro hversion
  have htake : text.take 8 = rtspVersion := by
    have hlength : rtspVersion.length = 8 := rfl
    rw [hlength] at hversion
    simpa [strncmpEq, show rtspVersion.take 8 = rtspVersion from rfl] using hversion
  obtain ⟨rest, rfl⟩ : ∃ rest, text = 0x52 :: 0x54 :: rest := by
    refine ⟨text.drop 2, ?_⟩
    have hsplit := List.take_append_drop 2 text
    have htwo : text.take 2 = [0x52, 0x54] := by
      have := congrArg (List.take 2) htake
      rw [List.take_take] at this
      exact this
    rw [htwo] at hsplit
    exact hsplit.symm
  rw [rtspRequestHeaderRead_eq] at hread
  obtain ⟨line, lines, header₀, -, hlines, hline, -⟩ := readLines_ok hread
  obtain ⟨m, hm, hmethod⟩ := requestLineRead_ok hline
  unfold headerLines at hlines
  split at hlines
  next => simp at hlines
  next p n hfind =>
    simp only [Option.map_eq_some_iff, Prod.mk.injEq] at hlines
    obtain ⟨line', hfirst, rfl, -⟩ := hlines
    have hall : ∀ m ∈ rtspMethods, (rtspMethodTypeStr m).take 2 ≠ [0x52, 0x54] ∧
        rtspMethodTypeStr m ≠ [0x52] := by decide
    cases p with
    | zero => simp [firstToken, strtok] at hfirst
    | succ p =>
        rw [List.take_succ_cons, firstToken_cons (by decide)] at hfirst
        cases hfirst
        rw [firstToken_cons (by decide)] at hmethod
        have hname := Option.some.inj hmethod
        cases p with
        | zero => exact (hall m hm).2 (by rw [← hname]; rfl)
        | succ p =>
            refine (hall m hm).1 ?_
            have hcrlf : (!rtspCrlf.contains 0x54) = true := by decide
            have hspace : (!space.contains 0x54) = true := by decide
            rw [← hname]
            simp only [List.take_succ_cons, List.takeWhile_cons, hcrlf, hspace, ↓reduceIte,
              List.take_zero]

/-- A response that is written starts with the protocol version. -/
theorem responseWrite_version {source : RtspResponseHeader} {maxLen : Nat} {text : Bytes}
    (hwrite : rtspResponseHeaderWrite P source { maxLen } = .ok { str := text, maxLen }) :
    ∃ rest, text = rtspVersion ++ rest := by
  obtain ⟨printedText, hprinted, hstr⟩ := rtspPrint_ok hwrite
  have htext : text = printedText := by
    have := congrArg RtspString.str hstr
    simpa using this
  subst htext
  unfold responsePieces at hprinted
  split at hprinted
  next => simp at hprinted
  next =>
    split at hprinted
    next => simp at hprinted
    next statusString _ =>
      simp only [List.cons_append, printed_ok,
        Option.map_eq_some_iff] at hprinted
      obtain ⟨rest, -, rfl⟩ := hprinted
      exact ⟨_, by simp only [List.append_assoc]; rfl⟩

def WireRequest.toText (m : WireRequest P) : WireText P where
  text := m.text
  body := m.body
  header := .request m.header
  headerText := m.headerText
  read := by
    unfold readMessageHeader
    rw [if_neg fun h => requestRead_not_version m.read h.2, m.read]
    rfl
  contentLength := m.contentLength
  size := m.size

def WireResponse.toText (m : WireResponse P) : WireText P where
  text := m.text
  body := m.body
  header := .response m.header
  headerText := m.headerText
  read := by
    obtain ⟨rest, hrest⟩ := responseWrite_version m.written
    have hversion : rtspVersion.length ≤ m.text.length ∧
        strncmpEq m.text rtspVersion rtspVersion.length = true := by
      rw [hrest]
      refine ⟨by simp, ?_⟩
      simp [strncmpEq, rtspVersion]
    unfold readMessageHeader
    rw [if_pos hversion, m.read]
    rfl
  contentLength := m.contentLength
  size := m.size

namespace WireText

variable (m : WireText P)

theorem bodyLen_eq : sizeOfInt m.header.contentLength = m.body.length := by
  have hnonneg := sizeOfInt_nonneg (n := m.header.contentLength)
    (by rw [m.contentLength]; omega)
  rw [m.contentLength] at hnonneg
  omega

theorem totalLen_eq :
    (sizeOfInt m.header.contentLength + m.text.length) % 2 ^ 64 =
      m.text.length + m.body.length := by
  have hsize := m.size
  rw [m.bodyLen_eq]
  omega

theorem not_frame : m.text.head? ≠ some 0x24 := head_ne_dollar_of_read P m.read

theorem text_pos : 0 < m.text.length := by
  have := (findDoubleNewline_headerText m.headerText []).2
  omega

end WireText

/-! ## Frames -/

theorem WireFrame.wire_eq (m : WireFrame) :
    ∃ high low, m.wire = 0x24 :: m.channel :: high :: low :: m.data ∧
      high.toNat * 256 + low.toNat = m.data.length := by
  have hbuilt := m.built
  unfold rtspBuildInterleaved at hbuilt
  split at hbuilt
  next => simp at hbuilt
  next =>
    split at hbuilt
    next => simp at hbuilt
    next hlength =>
      refine ⟨_, _, (Except.ok.inj hbuilt).symm, ?_⟩
      rw [UInt8.toNat_ofNat', UInt8.toNat_ofNat']
      omega

theorem WireMessage.text_or_frame (m : WireMessage P) :
    (∃ t : WireText P, m.wire = t.text ++ t.body ∧ m.delivery = .text t.header t.body) ∨
      ∃ frame, m = .frame frame := by
  cases m with
  | request m => exact .inl ⟨m.toText, rfl, rfl⟩
  | response m => exact .inl ⟨m.toText, rfl, rfl⟩
  | frame m => exact .inr ⟨m, rfl⟩

@[simp] theorem wires_nil : wires P [] = [] := rfl

@[simp] theorem wires_cons (m : WireMessage P) (ms : List (WireMessage P)) :
    wires P (m :: ms) = m.wire ++ wires P ms := by
  simp [wires]

@[simp] theorem wires_append (ms ms' : List (WireMessage P)) :
    wires P (ms ++ ms') = wires P ms ++ wires P ms' := by
  simp [wires]

theorem WireMessage.wire_pos (m : WireMessage P) : 0 < m.wire.length := by
  rcases m.text_or_frame with ⟨t, hwire, -⟩ | ⟨frame, rfl⟩
  · have := t.text_pos
    rw [hwire, List.length_append]
    omega
  · obtain ⟨high, low, hwire, -⟩ := frame.wire_eq
    simp [WireMessage.wire, hwire]

/-! ## Calls on a text message -/

section Calls

variable (E : HeaderEdit)

/-- The context while the body of a text message is missing. -/
def WireText.waiting (t : WireText P) : RtspMessageParserCtx where
  header := some t.header
  bodyLen := sizeOfInt t.header.contentLength
  headerLen := t.text.length

theorem getNext_text_fresh (t : WireText P) (tail : Bytes) {ctx : RtspMessageParserCtx}
    (hctx : ctx.header = none) :
    rtspGetNextMessage E P (t.text ++ tail) ctx =
      .ok (finishMessage (E.run t.text ++ tail) t.waiting t.header) := by
  have hhead : (t.text ++ tail).head? ≠ some 0x24 := by
    have := t.not_frame
    have hpos := t.text_pos
    cases htext : t.text with
    | nil => simp [htext] at hpos
    | cons b text => simpa [htext] using this
  obtain ⟨hfind, hlength⟩ := findDoubleNewline_headerText t.headerText tail
  have hsum : t.text.length - 4 + 4 = t.text.length := by omega
  simp only [rtspGetNextMessage, parseInterleaved_not_frame hhead, hctx, hfind, hsum,
    List.take_left, List.drop_left, t.read]
  rfl

theorem getNext_text_cut {t : WireText P} {pre post : Bytes} (htext : t.text = pre ++ post)
    (hpost : post ≠ []) {ctx : RtspMessageParserCtx} (hctx : ctx.header = none) :
    rtspGetNextMessage E P pre ctx =
      .ok { result := .error .eagain, ctx, data := pre } := by
  have hfind := findDoubleNewline_cut (htext ▸ t.headerText) hpost
  have hhead : pre.head? ≠ some 0x24 := by
    have := t.not_frame
    rw [htext] at this
    cases pre with
    | nil => simp
    | cons b pre => simpa using this
  simp only [rtspGetNextMessage, parseInterleaved_not_frame hhead, hctx, hfind]

theorem getNext_text_waiting (t : WireText P) (tail : Bytes) :
    rtspGetNextMessage E P (E.run t.text ++ tail) t.waiting =
      .ok (finishMessage (E.run t.text ++ tail) t.waiting t.header) := by
  have hedit : E.edit (t.text ++ tail) t.text.length = E.run t.text ++ tail := by
    simp [HeaderEdit.edit]
  have hhead : (E.run t.text ++ tail).head? ≠ some 0x24 := by
    rw [← hedit]
    refine E.edit_head? ?_
    have := t.not_frame
    have hpos := t.text_pos
    cases htext : t.text with
    | nil => simp [htext] at hpos
    | cons b text => simpa [htext] using this
  simp only [rtspGetNextMessage, parseInterleaved_not_frame hhead, WireText.waiting]

theorem finish_short (t : WireText P) {tail : Bytes} (htail : tail.length < t.body.length) :
    finishMessage (E.run t.text ++ tail) t.waiting t.header =
      { result := .error .eagain, ctx := t.waiting, data := E.run t.text ++ tail } := by
  have htotal := t.totalLen_eq
  unfold finishMessage WireText.waiting
  dsimp only
  rw [htotal, if_pos (by simp only [List.length_append, HeaderEdit.length_run]; omega)]

theorem finish_complete (t : WireText P) (more : Bytes) :
    finishMessage (E.run t.text ++ (t.body ++ more)) t.waiting t.header =
      { result := .ok (.text t.header t.text.length t.body.length)
        totalLen := t.text.length + t.body.length
        ctx := { headerLen := t.text.length }
        data := E.run t.text ++ (t.body ++ more) } := by
  have htotal := t.totalLen_eq
  have hbody := t.bodyLen_eq
  unfold finishMessage WireText.waiting
  dsimp only
  rw [htotal, hbody, if_neg (by simp only [List.length_append, HeaderEdit.length_run]; omega)]

theorem drop_run (t : WireText P) (tail : Bytes) :
    (E.run t.text ++ tail).drop t.text.length = tail := by
  have hlength : (E.run t.text).length = t.text.length := by simp
  rw [← hlength, List.drop_left]

/-! ## Calls on a frame -/

theorem getNext_frame (frame : WireFrame) (more : Bytes) (ctx : RtspMessageParserCtx) :
    rtspGetNextMessage E P (frame.wire ++ more) ctx =
      .ok { result := .ok (.interleaved frame.channel frame.data)
            totalLen := 4 + frame.data.length
            ctx
            data := frame.wire ++ more } := by
  obtain ⟨high, low, hwire, hlength⟩ := frame.wire_eq
  have hparse : rtspParseInterleaved (frame.wire ++ more) =
      .ok (frame.channel, frame.data) := by
    rw [hwire]
    simp only [List.cons_append, rtspParseInterleaved, hlength, List.length_append]
    rw [if_neg (by omega), List.take_left]
  simp only [rtspGetNextMessage, hparse]

theorem getNext_frame_short (frame : WireFrame) {pre post : Bytes}
    (hwire : frame.wire = pre ++ post) (hpost : post ≠ []) (hpre : 4 ≤ pre.length)
    (ctx : RtspMessageParserCtx) :
    rtspGetNextMessage E P pre ctx =
      .ok { result := .error .eagain, ctx, data := pre } := by
  obtain ⟨high, low, heq, hlength⟩ := frame.wire_eq
  have hpos := List.length_pos_iff.mpr hpost
  have hsizes := congrArg List.length (heq.symm.trans hwire)
  obtain ⟨data, rfl⟩ : ∃ data, pre = 0x24 :: frame.channel :: high :: low :: data := by
    match pre, hpre with
    | b₀ :: b₁ :: b₂ :: b₃ :: data, _ =>
        rw [heq] at hwire
        simp only [List.cons_append, List.cons.injEq] at hwire
        obtain ⟨rfl, rfl, rfl, rfl, -⟩ := hwire
        exact ⟨data, rfl⟩
  have hparse : rtspParseInterleaved (0x24 :: frame.channel :: high :: low :: data) =
      .error .eagain := by
    simp only [rtspParseInterleaved, hlength]
    simp only [List.length_cons, List.length_append] at hsizes
    rw [if_pos (by omega)]
  simp only [rtspGetNextMessage, hparse]

/-- The search for a doubled line end in three bytes whose first is a dollar. -/
theorem strnstr_stub {c b₁ b₂ : UInt8} (hc : c ≠ 0x24) :
    rtspStrnstr [0x24, b₁, b₂] [c, c] = if b₁ = c ∧ b₂ = c then some 1 else none := by
  show strnstrFrom c [c] 0 [0x24, b₁, b₂] = _
  rw [strnstrFrom_skip 0 (by decide) fun h => absurd h.symm hc]
  simp only [strnstrFrom, strncmpEq, List.length_cons, List.length_nil, Nat.zero_add,
    Nat.lt_add_one, ↓reduceIte, List.take_succ_cons, List.take_zero, beq_iff_eq,
    List.cons.injEq, and_true, Nat.lt_irrefl, ite_self]

/-- With fewer than four bytes of a frame, only the two stubs that look like a
blank line are taken for a header. -/
theorem findDoubleNewline_stub {frame : WireFrame} {pre post : Bytes}
    (hwire : frame.wire = pre ++ post) (hpre : pre.length < 4) :
    findDoubleNewline pre =
      if pre = [0x24, 0x0a, 0x0a] ∨ pre = [0x24, 0x0d, 0x0d] then some (1, 2) else none := by
  obtain ⟨high, low, heq, -⟩ := frame.wire_eq
  rw [heq] at hwire
  match pre, hpre with
  | [], _ => rfl
  | [b₀], _ =>
      simp only [List.cons_append, List.cons.injEq] at hwire
      obtain ⟨rfl, -⟩ := hwire
      rfl
  | [b₀, b₁], _ =>
      simp only [List.cons_append, List.cons.injEq] at hwire
      obtain ⟨rfl, -⟩ := hwire
      simp [findDoubleNewline, rtspStrnstr, crlfCrlf, lfCrlfCr, lfLf, crCr, strnstrFrom]
  | [b₀, b₁, b₂], _ =>
      simp only [List.cons_append, List.cons.injEq] at hwire
      obtain ⟨rfl, -⟩ := hwire
      have hcrlf : rtspStrnstr [0x24, b₁, b₂] crlfCrlf = none :=
        strnstrFrom_short 0 (by simp)
      have hlfcr : rtspStrnstr [0x24, b₁, b₂] lfCrlfCr = none :=
        strnstrFrom_short 0 (by simp)
      have hlf : rtspStrnstr [0x24, b₁, b₂] lfLf = _ := strnstr_stub (by decide)
      have hcr : rtspStrnstr [0x24, b₁, b₂] crCr = _ := strnstr_stub (by decide)
      unfold findDoubleNewline
      simp only [hcrlf, hlfcr, hlf, hcr, List.cons.injEq, and_true, true_and]
      by_cases hblank : b₁ = 0x0a ∧ b₂ = 0x0a
      · simp [hblank]
      · by_cases hblank' : b₁ = 0x0d ∧ b₂ = 0x0d
        · simp [hblank']
        · simp only [hblank, hblank', ↓reduceIte, or_self]

theorem parseInterleaved_short {data : Bytes} (hlength : data.length < 4) :
    rtspParseInterleaved data = .error .einval := by
  unfold rtspParseInterleaved
  split
  next =>
    simp only [List.length_cons] at hlength
    omega
  next => rfl

theorem getNext_stub_wait {frame : WireFrame} {pre post : Bytes}
    (hwire : frame.wire = pre ++ post) (hpre : pre.length < 4)
    (hblank : ¬ (pre = [0x24, 0x0a, 0x0a] ∨ pre = [0x24, 0x0d, 0x0d]))
    {ctx : RtspMessageParserCtx} (hctx : ctx.header = none) :
    rtspGetNextMessage E P pre ctx =
      .ok { result := .error .eagain, ctx, data := pre } := by
  have hfind := findDoubleNewline_stub hwire hpre
  rw [if_neg hblank] at hfind
  simp only [rtspGetNextMessage, parseInterleaved_short hpre, hctx, hfind]

theorem getNext_stub_skip {pre : Bytes}
    (hblank : pre = [0x24, 0x0a, 0x0a] ∨ pre = [0x24, 0x0d, 0x0d])
    {ctx : RtspMessageParserCtx} (hctx : ctx.header = none) :
    rtspGetNextMessage E P pre ctx =
      .ok { result := .error .eproto, totalLen := 3, ctx := { headerLen := 3 }
            data := E.edit pre 3 } := by
  obtain ⟨ctxHeader, bodyLen, headerLen⟩ := ctx
  simp only at hctx
  subst hctx
  rcases hblank with rfl | rfl
  · rfl
  · rfl

/-! ## What the receiver holds -/

/-- The receiver has kept `held`, a beginning of the messages `ms` still to be
delivered: as it came, or with the header of the first message read. -/
inductive Holds : Receiver → Bytes → List (WireMessage P) → Prop
  | fresh {ctx : RtspMessageParserCtx} {held : Bytes} {ms : List (WireMessage P)}
      (hctx : ctx.header = none) : Holds { buf := held, ctx } held ms
  | waiting {m : WireMessage P} {ms : List (WireMessage P)} (t : WireText P)
      (hwire : m.wire = t.text ++ t.body) (hdelivery : m.delivery = .text t.header t.body)
      (tail : Bytes) :
      Holds { buf := E.run t.text ++ tail, ctx := t.waiting } (t.text ++ tail) (m :: ms)

/-- Less than the first message. -/
def Partial (held : Bytes) (ms : List (WireMessage P)) : Prop :=
  match ms with
  | [] => held = []
  | m :: _ => held.length < m.wire.length

/-- The first three bytes of a frame that looks blank. -/
def BlankStub (held : Bytes) (ms : List (WireMessage P)) : Prop :=
  ∃ frame rest, ms = .frame frame :: rest ∧ frame.LooksBlank ∧ held = frame.wire.take 3

def deliveries (ms : List (WireMessage P)) : List ReceiveEvent :=
  ms.map fun m => .deliver m.delivery

theorem Holds.append {r : Receiver} {held : Bytes} {ms : List (WireMessage P)}
    (h : Holds E r held ms) (chunk : Bytes) :
    Holds E { r with buf := r.buf ++ chunk } (held ++ chunk) ms := by
  cases h with
  | fresh hctx => exact .fresh hctx
  | waiting t hwire hdelivery tail =>
      simp only [List.append_assoc]
      exact .waiting t hwire hdelivery (tail ++ chunk)

theorem Holds.length_eq {r : Receiver} {held : Bytes} {ms : List (WireMessage P)}
    (h : Holds E r held ms) : r.buf.length = held.length := by
  cases h with
  | fresh hctx => rfl
  | waiting t hwire hdelivery tail => simp

theorem Holds.nil {r : Receiver} {held : Bytes} (h : Holds E r held ([] : List (WireMessage P))) :
    r.buf = held ∧ r.ctx.header = none := by
  cases h with
  | fresh hctx => exact ⟨rfl, hctx⟩

/-- How the loop ends: it holds less than a message, or it has dropped a stub. -/
def LoopEnd (result : Except Fault (List ReceiveEvent × Receiver)) (held : Bytes)
    (ms : List (WireMessage P)) : Prop :=
  ∃ done rest held', ms = done ++ rest ∧ held = wires P done ++ held' ∧ Partial held' rest ∧
    ((¬ BlankStub held' rest ∧ ∃ r', result = .ok (deliveries done, r') ∧ Holds E r' held' rest) ∨
      (BlankStub held' rest ∧
        ∃ r', result = .ok (deliveries done ++ [.skip .eproto 3], r')))

theorem LoopEnd.wait {r : Receiver} {held : Bytes} {ms : List (WireMessage P)}
    (hunfinished : Partial held ms) (hstub : ¬ BlankStub held ms) (hholds : Holds E r held ms) :
    LoopEnd E (.ok ([], r)) held ms :=
  ⟨[], ms, held, rfl, rfl, hunfinished, .inl ⟨hstub, r, rfl, hholds⟩⟩

/-- A delivered message in front of the rest of the loop. -/
theorem LoopEnd.cons {result : Except Fault (List ReceiveEvent × Receiver)} {held : Bytes}
    {m : WireMessage P} {ms : List (WireMessage P)} :
    LoopEnd E result held ms →
      LoopEnd E
        (match result with
          | .error f => .error f
          | .ok (events, r) => .ok (.deliver m.delivery :: events, r))
        (m.wire ++ held) (m :: ms) := by
  rintro ⟨done, rest, held', rfl, rfl, hunfinished, hend⟩
  refine ⟨m :: done, rest, held', rfl, by simp, hunfinished, ?_⟩
  rcases hend with ⟨hstub, r', rfl, hholds⟩ | ⟨hstub, r', rfl⟩
  · exact .inl ⟨hstub, r', rfl, hholds⟩
  · exact .inr ⟨hstub, r', rfl⟩

/-- A stream beginning with a message: it is complete, or cut short. -/
theorem stream_cases {held future wire rest : Bytes} (h : held ++ future = wire ++ rest) :
    (∃ more, held = wire ++ more ∧ more ++ future = rest) ∨
      ∃ post, post ≠ [] ∧ wire = held ++ post := by
  rcases List.append_eq_append_iff.mp h with ⟨post, hwire, hfuture⟩ | ⟨more, hheld, hrest⟩
  · by_cases hpost : post = []
    · subst hpost
      exact .inl ⟨[], by simpa using hwire.symm, by simpa using hfuture⟩
    · exact .inr ⟨post, hpost, hwire⟩
  · exact .inl ⟨more, hheld, hrest.symm⟩

theorem not_blankStub_of_text {held : Bytes} {m : WireMessage P} {ms : List (WireMessage P)}
    {t : WireText P} (hwire : m.wire = t.text ++ t.body) : ¬ BlankStub held (m :: ms) := by
  rintro ⟨frame, rest, hms, -, -⟩
  simp only [List.cons.injEq] at hms
  obtain ⟨rfl, -⟩ := hms
  obtain ⟨high, low, hframe, -⟩ := frame.wire_eq
  have hhead := congrArg List.head? (hframe.symm.trans hwire)
  have hpos := t.text_pos
  have hnot := t.not_frame
  cases htext : t.text with
  | nil => simp [htext] at hpos
  | cons b text =>
      rw [htext] at hnot hhead
      exact hnot (by simpa using hhead.symm)

/-- The loop on a text message whose header is complete. -/
theorem receiveLoop_text
    {m : WireMessage P} {ms : List (WireMessage P)} {t : WireText P}
    (hwire : m.wire = t.text ++ t.body) (hdelivery : m.delivery = .text t.header t.body)
    {tail future : Bytes} (hstream : t.text ++ tail ++ future = wires P (m :: ms))
    {fuel : Nat} (hfuel : (t.text ++ tail).length < fuel + 1)
    (ih : ∀ r held, Holds E r held ms → held ++ future = wires P ms → held.length < fuel →
      LoopEnd E (receiveLoop E P fuel r) held ms)
    {r : Receiver} (hcall : rtspGetNextMessage E P r.buf r.ctx =
      .ok (finishMessage (E.run t.text ++ tail) t.waiting t.header)) :
    LoopEnd E (receiveLoop E P (fuel + 1) r) (t.text ++ tail) (m :: ms) := by
  have hpos := t.text_pos
  rw [wires_cons] at hstream
  unfold receiveLoop
  rw [hcall]
  rcases stream_cases hstream with ⟨more, hmore, hrest⟩ | ⟨post, hpost, hcut⟩
  · obtain rfl : tail = t.body ++ more := by
      rw [hwire, List.append_assoc] at hmore
      exact List.append_cancel_left hmore
    have hmessage : (RtspMessage.text t.header t.text.length t.body.length).delivery
        (E.run t.text ++ (t.body ++ more)) = m.delivery := by
      dsimp only [RtspMessage.delivery]
      rw [drop_run, List.take_left, hdelivery]
    have hremove : rtspBufferRemoveFirstBytes (E.run t.text ++ (t.body ++ more))
        (t.text.length + t.body.length) = more := by
      unfold rtspBufferRemoveFirstBytes
      rw [← List.drop_drop, drop_run, List.drop_left]
    rw [finish_complete]
    have hfresh : Holds E { buf := more, ctx := { headerLen := t.text.length } } more ms :=
      .fresh rfl
    dsimp only
    rw [hremove, hmessage, hmore]
    refine LoopEnd.cons E (ih _ more hfresh hrest ?_)
    simp only [List.length_append] at hfuel
    omega
  · have hshort : tail.length < t.body.length := by
      have hlengths := congrArg List.length (hwire.symm.trans hcut)
      have := List.length_pos_iff.mpr hpost
      simp only [List.length_append] at hlengths
      omega
    rw [finish_short E t hshort]
    refine LoopEnd.wait E ?_ (not_blankStub_of_text hwire)
      (.waiting t hwire hdelivery tail)
    show (t.text ++ tail).length < m.wire.length
    rw [hwire, List.length_append, List.length_append]
    omega

/-- The loop on a frame. -/
theorem receiveLoop_frame
    {frame : WireFrame} {ms : List (WireMessage P)} {held future : Bytes}
    (hstream : held ++ future = wires P (.frame frame :: ms))
    {fuel : Nat} (hfuel : held.length < fuel + 1)
    (ih : ∀ r held, Holds E r held ms → held ++ future = wires P ms → held.length < fuel →
      LoopEnd E (receiveLoop E P fuel r) held ms)
    {ctx : RtspMessageParserCtx} (hctx : ctx.header = none) :
    LoopEnd E (receiveLoop E P (fuel + 1) { buf := held, ctx }) held (.frame frame :: ms) := by
  obtain ⟨high, low, hwire, hlength⟩ := frame.wire_eq
  rw [wires_cons] at hstream
  unfold receiveLoop
  rcases stream_cases hstream with ⟨more, hmore, hrest⟩ | ⟨post, hpost, hcut⟩
  · subst hmore
    have hremove : rtspBufferRemoveFirstBytes (frame.wire ++ more)
        (4 + frame.data.length) = more := by
      have hwirelength : frame.wire.length = 4 + frame.data.length := by
        rw [hwire]
        simp only [List.length_cons]
        omega
      unfold rtspBufferRemoveFirstBytes
      rw [← hwirelength, List.drop_left]
    have hcall := getNext_frame (P := P) E frame more ctx
    unfold WireMessage.wire
    rw [hcall]
    dsimp only
    rw [hremove]
    have hless : more.length < fuel := by
      simp only [WireMessage.wire, hwire, List.length_append, List.length_cons] at hfuel
      omega
    have hloop := ih { buf := more, ctx } more (.fresh hctx) hrest hless
    exact LoopEnd.cons E (m := .frame frame) hloop
  · have hunfinished : Partial held (.frame frame :: ms : List (WireMessage P)) := by
      have := List.length_pos_iff.mpr hpost
      show held.length < (WireMessage.frame frame : WireMessage P).wire.length
      rw [hcut, List.length_append]
      omega
    have hcut' : frame.wire = held ++ post := hcut
    by_cases hfour : 4 ≤ held.length
    · rw [getNext_frame_short E frame hcut' hpost hfour ctx]
      refine LoopEnd.wait E hunfinished ?_ (.fresh hctx)
      rintro ⟨frame', rest, -, -, hheld⟩
      rw [hheld, List.length_take] at hfour
      omega
    · by_cases hblank : held = [0x24, 0x0a, 0x0a] ∨ held = [0x24, 0x0d, 0x0d]
      · have htake : frame.wire.take 3 = held := by
          have hheld : held.length = 3 := by rcases hblank with rfl | rfl <;> rfl
          rw [hcut', ← hheld, List.take_left]
        rw [getNext_stub_skip E hblank hctx]
        refine ⟨[], _, held, rfl, rfl, hunfinished, .inr ⟨?_, _, rfl⟩⟩
        exact ⟨frame, ms, rfl, by unfold WireFrame.LooksBlank; rwa [htake], htake.symm⟩
      · rw [getNext_stub_wait E hcut' (by omega) hblank hctx]
        refine LoopEnd.wait E hunfinished ?_ (.fresh hctx)
        rintro ⟨frame', rest, hms, hlooks, hheld⟩
        simp only [List.cons.injEq, WireMessage.frame.injEq] at hms
        obtain ⟨rfl, -⟩ := hms
        exact hblank (hheld ▸ hlooks)

/-- The loop delivers the complete messages it holds and keeps the rest, unless
the rest is a stub that looks blank. -/
theorem receiveLoop_holds
    {fuel : Nat} {r : Receiver} {held future : Bytes} {ms : List (WireMessage P)}
    (hholds : Holds E r held ms) (hstream : held ++ future = wires P ms)
    (hfuel : held.length < fuel) : LoopEnd E (receiveLoop E P fuel r) held ms := by
  induction ms generalizing fuel r held with
  | nil =>
      cases fuel with
      | zero => omega
      | succ fuel =>
          cases hholds with
          | fresh hctx =>
              obtain rfl : held = [] := by
                simp only [wires_nil, List.append_eq_nil_iff] at hstream
                exact hstream.1
              rename_i ctx
              have hcall : rtspGetNextMessage E P [] ctx =
                  .ok { result := .error .eagain, ctx, data := [] } := by
                simp only [rtspGetNextMessage,
                  parseInterleaved_short (show ([] : Bytes).length < 4 by decide), hctx]
                rfl
              unfold receiveLoop
              rw [hcall]
              refine LoopEnd.wait E rfl ?_ (.fresh hctx)
              rintro ⟨frame, rest, hms, -⟩
              simp at hms
  | cons m ms ih =>
      cases fuel with
      | zero => omega
      | succ fuel =>
          have ih' : ∀ r held, Holds E r held ms → held ++ future = wires P ms →
              held.length < fuel → LoopEnd E (receiveLoop E P fuel r) held ms :=
            fun r held h hs hf => ih h hs hf
          cases hholds with
          | waiting t hwire hdelivery tail =>
              exact receiveLoop_text E hwire hdelivery hstream hfuel ih'
                (getNext_text_waiting E t tail)
          | fresh hctx =>
              rcases m.text_or_frame with ⟨t, hwire, hdelivery⟩ | ⟨frame, rfl⟩
              · rw [wires_cons, hwire, List.append_assoc] at hstream
                rcases stream_cases hstream with ⟨tail, rfl, hrest⟩ | ⟨post, hpost, hcut⟩
                · refine receiveLoop_text E hwire hdelivery ?_ hfuel ih'
                    (getNext_text_fresh E t tail hctx)
                  rw [wires_cons, hwire, List.append_assoc, List.append_assoc, hrest]
                · have hcall := getNext_text_cut E hcut hpost hctx
                  unfold receiveLoop
                  rw [hcall]
                  refine LoopEnd.wait E ?_ (not_blankStub_of_text hwire) (.fresh hctx)
                  have := List.length_pos_iff.mpr hpost
                  show held.length < m.wire.length
                  rw [hwire, hcut]
                  simp only [List.length_append]
                  omega
              · exact receiveLoop_frame E hstream hfuel ih' hctx

/-! ## All chunks -/

/-- `CutInBlankFrame` for a receiver that already holds some bytes. -/
def CutFrom (held : Bytes) (ms : List (WireMessage P)) (chunks : List Bytes) : Prop :=
  ∃ before after done frame rest, chunks = before ++ after ∧
    ms = done ++ .frame frame :: rest ∧ frame.LooksBlank ∧
    held ++ before.flatten = wires P done ++ frame.wire.take 3

theorem WireFrame.LooksBlank.length_take {frame : WireFrame} (h : frame.LooksBlank) :
    (frame.wire.take 3).length = 3 := by
  rcases h with h | h <;> rw [h] <;> rfl

theorem length_wires_done_le {held : Bytes} {done rest : List (WireMessage P)}
    (hunfinished : Partial held (done ++ rest)) (h : (wires P done).length ≤ held.length) :
    done = [] := by
  cases done with
  | nil => rfl
  | cons m done =>
      simp only [Partial, List.cons_append] at hunfinished
      simp only [wires_cons, List.length_append] at h
      omega

/-- The messages delivered so far come before the frame that is cut. -/
theorem done_before_cut {done rest done' rest' : List (WireMessage P)} {frame : WireFrame}
    (hms : done ++ rest = done' ++ .frame frame :: rest') {held tail : Bytes}
    (hblank : frame.LooksBlank)
    (hbytes : wires P done ++ held ++ tail = wires P done' ++ frame.wire.take 3) :
    ∃ mid, done' = done ++ mid ∧ rest = mid ++ .frame frame :: rest' := by
  rcases List.append_eq_append_iff.mp hms with ⟨mid, hdone, hrest⟩ | ⟨mid, hdone, hrest⟩
  · exact ⟨mid, hdone, hrest⟩
  · cases mid with
    | nil =>
        exact ⟨[], by simpa using hdone.symm, by simpa using hrest.symm⟩
    | cons m mid =>
        simp only [List.cons_append, List.cons.injEq] at hrest
        obtain ⟨rfl, -⟩ := hrest
        obtain ⟨high, low, hwire, -⟩ := frame.wire_eq
        have hlengths := congrArg List.length hbytes
        have htake := hblank.length_take
        simp only [hdone, wires_append, wires_cons, WireMessage.wire, List.length_append,
          htake] at hlengths
        have hfour : 4 ≤ frame.wire.length := by simp [hwire]
        omega

theorem cutFrom_cons_iff {held : Bytes} {done rest : List (WireMessage P)}
    {chunk held' : Bytes} {chunks : List Bytes} (hunfinished : Partial held (done ++ rest))
    (hstub : ¬ BlankStub held (done ++ rest)) (hheld : held ++ chunk = wires P done ++ held') :
    CutFrom held (done ++ rest) (chunk :: chunks) ↔ CutFrom held' rest chunks := by
  constructor
  · rintro ⟨before, after, done', frame, rest', hchunks, hms, hblank, hbytes⟩
    cases before with
    | nil =>
        -- the stub was held before this chunk
        rw [List.flatten_nil, List.append_nil] at hbytes
        rw [hms] at hunfinished hstub
        obtain rfl := length_wires_done_le hunfinished (by rw [hbytes, List.length_append]; omega)
        exact absurd ⟨frame, rest', rfl, hblank, hbytes⟩ hstub
    | cons chunk' before =>
        simp only [List.cons_append, List.cons.injEq] at hchunks
        obtain ⟨rfl, rfl⟩ := hchunks
        rw [List.flatten_cons, ← List.append_assoc, hheld] at hbytes
        obtain ⟨mid, rfl, rfl⟩ := done_before_cut hms hblank hbytes
        refine ⟨before, after, mid, frame, rest', rfl, rfl, hblank, ?_⟩
        rw [wires_append, List.append_assoc, List.append_assoc] at hbytes
        exact List.append_cancel_left hbytes
  · rintro ⟨before, after, mid, frame, rest', rfl, rfl, hblank, hbytes⟩
    refine ⟨chunk :: before, after, done ++ mid, frame, rest', rfl, by simp, hblank, ?_⟩
    rw [List.flatten_cons, ← List.append_assoc, hheld, wires_append, List.append_assoc,
      List.append_assoc, hbytes]

theorem deliveries_append (ms ms' : List (WireMessage P)) :
    deliveries (ms ++ ms') = deliveries ms ++ deliveries ms' := by
  simp [deliveries]

theorem skip_not_mem_deliveries (ms : List (WireMessage P)) (e : Errno) (count : Nat) :
    ReceiveEvent.skip e count ∉ deliveries ms := by
  simp [deliveries]

/-- One chunk: the messages it completes are delivered, and what is left is the
same situation for the chunks after it, or a dropped stub. -/
theorem receiveChunk_step {chunk : Bytes} {chunks : List Bytes} {r : Receiver} {held : Bytes}
    {ms : List (WireMessage P)} (hholds : Holds E r held ms) (hunfinished : Partial held ms)
    (hstub : ¬ BlankStub held ms) (hstream : held ++ (chunk :: chunks).flatten = wires P ms) :
    ∃ done rest held', ms = done ++ rest ∧ held' ++ chunks.flatten = wires P rest ∧
      Partial held' rest ∧ (CutFrom held ms (chunk :: chunks) ↔ CutFrom held' rest chunks) ∧
      ((¬ BlankStub held' rest ∧
          ∃ r', receiveChunk E P r chunk = .ok (deliveries done, r') ∧ Holds E r' held' rest) ∨
        (BlankStub held' rest ∧
          ∃ r', receiveChunk E P r chunk = .ok (deliveries done ++ [.skip .eproto 3], r'))) := by
  rw [List.flatten_cons, ← List.append_assoc] at hstream
  have hfuel : (held ++ chunk).length < receiveFuel (r.buf ++ chunk) := by
    unfold receiveFuel
    rw [List.length_append, List.length_append, hholds.length_eq]
    omega
  obtain ⟨done, rest, held', rfl, hheld, hunfinished', hcase⟩ :=
    receiveLoop_holds E (hholds.append E chunk) hstream hfuel
  refine ⟨done, rest, held', rfl, ?_, hunfinished', cutFrom_cons_iff hunfinished hstub hheld, hcase⟩
  rw [hheld, wires_append, List.append_assoc] at hstream
  exact List.append_cancel_left hstream

/-- Without a cut in a frame that looks blank, every message is delivered. -/
theorem receiveChunks_delivers {chunks : List Bytes} {r : Receiver} {held : Bytes}
    {ms : List (WireMessage P)} (hholds : Holds E r held ms) (hunfinished : Partial held ms)
    (hstub : ¬ BlankStub held ms) (hstream : held ++ chunks.flatten = wires P ms)
    (hcut : ¬ CutFrom held ms chunks) :
    ∃ r', receiveChunks E P r chunks = .ok (deliveries ms, r') ∧ r'.buf = [] ∧
      r'.ctx.header = none := by
  induction chunks generalizing r held ms with
  | nil =>
      rw [List.flatten_nil, List.append_nil] at hstream
      obtain rfl : ms = [] := by
        cases ms with
        | nil => rfl
        | cons m ms =>
            simp only [Partial] at hunfinished
            rw [hstream, wires_cons, List.length_append] at hunfinished
            omega
      obtain rfl : held = [] := hstream
      exact ⟨r, rfl, hholds.nil E⟩
  | cons chunk chunks ih =>
      obtain ⟨done, rest, held', rfl, hstream', hunfinished', hcuts, hcase⟩ :=
        receiveChunk_step E hholds hunfinished hstub hstream
      rw [hcuts] at hcut
      rcases hcase with ⟨hstub', r', hchunk, hholds'⟩ | ⟨⟨frame, rest', hms, hblank, hheld'⟩, -⟩
      · obtain ⟨r'', hrest, hend⟩ := ih hholds' hunfinished' hstub' hstream' hcut
        refine ⟨r'', ?_, hend⟩
        unfold receiveChunks
        rw [hchunk, deliveries_append]
        dsimp only
        rw [hrest]
      · exact absurd ⟨[], chunks, [], frame, rest', rfl, hms, hblank, by simpa using hheld'⟩ hcut

/-- With such a cut, something else happens. -/
theorem receiveChunks_cut {chunks : List Bytes} {r : Receiver} {held : Bytes}
    {ms : List (WireMessage P)} (hholds : Holds E r held ms) (hunfinished : Partial held ms)
    (hstub : ¬ BlankStub held ms) (hstream : held ++ chunks.flatten = wires P ms)
    (hcut : CutFrom held ms chunks) :
    ¬ ∃ r', receiveChunks E P r chunks = .ok (deliveries ms, r') := by
  induction chunks generalizing r held ms with
  | nil =>
      obtain ⟨before, after, done, frame, rest, hchunks, rfl, hblank, hbytes⟩ := hcut
      obtain ⟨rfl, -⟩ := List.append_eq_nil_iff.mp hchunks.symm
      rw [List.flatten_nil, List.append_nil] at hbytes
      obtain rfl := length_wires_done_le hunfinished (by rw [hbytes, List.length_append]; omega)
      exact absurd ⟨frame, rest, rfl, hblank, hbytes⟩ hstub
  | cons chunk chunks ih =>
      obtain ⟨done, rest, held', rfl, hstream', hunfinished', hcuts, hcase⟩ :=
        receiveChunk_step E hholds hunfinished hstub hstream
      rw [hcuts] at hcut
      rintro ⟨r'', hresult⟩
      unfold receiveChunks at hresult
      rcases hcase with ⟨hstub', r', hchunk, hholds'⟩ | ⟨-, r', hchunk⟩
      · rw [hchunk, deliveries_append] at hresult
        dsimp only at hresult
        split at hresult
        next => simp at hresult
        next events r''' hrest =>
          simp only [Except.ok.injEq, Prod.mk.injEq, List.append_cancel_left_eq] at hresult
          obtain ⟨rfl, rfl⟩ := hresult
          exact ih hholds' hunfinished' hstub' hstream' hcut ⟨_, hrest⟩
      · rw [hchunk] at hresult
        dsimp only at hresult
        split at hresult
        next => simp at hresult
        next events r''' _ =>
          simp only [Except.ok.injEq, Prod.mk.injEq] at hresult
          refine skip_not_mem_deliveries (done ++ rest) .eproto 3 ?_
          rw [← hresult.1]
          simp

/-- Nothing is held when the first chunk arrives. -/
theorem holds_init (ms : List (WireMessage P)) :
    Holds E {} [] ms ∧ Partial [] ms ∧ ¬ BlankStub [] ms := by
  refine ⟨.fresh rfl, ?_, ?_⟩
  · cases ms with
    | nil => rfl
    | cons m ms => exact m.wire_pos
  · rintro ⟨frame, rest, -, hblank, hnil⟩
    have := hblank.length_take
    rw [← hnil] at this
    simp at this

end Calls

/-! ## Reassembly -/

/-- However a stream of well-formed messages is cut, the receive loop delivers
exactly these messages and holds nothing at the end, if and only if no chunk
ends after the third byte of a frame that looks blank there. -/
theorem reassembly_iff (E : HeaderEdit) (ms : List (WireMessage P)) (chunks : List Bytes)
    (hstream : chunks.flatten = wires P ms) :
    (∃ r, receiveChunks E P {} chunks = .ok (ms.map fun m => .deliver m.delivery, r) ∧
        r.buf = [] ∧ r.ctx.header = none) ↔
      ¬ CutInBlankFrame P ms chunks := by
  obtain ⟨hholds, hunfinished, hstub⟩ := holds_init E ms
  constructor
  · rintro ⟨r, hresult, -⟩ hcut
    exact receiveChunks_cut E hholds hunfinished hstub hstream hcut ⟨r, hresult⟩
  · exact receiveChunks_delivers E hholds hunfinished hstub hstream

end Platform

/-- `OPTIONS *` without any field. -/
def optionsWire : WireRequest .bare where
  source := { method := .options, uri := some (ascii "*"), cseq := -1 }
  maxLen := 8191
  text := optionsRequest
  body := []
  header := { method := .options, uri := some (ascii "*") }
  written := by decide +kernel
  headerText := by
    refine ⟨[ascii "OPTIONS * RTSP/1.0"], by simp, ?_, by decide⟩
    intro line hline
    obtain rfl := List.mem_singleton.mp hline
    exact ⟨by decide, by decide +kernel⟩
  read := by decide +kernel
  contentLength := by decide
  size := by decide

/-- One byte on channel zero. -/
def oneByteWire : WireFrame where
  channel := 0
  data := [1]
  wire := [0x24, 0, 0, 1, 1]
  built := by decide

theorem reassembly_options :
    ∃ r, receiveChunks .words .bare {}
        [optionsRequest.take 10, optionsRequest.drop 10 ++ [0x24, 0, 0], [1, 1]] =
      .ok ([.deliver (.text (.request optionsWire.header) []), .deliver (.interleaved 0 [1])],
        r) ∧ r.buf = [] ∧ r.ctx.header = none := by
  refine (reassembly_iff .words [.request optionsWire, .frame oneByteWire] _ ?_).mpr ?_
  · decide
  · rintro ⟨before, after, done, frame, rest, -, hms, hblank, -⟩
    have hmem : (.frame frame : WireMessage .bare) ∈
        ([.request optionsWire, .frame oneByteWire] : List (WireMessage .bare)) := by
      rw [hms]
      simp
    simp only [List.mem_cons, reduceCtorEq, WireMessage.frame.injEq, List.not_mem_nil,
      or_false, false_or] at hmem
    subst hmem
    exact absurd hblank (by unfold WireFrame.LooksBlank; decide)

/-- A frame on channel 10 with 2560 bytes: channel and length begin with two
line feeds. -/
def lineFeedWire : WireFrame where
  channel := 0x0a
  data := List.replicate 2560 0
  wire := 0x24 :: 0x0a :: 0x0a :: 0x00 :: List.replicate 2560 0
  built := by
    unfold rtspBuildInterleaved
    rw [List.length_replicate]
    rfl

/-- Cut after its third byte, this frame is not delivered. -/
theorem lineFeedWire_lost :
    ¬ ∃ r, receiveChunks .words .bare {} [lineFeedWire.wire.take 3, lineFeedWire.wire.drop 3] =
      .ok ([.deliver (.interleaved 0x0a lineFeedWire.data)], r) := by
  obtain ⟨hholds, hunfinished, hstub⟩ :=
    holds_init .words [(.frame lineFeedWire : WireMessage .bare)]
  apply receiveChunks_cut .words hholds hunfinished hstub
  · simp [wires, WireMessage.wire]
  · exact ⟨[lineFeedWire.wire.take 3], [lineFeedWire.wire.drop 3], [], lineFeedWire, [], rfl,
      rfl, .inl rfl, by simp⟩

end Librtsp
