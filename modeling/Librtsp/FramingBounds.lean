import Librtsp.Message

/-!
# Bounds of the message framing

A call of `rtspGetNextMessage` on a reachable buffer and context stays within
the buffer and makes progress, unless the header it works with announces a
negative length that the header itself covers: then header and body lengths
wrap around when they are added.  The receive loop ends on every buffer.
-/

namespace Librtsp

open CString

/-- The call keeps to the buffer: a message that is returned takes up
`totalLen` bytes of it, and everything but a wait for more data removes
something. -/
structure NextMessage.WellFramed (next : NextMessage) (len : Nat) : Prop where
  text : ∀ header bodyOffset bodyLen, next.result = .ok (.text header bodyOffset bodyLen) →
    bodyOffset + bodyLen = next.totalLen
  interleaved : ∀ channel payload, next.result = .ok (.interleaved channel payload) →
    4 + payload.length = next.totalLen
  progress : next.result ≠ .error .eagain → 0 < next.totalLen ∧ next.totalLen ≤ len

section Platform

variable (E : HeaderEdit) (P : Platform)

/-- Buffers and contexts that calls of `rtspGetNextMessage` lead to. -/
inductive Receiver.Reachable : Receiver → Prop
  | init : Reachable {}
  | append {r : Receiver} (hr : Reachable r) (chunk : Bytes)
      (hlength : (r.buf ++ chunk).length < 2 ^ 63) : Reachable { r with buf := r.buf ++ chunk }
  | call {r : Receiver} (hr : Reachable r) {next : NextMessage}
      (hnext : rtspGetNextMessage E P r.buf r.ctx = .ok next) :
      Reachable { buf := rtspBufferRemoveFirstBytes next.data next.totalLen, ctx := next.ctx }

/-- The header a call works with, and its length: the one waiting for its body,
or the one at the front of the buffer. -/
def pendingHeader (data : Bytes) (ctx : RtspMessageParserCtx) :
    Option (RtspMessageHeader × Nat) :=
  match ctx.header with
  | some header => some (header, ctx.headerLen)
  | none =>
      match findDoubleNewline data with
      | none => none
      | some (p, n) =>
          match readMessageHeader P (data.take (p + n)) with
          | .error _ => none
          | .ok header => some (header, p + n)

/-- The front of the buffer is a text message with a negative `Content-Length`
not larger than its header. -/
def LengthWraps (data : Bytes) (ctx : RtspMessageParserCtx) : Prop :=
  rtspParseInterleaved data = .error .einval ∧
    ∃ header headerLen, pendingHeader P data ctx = some (header, headerLen) ∧
      header.contentLength.toInt < 0 ∧ -header.contentLength.toInt ≤ headerLen

/-! ## The invariant of the context -/

/-- The header kept by the context lies at the front of the buffer, which is
not a frame, and waits for a body. -/
structure Receiver.Framed (r : Receiver) : Prop where
  short : r.buf.length < 2 ^ 63
  headerLen_pos : r.ctx.header ≠ none → 0 < r.ctx.headerLen
  headerLen_le : r.ctx.header ≠ none → r.ctx.headerLen ≤ r.buf.length
  bodyLen_eq : ∀ header, r.ctx.header = some header →
    r.ctx.bodyLen = sizeOfInt header.contentLength
  notFrame : r.ctx.header ≠ none → r.buf.head? ≠ some 0x24
  waiting : r.ctx.header ≠ none → 0 < (r.ctx.bodyLen + r.ctx.headerLen) % 2 ^ 64

theorem Receiver.Framed.of_unknown {r : Receiver} (hshort : r.buf.length < 2 ^ 63)
    (hctx : r.ctx.header = none) : r.Framed where
  short := hshort
  headerLen_pos h := absurd hctx h
  headerLen_le h := absurd hctx h
  bodyLen_eq header h := by simp [hctx] at h
  notFrame h := absurd hctx h
  waiting h := absurd hctx h

/-! ## Lengths -/

theorem sizeOfInt_add (n : Int32) (headerLen : Nat) (hheader : headerLen < 2 ^ 63) :
    (sizeOfInt n + headerLen) % 2 ^ 64 =
      if n.toInt < 0 then
        if -n.toInt ≤ headerLen then (headerLen + n.toInt).toNat
        else (2 ^ 64 + n.toInt + headerLen).toNat
      else n.toInt.toNat + headerLen := by
  have hlow := n.le_toInt
  have hhigh := n.toInt_lt
  unfold sizeOfInt
  split
  next hneg =>
    have hmod : n.toInt % 2 ^ 64 = 2 ^ 64 + n.toInt := by omega
    rw [hmod]
    split <;> omega
  next =>
    have hmod : n.toInt % 2 ^ 64 = n.toInt := by omega
    rw [hmod]
    omega

theorem sizeOfInt_neg {n : Int32} (hneg : n.toInt < 0) :
    (sizeOfInt n : Int) = 2 ^ 64 + n.toInt := by
  have hlow := n.le_toInt
  unfold sizeOfInt
  omega

theorem sizeOfInt_nonneg {n : Int32} (hn : 0 ≤ n.toInt) : (sizeOfInt n : Int) = n.toInt := by
  have hhigh := n.toInt_lt
  unfold sizeOfInt
  omega

/-! ## One call -/

theorem parseInterleaved_ok
    {data : Bytes} {channel : UInt8} {payload : Bytes}
    (h : rtspParseInterleaved data = .ok (channel, payload)) :
    4 + payload.length ≤ data.length ∧ payload.length < 65536 := by
  unfold rtspParseInterleaved at h
  split at h
  next channel' high low rest =>
    dsimp only at h
    split at h
    next => simp at h
    next hlength =>
      simp only [Except.ok.injEq, Prod.mk.injEq] at h
      obtain ⟨-, rfl⟩ := h
      have hhigh := high.toNat_lt
      have hlow := low.toNat_lt
      simp only [List.length_take, List.length_cons]
      omega
  next => simp at h

theorem parseInterleaved_not_frame {data : Bytes} (h : data.head? ≠ some 0x24) :
    rtspParseInterleaved data = .error .einval := by
  unfold rtspParseInterleaved
  split
  next => simp at h
  next => rfl

theorem parseInterleaved_error
    {data : Bytes} {e : Errno} (h : rtspParseInterleaved data = .error e) :
    e = .eagain ∨ e = .einval := by
  unfold rtspParseInterleaved at h
  split at h
  next =>
    dsimp only at h
    split at h
    · exact .inl (Except.error.inj h).symm
    · simp at h
  next => exact .inr (Except.error.inj h).symm

theorem finishMessage_data (data : Bytes) (ctx : RtspMessageParserCtx)
    (header : RtspMessageHeader) : (finishMessage data ctx header).data = data := by
  unfold finishMessage
  dsimp only
  split <;> rfl

/-- Once the header is known, the call is well framed exactly when the lengths
do not wrap. -/
theorem finishMessage_wellFramed_iff
    {data : Bytes} {ctx : RtspMessageParserCtx} {header : RtspMessageHeader}
    (hshort : data.length < 2 ^ 63) (hpos : 0 < ctx.headerLen)
    (hle : ctx.headerLen ≤ data.length)
    (hbody : ctx.bodyLen = sizeOfInt header.contentLength) :
    (finishMessage data ctx header).WellFramed data.length ↔
      ¬ (header.contentLength.toInt < 0 ∧ -header.contentLength.toInt ≤ ctx.headerLen) := by
  have hlow := header.contentLength.le_toInt
  have htotal := sizeOfInt_add header.contentLength ctx.headerLen (by omega)
  have hneg := @sizeOfInt_neg header.contentLength
  have hnonneg := @sizeOfInt_nonneg header.contentLength
  unfold finishMessage
  rw [hbody]
  generalize (sizeOfInt header.contentLength + ctx.headerLen) % 2 ^ 64 = totalLen at *
  dsimp only
  split
  next hwait =>
    refine iff_of_true ⟨by simp, by simp, by simp⟩ ?_
    rintro ⟨hcl, hcover⟩
    rw [if_pos hcl, if_pos hcover] at htotal
    omega
  next hfits =>
    constructor
    · rintro ⟨htext, -, -⟩ ⟨hcl, hcover⟩
      have hsum := htext header ctx.headerLen (sizeOfInt header.contentLength) rfl
      rw [if_pos hcl, if_pos hcover] at htotal
      have := hneg hcl
      dsimp only at hsum
      omega
    · intro hnot
      by_cases hcl : header.contentLength.toInt < 0
      · rw [if_pos hcl, if_neg fun h => hnot ⟨hcl, h⟩] at htotal
        omega
      · rw [if_neg hcl] at htotal
        have := hnonneg (by omega)
        refine ⟨?_, by simp, fun _ => ?_⟩
        · intro header' bodyOffset bodyLen h
          simp only [Except.ok.injEq, RtspMessage.text.injEq] at h
          obtain ⟨-, rfl, rfl⟩ := h
          dsimp only
          omega
        · dsimp only
          omega

/-- The context a finished message leaves, or the one that waits for its body. -/
theorem finishMessage_framed
    {data : Bytes} {ctx : RtspMessageParserCtx} {header : RtspMessageHeader}
    (hshort : data.length < 2 ^ 63) (hctx : ctx.header = some header)
    (hpos : 0 < ctx.headerLen) (hle : ctx.headerLen ≤ data.length)
    (hbody : ctx.bodyLen = sizeOfInt header.contentLength)
    (hframe : data.head? ≠ some 0x24) :
    Receiver.Framed
      { buf := rtspBufferRemoveFirstBytes (finishMessage data ctx header).data
          (finishMessage data ctx header).totalLen
        ctx := (finishMessage data ctx header).ctx } := by
  unfold finishMessage
  dsimp only
  split
  next hwait =>
    have hheader : ∀ header', ctx.header = some header' → header' = header := by
      intro header' h
      rw [hctx] at h
      exact (Option.some.inj h).symm
    exact
      { short := by simpa [rtspBufferRemoveFirstBytes] using hshort
        headerLen_pos := fun _ => hpos
        headerLen_le := fun _ => by simpa [rtspBufferRemoveFirstBytes] using hle
        bodyLen_eq := fun header' h => by rw [hheader header' h]; exact hbody
        notFrame := fun _ => by simpa [rtspBufferRemoveFirstBytes] using hframe
        waiting := fun _ => by dsimp only; omega }
  next =>
    refine .of_unknown ?_ rfl
    simp only [rtspBufferRemoveFirstBytes, List.length_drop]
    omega

/-! ## Reachable calls -/

/-- Everything a call on a framed buffer can do. -/
theorem rtspGetNextMessage_cases
    {r : Receiver} {next : NextMessage}
    (hnext : rtspGetNextMessage E P r.buf r.ctx = .ok next) :
    (∃ channel payload, rtspParseInterleaved r.buf = .ok (channel, payload) ∧
        next = { result := .ok (.interleaved channel payload)
                 totalLen := 4 + payload.length, ctx := r.ctx, data := r.buf }) ∨
      (rtspParseInterleaved r.buf = .error .eagain ∧
        next = { result := .error .eagain, ctx := r.ctx, data := r.buf }) ∨
      (rtspParseInterleaved r.buf = .error .einval ∧
        ∃ header, r.ctx.header = some header ∧ next = finishMessage r.buf r.ctx header) ∨
      (rtspParseInterleaved r.buf = .error .einval ∧ r.ctx.header = none ∧
        findDoubleNewline r.buf = none ∧
        next = { result := .error .eagain, ctx := r.ctx, data := r.buf }) ∨
      (rtspParseInterleaved r.buf = .error .einval ∧ r.ctx.header = none ∧
        ∃ p n, findDoubleNewline r.buf = some (p, n) ∧
          ((∃ e, readMessageHeader P (r.buf.take (p + n)) = .error (.errno e) ∧
            next = { result := .error e, totalLen := p + n, ctx := { headerLen := p + n }
                     data := E.edit r.buf (p + n) }) ∨
          ∃ header, readMessageHeader P (r.buf.take (p + n)) = .ok header ∧
            next = finishMessage (E.edit r.buf (p + n))
              { header := some header, bodyLen := sizeOfInt header.contentLength
                headerLen := p + n } header)) := by
  unfold rtspGetNextMessage at hnext
  split at hnext
  next channel payload hparse =>
    exact .inl ⟨channel, payload, hparse, (Except.ok.inj hnext).symm⟩
  next hparse => exact .inr (.inl ⟨hparse, (Except.ok.inj hnext).symm⟩)
  next e hne hparse =>
    have heinval : e = .einval :=
      (parseInterleaved_error hparse).resolve_left hne
    subst heinval
    refine .inr (.inr ?_)
    split at hnext
    next header hctx =>
      exact .inl ⟨hparse, header, hctx, (Except.ok.inj hnext).symm⟩
    next hctx =>
      split at hnext
      next hfind => exact .inr (.inl ⟨hparse, hctx, hfind, (Except.ok.inj hnext).symm⟩)
      next p n hfind =>
        refine .inr (.inr ⟨hparse, hctx, p, n, hfind, ?_⟩)
        dsimp only at hnext
        split at hnext
        next => simp at hnext
        next e he => exact .inl ⟨e, he, (Except.ok.inj hnext).symm⟩
        next header hheader => exact .inr ⟨header, hheader, (Except.ok.inj hnext).symm⟩

/-- A text that reads as a request does not start with a dollar sign. -/
theorem head_ne_dollar_of_requestRead
    {data : Bytes} {header : RtspRequestHeader}
    (hread : rtspRequestHeaderRead P data = .ok header) : data.head? ≠ some 0x24 := by
  rw [rtspRequestHeaderRead_eq] at hread
  obtain ⟨line, lines, header₀, -, hlines, hline, -⟩ := readLines_ok hread
  obtain ⟨m, hm, hmethod⟩ := requestLineRead_ok hline
  unfold headerLines at hlines
  split at hlines
  next => simp at hlines
  next p n hfind =>
    simp only [Option.map_eq_some_iff, Prod.mk.injEq] at hlines
    obtain ⟨line', hfirst, rfl, -⟩ := hlines
    intro hdollar
    cases data with
    | nil => simp at hdollar
    | cons b data =>
        simp only [List.head?_cons, Option.some.injEq] at hdollar
        subst hdollar
        cases p with
        | zero => simp [firstToken, strtok] at hfirst
        | succ p =>
            rw [List.take_succ_cons, firstToken_cons (by decide)] at hfirst
            cases hfirst
            rw [firstToken_cons (by decide)] at hmethod
            have hhead : (rtspMethodTypeStr m).head? = some 0x24 := by
              rw [← Option.some.inj hmethod]
              rfl
            have hall : ∀ m ∈ rtspMethods, (rtspMethodTypeStr m).head? ≠ some 0x24 := by
              decide
            exact hall m hm hhead

/-- Neither does a text that reads as a header of either kind. -/
theorem head_ne_dollar_of_read
    {data : Bytes} {header : RtspMessageHeader}
    (hread : readMessageHeader P data = .ok header) : data.head? ≠ some 0x24 := by
  unfold readMessageHeader at hread
  split at hread
  next hversion =>
    intro hdollar
    cases data with
    | nil => simp at hdollar
    | cons b data =>
        simp only [List.head?_cons, Option.some.injEq] at hdollar
        subst hdollar
        have heq : (0x24 :: data).take rtspVersion.length = rtspVersion := by
          simpa [strncmpEq] using hversion.2
        have hhead := congrArg List.head? heq
        exact absurd hhead (by simp [rtspVersion, ascii])
  next =>
    cases hrequest : rtspRequestHeaderRead P data with
    | error stop => simp [hrequest] at hread
    | ok header' => exact head_ne_dollar_of_requestRead P hrequest

theorem head?_take_of_pos {data : Bytes} {n : Nat} (hn : 0 < n) :
    (data.take n).head? = data.head? := by
  cases n with
  | zero => omega
  | succ n => cases data <;> rfl

/-- The header read at the front of the buffer, as a kept context. -/
theorem framed_of_read
    {data : Bytes} (hshort : data.length < 2 ^ 63) {p n : Nat}
    (hfind : findDoubleNewline data = some (p, n)) {header : RtspMessageHeader}
    (hread : readMessageHeader P (data.take (p + n)) = .ok header) :
    (E.edit data (p + n)).length < 2 ^ 63 ∧ 0 < p + n ∧
      p + n ≤ (E.edit data (p + n)).length ∧
      (E.edit data (p + n)).head? ≠ some 0x24 := by
  have hbounds := findDoubleNewline_bounds hfind
  have hhead := head_ne_dollar_of_read P hread
  rw [head?_take_of_pos (by omega)] at hhead
  simp only [HeaderEdit.length_edit]
  exact ⟨hshort, by omega, hbounds.2, E.edit_head? hhead⟩

theorem Receiver.Framed.call
    {r : Receiver} (hr : r.Framed) {next : NextMessage}
    (hnext : rtspGetNextMessage E P r.buf r.ctx = .ok next) :
    Receiver.Framed
      { buf := rtspBufferRemoveFirstBytes next.data next.totalLen, ctx := next.ctx } := by
  have hshort := hr.short
  rcases rtspGetNextMessage_cases E P hnext with
    ⟨channel, payload, hparse, rfl⟩ | ⟨hparse, rfl⟩ | ⟨hparse, header, hctx, rfl⟩ |
      ⟨hparse, hctx, hfind, rfl⟩ |
      ⟨hparse, hctx, p, n, hfind, ⟨e, hread, rfl⟩ | ⟨header, hread, rfl⟩⟩
  · refine .of_unknown ?_ ?_
    · simp only [rtspBufferRemoveFirstBytes, List.length_drop]
      omega
    · by_contra hheader
      rw [parseInterleaved_not_frame (hr.notFrame hheader)] at hparse
      simp at hparse
  · simpa [rtspBufferRemoveFirstBytes] using hr
  · have hheader : r.ctx.header ≠ none := by simp [hctx]
    exact finishMessage_framed hshort hctx (hr.headerLen_pos hheader)
      (hr.headerLen_le hheader) (hr.bodyLen_eq header hctx) (hr.notFrame hheader)
  · simpa [rtspBufferRemoveFirstBytes] using hr
  · refine .of_unknown ?_ rfl
    simp only [rtspBufferRemoveFirstBytes, List.length_drop, HeaderEdit.length_edit]
    omega
  · obtain ⟨hshort', hpos, hle, hframe⟩ := framed_of_read E P hshort hfind hread
    exact finishMessage_framed hshort' rfl hpos hle rfl hframe

theorem Receiver.Framed.append
    {r : Receiver} (hr : r.Framed) {chunk : Bytes}
    (hlength : (r.buf ++ chunk).length < 2 ^ 63) :
    Receiver.Framed { r with buf := r.buf ++ chunk } where
  short := hlength
  headerLen_pos := hr.headerLen_pos
  headerLen_le h := by
    have := hr.headerLen_le h
    simp only [List.length_append]
    omega
  bodyLen_eq := hr.bodyLen_eq
  notFrame h := by
    have hhead := hr.notFrame h
    have hpos := hr.headerLen_pos h
    have hle := hr.headerLen_le h
    cases hbuf : r.buf with
    | nil => simp [hbuf] at hle; omega
    | cons b buf => simpa [hbuf] using hhead
  waiting := hr.waiting

theorem Receiver.Reachable.framed {r : Receiver} (hr : Receiver.Reachable E P r) :
    r.Framed := by
  induction hr with
  | init => exact .of_unknown (by simp) rfl
  | append _ chunk hlength ih => exact ih.append hlength
  | call _ hnext ih => exact ih.call E P hnext

/-! ## The bounds -/

theorem pendingHeader_of_ctx {data : Bytes} {ctx : RtspMessageParserCtx}
    {header : RtspMessageHeader} (hctx : ctx.header = some header) :
    pendingHeader P data ctx = some (header, ctx.headerLen) := by
  simp [pendingHeader, hctx]

theorem lengthWraps_iff_of_pending
    {data : Bytes} {ctx : RtspMessageParserCtx} {header : RtspMessageHeader} {headerLen : Nat}
    (hparse : rtspParseInterleaved data = .error .einval)
    (hpending : pendingHeader P data ctx = some (header, headerLen)) :
    LengthWraps P data ctx ↔
      header.contentLength.toInt < 0 ∧ -header.contentLength.toInt ≤ headerLen := by
  constructor
  · rintro ⟨-, header', headerLen', hpending', hwraps⟩
    rw [hpending] at hpending'
    cases hpending'
    exact hwraps
  · intro hwraps
    exact ⟨hparse, header, headerLen, hpending, hwraps⟩

theorem not_lengthWraps_of_pending_none
    {data : Bytes} {ctx : RtspMessageParserCtx} (hpending : pendingHeader P data ctx = none) :
    ¬ LengthWraps P data ctx := by
  rintro ⟨-, header, headerLen, hsome, -⟩
  rw [hpending] at hsome
  simp at hsome

/-- A call on a framed buffer is well framed exactly when the header it works
with does not make the lengths wrap. -/
theorem Receiver.Framed.wellFramed_iff
    {r : Receiver} (hr : r.Framed) {next : NextMessage}
    (hnext : rtspGetNextMessage E P r.buf r.ctx = .ok next) :
    next.WellFramed r.buf.length ↔ ¬ LengthWraps P r.buf r.ctx := by
  have hshort := hr.short
  rcases rtspGetNextMessage_cases E P hnext with
    ⟨channel, payload, hparse, rfl⟩ | ⟨hparse, rfl⟩ | ⟨hparse, header, hctx, rfl⟩ |
      ⟨hparse, hctx, hfind, rfl⟩ |
      ⟨hparse, hctx, p, n, hfind, ⟨e, hread, rfl⟩ | ⟨header, hread, rfl⟩⟩
  · have hbounds := parseInterleaved_ok hparse
    refine iff_of_true ⟨by simp, ?_, fun _ => ⟨by dsimp only; omega, hbounds.1⟩⟩ ?_
    · intro channel' payload' h
      simp only [Except.ok.injEq, RtspMessage.interleaved.injEq] at h
      rw [h.2]
    · rintro ⟨hparse', -⟩
      rw [hparse] at hparse'
      simp at hparse'
  · refine iff_of_true ⟨by simp, by simp, by simp⟩ ?_
    rintro ⟨hparse', -⟩
    rw [hparse] at hparse'
    simp at hparse'
  · have hheader : r.ctx.header ≠ none := by simp [hctx]
    rw [lengthWraps_iff_of_pending P hparse (pendingHeader_of_ctx P hctx)]
    exact finishMessage_wellFramed_iff hshort (hr.headerLen_pos hheader)
      (hr.headerLen_le hheader) (hr.bodyLen_eq header hctx)
  · refine iff_of_true ⟨by simp, by simp, by simp⟩ (not_lengthWraps_of_pending_none P ?_)
    simp [pendingHeader, hctx, hfind]
  · have hbounds := findDoubleNewline_bounds hfind
    refine iff_of_true ⟨by simp, by simp, fun _ => ?_⟩ (not_lengthWraps_of_pending_none P ?_)
    · dsimp only
      omega
    · simp [pendingHeader, hctx, hfind, hread]
  · obtain ⟨hshort', hpos, hle, -⟩ := framed_of_read E P hshort hfind hread
    have hpending : pendingHeader P r.buf r.ctx = some (header, p + n) := by
      simp [pendingHeader, hctx, hfind, hread]
    rw [lengthWraps_iff_of_pending P hparse hpending]
    rw [← E.length_edit r.buf (p + n)]
    exact finishMessage_wellFramed_iff hshort' hpos hle rfl

/-- With `WellFramed`, everything but a wait for more data shrinks the buffer. -/
theorem NextMessage.WellFramed.shrinks
    {r : Receiver} {next : NextMessage}
    (hnext : rtspGetNextMessage E P r.buf r.ctx = .ok next)
    (hframed : next.WellFramed r.buf.length) (hresult : next.result ≠ .error .eagain) :
    (rtspBufferRemoveFirstBytes next.data next.totalLen).length < r.buf.length := by
  have hprogress := hframed.progress hresult
  have hlength : next.data.length = r.buf.length := by
    rcases rtspGetNextMessage_cases E P hnext with
      ⟨channel, payload, hparse, rfl⟩ | ⟨hparse, rfl⟩ | ⟨hparse, header, hctx, rfl⟩ |
        ⟨hparse, hctx, hfind, rfl⟩ |
        ⟨hparse, hctx, p, n, hfind, ⟨e, hread, rfl⟩ | ⟨header, hread, rfl⟩⟩
    all_goals simp [finishMessage_data]
  simp only [rtspBufferRemoveFirstBytes, List.length_drop]
  omega

/-! ## The loop ends -/

/-- Bytes left to remove or to overwrite. -/
def bufferMeasure (buf : Bytes) : Nat :=
  buf.length + HeaderEdit.nonNul buf

theorem bufferMeasure_lt_receiveFuel (buf : Bytes) : bufferMeasure buf < receiveFuel buf := by
  have hle : HeaderEdit.nonNul buf ≤ buf.length := List.countP_le_length
  unfold bufferMeasure receiveFuel
  omega

theorem bufferMeasure_drop_le (buf : Bytes) (n : Nat) :
    bufferMeasure (buf.drop n) + min n buf.length ≤ bufferMeasure buf := by
  have hcount : HeaderEdit.nonNul (buf.drop n) ≤ HeaderEdit.nonNul buf :=
    (List.drop_sublist n buf).countP_le
  unfold bufferMeasure
  rw [List.length_drop]
  omega

theorem finishMessage_ok
    {data : Bytes} {ctx : RtspMessageParserCtx} {header : RtspMessageHeader}
    {message : RtspMessage} (h : (finishMessage data ctx header).result = .ok message) :
    (ctx.bodyLen + ctx.headerLen) % 2 ^ 64 ≤ data.length ∧
      (finishMessage data ctx header).totalLen = (ctx.bodyLen + ctx.headerLen) % 2 ^ 64 := by
  unfold finishMessage at h ⊢
  dsimp only at h ⊢
  split at h
  next => simp at h
  next hfits =>
    rw [if_neg hfits]
    exact ⟨by omega, rfl⟩

/-- A message that is handed out costs the buffer a byte, removed or overwritten. -/
theorem Receiver.Framed.measure_lt
    {r : Receiver} (hr : r.Framed) {next : NextMessage} {message : RtspMessage}
    (hnext : rtspGetNextMessage E P r.buf r.ctx = .ok next)
    (hmessage : next.result = .ok message) :
    bufferMeasure (rtspBufferRemoveFirstBytes next.data next.totalLen) <
      bufferMeasure r.buf := by
  unfold rtspBufferRemoveFirstBytes
  have hdrop := bufferMeasure_drop_le next.data next.totalLen
  rcases rtspGetNextMessage_cases E P hnext with
    ⟨channel, payload, hparse, rfl⟩ | ⟨hparse, rfl⟩ | ⟨hparse, header, hctx, rfl⟩ |
      ⟨hparse, hctx, hfind, rfl⟩ |
      ⟨hparse, hctx, p, n, hfind, ⟨e, hread, rfl⟩ | ⟨header, hread, rfl⟩⟩
  · have hbounds := parseInterleaved_ok hparse
    dsimp only at hdrop ⊢
    omega
  · simp at hmessage
  · have hheader : r.ctx.header ≠ none := by simp [hctx]
    have hwaiting := hr.waiting hheader
    have hle := hr.headerLen_le hheader
    have hpos := hr.headerLen_pos hheader
    obtain ⟨hfits, htotal⟩ := finishMessage_ok hmessage
    rw [htotal, finishMessage_data] at hdrop ⊢
    omega
  · simp at hmessage
  · simp at hmessage
  · have hlt := E.nonNul_edit_lt hfind
    have hlength := E.length_edit r.buf (p + n)
    rw [finishMessage_data] at hdrop ⊢
    unfold bufferMeasure at *
    omega

/-- More fuel than the buffer has bytes to lose changes nothing. -/
theorem receiveLoop_fuel
    {fuel fuel' : Nat} {r : Receiver} (hr : r.Framed) (hfuel : bufferMeasure r.buf < fuel)
    (hfuel' : bufferMeasure r.buf < fuel') :
    receiveLoop E P fuel r = receiveLoop E P fuel' r := by
  induction fuel generalizing fuel' r with
  | zero => omega
  | succ fuel ih =>
      cases fuel' with
      | zero => omega
      | succ fuel' =>
          unfold receiveLoop
          cases hnext : rtspGetNextMessage E P r.buf r.ctx with
          | error f => rfl
          | ok next =>
              dsimp only
              cases hresult : next.result with
              | error e => rfl
              | ok message =>
                  have hlt := hr.measure_lt E P hnext hresult
                  dsimp only
                  have hless := ih (hr.call E P hnext)
                    (show bufferMeasure _ < fuel by dsimp only; omega)
                    (show bufferMeasure _ < fuel' by dsimp only; omega)
                  rw [hless]

/-! ## Framing bounds -/

/-- On every reachable buffer and context, a call keeps to the bounds exactly
when the lengths of the header at the front do not wrap, and it then shrinks
the buffer unless it waits for data.  The receive loop ends in every case. -/
theorem framingBounds_iff
    {r : Receiver} (hr : Receiver.Reachable E P r) :
    (∀ next, rtspGetNextMessage E P r.buf r.ctx = .ok next →
      (next.WellFramed r.buf.length ↔ ¬ LengthWraps P r.buf r.ctx) ∧
        (¬ LengthWraps P r.buf r.ctx → next.result ≠ .error .eagain →
          (rtspBufferRemoveFirstBytes next.data next.totalLen).length < r.buf.length)) ∧
      ∀ fuel, receiveFuel r.buf ≤ fuel →
        receiveLoop E P fuel r = receiveLoop E P (receiveFuel r.buf) r := by
  have hframed := hr.framed
  have hfuel := bufferMeasure_lt_receiveFuel r.buf
  refine ⟨fun next hnext => ⟨hframed.wellFramed_iff E P hnext, fun hwraps hresult => ?_⟩,
    fun fuel hle => receiveLoop_fuel E P hframed (by omega) hfuel⟩
  exact ((hframed.wellFramed_iff E P hnext).mpr hwraps).shrinks E P hnext hresult

end Platform

def optionsRequest : Bytes :=
  ascii "OPTIONS * RTSP/1.0\r\n\r\n"

theorem optionsRequest_not_lengthWraps : ¬ LengthWraps .bare optionsRequest {} := by
  rintro ⟨-, header, headerLen, hpending, hneg, -⟩
  have heq : pendingHeader .bare optionsRequest {} =
      some (.request { method := .options, uri := some (ascii "*") }, 22) := by
    decide +kernel
  rw [heq] at hpending
  cases hpending
  exact absurd hneg (by decide)

theorem framingBounds_optionsRequest :
    (∃ next, rtspGetNextMessage .words .bare optionsRequest {} = .ok next ∧
        next.WellFramed optionsRequest.length) ∧
      ∀ fuel, receiveFuel optionsRequest ≤ fuel →
        receiveLoop .words .bare fuel { buf := optionsRequest } =
          receiveLoop .words .bare (receiveFuel optionsRequest) { buf := optionsRequest } := by
  have hr : Receiver.Reachable .words .bare { buf := optionsRequest } :=
    .append .init optionsRequest (by decide)
  obtain ⟨hcall, hfuel⟩ := framingBounds_iff .words .bare hr
  obtain ⟨next, hnext⟩ :
      ∃ next, rtspGetNextMessage .words .bare optionsRequest {} = .ok next := ⟨_, rfl⟩
  exact ⟨⟨next, hnext, (hcall next hnext).1.mpr optionsRequest_not_lengthWraps⟩, hfuel⟩

/-- `Content-Length: -1` -/
def negativeLengthRequest : Bytes :=
  ascii "OPTIONS * RTSP/1.0\r\nContent-Length: -1\r\n\r\n"

def negativeLengthHeader : RtspRequestHeader where
  method := .options
  uri := some (ascii "*")
  contentLength := -1

theorem readMessageHeader_negativeLength (P : Platform) :
    readMessageHeader P (negativeLengthRequest.take 42) =
      .ok (.request negativeLengthHeader) := rfl

/-- Read at the front of a fresh buffer, it is returned as a message of 41 bytes
with more body than the buffer has bytes. -/
theorem negativeLengthRequest_not_wellFramed :
    Receiver.Reachable .words .bare { buf := negativeLengthRequest } ∧
      ∃ next, rtspGetNextMessage .words .bare negativeLengthRequest {} = .ok next ∧
        next.result = .ok (.text (.request negativeLengthHeader) 42 (2 ^ 64 - 1)) ∧
        next.totalLen = 41 ∧ ¬ next.WellFramed negativeLengthRequest.length := by
  refine ⟨.append .init negativeLengthRequest (by decide), ?_⟩
  have hparse : rtspParseInterleaved negativeLengthRequest = .error .einval := rfl
  have hfind : findDoubleNewline negativeLengthRequest = some (38, 4) := by decide
  have hnext : rtspGetNextMessage .words .bare negativeLengthRequest {} =
      .ok (finishMessage (HeaderEdit.words.edit negativeLengthRequest 42)
        { header := some (.request negativeLengthHeader)
          bodyLen := sizeOfInt negativeLengthHeader.contentLength
          headerLen := 42 } (.request negativeLengthHeader)) := by
    simp only [rtspGetNextMessage, hparse, hfind, readMessageHeader_negativeLength .bare]
    rfl
  have hfits : ¬ (HeaderEdit.words.edit negativeLengthRequest 42).length <
      (sizeOfInt negativeLengthHeader.contentLength + 42) % 2 ^ 64 := by
    rw [HeaderEdit.length_edit]
    decide
  have hresult : finishMessage (HeaderEdit.words.edit negativeLengthRequest 42)
      { header := some (.request negativeLengthHeader)
        bodyLen := sizeOfInt negativeLengthHeader.contentLength
        headerLen := 42 } (.request negativeLengthHeader) =
      { result := .ok (.text (.request negativeLengthHeader) 42 (2 ^ 64 - 1))
        totalLen := 41
        ctx := { headerLen := 42 }
        data := HeaderEdit.words.edit negativeLengthRequest 42 } := by
    simp only [finishMessage, if_neg hfits]
    rfl
  refine ⟨_, hnext, ?_⟩
  rw [hresult]
  refine ⟨rfl, rfl, fun hframed => ?_⟩
  have hsum := hframed.text _ _ _ rfl
  dsimp only at hsum
  omega

end Librtsp
