import Librtsp.Reassembly

/-!
# A malformed message between well-formed ones

A text message whose header cannot be read stands somewhere in a stream of
well-formed text messages.  The receive loop drops its header and stops there:
the bytes behind it are looked at when the next chunk arrives, beginning with
the body of the malformed message.  Behind a NUL the end of the header is not
found at all.
-/

namespace Librtsp

open CString

section Platform

variable {P : Platform}

/-! ## The stream -/

/-- A text message that no reader accepts, with the body its header announces. -/
structure BadMessage (P : Platform) where
  lines : List Bytes
  body : Bytes
  nonempty : lines ≠ []
  clean : ∀ line ∈ lines, line ≠ [] ∧ ∀ b ∈ line, b ≠ 0x0d ∧ b ≠ 0x0a
  notFrame : (joinLines lines).head? ≠ some 0x24
  unreadable : 0 ∈ joinLines lines ∨
    ∃ e, readMessageHeader P (joinLines lines ++ rtspCrlf) = .error (.errno e)
  announced : body ≠ [] → ascii "Content-Length: " ++ formatNat body.length ∈ lines

namespace BadMessage

variable (bad : BadMessage P)

def text : Bytes :=
  joinLines bad.lines ++ rtspCrlf

def wire : Bytes :=
  bad.text ++ bad.body

end BadMessage

def WireText.wire (t : WireText P) : Bytes :=
  t.text ++ t.body

def WireText.delivery (t : WireText P) : Delivery :=
  .text t.header t.body

def textWires (ts : List (WireText P)) : Bytes :=
  (ts.map WireText.wire).flatten

def textDeliveries (ts : List (WireText P)) : List ReceiveEvent :=
  ts.map fun t => .deliver t.delivery

def ReceiveEvent.delivery? : ReceiveEvent → Option Delivery
  | .deliver message => some message
  | .skip _ _ => none

/-- The messages whose last byte is among the first `n` bytes; an item without a message is
only counted. -/
def arrived : List (Bytes × Option Delivery) → Nat → List Delivery
  | [], _ => []
  | (wire, message) :: items, n =>
      if wire.length ≤ n then message.toList ++ arrived items (n - wire.length) else []

/-- The stream as items: the malformed message carries no delivery. -/
def streamItems (before : List (WireText P)) (bad : BadMessage P) (after : List (WireText P)) :
    List (Bytes × Option Delivery) :=
  before.map (fun t => (t.wire, some t.delivery)) ++
    (bad.wire, none) :: after.map fun t => (t.wire, some t.delivery)

variable (E : HeaderEdit)

/-- The malformed message is dropped whole, and each well-formed one is delivered once, in
order, when its last byte has arrived. -/
structure NeighboursUndisturbed (before : List (WireText P)) (bad : BadMessage P)
    (after : List (WireText P)) (chunks : List Bytes) : Prop where
  whole : ∃ e r, receiveChunks E P {} chunks =
    .ok (textDeliveries before ++ .skip e bad.wire.length :: textDeliveries after, r)
  prompt : ∀ first later, chunks = first ++ later → ∃ events r,
    receiveChunks E P {} first = .ok (events, r) ∧
      events.filterMap ReceiveEvent.delivery? =
        arrived (streamItems before bad after) first.flatten.length

/-- A chunk brings the last byte of the malformed header and that of the message behind it. -/
def HeldBack (before : List (WireText P)) (bad : BadMessage P) (after : List (WireText P))
    (chunks : List Bytes) : Prop :=
  ∃ next rest first chunk later, after = next :: rest ∧ chunks = first ++ chunk :: later ∧
    first.flatten.length < (textWires before ++ bad.text).length ∧
    (textWires before ++ (bad.text ++ next.wire)).length ≤ (first.flatten ++ chunk).length

/-! ## The loop on text messages -/

@[simp] theorem textWires_nil : textWires ([] : List (WireText P)) = [] := rfl

@[simp] theorem textWires_cons (t : WireText P) (ts : List (WireText P)) :
    textWires (t :: ts) = t.wire ++ textWires ts := by
  simp [textWires]

@[simp] theorem textWires_append (ts ts' : List (WireText P)) :
    textWires (ts ++ ts') = textWires ts ++ textWires ts' := by
  simp [textWires]

theorem WireText.wire_pos (t : WireText P) : 0 < t.wire.length := by
  have hpos := t.text_pos
  unfold WireText.wire
  rw [List.length_append]
  omega

/-- The receiver has kept `held`, as it came or with the first header read. -/
inductive TextHolds : Receiver → Bytes → List (WireText P) → Prop
  | fresh {ctx : RtspMessageParserCtx} {held : Bytes} {ts : List (WireText P)}
      (hctx : ctx.header = none) : TextHolds { buf := held, ctx } held ts
  | waiting {ts : List (WireText P)} (t : WireText P) (tail : Bytes) :
      TextHolds { buf := E.run t.text ++ tail, ctx := t.waiting } (t.text ++ tail) (t :: ts)

theorem TextHolds.append {r : Receiver} {held : Bytes} {ts : List (WireText P)}
    (h : TextHolds E r held ts) (chunk : Bytes) :
    TextHolds E { r with buf := r.buf ++ chunk } (held ++ chunk) ts := by
  cases h with
  | fresh hctx => exact .fresh hctx
  | waiting t tail =>
      simp only [List.append_assoc]
      exact .waiting t (tail ++ chunk)

theorem TextHolds.length_eq {r : Receiver} {held : Bytes} {ts : List (WireText P)}
    (h : TextHolds E r held ts) : r.buf.length = held.length := by
  cases h with
  | fresh hctx => rfl
  | waiting t tail => simp

/-- The call on a receiver that holds a whole header. -/
theorem getNext_holds_text {r : Receiver} {t : WireText P} {tail : Bytes} {ts : List (WireText P)}
    (h : TextHolds E r (t.text ++ tail) (t :: ts)) :
    rtspGetNextMessage E P r.buf r.ctx =
      .ok (finishMessage (E.run t.text ++ tail) t.waiting t.header) := by
  generalize hheld : t.text ++ tail = held at h
  cases h with
  | fresh hctx =>
      rw [← hheld]
      exact getNext_text_fresh E t tail hctx
  | waiting t tail' =>
      rw [List.append_cancel_left_eq] at hheld
      subst hheld
      exact getNext_text_waiting E t tail

/-- A complete message is delivered, and the loop goes on behind it. -/
theorem receiveLoop_complete {r : Receiver} {t : WireText P} {more : Bytes}
    {ts : List (WireText P)} (h : TextHolds E r (t.wire ++ more) (t :: ts)) (fuel : Nat) :
    receiveLoop E P (fuel + 1) r =
      match receiveLoop E P fuel { buf := more, ctx := { headerLen := t.text.length } } with
      | .error f => .error f
      | .ok (events, r') => .ok (.deliver t.delivery :: events, r') := by
  unfold WireText.wire at h
  rw [List.append_assoc] at h
  have hcall := getNext_holds_text E h
  have hmessage : (RtspMessage.text t.header t.text.length t.body.length).delivery
      (E.run t.text ++ (t.body ++ more)) = t.delivery := by
    dsimp only [RtspMessage.delivery]
    rw [drop_run, List.take_left]
    rfl
  have hremove : rtspBufferRemoveFirstBytes (E.run t.text ++ (t.body ++ more))
      (t.text.length + t.body.length) = more := by
    unfold rtspBufferRemoveFirstBytes
    rw [← List.drop_drop, drop_run, List.drop_left]
  rw [receiveLoop, hcall, finish_complete]
  dsimp only
  cases hrest : receiveLoop E P fuel
      { buf := more, ctx := { headerLen := t.text.length } } with
  | error f => rw [hremove, hrest]
  | ok result => rw [hremove, hmessage, hrest]

/-- An incomplete message is kept. -/
theorem receiveLoop_incomplete {r : Receiver} {t : WireText P} {held post : Bytes}
    {ts : List (WireText P)} (h : TextHolds E r held (t :: ts)) (hcut : t.wire = held ++ post)
    (hpost : post ≠ []) (fuel : Nat) :
    ∃ r', receiveLoop E P (fuel + 1) r = .ok ([], r') ∧ TextHolds E r' held (t :: ts) := by
  rcases stream_cases (show held ++ post = t.text ++ t.body from hcut.symm) with
    ⟨tail, rfl, hbody⟩ | ⟨post', hpost', htext⟩
  · have hshort : tail.length < t.body.length := by
      have hpos := List.length_pos_iff.mpr hpost
      rw [← hbody, List.length_append]
      omega
    refine ⟨_, ?_, .waiting t tail⟩
    rw [receiveLoop, getNext_holds_text E h, finish_short E t hshort]
    rfl
  · cases h with
    | fresh hctx =>
        refine ⟨_, ?_, .fresh hctx⟩
        rw [receiveLoop, getNext_text_cut E htext hpost' hctx]
        rfl
    | waiting t tail =>
        have hlength := congrArg List.length htext
        have hpos := List.length_pos_iff.mpr hpost'
        simp only [List.length_append] at hlength
        omega

/-! ## Where the loop waits -/

/-- Texts a receiver without a header waits on, closed under cutting them shorter. -/
structure Waits (stop : Bytes → Prop) : Prop where
  closed : ∀ pre post, stop (pre ++ post) → stop pre
  wait : ∀ held ctx, stop held → ctx.header = none →
    rtspGetNextMessage E P held ctx = .ok { result := .error .eagain, ctx, data := held }

/-- Less than the first message, or a text the receiver waits on. -/
def Unfinished (stop : Bytes → Prop) (held : Bytes) : List (WireText P) → Prop
  | [] => stop held
  | t :: _ => ∃ post, post ≠ [] ∧ t.wire = held ++ post

variable {E} {stop : Bytes → Prop}

/-- The loop delivers the complete messages it holds and waits behind them. -/
theorem receiveLoop_stream (hstop : Waits (P := P) E stop) {ts : List (WireText P)} {r : Receiver}
    {held future tail : Bytes} (h : TextHolds E r held ts)
    (hstream : held ++ future = textWires ts ++ tail) (htail : stop tail) {fuel : Nat}
    (hfuel : held.length < fuel) :
    ∃ done rest held' r', ts = done ++ rest ∧ held = textWires done ++ held' ∧
      Unfinished stop held' rest ∧ receiveLoop E P fuel r = .ok (textDeliveries done, r') ∧
      TextHolds E r' held' rest := by
  induction ts generalizing r held fuel with
  | nil =>
      cases fuel with
      | zero => omega
      | succ fuel =>
          cases h with
          | fresh hctx =>
              rw [textWires_nil, List.nil_append] at hstream
              have hwait := hstop.closed held future (hstream ▸ htail)
              refine ⟨[], [], held, _, rfl, rfl, hwait, ?_, .fresh hctx⟩
              rw [receiveLoop, hstop.wait _ _ hwait hctx]
              rfl
  | cons t ts ih =>
      cases fuel with
      | zero => omega
      | succ fuel =>
          rw [textWires_cons, List.append_assoc] at hstream
          rcases stream_cases hstream with ⟨more, rfl, hrest⟩ | ⟨post, hpost, hcut⟩
          · have hpos := t.wire_pos
            rw [List.length_append] at hfuel
            obtain ⟨done, rest, held', r', rfl, rfl, hunfinished, hloop, hholds⟩ :=
              ih (@TextHolds.fresh P E { headerLen := t.text.length } _ _ rfl) hrest
                (show more.length < fuel by omega)
            refine ⟨t :: done, rest, held', r', rfl, by simp, hunfinished, ?_, hholds⟩
            rw [receiveLoop_complete E h, hloop]
            rfl
          · obtain ⟨r', hloop, hholds⟩ := receiveLoop_incomplete E h hcut hpost fuel
            exact ⟨[], t :: ts, held, r', rfl, rfl, ⟨post, hpost, hcut⟩, hloop, hholds⟩

theorem receiveChunks_append (r : Receiver) (first later : List Bytes) :
    receiveChunks E P r (first ++ later) =
      match receiveChunks E P r first with
      | .error f => .error f
      | .ok (events, r') =>
          match receiveChunks E P r' later with
          | .error f => .error f
          | .ok (events', r'') => .ok (events ++ events', r'') := by
  induction first generalizing r with
  | nil =>
      rw [List.nil_append, receiveChunks]
      dsimp only
      cases receiveChunks E P r later with
      | error f => rfl
      | ok result => rfl
  | cons chunk first ih =>
      rw [List.cons_append, receiveChunks, receiveChunks]
      cases receiveChunk E P r chunk with
      | error f => rfl
      | ok result =>
          obtain ⟨events, r'⟩ := result
          dsimp only
          rw [ih]
          cases receiveChunks E P r' first with
          | error f => rfl
          | ok result' =>
              obtain ⟨events', r''⟩ := result'
              dsimp only
              cases receiveChunks E P r'' later with
              | error f => rfl
              | ok result'' => simp [List.append_assoc]

/-- The same for chunk after chunk. -/
theorem receiveChunks_stream (hstop : Waits (P := P) E stop) {ts : List (WireText P)}
    {r : Receiver} {held future tail : Bytes} {chunks : List Bytes} (h : TextHolds E r held ts)
    (hunfinished : Unfinished stop held ts)
    (hstream : held ++ chunks.flatten ++ future = textWires ts ++ tail) (htail : stop tail) :
    ∃ done rest held' r', ts = done ++ rest ∧ held ++ chunks.flatten = textWires done ++ held' ∧
      Unfinished stop held' rest ∧ receiveChunks E P r chunks = .ok (textDeliveries done, r') ∧
      TextHolds E r' held' rest := by
  induction chunks generalizing r held ts with
  | nil => exact ⟨[], ts, held, r, rfl, by simp, hunfinished, rfl, h⟩
  | cons chunk chunks ih =>
      have hfuel : (held ++ chunk).length < receiveFuel (r.buf ++ chunk) := by
        unfold receiveFuel
        rw [List.length_append, List.length_append, h.length_eq]
        omega
      rw [List.flatten_cons, ← List.append_assoc] at hstream
      have hsplit : (held ++ chunk) ++ (chunks.flatten ++ future) = textWires ts ++ tail := by
        simpa [List.append_assoc] using hstream
      obtain ⟨done, rest, held', r', rfl, hheld, hunfinished', hloop, hholds⟩ :=
        receiveLoop_stream hstop (h.append E chunk) hsplit htail hfuel
      rw [hheld, textWires_append, List.append_assoc, List.append_assoc, List.append_assoc,
        List.append_cancel_left_eq, ← List.append_assoc] at hstream
      obtain ⟨done', rest', held'', r'', rfl, hheld', hunfinished'', hchunks, hholds'⟩ :=
        ih hholds hunfinished' hstream
      refine ⟨done ++ done', rest', held'', r'', by simp, ?_, hunfinished'', ?_, hholds'⟩
      · rw [List.flatten_cons, ← List.append_assoc, hheld, List.append_assoc, hheld',
          textWires_append, List.append_assoc]
      · have hchunk : receiveChunk E P r chunk = .ok (textDeliveries done, r') := hloop
        rw [receiveChunks, hchunk]
        dsimp only
        rw [hchunks]
        simp [textDeliveries]

/-! ## The malformed message -/

theorem waits_nothing : Waits (P := P) E fun held => held = [] where
  closed pre post h := (List.append_eq_nil_iff.mp h).1
  wait held ctx h hctx := by
    subst h
    simp only [rtspGetNextMessage, parseInterleaved_short (show ([] : Bytes).length < 4 by decide),
      hctx]
    rfl

namespace BadMessage

variable (bad : BadMessage P)

theorem lines_pos : 0 < (joinLines bad.lines).length := by
  obtain ⟨line, lines, hlines⟩ := List.exists_cons_of_ne_nil bad.nonempty
  rw [hlines, joinLines_cons]
  simp only [List.length_append, List.length_cons]
  omega

theorem head_ne_dollar {held post tail : Bytes} (h : bad.text ++ tail = held ++ post) :
    held.head? ≠ some 0x24 := by
  have hnot := bad.notFrame
  have hpos := bad.lines_pos
  cases held with
  | nil => simp
  | cons b held =>
      unfold text at h
      cases hlines : joinLines bad.lines with
      | nil => simp [hlines] at hpos
      | cons b' rest =>
          rw [hlines] at h hnot
          simp only [List.cons_append, List.cons.injEq] at h
          simpa [h.1] using hnot

theorem headerText (hnul : 0 ∉ bad.text) : HeaderText bad.text := by
  refine ⟨bad.lines, bad.nonempty, ?_, rfl⟩
  intro line hline
  obtain ⟨hne, hclean⟩ := bad.clean line hline
  refine ⟨hne, fun b hb => ⟨?_, hclean b hb⟩⟩
  rintro rfl
  apply hnul
  unfold text joinLines
  refine List.mem_append_left _ (List.mem_flatten.mpr ⟨line ++ rtspCrlf, ?_, ?_⟩)
  · exact List.mem_map_of_mem hline
  · exact List.mem_append_left _ hb

theorem read_error (hnul : 0 ∉ bad.text) :
    ∃ e, readMessageHeader P bad.text = .error (.errno e) := by
  rcases bad.unreadable with hmem | hread
  · exact absurd (List.mem_append_left _ hmem) hnul
  · exact hread

/-- A part of the header is kept. -/
theorem waits_text (hnul : 0 ∉ bad.text) :
    Waits (P := P) E fun held => ∃ post, post ≠ [] ∧ bad.text = held ++ post where
  closed := by
    rintro pre post ⟨post', hpost', htext⟩
    exact ⟨post ++ post', by simp [hpost'], by rw [htext, List.append_assoc]⟩
  wait := by
    rintro held ctx ⟨post, hpost, htext⟩ hctx
    have hfind := findDoubleNewline_cut (htext ▸ bad.headerText hnul) hpost
    have hhead : held.head? ≠ some 0x24 := by
      apply bad.head_ne_dollar (show bad.text ++ [] = held ++ post from ?_)
      rw [List.append_nil, htext]
    simp only [rtspGetNextMessage, parseInterleaved_not_frame hhead, hctx, hfind]

/-- The whole header is dropped, whatever follows it. -/
theorem getNext (hnul : 0 ∉ bad.text) (behind : Bytes) {ctx : RtspMessageParserCtx}
    (hctx : ctx.header = none) :
    ∃ e, rtspGetNextMessage E P (bad.text ++ behind) ctx =
      .ok { result := .error e, totalLen := bad.text.length, ctx := { headerLen := bad.text.length }
            data := E.run bad.text ++ behind } := by
  obtain ⟨e, hread⟩ := bad.read_error hnul
  have hhead : (bad.text ++ behind).head? ≠ some 0x24 := by
    apply bad.head_ne_dollar (show bad.text ++ behind = (bad.text ++ behind) ++ [] from ?_)
    rw [List.append_nil]
  obtain ⟨hfind, hlength⟩ := findDoubleNewline_headerText (bad.headerText hnul) behind
  have hsum : bad.text.length - 4 + 4 = bad.text.length := by omega
  refine ⟨e, ?_⟩
  simp only [rtspGetNextMessage, parseInterleaved_not_frame hhead, hctx, hfind, hsum,
    List.take_left, List.drop_left, hread]

end BadMessage

/-- The loop ends at the malformed message, with the bytes behind it in the buffer. -/
theorem receiveLoop_bad (bad : BadMessage P) (hnul : 0 ∉ bad.text) {ts : List (WireText P)}
    {r : Receiver} {behind : Bytes} (h : TextHolds E r (textWires ts ++ (bad.text ++ behind)) ts)
    {fuel : Nat} (hfuel : (textWires ts ++ (bad.text ++ behind)).length < fuel) :
    ∃ e, receiveLoop E P fuel r = .ok (textDeliveries ts ++ [.skip e bad.text.length],
      { buf := behind, ctx := { headerLen := bad.text.length } }) := by
  induction ts generalizing r fuel with
  | nil =>
      cases fuel with
      | zero => omega
      | succ fuel =>
          rw [textWires_nil, List.nil_append] at h
          generalize hheld : bad.text ++ behind = held at h
          cases h with
          | fresh hctx =>
              obtain ⟨e, hcall⟩ := bad.getNext (E := E) hnul behind hctx
              have hpos : bad.text.length ≠ 0 := by
                unfold BadMessage.text
                simp [rtspCrlf]
              refine ⟨e, ?_⟩
              rw [receiveLoop, ← hheld, hcall]
              dsimp only
              unfold rtspBufferRemoveFirstBytes
              rw [if_neg hpos]
              have hlength : (E.run bad.text).length = bad.text.length := by simp
              rw [← hlength, List.drop_left]
              rfl
  | cons t ts ih =>
      cases fuel with
      | zero => omega
      | succ fuel =>
          rw [textWires_cons, List.append_assoc] at h hfuel
          have hpos := t.wire_pos
          rw [List.length_append] at hfuel
          obtain ⟨e, hloop⟩ := ih (@TextHolds.fresh P E { headerLen := t.text.length } _ _ rfl)
            (show (textWires ts ++ (bad.text ++ behind)).length < fuel by omega)
          refine ⟨e, ?_⟩
          rw [receiveLoop_complete E h, hloop]
          rfl

/-! ## Behind a NUL -/

/-- A pattern without NUL is not found behind one. -/
theorem strnstrFrom_nul {c : UInt8} {find pre : Bytes} {i : Nat} (hc : 0 ≠ c) (hfind : 0 ∉ find)
    (h : strnstrFrom c find i pre = none) (more : Bytes) :
    strnstrFrom c find i (pre ++ 0 :: more) = none := by
  induction pre generalizing i with
  | nil =>
      have hmatch : ¬ (0 = c ∧ strncmpEq more find find.length = true) := fun h => hc h.1
      rw [List.nil_append, strnstrFrom, if_neg hmatch]
      simp
  | cons b pre ih =>
      by_cases hlength : find.length < (b :: pre).length
      · have htake : (pre ++ 0 :: more).take find.length = pre.take find.length := by
          rw [List.length_cons] at hlength
          rw [List.take_append_of_le_length (by omega)]
        rw [strnstrFrom, if_pos hlength] at h
        rw [List.cons_append, strnstrFrom]
        unfold strncmpEq at h ⊢
        rw [htake]
        split
        next =>
          split at h
          next => simp at h
          next hmatch =>
            rw [if_neg hmatch]
            split at h
            next hb => rw [if_pos hb]
            next hb =>
              rw [if_neg hb]
              exact ih h
        next => rfl
      · -- The pattern would reach over the NUL.
        have hmatch : ¬ (b = c ∧ strncmpEq (pre ++ 0 :: more) find find.length = true) := by
          rintro ⟨-, hsame⟩
          apply hfind
          have hsame' : (pre ++ 0 :: more).take find.length = find := by
            simpa [strncmpEq] using hsame
          rw [← hsame', List.take_append, List.mem_append]
          rw [List.length_cons] at hlength
          obtain ⟨k, hk⟩ : ∃ k, find.length - pre.length = k + 1 :=
            ⟨find.length - pre.length - 1, by omega⟩
          right
          rw [hk, List.take_succ_cons]
          exact List.mem_cons_self
        have hshort : strnstrFrom c find (i + 1) pre = none := by
          apply strnstrFrom_short
          rw [List.length_cons] at hlength
          omega
        rw [List.cons_append, strnstrFrom, if_neg hmatch, ih hshort, ite_self, ite_self]

theorem findDoubleNewline_nul {pre : Bytes} (h : findDoubleNewline pre = none) (more : Bytes) :
    findDoubleNewline (pre ++ 0 :: more) = none := by
  have hnone : ∀ newline ∈ [crlfCrlf, lfCrlfCr, lfLf, crCr],
      rtspStrnstr pre newline = none → rtspStrnstr (pre ++ 0 :: more) newline = none := by
    intro newline hmem hpre
    simp only [List.mem_cons, List.not_mem_nil, or_false] at hmem
    rcases hmem with rfl | rfl | rfl | rfl
    · exact strnstrFrom_nul (by decide) (by decide) hpre more
    · exact strnstrFrom_nul (by decide) (by decide) hpre more
    · exact strnstrFrom_nul (by decide) (by decide) hpre more
    · exact strnstrFrom_nul (by decide) (by decide) hpre more
  unfold findDoubleNewline at h ⊢
  split at h
  next => simp at h
  next hfirst =>
    split at h
    next => simp at h
    next hsecond =>
      split at h
      next => simp at h
      next hthird =>
        split at h
        next => simp at h
        next hfourth =>
          rw [hnone _ (by simp) hfirst, hnone _ (by simp) hsecond, hnone _ (by simp) hthird,
            hnone _ (by simp) hfourth]

/-- What stands before a NUL in lines: whole lines, and the beginning of one. -/
theorem lines_before_nul {lines : List Bytes}
    (hclean : ∀ line ∈ lines, line ≠ [] ∧ ∀ b ∈ line, b ≠ 0x0d ∧ b ≠ 0x0a) {pre post : Bytes}
    (hnul : 0 ∉ pre) (h : pre ++ 0 :: post = joinLines lines ++ rtspCrlf) :
    ∃ lines' part, pre = joinLines lines' ++ part ∧ (∀ line ∈ lines', CleanLine line) ∧
      ∀ b ∈ part, b ≠ 0 ∧ b ≠ 0x0d ∧ b ≠ 0x0a := by
  induction lines generalizing pre with
  | nil =>
      have hmem : (0 : UInt8) ∈ joinLines [] ++ rtspCrlf := by
        rw [← h]
        simp
      exact absurd hmem (by decide)
  | cons line lines ih =>
      obtain ⟨hne, hline⟩ := hclean line (by simp)
      rw [joinLines_cons, List.append_assoc] at h
      rcases stream_cases h with ⟨more, rfl, hmore⟩ | ⟨post', hpost', hcut⟩
      · have hlineClean : CleanLine line := by
          refine ⟨hne, fun b hb => ⟨?_, hline b hb⟩⟩
          rintro rfl
          exact hnul (List.mem_append_left _ hb)
        have hend : more ++ 0 :: post = [0x0d, 0x0a] ++ (joinLines lines ++ rtspCrlf) := hmore
        rcases stream_cases hend with ⟨more', rfl, hmore'⟩ | ⟨post', hpost', hcut⟩
        · have hnul' : 0 ∉ more' := fun hmem => hnul (by simp [hmem])
          obtain ⟨lines', part, rfl, hlines', hpart⟩ :=
            ih (fun l hl => hclean l (by simp [hl])) hnul' hmore'
          refine ⟨line :: lines', part, by simp, ?_, hpart⟩
          intro l hl
          rcases List.mem_cons.mp hl with rfl | hl
          · exact hlineClean
          · exact hlines' l hl
        · -- A line end holds no NUL.
          have hzero : (0 : UInt8) ∈ ([0x0d, 0x0a] : Bytes) := by
            rw [hcut, List.append_assoc, List.append_cancel_left_eq] at hend
            obtain ⟨b, tail, rfl⟩ := List.exists_cons_of_ne_nil hpost'
            rw [List.cons_append, List.cons.injEq] at hend
            rw [hcut, ← hend.1]
            simp
          exact absurd hzero (by decide)
      · refine ⟨[], pre, rfl, by simp, fun b hb => ⟨?_, hline b ?_⟩⟩
        · rintro rfl
          exact hnul hb
        · rw [hcut]
          exact List.mem_append_left _ hb

namespace BadMessage

variable (bad : BadMessage P)

/-- Everything is kept: no end is found in it. -/
theorem waits_nul (hnul : 0 ∈ bad.text) (tail : Bytes) :
    Waits (P := P) E fun held => ∃ post, bad.text ++ tail = held ++ post where
  closed := by
    rintro pre post ⟨post', htext⟩
    exact ⟨post ++ post', by rw [htext, List.append_assoc]⟩
  wait := by
    rintro held ctx ⟨post, htext⟩ hctx
    obtain ⟨pre, rest, hsplit, hpre⟩ := List.eq_append_cons_of_mem hnul
    obtain ⟨lines, part, rfl, hlines, hpart⟩ := lines_before_nul bad.clean hpre hsplit.symm
    -- The text before the NUL is the beginning of a header text.
    have hheader : HeaderText (joinLines lines ++ part ++ (0x78 :: (rtspCrlf ++ rtspCrlf))) := by
      refine ⟨lines ++ [part ++ [0x78]], by simp, ?_, by simp [rtspCrlf]⟩
      intro line hline
      rcases List.mem_append.mp hline with hline | hline
      · exact hlines line hline
      · rw [List.mem_singleton.mp hline]
        refine ⟨by simp, fun b hb => ?_⟩
        rcases List.mem_append.mp hb with hb | hb
        · exact hpart b hb
        · rw [List.mem_singleton.mp hb]
          decide
    have hfind : findDoubleNewline held = none := by
      have hstream : held ++ post = (joinLines lines ++ part) ++ (0 :: (rest ++ tail)) := by
        rw [← htext, hsplit]
        simp
      rcases stream_cases hstream with ⟨more, rfl, hmore⟩ | ⟨post', hpost', hcut⟩
      · cases more with
        | nil =>
            rw [List.append_nil]
            exact findDoubleNewline_cut hheader (by simp)
        | cons b more =>
            rw [List.cons_append, List.cons.injEq] at hmore
            rw [hmore.1]
            exact findDoubleNewline_nul (findDoubleNewline_cut hheader (by simp)) more
      · rw [hcut, List.append_assoc] at hheader
        exact findDoubleNewline_cut hheader (by simp)
    simp only [rtspGetNextMessage, parseInterleaved_not_frame (bad.head_ne_dollar htext), hctx,
      hfind]

end BadMessage

/-! ## What has arrived -/

theorem filterMap_textDeliveries (ts : List (WireText P)) :
    (textDeliveries ts).filterMap ReceiveEvent.delivery? = ts.map WireText.delivery := by
  induction ts with
  | nil => rfl
  | cons t ts ih =>
      rw [textDeliveries, List.map_cons, List.filterMap_cons]
      exact congrArg (List.cons t.delivery) ih

theorem arrived_append (ts : List (WireText P)) (items : List (Bytes × Option Delivery))
    (n : Nat) :
    arrived (ts.map (fun t => (t.wire, some t.delivery)) ++ items) ((textWires ts).length + n) =
      ts.map WireText.delivery ++ arrived items n := by
  induction ts with
  | nil => simp
  | cons t ts ih =>
      rw [List.map_cons, List.cons_append, arrived, textWires_cons, List.length_append,
        if_pos (by omega)]
      have hrest : t.wire.length + (textWires ts).length + n - t.wire.length =
          (textWires ts).length + n := by
        omega
      rw [hrest, ih]
      rfl

theorem arrived_short {item : Bytes × Option Delivery} {items : List (Bytes × Option Delivery)}
    {n : Nat} (h : n < item.1.length) : arrived (item :: items) n = [] := by
  rw [arrived, if_neg (by omega)]

theorem arrived_unfinished {stop : Bytes → Prop} {held : Bytes} {rest : List (WireText P)}
    (h : Unfinished stop held rest) {items : List (Bytes × Option Delivery)}
    (hitems : rest = [] → arrived items held.length = []) :
    arrived (rest.map (fun t => (t.wire, some t.delivery)) ++ items) held.length = [] := by
  cases rest with
  | nil => exact hitems rfl
  | cons t rest =>
      obtain ⟨post, hpost, hwire⟩ := h
      have hpos := List.length_pos_iff.mpr hpost
      apply arrived_short
      dsimp only
      rw [hwire, List.length_append]
      omega

/-! ## Chunk by chunk -/

/-- Some chunk brings a byte that is given by its number. -/
theorem exists_crossing {chunks : List Bytes} {n : Nat} (hn : 0 < n)
    (hchunks : n ≤ chunks.flatten.length) :
    ∃ first chunk later, chunks = first ++ chunk :: later ∧ first.flatten.length < n ∧
      n ≤ (first.flatten ++ chunk).length := by
  induction chunks generalizing n with
  | nil =>
      simp only [List.flatten_nil, List.length_nil] at hchunks
      omega
  | cons chunk chunks ih =>
      by_cases hfirst : n ≤ chunk.length
      · exact ⟨[], chunk, chunks, rfl, by simpa using hn, by simpa using hfirst⟩
      · rw [List.flatten_cons, List.length_append] at hchunks
        obtain ⟨first, chunk', later, rfl, hlow, hhigh⟩ :=
          ih (n := n - chunk.length) (by omega) (by omega)
        refine ⟨chunk :: first, chunk', later, rfl, ?_, ?_⟩
        · rw [List.flatten_cons, List.length_append]
          omega
        · simp only [List.flatten_cons, List.length_append] at hhigh ⊢
          omega

section Run

variable {before after : List (WireText P)} {bad : BadMessage P}

theorem textHolds_init (ts : List (WireText P)) : TextHolds E {} [] ts :=
  .fresh rfl

theorem unfinished_init {stop : Bytes → Prop} (hstop : stop []) (ts : List (WireText P)) :
    Unfinished stop [] ts := by
  cases ts with
  | nil => exact hstop
  | cons t ts =>
      refine ⟨t.wire, ?_, rfl⟩
      exact List.length_pos_iff.mp t.wire_pos

/-- Up to the last byte of the malformed header the messages before it are delivered. -/
theorem run_before (hnul : 0 ∉ bad.text) {first : List Bytes} {future tail : Bytes}
    (hstream : first.flatten ++ future = textWires before ++ (bad.text ++ tail))
    (hfirst : first.flatten.length < (textWires before ++ bad.text).length) :
    ∃ done rest held r, before = done ++ rest ∧ first.flatten = textWires done ++ held ∧
      Unfinished (fun held => ∃ post, post ≠ [] ∧ bad.text = held ++ post) held rest ∧
      receiveChunks E P {} first = .ok (textDeliveries done, r) ∧ TextHolds E r held rest := by
  rw [← List.append_assoc] at hstream
  rcases stream_cases hstream with ⟨more, hmore, -⟩ | ⟨post, hpost, hcut⟩
  · rw [hmore, List.length_append] at hfirst
    omega
  · -- The stream up to the byte before the end of the header.
    obtain ⟨last, hlast⟩ : ∃ last, bad.text = bad.text.dropLast ++ [last] := by
      have hne : bad.text ≠ [] := by
        unfold BadMessage.text
        simp [rtspCrlf]
      exact ⟨_, (List.dropLast_append_getLast hne).symm⟩
    have hpost' : post = post.dropLast ++ [last] := by
      have hlasts := congrArg List.getLast? hcut
      rw [hlast, ← List.append_assoc, List.getLast?_concat,
        List.getLast?_append_of_ne_nil _ hpost] at hlasts
      have hgetLast := List.dropLast_append_getLast? last hlasts.symm
      exact hgetLast.symm
    rw [hlast, hpost', ← List.append_assoc, ← List.append_assoc] at hcut
    have hprefix := List.append_inj_left' hcut rfl
    have hstop : ∃ post, post ≠ [] ∧ bad.text = bad.text.dropLast ++ post :=
      ⟨[last], by simp, hlast⟩
    have hempty : ∃ post, post ≠ [] ∧ bad.text = [] ++ post :=
      ⟨bad.text, by rw [hlast]; simp, rfl⟩
    exact receiveChunks_stream (bad.waits_text hnul) (textHolds_init before)
      (unfinished_init hempty before) (by rw [List.nil_append]; exact hprefix.symm) hstop

/-- The chunk with the last byte of the malformed header. -/
theorem run_bad (hnul : 0 ∉ bad.text) {first : List Bytes} {chunk behind : Bytes}
    (hstream : first.flatten ++ chunk = textWires before ++ (bad.text ++ behind))
    (hfirst : first.flatten.length < (textWires before ++ bad.text).length) :
    ∃ e, receiveChunks E P {} (first ++ [chunk]) =
      .ok (textDeliveries before ++ [.skip e bad.text.length],
        { buf := behind, ctx := { headerLen := bad.text.length } }) := by
  obtain ⟨done, rest, held, r, rfl, hheld, -, hchunks, hholds⟩ :=
    run_before (E := E) hnul hstream hfirst
  have hrest : held ++ chunk = textWires rest ++ (bad.text ++ behind) := by
    rw [hheld, textWires_append, List.append_assoc, List.append_assoc,
      List.append_cancel_left_eq] at hstream
    exact hstream
  have hnext := hholds.append E chunk
  rw [hrest] at hnext
  have hfuel : (textWires rest ++ (bad.text ++ behind)).length <
      receiveFuel (r.buf ++ chunk) := by
    unfold receiveFuel
    rw [← hrest, List.length_append, List.length_append, hholds.length_eq]
    omega
  obtain ⟨e, hloop⟩ := receiveLoop_bad (E := E) bad hnul hnext hfuel
  refine ⟨e, ?_⟩
  have hchunk : receiveChunk E P r chunk = _ := hloop
  rw [receiveChunks_append, hchunks]
  dsimp only
  rw [receiveChunks, hchunk]
  simp [receiveChunks, textDeliveries]

/-- A prefix of the chunks: it ends in front of the last byte of the malformed header, or the
messages behind it go on like a stream of their own. -/
theorem run_prefix (hnul : 0 ∉ bad.text) (hbody : bad.body = []) {chunks : List Bytes}
    (hheld : ¬ HeldBack before bad after chunks)
    (hstream : chunks.flatten = textWires before ++ (bad.wire ++ textWires after))
    {first later : List Bytes} (hchunks : chunks = first ++ later)
    (hfirst : (textWires before ++ bad.text).length ≤ first.flatten.length) :
    ∃ e done rest held r, after = done ++ rest ∧
      first.flatten = textWires before ++ (bad.text ++ (textWires done ++ held)) ∧
      Unfinished (fun held => held = []) held rest ∧
      receiveChunks E P {} first =
        .ok (textDeliveries before ++ .skip e bad.text.length :: textDeliveries done, r) := by
  have hwire : bad.wire = bad.text := by
    unfold BadMessage.wire
    rw [hbody, List.append_nil]
  have hpos : 0 < (textWires before ++ bad.text).length := by
    have hlines := bad.lines_pos
    unfold BadMessage.text
    simp only [List.length_append]
    omega
  obtain ⟨start, chunk, middle, rfl, hlow, hhigh⟩ := exists_crossing hpos hfirst
  subst hchunks
  simp only [List.flatten_append, List.flatten_cons, hwire] at hstream
  have hsplit : (start.flatten ++ chunk) ++ (middle.flatten ++ later.flatten) =
      (textWires before ++ bad.text) ++ textWires after := by
    simpa [List.append_assoc] using hstream
  obtain ⟨behind, hbehind, hafter⟩ : ∃ behind,
      start.flatten ++ chunk = (textWires before ++ bad.text) ++ behind ∧
        behind ++ (middle.flatten ++ later.flatten) = textWires after := by
    rcases stream_cases hsplit with hcase | ⟨post, hpost, hcut⟩
    · exact hcase
    · have hlength := congrArg List.length hcut
      have hpostPos := List.length_pos_iff.mpr hpost
      rw [@List.length_append _ (start.flatten ++ chunk)] at hlength
      omega
  have hunfinished : Unfinished (fun held => held = []) behind after := by
    cases hcase : after with
    | nil =>
        rw [hcase, textWires_nil] at hafter
        exact (List.append_eq_nil_iff.mp hafter).1
    | cons next rest =>
        rw [hcase, textWires_cons] at hafter
        rcases stream_cases hafter with ⟨more, rfl, -⟩ | hcut
        · refine absurd ⟨next, rest, start, chunk, middle ++ later, hcase, ?_, hlow, ?_⟩ hheld
          · simp
          · rw [hbehind]
            simp only [List.length_append]
            omega
        · exact hcut
  rw [List.append_assoc] at hbehind
  obtain ⟨e, hbad⟩ := run_bad (E := E) hnul hbehind hlow
  obtain ⟨done, rest, held, r, rfl, hdone, hrest, hrun, -⟩ :=
    receiveChunks_stream (E := E) waits_nothing
      (@TextHolds.fresh P E { headerLen := bad.text.length } _ _ rfl) hunfinished
      (show behind ++ middle.flatten ++ later.flatten = textWires after ++ [] by
        rw [List.append_nil, List.append_assoc, hafter]) rfl
  refine ⟨e, done, rest, held, r, rfl, ?_, hrest, ?_⟩
  · rw [List.flatten_append, List.flatten_cons, ← List.append_assoc, hbehind, List.append_assoc,
      List.append_assoc, hdone]
  · rw [show start ++ chunk :: middle = (start ++ [chunk]) ++ middle by simp,
      receiveChunks_append, hbad]
    dsimp only
    rw [hrun]
    simp

/-- Without a body, a NUL and a chunk that ends too far behind it, the malformed message is
skipped and disturbs nothing. -/
theorem undisturbed_of (hnul : 0 ∉ bad.text) (hbody : bad.body = []) {chunks : List Bytes}
    (hheld : ¬ HeldBack before bad after chunks)
    (hstream : chunks.flatten = textWires before ++ (bad.wire ++ textWires after)) :
    NeighboursUndisturbed E before bad after chunks := by
  have hwire : bad.wire = bad.text := by
    unfold BadMessage.wire
    rw [hbody, List.append_nil]
  constructor
  · obtain ⟨e, done, rest, held, r, rfl, hflatten, hunfinished, hrun⟩ :=
      run_prefix (E := E) hnul hbody hheld hstream (show chunks = chunks ++ [] by simp) (by
        rw [hstream, hwire]
        simp only [List.length_append]
        omega)
    refine ⟨e, r, ?_⟩
    rw [hflatten, hwire, textWires_append, List.append_cancel_left_eq,
      List.append_cancel_left_eq, List.append_cancel_left_eq] at hstream
    cases rest with
    | nil => rw [hrun, hwire, List.append_nil]
    | cons t rest =>
        obtain ⟨post, hpost, hcut⟩ := hunfinished
        have hlength := congrArg List.length hstream
        have hpostPos := List.length_pos_iff.mpr hpost
        rw [textWires_cons, hcut] at hlength
        simp only [List.length_append] at hlength
        omega
  · intro first later hchunks
    have hprefix := hstream
    rw [hchunks, List.flatten_append, hwire] at hprefix
    by_cases hfirst : first.flatten.length < (textWires before ++ bad.text).length
    · obtain ⟨done, rest, held, r, rfl, hflatten, hunfinished, hrun, -⟩ :=
        run_before (E := E) hnul hprefix hfirst
      refine ⟨_, r, hrun, ?_⟩
      rw [filterMap_textDeliveries, hflatten, List.length_append, streamItems, List.map_append,
        List.append_assoc, arrived_append]
      rw [arrived_unfinished hunfinished, List.append_nil]
      rintro rfl
      obtain ⟨post, hpost, hcut⟩ := hunfinished
      have hpostPos := List.length_pos_iff.mpr hpost
      apply arrived_short
      dsimp only
      rw [hwire, hcut, List.length_append]
      omega
    · obtain ⟨e, done, rest, held, r, rfl, hflatten, hunfinished, hrun⟩ :=
        run_prefix (E := E) hnul hbody hheld hstream hchunks (not_lt.mp hfirst)
      refine ⟨_, r, hrun, ?_⟩
      have hnone : arrived (rest.map fun t => (t.wire, some t.delivery)) held.length = [] := by
        rw [← arrived_unfinished hunfinished (fun _ => (rfl : arrived [] held.length = [])),
          List.append_nil]
      have hafter := arrived_append done (rest.map fun t => (t.wire, some t.delivery)) held.length
      rw [hnone, List.append_nil] at hafter
      rw [hflatten, List.length_append, streamItems, arrived_append, arrived, hwire,
        @List.length_append _ bad.text, if_pos (Nat.le_add_right _ _)]
      simp only [Nat.add_sub_cancel_left, List.map_append, Option.toList_none, List.nil_append,
        List.filterMap_append, filterMap_textDeliveries, List.filterMap_cons,
        ReceiveEvent.delivery?]
      rw [List.length_append, hafter]

/-- What the loop makes of the chunks up to the one with the last byte of a malformed header. -/
theorem exists_run_bad (hnul : 0 ∉ bad.text) {first : List Bytes} {chunk : Bytes}
    {later : List Bytes}
    (hstream : (first ++ chunk :: later).flatten =
      textWires before ++ (bad.wire ++ textWires after))
    (hlow : first.flatten.length < (textWires before ++ bad.text).length)
    (hhigh : (textWires before ++ bad.text).length ≤ (first.flatten ++ chunk).length) :
    ∃ e r, receiveChunks E P {} (first ++ [chunk]) =
      .ok (textDeliveries before ++ [.skip e bad.text.length], r) := by
  have hsplit : (first.flatten ++ chunk) ++ later.flatten =
      (textWires before ++ bad.text) ++ (bad.body ++ textWires after) := by
    unfold BadMessage.wire at hstream
    simpa [List.append_assoc] using hstream
  rcases stream_cases hsplit with ⟨behind, hbehind, -⟩ | ⟨post, hpost, hcut⟩
  · rw [List.append_assoc (textWires before)] at hbehind
    obtain ⟨e, hrun⟩ := run_bad (E := E) hnul hbehind hlow
    exact ⟨e, _, hrun⟩
  · have hlength := congrArg List.length hcut
    have hpostPos := List.length_pos_iff.mpr hpost
    rw [@List.length_append _ (first.flatten ++ chunk)] at hlength
    omega

theorem skip_not_mem_textDeliveries (ts : List (WireText P)) (e : Errno) (count : Nat) :
    ReceiveEvent.skip e count ∉ textDeliveries ts := by
  simp [textDeliveries]

theorem no_nul_of_undisturbed {chunks : List Bytes}
    (hstream : chunks.flatten = textWires before ++ (bad.wire ++ textWires after))
    (h : NeighboursUndisturbed E before bad after chunks) : 0 ∉ bad.text := by
  intro hnul
  obtain ⟨e, r, hwhole⟩ := h.whole
  have hall : bad.wire ++ textWires after = bad.text ++ (bad.body ++ textWires after) := by
    unfold BadMessage.wire
    rw [List.append_assoc]
  rw [hall] at hstream
  obtain ⟨done, rest, held, r', rfl, -, -, hrun, -⟩ :=
    receiveChunks_stream (bad.waits_nul (E := E) hnul (bad.body ++ textWires after))
      (textHolds_init before) (unfinished_init ⟨_, rfl⟩ before)
      (show [] ++ chunks.flatten ++ [] = _ by rw [List.nil_append, List.append_nil, hstream])
      ⟨[], (List.append_nil _).symm⟩
  rw [hwhole, Except.ok.injEq, Prod.mk.injEq] at hrun
  apply skip_not_mem_textDeliveries done e bad.wire.length
  rw [← hrun.1]
  simp

theorem no_body_of_undisturbed (hnul : 0 ∉ bad.text) {chunks : List Bytes}
    (hstream : chunks.flatten = textWires before ++ (bad.wire ++ textWires after))
    (h : NeighboursUndisturbed E before bad after chunks) : bad.body = [] := by
  obtain ⟨e, r, hwhole⟩ := h.whole
  have hpos : 0 < (textWires before ++ bad.text).length := by
    have hlines := bad.lines_pos
    unfold BadMessage.text
    simp only [List.length_append]
    omega
  have henough : (textWires before ++ bad.text).length ≤ chunks.flatten.length := by
    rw [hstream]
    unfold BadMessage.wire
    simp only [List.length_append]
    omega
  obtain ⟨first, chunk, later, rfl, hlow, hhigh⟩ := exists_crossing hpos henough
  obtain ⟨e', r', hrun⟩ := exists_run_bad (E := E) hnul hstream hlow hhigh
  rw [show first ++ chunk :: later = (first ++ [chunk]) ++ later by simp, receiveChunks_append,
    hrun] at hwhole
  dsimp only at hwhole
  split at hwhole
  next => simp at hwhole
  next events r'' _ =>
    rw [Except.ok.injEq, Prod.mk.injEq, List.append_assoc, List.append_cancel_left_eq,
      List.singleton_append, List.cons.injEq, ReceiveEvent.skip.injEq] at hwhole
    have hlength := hwhole.1.1.2
    unfold BadMessage.wire at hlength
    rw [List.length_append] at hlength
    exact List.length_eq_zero_iff.mp (by omega)

theorem not_heldBack_of_undisturbed (hnul : 0 ∉ bad.text) (hbody : bad.body = [])
    {chunks : List Bytes}
    (hstream : chunks.flatten = textWires before ++ (bad.wire ++ textWires after))
    (h : NeighboursUndisturbed E before bad after chunks) :
    ¬ HeldBack before bad after chunks := by
  rintro ⟨next, rest, first, chunk, later, rfl, rfl, hlow, hhigh⟩
  have hwire : bad.wire = bad.text := by
    unfold BadMessage.wire
    rw [hbody, List.append_nil]
  obtain ⟨e, r, hrun⟩ := exists_run_bad (E := E) hnul hstream hlow (by
    refine le_trans ?_ hhigh
    simp only [List.length_append]
    omega)
  obtain ⟨events, r', hrun', harrived⟩ := h.prompt (first ++ [chunk]) later (by simp)
  rw [hrun, Except.ok.injEq, Prod.mk.injEq] at hrun'
  obtain ⟨k, hk⟩ : ∃ k, (first ++ [chunk]).flatten.length =
      (textWires before).length + (bad.text.length + (next.wire.length + k)) := by
    refine ⟨(first.flatten ++ chunk).length -
      (textWires before ++ (bad.text ++ next.wire)).length, ?_⟩
    simp only [List.length_append, List.flatten_append, List.flatten_cons, List.flatten_nil,
      List.append_nil] at hhigh ⊢
    omega
  rw [← hrun'.1, hk, streamItems, arrived_append, arrived, hwire,
    if_pos (Nat.le_add_right _ _), List.map_cons, arrived] at harrived
  simp only [Nat.add_sub_cancel_left, Nat.le_add_right, ↓reduceIte, Option.toList_none,
    Option.toList_some, List.nil_append, List.filterMap_append, filterMap_textDeliveries,
    List.filterMap_cons, ReceiveEvent.delivery?, List.filterMap_nil, List.append_nil,
    List.cons_append] at harrived
  have hlength := congrArg List.length harrived
  simp only [List.length_append, List.length_cons] at hlength
  omega

end Run

/-- A malformed message is skipped whole and without disturbing its neighbours exactly when its
header holds no NUL, it has no body, and no chunk brings both its last byte and the last byte of
the message behind it. -/
theorem neighboursUndisturbed_iff (E : HeaderEdit) (before after : List (WireText P))
    (bad : BadMessage P) (chunks : List Bytes)
    (hstream : chunks.flatten = textWires before ++ (bad.wire ++ textWires after)) :
    NeighboursUndisturbed E before bad after chunks ↔
      0 ∉ bad.text ∧ bad.body = [] ∧ ¬ HeldBack before bad after chunks := by
  constructor
  · intro h
    have hnul := no_nul_of_undisturbed hstream h
    have hbody := no_body_of_undisturbed hnul hstream h
    exact ⟨hnul, hbody, not_heldBack_of_undisturbed hnul hbody hstream h⟩
  · rintro ⟨hnul, hbody, hheld⟩
    exact undisturbed_of hnul hbody hheld hstream

end Platform

/-- A start line of one word. -/
def oneWordMessage : BadMessage .bare where
  lines := [ascii "OPTIONS"]
  body := []
  nonempty := by simp
  clean := by
    intro line hline
    rw [List.mem_singleton.mp hline]
    exact ⟨by decide, by decide +kernel⟩
  notFrame := by decide +kernel
  unreadable := .inr ⟨.eproto, by decide +kernel⟩
  announced h := absurd rfl h

/-- Every message in a chunk of its own. -/
theorem neighboursUndisturbed_oneWord :
    NeighboursUndisturbed .words [optionsWire.toText] oneWordMessage [optionsWire.toText]
      [optionsRequest, oneWordMessage.text, optionsRequest] := by
  refine (neighboursUndisturbed_iff .words _ _ _ _ (by decide +kernel)).mpr
    ⟨by decide +kernel, rfl, ?_⟩
  rintro ⟨next, rest, first, chunk, later, hnext, hchunks, hlow, hhigh⟩
  obtain ⟨rfl, rfl⟩ := List.cons.inj hnext
  match first, hchunks with
  | [], h =>
      obtain ⟨rfl, -⟩ := List.cons.inj h
      exact absurd hhigh (by decide +kernel)
  | [_], h =>
      simp only [List.cons_append, List.nil_append, List.cons.injEq] at h
      obtain ⟨rfl, rfl, -⟩ := h
      exact absurd hhigh (by decide +kernel)
  | [_, _], h =>
      simp only [List.cons_append, List.nil_append, List.cons.injEq] at h
      obtain ⟨rfl, rfl, rfl, -⟩ := h
      exact absurd hlow (by decide +kernel)
  | _ :: _ :: _ :: _, h => simp at h

/-- Both messages in one chunk: the good one is not delivered. -/
theorem oneWordMessage_holdsBack :
    receiveChunks .words .bare {} [oneWordMessage.text ++ optionsRequest] =
        .ok ([.skip .eproto 11], { buf := optionsRequest, ctx := { headerLen := 11 } }) ∧
      ¬ NeighboursUndisturbed .words [] oneWordMessage [optionsWire.toText]
        [oneWordMessage.text ++ optionsRequest] := by
  refine ⟨by decide +kernel, ?_⟩
  rw [neighboursUndisturbed_iff _ _ _ _ _ (by decide +kernel)]
  rintro ⟨-, -, hheld⟩
  exact hheld ⟨_, _, [], _, [], rfl, rfl, by decide +kernel, by decide +kernel⟩

end Librtsp
