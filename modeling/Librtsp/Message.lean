import Librtsp.HeaderRead

/-!
# Messages in a byte stream

The receive buffer of a connection holds text messages and interleaved binary
frames one after the other.  `rtspGetNextMessage` takes the message at the
front of the buffer apart; its context keeps a header whose body has not
arrived yet.  The header readers overwrite bytes of the header they read with
NUL, so every definition takes what they overwrite as a parameter.
-/

namespace Librtsp

open CString

/-- What reading a header leaves in its place: bytes are kept or become NUL,
and the line end it stops at is overwritten. -/
structure HeaderEdit where
  run : Bytes → Bytes
  kept : ∀ header, List.Forall₂ (fun b b' => b' = b ∨ b' = 0) header (run header)
  ended : ∀ header b, header.getLast? = some b → b = 0x0a ∨ b = 0x0d →
    (run header).getLast? = some 0

/-! ## Interleaved frames -/

/-- Channel and payload of the frame at the front of the buffer. -/
def rtspParseInterleaved (data : Bytes) : Except Errno (UInt8 × Bytes) :=
  match data with
  | 0x24 :: channel :: high :: low :: rest =>
      let pktLen := high.toNat * 256 + low.toNat
      if rest.length < pktLen then .error .eagain
      else .ok (channel, rest.take pktLen)
  | _ => .error .einval

def rtspBuildInterleaved (channel : UInt8) (data : Bytes) : Except Errno Bytes :=
  if data.length = 0 then .error .einval
  else if 65535 - 4 < data.length then .error .einval
  else
    .ok (0x24 :: channel :: UInt8.ofNat (data.length / 256) :: UInt8.ofNat data.length :: data)

/-! ## Text messages -/

inductive RtspMessageHeader where
  | request (header : RtspRequestHeader)
  | response (header : RtspResponseHeader)
  deriving DecidableEq, Repr

def RtspMessageHeader.contentLength : RtspMessageHeader → Int32
  | .request header => header.contentLength
  | .response header => header.contentLength

/-- An `int` converted to `size_t`. -/
def sizeOfInt (n : Int32) : Nat := (n.toInt % 2 ^ 64).toNat

/-- The parser context; the type of its message is unknown when `header` is
missing. -/
structure RtspMessageParserCtx where
  header : Option RtspMessageHeader := none
  bodyLen : Nat := 0
  headerLen : Nat := 0
  deriving DecidableEq, Repr

/-- A complete message.  The body of a text message is a region of the buffer. -/
inductive RtspMessage where
  | text (header : RtspMessageHeader) (bodyOffset bodyLen : Nat)
  | interleaved (channel : UInt8) (data : Bytes)
  deriving DecidableEq, Repr

/-- What a call returns, the bytes to remove, and the context and buffer it
leaves. -/
structure NextMessage where
  result : Except Errno RtspMessage
  totalLen : Nat := 0
  ctx : RtspMessageParserCtx
  data : Bytes

section Platform

variable (E : HeaderEdit) (P : Platform)

/-- A header that starts with the protocol version is a response. -/
def readMessageHeader (header : Bytes) : Except Stop RtspMessageHeader :=
  if rtspVersion.length ≤ header.length ∧ strncmpEq header rtspVersion rtspVersion.length then do
    let header ← rtspResponseHeaderRead P header
    .ok (.response header)
  else do
    let header ← rtspRequestHeaderRead P header
    .ok (.request header)

/-- The header is known: wait for the body, then hand the message out. -/
def finishMessage (data : Bytes) (ctx : RtspMessageParserCtx) (header : RtspMessageHeader) :
    NextMessage :=
  let totalLen := (ctx.bodyLen + ctx.headerLen) % 2 ^ 64
  if data.length < totalLen then { result := .error .eagain, ctx, data }
  else
    { result := .ok (.text header ctx.headerLen ctx.bodyLen)
      totalLen
      ctx := { headerLen := ctx.headerLen }
      data }

def rtspGetNextMessage (data : Bytes) (ctx : RtspMessageParserCtx) :
    Except Fault NextMessage :=
  match rtspParseInterleaved data with
  | .ok (channel, payload) =>
      .ok { result := .ok (.interleaved channel payload)
            totalLen := 4 + payload.length
            ctx
            data }
  | .error .eagain => .ok { result := .error .eagain, ctx, data }
  | .error _ =>
      match ctx.header with
      | some header => .ok (finishMessage data ctx header)
      | none =>
          match findDoubleNewline data with
          | none => .ok { result := .error .eagain, ctx, data }
          | some (p, nlLen) =>
              let headerLen := p + nlLen
              let data' := E.run (data.take headerLen) ++ data.drop headerLen
              match readMessageHeader P (data.take headerLen) with
              | .error (.fault f) => .error f
              | .error (.errno e) =>
                  .ok { result := .error e
                        totalLen := headerLen
                        ctx := { headerLen }
                        data := data' }
              | .ok header =>
                  .ok (finishMessage data'
                    { header := some header
                      bodyLen := sizeOfInt header.contentLength
                      headerLen } header)

/-- `rtsp_buffer_remove_first_bytes` -/
def rtspBufferRemoveFirstBytes (data : Bytes) (count : Nat) : Bytes :=
  data.drop count

/-! ## The receive loop -/

/-- The receive buffer of a server or client and its parser context. -/
structure Receiver where
  buf : Bytes := []
  ctx : RtspMessageParserCtx := {}
  deriving DecidableEq, Repr

/-- A message as it is handed to the request, response or frame processing. -/
inductive Delivery where
  | text (header : RtspMessageHeader) (body : Bytes)
  | interleaved (channel : UInt8) (data : Bytes)
  deriving DecidableEq, Repr

/-- What the loop does with the front of the buffer: process a message, or drop
bytes that could not be read. -/
inductive ReceiveEvent where
  | deliver (message : Delivery)
  | skip (e : Errno) (count : Nat)
  deriving DecidableEq, Repr

/-- The message with its body taken from the buffer. -/
def RtspMessage.delivery (data : Bytes) : RtspMessage → Delivery
  | .text header bodyOffset bodyLen => .text header ((data.drop bodyOffset).take bodyLen)
  | .interleaved channel payload => .interleaved channel payload

/-- Takes messages from the buffer until a call fails, and removes what that
call asks to remove. -/
def receiveLoop : Nat → Receiver → Except Fault (List ReceiveEvent × Receiver)
  | 0, r => .ok ([], r)
  | fuel + 1, r =>
      match rtspGetNextMessage E P r.buf r.ctx with
      | .error f => .error f
      | .ok next =>
          let r' : Receiver :=
            { buf := rtspBufferRemoveFirstBytes next.data next.totalLen, ctx := next.ctx }
          match next.result with
          | .error e =>
              .ok (if next.totalLen = 0 then [] else [.skip e next.totalLen], r')
          | .ok message =>
              match receiveLoop fuel r' with
              | .error f => .error f
              | .ok (events, r'') => .ok (.deliver (message.delivery next.data) :: events, r'')

/-- Every message taken from the buffer removes a byte or overwrites one. -/
def receiveFuel (buf : Bytes) : Nat :=
  2 * buf.length + 1

/-- Data has arrived: append it and take the complete messages. -/
def receiveChunk (r : Receiver) (chunk : Bytes) :
    Except Fault (List ReceiveEvent × Receiver) :=
  receiveLoop E P (receiveFuel (r.buf ++ chunk)) { r with buf := r.buf ++ chunk }

def receiveChunks : Receiver → List Bytes → Except Fault (List ReceiveEvent × Receiver)
  | r, [] => .ok ([], r)
  | r, chunk :: chunks =>
      match receiveChunk E P r chunk with
      | .error f => .error f
      | .ok (events, r') =>
          match receiveChunks r' chunks with
          | .error f => .error f
          | .ok (events', r'') => .ok (events ++ events', r'')

end Platform

/-! ## Where a header ends -/

theorem strnstrFrom_some
    {c : UInt8} {find : Bytes} {i p : Nat} {s : Bytes} (h : strnstrFrom c find i s = some p) :
    ∃ before after, s = before ++ (c :: find) ++ after ∧ p = i + before.length := by
  induction s generalizing i with
  | nil => simp [strnstrFrom] at h
  | cons sc s ih =>
      unfold strnstrFrom at h
      split at h
      next hlength =>
        split at h
        next hmatch =>
          cases h
          obtain ⟨rfl, hfind⟩ := hmatch
          have hprefix : s.take find.length = find := by
            simpa [strncmpEq] using hfind
          refine ⟨[], s.drop find.length, ?_, by simp⟩
          simp only [List.nil_append, List.cons_append, List.cons.injEq, true_and]
          conv_rhs => rw [← hprefix]
          rw [List.length_take, Nat.min_eq_left (by simp only [List.length_cons] at hlength; omega)]
          exact (List.take_append_drop _ _).symm
        next =>
          split at h
          next => simp at h
          next =>
            obtain ⟨before, after, rfl, rfl⟩ := ih h
            exact ⟨sc :: before, after, by simp, by simp only [List.length_cons]; omega⟩
      next => simp at h

theorem rtspStrnstr_some
    {s find : Bytes} {p : Nat} (hfind : find ≠ []) (h : rtspStrnstr s find = some p) :
    ∃ before after, s = before ++ find ++ after ∧ p = before.length := by
  cases find with
  | nil => exact absurd rfl hfind
  | cons c find =>
      obtain ⟨before, after, hs, hp⟩ := strnstrFrom_some h
      exact ⟨before, after, hs, by omega⟩

/-- The header ends with one of the blank lines, inside the buffer. -/
theorem findDoubleNewline_some
    {s : Bytes} {p n : Nat} (h : findDoubleNewline s = some (p, n)) :
    ∃ before newline after, s = before ++ newline ++ after ∧ p = before.length ∧
      n = newline.length ∧ newline ∈ [crlfCrlf, lfCrlfCr, lfLf, crCr] := by
  have hfound : ∀ newline ∈ [crlfCrlf, lfCrlfCr, lfLf, crCr], ∀ q,
      rtspStrnstr s newline = some q → (p, n) = (q, newline.length) →
      ∃ before newline after, s = before ++ newline ++ after ∧ p = before.length ∧
        n = newline.length ∧ newline ∈ [crlfCrlf, lfCrlfCr, lfLf, crCr] := by
    intro newline hmem q hq hpn
    have hne : newline ≠ [] := by
      intro hnil
      subst hnil
      exact absurd hmem (by decide)
    obtain ⟨before, after, hs, hbefore⟩ := rtspStrnstr_some hne hq
    obtain ⟨rfl, rfl⟩ := Prod.mk.injEq .. ▸ hpn
    exact ⟨before, newline, after, hs, hbefore, rfl, hmem⟩
  unfold findDoubleNewline at h
  split at h
  next q hq => exact hfound crlfCrlf (by decide) q hq (Option.some.inj h).symm
  next =>
    split at h
    next q hq => exact hfound lfCrlfCr (by decide) q hq (Option.some.inj h).symm
    next =>
      split at h
      next q hq => exact hfound lfLf (by decide) q hq (Option.some.inj h).symm
      next =>
        split at h
        next q hq => exact hfound crCr (by decide) q hq (Option.some.inj h).symm
        next => simp at h

theorem findDoubleNewline_bounds
    {s : Bytes} {p n : Nat} (h : findDoubleNewline s = some (p, n)) :
    2 ≤ n ∧ p + n ≤ s.length := by
  obtain ⟨before, newline, after, rfl, rfl, rfl, hmem⟩ := findDoubleNewline_some h
  have hall : ∀ newline ∈ [crlfCrlf, lfCrlfCr, lfLf, crCr], 2 ≤ newline.length := by decide
  refine ⟨hall newline hmem, ?_⟩
  simp only [List.length_append]
  omega

/-! ## What the readers leave of a header -/

namespace HeaderEdit

variable (E : HeaderEdit)

@[simp] theorem length_run (header : Bytes) : (E.run header).length = header.length :=
  (E.kept header).length_eq.symm

/-- The buffer after the header at its front has been read. -/
def edit (data : Bytes) (headerLen : Nat) : Bytes :=
  E.run (data.take headerLen) ++ data.drop headerLen

@[simp] theorem length_edit (data : Bytes) (headerLen : Nat) :
    (E.edit data headerLen).length = data.length := by
  simp only [edit, List.length_append, length_run, List.length_take, List.length_drop]
  omega

/-- A first byte that is not a dollar sign does not become one. -/
theorem edit_head? {data : Bytes} {headerLen : Nat} (h : data.head? ≠ some 0x24) :
    (E.edit data headerLen).head? ≠ some 0x24 := by
  cases data with
  | nil =>
      have hnil : E.run [] = [] := List.length_eq_zero_iff.mp (by simp)
      simp [edit, hnil]
  | cons b data =>
      cases headerLen with
      | zero =>
          have hnil : E.run [] = [] := List.length_eq_zero_iff.mp (by simp)
          simpa [edit, hnil] using h
      | succ n =>
          have hkept := E.kept ((b :: data).take (n + 1))
          unfold edit
          rw [List.take_succ_cons] at hkept ⊢
          cases hrun : E.run (b :: data.take n) with
          | nil => simp [hrun] at hkept
          | cons b' rest =>
              rw [hrun, List.forall₂_cons] at hkept
              rcases hkept.1 with rfl | rfl
              · simpa using h
              · simp

/-- Bytes that are not NUL. -/
def nonNul (s : Bytes) : Nat :=
  s.countP (· != 0)

theorem nonNul_lt_of_ended {s s' : Bytes} {b : UInt8}
    (h : List.Forall₂ (fun b b' => b' = b ∨ b' = 0) s s') (hlast : s.getLast? = some b)
    (hb : b ≠ 0) (hlast' : s'.getLast? = some 0) : nonNul s' < nonNul s := by
  induction h with
  | nil => simp at hlast
  | @cons c c' s s' hc hs ih =>
      cases hs with
      | nil =>
          simp only [List.getLast?_singleton, Option.some.injEq] at hlast hlast'
          subst hlast hlast'
          simp [nonNul, hb]
      | cons hd hs =>
          rw [List.getLast?_cons_cons] at hlast hlast'
          have htail := ih hlast hlast'
          unfold nonNul at *
          rw [List.countP_cons, List.countP_cons (l := _ :: _)]
          rcases hc with rfl | rfl
          · omega
          · simp only [bne_self_eq_false, Bool.false_eq_true, ↓reduceIte]
            omega

/-- Reading a header overwrites at least one byte of the buffer. -/
theorem nonNul_edit_lt {data : Bytes} {p n : Nat}
    (hfind : findDoubleNewline data = some (p, n)) :
    nonNul (E.edit data (p + n)) < nonNul data := by
  obtain ⟨before, newline, after, rfl, rfl, rfl, hmem⟩ := findDoubleNewline_some hfind
  have htake : (before ++ newline ++ after).take (before.length + newline.length) =
      before ++ newline := by
    rw [← List.length_append, List.take_left]
  have hdrop : (before ++ newline ++ after).drop (before.length + newline.length) = after := by
    rw [← List.length_append, List.drop_left]
  have hall : ∀ newline ∈ [crlfCrlf, lfCrlfCr, lfLf, crCr],
      newline.getLast? = some 0x0a ∨ newline.getLast? = some 0x0d := by decide
  obtain ⟨b, hb, hlast⟩ : ∃ b : UInt8, (b = 0x0a ∨ b = 0x0d) ∧
      (before ++ newline).getLast? = some b := by
    rw [List.getLast?_append]
    rcases hall newline hmem with h | h
    · exact ⟨0x0a, .inl rfl, by rw [h]; rfl⟩
    · exact ⟨0x0d, .inr rfl, by rw [h]; rfl⟩
  have hlt := nonNul_lt_of_ended (E.kept (before ++ newline)) hlast
    (by rcases hb with rfl | rfl <;> decide) (E.ended _ b hlast hb)
  unfold edit
  rw [htake, hdrop]
  unfold nonNul at *
  simp only [List.countP_append] at hlt ⊢
  omega

end HeaderEdit

/-- What is left of a header of one line: its words, cut at blanks and line
ends. -/
def HeaderEdit.words : HeaderEdit where
  run header := header.map fun b => if b = 0x20 ∨ b = 0x0a ∨ b = 0x0d then 0 else b
  kept header := by
    induction header with
    | nil => exact .nil
    | cons b header ih =>
        refine .cons ?_ ih
        dsimp only
        split
        · exact .inr rfl
        · exact .inl rfl
  ended header b hlast hb := by
    rw [List.getLast?_map, hlast]
    rcases hb with rfl | rfl <;> rfl

end Librtsp
