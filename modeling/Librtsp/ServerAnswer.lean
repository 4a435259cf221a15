import Librtsp.ResponseRoundTrip
import Librtsp.ServerTable

/-!
# What an attempt to answer comes to

Filling in a response changes nothing of a request but its response header, so
its entry in the table stays.  What an attempt sends is at most one response to
the request, on the request's connection and with the request's sequence number.
When the attempt found an error, the error response is a second try; it sends
nothing when the header, as far as it was filled, cannot be written.
-/

namespace Librtsp

open CString

/-! ## The second line of a response -/

/-- The message begins with one line and the line with the number. -/
def NumberedLine (message : Bytes) (cseq : Int32) : Prop :=
  ∃ statusLine rest, FieldText statusLine ∧
    message = statusLine ++ rtspCrlf ++ (ascii "CSeq: " ++ formatInt cseq.toInt ++ rtspCrlf) ++ rest

/-- A response to the request on its connection. -/
def IsResponseTo (request : RequestEntry) (event : ServerEvent) : Prop :=
  ∃ conn status message, event = .response request.addr conn status message ∧
    request.conn = some conn ∧ (0 ≤ request.cseq → NumberedLine message request.cseq)

def isReasonByte (b : UInt8) : Bool :=
  b != 0 && b != 0x0d && b != 0x0a

/-- The phrases of the table can stand in a line. -/
theorem rtspStatusGet_fieldText (status : Int) : FieldText (rtspStatusGet status).2 := by
  have hall : rtspStatusTable.all (fun entry => entry.2.all isReasonByte) = true := by rfl
  intro b hb
  have hbyte := List.all_eq_true.mp (List.all_eq_true.mp hall _ (rtspStatusGet_mem status)) b hb
  simpa [isReasonByte, and_assoc] using hbyte

section Answers

variable (P : Platform) (env : Env) (server : RtspServer)

/-! ## Writing a response -/

variable {P server} in
/-- A response header with a clean reason is written with its number in the second line. -/
theorem responseHeaderWrite_numberedLine {header : RtspResponseHeader} {maxLen : Nat}
    {response : RtspString} {reason : Bytes} (hreason : header.statusString = some reason)
    (hclean : FieldText reason) (hcseq : 0 ≤ header.cseq)
    (h : rtspResponseHeaderWrite P header { maxLen } = .ok response) :
    NumberedLine response.str header.cseq := by
  obtain ⟨text, hprinted, rfl⟩ := rtspPrint_ok h
  unfold responsePieces at hprinted
  split at hprinted
  next => simp at hprinted
  next =>
    split at hprinted
    next => simp at hprinted
    next reason' hreason' =>
      have hsame : reason' = reason := by
        rw [hreason] at hreason'
        exact (Option.some.inj (Option.filter_eq_some_iff.mp hreason').1).symm
      simp only [responseFieldPieces, cseqWrite, if_pos hcseq, List.append_assoc,
        List.cons_append, List.nil_append, printed_ok, Option.map_eq_some_iff] at hprinted
      obtain ⟨_, ⟨rest, -, rfl⟩, rfl⟩ := hprinted
      refine ⟨statusLine header.statusCode reason, rest, (statusLine_clean hclean).2, ?_⟩
      rw [statusLine, hsame]
      simp only [List.nil_append, List.append_assoc]

/-- The header answers the request with the number, with a phrase of the table. -/
structure AnswersWith (header : RtspResponseHeader) (cseq : Int32) : Prop where
  cseq : header.cseq = cseq
  statusString : ∃ status, header.statusString = some (rtspStatusGet status).2

variable {P server} in
theorem writeResponse_numberedLine {header : RtspResponseHeader} {cseq : Int32}
    (hanswers : AnswersWith header cseq) {body : Option Bytes} {message : Bytes}
    (h : writeResponse P server header body = .ok message) (hcseq : 0 ≤ cseq) :
    NumberedLine message cseq := by
  obtain ⟨hsame, status, hreason⟩ := hanswers
  subst hsame
  have hheader : ∀ response, rtspResponseHeaderWrite P header { maxLen := server.maxMsgSize } =
      .ok response → NumberedLine response.str header.cseq := fun response =>
    responseHeaderWrite_numberedLine hreason (rtspStatusGet_fieldText status) hcseq
  unfold writeResponse at h
  cases hwrite : rtspResponseHeaderWrite P header { maxLen := server.maxMsgSize } with
  | error e => simp [hwrite] at h
  | ok response =>
      obtain ⟨line, rest, hclean, hstr⟩ := hheader response hwrite
      cases body with
      | none =>
          simp only [hwrite, except_ok_bind, Except.ok.injEq] at h
          exact ⟨line, rest, hclean, h ▸ hstr⟩
      | some body =>
          cases hbody : rtspSprintf response body with
          | error e => simp [hwrite, hbody] at h
          | ok response' =>
              simp only [hwrite, hbody, except_ok_bind, Except.ok.injEq] at h
              refine ⟨line, rest ++ body, hclean, ?_⟩
              rw [← h, rtspSprintf_ok hbody]
              simp only [hstr, List.append_assoc]

variable {env server} in
theorem fillAnswer_answersWith (status : Int) (request : RtspServerPendingRequest) :
    AnswersWith (fillAnswer env server status request).responseHeader
      request.requestHeader.cseq :=
  ⟨rfl, status, rfl⟩

theorem AnswersWith.copyExt {header : RtspResponseHeader} {cseq : Int32}
    (h : AnswersWith header cseq) (ext : List RtspHeaderExt) :
    AnswersWith (rtspResponseHeaderCopyExt ext header) cseq := by
  unfold rtspResponseHeaderCopyExt
  split
  next => exact h
  next => exact ⟨h.cseq, h.statusString⟩

/-- The error response with this status can be written on top of what the
response header holds. -/
def ErrorWritable (request : RtspServerPendingRequest) (status : Int) : Prop :=
  ∃ message, writeResponse P server (fillAnswer env server status request).responseHeader none =
    .ok message

variable {P env server}

/-! ## The entry of a request stays -/

@[simp] theorem fillAnswer_entry (status : Int) (request : RtspServerPendingRequest) :
    (fillAnswer env server status request).entry = request.entry := rfl

@[simp] theorem errorResponse_entry (request : RtspServerPendingRequest) (status : Int) :
    (errorResponse P env server request status).1.entry = request.entry := by
  unfold errorResponse
  split
  next => rfl
  next =>
    dsimp only
    split
    next => rfl
    next => rfl

@[simp] theorem answerError_entry (request : RtspServerPendingRequest) (errorStatus : Int) :
    (answerError P env server request errorStatus).1.entry = request.entry := by
  unfold answerError
  split
  next => rfl
  next => exact errorResponse_entry request errorStatus

@[simp] theorem attemptResponse_request
    (request : RtspServerPendingRequest) (conn : Conn) (body : Option Bytes) :
    (attemptResponse P env server request conn body).request = request := by
  unfold attemptResponse
  split
  next => rfl
  next =>
    split
    next => rfl
    next => rfl

/-! ## What is sent -/

/-- Everything an attempt sends. -/
def outcome (P : Platform) (env : Env) (server : RtspServer) (attempt : Attempt) :
    List ServerEvent :=
  attempt.events ++ (answerError P env server attempt.request attempt.errorStatus).2

variable (P env server) in
theorem errorResponse_events (request : RtspServerPendingRequest) (status : Int) :
    (errorResponse P env server request status).2 = [] ∨
      ∃ event, (errorResponse P env server request status).2 = [event] ∧
        IsResponseTo request.entry event := by
  unfold errorResponse
  split
  next => exact .inl rfl
  next conn hconn =>
    dsimp only
    split
    next => exact .inl rfl
    next message hwrite =>
      cases env.sendError with
      | error e => exact .inl rfl
      | ok =>
          refine .inr ⟨_, rfl, conn, _, message, rfl, hconn, ?_⟩
          exact writeResponse_numberedLine (fillAnswer_answersWith status request) hwrite

theorem errorResponse_sends
    {request : RtspServerPendingRequest} {status : Int} (hconn : request.conn.isSome)
    (hsend : env.sendError = .ok ()) (hwrite : ErrorWritable P env server request status) :
    ∃ event, (errorResponse P env server request status).2 = [event] := by
  obtain ⟨conn, hconn⟩ := Option.isSome_iff_exists.mp hconn
  obtain ⟨message, hmessage⟩ := hwrite
  simp only [errorResponse, hconn, hmessage, hsend]
  exact ⟨_, rfl⟩

/-- An attempt to answer `request`: what it sends itself, and what it leaves to
the error response. -/
structure Attempt.Sound (env : Env) (request : RtspServerPendingRequest) (attempt : Attempt) :
    Prop where
  entry : attempt.request.entry = request.entry
  quiet : attempt.errorStatus ≠ 0 → attempt.events = []
  sent : attempt.events = [] ∨
    ∃ event, attempt.events = [event] ∧ IsResponseTo request.entry event
  answered : request.conn.isSome → env.send = .ok () → attempt.errorStatus = 0 →
    attempt.events ≠ []

variable (P server) in
theorem Attempt.Sound.outcome_events
    {request : RtspServerPendingRequest} {attempt : Attempt} (hsound : attempt.Sound env request) :
    outcome P env server attempt = [] ∨
      ∃ event, outcome P env server attempt = [event] ∧ IsResponseTo request.entry event := by
  unfold outcome answerError
  by_cases herror : attempt.errorStatus = 0
  · simpa [herror] using hsound.sent
  · have hevents := errorResponse_events P env server attempt.request
      attempt.errorStatus
    rw [hsound.entry] at hevents
    simpa [herror, hsound.quiet herror] using hevents

/-- With an open connection and sends that succeed exactly one response goes out,
unless the error response cannot be written. -/
theorem Attempt.Sound.outcome_sends
    {request : RtspServerPendingRequest} {attempt : Attempt} (hsound : attempt.Sound env request)
    (hconn : request.conn.isSome) (hsend : env.send = .ok ()) (hsendError : env.sendError = .ok ())
    (hwrite : attempt.errorStatus ≠ 0 →
      ErrorWritable P env server attempt.request attempt.errorStatus) :
    ∃ event, outcome P env server attempt = [event] ∧ IsResponseTo request.entry event := by
  rcases hsound.outcome_events P server with hnone | hone
  · exfalso
    by_cases herror : attempt.errorStatus = 0
    · have hevents := hsound.answered hconn hsend herror
      unfold outcome at hnone
      exact hevents (List.append_eq_nil_iff.mp hnone).1
    · have hconn' : attempt.request.conn.isSome := by
        have heq : attempt.request.conn = request.conn := congrArg RequestEntry.conn hsound.entry
        rwa [heq]
      obtain ⟨event, hevent⟩ := errorResponse_sends hconn' hsendError (hwrite herror)
      unfold outcome answerError at hnone
      simp [herror, hevent] at hnone
  · exact hone

theorem Attempt.Sound.failed
    {request request' : RtspServerPendingRequest} {ret errorStatus : Int}
    (hentry : request'.entry = request.entry)
    (herror : request.conn.isSome → errorStatus ≠ 0) :
    ({ ret, errorStatus, request := request' } : Attempt).Sound env request where
  entry := hentry
  quiet _ := rfl
  sent := .inl rfl
  answered hconn _ hstatus := absurd hstatus (herror hconn)

theorem attemptResponse_sound
    {request request' : RtspServerPendingRequest} {conn : Conn} (body : Option Bytes)
    (hentry : request'.entry = request.entry) (hconn : request.conn = some conn)
    (hanswers : AnswersWith request'.responseHeader request.requestHeader.cseq) :
    (attemptResponse P env server request' conn body).Sound env request := by
  unfold attemptResponse
  split
  next e hwrite =>
    refine ⟨hentry, fun _ => rfl, .inl rfl, ?_⟩
    intro _ _ hstatus
    exact absurd hstatus (show internalServerError ≠ 0 by decide)
  next message hwrite =>
    cases hsend : env.send with
    | error e =>
        refine ⟨hentry, fun _ => rfl, .inl rfl, ?_⟩
        intro _ hok _
        rw [hsend] at hok
        simp at hok
    | ok =>
        have haddr : request'.addr = request.addr := congrArg RequestEntry.addr hentry
        have hevent : IsResponseTo request.entry
            (.response request'.addr conn request'.responseHeader.statusCode message) := by
          refine ⟨conn, request'.responseHeader.statusCode, message, ?_, hconn, ?_⟩
          · rw [haddr]
            rfl
          · exact writeResponse_numberedLine hanswers hwrite
        refine ⟨hentry, fun h => absurd rfl h, .inr ⟨_, rfl, hevent⟩, ?_⟩
        intro _ _ _
        simp [sendResponse]

/-! ## The attempts of the reply functions -/

theorem statusIsFailure_zero {status : Int} (h : status < 0 ∨ statusIsFailure status = true) :
    status ≠ 0 := by
  intro hzero
  subst hzero
  rcases h with h | h
  · omega
  · exact absurd h (by decide)

@[simp] theorem rtspResponseHeaderCopyExt_cseq
    (ext : List RtspHeaderExt) (header : RtspResponseHeader) :
    (rtspResponseHeaderCopyExt ext header).cseq = header.cseq := by
  unfold rtspResponseHeaderCopyExt
  split
  next => rfl
  next => rfl

@[simp] theorem rtspResponseHeaderCopyExt_statusCode
    (ext : List RtspHeaderExt) (header : RtspResponseHeader) :
    (rtspResponseHeaderCopyExt ext header).statusCode = header.statusCode := by
  unfold rtspResponseHeaderCopyExt
  split
  next => rfl
  next => rfl

variable (P env server) in
theorem describeAttempt_sound
    (request : RtspServerPendingRequest) (status : Int) (ext : List RtspHeaderExt)
    (sessionDescription : Option Bytes) :
    (describeAttempt P env server request status ext sessionDescription).Sound env request := by
  have hinternal : request.conn.isSome → internalServerError ≠ 0 := fun _ => by decide
  unfold describeAttempt
  split
  next hconn => exact .failed rfl (by simp [hconn])
  next conn hconn =>
    split
    next hfailure => exact .failed rfl fun _ => statusIsFailure_zero hfailure
    next =>
      split
      next => exact .failed rfl hinternal
      next =>
        split
        next => exact .failed rfl hinternal
        next =>
          apply attemptResponse_sound
          · rfl
          · exact hconn
          · exact AnswersWith.copyExt ⟨rfl, status, rfl⟩ ext

variable (P env server) in
theorem announceAttempt_sound
    (request : RtspServerPendingRequest) (status : Int) (ext : List RtspHeaderExt) :
    (announceAttempt P env server request status ext).Sound env request := by
  unfold announceAttempt
  split
  next hconn => exact .failed rfl (by simp [hconn])
  next conn hconn =>
    split
    next hfailure => exact .failed rfl fun _ => statusIsFailure_zero hfailure
    next =>
      apply attemptResponse_sound
      · rfl
      · exact hconn
      · exact (fillAnswer_answersWith status request).copyExt ext

variable (P env server) in
theorem setupAttempt_sound
    (session : RtspServerSession) (request : RtspServerPendingRequest) (reply : SetupReply) :
    (setupAttempt P env server session request reply).1.Sound env request := by
  unfold setupAttempt
  split
  next hconn => exact .failed rfl (by simp [hconn])
  next conn hconn =>
    split
    next hfailure => exact .failed rfl fun _ => statusIsFailure_zero hfailure
    next =>
      split
      next => exact .failed rfl fun _ => by decide
      next =>
        apply attemptResponse_sound
        · rfl
        · exact hconn
        · exact AnswersWith.copyExt ⟨rfl, reply.status, rfl⟩ reply.ext

/-! ## Replies for one media -/

section Media

variable {K : MediaReplyKind} (session : RtspServerSession) (request : RtspServerPendingRequest)
  (media : Addr) (reply : MediaReply)

@[simp] theorem settleRange_entry :
    (settleRange K session request reply).1.entry = session.entry ∧
      (settleRange K session request reply).2.entry = request.entry := by
  unfold settleRange
  split
  next => exact ⟨rfl, rfl⟩
  next => exact ⟨rfl, rfl⟩

theorem settled_entry :
    (settled K session request media reply).1.entry = session.entry ∧
      (settled K session request media reply).2.entry = request.entry := by
  unfold settled
  split
  next => exact ⟨rfl, rfl⟩
  next => exact settleRange_entry session request reply

theorem settled_cseq :
    (settled K session request media reply).2.requestHeader = request.requestHeader ∧
      (settled K session request media reply).2.medias = request.medias := by
  unfold settled settleRange
  split
  next => exact ⟨rfl, rfl⟩
  next =>
    split
    next => exact ⟨rfl, rfl⟩
    next => exact ⟨rfl, rfl⟩

@[simp] theorem markReplied_media (medias : List RtspServerPendingRequestMedia) :
    (markReplied media medias).map RtspServerPendingRequestMedia.media =
      medias.map RtspServerPendingRequestMedia.media := by
  induction medias with
  | nil => rfl
  | cons m rest ih =>
      unfold markReplied
      split
      next => rfl
      next => rw [List.map_cons, List.map_cons, ih]

@[simp] theorem acceptReply_entry :
    (acceptReply K session request media reply).entry = request.entry := by
  simp [acceptReply, RtspServerPendingRequest.entry, RtspServerPendingRequest.references]

/-- The session keeps its address, its operation and its medias, and what the answer adds to
the header is neither its number nor its phrase. -/
def MediaReplyKind.Lawful (K : MediaReplyKind) : Prop :=
  ∀ session, (K.completed session).entry = session.entry ∧
    (∀ requestHeader header, (K.header session requestHeader header).cseq = header.cseq ∧
      (K.header session requestHeader header).statusString = header.statusString)

theorem playKind_lawful : playKind.Lawful := fun _ => ⟨rfl, fun _ _ => ⟨rfl, rfl⟩⟩

theorem pauseKind_lawful : pauseKind.Lawful := fun _ => ⟨rfl, fun _ _ => ⟨rfl, rfl⟩⟩

theorem recordKind_lawful : recordKind.Lawful := fun _ => ⟨rfl, fun _ _ => ⟨rfl, rfl⟩⟩

theorem teardownKind_lawful : teardownKind.Lawful := fun _ => ⟨rfl, fun _ _ => ⟨rfl, rfl⟩⟩

variable {session request media reply}

/-- A refused reply is answered with an error, unless the connection is closed. -/
theorem judgeReply_refused
    {ret errorStatus : Int}
    (h : judgeReply K session request media reply = .refused ret errorStatus) :
    request.conn.isSome → errorStatus ≠ 0 := by
  intro hconn
  have hinternal : internalServerError ≠ 0 := by decide
  unfold judgeReply at h
  split at h
  next hnone => simp_all
  next =>
    split at h
    next hfailure =>
      cases h
      exact statusIsFailure_zero hfailure
    next =>
      split at h
      next => cases h; exact hinternal
      next =>
        split at h
        next => cases h; exact hinternal
        next =>
          split at h
          next => cases h; exact hinternal
          next =>
            split at h
            next => cases h; exact hinternal
            next => simp at h

theorem replyAttempt_sound
    (hlawful : K.Lawful) {session' : RtspServerSession} {attempt : Attempt}
    (h : replyAttempt P env server K session request media reply = some (session', attempt)) :
    session'.entry = session.entry ∧ attempt.Sound env request := by
  obtain ⟨hsession, hrequest⟩ := settled_entry (K := K) session request media reply
  unfold replyAttempt at h
  dsimp only at h
  split at h
  next ret errorStatus hverdict =>
    simp only [Option.some.injEq, Prod.mk.injEq] at h
    obtain ⟨rfl, rfl⟩ := h
    exact ⟨hsession, .failed hrequest (judgeReply_refused hverdict)⟩
  next => simp at h
  next conn _ hconn =>
    split at h
    next =>
      simp only [Option.some.injEq, Prod.mk.injEq] at h
      obtain ⟨rfl, rfl⟩ := h
      refine ⟨(hlawful _).1.trans hsession, ?_⟩
      apply attemptResponse_sound
      · exact (acceptReply_entry (K := K) (settled K session request media reply).1
          (settled K session request media reply).2 media reply).trans hrequest
      · exact hconn
      · obtain ⟨hcseq, hreason⟩ := (hlawful (K.completed
          (settled K session request media reply).1)).2
          (settled K session request media reply).2.requestHeader
          (fillAnswer env server reply.status (acceptReply K
            (settled K session request media reply).1
            (settled K session request media reply).2 media reply)).responseHeader
        refine AnswersWith.copyExt ⟨hcseq.trans ?_, reply.status, hreason⟩ reply.ext
        exact congrArg RtspRequestHeader.cseq (settled_cseq session request media reply).1
    next => simp at h

end Media

end Answers

end Librtsp
