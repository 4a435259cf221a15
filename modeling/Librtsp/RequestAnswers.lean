import Librtsp.ClientReconnect
import Librtsp.Numerals

/-!
# The answers to requests of the server

The client answers a request at the end of `rtsp_client_request_process`, after the callback
of the application.  The answer is left to do from the moment the request is read, and is
sent once before the receive loop goes on.  Nothing is left to do for a TEARDOWN whose session
or path is not found, and a session the client does not have is not looked up otherwise.  A
callback that is missing, or one that removes what the request is about, halts the client
before it answers.
-/

namespace Librtsp

open CString RecordList

/-! ## What is claimed of an answer -/

/-- The responses sent among these events, with their texts. -/
def answersIn (events : List ClientEvent) : List (RtspResponseHeader × Bytes) :=
  events.filterMap fun
    | .answered header message => some (header, message)
    | _ => none

@[simp] theorem answersIn_nil : answersIn [] = [] := rfl

@[simp] theorem answersIn_append (events events' : List ClientEvent) :
    answersIn (events ++ events') = answersIn events ++ answersIn events' :=
  List.filterMap_append

/-- The text of a response up to the line with its number. -/
def responseHead (status : Int) (reason : Bytes) (cseq : Int32) : Bytes :=
  rtspVersion ++ ascii " " ++ formatInt status ++ ascii " " ++ reason ++ rtspCrlf ++
    (ascii "CSeq: " ++ formatInt cseq.toInt ++ rtspCrlf)

/-- The request names a session the client does not have. -/
def NamesUnknownSession (client : RtspClient) (header : RtspRequestHeader) : Prop :=
  header.sessionId.isSome = true ∧ rtspClientSessionFind client header.sessionId = none

def Supported (method : RtspMethodType) : Prop :=
  method = .announce ∨ method = .getParameter ∨ method = .teardown

/-- One response was sent, with the number of the request, and with an error status if the
method is not supported or the session is not known. -/
def AnsweredOnce (client : RtspClient) (header : RtspRequestHeader)
    (sent : List (RtspResponseHeader × Bytes)) : Prop :=
  ∃ response message reason, sent = [(response, message)] ∧ response.statusString = some reason ∧
    responseHead response.statusCode reason header.cseq <+: message ∧
    (¬ Supported header.method ∨ NamesUnknownSession client header → 400 ≤ response.statusCode)

/-- The path of the URI can be read. -/
def HasPath (uri : Option Bytes) : Prop :=
  ∃ path, rtspUrlParsePath uri = .ok (some path)

/-- The number of the request is written, a TEARDOWN is for a session of the client and has a
path, and no other request that is carried out names a session the client does not have. -/
def Answerable (client : RtspClient) (header : RtspRequestHeader) (body : Bytes) : Prop :=
  0 ≤ header.cseq ∧
    match header.method with
    | .announce => ¬ NamesUnknownSession client header
    | .getParameter => body = [] → ¬ NamesUnknownSession client header
    | .teardown =>
        (rtspClientSessionFind client header.sessionId).isSome = true ∧ HasPath header.uri
    | _ => True

/-! ## Answers left to do -/

/-- The answers that are left to do. -/
def owed (tasks : List ClientTask) : List (RtspRequestHeader × Int) :=
  tasks.filterMap fun
    | .answer header status => some (header, status)
    | _ => none

@[simp] theorem owed_nil : owed [] = [] := rfl

@[simp] theorem owed_append (tasks tasks' : List ClientTask) :
    owed (tasks ++ tasks') = owed tasks ++ owed tasks' :=
  List.filterMap_append

theorem owed_cons (task : ClientTask) (tasks : List ClientTask) :
    owed (task :: tasks) = owed [task] ++ owed tasks :=
  owed_append [task] tasks

theorem Progress.andThen_owed (p : Progress) (tasks : List ClientTask) :
    owed (p.andThen tasks).tasks = owed p.tasks ++ owed tasks :=
  owed_append _ _

section Functions

variable {env : ClientEnv} {client : RtspClient} {p : Progress}

theorem setConnectionState_owed (client : RtspClient) (state : RtspClientConnState) :
    owed (setConnectionState client state).tasks = [] := by
  unfold setConnectionState
  split
  next => rfl
  next => rfl

theorem removeSession_owed (client : RtspClient) (sessionId : Option Bytes) (statusCode : Int) :
    owed (rtspClientRemoveSessionInternal client sessionId statusCode).tasks = [] := by
  unfold rtspClientRemoveSessionInternal
  split
  next => rfl
  next => rfl

theorem sendKeepAlive_owed {P : Platform} {session : RtspClientSession}
    (h : sendKeepAlive P env client session = .ok p) : owed p.tasks = [] := by
  rcases sendKeepAlive_tasks h with hnone | ⟨client', sessionId, statusCode, rfl⟩
  · rw [hnone]
    rfl
  · exact removeSession_owed _ _ _

theorem keepAliveFor_owed {P : Platform} {session : Option RtspClientSession}
    (h : keepAliveFor P env client session = .ok p) : owed p.tasks = [] := by
  unfold keepAliveFor at h
  split at h
  next =>
    cases h
    rfl
  next session =>
    obtain ⟨p', hp, rfl⟩ := except_map_ok.mp h
    rw [Progress.andThen_owed, sendKeepAlive_owed hp]
    rfl

theorem CompletedMethod.owed {session : Option RtspClientSession} {ended : EndedRequest}
    {resp : RtspResponseHeader} {completion : Completion}
    (h : CompletedMethod client session ended resp completion p) : owed p.tasks = [] := by
  have hends : ∀ {task : ClientTask}, (task = .conclude completion ∨
      ∃ s media, session = some s ∧ task = .applyTeardown s.addr media completion) →
      Librtsp.owed [task] = [] := by
    rintro task (rfl | ⟨s, media, -, rfl⟩)
    · rfl
    · rfl
  cases h with
  | plain => rfl
  | setUp => rfl
  | notSetUp => rfl
  | silent task hmethod htask => exact hends htask
  | tornDown response task hmethod htask => exact hends htask
  | keepAlive =>
      unfold keepAliveComplete
      split
      next => rfl
      next =>
        split
        next =>
          dsimp only
          split
          next => rfl
          next => rfl
        next => rfl
  | other => rfl

theorem requestComplete_owed {resp : Option RtspResponseHeader} {body : Bytes}
    {status : RtspClientReqStatus} (h : requestComplete client resp body status = .ok p) :
    owed p.tasks = [] := by
  cases hpending : client.request.isPending with
  | false =>
      rw [requestComplete_idle hpending] at h
      cases h
      rfl
  | true =>
      rw [requestComplete_pending hpending] at h
      exact (completeMethod_cases h).owed

theorem clientDisconnected_owed (h : clientDisconnected client = .ok p) : owed p.tasks = [] := by
  unfold clientDisconnected at h
  dsimp only at h
  split at h
  next =>
    obtain ⟨p', hp, rfl⟩ := except_map_ok.mp h
    rw [Progress.andThen_owed, requestComplete_owed hp]
    rfl
  next =>
    obtain ⟨p', hp, rfl⟩ := except_map_ok.mp h
    rw [Progress.andThen_owed, requestComplete_owed hp]
    rfl
  next =>
    cases h
    rfl

theorem tsktClientStop_owed (h : tsktClientStop client = .ok p) : owed p.tasks = [] := by
  unfold tsktClientStop at h
  dsimp only at h
  split at h
  next => exact clientDisconnected_owed h
  next =>
    cases h
    rfl

theorem rtspClientConnect_owed (client : RtspClient) (addr : Option Bytes) :
    owed (rtspClientConnect env client addr).tasks = [] := by
  unfold rtspClientConnect
  split
  next => rfl
  next =>
    dsimp only
    split
    next => rfl
    next =>
      rw [Progress.andThen_owed, setConnectionState_owed]
      rfl

theorem rtspClientDisconnect_owed (client : RtspClient) :
    owed (rtspClientDisconnect client).tasks = [] := by
  unfold rtspClientDisconnect
  split
  next => rfl
  next => rfl
  next =>
    rw [Progress.andThen_owed, setConnectionState_owed]
    rfl

theorem resolveHost_owed {url : Addr} (h : resolveHost env client url = .ok p) :
    owed p.tasks = [] := by
  have hfailed : ∀ client : RtspClient,
      owed ((setConnectionState client .disconnected).andThen [.clearRemote]).tasks = [] := by
    intro client
    rw [Progress.andThen_owed, setConnectionState_owed]
    rfl
  unfold resolveHost at h
  split at h
  next => cases h
  next =>
    split at h
    next => cases h
    next =>
      dsimp only at h
      split at h
      next =>
        cases h
        exact hfailed _
      next =>
        split at h
        next =>
          cases h
          exact hfailed _
        next =>
          cases h
          rfl

theorem tornDown_owed {header : RtspRequestHeader} {session : Addr} {media : Option Addr}
    (h : tornDown client header session media = .ok p) : owed p.tasks = [] := by
  unfold tornDown at h
  split at h
  next =>
    cases h
    exact removeSession_owed _ _ _
  next =>
    split at h
    next => cases h
    next =>
      split at h
      next => cases h
      next =>
        dsimp only at h
        split at h
        next =>
          cases h
          exact removeSession_owed _ _ _
        next =>
          cases h
          rfl

theorem applyTeardown_owed {session : Addr} {media : Option Addr} {completion : Completion}
    (h : applyTeardown client session media completion = .ok p) : owed p.tasks = [] := by
  unfold applyTeardown at h
  split at h
  next =>
    cases h
    rfl
  next =>
    split at h
    next => cases h
    next =>
      split at h
      next => cases h
      next =>
        cases h
        rfl

theorem afterTeardown_owed (called : Called) (completion : Completion) :
    owed (afterTeardown called completion).tasks = [] := by
  have hremoved : ∀ (removed : Bool) (client : RtspClient) (statusCode : Int),
      owed (if removed = true then
        rtspClientRemoveSessionInternal client completion.sessionId statusCode
      else { client }).tasks = [] := by
    intro removed client statusCode
    split
    next => exact removeSession_owed _ _ _
    next => rfl
  unfold afterTeardown
  dsimp only
  rw [Progress.andThen_owed, hremoved]
  rfl

theorem countFailure_owed {status : RtspClientReqStatus} (h : countFailure client status = .ok p) :
    owed p.tasks = [] := by
  unfold countFailure at h
  split at h
  next =>
    dsimp only at h
    split at h
    next =>
      obtain ⟨p', hp, rfl⟩ := except_map_ok.mp h
      rw [Progress.andThen_owed, tsktClientStop_owed hp]
      rfl
    next =>
      cases h
      rfl
  next =>
    cases h
    rfl

theorem stopTransport_owed {alreadyDisconnected : Bool}
    (h : stopTransport client alreadyDisconnected = .ok p) : owed p.tasks = [] := by
  unfold stopTransport at h
  obtain ⟨p', hp, rfl⟩ := except_map_ok.mp h
  rw [Progress.andThen_owed, tsktClientStop_owed hp]
  split
  next => rfl
  next => rfl

theorem removeFrom_owed {session : Option Addr} (h : removeFrom client session = .ok p) :
    owed p.tasks = [] := by
  unfold removeFrom at h
  split at h
  next =>
    cases h
    rfl
  next =>
    split at h
    next => cases h
    next =>
      obtain ⟨next, -, h⟩ := except_bind_ok.mp h
      cases h
      rw [Progress.andThen_owed, removeSession_owed]
      rfl

theorem reconnect_owed (client : RtspClient) : owed (reconnect env client).tasks = [] := by
  unfold reconnect
  split
  next => rfl
  next => rfl

theorem callProgress_owed {P : Platform} {input : ClientInput}
    (h : callProgress P env client input = .ok p) : owed p.tasks = [] := by
  cases input with
  | call call =>
      obtain ⟨called, -, rfl⟩ := except_map_ok.mp h
      rfl
  | cancel => exact requestComplete_owed h
  | removeSession sessionId =>
      cases h
      exact removeSession_owed _ _ _
  | connect addr =>
      cases h
      exact rtspClientConnect_owed client addr
  | disconnect =>
      cases h
      exact rtspClientDisconnect_owed client
  | _ => cases h

/-- Below the receive loop no task makes an answer owed. -/
theorem runTask_owed {E : HeaderEdit} {P : Platform} {task : ClientTask} (hne : task ≠ .receive)
    (h : runTask E P env client task = .ok p) : owed p.tasks = [] := by
  cases task with
  | inCallback => cases h
  | receive => exact absurd rfl hne
  | consume totalLen =>
      cases h
      rfl
  | answer header status =>
      cases h
      unfold answerRequest
      dsimp only
      split
      next => rfl
      next =>
        split
        next => rfl
        next => rfl
  | tornDown header session media => exact tornDown_owed h
  | addMedia session uri pair =>
      rw [addMedia_plain h]
      rfl
  | teardownReported session =>
      rw [teardownReported_plain h]
      rfl
  | applyTeardown session media completion => exact applyTeardown_owed h
  | conclude completion =>
      obtain ⟨called, -, rfl⟩ := except_map_ok.mp h
      exact afterTeardown_owed called completion
  | countFailure status => exact countFailure_owed h
  | setState state =>
      cases h
      exact setConnectionState_owed client state
  | reconnect =>
      cases h
      exact reconnect_owed client
  | unlinkSession session =>
      rw [unlinkSession_plain h]
      rfl
  | sendKeepAlive session =>
      unfold runTask at h
      dsimp only at h
      split at h
      next => cases h
      next session' hsession => exact sendKeepAlive_owed h
  | keepAliveAll => exact keepAliveFor_owed h
  | keepAliveAfter session =>
      obtain ⟨next, -, h⟩ := except_bind_ok.mp h
      exact keepAliveFor_owed h
  | resolveHost url => exact resolveHost_owed h
  | clearRemote =>
      cases h
      rfl
  | stopTransport alreadyDisconnected => exact stopTransport_owed h
  | finishDisconnect =>
      obtain ⟨p', hp, rfl⟩ := except_map_ok.mp h
      rw [Progress.andThen_owed, requestComplete_owed hp]
      rfl
  | removeAll => exact removeFrom_owed h
  | removeFrom session => exact removeFrom_owed h

/-- The status of the answer that is left to do when a request was read. -/
def requestStatus (client : RtspClient) (header : RtspRequestHeader) (body : Bytes) : Option Int :=
  match header.method with
  | .announce => some 200
  | .getParameter => some (if body = [] then 200 else 501)
  | .teardown =>
      if (rtspClientSessionFind client header.sessionId).isSome then
        match rtspUrlParsePath header.uri with
        | .ok (some _) => some 200
        | _ => none
      else none
  | _ => some 501

theorem teardownRequestProcess_owed {header : RtspRequestHeader}
    (h : teardownRequestProcess client header = .ok p) :
    owed p.tasks =
      ((if (rtspClientSessionFind client header.sessionId).isSome then
        match rtspUrlParsePath header.uri with
        | .ok (some _) => some 200
        | _ => none
      else none).map fun status : Int => (header, status)).toList := by
  unfold teardownRequestProcess at h
  split at h
  next hfind =>
    cases h
    rw [hfind]
    rfl
  next session hfind =>
    rw [hfind]
    split at h
    next hpath =>
      cases h
      rw [hpath]
      rfl
    next hpath =>
      cases h
      rw [hpath]
      rfl
    next path hpath =>
      rw [hpath]
      split at h
      next => cases h
      next base hbase =>
        dsimp only at h
        by_cases hcallback : client.cbs.teardown = true
        · rw [if_pos hcallback] at h
          cases h
          rfl
        · rw [if_neg hcallback] at h
          cases h

theorem rtspClientRequestProcess_owed {header : RtspRequestHeader} {body : Bytes}
    (h : rtspClientRequestProcess client header body = .ok p) :
    owed p.tasks =
      ((requestStatus client header body).map fun status => (header, status)).toList := by
  unfold rtspClientRequestProcess at h
  split at h
  next hmethod =>
    obtain ⟨contentBase, -, h⟩ := except_bind_ok.mp h
    cases h
    unfold requestStatus
    rw [hmethod]
    rfl
  next hmethod =>
    cases h
    unfold requestStatus
    rw [hmethod]
    rfl
  next hmethod =>
    unfold requestStatus
    rw [hmethod]
    exact teardownRequestProcess_owed h
  next hannounce hgetParameter hteardown =>
    cases h
    unfold requestStatus
    split
    next hmethod => exact absurd hmethod hannounce
    next hmethod => exact absurd hmethod hgetParameter
    next hmethod => exact absurd hmethod hteardown
    next => rfl

end Functions

/-! ## Sending what is owed -/

/-- Dates can be written, in the buffer of 32 bytes. -/
def Platform.FormatsDates (P : Platform) : Prop :=
  ∀ date, ∃ text, P.timeLocalFormat .rfc1123 date = .ok text ∧ text.length < 32

/-- The response to a request, as it was written. -/
def Answers (P : Platform) (owed : RtspRequestHeader × Int)
    (sent : RtspResponseHeader × Bytes) : Prop :=
  sent.1.statusCode = owed.2 ∧ sent.1.statusString = some (rtspStatusGet owed.2).2 ∧
    ∃ date, printed (responsePieces P
      { cseq := owed.1.cseq
        statusCode := owed.2
        statusString := some (rtspStatusGet owed.2).2
        date }) = some sent.2

/-- The answer that is next to be sent can be sent. -/
def Sends (s : ClientState) (input : ClientEnv × ClientInput) : Prop :=
  owed (s.tasks.take 1) ≠ [] → input.1.send = .ok () ∧ s.client.sock = true

instance (s : ClientState) (input : ClientEnv × ClientInput) : Decidable (Sends s input) :=
  inferInstanceAs (Decidable (_ → _))

theorem formatInt_length (n : Int32) : (formatInt n.toInt).length ≤ 11 := by
  have hmax := n.toInt_lt
  have hmin := n.le_toInt
  cases hn : n.toInt with
  | ofNat k =>
      rw [hn, Int.ofNat_eq_natCast] at hmax
      have hdigits : (formatNat k).length ≤ 10 :=
        (formatNat_length_le_iff (by decide)).mpr (by omega)
      exact hdigits.trans (by decide)
  | negSucc k =>
      rw [hn] at hmin
      have hdigits : (formatNat (k + 1)).length ≤ 10 :=
        (formatNat_length_le_iff (by decide)).mpr (by omega)
      rw [formatInt, List.length_cons]
      omega

section Text

variable {P : Platform} {status : Int} {cseq : Int32} {date : UInt64}

/-- The status line of an answer. -/
def answerLine (status : Int) : Bytes :=
  rtspVersion ++ ascii " " ++ formatInt status ++ ascii " " ++ (rtspStatusGet status).2 ++ rtspCrlf

/-- A response with a number, a status and a date has no other fields but its length. -/
theorem responseFieldPieces_answer (statusCode : Int) (statusString : Option Bytes) :
    responseFieldPieces P { cseq, statusCode, statusString, date } =
      cseqWrite cseq ++ (dateWrite P date ++ [.ok (ascii "Content-Length: 0\r\n")]) := by
  have hscale : scaleWrite P 0 = [] := rfl
  have hrange : rangeFieldWrite P {} = [] := rfl
  have hlength : contentLengthWrite 0 = [.ok (ascii "Content-Length: 0\r\n")] := rfl
  unfold responseFieldPieces
  dsimp only
  rw [hscale, hrange, hlength]
  simp [sessionFieldWrite, fieldWrite, nonEmpty, extWrite]

theorem answerPieces_eq (hstatus : status = 200 ∨ status = 501) :
    responsePieces P
        { cseq, statusCode := status, statusString := some (rtspStatusGet status).2, date } =
      .ok (answerLine status) ::
        (cseqWrite cseq ++ (dateWrite P date ++
          [.ok (ascii "Content-Length: 0\r\n"), .ok rtspCrlf])) := by
  have hzero : status ≠ 0 := by
    rcases hstatus with rfl | rfl
    · decide
    · decide
  have hreason : nonEmpty (some (rtspStatusGet status).2) = some (rtspStatusGet status).2 := by
    rcases hstatus with rfl | rfl
    · decide
    · decide
  unfold responsePieces
  dsimp only
  rw [if_neg hzero, hreason, responseFieldPieces_answer]
  change .ok (answerLine status) ::
    (cseqWrite cseq ++ (dateWrite P date ++ [.ok (ascii "Content-Length: 0\r\n")]) ++
      [.ok rtspCrlf]) = _
  rw [List.append_assoc, List.append_assoc]
  rfl

/-- The text of an answer begins with its status line and the line with its number. -/
theorem answer_printed (hdates : P.FormatsDates) (hstatus : status = 200 ∨ status = 501) :
    ∃ numberLine dateLine,
      printed (responsePieces P
        { cseq, statusCode := status, statusString := some (rtspStatusGet status).2, date }) =
        some (answerLine status ++
          (numberLine ++ (dateLine ++ ascii "Content-Length: 0\r\n\r\n"))) ∧
      numberLine.length ≤ 19 ∧ dateLine.length ≤ 40 ∧
      (0 ≤ cseq → numberLine = ascii "CSeq: " ++ formatInt cseq.toInt ++ rtspCrlf) ∧
      (¬0 ≤ cseq → numberLine = []) ∧ (dateLine = [] ∨ ascii "D" <+: dateLine) := by
  obtain ⟨text, htext, hlength⟩ := hdates date
  have hnumber : ∃ numberLine, (∀ rest, printed (cseqWrite cseq ++ rest) =
      (printed rest).map (numberLine ++ ·)) ∧ numberLine.length ≤ 19 ∧
      (0 ≤ cseq → numberLine = ascii "CSeq: " ++ formatInt cseq.toInt ++ rtspCrlf) ∧
      (¬0 ≤ cseq → numberLine = []) := by
    unfold cseqWrite
    by_cases hcseq : 0 ≤ cseq
    · rw [if_pos hcseq]
      refine ⟨_, fun rest => rfl, ?_, fun _ => rfl, fun h => absurd hcseq h⟩
      have hdigits := formatInt_length cseq
      simp only [List.length_append]
      change 6 + (formatInt cseq.toInt).length + 2 ≤ 19
      omega
    · rw [if_neg hcseq]
      exact ⟨[], fun rest => by simp, by decide, fun h => absurd h hcseq, fun _ => rfl⟩
  have hdate : ∃ dateLine, (∀ rest, printed (dateWrite P date ++ rest) =
      (printed rest).map (dateLine ++ ·)) ∧ dateLine.length ≤ 40 ∧
      (dateLine = [] ∨ ascii "D" <+: dateLine) := by
    unfold dateWrite
    by_cases hset : 0 < date
    · rw [if_pos hset, htext]
      refine ⟨_, fun rest => rfl, ?_, .inr ?_⟩
      · simp only [List.length_append]
        change 6 + text.length + 2 ≤ 40
        omega
      · exact ⟨ascii "ate: " ++ text ++ rtspCrlf, rfl⟩
    · rw [if_neg hset]
      exact ⟨[], fun rest => by simp, by decide, .inl rfl⟩
  obtain ⟨numberLine, hnumberLine, hshort, hwritten, hnone⟩ := hnumber
  obtain ⟨dateLine, hdateLine, hshort', hdated⟩ := hdate
  refine ⟨numberLine, dateLine, ?_, hshort, hshort', hwritten, hnone, hdated⟩
  rw [answerPieces_eq hstatus, printed_ok, hnumberLine, hdateLine]
  rfl

theorem answerLine_length (hstatus : status = 200 ∨ status = 501) :
    (answerLine status).length ≤ 40 := by
  rcases hstatus with rfl | rfl
  · decide
  · decide

/-- The answer that is left to do is sent when the connection takes it. -/
theorem answerRequest_answers {env : ClientEnv} {client : RtspClient} {header : RtspRequestHeader}
    (hdates : P.FormatsDates) (hstatus : status = 200 ∨ status = 501)
    (hsend : env.send = .ok ()) (hsock : client.sock = true) :
    ∃ sent, answersIn (answerRequest P env client header status).events = [sent] ∧
      Answers P (header, status) sent := by
  obtain ⟨numberLine, dateLine, hprinted, hnumber, hdate, -⟩ :=
    @answer_printed P status header.cseq env.now hdates hstatus
  have hline := answerLine_length hstatus
  have hwrite := @rtspPrint_room _ { maxLen := clientBufferSize } _ hprinted (by decide) (by
    simp only [List.length_append, List.length_nil]
    change 0 + ((answerLine status).length +
      (numberLine.length + (dateLine.length + 21))) < 4095
    omega)
  unfold answerRequest rtspResponseHeaderWrite
  dsimp only
  rw [hwrite]
  dsimp only
  rw [hsock, hsend]
  exact ⟨_, rfl, rfl, rfl, env.now, hprinted⟩

end Text

/-! ## Steps that send no answer -/

theorem accept_answers (called : Called) (method : RtspMethodType) (userdata : Nat) :
    answersIn (called.accept method userdata).events = answersIn called.events := by
  unfold Called.accept
  split
  next => rfl
  next => simp [answersIn]

theorem CallOutcome.unanswered {env : ClientEnv} {client : RtspClient} {method : RtspMethodType}
    {userdata : Nat} {timeoutMs : UInt32} {internal : Bool} {stages : CallStages}
    {marked : Option RtspClientSession} {called : Called}
    (h : CallOutcome env client method userdata timeoutMs internal stages marked called) :
    answersIn called.events = [] := by
  cases h with
  | refused => rfl
  | claimed => rfl
  | unnumbered => rfl
  | unsent => rfl
  | sent => rfl
  | tearsDown => rfl

theorem CompletedMethod.unanswered {client : RtspClient} {session : Option RtspClientSession}
    {ended : EndedRequest} {resp : RtspResponseHeader} {completion : Completion} {p : Progress}
    (h : CompletedMethod client session ended resp completion p) : answersIn p.events = [] := by
  cases h with
  | keepAlive =>
      unfold keepAliveComplete
      split
      next => rfl
      next =>
        split
        next =>
          dsimp only
          split
          next => rfl
          next => rfl
        next => rfl
  | _ => rfl

theorem ClientChange.unanswered {env : ClientEnv} {kinds : List ChangeKind}
    {client client' : RtspClient} {events : List ClientEvent}
    (h : ClientChange env kinds client events client') (hkind : .answer ∉ kinds) :
    answersIn events = [] := by
  induction h with
  | trans hab hbc ihab ihbc => rw [answersIn_append, ihab, ihbc, List.append_nil]
  | answered hanswer => exact absurd hanswer hkind
  | called hcall call houtcome => rw [accept_answers, houtcome.unanswered]
  | tearsDown hteardown houtcome => exact houtcome.unanswered
  | completed hcompletion resp status hpending hcompleted => exact hcompleted.unanswered
  | keptAlive hkeep hfind hpending hstate hheader hsession hagent hevents =>
      rcases hevents with rfl | ⟨message, rfl⟩
      · rfl
      · rfl
  | _ => rfl

theorem ClientInput.kinds_answer (input : ClientInput) : .answer ∉ input.kinds := by
  cases input <;> simp [ClientInput.kinds]

/-! ## Steps of the processing -/

section Steps

variable {E : HeaderEdit} {P : Platform}

/-- The answers owed are sent in order, or left. -/
structure Settles (P : Platform) (tasks tasks' : List ClientTask) (events : List ClientEvent) :
    Prop where
  sent : ∃ done, owed tasks = done ++ owed tasks' ∧
    List.Forall₂ (Answers P) done (answersIn events)

theorem Settles.of_none {tasks tasks' : List ClientTask} {events : List ClientEvent}
    (howed : owed tasks' = owed tasks) (hevents : answersIn events = []) :
    Settles P tasks tasks' events :=
  ⟨[], howed.symm, hevents ▸ .nil⟩

theorem Settles.trans {a b c : List ClientTask} {events events' : List ClientEvent}
    (hab : Settles P a b events) (hbc : Settles P b c events') :
    Settles P a c (events ++ events') := by
  obtain ⟨first, hfirst, hsent⟩ := hab.sent
  obtain ⟨second, hsecond, hsent'⟩ := hbc.sent
  refine ⟨first ++ second, ?_, ?_⟩
  · rw [hfirst, hsecond, List.append_assoc]
  · rw [answersIn_append]
    exact List.rel_append hsent hsent'

/-- What is owed are answers the client gives. -/
def OwesAnswers (tasks : List ClientTask) : Prop :=
  ∀ answer ∈ owed tasks, answer.2 = 200 ∨ answer.2 = 501

theorem Settles.owes {tasks tasks' : List ClientTask} {events : List ClientEvent}
    (h : Settles P tasks tasks' events) (howes : OwesAnswers tasks) : OwesAnswers tasks' := by
  obtain ⟨done, hdone, -⟩ := h.sent
  intro answer hanswer
  refine howes answer ?_
  rw [hdone]
  exact List.mem_append_right _ hanswer

/-- A task that is taken sends its answer, or makes none owed. -/
theorem runTask_settles {env : ClientEnv} {client : RtspClient} {task : ClientTask}
    {above : List ClientTask} {p : Progress} (hdates : P.FormatsDates) (hwf : client.WellFormed)
    (hne : task ≠ .receive) (howes : OwesAnswers (task :: above))
    (hsends : owed [task] ≠ [] → env.send = .ok () ∧ client.sock = true)
    (h : runTask E P env client task = .ok p) :
    Settles P (task :: above) (p.tasks ++ above) p.events := by
  have howed : owed (p.tasks ++ above) = owed above := by
    rw [owed_append, runTask_owed hne h, List.nil_append]
  by_cases hanswer : ∃ header status, task = .answer header status
  · obtain ⟨header, status, rfl⟩ := hanswer
    have hstatus : status = 200 ∨ status = 501 := howes (header, status) (List.mem_cons_self)
    obtain ⟨hsend, hsock⟩ := hsends (List.cons_ne_nil _ _)
    cases h
    obtain ⟨sent, hsent, hanswers⟩ :=
      @answerRequest_answers P status env client header hdates hstatus hsend hsock
    refine ⟨[(header, status)], ?_, ?_⟩
    · rw [howed]
      rfl
    · rw [hsent]
      exact .cons hanswers .nil
  · have hkind : .answer ∉ task.kinds := by
      cases task with
      | answer header status => exact absurd ⟨header, status, rfl⟩ hanswer
      | _ => simp [ClientTask.kinds]
    have hnone : owed [task] = [] := by
      cases task with
      | answer header status => exact absurd ⟨header, status, rfl⟩ hanswer
      | _ => rfl
    refine .of_none ?_ ((runTask_changes hwf h).unanswered hkind)
    rw [howed, owed_cons task above, hnone, List.nil_append]

/-- A step above the receive loop. -/
theorem clientStep_settles {s s' : ClientState} {env : ClientEnv} {input : ClientInput}
    {above below : List ClientTask} (hdates : P.FormatsDates) (hwf : s.client.WellFormed)
    (htasks : s.tasks = above ++ below) (hne : above ≠ [])
    (habove : PlainOrTeardown s.client above) (howes : OwesAnswers above)
    (hsends : Sends s (env, input)) (h : clientStep E P env s input = .ok s') :
    ∃ above' events, s'.tasks = above' ++ below ∧ s'.events = s.events ++ events ∧
      PlainOrTeardown s'.client above' ∧ Settles P above above' events := by
  obtain ⟨task, rest, rfl⟩ := List.exists_cons_of_ne_nil hne
  cases clientStep_cases h with
  | loop hnone => rw [htasks] at hnone; cases hnone
  | returns hcallback hinput =>
      rw [htasks] at hcallback
      cases hcallback
      exact ⟨rest, [], rfl, (List.append_nil _).symm, .inl habove.head.1, .of_none rfl rfl⟩
  | @inCallback rest' p hcallback hp =>
      have hplain : AllPlain (task :: rest) := by
        rw [htasks] at hcallback
        cases hcallback
        exact .cons trivial habove.head.1
      refine ⟨p.tasks ++ task :: rest, p.events, ?_, rfl, ?_, .of_none ?_ ?_⟩
      · rw [ClientState.after, htasks, List.append_assoc]
      · exact (callProgress_orderly hwf hp).append hplain
      · rw [owed_append, callProgress_owed hp, List.nil_append]
      · exact (callProgress_changes hwf hp).unanswered input.kinds_answer
  | @task task' rest' p hhead hcallback hinput hp =>
      rw [htasks] at hhead
      cases hhead
      have hreceive : task ≠ .receive := by
        rintro rfl
        rcases habove.head.2 with hplain | ⟨completion, hconclude, -⟩
        · exact hplain
        · cases hconclude
      have hsends' : owed [task] ≠ [] → env.send = .ok () ∧ s.client.sock = true := by
        intro howed
        refine hsends ?_
        rw [htasks]
        exact howed
      refine ⟨p.tasks ++ rest, p.events, (List.append_assoc _ _ _).symm, rfl, ?_,
        runTask_settles hdates hwf hreceive howes hsends' hp⟩
      exact PlainOrTeardown.append (runTask_orderly hwf habove.head.2 hp) habove.head.1

/-! ## The processing of one request -/

/-- The receive loop is about to go on behind a message. -/
def AtLoop (tasks : List ClientTask) : Prop :=
  ∃ totalLen, tasks = [.consume totalLen, .receive]

def consumedLen : List ClientTask → Nat
  | .consume totalLen :: _ => totalLen
  | _ => 0

instance (tasks : List ClientTask) : Decidable (AtLoop tasks) :=
  decidable_of_iff (tasks = [.consume (consumedLen tasks), .receive])
    ⟨fun h => ⟨_, h⟩, fun ⟨_, h⟩ => by rw [h]; rfl⟩

theorem run_settles {s s' : ClientState} {inputs : List (ClientEnv × ClientInput)}
    {above : List ClientTask} {totalLen : Nat} (hdates : P.FormatsDates)
    (hwf : s.client.WellFormed) (htasks : s.tasks = above ++ [.consume totalLen, .receive])
    (habove : PlainOrTeardown s.client above) (howes : OwesAnswers above)
    (hinside : Execution.Guarded (clientEnvStep E P) (fun t _ => ¬ AtLoop t.tasks) s inputs)
    (hsends : Execution.Guarded (clientEnvStep E P) Sends s inputs)
    (hrun : Execution.run (clientEnvStep E P) s inputs = .ok s') (hloop : AtLoop s'.tasks) :
    ∃ events, s'.events = s.events ++ events ∧
      List.Forall₂ (Answers P) (owed above) (answersIn events) := by
  induction inputs generalizing s above with
  | nil =>
      cases hrun
      obtain ⟨totalLen', hloop⟩ := hloop
      rw [htasks] at hloop
      have hnone : above = [] := by
        have hlength := congrArg List.length hloop
        rw [List.length_append] at hlength
        exact List.length_eq_zero_iff.mp (by simpa using hlength)
      rw [hnone]
      exact ⟨[], (List.append_nil _).symm, .nil⟩
  | cons input inputs ih =>
      obtain ⟨t, hstep, hrest⟩ := Execution.run_cons_ok hrun
      have hne : above ≠ [] := by
        rintro rfl
        exact hinside.1 ⟨totalLen, htasks⟩
      obtain ⟨above', events, htasks', hevents, habove', hsettles⟩ :=
        clientStep_settles hdates hwf htasks hne habove howes hsends.1 hstep
      obtain ⟨events', hevents', hsent'⟩ :=
        ih (clientEnvStep_wellFormed hwf hstep) htasks' habove' (hsettles.owes howes)
          (hinside.2 t hstep) (hsends.2 t hstep) hrest
      obtain ⟨done, hdone, hsent⟩ := hsettles.sent
      refine ⟨events ++ events', ?_, ?_⟩
      · rw [hevents', hevents, List.append_assoc]
      · rw [hdone, answersIn_append]
        exact List.rel_append hsent hsent'

variable (E P) in
/-- The message the receive loop reads next. -/
def nextDelivery (receiver : Receiver) : Option Delivery :=
  match rtspGetNextMessage E P receiver.buf receiver.ctx with
  | .error _ => none
  | .ok next => next.result.toOption.map fun message => message.delivery next.data

theorem receiveMessage_next {client : RtspClient} {delivery : Delivery}
    (h : nextDelivery E P client.receiver = some delivery) :
    ∃ receiver totalLen, receiveMessage E P client =
      (processDelivery { client with receiver } delivery).map fun p =>
        { p.andThen [.consume totalLen, .receive] with
          events := .delivered delivery :: p.events } := by
  unfold nextDelivery at h
  unfold receiveMessage
  cases hnext : rtspGetNextMessage E P client.receiver.buf client.receiver.ctx with
  | error f =>
      rw [hnext] at h
      cases h
  | ok next =>
      rw [hnext] at h
      dsimp only at h ⊢
      cases hresult : next.result with
      | error e =>
          rw [hresult] at h
          cases h
      | ok message =>
          rw [hresult] at h
          cases h
          exact ⟨{ buf := next.data, ctx := next.ctx }, next.totalLen, rfl⟩

/-- The turn of the receive loop that reads a request is its processing. -/
theorem receive_step {s : ClientState} (env : ClientEnv) {header : RtspRequestHeader}
    {body : Bytes} (horderly : Orderly s.client s.tasks)
    (hloop : s.tasks.head? = some .receive)
    (hnext : nextDelivery E P s.client.receiver = some (.text (.request header) body)) :
    ∃ receiver totalLen, clientEnvStep E P s (env, .resume) =
      (rtspClientRequestProcess { s.client with receiver } header body).map fun p =>
        s.after []
          { p.andThen [.consume totalLen, .receive] with
            events := .delivered (.text (.request header) body) :: p.events } := by
  obtain ⟨rest, htasks⟩ : ∃ rest, s.tasks = .receive :: rest := by
    cases htasks : s.tasks with
    | nil =>
        rw [htasks] at hloop
        cases hloop
    | cons task rest =>
        rw [htasks] at hloop
        cases hloop
        exact ⟨rest, rfl⟩
  have hrest : rest = [] := by
    obtain ⟨above, below, heq, habove, hbelow⟩ := horderly
    rw [htasks] at heq
    cases above with
    | nil =>
        rw [List.nil_append] at heq
        subst heq
        rcases hbelow with hnone | hone | ⟨totalLen, htwo⟩
        · cases hnone
        · cases hone
          rfl
        · cases htwo
    | cons task above =>
        cases heq
        rcases habove.head.2 with hplain | ⟨completion, hconclude, -⟩
        · exact absurd hplain id
        · cases hconclude
  obtain ⟨receiver, totalLen, hreceive⟩ := receiveMessage_next hnext
  refine ⟨receiver, totalLen, ?_⟩
  unfold clientEnvStep clientStep
  rw [htasks, hrest]
  dsimp only
  change (receiveMessage E P s.client).map (s.after []) = _
  rw [hreceive]
  change (Except.map _ (rtspClientRequestProcess _ header body)).map _ = _
  cases rtspClientRequestProcess { s.client with receiver } header body with
  | error halt => rfl
  | ok p => rfl

/-- The turn of the receive loop that reads a request leaves its answer to do. -/
theorem receive_owes {s taken : ClientState} {env : ClientEnv} {header : RtspRequestHeader}
    {body : Bytes} (hwf : s.client.WellFormed) (horderly : Orderly s.client s.tasks)
    (hloop : s.tasks.head? = some .receive)
    (hnext : nextDelivery E P s.client.receiver = some (.text (.request header) body))
    (h : clientEnvStep E P s (env, .resume) = .ok taken) :
    ∃ above totalLen events, taken.tasks = above ++ [.consume totalLen, .receive] ∧
      taken.events = s.events ++ events ∧ answersIn events = [] ∧
      PlainOrTeardown taken.client above ∧
      owed above =
        ((requestStatus s.client header body).map fun status => (header, status)).toList := by
  obtain ⟨receiver, totalLen, hstep⟩ := receive_step env horderly hloop hnext
  rw [hstep] at h
  obtain ⟨p, hp, rfl⟩ := except_map_ok.mp h
  have hwf' : ({ s.client with receiver } : RtspClient).WellFormed := hwf.of_sessions rfl le_rfl
  have hp' : processDelivery { s.client with receiver } (.text (.request header) body) = .ok p := hp
  have hchange : p.Changes env [.completion] _ := processDelivery_changes (.head _) hwf' hp'
  refine ⟨p.tasks, totalLen, _, ?_, rfl, ?_, processDelivery_orderly hp' hwf', ?_⟩
  · rw [ClientState.after, List.append_nil]
    rfl
  · exact hchange.unanswered (by decide)
  · exact @rtspClientRequestProcess_owed { s.client with receiver } _ _ _ hp

theorem run_orderly {softwareName : Option Bytes} {cbs : RtspClientCbs} {s : ClientState}
    {inputs : List (ClientEnv × ClientInput)}
    (h : Execution.run (clientEnvStep E P) (clientStart softwareName cbs) inputs = .ok s) :
    Orderly s.client s.tasks := by
  refine (Execution.invariant (fun s => s.client.WellFormed ∧ Orderly s.client s.tasks)
    (fun s input s' hs _ hstep => ?_) ⟨RtspClient.WellFormed.new softwareName cbs, .nil _⟩
    (@Execution.guarded_of_forall _ _ _ _ (fun _ _ => True) (fun _ _ => trivial) _ _) h).2
  exact ⟨clientEnvStep_wellFormed hs.1 hstep, clientStep_orderly hs.1 hs.2 hstep⟩

variable (E P) in
/-- A turn of the receive loop reads a request.  The processing goes on, with what can happen
meanwhile, until the loop goes on or the client comes to a halt; the connection takes what is
sent. -/
structure ProcessesRequest (s : ClientState) (env : ClientEnv) (header : RtspRequestHeader)
    (body : Bytes) (inputs : List (ClientEnv × ClientInput))
    (result : Except ClientHalt ClientState) : Prop where
  loop : s.tasks.head? = some .receive
  next : nextDelivery E P s.client.receiver = some (.text (.request header) body)
  runs : Execution.run (clientEnvStep E P) s ((env, .resume) :: inputs) = result
  enabled : result ≠ .error .disabled
  inside : Execution.Guarded (clientEnvStep E P) (fun t _ => ¬ AtLoop t.tasks) s
    ((env, .resume) :: inputs)
  sends : Execution.Guarded (clientEnvStep E P) Sends s ((env, .resume) :: inputs)
  ends : ∀ s', result = .ok s' → AtLoop s'.tasks

/-- The processing has what it begins with: the callback of a TEARDOWN that is for a session of
the client and has a path, the content base of that session, the URL an ANNOUNCE is for. -/
def Begins (client : RtspClient) (header : RtspRequestHeader) : Prop :=
  match header.method with
  | .announce => header.uri = none ∨ client.urlStr.isSome = true
  | .teardown => ∀ session ∈ rtspClientSessionFind client header.sessionId, HasPath header.uri →
      client.cbs.teardown = true ∧ session.contentBase.isSome = true
  | _ => True

variable (E P) in
/-- The session and the media that go after the callback are still there, and what the
application calls in a callback comes to its end. -/
def Proceeds (t : ClientState) (input : ClientEnv × ClientInput) : Prop :=
  match t.tasks with
  | .answer _ _ :: _ => True
  | .tornDown _ _ none :: _ => True
  | .tornDown _ session (some media) :: _ =>
      ∃ found ∈ t.client.findSession session, ∃ m ∈ found.medias, m.addr = media
  | .unlinkSession session :: _ => (t.client.findSession session).isSome = true
  | _ => (clientEnvStep E P t input).isOk = true

instance (t : ClientState) (input : ClientEnv × ClientInput) :
    Decidable (Proceeds E P t input) := by
  unfold Proceeds
  split <;> infer_instance

variable (E P) in
/-- The processing gets to its end. -/
structure ComesToEnd (s : ClientState) (env : ClientEnv) (header : RtspRequestHeader)
    (inputs : List (ClientEnv × ClientInput)) : Prop where
  begins : Begins s.client header
  proceeds : ∀ taken, clientEnvStep E P s (env, .resume) = .ok taken →
    Execution.Guarded (clientEnvStep E P) (Proceeds E P) taken inputs

theorem clientUriToContentBase_ok {client : RtspClient} {uri : Option Bytes} :
    (∃ base, clientUriToContentBase client uri = .ok base) ↔
      uri = none ∨ client.urlStr.isSome = true := by
  unfold clientUriToContentBase
  split
  next => exact iff_of_true ⟨_, rfl⟩ (.inl rfl)
  next hnone => exact iff_of_false (fun ⟨_, h⟩ => by cases h) (by simp [hnone])
  next hsome =>
    refine iff_of_true ?_ (.inr (by rw [hsome]; rfl))
    split
    next => exact ⟨_, rfl⟩
    next =>
      split
      next => exact ⟨_, rfl⟩
      next => exact ⟨_, rfl⟩

theorem begins_iff {client : RtspClient} {header : RtspRequestHeader} {body : Bytes} :
    (∃ p, rtspClientRequestProcess client header body = .ok p) ↔ Begins client header := by
  unfold rtspClientRequestProcess Begins
  split
  next hmethod =>
    rw [hmethod]
    dsimp only
    rw [← clientUriToContentBase_ok]
    constructor
    · rintro ⟨p, hp⟩
      obtain ⟨base, hbase, -⟩ := except_bind_ok.mp hp
      exact ⟨base, hbase⟩
    · rintro ⟨base, hbase⟩
      exact ⟨_, except_bind_ok.mpr ⟨base, hbase, rfl⟩⟩
  next hmethod =>
    rw [hmethod]
    exact iff_of_true ⟨_, rfl⟩ trivial
  next hmethod =>
    rw [hmethod]
    unfold teardownRequestProcess
    cases rtspClientSessionFind client header.sessionId with
    | none => exact iff_of_true ⟨_, rfl⟩ nofun
    | some session =>
        dsimp only
        have hsome : (∀ found ∈ some session, HasPath header.uri →
            client.cbs.teardown = true ∧ found.contentBase.isSome = true) ↔
              (HasPath header.uri →
                client.cbs.teardown = true ∧ session.contentBase.isSome = true) :=
          ⟨fun h => h session rfl, fun h found hfound => Option.some.inj hfound ▸ h⟩
        rw [hsome]
        unfold HasPath
        cases rtspUrlParsePath header.uri with
        | error e => exact iff_of_true ⟨_, rfl⟩ nofun
        | ok path =>
            cases path with
            | none => exact iff_of_true ⟨_, rfl⟩ nofun
            | some path =>
                dsimp only
                cases session.contentBase with
                | none =>
                    refine iff_of_false (fun ⟨_, hp⟩ => by cases hp) fun h => ?_
                    cases (h ⟨path, rfl⟩).2
                | some base =>
                    dsimp only
                    by_cases hcallback : client.cbs.teardown = true
                    · rw [if_pos hcallback]
                      exact iff_of_true ⟨_, rfl⟩ fun _ => ⟨hcallback, rfl⟩
                    · rw [if_neg hcallback]
                      refine iff_of_false (fun ⟨_, hp⟩ => by cases hp) fun h => ?_
                      exact hcallback (h ⟨path, rfl⟩).1
  next hannounce hgetParameter hteardown =>
    refine iff_of_true ⟨_, rfl⟩ ?_
    split
    next hmethod => exact absurd hmethod hannounce
    next hmethod => exact absurd hmethod hteardown
    next => trivial

/-- A step that is taken had what it needs. -/
theorem proceeds_of_step {t t' : ClientState} {input : ClientEnv × ClientInput}
    (h : clientEnvStep E P t input = .ok t') : Proceeds E P t input := by
  have hrun : ∀ {task rest}, t.tasks = task :: rest → task ≠ .inCallback →
      ∃ p, runTask E P input.1 t.client task = .ok p := by
    intro task rest htasks hcallback
    cases clientStep_cases h with
    | loop hnone => cases htasks.symm.trans hnone
    | returns htasks' => exact absurd (List.cons.inj (htasks.symm.trans htasks')).1 hcallback
    | inCallback htasks' => exact absurd (List.cons.inj (htasks.symm.trans htasks')).1 hcallback
    | @task task' rest' p htasks' hcallback' hinput hp =>
        obtain ⟨rfl, -⟩ := List.cons.inj (htasks.symm.trans htasks')
        exact ⟨p, hp⟩
  unfold Proceeds
  split
  next => trivial
  next => trivial
  next session media rest htasks =>
    obtain ⟨p, hp⟩ := hrun htasks nofun
    change tornDown t.client _ session (some media) = .ok p at hp
    unfold tornDown at hp
    dsimp only at hp
    split at hp
    next => cases hp
    next found hfound =>
      split at hp
      next => cases hp
      next m hm => exact ⟨found, hfound, m, lookup_some hm⟩
  next session rest htasks =>
    obtain ⟨p, hp⟩ := hrun htasks nofun
    change unlinkSession t.client session = .ok p at hp
    unfold unlinkSession at hp
    split at hp
    next => cases hp
    next found hfound =>
      rw [hfound]
      rfl
  next =>
    rw [h]
    rfl

/-- With what it needs a step halts only where it cannot be taken. -/
theorem step_of_proceeds {t : ClientState} {input : ClientEnv × ClientInput} {halt : ClientHalt}
    (h : Proceeds E P t input) (hstep : clientEnvStep E P t input = .error halt) :
    halt = .disabled := by
  have hrun : ∀ {task rest}, t.tasks = task :: rest → task ≠ .inCallback →
      (∃ p, runTask E P input.1 t.client task = .ok p) → halt = .disabled := by
    rintro task rest htasks hcallback ⟨p, hp⟩
    unfold clientEnvStep clientStep at hstep
    rw [htasks] at hstep
    cases task with
    | inCallback => exact absurd rfl hcallback
    | _ =>
        dsimp only at hstep
        split at hstep
        next =>
          rw [hp] at hstep
          cases hstep
        next =>
          cases hstep
          rfl
  unfold Proceeds at h
  split at h
  next htasks => exact hrun htasks nofun ⟨_, rfl⟩
  next htasks => exact hrun htasks nofun ⟨_, rfl⟩
  next header session media rest htasks =>
    obtain ⟨found, hfound, m, hm, haddr⟩ := h
    refine hrun htasks nofun ?_
    change ∃ p, tornDown t.client header session (some media) = .ok p
    have hlookup : ∃ m', RecordList.lookup RtspClientSessionMedia.addr media found.medias =
        some m' := by
      cases hnone : RecordList.lookup RtspClientSessionMedia.addr media found.medias with
      | none => exact absurd haddr (lookup_none.mp hnone m hm)
      | some m' => exact ⟨m', rfl⟩
    obtain ⟨m', hm'⟩ := hlookup
    unfold tornDown
    rw [Option.mem_def.mp hfound]
    dsimp only
    rw [hm']
    dsimp only
    split
    next => exact ⟨_, rfl⟩
    next => exact ⟨_, rfl⟩
  next session rest htasks =>
    obtain ⟨found, hfound⟩ := Option.isSome_iff_exists.mp h
    refine hrun htasks nofun ?_
    change ∃ p, unlinkSession t.client session = .ok p
    unfold unlinkSession
    rw [hfound]
    exact ⟨_, rfl⟩
  next =>
    rw [hstep] at h
    cases h

/-- The responses sent from one state to a later one. -/
def answersSince (s s' : ClientState) : List (RtspResponseHeader × Bytes) :=
  answersIn (s'.events.drop s.events.length)

theorem requestStatus_answers {client : RtspClient} {header : RtspRequestHeader} {body : Bytes}
    {status : Int} (h : requestStatus client header body = some status) :
    status = 200 ∨ status = 501 := by
  unfold requestStatus at h
  split at h
  next =>
    cases h
    exact .inl rfl
  next =>
    cases h
    split
    next => exact .inl rfl
    next => exact .inr rfl
  next =>
    split at h
    next =>
      split at h
      next =>
        cases h
        exact .inl rfl
      next => cases h
    next => cases h
  next =>
    cases h
    exact .inr rfl

/-- During the processing the answer that the request left to do is sent. -/
theorem processesRequest_sends {softwareName : Option Bytes} {cbs : RtspClientCbs}
    {before inputs : List (ClientEnv × ClientInput)} {s s' : ClientState} {env : ClientEnv}
    {header : RtspRequestHeader} {body : Bytes} (hdates : P.FormatsDates)
    (hrun : Execution.run (clientEnvStep E P) (clientStart softwareName cbs) before = .ok s)
    (h : ProcessesRequest E P s env header body inputs (.ok s')) :
    List.Forall₂ (Answers P)
      ((requestStatus s.client header body).map fun status => (header, status)).toList
      (answersSince s s') := by
  obtain ⟨taken, hreads, hrest⟩ := Execution.run_cons_ok h.runs
  obtain ⟨above, totalLen, events, htasks, hevents, hquiet, habove, howed⟩ :=
    receive_owes (run_wellFormed hrun) (run_orderly hrun) h.loop h.next hreads
  have howes : OwesAnswers above := by
    intro answer hanswer
    rw [howed, Option.mem_toList, Option.map_eq_some_iff] at hanswer
    obtain ⟨status, hstatus, rfl⟩ := hanswer
    exact requestStatus_answers hstatus
  obtain ⟨events', hevents', hsent⟩ := run_settles hdates
    (clientEnvStep_wellFormed (run_wellFormed hrun) hreads) htasks habove howes
    (h.inside.2 taken hreads) (h.sends.2 taken hreads) hrest (h.ends s' rfl)
  have hsince : answersSince s s' = answersIn events' := by
    unfold answersSince
    rw [hevents', hevents, List.append_assoc, List.drop_left, answersIn_append, hquiet,
      List.nil_append]
  rw [hsince, ← howed]
  exact hsent

/-- The processing is not halted exactly when it has what it needs all along. -/
theorem comesToEnd_iff {softwareName : Option Bytes} {cbs : RtspClientCbs}
    {before inputs : List (ClientEnv × ClientInput)} {s : ClientState} {env : ClientEnv}
    {header : RtspRequestHeader} {body : Bytes} {result : Except ClientHalt ClientState}
    (hrun : Execution.run (clientEnvStep E P) (clientStart softwareName cbs) before = .ok s)
    (h : ProcessesRequest E P s env header body inputs result) :
    (∃ s', result = .ok s') ↔ ComesToEnd E P s env header inputs := by
  obtain ⟨receiver, totalLen, hstep⟩ := receive_step env (run_orderly hrun) h.loop h.next
  have hbegins : (∃ taken, clientEnvStep E P s (env, .resume) = .ok taken) ↔
      Begins s.client header := by
    rw [hstep]
    simp only [except_map_ok]
    refine Iff.trans ?_ (@begins_iff { s.client with receiver } header body)
    exact ⟨fun ⟨_, p, hp, _⟩ => ⟨p, hp⟩, fun ⟨p, hp⟩ => ⟨_, p, hp, rfl⟩⟩
  have hruns := h.runs
  constructor
  · rintro ⟨s', rfl⟩
    obtain ⟨taken, hreads, hrest⟩ := Execution.run_cons_ok hruns
    refine ⟨hbegins.mp ⟨taken, hreads⟩, fun taken' hreads' => ?_⟩
    cases hreads.symm.trans hreads'
    exact Execution.guarded_of_run (fun t input t' => proceeds_of_step) hrest
  · intro hends
    obtain ⟨taken, hreads⟩ := hbegins.mpr hends.begins
    unfold Execution.run at hruns
    rw [hreads] at hruns
    have henabled := h.enabled
    rw [← hruns] at henabled ⊢
    exact Execution.run_ends (fun t input halt => step_of_proceeds) (hends.proceeds taken hreads)
      henabled

end Steps

/-! ## When a request is answered -/

/-- The number of the request is in the text exactly when it is not negative. -/
theorem responseHead_prefix_iff {P : Platform} {header : RtspRequestHeader} {status : Int}
    {response : RtspResponseHeader} {message : Bytes} (hdates : P.FormatsDates)
    (hstatus : status = 200 ∨ status = 501)
    (h : Answers P (header, status) (response, message)) :
    responseHead status (rtspStatusGet status).2 header.cseq <+: message ↔ 0 ≤ header.cseq := by
  obtain ⟨-, -, date, hprinted⟩ := h
  obtain ⟨numberLine, dateLine, htext, -, -, hwritten, hnone, hdated⟩ :=
    @answer_printed P status header.cseq date hdates hstatus
  obtain rfl : _ = message := Option.some.inj (htext.symm.trans hprinted)
  change answerLine status ++ _ <+: _ ↔ _
  rw [List.prefix_append_right_inj]
  constructor
  · intro hbegins
    by_contra hneg
    rw [hnone hneg, List.nil_append] at hbegins
    have hhead : ascii "CS" <+: dateLine ++ ascii "Content-Length: 0\r\n\r\n" :=
      List.IsPrefix.trans ⟨ascii "eq: " ++ formatInt header.cseq.toInt ++ rtspCrlf, rfl⟩ hbegins
    rcases hdated with rfl | ⟨rest, rfl⟩
    · exact absurd hhead (by decide)
    · obtain ⟨tail, htail⟩ := hhead
      cases htail
  · intro hpos
    rw [hwritten hpos]
    exact List.prefix_append _ _

/-- The answer that is sent is the one claimed exactly when the request is answerable. -/
theorem answeredOnce_iff {P : Platform} {client : RtspClient} {header : RtspRequestHeader}
    {body : Bytes} {sent : List (RtspResponseHeader × Bytes)} (hdates : P.FormatsDates)
    (h : List.Forall₂ (Answers P)
      ((requestStatus client header body).map fun status => (header, status)).toList sent) :
    AnsweredOnce client header sent ↔ Answerable client header body := by
  have hone : ∀ status, requestStatus client header body = some status →
      (AnsweredOnce client header sent ↔ 0 ≤ header.cseq ∧
        (¬ Supported header.method ∨ NamesUnknownSession client header → 400 ≤ status)) := by
    intro status hstatus
    have hlisted := requestStatus_answers hstatus
    rw [hstatus] at h
    obtain ⟨⟨response, message⟩, rest, hanswers, hrest, rfl⟩ := List.forall₂_cons_left_iff.mp h
    obtain rfl := List.forall₂_nil_left_iff.mp hrest
    have hhead := responseHead_prefix_iff hdates hlisted hanswers
    obtain ⟨hcode, hreason, -⟩ := hanswers
    dsimp only at hcode hreason
    constructor
    · rintro ⟨response', message', reason, hsent, hstring, hbegins, herror⟩
      cases hsent
      rw [hreason] at hstring
      cases hstring
      rw [hcode] at hbegins herror
      exact ⟨hhead.mp hbegins, herror⟩
    · intro ⟨hpos, herror⟩
      refine ⟨response, message, _, rfl, hreason, ?_, ?_⟩
      · rw [hcode]
        exact hhead.mpr hpos
      · rw [hcode]
        exact herror
  have hnone : requestStatus client header body = none → ¬ AnsweredOnce client header sent := by
    intro hstatus
    rw [hstatus] at h
    rintro ⟨response, message, reason, hsent, -⟩
    rw [hsent] at h
    cases h
  unfold Answerable
  cases hmethod : header.method with
  | announce =>
      rw [hone 200 (by rw [requestStatus, hmethod]), hmethod]
      simp [Supported]
  | getParameter =>
      rw [hone _ (by rw [requestStatus, hmethod]), hmethod]
      by_cases hbody : body = []
      · simp [Supported, hbody]
      · simp [Supported, hbody]
  | teardown =>
      dsimp only
      by_cases hfound : (rtspClientSessionFind client header.sessionId).isSome = true
      · by_cases hpath : HasPath header.uri
        · obtain ⟨path, hread⟩ := hpath
          rw [hone 200 (by rw [requestStatus, hmethod]; dsimp only; rw [if_pos hfound, hread]),
            hmethod]
          have hknown : ¬ NamesUnknownSession client header := by
            intro hunknown
            rw [hunknown.2] at hfound
            cases hfound
          have hpath : HasPath header.uri := ⟨path, hread⟩
          simp [Supported, hknown, hfound, hpath]
        · have hstatus : requestStatus client header body = none := by
            rw [requestStatus, hmethod]
            dsimp only
            rw [if_pos hfound]
            split
            next path hread => exact absurd ⟨path, hread⟩ hpath
            next => rfl
          exact iff_of_false (hnone hstatus) fun h => hpath h.2.2
      · have hstatus : requestStatus client header body = none := by
          rw [requestStatus, hmethod]
          dsimp only
          rw [if_neg hfound]
        exact iff_of_false (hnone hstatus) fun h => hfound h.2.1
  | _ =>
      rw [hone 501 (by rw [requestStatus, hmethod]), hmethod]
      simp

/-- A platform whose clock stands at the start of its time. -/
def Platform.atEpoch : Platform :=
  { Platform.bare with timeLocalFormat := fun _ _ => .ok (ascii "Thu, 01 Jan 1970 00:00:00 GMT") }

theorem Platform.atEpoch_formatsDates : Platform.atEpoch.FormatsDates :=
  fun _ => ⟨_, rfl, by decide⟩

/-- The server sends a text to a client that has just connected. -/
def serverText (text : Bytes) : List (ClientEnv × ClientInput) :=
  connectInputs ++ undisturbed [.data text]

/-- A request whose method is not supported. -/
def serverOptions : RtspRequestHeader where
  method := .options
  uri := some (ascii "*")
  cseq := 7

/-- A TEARDOWN for a session the client does not have. -/
def unknownTeardown : RtspRequestHeader where
  method := .teardown
  uri := some (ascii "rtsp://a/s")
  cseq := 7
  sessionId := some (ascii "1")

end Librtsp
