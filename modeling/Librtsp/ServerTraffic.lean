import Librtsp.ResponseOrigin

/-!
# What the server takes in and puts out

The requests of a connection are processed in the order of its messages, each once.  A
response has the number of its request in its second line, whatever follows.
-/

namespace Librtsp

open CString RecordList

/-! ## The second line of a response -/

/-- A line ends at its first line end. -/
theorem line_unique {line line' rest rest' : Bytes} (hline : FieldText line)
    (hline' : FieldText line') (h : line ++ rtspCrlf ++ rest = line' ++ rtspCrlf ++ rest') :
    line = line' ∧ rest = rest' := by
  have hsplit : ∀ rest {line : Bytes}, FieldText line →
      (line ++ rtspCrlf ++ rest).takeWhile (!rtspCrlf.contains ·) = line := by
    intro rest line hline
    rw [List.append_assoc]
    refine (takeWhile_token (fun b hb => ?_) ?_).1
    · simp [rtspCrlf, (hline b hb).2.1, (hline b hb).2.2]
    · exact atDelimiter_cons.mpr (by simp [rtspCrlf])
  have hsame : line = line' := by
    rw [← hsplit rest hline, h, hsplit rest' hline']
  subst hsame
  exact ⟨rfl, List.append_cancel_left h⟩

theorem NumberedLine.unique {message : Bytes} {cseq cseq' : Int32}
    (h : NumberedLine message cseq) (h' : NumberedLine message cseq') : cseq = cseq' := by
  obtain ⟨status, rest, hstatus, rfl⟩ := h
  obtain ⟨status', rest', hstatus', heq⟩ := h'
  have hnumber : ∀ n : Int32, FieldText (ascii "CSeq: " ++ formatInt n.toInt) := fun n =>
    fieldText_append (fieldText_ascii (by decide)) (fieldText_textBytes fun _ => formatInt_textByte)
  rw [List.append_assoc (status ++ rtspCrlf), List.append_assoc (status' ++ rtspCrlf)] at heq
  obtain ⟨-, hrest⟩ := line_unique hstatus hstatus' heq
  obtain ⟨hline, -⟩ := line_unique (hnumber cseq) (hnumber cseq') hrest
  have hdigits := List.append_cancel_left hline
  rw [← atoi_toInt cseq, hdigits, atoi_toInt]

/-! ## The messages of a connection -/

/-- The messages of the connection that are still to be processed. -/
def Activity.left (conn : Conn) : Activity → List Delivery
  | .receiving c messages => if c = conn then messages else []
  | .calling c messages _ => if c = conn then messages else []
  | _ => []

/-- The messages the connection hands to the server. -/
def ServerInput.messagesOn (conn : Conn) : ServerInput → List Delivery
  | .receive c messages => if c = conn then messages else []
  | _ => []

/-- The message of the connection that is processed next. -/
def ServerState.taken (conn : Conn) (σ : ServerState) : ServerInput → List Delivery
  | .resume =>
      match σ.forced, σ.activity with
      | [], .receiving c (message :: _) => if c = conn then [message] else []
      | _, _ => []
  | _ => []

def requestOf : Delivery → Option (RtspRequestHeader × Bytes)
  | .text (.request header) body => some (header, body)
  | _ => none

/-- The request of the connection that was received. -/
def receivedOn (conn : Conn) : ServerEvent → Option (RtspRequestHeader × Bytes)
  | .received c _ header body => if c = conn then some (header, body) else none
  | _ => none

section Messages

variable {P : Platform} {env : Env} {σ σ' : ServerState} {input : ServerInput}

theorem sweepFrom_left (conn : Conn) (server : RtspServer) (now : UInt64)
    (requests : List RtspServerPendingRequest) :
    (sweepFrom P env server now requests).2.2.left conn = [] := by
  rcases sweepFrom_cases P env server now requests with hdone | ⟨request, next, -, -, heq⟩
  · rw [hdone]
    rfl
  · rw [heq]
    rfl

theorem resumeSweep_left (conn : Conn) {server server' : RtspServer} {now : UInt64} {a : Addr}
    {next : Option Addr} {events : List ServerEvent} {activity : Activity}
    (h : resumeSweep P env server now a next = .ok (server', events, activity)) :
    activity.left conn = [] := by
  unfold resumeSweep at h
  split at h
  next =>
    cases h
    rfl
  next =>
    dsimp only at h
    split at h
    next => cases h
    next request rest _ =>
      have hleft := @sweepFrom_left P env conn (rtspServerPendingRequestRemove server a) now
        (request :: rest)
      rw [Except.ok.inj h] at hleft
      exact hleft

theorem expireMedias_left (conn : Conn) (server : RtspServer) (session : Addr)
    (medias : List RtspServerSessionMedia) :
    (expireMedias server session medias).2.left conn = [] := by
  cases medias with
  | nil => rfl
  | cons media rest => rfl

/-- The functions the application calls leave the messages alone. -/
theorem callStep_activity {call : ApiCall} (h : callStep P env σ call = .ok σ') :
    σ'.activity = σ.activity := by
  have hreplied : ∀ {result : Except Halt Reply}, result.map σ.replied = .ok σ' →
      σ'.activity = σ.activity := by
    intro result h
    obtain ⟨reply, -, rfl⟩ := except_map_ok.mp h
    rfl
  cases call with
  | replyToDescribe =>
      cases h
      rfl
  | replyToAnnounce =>
      cases h
      rfl
  | forceTeardown =>
      cases h
      rfl
  | _ => exact hreplied h

/-- After one message the rest is left. -/
theorem processMessage_left (conn : Conn) {c : Conn} {message : Delivery}
    {messages : List Delivery} (h : processMessage P env σ c messages message = .ok σ') :
    σ'.activity.left conn = if c = conn then messages else [] := by
  unfold processMessage at h
  split at h
  next =>
    obtain ⟨⟨server, events, callback⟩, -, h⟩ := except_bind_ok.mp h
    cases h
    cases callback with
    | none => rfl
    | some callback => rfl
  next =>
    cases h
    rfl
  next =>
    cases h
    dsimp only
    split
    next => rfl
    next => rfl

theorem resumeStep_left (conn : Conn) (h : resumeStep P env σ = .ok σ') :
    σ.activity.left conn = σ.taken conn .resume ++ σ'.activity.left conn := by
  unfold resumeStep at h
  split at h
  next call forced hforced =>
    obtain ⟨⟨server, events, call'⟩, -, h⟩ := except_bind_ok.mp h
    cases h
    simp [ServerState.taken, hforced]
  next hforced =>
    split at h
    next => cases h
    next hactivity =>
      cases h
      simp [ServerState.taken, hforced, hactivity, Activity.left]
    next c message messages hactivity =>
      rw [processMessage_left conn h]
      simp only [ServerState.taken, hforced, hactivity, Activity.left]
      split
      next => rfl
      next => rfl
    next c messages callback hactivity =>
      obtain ⟨⟨server, events, callback'⟩, -, h⟩ := except_bind_ok.mp h
      cases h
      simp only [ServerState.taken, hforced, hactivity, List.nil_append]
      cases callback' with
      | none => rfl
      | some callback' => rfl
    next now a next hactivity =>
      obtain ⟨⟨server, events, activity⟩, hresume, h⟩ := except_bind_ok.mp h
      cases h
      simp only [ServerState.taken, hforced, hactivity, List.nil_append]
      exact (resumeSweep_left conn hresume).symm
    next session media hactivity =>
      obtain ⟨rest, -, h⟩ := except_bind_ok.mp h
      cases h
      simp only [ServerState.taken, hforced, hactivity, List.nil_append]
      exact (expireMedias_left conn _ _ _).symm

/-- One message at most is taken, from the front; what is handed to the server comes last. -/
theorem serverStep_left (conn : Conn) (h : serverStep P env σ input = .ok σ') :
    σ.activity.left conn ++ input.messagesOn conn =
      σ.taken conn input ++ σ'.activity.left conn := by
  have hidle : σ.isIdle = true → σ.activity = .idle := by
    intro hidle
    simp only [ServerState.isIdle, Bool.and_eq_true, decide_eq_true_eq] at hidle
    exact hidle.1
  unfold serverStep at h
  cases input with
  | receive c messages =>
      dsimp only at h
      split at h
      next h' =>
        cases h
        rw [hidle h']
        rfl
      next => cases h
  | disconnected c =>
      dsimp only at h
      split at h
      next h' =>
        cases h
        simp [ServerInput.messagesOn, ServerState.taken]
      next => cases h
  | timer =>
      dsimp only at h
      split at h
      next h' =>
        cases h
        rw [hidle h']
        exact (sweepFrom_left conn _ _ _).symm
      next => cases h
  | sessionTimer session =>
      dsimp only at h
      split at h
      next h' _ =>
        cases h
        rw [hidle h']
        exact (expireMedias_left conn _ _ _).symm
      next => cases h
  | removeIdle session =>
      dsimp only at h
      split at h
      next =>
        split at h
        next => cases h
        next =>
          cases h
          simp [ServerInput.messagesOn, ServerState.taken]
      next => cases h
  | call call =>
      dsimp only at h
      split at h
      next =>
        rw [callStep_activity h]
        simp [ServerInput.messagesOn, ServerState.taken]
      next => cases h
  | resume =>
      have hnone : ServerInput.messagesOn conn .resume = [] := rfl
      rw [hnone, List.append_nil]
      exact resumeStep_left conn h

/-- The request in the message that is taken is the one that arrives. -/
theorem taken_requests (env : Env) (conn : Conn) :
    (σ.taken conn input).filterMap requestOf =
      (arriving env σ input).toList.filterMap fun request =>
        if request.conn = some conn then some (request.requestHeader, request.body) else none := by
  cases input with
  | resume =>
      cases hforced : σ.forced with
      | cons call forced => simp [ServerState.taken, arriving, hforced]
      | nil =>
          cases hactivity : σ.activity with
          | receiving c messages =>
              rcases messages with _ | ⟨⟨header | header, body⟩ | ⟨channel, data⟩, messages⟩
              · simp [ServerState.taken, arriving, hforced, hactivity]
              · by_cases hconn : c = conn
                · simp [ServerState.taken, arriving, hforced, hactivity, hconn, requestOf,
                    rtspServerPendingRequestAdd]
                · simp [ServerState.taken, arriving, hforced, hactivity, hconn,
                    rtspServerPendingRequestAdd]
              · by_cases hconn : c = conn
                · simp [ServerState.taken, arriving, hforced, hactivity, hconn, requestOf]
                · simp [ServerState.taken, arriving, hforced, hactivity, hconn]
              · by_cases hconn : c = conn
                · simp [ServerState.taken, arriving, hforced, hactivity, hconn, requestOf]
                · simp [ServerState.taken, arriving, hforced, hactivity, hconn]
          | _ => simp [ServerState.taken, arriving, hforced, hactivity]
  | _ => rfl

theorem AnswerTo.noneReceived {request : RequestEntry} {events : List ServerEvent}
    (h : AnswerTo request events) (conn : Conn) : events.filterMap (receivedOn conn) = [] := by
  rcases h with rfl | ⟨event, rfl, conn', status, message, rfl, -, -⟩
  · rfl
  · rfl

/-- A request is received when its message is taken. -/
theorem serverStep_received (conn : Conn) (hold : σ.Consistent)
    (h : serverStep P env σ input = .ok σ') :
    ∃ events, σ'.events = σ.events ++ events ∧
      events.filterMap (receivedOn conn) = (σ.taken conn input).filterMap requestOf := by
  obtain ⟨events, hevents, hchange⟩ := serverStep_changes hold h
  refine ⟨events, hevents, ?_⟩
  rw [taken_requests env conn]
  cases harriving : arriving env σ input with
  | none =>
      cases hchange.sends hold with
      | broadcast _ hbroadcast =>
          refine List.filterMap_eq_nil_iff.mpr fun event hevent => ?_
          obtain ⟨message, rfl⟩ := hbroadcast event hevent
          rfl
      | answers _ _ _ _ hanswer => exact hanswer.noneReceived conn
      | receives hsome => cases harriving.symm.trans hsome
  | some request =>
      obtain ⟨conn', processed, hconn, -, -, hevents'⟩ := arriving_outcome harriving h
      have hsame : events = .received conn' request.addr request.requestHeader request.body ::
          (processed.outcome P env).2 := List.append_cancel_left (hevents.symm.trans hevents')
      subst hsame
      have hnone : (processed.outcome P env).2.filterMap (receivedOn conn) = [] := by
        cases hchange.sends hold with
        | broadcast _ hbroadcast =>
            obtain ⟨message, heq⟩ := hbroadcast _ List.mem_cons_self
            cases heq
        | answers _ _ _ _ hanswer =>
            rcases hanswer with heq | ⟨event, heq, c, status, message, rfl, -, -⟩
            · cases heq
            · cases heq
        | receives _ _ _ _ _ hanswer => exact hanswer.noneReceived conn
      have hsender : request.conn = some conn ↔ conn' = conn := by
        rw [hconn, Option.some.injEq]
      by_cases hmatch : conn' = conn
      · simp [receivedOn, hnone, hmatch, hsender.mpr hmatch]
      · simp [receivedOn, hnone, hmatch, hsender]

end Messages

end Librtsp
