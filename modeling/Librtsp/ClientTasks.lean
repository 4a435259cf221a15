import Librtsp.ClientSteps

/-!
# What is left to do

The tasks that are left are those of the functions that have called the application back,
with the receive loop below them.  The client's own teardown is started by one task only, the
one after a keep-alive that was not answered.  It is the next one to run, and the slot of the
pending request is free then.
-/

namespace Librtsp

open CString RecordList

/-! ## Plain tasks -/

/-- The task neither starts the client's own teardown nor belongs to the receive loop. -/
def ClientTask.Plain : ClientTask → Prop
  | .conclude completion => completion.internalTeardown = false
  | .applyTeardown _ _ completion => completion.internalTeardown = false
  | .receive => False
  | .consume _ => False
  | _ => True

def AllPlain (tasks : List ClientTask) : Prop :=
  ∀ task ∈ tasks, task.Plain

theorem AllPlain.nil : AllPlain [] := fun _ h => absurd h List.not_mem_nil

theorem AllPlain.cons {task : ClientTask} {tasks : List ClientTask} (htask : task.Plain)
    (htasks : AllPlain tasks) : AllPlain (task :: tasks) := by
  intro t ht
  rcases List.mem_cons.mp ht with rfl | ht
  · exact htask
  · exact htasks t ht

theorem AllPlain.append {tasks tasks' : List ClientTask} (h : AllPlain tasks)
    (h' : AllPlain tasks') : AllPlain (tasks ++ tasks') := by
  intro t ht
  rcases List.mem_append.mp ht with ht | ht
  · exact h t ht
  · exact h' t ht

/-- Plain tasks, perhaps behind the one that starts the client's own teardown. -/
def PlainOrTeardown (client : RtspClient) (tasks : List ClientTask) : Prop :=
  AllPlain tasks ∨
    ∃ completion rest, tasks = .conclude completion :: rest ∧ AllPlain rest ∧
      client.request.isPending = false

/-- What is next among the tasks of functions. -/
theorem PlainOrTeardown.head {client : RtspClient} {task : ClientTask} {above : List ClientTask}
    (h : PlainOrTeardown client (task :: above)) :
    AllPlain above ∧
      (task.Plain ∨
        ∃ completion, task = .conclude completion ∧ client.request.isPending = false) := by
  rcases h with hplain | ⟨completion, rest, hhead, hrest, hidle⟩
  · exact ⟨fun t ht => hplain t (List.mem_cons_of_mem _ ht), .inl (hplain _ List.mem_cons_self)⟩
  · cases hhead
    exact ⟨hrest, .inr ⟨completion, rfl, hidle⟩⟩

def Progress.Orderly (p : Progress) : Prop :=
  PlainOrTeardown p.client p.tasks

theorem PlainOrTeardown.append {client : RtspClient} {tasks tasks' : List ClientTask}
    (h : PlainOrTeardown client tasks) (h' : AllPlain tasks') :
    PlainOrTeardown client (tasks ++ tasks') := by
  rcases h with h | ⟨completion, rest, rfl, hrest, hpending⟩
  · exact .inl (h.append h')
  · exact .inr ⟨completion, rest ++ tasks', rfl, hrest.append h', hpending⟩

theorem Progress.Orderly.andThen {p : Progress} (h : p.Orderly) {tasks : List ClientTask}
    (htasks : AllPlain tasks) : (p.andThen tasks).Orderly :=
  PlainOrTeardown.append h htasks

/-- What is left of the receive loop. -/
def LoopRest (tasks : List ClientTask) : Prop :=
  tasks = [] ∨ tasks = [.receive] ∨ ∃ totalLen, tasks = [.consume totalLen, .receive]

/-- The tasks of functions, and the receive loop below them. -/
def Orderly (client : RtspClient) (tasks : List ClientTask) : Prop :=
  ∃ above below, tasks = above ++ below ∧ PlainOrTeardown client above ∧ LoopRest below

theorem Orderly.nil (client : RtspClient) : Orderly client [] :=
  ⟨[], [], rfl, .inl .nil, .inl rfl⟩

/-- A task above the receive loop is taken, and its own tasks come instead. -/
theorem LoopRest.orderly {client : RtspClient} {tasks above below : List ClientTask}
    (hbelow : LoopRest below) (habove : AllPlain above) (h : PlainOrTeardown client tasks) :
    Orderly client (tasks ++ (above ++ below)) :=
  ⟨tasks ++ above, below, (List.append_assoc _ _ _).symm, h.append habove, hbelow⟩

section Functions

variable {env : ClientEnv} {client : RtspClient} {p : Progress}

/-! ## The functions -/

theorem setConnectionState_plain (client : RtspClient) (state : RtspClientConnState) :
    AllPlain (setConnectionState client state).tasks := by
  unfold setConnectionState
  split
  next => exact .nil
  next => exact .cons trivial .nil

theorem removeSession_plain (client : RtspClient) (sessionId : Option Bytes) (statusCode : Int) :
    AllPlain (rtspClientRemoveSessionInternal client sessionId statusCode).tasks := by
  unfold rtspClientRemoveSessionInternal
  split
  next => exact .nil
  next => exact .cons trivial (.cons trivial .nil)

/-- A keep-alive leaves nothing to do, unless it removes the session. -/
theorem sendKeepAlive_tasks {session : RtspClientSession}
    (h : sendKeepAlive P env client session = .ok p) :
    p.tasks = [] ∨ ∃ client sessionId statusCode,
      p = rtspClientRemoveSessionInternal client sessionId statusCode := by
  unfold sendKeepAlive at h
  split at h
  next =>
    cases h
    exact .inl rfl
  next =>
    split at h
    next =>
      dsimp only at h
      split at h
      next =>
        cases h
        exact .inr ⟨_, _, _, rfl⟩
      next =>
        cases h
        exact .inl rfl
    next =>
      split at h
      next =>
        cases h
        exact .inl rfl
      next =>
        split at h
        next =>
          cases h
          exact .inl rfl
        next =>
          dsimp only at h
          split at h
          next => cases h
          next =>
            cases h
            exact .inl rfl
          next =>
            split at h
            next =>
              cases h
              exact .inl rfl
            next =>
              cases h
              exact .inl rfl
            next =>
              cases h
              exact .inl rfl

theorem sendKeepAlive_plain {session : RtspClientSession}
    (h : sendKeepAlive P env client session = .ok p) : AllPlain p.tasks := by
  obtain hnone | ⟨client', sessionId, statusCode, rfl⟩ := sendKeepAlive_tasks h
  · rw [hnone]
    exact .nil
  · exact removeSession_plain _ _ _

theorem sessionOf_idle (client : RtspClient) (resp : RtspResponseHeader) (hwf : client.WellFormed) :
    (sessionOf client resp).2.request.isPending = false := by
  have hreleased : (releasedClient client resp).request.isPending = false := by
    rw [releasedClient_eq]
    rfl
  have hcases := completeSession_cases (releasedClient_wellFormed hwf resp)
    client.request.header.method (responseSessionId client resp) resp.sessionTimeout
  change CompletedSession _ _ _ _ (sessionOf client resp) at hcases
  generalize sessionOf client resp = found at hcases
  cases hcases with
  | unknown hfind hadd => exact hreleased
  | known hfind => exact hreleased
  | added hfind hmethod hid => exact hreleased

theorem keepAliveComplete_orderly {session : Option RtspClientSession} {completion : Completion}
    (hpending : client.request.isPending = false)
    (hplain : completion.internalTeardown = false) :
    (keepAliveComplete client session completion).Orderly := by
  unfold keepAliveComplete
  split
  next => exact .inl (.cons hplain .nil)
  next =>
    split
    next =>
      dsimp only
      split
      next => exact .inr ⟨_, [], rfl, .nil, hpending⟩
      next => exact .inl (.cons trivial (.cons hplain .nil))
    next => exact .inl (.cons hplain .nil)

theorem CompletedMethod.orderly {session : Option RtspClientSession} {ended : EndedRequest}
    {resp : RtspResponseHeader} {completion : Completion}
    (h : CompletedMethod client session ended resp completion p)
    (hpending : client.request.isPending = false)
    (hplain : completion.internalTeardown = false) : p.Orderly := by
  have hends : ∀ {task : ClientTask}, (task = .conclude completion ∨
      ∃ s media, session = some s ∧ task = .applyTeardown s.addr media completion) →
      task.Plain := by
    rintro task (rfl | ⟨s, media, -, rfl⟩)
    · exact hplain
    · exact hplain
  cases h with
  | plain => exact .inl (.cons trivial (.cons hplain .nil))
  | setUp => exact .inl (.cons trivial (.cons trivial (.cons hplain .nil)))
  | notSetUp => exact .inl (.cons trivial (.cons hplain .nil))
  | silent task hmethod htask => exact .inl (.cons (hends htask) .nil)
  | tornDown response task hmethod htask =>
      exact .inl (.cons trivial (.cons trivial (.cons (hends htask) .nil)))
  | keepAlive => exact keepAliveComplete_orderly hpending hplain
  | other => exact .inl (.cons hplain .nil)

theorem requestComplete_orderly {resp : Option RtspResponseHeader} {body : Bytes}
    {status : RtspClientReqStatus} (h : requestComplete client resp body status = .ok p)
    (hwf : client.WellFormed) : p.Orderly := by
  cases hpending : client.request.isPending with
  | false =>
      rw [requestComplete_idle hpending] at h
      cases h
      exact .inl .nil
  | true =>
      rw [requestComplete_pending hpending] at h
      exact (completeMethod_cases h).orderly (sessionOf_idle client _ hwf) rfl

theorem clientDisconnected_orderly (h : clientDisconnected client = .ok p)
    (hwf : client.WellFormed) : p.Orderly := by
  have hplain : ∀ state, AllPlain [.setState state] := fun _ => .cons trivial .nil
  unfold clientDisconnected at h
  dsimp only at h
  split at h
  next =>
    obtain ⟨p', hp, rfl⟩ := except_map_ok.mp h
    exact (requestComplete_orderly hp (hwf.of_sessions rfl le_rfl)).andThen (hplain _)
  next =>
    obtain ⟨p', hp, rfl⟩ := except_map_ok.mp h
    exact (requestComplete_orderly hp (hwf.of_sessions rfl le_rfl)).andThen (hplain _)
  next =>
    cases h
    exact .inl .nil

theorem tsktClientStop_orderly (h : tsktClientStop client = .ok p) (hwf : client.WellFormed) :
    p.Orderly := by
  unfold tsktClientStop at h
  dsimp only at h
  split at h
  next => exact clientDisconnected_orderly h (hwf.of_sessions rfl le_rfl)
  next =>
    cases h
    exact .inl .nil

theorem rtspClientConnect_plain (client : RtspClient) (addr : Option Bytes) :
    AllPlain (rtspClientConnect env client addr).tasks := by
  unfold rtspClientConnect
  split
  next => exact .nil
  next =>
    dsimp only
    split
    next => exact .nil
    next => exact (setConnectionState_plain _ _).append (.cons trivial .nil)

theorem rtspClientDisconnect_plain (client : RtspClient) :
    AllPlain (rtspClientDisconnect client).tasks := by
  unfold rtspClientDisconnect
  split
  next => exact .nil
  next => exact .nil
  next => exact (setConnectionState_plain _ _).append (.cons trivial .nil)

theorem resolveHost_plain {url : Addr} (h : resolveHost env client url = .ok p) :
    AllPlain p.tasks := by
  unfold resolveHost at h
  split at h
  next => cases h
  next =>
    split at h
    next => cases h
    next =>
      dsimp only at h
      split at h
      next =>
        cases h
        exact (setConnectionState_plain _ _).append (.cons trivial .nil)
      next =>
        split at h
        next =>
          cases h
          exact (setConnectionState_plain _ _).append (.cons trivial .nil)
        next =>
          cases h
          exact .nil

theorem resolved_plain (client : RtspClient) (result : Option Bytes) :
    AllPlain (resolved env client result).tasks := by
  unfold resolved
  dsimp only
  split
  next =>
    split
    next => exact setConnectionState_plain _ _
    next => exact .nil
  next => exact setConnectionState_plain _ _

theorem reconnect_plain (client : RtspClient) : AllPlain (reconnect env client).tasks := by
  unfold reconnect
  split
  next => exact .nil
  next => exact .nil

theorem tornDown_plain {header : RtspRequestHeader} {session : Addr} {media : Option Addr}
    (h : tornDown client header session media = .ok p) : AllPlain p.tasks := by
  unfold tornDown at h
  split at h
  next =>
    cases h
    exact removeSession_plain _ _ _
  next =>
    split at h
    next => cases h
    next =>
      split at h
      next => cases h
      next =>
        dsimp only at h
        split at h
        next =>
          cases h
          exact removeSession_plain _ _ _
        next =>
          cases h
          exact .nil

theorem addMedia_plain {session : Option Addr} {uri : Option Bytes}
    {pair : Option RtspChannelPair} (h : addMedia client session uri pair = .ok p) :
    p.tasks = [] := by
  unfold addMedia at h
  split at h
  next =>
    cases h
    rfl
  next =>
    cases h
    rfl
  next =>
    cases h
    rfl
  next =>
    split at h
    next => cases h
    next =>
      cases h
      rfl

theorem teardownReported_plain {session : Option Addr}
    (h : teardownReported client session = .ok p) : p.tasks = [] := by
  unfold teardownReported at h
  dsimp only at h
  split at h
  next =>
    cases h
    rfl
  next =>
    split at h
    next => cases h
    next =>
      cases h
      rfl

theorem applyTeardown_plain {session : Addr} {media : Option Addr} {completion : Completion}
    (hplain : completion.internalTeardown = false)
    (h : applyTeardown client session media completion = .ok p) : AllPlain p.tasks := by
  unfold applyTeardown at h
  split at h
  next =>
    cases h
    exact .cons hplain .nil
  next =>
    split at h
    next => cases h
    next =>
      split at h
      next => cases h
      next =>
        cases h
        exact .cons hplain .nil

theorem concludeRequestComplete_plain {completion : Completion}
    (h : concludeRequestComplete P env client completion = .ok p) : AllPlain p.tasks := by
  obtain ⟨called, -, rfl⟩ := except_map_ok.mp h
  apply AllPlain.append
  · have hremoved : ∀ (removed : Bool) (client : RtspClient) (statusCode : Int),
        AllPlain (if removed = true then
          rtspClientRemoveSessionInternal client completion.sessionId statusCode
        else { client }).tasks := by
      intro removed client statusCode
      split
      next => exact removeSession_plain _ _ _
      next => exact .nil
    exact hremoved _ _ _
  · exact .cons trivial .nil

theorem countFailure_orderly {status : RtspClientReqStatus} (hwf : client.WellFormed)
    (h : countFailure client status = .ok p) : p.Orderly := by
  unfold countFailure at h
  split at h
  next =>
    dsimp only at h
    split at h
    next =>
      obtain ⟨p', hp, rfl⟩ := except_map_ok.mp h
      exact (tsktClientStop_orderly hp (hwf.of_sessions rfl le_rfl)).andThen
        (.cons trivial (.cons trivial .nil))
    next =>
      cases h
      exact .inl .nil
  next =>
    cases h
    exact .inl .nil

theorem unlinkSession_plain {session : Addr} (h : unlinkSession client session = .ok p) :
    p.tasks = [] := by
  unfold unlinkSession at h
  split at h
  next => cases h
  next =>
    cases h
    rfl

theorem keepAliveFor_plain {session : Option RtspClientSession}
    (h : keepAliveFor P env client session = .ok p) : AllPlain p.tasks := by
  unfold keepAliveFor at h
  split at h
  next =>
    cases h
    exact .nil
  next =>
    obtain ⟨p', hp, rfl⟩ := except_map_ok.mp h
    exact (sendKeepAlive_plain hp).append (.cons trivial .nil)

theorem stopTransport_orderly {alreadyDisconnected : Bool} (hwf : client.WellFormed)
    (h : stopTransport client alreadyDisconnected = .ok p) : p.Orderly := by
  unfold stopTransport at h
  obtain ⟨p', hp, rfl⟩ := except_map_ok.mp h
  apply (tsktClientStop_orderly hp hwf).andThen
  apply AllPlain.append
  · split
    next => exact .cons trivial .nil
    next => exact .nil
  · exact .cons trivial .nil

theorem removeFrom_plain {session : Option Addr} (h : removeFrom client session = .ok p) :
    AllPlain p.tasks := by
  unfold removeFrom at h
  split at h
  next =>
    cases h
    exact .nil
  next =>
    split at h
    next => cases h
    next =>
      obtain ⟨next, -, h⟩ := except_bind_ok.mp h
      cases h
      exact (removeSession_plain _ _ _).append (.cons trivial .nil)

theorem rtspClientRequestProcess_plain {header : RtspRequestHeader} {body : Bytes}
    (h : rtspClientRequestProcess client header body = .ok p) : AllPlain p.tasks := by
  unfold rtspClientRequestProcess at h
  split at h
  next =>
    obtain ⟨contentBase, -, h⟩ := except_bind_ok.mp h
    cases h
    exact .cons trivial (.cons trivial .nil)
  next =>
    cases h
    exact .cons trivial .nil
  next =>
    unfold teardownRequestProcess at h
    split at h
    next =>
      cases h
      exact .nil
    next =>
      split at h
      next =>
        cases h
        exact .nil
      next =>
        cases h
        exact .nil
      next =>
        split at h
        next => cases h
        next =>
          dsimp only at h
          split at h
          next =>
            cases h
            exact .cons trivial (.cons trivial (.cons trivial .nil))
          next => cases h
  next =>
    cases h
    exact .cons trivial .nil

theorem rtspClientResponseProcess_orderly {header : RtspResponseHeader} {body : Bytes}
    (h : rtspClientResponseProcess client header body = .ok p) (hwf : client.WellFormed) :
    p.Orderly := by
  unfold rtspClientResponseProcess at h
  split at h
  next => exact requestComplete_orderly h hwf
  next =>
    split at h
    next =>
      cases h
      exact .inl .nil
    next =>
      cases h
      exact .inl .nil

theorem processDelivery_orderly {delivery : Delivery}
    (h : processDelivery client delivery = .ok p) (hwf : client.WellFormed) : p.Orderly := by
  unfold processDelivery at h
  split at h
  next =>
    cases h
    split
    next => exact .inl (.cons trivial .nil)
    next => exact .inl .nil
  next => exact .inl (rtspClientRequestProcess_plain h)
  next => exact rtspClientResponseProcess_orderly h hwf

/-- The receive loop ends, or goes on after what a message leaves to do. -/
theorem receiveMessage_orderly {E : HeaderEdit} {P : Platform} (hwf : client.WellFormed)
    (h : receiveMessage E P client = .ok p) : Orderly p.client p.tasks := by
  unfold receiveMessage at h
  split at h
  next => cases h
  next next hnext =>
    dsimp only at h
    split at h
    next =>
      cases h
      exact .nil _
    next message hmessage =>
      obtain ⟨p', hp, rfl⟩ := except_map_ok.mp h
      exact ⟨p'.tasks, _, rfl, processDelivery_orderly hp (hwf.of_sessions rfl le_rfl),
        .inr (.inr ⟨_, rfl⟩)⟩

end Functions

/-! ## The machine -/

section Machine

variable {E : HeaderEdit} {P : Platform} {env : ClientEnv} {client : RtspClient} {p : Progress}

theorem runTask_orderly {task : ClientTask} (hwf : client.WellFormed)
    (htask : task.Plain ∨
      ∃ completion, task = .conclude completion ∧ client.request.isPending = false)
    (h : runTask E P env client task = .ok p) : p.Orderly := by
  cases task with
  | inCallback => cases h
  | receive =>
      rcases htask with htask | ⟨completion, hhead, -⟩
      · exact absurd htask id
      · cases hhead
  | consume totalLen =>
      cases h
      exact .inl .nil
  | answer header status =>
      cases h
      refine .inl ?_
      unfold answerRequest
      dsimp only
      split
      next => exact .nil
      next =>
        split
        next => exact .nil
        next => exact .nil
  | tornDown header session media => exact .inl (tornDown_plain h)
  | addMedia session uri pair => exact .inl (addMedia_plain h ▸ .nil)
  | teardownReported session => exact .inl (teardownReported_plain h ▸ .nil)
  | applyTeardown session media completion =>
      rcases htask with htask | ⟨completion', hhead, -⟩
      · exact .inl (applyTeardown_plain htask h)
      · cases hhead
  | conclude completion => exact .inl (concludeRequestComplete_plain h)
  | countFailure status => exact countFailure_orderly hwf h
  | setState state =>
      cases h
      exact .inl (setConnectionState_plain client state)
  | reconnect =>
      cases h
      exact .inl (reconnect_plain client)
  | unlinkSession session => exact .inl (unlinkSession_plain h ▸ .nil)
  | sendKeepAlive session =>
      unfold runTask at h
      dsimp only at h
      split at h
      next => cases h
      next session' hsession => exact .inl (sendKeepAlive_plain h)
  | keepAliveAll => exact .inl (keepAliveFor_plain h)
  | keepAliveAfter session =>
      obtain ⟨next, hnext, h⟩ := except_bind_ok.mp h
      exact .inl (keepAliveFor_plain h)
  | resolveHost url => exact .inl (resolveHost_plain h)
  | clearRemote =>
      cases h
      exact .inl .nil
  | stopTransport alreadyDisconnected => exact stopTransport_orderly hwf h
  | finishDisconnect =>
      obtain ⟨p', hp, rfl⟩ := except_map_ok.mp h
      exact (requestComplete_orderly hp (hwf.of_sessions rfl le_rfl)).andThen
        (.cons trivial .nil)
  | removeAll => exact .inl (removeFrom_plain h)
  | removeFrom session => exact .inl (removeFrom_plain h)

theorem callProgress_orderly {input : ClientInput} (hwf : client.WellFormed)
    (h : callProgress P env client input = .ok p) : p.Orderly := by
  cases input with
  | call call =>
      obtain ⟨called, -, rfl⟩ := except_map_ok.mp h
      exact .inl .nil
  | cancel => exact requestComplete_orderly h hwf
  | removeSession sessionId =>
      cases h
      exact .inl (removeSession_plain _ _ _)
  | connect addr =>
      cases h
      exact .inl (rtspClientConnect_plain client addr)
  | disconnect =>
      cases h
      exact .inl (rtspClientDisconnect_plain client)
  | _ => cases h

theorem loopProgress_orderly {input : ClientInput} (hwf : client.WellFormed)
    (hdata : ∀ chunk, input ≠ .data chunk) (h : loopProgress P env client input = .ok p) :
    p.Orderly := by
  cases input with
  | connected =>
      unfold loopProgress at h
      dsimp only at h
      split at h
      next =>
        cases h
        exact .inl ((setConnectionState_plain _ _).append (.cons trivial .nil))
      next => cases h
  | disconnected =>
      unfold loopProgress at h
      dsimp only at h
      split at h
      next => exact clientDisconnected_orderly h hwf
      next => cases h
  | data chunk => exact absurd rfl (hdata chunk)
  | readyToSend =>
      unfold loopProgress at h
      dsimp only at h
      split at h
      next =>
        cases h
        exact .inl (.cons trivial .nil)
      next => cases h
  | responseTimeout =>
      unfold loopProgress at h
      dsimp only at h
      split at h
      next => exact requestComplete_orderly h (hwf.of_sessions rfl le_rfl)
      next => cases h
  | keepAliveTimer addr =>
      unfold loopProgress at h
      dsimp only at h
      split at h
      next =>
        split at h
        next =>
          exact .inl (sendKeepAlive_plain h)
        next => cases h
      next => cases h
  | resolvTimeout =>
      unfold loopProgress at h
      dsimp only at h
      split at h
      next =>
        cases h
        exact .inl (rtspClientDisconnect_plain _)
      next => cases h
  | resolved id result =>
      unfold loopProgress at h
      dsimp only at h
      split at h
      next =>
        cases h
        exact .inl (resolved_plain _ _)
      next => cases h
  | call call => exact @callProgress_orderly P env client p (.call call) hwf h
  | cancel => exact @callProgress_orderly P env client p .cancel hwf h
  | removeSession sessionId =>
      exact @callProgress_orderly P env client p (.removeSession sessionId) hwf h
  | connect addr => exact @callProgress_orderly P env client p (.connect addr) hwf h
  | disconnect => exact @callProgress_orderly P env client p .disconnect hwf h
  | callbackReturns => cases h
  | resume => cases h

/-- A callback runs above the receive loop. -/
theorem LoopRest.not_inCallback {below rest : List ClientTask} (h : LoopRest below) :
    below ≠ .inCallback :: rest := by
  rintro rfl
  rcases h with h | h | ⟨totalLen, h⟩
  · cases h
  · cases h
  · cases h

/-- The tasks that are left stay in order. -/
theorem clientStep_orderly {s s' : ClientState} {input : ClientInput}
    (hwf : s.client.WellFormed) (horderly : Orderly s.client s.tasks)
    (h : clientStep E P env s input = .ok s') : Orderly s'.client s'.tasks := by
  obtain ⟨above, below, heq, habove, hbelow⟩ := horderly
  cases clientStep_cases h with
  | @loop p htasks hp =>
      by_cases hdata : ∃ chunk, input = .data chunk
      · obtain ⟨chunk, rfl⟩ := hdata
        unfold loopProgress at hp
        dsimp only at hp
        split at hp
        next =>
          cases hp
          exact ⟨[], _, rfl, .inl .nil, .inr (.inl rfl)⟩
        next => cases hp
      · have hordered :=
          loopProgress_orderly hwf (fun chunk hinput => hdata ⟨chunk, hinput⟩) hp
        exact ⟨p.tasks, [], rfl, hordered, .inl rfl⟩
  | @returns rest htasks hinput =>
      rw [heq] at htasks
      cases above with
      | nil => exact absurd htasks hbelow.not_inCallback
      | cons task above =>
          cases htasks
          exact ⟨above, below, rfl, .inl habove.head.1, hbelow⟩
  | @inCallback rest p htasks hp =>
      rw [heq] at htasks
      cases above with
      | nil => exact absurd htasks hbelow.not_inCallback
      | cons task above =>
          cases htasks
          have hcallback : AllPlain (.inCallback :: above) := .cons trivial habove.head.1
          have hafter := hbelow.orderly hcallback (callProgress_orderly hwf hp)
          rw [← heq] at hafter
          exact hafter
  | @task task rest p htasks hne hinput hp =>
      rw [heq] at htasks
      cases above with
      | nil =>
          rw [List.nil_append] at htasks
          subst htasks
          rcases hbelow with h | h | ⟨totalLen, h⟩
          · cases h
          · cases h
            have hreceived := receiveMessage_orderly hwf hp
            change Orderly p.client (p.tasks ++ [])
            rw [List.append_nil]
            exact hreceived
          · cases h
            cases hp
            exact ⟨[], _, rfl, .inl .nil, .inr (.inl rfl)⟩
      | cons task above =>
          cases htasks
          exact hbelow.orderly habove.head.1 (runTask_orderly hwf habove.head.2 hp)

/-- The client's own teardown starts when no request is pending. -/
theorem Orderly.idle_of_teardown {s : ClientState} {completion : Completion}
    {rest : List ClientTask} (h : Orderly s.client s.tasks)
    (htasks : s.tasks = .conclude completion :: rest)
    (hinternal : completion.internalTeardown = true) : s.client.request.isPending = false := by
  obtain ⟨above, below, heq, habove, hbelow⟩ := h
  rw [htasks] at heq
  cases above with
  | nil =>
      rw [List.nil_append] at heq
      subst heq
      rcases hbelow with h | h | ⟨totalLen, h⟩
      · cases h
      · cases h
      · cases h
  | cons task above =>
      cases heq
      rcases habove.head.2 with hplain | ⟨-, -, hidle⟩
      · rw [ClientTask.Plain, hinternal] at hplain
        cases hplain
      · exact hidle

end Machine

end Librtsp
