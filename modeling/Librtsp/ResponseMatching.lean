import Librtsp.ClientFailures
import Librtsp.ClientReconnect

/-!
# Responses and their requests

The client numbers a request when it fills it, and goes on to the next number when the request
has the slot.  So the numbers of the requests on the wire are different from each other and
from the number of a request that was filled and not sent; and a response that carries the
number of a request on the wire ends no other request.
-/

namespace Librtsp

open CString

/-! ## Numbers -/

/-- Before the number `cseq` is given out: the requests on the wire have smaller numbers, all
different, and only one of them can have the number of the slot, the one in the slot. -/
structure Numbered (cseq : UInt32) (header : RtspRequestHeader)
    (sent : List RtspRequestHeader) : Prop where
  below : ∀ request ∈ sent, 0 < request.cseq.toInt ∧ request.cseq.toInt < cseq.toNat
  distinct : (sent.map RtspRequestHeader.cseq).Nodup
  slot : ∀ request ∈ sent, request.cseq = header.cseq → request = header

/-- What a step does to the number, to the header in the slot, and to the wire. -/
inductive Numbering (cseq : UInt32) (header : RtspRequestHeader) :
    UInt32 → RtspRequestHeader → List RtspRequestHeader → Prop where
  | kept : Numbering cseq header cseq header []
  | cleared {header' : RtspRequestHeader} (hnumber : header'.cseq = 0) :
      Numbering cseq header cseq header' []
  | drafted {header' : RtspRequestHeader} (hnumber : header'.cseq = cseq.toInt32) :
      Numbering cseq header cseq header' []
  | taken {header' : RtspRequestHeader} {sent : List RtspRequestHeader}
      (hnumber : header'.cseq = cseq.toInt32) (hsent : sent = [] ∨ sent = [header']) :
      Numbering cseq header (cseq + 1) header' sent

theorem toInt32_toInt (cseq : UInt32) : cseq.toInt32.toInt = Int.bmod cseq.toNat (2 ^ 32) :=
  BitVec.toInt_eq_toNat_bmod _

theorem toInt32_ne {cseq : UInt32} (hcseq : cseq.toNat ≤ 2 ^ 31) {number : Int32}
    (hpos : 0 < number.toInt) (hbelow : number.toInt < cseq.toNat) : number ≠ cseq.toInt32 := by
  rintro rfl
  rw [toInt32_toInt, Int.bmod_def] at hpos hbelow
  split at hpos
  next => omega
  next => omega

theorem toInt32_below {cseq : UInt32} (hfirst : 0 < cseq.toNat) (hcseq : cseq.toNat < 2 ^ 31) :
    0 < cseq.toInt32.toInt ∧ cseq.toInt32.toInt < cseq.toNat + 1 := by
  rw [toInt32_toInt, Int.bmod_def]
  split
  next => omega
  next => omega

theorem toInt_zero_of_eq {number : Int32} (h : number = 0) : number.toInt = 0 := by
  rw [h]
  rfl

section Slot

variable {cseq cseq' : UInt32} {header header' : RtspRequestHeader}
  {sent sent' : List RtspRequestHeader}

/-- Another header in the slot, whose number is not on the wire. -/
theorem Numbered.refilled (h : Numbered cseq header sent)
    (hnumber : ∀ request ∈ sent, request.cseq ≠ header'.cseq) : Numbered cseq header' sent :=
  ⟨h.below, h.distinct, fun request hrequest heq => absurd heq (hnumber request hrequest)⟩

theorem Numbered.fresh (h : Numbered cseq header sent) (hcseq : cseq.toNat ≤ 2 ^ 31)
    (hnumber : header'.cseq = cseq.toInt32) : ∀ request ∈ sent, request.cseq ≠ header'.cseq := by
  intro request hrequest
  rw [hnumber]
  exact toInt32_ne hcseq (h.below request hrequest).1 (h.below request hrequest).2

theorem Numbered.step (h : Numbered cseq header sent) (hfirst : 0 < cseq.toNat)
    (hcseq : cseq.toNat ≤ 2 ^ 31) (hlast : cseq' ≠ cseq → cseq.toNat < 2 ^ 31)
    (hstep : Numbering cseq header cseq' header' sent') :
    Numbered cseq' header' (sent ++ sent') := by
  cases hstep with
  | kept =>
      rw [List.append_nil]
      exact h
  | cleared hnumber =>
      rw [List.append_nil]
      apply h.refilled
      intro request hrequest heq
      have hpos := (h.below request hrequest).1
      rw [heq, toInt_zero_of_eq hnumber] at hpos
      omega
  | drafted hnumber =>
      rw [List.append_nil]
      exact h.refilled (h.fresh hcseq hnumber)
  | taken hnumber hsent =>
      have hfresh := h.fresh hcseq hnumber
      have hnext : cseq + 1 ≠ cseq := by
        intro heq
        have hnat := congrArg UInt32.toNat heq
        rw [UInt32.toNat_add] at hnat
        have hone : (1 : UInt32).toNat = 1 := rfl
        omega
      have hbound := hlast hnext
      have hsucc : (cseq + 1).toNat = cseq.toNat + 1 := by
        have hone : (1 : UInt32).toNat = 1 := rfl
        rw [UInt32.toNat_add, hone]
        exact Nat.mod_eq_of_lt (by omega)
      have hbelow : ∀ request ∈ sent,
          0 < request.cseq.toInt ∧ request.cseq.toInt < (cseq + 1).toNat := by
        intro request hrequest
        obtain ⟨hpos, hlt⟩ := h.below request hrequest
        exact ⟨hpos, by omega⟩
      rcases hsent with rfl | rfl
      · rw [List.append_nil]
        exact ⟨hbelow, h.distinct,
          fun request hrequest heq => absurd heq (hfresh request hrequest)⟩
      · refine ⟨?_, ?_, ?_⟩
        · intro request hrequest
          rcases List.mem_append.mp hrequest with hrequest | hrequest
          · exact hbelow request hrequest
          · obtain rfl := List.mem_singleton.mp hrequest
            obtain ⟨hpos, hlt⟩ := toInt32_below hfirst hbound
            rw [hnumber]
            exact ⟨hpos, by omega⟩
        · rw [List.map_append, List.map_singleton]
          apply List.nodup_append.mpr
          refine ⟨h.distinct, List.nodup_singleton _, ?_⟩
          intro number hmem number' hmem'
          obtain ⟨request, hrequest, rfl⟩ := List.mem_map.mp hmem
          rw [List.mem_singleton.mp hmem']
          exact hfresh request hrequest
        · intro request hrequest heq
          rcases List.mem_append.mp hrequest with hrequest | hrequest
          · exact absurd heq (hfresh request hrequest)
          · exact List.mem_singleton.mp hrequest

end Slot

/-! ## One request at most -/

section Functions

variable {env : ClientEnv} {client client' : RtspClient} {events : List ClientEvent}

theorem CallOutcome.numbering {method : RtspMethodType} {userdata : Nat} {timeoutMs : UInt32}
    {internal : Bool} {stages : CallStages} {marked : Option RtspClientSession} {called : Called}
    (h : CallOutcome env client method userdata timeoutMs internal stages marked called) :
    Numbering client.cseq client.request.header called.client.cseq called.client.request.header
      (sentHeaders called.events) := by
  have hbuilt : ∀ {built}, Filled env (Librtsp.claimed client) built method userdata →
      built.cseq = client.cseq ∧ built.request.header.cseq = client.cseq.toInt32 :=
    fun hfilled => ⟨hfilled.cseq, hfilled.number⟩
  cases h with
  | refused => exact .kept
  | claimed => exact .kept
  | unnumbered => exact .cleared rfl
  | @unsent _ built e hclaim hclaims hlookups hreserves hfilled =>
      obtain ⟨hcseq, hnumber⟩ := hbuilt hfilled
      change Numbering client.cseq client.request.header built.cseq built.request.header []
      rw [hcseq]
      exact .drafted hnumber
  | @sent built message hclaim hmethod hfilled hagent hsock hsend =>
      obtain ⟨hcseq, hnumber⟩ := hbuilt hfilled
      change Numbering client.cseq client.request.header (built.cseq + 1) built.request.header
        [built.request.header]
      rw [hcseq]
      exact .taken hnumber (.inr rfl)
  | @tearsDown built session message hclaim hmethod hteardown hfilled hagent hsock hsend hfind =>
      obtain ⟨hcseq, hnumber⟩ := hbuilt hfilled
      change Numbering client.cseq client.request.header (built.cseq + 1) built.request.header
        [built.request.header]
      rw [hcseq]
      exact .taken hnumber (.inr rfl)

/-- Without calls, teardowns and keep-alives no number is taken; the end of a request clears
the header. -/
theorem ClientChange.unnumbered {kinds : List ChangeKind}
    (h : ClientChange env kinds client events client') (hcall : .call ∉ kinds)
    (hteardown : .teardown ∉ kinds) (hkeepAlive : .keepAlive ∉ kinds) :
    client'.cseq = client.cseq ∧ sentHeaders events = [] ∧
      (client'.request.header = client.request.header ∨
        .completion ∈ kinds ∧ client'.request.header.cseq = 0) := by
  induction h with
  | refl => exact ⟨rfl, rfl, .inl rfl⟩
  | trans hab hbc ihab ihbc =>
      obtain ⟨hcseq, hsent, hheader⟩ := ihab
      obtain ⟨hcseq', hsent', hheader'⟩ := ihbc
      rw [sentHeaders_append, hsent, hsent', hcseq', hcseq]
      refine ⟨rfl, rfl, ?_⟩
      rcases hheader' with hsame | hcleared
      · rw [hsame]
        exact hheader
      · exact .inr hcleared
  | linked haddr h =>
      rw [h]
      exact ⟨rfl, rfl, .inl rfl⟩
  | called hkind => exact absurd hkind hcall
  | tearsDown hkind => exact absurd hkind hteardown
  | completed hkind resp status hpending h =>
      refine ⟨?_, ?_, .inr ⟨hkind, ?_⟩⟩
      · rw [completed_frame h]
        rfl
      · exact h.unsent
      · rw [completed_frame h]
        rfl
  | fired hkind => exact absurd hkind hkeepAlive
  | rearmed hkind => exact absurd hkind hkeepAlive
  | drafted hkind => exact absurd hkind hkeepAlive
  | keptAlive hkind => exact absurd hkind hkeepAlive
  | mediaAdded hkind hfind hadd =>
      unfold rtspClientSessionMediaAdd at hadd
      split at hadd
      next =>
        cases hadd
        exact ⟨rfl, rfl, .inl rfl⟩
      next => cases hadd
  | _ => exact ⟨rfl, rfl, .inl rfl⟩

theorem ClientChange.numbering {kinds : List ChangeKind}
    (h : ClientChange env kinds client events client') (hcall : .call ∉ kinds)
    (hteardown : .teardown ∉ kinds) (hkeepAlive : .keepAlive ∉ kinds) :
    Numbering client.cseq client.request.header client'.cseq client'.request.header
      (sentHeaders events) := by
  obtain ⟨hcseq, hsent, hheader⟩ := h.unnumbered hcall hteardown hkeepAlive
  rw [hcseq, hsent]
  rcases hheader with hsame | ⟨-, hcleared⟩
  · rw [hsame]
    exact .kept
  · exact .cleared hcleared

/-- The removal of a session after the code has done something else. -/
theorem Numbering.removed {middle : RtspClient} {sent : List RtspRequestHeader}
    (h : Numbering client.cseq client.request.header middle.cseq middle.request.header sent)
    (hchange : ClientChange env [] middle events client') :
    Numbering client.cseq client.request.header client'.cseq client'.request.header
      (sent ++ sentHeaders events) := by
  obtain ⟨hcseq, hsent, hsame | ⟨hkind, -⟩⟩ :=
    hchange.unnumbered List.not_mem_nil List.not_mem_nil List.not_mem_nil
  · rw [hcseq, hsent, hsame, List.append_nil]
    exact h
  · cases hkind

/-- The number of a keep-alive is taken as soon as the transport has it or cannot take it yet. -/
theorem sendKeepAlive_numbering {P : Platform} {session : RtspClientSession} {p : Progress}
    (hwf : client.WellFormed) (hfind : client.findSession session.addr = some session)
    (h : sendKeepAlive P env client session = .ok p) :
    Numbering client.cseq client.request.header p.client.cseq p.client.request.header
      (sentHeaders p.events) := by
  unfold sendKeepAlive at h
  split at h
  next =>
    cases h
    exact .kept
  next =>
    split at h
    next =>
      dsimp only at h
      split at h
      next =>
        cases h
        have hcounted : (client.setSession
            { session with failedKeepAlive := session.failedKeepAlive + 1 }).WellFormed :=
          hwf.replaced rfl rfl (RtspClient.findSession_some hfind).1 rfl (List.Sublist.refl _)
        have hkept : Numbering client.cseq client.request.header client.cseq
            client.request.header [] := .kept
        exact @Numbering.removed env client _ _ (client.setSession
          { session with failedKeepAlive := session.failedKeepAlive + 1 }) [] hkept
          (removeSession_changes hcounted _ _)
      next =>
        cases h
        exact .kept
    next =>
      split at h
      next =>
        cases h
        exact .kept
      next =>
        split at h
        next =>
          cases h
          exact .kept
        next =>
          dsimp only at h
          rw [newRequest_draft] at h
          split at h
          next => cases h
          next =>
            cases h
            exact .drafted rfl
          next authorized hauthorized =>
            obtain ⟨authorization, auth, -, rfl⟩ := generateAuthorizationHeader_ok hauthorized rfl
            split at h
            next sent events hsend =>
              cases h
              obtain ⟨-, -, ⟨message, rfl⟩, rfl⟩ := sendRequest_ok hsend
              exact .taken rfl (.inr rfl)
            next =>
              cases h
              exact .taken rfl (.inl rfl)
            next =>
              cases h
              exact .drafted rfl

theorem keepAliveFor_numbering {P : Platform} {session : Option RtspClientSession} {p : Progress}
    (hwf : client.WellFormed) (hmem : ∀ s, session = some s → s ∈ client.sessions)
    (h : keepAliveFor P env client session = .ok p) :
    Numbering client.cseq client.request.header p.client.cseq p.client.request.header
      (sentHeaders p.events) := by
  unfold keepAliveFor at h
  split at h
  next =>
    cases h
    exact .kept
  next session =>
    obtain ⟨p', hp, rfl⟩ := except_map_ok.mp h
    have hnumbering := sendKeepAlive_numbering hwf (hwf.find (hmem session rfl)) hp
    exact hnumbering

end Functions

/-! ## The numbers in a run -/

section Machine

variable {E : HeaderEdit} {P : Platform} {env : ClientEnv}

theorem runTask_numbering {client : RtspClient} {task : ClientTask} {p : Progress}
    (hwf : client.WellFormed) (h : runTask E P env client task = .ok p)
    (hkind : .keepAlive ∈ task.kinds) :
    Numbering client.cseq client.request.header p.client.cseq p.client.request.header
      (sentHeaders p.events) := by
  cases task with
  | sendKeepAlive session =>
      unfold runTask at h
      dsimp only at h
      split at h
      next => cases h
      next session' hsession =>
        obtain ⟨-, rfl⟩ := RtspClient.findSession_some hsession
        exact sendKeepAlive_numbering hwf hsession h
  | keepAliveAll =>
      exact keepAliveFor_numbering hwf (fun session hsession => List.mem_of_mem_head? hsession) h
  | keepAliveAfter session =>
      obtain ⟨next, hnext, h⟩ := except_bind_ok.mp h
      apply keepAliveFor_numbering hwf _ h
      intro session' hsession
      rw [hsession] at hnext
      exact sessionAfter_mem hnext
  | _ => simp [ClientTask.kinds] at hkind

theorem loopProgress_numbering {client : RtspClient} {input : ClientInput} {p : Progress}
    (hwf : client.WellFormed) (h : loopProgress P env client input = .ok p)
    (hkind : .keepAlive ∈ input.kinds) :
    Numbering client.cseq client.request.header p.client.cseq p.client.request.header
      (sentHeaders p.events) := by
  cases input with
  | keepAliveTimer addr =>
      unfold loopProgress at h
      dsimp only at h
      split at h
      next session hsession =>
        split at h
        next =>
          obtain ⟨-, rfl⟩ := RtspClient.findSession_some hsession
          have hfired : ClientChange env [.keepAlive] client []
              (client.setSession { session with timer := none }) := .fired (.head _) hsession
          apply sendKeepAlive_numbering (hfired.wellFormed hwf) _ h
          exact RecordList.lookup_replace ⟨session, (RecordList.lookup_some hsession).1, rfl⟩
        next => cases h
      next => cases h
  | _ => simp [ClientInput.kinds] at hkind

/-- A step takes one number at most, and puts one request on the wire at most. -/
theorem clientStep_numbering {s s' : ClientState} {input : ClientInput}
    (hwf : s.client.WellFormed) (h : clientStep E P env s input = .ok s') :
    ∃ events, s'.events = s.events ++ events ∧
      Numbering s.client.cseq s.client.request.header s'.client.cseq s'.client.request.header
        (sentHeaders events) := by
  by_cases hcall : .call ∈ s.kinds input
  · obtain ⟨call, rfl⟩ := call_of_kinds hcall
    obtain ⟨called, hcalled, hclient, hevents, -⟩ := clientStep_call h
    obtain ⟨marked, called', houtcome, rfl⟩ := callRequest_outcome hwf.keys hcalled
    refine ⟨_, hevents, ?_⟩
    rw [hclient, accept_client, sentHeaders_accept]
    exact houtcome.numbering
  · by_cases hteardown : .teardown ∈ s.kinds input
    · obtain ⟨completion, rest, htasks⟩ := teardown_of_kinds hteardown
      obtain ⟨p, hp, rfl⟩ := clientStep_conclude htasks h
      refine ⟨_, rfl, ?_⟩
      obtain ⟨called, removed, hcalled, hevents, hchange, -⟩ :=
        @concludeRequestComplete_cases env [] s.client P completion p hwf hp
      change Numbering _ _ p.client.cseq p.client.request.header (sentHeaders p.events)
      rw [hevents, sentHeaders_append]
      apply Numbering.removed _ hchange
      rcases hcalled with ⟨-, rfl⟩ | ⟨-, marked, houtcome⟩
      · exact .kept
      · exact houtcome.numbering
    · by_cases hkeepAlive : .keepAlive ∈ s.kinds input
      · unfold ClientState.kinds at hkeepAlive
        cases clientStep_cases h with
        | loop htasks hp =>
            rw [htasks] at hkeepAlive
            exact ⟨_, rfl, loopProgress_numbering hwf hp hkeepAlive⟩
        | returns htasks hinput =>
            rw [htasks, hinput] at hkeepAlive
            cases hkeepAlive
        | inCallback htasks hp =>
            rw [htasks] at hkeepAlive
            cases input with
            | keepAliveTimer session => cases hp
            | _ => simp [ClientInput.kinds] at hkeepAlive
        | task htasks hcallback hinput hp =>
            rw [htasks] at hkeepAlive
            refine ⟨_, rfl, runTask_numbering hwf hp ?_⟩
            split at hkeepAlive
            next heq => cases heq
            next heq =>
              cases heq
              exact absurd rfl hcallback
            next heq =>
              cases heq
              exact hkeepAlive
      · obtain ⟨events, hevents, hchange⟩ := clientStep_changes hwf h
        exact ⟨events, hevents, hchange.numbering hcall hteardown hkeepAlive⟩

/-- Whether the step has given a number to a request. -/
def numbersTaken (s s' : ClientState) : Nat :=
  if s'.client.cseq = s.client.cseq then 0 else 1

/-- The numbers in a run: the next one, the one in the slot, and those on the wire. -/
structure WireNumbered (s : ClientState) : Prop where
  wellFormed : s.client.WellFormed
  first : 0 < s.client.cseq.toNat
  numbered : Numbered s.client.cseq s.client.request.header (sentHeaders s.events)

theorem Numbering.cseq_eq {cseq cseq' : UInt32} {header header' : RtspRequestHeader}
    {sent : List RtspRequestHeader} (h : Numbering cseq header cseq' header' sent) :
    cseq' = cseq ∨ cseq' = cseq + 1 := by
  cases h with
  | taken hnumber hsent => exact .inr rfl
  | _ => exact .inl rfl

theorem clientEnvStep_wireNumbered {s s' : ClientState} {input : ClientEnv × ClientInput}
    (h : WireNumbered s) (hbound : s.client.cseq.toNat + numbersTaken s s' ≤ 2 ^ 31)
    (hstep : clientEnvStep E P s input = .ok s') :
    WireNumbered s' ∧ s'.client.cseq.toNat = s.client.cseq.toNat + numbersTaken s s' := by
  obtain ⟨events, hevents, hnumbering⟩ := clientStep_numbering h.wellFormed hstep
  have hcounter : s'.client.cseq.toNat = s.client.cseq.toNat + numbersTaken s s' := by
    unfold numbersTaken at hbound ⊢
    split at hbound
    next hsame => rw [if_pos hsame, hsame, Nat.add_zero]
    next hnext =>
      rw [if_neg hnext]
      rcases hnumbering.cseq_eq with hsame | hsucc
      · exact absurd hsame hnext
      · have hone : (1 : UInt32).toNat = 1 := rfl
        rw [hsucc, UInt32.toNat_add, hone]
        exact Nat.mod_eq_of_lt (by omega)
  have hlast : s'.client.cseq ≠ s.client.cseq → s.client.cseq.toNat < 2 ^ 31 := by
    intro hnext
    rw [numbersTaken, if_neg hnext] at hbound
    exact hbound
  refine ⟨⟨clientEnvStep_wellFormed h.wellFormed hstep, ?_, ?_⟩, hcounter⟩
  · have hfirst := h.first
    omega
  · rw [hevents, sentHeaders_append]
    exact h.numbered.step h.first (by omega) hlast hnumbering

theorem clientStart_wireNumbered (softwareName : Option Bytes) (cbs : RtspClientCbs) :
    WireNumbered (clientStart softwareName cbs) :=
  ⟨RtspClient.WellFormed.new softwareName cbs, Nat.one_pos,
    ⟨fun _ h => absurd h List.not_mem_nil, List.nodup_nil,
      fun _ h => absurd h List.not_mem_nil⟩⟩

/-! ## Responses -/

/-- What is not about the keep-alives of the session. -/
def RtspClientSession.withoutKeepAlive (session : RtspClientSession) : RtspClientSession :=
  { session with timer := none, keepAliveInProgress := false }

/-- A response that ends no request: after the turn of the receive loop nothing is left to do
about it, no callback is run, and the request in the slot, the authentication, the channels
and the sessions with their medias are as before. -/
structure ResponseDropped (s s' : ClientState) (delivery : Delivery) : Prop where
  events : s'.events = s.events ++ [.delivered delivery]
  tasks : ∃ rest totalLen, s.tasks = .receive :: rest ∧
    s'.tasks = .consume totalLen :: .receive :: rest
  request : s'.client.request = s.client.request
  auth : s'.client.auth = s.client.auth
  serverAuth : s'.client.serverAuth = s.client.serverAuth
  channelUsed : s'.client.channelUsed = s.client.channelUsed
  methodsAllowed : s'.client.methodsAllowed = s.client.methodsAllowed
  failedRequests : s'.client.failedRequests = s.client.failedRequests
  sessions : s'.client.sessions.map RtspClientSession.withoutKeepAlive =
    s.client.sessions.map RtspClientSession.withoutKeepAlive

theorem resetKeepAliveTimer_withoutKeepAlive (session : RtspClientSession)
    (timerMsec : UInt32) :
    (resetKeepAliveTimer session timerMsec).withoutKeepAlive = session.withoutKeepAlive := by
  unfold resetKeepAliveTimer
  split
  next => rfl
  next => rfl

theorem setSession_withoutKeepAlive {client : RtspClient} {session session' : RtspClientSession}
    (hwf : client.WellFormed) (hmem : session ∈ client.sessions)
    (haddr : session'.addr = session.addr)
    (hsame : session'.withoutKeepAlive = session.withoutKeepAlive) :
    (client.setSession session').sessions.map RtspClientSession.withoutKeepAlive =
      client.sessions.map RtspClientSession.withoutKeepAlive := by
  unfold RtspClient.setSession RecordList.replace
  rw [List.map_map]
  apply List.map_congr_left
  intro other hother
  rw [Function.comp_apply]
  split
  next heq =>
    have hfound := hwf.find hother
    rw [heq, haddr, hwf.find hmem] at hfound
    rw [hsame, Option.some.inj hfound]
  next => rfl

/-- A response that does not have the number of a pending request is dropped. -/
theorem response_dropped {s : ClientState} {rest : List ClientTask} {receiver : Receiver}
    {totalLen : Nat} {response : RtspResponseHeader} {body : Bytes} {p : Progress}
    (hwf : s.client.WellFormed) (htasks : s.tasks = .receive :: rest)
    (hother : s.client.request.isPending = true →
      response.cseq ≠ s.client.request.header.cseq)
    (hp : processDelivery { s.client with receiver } (.text (.response response) body) = .ok p) :
    ResponseDropped s
      (s.after rest
        { p.andThen [.consume totalLen, .receive] with
          events := .delivered (.text (.response response) body) :: p.events })
      (.text (.response response) body) := by
  change rtspClientResponseProcess { s.client with receiver } response body = .ok p at hp
  unfold rtspClientResponseProcess at hp
  split at hp
  next hnumber =>
    have hidle : s.client.request.isPending = false := by
      cases hpending : s.client.request.isPending with
      | false => rfl
      | true => exact absurd hnumber (hother hpending)
    have hsame := @requestComplete_idle { s.client with receiver } (some response) body .ok hidle
    cases hsame.symm.trans hp
    exact ⟨rfl, ⟨rest, totalLen, htasks, rfl⟩, rfl, rfl, rfl, rfl, rfl, rfl, rfl⟩
  next =>
    split at hp
    next =>
      cases hp
      exact ⟨rfl, ⟨rest, totalLen, htasks, rfl⟩, rfl, rfl, rfl, rfl, rfl, rfl, rfl⟩
    next session hfind =>
      cases hp
      refine ⟨rfl, ⟨rest, totalLen, htasks, rfl⟩, rfl, rfl, rfl, rfl, rfl, rfl, ?_⟩
      exact @setSession_withoutKeepAlive { s.client with receiver } _ _
        (hwf.of_sessions rfl le_rfl) (List.mem_of_find?_eq_some hfind)
        (RtspClient.resetKeepAliveTimer_addr _ _) (resetKeepAliveTimer_withoutKeepAlive _ _)

/-- In every run of fewer than 2^31 requests no two requests on the wire have the same number,
and a response with the number of a request on the wire finds that request pending, or is
dropped. -/
theorem response_ends_its_request (E : HeaderEdit) (P : Platform) (softwareName : Option Bytes)
    (cbs : RtspClientCbs) (before : List (ClientEnv × ClientInput))
    (input : ClientEnv × ClientInput) (s s' : ClientState)
    (hrun : Execution.run (clientEnvStep E P) (clientStart softwareName cbs) before = .ok s)
    (hstep : clientEnvStep E P s input = .ok s')
    (hnumbers : Execution.total (clientEnvStep E P) numbersTaken (clientStart softwareName cbs)
      (before ++ [input]) < 2 ^ 31) :
    ((sentHeaders s'.events).map RtspRequestHeader.cseq).Nodup ∧
      ∀ events response body request, s'.events = s.events ++ events →
        .delivered (.text (.response response) body) ∈ events →
        request ∈ sentHeaders s.events → request.cseq = response.cseq →
          (s.client.request.isPending = true ∧ s.client.request.header = request) ∨
            ResponseDropped s s' (.text (.response response) body) := by
  have hlast : Execution.total (clientEnvStep E P) numbersTaken s [input] = numbersTaken s s' := by
    simp [Execution.total, hstep]
  have hone : (clientStart softwareName cbs).client.cseq.toNat = 1 := rfl
  rw [Execution.total_append hrun, hlast] at hnumbers
  obtain ⟨hs, hcounter⟩ := @Execution.bounded_invariant _ _ _ (clientEnvStep E P) numbersTaken
    (fun s => s.client.cseq.toNat) (2 ^ 31) WireNumbered
    (fun s input s' hs hbound hstep => clientEnvStep_wireNumbered hs hbound hstep)
    _ _ _ (clientStart_wireNumbered softwareName cbs) hrun (by omega)
  obtain ⟨hs', -⟩ := clientEnvStep_wireNumbered hs (by omega) hstep
  refine ⟨hs'.numbered.distinct, ?_⟩
  intro events response body request hevents hdelivered hrequest hcseq
  have hmem : Delivery.text (.response response) body ∈ deliveredIn events :=
    List.mem_filterMap.mpr ⟨_, hdelivered, rfl⟩
  obtain ⟨rest, receiver, totalLen, p, htasks, -, hp, rfl⟩ :=
    clientStep_delivery hs.wellFormed hstep hevents hmem
  by_cases hpending :
      s.client.request.isPending = true ∧ response.cseq = s.client.request.header.cseq
  · refine .inl ⟨hpending.1, ?_⟩
    exact (hs.numbered.slot request hrequest (hcseq.trans hpending.2)).symm
  · apply Or.inr
    apply response_dropped hs.wellFormed htasks _ hp
    intro hbusy hnumber
    exact hpending ⟨hbusy, hnumber⟩

end Machine

/-- The answer to a cancelled request arrives while the next request is pending. -/
def lateAnswer : List (ClientEnv × ClientInput) :=
  connectInputs ++
    undisturbed
      [.call (.options {}), .cancel, .callbackReturns, .resume, .resume, .call (.options {}),
        .data (ascii "RTSP/1.0 200 OK\r\nCSeq: 1\r\n\r\n")]

def lateResponse : RtspResponseHeader where
  statusCode := 200
  statusString := some (ascii "OK")
  cseq := 1

theorem lateAnswer_dropped :
    ∃ s, Execution.run (clientEnvStep .words .bare) (clientStart none {}) lateAnswer = .ok s ∧
      s.client.request.isPending = true ∧
      ∃ s', clientEnvStep .words .bare s ({}, .resume) = .ok s' ∧
        ResponseDropped s s' (.text (.response lateResponse) []) := by
  have hrun : Execution.Reaches (clientEnvStep .words .bare)
      (fun s => (s.client.request.isPending = true ∧ s.client.request.header.cseq = 2) ∧
        (∃ request ∈ sentHeaders s.events, request.cseq = lateResponse.cseq) ∧
        ∃ s' ∈ (clientEnvStep .words .bare s ({}, .resume)).toOption,
          s'.events = s.events ++ [.delivered (.text (.response lateResponse) [])])
      (clientStart none {}) lateAnswer := by
    decide +kernel
  have hnumbers : Execution.total (clientEnvStep .words .bare) numbersTaken (clientStart none {})
      (lateAnswer ++ undisturbed [.resume]) < 2 ^ 31 := by
    decide +kernel
  obtain ⟨s, hrun, ⟨hpending, hnext⟩, ⟨request, hrequest, hcseq⟩, s', hs', hevents⟩ := hrun
  have hstep := Execution.ok_of_toOption hs'
  refine ⟨s, hrun, hpending, s', hstep, ?_⟩
  have hends := (response_ends_its_request .words .bare none {} _ _ s s' hrun hstep hnumbers).2
    _ lateResponse [] request hevents (.head _) hrequest hcseq
  rcases hends with ⟨-, heq⟩ | hdropped
  · rw [← heq, hnext] at hcseq
    cases hcseq
  · exact hdropped

end Librtsp
