import Librtsp.ClientReconnect
import Librtsp.ClientTasks
import Librtsp.Trace

/-!
# Accepted requests and their reports

A request function that returns no error has put its request into the client's one slot; the
end of the request empties the slot and reports to the application.  Each step keeps the
balance: what was accepted has been reported, or is in the slot.  It does as long as no
request is displaced: a call that takes the slot over from a keep-alive goes through, and
nothing takes it over from another request.
-/

namespace Librtsp

open CString RecordList

/-! ## The balance -/

/-- The methods of the request functions.  A TEARDOWN request may end without a report. -/
def reportedMethods : List RtspMethodType :=
  [.options, .describe, .announce, .setup, .play, .pause, .record]

theorem teardown_unreported : RtspMethodType.teardown ∉ reportedMethods := by decide

/-- The method and the user data of a request that was accepted. -/
def acceptedKey : ClientEvent → Option (RtspMethodType × Nat)
  | .accepted method userdata => some (method, userdata)
  | _ => none

/-- The method and the user data of a request that was reported. -/
def reportedKey : ClientEvent → Option (RtspMethodType × Nat)
  | .callback (.response response) => some (response.method, response.userdata)
  | _ => none

/-- Whether a request with this method and user data is in the slot. -/
def inSlot (key : RtspMethodType × Nat) (client : RtspClient) : Nat :=
  if client.request.isPending = true ∧
      (client.request.header.method, client.request.userdata) = key then 1 else 0

/-- What was in the slot or has been accepted is reported or is in the slot. -/
def Balanced (client : RtspClient) (events : List ClientEvent) (client' : RtspClient) : Prop :=
  ∀ key, key.1 ∈ reportedMethods →
    inSlot key client + Trace.count acceptedKey key events =
      Trace.count reportedKey key events + inSlot key client'

section Balance

variable {client client' : RtspClient} {events : List ClientEvent}

theorem Balanced.trans {a b c : RtspClient} {events events' : List ClientEvent}
    (hab : Balanced a events b) (hbc : Balanced b events' c) :
    Balanced a (events ++ events') c := by
  intro key hkey
  have hfirst := hab key hkey
  have hsecond := hbc key hkey
  rw [Trace.count_append, Trace.count_append]
  omega

/-- Nothing is accepted or reported. -/
def Unreported (events : List ClientEvent) : Prop :=
  ∀ event ∈ events, acceptedKey event = none ∧ reportedKey event = none

theorem Unreported.counts (h : Unreported events) (key : RtspMethodType × Nat) :
    Trace.count acceptedKey key events = 0 ∧ Trace.count reportedKey key events = 0 := by
  constructor
  · refine Trace.count_eq_zero.mpr fun event hevent => ?_
    rw [(h event hevent).1]
    exact (Option.some_ne_none key).symm
  · refine Trace.count_eq_zero.mpr fun event hevent => ?_
    rw [(h event hevent).2]
    exact (Option.some_ne_none key).symm

theorem unreported_nil : Unreported [] :=
  fun _ hevent => absurd hevent List.not_mem_nil

theorem unreported_sent (header : RtspRequestHeader) (message : Bytes) :
    Unreported [.sent header message] := by
  intro event hevent
  rw [List.mem_singleton.mp hevent]
  exact ⟨rfl, rfl⟩

/-- The slot as far as the balance is concerned. -/
theorem Balanced.of_slot (hevents : Unreported events)
    (h : ∀ key : RtspMethodType × Nat, key.1 ∈ reportedMethods →
      inSlot key client' = inSlot key client) : Balanced client events client' := by
  intro key hkey
  obtain ⟨haccepted, hreported⟩ := hevents.counts key
  rw [haccepted, hreported, h key hkey, Nat.add_zero, Nat.zero_add]

theorem Balanced.same (hevents : Unreported events)
    (hpending : client'.request.isPending = client.request.isPending)
    (hheader : client'.request.header = client.request.header)
    (huserdata : client'.request.userdata = client.request.userdata) :
    Balanced client events client' := by
  refine .of_slot hevents fun key _ => ?_
  unfold inSlot
  rw [hpending, hheader, huserdata]

theorem inSlot_free (h : client.request.isPending = false) (key : RtspMethodType × Nat) :
    inSlot key client = 0 := by
  unfold inSlot
  rw [h]
  exact if_neg fun h => Bool.false_ne_true h.1

theorem inSlot_unreported (h : client.request.header.method ∉ reportedMethods)
    {key : RtspMethodType × Nat} (hkey : key.1 ∈ reportedMethods) : inSlot key client = 0 := by
  refine if_neg fun hslot => h ?_
  rw [← hslot.2] at hkey
  exact hkey

theorem inSlot_pending (h : client.request.isPending = true) (key : RtspMethodType × Nat) :
    inSlot key client =
      if (client.request.header.method, client.request.userdata) = key then 1 else 0 :=
  if_congr (and_iff_right h) rfl rfl

end Balance

/-! ## Calls -/

section Calls

variable {env : ClientEnv} {client : RtspClient} {method : RtspMethodType} {userdata : Nat}
  {timeoutMs : UInt32} {internal : Bool} {stages : CallStages}
  {marked : Option RtspClientSession} {called : Called}

/-- The slot can be taken: no request is in it, or one is that keeps a session alive. -/
def SlotOpen (client : RtspClient) : Prop :=
  client.request.isPending = true →
    client.sessions.any RtspClientSession.keepAliveInProgress = true →
      client.request.header.method = .getParameter

instance (client : RtspClient) : Decidable (SlotOpen client) :=
  inferInstanceAs (Decidable (_ → _ → _))

theorem SlotOpen.inSlot (h : SlotOpen client) (hclaim : claimSlot client = .ok (claimed client))
    {key : RtspMethodType × Nat} (hkey : key.1 ∈ reportedMethods) :
    Librtsp.inSlot key client = 0 := by
  obtain ⟨-, -, hkeepAlive⟩ := claimSlot_ok hclaim
  cases hpending : client.request.isPending with
  | false => exact inSlot_free hpending key
  | true =>
      refine inSlot_unreported ?_ hkey
      rw [h hpending (hkeepAlive hpending)]
      decide

theorem Filled.slot {slot built : RtspClient} (h : Filled env slot built method userdata) :
    built.request.isPending = slot.request.isPending ∧ built.request.userdata = userdata := by
  rw [h.same]
  exact ⟨rfl, rfl⟩

/-- A call that fails after it has claimed the slot leaves it free. -/
theorem Balanced.failed {left : RtspClient} (hopen : SlotOpen client)
    (hclaim : claimSlot client = .ok (claimed client))
    (hpending : left.request.isPending = client.request.isPending)
    (hfree : client.request.isPending = false) : Balanced client [] left :=
  .of_slot unreported_nil fun key hkey => by
    rw [hopen.inSlot hclaim hkey, inSlot_free (hpending.trans hfree)]

/-- A request function accepts a request exactly when the request has the slot then. -/
theorem CallOutcome.balanced
    (h : CallOutcome env client method userdata timeoutMs internal stages marked called)
    (hopen : SlotOpen client)
    (hgoes : client.request.isPending = true → (claimSlot client).isOk = true →
      called.ret = .ok ()) :
    Balanced client (called.accept method userdata).events called.client := by
  have hfree : ∀ {e : Errno}, called.ret = .error e →
      claimSlot client = .ok (Librtsp.claimed client) → client.request.isPending = false := by
    intro e hret hclaim
    by_contra hpending
    rw [hgoes (eq_true_of_ne_false hpending) (by rw [hclaim]; rfl)] at hret
    cases hret
  cases h with
  | refused e => exact .same unreported_nil rfl rfl rfl
  | claimed e hclaim => exact .failed hopen hclaim rfl (hfree rfl hclaim)
  | unnumbered e hclaim => exact .failed hopen hclaim rfl (hfree rfl hclaim)
  | unsent e hclaim _ _ _ hfilled =>
      exact .failed hopen hclaim hfilled.slot.1 (hfree rfl hclaim)
  | @sent built message hclaim _ hfilled =>
      intro key hkey
      have hslot := @inSlot_pending (sentClient built timeoutMs) rfl key
      rw [hopen.inSlot hclaim hkey, hslot]
      change 0 + Trace.count acceptedKey key [.sent _ message, .accepted method userdata] =
        Trace.count reportedKey key [.sent _ message, .accepted method userdata] +
          if (built.request.header.method, built.request.userdata) = key then 1 else 0
      rw [hfilled.sameMethod, hfilled.slot.2]
      simp [Trace.count_cons, acceptedKey, reportedKey]
  | @tearsDown built session message hclaim _ hteardown hfilled =>
      intro key hkey
      have hother : ∀ userdata, (RtspMethodType.teardown, userdata) ≠ key := by
        rintro userdata rfl
        exact teardown_unreported hkey
      have hslot := @inSlot_pending
        (markedClient (sentClient built timeoutMs) session internal) rfl key
      rw [hopen.inSlot hclaim hkey, hslot]
      change 0 + Trace.count acceptedKey key [.sent _ message, .accepted method userdata] =
        Trace.count reportedKey key [.sent _ message, .accepted method userdata] +
          if (built.request.header.method, built.request.userdata) = key then 1 else 0
      rw [hfilled.sameMethod, hteardown]
      simp [Trace.count_cons, acceptedKey, reportedKey, hother]

/-- The client's own teardown neither accepts nor reports. -/
theorem CallOutcome.balanced_teardown
    (h : CallOutcome env client .teardown userdata timeoutMs internal stages marked called)
    (hopen : SlotOpen client) : Balanced client called.events called.client := by
  cases h with
  | refused e => exact .same unreported_nil rfl rfl rfl
  | claimed e hclaim => exact .same unreported_nil rfl rfl rfl
  | unnumbered e hclaim =>
      refine .of_slot unreported_nil fun key hkey => ?_
      rw [hopen.inSlot hclaim hkey]
      exact inSlot_unreported teardown_unreported hkey
  | unsent e hclaim _ _ _ hfilled =>
      refine .of_slot unreported_nil fun key hkey => ?_
      rw [hopen.inSlot hclaim hkey]
      exact inSlot_unreported (hfilled.sameMethod ▸ teardown_unreported) hkey
  | @sent built message hclaim _ hfilled =>
      refine .of_slot (unreported_sent _ message) fun key hkey => ?_
      rw [hopen.inSlot hclaim hkey]
      exact @inSlot_unreported (sentClient built timeoutMs)
        (hfilled.sameMethod ▸ teardown_unreported) key hkey
  | @tearsDown built session message hclaim _ _ hfilled =>
      refine .of_slot (unreported_sent _ message) fun key hkey => ?_
      rw [hopen.inSlot hclaim hkey]
      exact @inSlot_unreported (markedClient (sentClient built timeoutMs) session internal)
        (hfilled.sameMethod ▸ teardown_unreported) key hkey

end Calls

/-! ## The other changes -/

section Changes

variable {env : ClientEnv} {client client' : RtspClient} {events : List ClientEvent}

theorem respondsTo_reported {method : RtspMethodType} (h : method ∈ reportedMethods) :
    RtspClientCbs.resp {} method = true := by
  have hall : ∀ method ∈ reportedMethods, RtspClientCbs.resp {} method = true := by decide
  exact hall method h

/-- The end of a request is reported, unless it tears down or keeps alive. -/
theorem CompletedMethod.reports {session : Option RtspClientSession} {ended : EndedRequest}
    {resp : RtspResponseHeader} {completion : Completion} {p : Progress}
    (h : CompletedMethod client session ended resp completion p)
    {key : RtspMethodType × Nat} (hkey : key.1 ∈ reportedMethods) :
    Trace.count acceptedKey key p.events = 0 ∧ Trace.count reportedKey key p.events =
      if (ended.method, ended.userdata) = key then 1 else 0 := by
  have hreport : ∀ response : ClientResponse, response.method = ended.method →
      response.userdata = ended.userdata →
        Trace.count acceptedKey key [.callback (.response response)] = 0 ∧
          Trace.count reportedKey key [.callback (.response response)] =
            if (ended.method, ended.userdata) = key then 1 else 0 := by
    intro response hmethod huserdata
    rw [← hmethod, ← huserdata]
    simp [Trace.count_cons, acceptedKey, reportedKey]
  have hsilent : ended.method ∉ reportedMethods →
      (if (ended.method, ended.userdata) = key then 1 else 0) = 0 := fun hmethod =>
    if_neg fun heq => hmethod (by rw [← heq] at hkey; exact hkey)
  cases h with
  | plain response _ _ _ hresponse => exact hreport response hresponse.1 hresponse.2
  | setUp response _ hmethod _ _ hresponse =>
      exact hreport response (hresponse.1.trans hmethod.symm) hresponse.2
  | notSetUp response hmethod _ hresponse =>
      exact hreport response (hresponse.1.trans hmethod.symm) hresponse.2
  | silent task hmethod =>
      rw [hsilent (by rw [hmethod]; decide)]
      exact ⟨rfl, rfl⟩
  | tornDown response task hmethod _ hresponse =>
      rw [hsilent (by rw [hmethod]; decide)]
      have hother : (RtspMethodType.teardown, response.userdata) ≠ key := by
        rintro rfl
        exact teardown_unreported hkey
      simp [Trace.count_cons, acceptedKey, reportedKey, hresponse.1, hother]
  | keepAlive hmethod =>
      rw [hsilent (by rw [hmethod]; decide), keepAliveComplete_events]
      exact ⟨rfl, rfl⟩
  | other _ hcallback =>
      refine ⟨rfl, (hsilent fun hmem => ?_).symm⟩
      have hcalled := respondsTo_reported hmem
      rw [hcallback] at hcalled
      cases hcalled

/-- Without calls and teardowns of its own, a step keeps the balance. -/
theorem ClientChange.balanced {kinds : List ChangeKind}
    (h : ClientChange env kinds client events client') (hcall : .call ∉ kinds)
    (hteardown : .teardown ∉ kinds) : Balanced client events client' := by
  induction h with
  | refl => exact .same unreported_nil rfl rfl rfl
  | trans hab hbc ihab ihbc => exact ihab.trans ihbc
  | told client callback hcallback =>
      refine .same ?_ rfl rfl rfl
      intro event hevent
      rw [List.mem_singleton.mp hevent]
      refine ⟨rfl, ?_⟩
      cases callback with
      | response response => exact absurd rfl (hcallback response)
      | _ => rfl
  | answered => exact .same (by simp [Unreported, acceptedKey, reportedKey]) rfl rfl rfl
  | connecting => exact .same (by simp [Unreported, acceptedKey, reportedKey]) rfl rfl rfl
  | delivered => exact .same (by simp [Unreported, acceptedKey, reportedKey]) rfl rfl rfl
  | linked haddr h =>
      rw [h]
      exact .same unreported_nil rfl rfl rfl
  | called hkind => exact absurd hkind hcall
  | tearsDown hkind => exact absurd hkind hteardown
  | @completed hkind client resp status p hpending h =>
      intro key hkey
      obtain ⟨haccepted, hreported⟩ := h.reports hkey
      have hempty : p.client.request.isPending = false := by
        rw [completed_frame h]
        rfl
      rw [haccepted, hreported, inSlot_pending hpending, inSlot_free hempty]
      rfl
  | @drafted hkind client header auth hpending hheader =>
      refine .of_slot unreported_nil fun key _ => ?_
      rw [inSlot_free hpending]
      exact @inSlot_free (draftedClient client header auth) hpending key
  | @keptAlive hkind client session header auth events hfind hpending hstate hheader hsession
      hagent hevents =>
      have hevents' : Unreported events := by
        rcases hevents with rfl | ⟨message, rfl⟩
        · exact unreported_nil
        · exact unreported_sent header message
      refine .of_slot hevents' fun key hkey => ?_
      rw [inSlot_free hpending]
      refine @inSlot_unreported (keptAliveClient client session header auth) ?_ key hkey
      change header.method ∉ reportedMethods
      rw [hheader.method]
      decide
  | mediaAdded hkind hfind hadd =>
      unfold rtspClientSessionMediaAdd at hadd
      split at hadd
      next =>
        cases hadd
        exact .same unreported_nil rfl rfl rfl
      next => cases hadd
  | _ => exact .same unreported_nil rfl rfl rfl

end Changes

/-! ## Steps and runs -/

section Machine

variable {E : HeaderEdit} {P : Platform} {env : ClientEnv} {s s' : ClientState}
  {input : ClientInput}

def ClientInput.clientCall : ClientInput → Option ClientCall
  | .call asked => some asked
  | _ => none

/-- The request whose end goes on next. -/
def ClientState.concluding (s : ClientState) : Option Completion :=
  match s.tasks with
  | .conclude completion :: _ => some completion
  | _ => none

/-- No request is displaced: what is taken over is a keep-alive, and a call that takes it over
goes through. -/
structure KeepsSlot (P : Platform) (env : ClientEnv) (s : ClientState) (input : ClientInput) :
    Prop where
  call : ∀ call ∈ input.clientCall, SlotOpen s.client ∧
    (s.client.request.isPending = true → (claimSlot s.client).isOk = true →
      ∀ called ∈ (callRequest P env s.client call).toOption, called.ret = .ok ())
  teardown : ∀ completion ∈ s.concluding, completion.internalTeardown = true → SlotOpen s.client

instance (P : Platform) (env : ClientEnv) (s : ClientState) (input : ClientInput) :
    Decidable (KeepsSlot P env s input) :=
  decidable_of_iff
    ((∀ call ∈ input.clientCall, SlotOpen s.client ∧
      (s.client.request.isPending = true → (claimSlot s.client).isOk = true →
        ∀ called ∈ (callRequest P env s.client call).toOption, called.ret = .ok ())) ∧
      ∀ completion ∈ s.concluding, completion.internalTeardown = true → SlotOpen s.client)
    ⟨fun h => ⟨h.1, h.2⟩, fun h => ⟨h.1, h.2⟩⟩

/-- A step keeps the balance. -/
theorem clientStep_balanced (hwf : s.client.WellFormed) (hguard : KeepsSlot P env s input)
    (h : clientStep E P env s input = .ok s') :
    ∃ events, s'.events = s.events ++ events ∧ Balanced s.client events s'.client := by
  by_cases hcall : .call ∈ s.kinds input
  · obtain ⟨call, rfl⟩ := call_of_kinds hcall
    obtain ⟨hopen, hgoes⟩ := hguard.call call rfl
    obtain ⟨called, hcalled, hclient, hevents, -⟩ := clientStep_call h
    obtain ⟨marked, called', houtcome, rfl⟩ := callRequest_outcome hwf.keys hcalled
    refine ⟨_, hevents, ?_⟩
    rw [hclient, accept_client]
    refine houtcome.balanced hopen fun hpending hclaim => ?_
    have hret := hgoes hpending hclaim _ (by rw [hcalled]; rfl)
    rwa [accept_ret] at hret
  · by_cases hteardown : .teardown ∈ s.kinds input
    · obtain ⟨completion, rest, htasks⟩ := teardown_of_kinds hteardown
      obtain ⟨p, hp, rfl⟩ := clientStep_conclude htasks h
      refine ⟨_, rfl, ?_⟩
      obtain ⟨called, removed, hcalled, hevents, hchange, -⟩ :=
        @concludeRequestComplete_cases env [] s.client P completion p hwf hp
      change Balanced s.client p.events p.client
      rw [hevents]
      refine Balanced.trans ?_ (hchange.balanced List.not_mem_nil List.not_mem_nil)
      rcases hcalled with ⟨-, rfl⟩ | ⟨hinternal, marked, houtcome⟩
      · exact .same unreported_nil rfl rfl rfl
      · refine houtcome.balanced_teardown (hguard.teardown completion ?_ hinternal)
        rw [ClientState.concluding, htasks]
        rfl
    · obtain ⟨events, hevents, hchange⟩ := clientStep_changes hwf h
      exact ⟨events, hevents, hchange.balanced hcall hteardown⟩

end Machine

/-- An OPTIONS request and its response, and a DESCRIBE request that waits. -/
def reportedOptions : List (ClientEnv × ClientInput) :=
  connectInputs ++
    undisturbed
      [.call (.options { userdata := 7 }),
        .data (ascii "RTSP/1.0 200 OK\r\nCSeq: 1\r\nPublic: DESCRIBE\r\n\r\n"), .resume,
        .callbackReturns, .resume, .resume, .resume, .resume,
        .call (.describe none { userdata := 8 })]

end Librtsp
