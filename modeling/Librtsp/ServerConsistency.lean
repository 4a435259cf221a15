import Librtsp.Execution
import Librtsp.ServerSteps

/-!
# Consistent tables

Addresses stay distinct, and the requests in their callback are those the code
stands in, along every run of the server.
-/

namespace Librtsp

open CString RecordList

/-! ## Leaving -/

/-- What becomes of the session whose operation ends. -/
def Leaving.ends (l : Leaving) (e : SessionEntry) : Option SessionEntry :=
  if l.tearsDown then
    if e.medias.all Prod.snd then none
    else some { e with op := .unknown, medias := e.medias.filter (!·.2) }
  else some { e with op := .unknown }

namespace Table

variable {t : Table} {l : Leaving}

@[simp] theorem leave_requests : (t.leave l).requests = (t.removeRequest l.request).requests := by
  unfold leave
  split
  next => rfl
  next =>
    split
    next => rfl
    next =>
      split
      next => exact removeTornDown_requests _ _
      next => rfl

@[simp] theorem leave_next : (t.leave l).next = t.next := by
  unfold leave
  split
  next => rfl
  next =>
    split
    next => rfl
    next =>
      split
      next => exact removeTornDown_next _ _
      next => rfl

theorem WellFormed.leave (hwf : t.WellFormed) : (t.leave l).WellFormed := by
  unfold Table.leave
  split
  next => exact hwf.removeRequest _
  next =>
    split
    next => exact hwf.removeRequest _
    next e hfound =>
      have hset : (t.setSession { e with op := .unknown }).WellFormed :=
        hwf.shrinkSession (lookup_some hfound).1 rfl (List.Sublist.refl _)
      split
      next => exact (hset.removeRequest _).removeTornDown _
      next => exact hset.removeRequest _

theorem mem_setSession_self {e e' e₁ : SessionEntry} (he : e ∈ t.sessions)
    (haddr : e₁.addr = e.addr) :
    e' ∈ (t.setSession e₁).sessions ↔ (e' ∈ t.sessions ∧ e'.addr ≠ e.addr) ∨ e' = e₁ := by
  rw [mem_setSession, haddr]
  constructor
  · intro h
    rcases h with h | ⟨h, -⟩
    · exact .inl h
    · exact .inr h
  · intro h
    rcases h with h | h
    · exact .inl h
    · exact .inr ⟨h, e, he, rfl⟩

theorem mem_removeTornDown (hwf : t.WellFormed) {e e' : SessionEntry} (he : e ∈ t.sessions) :
    e' ∈ (t.removeTornDown e.addr).sessions ↔
      (e' ∈ t.sessions ∧ e'.addr ≠ e.addr) ∨
        (e.medias.all Prod.snd = false ∧ e' = { e with medias := e.medias.filter (!·.2) }) := by
  unfold removeTornDown
  simp only [lookup_of_mem hwf.sessionsDistinct he]
  split
  next hall => simp [hall]
  next hall =>
    have hset : e' ∈ (t.setSession { e with medias := e.medias.filter (!·.2) }).sessions ↔
        (e' ∈ t.sessions ∧ e'.addr ≠ e.addr) ∨
          e' = { e with medias := e.medias.filter (!·.2) } :=
      mem_setSession_self he rfl
    simpa [hall] using hset

theorem mem_leave (hwf : t.WellFormed) {e' : SessionEntry} :
    e' ∈ (t.leave l).sessions ↔
      (e' ∈ t.sessions ∧ l.clears ≠ some e'.addr) ∨
        ∃ e ∈ t.sessions, l.clears = some e.addr ∧ l.ends e = some e' := by
  unfold leave
  cases hclears : l.clears with
  | none => simp
  | some session =>
      dsimp only
      split
      next hfound =>
        have hother := lookup_none.mp hfound
        constructor
        · intro he'
          exact .inl ⟨he', fun h => hother e' he' (Option.some.inj h).symm⟩
        · intro h
          rcases h with ⟨he', -⟩ | ⟨e, he, haddr, -⟩
          · exact he'
          · exact absurd (Option.some.inj haddr).symm (hother e he)
      next e hfound =>
        obtain ⟨he, rfl⟩ := lookup_some hfound
        have hends : (∃ e₁ ∈ t.sessions, some e.addr = some e₁.addr ∧ l.ends e₁ = some e') ↔
            l.ends e = some e' := by
          constructor
          · intro ⟨e₁, he₁, haddr, h⟩
            rwa [hwf.session_unique he he₁ (Option.some.inj haddr)]
          · intro h
            exact ⟨e, he, rfl, h⟩
        have hset : ∀ e' : SessionEntry, e' ∈ (t.setSession { e with op := .unknown }).sessions ↔
            (e' ∈ t.sessions ∧ e'.addr ≠ e.addr) ∨ e' = { e with op := .unknown } :=
          fun e' => mem_setSession_self he rfl
        have hne : (some e.addr ≠ some e'.addr) ↔ e'.addr ≠ e.addr := by
          simp [eq_comm]
        rw [hends, hne]
        unfold Leaving.ends
        split
        next =>
          have hwf' : (t.setSession { e with op := .unknown }).WellFormed :=
            hwf.shrinkSession he rfl (List.Sublist.refl _)
          have he' : { e with op := .unknown } ∈
              ((t.setSession { e with op := .unknown }).removeRequest l.request).sessions :=
            (hset _).mpr (.inr rfl)
          have hdrop : (((e' ∈ t.sessions ∧ e'.addr ≠ e.addr) ∨ e' = { e with op := .unknown }) ∧
              e'.addr ≠ e.addr) ↔ (e' ∈ t.sessions ∧ e'.addr ≠ e.addr) := by
            constructor
            · intro ⟨h, hother⟩
              rcases h with h | rfl
              · exact h
              · exact absurd rfl hother
            · intro h
              exact ⟨.inl h, h.2⟩
          rw [mem_removeTornDown (hwf'.removeRequest _) he', removeRequest_sessions, hset, hdrop]
          by_cases hall : e.medias.all Prod.snd = true
          · simp [hall]
          · rw [if_neg hall, Option.some.injEq, eq_comm (a := e')]
            simp [hall]
        next =>
          rw [removeRequest_sessions, hset, Option.some.injEq, eq_comm (a := e')]

end Table

section Arrival

variable {P : Platform} {env : Env} {σ : ServerState} {input : ServerInput}
  {request : RtspServerPendingRequest}

/-- A message is processed outside every callback. -/
theorem arriving_idle (h : arriving env σ input = some request) :
    σ.activity.anchor = none ∧ σ.activity.swept = none := by
  unfold arriving at h
  split at h
  next =>
    split at h
    next hactivity =>
      rw [hactivity]
      exact ⟨rfl, rfl⟩
    next => simp at h
  next => simp at h

theorem anchor_of_swept {activity : Activity} {a : Addr} (h : activity.swept = some a) :
    activity.anchor = none := by
  cases activity with
  | sweeping => rfl
  | _ => simp [Activity.swept] at h

end Arrival

/-! ## Well-formed tables -/

section Preserved

variable {P : Platform} {env : Env} {σ : ServerState} {input : ServerInput} {t : Table}
  {activity : Activity} {events : List ServerEvent} {request : RtspServerPendingRequest}

@[simp] theorem markMedias_fst
    (method : RtspMethodType) (selected : List Addr) (medias : List (Addr × Bool)) :
    (markMedias method selected medias).map Prod.fst = medias.map Prod.fst := by
  simp [markMedias]

/-- A request that arrives has no session and no media yet. -/
theorem arriving_entry
    {request : RtspServerPendingRequest} (h : arriving env σ input = some request) :
    request.entry.addr = σ.server.table.next ∧ request.entry.target = none ∧
      request.entry.references = [] ∧ request.entry.inCallback = false ∧
      request.entry.replied = false := by
  have hfresh := arriving_fresh h
  exact ⟨hfresh.addr, hfresh.target, hfresh.references, hfresh.inCallback, hfresh.replied⟩

/-- A request that arrives is put at the end of the list. -/
theorem arrives
    (hwf : t.WellFormed) {request : RtspServerPendingRequest}
    (harriving : arriving env σ input = some request) (hrequests : t.requests =
      σ.server.table.requests) (hold : σ.server.table.WellFormed)
    (hnext : σ.server.table.next < t.next) {r : RequestEntry} (haddr : r.addr = request.entry.addr)
    (htarget : ∀ session, r.target = some session → session < t.next)
    (hreferences : ∀ media ∈ r.references, media < t.next) : (t.addRequest r).WellFormed := by
  have haddr' : r.addr = σ.server.table.next := haddr.trans (arriving_entry harriving).1
  apply hwf.addRequest (haddr' ▸ hnext) _ htarget hreferences
  intro r' hr'
  rw [hrequests] at hr'
  exact haddr' ▸ (hold.requestBelow r' hr').ne

theorem Change.wellFormed
    (hwf : σ.server.table.WellFormed) (h : Change P env σ input t activity events) :
    t.WellFormed := by
  have hallocate : ∀ n, (σ.server.table.allocate (σ.server.table.next + n)).WellFormed :=
    fun n => hwf.allocate (Nat.le_add_right _ n)
  cases h with
  | moves => exact hwf
  | admits harriving =>
      obtain ⟨-, htarget, hreferences, -, -⟩ := arriving_entry harriving
      exact arrives (hallocate 1) harriving rfl hwf (Nat.lt_succ_self _) rfl
        (by simp [htarget]) (by simp [hreferences])
  | refuses _ _ _ _ hnext => exact hwf.allocate hnext.le
  | @mismatches request activity event attempt e harriving hreceived hattempt hactivity he =>
      have hset : (σ.server.table.setSession { e with op := .teardown }).WellFormed :=
        hwf.shrinkSession he rfl (List.Sublist.refl _)
      exact hset.allocate (Nat.le_succ _)
  | answers => exact hwf.allocate (Nat.le_succ _)
  | asks harriving =>
      obtain ⟨-, htarget, hreferences, -, -⟩ := arriving_entry harriving
      exact arrives (hallocate 1) harriving rfl hwf (Nat.lt_succ_self _) rfl
        (by simp [htarget]) (by simp [hreferences])
  | @starts request activity event e medias harriving hreceived hmethod he _ hmedias =>
      have hset : ((σ.server.table.allocate (σ.server.table.next + 1)).setSession
          { e with
            op := request.requestHeader.method
            medias := markMedias request.requestHeader.method medias e.medias }).WellFormed :=
        by
        apply (hallocate 1).shrinkSession he
        · rfl
        · simp
      apply arrives hset harriving rfl hwf (Nat.lt_succ_self _)
      · rfl
      · intro session hsession
        cases hsession
        exact (hallocate 1).sessionBelow e he
      · intro media hmedia
        obtain ⟨m, hm, rfl⟩ := List.mem_map.mp (hmedias.subset hmedia)
        exact (hallocate 1).mediaBelow e he m hm
  | @joins request activity event e harriving hreceived hmethod he =>
      have hset : ((σ.server.table.allocate (σ.server.table.next + 2)).setSession
          { e with
            op := .setup
            medias := e.medias ++ [(σ.server.table.next + 1, false)] }).WellFormed := by
        apply (hallocate 2).setSession he
        · rfl
        · intro media hmedia
          rcases List.mem_append.mp hmedia with hmedia | hmedia
          · exact (hallocate 2).mediaBelow e he media hmedia
          · rw [List.mem_singleton] at hmedia
            simp [hmedia]
        · apply nodup_append (hwf.mediasDistinct e he)
          intro media hmedia
          exact ((hwf.mediaBelow e he media hmedia).trans (Nat.lt_succ_self _)).ne
      apply arrives hset harriving rfl hwf (by simp)
      · rfl
      · intro session hsession
        cases hsession
        exact (hallocate 2).sessionBelow e he
      · simp
  | opens harriving =>
      have hadd : ((σ.server.table.allocate (σ.server.table.next + 3)).addSession
          { addr := σ.server.table.next + 1
            op := .setup
            medias := [(σ.server.table.next + 2, false)] }).WellFormed := by
        apply (hallocate 3).addSession
        · simp
        · intro e he
          exact ((hwf.sessionBelow e he).trans (Nat.lt_succ_self _)).ne
        · simp
        · simp
      apply arrives hadd harriving rfl hwf (by simp)
      · rfl
      · simp
      · simp
  | answered hpending => exact hwf.setRequest (RtspServer.entry_mem_requests hpending) rfl rfl rfl
  | leaves => exact hwf.leave
  | finishes => exact hwf.leave
  | finishesSelf => exact hwf.leave
  | returns hpending => exact hwf.setRequest (RtspServer.entry_mem_requests hpending) rfl rfl rfl
  | drops => exact hwf.removeSession _
  | dropsMedia _ he => exact hwf.shrinkSession he rfl (List.filter_sublist.map _)
  | expires => exact hwf
  | sweeps => exact hwf.removeRequest _
  | sweepsOn => exact hwf.removeRequest _
  | disconnects conn => exact hwf.disconnect conn

/-! ## Consistency -/

/-- No request is in its callback while no callback runs. -/
theorem Table.Consistent.none_running
    {activity : Activity} (h : t.Consistent activity) (hanchor : activity.anchor = none) :
    ∀ r ∈ t.requests, r.inCallback = false := by
  intro r hr
  by_contra hrunning
  obtain ⟨l, hsome, -⟩ := h.running r hr (by simpa using hrunning)
  rw [hanchor] at hsome
  simp at hsome

/-- Outside the callbacks: the requests are consistent when none is in its
callback and none has been replied to. -/
theorem consistent_idle
    (hwf : t.WellFormed) (hanchor : activity.anchor = none)
    (hidle : ∀ r ∈ t.requests, r.inCallback = false ∧ r.replied = false) :
    t.Consistent activity where
  wellFormed := hwf
  anchored := by
    intro l hsome
    rw [hanchor] at hsome
    simp at hsome
  running := by
    intro r hr hrunning
    rw [(hidle r hr).1] at hrunning
    simp at hrunning
  replied := by
    intro r hr hreplied
    rw [(hidle r hr).2] at hreplied
    simp at hreplied

theorem Table.Consistent.idle
    {activity : Activity} (h : t.Consistent activity) (hanchor : activity.anchor = none) :
    ∀ r ∈ t.requests, r.inCallback = false ∧ r.replied = false := by
  intro r hr
  have hrunning := h.none_running hanchor r hr
  refine ⟨hrunning, ?_⟩
  by_contra hreplied
  have := h.replied r hr (by simpa using hreplied)
  simp [hrunning] at this

/-- The callback of the request that arrived runs. -/
theorem consistent_calls
    (hold : σ.Consistent) (harriving : arriving env σ input = some request) (hwf : t.WellFormed)
    {r : RequestEntry} {l : Leaving} (hrequests : t.requests = σ.server.table.requests ++ [r])
    (hrunning : r.inCallback = true) (hanchor : activity.anchor = some l)
    (haddr : r.addr = l.request) (htarget : r.target = l.clears)
    (htears : l.clears = none ∨ l.tearsDown = decide (r.method = .teardown)) :
    t.Consistent activity where
  wellFormed := hwf
  anchored := by
    intro l' hsome
    rw [hanchor] at hsome
    cases hsome
    exact ⟨r, by simp [hrequests], haddr, hrunning, htarget, htears⟩
  running := by
    intro r' hr' hrunning'
    rw [hrequests] at hr'
    rcases List.mem_append.mp hr' with hr' | hr'
    · have hidle := hold.none_running (arriving_idle harriving).1 r' hr'
      simp [hidle] at hrunning'
    · rw [List.mem_singleton] at hr'
      exact ⟨l, hanchor, hr' ▸ haddr.symm⟩
  replied := by
    intro r' hr' hreplied
    rw [hrequests] at hr'
    rcases List.mem_append.mp hr' with hr' | hr'
    · exact hold.replied r' hr' hreplied
    · rw [List.mem_singleton] at hr'
      exact hr' ▸ hrunning

/-- After the callback of a request returns no request is in its callback. -/
theorem idle_after
    (hold : σ.Consistent) {l : Leaving} (hbefore : σ.activity.anchor = some l)
    {r : RequestEntry} (hr : r ∈ σ.server.table.requests) (hother : r.addr ≠ l.request) :
    r.inCallback = false ∧ r.replied = false := by
  have hrunning : r.inCallback = false := by
    by_contra h
    obtain ⟨l', hsome, haddr⟩ := hold.running r hr (by simpa using h)
    rw [hbefore] at hsome
    cases hsome
    exact hother haddr.symm
  refine ⟨hrunning, ?_⟩
  by_contra h
  have := hold.replied r hr (by simpa using h)
  simp [hrunning] at this

/-- The requests in their callback stay, and no other is added to them. -/
theorem consistent_keeps
    (hold : σ.Consistent) (hwf : t.WellFormed) (hanchor : activity.anchor = σ.activity.anchor)
    (hstay : ∀ r ∈ σ.server.table.requests, r.inCallback = true →
      ∃ r' ∈ t.requests, r'.addr = r.addr ∧ r'.inCallback = true ∧ r'.target = r.target ∧
        r'.method = r.method)
    (hcome : ∀ r' ∈ t.requests, ∃ r ∈ σ.server.table.requests, r'.addr = r.addr ∧
      r'.inCallback = r.inCallback ∧ (r'.replied = true → r.inCallback = true)) :
    t.Consistent activity where
  wellFormed := hwf
  anchored := by
    intro l hsome
    rw [hanchor] at hsome
    obtain ⟨r, hr, haddr, hrunning, htarget⟩ := hold.anchored l hsome
    obtain ⟨r', hr', haddr', hrunning', htarget', hmethod⟩ := hstay r hr hrunning
    refine ⟨r', hr', haddr'.trans haddr, hrunning', ?_⟩
    rw [htarget', hmethod]
    exact htarget
  running := by
    intro r' hr' hrunning
    obtain ⟨r, hr, haddr, heq, -⟩ := hcome r' hr'
    rw [hanchor, haddr]
    exact hold.running r hr (heq ▸ hrunning)
  replied := by
    intro r' hr' hreplied
    obtain ⟨r, hr, -, heq, hrunning⟩ := hcome r' hr'
    exact heq.trans (hrunning hreplied)

theorem Change.consistent
    (hold : σ.Consistent) (h : Change P env σ input t activity events) : t.Consistent activity := by
  have hwf := h.wellFormed hold.wellFormed
  cases h with
  | moves hanchor => exact ⟨hwf, hanchor ▸ hold.anchored, hanchor ▸ hold.running, hold.replied⟩
  | admits harriving _ hactivity =>
      obtain ⟨-, -, -, hrunning, hreplied⟩ := arriving_entry harriving
      apply consistent_idle hwf hactivity.1
      intro r hr
      rcases Table.mem_addRequest.mp hr with hr | rfl
      · exact hold.idle (arriving_idle harriving).1 r hr
      · exact ⟨hrunning, hreplied⟩
  | refuses harriving _ _ hactivity =>
      exact consistent_idle hwf hactivity.1 (hold.idle (arriving_idle harriving).1)
  | mismatches harriving _ _ hactivity =>
      exact consistent_idle hwf hactivity.1 (hold.idle (arriving_idle harriving).1)
  | answers harriving _ _ hactivity =>
      exact consistent_idle hwf hactivity.1 (hold.idle (arriving_idle harriving).1)
  | asks harriving _ hanchor =>
      exact consistent_calls hold harriving hwf rfl rfl hanchor rfl (arriving_entry harriving).2.1
        (.inl rfl)
  | starts harriving _ _ _ _ _ _ hanchor =>
      exact consistent_calls hold harriving hwf rfl rfl hanchor rfl rfl (.inr rfl)
  | joins harriving _ hmethod _ hanchor =>
      exact consistent_calls hold harriving hwf rfl rfl hanchor rfl rfl
        (.inr (by simp [RtspServerPendingRequest.entry, hmethod]))
  | opens harriving _ hmethod hanchor =>
      exact consistent_calls hold harriving hwf rfl rfl hanchor rfl rfl
        (.inr (by simp [RtspServerPendingRequest.entry, hmethod]))
  | @answered request activity attempt hpending hcallback hattempt hanchor hswept =>
      have hmem := RtspServer.entry_mem_requests hpending
      apply consistent_keeps hold hwf hanchor
      · intro r hr hrunning
        by_cases haddr : r.addr = request.addr
        · have heq := hold.wellFormed.request_unique hr hmem haddr
          subst heq
          exact ⟨_, Table.mem_setRequest.mpr (.inr ⟨rfl, _, hmem, rfl⟩), rfl, hcallback, rfl,
            rfl⟩
        · exact ⟨r, Table.mem_setRequest.mpr (.inl ⟨hr, haddr⟩), rfl, hrunning, rfl, rfl⟩
      · intro r' hr'
        rcases Table.mem_setRequest.mp hr' with ⟨hr', -⟩ | ⟨rfl, -⟩
        · exact ⟨r', hr', rfl, rfl, hold.replied r' hr'⟩
        · exact ⟨request.entry, hmem, rfl, rfl, fun _ => hcallback⟩
  | @leaves request l activity attempt hpending hrequest hcallback hleaving hattempt hanchor =>
      have hmem := RtspServer.entry_mem_requests hpending
      apply consistent_keeps hold hwf hanchor
      · intro r hr hrunning
        refine ⟨r, ?_, rfl, hrunning, rfl, rfl⟩
        rw [Table.leave_requests]
        apply Table.mem_removeRequest.mpr ⟨hr, _⟩
        intro haddr
        have heq := hold.wellFormed.request_unique hr hmem (haddr.trans hrequest.symm)
        rw [heq] at hrunning
        exact absurd (hrunning.symm.trans hcallback) (by simp)
      · intro r' hr'
        rw [Table.leave_requests] at hr'
        have hr := (Table.mem_removeRequest.mp hr').1
        exact ⟨r', hr, rfl, rfl, hold.replied r' hr⟩
  | finishes _ _ _ _ hbefore hactivity =>
      apply consistent_idle hwf hactivity.1
      intro r hr
      rw [Table.leave_requests] at hr
      obtain ⟨hr, hother⟩ := Table.mem_removeRequest.mp hr
      exact idle_after hold hbefore hr hother
  | finishesSelf _ _ _ _ _ hbefore hactivity =>
      apply consistent_idle hwf hactivity.1
      intro r hr
      rw [Table.leave_requests] at hr
      obtain ⟨hr, hother⟩ := Table.mem_removeRequest.mp hr
      exact idle_after hold hbefore hr hother
  | returns _ hreplied hrequest hbefore hactivity =>
      apply consistent_idle hwf hactivity.1
      intro r hr
      rcases Table.mem_setRequest.mp hr with ⟨hr, hother⟩ | ⟨rfl, -⟩
      · exact idle_after hold hbefore hr (hrequest ▸ hother)
      · exact ⟨rfl, hreplied⟩
  | drops _ hanchor => exact ⟨hwf, hanchor ▸ hold.anchored, hanchor ▸ hold.running, hold.replied⟩
  | dropsMedia _ _ hanchor =>
      exact ⟨hwf, hanchor ▸ hold.anchored, hanchor ▸ hold.running, hold.replied⟩
  | expires hidle _ _ hactivity => exact consistent_idle hwf hactivity.1 (hold.idle hidle.1)
  | sweeps hbefore _ hactivity =>
      apply consistent_idle hwf hactivity.1
      intro r hr
      exact hold.idle (anchor_of_swept hbefore) r (Table.mem_removeRequest.mp hr).1
  | sweepsOn hbefore _ _ _ _ hactivity =>
      apply consistent_idle hwf hactivity.1
      intro r hr
      exact hold.idle (anchor_of_swept hbefore) r (Table.mem_removeRequest.mp hr).1
  | disconnects conn =>
      apply consistent_keeps hold hwf rfl
      · intro r hr hrunning
        refine ⟨_, List.mem_map_of_mem hr, ?_⟩
        split
        next => exact ⟨rfl, hrunning, rfl, rfl⟩
        next => exact ⟨rfl, hrunning, rfl, rfl⟩
      · intro r' hr'
        obtain ⟨r, hr, heq, -⟩ := Table.mem_disconnect hr'
        rw [heq]
        exact ⟨r, hr, rfl, rfl, hold.replied r hr⟩

end Preserved

/-! ## Runs -/

/-- The server as a machine: an input comes with what the platform gives. -/
def envStep (P : Platform) (σ : ServerState) (input : Env × ServerInput) :
    Except Halt ServerState :=
  serverStep P input.1 σ input.2

/-- A new server, before anything has happened. -/
def serverStart (softwareName : Option Bytes) (replyTimeoutMs sessionTimeoutMs : Int32)
    (cbs : RtspServerCbs) : ServerState where
  server := rtspServerNew softwareName replyTimeoutMs sessionTimeoutMs cbs

theorem serverStart_consistent
    (softwareName : Option Bytes) (replyTimeoutMs sessionTimeoutMs : Int32)
    (cbs : RtspServerCbs) :
    (serverStart softwareName replyTimeoutMs sessionTimeoutMs cbs).Consistent := by
  apply consistent_idle
  · constructor <;> simp [serverStart, rtspServerNew, RtspServer.table]
  · rfl
  · simp [serverStart, rtspServerNew, RtspServer.table]

theorem serverStep_consistent
    {P : Platform} {env : Env} {σ σ' : ServerState} {input : ServerInput}
    (hconsistent : σ.Consistent) (h : serverStep P env σ input = .ok σ') : σ'.Consistent := by
  obtain ⟨events, -, hchange⟩ := serverStep_changes hconsistent h
  exact hchange.consistent hconsistent

end Librtsp
