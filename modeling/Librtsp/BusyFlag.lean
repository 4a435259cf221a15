import Librtsp.ServerConsistency

/-!
# The operation in progress

A session says which operation it is busy with.  The field is set when a SETUP,
PLAY, PAUSE, RECORD or TEARDOWN request takes hold of the session and cleared by
the reply that ends the request.  It is one field for all requests on the
session, and the walk over the expired requests does not touch it;
`KeepsBusyFlag` says where it nevertheless tells whether such a request is
pending.
-/

namespace Librtsp

open CString RecordList

/-! ## The property -/

/-- The methods that make a session busy. -/
def IsOperation (method : RtspMethodType) : Prop :=
  method = .setup ∨ SessionMethod method

instance (method : RtspMethodType) : Decidable (IsOperation method) :=
  inferInstanceAs (Decidable (_ ∨ _ ∨ _ ∨ _ ∨ _))

/-- A session is busy if and only if a SETUP, PLAY, PAUSE, RECORD or TEARDOWN
request on it is pending. -/
def RtspServer.BusyAgrees (server : RtspServer) : Prop :=
  ∀ session ∈ server.sessions, session.opInProgress ≠ .unknown ↔
    ∃ request ∈ server.pendingRequests,
      IsOperation request.requestHeader.method ∧ request.target = some session.addr

instance (server : RtspServer) : Decidable server.BusyAgrees :=
  inferInstanceAs (Decidable (∀ session ∈ server.sessions, session.opInProgress ≠ .unknown ↔
    ∃ request ∈ server.pendingRequests,
      IsOperation request.requestHeader.method ∧ request.target = some session.addr))

namespace Table

/-- A pending request has taken hold of the session. -/
def Targeted (t : Table) (session : Addr) : Prop :=
  ∃ r ∈ t.requests, r.target = some session

/-- A request other than this one has taken hold of the session. -/
def TargetedBeside (t : Table) (request session : Addr) : Prop :=
  ∃ r ∈ t.requests, r.addr ≠ request ∧ r.target = some session

instance (t : Table) (request session : Addr) : Decidable (t.TargetedBeside request session) :=
  inferInstanceAs (Decidable (∃ r ∈ t.requests, r.addr ≠ request ∧ r.target = some session))

instance (t : Table) (session : Addr) : Decidable (t.Targeted session) :=
  inferInstanceAs (Decidable (∃ r ∈ t.requests, r.target = some session))

structure BusyAgrees (t : Table) : Prop where
  flag : ∀ e ∈ t.sessions, e.op ≠ .unknown ↔ t.Targeted e.addr
  method : ∀ r ∈ t.requests, r.target ≠ none → IsOperation r.method

end Table

theorem RtspServer.busyAgrees_of_table
    {server : RtspServer} (h : server.table.BusyAgrees) : server.BusyAgrees := by
  intro session hsession
  have hflag := h.flag _ (RtspServer.entry_mem_sessions hsession)
  have hop : session.opInProgress = session.entry.op := rfl
  rw [hop, hflag]
  constructor
  · intro htargeted
    obtain ⟨r, hr, htarget⟩ := htargeted
    obtain ⟨request, hrequest, rfl⟩ := List.mem_map.mp hr
    have htarget' : request.target = some session.addr := htarget
    exact ⟨request, hrequest, h.method _ hr (by rw [htarget]; simp), htarget'⟩
  · intro hpending
    obtain ⟨request, hrequest, -, htarget⟩ := hpending
    exact ⟨request.entry, RtspServer.entry_mem_requests hrequest, htarget⟩

/-! ## The condition on a step -/

/-- A request that leaves the list ends the operation of its own session and of
no other request; a TEARDOWN request selects some media of its session, unless
the session is busy with another request. -/
structure KeepsBusyFlag (P : Platform) (env : Env) (σ : ServerState) (input : ServerInput) :
    Prop where
  cleared : ∀ l ∈ leaving P env σ input, ∀ e ∈ σ.server.table.sessions,
    l.clears = some e.addr → l.ends e ≠ none → ¬ σ.server.table.TargetedBeside l.request e.addr
  kept : ∀ l ∈ leaving P env σ input, ∀ e ∈ σ.server.table.sessions,
    l.clears ≠ some e.addr → ∀ r ∈ σ.server.table.requests, r.addr = l.request →
      r.target = some e.addr → σ.server.table.TargetedBeside l.request e.addr
  selects : ∀ session ∈ mismatched env σ input, σ.server.table.Targeted session

instance (P : Platform) (env : Env) (σ : ServerState) (input : ServerInput) :
    Decidable (KeepsBusyFlag P env σ input) :=
  decidable_of_iff
    ((∀ l ∈ leaving P env σ input, ∀ e ∈ σ.server.table.sessions,
        l.clears = some e.addr → l.ends e ≠ none →
          ¬ σ.server.table.TargetedBeside l.request e.addr) ∧
      (∀ l ∈ leaving P env σ input, ∀ e ∈ σ.server.table.sessions,
        l.clears ≠ some e.addr → ∀ r ∈ σ.server.table.requests, r.addr = l.request →
          r.target = some e.addr → σ.server.table.TargetedBeside l.request e.addr) ∧
      ∀ session ∈ mismatched env σ input, σ.server.table.Targeted session)
    ⟨fun h => ⟨h.1, h.2.1, h.2.2⟩, fun h => ⟨h.1, h.2, h.3⟩⟩

/-! ## Steps -/

section Targets

variable {t : Table}

theorem targeted_addRequest {r : RequestEntry} {session : Addr} :
    (t.addRequest r).Targeted session ↔ t.Targeted session ∨ r.target = some session := by
  constructor
  · intro h
    obtain ⟨r', hr', htarget⟩ := h
    rcases Table.mem_addRequest.mp hr' with hr' | rfl
    · exact .inl ⟨r', hr', htarget⟩
    · exact .inr htarget
  · intro h
    rcases h with ⟨r', hr', htarget⟩ | htarget
    · exact ⟨r', Table.mem_addRequest.mpr (.inl hr'), htarget⟩
    · exact ⟨r, Table.mem_addRequest.mpr (.inr rfl), htarget⟩

theorem targeted_removeRequest {a session : Addr} :
    (t.removeRequest a).Targeted session ↔ t.TargetedBeside a session := by
  constructor
  · intro h
    obtain ⟨r, hr, htarget⟩ := h
    obtain ⟨hr, hother⟩ := Table.mem_removeRequest.mp hr
    exact ⟨r, hr, hother, htarget⟩
  · intro h
    obtain ⟨r, hr, hother, htarget⟩ := h
    exact ⟨r, Table.mem_removeRequest.mpr ⟨hr, hother⟩, htarget⟩

/-- A request that keeps its target. -/
theorem targeted_setRequest
    (hwf : t.WellFormed) {r r' : RequestEntry} (hr : r ∈ t.requests) (haddr : r'.addr = r.addr)
    (htarget : r'.target = r.target) {session : Addr} :
    (t.setRequest r').Targeted session ↔ t.Targeted session := by
  constructor
  · intro h
    obtain ⟨r₁, hr₁, hsession⟩ := h
    rcases Table.mem_setRequest.mp hr₁ with ⟨hr₁, -⟩ | ⟨rfl, -⟩
    · exact ⟨r₁, hr₁, hsession⟩
    · exact ⟨r, hr, htarget ▸ hsession⟩
  · intro h
    obtain ⟨r₁, hr₁, hsession⟩ := h
    by_cases hsame : r₁.addr = r.addr
    · have heq := hwf.request_unique hr₁ hr hsame
      subst heq
      exact ⟨r', Table.mem_setRequest.mpr (.inr ⟨rfl, r₁, hr₁, haddr.symm⟩),
        htarget.trans hsession⟩
    · exact ⟨r₁, Table.mem_setRequest.mpr (.inl ⟨hr₁, haddr ▸ hsame⟩), hsession⟩

theorem targeted_disconnect {conn : Conn} {session : Addr} :
    (t.disconnect conn).Targeted session ↔ t.Targeted session := by
  constructor
  · intro h
    obtain ⟨r', hr', htarget⟩ := h
    obtain ⟨r, hr, heq, -⟩ := Table.mem_disconnect hr'
    rw [heq] at htarget
    exact ⟨r, hr, htarget⟩
  · intro h
    obtain ⟨r, hr, htarget⟩ := h
    refine ⟨_, List.mem_map_of_mem hr, ?_⟩
    split
    next => exact htarget
    next => exact htarget

end Targets

section Steps

variable {P : Platform} {env : Env} {σ : ServerState} {input : ServerInput} {t : Table}
  {activity : Activity} {events : List ServerEvent}

theorem Table.BusyAgrees.allocate (h : t.BusyAgrees) (next : Addr) :
    (t.allocate next).BusyAgrees :=
  ⟨h.flag, h.method⟩

/-- The flags stay when the sessions and the targets do. -/
theorem busyAgrees_of_same
    (hold : σ.server.table.BusyAgrees)
    (hsessions : ∀ e ∈ t.sessions, ∃ e₀ ∈ σ.server.table.sessions, e.addr = e₀.addr ∧ e.op = e₀.op)
    (htargets : ∀ session, t.Targeted session ↔ σ.server.table.Targeted session)
    (hmethods : ∀ r ∈ t.requests, r.target ≠ none → IsOperation r.method) : t.BusyAgrees where
  flag := by
    intro e he
    obtain ⟨e₀, he₀, haddr, hop⟩ := hsessions e he
    rw [hop, htargets, haddr]
    exact hold.flag e₀ he₀
  method := hmethods

/-- A request that is not on any session is added. -/
theorem busyAgrees_arrives
    (hold : σ.server.table.BusyAgrees) {r : RequestEntry} (htarget : r.target = none) :
    (σ.server.table.addRequest r).BusyAgrees := by
  apply busyAgrees_of_same hold
  · intro e he
    exact ⟨e, he, rfl, rfl⟩
  · intro session
    simp [targeted_addRequest, htarget]
  · intro r' hr' hsome
    rcases Table.mem_addRequest.mp hr' with hr' | rfl
    · exact hold.method r' hr' hsome
    · exact absurd htarget hsome

/-- A request takes hold of a session of the table. -/
theorem busyAgrees_takes
    (hold : σ.server.table.BusyAgrees) {e e' : SessionEntry}
    (he : e ∈ σ.server.table.sessions) (haddr : e'.addr = e.addr) (hop : e'.op ≠ .unknown)
    {r : RequestEntry} (htarget : r.target = some e.addr) (hmethod : IsOperation r.method) :
    ((σ.server.table.setSession e').addRequest r).BusyAgrees where
  flag := by
    intro e₁ he₁
    rw [targeted_addRequest, htarget]
    rcases (Table.mem_setSession_self he haddr).mp he₁ with ⟨he₁, hother⟩ | rfl
    · have hflag := hold.flag e₁ he₁
      rw [hflag]
      constructor
      · intro h
        exact .inl h
      · intro h
        rcases h with h | h
        · exact h
        · exact absurd (Option.some.inj h).symm hother
    · simp [hop, haddr]
  method := by
    intro r' hr' hsome
    rcases Table.mem_addRequest.mp hr' with hr' | rfl
    · exact hold.method r' hr' hsome
    · exact hmethod

/-- A request leaves and the operation of its session ends. -/
theorem busyAgrees_leave
    (hwf : σ.server.table.WellFormed) (hold : σ.server.table.BusyAgrees)
    (hguard : KeepsBusyFlag P env σ input) {l : Leaving}
    (hleaving : leaving P env σ input = some l) : (σ.server.table.leave l).BusyAgrees where
  flag := by
    intro e' he'
    have htargeted : (σ.server.table.leave l).Targeted e'.addr ↔
        σ.server.table.TargetedBeside l.request e'.addr := by
      unfold Table.Targeted
      rw [Table.leave_requests]
      exact targeted_removeRequest
    rw [htargeted]
    rcases (Table.mem_leave hwf).mp he' with ⟨he, hclears⟩ | ⟨e, he, hclears, hends⟩
    · rw [hold.flag e' he]
      constructor
      · intro h
        obtain ⟨r, hr, htarget⟩ := h
        by_cases hself : r.addr = l.request
        · exact hguard.kept l hleaving e' he hclears r hr hself htarget
        · exact ⟨r, hr, hself, htarget⟩
      · intro h
        obtain ⟨r, hr, -, htarget⟩ := h
        exact ⟨r, hr, htarget⟩
    · have hfree := hguard.cleared l hleaving e he hclears (by rw [hends]; simp)
      have hidle : e'.op = .unknown ∧ e'.addr = e.addr := by
        unfold Leaving.ends at hends
        split at hends
        next =>
          split at hends
          next => simp at hends
          next => cases hends; exact ⟨rfl, rfl⟩
        next => cases hends; exact ⟨rfl, rfl⟩
      rw [hidle.1, hidle.2]
      simp [hfree]
  method := by
    intro r hr hsome
    rw [Table.leave_requests] at hr
    exact hold.method r (Table.mem_removeRequest.mp hr).1 hsome

theorem Change.busyAgrees
    (hwf : σ.server.table.WellFormed) (hold : σ.server.table.BusyAgrees)
    (hguard : KeepsBusyFlag P env σ input) (h : Change P env σ input t activity events) :
    t.BusyAgrees := by
  have hset : ∀ r' : RequestEntry, ∀ r ∈ σ.server.table.requests, r'.addr = r.addr →
      r'.target = r.target → r'.method = r.method →
      (σ.server.table.setRequest r').BusyAgrees := by
    intro r' r hr haddr htarget hmethod
    apply busyAgrees_of_same hold
    · intro e he
      exact ⟨e, he, rfl, rfl⟩
    · intro session
      exact targeted_setRequest hwf hr haddr htarget
    · intro r₁ hr₁ hsome
      rcases Table.mem_setRequest.mp hr₁ with ⟨hr₁, -⟩ | ⟨rfl, -⟩
      · exact hold.method r₁ hr₁ hsome
      · exact hmethod ▸ hold.method r hr (htarget ▸ hsome)
  have hsweep : ∀ a, leaving P env σ input = some { request := a } →
      (σ.server.table.removeRequest a).BusyAgrees := by
    intro a hleaving
    exact busyAgrees_leave hwf hold hguard hleaving
  cases h with
  | moves => exact hold
  | admits harriving =>
      exact (busyAgrees_arrives hold (arriving_entry harriving).2.1).allocate _
  | refuses => exact hold.allocate _
  | mismatches harriving _ _ _ he hmismatched =>
      apply Table.BusyAgrees.allocate
      refine ⟨?_, hold.method⟩
      intro e₁ he₁
      rcases Table.mem_setSession.mp he₁ with ⟨he₁, -⟩ | ⟨rfl, -⟩
      · exact hold.flag e₁ he₁
      · have htargeted := hguard.selects _ hmismatched
        exact iff_of_true (by simp) htargeted
  | answers => exact hold.allocate _
  | asks harriving =>
      apply Table.BusyAgrees.allocate
      exact busyAgrees_arrives hold (arriving_entry harriving).2.1
  | @starts request activity event e medias harriving hreceived hmethod he =>
      apply Table.BusyAgrees.allocate
      apply busyAgrees_takes hold he
      · rfl
      · intro hunknown
        dsimp only at hunknown
        rw [hunknown] at hmethod
        simp [SessionMethod] at hmethod
      · rfl
      · exact .inr hmethod
  | joins harriving _ hmethod he =>
      apply Table.BusyAgrees.allocate
      apply busyAgrees_takes hold he
      · rfl
      · simp
      · rfl
      · exact .inl hmethod
  | opens harriving _ hmethod =>
      apply Table.BusyAgrees.allocate
      constructor
      · intro e he
        rw [targeted_addRequest]
        rcases Table.mem_addSession.mp he with he | rfl
        · have hbelow := (hwf.sessionBelow e he).trans (Nat.lt_succ_self _)
          rw [hold.flag e he, Option.some.injEq]
          exact (or_iff_left hbelow.ne').symm
        · simp
      · intro r hr hsome
        rcases Table.mem_addRequest.mp hr with hr | rfl
        · exact hold.method r hr hsome
        · exact .inl hmethod
  | answered hpending => exact hset _ _ (RtspServer.entry_mem_requests hpending) rfl rfl rfl
  | leaves _ _ _ hleaving => exact busyAgrees_leave hwf hold hguard hleaving
  | finishes _ _ _ hleaving => exact busyAgrees_leave hwf hold hguard hleaving
  | finishesSelf _ _ _ hleaving => exact busyAgrees_leave hwf hold hguard hleaving
  | returns hpending => exact hset _ _ (RtspServer.entry_mem_requests hpending) rfl rfl rfl
  | drops =>
      apply busyAgrees_of_same hold
      · intro e he
        exact ⟨e, (Table.mem_removeSession.mp he).1, rfl, rfl⟩
      · intro session
        exact Iff.rfl
      · exact hold.method
  | dropsMedia _ he =>
      apply busyAgrees_of_same hold
      · intro e₁ he₁
        rcases Table.mem_setSession.mp he₁ with ⟨he₁, -⟩ | ⟨rfl, -⟩
        · exact ⟨e₁, he₁, rfl, rfl⟩
        · exact ⟨_, he, rfl, rfl⟩
      · intro session
        exact Iff.rfl
      · exact hold.method
  | expires => exact hold
  | sweeps _ hleaving => exact hsweep _ hleaving
  | sweepsOn _ hleaving => exact hsweep _ hleaving
  | disconnects conn =>
      apply busyAgrees_of_same hold
      · intro e he
        exact ⟨e, he, rfl, rfl⟩
      · intro session
        exact targeted_disconnect
      · intro r' hr' hsome
        obtain ⟨r, hr, heq, -⟩ := Table.mem_disconnect hr'
        rw [heq] at hsome ⊢
        exact hold.method r hr hsome

end Steps

/-! ## Runs -/

/-- In every run whose steps keep the busy flag, it agrees with the pending
requests in every state reached. -/
theorem busyFlag_agrees
    {P : Platform} (softwareName : Option Bytes) (replyTimeoutMs sessionTimeoutMs : Int32)
    (cbs : RtspServerCbs) {inputs : List (Env × ServerInput)} {σ' : ServerState}
    (hguard : Execution.Guarded (envStep P) (fun σ input => KeepsBusyFlag P input.1 σ input.2)
      (serverStart softwareName replyTimeoutMs sessionTimeoutMs cbs) inputs)
    (hrun : Execution.run (envStep P)
      (serverStart softwareName replyTimeoutMs sessionTimeoutMs cbs) inputs = .ok σ') :
    σ'.server.BusyAgrees := by
  have hinvariant : σ'.Consistent ∧ σ'.server.table.BusyAgrees := by
    apply Execution.invariant (fun σ => σ.Consistent ∧ σ.server.table.BusyAgrees) _ _ hguard hrun
    · intro σ input σ₁ hσ hkeeps hstep
      obtain ⟨hconsistent, hagrees⟩ := hσ
      obtain ⟨events, -, hchange⟩ := serverStep_changes hconsistent hstep
      exact ⟨hchange.consistent hconsistent,
        hchange.busyAgrees hconsistent.wellFormed hagrees hkeeps⟩
    · refine ⟨serverStart_consistent .., ?_, ?_⟩
      · simp [serverStart, rtspServerNew, RtspServer.table]
      · simp [serverStart, rtspServerNew, RtspServer.table]
  exact RtspServer.busyAgrees_of_table hinvariant.2

/-- A SETUP of one media, then a PLAY request that waits for its reply. -/
def pendingPlay : List (Env × ServerInput) :=
  let setup : RtspRequestHeader :=
    { method := .setup, uri := some (ascii "rtsp://h/p/a"), cseq := 1, transport := [{}] }
  let play : RtspRequestHeader :=
    { method := .play, uri := some (ascii "rtsp://h/p"), cseq := 2
      sessionId := some (ascii "0000000000000001") }
  [({ ids := [1] }, .receive 0 [.text (.request setup) []]), ({ ids := [1] }, .resume),
    ({}, .call (.replyToSetup 0 2 { status := 200, srcStreamPort := 1, srcControlPort := 2 })),
    ({}, .resume), ({}, .resume),
    ({}, .receive 0 [.text (.request play) []]), ({}, .resume), ({}, .resume), ({}, .resume)]

theorem busyFlag_agrees_pendingPlay :
    Execution.Reaches (envStep .bare) (fun σ => σ.server.BusyAgrees) (serverStart none 0 0 {})
      pendingPlay := by
  have hrun : Execution.Reaches (envStep .bare)
      (fun σ => σ.server.sessions.map RtspServerSession.opInProgress = [.play])
      (serverStart none 0 0 {}) pendingPlay := by
    decide +kernel
  obtain ⟨σ', hrun, -⟩ := hrun
  exact ⟨σ', hrun, busyFlag_agrees none 0 0 {} (by decide +kernel) hrun⟩

/-- The PLAY request expires: it leaves the list and the session stays busy. -/
theorem expiredPlay_staysBusy :
    Execution.Reaches (envStep .bare) (fun σ => σ.isIdle = true ∧ ¬ σ.server.BusyAgrees)
      (serverStart none 0 0 {})
      (pendingPlay ++ [(({ now := 2000000 } : Env), .timer), ({}, .resume)]) := by
  decide +kernel

end Librtsp
