import Librtsp.ServerConsistency

/-!
# Sessions without medias

A session is added with its first media, and every path but one that removes a media removes
the session with its last one.  The exception is the forced teardown of a single media: the
session it empties stays in the list until it times out.
-/

namespace Librtsp

open CString RecordList

namespace Table

/-- Every session has a media. -/
def Populated (t : Table) : Prop :=
  ∀ e ∈ t.sessions, e.medias ≠ []

variable {t : Table} {e : SessionEntry}

theorem Populated.setSession (h : t.Populated) (hmedias : e.medias ≠ []) :
    (t.setSession e).Populated := by
  intro e' he'
  rcases mem_setSession.mp he' with ⟨he', -⟩ | ⟨rfl, -⟩
  · exact h e' he'
  · exact hmedias

theorem Populated.addSession (h : t.Populated) (hmedias : e.medias ≠ []) :
    (t.addSession e).Populated := by
  intro e' he'
  rcases mem_addSession.mp he' with he' | rfl
  · exact h e' he'
  · exact hmedias

theorem Populated.removeSession (h : t.Populated) (session : Addr) :
    (t.removeSession session).Populated :=
  fun e he => h e (mem_remove.mp he).1

/-- Medias that are torn down leave their session, and the last ones take it with them. -/
theorem Populated.removeTornDown (h : t.Populated) (session : Addr) :
    (t.removeTornDown session).Populated := by
  unfold Table.removeTornDown
  split
  next => exact h
  next e hfind =>
    split
    next => exact h.removeSession session
    next hremaining =>
      apply h.setSession
      intro hempty
      refine hremaining (List.all_eq_true.mpr fun media hmedia => ?_)
      have htorn := List.filter_eq_nil_iff.mp hempty media hmedia
      simpa using htorn

theorem Populated.leave (h : t.Populated) (l : Leaving) : (t.leave l).Populated := by
  unfold Table.leave
  split
  next => exact h
  next session hclears =>
    split
    next => exact h
    next e hfind =>
      have hcleared : ((t.setSession { e with op := .unknown }).removeRequest
          l.request).Populated :=
        h.setSession (h e (lookup_some hfind).1)
      split
      next => exact hcleared.removeTornDown session
      next => exact hcleared

end Table

section Steps

variable {P : Platform} {env : Env} {σ : ServerState} {input : ServerInput} {t : Table}
  {activity : Activity} {events : List ServerEvent}

/-- The step does not remove the last media of a session on its own: when it is the end of a
forced teardown of a media, the session has another one. -/
def KeepsLastMedia (σ : ServerState) (input : ServerInput) : Prop :=
  ∀ gone ∈ dropped σ input, ∀ media ∈ gone.2,
    ∃ session ∈ σ.server.findSession gone.1, ∃ other ∈ session.medias, other.addr ≠ media

instance decidableKeepsLastMedia (σ : ServerState) (input : ServerInput) :
    Decidable (KeepsLastMedia σ input) :=
  inferInstanceAs (Decidable (∀ gone ∈ dropped σ input, ∀ media ∈ gone.2,
    ∃ session ∈ σ.server.findSession gone.1, ∃ other ∈ session.medias, other.addr ≠ media))

theorem Change.populated (hwf : σ.server.table.WellFormed) (hold : σ.server.table.Populated)
    (hguard : KeepsLastMedia σ input) (h : Change P env σ input t activity events) :
    t.Populated := by
  cases h with
  | moves => exact hold
  | admits => exact hold
  | refuses => exact hold
  | @mismatches request activity event attempt e _ _ _ _ he =>
      have hsome : e.medias ≠ [] := hold e he
      exact hold.setSession hsome
  | answers => exact hold
  | asks => exact hold
  | @starts request activity event e medias harriving hreceived hmethod he =>
      apply hold.setSession
      simpa [markMedias] using hold e he
  | joins =>
      apply hold.setSession
      simp
  | opens =>
      apply hold.addSession
      simp
  | answered => exact hold
  | leaves => exact hold.leave _
  | finishes => exact hold.leave _
  | finishesSelf => exact hold.leave _
  | returns => exact hold
  | drops => exact hold.removeSession _
  | @dropsMedia e media activity events hdropped he =>
      apply hold.setSession
      obtain ⟨session, hsession, other, hother, hne⟩ := hguard _ hdropped media rfl
      have hentry : session.entry = e := by
        have hlookup := @RtspServer.lookup_table_sessions σ.server e.addr
        rw [lookup_of_mem hwf.sessionsDistinct he, hsession] at hlookup
        exact (Option.some.inj hlookup).symm
      have hmem : (other.addr, other.isTearingDown) ∈ e.medias := by
        rw [← hentry]
        exact List.mem_map_of_mem hother
      intro hempty
      rw [List.filter_eq_nil_iff] at hempty
      exact hempty _ hmem (decide_eq_true hne)
  | expires => exact hold
  | sweeps => exact hold
  | sweepsOn => exact hold
  | disconnects => exact hold

end Steps

/-- In every run in which no forced teardown of a media empties its session, every session
has a media in every state; and the timer of a session that is gone does not fire. -/
theorem noEmptySession {P : Platform} {softwareName : Option Bytes}
    {replyTimeoutMs sessionTimeoutMs : Int32} {cbs : RtspServerCbs}
    {inputs : List (Env × ServerInput)} {σ : ServerState}
    (hguard : Execution.Guarded (envStep P) (fun σ input => KeepsLastMedia σ input.2)
      (serverStart softwareName replyTimeoutMs sessionTimeoutMs cbs) inputs)
    (hrun : Execution.run (envStep P)
      (serverStart softwareName replyTimeoutMs sessionTimeoutMs cbs) inputs = .ok σ) :
    (∀ session ∈ σ.server.sessions, session.medias ≠ []) ∧
      ∀ (env : Env) (a : Addr), σ.server.findSession a = none →
        envStep P σ (env, .sessionTimer a) = .error .disabled := by
  constructor
  · have hinvariant := Execution.invariant
      (fun σ => σ.Consistent ∧ σ.server.table.Populated)
      (fun σ input σ' hσ hkeeps hstep => by
        obtain ⟨events, -, hchange⟩ := serverStep_changes hσ.1 hstep
        exact ⟨hchange.consistent hσ.1, hchange.populated hσ.1.wellFormed hσ.2 hkeeps⟩)
      ⟨serverStart_consistent softwareName replyTimeoutMs sessionTimeoutMs cbs,
        fun e he => absurd he List.not_mem_nil⟩
      hguard hrun
    intro session hsession hempty
    apply hinvariant.2 session.entry (RtspServer.entry_mem_sessions hsession)
    simp [RtspServerSession.entry, hempty]
  · intro env a hnone
    change serverStep P env σ (.sessionTimer a) = _
    unfold serverStep
    dsimp only
    rw [hnone]
    cases σ.isIdle with
    | true => rfl
    | false => rfl

/-- A session with the medias `p/a` and `p/b`. -/
def twoMedias : List (Env × ServerInput) :=
  let setup (uri : Bytes) (cseq : Int32) (sessionId : Option Bytes) : RtspRequestHeader :=
    { method := .setup, uri := some uri, cseq, transport := [{}], sessionId }
  let reply : SetupReply := { status := 200, srcStreamPort := 1, srcControlPort := 2 }
  [({ ids := [1] }, .receive 0 [.text (.request (setup (ascii "rtsp://h/p/a") 1 none)) []]),
    ({ ids := [1] }, .resume), ({}, .call (.replyToSetup 0 2 reply)), ({}, .resume), ({}, .resume),
    ({}, .receive 0
      [.text (.request (setup (ascii "rtsp://h/p/b") 2 (some (ascii "0000000000000001")))) []]),
    ({}, .resume), ({}, .call (.replyToSetup 3 4 reply)), ({}, .resume), ({}, .resume)]

/-- The application forces the teardown of one media. -/
def forcedTeardown (path : Bytes) : List (Env × ServerInput) :=
  [({}, .call (.forceTeardown (ascii "0000000000000001") (some path) [])), ({}, .resume)]

theorem noEmptySession_forced :
    Execution.Reaches (envStep .bare)
      (fun σ => ∀ session ∈ σ.server.sessions, session.medias ≠ []) (serverStart none 0 0 {})
      (twoMedias ++ forcedTeardown (ascii "p/a")) := by
  have hrun : Execution.Reaches (envStep .bare)
      (fun σ => σ.server.sessions.map (fun session => session.medias.length) = [1])
      (serverStart none 0 0 {}) (twoMedias ++ forcedTeardown (ascii "p/a")) := by
    decide +kernel
  obtain ⟨σ, hrun, -⟩ := hrun
  exact ⟨σ, hrun, (noEmptySession (by decide +kernel) hrun).1⟩

/-- The forced teardown of the second media leaves an empty session, between events. -/
theorem forcedSession_empty :
    Execution.Reaches (envStep .bare)
      (fun σ => σ.isIdle = true ∧ σ.server.removeIdle = [] ∧
        ¬ ∀ session ∈ σ.server.sessions, session.medias ≠ [])
      (serverStart none 0 0 {})
      (twoMedias ++ forcedTeardown (ascii "p/a") ++ forcedTeardown (ascii "p/b")) := by
  decide +kernel

end Librtsp
