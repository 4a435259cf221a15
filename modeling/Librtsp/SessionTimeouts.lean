import Librtsp.HeaderRead
import Librtsp.HeaderWrite
import Librtsp.Numerals
import Librtsp.ServerStore

/-!
# Session timeouts on both sides

The server advertises its session timeout in whole seconds and lets a session
expire after a delay somewhat longer than that.  The client sends its keep-alive
after a fraction of the advertised time.  Both delays are computed in unsigned
integers of 32 bits, so they are the intended ones as long as the products fit.
-/

namespace Librtsp

open CString

/-! ## The session field -/

/-- The value of the session field. -/
def sessionText (sessionId : Bytes) (sessionTimeout : UInt32) : Bytes :=
  sessionId ++ if 0 < sessionTimeout then ascii ";timeout=" ++ formatSigned sessionTimeout else []

theorem rtspSessionHeaderWrite_text {sessionId : Bytes} (hne : sessionId ≠ [])
    (sessionTimeout : UInt32) :
    printed (rtspSessionHeaderWrite (some sessionId) sessionTimeout) =
      some (ascii "Session: " ++ sessionText sessionId sessionTimeout ++ rtspCrlf) := by
  have hid : nonEmpty (some sessionId) = some sessionId := by simp [nonEmpty, hne]
  unfold rtspSessionHeaderWrite sessionText
  rw [hid]
  dsimp only
  split
  next => simp [printed]
  next => simp [printed]

/-- The field that is written names the same session and the same time. -/
theorem rtspSessionHeaderRead_text {sessionId : Bytes} (hid : 0x3b ∉ sessionId)
    (sessionTimeout : UInt32) :
    rtspSessionHeaderRead (sessionText sessionId sessionTimeout) = (sessionId, sessionTimeout) := by
  unfold rtspSessionHeaderRead sessionText
  split
  next hnone =>
    split at hnone
    next => exact absurd (strchr_eq_none hnone) (by simp [ascii])
    next hzero =>
      rw [if_neg hzero, List.append_nil]
      have hzero' : sessionTimeout = 0 := by
        apply UInt32.toNat_inj.mp
        simpa [UInt32.lt_iff_toNat_lt] using hzero
      rw [hzero']
  next sessionId' timeoutStr hcut =>
    split at hcut
    next =>
      have hname : ascii ";timeout=" = 0x3b :: ascii "timeout=" := rfl
      rw [hname, List.cons_append, strchr_append hid, Option.some.injEq, Prod.mk.injEq] at hcut
      obtain ⟨rfl, rfl⟩ := hcut
      have hvalue : strchr 0x3d (ascii "timeout=" ++ formatSigned sessionTimeout) =
          some (ascii "timeout", formatSigned sessionTimeout) := by
        have hequals : ascii "timeout=" = ascii "timeout" ++ [0x3d] := by decide +kernel
        have hfree : 0x3d ∉ ascii "timeout" := by decide +kernel
        rw [hequals, List.append_assoc, List.singleton_append, strchr_append hfree]
      have hname : strncmpEq (ascii "timeout=" ++ formatSigned sessionTimeout) (ascii "timeout") 7 =
          true := by
        unfold strncmpEq
        have hlength : 7 ≤ (ascii "timeout=").length := by decide +kernel
        rw [List.take_append_of_le_length hlength]
        decide +kernel
      rw [hname, hvalue, if_pos rfl]
      dsimp only
      rw [formatSigned_read]
    next =>
      rw [List.append_nil, strchr_none hid] at hcut
      simp at hcut

/-! ## Delays -/

/-- The delay `rtsp_server_session_reset_timeout` sets the timer of a session to. -/
def rtspServerSessionDelay (session : RtspServerSession) : UInt32 :=
  (12 * session.timeoutMs + 9) / 10

/-- The time in seconds the replies of a session name. -/
def advertisedTimeout (session : RtspServerSession) : UInt32 :=
  session.timeoutMs / 1000

def rtspClientDefaultRespTimeoutMs : UInt32 := 4000

/-- The keep-alive interval the client takes from the time a response names. -/
def clientSessionTimeoutMs (sessionTimeout : UInt32) : UInt32 :=
  (if 0 < sessionTimeout then 800 * sessionTimeout else rtspClientDefaultRespTimeoutMs) / 2

/-- The delays of the two sides for a session of the server: the client reads the time from
the session field of a response. -/
structure DelaysAgree (session : RtspServerSession) : Prop where
  expiry : 1000 * (advertisedTimeout session).toNat ≤
    (rtspServerSessionDelay session).toNat
  positive : 0 < (clientSessionTimeoutMs (rtspSessionHeaderRead
    (sessionText session.sessionId (advertisedTimeout session))).2).toNat
  before : (clientSessionTimeoutMs (rtspSessionHeaderRead
    (sessionText session.sessionId (advertisedTimeout session))).2).toNat <
      (rtspServerSessionDelay session).toNat

/-- The interval for a time in seconds, computed without a wrap-around. -/
structure KeepAliveFits (sessionTimeout : UInt32) : Prop where
  exact : (800 * sessionTimeout).toNat = 800 * sessionTimeout.toNat
  positive : 0 < (clientSessionTimeoutMs sessionTimeout).toNat
  within : (clientSessionTimeoutMs sessionTimeout).toNat < 1000 * sessionTimeout.toNat

theorem rtspServerSessionDelay_toNat (session : RtspServerSession) :
    (rtspServerSessionDelay session).toNat =
      (12 * session.timeoutMs.toNat + 9) % 4294967296 / 10 := by
  unfold rtspServerSessionDelay
  rw [UInt32.toNat_div, UInt32.toNat_add, UInt32.toNat_mul]
  change (12 * session.timeoutMs.toNat % 4294967296 + 9) % 4294967296 / 10 = _
  rw [Nat.mod_add_mod]

theorem clientSessionTimeoutMs_toNat {sessionTimeout : UInt32} (hpos : 0 < sessionTimeout) :
    (clientSessionTimeoutMs sessionTimeout).toNat =
      800 * sessionTimeout.toNat % 4294967296 / 2 := by
  unfold clientSessionTimeoutMs
  rw [if_pos hpos, UInt32.toNat_div, UInt32.toNat_mul]
  rfl

/-- Once the product wraps the delay is shorter than the time: it lost at least one and at most
five times the range of the type. -/
theorem wrappedDelay_lt {n : Nat} (hmin : 357913940 < n) (hmax : n ≤ 2147483647) :
    (12 * n + 9) % 4294967296 / 10 < 1000 * (n / 1000) := by
  have hsplit := Nat.div_add_mod (12 * n + 9) 4294967296
  have hlow : 1 ≤ (12 * n + 9) / 4294967296 := (Nat.le_div_iff_mul_le (by decide)).mpr (by omega)
  have hhigh : (12 * n + 9) / 4294967296 < 6 := Nat.div_lt_of_lt_mul (by omega)
  have hrest : (12 * n + 9) % 4294967296 < 4294967296 := Nat.mod_lt _ (by decide)
  generalize (12 * n + 9) / 4294967296 = wraps at hsplit hlow hhigh
  generalize (12 * n + 9) % 4294967296 = rest at hsplit hrest ⊢
  interval_cases wraps <;> omega

theorem keepAliveFits_iff {sessionTimeout : UInt32} (hpos : 0 < sessionTimeout) :
    KeepAliveFits sessionTimeout ↔ sessionTimeout.toNat ≤ 5368709 := by
  have hvalue := clientSessionTimeoutMs_toNat hpos
  have hseconds : 0 < sessionTimeout.toNat := by simpa [UInt32.lt_iff_toNat_lt] using hpos
  have hmul : (800 * sessionTimeout).toNat = 800 * sessionTimeout.toNat % 4294967296 := by
    rw [UInt32.toNat_mul]
    rfl
  constructor
  · intro h
    have hexact := h.exact
    rw [hmul] at hexact
    omega
  · intro hsmall
    rw [Nat.mod_eq_of_lt (by omega)] at hvalue hmul
    refine ⟨hmul, ?_, ?_⟩
    · rw [hvalue]
      omega
    · rw [hvalue]
      omega

theorem formatSessionId_no_semicolon (id64 : UInt64) : 0x3b ∉ formatSessionId id64 := by
  intro hmem
  have hdigit := (spells_formatHex_lower 16 id64.toNat).digits _ hmem
  exact absurd hdigit (by decide)

/-- For configured times up to `INT_MAX`, once the server's product wraps the delay is too
short. -/
theorem delaysAgree_iff {session : RtspServerSession} (hid : 0x3b ∉ session.sessionId)
    (hmin : 1000 ≤ session.timeoutMs.toNat) (hmax : session.timeoutMs.toNat ≤ 2147483647) :
    DelaysAgree session ↔ session.timeoutMs.toNat ≤ 357913940 := by
  have hdelay := rtspServerSessionDelay_toNat session
  have hseconds : (advertisedTimeout session).toNat = session.timeoutMs.toNat / 1000 := by
    unfold advertisedTimeout
    rw [UInt32.toNat_div]
    rfl
  have hpos : 0 < advertisedTimeout session := by
    rw [UInt32.lt_iff_toNat_lt, hseconds]
    change 0 < _
    omega
  have hinterval := clientSessionTimeoutMs_toNat hpos
  rw [hseconds] at hinterval
  have hread := congrArg Prod.snd (rtspSessionHeaderRead_text hid (advertisedTimeout session))
  constructor
  · intro h
    have hexpiry := h.expiry
    rw [hdelay, hseconds] at hexpiry
    by_contra hlarge
    have hwrapped := wrappedDelay_lt (not_le.mp hlarge) hmax
    omega
  · intro hsmall
    rw [Nat.mod_eq_of_lt (by omega)] at hdelay hinterval
    refine ⟨?_, ?_, ?_⟩
    · rw [hdelay, hseconds]
      omega
    · rw [hread, hinterval]
      omega
    · rw [hread, hinterval, hdelay]
      omega

/-- A session the server adds has agreeing delays exactly when its time is at most 357913940
ms; the client's interval for a time in seconds fits exactly up to 5368709 seconds. -/
theorem sessionTimeouts_iff {ids : List UInt64} {server server' : RtspServer}
    {timeoutMs : UInt32} {uri : Option Bytes} {session : RtspServerSession}
    (hadd : rtspServerSessionAdd ids server timeoutMs uri = some (session, server'))
    (hmin : 1000 ≤ timeoutMs.toNat) (hmax : timeoutMs.toNat ≤ 2147483647)
    {sessionTimeout : UInt32} (hpos : 0 < sessionTimeout) :
    (DelaysAgree session ↔ timeoutMs.toNat ≤ 357913940) ∧
      (KeepAliveFits sessionTimeout ↔ sessionTimeout.toNat ≤ 5368709) := by
  unfold rtspServerSessionAdd at hadd
  obtain ⟨id64, -, hsession⟩ := Option.map_eq_some_iff.mp hadd
  rw [Prod.mk.injEq] at hsession
  obtain ⟨rfl, -⟩ := hsession
  exact ⟨delaysAgree_iff (formatSessionId_no_semicolon id64) hmin hmax, keepAliveFits_iff hpos⟩

def timeoutSession (timeoutMs : UInt32) : RtspServerSession :=
  rtspServerSessionResetTimeout { addr := 0, sessionId := formatSessionId 0, timeoutMs }

/-- One minute on both sides. -/
theorem sessionTimeouts_minute :
    DelaysAgree (timeoutSession 60000) ∧ KeepAliveFits 60 := by
  have hadd : rtspServerSessionAdd [0] (rtspServerNew none 0 60000 {}) 60000 none =
      some (timeoutSession 60000, _) := rfl
  have hiff := sessionTimeouts_iff hadd (by decide) (by decide) (show (0 : UInt32) < 60 by decide)
  exact ⟨hiff.1.mpr (by decide), hiff.2.mpr (by decide)⟩

/-- The shortest configured time whose product wraps: the session expires at once. -/
theorem sessionTimeouts_wrapped :
    (rtspServerNew none 0 357913941 {}).sessionTimeoutMs = 357913941 ∧
      rtspServerSessionDelay (timeoutSession 357913941) = 0 ∧
      advertisedTimeout (timeoutSession 357913941) = 357913 ∧
      ¬ DelaysAgree (timeoutSession 357913941) ∧ ¬ KeepAliveFits 5368710 := by
  refine ⟨by decide, by decide, by decide, fun h => ?_, fun h => ?_⟩
  · exact absurd h.expiry (by decide)
  · exact absurd h.exact (by decide)

end Librtsp
