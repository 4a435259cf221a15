import Librtsp.ClientAuth

/-!
# The lengths of the nonces

`rtsp_auth_generate_digest_response` measures the nonce and the client nonce with a bound
that is the longest length allowed, so that a longer text is measured as one of that length.
What it leaves in the header when it fails is modelled here beside what it returns: the
nonce count is advanced before the sums are formed, and a sum can still be refused.
-/

namespace Librtsp

open CString

/-! ## The function with the header it leaves -/

def strnlen (s : Bytes) (maxLen : Nat) : Nat :=
  min s.length maxLen

/-- What a call returns, and the header after it. -/
structure DigestCall where
  ret : Except Errno Unit
  auth : RtspAuthorizationHeader

/-- The header, when the call succeeds. -/
def DigestCall.result (call : DigestCall) : Except Errno RtspAuthorizationHeader :=
  call.ret.map fun _ => call.auth

def DigestCall.failed (auth : RtspAuthorizationHeader) (e : Errno) : DigestCall where
  ret := .error e
  auth := auth

section Generate

variable (env : ClientEnv)

/-- The client nonce in the header, unless there is none or it is empty. -/
def cnonceInPlace (cnonce : Option Bytes) : Except Errno Bytes :=
  match nonEmpty cnonce with
  | none => env.random
  | some cnonce =>
      if strnlen cnonce 64 < 4 ∨ 64 < strnlen cnonce 64 then .error .einval else .ok cnonce

/-- The sums, once the count has been advanced. -/
def digestSums (auth : RtspAuthorizationHeader)
    (username realm uri nonce cnonce password : Bytes) (method : RtspMethodType) :
    Except Errno Bytes := do
  let ha1 ← digestHa1 env auth username realm nonce cnonce password
  let ha2 ← md5HexFmt env (colons [rtspMethodTypeStr method, uri])
  digestResponse env auth.qop ha1 nonce cnonce ha2 auth.nc

/-- `rtsp_auth_generate_digest_response` on the header itself.  The buffer of a first
response that is allocated and not filled does not show, and neither does how large the one of
an old response is, which no check looks at. -/
def rtspAuthGenerateDigestResponseInPlace (auth : RtspAuthorizationHeader)
    (password : Option Bytes) (method : RtspMethodType) : DigestCall :=
  match password with
  | none => .failed auth .einval
  | some password =>
      if auth.type ≠ .digest then .failed auth .einval
      else
        match auth.username, auth.realm, auth.uri, auth.nonce with
        | some username, some realm, some uri, some nonce =>
            if strnlen nonce 256 = 0 ∨ 256 < strnlen nonce 256 then .failed auth .einval
            else if auth.algorithm = .unknown then .failed auth .einval
            else if auth.qop = .unknown then .failed auth .einval
            else if auth.qop = .authInt then .failed auth .enosys
            else
              match cnonceInPlace env auth.cnonce with
              | .error e => .failed auth e
              | .ok cnonce =>
                  let auth := { auth with cnonce := some cnonce, nc := nextNc auth.nc }
                  match digestSums env auth username realm uri nonce cnonce password method with
                  | .error e => .failed auth e
                  | .ok response =>
                      { ret := .ok (), auth := { auth with response := some response } }
        | _, _, _, _ => .failed auth .einval

end Generate

section Limits

variable {env : ClientEnv} {auth : RtspAuthorizationHeader} {password : Option Bytes}
  {method : RtspMethodType}

/-! ## Measured lengths -/

/-- A length that is measured up to a bound does not exceed it. -/
theorem strnlen_le (s : Bytes) (maxLen : Nat) : ¬maxLen < strnlen s maxLen :=
  Nat.not_lt.mpr (Nat.min_le_right _ _)

theorem strnlen_lt_iff {s : Bytes} {n maxLen : Nat} (hn : n ≤ maxLen) :
    strnlen s maxLen < n ↔ s.length < n := by
  unfold strnlen
  omega

theorem nonceRefused_iff {nonce : Bytes} :
    strnlen nonce 256 = 0 ∨ 256 < strnlen nonce 256 ↔ nonce = [] := by
  rw [or_iff_left (strnlen_le nonce 256), ← Nat.lt_one_iff, strnlen_lt_iff (by decide),
    Nat.lt_one_iff, List.length_eq_zero_iff]

theorem cnonceInPlace_given {cnonce : Bytes} (h : nonEmpty auth.cnonce = some cnonce) :
    cnonceInPlace env auth.cnonce =
      if cnonce.length < 4 then .error .einval else .ok cnonce := by
  have hrefused : strnlen cnonce 64 < 4 ∨ 64 < strnlen cnonce 64 ↔ cnonce.length < 4 := by
    rw [or_iff_left (strnlen_le cnonce 64), strnlen_lt_iff (by decide)]
  unfold cnonceInPlace
  rw [h]
  simp only [hrefused]

theorem cnonceInPlace_eq (env : ClientEnv) (cnonce : Option Bytes) :
    cnonceInPlace env cnonce = digestCnonce env cnonce := by
  unfold digestCnonce
  cases h : nonEmpty cnonce with
  | none =>
      unfold cnonceInPlace
      rw [h]
  | some cnonce' =>
      have hgiven : nonEmpty ({ cnonce } : RtspAuthorizationHeader).cnonce = some cnonce' := h
      have hshort : min cnonce'.length 64 < 4 ↔ cnonce'.length < 4 := by omega
      rw [cnonceInPlace_given hgiven]
      simp only [hshort]

/-! ## The checks before the count is advanced -/

/-- Nothing that is checked first refuses the call. -/
structure PassesChecks (env : ClientEnv) (auth : RtspAuthorizationHeader)
    (password : Option Bytes) : Prop where
  password : password.isSome
  isDigest : auth.type = .digest
  username : auth.username.isSome
  realm : auth.realm.isSome
  uri : auth.uri.isSome
  nonce : ∃ nonce, auth.nonce = some nonce ∧ nonce ≠ []
  algorithm : auth.algorithm ≠ .unknown
  qop : auth.qop = .unspecified ∨ auth.qop = .auth
  cnonce : ∀ cnonce ∈ nonEmpty auth.cnonce, 4 ≤ cnonce.length
  random : nonEmpty auth.cnonce = none → ∃ cnonce, env.random = .ok cnonce

theorem PassesChecks.chosen (h : PassesChecks env auth password) :
    ∃ cnonce, cnonceInPlace env auth.cnonce = .ok cnonce := by
  cases hcnonce : nonEmpty auth.cnonce with
  | none =>
      obtain ⟨cnonce, hrandom⟩ := h.random hcnonce
      refine ⟨cnonce, ?_⟩
      unfold cnonceInPlace
      rw [hcnonce]
      exact hrandom
  | some cnonce =>
      have hlong := h.cnonce cnonce hcnonce
      exact ⟨cnonce, by rw [cnonceInPlace_given hcnonce, if_neg (Nat.not_lt.mpr hlong)]⟩

/-- The count is advanced once every check is passed. -/
theorem inPlace_passes (h : PassesChecks env auth password) :
    (rtspAuthGenerateDigestResponseInPlace env auth password method).auth.nc =
      nextNc auth.nc := by
  obtain ⟨password', hpassword⟩ := Option.isSome_iff_exists.mp h.password
  obtain ⟨username, husername⟩ := Option.isSome_iff_exists.mp h.username
  obtain ⟨realm, hrealm⟩ := Option.isSome_iff_exists.mp h.realm
  obtain ⟨uri, huri⟩ := Option.isSome_iff_exists.mp h.uri
  obtain ⟨nonce, hnonce, hne⟩ := h.nonce
  obtain ⟨cnonce, hcnonce⟩ := h.chosen
  have hqop : auth.qop ≠ .unknown ∧ auth.qop ≠ .authInt := by
    obtain hqop | hqop := h.qop
    · rw [hqop]
      decide
    · rw [hqop]
      decide
  unfold rtspAuthGenerateDigestResponseInPlace
  rw [hpassword, husername, hrealm, huri, hnonce]
  dsimp only
  rw [if_neg (not_not.mpr h.isDigest), if_neg (fun hrefused => hne (nonceRefused_iff.mp hrefused)),
    if_neg h.algorithm, if_neg hqop.1, if_neg hqop.2, hcnonce]
  dsimp only
  split
  next => rfl
  next => rfl

/-- A call that a check refuses leaves the header as it is. -/
theorem inPlace_refused (method : RtspMethodType) (h : ¬PassesChecks env auth password) :
    ∃ e, rtspAuthGenerateDigestResponseInPlace env auth password method = .failed auth e := by
  unfold rtspAuthGenerateDigestResponseInPlace
  split
  next => exact ⟨_, rfl⟩
  next password' =>
    split
    next => exact ⟨_, rfl⟩
    next htype =>
      split
      next username realm uri nonce husername hrealm huri hnonce =>
        split
        next => exact ⟨_, rfl⟩
        next hlength =>
          split
          next => exact ⟨_, rfl⟩
          next halgorithm =>
            split
            next => exact ⟨_, rfl⟩
            next hunknown =>
              split
              next => exact ⟨_, rfl⟩
              next hint =>
                cases hcnonce : cnonceInPlace env auth.cnonce with
                | error e => exact ⟨e, rfl⟩
                | ok cnonce =>
                    refine absurd ⟨rfl, not_not.mp htype, by rw [husername]; rfl,
                      by rw [hrealm]; rfl, by rw [huri]; rfl, ⟨nonce, hnonce, fun hnil =>
                        hlength (nonceRefused_iff.mpr hnil)⟩, halgorithm, ?_, ?_, ?_⟩ h
                    · cases hqop : auth.qop with
                      | unspecified => exact .inl rfl
                      | auth => exact .inr rfl
                      | authInt => exact absurd hqop hint
                      | unknown => exact absurd hqop hunknown
                    · intro given hgiven
                      rw [cnonceInPlace_given hgiven] at hcnonce
                      split at hcnonce
                      next => cases hcnonce
                      next hlong => exact Nat.not_lt.mp hlong
                    · intro hnone
                      unfold cnonceInPlace at hcnonce
                      rw [hnone] at hcnonce
                      exact ⟨cnonce, hcnonce⟩
      next => exact ⟨_, rfl⟩

/-- The sums are those of the header the count has been advanced in. -/
theorem digestSums_bind (env : ClientEnv) (auth : RtspAuthorizationHeader)
    (username realm uri nonce cnonce password : Bytes) (method : RtspMethodType) (nc : UInt32) :
    (do
      let ha1 ← digestHa1 env auth username realm nonce cnonce password
      let ha2 ← md5HexFmt env (colons [rtspMethodTypeStr method, uri])
      let response ← digestResponse env auth.qop ha1 nonce cnonce ha2 nc
      .ok { auth with cnonce := some cnonce, nc, response := some response }) =
      (digestSums env { auth with cnonce := some cnonce, nc } username realm uri nonce cnonce
        password method).map fun response =>
          { auth with cnonce := some cnonce, nc, response := some response } := by
  have hha1 : digestHa1 env { auth with cnonce := some cnonce, nc } username realm nonce cnonce
      password = digestHa1 env auth username realm nonce cnonce password := rfl
  unfold digestSums
  rw [hha1]
  cases digestHa1 env auth username realm nonce cnonce password with
  | error e => rfl
  | ok ha1 =>
      cases md5HexFmt env (colons [rtspMethodTypeStr method, uri]) with
      | error e => rfl
      | ok ha2 => rfl

/-- The header that is returned is the one that is left. -/
theorem inPlace_result (env : ClientEnv) (auth : RtspAuthorizationHeader) (password : Bytes)
    (method : RtspMethodType) :
    digestAnswer env auth password method =
      (rtspAuthGenerateDigestResponseInPlace env auth (some password) method).result := by
  obtain ⟨type, algorithm, username, uri, response, cnonce, nc, credentials, realm, nonce,
    opaqueData, qop⟩ := auth
  unfold digestAnswer rtspAuthGenerateDigestResponseInPlace
  dsimp only
  by_cases htype : type ≠ .digest
  · rw [if_pos htype, if_pos htype]
    rfl
  · rw [if_neg htype, if_neg htype]
    cases username with
    | none => rfl
    | some username =>
        cases realm with
        | none => rfl
        | some realm =>
            cases uri with
            | none => rfl
            | some uri =>
                cases nonce with
                | none => rfl
                | some nonce =>
                    dsimp only
                    simp only [nonceRefused_iff, cnonceInPlace_eq]
                    split
                    next => rfl
                    next =>
                      split
                      next => rfl
                      next =>
                        split
                        next => rfl
                        next =>
                          split
                          next => rfl
                          next =>
                            cases digestCnonce env cnonce with
                            | error e => rfl
                            | ok cnonce =>
                                refine (digestSums_bind env _ username realm uri nonce cnonce
                                  password method (nextNc nc)).trans ?_
                                dsimp only
                                split
                                next e he =>
                                  rw [he]
                                  rfl
                                next response hresponse =>
                                  rw [hresponse]
                                  rfl

/-! ## The limits -/

/-- A length outside of the limits of its nonce. -/
def OutsideLimits (auth : RtspAuthorizationHeader) : Prop :=
  (∃ nonce ∈ auth.nonce, nonce.length < 1 ∨ 256 < nonce.length) ∨
    ∃ cnonce ∈ nonEmpty auth.cnonce, cnonce.length < 4 ∨ 64 < cnonce.length

/-- A call succeeds within the limits only, and is refused outside of them without any
effect on the count. -/
structure EnforcesLimits (env : ClientEnv) (auth : RtspAuthorizationHeader)
    (password : Option Bytes) (method : RtspMethodType) : Prop where
  accepted : (rtspAuthGenerateDigestResponseInPlace env auth password method).ret = .ok () →
    (∃ nonce ∈ auth.nonce, 1 ≤ nonce.length ∧ nonce.length ≤ 256) ∧
      ∀ cnonce ∈ nonEmpty auth.cnonce, 4 ≤ cnonce.length ∧ cnonce.length ≤ 64
  refused : OutsideLimits auth →
    (∃ e, (rtspAuthGenerateDigestResponseInPlace env auth password method).ret = .error e) ∧
      (rtspAuthGenerateDigestResponseInPlace env auth password method).auth.nc = auth.nc

/-- Neither nonce is longer than it may be. -/
structure ShortNonces (auth : RtspAuthorizationHeader) : Prop where
  nonce : ∀ nonce ∈ auth.nonce, nonce.length ≤ 256
  cnonce : ∀ cnonce ∈ nonEmpty auth.cnonce, cnonce.length ≤ 64

/-- The count always changes. -/
theorem nextNc_ne (nc : UInt32) : nextNc nc ≠ nc := by
  intro h
  unfold nextNc at h
  split at h
  next hzero =>
    rw [← h] at hzero
    exact absurd hzero (by decide)
  next =>
    rw [add_eq_left] at h
    exact absurd h (by decide)

/-- The limits are enforced exactly when neither nonce is too long, or when the call is
refused by another check. -/
theorem digestLimits_iff (env : ClientEnv) (auth : RtspAuthorizationHeader)
    (password : Option Bytes) (method : RtspMethodType) :
    EnforcesLimits env auth password method ↔
      ShortNonces auth ∨ ¬PassesChecks env auth password := by
  by_cases hpasses : PassesChecks env auth password
  · rw [or_iff_left (not_not.mpr hpasses)]
    obtain ⟨nonce, hnonce, hne⟩ := hpasses.nonce
    have hpos := List.length_pos_iff.mpr hne
    constructor
    · intro h
      have hinside : ¬OutsideLimits auth := by
        intro houtside
        have hsame := (h.refused houtside).2
        rw [inPlace_passes hpasses] at hsame
        exact nextNc_ne auth.nc hsame
      unfold OutsideLimits at hinside
      rw [not_or] at hinside
      constructor
      · intro nonce hmem
        by_contra hlong
        exact hinside.1 ⟨nonce, hmem, .inr (by omega)⟩
      · intro cnonce hmem
        by_contra hlong
        exact hinside.2 ⟨cnonce, hmem, .inr (by omega)⟩
    · intro h
      have hcnonce : ∀ cnonce ∈ nonEmpty auth.cnonce, 4 ≤ cnonce.length ∧ cnonce.length ≤ 64 :=
        fun cnonce hmem => ⟨hpasses.cnonce cnonce hmem, h.cnonce cnonce hmem⟩
      have hlimit := h.nonce nonce hnonce
      refine ⟨fun _ => ⟨⟨nonce, hnonce, by omega, hlimit⟩, hcnonce⟩, ?_⟩
      rintro (⟨nonce', hmem, houtside⟩ | ⟨cnonce, hmem, houtside⟩)
      · obtain rfl : nonce = nonce' := Option.some.inj (hnonce.symm.trans hmem)
        omega
      · have hbounds := hcnonce cnonce hmem
        omega
  · obtain ⟨e, hfailed⟩ := inPlace_refused method hpasses
    constructor
    · intro _
      exact .inr hpasses
    · intro _
      constructor
      · intro hok
        rw [hfailed] at hok
        cases hok
      · intro _
        rw [hfailed]
        exact ⟨⟨e, rfl⟩, rfl⟩

end Limits

/-- A nonce of 257 bytes. -/
def longNonceAuth : RtspAuthorizationHeader :=
  { type := .digest
    username := some (ascii "a")
    realm := some (ascii "a")
    nonce := some (List.replicate 257 0x61)
    uri := some (ascii "a")
    cnonce := some (ascii "0123") }

/-- It is accepted, and the count is advanced. -/
theorem longNonce_accepted :
    (rtspAuthGenerateDigestResponseInPlace {} longNonceAuth (some (ascii "a")) .describe).ret =
        .ok () ∧
      ¬EnforcesLimits {} longNonceAuth (some (ascii "a")) .describe := by
  have hok : (rtspAuthGenerateDigestResponseInPlace {} longNonceAuth (some (ascii "a"))
      .describe).ret = .ok () := by
    decide +kernel
  refine ⟨hok, fun h => ?_⟩
  obtain ⟨nonce, hmem, -, hlength⟩ := (h.accepted hok).1
  obtain rfl : List.replicate 257 0x61 = nonce := Option.some.inj hmem
  rw [List.length_replicate] at hlength
  omega

end Librtsp
