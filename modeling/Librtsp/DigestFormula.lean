import Librtsp.AuthorizationText
import Librtsp.ClientAuth
import Librtsp.Execution

/-!
# The response to a digest challenge

The response is the one of the standard: an MD5 sum over the sums of the secret and of the
request, with the count and the client nonce when the challenge asks for them.  It is written
over the response the header has before, whose buffer may be too small for it.
-/

namespace Librtsp

open CString

/-! ## The formula -/

/-- What a response is computed from. -/
structure DigestInput where
  username : Bytes
  realm : Bytes
  password : Bytes
  method : Bytes
  uri : Bytes
  nonce : Bytes
  cnonce : Bytes
  nc : UInt32
  algorithm : RtspAuthAlgorithm
  qop : RtspAuthQop

def hexDigit (n : Nat) : UInt8 :=
  (ascii "0123456789abcdef").getD n 0

/-- Two digits for each byte. -/
def hexText (data : Bytes) : Bytes :=
  data.flatMap fun b => [hexDigit (b.toNat / 16), hexDigit (b.toNat % 16)]

section Formula

variable (md5 : Bytes → Bytes) (input : DigestInput)

def DigestInput.secretText : Bytes :=
  input.username ++ ascii ":" ++ input.realm ++ ascii ":" ++ input.password

def DigestInput.sessionText : Bytes :=
  hexText (md5 input.secretText) ++ ascii ":" ++ input.nonce ++ ascii ":" ++ input.cnonce

def DigestInput.ha1 : Bytes :=
  if input.algorithm = .md5Sess then hexText (md5 (input.sessionText md5))
  else hexText (md5 input.secretText)

def DigestInput.requestText : Bytes :=
  input.method ++ ascii ":" ++ input.uri

def DigestInput.ha2 : Bytes :=
  hexText (md5 input.requestText)

def DigestInput.responseText : Bytes :=
  if input.qop = .auth then
    input.ha1 md5 ++ ascii ":" ++ input.nonce ++ ascii ":" ++ rtspAuthNcStr input.nc ++
      ascii ":" ++ input.cnonce ++ ascii ":auth:" ++ input.ha2 md5
  else input.ha1 md5 ++ ascii ":" ++ input.nonce ++ ascii ":" ++ input.ha2 md5

def DigestInput.response : Bytes :=
  hexText (md5 (input.responseText md5))

/-- The texts a sum is taken of. -/
def DigestInput.hashedTexts : List Bytes :=
  [input.secretText] ++ (if input.algorithm = .md5Sess then [input.sessionText md5] else []) ++
    [input.requestText, input.responseText md5]

end Formula

/-! ## What the library computes -/

/-- The platform computes the sums of a function with sums of sixteen bytes. -/
structure ClientEnv.Computes (env : ClientEnv) (md5 : Bytes → Bytes) : Prop where
  size : ∀ text, (md5 text).length = 16
  sum : ∀ text digest, env.md5 text = .ok digest → digest = md5 text

/-- The input that belongs to a header: what it holds, the client nonce it holds or a new
one, and the next count. -/
structure DigestInput.Of (input : DigestInput) (env : ClientEnv) (auth : RtspAuthorizationHeader)
    (password : Bytes) (method : RtspMethodType) : Prop where
  username : auth.username = some input.username
  realm : auth.realm = some input.realm
  password : input.password = password
  method : input.method = rtspMethodTypeStr method
  uri : auth.uri = some input.uri
  nonce : auth.nonce = some input.nonce
  cnonce : nonEmpty auth.cnonce = some input.cnonce ∨
    nonEmpty auth.cnonce = none ∧ env.random = .ok input.cnonce
  nc : input.nc = nextNc auth.nc
  algorithm : input.algorithm = auth.algorithm
  qop : input.qop = auth.qop

theorem digestHex_eq {digest : Bytes} (hsize : digest.length = 16) :
    digestHex digest = hexText digest := by
  have hall : ∀ i : Fin 256, (formatHex 2 i.val).map toLower =
      [hexDigit (i.val / 16), hexDigit (i.val % 16)] := by
    decide +kernel
  unfold digestHex hexText
  rw [List.take_of_length_le (by omega)]
  congr 1
  funext b
  exact hall ⟨b.toNat, b.toNat_lt⟩

theorem hexText_length (data : Bytes) : (hexText data).length = 2 * data.length := by
  induction data with
  | nil => rfl
  | cons b data ih =>
      change (hexDigit _ :: hexDigit _ :: hexText data).length = _
      simp only [List.length_cons, ih]
      omega

section Computes

variable {env : ClientEnv} {md5 : Bytes → Bytes}

/-- The text fits the buffer it is formatted into, and has a sum. -/
def HasSum (env : ClientEnv) (text : Bytes) : Prop :=
  text.length < 1024 ∧ ∃ digest, env.md5 text = .ok digest

theorem md5HexFmt_ok (henv : env.Computes md5) {text sum : Bytes} :
    md5HexFmt env text = .ok sum ↔ HasSum env text ∧ sum = hexText (md5 text) := by
  unfold md5HexFmt HasSum
  by_cases hlong : 1024 ≤ text.length
  · rw [if_pos hlong]
    exact iff_of_false (by simp) fun h => absurd h.1.1 (Nat.not_lt.mpr hlong)
  · rw [if_neg hlong]
    cases hsum : env.md5 text with
    | error e => exact iff_of_false nofun fun ⟨⟨_, _, h⟩, _⟩ => by cases h
    | ok digest =>
        obtain rfl := henv.sum text digest hsum
        simp only [Except.map, Except.ok.injEq, digestHex_eq (henv.size text)]
        exact ⟨fun h => ⟨⟨Nat.not_le.mp hlong, _, rfl⟩, h.symm⟩, fun h => h.2.symm⟩

theorem digestCnonce_ok {given : Option Bytes} {cnonce : Bytes} :
    digestCnonce env given = .ok cnonce ↔
      nonEmpty given = some cnonce ∧ 4 ≤ cnonce.length ∨
        nonEmpty given = none ∧ env.random = .ok cnonce := by
  unfold digestCnonce
  cases hgiven : nonEmpty given with
  | none => simp
  | some cnonce' =>
      by_cases hshort : min cnonce'.length 64 < 4
      · simp only [if_pos hshort, reduceCtorEq, false_and, or_false, false_iff, Option.some.injEq]
        rintro ⟨rfl, hlong⟩
        omega
      · simp only [if_neg hshort, Except.ok.injEq, reduceCtorEq, false_and, or_false,
          Option.some.injEq]
        refine ⟨fun h => ⟨h, ?_⟩, And.left⟩
        rw [← h]
        omega

theorem colons_two (a b : Bytes) : colons [a, b] = a ++ ascii ":" ++ b := by
  simp [colons]

theorem colons_cons (a b : Bytes) (rest : List Bytes) :
    colons (a :: b :: rest) = a ++ ascii ":" ++ colons (b :: rest) := by
  simp [colons]

theorem digestHa1_ok (henv : env.Computes md5) {auth : RtspAuthorizationHeader}
    (input : DigestInput) (halgorithm : input.algorithm = auth.algorithm) {ha1 : Bytes} :
    digestHa1 env auth input.username input.realm input.nonce input.cnonce input.password =
        .ok ha1 ↔
      (HasSum env input.secretText ∧
        (input.algorithm = .md5Sess → HasSum env (input.sessionText md5))) ∧
          ha1 = input.ha1 md5 := by
  unfold digestHa1 DigestInput.ha1
  rw [except_bind_ok, colons_cons, colons_two, ← List.append_assoc, ← List.append_assoc]
  change (∃ secret, md5HexFmt env input.secretText = .ok secret ∧ _) ↔ _
  simp only [md5HexFmt_ok henv, halgorithm, and_assoc]
  by_cases hsess : auth.algorithm = .md5Sess
  · have hsession : colons [hexText (md5 input.secretText), input.nonce, input.cnonce] =
        input.sessionText md5 := by
      rw [colons_cons, colons_two, ← List.append_assoc, ← List.append_assoc]
      rfl
    simp [hsess, hsession, md5HexFmt_ok henv]
  · simp [hsess, eq_comm]

theorem digestResponse_ok (henv : env.Computes md5) (input : DigestInput) {response : Bytes} :
    digestResponse env input.qop (input.ha1 md5) input.nonce input.cnonce (input.ha2 md5)
        input.nc = .ok response ↔
      (input.qop = .unspecified ∨ input.qop = .auth) ∧ HasSum env (input.responseText md5) ∧
        response = input.response md5 := by
  unfold digestResponse DigestInput.response DigestInput.responseText
  cases hqop : input.qop with
  | unspecified =>
      rw [colons_cons, colons_two, ← List.append_assoc, ← List.append_assoc]
      simp [md5HexFmt_ok henv]
  | auth =>
      have htext : colons [input.ha1 md5, input.nonce, rtspAuthNcStr input.nc, input.cnonce,
          ascii "auth", input.ha2 md5] =
            input.ha1 md5 ++ ascii ":" ++ input.nonce ++ ascii ":" ++ rtspAuthNcStr input.nc ++
              ascii ":" ++ input.cnonce ++ ascii ":auth:" ++ input.ha2 md5 := by
        have hauth : ascii ":auth:" = ascii ":" ++ ascii "auth" ++ ascii ":" := rfl
        rw [colons_cons, colons_cons, colons_cons, colons_cons, colons_two, hauth]
        simp only [List.append_assoc]
      rw [htext]
      simp [md5HexFmt_ok henv]
  | authInt => simp
  | unknown => simp

theorem forall_hashedTexts {p : Bytes → Prop} (input : DigestInput) :
    (∀ text ∈ input.hashedTexts md5, p text) ↔
      (p input.secretText ∧ (input.algorithm = .md5Sess → p (input.sessionText md5))) ∧
        p input.requestText ∧ p (input.responseText md5) := by
  unfold DigestInput.hashedTexts
  by_cases hsess : input.algorithm = .md5Sess
  · simp [hsess, and_assoc]
  · simp [hsess]

/-- The call comes to write a response: no check refuses it, and each text has its sum. -/
structure WritesResponse (env : ClientEnv) (md5 : Bytes → Bytes) (auth : RtspAuthorizationHeader)
    (password : Bytes) (method : RtspMethodType) (input : DigestInput) : Prop where
  isDigest : auth.type = .digest
  of : input.Of env auth password method
  nonce : input.nonce ≠ []
  algorithm : input.algorithm ≠ .unknown
  qop : input.qop = .unspecified ∨ input.qop = .auth
  cnonce : ∀ cnonce ∈ nonEmpty auth.cnonce, 4 ≤ cnonce.length
  sums : ∀ text ∈ input.hashedTexts md5, HasSum env text

/-- The response of the standard is what the call comes to write. -/
theorem digestAnswer_standard (henv : env.Computes md5) {auth auth' : RtspAuthorizationHeader}
    {password : Bytes} {method : RtspMethodType} :
    digestAnswer env auth password method = .ok auth' ↔
      ∃ input : DigestInput, WritesResponse env md5 auth password method input ∧
        auth' = { auth with
          cnonce := some input.cnonce, nc := input.nc, response := some (input.response md5) } := by
  rw [digestAnswer_ok]
  constructor
  · rintro ⟨username, realm, uri, nonce, cnonce, ha1, ha2, response, hstages, rfl⟩
    let input : DigestInput :=
      { username, realm, password, method := rtspMethodTypeStr method, uri, nonce, cnonce,
        nc := nextNc auth.nc, algorithm := auth.algorithm, qop := auth.qop }
    obtain ⟨hsecret, rfl⟩ := (digestHa1_ok henv input rfl).mp hstages.secret
    have hrequest := hstages.request
    rw [colons_two] at hrequest
    obtain ⟨hrequested, rfl⟩ := (md5HexFmt_ok henv).mp hrequest
    obtain ⟨hqop, hresponse, rfl⟩ := (digestResponse_ok henv input).mp hstages.answer
    have hchosen := digestCnonce_ok.mp hstages.chosen
    refine ⟨input, ⟨hstages.isDigest, ?_, hstages.nonceSet, hstages.algorithm, hqop, ?_,
      (forall_hashedTexts input).mpr ⟨hsecret, hrequested, hresponse⟩⟩, rfl⟩
    · exact ⟨hstages.hasUsername, hstages.hasRealm, rfl, rfl, hstages.hasUri, hstages.hasNonce,
        hchosen.imp_left And.left, rfl, rfl, rfl⟩
    · intro given hgiven
      rcases hchosen with ⟨hsome, hlong⟩ | ⟨hnone, -⟩
      · rw [Option.some.inj (Eq.trans hgiven.symm hsome)]
        exact hlong
      · cases hnone.symm.trans hgiven
  · rintro ⟨input, h, rfl⟩
    obtain ⟨hsecret, hrequested, hresponse⟩ := (forall_hashedTexts input).mp h.sums
    have hanswer := (digestResponse_ok henv input).mpr ⟨h.qop, hresponse, rfl⟩
    rw [h.of.qop, h.of.nc] at hanswer
    refine ⟨input.username, input.realm, input.uri, input.nonce, input.cnonce, input.ha1 md5,
      input.ha2 md5, input.response md5, ⟨h.isDigest, h.of.username, h.of.realm, h.of.uri,
        h.of.nonce, h.nonce, ?_, ?_, ?_, ?_, hanswer⟩, by rw [h.of.nc]⟩
    · rw [← h.of.algorithm]
      exact h.algorithm
    · exact digestCnonce_ok.mpr (h.of.cnonce.imp_left fun hgiven => ⟨hgiven, h.cnonce _ hgiven⟩)
    · rw [← h.of.password]
      exact (digestHa1_ok henv input h.of.algorithm).mpr ⟨hsecret, rfl⟩
    · rw [colons_two, ← h.of.method]
      exact (md5HexFmt_ok henv).mpr ⟨hrequested, rfl⟩

theorem DigestInput.Of.unique {input input' : DigestInput} {auth : RtspAuthorizationHeader}
    {password : Bytes} {method : RtspMethodType} (h : input.Of env auth password method)
    (h' : input'.Of env auth password method) : input = input' := by
  have hcnonce : input.cnonce = input'.cnonce := by
    obtain hgiven | ⟨hnone, hrandom⟩ := h.cnonce
    · obtain hgiven' | ⟨hnone, -⟩ := h'.cnonce
      · exact Option.some.inj (hgiven.symm.trans hgiven')
      · rw [hgiven] at hnone
        cases hnone
    · obtain hgiven' | ⟨-, hrandom'⟩ := h'.cnonce
      · rw [hnone] at hgiven'
        cases hgiven'
      · exact Except.ok.inj (hrandom.symm.trans hrandom')
  have husername := Option.some.inj (h.username.symm.trans h'.username)
  have hrealm := Option.some.inj (h.realm.symm.trans h'.realm)
  have huri := Option.some.inj (h.uri.symm.trans h'.uri)
  have hnonce := Option.some.inj (h.nonce.symm.trans h'.nonce)
  have hpassword := h.password.trans h'.password.symm
  have hmethod := h.method.trans h'.method.symm
  have hnc := h.nc.trans h'.nc.symm
  have halgorithm := h.algorithm.trans h'.algorithm.symm
  have hqop := h.qop.trans h'.qop.symm
  cases input
  cases input'
  simp only [DigestInput.mk.injEq]
  exact ⟨husername, hrealm, hpassword, hmethod, huri, hnonce, hcnonce, hnc, halgorithm, hqop⟩

/-! ## What is printed -/

/-- The parameters that are printed with the count, and no others of their names. -/
theorem mem_digestFields (auth : RtspAuthorizationHeader) (value : Bytes) :
    ((ascii "cnonce", some value) ∈ digestFields auth ↔
        (rtspAuthQopStr auth.qop).isSome ∧ auth.cnonce = some value) ∧
      ((ascii "nc", some value) ∈ digestFields auth ↔
        (rtspAuthQopStr auth.qop).isSome ∧ rtspAuthNcStr auth.nc = value) := by
  have hother : ∀ name ∈ [ascii "cnonce", ascii "nc"], name ∉ [ascii "username", ascii "realm",
      ascii "nonce", ascii "uri", ascii "response", ascii "algorithm", ascii "opaque"] := by
    decide +kernel
  have hfront : ∀ name ∈ [ascii "cnonce", ascii "nc"], ∀ value : Option Bytes,
      (name, value) ∉ [(ascii "username", auth.username), (ascii "realm", auth.realm),
        (ascii "nonce", auth.nonce), (ascii "uri", auth.uri), (ascii "response", auth.response),
        (ascii "algorithm", rtspAuthAlgorithmStr auth.algorithm),
        (ascii "opaque", auth.opaqueData)] := fun name hname value hmem =>
    hother name hname (List.mem_map_of_mem (f := Prod.fst) hmem)
  have hqop : ascii "cnonce" ≠ ascii "qop" ∧ ascii "cnonce" ≠ ascii "nc" ∧
      ascii "nc" ≠ ascii "qop" ∧ ascii "nc" ≠ ascii "cnonce" := by
    decide +kernel
  unfold digestFields
  rw [List.mem_append, List.mem_append, or_iff_right (hfront _ (by simp) _),
    or_iff_right (hfront _ (by simp) _)]
  split
  next hsome => simp [hsome, hqop, eq_comm]
  next hnone => simp [hnone]

/-- The count and the client nonce of the input are printed when the response has them. -/
def PrintsCounted (input : DigestInput) (auth : RtspAuthorizationHeader) : Prop :=
  ∃ params, printed (rtspAuthorizationHeaderWrite auth) =
      some (ascii "Authorization: " ++ (ascii "Digest " ++ paramsText params) ++ rtspCrlf) ∧
    (∀ value, (ascii "cnonce", value) ∈ params ↔ input.qop = .auth ∧ value = input.cnonce) ∧
    ∀ value, (ascii "nc", value) ∈ params ↔
      input.qop = .auth ∧ value = rtspAuthNcStr input.nc

theorem printsCounted_of_response {input : DigestInput} {auth : RtspAuthorizationHeader}
    {response : Bytes} (htype : auth.type = .digest)
    (hqop : input.qop = .unspecified ∨ input.qop = .auth) (hsame : auth.qop = input.qop)
    (hcnonce : auth.cnonce = some input.cnonce) (hnc : auth.nc = input.nc)
    (hresponse : auth.response = some response) (hne : response ≠ []) :
    PrintsCounted input auth := by
  have hsome : (rtspAuthQopStr auth.qop).isSome ↔ input.qop = .auth := by
    rw [hsame]
    obtain hnone | hauth := hqop
    · simp [hnone, rtspAuthQopStr]
    · simp [hauth, rtspAuthQopStr]
  refine ⟨presentFields (digestFields { auth with opaqueData := nonEmpty auth.opaqueData }),
    printed_digest htype hresponse hne, ?_, ?_⟩
  · intro value
    rw [mem_presentFields, (mem_digestFields _ value).1, hsome, hcnonce, Option.some.injEq,
      eq_comm (a := value)]
  · intro value
    rw [mem_presentFields, (mem_digestFields _ value).2, hsome, hnc, eq_comm (a := value)]

/-- A challenge is answered as the standard says, or not at all; and nothing is written past a
buffer. -/
structure AnswersChallenge (env : ClientEnv) (md5 : Bytes → Bytes)
    (auth : RtspAuthorizationHeader) (password : Bytes) (method : RtspMethodType) : Prop where
  standard : ∀ auth', rtspAuthGenerateDigestResponse env auth password method = .ok auth' →
    ∃ input : DigestInput, input.Of env auth password method ∧
      auth' = { auth with
        cnonce := some input.cnonce, nc := input.nc, response := some (input.response md5) } ∧
      PrintsCounted input auth'
  refused : ∀ input : DigestInput, input.Of env auth password method →
    (∃ text ∈ input.hashedTexts md5, 1024 ≤ text.length) →
      ∃ e, rtspAuthGenerateDigestResponse env auth password method = .error (.errno e)
  returns : ∀ f, rtspAuthGenerateDigestResponse env auth password method ≠ .error (.fault f)

/-- Only a response that is written where there is no room for it is not an error. -/
theorem digest_fault_iff {auth : RtspAuthorizationHeader} {password : Bytes}
    {method : RtspMethodType} :
    (∃ f, rtspAuthGenerateDigestResponse env auth password method = .error (.fault f)) ↔
      (∃ auth', digestAnswer env auth password method = .ok auth') ∧
        responseFits auth.response = false := by
  unfold rtspAuthGenerateDigestResponse
  cases digestAnswer env auth password method with
  | error e => simp
  | ok answered =>
      cases responseFits auth.response with
      | false => simp
      | true => simp

/-- The response is the one of the standard, made of whole texts and of the count and the
client nonce the header is left with, and a text that does not fit the buffer is an error,
exactly when a response that is there before has room for a new one, if that is written. -/
theorem rtspAuthGenerateDigestResponse_answers (henv : env.Computes md5)
    (auth : RtspAuthorizationHeader) (password : Bytes) (method : RtspMethodType) :
    AnswersChallenge env md5 auth password method ↔
      ((∃ input, WritesResponse env md5 auth password method input) →
        responseFits auth.response = true) := by
  constructor
  · rintro h ⟨input, hwrites⟩
    by_contra hfits
    have hanswer := (digestAnswer_standard henv).mpr ⟨input, hwrites, rfl⟩
    obtain ⟨f, hfault⟩ := digest_fault_iff.mpr ⟨⟨_, hanswer⟩, Bool.eq_false_iff.mpr hfits⟩
    exact h.returns f hfault
  · intro hroom
    have hreturns : ∀ f,
        rtspAuthGenerateDigestResponse env auth password method ≠ .error (.fault f) := by
      intro f hfault
      obtain ⟨⟨auth', hanswer⟩, hfits⟩ := digest_fault_iff.mp ⟨f, hfault⟩
      obtain ⟨input, hwrites, -⟩ := (digestAnswer_standard henv).mp hanswer
      rw [hroom ⟨input, hwrites⟩] at hfits
      cases hfits
    refine ⟨?_, ?_, hreturns⟩
    · intro auth' h
      obtain ⟨input, hwrites, rfl⟩ :=
        (digestAnswer_standard henv).mp (rtspAuthGenerateDigestResponse_ok.mp h).1
      refine ⟨input, hwrites.of, rfl, ?_⟩
      have hne : input.response md5 ≠ [] := by
        intro hnil
        have hlength := hexText_length (md5 (input.responseText md5))
        rw [henv.size, show hexText (md5 (input.responseText md5)) = [] from hnil] at hlength
        cases hlength
      exact printsCounted_of_response hwrites.isDigest hwrites.qop hwrites.of.qop.symm rfl rfl rfl
        hne
    · rintro input hinput ⟨text, htext, hlong⟩
      cases h : rtspAuthGenerateDigestResponse env auth password method with
      | error stop =>
          cases stop with
          | errno e => exact ⟨e, rfl⟩
          | fault f => exact absurd h (hreturns f)
      | ok auth' =>
          obtain ⟨input', hwrites, -⟩ :=
            (digestAnswer_standard henv).mp (rtspAuthGenerateDigestResponse_ok.mp h).1
          obtain rfl := hinput.unique hwrites.of
          exact absurd (hwrites.sums text htext).1 (Nat.not_lt.mpr hlong)

end Computes

/-! ## A recorded exchange -/

/-- The sums of one exchange. -/
def recordedMd5 (text : Bytes) : Bytes :=
  if text = ascii "admin:RTSP:admin" then
    [0x6f, 0xfe, 0x89, 0xf4, 0x9c, 0x97, 0xbc, 0x82,
      0xed, 0x5d, 0x37, 0x18, 0x39, 0x36, 0x81, 0x5d]
  else if text = ascii "DESCRIBE:rtsp://127.0.0.1/test" then
    [0x6c, 0x1c, 0x54, 0xe3, 0x12, 0xb2, 0x5c, 0x40,
      0x73, 0xfe, 0x4f, 0x9d, 0x08, 0x4c, 0x29, 0x0c]
  else if text = ascii "6ffe89f49c97bc82ed5d37183936815d:dcd98b7102dd2f0e8b11d0f600bfb0c093:" ++
      ascii "00000001:0a4f113b:auth:6c1c54e312b25c4073fe4f9d084c290c" then
    [0x36, 0x8b, 0xc0, 0x9d, 0xa9, 0x9e, 0x8a, 0x4c,
      0x21, 0x7e, 0x6b, 0x2a, 0x59, 0xf8, 0x02, 0x13]
  else List.replicate 16 0

def recordedEnv : ClientEnv :=
  { md5 := fun text => .ok (recordedMd5 text) }

theorem recordedEnv_computes : recordedEnv.Computes recordedMd5 := by
  constructor
  · intro text
    unfold recordedMd5
    split
    next => rfl
    next =>
      split
      next => rfl
      next =>
        split
        next => rfl
        next => rfl
  · intro text digest h
    exact (Except.ok.inj h).symm

def recordedAuth : RtspAuthorizationHeader :=
  { type := .digest
    username := some (ascii "admin")
    realm := some (ascii "RTSP")
    nonce := some (ascii "dcd98b7102dd2f0e8b11d0f600bfb0c093")
    uri := some (ascii "rtsp://127.0.0.1/test")
    algorithm := .md5
    qop := .auth
    cnonce := some (ascii "0a4f113b") }

theorem recordedAuth_answers :
    AnswersChallenge recordedEnv recordedMd5 recordedAuth (ascii "admin") .describe ∧
      (rtspAuthGenerateDigestResponse recordedEnv recordedAuth (ascii "admin") .describe).map
          (·.response) =
        .ok (some (ascii "368bc09da99e8a4c217e6b2a59f80213")) :=
  ⟨(rtspAuthGenerateDigestResponse_answers recordedEnv_computes recordedAuth (ascii "admin")
    .describe).mpr fun _ => rfl, by decide +kernel⟩

/-- What a server asks for, with a response in it. -/
def answeredChallenge : Bytes :=
  ascii "Digest realm=\"RTSP\",nonce=\"dcd98b7102dd2f0e8b11d0f600bfb0c093\",response=\"x\""

/-- The response to it is written over the one byte of the old one. -/
theorem answeredChallenge_overflows :
    ∃ challenge, rtspAuthorizationHeaderRead answeredChallenge = .ok challenge ∧
      ¬ AnswersChallenge recordedEnv recordedMd5
        { challenge with
          username := some (ascii "admin"), uri := some (ascii "rtsp://127.0.0.1/test") }
        (ascii "admin") .describe := by
  have hfault : ∃ challenge ∈ (rtspAuthorizationHeaderRead answeredChallenge).toOption,
      rtspAuthGenerateDigestResponse recordedEnv
        { challenge with
          username := some (ascii "admin"), uri := some (ascii "rtsp://127.0.0.1/test") }
        (ascii "admin") .describe = .error (.fault .pastBuffer) := by
    decide +kernel
  obtain ⟨challenge, hread, hfault⟩ := hfault
  exact ⟨challenge, Execution.ok_of_toOption hread, fun h => h.returns _ hfault⟩

end Librtsp
