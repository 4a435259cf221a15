import Librtsp.ClientStore
import Librtsp.HeaderRead
import Librtsp.HeaderWrite

/-!
# Authorization on the client

The client keeps two authorization headers: what the server last asked for, and the state
its own headers are made from, which holds the nonce count.  Every header that is made
changes that state, whether or not its request is sent.
-/

namespace Librtsp

open CString

/-- What the platform gives during one step: the clock in seconds, random numbers as text,
the sixteen bytes of the MD5 sum of a text, and the results of the transport and of the
resolver. -/
structure ClientEnv where
  now : UInt64 := 0
  random : Except Errno Bytes := .ok (ascii "0123456789abcdef")
  md5 : Bytes → Except Errno Bytes := fun text => .ok (List.replicate 16 (UInt8.ofNat text.length))
  inetPton : AddressFamily → Bytes → Bool := fun _ _ => false
  send : Except Errno Unit := .ok ()
  connect : Except Errno Unit := .ok ()
  tls : Except Errno Unit := .ok ()
  getaddrinfo : Except Errno Unit := .ok ()

/-! ## Base64 -/

def encodeChar (val : UInt8) : UInt8 :=
  if val ≤ 25 then 0x41 + val
  else if val ≤ 51 then 0x61 + val - 26
  else if val ≤ 61 then 0x30 + val - 52
  else if val = 62 then 0x2b
  else 0x2f

def base64Text : Bytes → Bytes
  | x1 :: x2 :: x3 :: rest =>
      encodeChar (x1 >>> 2) :: encodeChar ((x1 <<< 4 ||| x2 >>> 4) &&& 0x3f) ::
        encodeChar ((x2 <<< 2 ||| x3 >>> 6) &&& 0x3f) :: encodeChar (x3 &&& 0x3f) ::
          base64Text rest
  | [x1, x2] =>
      [encodeChar (x1 >>> 2), encodeChar ((x1 <<< 4 ||| x2 >>> 4) &&& 0x3f),
        encodeChar ((x2 <<< 2) &&& 0x3f), 0x3d]
  | [x1] => [encodeChar (x1 >>> 2), encodeChar ((x1 <<< 4) &&& 0x3f), 0x3d, 0x3d]
  | [] => []

def maxRtspBase64Len : Nat := 4096

def rtspBase64Encode (data : Bytes) : Except Errno Bytes :=
  if data = [] then .error .einval
  else if maxRtspBase64Len / 4 * 3 < data.length then .error .einval
  else .ok (base64Text data)

/-! ## Copies of a header -/

/-- The fields the server provides. -/
def rtspAuthorizationHeaderCopyServerFields (src dst : RtspAuthorizationHeader) :
    RtspAuthorizationHeader :=
  { dst with
    type := src.type
    realm := src.realm
    nonce := src.nonce
    opaqueData := src.opaqueData
    algorithm := src.algorithm
    qop := src.qop }

/-- The fields the client provides. -/
def rtspAuthorizationHeaderCopyClientFields (src dst : RtspAuthorizationHeader) :
    RtspAuthorizationHeader :=
  { dst with
    username := src.username
    credentials := src.credentials
    uri := src.uri
    response := src.response
    cnonce := src.cnonce
    nc := src.nc }

/-! ## Responses to a challenge -/

section Generate

variable (env : ClientEnv)

def rtspAuthGenerateBasicResponse (auth : RtspAuthorizationHeader) (password : Bytes) :
    Except Errno RtspAuthorizationHeader :=
  match auth.username with
  | none => .error .einval
  | some username =>
      (rtspBase64Encode (username ++ ascii ":" ++ password)).map fun credentials =>
        { auth with credentials := some credentials }

/-- `%02x` of each of the first sixteen bytes. -/
def digestHex (digest : Bytes) : Bytes :=
  (digest.take 16).flatMap fun b => (formatHex 2 b.toNat).map toLower

/-- The text is formatted into a buffer of 1024 bytes first. -/
def md5HexFmt (text : Bytes) : Except Errno Bytes :=
  if 1024 ≤ text.length then .error .einval else (env.md5 text).map digestHex

/-- Texts separated by colons. -/
def colons (texts : List Bytes) : Bytes :=
  (texts.intersperse (ascii ":")).flatten

/-- The client nonce that is given, or a new one. -/
def digestCnonce (cnonce : Option Bytes) : Except Errno Bytes :=
  match nonEmpty cnonce with
  | none => env.random
  | some cnonce => if min cnonce.length 64 < 4 then .error .einval else .ok cnonce

/-- The nonce count of the next header; zero is left out. -/
def nextNc (nc : UInt32) : UInt32 :=
  if nc + 1 = 0 then 1 else nc + 1

def digestHa1 (auth : RtspAuthorizationHeader) (username realm nonce cnonce password : Bytes) :
    Except Errno Bytes := do
  let ha1 ← md5HexFmt env (colons [username, realm, password])
  if auth.algorithm = .md5Sess then md5HexFmt env (colons [ha1, nonce, cnonce]) else .ok ha1

def digestResponse (qop : RtspAuthQop) (ha1 nonce cnonce ha2 : Bytes) (nc : UInt32) :
    Except Errno Bytes :=
  match qop with
  | .unspecified => md5HexFmt env (colons [ha1, nonce, ha2])
  | .auth => md5HexFmt env (colons [ha1, nonce, rtspAuthNcStr nc, cnonce, ascii "auth", ha2])
  | _ => .error .enosys

/-- The header with its response, before that is written. -/
def digestAnswer (auth : RtspAuthorizationHeader) (password : Bytes)
    (method : RtspMethodType) : Except Errno RtspAuthorizationHeader :=
  if auth.type ≠ .digest then .error .einval
  else
    match auth.username, auth.realm, auth.uri, auth.nonce with
    | some username, some realm, some uri, some nonce =>
        if nonce = [] then .error .einval
        else if auth.algorithm = .unknown then .error .einval
        else if auth.qop = .unknown then .error .einval
        else if auth.qop = .authInt then .error .enosys
        else do
          let cnonce ← digestCnonce env auth.cnonce
          let nc := nextNc auth.nc
          let ha1 ← digestHa1 env auth username realm nonce cnonce password
          let ha2 ← md5HexFmt env (colons [rtspMethodTypeStr method, uri])
          let response ← digestResponse env auth.qop ha1 nonce cnonce ha2 nc
          .ok { auth with cnonce := some cnonce, nc, response := some response }
    | _, _, _, _ => .error .einval

/-- A response is 32 digits and a NUL.  A buffer of that size is allocated when the header has
no response; else the response is written over the old one. -/
def responseFits (response : Option Bytes) : Bool :=
  match response with
  | none => true
  | some response => 32 ≤ response.length

def rtspAuthGenerateDigestResponse (auth : RtspAuthorizationHeader) (password : Bytes)
    (method : RtspMethodType) : Except Stop RtspAuthorizationHeader :=
  match digestAnswer env auth password method with
  | .error e => .error (.errno e)
  | .ok answered =>
      if responseFits auth.response then .ok answered else .error (.fault .pastBuffer)

variable {env}

/-- What a response to a challenge goes through. -/
structure DigestStages (env : ClientEnv) (auth : RtspAuthorizationHeader) (password : Bytes)
    (method : RtspMethodType) (username realm uri nonce cnonce ha1 ha2 response : Bytes) :
    Prop where
  isDigest : auth.type = .digest
  hasUsername : auth.username = some username
  hasRealm : auth.realm = some realm
  hasUri : auth.uri = some uri
  hasNonce : auth.nonce = some nonce
  nonceSet : nonce ≠ []
  algorithm : auth.algorithm ≠ .unknown
  chosen : digestCnonce env auth.cnonce = .ok cnonce
  secret : digestHa1 env auth username realm nonce cnonce password = .ok ha1
  request : md5HexFmt env (colons [rtspMethodTypeStr method, uri]) = .ok ha2
  answer : digestResponse env auth.qop ha1 nonce cnonce ha2 (nextNc auth.nc) = .ok response

theorem digestAnswer_ok {auth auth' : RtspAuthorizationHeader}
    {password : Bytes} {method : RtspMethodType} :
    digestAnswer env auth password method = .ok auth' ↔
      ∃ username realm uri nonce cnonce ha1 ha2 response,
        DigestStages env auth password method username realm uri nonce cnonce ha1 ha2 response ∧
          auth' = { auth with
            cnonce := some cnonce, nc := nextNc auth.nc, response := some response } := by
  unfold digestAnswer
  constructor
  · intro h
    split at h
    next => cases h
    next htype =>
      split at h
      next username realm uri nonce husername hrealm huri hnonce =>
        split at h
        next => cases h
        next hset =>
          split at h
          next => cases h
          next halgorithm =>
            split at h
            next => cases h
            next =>
              split at h
              next => cases h
              next =>
                obtain ⟨cnonce, hcnonce, h⟩ := except_bind_ok.mp h
                obtain ⟨ha1, hha1, h⟩ := except_bind_ok.mp h
                obtain ⟨ha2, hha2, h⟩ := except_bind_ok.mp h
                obtain ⟨response, hresponse, h⟩ := except_bind_ok.mp h
                cases h
                exact ⟨username, realm, uri, nonce, cnonce, ha1, ha2, response,
                  ⟨not_not.mp htype, husername, hrealm, huri, hnonce, hset, halgorithm, hcnonce,
                    hha1, hha2, hresponse⟩, rfl⟩
      next => cases h
  · rintro ⟨username, realm, uri, nonce, cnonce, ha1, ha2, response, h, rfl⟩
    have hqop : auth.qop ≠ .unknown ∧ auth.qop ≠ .authInt := by
      have hanswer := h.answer
      constructor
      · intro hunknown
        rw [hunknown] at hanswer
        cases hanswer
      · intro hint
        rw [hint] at hanswer
        cases hanswer
    rw [if_neg (not_not.mpr h.isDigest), h.hasUsername, h.hasRealm, h.hasUri, h.hasNonce]
    dsimp only
    rw [if_neg h.nonceSet, if_neg h.algorithm, if_neg hqop.1, if_neg hqop.2]
    exact except_bind_ok.mpr ⟨cnonce, h.chosen, except_bind_ok.mpr ⟨ha1, h.secret,
      except_bind_ok.mpr ⟨ha2, h.request, except_bind_ok.mpr ⟨response, h.answer, rfl⟩⟩⟩⟩

theorem rtspAuthGenerateDigestResponse_ok {auth auth' : RtspAuthorizationHeader}
    {password : Bytes} {method : RtspMethodType} :
    rtspAuthGenerateDigestResponse env auth password method = .ok auth' ↔
      digestAnswer env auth password method = .ok auth' ∧ responseFits auth.response = true := by
  unfold rtspAuthGenerateDigestResponse
  cases digestAnswer env auth password method with
  | error e => simp
  | ok answered =>
      by_cases hfits : responseFits auth.response = true
      · simp [hfits]
      · simp [hfits]

/-! ## The header of a request -/

variable (env)

def Errno.eexist : Errno := .other 16

/-- The authorization made of the current state. -/
def authorize (current : RtspAuthorizationHeader) (pass : Bytes) (header : RtspRequestHeader) :
    Except Stop RtspAuthorizationHeader :=
  match current.type with
  | .basic =>
      if current.credentials = none then
        (rtspAuthGenerateBasicResponse current pass).mapError Stop.errno
      else .ok current
  | .digest =>
      rtspAuthGenerateDigestResponse env { current with uri := header.uri } pass header.method
  | .unknown => .error (.errno .einval)

/-- `generate_authorization_header`: the header is made of the current state, which takes
over what the client provides of it. -/
def generateAuthorizationHeader (client : RtspClient) : Except Stop RtspClient :=
  match client.auth with
  | none => .ok client
  | some current =>
      if current.type = .digest ∧ current.nonce = none then .error (.errno .eagain)
      else if client.request.header.authorization ≠ none then .error (.errno .eexist)
      else
        match client.url.bind fun url => url.2.pass with
        | none => .error (.errno .einval)
        | some pass =>
            match authorize env current pass client.request.header with
            | .error stop => .error stop
            | .ok auth =>
                .ok
                  { client.setHeader { client.request.header with authorization := some auth } with
                    auth := some (rtspAuthorizationHeaderCopyClientFields auth current) }

end Generate

/-- `update_auth_from_server`: a challenge replaces what the server provides. -/
def updateAuthFromServer (client : RtspClient) (server : Option RtspAuthorizationHeader) :
    RtspClient :=
  match server with
  | none => client
  | some server =>
      { client with
        serverAuth := some server
        auth :=
          match client.auth with
          | none => some { server with username := client.url.bind fun url => url.2.user }
          | some auth => some (rtspAuthorizationHeaderCopyServerFields server auth) }

end Librtsp
