import Librtsp.HeaderRead
import Librtsp.HeaderWrite
import Librtsp.Numerals
import Librtsp.Tokens
import Librtsp.Url

/-!
# Quoted authorization parameters

A `Digest` header is written as a list of quoted parameters.  The reader cuts
such a list at every comma and a `Basic` challenge at every space, inside quotes
as well, and takes no quoted text of `PATH_MAX` bytes or more.
-/

namespace Librtsp

open CString

/-! ## Texts -/

def quoted (value : Bytes) : Bytes :=
  0x22 :: (value ++ [0x22])

def paramText (param : Bytes × Bytes) : Bytes :=
  param.1 ++ 0x3d :: quoted param.2

/-- Parameters separated by a comma and a space. -/
def paramsText : List (Bytes × Bytes) → Bytes
  | [] => []
  | param :: params =>
      paramText param ++ (params.map fun param => 0x2c :: 0x20 :: paramText param).flatten

/-- The parameters of a `Digest` header in the order of the writer. -/
def digestFields (auth : RtspAuthorizationHeader) : List (Bytes × Option Bytes) :=
  [(ascii "username", auth.username), (ascii "realm", auth.realm), (ascii "nonce", auth.nonce),
    (ascii "uri", auth.uri), (ascii "response", auth.response),
    (ascii "algorithm", rtspAuthAlgorithmStr auth.algorithm), (ascii "opaque", auth.opaqueData)] ++
    if (rtspAuthQopStr auth.qop).isSome then
      [(ascii "qop", rtspAuthQopStr auth.qop), (ascii "cnonce", auth.cnonce),
        (ascii "nc", some (rtspAuthNcStr auth.nc))]
    else []

/-- The fields that are there. -/
def presentFields (fields : List (Bytes × Option Bytes)) : List (Bytes × Bytes) :=
  fields.filterMap fun field => field.2.map fun value => (field.1, value)

def digestText (auth : RtspAuthorizationHeader) : Bytes :=
  ascii "Digest " ++ paramsText (presentFields (digestFields auth))

/-- A challenge with a realm. -/
def basicText (realm : Bytes) : Bytes :=
  ascii "Basic " ++ paramText (ascii "realm", realm)

/-- The texts the header holds between quotes. -/
def quotedTexts (auth : RtspAuthorizationHeader) : List Bytes :=
  [auth.username, auth.realm, auth.nonce, auth.uri, auth.response, auth.opaqueData,
    auth.cnonce].filterMap id

/-- A text that may stand between quotes. -/
structure QuotedText (value : Bytes) : Prop where
  clean : ∀ b ∈ value, b ≠ 0 ∧ b ≠ 0x0d ∧ b ≠ 0x0a ∧ b ≠ 0x22
  short : value.length < pathMax

/-- A `Digest` header all of whose fields are written. -/
structure DigestHeader (auth : RtspAuthorizationHeader) : Prop where
  type : auth.type = .digest
  credentials : auth.credentials = none
  algorithm : auth.algorithm ≠ .unknown
  opaqueData : auth.opaqueData ≠ some []
  qop : auth.qop ≠ .unknown
  count : auth.qop = .unspecified → auth.cnonce = none ∧ auth.nc = 0
  texts : ∀ value ∈ quotedTexts auth, QuotedText value

/-! ## Writing -/

theorem presentFields_cons_none (name : Bytes) (fields : List (Bytes × Option Bytes)) :
    presentFields ((name, none) :: fields) = presentFields fields := rfl

theorem presentFields_cons_some (name value : Bytes) (fields : List (Bytes × Option Bytes)) :
    presentFields ((name, some value) :: fields) = (name, value) :: presentFields fields := rfl

theorem printed_authFieldsWrite (fields : List (Bytes × Option Bytes)) :
    printed (authFieldsWrite false fields) =
        some ((presentFields fields).map fun param => 0x2c :: 0x20 :: paramText param).flatten ∧
      printed (authFieldsWrite true fields) = some (paramsText (presentFields fields)) := by
  induction fields with
  | nil => exact ⟨rfl, rfl⟩
  | cons field fields ih =>
      obtain ⟨name, value⟩ := field
      cases value with
      | none =>
          rw [presentFields_cons_none]
          exact ih
      | some value =>
          rw [presentFields_cons_some]
          simp only [authFieldsWrite, Bool.false_eq_true, ↓reduceIte, List.cons_append,
            List.nil_append, printed_ok, ih.1, Option.map_some, Option.some.injEq]
          have hseparator : ascii ", " = [0x2c, 0x20] := rfl
          have hopen : ascii "=\"" = [0x3d, 0x22] := rfl
          have hclose : ascii "\"" = [0x22] := rfl
          rw [hseparator, hopen, hclose]
          constructor
          · simp [paramText, quoted]
          · simp [paramsText, paramText, quoted]

/-- The line the writer prints for a header with a response. -/
theorem printed_digest {auth : RtspAuthorizationHeader} (htype : auth.type = .digest)
    {response : Bytes} (hresponse : auth.response = some response) (hne : response ≠ []) :
    printed (rtspAuthorizationHeaderWrite auth) =
      some (ascii "Authorization: " ++
        digestText { auth with opaqueData := nonEmpty auth.opaqueData } ++ rtspCrlf) := by
  have hresponse' : nonEmpty auth.response = some response := by
    simp [nonEmpty, hresponse, hne]
  unfold rtspAuthorizationHeaderWrite
  rw [htype]
  dsimp only
  rw [hresponse']
  dsimp only
  have hfields := (printed_authFieldsWrite
    (digestFields { auth with opaqueData := nonEmpty auth.opaqueData })).2
  unfold digestFields at hfields
  dsimp only at hfields
  rw [hresponse] at hfields
  have hcons (text : Bytes) (ps qs : List Piece) :
      .ok text :: ps ++ qs = .ok text :: (ps ++ qs) := rfl
  rw [printed_ok, hcons, printed_ok, printed_append_some hfields]
  unfold digestText digestFields
  dsimp only
  rw [hresponse]
  have hscheme : rtspAuthTypeStr .digest ++ ascii " " = ascii "Digest " := rfl
  simp [hscheme]

theorem printed_rtspAuthorizationHeaderWrite
    {auth : RtspAuthorizationHeader} (hauth : DigestHeader auth) {response : Bytes}
    (hresponse : auth.response = some response) (hne : response ≠ []) :
    printed (rtspAuthorizationHeaderWrite auth) =
      some (ascii "Authorization: " ++ digestText auth ++ rtspCrlf) := by
  have hdata : nonEmpty auth.opaqueData = auth.opaqueData := by
    cases h : auth.opaqueData with
    | none => rfl
    | some value =>
        have hvalue : value ≠ [] := by
          rintro rfl
          exact hauth.opaqueData h
        simp [nonEmpty, hvalue]
  rw [printed_digest hauth.type hresponse hne, hdata]

/-! ## Reading one parameter -/

/-- What is read of a text between quotes. -/
def unquoted (value : Bytes) : Option Bytes :=
  if value.length + 2 < pathMax then some value else none

theorem stripQuotes_quoted (value : Bytes) :
    stripQuotes (some (quoted value)) = unquoted value := by
  have hlength : (quoted value).length = value.length + 2 := by
    simp [quoted]
  unfold stripQuotes unquoted
  dsimp only
  rw [hlength]
  by_cases hlong : value.length + 2 < pathMax
  · rw [if_neg (by omega), if_pos hlong, if_pos]
    · simp [quoted]
    · refine ⟨by omega, rfl, ?_⟩
      simp [quoted, List.getLast?_cons]
  · rw [if_pos (by omega), if_neg hlong]

def paramRead (auth : RtspAuthorizationHeader) (param : Bytes × Bytes) :
    Except Stop (ForInStep RtspAuthorizationHeader) := do
  let auth ← orFault
    (processAuthorizationKeyVal auth (some param.1) (some (quoted param.2)))
  .ok (.yield auth)

def digestNames : List Bytes :=
  [ascii "username", ascii "realm", ascii "nonce", ascii "uri", ascii "response",
    ascii "algorithm", ascii "opaque", ascii "qop", ascii "cnonce", ascii "nc"]

/-- A parameter of a digest whose value has no comma. -/
structure PlainParam (param : Bytes × Bytes) : Prop where
  named : param.1 ∈ digestNames
  noComma : 0x2c ∉ param.2

theorem digestNames_plain {name : Bytes} (hname : name ∈ digestNames) :
    name ≠ [] ∧ skipSpaces name = name ∧ 0x3d ∉ name ∧ 0x2c ∉ name := by
  have hall : ∀ name ∈ digestNames,
      name ≠ [] ∧ skipSpaces name = name ∧ 0x3d ∉ name ∧ 0x2c ∉ name := by
    decide +kernel
  exact hall name hname

theorem parseDigestAuthParam_paramText
    {param : Bytes × Bytes} (hparam : PlainParam param) (auth : RtspAuthorizationHeader)
    (count : Nat) :
    parseDigestAuthParam auth (List.replicate count 0x20 ++ paramText param) =
      paramRead auth param := by
  obtain ⟨hne, hskip, hequal, -⟩ := digestNames_plain hparam.named
  have hkey : skipSpaces (List.replicate count 0x20 ++ param.1) = param.1 := by
    unfold skipSpaces at hskip ⊢
    rw [List.dropWhile_append_of_pos (by simp), hskip]
  have hvalue : skipSpaces (quoted param.2) = quoted param.2 := by
    unfold skipSpaces quoted
    rw [List.dropWhile_cons_of_neg (by decide)]
  have hnot : (0x3d : UInt8) ∉ List.replicate count 0x20 ++ param.1 := by
    simp [hequal]
  obtain ⟨hfirst, hrest⟩ := keyValue_tokens (List.replicate count 0x20 ++ param.1)
    (by simp [hne]) hnot (quoted param.2) (by simp [quoted])
  unfold parseDigestAuthParam paramRead paramText equalSign
  rw [← List.append_assoc]
  simp only [strtokR_some, strtokR_none_some, orFault_ok, except_ok_bind, hfirst, hrest, hkey,
    hvalue, Option.map_some]

theorem paramText_isToken {param : Bytes × Bytes} (hparam : PlainParam param) (count : Nat) :
    IsToken comma (List.replicate count 0x20 ++ paramText param) := by
  constructor
  · simp [paramText]
  · intro b hb
    unfold comma
    rw [List.mem_singleton]
    rintro rfl
    simp [paramText, quoted, hparam.noComma, (digestNames_plain hparam.named).2.2.2] at hb

/-- The parameters are cut at the commas the writer has put between them. -/
theorem visit_paramsText
    {params : List (Bytes × Bytes)} (hparams : ∀ param ∈ params, PlainParam param)
    (auth : RtspAuthorizationHeader) :
    visit parseDigestAuthParam (tokens comma (paramsText params)) auth =
      visit paramRead params auth := by
  have hcomma : (0x2c : UInt8) ∈ comma := by simp [comma]
  have htail : ∀ params : List (Bytes × Bytes), (∀ param ∈ params, PlainParam param) → ∀ auth,
      visit parseDigestAuthParam
        (tokens comma (params.map fun param => 0x2c :: 0x20 :: paramText param).flatten) auth =
          visit paramRead params auth := by
    intro params
    induction params with
    | nil =>
        intro _ _
        rfl
    | cons param params ih =>
        intro hparams auth
        have hparam := hparams param (by simp)
        have hrest : AtDelimiter comma
            (params.map fun param => 0x2c :: 0x20 :: paramText param).flatten := by
          cases params with
          | nil => exact atDelimiter_nil
          | cons _ _ => exact atDelimiter_cons.mpr hcomma
        have hspaced := paramText_isToken hparam 1
        have hread := parseDigestAuthParam_paramText hparam auth 1
        rw [List.map_cons, List.flatten_cons, List.cons_append, tokens_delimiter hcomma]
        rw [show 0x20 :: paramText param = List.replicate 1 0x20 ++ paramText param from rfl,
          tokens_token hspaced hrest]
        simp only [visit, hread]
        rcases paramRead auth param with stop | (auth' | auth')
        · rfl
        · rfl
        · exact ih (fun param h => hparams param (by simp [h])) auth'
  cases params with
  | nil => rfl
  | cons param params =>
      have hparam := hparams param (by simp)
      have hrest : AtDelimiter comma
          (params.map fun param => 0x2c :: 0x20 :: paramText param).flatten := by
        cases params with
        | nil => exact atDelimiter_nil
        | cons _ _ => exact atDelimiter_cons.mpr hcomma
      have htoken := paramText_isToken hparam 0
      have hread := parseDigestAuthParam_paramText hparam auth 0
      rw [List.replicate_zero, List.nil_append] at htoken hread
      unfold paramsText
      rw [tokens_token htoken hrest]
      simp only [visit, hread]
      rcases paramRead auth param with stop | (auth' | auth')
      · rfl
      · rfl
      · exact htail params (fun param h => hparams param (by simp [h])) auth'

/-! ## Reading a whole header -/

/-- A parameter that is there sets its field, one that is not leaves it unset. -/
theorem visit_presentFields_cons
    {name : Bytes} (value : Option Bytes) (fields : List (Bytes × Option Bytes))
    (set : Option Bytes → RtspAuthorizationHeader → RtspAuthorizationHeader)
    (hset : ∀ auth value, processAuthorizationKeyVal auth (some name) value =
      .ok (set (stripQuotes value) auth))
    {auth : RtspAuthorizationHeader} (hunset : set none auth = auth) :
    visit paramRead (presentFields ((name, value) :: fields)) auth =
      visit paramRead (presentFields fields) (set (value.bind unquoted) auth) := by
  cases value with
  | none =>
      rw [presentFields_cons_none, Option.bind_none, hunset]
  | some value =>
      rw [presentFields_cons_some]
      simp only [visit, paramRead, hset, orFault_ok, except_ok_bind, stripQuotes_quoted,
        Option.bind_some]

/-- What the reader keeps of a header none of whose texts has a comma. -/
def heldBack (auth : RtspAuthorizationHeader) : RtspAuthorizationHeader :=
  { auth with
    username := auth.username.bind unquoted
    realm := auth.realm.bind unquoted
    nonce := auth.nonce.bind unquoted
    uri := auth.uri.bind unquoted
    response := auth.response.bind unquoted
    opaqueData := auth.opaqueData.bind unquoted
    cnonce := auth.cnonce.bind unquoted }

theorem ncRead_rtspAuthNcStr (auth : RtspAuthorizationHeader) (nc : UInt32) :
    ncRead auth (some (quoted (rtspAuthNcStr nc))) = { auth with nc } := by
  have hspells := spells_formatHex_lower 8 nc.toNat
  have hbound : nc.toNat < 16 ^ 8 := nc.toNat_lt
  have hlength : (rtspAuthNcStr nc).length + 2 < pathMax := by
    unfold rtspAuthNcStr
    rw [List.length_map, formatHex_length (by decide) hbound]
    decide
  have hparsed := strtoul_spells (by decide) hspells pastDigits_nil (by simp)
    (show nc.toNat < 2 ^ 64 by omega)
  rw [List.append_nil] at hparsed
  unfold ncRead
  rw [stripQuotes_quoted, unquoted, if_pos hlength]
  dsimp only
  unfold rtspAuthNcStr
  rw [hparsed]
  have hvalue : (UInt64.ofNat nc.toNat).toNat = nc.toNat := by
    rw [UInt64.toNat_ofNat_of_lt' (by change nc.toNat < 2 ^ 64; omega)]
  have hnc : (UInt64.ofNat nc.toNat).toUInt32 = nc := by
    apply UInt32.toNat_inj.mp
    rw [UInt64.toNat_toUInt32, hvalue]
    omega
  dsimp only
  rw [if_neg, hnc]
  rw [hvalue]
  simp only [Bool.false_eq_true, ne_eq, not_true_eq_false, or_false, false_or]
  omega

theorem rtspAuthAlgorithmFromStr_str {algorithm : RtspAuthAlgorithm}
    (h : algorithm ≠ .unknown) :
    rtspAuthAlgorithmFromStr ((rtspAuthAlgorithmStr algorithm).bind unquoted) = algorithm := by
  cases algorithm with
  | unknown => exact absurd rfl h
  | unspecified => rfl
  | md5 => rfl
  | md5Sess => rfl

theorem visit_digestFields {auth : RtspAuthorizationHeader} (hauth : DigestHeader auth) :
    visit paramRead (presentFields (digestFields auth)) { type := .digest } =
      .ok (.yield (heldBack auth)) := by
  obtain ⟨type, algorithm, username, uri, response, cnonce, nc, credentials, realm, nonce,
    opaqueData, qop⟩ := auth
  obtain rfl : type = .digest := hauth.type
  obtain rfl : credentials = none := hauth.credentials
  have halgorithm := rtspAuthAlgorithmFromStr_str hauth.algorithm
  unfold digestFields
  dsimp only at halgorithm
  simp only [List.cons_append, List.nil_append]
  rw [visit_presentFields_cons _ _ (fun value auth => { auth with username := value })
      (fun _ _ => rfl) rfl,
    visit_presentFields_cons _ _ (fun value auth => { auth with realm := value })
      (fun _ _ => rfl) rfl,
    visit_presentFields_cons _ _ (fun value auth => { auth with nonce := value })
      (fun _ _ => rfl) rfl,
    visit_presentFields_cons _ _ (fun value auth => { auth with uri := value })
      (fun _ _ => rfl) rfl,
    visit_presentFields_cons _ _ (fun value auth => { auth with response := value })
      (fun _ _ => rfl) rfl,
    visit_presentFields_cons _ _
      (fun value auth => { auth with algorithm := rtspAuthAlgorithmFromStr value })
      (fun _ _ => rfl) rfl,
    visit_presentFields_cons _ _ (fun value auth => { auth with opaqueData := value })
      (fun _ _ => rfl) rfl]
  simp only [halgorithm]
  -- The last three parameters are only there under a quality of protection.
  have hquality : ∀ qop, (rtspAuthQopStr qop).isSome →
      rtspAuthQopFromStr ((rtspAuthQopStr qop).bind unquoted) = qop := by
    intro qop h
    cases qop with
    | unknown => simp [rtspAuthQopStr] at h
    | unspecified => simp [rtspAuthQopStr] at h
    | auth => rfl
    | authInt => rfl
  by_cases hqop : (rtspAuthQopStr qop).isSome
  · rw [if_pos hqop, visit_presentFields_cons _ _
        (fun value auth => { auth with qop := rtspAuthQopFromStr value }) (fun _ _ => rfl) rfl,
      visit_presentFields_cons _ _ (fun value auth => { auth with cnonce := value })
        (fun _ _ => rfl) rfl, hquality qop hqop, presentFields_cons_some]
    have hread : ∀ auth : RtspAuthorizationHeader,
        paramRead auth (ascii "nc", rtspAuthNcStr nc) = .ok (.yield { auth with nc }) := by
      intro auth
      rw [← ncRead_rtspAuthNcStr]
      rfl
    simp only [visit, hread]
    rfl
  · have hnone : qop = .unspecified := by
      have hknown := hauth.qop
      cases qop with
      | unknown => exact absurd rfl hknown
      | unspecified => rfl
      | auth => exact absurd rfl hqop
      | authInt => exact absurd rfl hqop
    subst hnone
    obtain ⟨rfl, rfl⟩ : cnonce = none ∧ nc = 0 := hauth.count rfl
    rw [if_neg hqop]
    rfl

/-- A property of the texts of a header, field by field. -/
structure EachText (Q : Bytes → Prop) (auth : RtspAuthorizationHeader) : Prop where
  username : ∀ value ∈ auth.username, Q value
  realm : ∀ value ∈ auth.realm, Q value
  nonce : ∀ value ∈ auth.nonce, Q value
  uri : ∀ value ∈ auth.uri, Q value
  response : ∀ value ∈ auth.response, Q value
  opaqueData : ∀ value ∈ auth.opaqueData, Q value
  cnonce : ∀ value ∈ auth.cnonce, Q value

theorem eachText_iff {Q : Bytes → Prop} {auth : RtspAuthorizationHeader} :
    EachText Q auth ↔ ∀ value ∈ quotedTexts auth, Q value := by
  unfold quotedTexts
  constructor
  · intro h value hvalue
    obtain ⟨field, hfield, hsome⟩ := List.mem_filterMap.mp hvalue
    have hsome : field = some value := hsome
    subst hsome
    simp only [List.mem_cons, List.not_mem_nil, or_false] at hfield
    rcases hfield with hfield | hfield | hfield | hfield | hfield | hfield | hfield
    · exact h.username value hfield.symm
    · exact h.realm value hfield.symm
    · exact h.nonce value hfield.symm
    · exact h.uri value hfield.symm
    · exact h.response value hfield.symm
    · exact h.opaqueData value hfield.symm
    · exact h.cnonce value hfield.symm
  · intro h
    have hfields : ∀ field ∈ [auth.username, auth.realm, auth.nonce, auth.uri, auth.response,
        auth.opaqueData, auth.cnonce], ∀ value ∈ field, Q value :=
      fun field hfield value hvalue => h value (List.mem_filterMap.mpr ⟨field, hfield, hvalue⟩)
    simp only [List.forall_mem_cons, List.not_mem_nil, false_implies, implies_true,
      and_true] at hfields
    obtain ⟨husername, hrealm, hnonce, huri, hresponse, hdata, hcnonce⟩ := hfields
    exact ⟨husername, hrealm, hnonce, huri, hresponse, hdata, hcnonce⟩

theorem digestFields_names {auth : RtspAuthorizationHeader} {field : Bytes × Option Bytes}
    (hfield : field ∈ digestFields auth) : field.1 ∈ digestNames := by
  have hfirst : (digestFields auth).map Prod.fst <+: digestNames := by
    unfold digestFields
    split
    next => exact List.prefix_rfl
    next => exact ⟨[ascii "qop", ascii "cnonce", ascii "nc"], rfl⟩
  exact hfirst.subset (List.mem_map_of_mem hfield)

/-- What is written are the texts of the header, two fixed words and a number. -/
theorem digestFields_values {Q : Bytes → Prop} {auth : RtspAuthorizationHeader}
    (htexts : ∀ value ∈ quotedTexts auth, Q value)
    (halgorithm : ∀ value ∈ rtspAuthAlgorithmStr auth.algorithm, Q value)
    (hqop : ∀ value ∈ rtspAuthQopStr auth.qop, Q value) (hnc : Q (rtspAuthNcStr auth.nc)) :
    ∀ field ∈ digestFields auth, ∀ value ∈ field.2, Q value := by
  have h := eachText_iff.mpr htexts
  unfold digestFields
  split
  next =>
    simp only [List.cons_append, List.nil_append, List.forall_mem_cons]
    exact ⟨h.username, h.realm, h.nonce, h.uri, h.response, halgorithm, h.opaqueData, hqop,
      h.cnonce, by simpa using hnc, by simp⟩
  next =>
    simp only [List.append_nil, List.forall_mem_cons]
    exact ⟨h.username, h.realm, h.nonce, h.uri, h.response, halgorithm, h.opaqueData, by simp⟩

theorem mem_presentFields {name value : Bytes} {fields : List (Bytes × Option Bytes)} :
    (name, value) ∈ presentFields fields ↔ (name, some value) ∈ fields := by
  unfold presentFields
  rw [List.mem_filterMap]
  constructor
  · rintro ⟨⟨name', value'⟩, hmem, hfield⟩
    obtain ⟨value'', hvalue, hpair⟩ := Option.map_eq_some_iff.mp hfield
    cases hpair
    rwa [← hvalue]
  · intro hmem
    exact ⟨_, hmem, rfl⟩

theorem digestFields_plain {auth : RtspAuthorizationHeader}
    (hfree : ∀ value ∈ quotedTexts auth, 0x2c ∉ value) :
    ∀ param ∈ presentFields (digestFields auth), PlainParam param := by
  have hnc : (0x2c : UInt8) ∉ rtspAuthNcStr auth.nc := by
    intro hmem
    have hdigit := (spells_formatHex_lower 8 auth.nc.toNat).digits 0x2c hmem
    exact absurd hdigit (by decide)
  have halgorithm : ∀ value ∈ rtspAuthAlgorithmStr auth.algorithm, 0x2c ∉ value := by
    cases auth.algorithm <;> decide +kernel
  have hqop : ∀ value ∈ rtspAuthQopStr auth.qop, 0x2c ∉ value := by
    cases auth.qop <;> decide +kernel
  intro param hparam
  have hfield := mem_presentFields.mp hparam
  exact ⟨digestFields_names hfield,
    digestFields_values hfree halgorithm hqop hnc _ hfield param.2 rfl⟩

theorem stripQuotes_without {c : UInt8} {value : Option Bytes} (hvalue : ∀ v ∈ value, c ∉ v) :
    ∀ v ∈ stripQuotes value, c ∉ v := by
  intro v hv
  unfold stripQuotes at hv
  split at hv
  next => simp at hv
  next s =>
    have hs := hvalue s rfl
    split at hv
    next => simp at hv
    next =>
      split at hv
      next =>
        rw [Option.mem_some_iff] at hv
        subst hv
        exact fun hmem => hs (List.mem_of_mem_drop (List.mem_of_mem_take hmem))
      next =>
        rw [Option.mem_some_iff] at hv
        exact hv ▸ hs

/-- One of two branches gives the result. -/
theorem of_ite_eq {α : Type} {c : Prop} [Decidable c] {x y r : α} {P : Prop}
    (h : (if c then x else y) = r) (hx : x = r → P) (hy : y = r → P) : P := by
  split at h
  next => exact hx h
  next => exact hy h

theorem ncRead_without {c : UInt8} {auth : RtspAuthorizationHeader} {value : Option Bytes}
    (hauth : EachText (c ∉ ·) auth) : EachText (c ∉ ·) (ncRead auth value) := by
  unfold ncRead
  split
  next => exact hauth
  next =>
    dsimp only
    split
    next => exact hauth
    next => exact { hauth with }

theorem processAuthorizationKeyVal_without
    {c : UInt8} {auth auth' : RtspAuthorizationHeader} {key value : Option Bytes}
    (hauth : EachText (c ∉ ·) auth) (hvalue : ∀ v ∈ value, c ∉ v)
    (h : processAuthorizationKeyVal auth key value = .ok auth') : EachText (c ∉ ·) auth' := by
  have hstrip := stripQuotes_without hvalue
  cases key with
  | none => exact absurd h (by simp [processAuthorizationKeyVal, strcmpPtr])
  | some key =>
      unfold processAuthorizationKeyVal at h
      simp only [strcmpPtr_some, except_ok_bind] at h
      refine of_ite_eq h (fun h => ?_) fun h => ?_
      · exact Except.ok.inj h ▸ { hauth with username := hstrip }
      refine of_ite_eq h (fun h => ?_) fun h => ?_
      · exact Except.ok.inj h ▸ { hauth with realm := hstrip }
      refine of_ite_eq h (fun h => ?_) fun h => ?_
      · exact Except.ok.inj h ▸ { hauth with nonce := hstrip }
      refine of_ite_eq h (fun h => ?_) fun h => ?_
      · exact Except.ok.inj h ▸ { hauth with uri := hstrip }
      refine of_ite_eq h (fun h => ?_) fun h => ?_
      · exact Except.ok.inj h ▸ { hauth with response := hstrip }
      refine of_ite_eq h (fun h => ?_) fun h => ?_
      · exact Except.ok.inj h ▸ { hauth with }
      refine of_ite_eq h (fun h => ?_) fun h => ?_
      · exact Except.ok.inj h ▸ { hauth with opaqueData := hstrip }
      refine of_ite_eq h (fun h => ?_) fun h => ?_
      · exact Except.ok.inj h ▸ { hauth with }
      refine of_ite_eq h (fun h => ?_) fun h => ?_
      · exact Except.ok.inj h ▸ { hauth with cnonce := hstrip }
      refine of_ite_eq h (fun h => ?_) fun h => ?_
      · exact Except.ok.inj h ▸ ncRead_without hauth
      · exact Except.ok.inj h ▸ hauth

theorem parseDigestAuthParam_without
    {c : UInt8} {auth : RtspAuthorizationHeader} {param : Bytes}
    {result : ForInStep RtspAuthorizationHeader}
    (hauth : EachText (c ∉ ·) auth) (hparam : c ∉ param)
    (h : parseDigestAuthParam auth param = .ok result) :
    EachText (c ∉ ·) (collected result) := by
  have hval : ∀ v ∈ (firstToken [] (afterToken equalSign param)).map skipSpaces, c ∉ v := by
    intro v hv
    obtain ⟨val, hval, rfl⟩ := Option.map_eq_some_iff.mp hv
    intro hmem
    have hmem' : c ∈ val := (List.dropWhile_suffix _).subset hmem
    exact hparam (mem_of_afterToken (mem_of_firstToken hval hmem'))
  unfold parseDigestAuthParam at h
  simp only [strtokR_some, strtokR_none_some, orFault_ok, except_ok_bind] at h
  split at h
  next =>
    cases h
    exact hauth
  next _ key _ =>
    cases hread : processAuthorizationKeyVal auth (some (skipSpaces key))
        ((firstToken [] (afterToken equalSign param)).map skipSpaces) with
    | error fault => simp [hread] at h
    | ok auth' =>
        rw [hread] at h
        cases h
        exact processAuthorizationKeyVal_without hauth hval hread

theorem visit_parseDigestAuthParam_without
    {c : UInt8} {params : List Bytes} {auth : RtspAuthorizationHeader}
    {result : ForInStep RtspAuthorizationHeader} (hauth : EachText (c ∉ ·) auth)
    (hparams : ∀ param ∈ params, c ∉ param)
    (h : visit parseDigestAuthParam params auth = .ok result) :
    EachText (c ∉ ·) (collected result) := by
  induction params generalizing auth with
  | nil =>
      cases h
      exact hauth
  | cons param params ih =>
      rw [visit] at h
      have hparam := hparams param (by simp)
      split at h
      next => simp at h
      next auth' hstep =>
        cases h
        exact parseDigestAuthParam_without hauth hparam hstep
      next auth' hstep =>
        have hauth' := parseDigestAuthParam_without hauth hparam hstep
        exact ih hauth' (fun param hmem => hparams param (by simp [hmem])) h

/-- The scheme is cut from the parameters. -/
theorem rtspAuthorizationHeaderRead_digest (params : List (Bytes × Bytes)) :
    rtspAuthorizationHeaderRead (ascii "Digest " ++ paramsText params) =
      (visit parseDigestAuthParam (tokens comma (paramsText params)) { type := .digest } >>=
        fun result => .ok (collected result)) := by
  have htoken : IsToken space (ascii "Digest") := by
    constructor
    · decide +kernel
    · decide +kernel
  obtain ⟨hfirst, hafter⟩ :=
    firstToken_token htoken (0x20 :: paramsText params) (by simp [space])
  have htext : ascii "Digest " ++ paramsText params =
      ascii "Digest" ++ 0x20 :: paramsText params := rfl
  unfold rtspAuthorizationHeaderRead
  rw [htext, strtokR_some, hfirst, hafter]
  rfl

example : rtspAuthorizationHeaderRead (ascii "Digest realm=\"a\", nc=00000002") =
    .ok { type := .digest, realm := some (ascii "a"), nc := 2 } := by
  decide +kernel

/-! ## Headers that are read verbatim -/

theorem bind_unquoted_iff {field : Option Bytes} :
    field.bind unquoted = field ↔ ∀ value ∈ field, value.length + 2 < pathMax := by
  cases field with
  | none => simp
  | some value =>
      simp only [Option.bind_some, unquoted, Option.mem_some_iff, forall_eq']
      split
      next hshort => simp [hshort]
      next hlong => simp [hlong]

theorem heldBack_eq_iff {auth : RtspAuthorizationHeader} :
    heldBack auth = auth ↔ ∀ value ∈ quotedTexts auth, value.length + 2 < pathMax := by
  rw [← eachText_iff (Q := fun value => value.length + 2 < pathMax)]
  constructor
  · intro h
    have hfield : ∀ field : RtspAuthorizationHeader → Option Bytes,
        field (heldBack auth) = (field auth).bind unquoted →
          ∀ value ∈ field auth, value.length + 2 < pathMax := by
      intro field hheld
      rw [h] at hheld
      exact bind_unquoted_iff.mp hheld.symm
    exact ⟨hfield (·.username) rfl, hfield (·.realm) rfl, hfield (·.nonce) rfl,
      hfield (·.uri) rfl, hfield (·.response) rfl, hfield (·.opaqueData) rfl,
      hfield (·.cnonce) rfl⟩
  · intro h
    unfold heldBack
    rw [bind_unquoted_iff.mpr h.username, bind_unquoted_iff.mpr h.realm,
      bind_unquoted_iff.mpr h.nonce, bind_unquoted_iff.mpr h.uri,
      bind_unquoted_iff.mpr h.response, bind_unquoted_iff.mpr h.opaqueData,
      bind_unquoted_iff.mpr h.cnonce]

theorem rtspAuthorizationHeaderRead_heldBack {auth : RtspAuthorizationHeader}
    (hauth : DigestHeader auth) (hfree : ∀ value ∈ quotedTexts auth, 0x2c ∉ value) :
    rtspAuthorizationHeaderRead (digestText auth) = .ok (heldBack auth) := by
  unfold digestText
  rw [rtspAuthorizationHeaderRead_digest, visit_paramsText (digestFields_plain hfree),
    visit_digestFields hauth]
  rfl

/-- A digest comes back exactly when none of its texts has a comma and none reaches
`PATH_MAX` with its quotes. -/
theorem rtspAuthorizationHeaderRead_digestText
    {auth : RtspAuthorizationHeader} (hauth : DigestHeader auth) :
    rtspAuthorizationHeaderRead (digestText auth) = .ok auth ↔
      ∀ value ∈ quotedTexts auth, 0x2c ∉ value ∧ value.length + 2 < pathMax := by
  have hread := @rtspAuthorizationHeaderRead_heldBack auth hauth
  have hsplit : rtspAuthorizationHeaderRead (digestText auth) = .ok auth →
      ∀ value ∈ quotedTexts auth, 0x2c ∉ value := by
    intro h
    unfold digestText at h
    rw [rtspAuthorizationHeaderRead_digest] at h
    obtain ⟨result, hvisit, hresult⟩ := except_bind_ok.mp h
    rw [Except.ok.injEq] at hresult
    rw [← eachText_iff, ← hresult]
    refine visit_parseDigestAuthParam_without ?_ ?_ hvisit
    · constructor <;> simp
    · intro param hparam hmem
      exact (tokens_isToken hparam).free _ hmem (by simp [comma])
  constructor
  · intro h
    have hfree := hsplit h
    rw [hread hfree, Except.ok.injEq, heldBack_eq_iff] at h
    exact fun value hvalue => ⟨hfree value hvalue, h value hvalue⟩
  · intro h
    rw [hread fun value hvalue => (h value hvalue).1,
      heldBack_eq_iff.mpr fun value hvalue => (h value hvalue).2]

theorem basicAuthRead_without
    {c : UInt8} {auth auth' : RtspAuthorizationHeader} {param : Bytes}
    (hauth : EachText (c ∉ ·) auth) (hparam : c ∉ param)
    (h : basicAuthRead auth param = .ok auth') : EachText (c ∉ ·) auth' := by
  unfold basicAuthRead at h
  split at h
  next =>
    simp only [strtokR_some, strtokR_none_some, orFault_ok, except_ok_bind] at h
    have hval : ∀ v ∈ firstToken [] (afterToken equalSign param), c ∉ v :=
      fun v hv hmem => hparam (mem_of_afterToken (mem_of_firstToken hv hmem))
    cases hread : processAuthorizationKeyVal auth (firstToken equalSign param)
        (firstToken [] (afterToken equalSign param)) with
    | error fault => simp [hread] at h
    | ok auth'' =>
        rw [hread, orFault_ok, Except.ok.injEq] at h
        exact h ▸ processAuthorizationKeyVal_without hauth hval hread
  next =>
    cases h
    exact { hauth with }

theorem basicAuthRead_realm (realm : Bytes) :
    basicAuthRead { type := .basic } (paramText (ascii "realm", realm)) =
      .ok { type := .basic, realm := unquoted realm } := by
  obtain ⟨hkey, hvalue⟩ := keyValue_tokens (ascii "realm") (d := 0x3d) (by decide +kernel)
    (by decide +kernel) (quoted realm) (by simp [quoted])
  have hrealm : strncasecmpEq (ascii "realm" ++ 0x3d :: quoted realm) (ascii "realm=") 6 = true :=
    rfl
  unfold basicAuthRead paramText equalSign
  dsimp only
  rw [if_pos hrealm, strtokR_some, hkey]
  simp only [orFault_ok, except_ok_bind, strtokR_none_some, hvalue]
  rw [← stripQuotes_quoted]
  rfl

/-- A challenge is cut at its first two spaces. -/
theorem rtspAuthorizationHeaderRead_basic (text : Bytes) :
    rtspAuthorizationHeaderRead (ascii "Basic " ++ text) =
      match firstToken space text with
      | none => .error (.errno .eproto)
      | some param => basicAuthRead { type := .basic } param := by
  have htoken : IsToken space (ascii "Basic") := by
    constructor
    · decide +kernel
    · decide +kernel
  obtain ⟨hfirst, hafter⟩ := firstToken_token htoken (0x20 :: text) (by simp [space])
  have htext : ascii "Basic " ++ text = ascii "Basic" ++ 0x20 :: text := rfl
  unfold rtspAuthorizationHeaderRead
  rw [htext, strtokR_some, hfirst, hafter]
  simp only [orFault_ok, except_ok_bind, List.drop_one, List.tail_cons]
  rw [if_pos (by rfl), strtokR_none_some]
  rfl

example : rtspAuthorizationHeaderRead (ascii "Basic realm=\"a\" realm=\"b\"") =
    .ok { type := .basic, realm := some (ascii "a") } := by
  decide +kernel

/-- A challenge comes back exactly when its realm has no space and does not reach
`PATH_MAX` with its quotes. -/
theorem rtspAuthorizationHeaderRead_basicText (realm : Bytes) :
    rtspAuthorizationHeaderRead (basicText realm) =
        .ok { type := .basic, realm := some realm } ↔
      0x20 ∉ realm ∧ realm.length + 2 < pathMax := by
  have hread : 0x20 ∉ realm → rtspAuthorizationHeaderRead (basicText realm) =
      .ok { type := .basic, realm := unquoted realm } := by
    intro hfree
    have htoken : IsToken space (paramText (ascii "realm", realm)) := by
      constructor
      · simp [paramText]
      · intro b hb
        unfold space
        rw [List.mem_singleton]
        rintro rfl
        have hname : (0x20 : UInt8) ∉ ascii "realm" := by decide +kernel
        simp [paramText, quoted, hname, hfree] at hb
    have hfirst := (firstToken_token htoken [] atDelimiter_nil).1
    rw [List.append_nil] at hfirst
    unfold basicText
    rw [rtspAuthorizationHeaderRead_basic, hfirst]
    exact basicAuthRead_realm realm
  have hsplit : rtspAuthorizationHeaderRead (basicText realm) =
      .ok { type := .basic, realm := some realm } → 0x20 ∉ realm := by
    intro h
    unfold basicText at h
    rw [rtspAuthorizationHeaderRead_basic] at h
    split at h
    next => simp at h
    next param hparam =>
      have hfree : (0x20 : UInt8) ∉ param := by
        have htoken : param ∈ tokens space (paramText (ascii "realm", realm)) := by
          rw [tokens_first, hparam]
          simp
        exact fun hmem => (tokens_isToken htoken).free _ hmem (by simp [space])
      have htexts := basicAuthRead_without (by constructor <;> simp) hfree h
      exact htexts.realm realm rfl
  constructor
  · intro h
    have hfree := hsplit h
    rw [hread hfree] at h
    have hrealm : (some realm).bind unquoted = some realm :=
      congrArg RtspAuthorizationHeader.realm (Except.ok.inj h)
    exact ⟨hfree, bind_unquoted_iff.mp hrealm realm rfl⟩
  · rintro ⟨hfree, hshort⟩
    rw [hread hfree, unquoted, if_pos hshort]

/-- Quoted parameters come back as they stand exactly when none of them has the byte
the reader cuts at and none reaches `PATH_MAX` with its quotes; the text of a digest with
a response is what the writer prints. -/
theorem quotedParameters_verbatim_iff
    {auth : RtspAuthorizationHeader} (hauth : DigestHeader auth) {realm : Bytes}
    (_ : QuotedText realm) :
    (rtspAuthorizationHeaderRead (digestText auth) = .ok auth ↔
      ∀ value ∈ quotedTexts auth, 0x2c ∉ value ∧ value.length + 2 < pathMax) ∧
    (rtspAuthorizationHeaderRead (basicText realm) =
        .ok { type := .basic, realm := some realm } ↔
      0x20 ∉ realm ∧ realm.length + 2 < pathMax) ∧
    ∀ response, auth.response = some response → response ≠ [] →
      printed (rtspAuthorizationHeaderWrite auth) =
        some (ascii "Authorization: " ++ digestText auth ++ rtspCrlf) := by
  refine ⟨?_, ?_, ?_⟩
  · exact rtspAuthorizationHeaderRead_digestText hauth
  · exact rtspAuthorizationHeaderRead_basicText realm
  · intro response hresponse hne
    exact printed_rtspAuthorizationHeaderWrite hauth hresponse hne

/-- A digest for a URL whose path has a comma. -/
def commaDigest : RtspAuthorizationHeader :=
  { type := .digest, username := some (ascii "u"), uri := some (ascii "rtsp://h/p,q")
    response := some (ascii "r") }

theorem commaDigest_header : DigestHeader commaDigest where
  type := rfl
  credentials := rfl
  algorithm := by decide
  opaqueData := by decide
  qop := by decide
  count := fun _ => ⟨rfl, rfl⟩
  texts := by
    have hall : ∀ value ∈ quotedTexts commaDigest,
        (∀ b ∈ value, b ≠ 0 ∧ b ≠ 0x0d ∧ b ≠ 0x0a ∧ b ≠ 0x22) ∧ value.length < pathMax := by
      decide +kernel
    exact fun value hvalue => ⟨(hall value hvalue).1, (hall value hvalue).2⟩

theorem quotedParameters_verbatim_commaDigest :
    ¬ rtspAuthorizationHeaderRead (digestText commaDigest) = .ok commaDigest ∧
      rtspAuthorizationHeaderRead (basicText (ascii "a,b")) =
        .ok { type := .basic, realm := some (ascii "a,b") } ∧
      printed (rtspAuthorizationHeaderWrite commaDigest) =
        some (ascii "Authorization: " ++ digestText commaDigest ++ rtspCrlf) := by
  have hrealm : QuotedText (ascii "a,b") := ⟨by decide +kernel, by decide +kernel⟩
  obtain ⟨hdigest, hbasic, hwrite⟩ := quotedParameters_verbatim_iff commaDigest_header hrealm
  refine ⟨?_, hbasic.mpr (by decide +kernel), hwrite (ascii "r") rfl (by decide +kernel)⟩
  rw [hdigest]
  decide +kernel

/-- The comma may stand in the path of a URL, and the reader cuts the parameter there. -/
theorem commaDigest_cut :
    DigestHeader commaDigest ∧ (ascii "/p,q").all isValidRtspPathChar = true ∧
      rtspAuthorizationHeaderRead (digestText commaDigest) =
        .ok { commaDigest with uri := some (ascii "\"rtsp://h/p") } ∧
      rtspAuthorizationHeaderRead (digestText commaDigest) ≠ .ok commaDigest := by
  refine ⟨commaDigest_header, by decide +kernel, ?_, ?_⟩
  · decide +kernel
  · decide +kernel

end Librtsp
