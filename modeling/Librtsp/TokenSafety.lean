import Librtsp.HeaderRead

/-!
# Absent tokens in the header readers

The readers look whether a token is there before they use it, with one
exception: an `interleaved` parameter of a `Transport` field is tokenised
whether or not it has a value.  Without a value the tokeniser continues from a
save pointer that was never set.  The readers fault on exactly the headers
where the `Transport` reader reaches such a parameter.
-/

namespace Librtsp

open CString

/-- The reader used an absent token. -/
def Faults {α : Type} (x : Except Stop α) : Prop :=
  ∃ f, x = .error (.fault f)

/-- The loop body asks for the next token. -/
def GoesOn {σ : Type} (x : Except Stop (ForInStep σ)) : Prop :=
  ∃ s, x = .ok (.yield s)

@[simp] theorem not_faults_ok {α : Type} (a : α) : ¬ Faults (.ok a : Except Stop α) := by
  simp [Faults]

@[simp] theorem not_faults_errno {α : Type} (e : Errno) :
    ¬ Faults (.error (.errno e) : Except Stop α) := by
  simp [Faults]

theorem not_faults_bind {α β : Type} {x : Except Stop α} {f : α → Except Stop β}
    (hx : ¬ Faults x) (hf : ∀ a, ¬ Faults (f a)) : ¬ Faults (x >>= f) := by
  cases x with
  | ok a => exact hf a
  | error stop =>
      rintro ⟨fault, h⟩
      exact hx ⟨fault, by simpa using h⟩

theorem faults_bind_ok {α β : Type} {x : Except Stop α} {f : α → β} :
    Faults (x >>= fun a => .ok (f a)) ↔ Faults x := by
  cases x with
  | ok a => simp
  | error stop => simp [Faults]

theorem not_faults_ite {α : Type} {c : Prop} [Decidable c] {x y : Except Stop α}
    (hx : c → ¬ Faults x) (hy : ¬ Faults y) : ¬ Faults (if c then x else y) := by
  split
  next hc => exact hx hc
  next => exact hy

section Visit

variable {σ τ : Type} {step : σ → τ → Except Stop (ForInStep σ)}

theorem not_faults_visit (hstep : ∀ s t, ¬ Faults (step s t)) (ts : List τ) (s : σ) :
    ¬ Faults (visit step ts s) := by
  rintro ⟨f, h⟩
  obtain ⟨before, t, after, s', -, -, hfail⟩ := visit_error_iff.mp h
  exact hstep s' t ⟨f, hfail⟩

/-- Where the body only faults or goes on, and which of the two does not depend
on the state, a visit faults exactly when some token makes the body fault. -/
theorem faults_visit_iff (bad : τ → Prop) (hbad : ∀ s t, bad t → Faults (step s t))
    (hgood : ∀ s t, ¬ bad t → GoesOn (step s t)) (ts : List τ) (s : σ) :
    (Faults (visit step ts s) ↔ ∃ t ∈ ts, bad t) ∧
      ((∀ t ∈ ts, ¬ bad t) → GoesOn (visit step ts s)) := by
  induction ts generalizing s with
  | nil => exact ⟨by simp [visit], fun _ => ⟨s, rfl⟩⟩
  | cons t ts ih =>
      by_cases ht : bad t
      · obtain ⟨f, hf⟩ := hbad s t ht
        refine ⟨⟨fun _ => ⟨t, by simp, ht⟩, fun _ => ⟨f, ?_⟩⟩, ?_⟩
        · simp [visit, hf]
        · intro hall
          exact absurd ht (hall t (by simp))
      · obtain ⟨s', hs'⟩ := hgood s t ht
        have hvisit : visit step (t :: ts) s = visit step ts s' := by simp [visit, hs']
        rw [hvisit]
        refine ⟨?_, fun hall => (ih s').2 fun t' ht' => hall t' (by simp [ht'])⟩
        rw [(ih s').1]
        simp [ht]

end Visit

/-! ## Sub-readers that always look -/

theorem processAuthorizationKeyVal_some
    (auth : RtspAuthorizationHeader) (key : Bytes) (val : Option Bytes) :
    ∃ auth', processAuthorizationKeyVal auth (some key) val = .ok auth' := by
  simp only [processAuthorizationKeyVal, strcmpPtr_some, except_ok_bind]
  repeat' split
  all_goals exact ⟨_, rfl⟩

theorem parseDigestAuthParam_not_faults (auth : RtspAuthorizationHeader) (param : Bytes) :
    ¬ Faults (parseDigestAuthParam auth param) := by
  simp only [parseDigestAuthParam, strtokR_some, strtokR_none_some, orFault_ok,
    except_ok_bind]
  split
  next => simp
  next key _ =>
    obtain ⟨auth', hauth⟩ := processAuthorizationKeyVal_some auth (skipSpaces key)
      ((firstToken [] (afterToken equalSign param)).map skipSpaces)
    simp [hauth]

/-- A parameter that starts with `realm=` has a key. -/
theorem firstToken_realm {param : Bytes} (h : strncasecmpEq param (ascii "realm=") 6) :
    ∃ key, firstToken equalSign param = some key := by
  cases param with
  | nil => exact absurd h (by decide)
  | cons b rest =>
      have hb : toLower b = toLower 0x72 := by
        simp only [strncasecmpEq, strcasecmpEq, beq_iff_eq, List.take_succ_cons,
          List.map_cons] at h
        exact (List.cons.inj h).1
      have hne : equalSign.contains b = false := by
        by_contra hcontains
        simp only [equalSign, List.contains_cons, List.contains_nil, Bool.or_false,
          Bool.not_eq_false, beq_iff_eq] at hcontains
        subst hcontains
        exact absurd hb (by decide)
      simp only [firstToken, strtok, List.dropWhile_cons, hne, Bool.false_eq_true,
        ↓reduceIte, Option.map_some]
      exact ⟨_, rfl⟩

theorem basicAuthRead_not_faults (auth : RtspAuthorizationHeader) (param : Bytes) :
    ¬ Faults (basicAuthRead auth param) := by
  unfold basicAuthRead
  split
  next hrealm =>
    obtain ⟨key, hkey⟩ := firstToken_realm hrealm
    obtain ⟨auth', hauth⟩ := processAuthorizationKeyVal_some auth key
      (firstToken [] (afterToken equalSign param))
    simp [hkey, hauth]
  next => simp

theorem rtspAuthorizationHeaderRead_not_faults (str : Bytes) :
    ¬ Faults (rtspAuthorizationHeaderRead str) := by
  simp only [rtspAuthorizationHeaderRead, strtokR_some, strtokR_none_some, orFault_ok,
    except_ok_bind]
  split
  next => simp
  next token _ =>
    split
    next =>
      split
      next => simp
      next param _ => exact basicAuthRead_not_faults _ param
    next =>
      split
      next =>
        rw [faults_bind_ok]
        exact not_faults_visit parseDigestAuthParam_not_faults _ _
      next => simp

theorem rtpInfoParamRead_not_faults (rtpi : RtspRtpInfoHeader) (param : Bytes) :
    ¬ Faults (rtpInfoParamRead rtpi param) := by
  simp only [rtpInfoParamRead, strtokR_some, strtokR_none_some, orFault_ok, except_ok_bind]
  repeat' split
  all_goals simp

theorem rtpInfoEntryRead_not_faults (rtpInfo : List RtspRtpInfoHeader) (rtpiStr : Bytes) :
    ¬ Faults (rtpInfoEntryRead rtpInfo rtpiStr) := by
  simp only [rtpInfoEntryRead, strtokR_some, strtokR_none_some, orFault_ok, except_ok_bind]
  split
  next => simp
  next param _ =>
    split
    next key val _ _ =>
      split
      next => simp
      next =>
        refine not_faults_bind (not_faults_visit rtpInfoParamRead_not_faults _ _) ?_
        intro result
        cases result with
        | done _ => simp
        | yield _ => simp
    next => simp

theorem rtspRtpInfoHeaderRead_not_faults (str : Bytes) (maxCount : Nat) :
    ¬ Faults (rtspRtpInfoHeaderRead str maxCount) := by
  unfold rtspRtpInfoHeaderRead
  rw [faults_bind_ok]
  refine not_faults_visit ?_ _ _
  intro items entry
  unfold whileRoom
  split
  next => exact rtpInfoEntryRead_not_faults items entry
  next => simp

section Platform

variable (P : Platform)

theorem mapError_errno_not_faults {α : Type} (x : Except Errno α) :
    ¬ Faults (x.mapError Stop.errno) := by
  cases x with
  | ok a => simp [Except.mapError]
  | error e => simp [Except.mapError]

theorem rtspTimeRead_not_faults (str : Bytes) (time : RtspTime) :
    ¬ Faults (rtspTimeRead P str time) := by
  unfold rtspTimeRead
  repeat' split
  all_goals simp

theorem nptRead_not_faults (str : Bytes) : ¬ Faults (nptRead P str) := by
  unfold nptRead
  split
  next => simp
  next => exact rtspTimeRead_not_faults P _ _

theorem rangeTimesRead_not_faults (str : Bytes) : ¬ Faults (rangeTimesRead P str) := by
  unfold rangeTimesRead
  split
  next => simp
  next format times _ =>
    dsimp only
    split
    next =>
      refine not_faults_bind (nptRead_not_faults P _) fun start => ?_
      rw [faults_bind_ok]
      unfold nptStopRead
      split
      next => simp
      next stopStr _ => exact nptRead_not_faults P stopStr
    next =>
      repeat' split
      all_goals simp

theorem rtspRangeHeaderRead_not_faults (str : Bytes) :
    ¬ Faults (rtspRangeHeaderRead P str) := by
  unfold rtspRangeHeaderRead
  split
  next => simp
  next =>
    dsimp only
    refine not_faults_bind (rangeTimesRead_not_faults P _) fun range => ?_
    split
    next => simp
    next =>
      split
      next => simp
      next =>
        split
        next => simp
        next =>
          rw [faults_bind_ok]
          unfold rangeTimeRead
          repeat' split
          all_goals first | simp | exact mapError_errno_not_faults _

end Platform

/-! ## The interleaved parameter -/

/-- A parameter named `interleaved` with nothing after its name. -/
def BareInterleaved (param : Bytes) : Prop :=
  firstToken equalSign param = some (ascii "interleaved") ∧
    firstToken [] (afterToken equalSign param) = none

theorem interleavedRead_some (trsp : RtspTransportHeader) (val : Bytes) :
    ∃ trsp', interleavedRead trsp (some val) = .ok trsp' := by
  simp only [interleavedRead, strtokR_some, except_ok_bind]
  exact ⟨_, rfl⟩

@[simp] theorem interleavedRead_none (trsp : RtspTransportHeader) :
    interleavedRead trsp none = .error .noTokenState := rfl

theorem processTransportKeyVal_bare (trsp : RtspTransportHeader) :
    processTransportKeyVal trsp (ascii "interleaved") none = .error .noTokenState := rfl

theorem exists_ok_ite {ε α : Type} {c : Prop} [Decidable c] (a : α) {x : Except ε α}
    (hx : ∃ b, x = .ok b) : ∃ b, (if c then .ok a else x) = .ok b := by
  split
  · exact ⟨a, rfl⟩
  · exact hx

theorem processTransportKeyVal_ok
    (trsp : RtspTransportHeader) {key : Bytes} {val : Option Bytes}
    (h : key = ascii "interleaved" → val ≠ none) :
    ∃ trsp', processTransportKeyVal trsp key val = .ok trsp' := by
  by_cases hkey : key = ascii "interleaved"
  · obtain ⟨val', rfl⟩ := Option.ne_none_iff_exists'.mp (h hkey)
    subst hkey
    exact interleavedRead_some trsp val'
  · simp only [processTransportKeyVal, hkey, ↓reduceIte]
    repeat refine exists_ok_ite _ ?_
    exact ⟨trsp, rfl⟩

theorem transportParamRead_faults
    (trsp : RtspTransportHeader) {param : Bytes} (h : BareInterleaved param) :
    Faults (transportParamRead trsp param) := by
  refine ⟨.noTokenState, ?_⟩
  simp only [transportParamRead, strtokR_some, strtokR_none_some, orFault_ok,
    except_ok_bind, h.1, h.2, processTransportKeyVal_bare, orFault_error,
    except_error_bind]

theorem transportParamRead_goesOn
    (trsp : RtspTransportHeader) {param : Bytes} (h : ¬ BareInterleaved param) :
    GoesOn (transportParamRead trsp param) := by
  simp only [transportParamRead, strtokR_some, strtokR_none_some, orFault_ok,
    except_ok_bind]
  split
  next => exact ⟨_, rfl⟩
  next key hkey =>
    have hval : key = ascii "interleaved" →
        firstToken [] (afterToken equalSign param) ≠ none :=
      fun hname hval => h ⟨hname ▸ hkey, hval⟩
    obtain ⟨trsp', htrsp⟩ := processTransportKeyVal_ok trsp hval
    rw [htrsp]
    exact ⟨trsp', rfl⟩

/-! ## Transport entries -/

/-- The parameters of an entry, after its transport specification. -/
def entryParams (entry : Bytes) : List Bytes :=
  tokens semicolon (afterToken semicolon entry)

/-- The entry begins with a transport the library supports. -/
def SupportedEntry (entry : Bytes) : Prop :=
  ∃ param trsp, firstToken semicolon entry = some param ∧
    transportSpecRead param = .ok trsp

def HasBareInterleaved (entry : Bytes) : Prop :=
  ∃ param ∈ entryParams entry, BareInterleaved param

theorem transportSpecRead_not_faults (param : Bytes) :
    ¬ Faults (transportSpecRead param) := by
  simp only [transportSpecRead, strtokR_some, strtokR_none_some, orFault_ok,
    except_ok_bind]
  split
  next => simp
  next =>
    split
    next => simp
    next =>
      rw [faults_bind_ok]
      unfold lowerTransportRead
      repeat' split
      all_goals simp

/-- An entry is skipped, faults, is added, or ends the reader with an error. -/
theorem transportEntryRead_cases (items : List RtspTransportHeader) (entry : Bytes) :
    (firstToken semicolon entry = none ∧
        transportEntryRead items entry = .ok (.yield items)) ∨
      (SupportedEntry entry ∧ HasBareInterleaved entry ∧
        Faults (transportEntryRead items entry)) ∨
      (SupportedEntry entry ∧ ¬ HasBareInterleaved entry ∧
        ∃ trsp, transportEntryRead items entry = .ok (.yield (items ++ [trsp]))) ∨
      (¬ SupportedEntry entry ∧ firstToken semicolon entry ≠ none ∧
        ∃ e, transportEntryRead items entry = .error (.errno e)) := by
  simp only [transportEntryRead, strtokR_some, orFault_ok, except_ok_bind]
  cases hparam : firstToken semicolon entry with
  | none => simp
  | some param =>
      cases hspec : transportSpecRead param with
      | error stop =>
          have hunsupported : ¬ SupportedEntry entry := by
            rintro ⟨param', trsp, hparam', htrsp⟩
            rw [hparam] at hparam'
            cases hparam'
            rw [hspec] at htrsp
            simp at htrsp
          cases stop with
          | errno e =>
              refine .inr (.inr (.inr ⟨hunsupported, by simp, e, ?_⟩))
              simp only [hspec, except_error_bind]
          | fault f => exact absurd ⟨f, hspec⟩ (transportSpecRead_not_faults param)
      | ok trsp =>
          have hsupported : SupportedEntry entry := ⟨param, trsp, hparam, hspec⟩
          have hvisit := faults_visit_iff BareInterleaved
            (fun trsp _ h => transportParamRead_faults trsp h)
            (fun trsp _ h => transportParamRead_goesOn trsp h) (entryParams entry) trsp
          simp only [reduceCtorEq, false_and, false_or, hspec, except_ok_bind,
            Option.getD_some]
          by_cases hbare : HasBareInterleaved entry
          · refine .inl ⟨hsupported, hbare, ?_⟩
            rw [faults_bind_ok]
            exact hvisit.1.mpr hbare
          · have hall : ∀ p ∈ entryParams entry, ¬ BareInterleaved p := by
              intro p hp hp'
              exact hbare ⟨p, hp, hp'⟩
            obtain ⟨trsp', htrsp⟩ := hvisit.2 hall
            refine .inr (.inl ⟨hsupported, hbare, trsp', ?_⟩)
            change visit transportParamRead _ _ = _ at htrsp
            unfold entryParams at htrsp
            simp only [htrsp, except_ok_bind, collected]

/-- The entries a transport reader gets past. -/
def PassedEntry (entry : Bytes) : Prop :=
  firstToken semicolon entry = none ∨ (SupportedEntry entry ∧ ¬ HasBareInterleaved entry)

/-- How many transports the reader has stored after some entries. -/
def storedEntries (entries : List Bytes) : Nat :=
  entries.countP fun entry => (firstToken semicolon entry).isSome

/-- The reader of at most `maxCount` transports comes to an `interleaved`
parameter without value. -/
def ReachesBareInterleaved (maxCount : Nat) (value : Bytes) : Prop :=
  ∃ before entry after, tokens comma value = before ++ entry :: after ∧
    (∀ e ∈ before, PassedEntry e) ∧ storedEntries before < maxCount ∧
    SupportedEntry entry ∧ HasBareInterleaved entry

theorem visit_transport_yield_iff
    {maxCount : Nat} (entries : List Bytes) {items : List RtspTransportHeader}
    (hitems : items.length ≤ maxCount) :
    (∃ items', visit (whileRoom maxCount transportEntryRead) entries items =
        .ok (.yield items') ∧ items'.length < maxCount) ↔
      (∀ e ∈ entries, PassedEntry e) ∧ items.length + storedEntries entries < maxCount := by
  induction entries generalizing items with
  | nil => simp [visit, storedEntries]
  | cons entry entries ih =>
      by_cases hroom : items.length < maxCount
      · simp only [visit, whileRoom, hroom, ↓reduceIte]
        rcases transportEntryRead_cases items entry with
          ⟨hnone, heq⟩ | ⟨hsup, hbare, f, heq⟩ | ⟨hsup, hbare, trsp, heq⟩ |
            ⟨hsup, hsome, ret, heq⟩
        · have hpassed : PassedEntry entry := .inl hnone
          simp only [heq, ih hitems]
          simp [hpassed, storedEntries, hnone]
        · have hnot : ¬ PassedEntry entry := by
            rintro (hnone | ⟨-, hgood⟩)
            · obtain ⟨param, trsp, hparam, -⟩ := hsup
              simp [hnone] at hparam
            · exact hgood hbare
          simp [heq, hnot]
        · have hpassed : PassedEntry entry := .inr ⟨hsup, hbare⟩
          obtain ⟨param, _, hparam, -⟩ := hsup
          have hitems' : (items ++ [trsp]).length ≤ maxCount := by
            simp only [List.length_append, List.length_cons, List.length_nil]
            omega
          simp only [heq, ih hitems']
          simp only [List.mem_cons, forall_eq_or_imp, hpassed, true_and, storedEntries,
            List.countP_cons, hparam, Option.isSome_some, ↓reduceIte, List.length_append,
            List.length_cons, List.length_nil]
          constructor
          · rintro ⟨h, hlt⟩
            exact ⟨h, by omega⟩
          · rintro ⟨h, hlt⟩
            exact ⟨h, by omega⟩
        · have hnot : ¬ PassedEntry entry := by
            rintro (hnone | ⟨hgood, -⟩)
            · exact hsome hnone
            · exact hsup hgood
          simp [heq, hnot]
      · simp only [visit, whileRoom, hroom, ↓reduceIte, Except.ok.injEq, reduceCtorEq,
          false_and, exists_false, false_iff, not_and, Nat.not_lt]
        intro _
        omega

theorem rtspTransportHeaderRead_faults_iff (value : Bytes) (maxCount : Nat) :
    Faults (rtspTransportHeaderRead value maxCount) ↔
      ReachesBareInterleaved maxCount value := by
  unfold rtspTransportHeaderRead
  have hempty : ([] : List RtspTransportHeader).length ≤ maxCount := by simp
  rw [faults_bind_ok]
  constructor
  · rintro ⟨f, h⟩
    obtain ⟨before, entry, after, items, htokens, hbefore, hfail⟩ := visit_error_iff.mp h
    unfold whileRoom at hfail
    split at hfail
    next hroom =>
      have hpassed := (visit_transport_yield_iff before hempty).mp
        ⟨items, hbefore, hroom⟩
      rcases transportEntryRead_cases items entry with
        ⟨-, heq⟩ | ⟨hsup, hbare, -⟩ | ⟨-, -, trsp, heq⟩ | ⟨-, -, ret, heq⟩
      · simp [heq] at hfail
      · exact ⟨before, entry, after, htokens, hpassed.1, by simpa using hpassed.2, hsup,
          hbare⟩
      · simp [heq] at hfail
      · simp [heq] at hfail
    next => simp at hfail
  · rintro ⟨before, entry, after, htokens, hpassed, hcount, hsup, hbare⟩
    obtain ⟨items, hbefore, hroom⟩ :=
      (visit_transport_yield_iff before hempty).mpr
        ⟨hpassed, by simpa using hcount⟩
    have hfault : Faults (transportEntryRead items entry) := by
      rcases transportEntryRead_cases items entry with
        ⟨hnone, -⟩ | ⟨-, -, h⟩ | ⟨-, hgood, -⟩ | ⟨hbad, -, -⟩
      · obtain ⟨param, _, hparam, -⟩ := hsup
        simp [hnone] at hparam
      · exact h
      · exact absurd hbare hgood
      · exact absurd hsup hbad
    obtain ⟨f, hf⟩ := hfault
    refine ⟨f, visit_error_iff.mpr ⟨before, entry, after, items, htokens, hbefore, ?_⟩⟩
    simp [whileRoom, hroom, hf]

/-! ## Field dispatch -/

theorem fieldIs_head {field : Bytes} {b : UInt8} {name : Bytes}
    (h : fieldIs field (b :: name)) : ∃ c rest, field = c :: rest ∧ toLower c = toLower b := by
  cases field with
  | nil => simp [fieldIs, strncasecmpEq, strcasecmpEq] at h
  | cons c rest =>
      simp only [fieldIs, strncasecmpEq, strcasecmpEq, List.length_cons, beq_iff_eq,
        List.take_succ_cons, List.map_cons] at h
      exact ⟨c, rest, rfl, (List.cons.inj h).1⟩

/-- Names with different first letters are never both recognised. -/
theorem fieldIs_of_head_ne {field : Bytes} {b c : UInt8} {name other : Bytes}
    (h : fieldIs field (b :: name)) (hne : toLower b ≠ toLower c) :
    fieldIs field (c :: other) = false := by
  by_contra hother
  obtain ⟨d, rest, rfl, hd⟩ := fieldIs_head h
  obtain ⟨d', rest', hcons, hd'⟩ := fieldIs_head (by simpa using hother)
  cases hcons
  exact hne (hd.symm.trans hd')

/-- A `Transport` line. -/
def TransportLine (line value : Bytes) : Prop :=
  ∃ field, fieldSplit line = some (field, value) ∧ fieldIs field (ascii "Transport")

theorem transport_field_first {field : Bytes} (h : fieldIs field (ascii "Transport")) :
    fieldIs field (ascii "CSeq") = false ∧ fieldIs field (ascii "Date") = false ∧
      fieldIs field (ascii "Session") = false :=
  ⟨fieldIs_of_head_ne h (by decide), fieldIs_of_head_ne h (by decide),
    fieldIs_of_head_ne h (by decide)⟩

/-- The outcome of a line without the header it produces. -/
inductive LineOutcome where
  | goesOn
  | ends
  | fails (stop : Stop)

def lineOutcome {σ : Type} : Except Stop (ForInStep σ) → LineOutcome
  | .ok (.yield _) => .goesOn
  | .ok (.done _) => .ends
  | .error stop => .fails stop

theorem goesOn_iff_lineOutcome {σ : Type} {x : Except Stop (ForInStep σ)} :
    GoesOn x ↔ lineOutcome x = .goesOn := by
  rcases x with stop | (s | s) <;> simp [GoesOn, lineOutcome]

theorem faults_iff_lineOutcome {σ : Type} {x : Except Stop (ForInStep σ)} :
    Faults x ↔ ∃ f, lineOutcome x = .fails (.fault f) := by
  rcases x with stop | (s | s) <;> simp [Faults, lineOutcome]

theorem lineOutcome_ite {σ : Type} {c : Prop} [Decidable c]
    {x x' y y' : Except Stop (ForInStep σ)} (hx : lineOutcome x = lineOutcome x')
    (hy : lineOutcome y = lineOutcome y') :
    lineOutcome (if c then x else y) = lineOutcome (if c then x' else y') := by
  split
  · exact hx
  · exact hy

theorem lineOutcome_bind {α σ : Type} (x : Except Stop α)
    {f g : α → Except Stop (ForInStep σ)} (h : ∀ a, lineOutcome (f a) = lineOutcome (g a)) :
    lineOutcome (x >>= f) = lineOutcome (x >>= g) := by
  cases x with
  | ok a => exact h a
  | error stop => rfl

section Visit

variable {σ τ : Type} {step : σ → τ → Except Stop (ForInStep σ)}

/-- Where outcomes do not depend on the state, the tokens a visit gets past are
the tokens that let it go on. -/
theorem goesOn_visit_iff (hstep : ∀ s s' t, lineOutcome (step s t) = lineOutcome (step s' t))
    (s₀ : σ) (ts : List τ) (s : σ) :
    GoesOn (visit step ts s) ↔ ∀ t ∈ ts, GoesOn (step s₀ t) := by
  induction ts generalizing s with
  | nil => simp [visit, GoesOn]
  | cons t ts ih =>
      rw [List.forall_mem_cons, goesOn_iff_lineOutcome (x := step s₀ t), hstep s₀ s t,
        ← goesOn_iff_lineOutcome]
      simp only [visit]
      split
      next stop hfail => simp [GoesOn, hfail]
      next s' hdone => simp [GoesOn, hdone]
      next s' hyield =>
        rw [ih s']
        simp [GoesOn, hyield]

/-- Under the same condition, a visit faults exactly when it gets to a token
that faults. -/
theorem faults_visit_of_outcome
    (hstep : ∀ s s' t, lineOutcome (step s t) = lineOutcome (step s' t))
    (s₀ : σ) (ts : List τ) (s : σ) :
    Faults (visit step ts s) ↔
      ∃ before t after, ts = before ++ t :: after ∧ (∀ u ∈ before, GoesOn (step s₀ u)) ∧
        Faults (step s₀ t) := by
  constructor
  · rintro ⟨f, h⟩
    obtain ⟨before, t, after, s', hts, hbefore, hfail⟩ := visit_error_iff.mp h
    refine ⟨before, t, after, hts, ?_, ?_⟩
    · exact (goesOn_visit_iff hstep s₀ before s).mp ⟨s', hbefore⟩
    · rw [faults_iff_lineOutcome, hstep s₀ s' t, ← faults_iff_lineOutcome]
      exact ⟨f, hfail⟩
  · rintro ⟨before, t, after, hts, hbefore, hfail⟩
    obtain ⟨s', hs'⟩ := (goesOn_visit_iff hstep s₀ before s).mpr hbefore
    rw [faults_iff_lineOutcome, hstep s₀ s' t, ← faults_iff_lineOutcome] at hfail
    obtain ⟨f, hf⟩ := hfail
    exact ⟨f, visit_error_iff.mpr ⟨before, t, after, s', hts, hs', hf⟩⟩

end Visit

section Readers

variable (P : Platform)

theorem requestFieldRead_outcome (header header' : RtspRequestHeader) (line : Bytes) :
    lineOutcome (requestFieldRead P header line) =
      lineOutcome (requestFieldRead P header' line) := by
  unfold requestFieldRead
  split
  next => rfl
  next field value _ =>
    repeat' refine lineOutcome_ite ?_ ?_
    all_goals first
      | rfl
      | exact lineOutcome_bind _ fun _ => rfl
      | exact lineOutcome_bind _ fun _ => lineOutcome_ite rfl rfl

theorem responseFieldRead_outcome (header header' : RtspResponseHeader) (line : Bytes) :
    lineOutcome (responseFieldRead P header line) =
      lineOutcome (responseFieldRead P header' line) := by
  unfold responseFieldRead
  split
  next => rfl
  next field value _ =>
    repeat' refine lineOutcome_ite ?_ ?_
    all_goals first
      | rfl
      | exact lineOutcome_bind _ fun _ => rfl
      | exact lineOutcome_bind _ fun _ => lineOutcome_ite rfl rfl
      | refine lineOutcome_bind _ fun transport => ?_
        cases transport <;> rfl

theorem dateRead_not_faults (value : Bytes) : ¬ Faults (dateRead P value) :=
  mapError_errno_not_faults _

/-- What a `Transport` line is, once its field has been split off. -/
theorem transportLine_split {line field value : Bytes} {maxCount : Nat}
    (hsplit : fieldSplit line = some (field, value)) :
    (∃ value', TransportLine line value' ∧ ReachesBareInterleaved maxCount value') ↔
      fieldIs field (ascii "Transport") ∧ ReachesBareInterleaved maxCount value := by
  constructor
  · rintro ⟨value', ⟨field', hsplit', htransport⟩, hreach⟩
    rw [hsplit] at hsplit'
    cases hsplit'
    exact ⟨htransport, hreach⟩
  · rintro ⟨htransport, hreach⟩
    exact ⟨value, ⟨field, hsplit, htransport⟩, hreach⟩

theorem faults_transport_bind {σ : Type} {value : Bytes} {maxCount : Nat}
    {f : List RtspTransportHeader → Except Stop σ} (hf : ∀ transport, ¬ Faults (f transport)) :
    Faults (rtspTransportHeaderRead value maxCount >>= f) ↔
      ReachesBareInterleaved maxCount value := by
  rw [← rtspTransportHeaderRead_faults_iff]
  constructor
  · intro h
    by_contra hnot
    exact not_faults_bind hnot hf h
  · rintro ⟨fault, hfault⟩
    exact ⟨fault, by rw [hfault]; rfl⟩

/-- A request line faults exactly when it is a `Transport` line that does. -/
theorem requestFieldRead_faults_iff (header : RtspRequestHeader) (line : Bytes) :
    Faults (requestFieldRead P header line) ↔
      ∃ value, TransportLine line value ∧
        ReachesBareInterleaved rtspTransportMaxCount value := by
  unfold requestFieldRead
  split
  next hsplit => simp [TransportLine, hsplit]
  next field value hsplit =>
    rw [transportLine_split hsplit]
    by_cases htransport : fieldIs field (ascii "Transport")
    · obtain ⟨hcseq, hdate, hsession⟩ := transport_field_first htransport
      simp only [hcseq, hdate, hsession, htransport, Bool.false_eq_true, ↓reduceIte,
        true_and]
      exact faults_transport_bind fun _ => not_faults_ite (fun _ => by simp) (by simp)
    · refine iff_of_false ?_ fun h => htransport h.1
      repeat' refine not_faults_ite (fun hfield => ?_) ?_
      all_goals first
        | exact not_faults_ok _
        | exact not_faults_bind (dateRead_not_faults P _) fun _ => not_faults_ok _
        | exact not_faults_bind (rtspAuthorizationHeaderRead_not_faults _)
            fun _ => not_faults_ok _
        | exact not_faults_bind (rtspRangeHeaderRead_not_faults P _) fun _ => not_faults_ok _
        | exact absurd hfield htransport

/-- A response line faults exactly when it is a `Transport` line that does. -/
theorem responseFieldRead_faults_iff (header : RtspResponseHeader) (line : Bytes) :
    Faults (responseFieldRead P header line) ↔
      ∃ value, TransportLine line value ∧ ReachesBareInterleaved 1 value := by
  unfold responseFieldRead
  split
  next hsplit => simp [TransportLine, hsplit]
  next field value hsplit =>
    rw [transportLine_split hsplit]
    by_cases htransport : fieldIs field (ascii "Transport")
    · obtain ⟨hcseq, hdate, hsession⟩ := transport_field_first htransport
      simp only [hcseq, hdate, hsession, htransport, Bool.false_eq_true, ↓reduceIte,
        true_and]
      refine faults_transport_bind fun transport => ?_
      cases transport <;> simp
    · refine iff_of_false ?_ fun h => htransport h.1
      repeat' refine not_faults_ite (fun hfield => ?_) ?_
      all_goals first
        | exact not_faults_ok _
        | exact not_faults_bind (dateRead_not_faults P _) fun _ => not_faults_ok _
        | exact not_faults_bind (rtspAuthorizationHeaderRead_not_faults _)
            fun _ => not_faults_ok _
        | exact not_faults_bind (rtspRangeHeaderRead_not_faults P _) fun _ => not_faults_ok _
        | exact not_faults_bind (rtspRtpInfoHeaderRead_not_faults _ _)
            fun _ => not_faults_ite (fun _ => not_faults_ok _) (not_faults_ok _)
        | exact absurd hfield htransport

/-! ## Whole headers -/

theorem requestLineRead_not_faults (line : Bytes) : ¬ Faults (requestLineRead line) := by
  simp only [requestLineRead, strtokR_some, strtokR_none_some, orFault_ok, except_ok_bind]
  repeat' refine not_faults_ite (fun _ => ?_) ?_
  all_goals simp

theorem statusLineRead_not_faults (line : Bytes) : ¬ Faults (statusLineRead line) := by
  simp only [statusLineRead, strtokR_some, strtokR_none_some, orFault_ok, except_ok_bind]
  refine not_faults_ite (fun _ => by simp) ?_
  split <;> simp

/-- The request reader gets past the request line and some field lines, to a
`Transport` line with a bare `interleaved` among the transports it reads. -/
def RequestReachesBareInterleaved (data : Bytes) : Prop :=
  ∃ line header before transport value after,
    headerLines data = some (line, before ++ transport :: after) ∧
    requestLineRead line = .ok header ∧
    (∀ l ∈ before, GoesOn (requestFieldRead P {} l)) ∧
    TransportLine transport value ∧ ReachesBareInterleaved rtspTransportMaxCount value

/-- The same for the response reader, which reads one transport. -/
def ResponseReachesBareInterleaved (data : Bytes) : Prop :=
  ∃ line header before transport value after,
    headerLines data = some (line, before ++ transport :: after) ∧
    statusLineRead line = .ok header ∧
    (∀ l ∈ before, GoesOn (responseFieldRead P {} l)) ∧
    TransportLine transport value ∧ ReachesBareInterleaved 1 value

theorem readLines_faults_iff {σ : Type} {first : Bytes → Except Stop σ}
    {step : σ → Bytes → Except Stop (ForInStep σ)} (s₀ : σ)
    (hfirst : ∀ line, ¬ Faults (first line))
    (hstep : ∀ s s' l, lineOutcome (step s l) = lineOutcome (step s' l)) (data : Bytes) :
    Faults (readLines first step data) ↔
      ∃ line header before l after,
        headerLines data = some (line, before ++ l :: after) ∧ first line = .ok header ∧
        (∀ u ∈ before, GoesOn (step s₀ u)) ∧ Faults (step s₀ l) := by
  unfold readLines
  cases hlines : headerLines data with
  | none => simp
  | some cut =>
      obtain ⟨line, lines⟩ := cut
      simp only [Option.some.injEq, Prod.mk.injEq]
      cases hline : first line with
      | error stop =>
          refine iff_of_false ?_ ?_
          · rintro ⟨f, hf⟩
            exact hfirst line ⟨f, by rw [hline]; simpa using hf⟩
          · rintro ⟨line', header, before, l, after, ⟨rfl, -⟩, hheader, -⟩
            rw [hline] at hheader
            simp at hheader
      | ok header =>
          rw [except_ok_bind, faults_bind_ok, faults_visit_of_outcome hstep s₀]
          constructor
          · rintro ⟨before, l, after, rfl, hbefore, hfault⟩
            exact ⟨line, header, before, l, after, ⟨rfl, rfl⟩, hline, hbefore, hfault⟩
          · rintro ⟨line', header', before, l, after, ⟨rfl, hlines'⟩, -, hbefore, hfault⟩
            exact ⟨before, l, after, hlines', hbefore, hfault⟩

/-- The request reader uses an absent token exactly on the headers where it
comes to an `interleaved` parameter without value. -/
theorem rtspRequestHeaderRead_faults_iff (data : Bytes) :
    Faults (rtspRequestHeaderRead P data) ↔ RequestReachesBareInterleaved P data := by
  rw [rtspRequestHeaderRead_eq, readLines_faults_iff {} requestLineRead_not_faults
    (requestFieldRead_outcome P)]
  constructor
  · rintro ⟨line, header, before, l, after, hlines, hline, hbefore, hfault⟩
    obtain ⟨value, hl, hreach⟩ := (requestFieldRead_faults_iff P {} l).mp hfault
    exact ⟨line, header, before, l, value, after, hlines, hline, hbefore, hl, hreach⟩
  · rintro ⟨line, header, before, l, value, after, hlines, hline, hbefore, hl, hreach⟩
    exact ⟨line, header, before, l, after, hlines, hline, hbefore,
      (requestFieldRead_faults_iff P {} l).mpr ⟨value, hl, hreach⟩⟩

theorem rtspResponseHeaderRead_faults_iff (data : Bytes) :
    Faults (rtspResponseHeaderRead P data) ↔ ResponseReachesBareInterleaved P data := by
  rw [rtspResponseHeaderRead_eq, readLines_faults_iff {} statusLineRead_not_faults
    (responseFieldRead_outcome P)]
  constructor
  · rintro ⟨line, header, before, l, after, hlines, hline, hbefore, hfault⟩
    obtain ⟨value, hl, hreach⟩ := (responseFieldRead_faults_iff P {} l).mp hfault
    exact ⟨line, header, before, l, value, after, hlines, hline, hbefore, hl, hreach⟩
  · rintro ⟨line, header, before, l, value, after, hlines, hline, hbefore, hl, hreach⟩
    exact ⟨line, header, before, l, after, hlines, hline, hbefore,
      (responseFieldRead_faults_iff P {} l).mpr ⟨value, hl, hreach⟩⟩

/-- The readers and their sub-readers never use an absent token, except at an
`interleaved` parameter without value that the `Transport` reader reaches. -/
theorem headerReaders_useNoAbsentToken_iff :
    (∀ data, ¬ Faults (rtspRequestHeaderRead P data) ↔
        ¬ RequestReachesBareInterleaved P data) ∧
      (∀ data, ¬ Faults (rtspResponseHeaderRead P data) ↔
        ¬ ResponseReachesBareInterleaved P data) ∧
      (∀ value maxCount, ¬ Faults (rtspTransportHeaderRead value maxCount) ↔
        ¬ ReachesBareInterleaved maxCount value) ∧
      (∀ value, ¬ Faults (rtspAuthorizationHeaderRead value)) ∧
      (∀ value maxCount, ¬ Faults (rtspRtpInfoHeaderRead value maxCount)) ∧
      ∀ value, ¬ Faults (rtspRangeHeaderRead P value) :=
  ⟨fun data => not_congr (rtspRequestHeaderRead_faults_iff P data),
    fun data => not_congr (rtspResponseHeaderRead_faults_iff P data),
    fun value maxCount => not_congr (rtspTransportHeaderRead_faults_iff value maxCount),
    rtspAuthorizationHeaderRead_not_faults, rtspRtpInfoHeaderRead_not_faults,
    rtspRangeHeaderRead_not_faults P⟩

end Readers

/-- A `Transport` line whose `interleaved` parameter has no value. -/
def bareInterleavedRequest : Bytes :=
  ascii "SETUP rtsp://h/p RTSP/1.0\r\nTransport: RTP/AVP/TCP;interleaved\r\n\r\n"

theorem bareInterleavedRequest_faults :
    rtspRequestHeaderRead .bare bareInterleavedRequest = .error (.fault .noTokenState) := by
  rfl

end Librtsp
