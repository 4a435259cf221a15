import Librtsp.TokenSafety
import Librtsp.UnknownFields

/-!
# The order of the header lines

Lines of different fields set different parts of the header, so that two of them
may change places.  A line that ends the reader may not: what stands behind it is
lost.  `Transport` lines without a transport and `RTP-Info` lines without an
entry are such lines.  Nor may a `Transport` line with a bare `interleaved`, at
which the reader uses an absent token unless a line before it is rejected.
-/

namespace Librtsp

open CString

/-- Both readers fail with an error, or both return the same. -/
def SameResult {α : Type} (x y : Except Stop α) : Prop :=
  (∃ e e', x = .error (.errno e) ∧ y = .error (.errno e')) ∨ ∃ a, x = .ok a ∧ y = .ok a

theorem not_sameResult_of_faults {α : Type} {x y : Except Stop α} (h : Faults x) :
    ¬ SameResult x y := by
  obtain ⟨f, hf⟩ := h
  rintro (⟨e, e', he, -⟩ | ⟨a, ha, -⟩)
  · rw [hf] at he
    cases he
  · rw [hf] at ha
    cases ha

/-- Where nothing faults, only what is returned counts. -/
theorem sameResult_iff {α : Type} {x y : Except Stop α} (hx : ¬ Faults x) (hy : ¬ Faults y) :
    SameResult x y ↔ x.toOption = y.toOption := by
  rcases x with (e | f) | a
  · rcases y with (e' | f') | b
    · simp [SameResult, Except.toOption]
    · exact absurd ⟨f', rfl⟩ hy
    · simp [SameResult, Except.toOption]
  · exact absurd ⟨f, rfl⟩ hx
  · rcases y with (e' | f') | b
    · simp [SameResult, Except.toOption]
    · exact absurd ⟨f', rfl⟩ hy
    · simp [SameResult, Except.toOption, eq_comm]

/-! ## Loops whose steps commute -/

section Order

variable {σ τ : Type} (step : σ → τ → Except Stop (ForInStep σ))

/-- What the loop comes to: the state it leaves, or why it fails. -/
def loopResult (ts : List τ) (s : σ) : Except Stop σ :=
  visit step ts s >>= fun result => .ok (collected result)

/-- What is left in the end, if the loop does not fail. -/
def visited (ts : List τ) (s : σ) : Option σ :=
  (loopResult step ts s).toOption

/-- The token does not change the state. -/
def Inert (s : σ) (t : τ) : Prop :=
  step s t = .ok (.yield s) ∨ step s t = .ok (.done s)

def OrderFree (ts : List τ) (s : σ) : Prop :=
  ∀ ts' : List τ, ts'.Perm ts → visited step ts' s = visited step ts s

variable {step}

theorem visited_cons (t : τ) (ts : List τ) (s : σ) :
    visited step (t :: ts) s =
      match step s t with
      | .error _ => none
      | .ok (.done s') => some s'
      | .ok (.yield s') => visited step ts s' := by
  unfold visited loopResult
  rw [visit]
  rcases step s t with stop | (s' | s')
  · rfl
  · rfl
  · rfl

/-- Two tokens whose steps may be taken in either order. -/
def Commutes (step : σ → τ → Except Stop (ForInStep σ)) (t u : τ) : Prop :=
  ∀ s s₁ s₂, step s t = .ok (.yield s₁) → step s₁ u = .ok (.yield s₂) →
    ∃ s₁', step s u = .ok (.yield s₁') ∧ step s₁' t = .ok (.yield s₂)

variable (houtcome : ∀ s s' t, lineOutcome (step s t) = lineOutcome (step s' t))

include houtcome

theorem step_fails_of_outcome
    {s : σ} {t : τ} {stop : Stop} (h : step s t = .error stop) (s' : σ) :
    step s' t = .error stop := by
  have hsame := houtcome s' s t
  rw [h] at hsame
  rcases hstep : step s' t with stop' | (s'' | s'')
  · rw [hstep] at hsame
    cases hsame
    rfl
  · simp [hstep, lineOutcome] at hsame
  · simp [hstep, lineOutcome] at hsame

theorem step_yields_of_outcome
    {s s₁ : σ} {t : τ} (h : step s t = .ok (.yield s₁)) (s' : σ) :
    ∃ s₁', step s' t = .ok (.yield s₁') := by
  have hgoes := goesOn_iff_lineOutcome.mpr ((houtcome s' s t).trans (by rw [h]; rfl))
  exact hgoes

/-- No token ends the loop: any order gives the same. -/
theorem visited_perm
    {ts ts' : List τ} (hperm : ts'.Perm ts)
    (hcommutes : ts.Pairwise fun t u => Commutes step t u ∧ Commutes step u t)
    (hgoes : ∀ t ∈ ts, ∀ s s', step s t ≠ .ok (.done s')) (s : σ) :
    visited step ts' s = visited step ts s := by
  induction hperm generalizing s with
  | nil => rfl
  | cons t _ ih =>
      rw [visited_cons, visited_cons]
      rcases hstep : step s t with stop | (s₁ | s₁)
      · rfl
      · rfl
      · exact ih (List.pairwise_cons.mp hcommutes).2 (fun u hu => hgoes u (by simp [hu])) s₁
  | swap t u ts =>
      obtain ⟨hpair, -⟩ := List.pairwise_cons.mp hcommutes
      obtain ⟨htu, hut⟩ := hpair u (by simp)
      rw [visited_cons, visited_cons]
      rcases hu : step s u with stop | (s₁ | s₁)
      · rcases ht : step s t with stop' | (s₂ | s₂)
        · rfl
        · exact absurd ht (hgoes t (by simp) s s₂)
        · dsimp only
          rw [visited_cons, step_fails_of_outcome houtcome hu s₂]
      · exact absurd hu (hgoes u (by simp) s s₁)
      · rcases ht : step s t with stop' | (s₂ | s₂)
        · dsimp only
          rw [visited_cons, step_fails_of_outcome houtcome ht s₁]
        · exact absurd ht (hgoes t (by simp) s s₂)
        · obtain ⟨s₃, hs₃⟩ := step_yields_of_outcome houtcome ht s₁
          obtain ⟨s₂', hs₂', hs₃'⟩ := hut s s₁ s₃ hu hs₃
          rw [ht, Except.ok.injEq, ForInStep.yield.injEq] at hs₂'
          subst hs₂'
          dsimp only
          rw [visited_cons, visited_cons, hs₃, hs₃']
  | trans _ hperm ih₁ ih₂ =>
      have hback : ∀ t, t ∈ _ → t ∈ _ := fun t ht => hperm.mem_iff.mp ht
      rw [ih₁ _ (fun t ht => hgoes t (hback t ht)), ih₂ hcommutes hgoes]
      apply (hperm.pairwise_iff _).mpr hcommutes
      intro t u h
      exact ⟨h.2, h.1⟩

omit houtcome in
theorem visited_inert {ts : List τ} {s : σ} (h : ∀ t ∈ ts, Inert step s t) :
    visited step ts s = some s := by
  induction ts with
  | nil => rfl
  | cons t ts ih =>
      rw [visited_cons]
      rcases h t (by simp) with hstep | hstep
      · rw [hstep]
        exact ih fun u hu => h u (by simp [hu])
      · rw [hstep]

/-- The order does not matter exactly when no token ends the loop, or none
changes anything. -/
theorem orderFree_iff
    {ts : List τ} (hcommutes : ts.Pairwise fun t u => Commutes step t u ∧ Commutes step u t)
    {s : σ} (hends : ∀ t ∈ ts, ∀ s₁ s₂, step s₁ t = .ok (.done s₂) → step s t = .ok (.done s) ∧
      ∀ u ∈ ts, u ≠ t → ∀ s₃, step s u = .ok (.yield s₃) → step s₃ t = .ok (.done s₃)) :
    OrderFree step ts s ↔
      (∀ t ∈ ts, ∀ s₁ s₂, step s₁ t ≠ .ok (.done s₂)) ∨ ∀ t ∈ ts, Inert step s t := by
  constructor
  · intro hfree
    by_cases hstops : ∀ t ∈ ts, ∀ s₁ s₂, step s₁ t ≠ .ok (.done s₂)
    · exact .inl hstops
    · push Not at hstops
      obtain ⟨t, ht, s₁, s₂, hdone⟩ := hstops
      obtain ⟨hself, hothers⟩ := hends t ht s₁ s₂ hdone
      obtain ⟨before, after, rfl⟩ := List.append_of_mem ht
      have hfirst : visited step (t :: (before ++ after)) s = some s := by
        rw [visited_cons, hself]
      have hall : visited step (before ++ t :: after) s = some s := by
        rw [← hfree _ List.perm_middle.symm, hfirst]
      refine .inr fun u hu => ?_
      by_cases hut : u = t
      · subst hut
        exact .inr hself
      · have hrest : u ∈ before ++ after := by
          simpa [hut] using hu
        obtain ⟨before', after', hsplit⟩ := List.append_of_mem hrest
        have hperm : (u :: t :: (before' ++ after')).Perm (before ++ t :: after) := by
          apply List.Perm.trans _ List.perm_middle.symm
          rw [hsplit]
          exact (List.Perm.swap t u _).trans (List.Perm.cons t List.perm_middle.symm)
        have houtcome' := hfree _ hperm
        rw [hall, visited_cons] at houtcome'
        rcases hstep : step s u with stop | (s₃ | s₃)
        · simp [hstep] at houtcome'
        · simp only [hstep, Option.some.injEq] at houtcome'
          exact .inr (houtcome' ▸ hstep)
        · simp only [hstep] at houtcome'
          rw [visited_cons, hothers u hu hut s₃ hstep, Option.some.injEq] at houtcome'
          exact .inl (houtcome' ▸ hstep)
  · intro h ts' hperm
    rcases h with hgoes | hinert
    · exact visited_perm houtcome hperm hcommutes hgoes s
    · rw [visited_inert hinert, visited_inert fun t ht => hinert t (hperm.mem_iff.mp ht)]

/-- The loop faults only at a token that does. -/
theorem not_faults_loopResult
    {ts : List τ} {s : σ} (hnone : ∀ t ∈ ts, ¬ Faults (step s t)) :
    ¬ Faults (loopResult step ts s) := by
  unfold loopResult
  rw [faults_bind_ok, faults_visit_of_outcome houtcome s]
  rintro ⟨before, t, after, rfl, -, hfault⟩
  exact hnone t (by simp) hfault

/-- Any order has the same result exactly when no token faults and the order does
not matter otherwise: a token that faults may come first. -/
theorem sameResult_perm_iff (ts : List τ) (s : σ) :
    (∀ ts' : List τ, ts'.Perm ts → SameResult (loopResult step ts' s) (loopResult step ts s)) ↔
      (∀ t ∈ ts, ¬ Faults (step s t)) ∧ OrderFree step ts s := by
  constructor
  · intro hsame
    have hnone : ∀ t ∈ ts, ¬ Faults (step s t) := by
      rintro t ht ⟨f, hf⟩
      obtain ⟨before, after, rfl⟩ := List.append_of_mem ht
      have hfirst : Faults (loopResult step (t :: (before ++ after)) s) := by
        refine ⟨f, ?_⟩
        unfold loopResult
        rw [visit, hf]
        rfl
      exact not_sameResult_of_faults hfirst (hsame _ List.perm_middle.symm)
    refine ⟨hnone, fun ts' hperm => ?_⟩
    have hnone' : ∀ t ∈ ts', ¬ Faults (step s t) := fun t ht => hnone t (hperm.mem_iff.mp ht)
    exact (sameResult_iff (not_faults_loopResult houtcome hnone')
      (not_faults_loopResult houtcome hnone)).mp (hsame ts' hperm)
  · rintro ⟨hnone, hfree⟩ ts' hperm
    have hnone' : ∀ t ∈ ts', ¬ Faults (step s t) := fun t ht => hnone t (hperm.mem_iff.mp ht)
    exact (sameResult_iff (not_faults_loopResult houtcome hnone')
      (not_faults_loopResult houtcome hnone)).mpr (hfree ts' hperm)

omit houtcome in
/-- What is rejected at first gives the same with anything behind it. -/
theorem sameResult_first
    {first : Except Stop σ} (hfirst : ¬ Faults first) (rest rest' : σ → Except Stop σ) :
    SameResult (first >>= rest) (first >>= rest') ↔
      ∀ s, first = .ok s → SameResult (rest s) (rest' s) := by
  rcases first with (e | f) | s
  · refine iff_of_true (.inl ⟨e, e, rfl, rfl⟩) fun s h => by cases h
  · exact absurd ⟨f, rfl⟩ hfirst
  · simp only [except_ok_bind, Except.ok.injEq, forall_eq']

/-- The same for a loop behind a first step. -/
theorem sameResult_read_iff {first : Except Stop σ} (hfirst : ¬ Faults first) (ts : List τ) :
    (∀ ts' : List τ, ts'.Perm ts →
        SameResult (first >>= loopResult step ts') (first >>= loopResult step ts)) ↔
      ∀ s, first = .ok s → (∀ t ∈ ts, ¬ Faults (step s t)) ∧ OrderFree step ts s := by
  simp only [sameResult_first hfirst]
  constructor
  · intro hsame s hs
    exact (sameResult_perm_iff houtcome ts s).mp fun ts' hperm => hsame ts' hperm s hs
  · intro h ts' hperm s hs
    exact (sameResult_perm_iff houtcome ts s).mpr (h s hs) ts' hperm

omit houtcome in
theorem visit_map {τ' : Type} (f : τ' → τ) (ts : List τ') (s : σ) :
    visit step (ts.map f) s = visit (fun s t => step s (f t)) ts s := by
  induction ts generalizing s with
  | nil => rfl
  | cons t ts ih =>
      simp only [List.map_cons, visit]
      split
      next => rfl
      next => rfl
      next s' _ => exact ih s'

end Order

/-! ## Lines of known fields -/

theorem isAlpha_toLower (b : UInt8) : isAlpha (toLower b) = isAlpha b := by
  have hall : ∀ i : Fin 256, isAlpha (toLower (UInt8.ofNat i)) = isAlpha (UInt8.ofNat i) := by
    decide +kernel
  simpa using hall ⟨b.toNat, b.toNat_lt⟩

theorem toLower_nonAlpha {b : UInt8} (h : isAlpha b = false) : toLower b = b := by
  unfold isAlpha at h
  unfold toLower
  rw [Bool.or_eq_false_iff] at h
  rw [if_neg (by simp [h.1])]

/-- A text that is a name up to case has a byte that is no letter only where the
name has it. -/
theorem mem_name_of_mem_spelling
    {spelling name : Bytes} (hspelled : strcasecmpEq spelling name = true) {c : UInt8}
    (hc : isAlpha c = false) (hmem : c ∈ spelling) : c ∈ name := by
  have hmap : spelling.map toLower = name.map toLower := by simpa [strcasecmpEq] using hspelled
  have hlower : toLower c ∈ name.map toLower := hmap ▸ List.mem_map_of_mem hmem
  obtain ⟨b, hb, hsame⟩ := List.mem_map.mp hlower
  have halpha : isAlpha b = false := by rw [← isAlpha_toLower, hsame, isAlpha_toLower, hc]
  rw [toLower_nonAlpha halpha, toLower_nonAlpha hc] at hsame
  exact hsame ▸ hb

/-- A line of a field, whose name may be written in any case. -/
structure NamedLine {F : Type} (nameOf : F → Bytes) where
  field : F
  spelling : Bytes
  value : Bytes
  spelled : strcasecmpEq spelling (nameOf field) = true
  clean : FieldText value

/-- One space before the value is skipped. -/
def dropSpace : Bytes → Bytes
  | 0x20 :: value => value
  | value => value

theorem fieldSplit_eq (line : Bytes) :
    fieldSplit line = (strchr 0x3a line).map fun cut => (cut.1, dropSpace cut.2) := by
  have hspace : ∀ name text : Bytes, (match text with
      | 0x20 :: value => (name, value)
      | value => (name, value)) = (name, dropSpace text) := by
    intro name text
    fun_cases dropSpace text with
    | case1 value => rfl
    | case2 hnot =>
        split
        next value hnot => exact (hnot value rfl).elim
        next => rfl
  unfold fieldSplit
  congr 1
  funext cut
  exact hspace cut.1 cut.2

section Lines

variable {F : Type} {nameOf : F → Bytes}

def NamedLine.text (line : NamedLine nameOf) : Bytes :=
  line.spelling ++ 0x3a :: line.value

/-- The names of a table are made of letters and hyphens. -/
def NamesPlain (nameOf : F → Bytes) (fields : List F) : Prop :=
  ∀ f ∈ fields, (nameOf f).all (fun b => isAlpha b || b == 0x2d) = true

theorem requestFields_plain : NamesPlain RequestField.name requestFields := by
  unfold NamesPlain
  decide +kernel

theorem responseFields_plain : NamesPlain ResponseField.name responseFields := by
  unfold NamesPlain
  decide +kernel

variable {fields : List F} (hplain : NamesPlain nameOf fields) (line : NamedLine nameOf)
  (hline : line.field ∈ fields)

include hplain hline

theorem NamedLine.spelling_plain : ∀ b ∈ line.spelling, b ≠ 0 ∧ b ≠ 0x0d ∧ b ≠ 0x0a ∧ b ≠ 0x3a := by
  have hname := List.all_eq_true.mp (hplain line.field hline)
  have hout : ∀ c, isAlpha c = false → c ≠ 0x2d → ∀ b ∈ line.spelling, b ≠ c := by
    intro c hc hhyphen b hb hbc
    subst hbc
    have hmem := hname b (mem_name_of_mem_spelling line.spelled hc hb)
    simp [hc, hhyphen] at hmem
  intro b hb
  refine ⟨?_, ?_, ?_, ?_⟩
  · exact hout 0 (by decide) (by decide) b hb
  · exact hout 0x0d (by decide) (by decide) b hb
  · exact hout 0x0a (by decide) (by decide) b hb
  · exact hout 0x3a (by decide) (by decide) b hb

theorem NamedLine.text_clean : CleanLine line.text := by
  constructor
  · simp [NamedLine.text]
  · intro b hb
    rcases List.mem_append.mp hb with hb | hb
    · have h := line.spelling_plain hplain hline b hb
      exact ⟨h.1, h.2.1, h.2.2.1⟩
    · rcases List.mem_cons.mp hb with rfl | hb
      · decide
      · exact line.clean b hb

theorem NamedLine.split : fieldSplit line.text = some (line.spelling, dropSpace line.value) := by
  have hcolon : 0x3a ∉ line.spelling := by
    intro hmem
    exact (line.spelling_plain hplain hline 0x3a hmem).2.2.2 rfl
  rw [fieldSplit_eq, NamedLine.text, strchr_append hcolon]
  rfl

theorem NamedLine.read
    {σ : Type} (hapart : NamesApart nameOf fields)
    (update : F → Bytes → Bytes → σ → Except Stop (ForInStep σ)) (header : σ) :
    fieldLineRead nameOf fields update header line.text =
      update line.field line.spelling (dropSpace line.value) header := by
  apply fieldLineRead_known hapart hline (line.split hplain hline)
  have hmap : line.spelling.map toLower = (nameOf line.field).map toLower := by
    simpa [strcasecmpEq] using line.spelled
  rw [fieldIs_iff, hmap]

end Lines

/-- A text of lines of known fields is read by taking the lines one by one. -/
theorem readLines_named
    {F σ : Type} {nameOf : F → Bytes} {fields : List F} (hapart : NamesApart nameOf fields)
    (hplain : NamesPlain nameOf fields) (hall : ∀ f, f ∈ fields) (first : Bytes → Except Stop σ)
    (update : F → Bytes → Bytes → σ → Except Stop (ForInStep σ)) {start : Bytes}
    (hstart : CleanLine start) (lines : List (NamedLine nameOf)) :
    readLines first (fieldLineRead nameOf fields update)
        (bareText start (lines.map NamedLine.text)) =
      first start >>= loopResult
        (fun header line => update line.field line.spelling (dropSpace line.value) header)
        lines := by
  have hclean : ∀ l ∈ start :: lines.map NamedLine.text, CleanLine l := by
    intro l hl
    rcases List.mem_cons.mp hl with rfl | hl
    · exact hstart
    · obtain ⟨line, -, rfl⟩ := List.mem_map.mp hl
      exact line.text_clean hplain (hall line.field)
  have hstep : (fun header (line : NamedLine nameOf) =>
      fieldLineRead nameOf fields update header line.text) =
        fun header line => update line.field line.spelling (dropSpace line.value) header := by
    funext header line
    exact line.read hplain (hall line.field) hapart update header
  rw [bareText, readLines_joinLines first _ hclean]
  congr 1
  funext header
  rw [visit_map, hstep]
  rfl

/-! ## What a line sets -/

section Setters

variable (P : Platform)

/-- The ways a line of a request field changes the header. -/
inductive RequestSetter : RequestField → (RtspRequestHeader → RtspRequestHeader) → Prop where
  | cseq (cseq : Int32) : RequestSetter .cseq fun header => { header with cseq }
  | date (date : UInt64) : RequestSetter .date fun header => { header with date }
  | session (sessionId : Option Bytes) (sessionTimeout : UInt32) :
      RequestSetter .session fun header => { header with sessionId, sessionTimeout }
  | transport (transport : List RtspTransportHeader) :
      RequestSetter .transport fun header => { header with transport }
  | contentType (contentType : Option Bytes) :
      RequestSetter .contentType fun header => { header with contentType }
  | scale (scale : UInt32) : RequestSetter .scale fun header => { header with scale }
  | authorization (authorization : Option RtspAuthorizationHeader) :
      RequestSetter .authorization fun header => { header with authorization }
  | userAgent (userAgent : Option Bytes) :
      RequestSetter .userAgent fun header => { header with userAgent }
  | server (server : Option Bytes) : RequestSetter .server fun header => { header with server }
  | accept (accept : Option Bytes) : RequestSetter .accept fun header => { header with accept }
  | range (range : RtspRange) : RequestSetter .range fun header => { header with range }
  | contentLength (contentLength : Int32) :
      RequestSetter .contentLength fun header => { header with contentLength }
  | ext (ext : List RtspHeaderExt) :
      RequestSetter .ext fun header => { header with ext := header.ext ++ ext }

theorem RequestSetter.comm
    {f g : RequestField} {u v : RtspRequestHeader → RtspRequestHeader} (hu : RequestSetter f u)
    (hv : RequestSetter g v) (hne : f ≠ g) (header : RtspRequestHeader) :
    u (v header) = v (u header) := by
  cases hu <;> cases hv <;> first | rfl | exact absurd rfl hne

theorem requestUpdate_sets
    {f : RequestField} {field value : Bytes} {header header' : RtspRequestHeader}
    (h : requestUpdate P f field value header = .ok (.yield header')) :
    ∃ u, RequestSetter f u ∧
      ∀ header, requestUpdate P f field value header = .ok (.yield (u header)) := by
  cases f with
  | cseq => exact ⟨_, .cseq _, fun _ => rfl⟩
  | date =>
      obtain ⟨date, hdate, -⟩ := except_bind_ok.mp h
      exact ⟨_, .date date, fun header => by simp [requestUpdate, hdate]⟩
  | session => exact ⟨_, .session _ _, fun _ => rfl⟩
  | transport =>
      obtain ⟨transport, htransport, hyield⟩ := except_bind_ok.mp h
      have hne : transport ≠ [] := by
        rintro rfl
        simp at hyield
      exact ⟨_, .transport transport, fun header => by simp [requestUpdate, htransport, hne]⟩
  | contentType => exact ⟨_, .contentType _, fun _ => rfl⟩
  | scale => exact ⟨_, .scale _, fun _ => rfl⟩
  | authorization =>
      obtain ⟨auth, hauth, -⟩ := except_bind_ok.mp h
      exact ⟨_, .authorization (some auth), fun header => by simp [requestUpdate, hauth]⟩
  | userAgent => exact ⟨_, .userAgent _, fun _ => rfl⟩
  | server => exact ⟨_, .server _, fun _ => rfl⟩
  | accept => exact ⟨_, .accept _, fun _ => rfl⟩
  | range =>
      obtain ⟨range, hrange, -⟩ := except_bind_ok.mp h
      exact ⟨_, .range range, fun header => by simp [requestUpdate, hrange]⟩
  | contentLength => exact ⟨_, .contentLength _, fun _ => rfl⟩
  | ext => exact ⟨_, .ext _, fun _ => rfl⟩

/-- A line of a request that ends the reader: a `Transport` line without any
transport. -/
def StopsRequest (line : NamedLine RequestField.name) : Prop :=
  line.field = .transport ∧
    rtspTransportHeaderRead (dropSpace line.value) rtspTransportMaxCount = .ok []

theorem requestUpdate_done
    {f : RequestField} {field value : Bytes} {header header' : RtspRequestHeader}
    (h : requestUpdate P f field value header = .ok (.done header')) :
    f = .transport ∧ rtspTransportHeaderRead value rtspTransportMaxCount = .ok [] := by
  cases f with
  | transport =>
      obtain ⟨transport, htransport, hdone⟩ := except_bind_ok.mp h
      split at hdone
      next hnil =>
        subst hnil
        exact ⟨rfl, htransport⟩
      next => simp at hdone
  | date =>
      obtain ⟨date, -, hdone⟩ := except_bind_ok.mp h
      simp at hdone
  | authorization =>
      obtain ⟨auth, -, hdone⟩ := except_bind_ok.mp h
      simp at hdone
  | range =>
      obtain ⟨range, -, hdone⟩ := except_bind_ok.mp h
      simp at hdone
  | _ => simp [requestUpdate] at h

theorem requestUpdate_stops
    {value : Bytes} (h : rtspTransportHeaderRead value rtspTransportMaxCount = .ok [])
    (field : Bytes) {header : RtspRequestHeader} (hnone : header.transport = []) :
    requestUpdate P .transport field value header = .ok (.done header) := by
  simp [requestUpdate, h, ← hnone]

theorem RequestSetter.transport_eq
    {f : RequestField} {u : RtspRequestHeader → RtspRequestHeader} (hu : RequestSetter f u)
    (hne : f ≠ .transport) (header : RtspRequestHeader) :
    (u header).transport = header.transport := by
  cases hu <;> first | rfl | exact absurd rfl hne

/-- The step of the request reader at a line of a known field. -/
def requestStep (header : RtspRequestHeader) (line : NamedLine RequestField.name) :
    Except Stop (ForInStep RtspRequestHeader) :=
  requestUpdate P line.field line.spelling (dropSpace line.value) header

theorem requestStep_outcome
    (header header' : RtspRequestHeader) (line : NamedLine RequestField.name) :
    lineOutcome (requestStep P header line) = lineOutcome (requestStep P header' line) := by
  have hread : ∀ header, requestStep P header line = requestFieldRead P header line.text := by
    intro header
    rw [requestFieldRead_eq]
    exact (line.read requestFields_plain (mem_requestFields _) requestFields_apart _ header).symm
  rw [hread, hread]
  exact requestFieldRead_outcome P header header' line.text

/-- A `Transport` line of a request in which the reader comes to a bare
`interleaved`. -/
def FaultsRequest (line : NamedLine RequestField.name) : Prop :=
  line.field = .transport ∧
    ReachesBareInterleaved rtspTransportMaxCount (dropSpace line.value)

theorem requestStep_faults_iff
    (header : RtspRequestHeader) (line : NamedLine RequestField.name) :
    Faults (requestStep P header line) ↔ FaultsRequest line := by
  unfold requestStep FaultsRequest
  cases hfield : line.field with
  | transport =>
      rw [requestUpdate, faults_transport_bind, eq_self, true_and]
      exact fun transport => not_faults_ite (fun _ => by simp) (by simp)
  | date =>
      refine iff_of_false ?_ (by simp)
      exact not_faults_bind (dateRead_not_faults P _) fun _ => not_faults_ok _
  | authorization =>
      refine iff_of_false ?_ (by simp)
      exact not_faults_bind (rtspAuthorizationHeaderRead_not_faults _) fun _ => not_faults_ok _
  | range =>
      refine iff_of_false ?_ (by simp)
      exact not_faults_bind (rtspRangeHeaderRead_not_faults P _) fun _ => not_faults_ok _
  | _ => simp [requestUpdate]

theorem requestStep_commutes
    {t u : NamedLine RequestField.name} (hne : t.field ≠ u.field) :
    Commutes (requestStep P) t u := by
  intro s s₁ s₂ ht hu
  obtain ⟨f, hf, ht'⟩ := requestUpdate_sets P ht
  obtain ⟨g, hg, hu'⟩ := requestUpdate_sets P hu
  unfold requestStep at ht hu ⊢
  rw [ht', Except.ok.injEq, ForInStep.yield.injEq] at ht
  rw [hu', Except.ok.injEq, ForInStep.yield.injEq] at hu
  refine ⟨g s, hu' s, ?_⟩
  rw [ht', hf.comm hg hne, ht, hu]

theorem requestOrderFree_iff
    {lines : List (NamedLine RequestField.name)} (hdistinct : (lines.map NamedLine.field).Nodup)
    {header : RtspRequestHeader} (hnone : header.transport = []) :
    OrderFree (requestStep P) lines header ↔
      (∀ line ∈ lines, ¬ StopsRequest line) ∨
        ∀ line ∈ lines, Inert (requestStep P) header line := by
  have hstops : (∀ line ∈ lines, ∀ s₁ s₂, requestStep P s₁ line ≠ .ok (.done s₂)) ↔
      ∀ line ∈ lines, ¬ StopsRequest line := by
    constructor
    · intro h line hline hstop
      have hdone := requestUpdate_stops P hstop.2 line.spelling hnone
      rw [← hstop.1] at hdone
      exact h line hline _ _ hdone
    · intro h line hline s₁ s₂ hdone
      exact h line hline (requestUpdate_done P hdone)
  rw [orderFree_iff (requestStep_outcome P), hstops]
  · have hpairs : lines.Pairwise fun t u => t.field ≠ u.field := by
      rwa [List.Nodup, List.pairwise_map] at hdistinct
    apply hpairs.imp
    intro t u hne
    exact ⟨requestStep_commutes P hne, requestStep_commutes P hne.symm⟩
  · intro t ht s₁ s₂ hdone
    obtain ⟨hfield, hread⟩ := requestUpdate_done P hdone
    have hstop : ∀ s : RtspRequestHeader, s.transport = [] →
        requestStep P s t = .ok (.done s) := by
      intro s hs
      unfold requestStep
      rw [hfield]
      exact requestUpdate_stops P hread t.spelling hs
    refine ⟨hstop header hnone, fun u hu hut s₃ hu' => ?_⟩
    have hne : u.field ≠ .transport := by
      intro hsame
      exact hut (List.inj_on_of_nodup_map hdistinct hu ht (hsame.trans hfield.symm))
    obtain ⟨v, hv, hv'⟩ := requestUpdate_sets P hu'
    unfold requestStep at hu'
    rw [hv', Except.ok.injEq, ForInStep.yield.injEq] at hu'
    apply hstop
    rw [← hu', hv.transport_eq hne, hnone]

/-- The ways a line of a response field changes the header. -/
inductive ResponseSetter : ResponseField → (RtspResponseHeader → RtspResponseHeader) → Prop where
  | cseq (cseq : Int32) : ResponseSetter .cseq fun header => { header with cseq }
  | date (date : UInt64) : ResponseSetter .date fun header => { header with date }
  | session (sessionId : Option Bytes) (sessionTimeout : UInt32) :
      ResponseSetter .session fun header => { header with sessionId, sessionTimeout }
  | transport (transport : Option RtspTransportHeader) :
      ResponseSetter .transport fun header => { header with transport }
  | authenticate (authenticate : Option RtspAuthorizationHeader) :
      ResponseSetter .authenticate fun header => { header with authenticate }
  | contentType (contentType : Option Bytes) :
      ResponseSetter .contentType fun header => { header with contentType }
  | scale (scale : UInt32) : ResponseSetter .scale fun header => { header with scale }
  | publicMethods (publicMethods : UInt32) :
      ResponseSetter .publicMethods fun header => { header with publicMethods }
  | allow (allowedMethods : UInt32) :
      ResponseSetter .allow fun header => { header with allowedMethods }
  | rtpInfo (rtpInfo : List RtspRtpInfoHeader) :
      ResponseSetter .rtpInfo fun header => { header with rtpInfo }
  | server (server : Option Bytes) : ResponseSetter .server fun header => { header with server }
  | range (range : RtspRange) : ResponseSetter .range fun header => { header with range }
  | contentLength (contentLength : Int32) :
      ResponseSetter .contentLength fun header => { header with contentLength }
  | contentEncoding (contentEncoding : Option Bytes) :
      ResponseSetter .contentEncoding fun header => { header with contentEncoding }
  | contentLanguage (contentLanguage : Option Bytes) :
      ResponseSetter .contentLanguage fun header => { header with contentLanguage }
  | contentBase (contentBase : Option Bytes) :
      ResponseSetter .contentBase fun header => { header with contentBase }
  | contentLocation (contentLocation : Option Bytes) :
      ResponseSetter .contentLocation fun header => { header with contentLocation }
  | ext (ext : List RtspHeaderExt) :
      ResponseSetter .ext fun header => { header with ext := header.ext ++ ext }

theorem ResponseSetter.comm
    {f g : ResponseField} {u v : RtspResponseHeader → RtspResponseHeader}
    (hu : ResponseSetter f u) (hv : ResponseSetter g v) (hne : f ≠ g)
    (header : RtspResponseHeader) : u (v header) = v (u header) := by
  cases hu <;> cases hv <;> first | rfl | exact absurd rfl hne

theorem responseUpdate_sets
    {f : ResponseField} {field value : Bytes} {header header' : RtspResponseHeader}
    (h : responseUpdate P f field value header = .ok (.yield header')) :
    ∃ u, ResponseSetter f u ∧
      ∀ header, responseUpdate P f field value header = .ok (.yield (u header)) := by
  cases f with
  | cseq => exact ⟨_, .cseq _, fun _ => rfl⟩
  | date =>
      obtain ⟨date, hdate, -⟩ := except_bind_ok.mp h
      exact ⟨_, .date date, fun header => by simp [responseUpdate, hdate]⟩
  | session => exact ⟨_, .session _ _, fun _ => rfl⟩
  | transport =>
      obtain ⟨transport, htransport, hyield⟩ := except_bind_ok.mp h
      cases transport with
      | nil => simp at hyield
      | cons trsp rest =>
          exact ⟨_, .transport (some trsp), fun header => by simp [responseUpdate, htransport]⟩
  | authenticate =>
      obtain ⟨auth, hauth, -⟩ := except_bind_ok.mp h
      exact ⟨_, .authenticate (some auth), fun header => by simp [responseUpdate, hauth]⟩
  | contentType => exact ⟨_, .contentType _, fun _ => rfl⟩
  | scale => exact ⟨_, .scale _, fun _ => rfl⟩
  | publicMethods => exact ⟨_, .publicMethods _, fun _ => rfl⟩
  | allow => exact ⟨_, .allow _, fun _ => rfl⟩
  | rtpInfo =>
      obtain ⟨rtpInfo, hinfo, hyield⟩ := except_bind_ok.mp h
      have hne : rtpInfo ≠ [] := by
        rintro rfl
        simp at hyield
      exact ⟨_, .rtpInfo rtpInfo, fun header => by simp [responseUpdate, hinfo, hne]⟩
  | server => exact ⟨_, .server _, fun _ => rfl⟩
  | range =>
      obtain ⟨range, hrange, -⟩ := except_bind_ok.mp h
      exact ⟨_, .range range, fun header => by simp [responseUpdate, hrange]⟩
  | contentLength => exact ⟨_, .contentLength _, fun _ => rfl⟩
  | contentEncoding => exact ⟨_, .contentEncoding _, fun _ => rfl⟩
  | contentLanguage => exact ⟨_, .contentLanguage _, fun _ => rfl⟩
  | contentBase => exact ⟨_, .contentBase _, fun _ => rfl⟩
  | contentLocation => exact ⟨_, .contentLocation _, fun _ => rfl⟩
  | ext => exact ⟨_, .ext _, fun _ => rfl⟩

/-- A line of a response that ends the reader. -/
inductive StopsResponse (line : NamedLine ResponseField.name) : Prop where
  | transport (hfield : line.field = .transport)
      (hread : rtspTransportHeaderRead (dropSpace line.value) 1 = .ok [])
  | rtpInfo (hfield : line.field = .rtpInfo)
      (hread : rtspRtpInfoHeaderRead (dropSpace line.value) 1 = .ok [])

def responseStep (header : RtspResponseHeader) (line : NamedLine ResponseField.name) :
    Except Stop (ForInStep RtspResponseHeader) :=
  responseUpdate P line.field line.spelling (dropSpace line.value) header

theorem responseStep_outcome
    (header header' : RtspResponseHeader) (line : NamedLine ResponseField.name) :
    lineOutcome (responseStep P header line) = lineOutcome (responseStep P header' line) := by
  have hread : ∀ header, responseStep P header line = responseFieldRead P header line.text := by
    intro header
    rw [responseFieldRead_eq]
    exact (line.read responseFields_plain (mem_responseFields _) responseFields_apart _ header).symm
  rw [hread, hread]
  exact responseFieldRead_outcome P header header' line.text

/-- A `Transport` line of a response in which the reader comes to a bare
`interleaved`. -/
def FaultsResponse (line : NamedLine ResponseField.name) : Prop :=
  line.field = .transport ∧ ReachesBareInterleaved 1 (dropSpace line.value)

theorem responseStep_faults_iff
    (header : RtspResponseHeader) (line : NamedLine ResponseField.name) :
    Faults (responseStep P header line) ↔ FaultsResponse line := by
  unfold responseStep FaultsResponse
  cases hfield : line.field with
  | transport =>
      rw [responseUpdate, faults_transport_bind, eq_self, true_and]
      intro transport
      cases transport <;> simp
  | date =>
      refine iff_of_false ?_ (by simp)
      exact not_faults_bind (dateRead_not_faults P _) fun _ => not_faults_ok _
  | authenticate =>
      refine iff_of_false ?_ (by simp)
      exact not_faults_bind (rtspAuthorizationHeaderRead_not_faults _) fun _ => not_faults_ok _
  | rtpInfo =>
      refine iff_of_false ?_ (by simp)
      exact not_faults_bind (rtspRtpInfoHeaderRead_not_faults _ _) fun _ =>
        not_faults_ite (fun _ => not_faults_ok _) (not_faults_ok _)
  | range =>
      refine iff_of_false ?_ (by simp)
      exact not_faults_bind (rtspRangeHeaderRead_not_faults P _) fun _ => not_faults_ok _
  | _ => simp [responseUpdate]

theorem responseStep_commutes
    {t u : NamedLine ResponseField.name} (hne : t.field ≠ u.field) :
    Commutes (responseStep P) t u := by
  intro s s₁ s₂ ht hu
  obtain ⟨f, hf, ht'⟩ := responseUpdate_sets P ht
  obtain ⟨g, hg, hu'⟩ := responseUpdate_sets P hu
  unfold responseStep at ht hu ⊢
  rw [ht', Except.ok.injEq, ForInStep.yield.injEq] at ht
  rw [hu', Except.ok.injEq, ForInStep.yield.injEq] at hu
  refine ⟨g s, hu' s, ?_⟩
  rw [ht', hf.comm hg hne, ht, hu]

theorem responseStep_done
    {line : NamedLine ResponseField.name} {header header' : RtspResponseHeader}
    (h : responseStep P header line = .ok (.done header')) : StopsResponse line := by
  unfold responseStep at h
  cases hfield : line.field with
  | transport =>
      rw [hfield] at h
      obtain ⟨transport, htransport, hdone⟩ := except_bind_ok.mp h
      cases transport with
      | nil => exact .transport hfield htransport
      | cons trsp rest => simp at hdone
  | rtpInfo =>
      rw [hfield] at h
      obtain ⟨rtpInfo, hinfo, hdone⟩ := except_bind_ok.mp h
      split at hdone
      next hnil =>
        subst hnil
        exact .rtpInfo hfield hinfo
      next => simp at hdone
  | date =>
      rw [hfield] at h
      obtain ⟨date, -, hdone⟩ := except_bind_ok.mp h
      simp at hdone
  | authenticate =>
      rw [hfield] at h
      obtain ⟨auth, -, hdone⟩ := except_bind_ok.mp h
      simp at hdone
  | range =>
      rw [hfield] at h
      obtain ⟨range, -, hdone⟩ := except_bind_ok.mp h
      simp at hdone
  | _ =>
      rw [hfield] at h
      simp [responseUpdate] at h

/-- Where no entry has been read before, such a line leaves the header alone. -/
theorem StopsResponse.step
    {line : NamedLine ResponseField.name} (h : StopsResponse line) {header : RtspResponseHeader}
    (hnone : line.field = .rtpInfo → header.rtpInfo = []) :
    responseStep P header line = .ok (.done header) := by
  unfold responseStep
  cases h with
  | transport hfield hread =>
      rw [hfield]
      simp [responseUpdate, hread]
  | rtpInfo hfield hread =>
      rw [hfield]
      simp [responseUpdate, hread, ← hnone hfield]

theorem ResponseSetter.rtpInfo_eq
    {f : ResponseField} {u : RtspResponseHeader → RtspResponseHeader} (hu : ResponseSetter f u)
    (hne : f ≠ .rtpInfo) (header : RtspResponseHeader) : (u header).rtpInfo = header.rtpInfo := by
  cases hu <;> first | rfl | exact absurd rfl hne

theorem responseOrderFree_iff
    {lines : List (NamedLine ResponseField.name)} (hdistinct : (lines.map NamedLine.field).Nodup)
    {header : RtspResponseHeader} (hnone : header.rtpInfo = []) :
    OrderFree (responseStep P) lines header ↔
      (∀ line ∈ lines, ¬ StopsResponse line) ∨
        ∀ line ∈ lines, Inert (responseStep P) header line := by
  have hstops : (∀ line ∈ lines, ∀ s₁ s₂, responseStep P s₁ line ≠ .ok (.done s₂)) ↔
      ∀ line ∈ lines, ¬ StopsResponse line := by
    constructor
    · intro h line hline hstop
      exact h line hline _ _ (hstop.step P fun _ => hnone)
    · intro h line hline s₁ s₂ hdone
      exact h line hline (responseStep_done P hdone)
  rw [orderFree_iff (responseStep_outcome P), hstops]
  · have hpairs : lines.Pairwise fun t u => t.field ≠ u.field := by
      rwa [List.Nodup, List.pairwise_map] at hdistinct
    apply hpairs.imp
    intro t u hne
    exact ⟨responseStep_commutes P hne, responseStep_commutes P hne.symm⟩
  · intro t ht s₁ s₂ hdone
    have hstop := responseStep_done P hdone
    refine ⟨hstop.step P fun _ => hnone, fun u hu hut s₃ hu' => ?_⟩
    obtain ⟨v, hv, hv'⟩ := responseUpdate_sets P hu'
    unfold responseStep at hu'
    rw [hv', Except.ok.injEq, ForInStep.yield.injEq] at hu'
    apply hstop.step P
    intro hfield
    have hne : u.field ≠ .rtpInfo := by
      intro hsame
      exact hut (List.inj_on_of_nodup_map hdistinct hu ht (hsame.trans hfield.symm))
    rw [← hu', hv.rtpInfo_eq hne, hnone]

end Setters

/-! ## Whole headers -/

theorem requestLineRead_start
    {line : Bytes} {header : RtspRequestHeader} (h : requestLineRead line = .ok header) :
    header.transport = [] := by
  simp only [requestLineRead, strtokR_some, strtokR_none_some, orFault_ok, except_ok_bind] at h
  split at h
  next => simp at h
  next =>
    split at h
    next => simp at h
    next =>
      split at h
      next => simp at h
      next => cases h; rfl

theorem statusLineRead_start
    {line : Bytes} {header : RtspResponseHeader} (h : statusLineRead line = .ok header) :
    header.rtpInfo = [] := by
  simp only [statusLineRead, strtokR_some, strtokR_none_some, orFault_ok, except_ok_bind] at h
  split at h
  next => simp at h
  next =>
    split at h
    next => cases h; rfl
    next => simp at h

/-- What is read from a text of one line for each of some fields does not depend
on the order of these lines exactly when none of them comes to a bare
`interleaved`, and none of them ends the reader or none of them changes what the
first line says. -/
theorem headerOrder_free_iff
    (P : Platform) (start : Bytes) (hstart : CleanLine start) :
    (∀ lines : List (NamedLine RequestField.name), (lines.map NamedLine.field).Nodup →
      ((∀ lines' : List (NamedLine RequestField.name), lines'.Perm lines →
          SameResult (rtspRequestHeaderRead P (bareText start (lines'.map NamedLine.text)))
            (rtspRequestHeaderRead P (bareText start (lines.map NamedLine.text)))) ↔
        ∀ header, requestLineRead start = .ok header →
          (∀ line ∈ lines, ¬ FaultsRequest line) ∧
            ((∀ line ∈ lines, ¬ StopsRequest line) ∨
              ∀ line ∈ lines, Inert (requestStep P) header line))) ∧
    (∀ lines : List (NamedLine ResponseField.name), (lines.map NamedLine.field).Nodup →
      ((∀ lines' : List (NamedLine ResponseField.name), lines'.Perm lines →
          SameResult (rtspResponseHeaderRead P (bareText start (lines'.map NamedLine.text)))
            (rtspResponseHeaderRead P (bareText start (lines.map NamedLine.text)))) ↔
        ∀ header, statusLineRead start = .ok header →
          (∀ line ∈ lines, ¬ FaultsResponse line) ∧
            ((∀ line ∈ lines, ¬ StopsResponse line) ∨
              ∀ line ∈ lines, Inert (responseStep P) header line))) := by
  constructor
  · intro lines hdistinct
    have hread : ∀ lines : List (NamedLine RequestField.name),
        rtspRequestHeaderRead P (bareText start (lines.map NamedLine.text)) =
          requestLineRead start >>= loopResult (requestStep P) lines := by
      intro lines
      rw [rtspRequestHeaderRead_eq, requestFieldRead_eq]
      exact readLines_named requestFields_apart requestFields_plain mem_requestFields _ _ hstart
        lines
    simp only [hread]
    rw [sameResult_read_iff (requestStep_outcome P) (requestLineRead_not_faults start)]
    refine forall_congr' fun header => forall_congr' fun hfirst => ?_
    rw [requestOrderFree_iff P hdistinct (requestLineRead_start hfirst)]
    simp only [requestStep_faults_iff]
  · intro lines hdistinct
    have hread : ∀ lines : List (NamedLine ResponseField.name),
        rtspResponseHeaderRead P (bareText start (lines.map NamedLine.text)) =
          statusLineRead start >>= loopResult (responseStep P) lines := by
      intro lines
      rw [rtspResponseHeaderRead_eq, responseFieldRead_eq]
      exact readLines_named responseFields_apart responseFields_plain mem_responseFields _ _ hstart
        lines
    simp only [hread]
    rw [sameResult_read_iff (responseStep_outcome P) (statusLineRead_not_faults start)]
    refine forall_congr' fun header => forall_congr' fun hfirst => ?_
    rw [responseOrderFree_iff P hdistinct (statusLineRead_start hfirst)]
    simp only [responseStep_faults_iff]

/-- `name: value` for the name as the table has it. -/
def namedRequestLine (field : RequestField) (value : Bytes) (hclean : FieldText value) :
    NamedLine RequestField.name where
  field
  spelling := field.name
  value := 0x20 :: value
  spelled := by simp [strcasecmpEq]
  clean := by
    intro b hb
    rcases List.mem_cons.mp hb with rfl | hb
    · decide
    · exact hclean b hb

def cseqAndAccept : List (NamedLine RequestField.name) :=
  [namedRequestLine .cseq (ascii "2") (by decide +kernel),
    namedRequestLine .accept (ascii "application/sdp") (by decide +kernel)]

theorem headerOrder_free_cseqAndAccept :
    SameResult
      (rtspRequestHeaderRead .bare (bareText (ascii "OPTIONS * RTSP/1.0")
        (cseqAndAccept.reverse.map NamedLine.text)))
      (rtspRequestHeaderRead .bare (bareText (ascii "OPTIONS * RTSP/1.0")
        (cseqAndAccept.map NamedLine.text))) := by
  have hfield : ∀ line ∈ cseqAndAccept, line.field ≠ .transport := by
    intro line hline
    simp only [cseqAndAccept, List.mem_cons, List.not_mem_nil, or_false] at hline
    rcases hline with rfl | rfl
    · simp [namedRequestLine]
    · simp [namedRequestLine]
  apply ((headerOrder_free_iff .bare (ascii "OPTIONS * RTSP/1.0")
    ⟨by decide +kernel, by decide +kernel⟩).1 cseqAndAccept (by decide +kernel)).mpr _ _
    (List.reverse_perm _)
  intro header _
  refine ⟨fun line hline hfault => ?_, .inl fun line hline hstop => ?_⟩
  · exact hfield line hline hfault.1
  · exact hfield line hline hstop.1

def emptyTransportFirst : Bytes :=
  bareText (ascii "ANNOUNCE rtsp://h/p RTSP/1.0") [ascii "Transport: ", ascii "Content-Length: 5"]

def emptyTransportLast : Bytes :=
  bareText (ascii "ANNOUNCE rtsp://h/p RTSP/1.0") [ascii "Content-Length: 5", ascii "Transport: "]

/-- Behind an empty `Transport` line the length of the body is not read. -/
theorem emptyTransport_hidesLength :
    (rtspRequestHeaderRead .bare emptyTransportFirst).map RtspRequestHeader.contentLength =
        .ok 0 ∧
      (rtspRequestHeaderRead .bare emptyTransportLast).map RtspRequestHeader.contentLength =
        .ok 5 ∧
      ¬ SameResult (rtspRequestHeaderRead .bare emptyTransportFirst)
        (rtspRequestHeaderRead .bare emptyTransportLast) := by
  have hfirst : (rtspRequestHeaderRead .bare emptyTransportFirst).map
      RtspRequestHeader.contentLength = .ok 0 := by decide +kernel
  have hlast : (rtspRequestHeaderRead .bare emptyTransportLast).map
      RtspRequestHeader.contentLength = .ok 5 := by decide +kernel
  refine ⟨hfirst, hlast, ?_⟩
  rintro (⟨e, e', he, -⟩ | ⟨header, hheader, hheader'⟩)
  · rw [he] at hfirst
    cases hfirst
  · rw [hheader] at hfirst
    rw [hheader'] at hlast
    cases hfirst.symm.trans hlast

end Librtsp
