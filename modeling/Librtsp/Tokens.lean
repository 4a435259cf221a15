import Librtsp.CString

/-!
# Tokens of a text that is put together from pieces

The tokens of a text are its longest pieces without a delimiter.  A text that is
cut next to a delimiter has the tokens of its two parts.
-/

namespace CString

variable {delims : Bytes}

/-- A non-empty text without delimiters. -/
structure IsToken (delims token : Bytes) : Prop where
  nonempty : token ≠ []
  free : ∀ b ∈ token, b ∉ delims

/-- The text is at its end or at a delimiter. -/
def AtDelimiter (delims s : Bytes) : Prop :=
  ∀ b ∈ s.head?, b ∈ delims

@[simp] theorem atDelimiter_nil : AtDelimiter delims [] := by
  simp [AtDelimiter]

@[simp] theorem atDelimiter_cons {b : UInt8} {s : Bytes} :
    AtDelimiter delims (b :: s) ↔ b ∈ delims := by
  simp [AtDelimiter]

@[simp] theorem tokens_nil : tokens delims [] = [] := rfl

theorem strtok_delimiter {d : UInt8} (hd : d ∈ delims) (s : Bytes) :
    strtok delims (d :: s) = strtok delims s := by
  unfold strtok
  rw [List.dropWhile_cons_of_pos (by simpa using hd)]

theorem tokens_delimiter {d : UInt8} (hd : d ∈ delims) (s : Bytes) :
    tokens delims (d :: s) = tokens delims s := by
  rw [tokens_eq, tokens_eq delims s, strtok_delimiter hd]

theorem takeWhile_token
    {token rest : Bytes} (hfree : ∀ b ∈ token, b ∉ delims) (hrest : AtDelimiter delims rest) :
    (token ++ rest).takeWhile (!delims.contains ·) = token ∧
      (token ++ rest).dropWhile (!delims.contains ·) = rest := by
  have hall : ∀ b ∈ token, (!delims.contains b) = true := by
    intro b hb
    simpa using hfree b hb
  rw [List.takeWhile_append_of_pos hall, List.dropWhile_append_of_pos hall]
  cases rest with
  | nil => simp
  | cons d rest =>
      have hd : d ∈ delims := atDelimiter_cons.mp hrest
      simp [hd]

theorem strtok_token
    {token rest : Bytes} (htoken : IsToken delims token) (hrest : AtDelimiter delims rest) :
    strtok delims (token ++ rest) = some (token, rest.drop 1) := by
  obtain ⟨htake, hdrop⟩ := takeWhile_token htoken.free hrest
  unfold strtok
  cases token with
  | nil => exact absurd rfl htoken.nonempty
  | cons b token =>
      have hb : delims.contains b = false := by
        simpa using htoken.free b (by simp)
      rw [List.cons_append] at htake hdrop ⊢
      rw [List.dropWhile_cons_of_neg (by simpa using hb)]
      simp only [htake, hdrop]

/-- The token at the front of a text. -/
theorem tokens_token
    {token rest : Bytes} (htoken : IsToken delims token) (hrest : AtDelimiter delims rest) :
    tokens delims (token ++ rest) = token :: tokens delims rest := by
  rw [tokens_eq, strtok_token htoken hrest]
  cases rest with
  | nil => rfl
  | cons d rest =>
      dsimp only
      rw [List.drop_one, List.tail_cons, tokens_delimiter (atDelimiter_cons.mp hrest)]

theorem tokens_single {token : Bytes} (htoken : IsToken delims token) :
    tokens delims token = [token] := by
  simpa using tokens_token htoken atDelimiter_nil

/-- A text without tokens, or one that begins with delimiters and a token. -/
theorem text_cases (delims s : Bytes) :
    (∀ b ∈ s, b ∈ delims) ∨
      ∃ before token rest, s = before ++ (token ++ rest) ∧ (∀ b ∈ before, b ∈ delims) ∧
        IsToken delims token ∧ AtDelimiter delims rest := by
  by_cases hall : ∀ b ∈ s, b ∈ delims
  · exact .inl hall
  · refine .inr ⟨s.takeWhile (delims.contains ·),
      (s.dropWhile (delims.contains ·)).takeWhile (!delims.contains ·),
      (s.dropWhile (delims.contains ·)).dropWhile (!delims.contains ·), ?_, ?_, ?_, ?_⟩
    · rw [List.takeWhile_append_dropWhile, List.takeWhile_append_dropWhile]
    · intro b hb
      simpa using List.mem_takeWhile_imp hb
    · constructor
      · intro hnil
        apply hall
        have hnone := List.takeWhile_eq_nil_iff.mp hnil
        intro b hb
        by_contra hnot
        have hlong : s.dropWhile (delims.contains ·) ≠ [] := by
          rw [Ne, List.dropWhile_eq_nil_iff]
          intro hevery
          exact hnot (by simpa using hevery b hb)
        have hhead := List.head_dropWhile_not (delims.contains ·) hlong
        have hpos := List.length_pos_iff.mpr hlong
        exact hnone hpos (by simpa [List.head_eq_getElem] using hhead)
      · intro b hb
        simpa using List.mem_takeWhile_imp hb
    · intro b hb
      have hhead := List.head?_dropWhile_not (!delims.contains ·)
        (s.dropWhile (delims.contains ·))
      rw [Option.mem_def.mp hb] at hhead
      simpa using hhead

theorem tokens_delimiters {before : Bytes} (hbefore : ∀ b ∈ before, b ∈ delims) (s : Bytes) :
    tokens delims (before ++ s) = tokens delims s := by
  induction before with
  | nil => rfl
  | cons b before ih =>
      rw [List.cons_append, tokens_delimiter (hbefore b (by simp))]
      exact ih fun b hb => hbefore b (by simp [hb])

theorem tokens_isToken {s token : Bytes} (h : token ∈ tokens delims s) : IsToken delims token := by
  induction hlength : s.length using Nat.strong_induction_on generalizing s with
  | _ n ih =>
      subst hlength
      rcases text_cases delims s with hall | ⟨before, first, rest, rfl, hbefore, hfirst, hrest⟩
      · rw [← List.append_nil s, tokens_delimiters hall] at h
        simp at h
      · rw [tokens_delimiters hbefore, tokens_token hfirst hrest] at h
        rcases List.mem_cons.mp h with rfl | h
        · exact hfirst
        · have hpos := List.length_pos_iff.mpr hfirst.nonempty
          refine ih rest.length ?_ h rfl
          simp only [List.length_append]
          omega

/-- A text cut before a delimiter. -/
theorem tokens_append (s : Bytes) {t : Bytes} (ht : AtDelimiter delims t) :
    tokens delims (s ++ t) = tokens delims s ++ tokens delims t := by
  induction hlength : s.length using Nat.strong_induction_on generalizing s with
  | _ n ih =>
      subst hlength
      rcases text_cases delims s with hall | ⟨before, token, rest, rfl, hbefore, htoken, hrest⟩
      · have hnone : tokens delims s = [] := by
          rw [← List.append_nil s, tokens_delimiters hall, tokens_nil]
        rw [tokens_delimiters hall, hnone, List.nil_append]
      · have hrest' : AtDelimiter delims (rest ++ t) := by
          cases rest with
          | nil => exact ht
          | cons b rest => exact atDelimiter_cons.mpr (atDelimiter_cons.mp hrest)
        have hpos := List.length_pos_iff.mpr htoken.nonempty
        have hshort : rest.length < (before ++ (token ++ rest)).length := by
          simp only [List.length_append]
          omega
        rw [List.append_assoc, List.append_assoc, tokens_delimiters hbefore,
          tokens_delimiters hbefore, tokens_token htoken hrest', tokens_token htoken hrest,
          ih rest.length hshort rest rfl, List.cons_append]

/-- A text cut at a delimiter. -/
theorem tokens_append_cons (s : Bytes) {d : UInt8} (hd : d ∈ delims) (t : Bytes) :
    tokens delims (s ++ d :: t) = tokens delims s ++ tokens delims t := by
  rw [tokens_append s (atDelimiter_cons.mpr hd), tokens_delimiter hd]

/-- The first token and the tokens of the text after it are all tokens. -/
theorem tokens_first (delims s : Bytes) :
    tokens delims s =
      (firstToken delims s).toList ++ tokens delims (afterToken delims s) := by
  rw [tokens_eq]
  unfold firstToken afterToken
  cases strtok delims s with
  | none => simp
  | some cut => simp

/-- The token at the front of a text, and what the save pointer then stands on. -/
theorem firstToken_token
    {token : Bytes} (htoken : IsToken delims token) (rest : Bytes)
    (hrest : AtDelimiter delims rest) :
    firstToken delims (token ++ rest) = some token ∧
      afterToken delims (token ++ rest) = rest.drop 1 := by
  unfold firstToken afterToken
  rw [strtok_token htoken hrest]
  exact ⟨rfl, rfl⟩

/-- A cut keeps bytes of the text only. -/
theorem mem_of_strtok {s token rest : Bytes} (h : strtok delims s = some (token, rest)) :
    (∀ b ∈ token, b ∈ s) ∧ ∀ b ∈ rest, b ∈ s := by
  have hdrop := (List.dropWhile_suffix (delims.contains ·) (l := s)).subset
  unfold strtok at h
  split at h
  next => simp at h
  next b tail hs =>
    rw [hs] at hdrop
    simp only [Option.some.injEq, Prod.mk.injEq] at h
    obtain ⟨rfl, rfl⟩ := h
    constructor
    · intro c hc
      exact hdrop ((List.takeWhile_prefix _).subset hc)
    · intro c hc
      exact hdrop ((List.dropWhile_suffix _).subset (List.mem_of_mem_drop hc))

theorem mem_of_firstToken {s token : Bytes} (h : firstToken delims s = some token) {b : UInt8}
    (hb : b ∈ token) : b ∈ s := by
  unfold firstToken at h
  obtain ⟨cut, hcut, rfl⟩ := Option.map_eq_some_iff.mp h
  exact (mem_of_strtok hcut).1 b hb

theorem mem_of_afterToken {s : Bytes} {b : UInt8} (hb : b ∈ afterToken delims s) : b ∈ s := by
  unfold afterToken at hb
  cases hcut : strtok delims s with
  | none => simp [hcut] at hb
  | some cut =>
      rw [hcut] at hb
      exact (mem_of_strtok hcut).2 b hb

/-- Without delimiters the whole text is a token. -/
theorem firstToken_all {s : Bytes} (hs : s ≠ []) : firstToken [] s = some s := by
  have htoken : IsToken [] s := ⟨hs, by simp⟩
  simpa using (firstToken_token htoken [] atDelimiter_nil).1

/-- A key, the delimiter and a value. -/
theorem keyValue_tokens
    (key : Bytes) {d : UInt8} (hkey : key ≠ []) (hfree : d ∉ key) (value : Bytes)
    (hvalue : value ≠ []) :
    firstToken [d] (key ++ d :: value) = some key ∧
      firstToken [] (afterToken [d] (key ++ d :: value)) = some value := by
  have htoken : IsToken [d] key := by
    refine ⟨hkey, fun b hb hmem => hfree ?_⟩
    rw [List.mem_singleton] at hmem
    exact hmem ▸ hb
  obtain ⟨hfirst, hafter⟩ := firstToken_token htoken (d :: value) (by simp)
  rw [hfirst, hafter, List.drop_one, List.tail_cons, firstToken_all hvalue]
  exact ⟨rfl, rfl⟩

end CString
