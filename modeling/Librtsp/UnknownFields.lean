import Librtsp.FieldLines

/-!
# Lines of unknown fields

A line whose name the reader does not know is passed over, wherever it stands
after the first line.  A name is known as soon as it begins with the name of a
field, so that a longer name is taken for that field.
-/

namespace Librtsp

open CString

/-! ## Occurrences of a pattern -/

theorem strnstrFrom_first
    {c : UInt8} {find s : Bytes} {i p : Nat} (h : strnstrFrom c find i s = some p) :
    ∃ k, p = i + k ∧ c :: find <+: s.drop k ∧ (∀ b ∈ s.take k, b ≠ 0) ∧
      ∀ j < k, ¬ c :: find <+: s.drop j := by
  induction s generalizing i with
  | nil => simp [strnstrFrom] at h
  | cons b s ih =>
      by_cases hmatch : c :: find <+: b :: s
      · obtain ⟨more, hmore⟩ := hmatch
        rw [← hmore, List.cons_append, strnstrFrom_match, Option.some.injEq] at h
        exact ⟨0, h.symm, ⟨more, hmore⟩, by simp, by simp⟩
      · unfold strnstrFrom at h
        split at h
        next =>
          split at h
          next hfound =>
            obtain ⟨rfl, hfind⟩ := hfound
            refine absurd ⟨s.drop find.length, ?_⟩ hmatch
            have htake : s.take find.length = find := by simpa [strncmpEq] using hfind
            conv_rhs => rw [← List.take_append_drop find.length s, htake]
            rfl
          next =>
            split at h
            next => simp at h
            next hb =>
              obtain ⟨k, rfl, hoccurs, hnul, hfirst⟩ := ih h
              refine ⟨k + 1, by omega, hoccurs, ?_, ?_⟩
              · intro b' hb'
                rw [List.take_succ_cons, List.mem_cons] at hb'
                rcases hb' with rfl | hb'
                · exact hb
                · exact hnul b' hb'
              · intro j hj
                cases j with
                | zero => exact hmatch
                | succ j => exact hfirst j (by omega)
        next => simp at h

theorem strnstrFrom_found
    {c : UInt8} {find s : Bytes} (i : Nat) {k : Nat}
    (hoccurs : c :: find <+: s.drop k) (hnul : ∀ b ∈ s.take k, b ≠ 0) :
    ∃ p ≤ i + k, strnstrFrom c find i s = some p := by
  induction s generalizing i k with
  | nil => simp at hoccurs
  | cons b s ih =>
      by_cases hmatch : c :: find <+: b :: s
      · obtain ⟨more, hmore⟩ := hmatch
        refine ⟨i, Nat.le_add_right i k, ?_⟩
        rw [← hmore, List.cons_append, strnstrFrom_match]
      · cases k with
        | zero => exact absurd hoccurs hmatch
        | succ k =>
            have hb : b ≠ 0 := hnul b (by simp)
            have hskip : b = c → s.take find.length ≠ find := by
              intro hbc htake
              apply hmatch
              refine ⟨s.drop find.length, ?_⟩
              conv_rhs => rw [← List.take_append_drop find.length s, htake, hbc]
              rfl
            rw [strnstrFrom_skip i hb hskip]
            obtain ⟨p, hp, hfound⟩ := ih (i + 1) hoccurs fun b' hb' => hnul b' (by
              rw [List.take_succ_cons]
              exact List.mem_cons_of_mem b hb')
            exact ⟨p, by omega, hfound⟩

/-! ## Occurrences beside an inserted line -/

/-- A pattern that is part of neither of two texts is not part of both. -/
theorem prefix_append_iff
    {pat u v : Bytes} (hu : ∃ b ∈ u, b ∉ pat) : pat <+: u ++ v ↔ pat <+: u := by
  constructor
  · intro h
    rcases List.prefix_or_prefix_of_prefix h (List.prefix_append u v) with h | h
    · exact h
    · obtain ⟨b, hb, hnot⟩ := hu
      exact absurd (h.subset hb) hnot
  · intro h
    exact h.trans (List.prefix_append u v)

section Insertion

/-- What is inserted: a line end and a line. -/
structure Inserted (X : Bytes) : Prop where
  split : ∃ eol line, X = eol ++ line ∧ eol ∈ [rtspCrlf, [0x0a], [0x0d]] ∧ CleanLine line

/-- The four ends of a header. -/
def blankLines : List Bytes :=
  [crlfCrlf, lfCrlfCr, lfLf, crCr]

variable {before X R pat : Bytes} (hbefore : ∃ b ∈ before.getLast?, b ∉ rtspCrlf)
  (hX : Inserted X) (hpat : pat ∈ blankLines)

theorem pattern_bytes (hpat : pat ∈ blankLines) : ∀ b ∈ pat, b ∈ rtspCrlf := by
  have hall : ∀ pat ∈ blankLines, ∀ b ∈ pat, b ∈ rtspCrlf := by decide +kernel
  exact hall pat hpat

include hX hpat in
/-- No end of a header begins in the insertion. -/
theorem not_prefix_inserted {j : Nat} (hj : j < X.length) : ¬ pat <+: X.drop j ++ R := by
  obtain ⟨eol, line, rfl, heol, hline⟩ := hX.split
  have hnewline := pattern_bytes hpat
  have hother : ∀ b ∈ line, b ∉ pat := by
    intro b hb hmem
    have hcrlf := hnewline b hmem
    simp only [rtspCrlf, List.mem_cons, List.not_mem_nil, or_false] at hcrlf
    rcases hcrlf with rfl | rfl
    · exact (hline.clean _ hb).2.1 rfl
    · exact (hline.clean _ hb).2.2 rfl
  obtain ⟨b, rest, hcons⟩ := List.exists_cons_of_ne_nil hline.nonempty
  rw [prefix_append_iff]
  · by_cases hplace : j < eol.length
    · rw [List.drop_append_of_le_length hplace.le]
      intro hstarts
      have hshort : pat <+: eol.drop j := by
        rcases List.prefix_or_prefix_of_prefix hstarts (List.prefix_append _ _) with h | h
        · exact h
        · obtain ⟨tail, rfl⟩ := h
          rw [List.prefix_append_right_inj] at hstarts
          cases tail with
          | nil => simp
          | cons d tail =>
              rw [hcons, List.cons_prefix_cons] at hstarts
              exact absurd (by simp [hstarts.1]) (hother b (by simp [hcons]))
      have hnone : ∀ eol ∈ [rtspCrlf, [0x0a], [0x0d]], ∀ pat ∈ blankLines, ∀ j < 2,
          ¬ pat <+: eol.drop j := by decide +kernel
      have hlength : eol.length ≤ 2 := by
        have hle : ∀ eol ∈ [rtspCrlf, [0x0a], [0x0d]], eol.length ≤ 2 := by decide +kernel
        exact hle eol heol
      exact hnone eol heol pat hpat j (by omega) hshort
    · rw [List.drop_append, List.drop_eq_nil_of_le (by omega), List.nil_append]
      intro hstarts
      have hne : pat ≠ [] := by
        have hnonempty : ∀ pat ∈ blankLines, pat ≠ [] := by decide +kernel
        exact hnonempty pat hpat
      obtain ⟨d, tail, rfl⟩ := List.exists_cons_of_ne_nil hne
      have hd : d ∈ line := List.mem_of_mem_drop (hstarts.subset (by simp))
      exact hother d hd (by simp)
  · have hlast : line.getLast hline.nonempty ∈ (eol ++ line).drop j := by
      have hlast' : (eol ++ line).getLast (by simp [hline.nonempty]) =
          line.getLast hline.nonempty := List.getLast_append_of_ne_nil _ hline.nonempty
      rw [← hlast', ← List.getLast_drop (l := eol ++ line) (i := j) (by simpa using hj)]
      exact List.getLast_mem _
    exact ⟨_, hlast, hother _ (List.getLast_mem _)⟩

include hbefore hpat in
theorem prefix_before_iff {k : Nat} (hk : k < before.length) (S : Bytes) :
    pat <+: (before ++ S).drop k ↔ pat <+: before.drop k := by
  rw [List.drop_append_of_le_length hk.le, prefix_append_iff]
  obtain ⟨b, hb, hother⟩ := hbefore
  refine ⟨b, ?_, fun hmem => hother (pattern_bytes hpat b hmem)⟩
  have hne : before ≠ [] := by
    rintro rfl
    simp at hk
  rw [Option.mem_def, List.getLast?_eq_some_getLast hne, Option.some.injEq] at hb
  rw [← hb, ← List.getLast_drop (l := before) (i := k) (by simpa using hk)]
  exact List.getLast_mem _

/-- The search finds in the longer text what it finds behind the insertion. -/
theorem strnstr_insert
    (hbefore : ∃ b ∈ before.getLast?, b ∉ rtspCrlf) (hX : Inserted X) (hpat : pat ∈ blankLines)
    (hplace : ∀ p, rtspStrnstr (before ++ R) pat = some p → before.length ≤ p) :
    rtspStrnstr (before ++ (X ++ R)) pat =
      (rtspStrnstr (before ++ R) pat).map (· + X.length) := by
  have hnul : ∀ b ∈ X, b ≠ 0 := by
    obtain ⟨eol, line, rfl, heol, hline⟩ := hX.split
    have heols : ∀ eol ∈ [rtspCrlf, [0x0a], [0x0d]], ∀ b ∈ eol, b ≠ 0 := by decide +kernel
    intro b hb
    rcases List.mem_append.mp hb with hb | hb
    · exact heols eol heol b hb
    · exact (hline.clean b hb).1
  have hdrop : ∀ k, before.length + X.length ≤ k →
      (before ++ (X ++ R)).drop k = (before ++ R).drop (k - X.length) := by
    intro k hk
    obtain ⟨m, rfl⟩ := Nat.exists_eq_add_of_le hk
    have hback : before.length + X.length + m - X.length = before.length + m := by omega
    rw [hback, List.drop_length_add_append, Nat.add_assoc, List.drop_length_add_append,
      List.drop_length_add_append]
  obtain ⟨c, find, rfl⟩ : ∃ c find, pat = c :: find := by
    have hne : ∀ pat ∈ blankLines, pat ≠ [] := by decide +kernel
    exact List.exists_cons_of_ne_nil (hne pat hpat)
  -- an occurrence in the longer text is one in the shorter text
  have hback : ∀ k, c :: find <+: (before ++ (X ++ R)).drop k →
      (∀ b ∈ (before ++ (X ++ R)).take k, b ≠ 0) →
        before.length + X.length ≤ k ∧ c :: find <+: (before ++ R).drop (k - X.length) ∧
          ∀ b ∈ (before ++ R).take (k - X.length), b ≠ 0 := by
    intro k hoccurs hclean
    have hlate : before.length + X.length ≤ k := by
      by_contra hearly
      by_cases hk : k < before.length
      · rw [prefix_before_iff hbefore hpat hk, ← prefix_before_iff hbefore hpat hk R] at hoccurs
        have hclean' : ∀ b ∈ (before ++ R).take k, b ≠ 0 := by
          rw [List.take_append_of_le_length hk.le] at hclean ⊢
          exact hclean
        obtain ⟨p, hp, hfound⟩ := strnstrFrom_found 0 hoccurs hclean'
        have := hplace p hfound
        omega
      · rw [List.drop_append, List.drop_eq_nil_of_le (by omega), List.nil_append,
          List.drop_append_of_le_length (by omega)] at hoccurs
        exact not_prefix_inserted hX hpat (by omega) hoccurs
    refine ⟨hlate, hdrop k hlate ▸ hoccurs, ?_⟩
    intro b hb
    apply hclean
    rw [List.take_append] at hb ⊢
    rw [List.take_of_length_le (by omega)] at hb ⊢
    rcases List.mem_append.mp hb with hb | hb
    · exact List.mem_append_left _ hb
    · apply List.mem_append_right
      rw [List.take_append, List.take_of_length_le (by omega)]
      apply List.mem_append_right
      have hcount : k - X.length - before.length = k - before.length - X.length := by omega
      rwa [hcount] at hb
  cases hfound : rtspStrnstr (before ++ R) (c :: find) with
  | none =>
      cases hlonger : rtspStrnstr (before ++ (X ++ R)) (c :: find) with
      | none => rfl
      | some p =>
          obtain ⟨k, -, hoccurs, hclean, -⟩ := strnstrFrom_first hlonger
          obtain ⟨-, hoccurs', hclean'⟩ := hback k hoccurs hclean
          obtain ⟨p', -, hfound'⟩ := strnstrFrom_found 0 hoccurs' hclean'
          rw [rtspStrnstr, hfound'] at hfound
          simp at hfound
  | some p =>
      have hp := hplace p hfound
      obtain ⟨k, hk, hoccurs, hclean, hfirst⟩ := strnstrFrom_first hfound
      have hpk : p = k := by omega
      subst hpk
      have hoccurs' : c :: find <+: (before ++ (X ++ R)).drop (p + X.length) := by
        rw [hdrop _ (by omega), Nat.add_sub_cancel]
        exact hoccurs
      have hclean' : ∀ b ∈ (before ++ (X ++ R)).take (p + X.length), b ≠ 0 := by
        intro b hb
        rw [List.take_append, List.take_of_length_le (by omega)] at hb hclean
        rcases List.mem_append.mp hb with hb | hb
        · exact hclean b (List.mem_append_left _ hb)
        · rw [List.take_append] at hb
          rcases List.mem_append.mp hb with hb | hb
          · exact hnul b (List.mem_of_mem_take hb)
          · apply hclean b (List.mem_append_right _ _)
            have hcount : p + X.length - before.length - X.length = p - before.length := by omega
            rwa [hcount] at hb
      obtain ⟨p', hle, hlonger⟩ := strnstrFrom_found 0 hoccurs' hclean'
      obtain ⟨k', hk', hoccurs'', hclean'', -⟩ := strnstrFrom_first hlonger
      have hpk' : p' = k' := by omega
      subst hpk'
      obtain ⟨hlate, hold, -⟩ := hback p' hoccurs'' hclean''
      have heq : p' = p + X.length := by
        by_contra hne
        exact hfirst (p' - X.length) (by omega) hold
      rw [rtspStrnstr, hlonger, heq]
      rfl

end Insertion

/-- The header ends where it did, behind the insertion. -/
theorem findDoubleNewline_insert
    {before after X tail : Bytes} {n : Nat} (hbefore : ∃ b ∈ before.getLast?, b ∉ rtspCrlf)
    (hX : Inserted X)
    (hfind : findDoubleNewline (before ++ (after ++ tail)) =
      some ((before ++ after).length, n)) :
    findDoubleNewline (before ++ (X ++ (after ++ tail))) =
      some ((before ++ after).length + X.length, n) := by
  have hinsert : ∀ pat ∈ blankLines,
      (∀ p, rtspStrnstr (before ++ (after ++ tail)) pat = some p → before.length ≤ p) →
      rtspStrnstr (before ++ (X ++ (after ++ tail))) pat =
        (rtspStrnstr (before ++ (after ++ tail)) pat).map (· + X.length) :=
    fun pat hpat hplace => strnstr_insert hbefore hX hpat hplace
  have hplace : ∀ pat, rtspStrnstr (before ++ (after ++ tail)) pat = none ∨
      rtspStrnstr (before ++ (after ++ tail)) pat = some (before ++ after).length →
      ∀ p, rtspStrnstr (before ++ (after ++ tail)) pat = some p → before.length ≤ p := by
    intro pat h p hp
    rcases h with h | h
    · rw [h] at hp
      simp at hp
    · rw [h, Option.some.injEq] at hp
      rw [← hp, List.length_append]
      omega
  unfold findDoubleNewline at hfind ⊢
  cases h₁ : rtspStrnstr (before ++ (after ++ tail)) crlfCrlf with
  | some p =>
      simp only [h₁, Option.some.injEq, Prod.mk.injEq] at hfind
      obtain ⟨rfl, rfl⟩ := hfind
      rw [hinsert _ (by decide +kernel) (hplace _ (.inr h₁)), h₁]
      rfl
  | none =>
      rw [hinsert _ (by decide +kernel) (hplace _ (.inl h₁)), h₁]
      cases h₂ : rtspStrnstr (before ++ (after ++ tail)) lfCrlfCr with
      | some p =>
          simp only [h₁, h₂, Option.some.injEq, Prod.mk.injEq] at hfind
          obtain ⟨rfl, rfl⟩ := hfind
          rw [hinsert _ (by decide +kernel) (hplace _ (.inr h₂)), h₂]
          rfl
      | none =>
          rw [hinsert _ (by decide +kernel) (hplace _ (.inl h₂)), h₂]
          cases h₃ : rtspStrnstr (before ++ (after ++ tail)) lfLf with
          | some p =>
              simp only [h₁, h₂, h₃, Option.some.injEq, Prod.mk.injEq] at hfind
              obtain ⟨rfl, rfl⟩ := hfind
              rw [hinsert _ (by decide +kernel) (hplace _ (.inr h₃)), h₃]
              rfl
          | none =>
              rw [hinsert _ (by decide +kernel) (hplace _ (.inl h₃)), h₃]
              cases h₄ : rtspStrnstr (before ++ (after ++ tail)) crCr with
              | some p =>
                  simp only [h₁, h₂, h₃, h₄, Option.some.injEq, Prod.mk.injEq] at hfind
                  obtain ⟨rfl, rfl⟩ := hfind
                  rw [hinsert _ (by decide +kernel) (hplace _ (.inr h₄)), h₄]
                  rfl
              | none => simp [h₁, h₂, h₃, h₄] at hfind

/-! ## Inserting a line -/

/-- The line is put, with a line end of its own, after some line of the header. -/
def InsertsLine (line data data' : Bytes) : Prop :=
  ∃ before after tail eol n, data = before ++ (after ++ tail) ∧
    findDoubleNewline data = some ((before ++ after).length, n) ∧
    (∃ b ∈ before.getLast?, b ∉ rtspCrlf) ∧ AtDelimiter rtspCrlf after ∧
    eol ∈ [rtspCrlf, [0x0a], [0x0d]] ∧ data' = before ++ (eol ++ line ++ (after ++ tail))

section Readers

variable {σ : Type} {first : Bytes → Except Stop σ} {step : σ → Bytes → Except Stop (ForInStep σ)}

/-- A line that is passed over may stand anywhere. -/
theorem visit_insert
    {line : Bytes} (hline : ∀ s, step s line = .ok (.yield s)) (before after : List Bytes) (s : σ) :
    visit step (before ++ line :: after) s = visit step (before ++ after) s := by
  induction before generalizing s with
  | nil => simp only [List.nil_append, visit, hline]
  | cons l before ih =>
      simp only [List.cons_append, visit]
      split
      next => rfl
      next => rfl
      next s' _ => exact ih s'

theorem headerLines_insert
    {line data data' : Bytes} (hline : CleanLine line) (hinsert : InsertsLine line data data') :
    ∃ start before after, headerLines data = some (start, before ++ after) ∧
      headerLines data' = some (start, before ++ line :: after) := by
  obtain ⟨before, after, tail, eol, n, rfl, hfind, hlast, hafter, heol, rfl⟩ := hinsert
  have hX : Inserted (eol ++ line) := ⟨eol, line, rfl, heol, hline⟩
  have hfind' := findDoubleNewline_insert hlast hX hfind
  have htake : (before ++ (after ++ tail)).take (before ++ after).length = before ++ after := by
    rw [← List.append_assoc, List.take_left]
  have htake' : (before ++ (eol ++ line ++ (after ++ tail))).take
      ((before ++ after).length + (eol ++ line).length) = before ++ (eol ++ (line ++ after)) := by
    have hsplit : before ++ (eol ++ line ++ (after ++ tail)) =
        before ++ (eol ++ (line ++ after)) ++ tail := by simp
    have hlength : (before ++ after).length + (eol ++ line).length =
        (before ++ (eol ++ (line ++ after))).length := by
      simp only [List.length_append]
      omega
    rw [hsplit, hlength, List.take_left]
  have hdelims : ∀ eol ∈ [rtspCrlf, [0x0a], [0x0d]], AtDelimiter rtspCrlf eol ∧ eol ≠ [] ∧
      ∀ b ∈ eol, b ∈ rtspCrlf := by
    simp [rtspCrlf]
  obtain ⟨hat, hne, hall⟩ := hdelims eol heol
  have htokens : tokens rtspCrlf (before ++ (eol ++ (line ++ after))) =
      tokens rtspCrlf before ++ line :: tokens rtspCrlf after := by
    rw [tokens_append before, tokens_delimiters hall, tokens_token hline.isToken hafter]
    cases eol with
    | nil => exact absurd rfl hne
    | cons d eol => exact atDelimiter_cons.mpr (atDelimiter_cons.mp hat)
  cases hstart : tokens rtspCrlf before with
  | nil =>
      obtain ⟨b, hb, hother⟩ := hlast
      rcases text_cases rtspCrlf before with hnone | ⟨u, token, rest, rfl, hu, htoken, hrest⟩
      · exact absurd (hnone b (List.mem_of_getLast? hb)) hother
      · rw [tokens_delimiters hu, tokens_token htoken hrest] at hstart
        simp at hstart
  | cons start rest =>
      refine ⟨start, rest, tokens rtspCrlf after, ?_, ?_⟩
      · rw [headerLines_eq hfind, htake, tokens_append before hafter, hstart]
        rfl
      · rw [headerLines_eq hfind', htake', htokens, hstart]
        rfl

theorem readLines_insert
    {line data data' : Bytes} (hline : CleanLine line)
    (hpassed : ∀ s, step s line = .ok (.yield s)) (hinsert : InsertsLine line data data') :
    readLines first step data' = readLines first step data := by
  obtain ⟨start, before, after, hlines, hlines'⟩ := headerLines_insert hline hinsert
  unfold readLines
  rw [hlines, hlines']
  dsimp only
  cases first start with
  | error stop => rfl
  | ok s => rw [except_ok_bind, except_ok_bind, visit_insert hpassed]

end Readers

/-! ## Names that are taken for a field -/

/-- Text without NUL and line ends, and without a colon if it is a name. -/
def FieldText (s : Bytes) : Prop :=
  ∀ b ∈ s, b ≠ 0 ∧ b ≠ 0x0d ∧ b ≠ 0x0a

instance (s : Bytes) : Decidable (FieldText s) :=
  inferInstanceAs (Decidable (∀ b ∈ s, b ≠ 0 ∧ b ≠ 0x0d ∧ b ≠ 0x0a))

def fieldChar (c : Char) : Bool :=
  0x20 ≤ c.toNat && c.toNat < 256

theorem fieldText_ascii {s : String} (h : s.toList.all fieldChar = true) :
    FieldText (ascii s) := by
  intro b hb
  obtain ⟨c, hc, rfl⟩ := List.mem_map.mp hb
  have hchar := List.all_eq_true.mp h c hc
  simp only [fieldChar, Bool.and_eq_true, decide_eq_true_eq] at hchar
  have hvalue : (UInt8.ofNat c.toNat).toNat = c.toNat := Nat.mod_eq_of_lt hchar.2
  have hother : ∀ b : UInt8, b.toNat < 0x20 → UInt8.ofNat c.toNat ≠ b := by
    rintro b hlow rfl
    omega
  exact ⟨hother 0 (by decide), hother 0x0d (by decide), hother 0x0a (by decide)⟩

theorem cleanLine_fieldLine {name value : Bytes} (hname : FieldText name)
    (hvalue : FieldText value) : CleanLine (fieldLine name value) := by
  constructor
  · simp [fieldLine, ascii]
  · intro b hb
    unfold fieldLine at hb
    rcases List.mem_append.mp hb with hb | hb
    · rcases List.mem_append.mp hb with hb | hb
      · exact hname b hb
      · have hseparator : ∀ b ∈ ascii ": ", b ≠ 0 ∧ b ≠ 0x0d ∧ b ≠ 0x0a := by decide +kernel
        exact hseparator b hb
    · exact hvalue b hb

/-- Inserting a line of the name changes the outcome of no request text that is
accepted. -/
def IgnoredInRequests (name : Bytes) : Prop :=
  ∀ P value data data' header, FieldText value →
    InsertsLine (fieldLine name value) data data' →
      rtspRequestHeaderRead P data = .ok header → rtspRequestHeaderRead P data' = .ok header

def IgnoredInResponses (name : Bytes) : Prop :=
  ∀ P value data data' header, FieldText value →
    InsertsLine (fieldLine name value) data data' →
      rtspResponseHeaderRead P data = .ok header → rtspResponseHeaderRead P data' = .ok header

/-- The shortest text of a first line. -/
def bareText (start : Bytes) (lines : List Bytes) : Bytes :=
  joinLines (start :: lines) ++ rtspCrlf

theorem insertsLine_bareText {start : Bytes} (line : Bytes) (hstart : CleanLine start) :
    InsertsLine line (bareText start []) (bareText start [line]) := by
  have htext : HeaderText (bareText start []) := ⟨[start], by simp, by simpa using hstart, rfl⟩
  have hfind := (findDoubleNewline_headerText htext []).1
  refine ⟨start, [], crlfCrlf, rtspCrlf, 4, ?_, ?_, ?_, atDelimiter_nil, by simp, ?_⟩
  · simp [bareText, rtspCrlf, crlfCrlf]
  · rw [List.append_nil] at hfind
    rw [hfind]
    simp [bareText, rtspCrlf]
  · have hlast := List.getLast_mem hstart.nonempty
    refine ⟨start.getLast hstart.nonempty, ?_, ?_⟩
    · rw [List.getLast?_eq_some_getLast hstart.nonempty]
      rfl
    · simp [rtspCrlf, (hstart.clean _ hlast).2.1, (hstart.clean _ hlast).2.2]
  · simp [bareText, rtspCrlf, crlfCrlf]

/-- A reader passes over the lines of a name exactly when it does not know the
name, if each of its fields can change what is read of some first line. -/
theorem ignored_iff
    {F σ : Type} {nameOf : F → Bytes} {fields : List F} {first : Bytes → Except Stop σ}
    {update : Platform → F → Bytes → Bytes → σ → Except Stop (ForInStep σ)}
    (hapart : NamesApart nameOf fields) {name : Bytes} (hname : FieldText name)
    (hcolon : 0x3a ∉ name) {start : Bytes} (hstart : CleanLine start) {header : σ}
    (hfirst : first start = .ok header)
    (hchanges : ∀ f ∈ fields, ∃ P value, FieldText value ∧
      (update P f name value header >>= fun result => .ok (collected result)) ≠ .ok header) :
    (∀ P value data data' header, FieldText value →
      InsertsLine (fieldLine name value) data data' →
        readLines first (fieldLineRead nameOf fields (update P)) data = .ok header →
          readLines first (fieldLineRead nameOf fields (update P)) data' = .ok header) ↔
      ∀ f ∈ fields, fieldIs name (nameOf f) = false := by
  constructor
  · intro hignored f hf
    by_contra hfound
    rw [Bool.not_eq_false] at hfound
    obtain ⟨P, value, hvalue, hchange⟩ := hchanges f hf
    have hline := cleanLine_fieldLine hname hvalue
    have haccepted : readLines first (fieldLineRead nameOf fields (update P))
        (bareText start []) = .ok header := by
      rw [bareText, readLines_joinLines _ _ (by simpa using hstart), hfirst]
      rfl
    have hsame := hignored P value _ _ header hvalue
      (insertsLine_bareText (fieldLine name value) hstart) haccepted
    rw [bareText, readLines_joinLines _ _ (by simpa using ⟨hstart, hline⟩), hfirst, except_ok_bind,
      visit, fieldLineRead_known hapart hf (fieldSplit_fieldLine hcolon value) hfound] at hsame
    apply hchange
    rcases h : update P f name value header with stop | (s | s)
    · rw [h] at hsame
      exact hsame
    · rw [h] at hsame
      exact hsame
    · rw [h] at hsame
      exact hsame
  · intro hunknown P value data data' header' hvalue hinsert haccepted
    rw [readLines_insert (cleanLine_fieldLine hname hvalue) _ hinsert, haccepted]
    intro s
    exact fieldLineRead_unknown hcolon hunknown value

/-- A platform on which every text spells a number that is not zero. -/
def Platform.counting : Platform :=
  { Platform.bare with atof := fun _ => 1 }

theorem ignoredInRequests_iff
    {name : Bytes} (hname : FieldText name) (hcolon : 0x3a ∉ name) :
    IgnoredInRequests name ↔ ∀ f ∈ requestFields, fieldIs name f.name = false := by
  have hfirst : requestLineRead (ascii "OPTIONS * RTSP/1.0") =
      .ok { method := .options, uri := some (ascii "*") } := by decide +kernel
  unfold IgnoredInRequests
  simp only [rtspRequestHeaderRead_eq, requestFieldRead_eq]
  apply ignored_iff requestFields_apart hname hcolon _ hfirst
  · intro f _
    refine ⟨.counting, ascii "1", by decide +kernel, ?_⟩
    have hplain : ∀ f : RequestField, f ≠ .ext →
        (requestUpdate .counting f [] (ascii "1")
          { method := .options, uri := some (ascii "*") } >>= fun result =>
            .ok (collected result)) ≠ .ok { method := .options, uri := some (ascii "*") } := by
      intro f
      cases f <;> decide +kernel
    by_cases hext : f = .ext
    · subst hext
      simp [requestUpdate, collected]
    · have hfield : requestUpdate .counting f name = requestUpdate .counting f [] := by
        cases f with
        | ext => exact absurd rfl hext
        | _ => rfl
      rw [hfield]
      exact hplain f hext
  · exact ⟨by decide +kernel, by decide +kernel⟩

theorem ignoredInResponses_iff
    {name : Bytes} (hname : FieldText name) (hcolon : 0x3a ∉ name) :
    IgnoredInResponses name ↔ ∀ f ∈ responseFields, fieldIs name f.name = false := by
  have hfirst : statusLineRead (ascii "RTSP/1.0 200 OK") =
      .ok { statusCode := 200, statusString := some (ascii "OK") } := by decide +kernel
  unfold IgnoredInResponses
  simp only [rtspResponseHeaderRead_eq, responseFieldRead_eq]
  apply ignored_iff responseFields_apart hname hcolon _ hfirst
  · intro f _
    -- a method set has to name a method to be another one
    refine ⟨.counting, if f = .publicMethods ∨ f = .allow then ascii "PLAY" else ascii "1", ?_, ?_⟩
    · split <;> decide +kernel
    have hplain : ∀ f : ResponseField, f ≠ .ext →
        (responseUpdate .counting f []
          (if f = .publicMethods ∨ f = .allow then ascii "PLAY" else ascii "1")
          { statusCode := 200, statusString := some (ascii "OK") } >>= fun result =>
            .ok (collected result)) ≠
          .ok { statusCode := 200, statusString := some (ascii "OK") } := by
      intro f
      cases f <;> decide +kernel
    by_cases hext : f = .ext
    · subst hext
      simp [responseUpdate, collected]
    · have hfield : responseUpdate .counting f name = responseUpdate .counting f [] := by
        cases f with
        | ext => exact absurd rfl hext
        | _ => rfl
      rw [hfield]
      exact hplain f hext
  · exact ⟨by decide +kernel, by decide +kernel⟩

/-- Lines of a name are passed over, wherever they stand, exactly when the name
does not begin with the name of a field that the reader knows. -/
theorem unknownFields_ignored_iff
    (name : Bytes) (hname : FieldText name) (hcolon : 0x3a ∉ name) :
    (IgnoredInRequests name ↔ ∀ f ∈ requestFields, fieldIs name f.name = false) ∧
      (IgnoredInResponses name ↔ ∀ f ∈ responseFields, fieldIs name f.name = false) :=
  ⟨ignoredInRequests_iff hname hcolon, ignoredInResponses_iff hname hcolon⟩

theorem unknownFields_ignored_via :
    IgnoredInRequests (ascii "Via") ∧ IgnoredInResponses (ascii "Via") := by
  have hiff := unknownFields_ignored_iff (ascii "Via") (by decide +kernel) (by decide +kernel)
  exact ⟨hiff.1.mpr (by decide +kernel), hiff.2.mpr (by decide +kernel)⟩

/-- `Accept-Encoding` is not a field of the reader, and is read as `Accept`. -/
theorem acceptEncoding_notIgnored :
    (∀ f ∈ requestFields, strcasecmpEq (ascii "Accept-Encoding") f.name = false) ∧
      InsertsLine (fieldLine (ascii "Accept-Encoding") (ascii "gzip"))
        (bareText (ascii "DESCRIBE rtsp://h/p RTSP/1.0") [])
        (bareText (ascii "DESCRIBE rtsp://h/p RTSP/1.0") [ascii "Accept-Encoding: gzip"]) ∧
      (rtspRequestHeaderRead .bare (bareText (ascii "DESCRIBE rtsp://h/p RTSP/1.0") [])).map
        RtspRequestHeader.accept = .ok none ∧
      (rtspRequestHeaderRead .bare (bareText (ascii "DESCRIBE rtsp://h/p RTSP/1.0")
        [ascii "Accept-Encoding: gzip"])).map RtspRequestHeader.accept =
          .ok (some (ascii "gzip")) := by
  refine ⟨by decide +kernel, ?_, by decide +kernel, by decide +kernel⟩
  have hline : fieldLine (ascii "Accept-Encoding") (ascii "gzip") =
      ascii "Accept-Encoding: gzip" := by decide +kernel
  rw [← hline]
  exact insertsLine_bareText _ ⟨by decide +kernel, by decide +kernel⟩

end Librtsp
