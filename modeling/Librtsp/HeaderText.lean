import Librtsp.Message

/-!
# Header texts

A header text is a sequence of lines ended by CR LF, none of them empty, and a
blank line.  The search for the end of a header finds the blank line of such a
text whatever follows it, and finds nothing in a text that is cut short.
-/

namespace Librtsp

open CString

/-- A line without line ends and NULs. -/
structure CleanLine (line : Bytes) : Prop where
  nonempty : line ≠ []
  clean : ∀ b ∈ line, b ≠ 0 ∧ b ≠ 0x0d ∧ b ≠ 0x0a

def joinLines (lines : List Bytes) : Bytes :=
  (lines.map (· ++ rtspCrlf)).flatten

@[simp] theorem joinLines_append (lines lines' : List Bytes) :
    joinLines (lines ++ lines') = joinLines lines ++ joinLines lines' := by
  simp [joinLines]

/-- At least one line, and the blank line. -/
def HeaderText (text : Bytes) : Prop :=
  ∃ lines, lines ≠ [] ∧ (∀ line ∈ lines, CleanLine line) ∧ text = joinLines lines ++ rtspCrlf

@[simp] theorem joinLines_nil : joinLines [] = [] := rfl

@[simp] theorem joinLines_cons (line : Bytes) (lines : List Bytes) :
    joinLines (line :: lines) = line ++ (0x0d :: 0x0a :: joinLines lines) := by
  simp [joinLines, rtspCrlf]

/-! ## Steps of the search -/

theorem strnstrFrom_short {c : UInt8} {find s : Bytes} (i : Nat)
    (h : s.length ≤ find.length) : strnstrFrom c find i s = none := by
  cases s with
  | nil => rfl
  | cons b s =>
      unfold strnstrFrom
      rw [if_neg (by simpa using h)]

/-- A position without a match is passed. -/
theorem strnstrFrom_skip {c b : UInt8} {find s : Bytes} (i : Nat) (hb : b ≠ 0)
    (h : b = c → s.take find.length ≠ find) :
    strnstrFrom c find i (b :: s) = strnstrFrom c find (i + 1) s := by
  by_cases hlength : find.length < (b :: s).length
  · have hmatch : ¬ (b = c ∧ strncmpEq s find find.length = true) := by
      rintro ⟨hc, hfind⟩
      exact h hc (by simpa [strncmpEq] using hfind)
    rw [strnstrFrom, if_pos hlength, if_neg hmatch, if_neg hb]
  · simp only [List.length_cons] at hlength
    rw [strnstrFrom_short i (by simp only [List.length_cons]; omega),
      strnstrFrom_short (i + 1) (by omega)]

theorem strnstrFrom_match (c : UInt8) (find s : Bytes) (i : Nat) :
    strnstrFrom c find i (c :: (find ++ s)) = some i := by
  have hlength : find.length < (c :: (find ++ s)).length := by
    simp only [List.length_cons, List.length_append]
    omega
  rw [strnstrFrom, if_pos hlength, if_pos ⟨rfl, by simp [strncmpEq]⟩]

theorem strnstrFrom_append {c : UInt8} {find s : Bytes} {i p : Nat}
    (h : strnstrFrom c find i s = some p) (t : Bytes) :
    strnstrFrom c find i (s ++ t) = some p := by
  induction s generalizing i with
  | nil => simp [strnstrFrom] at h
  | cons b s ih =>
      rw [strnstrFrom] at h
      split at h
      next hlength =>
        have hfind : find.length ≤ s.length := by
          simp only [List.length_cons] at hlength
          omega
        rw [List.cons_append, strnstrFrom,
          if_pos (by simp only [List.length_cons, List.length_append]; omega)]
        have htake : strncmpEq (s ++ t) find find.length = strncmpEq s find find.length := by
          unfold strncmpEq
          rw [List.take_append_of_le_length hfind]
        rw [htake]
        split at h
        next hmatch => rw [if_pos hmatch]; exact h
        next hmatch =>
          rw [if_neg hmatch]
          split at h
          next => simp at h
          next hb =>
            rw [if_neg hb]
            exact ih h
      next => simp at h

theorem strnstrFrom_line {c : UInt8} {find line : Bytes} (i : Nat) (s : Bytes)
    (hline : ∀ b ∈ line, b ≠ 0 ∧ b ≠ c) :
    strnstrFrom c find i (line ++ s) = strnstrFrom c find (i + line.length) s := by
  induction line generalizing i with
  | nil => rfl
  | cons b line ih =>
      have hb := hline b (by simp)
      rw [List.cons_append, strnstrFrom_skip i hb.1 fun h => absurd h hb.2,
        ih (i + 1) fun b hb => hline b (by simp [hb])]
      simp only [List.length_cons]
      congr 1
      omega

/-! ## The blank line of a header text -/

/-- What follows a line end in a header text does not begin with LF, and begins
with CR only at the blank line. -/
theorem head_of_lines {lines : List Bytes} (hlines : ∀ line ∈ lines, CleanLine line)
    (hne : lines ≠ []) (s : Bytes) :
    ∃ b rest, joinLines lines ++ s = b :: rest ∧ b ≠ 0x0d ∧ b ≠ 0x0a := by
  cases lines with
  | nil => exact absurd rfl hne
  | cons line lines =>
      have hline := hlines line (by simp)
      cases line with
      | nil => exact absurd rfl hline.nonempty
      | cons b line =>
          refine ⟨b, line ++ 0x0d :: 0x0a :: joinLines lines ++ s, by simp, ?_, ?_⟩
          · exact (hline.clean b (by simp)).2.1
          · exact (hline.clean b (by simp)).2.2

/-- Both bytes of a line end are passed when the search does not match there. -/
theorem strnstrFrom_crlf {c : UInt8} {find s : Bytes} (i : Nat)
    (hcr : 0x0d = c → (0x0a :: s).take find.length ≠ find)
    (hlf : 0x0a = c → s.take find.length ≠ find) :
    strnstrFrom c find i (0x0d :: 0x0a :: s) = strnstrFrom c find (i + 2) s := by
  rw [strnstrFrom_skip i (by decide) hcr, strnstrFrom_skip (i + 1) (by decide) hlf]

theorem strnstrFrom_crlfCrlf {lines : List Bytes}
    (hlines : ∀ line ∈ lines, CleanLine line) (hne : lines ≠ []) (i : Nat) (more : Bytes) :
    strnstrFrom 0x0d [0x0a, 0x0d, 0x0a] i (joinLines lines ++ 0x0d :: 0x0a :: more) =
      some (i + (joinLines lines).length - 2) := by
  induction lines generalizing i with
  | nil => exact absurd rfl hne
  | cons line lines ih =>
      have hline := hlines line (by simp)
      have hrest : ∀ l ∈ lines, CleanLine l := fun l hl => hlines l (by simp [hl])
      simp only [joinLines_cons, List.append_assoc, List.cons_append, List.length_append,
        List.length_cons]
      rw [strnstrFrom_line i _ fun b hb => ⟨(hline.clean b hb).1, (hline.clean b hb).2.1⟩]
      by_cases hlast : lines = []
      · subst hlast
        have hmatch := strnstrFrom_match 0x0d [0x0a, 0x0d, 0x0a] more (i + line.length)
        simp only [List.cons_append, List.nil_append] at hmatch
        simp only [joinLines_nil, List.nil_append, hmatch, List.length_nil]
        congr 1
      · obtain ⟨b, rest, hb, hcr, -⟩ := head_of_lines hrest hlast (0x0d :: 0x0a :: more)
        rw [strnstrFrom_crlf _ ?_ ?_, ih hrest hlast]
        · have hpos : 2 ≤ (joinLines lines).length := by
            cases lines with
            | nil => exact absurd rfl hlast
            | cons l lines => simp only [joinLines_cons, List.length_append,
                List.length_cons]; omega
          congr 1
          omega
        · intro _ htake
          rw [hb] at htake
          simp only [List.length_cons, List.length_nil, Nat.zero_add, List.take_succ_cons,
            List.cons.injEq, true_and] at htake
          exact hcr htake.1
        · intro h
          exact absurd h (by decide)

/-- Patterns that a header text does not contain. -/
theorem strnstrFrom_headerText {c : UInt8} {find : Bytes} {lines : List Bytes}
    (hlines : ∀ line ∈ lines, CleanLine line)
    (hclass : ∀ b, b ≠ 0 ∧ b ≠ 0x0d ∧ b ≠ 0x0a → b ≠ c)
    (hcr : ∀ s, 0x0d = c → (0x0a :: s).take find.length ≠ find)
    (hlf : ∀ b s, b ≠ 0x0d → b ≠ 0x0a → 0x0a = c → (b :: s).take find.length ≠ find)
    (hend : 0x0a = c → ([0x0d, 0x0a] : Bytes).take find.length ≠ find)
    (hstop : find ≠ []) (i : Nat) :
    strnstrFrom c find i (joinLines lines ++ [0x0d, 0x0a]) = none := by
  induction lines generalizing i with
  | nil =>
      simp only [joinLines_nil, List.nil_append]
      rw [strnstrFrom_crlf i (hcr []) ?_, strnstrFrom_short]
      · simp
      · intro _
        simpa using hstop.symm
  | cons line lines ih =>
      have hline := hlines line (by simp)
      have hrest : ∀ l ∈ lines, CleanLine l := fun l hl => hlines l (by simp [hl])
      simp only [joinLines_cons, List.append_assoc, List.cons_append]
      rw [strnstrFrom_line i _ fun b hb =>
        ⟨(hline.clean b hb).1, hclass b (hline.clean b hb)⟩,
        strnstrFrom_crlf _ (hcr _) ?_, ih hrest]
      intro hc
      by_cases hlast : lines = []
      · subst hlast
        exact hend hc
      · obtain ⟨b, rest, hb, hbcr, hblf⟩ := head_of_lines hrest hlast [0x0d, 0x0a]
        rw [hb]
        exact hlf b rest hbcr hblf hc

/-- The end of a header text is found, whatever follows. -/
theorem findDoubleNewline_headerText {text : Bytes} (htext : HeaderText text) (more : Bytes) :
    findDoubleNewline (text ++ more) = some (text.length - 4, 4) ∧ 4 ≤ text.length := by
  obtain ⟨lines, hne, hlines, rfl⟩ := htext
  have hfound := strnstrFrom_crlfCrlf hlines hne 0 more
  have hpos : 2 ≤ (joinLines lines).length := by
    cases lines with
    | nil => exact absurd rfl hne
    | cons l lines => simp only [joinLines_cons, List.length_append, List.length_cons]; omega
  constructor
  · unfold findDoubleNewline rtspStrnstr crlfCrlf rtspCrlf
    simp only [List.append_assoc, List.cons_append, List.nil_append, hfound,
      List.length_append, List.length_cons, List.length_nil, Option.some.injEq,
      Prod.mk.injEq, and_true]
    omega
  · simp only [rtspCrlf, List.length_append, List.length_cons, List.length_nil]
    omega

theorem strnstr_prefix_none {c : UInt8} {find pre : Bytes} (post : Bytes)
    (h : rtspStrnstr (pre ++ post) (c :: find) = none) :
    rtspStrnstr pre (c :: find) = none := by
  cases hpre : rtspStrnstr pre (c :: find) with
  | none => rfl
  | some p =>
      have hpost : rtspStrnstr (pre ++ post) (c :: find) = some p :=
        strnstrFrom_append hpre post
      rw [h] at hpost
      simp at hpost

/-- No end is found in a header text that is cut short. -/
theorem findDoubleNewline_cut {pre post : Bytes} (htext : HeaderText (pre ++ post))
    (hpost : post ≠ []) : findDoubleNewline pre = none := by
  have hcrlf : rtspStrnstr pre crlfCrlf = none := by
    cases hpre : rtspStrnstr pre crlfCrlf with
    | none => rfl
    | some p =>
        obtain ⟨before, after, hsplit, hp⟩ := rtspStrnstr_some (by decide) hpre
        have happend : rtspStrnstr (pre ++ post) crlfCrlf = some p :=
          strnstrFrom_append hpre post
        have hfind := (findDoubleNewline_headerText htext []).1
        rw [List.append_nil, findDoubleNewline, happend] at hfind
        simp only [Option.some.injEq, Prod.mk.injEq, and_true] at hfind
        have hlength := congrArg List.length hsplit
        have hpostlength := List.length_pos_iff.mpr hpost
        simp only [List.length_append, crlfCrlf, List.length_cons, List.length_nil] at *
        omega
  have hothers : ∀ newline ∈ [lfCrlfCr, lfLf, crCr], rtspStrnstr pre newline = none := by
    obtain ⟨lines, -, hlines, htext'⟩ := htext
    have hnone := fun c find hclass hcr hlf hend hstop =>
      @strnstrFrom_headerText c find lines hlines hclass hcr hlf hend hstop 0
    intro newline hmem
    simp only [List.mem_cons, List.not_mem_nil, or_false] at hmem
    rcases hmem with rfl | rfl | rfl
    · refine strnstr_prefix_none post ?_
      rw [htext']
      refine hnone 0x0a [0x0d, 0x0a, 0x0d] (fun b hb => hb.2.2) (fun _ h => ?_)
        (fun b s hb _ _ => ?_) (fun _ => by decide) (by decide)
      · exact absurd h (by decide)
      · simp only [List.length_cons, List.length_nil, Nat.zero_add, List.take_succ_cons,
          ne_eq, List.cons.injEq, not_and]
        exact fun h => absurd h hb
    · refine strnstr_prefix_none post ?_
      rw [htext']
      refine hnone 0x0a [0x0a] (fun b hb => hb.2.2) (fun _ h => ?_)
        (fun b s _ hb _ => ?_) (fun _ => by decide) (by decide)
      · exact absurd h (by decide)
      · simp only [List.length_cons, List.length_nil, Nat.zero_add, List.take_succ_cons,
          ne_eq, List.cons.injEq, not_and]
        exact fun h => absurd h hb
    · refine strnstr_prefix_none post ?_
      rw [htext']
      refine hnone 0x0d [0x0d] (fun b hb => hb.2.1) (fun _ _ => by simp)
        (fun b s _ _ h => ?_) (fun h => ?_) (by decide)
      · exact absurd h (by decide)
      · exact absurd h (by decide)
  unfold findDoubleNewline
  rw [hcrlf, hothers lfCrlfCr (by simp), hothers lfLf (by simp), hothers crCr (by simp)]

end Librtsp
