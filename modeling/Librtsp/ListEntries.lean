import Librtsp.HeaderRead
import Librtsp.Tokens

/-!
# Entries of a list header

The readers of the `RTP-Info` and `Transport` headers cut their text at every
comma, pass over pieces that hold nothing but semicolons and read one entry from
each of the others, as many as there is room for.
-/

namespace Librtsp

open CString

/-! ## Cutting a list -/

/-- A piece of a list that holds something other than semicolons. -/
def holdsEntry (piece : Bytes) : Bool :=
  piece.any (· != 0x3b)

def listEntries (str : Bytes) : List Bytes :=
  (tokens comma str).filter holdsEntry

/-- The entries a reader with that much room reads. -/
def reachedEntries (str : Bytes) (maxCount : Nat) : List Bytes :=
  (listEntries str).take maxCount

theorem tokens_eq_nil_iff {delims s : Bytes} :
    tokens delims s = [] ↔ ∀ b ∈ s, b ∈ delims := by
  constructor
  · intro h
    rcases text_cases delims s with hall | ⟨before, token, rest, rfl, hbefore, htoken, hrest⟩
    · exact hall
    · rw [tokens_delimiters hbefore, tokens_token htoken hrest] at h
      simp at h
  · intro h
    rw [← List.append_nil s, tokens_delimiters h, tokens_nil]

theorem holdsEntry_iff {piece : Bytes} : holdsEntry piece ↔ tokens semicolon piece ≠ [] := by
  rw [Ne, tokens_eq_nil_iff]
  simp [holdsEntry, semicolon]

/-- The first token of a text with tokens, and the text after it. -/
theorem tokens_cons {delims s token : Bytes} {rest : List Bytes}
    (h : tokens delims s = token :: rest) :
    firstToken delims s = some token ∧ tokens delims (afterToken delims s) = rest := by
  unfold firstToken afterToken
  rw [tokens_eq] at h
  cases hcut : strtok delims s with
  | none => simp [hcut] at h
  | some cut =>
      rw [hcut] at h
      simpa using h

theorem firstToken_none {delims s : Bytes} (h : tokens delims s = []) :
    firstToken delims s = none := by
  have hfirst := tokens_first delims s
  rw [h] at hfirst
  simpa using (List.append_eq_nil_iff.mp hfirst.symm).1

/-! ## Parameters -/

/-- Key and value of a parameter, cut at the first equal sign after those at its
front; there is no value without an equal sign. -/
def paramCut (param : Bytes) : Bytes × Option Bytes :=
  match strchr 0x3d (param.dropWhile (· == 0x3d)) with
  | some (key, value) => (key, some value)
  | none => (param.dropWhile (· == 0x3d), none)

theorem paramCut_keyValue {key : Bytes} (hkey : key ≠ []) (hfree : 0x3d ∉ key)
    (value : Bytes) : paramCut (key ++ 0x3d :: value) = (key, some value) := by
  obtain ⟨b, rest, rfl⟩ := List.exists_cons_of_ne_nil hkey
  have hb : b ≠ 0x3d := by
    rintro rfl
    exact hfree List.mem_cons_self
  unfold paramCut
  rw [List.cons_append, List.dropWhile_cons_of_neg (by simpa using hb), ← List.cons_append,
    strchr_append hfree]

theorem paramCut_key {key : Bytes} (hfree : 0x3d ∉ key) : paramCut key = (key, none) := by
  have hdrop : key.dropWhile (· == 0x3d) = key := by
    cases key with
    | nil => rfl
    | cons b rest =>
        have hb : b ≠ 0x3d := by
          rintro rfl
          exact hfree List.mem_cons_self
        exact List.dropWhile_cons_of_neg (by simpa using hb)
  unfold paramCut
  rw [hdrop, strchr_none hfree]

theorem nonEmpty_of_ne {text : Bytes} (h : text ≠ []) : nonEmpty (some text) = some text := by
  unfold nonEmpty
  rw [Option.filter_some, if_pos (by simpa using h)]

/-- The tokeniser cuts there as well, but has no empty keys and values. -/
theorem paramCut_tokens (param : Bytes) :
    firstToken equalSign param = nonEmpty (some (paramCut param).1) ∧
      firstToken [] (afterToken equalSign param) = nonEmpty (paramCut param).2 := by
  rcases text_cases equalSign param with hall | ⟨before, token, rest, rfl, hbefore, htoken, hrest⟩
  · have hnone : tokens equalSign param = [] := tokens_eq_nil_iff.mpr hall
    have hdrop : param.dropWhile (· == 0x3d) = [] := by
      rw [List.dropWhile_eq_nil_iff]
      intro b hb
      simpa [equalSign] using hall b hb
    have hcut : paramCut param = ([], none) := by
      rw [paramCut, hdrop]
      rfl
    have hfirst := firstToken_none hnone
    have hafter : afterToken equalSign param = [] := by
      unfold firstToken at hfirst
      rw [afterToken, Option.map_eq_none_iff.mp hfirst]
      rfl
    rw [hfirst, hafter, hcut]
    exact ⟨rfl, rfl⟩
  · have hfree : 0x3d ∉ token := by
      intro hmem
      exact htoken.free 0x3d hmem (by simp [equalSign])
    have hdrop : (before ++ (token ++ rest)).dropWhile (· == 0x3d) = token ++ rest := by
      rw [List.dropWhile_append_of_pos fun b hb => by simpa [equalSign] using hbefore b hb]
      obtain ⟨b, tail, rfl⟩ := List.exists_cons_of_ne_nil htoken.nonempty
      have hb : b ≠ 0x3d := by
        rintro rfl
        exact hfree List.mem_cons_self
      rw [List.cons_append, List.dropWhile_cons_of_neg (by simpa using hb)]
    have hstrtok : strtok equalSign (before ++ (token ++ rest)) = some (token, rest.drop 1) := by
      have hskip : ∀ before : Bytes, (∀ b ∈ before, b ∈ equalSign) →
          strtok equalSign (before ++ (token ++ rest)) = strtok equalSign (token ++ rest) := by
        intro before hbefore
        induction before with
        | nil => rfl
        | cons b before ih =>
            rw [List.cons_append, strtok_delimiter (hbefore b List.mem_cons_self),
              ih fun b h => hbefore b (List.mem_cons_of_mem _ h)]
      rw [hskip before hbefore, strtok_token htoken hrest]
    have hkey := nonEmpty_of_ne htoken.nonempty
    unfold firstToken afterToken paramCut
    rw [hstrtok, hdrop]
    cases rest with
    | nil =>
        rw [List.append_nil, strchr_none hfree]
        exact ⟨hkey.symm, rfl⟩
    | cons b value =>
        obtain rfl : b = 0x3d := by simpa [equalSign] using atDelimiter_cons.mp hrest
        rw [strchr_append hfree]
        refine ⟨hkey.symm, ?_⟩
        by_cases hvalue : value = []
        · subst hvalue
          rfl
        · exact (firstToken_all hvalue).trans (nonEmpty_of_ne hvalue).symm

/-! ## Reading a list -/

section Entries

variable {α : Type} (one : List Bytes → Except Stop (Option α))

/-- Reads one entry after the other from their parameters, up to one that ends
the list. -/
def readEntries : List Bytes → Except Stop (List α)
  | [] => .ok []
  | entry :: rest =>
      match one (tokens semicolon entry) with
      | .error stop => .error stop
      | .ok none => .ok []
      | .ok (some item) => (readEntries rest).map (item :: ·)

/-- What a list reader does with a piece of its text. -/
def entryStep (items : List α) (piece : Bytes) : Except Stop (ForInStep (List α)) :=
  match tokens semicolon piece with
  | [] => .ok (.yield items)
  | param :: params =>
      match one (param :: params) with
      | .error stop => .error stop
      | .ok none => .ok (.done items)
      | .ok (some item) => .ok (.yield (items ++ [item]))

/-- A list reader reads the first entries of its text, as many as it has room for. -/
theorem visit_whileRoom {read : List α → Bytes → Except Stop (ForInStep (List α))}
    (hread : ∀ items piece, read items piece = entryStep one items piece) (maxCount : Nat)
    (pieces : List Bytes) (items : List α) :
    (visit (whileRoom maxCount read) pieces items).map collected =
      (readEntries one ((pieces.filter holdsEntry).take (maxCount - items.length))).map
        (items ++ ·) := by
  induction pieces generalizing items with
  | nil => simp [visit, readEntries, collected, Except.map]
  | cons piece pieces ih =>
      by_cases hroom : items.length < maxCount
      · obtain ⟨room, hsucc⟩ : ∃ room, maxCount - items.length = room + 1 :=
          ⟨maxCount - items.length - 1, by omega⟩
        rw [visit, whileRoom, if_pos hroom, hread, entryStep]
        cases hparams : tokens semicolon piece with
        | nil =>
            have hblank : ¬holdsEntry piece := by simp [holdsEntry_iff, hparams]
            rw [List.filter_cons_of_neg hblank]
            exact ih items
        | cons param params =>
            have hholds : holdsEntry piece := by simp [holdsEntry_iff, hparams]
            rw [List.filter_cons_of_pos hholds, hsucc, List.take_succ_cons, readEntries, hparams]
            dsimp only
            cases one (param :: params) with
            | error stop => rfl
            | ok item =>
                cases item with
                | none => simp [collected, Except.map]
                | some item =>
                    have hleft : maxCount - (items ++ [item]).length = room := by
                      rw [List.length_append, List.length_singleton]
                      omega
                    dsimp only
                    rw [ih, hleft]
                    cases readEntries one ((pieces.filter holdsEntry).take room) with
                    | error stop => rfl
                    | ok rest => simp [Except.map]
      · have hnone : maxCount - items.length = 0 := by omega
        rw [visit, whileRoom, if_neg hroom, hnone, List.take_zero]
        simp [readEntries, collected, Except.map]

theorem readList_eq {read : List α → Bytes → Except Stop (ForInStep (List α))}
    (hread : ∀ items piece, read items piece = entryStep one items piece) (maxCount : Nat)
    (str : Bytes) :
    (do
      let result ← visit (whileRoom maxCount read) (tokens comma str) []
      Except.ok (collected result)) = readEntries one (reachedEntries str maxCount) := by
  have hvisit := visit_whileRoom one hread maxCount (tokens comma str) []
  have hnil : ∀ entries : Except Stop (List α), entries.map ([] ++ ·) = entries := by
    intro entries
    cases entries <;> rfl
  rw [List.length_nil, Nat.sub_zero, hnil] at hvisit
  rw [reachedEntries, listEntries, ← hvisit]
  cases visit (whileRoom maxCount read) (tokens comma str) [] <;> rfl

/-- Every entry of a list that is read has given an item, in order. -/
theorem readEntries_all {entries : List Bytes} {items : List α}
    (hall : List.Forall₂ (fun entry item => one (tokens semicolon entry) = .ok (some item))
      entries items) : readEntries one entries = .ok items := by
  induction hall with
  | nil => rfl
  | cons hone _ ih =>
      rw [readEntries, hone]
      dsimp only
      rw [ih]
      rfl

/-- A list none of whose entries ends it has an item for each of them. -/
theorem readEntries_some {entries : List Bytes} {items : List α}
    (hread : readEntries one entries = .ok items)
    (hnone : ∀ entry ∈ entries, one (tokens semicolon entry) ≠ .ok none) :
    ∀ entry ∈ entries, ∃ item, one (tokens semicolon entry) = .ok (some item) := by
  induction entries generalizing items with
  | nil => simp
  | cons first rest ih =>
      rw [readEntries] at hread
      have hfirst := hnone first List.mem_cons_self
      cases hone : one (tokens semicolon first) with
      | error stop => simp [hone] at hread
      | ok item =>
          rw [hone] at hread hfirst
          cases item with
          | none => exact absurd rfl hfirst
          | some item =>
              obtain ⟨others, hothers, -⟩ := except_map_ok.mp hread
              intro entry hentry
              rcases List.mem_cons.mp hentry with rfl | hentry
              · exact ⟨item, hone⟩
              · exact ih hothers (fun entry h => hnone entry (List.mem_cons_of_mem _ h)) entry
                  hentry

end Entries

/-! ## The two readers -/

/-- An `RTP-Info` entry; a number that is not one ends the list. -/
def rtpInfoOfParams : List Bytes → Except Stop (Option RtspRtpInfoHeader)
  | [] => .error (.errno .eproto)
  | param :: params =>
      match firstToken equalSign param, firstToken [] (afterToken equalSign param) with
      | some key, some val =>
          if key ≠ ascii "url" then .error (.errno .eproto)
          else
            match visit rtpInfoParamRead params { url := some val } with
            | .error stop => .error stop
            | .ok (.done _) => .ok none
            | .ok (.yield rtpi) => .ok (some rtpi)
      | _, _ => .error (.errno .eproto)

theorem rtpInfoEntryRead_eq (rtpInfo : List RtspRtpInfoHeader) (piece : Bytes) :
    rtpInfoEntryRead rtpInfo piece = entryStep rtpInfoOfParams rtpInfo piece := by
  unfold rtpInfoEntryRead entryStep
  simp only [strtokR_some, orFault_ok, except_ok_bind]
  cases hparams : tokens semicolon piece with
  | nil =>
      rw [firstToken_none hparams]
  | cons param params =>
      obtain ⟨hfirst, hrest⟩ := tokens_cons hparams
      rw [hfirst]
      simp only [strtokR_none_some, orFault_ok, except_ok_bind, Option.getD_some, hrest,
        rtpInfoOfParams]
      cases firstToken equalSign param with
      | none => rfl
      | some key =>
          cases firstToken [] (afterToken equalSign param) with
          | none => rfl
          | some val =>
              dsimp only
              by_cases hkey : key ≠ ascii "url"
              · rw [if_pos hkey, if_pos hkey]
              · rw [if_neg hkey, if_neg hkey]
                rcases visit rtpInfoParamRead params { url := some val } with
                  stop | (rtpi | rtpi) <;> rfl

theorem rtspRtpInfoHeaderRead_eq (str : Bytes) (maxCount : Nat) :
    rtspRtpInfoHeaderRead str maxCount =
      readEntries rtpInfoOfParams (reachedEntries str maxCount) :=
  readList_eq rtpInfoOfParams rtpInfoEntryRead_eq maxCount str

/-- A `Transport` entry: the specifier, then the parameters. -/
def transportOfParams : List Bytes → Except Stop (Option RtspTransportHeader)
  | [] => .error (.errno .eproto)
  | param :: params => do
      let trsp ← transportSpecRead param
      let result ← visit transportParamRead params trsp
      .ok (some (collected result))

theorem transportEntryRead_eq (transport : List RtspTransportHeader) (piece : Bytes) :
    transportEntryRead transport piece = entryStep transportOfParams transport piece := by
  unfold transportEntryRead entryStep
  simp only [strtokR_some, orFault_ok, except_ok_bind]
  cases hparams : tokens semicolon piece with
  | nil =>
      rw [firstToken_none hparams]
  | cons param params =>
      obtain ⟨hfirst, hrest⟩ := tokens_cons hparams
      rw [hfirst]
      simp only [Option.getD_some, hrest, transportOfParams]
      cases transportSpecRead param with
      | error stop => rfl
      | ok trsp =>
          simp only [except_ok_bind]
          cases visit transportParamRead params trsp <;> rfl

theorem rtspTransportHeaderRead_eq (str : Bytes) (maxCount : Nat) :
    rtspTransportHeaderRead str maxCount =
      readEntries transportOfParams (reachedEntries str maxCount) :=
  readList_eq transportOfParams transportEntryRead_eq maxCount str

end Librtsp
