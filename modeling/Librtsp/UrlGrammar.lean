import Librtsp.UrlAnonymize

/-!
# The grammar of URLs

A URL text is a scheme, an optional user part, a host, an optional port and an
optional path, each written in its own form.  The parser accepts these texts,
and in place of a plain number it also takes a number behind white space or a
sign, as `strtol` does.
-/

namespace Librtsp

open CString

/-! ## Forms -/

/-- A user and perhaps a password, up to the at sign. -/
inductive UserInfoForm : Bytes → Option Bytes → Option Bytes → Prop where
  | absent : UserInfoForm [] none none
  | user {user : Bytes} (hne : user ≠ []) (hcolon : 0x3a ∉ user) :
      UserInfoForm (user ++ [0x40]) (some user) none
  | userPass {user pass : Bytes} (hne : user ≠ []) (hcolon : 0x3a ∉ user) :
      UserInfoForm (user ++ 0x3a :: (pass ++ [0x40])) (some user) (some pass)

/-- A name, or an address in brackets. -/
inductive HostForm : Bytes → Bytes → Prop where
  | name {host : Bytes} (hne : host ≠ [])
      (hall : ∀ c ∈ host, (isAlnum c || c == 0x2e || c == 0x2d) = true) : HostForm host host
  | address {host : Bytes} (hne : host ≠ [])
      (hall : ∀ c ∈ host, (isXdigit c || c == 0x3a || c == 0x2e) = true) :
      HostForm (0x5b :: (host ++ [0x5d])) host

/-- Nothing, a colon, or a colon and a number of at most sixteen bits. -/
inductive PortForm (number : Bytes → Nat → Prop) : Bytes → Nat → Prop where
  | absent : PortForm number [] 0
  | empty : PortForm number [0x3a] 0
  | number {text : Bytes} {n : Nat} (hnumber : number text n) (hn : n ≤ 65535) :
      PortForm number (0x3a :: text) n

/-- Nothing, slashes, or a slash and a path with slashes behind it. -/
inductive PathForm : Bytes → Option Bytes → Prop where
  | absent : PathForm [] none
  | slashes (count : Nat) : PathForm (List.replicate (count + 1) 0x2f) none
  | path {path : Bytes} (count : Nat) (hne : path ≠ []) (hlast : ∀ c ∈ path.getLast?, c ≠ 0x2f)
      (hall : ∀ c ∈ path, isValidRtspPathChar c = true) :
      PathForm (0x2f :: (path ++ List.replicate count 0x2f)) (some path)

/-- A URL text with its components, given what may stand for a port. -/
def UrlForm (portForm : Bytes → Nat → Prop) (text : Bytes) (url : RtspUrl) : Prop :=
  ∃ entry ∈ rtspUrlSchemeMap, ∃ (userInfo host port path : Bytes) (n : Nat),
    text = entry.2.2 ++ (userInfo ++ (host ++ port) ++ path) ∧ 0x2f ∉ userInfo ∧
    UserInfoForm userInfo url.user url.pass ∧ HostForm host url.host ∧ portForm port n ∧
    PathForm path url.path ∧ url.scheme = entry.1 ∧
    url.port = (if n = 0 then entry.2.1 else UInt16.ofNat n) ∧ url.portExplicit = decide (n ≠ 0)

/-- Decimal digits. -/
def PlainNumber (text : Bytes) (n : Nat) : Prop :=
  Spells 10 text n

/-- Decimal digits behind white space, a sign or both; only zero behind a minus. -/
def PaddedNumber (text : Bytes) (n : Nat) : Prop :=
  ∃ space mark digits : Bytes, text = space ++ (mark ++ digits) ∧ space ++ mark ≠ [] ∧
    (∀ b ∈ space, isSpace b = true) ∧ (mark = [] ∨ mark = [0x2b] ∨ mark = [0x2d] ∧ n = 0) ∧
    Spells 10 digits n

def PaddedPort (port : Bytes) (n : Nat) : Prop :=
  ∃ text, port = 0x3a :: text ∧ PaddedNumber text n ∧ n ≤ 65535

/-! ## Numbers -/

theorem strtol_minus_spells {digits : Bytes} {n : Nat} (htext : Spells 10 digits n)
    (hn : n ≤ 2 ^ 63) : strtol (0x2d :: digits) = (-(n : Int), []) := by
  have hhead : (digits.head?.bind (digitVal 10)).isNone = false := by
    have hsome := @head_spells _ _ _ [] htext
    rw [List.append_nil] at hsome
    rw [← Option.not_isSome, hsome, Bool.not_true]
  have hvalue := digits_spells htext pastDigits_nil
  have hafter := (takeWhile_spells htext pastDigits_nil).2
  rw [List.append_nil] at hvalue hafter
  have hsign : sign ((0x2d :: digits).dropWhile isSpace) = (true, digits) := rfl
  unfold strtol
  rw [hsign]
  dsimp only
  rw [hhead, hvalue, hafter]
  simp only [Bool.false_eq_true, ↓reduceIte, Prod.mk.injEq, and_true]
  omega

theorem strtol_plus_spells {digits : Bytes} {n : Nat} (htext : Spells 10 digits n)
    (hn : n < 2 ^ 63) : strtol (0x2b :: digits) = ((n : Int), []) := by
  have hplain := strtol_spells htext pastDigits_nil hn
  rw [List.append_nil] at hplain
  have hsame : sign (digits.dropWhile isSpace) = (false, digits) := by
    simpa using @sign_spells _ _ _ [] (by decide) htext
  have hsign : sign ((0x2b :: digits).dropWhile isSpace) = (false, digits) := rfl
  unfold strtol at hplain ⊢
  rw [hsame] at hplain
  rw [hsign]
  dsimp only at hplain ⊢
  split
  next hnone =>
    rw [if_pos hnone] at hplain
    exact absurd (congrArg Prod.snd hplain) htext.nonempty
  next hsome => rwa [if_neg hsome] at hplain

/-- White space before a number is skipped. -/
theorem strtol_space {space text : Bytes} (hspace : ∀ b ∈ space, isSpace b = true)
    (htext : (strtol text).2 = []) (hne : text ≠ []) : strtol (space ++ text) = strtol text := by
  unfold strtol at htext ⊢
  rw [List.dropWhile_append_of_pos hspace]
  dsimp only at htext ⊢
  split
  next hnone =>
    rw [if_pos hnone] at htext
    exact absurd htext hne
  next => rfl

/-- What `strtol` has read when it used the whole text. -/
theorem strtol_whole {text : Bytes} (hne : text ≠ []) (hrest : (strtol text).2 = []) :
    ∃ (space mark digits : Bytes) (n : Nat), text = space ++ (mark ++ digits) ∧
      (∀ b ∈ space, isSpace b = true) ∧ (mark = [] ∨ mark = [0x2b] ∨ mark = [0x2d]) ∧
      Spells 10 digits n ∧
      (strtol text).1 = if mark = [0x2d] then max (-(n : Int)) (-2 ^ 63) else
        min (n : Int) (2 ^ 63 - 1) := by
  have hsign : ∃ mark, text.dropWhile isSpace = mark ++ (sign (text.dropWhile isSpace)).2 ∧
      (mark = [] ∨ mark = [0x2b] ∨ mark = [0x2d]) ∧
      ((sign (text.dropWhile isSpace)).1 = true ↔ mark = [0x2d]) := by
    generalize text.dropWhile isSpace = rest
    unfold sign
    split
    next s => exact ⟨[0x2b], rfl, by simp, by simp⟩
    next s => exact ⟨[0x2d], rfl, by simp, by simp⟩
    next => exact ⟨[], rfl, by simp, by simp⟩
  obtain ⟨mark, hmark, hmarks, hminus⟩ := hsign
  unfold strtol at hrest ⊢
  dsimp only at hrest ⊢
  generalize hsigned : sign (text.dropWhile isSpace) = signed at *
  by_cases hnone : (signed.2.head?.bind (digitVal 10)).isNone = true
  · rw [if_pos hnone] at hrest
    exact absurd hrest hne
  · rw [if_neg hnone] at hrest ⊢
    have hdigits : ∀ b ∈ signed.2, (digitVal 10 b).isSome := by
      simpa [afterDigits] using List.dropWhile_eq_nil_iff.mp hrest
    have hall : (signed.2.takeWhile fun b => (digitVal 10 b).isSome) = signed.2 :=
      List.takeWhile_eq_self_iff.mpr hdigits
    refine ⟨text.takeWhile isSpace, mark, signed.2, digits 10 signed.2, ?_, ?_, hmarks, ?_, ?_⟩
    · rw [← hmark, List.takeWhile_append_dropWhile]
    · exact fun b hb => List.mem_takeWhile_imp hb
    · refine ⟨?_, hdigits, ?_⟩
      · rintro hnil
        simp [hnil] at hnone
      · unfold digits digitSum
        rw [hall]
    · by_cases hm : mark = [0x2d]
      · rw [if_pos hm, if_pos (hminus.mpr hm)]
      · rw [if_neg hm, if_neg (mt hminus.mp hm)]

/-- The texts that name a port. -/
theorem parsePort_iff {text : Bytes} {port : UInt16} :
    parsePort text = .ok port ↔ text = [] ∧ port = 0 ∨
      ∃ n, (PlainNumber text n ∨ PaddedNumber text n) ∧ n ≤ 65535 ∧ port = UInt16.ofNat n := by
  constructor
  · intro h
    unfold parsePort at h
    split at h
    next hempty => exact .inl ⟨hempty, by simpa using h.symm⟩
    next hne =>
      dsimp only at h
      split at h
      next => simp at h
      next hrange =>
        simp only [not_or, not_lt, ne_eq, not_not] at hrange
        obtain ⟨hrest, hnonneg, hmax⟩ := hrange
        obtain ⟨space, mark, digits, n, htext, hspace, hmark, hdigits, hvalue⟩ :=
          strtol_whole hne hrest
        rw [Except.ok.injEq] at h
        right
        by_cases hminus : mark = [0x2d]
        · rw [if_pos hminus] at hvalue
          have hzero : n = 0 := by omega
          refine ⟨n, .inr ⟨space, mark, digits, htext, by simp [hminus], hspace,
            .inr (.inr ⟨hminus, hzero⟩), hdigits⟩, by omega, ?_⟩
          rw [← h, show (strtol text).1.toNat = n by omega]
        · rw [if_neg hminus] at hvalue
          refine ⟨n, ?_, by omega, by rw [← h, show (strtol text).1.toNat = n by omega]⟩
          by_cases hpad : space ++ mark = []
          · rw [List.append_eq_nil_iff] at hpad
            rw [hpad.1, hpad.2] at htext
            exact .inl (htext ▸ hdigits)
          · refine .inr ⟨space, mark, digits, htext, hpad, hspace, ?_, hdigits⟩
            rcases hmark with hmark | hmark | hmark
            · exact .inl hmark
            · exact .inr (.inl hmark)
            · exact absurd hmark hminus
  · rintro (⟨rfl, rfl⟩ | ⟨n, htext | hpadded, hn, rfl⟩)
    · rfl
    · exact parsePort_spells htext hn
    · obtain ⟨space, mark, digits, rfl, hpad, hspace, hmark, hdigits⟩ := hpadded
      have hvalue : strtol (mark ++ digits) = ((n : Int), []) := by
        rcases hmark with rfl | rfl | ⟨rfl, rfl⟩
        · have hplain := strtol_spells hdigits pastDigits_nil (show n < 2 ^ 63 by omega)
          rwa [List.append_nil] at hplain
        · exact strtol_plus_spells hdigits (by omega)
        · simpa using strtol_minus_spells hdigits (by omega)
      have hne : mark ++ digits ≠ [] := by simp [hdigits.nonempty]
      have hskip := strtol_space hspace (by rw [hvalue]) hne
      unfold parsePort
      rw [if_neg (by simp [hdigits.nonempty]), hskip, hvalue]
      dsimp only
      rw [if_neg]
      · simp
      · simp only [ne_eq, not_true_eq_false, false_or, not_or, not_lt]
        omega

theorem PaddedNumber.not_plain {text : Bytes} {n m : Nat} (hpadded : PaddedNumber text n) :
    ¬ PlainNumber text m := by
  rintro hplain
  obtain ⟨space, mark, digits, rfl, hpad, hspace, hmark, -⟩ := hpadded
  cases hcase : space with
  | cons b tail =>
      have hchar := (hplain.plain (by decide) (b := b) (by simp [hcase])).1
      have hb := hspace b (by simp [hcase])
      rw [hchar] at hb
      exact absurd hb (by decide)
  | nil =>
      rw [hcase, List.nil_append] at hpad
      rcases hmark with rfl | rfl | ⟨rfl, -⟩
      · exact hpad rfl
      · exact (hplain.plain (by decide) (b := 0x2b) (by simp)).2.1 rfl
      · exact (hplain.plain (by decide) (b := 0x2d) (by simp)).2.2.1 rfl

/-! ## Hosts and ports -/

/-- What the parser takes for a number. -/
def AcceptedNumber (text : Bytes) (n : Nat) : Prop :=
  PlainNumber text n ∨ PaddedNumber text n

theorem portForm_text {port : Bytes} {n : Nat} (hport : PortForm AcceptedNumber port n) :
    port = [] ∧ n = 0 ∨ ∃ text, port = 0x3a :: text ∧ parsePort text = .ok (UInt16.ofNat n) := by
  cases hport with
  | absent => exact .inl ⟨rfl, rfl⟩
  | empty => exact .inr ⟨[], rfl, rfl⟩
  | number hnumber hn => exact .inr ⟨_, rfl, parsePort_iff.mpr (.inr ⟨n, hnumber, hn, rfl⟩)⟩

theorem portForm_of_parsePort {text : Bytes} {port : UInt16} (h : parsePort text = .ok port) :
    ∃ n, PortForm AcceptedNumber (0x3a :: text) n ∧ port = UInt16.ofNat n ∧ n ≤ 65535 := by
  rcases parsePort_iff.mp h with ⟨rfl, rfl⟩ | ⟨n, hnumber, hn, rfl⟩
  · exact ⟨0, .empty, rfl, by omega⟩
  · exact ⟨n, .number hnumber hn, rfl, hn⟩

theorem PortForm.bound {number : Bytes → Nat → Prop} {port : Bytes} {n : Nat}
    (hport : PortForm number port n) : n ≤ 65535 := by
  cases hport with
  | absent => omega
  | empty => omega
  | number _ hn => exact hn

/-- The host and the port text of a host part. -/
theorem parseHostAndPort_form {text host : Bytes} {port : UInt16}
    (h : parseHostAndPort text = .ok (host, port)) :
    ∃ hostText portText n, text = hostText ++ portText ∧ HostForm hostText host ∧
      PortForm AcceptedNumber portText n ∧ port = UInt16.ofNat n := by
  unfold parseHostAndPort at h
  split at h
  next rest =>
    split at h
    next => simp at h
    next host' after hcut =>
      have htext := (strchr_eq_some hcut).1
      split at h
      next => simp at h
      next hne =>
        split at h
        next =>
          split at h
          next hall =>
            simp only [Except.ok.injEq, Prod.mk.injEq] at h
            obtain ⟨rfl, rfl⟩ := h
            exact ⟨_, [], 0, by simp [htext], .address hne (List.all_eq_true.mp hall), .absent, rfl⟩
          next => simp at h
        next portStr =>
          obtain ⟨port', hport, h⟩ := except_bind_ok.mp h
          split at h
          next hall =>
            simp only [Except.ok.injEq, Prod.mk.injEq] at h
            obtain ⟨rfl, rfl⟩ := h
            obtain ⟨n, hform, hn, -⟩ := portForm_of_parsePort hport
            exact ⟨_, _, n, by simp [htext], .address hne (List.all_eq_true.mp hall), hform, hn⟩
          next => simp at h
        next => simp at h
  next hnot =>
    dsimp only at h
    split at h
    next => simp at h
    next hne =>
      obtain ⟨port', hport, h⟩ := except_bind_ok.mp h
      split at h
      next hall =>
        simp only [Except.ok.injEq, Prod.mk.injEq] at h
        obtain ⟨hhost, rfl⟩ := h
        rw [hhost] at hne hall
        have hform : HostForm host host := .name hne (List.all_eq_true.mp hall)
        cases hcolon : strchr 0x3a text with
        | none =>
            simp only [hcolon, Option.getD_none] at hhost hport
            have hzero : port' = 0 := by simpa [parsePort] using hport.symm
            exact ⟨host, [], 0, by simp [hhost], hform, .absent, hzero⟩
        | some cut =>
            simp only [hcolon, Option.getD_some] at hhost hport
            obtain ⟨n, hportForm, hn, -⟩ := portForm_of_parsePort hport
            refine ⟨host, _, n, ?_, hform, hportForm, hn⟩
            rw [← hhost]
            exact (strchr_eq_some hcolon).1
      next => simp at h

theorem parseHostAndPort_of_form {hostText portText host : Bytes} {n : Nat}
    (hhost : HostForm hostText host) (hport : PortForm AcceptedNumber portText n) :
    parseHostAndPort (hostText ++ portText) = .ok (host, UInt16.ofNat n) := by
  cases hhost with
  | name hne hall =>
      have hcolon : 0x3a ∉ hostText := fun hmem => absurd (hall 0x3a hmem) (by decide)
      have hurl := urlHost_name hne (List.all_eq_true.mpr hall)
      have hstr : urlHostStr hostText = hostText := by
        unfold urlHostStr
        rw [if_neg (by simpa using hcolon)]
      have htext := @parseHostAndPort_text _ portText (UInt16.ofNat n) hurl
      rw [hstr] at htext
      apply htext
      rcases portForm_text hport with ⟨rfl, rfl⟩ | htext
      · exact .inl ⟨rfl, rfl⟩
      · exact .inr htext
  | address hne hall =>
      have hbracket : 0x5d ∉ host := fun hmem => absurd (hall 0x5d hmem) (by decide)
      have hallBool := List.all_eq_true.mpr hall
      unfold parseHostAndPort
      rw [List.cons_append, List.append_assoc, List.singleton_append]
      simp only [strchr_append hbracket]
      rw [if_neg hne]
      rcases portForm_text hport with ⟨rfl, rfl⟩ | ⟨text, rfl, hparse⟩
      · rw [if_pos hallBool]
        rfl
      · simp only [hparse, except_ok_bind]
        rw [if_pos hallBool]

/-! ## Paths -/

theorem dropTrailingSlashes_append (path : Bytes) (count : Nat) :
    dropTrailingSlashes (path ++ List.replicate count 0x2f) = dropTrailingSlashes path := by
  unfold dropTrailingSlashes
  rw [List.reverse_append, List.reverse_replicate, List.dropWhile_append_of_pos]
  intro b hb
  simp [(List.mem_replicate.mp hb).2]

/-- A text is its part without trailing slashes and these slashes. -/
theorem exists_trailingSlashes (path : Bytes) :
    ∃ count, path = dropTrailingSlashes path ++ List.replicate count 0x2f := by
  refine ⟨(path.reverse.takeWhile (· == 0x2f)).length, ?_⟩
  have hslashes : (path.reverse.takeWhile (· == 0x2f)).reverse =
      List.replicate (path.reverse.takeWhile (· == 0x2f)).length 0x2f := by
    rw [List.eq_replicate_iff]
    constructor
    · exact List.length_reverse
    · intro b hb
      simpa using List.mem_takeWhile_imp (List.mem_reverse.mp hb)
  rw [← hslashes, dropTrailingSlashes, ← List.reverse_append, List.takeWhile_append_dropWhile,
    List.reverse_reverse]

theorem urlTailRead_form {tail : Bytes} (hslash : AtDelimiter [0x2f] tail) {path : Option Bytes}
    (h : urlTailRead tail = .ok path) : PathForm tail path := by
  cases tail with
  | nil =>
      cases h
      exact .absent
  | cons b rest =>
      have hb : b = 0x2f := by simpa using atDelimiter_cons.mp hslash
      subst hb
      unfold urlTailRead at h
      rw [List.drop_one, List.tail_cons] at h
      split at h
      next hempty =>
        cases h
        exact hempty ▸ .slashes 0
      next =>
        obtain ⟨count, hrest⟩ := exists_trailingSlashes rest
        cases path with
        | some path =>
            obtain ⟨-, hself, -⟩ := parsePath_some h
            obtain ⟨-, hne, hlast, hall⟩ := parsePath_self_iff.mp hself
            have hpath : dropTrailingSlashes rest = path := by
              unfold parsePath at h
              split at h
              next => simp at h
              next =>
                split at h
                next => simp at h
                next =>
                  split at h
                  next => simpa using h
                  next => simp at h
            rw [hpath] at hrest
            exact hrest ▸ .path count hne hlast hall
        | none =>
            have hnone : dropTrailingSlashes rest = [] := by
              unfold parsePath at h
              split at h
              next => simp at h
              next =>
                split at h
                next hempty => exact hempty
                next =>
                  split at h
                  next => simp at h
                  next => simp at h
            rw [hnone, List.nil_append] at hrest
            rw [hrest]
            exact .slashes count

theorem urlTailRead_of_form {tail : Bytes} {path : Option Bytes} (hlength : tail.length < pathMax)
    (h : PathForm tail path) : AtDelimiter [0x2f] tail ∧ urlTailRead tail = .ok path := by
  cases h with
  | absent => exact ⟨atDelimiter_nil, rfl⟩
  | slashes count =>
      refine ⟨by rw [List.replicate_succ]; exact atDelimiter_cons.mpr (by simp), ?_⟩
      have hdrop := dropTrailingSlashes_append [] count
      rw [List.nil_append] at hdrop
      unfold urlTailRead parsePath
      rw [List.replicate_succ, List.drop_one, List.tail_cons, hdrop]
      rw [List.length_replicate] at hlength
      rw [List.length_replicate, if_neg (show ¬ pathMax ≤ count by omega)]
      split
      next => rfl
      next => rfl
  | @path path count hne hlast hall =>
      refine ⟨atDelimiter_cons.mpr (by simp), ?_⟩
      rw [List.length_cons] at hlength
      have hself := (@parsePath_self_iff path).mpr
        ⟨by rw [List.length_append] at hlength; omega, hne, hlast, hall⟩
      have hdrop := dropTrailingSlashes_append path count
      have hlong : ¬ pathMax ≤ (path ++ List.replicate count 0x2f).length := by omega
      have hshort : ¬ pathMax ≤ path.length := by
        rw [List.length_append] at hlong
        omega
      unfold parsePath at hself
      unfold urlTailRead parsePath
      rw [List.drop_one, List.tail_cons, if_neg (by simp [hne]), hdrop, if_neg hlong]
      rwa [if_neg hshort] at hself

/-! ## Whole texts -/

theorem userInfoForm_iff {text : Bytes} {user pass : Option Bytes} :
    UserInfoForm text user pass ↔
      UrlUserInfo user pass ∧ text = urlUserInfoStr user pass := by
  constructor
  · intro h
    cases h with
    | absent => exact ⟨⟨by simp, fun _ => rfl⟩, rfl⟩
    | user hne hcolon =>
        refine ⟨⟨?_, fun _ => rfl⟩, by simp [urlUserInfoStr]⟩
        intro text htext
        rw [Option.mem_some_iff] at htext
        exact htext ▸ ⟨hne, hcolon⟩
    | userPass hne hcolon =>
        refine ⟨⟨?_, by simp⟩, by simp [urlUserInfoStr]⟩
        intro text htext
        rw [Option.mem_some_iff] at htext
        exact htext ▸ ⟨hne, hcolon⟩
  · rintro ⟨hinfo, rfl⟩
    cases user with
    | none =>
        obtain rfl := hinfo.noPass rfl
        exact .absent
    | some user =>
        obtain ⟨hne, hcolon⟩ := hinfo.named user rfl
        cases pass with
        | none => simpa [urlUserInfoStr] using UserInfoForm.user hne hcolon
        | some pass => simpa [urlUserInfoStr] using @UserInfoForm.userPass _ pass hne hcolon

theorem HostForm.plain {text host : Bytes} (hhost : HostForm text host) {b : UInt8}
    (hb : b ∈ text) : b ≠ 0x2f ∧ b ≠ 0x40 := by
  cases hhost with
  | name hne hall =>
      have hchar := hostChar_plain (.inl (hall b hb))
      exact ⟨hchar.1, hchar.2.1⟩
  | address hne hall =>
      simp only [List.mem_cons, List.mem_append, List.not_mem_nil, or_false] at hb
      rcases hb with rfl | hb | rfl
      · decide
      · have hchar := hostChar_plain (.inr (hall b hb))
        exact ⟨hchar.1, hchar.2.1⟩
      · decide

theorem AcceptedNumber.plain {text : Bytes} {n : Nat} (h : AcceptedNumber text n) {b : UInt8}
    (hb : b ∈ text) : b ≠ 0x2f ∧ b ≠ 0x40 := by
  have hdigit : (digitVal 10 b).isSome = true → b ≠ 0x2f ∧ b ≠ 0x40 := by
    intro hsome
    constructor
    · rintro rfl
      exact absurd hsome (by decide)
    · rintro rfl
      exact absurd hsome (by decide)
  rcases h with hplain | ⟨space, mark, digits, rfl, -, hspace, hmark, hdigits⟩
  · exact hdigit (hplain.digits b hb)
  · rcases List.mem_append.mp hb with hb | hb
    · have hchar := hspace b hb
      constructor
      · rintro rfl
        exact absurd hchar (by decide)
      · rintro rfl
        exact absurd hchar (by decide)
    · rcases List.mem_append.mp hb with hb | hb
      · rcases hmark with rfl | rfl | ⟨rfl, -⟩
        · simp at hb
        · rw [List.mem_singleton.mp hb]
          decide
        · rw [List.mem_singleton.mp hb]
          decide
      · exact hdigit (hdigits.digits b hb)

theorem PortForm.plain {text : Bytes} {n : Nat} (hport : PortForm AcceptedNumber text n)
    {b : UInt8} (hb : b ∈ text) : b ≠ 0x2f ∧ b ≠ 0x40 := by
  cases hport with
  | absent => simp at hb
  | empty =>
      rw [List.mem_singleton.mp hb]
      decide
  | number hnumber _ =>
      rcases List.mem_cons.mp hb with rfl | hb
      · decide
      · exact hnumber.plain hb

theorem urlForm_of_parse {text : Bytes} {url : RtspUrl}
    (h : rtspUrlParseInternal (some text) = .ok url) :
    UrlForm (PortForm AcceptedNumber) text url := by
  obtain ⟨entry, authorityText, tail, hcut⟩ := exists_urlCut h
  rw [rtspUrlParseInternal_cut hcut] at h
  obtain ⟨authority, hauthority, h⟩ := except_bind_ok.mp h
  obtain ⟨path, htail, h⟩ := except_bind_ok.mp h
  rw [Except.ok.injEq] at h
  obtain ⟨hinfo, hhostPort, hsplit⟩ := parseAuthority_ok hauthority
  obtain ⟨hostText, portText, n, hpart, hhost, hport, hn⟩ := parseHostAndPort_form hhostPort
  have hzero : authority.port = 0 ↔ n = 0 := by
    have hbound := hport.bound
    rw [hn, ← UInt16.toNat_inj, UInt16.toNat_ofNat_of_lt' (by change n < 65536; omega)]
    rfl
  rw [hpart] at hsplit
  subst h
  refine ⟨entry, hcut.scheme, _, hostText, portText, tail, n, ?_, ?_,
    userInfoForm_iff.mpr ⟨hinfo, rfl⟩, hhost, hport, urlTailRead_form hcut.slash htail, rfl,
    ?_, ?_⟩
  · rw [← hsplit]
    exact hcut.parts
  · intro hmem
    refine hcut.token.free 0x2f ?_ (by simp)
    rw [hsplit]
    exact List.mem_append_left _ hmem
  · simp only [hzero]
    rw [hn]
  · simp only [ne_eq, hzero]

theorem parse_of_urlForm {text : Bytes} {url : RtspUrl} (hlength : text.length < pathMax)
    (h : UrlForm (PortForm AcceptedNumber) text url) :
    rtspUrlParseInternal (some text) = .ok url := by
  obtain ⟨entry, hentry, userInfo, host, port, path, n, rfl, hslash, huserInfo, hhost, hport,
    hpath, hscheme, hportValue, hexplicit⟩ := h
  obtain ⟨hinfo, hinfoText⟩ := userInfoForm_iff.mp huserInfo
  obtain ⟨hdelimiter, htail⟩ := urlTailRead_of_form
    (by simp only [List.length_append] at hlength; omega) hpath
  have hplain : ∀ b ∈ host ++ port, b ≠ 0x2f ∧ b ≠ 0x40 := by
    intro b hb
    rcases List.mem_append.mp hb with hb | hb
    · exact hhost.plain hb
    · exact hport.plain hb
  have hne : host ≠ [] := by
    cases hhost with
    | name hne _ => exact hne
    | address _ _ => simp
  have hcut : UrlCut (entry.2.2 ++ (userInfo ++ (host ++ port) ++ path)) entry
      (userInfo ++ (host ++ port)) path := by
    refine ⟨hentry, rfl, ⟨by simp [hne], ?_⟩, hdelimiter, hlength⟩
    intro b hb
    rw [List.mem_singleton]
    rcases List.mem_append.mp hb with hb | hb
    · rintro rfl
      exact hslash hb
    · exact (hplain b hb).1
  have hzero : UInt16.ofNat n = 0 ↔ n = 0 := by
    have hbound := hport.bound
    rw [← UInt16.toNat_inj, UInt16.toNat_ofNat_of_lt' (by change n < 65536; omega)]
    rfl
  rw [rtspUrlParseInternal_cut hcut, hinfoText,
    parseAuthority_text hinfo (fun hmem => (hplain _ hmem).2 rfl)
      (parseHostAndPort_of_form hhost hport), except_ok_bind, htail, except_ok_bind,
    Except.ok.injEq]
  obtain ⟨scheme, user, pass, host', port', portExplicit, path'⟩ := url
  simp only [RtspUrl.mk.injEq, true_and, and_true]
  refine ⟨hscheme.symm, ?_, ?_⟩
  · rw [show port' = _ from hportValue]
    simp only [hzero]
  · rw [show portExplicit = _ from hexplicit]
    simp only [ne_eq, hzero]

/-! ## The grammar -/

theorem portForm_accepted_iff {port : Bytes} {n : Nat} :
    PortForm AcceptedNumber port n ↔ PortForm PlainNumber port n ∨ PaddedPort port n := by
  constructor
  · intro h
    cases h with
    | absent => exact .inl .absent
    | empty => exact .inl .empty
    | number hnumber hn =>
        rcases hnumber with hplain | hpadded
        · exact .inl (.number hplain hn)
        · exact .inr ⟨_, rfl, hpadded, hn⟩
  · rintro (h | ⟨text, rfl, hpadded, hn⟩)
    · cases h with
      | absent => exact .absent
      | empty => exact .empty
      | number hplain hn => exact .number (.inl hplain) hn
    · exact .number (.inr hpadded) hn

theorem UrlForm.mono {portForm portForm' : Bytes → Nat → Prop} {text : Bytes} {url : RtspUrl}
    (himp : ∀ port n, portForm port n → portForm' port n) (h : UrlForm portForm text url) :
    UrlForm portForm' text url := by
  obtain ⟨entry, hentry, userInfo, host, port, path, n, htext, hslash, huserInfo, hhost, hport,
    hrest⟩ := h
  exact ⟨entry, hentry, userInfo, host, port, path, n, htext, hslash, huserInfo, hhost,
    himp port n hport, hrest⟩

theorem urlForm_accepted_iff {text : Bytes} {url : RtspUrl} :
    UrlForm (PortForm AcceptedNumber) text url ↔
      UrlForm (PortForm PlainNumber) text url ∨ UrlForm PaddedPort text url := by
  constructor
  · rintro ⟨entry, hentry, userInfo, host, port, path, n, htext, hslash, huserInfo, hhost, hport,
      hrest⟩
    rcases portForm_accepted_iff.mp hport with hplain | hpadded
    · exact .inl ⟨entry, hentry, userInfo, host, port, path, n, htext, hslash, huserInfo, hhost,
        hplain, hrest⟩
    · exact .inr ⟨entry, hentry, userInfo, host, port, path, n, htext, hslash, huserInfo, hhost,
        hpadded, hrest⟩
  · rintro (h | h)
    · exact h.mono fun port n hplain => portForm_accepted_iff.mpr (.inl hplain)
    · exact h.mono fun port n hpadded => portForm_accepted_iff.mpr (.inr hpadded)

/-- The text of the port is where `hostPortText` looks for it. -/
theorem hostPortText_form {hostText portText host : Bytes} {n : Nat}
    (hhost : HostForm hostText host) (hport : PortForm AcceptedNumber portText n) :
    hostPortText (hostText ++ portText) = portText.drop 1 := by
  cases hhost with
  | name hne hall =>
      have hcolon : 0x3a ∉ hostText := fun hmem => absurd (hall 0x3a hmem) (by decide)
      obtain ⟨c, tail, rfl⟩ := List.exists_cons_of_ne_nil hne
      have hfirst : c ≠ 0x5b := (hostChar_plain (.inl (hall c (by simp)))).2.2.1
      unfold hostPortText
      split
      next rest heq =>
        rw [List.cons_append, List.cons.injEq] at heq
        exact absurd heq.1 hfirst
      next =>
        rcases portForm_text hport with ⟨rfl, -⟩ | ⟨text, rfl, -⟩
        · rw [List.append_nil, strchr_none hcolon]
          rfl
        · rw [strchr_append hcolon]
          rfl
  | address hne hall =>
      have hbracket : 0x5d ∉ host := fun hmem => absurd (hall 0x5d hmem) (by decide)
      unfold hostPortText
      rw [List.cons_append, List.append_assoc, List.singleton_append]
      simp only [strchr_append hbracket, Option.map_some, Option.getD_some]

theorem urlPortText_form {portForm : Bytes → Nat → Prop} {text : Bytes} {url : RtspUrl}
    (hlength : text.length < pathMax)
    (hform : ∀ port n, portForm port n → PortForm AcceptedNumber port n)
    (h : UrlForm portForm text url) :
    ∃ port n, portForm port n ∧ hostPortText (hostPart (urlAuthority text)) = port.drop 1 := by
  obtain ⟨entry, hentry, userInfo, host, port, path, n, rfl, hslash, huserInfo, hhost, hport,
    hpath, -⟩ := h
  have haccepted := hform port n hport
  obtain ⟨-, hinfoText⟩ := userInfoForm_iff.mp huserInfo
  obtain ⟨hdelimiter, -⟩ := urlTailRead_of_form
    (by simp only [List.length_append] at hlength; omega) hpath
  have hplain : ∀ b ∈ host ++ port, b ≠ 0x2f ∧ b ≠ 0x40 := by
    intro b hb
    rcases List.mem_append.mp hb with hb | hb
    · exact hhost.plain hb
    · exact haccepted.plain hb
  have hne : host ≠ [] := by
    cases hhost with
    | name hne _ => exact hne
    | address _ _ => simp
  have hcut : UrlCut (entry.2.2 ++ (userInfo ++ (host ++ port) ++ path)) entry
      (userInfo ++ (host ++ port)) path := by
    refine ⟨hentry, rfl, ⟨by simp [hne], ?_⟩, hdelimiter, hlength⟩
    intro b hb
    rw [List.mem_singleton]
    rcases List.mem_append.mp hb with hb | hb
    · rintro rfl
      exact hslash hb
    · exact (hplain b hb).1
  have hat : 0x40 ∉ host ++ port := fun hmem => (hplain _ hmem).2 rfl
  have hpart : hostPart (userInfo ++ (host ++ port)) = host ++ port := by
    generalize url.user = user at huserInfo
    generalize url.pass = pass at huserInfo
    cases huserInfo with
    | absent => exact hostPart_none hat
    | @user user _ _ =>
        rw [List.append_assoc, List.singleton_append]
        exact hostPart_append _ hat
    | @userPass user pass _ _ =>
        have hsplit : user ++ 0x3a :: (pass ++ [0x40]) ++ (host ++ port) =
            (user ++ 0x3a :: pass) ++ 0x40 :: (host ++ port) := by
          simp
        rw [hsplit]
        exact hostPart_append _ hat
  refine ⟨port, n, hport, ?_⟩
  rw [urlAuthority_cut hcut, hpart]
  exact hostPortText_form hhost haccepted

theorem not_plain_and_padded {text : Bytes} {url url' : RtspUrl} (hlength : text.length < pathMax)
    (hplain : UrlForm (PortForm PlainNumber) text url) (hpadded : UrlForm PaddedPort text url') :
    False := by
  obtain ⟨port, n, hport, htext⟩ := urlPortText_form hlength
    (fun port n h => portForm_accepted_iff.mpr (.inl h)) hplain
  obtain ⟨port', n', ⟨number, rfl, hnumber, -⟩, htext'⟩ := urlPortText_form hlength
    (fun port n h => portForm_accepted_iff.mpr (.inr h)) hpadded
  have hne : number ≠ [] := by
    obtain ⟨space, mark, digits, rfl, -, -, -, hdigits⟩ := hnumber
    simp [hdigits.nonempty]
  rw [htext] at htext'
  rw [List.drop_one, List.drop_one, List.tail_cons] at htext'
  cases hport with
  | absent => exact hne htext'.symm
  | empty => exact hne htext'.symm
  | number hdigits _ =>
      rw [List.tail_cons] at htext'
      exact hnumber.not_plain (htext' ▸ hdigits)

/-- Acceptance and the parsed fields follow the grammar exactly for the texts whose port is not
a number behind white space or a sign. -/
theorem urlGrammar_iff (inetPton : AddressFamily → Bytes → Bool) {text : Bytes}
    (hlength : text.length < pathMax) :
    (∀ url : RtspUrl,
      (∃ resolvedHost, rtspUrlParse inetPton (some text) = .ok { url with resolvedHost }) ↔
        UrlForm (PortForm PlainNumber) text url) ↔
      ¬ ∃ url, UrlForm PaddedPort text url := by
  have haccepted : ∀ url : RtspUrl,
      (∃ resolvedHost, rtspUrlParse inetPton (some text) = .ok { url with resolvedHost }) ↔
        UrlForm (PortForm PlainNumber) text url ∨ UrlForm PaddedPort text url := by
    intro url
    rw [← urlForm_accepted_iff]
    constructor
    · rintro ⟨resolvedHost, hparse⟩
      exact urlForm_of_parse ((rtspUrlParse_eq inetPton).mp hparse).1
    · intro hform
      refine ⟨if isValidIpv4OrIpv6 inetPton url.host then some url.host else none, ?_⟩
      exact (rtspUrlParse_eq inetPton).mpr ⟨parse_of_urlForm hlength hform, rfl⟩
  constructor
  · rintro hexact ⟨url, hpadded⟩
    have hplain := (hexact url).mp ((haccepted url).mpr (.inr hpadded))
    exact not_plain_and_padded hlength hplain hpadded
  · intro hnone url
    rw [haccepted]
    exact or_iff_left fun hpadded => hnone ⟨url, hpadded⟩

def hostUrl (port : UInt16) : RtspUrl where
  scheme := .tcp
  user := none
  pass := none
  host := ascii "h"
  port := port
  portExplicit := true
  path := none

/-- A text with a plain port. -/
theorem urlGrammar_plainPort :
    UrlForm (PortForm PlainNumber) (ascii "rtsp://h:80") (hostUrl 80) := by
  have hlength : (ascii "rtsp://h:80").length < pathMax := by decide
  have hnone : ¬ ∃ url, UrlForm PaddedPort (ascii "rtsp://h:80") url := by
    rintro ⟨url, hpadded⟩
    obtain ⟨port, n, ⟨number, rfl, hnumber, -⟩, htext⟩ := urlPortText_form hlength
      (fun port n h => portForm_accepted_iff.mpr (.inr h)) hpadded
    have hdigits : hostPortText (hostPart (urlAuthority (ascii "rtsp://h:80"))) =
        formatNat 80 := by
      decide +kernel
    rw [hdigits, List.drop_one, List.tail_cons] at htext
    exact hnumber.not_plain (htext ▸ spells_formatNat 80)
  exact ((urlGrammar_iff (fun _ _ => false) hlength).mpr hnone (hostUrl 80)).mp
    ⟨none, by decide +kernel⟩

/-- A sign before the port is accepted. -/
theorem urlGrammar_signedPort :
    rtspUrlParse (fun _ _ => false) (some (ascii "rtsp://h:+80")) =
        .ok { hostUrl 80 with resolvedHost := none } ∧
      ¬ ∃ url, UrlForm (PortForm PlainNumber) (ascii "rtsp://h:+80") url := by
  have hlength : (ascii "rtsp://h:+80").length < pathMax := by decide
  refine ⟨by decide +kernel, ?_⟩
  rintro ⟨url, hplain⟩
  obtain ⟨port, n, hport, htext⟩ := urlPortText_form hlength
    (fun port n h => portForm_accepted_iff.mpr (.inl h)) hplain
  have hnumber : hostPortText (hostPart (urlAuthority (ascii "rtsp://h:+80"))) =
      ascii "+80" := by
    decide +kernel
  rw [hnumber] at htext
  cases hport with
  | absent => exact absurd htext (by decide)
  | empty => exact absurd htext (by decide)
  | number hdigits _ =>
      rw [List.drop_one, List.tail_cons] at htext
      have hplus := hdigits.digits 0x2b (by rw [← htext]; decide)
      exact absurd hplus (by decide)

end Librtsp
