import Mathlib

/-!
# Searching a list for several patterns

A pattern occurs in a list where the rest of the list begins with it.  One search walks over
the list and stops where any of the patterns occurs; another looks for one pattern after the
other and stops at the first that occurs anywhere.  When no two of the patterns can occur at
the same place, the two agree exactly when nothing that is looked for before the pattern of
the earliest place occurs at all.
-/

namespace PatternSearch

variable {α : Type*}

/-! ## Occurrences -/

/-- `pat` stands at offset `p`. -/
def Occurs (pat s : List α) (p : Nat) : Prop :=
  pat <+: s.drop p

theorem Occurs.append {pat s : List α} {p : Nat} (h : Occurs pat s p) (hp : p ≤ s.length)
    (more : List α) : Occurs pat (s ++ more) p := by
  unfold Occurs at h ⊢
  rw [List.drop_append_of_le_length hp]
  exact h.trans (List.prefix_append _ _)

theorem Occurs.bound {pat s : List α} {p : Nat} (h : Occurs pat s p) (hne : pat ≠ []) :
    p + pat.length ≤ s.length := by
  have hlength := h.length_le
  have hpos := List.length_pos_iff.mpr hne
  rw [List.length_drop] at hlength
  omega

theorem occurs_of_append {pat before after : List α} :
    Occurs pat (before ++ (pat ++ after)) before.length := by
  unfold Occurs
  rw [List.drop_left]
  exact List.prefix_append _ _

/-- No two different patterns can stand at the same place. -/
def Apart (pats : List (List α)) : Prop :=
  ∀ a ∈ pats, ∀ b ∈ pats, ∀ s, a <+: s → b <+: s → a = b

theorem apart_single (pat : List α) : Apart [pat] := by
  intro a ha b hb s _ _
  rw [List.mem_singleton.mp ha, List.mem_singleton.mp hb]

/-! ## The searches -/

variable [DecidableEq α]

/-- The earliest offset at which one of the patterns stands, and that pattern. -/
def earliest (pats : List (List α)) : List α → Option (Nat × List α)
  | [] => (pats.find? (·.isPrefixOf [])).map fun pat => (0, pat)
  | b :: s =>
      match pats.find? (·.isPrefixOf (b :: s)) with
      | some pat => some (0, pat)
      | none => (earliest pats s).map fun found => (found.1 + 1, found.2)

/-- The first pattern that occurs anywhere, with its first offset. -/
def inOrder (pats : List (List α)) (s : List α) : Option (Nat × List α) :=
  pats.findSome? fun pat => earliest [pat] s

example : earliest [[2, 3], [1, 2]] [0, 1, 2, 3] = some (1, [1, 2]) ∧
    inOrder [[2, 3], [1, 2]] [0, 1, 2, 3] = some (2, [2, 3]) := by
  decide +kernel

/-! ## The earliest place -/

theorem find_prefix_none {pats : List (List α)} {s : List α} :
    pats.find? (·.isPrefixOf s) = none ↔ ∀ pat ∈ pats, ¬pat <+: s := by
  simp

theorem find_prefix_some {pats : List (List α)} {s pat : List α}
    (h : pats.find? (·.isPrefixOf s) = some pat) : pat ∈ pats ∧ pat <+: s := by
  have hbegins : pat.isPrefixOf s = true := by simpa using List.find?_some h
  exact ⟨List.mem_of_find?_eq_some h, List.isPrefixOf_iff_prefix.mp hbegins⟩

theorem earliest_none_iff {pats : List (List α)} {s : List α} :
    earliest pats s = none ↔ ∀ p, ∀ pat ∈ pats, ¬Occurs pat s p := by
  induction s with
  | nil =>
      rw [earliest, Option.map_eq_none_iff, find_prefix_none]
      simp [Occurs]
  | cons b s ih =>
      rw [earliest]
      constructor
      · intro h p pat hpat
        split at h
        next => simp at h
        next hnone =>
          cases p with
          | zero => exact find_prefix_none.mp hnone pat hpat
          | succ p => exact ih.mp (Option.map_eq_none_iff.mp h) p pat hpat
      · intro h
        have hnone : pats.find? (·.isPrefixOf (b :: s)) = none :=
          find_prefix_none.mpr fun pat hpat => h 0 pat hpat
        rw [hnone]
        exact Option.map_eq_none_iff.mpr (ih.mpr fun p pat hpat => h (p + 1) pat hpat)

theorem earliest_some {pats : List (List α)} {s pat : List α} {p : Nat}
    (h : earliest pats s = some (p, pat)) :
    pat ∈ pats ∧ Occurs pat s p ∧ ∀ q < p, ∀ pat' ∈ pats, ¬Occurs pat' s q := by
  induction s generalizing p with
  | nil =>
      obtain ⟨pat', hfind, heq⟩ := Option.map_eq_some_iff.mp h
      cases heq
      obtain ⟨hmem, hbegins⟩ := find_prefix_some hfind
      exact ⟨hmem, hbegins, fun q hq => absurd hq (Nat.not_lt_zero q)⟩
  | cons b s ih =>
      rw [earliest] at h
      split at h
      next hfind =>
        cases h
        obtain ⟨hmem, hbegins⟩ := find_prefix_some hfind
        exact ⟨hmem, hbegins, fun q hq => absurd hq (Nat.not_lt_zero q)⟩
      next hnone =>
        obtain ⟨⟨p', pat'⟩, hrest, heq⟩ := Option.map_eq_some_iff.mp h
        cases heq
        obtain ⟨hmem, hoccurs, hbefore⟩ := ih hrest
        refine ⟨hmem, hoccurs, fun q hq other hother => ?_⟩
        cases q with
        | zero => exact find_prefix_none.mp hnone other hother
        | succ q => exact hbefore q (Nat.lt_of_succ_lt_succ hq) other hother

theorem earliest_eq_some_iff {pats : List (List α)} (hapart : Apart pats) {s pat : List α}
    {p : Nat} :
    earliest pats s = some (p, pat) ↔
      pat ∈ pats ∧ Occurs pat s p ∧ ∀ q < p, ∀ pat' ∈ pats, ¬Occurs pat' s q := by
  refine ⟨earliest_some, fun ⟨hmem, hoccurs, hbefore⟩ => ?_⟩
  cases hfound : earliest pats s with
  | none => exact absurd hoccurs (earliest_none_iff.mp hfound p pat hmem)
  | some found =>
      obtain ⟨q, other⟩ := found
      obtain ⟨hother, hoccurs', hbefore'⟩ := earliest_some hfound
      have hle : p ≤ q := by
        by_contra hlt
        exact hbefore q (by omega) other hother hoccurs'
      have hge : q ≤ p := by
        by_contra hlt
        exact hbefore' p (by omega) pat hmem hoccurs
      obtain rfl : p = q := by omega
      rw [hapart pat hmem other hother _ hoccurs hoccurs']

/-! ## One pattern after the other -/

theorem inOrder_none_iff {pats : List (List α)} {s : List α} :
    inOrder pats s = none ↔ ∀ p, ∀ pat ∈ pats, ¬Occurs pat s p := by
  unfold inOrder
  rw [List.findSome?_eq_none_iff]
  constructor
  · intro h p pat hpat
    exact earliest_none_iff.mp (h pat hpat) p pat List.mem_cons_self
  · intro h pat hpat
    refine earliest_none_iff.mpr fun p pat' hpat' => ?_
    rw [List.mem_singleton.mp hpat']
    exact h p pat hpat

/-- The pattern found stands there first, and nothing that is looked for before it occurs. -/
theorem inOrder_some {pats : List (List α)} {s pat : List α} {p : Nat}
    (h : inOrder pats s = some (p, pat)) :
    pat ∈ pats ∧ earliest [pat] s = some (p, pat) ∧
      ∀ pat' ∈ pats.takeWhile (· ≠ pat), ∀ q, ¬Occurs pat' s q := by
  obtain ⟨before, pat', after, rfl, hfound, hbefore⟩ := List.findSome?_eq_some_iff.mp h
  obtain rfl := List.mem_singleton.mp (earliest_some hfound).1
  have hnone : ∀ other ∈ before, ∀ q, ¬Occurs other s q := fun other hother q =>
    earliest_none_iff.mp (hbefore other hother) q other List.mem_cons_self
  have hnew : ∀ other ∈ before, other ≠ pat := fun other hother heq =>
    hnone other hother p (heq ▸ (earliest_some hfound).2.1)
  refine ⟨by simp, hfound, fun other hother => ?_⟩
  rw [List.takeWhile_append_of_pos (by simpa using hnew),
    List.takeWhile_cons_of_neg (by simp), List.append_nil] at hother
  exact hnone other hother

theorem inOrder_of_first {pats : List (List α)} {s pat : List α} {p : Nat} (hmem : pat ∈ pats)
    (hfound : earliest [pat] s = some (p, pat))
    (hbefore : ∀ pat' ∈ pats.takeWhile (· ≠ pat), ∀ q, ¬Occurs pat' s q) :
    inOrder pats s = some (p, pat) := by
  unfold inOrder
  induction pats with
  | nil => simp at hmem
  | cons first pats ih =>
      rw [List.findSome?_cons]
      by_cases hfirst : first = pat
      · rw [hfirst, hfound]
      · rw [List.takeWhile_cons_of_pos (by simpa using hfirst)] at hbefore
        have hnone : earliest [first] s = none := by
          refine earliest_none_iff.mpr fun q pat' hpat' => ?_
          rw [List.mem_singleton.mp hpat']
          exact hbefore first List.mem_cons_self q
        rw [hnone]
        exact ih ((List.mem_cons.mp hmem).resolve_left (Ne.symm hfirst))
          fun pat' hpat' => hbefore pat' (List.mem_cons_of_mem _ hpat')

/-- The two searches agree exactly when no pattern that is looked for before the one of the
earliest place occurs. -/
theorem inOrder_eq_earliest_iff {pats : List (List α)} {s : List α} :
    inOrder pats s = earliest pats s ↔
      ∀ found ∈ earliest pats s, ∀ pat ∈ pats.takeWhile (· ≠ found.2), ∀ q,
        ¬Occurs pat s q := by
  cases hearliest : earliest pats s with
  | none => simpa using inOrder_none_iff.mpr (earliest_none_iff.mp hearliest)
  | some found =>
      obtain ⟨p, pat⟩ := found
      obtain ⟨hmem, hoccurs, hbefore⟩ := earliest_some hearliest
      constructor
      · intro h found hfound
        cases hfound
        exact (inOrder_some h).2.2
      · intro h
        have hfound : earliest [pat] s = some (p, pat) :=
          (earliest_eq_some_iff (apart_single pat)).mpr
            ⟨List.mem_cons_self, hoccurs, fun q hq other hother =>
              hbefore q hq other (List.mem_singleton.mp hother ▸ hmem)⟩
        exact inOrder_of_first hmem hfound (h (p, pat) rfl)

end PatternSearch
