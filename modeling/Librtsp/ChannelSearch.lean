import Librtsp.ClientOutcome

/-!
# The search for free channels

`allocate_interleaved_channels` looks at the pairs of an even channel and the next one, with
an index of eight bits that never reaches the bound 255 of its loop.  The loop is taken as it
stands, with fuel: the search ends exactly when there is a free pair of this kind, however
many single channels are free, and `allocateInterleavedChannels` is its limit.
-/

namespace Librtsp

/-! ## The loop -/

/-- The index where the search stops, if it stops with this fuel: a free pair, or none when
the index leaves its range. -/
def searchChannels (channelUsed : UInt8 → Bool) : Nat → UInt8 → Option (Option UInt8)
  | 0, _ => none
  | fuel + 1, i =>
      if i < 255 then
        if ¬ channelUsed i ∧ ¬ channelUsed (i + 1) then some (some i)
        else searchChannels channelUsed fuel (i + 2)
      else some none

/-- What the allocation returns, and what it leaves in its arguments. -/
structure ChannelAllocation where
  ret : Except Errno Unit
  pair : RtspChannelPair
  channelUsed : UInt8 → Bool

/-- `allocate_interleaved_channels` -/
def allocateChannelsLoop (fuel : Nat) (channelUsed : UInt8 → Bool) (pair : RtspChannelPair) :
    Option ChannelAllocation :=
  if pair.isValid then
    if channelUsed pair.rtp then some { ret := .error .eexist, pair, channelUsed }
    else if channelUsed pair.rtcp then some { ret := .error .eexist, pair, channelUsed }
    else some { ret := .ok (), pair, channelUsed := setChannelPairUsed channelUsed pair true }
  else
    (searchChannels channelUsed fuel 0).map fun found =>
      let pair :=
        match found with
        | some i => { rtp := i, rtcp := i + 1 }
        | none => pair
      { ret := .ok (), pair, channelUsed := setChannelPairUsed channelUsed pair true }

/-! ## Even channels -/

theorem mem_evenChannels {i : UInt8} : i ∈ evenChannels ↔ i.toNat % 2 = 0 := by
  unfold evenChannels
  rw [List.mem_map]
  constructor
  · rintro ⟨k, hk, rfl⟩
    rw [List.mem_range] at hk
    rw [UInt8.toNat_ofNat']
    omega
  · intro heven
    have hlt := i.toNat_lt
    refine ⟨i.toNat / 2, ?_, ?_⟩
    · rw [List.mem_range]
      omega
    · apply UInt8.toNat_inj.mp
      rw [UInt8.toNat_ofNat']
      omega

theorem even_add_two {i : UInt8} (h : i ∈ evenChannels) : i + 2 ∈ evenChannels := by
  rw [mem_evenChannels] at h ⊢
  rw [UInt8.toNat_add]
  change (i.toNat + 2) % 256 % 2 = 0
  omega

theorem even_lt {i : UInt8} (h : i ∈ evenChannels) : i < 255 := by
  rw [mem_evenChannels] at h
  have hlt := i.toNat_lt
  rw [UInt8.lt_iff_toNat_lt]
  change i.toNat < 255
  omega

/-- An even channel and the next one are free. -/
def FreePair (channelUsed : UInt8 → Bool) (i : UInt8) : Prop :=
  i ∈ evenChannels ∧ channelUsed i = false ∧ channelUsed (i + 1) = false

instance decidableFreePair (channelUsed : UInt8 → Bool) (i : UInt8) :
    Decidable (FreePair channelUsed i) :=
  inferInstanceAs (Decidable (_ ∧ _ ∧ _))

variable {channelUsed : UInt8 → Bool} {pair : RtspChannelPair}

theorem searchChannels_even {fuel : Nat} {i : UInt8} (heven : i ∈ evenChannels) :
    searchChannels channelUsed (fuel + 1) i =
      if FreePair channelUsed i then some (some i)
      else searchChannels channelUsed fuel (i + 2) := by
  simp only [searchChannels, if_pos (even_lt heven), FreePair, heven, true_and,
    Bool.not_eq_true]

/-! ## The end of the search -/

/-- Without a free pair the index goes round and round. -/
theorem searchChannels_none (hnone : ∀ i, ¬ FreePair channelUsed i) (fuel : Nat) :
    ∀ i ∈ evenChannels, searchChannels channelUsed fuel i = none := by
  induction fuel with
  | zero => exact fun _ _ => rfl
  | succ fuel ih =>
      intro i heven
      rw [searchChannels_even heven, if_neg (hnone i)]
      exact ih (i + 2) (even_add_two heven)

/-- What the search finds from an even channel on is a free pair. -/
theorem searchChannels_some {fuel : Nat} {found : Option UInt8} :
    ∀ i ∈ evenChannels, searchChannels channelUsed fuel i = some found →
      ∃ j, found = some j ∧ FreePair channelUsed j := by
  induction fuel with
  | zero => exact fun _ _ h => (by cases h)
  | succ fuel ih =>
      intro i heven h
      rw [searchChannels_even heven] at h
      split at h
      next hfree =>
        cases h
        exact ⟨i, rfl, hfree⟩
      next => exact ih (i + 2) (even_add_two heven) h

/-- From `2 m` on, the search finds the first free pair. -/
theorem searchChannels_find {i : UInt8} (n : Nat) :
    ∀ m, m + n = 128 →
      ((List.range' m n).map fun k => UInt8.ofNat (2 * k)).find?
          (fun i => ¬ channelUsed i ∧ ¬ channelUsed (i + 1)) = some i →
        searchChannels channelUsed n (UInt8.ofNat (2 * m)) = some (some i) := by
  induction n with
  | zero => exact fun _ _ h => (by cases h)
  | succ n ih =>
      intro m hm h
      have heven : UInt8.ofNat (2 * m) ∈ evenChannels := by
        rw [mem_evenChannels, UInt8.toNat_ofNat']
        omega
      rw [List.range'_succ, List.map_cons, List.find?_cons] at h
      rw [searchChannels_even heven]
      split at h
      next hfree =>
        cases h
        rw [if_pos]
        exact ⟨heven, by simpa using hfree⟩
      next hused =>
        rw [if_neg]
        · have hnext : UInt8.ofNat (2 * m) + 2 = UInt8.ofNat (2 * (m + 1)) := by
            apply UInt8.toNat_inj.mp
            rw [UInt8.toNat_add, UInt8.toNat_ofNat', UInt8.toNat_ofNat']
            change (2 * m % 256 + 2) % 256 = _
            omega
          rw [hnext]
          exact ih (m + 1) (by omega) h
        · rintro ⟨-, hfree⟩
          simp only [hfree.1, hfree.2] at hused
          exact absurd hused (by decide)

theorem evenChannels_eq :
    evenChannels = (List.range' 0 128).map fun k => UInt8.ofNat (2 * k) := by
  rw [evenChannels, List.range_eq_range']

theorem find_evenChannels_none :
    evenChannels.find? (fun i => ¬ channelUsed i ∧ ¬ channelUsed (i + 1)) = none ↔
      ∀ i, ¬ FreePair channelUsed i := by
  rw [List.find?_eq_none]
  constructor
  · rintro h i ⟨heven, hfree, hnext⟩
    exact h i heven (by simp only [hfree, hnext]; decide)
  · intro h i heven hused
    have hfree := of_decide_eq_true hused
    exact h i ⟨heven, Bool.eq_false_iff.mpr hfree.1, Bool.eq_false_iff.mpr hfree.2⟩

/-- More fuel changes nothing once the search has ended. -/
theorem searchChannels_mono {fuel fuel' : Nat} {found : Option UInt8} (hle : fuel ≤ fuel') :
    ∀ i, searchChannels channelUsed fuel i = some found →
      searchChannels channelUsed fuel' i = some found := by
  induction fuel generalizing fuel' with
  | zero => exact fun _ h => (by cases h)
  | succ fuel ih =>
      intro i h
      obtain ⟨rest, rfl⟩ := Nat.exists_eq_add_of_le' (Nat.lt_of_lt_of_le (Nat.succ_pos fuel) hle)
      unfold searchChannels at h ⊢
      split at h
      next hrange =>
        split at h
        next hfree =>
          rw [if_pos hrange, if_pos hfree]
          exact h
        next hused =>
          rw [if_pos hrange, if_neg hused]
          exact ih (by omega) (i + 2) h
      next hrange =>
        rw [if_neg hrange]
        exact h

/-- The search ends exactly with the first free pair. -/
theorem searchChannels_ends_iff {found : Option UInt8} :
    (∃ fuel, searchChannels channelUsed fuel 0 = some found) ↔
      ∃ i, found = some i ∧
        evenChannels.find? (fun i => ¬ channelUsed i ∧ ¬ channelUsed (i + 1)) = some i := by
  constructor
  · rintro ⟨fuel, h⟩
    cases hfind : evenChannels.find? fun i => ¬ channelUsed i ∧ ¬ channelUsed (i + 1) with
    | none =>
        have hnone := searchChannels_none (find_evenChannels_none.mp hfind) fuel 0 (by decide)
        rw [h] at hnone
        cases hnone
    | some i =>
        rw [evenChannels_eq] at hfind
        have hfinds := searchChannels_find 128 0 (by omega) hfind
        have hsame := searchChannels_mono (Nat.le_max_left 128 fuel) _ hfinds
        have hgiven := searchChannels_mono (Nat.le_max_right 128 fuel) _ h
        change searchChannels channelUsed _ 0 = _ at hsame
        rw [hgiven] at hsame
        exact ⟨i, Option.some.inj hsame, rfl⟩
  · rintro ⟨i, rfl, hfind⟩
    rw [evenChannels_eq] at hfind
    exact ⟨128, searchChannels_find 128 0 (by omega) hfind⟩

/-- `allocateInterleavedChannels` is what the loop returns, with the channels of a request
that is refused left as they are. -/
theorem allocateInterleavedChannels_loop
    {result : Except Errno (RtspChannelPair × (UInt8 → Bool))} :
    allocateInterleavedChannels channelUsed pair = .ok result ↔
      ∃ fuel done, allocateChannelsLoop fuel channelUsed pair = some done ∧
        result = done.ret.map fun _ => (done.pair, done.channelUsed) := by
  unfold allocateInterleavedChannels allocateChannelsLoop
  split
  next hvalid =>
    have hdone : ∀ done : ChannelAllocation, (.ok result = (Except.ok (done.ret.map fun _ =>
          (done.pair, done.channelUsed)) : Except ClientHalt _)) ↔
        ∃ (_ : Nat) (done' : ChannelAllocation), some done = some done' ∧
          result = done'.ret.map fun _ => (done'.pair, done'.channelUsed) := by
      intro done
      constructor
      · intro h
        cases h
        exact ⟨0, done, rfl, rfl⟩
      · rintro ⟨-, done', hsame, hresult⟩
        cases hsame
        rw [hresult]
    by_cases hrtp : channelUsed pair.rtp = true
    · rw [if_pos (.inl hrtp), if_pos hrtp]
      exact eq_comm.trans (hdone { ret := .error .eexist, pair, channelUsed })
    · by_cases hrtcp : channelUsed pair.rtcp = true
      · rw [if_pos (.inr hrtcp), if_neg hrtp, if_pos hrtcp]
        exact eq_comm.trans (hdone { ret := .error .eexist, pair, channelUsed })
      · rw [if_neg (not_or.mpr ⟨hrtp, hrtcp⟩), if_neg hrtp, if_neg hrtcp]
        exact eq_comm.trans (hdone { ret := .ok (), pair, channelUsed := _ })
  next hinvalid =>
    split
    next hfind =>
      apply iff_of_false
      · exact fun h => (by cases h)
      · rintro ⟨fuel, done, h, -⟩
        obtain ⟨found, hfound, -⟩ := Option.map_eq_some_iff.mp h
        obtain ⟨i, -, hfind'⟩ := searchChannels_ends_iff.mp ⟨fuel, hfound⟩
        cases hfind.symm.trans hfind'
    next i hfind =>
      constructor
      · intro h
        cases h
        obtain ⟨fuel, hfuel⟩ := searchChannels_ends_iff.mpr ⟨i, rfl, hfind⟩
        exact ⟨fuel, _, by rw [hfuel]; rfl, rfl⟩
      · rintro ⟨fuel, done, h, hresult⟩
        obtain ⟨found, hfound, rfl⟩ := Option.map_eq_some_iff.mp h
        obtain ⟨j, rfl, hfind'⟩ := searchChannels_ends_iff.mp ⟨fuel, hfound⟩
        cases hfind.symm.trans hfind'
        rw [hresult]
        rfl

/-! ## The allocation -/

/-- The allocation ends.  It returns zero with two channels that were free, and marks these;
or an error, and marks nothing. -/
def AllocatesChannels (channelUsed : UInt8 → Bool) (pair : RtspChannelPair) : Prop :=
  ∃ fuel done, allocateChannelsLoop fuel channelUsed pair = some done ∧
    match done.ret with
    | .ok () =>
        done.pair.rtp ≠ done.pair.rtcp ∧ channelUsed done.pair.rtp = false ∧
          channelUsed done.pair.rtcp = false ∧
          ∀ channel, done.channelUsed channel =
            (channelUsed channel || channel = done.pair.rtp || channel = done.pair.rtcp)
    | .error _ => done.channelUsed = channelUsed

theorem setChannelPairUsed_marks (hvalid : pair.isValid = true) (channel : UInt8) :
    setChannelPairUsed channelUsed pair true channel =
      (channelUsed channel || channel = pair.rtp || channel = pair.rtcp) := by
  unfold setChannelPairUsed
  rw [if_pos hvalid]
  split
  next hmarked =>
    rcases hmarked with rfl | rfl
    · simp
    · simp
  next hother =>
    rw [not_or] at hother
    simp [hother.1, hother.2]

/-- For every map of the channels and every requested pair: the allocation does its work
exactly when the pair is one of two channels, or an even channel and the next one are
free. -/
theorem channelAllocation_iff (channelUsed : UInt8 → Bool) (pair : RtspChannelPair) :
    AllocatesChannels channelUsed pair ↔
      pair.isValid = true ∨ ∃ i, FreePair channelUsed i := by
  constructor
  · rintro ⟨fuel, done, h, -⟩
    unfold allocateChannelsLoop at h
    split at h
    next hvalid => exact .inl hvalid
    next =>
      obtain ⟨found, hfound, -⟩ := Option.map_eq_some_iff.mp h
      obtain ⟨i, -, hfree⟩ := searchChannels_some 0 (by decide) hfound
      exact .inr ⟨i, hfree⟩
  · intro hcondition
    by_cases hvalid : pair.isValid = true
    · refine ⟨0, ?_⟩
      unfold allocateChannelsLoop
      rw [if_pos hvalid]
      split
      next => exact ⟨_, rfl, rfl⟩
      next hrtp =>
        split
        next => exact ⟨_, rfl, rfl⟩
        next hrtcp =>
          refine ⟨_, rfl, ?_, ?_, ?_, setChannelPairUsed_marks hvalid⟩
          · exact of_decide_eq_true hvalid
          · exact Bool.eq_false_iff.mpr hrtp
          · exact Bool.eq_false_iff.mpr hrtcp
    · obtain ⟨free, hfree⟩ := hcondition.resolve_left hvalid
      cases hfind : evenChannels.find? fun i => ¬ channelUsed i ∧ ¬ channelUsed (i + 1) with
      | none => exact absurd hfree (find_evenChannels_none.mp hfind free)
      | some i =>
          obtain ⟨fuel, hfuel⟩ := searchChannels_ends_iff.mpr ⟨i, rfl, hfind⟩
          obtain ⟨j, hj, hpair⟩ := searchChannels_some 0 (by decide) hfuel
          cases hj
          refine ⟨fuel, { ret := .ok (), pair := { rtp := i, rtcp := i + 1 }, channelUsed := _ },
            ?_, succ_ne i, hpair.2.1, hpair.2.2, setChannelPairUsed_marks ?_⟩
          · unfold allocateChannelsLoop
            rw [if_neg hvalid, hfuel]
            rfl
          · exact decide_eq_true (succ_ne i)

/-- With the even channels in use 128 channels are free, and the search does not end. -/
theorem oddChannels_neverEnd :
    countChannelUnused (fun channel => channel.toNat % 2 = 0) = 128 ∧
      ¬ AllocatesChannels (fun channel => channel.toNat % 2 = 0) { rtp := 0, rtcp := 0 } := by
  constructor
  · decide +kernel
  · rintro ⟨fuel, done, h, -⟩
    obtain ⟨found, hfound, -⟩ := Option.map_eq_some_iff.mp h
    obtain ⟨i, -, heven, hused, -⟩ := searchChannels_some 0 (by decide) hfound
    rw [mem_evenChannels] at heven
    simp [heven] at hused

end Librtsp
