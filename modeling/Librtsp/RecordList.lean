import Mathlib

/-!
# Lists of records with keys

A list whose elements are known by a key: lookup, replacement and removal by the
key, and what they do to membership, to the keys and to an image of the list.
-/

namespace RecordList

variable {α β κ : Type*} [DecidableEq κ] (key : α → κ)

def lookup (k : κ) (l : List α) : Option α :=
  l.find? fun x => key x = k

def replace (x : α) (l : List α) : List α :=
  l.map fun y => if key y = key x then x else y

def remove (k : κ) (l : List α) : List α :=
  l.filter fun x => key x ≠ k

variable {key}

theorem lookup_some
    {k : κ} {l : List α} {x : α} (h : lookup key k l = some x) : x ∈ l ∧ key x = k :=
  ⟨List.mem_of_find?_eq_some h, by simpa using List.find?_some h⟩

theorem lookup_none {k : κ} {l : List α} : lookup key k l = none ↔ ∀ x ∈ l, key x ≠ k := by
  simp [lookup]

theorem lookup_of_mem
    {l : List α} {x : α} (hkeys : (l.map key).Nodup) (hx : x ∈ l) :
    lookup key (key x) l = some x := by
  cases hfound : lookup key (key x) l with
  | none => exact absurd rfl (lookup_none.mp hfound x hx)
  | some y =>
      obtain ⟨hy, hkey⟩ := lookup_some hfound
      rw [List.inj_on_of_nodup_map hkeys hy hx hkey]

@[simp] theorem mem_replace {x y : α} {l : List α} :
    y ∈ replace key x l ↔
      (y ∈ l ∧ key y ≠ key x) ∨ (y = x ∧ ∃ z ∈ l, key z = key x) := by
  unfold replace
  rw [List.mem_map]
  constructor
  · intro ⟨z, hz, hy⟩
    by_cases hkey : key z = key x
    · rw [if_pos hkey] at hy
      exact .inr ⟨hy.symm, z, hz, hkey⟩
    · rw [if_neg hkey] at hy
      exact .inl ⟨hy ▸ hz, hy ▸ hkey⟩
  · intro h
    rcases h with ⟨hy, hkey⟩ | ⟨rfl, z, hz, hkey⟩
    · exact ⟨y, hy, if_neg hkey⟩
    · exact ⟨z, hz, if_pos hkey⟩

@[simp] theorem map_key_replace (x : α) (l : List α) :
    (replace key x l).map key = l.map key := by
  unfold replace
  rw [List.map_map]
  apply List.map_congr_left
  intro y _
  by_cases hkey : key y = key x
  · simp [hkey]
  · simp [hkey]

/-- Replacing a record by itself changes nothing. -/
theorem replace_self
    {x : α} {l : List α} (hkeys : (l.map key).Nodup) (hx : x ∈ l) : replace key x l = l := by
  unfold replace
  conv_rhs => rw [← List.map_id l]
  apply List.map_congr_left
  intro y hy
  by_cases hkey : key y = key x
  · rw [if_pos hkey, List.inj_on_of_nodup_map hkeys hy hx hkey, id]
  · rw [if_neg hkey, id]

/-- A record with the same image in place of another one. -/
theorem map_replace_same
    {x y : α} {l : List α} (f : α → β) (hkeys : (l.map key).Nodup) (hx : x ∈ l)
    (hkey : key y = key x) (himage : f y = f x) : (replace key y l).map f = l.map f := by
  unfold replace
  rw [List.map_map]
  apply List.map_congr_left
  intro z hz
  by_cases h : key z = key y
  · have heq : z = x := List.inj_on_of_nodup_map hkeys hz hx (h.trans hkey)
    simp [heq, hkey, himage]
  · simp [h]

@[simp] theorem mem_remove {k : κ} {x : α} {l : List α} :
    x ∈ remove key k l ↔ x ∈ l ∧ key x ≠ k := by
  simp [remove]

theorem nodup_remove
    {k : κ} {l : List α} (hkeys : (l.map key).Nodup) : ((remove key k l).map key).Nodup :=
  hkeys.sublist (List.filter_sublist.map key)

omit [DecidableEq κ] in
/-- A record added under a new key. -/
theorem nodup_append
    {x : α} {l : List α} (hkeys : (l.map key).Nodup) (hnew : ∀ y ∈ l, key y ≠ key x) :
    ((l ++ [x]).map key).Nodup := by
  rw [List.map_append, List.nodup_append]
  refine ⟨hkeys, by simp, ?_⟩
  intro k hk k' hk' heq
  obtain ⟨y, hy, rfl⟩ := List.mem_map.mp hk
  simp only [List.map_cons, List.map_nil, List.mem_singleton] at hk'
  exact hnew y hy (heq.trans hk')

variable (key) in
/-- A record added last, under a key no other has, is the one replaced. -/
theorem replace_append
    {x y : α} {l : List α} (hkey : key y = key x) (hnew : ∀ z ∈ l, key z ≠ key x) :
    replace key x (l ++ [y]) = l ++ [x] := by
  unfold replace
  rw [List.map_append, List.map_cons, List.map_nil, if_pos hkey]
  congr 1
  conv_rhs => rw [← List.map_id l]
  apply List.map_congr_left
  intro z hz
  rw [if_neg (hnew z hz), id]

variable (key) in
/-- Of two replacements under one key the second one counts. -/
theorem replace_replace {x y : α} (hkey : key y = key x) (l : List α) :
    replace key x (replace key y l) = replace key x l := by
  unfold replace
  rw [List.map_map]
  apply List.map_congr_left
  intro z _
  by_cases h : key z = key x
  · simp [h, hkey]
  · simp [h, hkey]

theorem remove_append
    {x : α} {l : List α} (hnew : ∀ y ∈ l, key y ≠ key x) :
    remove key (key x) (l ++ [x]) = l := by
  unfold remove
  rw [List.filter_append, List.filter_cons_of_neg (by simp), List.filter_nil, List.append_nil,
    List.filter_eq_self]
  intro y hy
  simpa using hnew y hy

theorem lookup_replace
    {x : α} {l : List α} (h : ∃ y ∈ l, key y = key x) :
    lookup key (key x) (replace key x l) = some x := by
  have hmem : x ∈ replace key x l := mem_replace.mpr (.inr ⟨rfl, h⟩)
  cases hfound : lookup key (key x) (replace key x l) with
  | none => exact absurd rfl (lookup_none.mp hfound x hmem)
  | some z =>
      obtain ⟨hz, hkey⟩ := lookup_some hfound
      rcases mem_replace.mp hz with ⟨-, hne⟩ | ⟨rfl, -⟩
      · exact absurd hkey hne
      · rfl

theorem remove_replace
    {x : α} {k : κ} (hkey : key x = k) (l : List α) :
    remove key k (replace key x l) = remove key k l := by
  induction l with
  | nil => rfl
  | cons y l ih =>
      unfold remove replace at ih ⊢
      rw [List.map_cons]
      by_cases h : key y = key x
      · rw [if_pos h, List.filter_cons_of_neg (by simpa using hkey),
          List.filter_cons_of_neg (by simpa using h.trans hkey), ih]
      · rw [if_neg h, List.filter_cons_of_pos (by simpa using fun h' => h (h'.trans hkey.symm)),
          List.filter_cons_of_pos (by simpa using fun h' => h (h'.trans hkey.symm)), ih]

section Length

theorem length_remove
    {x : α} {l : List α} (hkeys : (l.map key).Nodup) (hx : x ∈ l) :
    (remove key (key x) l).length + 1 = l.length := by
  induction l with
  | nil => cases hx
  | cons y l ih =>
      obtain ⟨hnew, hrest⟩ := List.nodup_cons.mp hkeys
      by_cases hkey : key y = key x
      · have hothers : remove key (key x) l = l := by
          unfold remove
          rw [List.filter_eq_self]
          intro z hz
          have hne : key z ≠ key y := fun h => hnew (List.mem_map.mpr ⟨z, hz, h⟩)
          simpa [← hkey] using hne
        rw [remove, List.filter_cons_of_neg (by simpa using hkey), ← remove, hothers,
          List.length_cons]
      · have hmem : x ∈ l := by
          rcases List.mem_cons.mp hx with rfl | h
          · exact absurd rfl hkey
          · exact h
        rw [remove, List.filter_cons_of_pos (by simpa using hkey), ← remove, List.length_cons,
          ih hrest hmem, List.length_cons]

/-- The number kept beside a list is its length, as a number of 32 bits. -/
def Counts (count : UInt32) (l : List α) : Prop :=
  count = UInt32.ofNat l.length

omit [DecidableEq κ] in
theorem Counts.append {count : UInt32} {l : List α} (h : Counts count l) (x : α) :
    Counts (count + 1) (l ++ [x]) := by
  unfold Counts at h ⊢
  rw [h, List.length_append, List.length_singleton, UInt32.ofNat_add]
  rfl

theorem Counts.remove {count : UInt32} {x : α} {l : List α} (h : Counts count l)
    (hkeys : (l.map key).Nodup) (hx : x ∈ l) :
    Counts (count - 1) (remove key (key x) l) := by
  unfold Counts at h ⊢
  rw [h, ← length_remove hkeys hx, UInt32.ofNat_add]
  exact UInt32.add_sub_cancel _ _

omit [DecidableEq κ] in
theorem Counts.toNat {count : UInt32} {l : List α} (h : Counts count l) :
    count.toNat = l.length % 2 ^ 32 := by
  rw [h]
  rfl

end Length

section Image

variable {g : β → κ} {f : α → β} (hkey : ∀ x, g (f x) = key x)

include hkey

theorem map_replace (x : α) (l : List α) :
    (replace key x l).map f = replace g (f x) (l.map f) := by
  unfold replace
  rw [List.map_map, List.map_map]
  apply List.map_congr_left
  intro y _
  by_cases h : key y = key x
  · simp [hkey, h]
  · simp [hkey, h]

theorem map_remove (k : κ) (l : List α) :
    (remove key k l).map f = remove g k (l.map f) := by
  unfold remove
  rw [List.filter_map]
  congr 1
  apply List.filter_congr
  intro x _
  simp [hkey]

end Image

end RecordList
