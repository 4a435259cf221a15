import Mathlib

/-!
# Runs of a step function

A machine is a step function from states and inputs to states that may halt
instead.  A run takes the inputs of a list in order.  What one step preserves, a
whole run preserves; the steps may be required to meet a condition on the state
before them and their input.
-/

namespace Execution

variable {State Input Halt : Type*}

/-- A result that is there is the result. -/
theorem ok_of_toOption {ε α : Type*} {x : Except ε α} {a : α} (h : a ∈ x.toOption) : x = .ok a := by
  cases x with
  | error e => cases h
  | ok b =>
      cases h
      rfl

section Runs

variable (step : State → Input → Except Halt State)

def run : State → List Input → Except Halt State
  | s, [] => .ok s
  | s, input :: inputs =>
      match step s input with
      | .error halt => .error halt
      | .ok s' => run s' inputs

/-- Every step of the run meets the condition. -/
def Guarded (guard : State → Input → Prop) : State → List Input → Prop
  | _, [] => True
  | s, input :: inputs =>
      guard s input ∧ ∀ s', step s input = .ok s' → Guarded guard s' inputs

/-- What the steps of the run cost together. -/
def total (cost : State → State → Nat) : State → List Input → Nat
  | _, [] => 0
  | s, input :: inputs =>
      match step s input with
      | .error _ => 0
      | .ok s' => cost s s' + total cost s' inputs

/-- The run ends, in a state with the property. -/
def Reaches (goal : State → Prop) (s : State) (inputs : List Input) : Prop :=
  ∃ s', run step s inputs = .ok s' ∧ goal s'

instance decidableReaches (goal : State → Prop) [DecidablePred goal] (s : State)
    (inputs : List Input) : Decidable (Reaches step goal s inputs) :=
  match h : run step s inputs with
  | .error _ => isFalse fun ⟨_, h', _⟩ => by rw [h] at h'; cases h'
  | .ok s' =>
      if hgoal : goal s' then isTrue ⟨s', h, hgoal⟩
      else isFalse fun ⟨_, h', hgoal'⟩ => by rw [h] at h'; cases h'; exact hgoal hgoal'

instance decidableGuarded (guard : State → Input → Prop) [∀ s input, Decidable (guard s input)] :
    ∀ (s : State) (inputs : List Input), Decidable (Guarded step guard s inputs)
  | _, [] => isTrue trivial
  | s, input :: inputs =>
      have : Decidable (∀ s', step s input = .ok s' → Guarded step guard s' inputs) :=
        match h : step s input with
        | .error _ => isTrue fun _ h' => by simp at h'
        | .ok s' =>
            match decidableGuarded guard s' inputs with
            | isTrue hrest => isTrue fun _ h' => by cases h'; exact hrest
            | isFalse hrest => isFalse fun h' => hrest (h' s' rfl)
      inferInstanceAs (Decidable (_ ∧ _))

variable {step}

@[simp] theorem run_nil (s : State) : run step s [] = .ok s := rfl

theorem run_cons_ok
    {s s' : State} {input : Input} {inputs : List Input}
    (h : run step s (input :: inputs) = .ok s') :
    ∃ t, step s input = .ok t ∧ run step t inputs = .ok s' := by
  unfold run at h
  split at h
  next => simp at h
  next t hstep => exact ⟨t, hstep, h⟩

theorem run_append
    {s t : State} {inputs more : List Input} (h : run step s inputs = .ok t) :
    run step s (inputs ++ more) = run step t more := by
  induction inputs generalizing s with
  | nil =>
      simp only [run_nil, Except.ok.injEq] at h
      rw [h, List.nil_append]
  | cons input inputs ih =>
      obtain ⟨s', hstep, hrun⟩ := run_cons_ok h
      simp only [List.cons_append, run, hstep]
      exact ih hrun

/-- A run goes through its beginning. -/
theorem run_append_ok
    {s s' : State} {inputs more : List Input} (h : run step s (inputs ++ more) = .ok s') :
    ∃ t, run step s inputs = .ok t := by
  induction inputs generalizing s with
  | nil => exact ⟨s, rfl⟩
  | cons input inputs ih =>
      obtain ⟨t, hstep, hrest⟩ := run_cons_ok h
      obtain ⟨t', ht'⟩ := ih hrest
      exact ⟨t', by simp only [run, hstep, ht']⟩

theorem guarded_append
    {guard : State → Input → Prop} {s t : State} {inputs more : List Input}
    (hguard : Guarded step guard s (inputs ++ more)) (h : run step s inputs = .ok t) :
    Guarded step guard s inputs ∧ Guarded step guard t more := by
  induction inputs generalizing s with
  | nil =>
      simp only [run_nil, Except.ok.injEq] at h
      subst h
      exact ⟨trivial, hguard⟩
  | cons input inputs ih =>
      obtain ⟨s', hstep, hrun⟩ := run_cons_ok h
      obtain ⟨hfirst, hrest⟩ := hguard
      refine ⟨⟨hfirst, ?_⟩, (ih (hrest s' hstep) hrun).2⟩
      intro s'' hstep''
      cases hstep.symm.trans hstep''
      exact (ih (hrest s' hstep) hrun).1

/-- The steps of a run that ends meet every condition that a step which is taken meets. -/
theorem guarded_of_run
    {guard : State → Input → Prop} {s s' : State} {inputs : List Input}
    (hguard : ∀ s input s', step s input = .ok s' → guard s input)
    (h : run step s inputs = .ok s') : Guarded step guard s inputs := by
  induction inputs generalizing s with
  | nil => trivial
  | cons input inputs ih =>
      obtain ⟨t, hstep, hrest⟩ := run_cons_ok h
      refine ⟨hguard s input t hstep, fun t' hstep' => ?_⟩
      cases hstep.symm.trans hstep'
      exact ih hrest

/-- If the steps that meet the condition halt for one reason only, so does the run. -/
theorem run_ends
    {guard : State → Input → Prop} {reason : Halt} {s : State} {inputs : List Input}
    (hstep : ∀ s input halt, guard s input → step s input = .error halt → halt = reason)
    (hguard : Guarded step guard s inputs) (h : run step s inputs ≠ .error reason) :
    ∃ s', run step s inputs = .ok s' := by
  induction inputs generalizing s with
  | nil => exact ⟨s, rfl⟩
  | cons input inputs ih =>
      unfold run at h ⊢
      cases hfirst : step s input with
      | error halt =>
          rw [hfirst, hstep s input halt hguard.1 hfirst] at h
          exact absurd rfl h
      | ok t =>
          rw [hfirst] at h
          exact ih (hguard.2 t hfirst) h

/-- The run rule: an invariant of the steps that meet the condition is an
invariant of the runs whose steps all do. -/
theorem invariant
    {guard : State → Input → Prop} (Inv : State → Prop)
    (hstep : ∀ s input s', Inv s → guard s input → step s input = .ok s' → Inv s')
    {s s' : State} {inputs : List Input} (hinit : Inv s) (hguard : Guarded step guard s inputs)
    (hrun : run step s inputs = .ok s') : Inv s' := by
  induction inputs generalizing s with
  | nil =>
      simp only [run_nil, Except.ok.injEq] at hrun
      exact hrun ▸ hinit
  | cons input inputs ih =>
      obtain ⟨t, hfirst, hrest⟩ := run_cons_ok hrun
      exact ih (hstep s input t hinit hguard.1 hfirst) (hguard.2 t hfirst) hrest

/-- A property of the steps taken from states with the invariant holds of every
step of such a run. -/
theorem step_property
    {guard : State → Input → Prop} (Inv : State → Prop) {Good : State → Input → State → Prop}
    (hstep : ∀ s input s', Inv s → guard s input → step s input = .ok s' → Inv s')
    (hgood : ∀ s input s', Inv s → guard s input → step s input = .ok s' → Good s input s')
    {s t t' : State} {input : Input} {before after : List Input} (hinit : Inv s)
    (hguard : Guarded step guard s (before ++ input :: after))
    (hrun : run step s before = .ok t) (hlast : step t input = .ok t') : Good t input t' := by
  obtain ⟨hbefore, hinput, -⟩ := guarded_append hguard hrun
  exact hgood t input t' (invariant Inv hstep hinit hbefore hrun) hinput hlast

theorem total_append {cost : State → State → Nat} {s t : State} {inputs more : List Input}
    (h : run step s inputs = .ok t) :
    total step cost s (inputs ++ more) = total step cost s inputs + total step cost t more := by
  induction inputs generalizing s with
  | nil =>
      cases h
      rw [List.nil_append, total, Nat.zero_add]
  | cons input inputs ih =>
      obtain ⟨s', hstep, hrun⟩ := run_cons_ok h
      simp only [List.cons_append, total, hstep]
      rw [ih hrun, Nat.add_assoc]

/-- The run rule for an invariant that holds as long as a counter of what the steps cost stays
below a bound. -/
theorem bounded_invariant {cost : State → State → Nat} {counter : State → Nat} {bound : Nat}
    (Inv : State → Prop)
    (hstep : ∀ s input s', Inv s → counter s + cost s s' ≤ bound → step s input = .ok s' →
      Inv s' ∧ counter s' = counter s + cost s s')
    {s s' : State} {inputs : List Input} (hinit : Inv s) (hrun : run step s inputs = .ok s')
    (hbound : counter s + total step cost s inputs ≤ bound) :
    Inv s' ∧ counter s' = counter s + total step cost s inputs := by
  induction inputs generalizing s with
  | nil =>
      cases hrun
      exact ⟨hinit, rfl⟩
  | cons input inputs ih =>
      obtain ⟨t, hfirst, hrest⟩ := run_cons_ok hrun
      simp only [total, hfirst] at hbound ⊢
      obtain ⟨hinv, hcounter⟩ := hstep s input t hinit (by omega) hfirst
      obtain ⟨hinv', hcounter'⟩ := ih hinv hrest (by omega)
      exact ⟨hinv', by omega⟩

theorem guarded_of_forall
    {guard : State → Input → Prop} (h : ∀ s input, guard s input) (s : State)
    (inputs : List Input) : Guarded step guard s inputs := by
  induction inputs generalizing s with
  | nil => trivial
  | cons input inputs ih => exact ⟨h s input, fun s' _ => ih s'⟩

theorem Guarded.mono
    {guard guard' : State → Input → Prop} (himp : ∀ s input, guard s input → guard' s input)
    {s : State} {inputs : List Input} (h : Guarded step guard s inputs) :
    Guarded step guard' s inputs := by
  induction inputs generalizing s with
  | nil => trivial
  | cons input inputs ih => exact ⟨himp s input h.1, fun s' hstep => ih (h.2 s' hstep)⟩

end Runs

end Execution
