import Mathlib

/-!
# Traces

The events of a machine in the order they happen.  A property of an event may depend on what
happened before it; it is kept when the trace grows.
-/

namespace Trace

variable {Event Key : Type*}

/-- Every event is as the property says, given the events before it. -/
def Justified (good : List Event → Event → Prop) (before events : List Event) : Prop :=
  ∀ first event rest, events = first ++ event :: rest → good (before ++ first) event

variable {good : List Event → Event → Prop} {before events more : List Event}

@[simp] theorem justified_nil : Justified good before [] := by
  intro first event rest h
  have hlength := congrArg List.length h
  simp at hlength

theorem justified_cons_iff {event : Event} :
    Justified good before (event :: events) ↔
      good before event ∧ Justified good (before ++ [event]) events := by
  constructor
  · intro h
    refine ⟨?_, fun first other rest hevents => ?_⟩
    · have hhead := h [] event events rfl
      rwa [List.append_nil] at hhead
    · have hlater := h (event :: first) other rest (by rw [hevents, List.cons_append])
      rwa [List.append_assoc, List.singleton_append]
  · rintro ⟨hhead, htail⟩ first other rest hevents
    cases first with
    | nil =>
        cases hevents
        rwa [List.append_nil]
    | cons first firsts =>
        obtain ⟨rfl, rfl⟩ := List.cons.inj hevents
        have hlater := htail firsts other rest rfl
        rwa [List.append_assoc, List.singleton_append] at hlater

theorem justified_append_iff :
    Justified good before (events ++ more) ↔
      Justified good before events ∧ Justified good (before ++ events) more := by
  induction events generalizing before with
  | nil => simp
  | cons event events ih =>
      rw [List.cons_append, justified_cons_iff, justified_cons_iff, ih, and_assoc,
        List.append_assoc, List.singleton_append]

theorem justified_of_forall (h : ∀ before event, event ∈ events → good before event) :
    Justified good before events := by
  intro first event rest hevents
  apply h
  rw [hevents]
  exact List.mem_append_right _ List.mem_cons_self

/-- How many events have the key. -/
def count [DecidableEq Key] (key : Event → Option Key) (k : Key) (events : List Event) : Nat :=
  events.countP fun event => key event = some k

section Count

variable [DecidableEq Key] {key : Event → Option Key} {k : Key}

@[simp] theorem count_nil : count key k [] = 0 := rfl

@[simp] theorem count_append :
    count key k (events ++ more) = count key k events + count key k more :=
  List.countP_append

theorem count_cons (event : Event) :
    count key k (event :: events) = count key k events + if key event = some k then 1 else 0 := by
  simp [count, List.countP_cons]

theorem count_eq_zero : count key k events = 0 ↔ ∀ event ∈ events, key event ≠ some k := by
  simp [count]

end Count

end Trace
