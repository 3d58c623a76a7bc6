import Mathlib.Data.List.Basic

/-!
# Runs of a state machine

A machine is a set of initial states and a labelled step relation. The states
reached by runs whose every step meets a condition are collected in
`Machine.Reach`; with the condition `fun _ _ => True` these are all reachable
states. `Machine.Reach.invariant` is the one induction every safety proof uses.
-/

namespace Osvbng.Lib
open Function Option List

/-- An entry of a table one entry of which was written. -/
theorem update_cases {A B : Type} [DecidableEq A] {f : A → B} {a x : A} {v y : B}
    (h : update f a v x = y) : (x = a ∧ v = y) ∨ (x ≠ a ∧ f x = y) := by
  rw [update_apply] at h
  split at h
  · exact .inl ⟨‹_›, h⟩
  · exact .inr ⟨‹_›, h⟩

structure Machine (S E : Type) where
  init : S → Prop
  step : S → E → S → Prop

namespace Machine
variable {S E : Type}

/-- The states reached by runs that take a step `e` from a state `s` only when
`ok s e`. -/
inductive Reach (m : Machine S E) (ok : S → E → Prop) : S → Prop
  | init {s : S} (h : m.init s) : Reach m ok s
  | step {s s' : S} {e : E} (h : Reach m ok s) (hok : ok s e) (hs : m.step s e s') : Reach m ok s'

/-- What holds initially and is kept by every permitted step holds of every
state reached. -/
theorem Reach.invariant {m : Machine S E} {ok : S → E → Prop} (I : S → Prop)
    (hinit : ∀ s, m.init s → I s)
    (hstep : ∀ s e s', I s → ok s e → m.step s e s' → I s') {s : S}
    (h : m.Reach ok s) : I s := by
  induction h with
  | init h => exact hinit _ h
  | step _ hok hs ih => exact hstep _ _ _ ih hok hs

theorem Reach.mono {m : Machine S E} {ok ok' : S → E → Prop} (hok : ∀ s e, ok s e → ok' s e)
    {s : S} (h : m.Reach ok s) : m.Reach ok' s := by
  induction h with
  | init h => exact .init h
  | step _ h hs ih => exact ih.step (hok _ _ h) hs

/-- The machine of a step function; `none` is a step that cannot be taken. -/
def ofNext (init : S → Prop) (next : S → E → Option S) : Machine S E where
  init := init
  step s e s' := next s e = some s'

/-- Runs a list of steps as long as each meets the condition. -/
def run (next : S → E → Option S) (ok : S → E → Prop) [∀ s e, Decidable (ok s e)] :
    S → List E → Option S
  | s, [] => some s
  | s, e :: es => if ok s e then (next s e).bind fun s' => run next ok s' es else none

variable {init : S → Prop} {next : S → E → Option S} {ok : S → E → Prop}

theorem Reach.of_run
    [∀ s e, Decidable (ok s e)] {s s' : S} {es : List E} (h : (ofNext init next).Reach ok s)
    (hrun : run next ok s es = some s') : (ofNext init next).Reach ok s' := by
  induction es generalizing s with
  | nil =>
    cases hrun
    exact h
  | cons e es ih =>
    unfold run at hrun
    split at hrun
    · rename_i hok
      obtain ⟨s1, hs1, hrun⟩ := bind_eq_some_iff.mp hrun
      exact ih (h.step hok hs1) hrun
    · cases hrun

section Evaluated
variable [∀ s e, Decidable (ok s e)] {s : S}

/-- A run whose last state has an evaluable property, and what follows from it. -/
theorem exists_run (hs : init s) {es : List E} (P : S → Prop) [DecidablePred P] {Q : S → Prop}
    (hrun : (run next ok s es).any (fun s' => decide (P s')) = true)
    (hQ : ∀ s', (ofNext init next).Reach ok s' → P s' → Q s') :
    ∃ s', run next ok s es = some s' ∧ Q s' := by
  obtain ⟨s', hs', hP⟩ := (any_eq_true _ _).mp hrun
  exact ⟨s', hs', hQ s' ((Reach.init hs).of_run hs') (of_decide_eq_true hP)⟩

theorem exists_reach_of_run {P : S → Prop} [DecidablePred P] (hs : init s) (es : List E)
    (hrun : (run next ok s es).any (fun s' => decide (P s')) = true) :
    ∃ s', (ofNext init next).Reach ok s' ∧ P s' := by
  obtain ⟨s', -, hs'⟩ := exists_run hs P hrun fun _ hreach hP => And.intro hreach hP
  exact ⟨s', hs'⟩

/-- Runs whose last states have evaluable properties, and what follows from these. -/
theorem forall_exists_run {A : Type} {runs : List A} (hs : init s) (es : A → List E)
    (P : A → S → Prop) [∀ a, DecidablePred (P a)] {Q : A → S → Prop}
    (h : (runs.all fun a => (run next ok s (es a)).any fun s' => decide (P a s')) = true)
    (hQ : ∀ a s', (ofNext init next).Reach ok s' → P a s' → Q a s') :
    runs.Forall fun a => ∃ s', run next ok s (es a) = some s' ∧ Q a s' :=
  forall_iff_forall_mem.mpr fun a ha => exists_run hs (P a) (all_eq_true.mp h a ha) (hQ a)

theorem forall_run {P : S → Prop} [DecidablePred P] (hs : init s) {runs : List (List E)}
    (h : (runs.all fun es => (run next ok s es).any fun s' => decide (P s')) = true) :
    runs.Forall fun es => ∃ s', run next ok s es = some s' ∧ (ofNext init next).Reach ok s' ∧
      P s' :=
  forall_exists_run hs id (fun _ => P) h fun _ _ hreach hP => ⟨hreach, hP⟩

end Evaluated
end Machine
end Osvbng.Lib
