import Mathlib.Logic.Function.Basic

/-!
# Handlers that run side by side

Handlers of events belong to an owner and take their steps one at a time, between
which others run. A handler is the list of the steps it still has to take, and an
owner has any number of them.

`next_of_eq` and `spawn_cons` say how the one handler of an owner goes on;
the handlers of other owners are as they were (`next_of_ne`, `spawn_of_ne`).
-/

namespace Osvbng.Lib
open Function

abbrev Handlers (I X : Type) := I → List (List X)

namespace Handlers
variable {I X : Type} [DecidableEq I] {h h' : Handlers I X} {step : X}

def spawn (h : Handlers I X) (i : I) : List X → Handlers I X
  | [] => h
  | step :: steps => update h i (h i ++ [step :: steps])

def next (h : Handlers I X) (i : I) (n : Nat) : Option (X × List X × Handlers I X) :=
  match (h i)[n]? with
  | some (step :: steps) => some (step, steps, update h i ((h i).eraseIdx n))
  | _ => none

theorem spawn_cons (h : Handlers I X) (i : I) (step : X) (steps : List X) :
    h.spawn i (step :: steps) i = h i ++ [step :: steps] :=
  update_self i _ h

theorem spawn_of_ne (h : Handlers I X) {i j : I} (hne : j ≠ i) (steps : List X) :
    h.spawn i steps j = h j := by
  cases steps with
  | nil => rfl
  | cons step steps => exact update_of_ne hne _ h

theorem next_of_ne {i j : I} (hne : j ≠ i) {n : Nat}
    {steps : List X} (hnext : h.next i n = some (step, steps, h')) : h' j = h j := by
  unfold next at hnext
  split at hnext
  · cases hnext
    exact update_of_ne hne _ h
  · cases hnext

theorem next_of_eq {i : I} {n : Nat} {steps all : List X}
    (hall : h i = [all]) (hnext : h.next i n = some (step, steps, h')) :
    all = step :: steps ∧ h' i = [] := by
  unfold next at hnext
  rw [hall] at hnext
  cases n with
  | zero =>
    cases all with
    | nil => cases hnext
    | cons a as =>
      cases hnext
      exact ⟨rfl, update_self i _ h⟩
  | succ n => cases hnext

theorem next_of_nil {i : I} (hnil : h i = []) (n : Nat) : h.next i n = none := by
  unfold next
  rw [hnil]
  rfl

end Handlers
end Osvbng.Lib
