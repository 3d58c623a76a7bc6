import Mathlib.Logic.Function.Basic

/-!
# A store and the writes it has still to take

A write puts a value under a key or deletes the key. What a store holds under a
key after some writes is decided by the last of them that names the key
(`replay_apply`), so that writes to different keys may change places
(`on_of_first`).
-/

namespace Osvbng.Lib
open List Option

structure Write (K X : Type) where
  key : K
  value : Option X

namespace Write
variable {K X : Type} [DecidableEq K]
variable (store : K → Option X) {ws : List (Write K X)} {k : K} {w : Write K X}

def apply (w : Write K X) : K → Option X :=
  Function.update store w.key w.value

def replay (ws : List (Write K X)) : K → Option X := ws.foldl apply store

def on (k : K) (ws : List (Write K X)) : List (Write K X) := ws.filter (·.key = k)

def last (k : K) (ws : List (Write K X)) : Option (Option X) := (on k ws).getLast?.map (·.value)

theorem last_congr {ws ws' : List (Write K X)} (h : on k ws = on k ws') :
    last k ws = last k ws' := by
  unfold last
  rw [h]

theorem on_append (k : K) (ws ws' : List (Write K X)) : on k (ws ++ ws') = on k ws ++ on k ws' :=
  filter_append ..

theorem last_append (k : K) (ws ws' : List (Write K X)) :
    last k (ws ++ ws') = (last k ws').or (last k ws) := by
  unfold last
  rw [on_append, getLast?_append]
  cases (on k ws').getLast? <;> rfl

theorem last_singleton (k : K) (w : Write K X) :
    last k [w] = if w.key = k then some w.value else none := by
  unfold last on
  by_cases h : w.key = k <;> simp [h]

theorem last_cons (k : K) (w : Write K X) (ws : List (Write K X)) :
    last k (w :: ws) = (last k ws).or (if w.key = k then some w.value else none) := by
  rw [← singleton_append, last_append, last_singleton]

theorem exists_of_last {v : Option X} (h : last k ws = some v) :
    ∃ w ∈ ws, w.key = k ∧ w.value = v := by
  obtain ⟨w, hw, rfl⟩ := map_eq_some_iff.mp h
  obtain ⟨hmem, hkey⟩ := mem_filter.mp (mem_of_getLast? hw)
  exact ⟨w, hmem, of_decide_eq_true hkey, rfl⟩

theorem isSome_last (hw : w ∈ ws) (hkey : w.key = k) : (last k ws).isSome := by
  unfold last
  rw [isSome_map, isSome_iff_ne_none, ne_eq, getLast?_eq_none_iff]
  exact ne_nil_of_mem (mem_filter.mpr ⟨hw, decide_eq_true hkey⟩)

theorem replay_apply (ws : List (Write K X)) (k : K) :
    replay store ws k = (last k ws).getD (store k) := by
  induction ws generalizing store with
  | nil => rfl
  | cons w ws ih =>
    unfold replay at ih ⊢
    rw [foldl_cons, ih, last_cons]
    cases last k ws with
    | some v => rfl
    | none =>
      by_cases h : w.key = k
      · simp [apply, h]
      · simp [apply, h, Function.update_of_ne (Ne.symm h)]

theorem on_of_first {before : List (Write K X)}
    (hfirst : ∀ w' ∈ before, w'.key ≠ w.key) (k : K) (after : List (Write K X)) :
    on k (before ++ w :: after) = on k (w :: (before ++ after)) := by
  by_cases h : w.key = k
  · have hnone : on k before = [] := by
      apply filter_eq_nil_iff.mpr
      intro w' hw'
      rw [decide_eq_true_eq, ← h]
      exact hfirst w' hw'
    calc
      on k (before ++ w :: after) = on k [w] ++ on k after := by
        rw [on_append, hnone, nil_append, ← on_append, singleton_append]
      _ = on k [w] ++ on k (before ++ after) := by rw [on_append k before, hnone, nil_append]
      _ = on k (w :: (before ++ after)) := by rw [← on_append, singleton_append]
  · have hskip ws : on k (w :: ws) = on k ws :=
      filter_cons_of_neg (by simpa using h)
    rw [on_append, hskip, hskip, on_append]

end Write
end Osvbng.Lib
