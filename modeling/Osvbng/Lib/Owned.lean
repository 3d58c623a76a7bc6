import Mathlib.Data.Set.Image

/-!
# Owned slots

A store seen as slots, each empty or holding a value with its owner. `Spares`
says that a step on behalf of one owner leaves what belongs to others in place.
`Writes` bounds a step by the set of slots it may write, and such steps compose;
an `Effect` is one on behalf of an owner, and `Writes.spares_iff` says that it
spares the others exactly when none of the slots it writes was theirs.
`Writes.update` is a write to a table whose records are found by two keys.

`Clears` is a step that only gives back. It has an effect for every owner, and
`Writes.forgotten_iff` says when nothing of an owner is left after it.
-/

namespace Osvbng.Lib.Owned
open Function Set
variable {S σ B : Type}

def Own (s : σ) (x : Option (σ × B)) : Prop := ∀ o b, x = some (o, b) → o = s

/-- Whatever counts and belongs to another owner stays. -/
def Spares (s : σ) (counts : S → Prop) (v v' : S → Option (σ × B)) : Prop :=
  ∀ x o b, counts x → v x = some (o, b) → o ≠ s → v' x = some (o, b)

/-- A step that leaves `own` values in the slots of `T`, and changes elsewhere only slots
whose value is `own` before and after. -/
structure Writes (own : Option (σ × B) → Prop) (T : Set S) (v v' : S → Option (σ × B)) :
    Prop where
  inside : ∀ x ∈ T, own (v' x)
  outside : ∀ x ∉ T, v' x = v x ∨ (own (v x) ∧ own (v' x))

/-- A step for `s`. -/
abbrev Effect (s : σ) (T : Set S) (v v' : S → Option (σ × B)) : Prop := Writes (Own s) T v v'

variable {s : σ} {T T' : Set S} {v v' v'' : S → Option (σ × B)} {own : Option (σ × B) → Prop}

theorem own_none : Own s (none : Option (σ × B)) := by
  intro o b h
  cases h

theorem own_some (b : B) : Own s (some (s, b)) := by
  intro o b' h
  cases h
  rfl

theorem Writes.of_eq (h : ∀ x, v' x = v x) : Writes own ∅ v v' :=
  ⟨fun _ hx => absurd hx (notMem_empty _), fun x _ => .inl (h x)⟩

theorem Writes.refl : Writes own ∅ v v := .of_eq fun _ => rfl

theorem Writes.trans (h : Writes own T v v') (h' : Writes own T' v' v'') :
    Writes own (T ∪ T') v v'' := by
  refine ⟨fun x hx => ?_, fun x hx => ?_⟩
  · by_cases hx' : x ∈ T'
    · exact h'.inside x hx'
    · have hown := h.inside x (hx.resolve_right hx')
      rcases h'.outside x hx' with heq | ⟨-, hown''⟩
      · rw [heq]
        exact hown
      · exact hown''
  · rw [mem_union, not_or] at hx
    rcases h.outside x hx.1 with heq | ⟨hown, hown'⟩
    · rw [← heq]
      exact h'.outside x hx.2
    · rcases h'.outside x hx.2 with heq' | ⟨-, hown''⟩
      · rw [heq']
        exact .inr ⟨hown, hown'⟩
      · exact .inr ⟨hown, hown''⟩

/-- A slot that was empty or the owner's need not be counted as written. -/
theorem Writes.restrict (h : Writes own T v v') (hsub : T' ⊆ T)
    (hown : ∀ x ∈ T, x ∉ T' → own (v x)) : Writes own T' v v' := by
  refine ⟨fun x hx => h.inside x (hsub hx), fun x hx => ?_⟩
  by_cases hT : x ∈ T
  · exact .inr ⟨hown x hT hx, h.inside x hT⟩
  · exact h.outside x hT

/-- A part of a store: what is written there is what the whole step writes. -/
theorem Writes.lift {S' : Type} {U : Set S'} {w w' : S' → Option (σ × B)} (f : S' → S)
    (h : Writes own U w w') (hv : ∀ x, v (f x) = w x) (hv' : ∀ x, v' (f x) = w' x)
    (hrest : ∀ y, y ∉ range f → v' y = v y) : Writes own (f '' U) v v' := by
  refine ⟨?_, fun y hy => ?_⟩
  · rintro _ ⟨x, hx, rfl⟩
    rw [hv']
    exact h.inside x hx
  · by_cases hrange : y ∈ range f
    · obtain ⟨x, rfl⟩ := hrange
      rw [hv, hv']
      exact h.outside x fun hx => hy ⟨x, hx, rfl⟩
    · exact .inl (hrest y hrange)

theorem Writes.spares_iff (h : Effect s T v v') (counts : S → Prop) :
    Spares s counts v v' ↔ ∀ x ∈ T, counts x → Own s (v x) := by
  refine ⟨fun hspares x hx hcounts o b hv => ?_, fun hown x o b hcounts hv hne => ?_⟩
  · by_contra hne
    exact hne (h.inside x hx o b (hspares x o b hcounts hv hne))
  · have hx : x ∉ T := fun hx => hne (hown x hx hcounts o b hv)
    rcases h.outside x hx with heq | ⟨hbefore, -⟩
    · rw [heq, hv]
    · exact absurd (hbefore o b hv) hne

/-! ## Giving back -/

def Forgotten (s : σ) (v : S → Option (σ × B)) : Prop := ∀ x b, v x ≠ some (s, b)

/-- The slots of `T` are emptied, and no other slot changes. -/
abbrev Clears (T : Set S) (v v' : S → Option (σ × B)) : Prop := Writes (· = none) T v v'

theorem Writes.effect (h : Clears T v v') (s : σ) : Effect s T v v' := by
  have hown : ∀ x : Option (σ × B), x = none → Own s x := by
    rintro _ rfl
    exact own_none
  exact ⟨fun x hx => hown _ (h.inside x hx), fun x hx => (h.outside x hx).imp_right
    (And.imp (hown _) (hown _))⟩

theorem Writes.eq_of_notMem {x : S} (h : Clears T v v') (hx : x ∉ T) : v' x = v x := by
  rcases h.outside x hx with heq | ⟨hv, hv'⟩
  · exact heq
  · rw [hv, hv']

/-- Nothing of an owner is left exactly when all of it is given back. -/
theorem Writes.forgotten_iff (h : Clears T v v') (s : σ) :
    Forgotten s v' ↔ ∀ x b, v x = some (s, b) → x ∈ T := by
  refine ⟨fun hforgotten x b hv => ?_, fun hall x b hv' => ?_⟩
  · by_contra hx
    exact hforgotten x b ((h.eq_of_notMem hx).trans hv)
  · by_cases hx : x ∈ T
    · rw [h.inside x hx] at hv'
      cases hv'
    · rw [h.eq_of_notMem hx] at hv'
      exact hx (hall x b hv')

/-! ## Tables with two indexes -/

inductive Index (C R : Type) where
  | client (c : C)
  | resource (r : R)

variable {C R L : Type}

def tableView (f : L → σ × B) (byClient : C → Option L) (byResource : R → Option L) :
    Index C R → Option (σ × B)
  | .client c => (byClient c).map f
  | .resource r => (byResource r).map f

theorem Writes.update [DecidableEq C] [DecidableEq R] (f : L → σ × B) (a : C → Option L)
    (b : R → Option L) (c : C) (r : R) {x : Option L} (hx : own (x.map f)) :
    Writes own {.client c, .resource r} (tableView f a b)
      (tableView f (update a c x) (update b r x)) := by
  refine ⟨?_, fun y hy => .inl ?_⟩
  · rintro y (rfl | rfl)
    · simpa only [tableView, update_self] using hx
    · simpa only [tableView, update_self] using hx
  · cases y with
    | client c' =>
      have hne : c' ≠ c := fun h => hy (.inl (congrArg _ h))
      simp only [tableView, update_of_ne hne]
    | resource r' =>
      have hne : r' ≠ r := fun h => hy (.inr (congrArg _ h))
      simp only [tableView, update_of_ne hne]

end Osvbng.Lib.Owned
