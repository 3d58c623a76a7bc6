/-!
# Programs that can stop anywhere

A program is a sequence of operations on a device. An operation either answers
or fails, as the environment chooses, and the program goes on accordingly; the
machine can stop before any of them. `Prog.exec` runs a program for as many
operations as it is given choices.

`Prog.wp` is the weakest precondition with three postconditions: for a program
that finishes, for one that fails, and for every state in which it can be
stopped. `Prog.exec_of_wp` says that it is sound.
-/

namespace Osvbng.Lib

/-- Programs over operations `O` with answers `A`. -/
inductive Prog (O : Type) (A : O → Type) (X : Type) : Type
  | pure (a : X)
  | fail
  | call (o : O) (k : A o → Prog O A X) (e : Prog O A X)

/-- What an operation does in a state, for each choice of the environment. An
answer of `none` is a failure. -/
abbrev Device (S O : Type) (A : O → Type) (C : Type) :=
  S → (o : O) → C → Option (A o) × S

inductive Outcome (X : Type) where
  | done (a : X)
  | failed
  | stopped
deriving DecidableEq

namespace Prog
variable {S O C X B : Type} {A : O → Type}

protected def bind : Prog O A X → (X → Prog O A B) → Prog O A B
  | .pure a, f => f a
  | .fail, _ => .fail
  | .call o k e, f => .call o (fun a => (k a).bind f) (e.bind f)

instance : Monad (Prog O A) where
  pure := .pure
  bind := .bind

def orElse : Prog O A X → Prog O A X → Prog O A X
  | .pure a, _ => .pure a
  | .fail, q => q
  | .call o k e, q => .call o (fun a => (k a).orElse q) (e.orElse q)

def perform (o : O) : Prog O A (A o) := .call o .pure .fail

def ignore (p : Prog O A X) : Prog O A Unit :=
  (p.bind fun _ => .pure ()).orElse (.pure ())

/-- Runs a program for as many operations as there are choices. -/
def exec (d : Device S O A C) : Prog O A X → S → List C → S × Outcome X
  | .pure a, s, _ => (s, .done a)
  | .fail, s, _ => (s, .failed)
  | .call _ _ _, s, [] => (s, .stopped)
  | .call o k e, s, c :: cs =>
    match d s o c with
    | (some a, s') => (k a).exec d s' cs
    | (none, s') => e.exec d s' cs

/-- The states from which a program ends in `Q`, fails in `F` and is stopped in
`I` only. -/
def wp (d : Device S O A C) : Prog O A X → (X → S → Prop) → (S → Prop) → (S → Prop) → S → Prop
  | .pure a, Q, _, I, s => I s ∧ Q a s
  | .fail, _, F, I, s => I s ∧ F s
  | .call o k e, Q, F, I, s => I s ∧ ∀ c,
      match d s o c with
      | (some a, s') => (k a).wp d Q F I s'
      | (none, s') => e.wp d Q F I s'

variable {d : Device S O A C} {p : Prog O A X} {Q : X → S → Prop} {F I : S → Prop} {s : S}
  {f : X → Prog O A B} {q : Prog O A X}

theorem exec_of_wp (h : p.wp d Q F I s) (cs : List C) :
    I (p.exec d s cs).1 ∧ (∀ a, (p.exec d s cs).2 = .done a → Q a (p.exec d s cs).1) ∧
      ((p.exec d s cs).2 = .failed → F (p.exec d s cs).1) := by
  induction p generalizing s cs with
  | pure a =>
    refine ⟨h.1, fun b hb => ?_, nofun⟩
    cases hb
    exact h.2
  | fail => exact ⟨h.1, nofun, fun _ => h.2⟩
  | call o k e ihk ihe =>
    cases cs with
    | nil => exact ⟨h.1, nofun, nofun⟩
    | cons c cs =>
      have hc := h.2 c
      unfold exec
      split
      · rename_i hd
        rw [hd] at hc
        exact ihk _ hc cs
      · rename_i hd
        rw [hd] at hc
        exact ihe hc cs

theorem wp_mono {Q' : X → S → Prop} {F' I' : S → Prop} (h : p.wp d Q F I s)
    (hQ : ∀ a s, Q a s → Q' a s) (hF : ∀ s, F s → F' s) (hI : ∀ s, I s → I' s) :
    p.wp d Q' F' I' s := by
  induction p generalizing s with
  | pure a => exact ⟨hI s h.1, hQ a s h.2⟩
  | fail => exact ⟨hI s h.1, hF s h.2⟩
  | call o k e ihk ihe =>
    refine ⟨hI s h.1, fun c => ?_⟩
    have hc := h.2 c
    split at hc
    · exact ihk _ hc
    · exact ihe hc

theorem wp_pure {a : X} (hI : I s) (hQ : Q a s) : (Pure.pure a : Prog O A X).wp d Q F I s :=
  ⟨hI, hQ⟩

theorem wp_fail (hI : I s) (hF : F s) : (.fail : Prog O A X).wp d Q F I s := ⟨hI, hF⟩

theorem wp_bind {Q : B → S → Prop}
    (h : p.wp d (fun a s => (f a).wp d Q F I s) F I s) : (p >>= f).wp d Q F I s := by
  induction p generalizing s with
  | pure a => exact h.2
  | fail => exact h
  | call o k e ihk ihe =>
    refine ⟨h.1, fun c => ?_⟩
    have hc := h.2 c
    split at hc
    · exact ihk _ hc
    · exact ihe hc

theorem wp_seq {R : X → S → Prop} {Q : B → S → Prop}
    (h : p.wp d R F I s) (hf : ∀ a s, R a s → (f a).wp d Q F I s) : (p >>= f).wp d Q F I s :=
  wp_bind (wp_mono h hf (fun _ hs => hs) fun _ hs => hs)

theorem wp_orElse {E : S → Prop} (h : p.wp d Q E I s)
    (hq : ∀ s, E s → q.wp d Q F I s) : (p.orElse q).wp d Q F I s := by
  induction p generalizing s with
  | pure a => exact h
  | fail => exact hq s h.2
  | call o k e ihk ihe =>
    refine ⟨h.1, fun c => ?_⟩
    have hc := h.2 c
    split at hc
    · exact ihk _ hc
    · exact ihe hc

theorem wp_perform {o : O} {Q : A o → S → Prop} (hI : I s)
    (h : ∀ c, I (d s o c).2 ∧ (∀ a, (d s o c).1 = some a → Q a (d s o c).2) ∧
      ((d s o c).1 = none → F (d s o c).2)) :
    (perform o : Prog O A (A o)).wp d Q F I s := by
  refine ⟨hI, fun c => ?_⟩
  obtain ⟨hs, hdone, hfailed⟩ := h c
  split
  · rename_i a s' heq
    rw [heq] at hs hdone
    exact ⟨hs, hdone a rfl⟩
  · rename_i s' heq
    rw [heq] at hs hfailed
    exact ⟨hs, hfailed rfl⟩

theorem wp_ignore {R : S → Prop} (h : p.wp d (fun _ => R) R I s) (hR : ∀ s, R s → I s) :
    p.ignore.wp d (fun _ => R) F I s := by
  have hend s : R s → (.pure () : Prog O A Unit).wp d (fun _ => R) F I s :=
    fun hs => ⟨hR s hs, hs⟩
  exact wp_orElse (wp_seq (f := fun _ => .pure ()) h fun _ s hs => ⟨hR s hs, hs⟩) hend

/-! ## Programs that use only some of the operations -/

def Only (ok : O → Prop) : Prog O A X → Prop
  | .pure _ => True
  | .fail => True
  | .call o k e => ok o ∧ (∀ a, (k a).Only ok) ∧ e.Only ok

variable {ok : O → Prop}

theorem only_pure {a : X} : (Pure.pure a : Prog O A X).Only ok := trivial

theorem only_fail : (.fail : Prog O A X).Only ok := trivial

theorem only_perform {o : O} (h : ok o) : (perform o : Prog O A (A o)).Only ok :=
  ⟨h, fun _ => trivial, trivial⟩

variable (h : p.Only ok)
include h

theorem Only.bind (hf : ∀ a, (f a).Only ok) : (p >>= f).Only ok := by
  induction p with
  | pure a => exact hf a
  | fail => exact trivial
  | call o k e ihk ihe => exact ⟨h.1, fun a => ihk a (h.2.1 a), ihe h.2.2⟩

theorem Only.orElse (hq : q.Only ok) : (p.orElse q).Only ok := by
  induction p with
  | pure a => exact trivial
  | fail => exact hq
  | call o k e ihk ihe => exact ⟨h.1, fun a => ihk a (h.2.1 a), ihe h.2.2⟩

theorem Only.ignore : p.ignore.Only ok :=
  Only.orElse (Only.bind (f := fun _ => .pure ()) h fun _ => trivial) trivial

/-- What each operation keeps, the program keeps. -/
theorem Only.wp (hok : ∀ o, ok o → ∀ s c, I s → I (d s o c).2) (hs : I s) :
    p.wp d (fun _ => I) I I s := by
  induction p generalizing s with
  | pure | fail => exact ⟨hs, hs⟩
  | call o k e ihk ihe =>
    refine ⟨hs, fun c => ?_⟩
    have hc := hok o h.1 s c hs
    split
    · rename_i a s' heq
      rw [heq] at hc
      exact ihk a (h.2.1 a) hc
    · rename_i s' heq
      rw [heq] at hc
      exact ihe h.2.2 hc

end Prog
end Osvbng.Lib
