import Osvbng.Lib.Run

/-!
# Secondary indexes

Objects that are found under several keys at once. An index is written when an
object is added and again when it is removed, under the keys the object has at
that time, and nobody looks at the entries that are there. Between the two the
object may change.

`Sound` says that the entries under keys of one kind are right.
-/

namespace Osvbng.Lib.Index
variable {I K X : Type}

/-- Entries under keys of the given kind lead to live objects that have the key. -/
def Sound (kind : K → Prop) (keys : X → List K) (live : I → Option X) (index : K → Option I) :
    Prop :=
  ∀ k i, kind k → index k = some i → ∃ a, live i = some a ∧ k ∈ keys a

variable [DecidableEq K]

def insert (ks : List K) (i : I) (index : K → Option I) : K → Option I :=
  fun k => if k ∈ ks then some i else index k

def erase (ks : List K) (index : K → Option I) : K → Option I :=
  fun k => if k ∈ ks then none else index k

variable {index : K → Option I} {ks : List K} {k : K} {i j : I}

theorem insert_eq_some (h : insert ks i index k = some j) :
    (k ∈ ks ∧ j = i) ∨ (k ∉ ks ∧ index k = some j) := by
  unfold insert at h
  split at h
  · rename_i hk
    exact .inl ⟨hk, (Option.some.inj h).symm⟩
  · rename_i hk
    exact .inr ⟨hk, h⟩

theorem insert_cases (h : insert ks i index k = some j) : index k = some j ∨ (j = i ∧ k ∈ ks) :=
  (insert_eq_some h).elim (fun h => .inr h.symm) fun h => .inl h.2

theorem insert_insert {ks' : List K} (h : ∀ k ∈ ks, k ∈ ks') :
    insert ks i (insert ks' i index) = insert ks' i index := by
  funext k
  by_cases hk : k ∈ ks <;> simp_all [insert]

theorem erase_eq_some (h : erase ks index k = some j) : k ∉ ks ∧ index k = some j := by
  unfold erase at h
  split at h
  · cases h
  · rename_i hk
    exact ⟨hk, h⟩

theorem erase_erase (ks ks' : List K) : erase ks (erase ks' index) = erase (ks' ++ ks) index := by
  funext k
  by_cases h : k ∈ ks' <;> by_cases h' : k ∈ ks <;> simp [erase, h, h']

end Osvbng.Lib.Index
