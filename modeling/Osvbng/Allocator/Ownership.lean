import Osvbng.Allocator.Registry
import Osvbng.Lib.Run

/-!
# Who may release a lease

The registry under any interleaving of the calls sessions make. Next to the
pools stands the history of grants: a session holds a key of a pool from the
call that granted it until the session releases it. The history is not part of
the program; it says what a caller knows about its own leases.

`owner_apply` says once what a call does to the record of owners, and
`Inv` ties that record to the history. A release takes no owner argument, so
what it removes depends on its caller: `release_keeps_others` is the
discipline under which no lease of another session is lost.
-/

namespace Osvbng.Allocator
open Option Lib Lib.NetIP LeasePool Bank Registry Machine.Reach

inductive Op (P N R : Type) where
  | allocate (profile : N) (poolOverride : Option N) (vrf : N)
  | reserve (order : List P) (r : R)
  | reserveInPool (order : List P) (pool : P) (r : R)
  | release (pool : P) (r : R)
  | releaseAll (r : R)
  | releaseFirst (order : List P) (r : R)

namespace Bank
variable {P N A R K S : Type} [DecidableEq P] [DecidableEq N] [LeasePool A R K S] [DecidableEq K]
  [DecidableEq S] (poolKey : N → N → P) (poolVRFs : P → N) (s : S) (b : Bank P N A) {op : Op P N R}
  {k : K}

def apply : Op P N R → Bank P N A
  | .allocate profile poolOverride vrf =>
    (b.allocateFirst s (b.candidates poolKey poolVRFs profile poolOverride vrf)).elim b (·.2.2)
  | .reserve order r => (b.reserve order r s).getD b
  | .reserveInPool order pool r => (b.reserveInPool order pool r s).getD b
  | .release pool r => b.release pool r
  | .releaseAll r => b.releaseAll r
  | .releaseFirst order r => b.releaseFirst order r

def reserveTarget : Op P N R → Option (P × R)
  | .reserve order r => (b.firstContaining order r).map (·, r)
  | .reserveInPool order pool r =>
    if (b.allocators pool).isSome then some (pool, r)
    else (b.firstContaining order r).map (·, r)
  | _ => none

def grantAt (pool : P) (r : R) : Option (P × K) :=
  (b.reserveAt pool r s).bind fun _ => (b.keyOf pool r).map (pool, ·)

def grant : Op P N R → Option (P × K)
  | .allocate profile poolOverride vrf =>
    (b.allocateFirst s (b.candidates poolKey poolVRFs profile poolOverride vrf)).map
      fun g => (g.2.1, g.1)
  | op => (b.reserveTarget op).bind fun t => b.grantAt s t.1 t.2

def releases (pool : P) (k : K) : Op P N R → Bool
  | .release p r => pool = p ∧ b.keyOf p r = some k
  | .releaseAll r => b.keyOf pool r = some k
  | .releaseFirst order r => b.firstContaining order r = some pool ∧ b.keyOf pool r = some k
  | _ => false

theorem apply_reserve {pool : P} {r : R} (h : b.reserveTarget op = some (pool, r)) :
    b.apply poolKey poolVRFs s op = (b.reserveAt pool r s).getD b := by
  cases op with
  | reserve order r' =>
    obtain ⟨p, hp, heq⟩ := map_eq_some_iff.mp h
    cases heq
    simp [apply, reserve, hp]
  | reserveInPool order p r' =>
    simp only [reserveTarget] at h
    split at h
    · rename_i hsome
      cases h
      simp [apply, reserveInPool, hsome]
    · rename_i hsome
      obtain ⟨q, hq, heq⟩ := map_eq_some_iff.mp h
      cases heq
      simp [apply, reserveInPool, hsome, reserve, hq]
  | _ => cases h

variable
  (hop : (∃ order r, op = .reserve order r) ∨ ∃ order pool r, op = .reserveInPool order pool r)
include hop

theorem apply_of_no_target (h : b.reserveTarget op = none) : b.apply poolKey poolVRFs s op = b := by
  rcases hop with ⟨order, r, rfl⟩ | ⟨order, pool, r, rfl⟩
  · have hnone : b.firstContaining order r = none := by simpa [reserveTarget] using h
    simp [apply, reserve, hnone]
  · simp only [reserveTarget] at h
    split at h
    · cases h
    · rename_i hsome
      have hnone : b.firstContaining order r = none := by simpa using h
      simp [apply, reserveInPool, hsome, reserve, hnone]

theorem owner_apply_reserve (q : P) (k : K) : (b.apply poolKey poolVRFs s op).owner q k =
      if b.grant poolKey poolVRFs s op = some (q, k) then some s else b.owner q k := by
  have hgrant : b.grant poolKey poolVRFs s op =
      (b.reserveTarget op).bind fun t => b.grantAt s t.1 t.2 := by
    rcases hop with ⟨order, r, rfl⟩ | ⟨order, pool, r, rfl⟩ <;> rfl
  rw [hgrant]
  cases ht : b.reserveTarget op with
  | none => simp [apply_of_no_target poolKey poolVRFs s b hop ht]
  | some t =>
    rw [apply_reserve poolKey poolVRFs s b ht, bind_some, grantAt]
    cases hr : b.reserveAt t.1 t.2 s with
    | none => simp
    | some b' =>
      rw [getD_some, (reserveAt_spec hr).2.1 q k]
      cases hk : b.keyOf t.1 t.2 with
      | none => simp
      | some j => simp [eq_comm (a := q)]

omit hop

theorem owner_apply (op : Op P N R) (q : P) (k : K) : (b.apply poolKey poolVRFs s op).owner q k =
      if b.releases q k op then none
      else if b.grant poolKey poolVRFs s op = some (q, k) then some s
      else b.owner q k := by
  cases op with
  | allocate profile poolOverride vrf =>
    simp only [apply, releases, grant]
    obtain h | ⟨g, h⟩ := eq_none_or_eq_some
      (b.allocateFirst s (b.candidates poolKey poolVRFs profile poolOverride vrf))
    · simp [h]
    · obtain ⟨-, -, -, -, hown, -⟩ := allocateFirst_spec h
      simp [h, hown, eq_comm (a := q), eq_comm (a := k)]
  | reserve | reserveInPool => simp [releases, owner_apply_reserve]
  | release pool r =>
    simp [apply, releases, grant, reserveTarget, (b.release_spec pool r).2.1 q k]
  | releaseAll r =>
    simp [apply, releases, grant, reserveTarget, (b.releaseAll_spec r).2.1 q k]
  | releaseFirst order r =>
    simp only [apply, releases, grant, reserveTarget, releaseFirst]
    obtain h | ⟨p, h⟩ := eq_none_or_eq_some (b.firstContaining order r)
    · simp [h]
    · by_cases hq : q = p
      · simp [h, hq, (b.release_spec p r).2.1]
      · simp [h, hq, Ne.symm hq, (b.release_spec p r).2.1]

/-- A call changes lease tables only, and frees only what was leased. -/
theorem apply_spec (op : Op P N R) : SameShape b (b.apply poolKey poolVRFs s op) ∧
      ∀ q, ∀ k ∈ (b.apply poolKey poolVRFs s op).free q, k ∈ b.free q ∨ b.owner q k ≠ none := by
  have hself : SameShape b b ∧ ∀ q, ∀ k ∈ b.free q, k ∈ b.free q ∨ b.owner q k ≠ none :=
    ⟨.refl b, fun q k hk => .inl hk⟩
  have hreserve pool r : SameShape b ((b.reserveAt pool r s).getD b) ∧
      ∀ q, ∀ k ∈ ((b.reserveAt pool r s).getD b).free q, k ∈ b.free q ∨ b.owner q k ≠ none := by
    cases h : b.reserveAt pool r s with
    | none => exact hself
    | some b' =>
      obtain ⟨hshape, -, -, hsub⟩ := reserveAt_spec h
      exact ⟨hshape, fun q k hk => .inl (hsub q hk)⟩
  have hrelease pool r : SameShape b (b.release pool r) ∧
      ∀ q, ∀ k ∈ (b.release pool r).free q, k ∈ b.free q ∨ b.owner q k ≠ none :=
      ⟨(b.release_spec pool r).1, (b.release_spec pool r).2.2⟩
  cases op with
  | allocate profile poolOverride vrf =>
    simp only [apply]
    cases h : b.allocateFirst s (b.candidates poolKey poolVRFs profile poolOverride vrf) with
    | none => exact hself
    | some g =>
      obtain ⟨-, -, -, hshape, -, hsub⟩ := allocateFirst_spec h
      exact ⟨hshape, fun q k hk => .inl (hsub q hk)⟩
  | reserve order r =>
    cases ht : b.reserveTarget (Op.reserve order r : Op P N R) with
    | none => rwa [apply_of_no_target poolKey poolVRFs s b (.inl ⟨_, _, rfl⟩) ht]
    | some t =>
      rw [apply_reserve poolKey poolVRFs s b ht]
      exact hreserve t.1 t.2
  | reserveInPool order pool r =>
    cases ht : b.reserveTarget (Op.reserveInPool order pool r : Op P N R) with
    | none => rwa [apply_of_no_target poolKey poolVRFs s b (.inr ⟨_, _, _, rfl⟩) ht]
    | some t =>
      rw [apply_reserve poolKey poolVRFs s b ht]
      exact hreserve t.1 t.2
  | release pool r => exact hrelease pool r
  | releaseAll r => exact ⟨(b.releaseAll_spec r).1, (b.releaseAll_spec r).2.2⟩
  | releaseFirst order r =>
    simp only [apply, releaseFirst]
    split
    · exact hself
    · exact hrelease _ r

theorem grant_of_releases {poolKey : N → N → P} {poolVRFs : P → N} {s : S} {b : Bank P N A} {q : P}
    (h : b.releases q k op) :
    b.grant poolKey poolVRFs s op = none := by
  cases op with
  | allocate | reserve | reserveInPool => simp [releases] at h
  | _ => rfl

omit [DecidableEq N] in
theorem grantAt_spec {s : S} {b : Bank P N A} {pool p : P} {r : R}
    (h : b.grantAt s pool r = some (p, k)) :
    p = pool ∧ b.keyOf pool r = some k ∧ (b.owner pool k = none ∨ b.owner pool k = some s) := by
  obtain ⟨b', hb', h⟩ := bind_eq_some_iff.mp h
  obtain ⟨j, hj, heq⟩ := map_eq_some_iff.mp h
  cases heq
  exact ⟨rfl, hj, (reserveAt_spec hb').2.2.1 k hj⟩

theorem owner_of_grant {poolKey : N → N → P} {poolVRFs : P → N} {s : S} {b : Bank P N A} {q : P}
    (h : b.grant poolKey poolVRFs s op = some (q, k)) :
    b.owner q k = none ∨ b.owner q k = some s := by
  have hreserve : ((b.reserveTarget op).bind fun t => b.grantAt s t.1 t.2) = some (q, k) →
      b.owner q k = none ∨ b.owner q k = some s := by
    intro h
    obtain ⟨t, -, hat⟩ := bind_eq_some_iff.mp h
    obtain ⟨rfl, -, howner⟩ := grantAt_spec hat
    exact howner
  cases op with
  | allocate profile poolOverride vrf =>
    obtain ⟨g, hg, heq⟩ := map_eq_some_iff.mp h
    cases heq
    exact .inl (allocateFirst_spec hg).2.2.1
  | _ => exact hreserve h

end Bank

/-! ## The history of grants -/

section Tracking
variable {P N A R K S : Type} [DecidableEq P] [DecidableEq N] [LeasePool A R K S]
  [DecidableEq K] [DecidableEq S] (poolKey : N → N → P) (poolVRFs : P → N)

/-- The grants outstanding after a call of session `s`: those it releases are
gone from the list of that session, and the one it obtains is added. -/
def heldAfter (s : S) (b : Bank P N A) (held : Set (S × P × K)) (op : Op P N R) : Set (S × P × K) :=
  {x | (x ∈ held ∧ ¬(x.1 = s ∧ b.releases x.2.1 x.2.2 op)) ∨
    (x.1 = s ∧ b.grant poolKey poolVRFs s op = some x.2)}

/-- A session releases a resource only while it holds it, in every pool that
the call reaches and whose range contains the resource; it reserves in a named
pool only what lies in the pool's range. -/
def PermittedOp (s : S) (b : Bank P N A) (held : Set (S × P × K)) (op : Op P N R) : Prop :=
  (∀ pool k, b.releases pool k op → b.InRange pool k → (s, pool, k) ∈ held) ∧
    ∀ order pool r, op = .reserveInPool order pool r →
      ∀ k, b.keyOf pool r = some k → b.InRange pool k

def Keeps (s : S) (b b' : Bank P N A) : Prop :=
  ∀ pool k other, b.owner pool k = some other → other ≠ s → b'.owner pool k = some other

/-- The recorded owner of a key is the session that holds it, and only keys in
range are leased or free. -/
structure Inv (b : Bank P N A) (held : Set (S × P × K)) : Prop where
  held_iff : ∀ s pool k, (s, pool, k) ∈ held ↔ b.owner pool k = some s
  owner_inRange : ∀ pool k, b.owner pool k ≠ none → b.InRange pool k
  free_inRange : ∀ pool, ∀ k ∈ b.free pool, b.InRange pool k

variable {poolKey poolVRFs} {s : S} {b : Bank P N A} {held : Set (S × P × K)} {op : Op P N R}
  {pool : P} (hinv : Inv b held)
include hinv
variable (hok : PermittedOp s b held op)
include hok

omit [DecidableEq N] [DecidableEq S] in
theorem Inv.owner_of_releases
    {k : K} {other : S} (hrel : b.releases pool k op) (howner : b.owner pool k = some other) :
    other = s := by
  have hrange := hinv.owner_inRange pool k (by simp [howner])
  have hheld := (hinv.held_iff s pool k).mp (hok.1 pool k hrel hrange)
  simpa [howner] using hheld

theorem Inv.inRange_of_grant
    {k : K} (hgrant : b.grant poolKey poolVRFs s op = some (pool, k)) : b.InRange pool k := by
  have hfirst : ∀ {order r p}, b.firstContaining order r = some p →
      b.grantAt s p r = some (pool, k) → b.InRange pool k := by
    intro order r p hp hat
    obtain ⟨rfl, hkey, -⟩ := grantAt_spec hat
    exact (contains_iff hkey).mp (by simpa using List.find?_some hp)
  cases op with
  | allocate profile poolOverride vrf =>
    obtain ⟨g, hg, heq⟩ := map_eq_some_iff.mp hgrant
    cases heq
    obtain ⟨-, hmem, -⟩ := allocateFirst_spec hg
    exact hinv.free_inRange _ _ hmem
  | reserve order r =>
    obtain ⟨t, ht, hat⟩ := bind_eq_some_iff.mp hgrant
    obtain ⟨p, hp, rfl⟩ := map_eq_some_iff.mp ht
    exact hfirst hp hat
  | reserveInPool order p r =>
    obtain ⟨t, ht, hat⟩ := bind_eq_some_iff.mp hgrant
    simp only [reserveTarget] at ht
    split at ht
    · cases ht
      obtain ⟨rfl, hkey, -⟩ := grantAt_spec hat
      exact hok.2 order pool r rfl k hkey
    · obtain ⟨q, hq, rfl⟩ := map_eq_some_iff.mp ht
      exact hfirst hq hat
  | _ => cases hgrant

theorem Inv.keeps : Keeps s b (b.apply poolKey poolVRFs s op) := by
  intro pool k other howner hne
  rw [owner_apply]
  split
  · rename_i hrel
    exact absurd (hinv.owner_of_releases hok hrel howner) hne
  · split
    · rename_i hgrant
      rcases owner_of_grant hgrant with h | h
      · simp [howner] at h
      · exact absurd (by simpa [howner] using h) hne
    · exact howner

theorem Inv.apply :
    Inv (b.apply poolKey poolVRFs s op) (heldAfter poolKey poolVRFs s b held op) := by
  obtain ⟨hshape, hfree⟩ := b.apply_spec poolKey poolVRFs s op
  have howned pool k : (b.apply poolKey poolVRFs s op).owner pool k ≠ none →
      b.InRange pool k := by
    intro h
    rw [owner_apply] at h
    split at h
    · exact absurd rfl h
    · split at h
      · exact hinv.inRange_of_grant hok ‹_›
      · exact hinv.owner_inRange pool k h
  refine ⟨fun t pool k => ?_, fun pool k h => ?_, fun pool k hk => ?_⟩
  · rw [owner_apply]
    simp only [heldAfter, Set.mem_ofPred_eq, hinv.held_iff]
    by_cases hrel : b.releases pool k op
    · have hcaller : b.owner pool k = some t → t = s := hinv.owner_of_releases hok hrel
      simp only [hrel, grant_of_releases hrel]
      simpa using hcaller
    · by_cases hgrant : b.grant poolKey poolVRFs s op = some (pool, k)
      · have hfree := owner_of_grant hgrant
        grind
      · simp [hrel, hgrant]
  · exact (hshape.inRange_iff pool k).mpr (howned pool k h)
  · rw [hshape.inRange_iff]
    rcases hfree pool k hk with h | h
    · exact hinv.free_inRange pool k h
    · exact hinv.owner_inRange pool k h

omit hok

omit hinv

omit [DecidableEq P] [DecidableEq N] [DecidableEq K] [DecidableEq S] in
theorem Inv.of_new
    (hleases : ∀ pool a, b.allocators pool = some a → ∀ k, owner a k = none)
    (hfree : ∀ pool a, b.allocators pool = some a → ∀ k ∈ (table a).free, InRange a k) :
    Inv b (∅ : Set (S × P × K)) := by
  have hnone pool k : b.owner pool k = none := by
    cases ha : b.allocators pool with
    | none => simp [Bank.owner, ha]
    | some a => simp [Bank.owner, ha, hleases pool a ha]
  refine ⟨by simp [hnone], by simp [hnone], fun pool k hk => ?_⟩
  cases ha : b.allocators pool with
  | none => simp [Bank.free, ha] at hk
  | some a => exact ⟨a, ha, hfree pool a ha k (by simpa [Bank.free, ha] using hk)⟩

end Tracking

/-! ## The registry -/

inductive Call (P N : Type) where
  | allocateFromProfile (profile : N) (poolOverride : Option N) (vrf : N)
  | allocateIANAFromProfile (profile : N) (poolOverride : Option N) (vrf : N)
  | allocatePDFromProfile (profile : N) (poolOverride : Option N) (vrf : N)
  | reserveIP (order : List P) (ip : IP)
  | reserveIANA (order : List P) (ip : IP)
  | reservePD (order : List P) (pfx : IPNet)
  | reserveIPInPool (order : List P) (pool : P) (ip : IP)
  | reserveIANAInPool (order : List P) (pool : P) (ip : IP)
  | reservePDInPool (order : List P) (pool : P) (pfx : IPNet)
  | release (pool : P) (ip : IP)
  | releaseIANA (pool : P) (ip : IP)
  | releasePD (pool : P) (pfx : IPNet)
  | releaseIP (ip : IP)
  | releaseIANAByIP (ip : IP)
  | releasePDByPrefix (order : List P) (pfx : IPNet)

namespace Call
variable {P N : Type}

def onV4 : Call P N → Option (Op P N IP)
  | allocateFromProfile profile poolOverride vrf => some (.allocate profile poolOverride vrf)
  | reserveIP order ip => some (.reserve order ip)
  | reserveIPInPool order pool ip => some (.reserveInPool order pool ip)
  | release pool ip => some (.release pool ip)
  | releaseIP ip => some (.releaseAll ip)
  | _ => none

def onIANA : Call P N → Option (Op P N IP)
  | allocateIANAFromProfile profile poolOverride vrf => some (.allocate profile poolOverride vrf)
  | reserveIANA order ip => some (.reserve order ip)
  | reserveIANAInPool order pool ip => some (.reserveInPool order pool ip)
  | releaseIANA pool ip => some (.release pool ip)
  | releaseIANAByIP ip => some (.releaseAll ip)
  | _ => none

def onPD : Call P N → Option (Op P N IPNet)
  | allocatePDFromProfile profile poolOverride vrf => some (.allocate profile poolOverride vrf)
  | reservePD order pfx => some (.reserve order pfx)
  | reservePDInPool order pool pfx => some (.reserveInPool order pool pfx)
  | releasePD pool pfx => some (.release pool pfx)
  | releasePDByPrefix order pfx => some (.releaseFirst order pfx)
  | _ => none

end Call

namespace Registry
variable {P N S : Type} [DecidableEq P] [DecidableEq N] [DecidableEq S]

def call (r : Registry P N S) (s : S) : Call P N → Registry P N S
  | .allocateFromProfile profile poolOverride vrf =>
    (r.allocateFromProfile profile poolOverride vrf s).elim r (·.2.2)
  | .allocateIANAFromProfile profile poolOverride vrf =>
    (r.allocateIANAFromProfile profile poolOverride vrf s).elim r (·.2.2)
  | .allocatePDFromProfile profile poolOverride vrf =>
    (r.allocatePDFromProfile profile poolOverride vrf s).elim r (·.2.2)
  | .reserveIP order ip => (r.reserveIP order ip s).getD r
  | .reserveIANA order ip => (r.reserveIANA order ip s).getD r
  | .reservePD order pfx => (r.reservePD order pfx s).getD r
  | .reserveIPInPool order pool ip => (r.reserveIPInPool order pool ip s).getD r
  | .reserveIANAInPool order pool ip => (r.reserveIANAInPool order pool ip s).getD r
  | .reservePDInPool order pool pfx => (r.reservePDInPool order pool pfx s).getD r
  | .release pool ip => r.release pool ip
  | .releaseIANA pool ip => r.releaseIANA pool ip
  | .releasePD pool pfx => r.releasePD pool pfx
  | .releaseIP ip => r.releaseIP ip
  | .releaseIANAByIP ip => r.releaseIANAByIP ip
  | .releasePDByPrefix order pfx => r.releasePDByPrefix order pfx

variable {A R K : Type}

def applyOp [LeasePool A R K S] [DecidableEq K] (r : Registry P N S) (s : S)
    (b : Bank P N A) (op : Option (Op P N R)) : Bank P N A :=
  op.elim b (b.apply r.poolKey r.poolVRFs s)

omit [DecidableEq N] [DecidableEq S] in
theorem granted_of_allocateFirst [LeasePool A R K S] [DecidableEq K]
    {b : Bank P N A} {s : S} {keys : List P} {g : K × P × Bank P N A}
    (h : b.allocateFirst s keys = some g) : ∃ r, granted b g = some (r, g.2.1) := by
  obtain ⟨-, hmem, -⟩ := allocateFirst_spec h
  unfold granted
  cases ha : b.allocators g.2.1 with
  | none => simp [free, ha] at hmem
  | some a => exact ⟨_, rfl⟩

omit [DecidableEq N] [DecidableEq S] in
theorem elim_allocate [LeasePool A R K S] [DecidableEq K] {b : Bank P N A}
    (r : Registry P N S) (s : S) (keys : List P) (put : Bank P N A → Registry P N S)
    (hput : put b = r) : (((b.allocateFirst s keys).bind fun g => (granted b g).bind fun x =>
      some (x.1, x.2, put g.2.2)).elim r (·.2.2)) =
      put ((b.allocateFirst s keys).elim b (·.2.2)) := by
  cases h : b.allocateFirst s keys with
  | none => simp [hput]
  | some g =>
    obtain ⟨x, hx⟩ := granted_of_allocateFirst h
    simp [hx]

theorem call_eq (r : Registry P N S) (s : S) (c : Call P N) :
    r.call s c = { r with
      v4 := r.applyOp s r.v4 c.onV4
      iana := r.applyOp s r.iana c.onIANA
      pd := r.applyOp s r.pd c.onPD } := by
  cases c with
  | allocateFromProfile profile poolOverride vrf =>
    exact elim_allocate r s _ (fun b => { r with v4 := b }) rfl
  | allocateIANAFromProfile profile poolOverride vrf =>
    exact elim_allocate r s _ (fun b => { r with iana := b }) rfl
  | allocatePDFromProfile profile poolOverride vrf =>
    exact elim_allocate r s _ (fun b => { r with pd := b }) rfl
  | reserveIP order ip =>
    simp only [call, reserveIP, applyOp, Call.onV4, Call.onIANA, Call.onPD, Option.elim, apply]
    cases r.v4.reserve order ip s <;> rfl
  | reserveIANA order ip =>
    simp only [call, reserveIANA, applyOp, Call.onV4, Call.onIANA, Call.onPD, Option.elim,
      apply]
    cases r.iana.reserve order ip s <;> rfl
  | reservePD order pfx =>
    simp only [call, reservePD, applyOp, Call.onV4, Call.onIANA, Call.onPD, Option.elim, apply]
    cases r.pd.reserve order pfx s <;> rfl
  | reserveIPInPool order pool ip =>
    simp only [call, reserveIPInPool, applyOp, Call.onV4, Call.onIANA, Call.onPD, Option.elim,
      apply]
    cases r.v4.reserveInPool order pool ip s <;> rfl
  | reserveIANAInPool order pool ip =>
    simp only [call, reserveIANAInPool, applyOp, Call.onV4, Call.onIANA, Call.onPD, Option.elim,
      apply]
    cases r.iana.reserveInPool order pool ip s <;> rfl
  | reservePDInPool order pool pfx =>
    simp only [call, reservePDInPool, applyOp, Call.onV4, Call.onIANA, Call.onPD, Option.elim,
      apply]
    cases r.pd.reserveInPool order pool pfx s <;> rfl
  | _ => rfl

end Registry

/-! ## Runs -/

/-- The registry with the grants outstanding in each family. -/
structure Tracked (P N S : Type) where
  registry : Registry P N S
  heldV4 : Set (S × P × Addr)
  heldIANA : Set (S × P × Addr)
  heldPD : Set (S × P × Nat)

namespace Tracked
variable {P N S : Type} [DecidableEq P] [DecidableEq N] [DecidableEq S] {t : Tracked P N S}
  {A R K : Type}

def heldStep [LeasePool A R K S] [DecidableEq K] (t : Tracked P N S) (s : S)
    (b : Bank P N A) (held : Set (S × P × K)) (op : Option (Op P N R)) : Set (S × P × K) :=
  op.elim held (heldAfter t.registry.poolKey t.registry.poolVRFs s b held)

variable (t)

def step (s : S) (c : Call P N) : Tracked P N S where
  registry := t.registry.call s c
  heldV4 := t.heldStep s t.registry.v4 t.heldV4 c.onV4
  heldIANA := t.heldStep s t.registry.iana t.heldIANA c.onIANA
  heldPD := t.heldStep s t.registry.pd t.heldPD c.onPD

def Initial : Prop :=
  (∀ pool a, t.registry.v4.allocators pool = some a → a.IsNew) ∧
  (∀ pool a, t.registry.iana.allocators pool = some a → a.IsNew) ∧
  (∀ pool a, t.registry.pd.allocators pool = some a → a.IsNew) ∧
  t.heldV4 = ∅ ∧ t.heldIANA = ∅ ∧ t.heldPD = ∅

def Permitted (e : S × Call P N) : Prop :=
  (∀ op ∈ e.2.onV4, PermittedOp e.1 t.registry.v4 t.heldV4 op) ∧
  (∀ op ∈ e.2.onIANA, PermittedOp e.1 t.registry.iana t.heldIANA op) ∧
  (∀ op ∈ e.2.onPD, PermittedOp e.1 t.registry.pd t.heldPD op)

variable {t}

/-- The registry serving the calls of any number of sessions, in any order. -/
def machine (P N S : Type) [DecidableEq P] [DecidableEq N] [DecidableEq S] :
    Machine (Tracked P N S) (S × Call P N) where
  init := Initial
  step t e t' := t' = t.step e.1 e.2

structure Invariant (t : Tracked P N S) : Prop where
  v4 : Inv t.registry.v4 t.heldV4
  iana : Inv t.registry.iana t.heldIANA
  pd : Inv t.registry.pd t.heldPD

omit [DecidableEq P] [DecidableEq N] [DecidableEq S] in
theorem Initial.invariant (h : t.Initial) : t.Invariant := by
  obtain ⟨hv4, hiana, hpd, h1, h2, h3⟩ := h
  refine ⟨?_, ?_, ?_⟩
  · rw [h1]
    exact Inv.of_new (fun pool a ha => (hv4 pool a ha).leases_eq_none)
      fun pool a ha k hk => ((hv4 pool a ha).free_iff k).mp hk |>.1
  · rw [h2]
    exact Inv.of_new (fun pool a ha => (hiana pool a ha).leases_eq_none)
      fun pool a ha k hk => ((hiana pool a ha).free_iff k).mp hk |>.1
  · rw [h3]
    exact Inv.of_new (fun pool a ha => (hpd pool a ha).leases_eq_none) fun _ _ _ _ _ => trivial

theorem inv_heldStep [LeasePool A R K S] [DecidableEq K] (t : Tracked P N S)
    {s : S} {b : Bank P N A} {held : Set (S × P × K)} {op : Option (Op P N R)}
    (hinv : Inv b held) (hok : ∀ o ∈ op, PermittedOp s b held o) :
    Inv (t.registry.applyOp s b op) (t.heldStep s b held op) := by
  cases op with
  | none => exact hinv
  | some o => exact hinv.apply (hok o rfl)

theorem keeps_applyOp [LeasePool A R K S] [DecidableEq K] (r : Registry P N S)
    {s : S} {b : Bank P N A} {held : Set (S × P × K)} {op : Option (Op P N R)}
    (hinv : Inv b held) (hok : ∀ o ∈ op, PermittedOp s b held o) :
    Keeps s b (r.applyOp s b op) := by
  cases op with
  | none => exact fun _ _ _ h _ => h
  | some o => exact hinv.keeps (hok o rfl)

theorem Invariant.step (h : t.Invariant) {e : S × Call P N}
    (hok : t.Permitted e) : (t.step e.1 e.2).Invariant := by
  refine ⟨?_, ?_, ?_⟩ <;> simp only [Tracked.step, call_eq]
  · exact t.inv_heldStep h.v4 hok.1
  · exact t.inv_heldStep h.iana hok.2.1
  · exact t.inv_heldStep h.pd hok.2.2

theorem invariant_of_reach (h : (machine P N S).Reach Permitted t) : t.Invariant :=
  h.invariant Invariant (fun _ hinit => Initial.invariant hinit)
    fun _ _ _ hinv hok hstep => hstep ▸ hinv.step hok

/-- In every run whose calls are permitted, no call made for one session takes
away a lease of another, in any pool of any family. -/
theorem release_keeps_others (h : (machine P N S).Reach Permitted t)
    (s : S) (c : Call P N) (hok : t.Permitted (s, c)) :
    Keeps s t.registry.v4 (t.registry.call s c).v4 ∧
      Keeps s t.registry.iana (t.registry.call s c).iana ∧
      Keeps s t.registry.pd (t.registry.call s c).pd := by
  have hinv := invariant_of_reach h
  rw [call_eq]
  exact ⟨keeps_applyOp t.registry hinv.v4 hok.1, keeps_applyOp t.registry hinv.iana hok.2.1,
    keeps_applyOp t.registry hinv.pd hok.2.2⟩

def onePool : Tracked Nat Nat Nat where
  registry :=
    { poolVRFs := fun _ => 0
      poolKey := fun profile _ => profile
      v4 :=
        { allocators := fun pool =>
            if pool = 0 then newPoolAllocator 4 (.v4 0x0a000001#32) (.v4 0x0a000002#32) []
            else none
          profilePools := fun _ => [0] }
      iana := ⟨fun _ => none, fun _ => []⟩
      pd := ⟨fun _ => none, fun _ => []⟩ }
  heldV4 := ∅
  heldIANA := ∅
  heldPD := ∅

theorem onePool_initial : onePool.Initial := by
  refine ⟨fun pool a h => ?_, fun pool a h => ?_, fun pool a h => ?_, rfl, rfl, rfl⟩
  · simp only [onePool] at h
    split at h
    · exact ⟨_, _, _, _, h⟩
    · cases h
  · cases h
  · cases h

omit [DecidableEq N] [DecidableEq S] in
theorem permitted_allocate (t : Tracked P N S) (s : S) (profile vrf : N) :
    t.Permitted (s, .allocateFromProfile profile none vrf) := by
  refine ⟨?_, ?_, ?_⟩ <;> rintro op ⟨⟩
  exact ⟨fun _ _ h => absurd h (by simp [Bank.releases]), by simp⟩

/-- Session 1 has 10.0.0.1 and session 2 has 10.0.0.2. -/
def twoLeases : Tracked Nat Nat Nat :=
  (onePool.step 1 (.allocateFromProfile 0 none 0)).step 2 (.allocateFromProfile 0 none 0)

theorem reach_twoLeases : (machine Nat Nat Nat).Reach Permitted twoLeases :=
  ((init onePool_initial).step (permitted_allocate onePool 1 0 0) rfl).step
    (permitted_allocate _ 2 0 0) rfl

theorem keyOf_step_allocate (t : Tracked P N S) (s : S) (profile vrf : N) (pool : P) (ip : IP) :
    (t.step s (.allocateFromProfile profile none vrf)).registry.v4.keyOf pool ip =
      t.registry.v4.keyOf pool ip := by
  rw [step, call_eq]
  exact (apply_spec t.registry.poolKey t.registry.poolVRFs s t.registry.v4
    (.allocate profile none vrf)).1.keyOf_eq ..

theorem permitted_release_twoLeases : twoLeases.Permitted (1, .releaseIP [10, 0, 0, 1]) := by
  refine ⟨?_, ?_, ?_⟩ <;> rintro op ⟨⟩
  refine ⟨fun pool k hreleases _ => ?_, by simp⟩
  have h : twoLeases.registry.v4.keyOf pool [10, 0, 0, 1] = some k := of_decide_eq_true hreleases
  rw [twoLeases, keyOf_step_allocate, keyOf_step_allocate] at h
  by_cases hpool : pool = 0
  · subst hpool
    cases (show some (Addr.v4 0x0a000001#32) = some k from h)
    exact ((invariant_of_reach reach_twoLeases).v4.held_iff 1 0 _).mpr (by decide)
  · simp [onePool, Bank.keyOf, hpool] at h

/-- Session 1 gives its address back and session 2 keeps its own. -/
theorem release_keeps_others_twoLeases :
    let r := twoLeases.registry
    let r' := r.call 1 (.releaseIP [10, 0, 0, 1])
    r.v4.owner 0 (.v4 0x0a000001#32) = some 1 ∧ r'.v4.owner 0 (.v4 0x0a000001#32) = none ∧
      r.v4.owner 0 (.v4 0x0a000002#32) = some 2 ∧ r'.v4.owner 0 (.v4 0x0a000002#32) = some 2 := by
  have hkeeps := (release_keeps_others reach_twoLeases 1 _ permitted_release_twoLeases).1
  exact ⟨by decide, by decide, by decide, hkeeps 0 _ 2 (by decide) (by decide)⟩

def Exclusive [LeasePool A R K S] (b : Bank P N A) (held : Set (S × P × K)) : Prop :=
  ∀ s pool k, (s, pool, k) ∈ held → b.InRange pool k ∧ ∀ s', (s', pool, k) ∈ held → s' = s

omit [DecidableEq P] [DecidableEq N] [DecidableEq S] in
theorem exclusive_of_inv [LeasePool A R K S] [DecidableEq K] {b : Bank P N A}
    {held : Set (S × P × K)} (h : Inv b held) : Exclusive b held := by
  intro s pool k hs
  have howner := (h.held_iff s pool k).mp hs
  refine ⟨h.owner_inRange pool k (by rw [howner]; nofun), fun s' hs' => ?_⟩
  rw [(h.held_iff s' pool k).mp hs'] at howner
  exact some_inj.mp howner

/-- What a session was granted and has not released lies in the range of its pool and is
granted to no other session, in any family. -/
theorem held_exclusive (h : (machine P N S).Reach Permitted t) :
    Exclusive t.registry.v4 t.heldV4 ∧ Exclusive t.registry.iana t.heldIANA ∧
      Exclusive t.registry.pd t.heldPD :=
  have hinv := invariant_of_reach h
  ⟨exclusive_of_inv hinv.v4, exclusive_of_inv hinv.iana, exclusive_of_inv hinv.pd⟩

theorem held_exclusive_onePool :
    let t := twoLeases.step 1 (.releaseIP [10, 0, 0, 1])
    (2, 0, .v4 0x0a000002#32) ∈ t.heldV4 ∧ (1, 0, .v4 0x0a000001#32) ∉ t.heldV4 ∧
      Exclusive t.registry.v4 t.heldV4 := by
  have hreach := reach_twoLeases.step permitted_release_twoLeases rfl
  have hinv := (invariant_of_reach hreach).v4
  refine ⟨(hinv.held_iff 2 0 _).mpr (by decide), fun h => ?_, (held_exclusive hreach).1⟩
  exact absurd ((hinv.held_iff 1 0 _).mp h) (by decide)

/-- A second release of an address that has been granted to another session in
the meantime takes that session's lease away. -/
theorem release_twice_loses_lease :
    ∃ t : Tracked Nat Nat Nat, (machine Nat Nat Nat).Reach (fun _ _ => True) t ∧
      ∃ s c, ¬Keeps s t.registry.v4 (t.registry.call s c).v4 := by
  refine ⟨((onePool.step 1 (.allocateFromProfile 0 none 0)).step 1
    (.releaseIP [10, 0, 0, 1])).step 2 (.allocateFromProfile 0 none 0), ?_, 1,
    .releaseIP [10, 0, 0, 1], fun h => ?_⟩
  · exact (((init onePool_initial).step (e := (1, _)) trivial rfl).step
      (e := (1, _)) trivial rfl).step (e := (2, _)) trivial rfl
  · have hlost := h 0 (.v4 0x0a000001#32) 2 (by decide) (by decide)
    revert hlost
    decide

end Tracked
end Osvbng.Allocator
