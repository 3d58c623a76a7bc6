import Osvbng.Ha.Checkpoint

/-!
# The addresses of replicated sessions on the standby

The standby reserves the addresses of each checkpoint it stores and releases those of
each checkpoint it deletes. The three kinds of resources are treated alike, so that
what is said of one kind (`Family`) is said of all.

A reservation that fails leaves the checkpoint stored, a changed address stays
reserved under the old one, and a release asks only for the address and not for its
holder. `accounted_of_careful` names the conditions under which none of this matters;
`misreserved` shows messages after which a lease is missing, left over or lost.
-/

namespace Osvbng.Ha.SessionSync
open Function Option List Lib Lib.NetIP Allocator Bank SessionCheckpoint Prod

def Placed {D : Type} (opdb : SyncedKey → Option (SessionCheckpoint D)) : Prop :=
  ∀ key, ∀ cp ∈ opdb key, cp.key = key

/-! ## One kind of resource -/

/-- A kind of resource: the pools it comes from, where a checkpoint names it and its
pool, in which order the loops visit the pools, and whether a release clears the
resource in every pool or in the first that contains it. -/
structure Family (D A R K : Type) [LeasePool A R K String] where
  bank : Pools → Bank String String A
  resource : SessionCheckpoint D → Option R
  pool : SessionCheckpoint D → String
  order : Visits → List String
  everywhere : Bool

namespace Family
variable {D A R K : Type} [LeasePool A R K String] [DecidableEq K] (f : Family D A R K)
  (visits : Visits) (cp : SessionCheckpoint D)

def reserveOp (a : R) : Op String String R :=
  if f.pool cp ≠ "" then .reserveInPool (f.order visits) (f.pool cp) a
  else .reserve (f.order visits) a

def releaseOp (a : R) : Op String String R :=
  if f.everywhere then .releaseAll a else .releaseFirst (f.order visits) a

variable (op : R → Op String String R)

def after (cp : SessionCheckpoint D) (r : Pools) : Bank String String A :=
  (f.resource cp).elim (f.bank r) fun a =>
    (f.bank r).apply r.poolKey r.poolVRFs cp.sessionId (op a)

def reserved (r : Pools) : Bank String String A :=
  f.after (f.reserveOp visits cp) cp r

def released (r : Pools) : Bank String String A :=
  f.after (f.releaseOp visits) cp r

/-- The leases are those of the stored checkpoints, but for the local sessions. -/
structure Accounted (isLocal : String → Prop) (opdb : SyncedKey → Option (SessionCheckpoint D))
    (b : Bank String String A) : Prop where
  stored : ∀ key, ∀ cp ∈ opdb key, ∀ a ∈ f.resource cp,
    ∃ pool k, b.keyOf pool a = some k ∧ b.owner pool k = some cp.sessionId
  leased : ∀ pool k s, b.owner pool k = some s → ¬ isLocal s →
    ∃ key, ∃ cp ∈ opdb key, cp.sessionId = s ∧ ∃ a ∈ f.resource cp, b.keyOf pool a = some k

variable (opdb : SyncedKey → Option (SessionCheckpoint D))

/-- A checkpoint that is stored keeps what the one before it had, and what it has is
free or its own in the pool where it is reserved. -/
def Takes (visits : Visits) (cp : SessionCheckpoint D) (b : Bank String String A) : Prop :=
  (∀ old ∈ opdb cp.key, ∀ a ∈ f.resource old, f.resource cp = some a) ∧
    ∀ a ∈ f.resource cp, ∃ pool k, b.reserveTarget (f.reserveOp visits cp a) = some (pool, a) ∧
      b.keyOf pool a = some k ∧ b.InRange pool k ∧
        (b.owner pool k = none ∨ b.owner pool k = some cp.sessionId)

/-- A checkpoint that is deleted has what the stored one has, and if none is stored,
what nobody holds. Only one pool contains it, and the loops visit that pool. -/
def GivesBack (visits : Visits) (cp : SessionCheckpoint D) (b : Bank String String A) : Prop :=
  (∀ old ∈ opdb cp.key, f.resource old = f.resource cp) ∧
    ∀ a ∈ f.resource cp,
      (opdb cp.key = none → ∀ pool k, b.keyOf pool a = some k → b.owner pool k = none) ∧
        ∀ pool pool', b.contains pool a → b.contains pool' a → pool = pool' ∧ pool ∈ f.order visits

variable {f} {isLocal : String → Prop} {opdb : SyncedKey → Option (SessionCheckpoint D)}
  {visits : Visits} {cp : SessionCheckpoint D} {r : Pools} {b : Bank String String A}
  {pool : String}

theorem sameShape_after (cp : SessionCheckpoint D) (r : Pools) :
    SameShape (f.bank r) (f.after op cp r) := by
  unfold after
  cases f.resource cp with
  | none => exact .refl _
  | some a => exact ((f.bank r).apply_spec _ _ _ _).1

theorem reserve_spec (htakes : f.Takes opdb visits cp (f.bank r)) :
    SameShape (f.bank r) (f.reserved visits cp r) ∧
      ∃ granted : Option (String × K),
        (∀ pool k, (f.reserved visits cp r).owner pool k =
          if granted = some (pool, k) then some cp.sessionId else (f.bank r).owner pool k) ∧
        (∀ pool k, granted = some (pool, k) → (f.bank r).InRange pool k ∧
          ((f.bank r).owner pool k = none ∨ (f.bank r).owner pool k = some cp.sessionId) ∧
          ∃ a ∈ f.resource cp, (f.bank r).keyOf pool a = some k) ∧
        ∀ a ∈ f.resource cp,
          ∃ pool k, granted = some (pool, k) ∧ (f.bank r).keyOf pool a = some k := by
  unfold reserved after
  cases ha : f.resource cp with
  | none => exact ⟨.refl _, none, fun _ _ => rfl, nofun, nofun⟩
  | some a =>
    obtain ⟨pool, k, htarget, hkey, hrange, hfree⟩ := htakes.2 a ha
    have hop : (∃ order a', f.reserveOp visits cp a = .reserve order a') ∨
        ∃ order p a', f.reserveOp visits cp a = .reserveInPool order p a' := by
      unfold reserveOp
      split
      · exact .inr ⟨_, _, _, rfl⟩
      · exact .inl ⟨_, _, rfl⟩
    have hgrant : (f.bank r).grant r.poolKey r.poolVRFs cp.sessionId (f.reserveOp visits cp a) =
        some (pool, k) := by
      have hreserve : ∃ b', (f.bank r).reserveAt pool a cp.sessionId = some b' := by
        apply ne_none_iff_exists'.mp
        rw [ne_eq, reserveAt_eq_none_iff]
        rintro ⟨k', other, hk', howner, hne⟩
        cases hkey.symm.trans hk'
        rcases hfree with h | h
        · cases howner.symm.trans h
        · exact hne (some_inj.mp (howner.symm.trans h))
      obtain ⟨b', hb'⟩ := hreserve
      have hsame : (f.bank r).grant r.poolKey r.poolVRFs cp.sessionId
          (f.reserveOp visits cp a) =
            ((f.bank r).reserveTarget (f.reserveOp visits cp a)).bind fun t =>
              (f.bank r).grantAt cp.sessionId t.1 t.2 := by
        rcases hop with ⟨order, a', h⟩ | ⟨order, p, a', h⟩ <;> rw [h] <;> rfl
      rw [hsame, htarget, bind_some, grantAt, hb', bind_some, hkey, map_some]
    refine ⟨((f.bank r).apply_spec _ _ _ _).1, some (pool, k), fun q j => ?_, ?_, ?_⟩
    · rw [elim_some, owner_apply_reserve _ _ _ _ hop, hgrant]
    · rintro q j ⟨⟩
      exact ⟨hrange, hfree, a, rfl, hkey⟩
    · rintro _ ⟨⟩
      exact ⟨pool, k, rfl, hkey⟩

theorem Accounted.keep (hacc : f.Accounted isLocal opdb (f.bank r)) (hplaced : Placed opdb)
    (htakes : f.Takes opdb visits cp (f.bank r)) :
    f.Accounted isLocal (cp.put.apply opdb) (f.reserved visits cp r) := by
  obtain ⟨hshape, granted, howner, hgranted, hres⟩ := reserve_spec htakes
  constructor
  · intro key cp' hcp' a ha
    by_cases hkey : key = cp.key
    · subst hkey
      have hsame : cp' = cp := by
        simpa [Write.apply, put, eq_comm] using hcp'
      subst hsame
      obtain ⟨pool, k, hg, hk⟩ := hres a ha
      exact ⟨pool, k, (hshape.keyOf_eq pool a).trans hk, (howner pool k).trans (if_pos hg)⟩
    · have hold : cp' ∈ opdb key := by
        have hne := update_of_ne hkey (some cp) opdb
        exact hne.symm.trans hcp'
      obtain ⟨pool, k, hk, ho⟩ := hacc.stored key cp' hold a ha
      refine ⟨pool, k, (hshape.keyOf_eq pool a).trans hk, ?_⟩
      rw [howner]
      split
      · rename_i hg
        rcases (hgranted pool k hg).2.1 with h | h
        · cases ho.symm.trans h
        · exact h.symm.trans ho
      · exact ho
  · intro pool k s hs hlocal
    rw [howner] at hs
    split at hs
    · rename_i hg
      cases hs
      obtain ⟨-, -, a, ha, hk⟩ := hgranted pool k hg
      exact ⟨cp.key, cp, update_self .., rfl, a, ha, (hshape.keyOf_eq pool a).trans hk⟩
    · obtain ⟨key, cp', hcp', hid, a, ha, hk⟩ := hacc.leased pool k s hs hlocal
      by_cases hkey : key = cp.key
      · subst hkey
        have hsession : cp'.sessionId = cp.sessionId := congrArg snd (hplaced _ cp' hcp')
        exact ⟨cp.key, cp, update_self .., hsession.symm.trans hid, a,
          htakes.1 cp' hcp' a ha, (hshape.keyOf_eq pool a).trans hk⟩
      · exact ⟨key, cp', (update_of_ne hkey ..).trans hcp', hid, a, ha,
          (hshape.keyOf_eq pool a).trans hk⟩

theorem keyOf_of_releases {a : R} {k : K}
    (h : b.releases pool k (f.releaseOp visits a)) : b.keyOf pool a = some k := by
  unfold releaseOp at h
  split at h
  · simpa [releases] using h
  · exact (by simpa [releases] using h : _ ∧ _).2

theorem releases_of_contains {a : R} {k : K}
    (hkey : b.keyOf pool a = some k) (hcontains : b.contains pool a)
    (hone : ∀ pool pool', b.contains pool a → b.contains pool' a →
      pool = pool' ∧ pool ∈ f.order visits) :
    b.releases pool k (f.releaseOp visits a) := by
  unfold releaseOp
  split
  · simpa [releases] using hkey
  · have hfirst : b.firstContaining (f.order visits) a = some pool := by
      have hmem := (hone pool pool hcontains hcontains).2
      have hsome : (b.firstContaining (f.order visits) a).isSome :=
        find?_isSome.mpr ⟨pool, hmem, hcontains⟩
      have hfound : ∀ {q}, b.firstContaining (f.order visits) a = some q → b.contains q a :=
        fun hq => find?_some (p := fun pool => b.contains pool a) hq
      obtain ⟨q, hq⟩ := isSome_iff_exists.mp hsome
      obtain rfl := (hone q pool (hfound hq) hcontains).1
      exact hq
    simp [releases, hfirst, hkey]

variable (hacc : f.Accounted isLocal opdb (f.bank r)) (hplaced : Placed opdb)
  (hrange : ∀ pool k, (f.bank r).owner pool k ≠ none → (f.bank r).InRange pool k)
  (hback : f.GivesBack opdb visits cp (f.bank r))
  (hkeys : ∀ key, ∀ cp' ∈ opdb key, cp'.sessionId = cp.sessionId → key = cp.key)
  (hlocal : ¬ isLocal cp.sessionId)
include hacc hplaced hrange hback hkeys hlocal

theorem release_spec : SameShape (f.bank r) (f.released visits cp r) ∧
      ∀ pool k, (f.released visits cp r).owner pool k =
        if (f.bank r).owner pool k = some cp.sessionId then none else (f.bank r).owner pool k := by
  -- what the session holds is what its stored checkpoint has
  have hheld pool k : (f.bank r).owner pool k = some cp.sessionId →
      ∃ a ∈ f.resource cp, (f.bank r).keyOf pool a = some k := by
    intro howner
    obtain ⟨key, old, hold, hid, a, ha, hk⟩ := hacc.leased pool k _ howner hlocal
    obtain rfl := hkeys key old hold hid
    exact ⟨a, (hback.1 old hold).symm.trans ha, hk⟩
  unfold released after
  cases ha : f.resource cp with
  | none =>
    refine ⟨.refl _, fun pool k => ?_⟩
    rw [elim_none, if_neg]
    intro howner
    obtain ⟨a, hmem, -⟩ := hheld pool k howner
    rw [ha] at hmem
    cases hmem
  | some a =>
    obtain ⟨hnone, hone⟩ := hback.2 a ha
    have hcontains : ∀ {pool k}, (f.bank r).keyOf pool a = some k →
        (f.bank r).owner pool k ≠ none → (f.bank r).contains pool a :=
      fun hk ho => (contains_iff hk).mpr (hrange _ _ ho)
    refine ⟨((f.bank r).apply_spec _ _ _ _).1, fun pool k => ?_⟩
    have hgrant : (f.bank r).grant r.poolKey r.poolVRFs cp.sessionId (f.releaseOp visits a) =
        none := by
      unfold releaseOp
      split <;> rfl
    rw [elim_some, owner_apply, hgrant]
    by_cases hown : (f.bank r).owner pool k = some cp.sessionId
    · obtain ⟨a', ha', hk⟩ := hheld pool k hown
      cases ha.symm.trans ha'
      rw [if_pos hown, if_pos (releases_of_contains hk (hcontains hk (by simp [hown])) hone)]
    · split
      · -- what is released and leased is what the stored checkpoint has
        rename_i hrel
        have hk := keyOf_of_releases hrel
        by_contra howner
        have howner : (f.bank r).owner pool k ≠ none := fun h => howner h.symm
        cases hold : opdb cp.key with
        | none => exact howner (hnone hold pool k hk)
        | some old =>
          obtain ⟨pool', k', hk', ho'⟩ :=
            hacc.stored cp.key old hold a ((hback.1 old hold).trans ha)
          obtain rfl := (hone pool pool' (hcontains hk howner) (hcontains hk' (by simp [ho']))).1
          cases hk.symm.trans hk'
          have hsession : old.sessionId = cp.sessionId :=
            congrArg snd (hplaced _ old hold)
          exact hown (ho'.trans (congrArg some hsession))
      · rfl

theorem Accounted.drop : f.Accounted isLocal (cp.remove.apply opdb) (f.released visits cp r) := by
  obtain ⟨hshape, howner⟩ := release_spec hacc hplaced hrange hback hkeys hlocal
  constructor
  · intro key cp' hcp' a ha
    have hkey : key ≠ cp.key := by
      rintro rfl
      have hgone : cp.remove.apply opdb cp.key = none := update_self ..
      cases hgone.symm.trans hcp'
    have hold : cp' ∈ opdb key := (update_of_ne hkey ..).symm.trans hcp'
    obtain ⟨pool, k, hk, ho⟩ := hacc.stored key cp' hold a ha
    refine ⟨pool, k, (hshape.keyOf_eq pool a).trans hk, ?_⟩
    rw [howner, if_neg]
    · exact ho
    · intro h
      exact hkey (hkeys key cp' hold (some_inj.mp (ho.symm.trans h)))
  · intro pool k s hs hs'
    rw [howner] at hs
    obtain ⟨hne, hs⟩ := ite_none_left_eq_some.mp hs
    obtain ⟨key, cp', hcp', hid, a, ha, hk⟩ := hacc.leased pool k s hs hs'
    have hkey : key ≠ cp.key := by
      rintro rfl
      have hsession : cp'.sessionId = cp.sessionId := congrArg snd (hplaced _ cp' hcp')
      exact hne (hs.trans (congrArg some (hid.symm.trans hsession)))
    exact ⟨key, cp', (update_of_ne hkey ..).trans hcp', hid, a, ha,
      (hshape.keyOf_eq pool a).trans hk⟩

end Family

/-! ## The three kinds -/

variable {D : Type}

def ipv4 : Family D (PoolAllocator String) IP Addr where
  bank := (·.v4)
  resource cp := if cp.ipv4Address.length > 0 then some cp.ipv4Address else none
  pool := (·.ipv4Pool)
  order := (·.v4)
  everywhere := true

def ipv6 : Family D (PoolAllocator String) IP Addr where
  bank := (·.iana)
  resource cp := if cp.ipv6Address.length > 0 then some cp.ipv6Address else none
  pool := (·.ianaPool)
  order := (·.iana)
  everywhere := true

def delegated : Family D (PrefixAllocator String) IPNet Nat where
  bank := (·.pd)
  resource := (·.delegated)
  pool := (·.pdPool)
  order := (·.pd)
  everywhere := false

theorem Family.reserved_eq {A R K : Type} [LeasePool A R K String] [DecidableEq K]
    (f : Family D A R K) {visits : Visits} {cp : SessionCheckpoint D} {r : Pools}
    (put : Bank String String A → Pools) (hput : put (f.bank r) = r) :
    put (f.reserved visits cp r) = (f.resource cp).elim r fun a => (if f.pool cp ≠ "" then
        ((f.bank r).reserveInPool (f.order visits) (f.pool cp) a cp.sessionId).map put
      else ((f.bank r).reserve (f.order visits) a cp.sessionId).map put).getD r := by
  unfold reserved after
  cases f.resource cp with
  | none => exact hput
  | some a =>
    rw [elim_some, elim_some, reserveOp]
    split
    · rw [apply]
      cases (f.bank r).reserveInPool (f.order visits) (f.pool cp) a cp.sessionId with
      | none => exact hput
      | some b => rfl
    · rw [apply]
      cases (f.bank r).reserve (f.order visits) a cp.sessionId with
      | none => exact hput
      | some b => rfl

theorem reserveAddresses_eq (visits : Visits) (cp : SessionCheckpoint D) (r : Pools) :
    reserveAddresses visits cp r = { r with
      v4 := ipv4.reserved visits cp r
      iana := ipv6.reserved visits cp r
      pd := delegated.reserved visits cp r } := by
  have hv4 : ∀ r, cp.reserveIPv4 visits r = { r with v4 := ipv4.reserved visits cp r } := by
    intro r
    rw [ipv4.reserved_eq (fun b => { r with v4 := b }) rfl]
    unfold reserveIPv4 ipv4
    dsimp only
    split <;> rfl
  have hiana : ∀ r, cp.reserveIPv6 visits r = { r with iana := ipv6.reserved visits cp r } := by
    intro r
    rw [ipv6.reserved_eq (fun b => { r with iana := b }) rfl]
    unfold reserveIPv6 ipv6
    dsimp only
    split <;> rfl
  have hpd : ∀ r, cp.reservePrefix visits r = { r with pd := delegated.reserved visits cp r } := by
    intro r
    rw [delegated.reserved_eq (fun b => { r with pd := b }) rfl]
    unfold reservePrefix delegated
    dsimp only
    cases cp.delegated with
    | none | some => rfl
  unfold reserveAddresses
  rw [hv4, hiana, hpd]
  rfl

theorem releaseAddresses_eq (visits : Visits) (cp : SessionCheckpoint D) (r : Pools) :
    releaseAddresses visits cp r = { r with
      v4 := ipv4.released visits cp r
      iana := ipv6.released visits cp r
      pd := delegated.released visits cp r } := by
  unfold releaseAddresses Family.released Family.after Family.releaseOp ipv4 ipv6 delegated
  dsimp only
  cases cp.delegated <;> by_cases hv4 : cp.ipv4Address.length > 0 <;>
    by_cases hv6 : cp.ipv6Address.length > 0 <;> simp only [hv4, hv6, if_true, if_false] <;> rfl

def ForEach (P : ∀ {A R K : Type} [LeasePool A R K String] [DecidableEq K],
    Family D A R K → Prop) : Prop :=
  P ipv4 ∧ P ipv6 ∧ P delegated

structure Family.Acts {A R K : Type} [LeasePool A R K String] [DecidableEq K]
    (f : Family D A R K) : Prop where
  reserve : ∀ visits cp r, f.bank (reserveAddresses visits cp r) = f.reserved visits cp r
  release : ∀ visits cp r, f.bank (releaseAddresses visits cp r) = f.released visits cp r

theorem acts : @ForEach D fun f => f.Acts := by
  refine ⟨⟨?_, ?_⟩, ⟨?_, ?_⟩, ⟨?_, ?_⟩⟩ <;> intro visits cp r
  · rw [reserveAddresses_eq]; rfl
  · rw [releaseAddresses_eq]; rfl
  · rw [reserveAddresses_eq]; rfl
  · rw [releaseAddresses_eq]; rfl
  · rw [reserveAddresses_eq]; rfl
  · rw [releaseAddresses_eq]; rfl

theorem ForEach.of_acts {P Q : ∀ {A R K : Type} [LeasePool A R K String] [DecidableEq K],
    Family D A R K → Prop} (hP : ForEach P)
    (h : ∀ {A R K : Type} [LeasePool A R K String] [DecidableEq K] (f : Family D A R K),
      f.Acts → P f → Q f) : ForEach Q :=
  ⟨h _ acts.1 hP.1, h _ acts.2.1 hP.2.1, h _ acts.2.2 hP.2.2⟩

theorem ForEach.and {P Q : ∀ {A R K : Type} [LeasePool A R K String] [DecidableEq K],
    Family D A R K → Prop} (hP : ForEach P) (hQ : ForEach Q) : ForEach fun f => P f ∧ Q f :=
  ⟨⟨hP.1, hQ.1⟩, ⟨hP.2.1, hQ.2.1⟩, ⟨hP.2.2, hQ.2.2⟩⟩

/-! ## Runs of the receiver -/

inductive SyncMessage (D : Type) where
  | session (stored : Bool) (visits : Visits) (req : SyncSessionRequest (SessionCheckpoint D))
  | page (stored : Option Nat) (visits : Visits) (resp : BulkSyncResponse D)

def SyncMessage.names : SyncMessage D → List String
  | .session _ _ req => [req.session.sessionId]
  | .page _ _ resp => resp.sessions.map (·.sessionId)

namespace SyncReceiver

def next (r : SyncReceiver D) : SyncMessage D → Option (SyncReceiver D)
  | .session stored visits req => some (r.handleSyncSession stored visits req).1
  | .page stored visits resp => some (r.handleBulkSyncPage stored visits resp).1

structure Initial (isLocal : String → Prop) (r : SyncReceiver D) : Prop where
  opdb : ∀ key, r.opdb key = none
  registry : ∀ pools ∈ r.registry, @ForEach D fun f => ∀ pool k s,
    (f.bank pools).owner pool k = some s → isLocal s ∧ (f.bank pools).InRange pool k

variable (isLocal : String → Prop)

def machine : Machine (SyncReceiver D) (SyncMessage D) :=
  .ofNext (Initial isLocal) next

def Accounted (isLocal : String → Prop) (r : SyncReceiver D) : Prop :=
  ∀ pools ∈ r.registry, @ForEach D fun f => f.Accounted isLocal r.opdb (f.bank pools)

def KeepsOthers (names : List String) (r r' : SyncReceiver D) : Prop :=
  ∀ pools ∈ r.registry, ∀ pools' ∈ r'.registry, @ForEach D fun f => ∀ pool k s,
    (f.bank pools).owner pool k = some s → s ∉ names → (f.bank pools').owner pool k = some s

/-- The session is not a local one and keeps its access type. -/
def Named (r : SyncReceiver D) (cp : SessionCheckpoint D) : Prop :=
  ¬ isLocal cp.sessionId ∧ ∀ key, ∀ cp' ∈ r.opdb key, cp'.sessionId = cp.sessionId → key = cp.key

def StoreOk (visits : Visits) (r : SyncReceiver D) (cp : SessionCheckpoint D) : Prop :=
  r.Named isLocal cp ∧
    ∀ pools ∈ r.registry, @ForEach D fun f => f.Takes r.opdb visits cp (f.bank pools)

def DeleteOk (visits : Visits) (r : SyncReceiver D) (cp : SessionCheckpoint D) : Prop :=
  r.Named isLocal cp ∧
    ∀ pools ∈ r.registry, @ForEach D fun f => f.GivesBack r.opdb visits cp (f.bank pools)

/-- Every session of a page may be stored after those before it. -/
def PageOk (isLocal : String → Prop) (visits : Visits) :
    SyncReceiver D → List (SessionCheckpoint D) → Prop
  | _, [] => True
  | r, cp :: cps => r.StoreOk isLocal visits cp ∧ PageOk isLocal visits (r.keep visits cp) cps

def Careful (r : SyncReceiver D) : SyncMessage D → Prop
  | .session stored visits req => stored →
      if req.action = .delete then r.DeleteOk isLocal visits req.session
      else r.StoreOk isLocal visits req.session
  | .page stored visits resp => PageOk isLocal visits r (resp.taken stored)

structure Balanced (isLocal : String → Prop) (r : SyncReceiver D) : Prop where
  placed : Placed r.opdb
  accounted : r.Accounted isLocal
  inRange : ∀ pools ∈ r.registry, @ForEach D fun f => ∀ pool k,
    (f.bank pools).owner pool k ≠ none → (f.bank pools).InRange pool k

variable {isLocal : String → Prop} {r r' : SyncReceiver D} {visits : Visits}
  {cp : SessionCheckpoint D} {m : SyncMessage D} {opdb : SyncedKey → Option (SessionCheckpoint D)}
  {pools : Pools}

theorem Balanced.init (h : Initial isLocal r) : r.Balanced isLocal where
  placed key cp hcp := by
    rw [h.opdb] at hcp
    cases hcp
  accounted pools hpools := (h.registry pools hpools).of_acts fun f _ hlocal =>
    { stored := fun key cp hcp => by
        rw [h.opdb] at hcp
        cases hcp
      leased pool k s hs hs' := absurd (hlocal pool k s hs).1 hs' }
  inRange pools hpools := (h.registry pools hpools).of_acts fun f _ hlocal pool k hne => by
    obtain ⟨s, hs⟩ := ne_none_iff_exists'.mp hne
    exact (hlocal pool k s hs).2

theorem placed_put (h : Placed opdb) (cp : SessionCheckpoint D) : Placed (cp.put.apply opdb) := by
  intro key cp' hcp'
  obtain ⟨rfl, ⟨⟩⟩ | ⟨-, hold⟩ := update_cases hcp'
  · rfl
  · exact h key cp' hold

theorem placed_remove (h : Placed opdb)
    (cp : SessionCheckpoint D) : Placed (cp.remove.apply opdb) := by
  intro key cp' hcp'
  obtain ⟨-, ⟨⟩⟩ | ⟨-, hold⟩ := update_cases hcp'
  exact h key cp' hold

/-- A step on the pools is judged family by family. -/
theorem Balanced.of_each {names : List String} {g : Pools → Pools} (hplaced : Placed opdb)
    (heach : ∀ pools ∈ r.registry, @ForEach D fun f =>
      f.Accounted isLocal opdb (f.bank (g pools)) ∧ ∀ pool k,
        ((f.bank (g pools)).owner pool k ≠ none → (f.bank (g pools)).InRange pool k) ∧
        ∀ s, (f.bank pools).owner pool k = some s → s ∉ names →
          (f.bank (g pools)).owner pool k = some s) :
    Balanced isLocal { r with opdb := opdb, registry := r.registry.map g } ∧
      KeepsOthers names r { r with opdb := opdb, registry := r.registry.map g } := by
  refine ⟨⟨hplaced, fun pools' hpools' => ?_, fun pools' hpools' => ?_⟩,
    fun pools hpools pools' hpools' => ?_⟩
  · obtain ⟨pools, hpools, rfl⟩ := map_eq_some_iff.mp hpools'
    exact (heach pools hpools).of_acts fun f _ h => h.1
  · obtain ⟨pools, hpools, rfl⟩ := map_eq_some_iff.mp hpools'
    exact (heach pools hpools).of_acts fun f _ h pool k => (h.2 pool k).1
  · cases (map_eq_some_iff.mpr ⟨pools, hpools, rfl⟩).symm.trans hpools'
    exact (heach pools hpools).of_acts fun f _ h pool k => (h.2 pool k).2

theorem Balanced.keep (hb : r.Balanced isLocal) (hok : r.StoreOk isLocal visits cp) :
    (r.keep visits cp).Balanced isLocal ∧ KeepsOthers [cp.sessionId] r (r.keep visits cp) := by
  refine Balanced.of_each (placed_put hb.placed cp) fun pools hpools => ?_
  apply (((hb.accounted pools hpools).and (hb.inRange pools hpools)).and
    (hok.2 pools hpools)).of_acts
  rintro A R K _ _ f hacts ⟨⟨hacc, hrange⟩, htakes⟩
  obtain ⟨hshape, granted, howner, hgranted, -⟩ := Family.reserve_spec htakes
  rw [hacts.reserve]
  refine ⟨hacc.keep hb.placed htakes, fun pool k => ?_⟩
  rw [hshape.inRange_iff, howner]
  split
  · rename_i hg
    obtain ⟨hin, hfree, -⟩ := hgranted pool k hg
    refine ⟨fun _ => hin, fun s hs _ => ?_⟩
    rcases hfree with h | h
    · cases hs.symm.trans h
    · exact h.symm.trans hs
  · exact ⟨hrange pool k, fun _ hs _ => hs⟩

def drop (visits : Visits) (r : SyncReceiver D) (cp : SessionCheckpoint D) : SyncReceiver D :=
  { r with
    opdb := cp.remove.apply r.opdb
    registry := r.registry.map (releaseAddresses visits cp) }

theorem Balanced.drop (hb : r.Balanced isLocal) (hok : r.DeleteOk isLocal visits cp) :
    (r.drop visits cp).Balanced isLocal ∧ KeepsOthers [cp.sessionId] r (r.drop visits cp) := by
  obtain ⟨⟨hlocal, hkeys⟩, hback⟩ := hok
  refine Balanced.of_each (placed_remove hb.placed cp) fun pools hpools => ?_
  apply (((hb.accounted pools hpools).and (hb.inRange pools hpools)).and
    (hback pools hpools)).of_acts
  rintro A R K _ _ f hacts ⟨⟨hacc, hrange⟩, hback⟩
  obtain ⟨hshape, howner⟩ := Family.release_spec hacc hb.placed hrange hback hkeys hlocal
  rw [hacts.release]
  refine ⟨hacc.drop hb.placed hrange hback hkeys hlocal, fun pool k => ?_⟩
  rw [hshape.inRange_iff, howner]
  split
  · rename_i hown
    refine ⟨fun h => absurd rfl h, fun s hs hnot => absurd ?_ hnot⟩
    exact mem_singleton.mpr (some_inj.mp (hs.symm.trans hown))
  · exact ⟨hrange pool k, fun _ hs _ => hs⟩

theorem KeepsOthers.refl (names : List String) (r : SyncReceiver D) : KeepsOthers names r r := by
  intro pools hpools pools' hpools'
  cases hpools.symm.trans hpools'
  exact ⟨fun _ _ _ hs _ => hs, fun _ _ _ hs _ => hs, fun _ _ _ hs _ => hs⟩

/-- What a page does to the leases, session by session. -/
theorem Balanced.page {cps : List (SessionCheckpoint D)} (hb : r.Balanced isLocal)
    (hok : PageOk isLocal visits r cps) :
    (cps.foldl (.keep visits) r).Balanced isLocal ∧
      KeepsOthers (cps.map (·.sessionId)) r (cps.foldl (.keep visits) r) := by
  induction cps generalizing r with
  | nil => exact ⟨hb, .refl _ r⟩
  | cons cp cps ih =>
    obtain ⟨hcp, hcps⟩ := hok
    obtain ⟨hkept, hothers⟩ := hb.keep hcp
    obtain ⟨hrest, hothers'⟩ := ih hkept hcps
    refine ⟨hrest, fun pools hpools pools' hpools' => ?_⟩
    have hmid : reserveAddresses visits cp pools ∈ (r.keep visits cp).registry :=
      map_eq_some_iff.mpr ⟨pools, hpools, rfl⟩
    apply ((hothers pools hpools _ hmid).and (hothers' _ hmid pools' hpools')).of_acts
    rintro A R K _ _ f - ⟨hfirst, hthen⟩ pool k s hs hnot
    rw [map_cons, mem_cons, not_or] at hnot
    exact hthen pool k s (hfirst pool k s hs (mem_singleton.not.mpr hnot.1)) hnot.2

theorem Balanced.of_lastSeq {lastSeq : String → UInt64} (hb : r.Balanced isLocal) :
    Balanced isLocal { r with lastSeq := lastSeq } := { hb with }

theorem Balanced.next (hb : r.Balanced isLocal) (hok : r.Careful isLocal m)
    (hstep : r.next m = some r') : r'.Balanced isLocal ∧ KeepsOthers m.names r r' := by
  cases m with
  | session stored visits req =>
    cases hstep
    unfold handleSyncSession
    cases stored with
    | false => exact ⟨hb.of_lastSeq, KeepsOthers.refl _ r⟩
    | true =>
      have hok := hok rfl
      cases haction : req.action with
      | delete =>
        rw [if_pos haction] at hok
        obtain ⟨hbal, hothers⟩ := hb.drop hok
        exact ⟨hbal.of_lastSeq, hothers⟩
      | _ =>
        rw [haction, if_neg (by decide)] at hok
        obtain ⟨hbal, hothers⟩ := hb.keep hok
        exact ⟨hbal.of_lastSeq, hothers⟩
  | page stored visits resp =>
    cases hstep
    obtain ⟨hbal, hothers⟩ := hb.page hok
    have hnames s : s ∉ resp.sessions.map (·.sessionId) →
        s ∉ (resp.taken stored).map (·.sessionId) := by
      intro hs hmem
      apply hs
      cases stored with
      | none => exact hmem
      | some n => exact map_subset _ (take_subset n _) hmem
    have hkeeps : KeepsOthers (resp.sessions.map (·.sessionId)) r
        ((resp.taken stored).foldl (.keep visits) r) := by
      intro pools hpools pools' hpools'
      apply (hothers pools hpools pools' hpools').of_acts
      intro A R K _ _ f _ hf pool k s hs hnot
      exact hf pool k s hs (hnames s hnot)
    unfold handleBulkSyncPage
    dsimp only
    split
    · exact ⟨hbal.of_lastSeq, hkeeps⟩
    · exact ⟨hbal, hkeeps⟩

variable (hreach : (machine isLocal).Reach (Careful isLocal) r)
include hreach

theorem balanced_of_reach : r.Balanced isLocal := by
  apply hreach.invariant (Balanced isLocal)
  · exact fun r hinit => .init hinit
  · exact fun r m r' hb hok hstep => (hb.next hok hstep).1

/-- As long as every checkpoint gets what it has and gives back what it got, the leases
of replicated sessions are those of the stored checkpoints, and no message touches a
lease of a session it does not name. -/
theorem accounted_of_careful : r.Accounted isLocal ∧
      ∀ m, r.Careful isLocal m → ∀ r', r.next m = some r' → KeepsOthers m.names r r' := by
  have hb := balanced_of_reach hreach
  exact ⟨hb.accounted, fun m hok r' hstep => (hb.next hok hstep).2⟩

omit hreach

/-! ## A pool of two addresses -/

def onePool : Pools where
  poolVRFs _ := ""
  poolKey _ pool := pool
  v4 :=
    { allocators := fun pool =>
        if pool = "p" then newPoolAllocator 4 (.v4 0x0a000001#32) (.v4 0x0a000002#32) [] else none
      profilePools := fun _ => ["p"] }
  iana := ⟨fun _ => none, fun _ => []⟩
  pd := ⟨fun _ => none, fun _ => []⟩

def visitOne : Visits := ⟨["p"], [], []⟩

def leasedLocally : Pools := (onePool.reserveIP ["p"] [10, 0, 0, 1] "local").getD onePool

def withAddress (ip : IP) : SessionCheckpoint Unit :=
  ⟨"a", "north", "ipoe", ip, "", [], "", [], 0, "", ()⟩

def update (ip : IP) : SyncMessage Unit :=
  .session true visitOne ⟨"north", 1, .update, withAddress ip⟩

def delete (ip : IP) : SyncMessage Unit :=
  .session true visitOne ⟨"north", 2, .delete, withAddress ip⟩

def updated (pools : Pools) (ips : List IP) : SyncReceiver Unit :=
  ips.foldl
    (fun r ip => (r.handleSyncSession true visitOne ⟨"north", 1, .update, withAddress ip⟩).1)
    (new (some pools))

def HasOnePool (pools : Pools) : Prop := SameShape onePool.v4 pools.v4

theorem HasOnePool.reserve (h : HasOnePool pools) (cp : SessionCheckpoint Unit) :
    HasOnePool (reserveAddresses visitOne cp pools) := by
  rw [reserveAddresses_eq]
  exact h.trans (ipv4.sameShape_after _ cp pools)

theorem leasedLocally_v4 : leasedLocally.v4 = onePool.v4.apply onePool.poolKey onePool.poolVRFs
    "local" (.reserve ["p"] [10, 0, 0, 1]) := by
  rfl

theorem hasOnePool_leasedLocally : HasOnePool leasedLocally := by
  unfold HasOnePool
  rw [leasedLocally_v4]
  exact (onePool.v4.apply_spec _ _ _ _).1

theorem HasOnePool.keyOf (h : HasOnePool pools) {ip : IP} {pool : String} {k : Addr}
    (hk : pools.v4.keyOf pool ip = some k) : pool = "p" ∧ canon ip = some k := by
  rw [h.keyOf_eq] at hk
  by_cases hpool : pool = "p"
  · subst hpool
    exact ⟨rfl, hk⟩
  · have hnone : onePool.v4.allocators pool = none := if_neg hpool
    unfold Bank.keyOf at hk
    rw [hnone] at hk
    cases hk

theorem owner_onePool (pool : String) (k : Addr) : onePool.v4.owner pool k = none := by
  cases hs : onePool.v4.owner pool k with
  | none => rfl
  | some s =>
    obtain ⟨a, ha, hk⟩ := bind_eq_some_iff.mp hs
    have hnew : a.IsNew := by
      change (if pool = "p" then _ else none) = some a at ha
      split at ha
      · exact ⟨_, _, _, _, ha⟩
      · cases ha
    cases (hnew.leases_eq_none k).symm.trans hk

theorem inRange_onePool : onePool.v4.InRange "p" (.v4 0x0a000001#32) :=
  ⟨_, rfl, show PoolAllocator.InRange _ _ by decide⟩

theorem onePool_initial : Initial (· = "local") (updated onePool []) := by
  refine ⟨fun _ => rfl, ?_⟩
  rintro _ ⟨⟩
  refine ⟨fun pool k s hs => ?_, nofun, nofun⟩
  cases (owner_onePool pool k).symm.trans hs

theorem leasedLocally_initial : Initial (· = "local") (updated leasedLocally []) := by
  refine ⟨fun _ => rfl, ?_⟩
  rintro _ ⟨⟩
  refine ⟨fun pool k s hs => ?_, nofun, nofun⟩
  change leasedLocally.v4.owner pool k = some s at hs
  have hgrant : onePool.v4.grant onePool.poolKey onePool.poolVRFs "local"
      (.reserve ["p"] [10, 0, 0, 1]) = some ("p", .v4 0x0a000001#32) := by
    decide +kernel
  rw [leasedLocally_v4, owner_apply_reserve _ _ _ _ (.inl ⟨_, _, rfl⟩), hgrant,
    owner_onePool] at hs
  split at hs
  · rename_i heq
    cases heq
    cases hs
    exact ⟨rfl, (hasOnePool_leasedLocally.inRange_iff _ _).mpr inRange_onePool⟩
  · cases hs

def second : SessionCheckpoint Unit := { withAddress [10, 0, 0, 2] with sessionId := "b" }

def stored : SyncReceiver Unit :=
  ((updated onePool [[10, 0, 0, 1]]).handleSyncSession true visitOne
    ⟨"north", 2, .update, second⟩).1

theorem opdb_stored {key : SyncedKey} {cp : SessionCheckpoint Unit}
    (hcp : cp ∈ stored.opdb key) :
    key = (.ipoe, "a") ∧ cp.sessionId = "a" ∨ key = (.ipoe, "b") ∧ cp.sessionId = "b" := by
  by_cases hb : key = (.ipoe, "b")
  · subst hb
    cases hcp
    exact .inr ⟨rfl, rfl⟩
  · by_cases ha : key = (.ipoe, "a")
    · subst ha
      cases hcp
      exact .inl ⟨rfl, rfl⟩
    · have hnone : stored.opdb key = none := (update_of_ne hb ..).trans (update_of_ne ha ..)
      cases hnone.symm.trans hcp

theorem careful_first : (updated onePool []).Careful (· = "local") (update [10, 0, 0, 1]) := by
  intro _
  refine ⟨⟨by decide, by rintro _ _ ⟨⟩⟩, ?_⟩
  rintro _ ⟨⟩
  refine ⟨⟨?_, ?_⟩, ⟨?_, ?_⟩, ?_, ?_⟩ <;> rintro _ ⟨⟩
  exact ⟨"p", .v4 0x0a000001#32, rfl, rfl, inRange_onePool, .inl (owner_onePool _ _)⟩

theorem careful_second : (updated onePool [[10, 0, 0, 1]]).Careful (· = "local")
    (.session true visitOne ⟨"north", 2, .update, second⟩) := by
  intro _
  refine ⟨⟨by decide, fun key cp hcp hid => ?_⟩, ?_⟩
  · by_cases hkey : key = (.ipoe, "a")
    · subst hkey
      cases hcp
      exact absurd hid (by decide)
    · cases (update_of_ne hkey ..).symm.trans hcp
  rintro _ ⟨⟩
  refine ⟨⟨?_, ?_⟩, ⟨?_, ?_⟩, ?_, ?_⟩ <;> rintro _ ⟨⟩
  refine ⟨"p", .v4 0x0a000002#32, by decide +kernel, by decide +kernel, ?_,
    .inl (by decide +kernel)⟩
  exact ((HasOnePool.reserve (.refl _) _).inRange_iff _ _).mpr
    ⟨_, rfl, show PoolAllocator.InRange _ _ by decide⟩

theorem careful_delete : stored.Careful (· = "local") (delete [10, 0, 0, 1]) := by
  intro _
  refine ⟨⟨by decide, fun key cp hcp hid => ?_⟩, ?_⟩
  · rcases opdb_stored hcp with ⟨rfl, -⟩ | ⟨-, hb⟩
    · rfl
    · exact absurd (hb.symm.trans hid) (by decide)
  rintro _ ⟨⟩
  refine ⟨⟨?_, ?_⟩, ⟨?_, ?_⟩, ?_, ?_⟩ <;> rintro _ ⟨⟩
  · rfl
  · have honly : ∀ pool, onePool.v4.contains pool [10, 0, 0, 1] → pool = "p" := by
      intro pool hcontains
      by_contra hne
      have hnone : onePool.v4.allocators pool = none := if_neg hne
      simp [Bank.contains, hnone] at hcontains
    refine ⟨by rintro ⟨⟩, fun pool pool' hin hin' => ?_⟩
    have hshape : HasOnePool _ :=
      (HasOnePool.reserve (.refl _) (withAddress [10, 0, 0, 1])).reserve second
    obtain rfl := honly pool (hshape.contains_eq pool _ ▸ hin)
    obtain rfl := honly pool' (hshape.contains_eq pool' _ ▸ hin')
    exact ⟨rfl, mem_singleton.mpr rfl⟩
  · rfl
  · rfl

/-- Two sessions are stored with their addresses, and the first one is deleted. -/
theorem accounted_of_careful_two : ∃ r : SyncReceiver Unit,
    (machine (· = "local")).Reach (Careful (· = "local")) r ∧ r.opdb (.ipoe, "a") = none ∧
      (r.opdb (.ipoe, "b")).isSome ∧ r.Accounted (· = "local") := by
  have hreach : (machine (· = "local")).Reach (Careful (· = "local"))
      (stored.handleSyncSession true visitOne
        ⟨"north", 2, .delete, withAddress [10, 0, 0, 1]⟩).1 :=
    (((Machine.Reach.init onePool_initial).step careful_first rfl).step careful_second rfl).step
      careful_delete rfl
  exact ⟨_, hreach, rfl, rfl, (accounted_of_careful hreach).1⟩

theorem reach_updated (h : Initial (· = "local") (updated pools [])) (ips : List IP) :
    (machine (· = "local")).Reach (fun _ _ => True) (updated pools ips) := by
  induction ips using List.reverseRecOn with
  | nil => exact .init h
  | append_singleton ips ip ih =>
    have hstep : (updated pools ips).next (update ip) = some (updated pools (ips ++ [ip])) := by
      unfold updated
      rw [foldl_append]
      rfl
    exact ih.step trivial hstep

/-- A session's address is leased locally: its checkpoint is stored without a
reservation, and the message that deletes it ends the local lease. And a session that
changes its address keeps the old one. -/
theorem misreserved :
    ((machine (· = "local")).Reach (fun _ _ => True) (updated leasedLocally [[10, 0, 0, 1]]) ∧
      ¬ (updated leasedLocally [[10, 0, 0, 1]]).Accounted (· = "local") ∧
      ∃ r', (updated leasedLocally [[10, 0, 0, 1]]).next (delete [10, 0, 0, 1]) = some r' ∧
        ¬ KeepsOthers ["a"] (updated leasedLocally [[10, 0, 0, 1]]) r') ∧
    (machine (· = "local")).Reach (fun _ _ => True)
        (updated onePool [[10, 0, 0, 1], [10, 0, 0, 2]]) ∧
      ¬ (updated onePool [[10, 0, 0, 1], [10, 0, 0, 2]]).Accounted (· = "local") := by
  refine ⟨⟨reach_updated leasedLocally_initial _, fun hacc => ?_, _, rfl, fun hkeeps => ?_⟩,
    reach_updated onePool_initial _, fun hacc => ?_⟩
  · obtain ⟨pool, k, hk, howner⟩ := (hacc _ rfl).1.stored (.ipoe, "a") _ rfl _ rfl
    obtain ⟨rfl, hk⟩ := (hasOnePool_leasedLocally.reserve _).keyOf hk
    cases hk
    revert howner
    decide +kernel
  · have hlost := (hkeeps _ rfl _ rfl).1 "p" (.v4 0x0a000001#32) "local" (by decide +kernel)
      (by decide)
    revert hlost
    decide +kernel
  · obtain ⟨key, cp, hcp, hid, a, ha, hk⟩ :=
      (hacc _ rfl).1.leased "p" (.v4 0x0a000001#32) "a" (by decide +kernel) (by decide)
    by_cases hkey : key = (.ipoe, "a")
    · subst hkey
      cases hcp
      cases ha
      revert hk
      decide +kernel
    · have hnone : (updated onePool [[10, 0, 0, 1], [10, 0, 0, 2]]).opdb key = none :=
        (update_of_ne hkey ..).trans (update_of_ne hkey ..)
      cases hnone.symm.trans hcp

end SyncReceiver
end Osvbng.Ha.SessionSync
