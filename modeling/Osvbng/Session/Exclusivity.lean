import Osvbng.Lib.NetIP

/-!
# The exclusivity registry

Who owns a subscriber's place, that is a pair of VLANs and a hardware address. The
registry is split into shards by a hash of the key; what it says about a key is
`lookup`, and the lemmas here are stated in terms of it.
-/

namespace Osvbng.Session
open Function Lib.Slice Lib.NetIP

inductive Protocol where
  | ipoe | pppoe
deriving DecidableEq

structure TupleKey where
  svlan : UInt16
  cvlan : UInt16
  mac : Bytes
deriving DecidableEq

/-- The first eight characters of an identifier without its dashes. -/
def toAcctSessionID (sessionID : Bytes) : Bytes := (sessionID.filter (· ≠ 0x2d)).take 8

/-- How an operator or a server names a session; an empty text is no name. -/
structure Target where
  key : Option TupleKey
  sessionID : Bytes
  acctSessionID : Bytes
  username : Bytes
  framedIPv4 : IP
  framedIPv6 : IP

structure Owner where
  protocol : Protocol
  sessionID : Nat
deriving DecidableEq

def numShards : Nat := 16

structure Registry where
  shards : Fin numShards → TupleKey → Option Owner

namespace Registry

def newRegistry : Registry := ⟨fun _ _ => none⟩

def shardFor (k : TupleKey) : Fin numShards :=
  let m (i : Nat) : UInt32 := (k.mac.getD i 0).toUInt32
  let h := k.svlan.toUInt32 <<< 16 ||| k.cvlan.toUInt32
  let h := h ^^^ (m 0 <<< 24 ||| m 1 <<< 16 ||| m 2 <<< 8 ||| m 3)
  let h := h ^^^ (m 4 <<< 8 ||| m 5)
  ⟨(h &&& 15).toNat % numShards, Nat.mod_lt _ (by decide)⟩

variable (r : Registry) (key : TupleKey)

def lookup : Option Owner := r.shards (shardFor key) key

def set (owner : Option Owner) : Registry :=
  ⟨update r.shards (shardFor key) (update (r.shards (shardFor key)) key owner)⟩

variable (owner : Owner)

/-- The new owner of a key, and the one before unless it is the same. -/
def claim : Registry × Option Owner :=
  (r.set key (some owner),
    match r.lookup key with
    | none => none
    | some prev => if prev = owner then none else some prev)

def release : Registry :=
  if r.lookup key = some owner then r.set key none else r

variable (r : Registry) (key : TupleKey)

theorem lookup_set_self (owner : Option Owner) : (r.set key owner).lookup key = owner := by
  unfold set lookup
  dsimp only
  rw [update_self, update_self]

theorem lookup_set_of_ne {key' : TupleKey} (hne : key' ≠ key) (owner : Option Owner) :
    (r.set key owner).lookup key' = r.lookup key' := by
  unfold set lookup
  dsimp only
  by_cases hshard : shardFor key' = shardFor key
  · rw [hshard, update_self, update_of_ne hne]
  · rw [update_of_ne hshard]

theorem lookup_claim (owner : Owner) (key' : TupleKey) :
    (r.claim key owner).1.lookup key' = if key' = key then some owner else r.lookup key' := by
  unfold claim
  dsimp only
  split
  · rename_i heq
    rw [heq, lookup_set_self]
  · rename_i hne
    rw [lookup_set_of_ne r key hne]

theorem lookup_release (owner : Owner) (key' : TupleKey) :
    (r.release key owner).lookup key' =
      if key' = key ∧ r.lookup key = some owner then none else r.lookup key' := by
  unfold release
  by_cases howner : r.lookup key = some owner
  · rw [if_pos howner]
    by_cases heq : key' = key
    · rw [if_pos ⟨heq, howner⟩, heq, lookup_set_self]
    · rw [if_neg fun h => heq h.1, lookup_set_of_ne r key heq]
  · rw [if_neg howner, if_neg fun h => howner h.2]

/-- A claim finds somebody else exactly when the key is owned by somebody else. -/
theorem claim_snd_eq_some_iff (owner prev : Owner) :
    (r.claim key owner).2 = some prev ↔ r.lookup key = some prev ∧ prev ≠ owner := by
  unfold claim
  split
  · rename_i hnone
    rw [hnone]
    exact ⟨nofun, nofun⟩
  · rename_i prev' hsome
    rw [hsome]
    split
    · rename_i heq
      subst heq
      constructor
      · exact nofun
      · rintro ⟨hprev, hne⟩
        cases hprev
        exact absurd rfl hne
    · rename_i hne
      constructor
      · intro hprev
        cases hprev
        exact ⟨rfl, hne⟩
      · exact fun h => h.1

end Registry
end Osvbng.Session
