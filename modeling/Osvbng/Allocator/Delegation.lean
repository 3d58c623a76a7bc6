import Mathlib.Order.CompletePartialOrder
import Osvbng.Allocator.Pool
import Osvbng.Lib.Blocks
import Osvbng.Lib.DoubleWord
import Osvbng.Lib.Run

/-!
# The prefixes of a delegation pool

A delegation pool hands out prefixes of one length by their index in a network. The two maps
between indexes and prefixes work on two words of 64 bits. The index of a prefix is cut to
one word, and the bits behind the prefix are shifted out: `prefixToIndex_eq_some_iff` says
what remains to be compared.

Next to the pool stands the history of grants, the prefix under which each index is leased.
`apart_of_careful` says when the leased prefixes are disjoint and inside of the network:
exactly as long as no session reserves a prefix that differs from the network in the bits
the index loses.
-/

namespace Osvbng.Allocator
open Function Option List Lib Lib.Slice Lib.NetIP Lib.DoubleWord Lib.Blocks Nat LeasePool Machine

/-! ## Numbers of addresses -/

def number (ip : IP) : Nat := beNat (to16 ip)

theorem length_to16 {ip : IP} (h : ip.length = 4 ∨ ip.length = 16) : (to16 ip).length = 16 := by
  unfold to16
  rcases h with h | h
  · simp [h, v4InV6Prefix]
  · simp [h]

theorem number_lt (ip : IP) : number ip < 2 ^ 128 := by
  have hlt := beNat_lt (to16 ip)
  have hlen : (to16 ip).length ≤ 16 := by
    unfold to16
    split
    · rename_i h
      simp [v4InV6Prefix, h]
    · split <;> simp_all
  calc beNat (to16 ip) < 256 ^ (to16 ip).length := hlt
    _ ≤ 256 ^ 16 := Nat.pow_le_pow_right (by omega) hlen
    _ = 2 ^ 128 := by norm_num

theorem number_putBe {v : Nat} (h : v < 2 ^ 128) : number (putBe 16 v) = v := by
  have hto16 : to16 (putBe 16 v) = putBe 16 v := by
    simp [to16]
  rw [number, hto16, beNat_putBe, show 256 ^ 16 = 2 ^ 128 from by norm_num, mod_eq_of_lt h]

theorem toNat_as16_v4 (x : BitVec 32) : (as16 (.v4 x)).toNat = 0xffff * 2 ^ 32 + x.toNat := by
  have hx := x.isLt
  exact (shiftLeft_add_eq_or_of_lt hx 0xffff).symm

theorem toNat_as16_unmap (a : BitVec 128) : (as16 (Addr.unmap (.v6 a))).toNat = a.toNat := by
  unfold Addr.unmap
  dsimp only
  split
  · rename_i hmapped
    have hval := congrArg BitVec.toNat hmapped
    rw [BitVec.toNat_ushiftRight, shiftRight_eq_div_pow] at hval
    rw [toNat_as16_v4, BitVec.truncate_eq_setWidth, BitVec.toNat_setWidth]
    simp only [BitVec.toNat_ofNat] at hval
    omega
  · rfl

theorem canon_eq_some {ip : IP} {addr : Addr} (h : canon ip = some addr) :
    (ip.length = 4 ∨ ip.length = 16) ∧ (as16 addr).toNat = number ip := by
  obtain ⟨a, ha, rfl⟩ := map_eq_some_iff.mp h
  have hlt := beNat_lt ip
  unfold addrFromSlice at ha
  split at ha
  · rename_i hlen
    cases ha
    refine ⟨.inl hlen, ?_⟩
    rw [hlen, show 256 ^ 4 = 2 ^ 32 from by norm_num] at hlt
    show (as16 (.v4 _)).toNat = _
    rw [toNat_as16_v4, BitVec.toNat_ofNat, mod_eq_of_lt hlt, number, to16, if_pos hlen,
      beNat_append, hlen, show beNat v4InV6Prefix = 0xffff from by decide]
    norm_num
  · split at ha
    · rename_i hne hlen
      cases ha
      refine ⟨.inr hlen, ?_⟩
      rw [hlen, show 256 ^ 16 = 2 ^ 128 from by norm_num] at hlt
      rw [toNat_as16_unmap, BitVec.toNat_ofNat, mod_eq_of_lt hlt, number, to16, if_neg hne,
        if_pos hlen]
    · cases ha

theorem exists_canon {ip : IP} (h : ip.length = 4 ∨ ip.length = 16) :
    ∃ addr, canon ip = some addr := by
  unfold canon addrFromSlice
  rcases h with h | h
  · simp [h]
  · simp [h]

/-! ## The two maps -/

theorem toNat_masked (x : BitVec 128) (n : Nat) :
    (x &&& (BitVec.allOnes 128 <<< n)).toNat = x.toNat / 2 ^ n * 2 ^ n := by
  have heq : x &&& (BitVec.allOnes 128 <<< n) = (x >>> n) <<< n := by
    ext i hi
    simp only [BitVec.getElem_and, BitVec.getElem_shiftLeft, BitVec.getElem_allOnes,
      BitVec.getElem_ushiftRight]
    by_cases h : i < n
    · simp [h]
    · simp only [h, decide_false, Bool.not_false, Bool.true_and, Bool.and_true]
      rw [show n + (i - n) = i by omega, BitVec.getLsbD_eq_getElem hi]
  rw [heq, BitVec.toNat_shiftLeft, BitVec.toNat_ushiftRight, shiftRight_eq_div_pow,
    shiftLeft_eq, mod_eq_of_lt]
  exact (div_mul_le_self _ _).trans_lt x.isLt

namespace PrefixAllocator
variable {S : Type}

/-- A pool that `NewPrefixAllocator` makes of an IPv6 network, whatever has been leased since. -/
structure Regular (a : PrefixAllocator S) : Prop where
  bits_le : a.networkBits ≤ a.prefixLength
  length_le : a.prefixLength ≤ 128
  few : a.prefixLength - a.networkBits ≤ 63
  count_eq : a.count = 2 ^ (a.prefixLength - a.networkBits)
  aligned : 2 ^ (128 - a.networkBits) ∣ (as16 a.base).toNat

variable (a : PrefixAllocator S)

def start : Nat := (as16 a.base).toNat

theorem start_lt : a.start < 2 ^ 128 := (as16 a.base).isLt

theorem regular_new {network : BitVec 128} {networkBits prefixLength : Nat}
    {a : PrefixAllocator S} (hlength : prefixLength ≤ 128)
    (h : newPrefixAllocator (.v6 network) networkBits prefixLength = some a) : a.Regular := by
  unfold newPrefixAllocator at h
  split at h
  · cases h
  · cases h
    have hle : networkBits ≤ prefixLength := by omega
    have hfew : prefixLength - networkBits ≤ 63 := by omega
    refine ⟨hle, hlength, hfew, rfl, ?_⟩
    show 2 ^ (128 - networkBits) ∣ (network &&& (BitVec.allOnes 128 <<< (128 - networkBits))).toNat
    rw [toNat_masked]
    exact dvd_mul_left _ _

namespace Regular
variable {a : PrefixAllocator S} (h : a.Regular)
include h

theorem shift_eq : a.shift = 128 - a.prefixLength := by
  have hlength := h.length_le
  unfold shift
  omega

theorem count_mul : a.count * 2 ^ a.shift = 2 ^ (128 - a.networkBits) := by
  have hbits := h.bits_le
  have hlength := h.length_le
  rw [h.count_eq, h.shift_eq, ← pow_add]
  congr 1
  omega

theorem count_lt : a.count < 2 ^ 64 := by
  have hfew := h.few
  rw [h.count_eq]
  exact Nat.pow_lt_pow_right (by omega) (by omega)

theorem mul_lt {k : Nat} (hk : k < a.count) : k * 2 ^ a.shift < 2 ^ (128 - a.networkBits) := by
  rw [← h.count_mul]
  exact Nat.mul_lt_mul_of_pos_right hk (Nat.two_pow_pos _)

theorem start_add_le : a.start + 2 ^ (128 - a.networkBits) ≤ 2 ^ 128 :=
  add_le_of_dvd h.aligned (pow_dvd_pow 2 (by omega)) a.start_lt

end Regular

theorem indexToIPNet_eq {a : PrefixAllocator S} (h : a.Regular) {k : Nat} (hk : k < a.count) :
    a.indexToIPNet k =
      { ip := putBe 16 (a.start + k * 2 ^ a.shift), ones := a.prefixLength, bits := 128 } := by
  have hword : (BitVec.ofNat 64 k).toNat = k := by
    rw [BitVec.toNat_ofNat, mod_eq_of_lt (hk.trans h.count_lt)]
  have hinside := h.mul_lt hk
  have hfits := h.start_add_le
  have hsum := join_add ((as16 a.base).extractLsb' 64 64) ((as16 a.base).extractLsb' 0 64)
    (if 64 ≤ a.shift then BitVec.ofNat 64 k <<< (a.shift - 64)
      else if a.shift = 0 then 0#64 else BitVec.ofNat 64 k >>> (64 - a.shift))
    (if 64 ≤ a.shift then 0#64 else if a.shift = 0 then BitVec.ofNat 64 k
      else BitVec.ofNat 64 k <<< a.shift)
  rw [join_extract, join_shiftLeft, hword, mod_eq_of_lt (by omega : k * 2 ^ a.shift < 2 ^ 128),
    show (as16 a.base).toNat = a.start from rfl, mod_eq_of_lt (by omega)] at hsum
  unfold indexToIPNet
  dsimp only
  rw [putBe_append 8 8 _ _ (BitVec.isLt _), ← hsum]
  rfl

variable (pfx : IPNet)

def behind : Nat := offset (2 ^ 128) a.start (number pfx.ip)

/-- A prefix of the delegated length, in one of the two forms of an address. -/
def Delegable : Prop :=
  pfx.bits = 128 ∧ pfx.ones = a.prefixLength ∧ (pfx.ip.length = 4 ∨ pfx.ip.length = 16)

theorem prefixToIndex_eq_some_iff (k : Nat) : a.prefixToIndex pfx = some k ↔
      a.Delegable pfx ∧ k = a.behind pfx / 2 ^ a.shift % 2 ^ 64 ∧ k < a.count := by
  unfold prefixToIndex Delegable
  split
  · refine iff_of_false (by simp) fun h => ?_
    omega
  · cases hc : canon pfx.ip with
    | none =>
      refine iff_of_false (by simp) fun h => ?_
      obtain ⟨addr, haddr⟩ := exists_canon h.1.2.2
      rw [hc] at haddr
      cases haddr
    | some addr =>
      obtain ⟨hlen, hnumber⟩ := canon_eq_some hc
      have hdiff := join_sub ((as16 addr).extractLsb' 64 64) ((as16 addr).extractLsb' 0 64)
        ((as16 a.base).extractLsb' 64 64) ((as16 a.base).extractLsb' 0 64)
      rw [join_extract, join_extract, hnumber] at hdiff
      dsimp only
      rw [toNat_shiftRight, hdiff]
      show (if a.count ≤ a.behind pfx / 2 ^ a.shift % 2 ^ 64 then none
        else some (a.behind pfx / 2 ^ a.shift % 2 ^ 64)) = some k ↔ _
      split
      · refine iff_of_false (by simp) fun h => ?_
        omega
      · rw [some_inj]
        omega

/-! ## The prefixes that are accepted -/

def Contains : Prop := (a.prefixToIndex pfx).isSome

def InNetwork : Prop :=
  number pfx.ip / 2 ^ (128 - a.networkBits) = a.start / 2 ^ (128 - a.networkBits)
deriving Decidable

def Aligned : Prop := 2 ^ a.shift ∣ number pfx.ip
deriving Decidable

/-- The bits that an index has no room for are those of the network. There are such bits
only if the delegated length is more than 64. -/
def SameTop : Prop :=
  number pfx.ip / 2 ^ (64 + a.shift) = a.start / 2 ^ (64 + a.shift)
deriving Decidable

def Member : Prop :=
  a.Delegable pfx ∧ a.Aligned pfx ∧ a.InNetwork pfx

namespace Regular
variable {a : PrefixAllocator S} {pfx : IPNet} {k : Nat} (h : a.Regular)
include h

theorem inNetwork_iff (pfx : IPNet) : a.InNetwork pfx ↔ a.behind pfx < 2 ^ (128 - a.networkBits) :=
  (offset_lt_iff (Nat.two_pow_pos _) (pow_dvd_pow 2 (by omega)) h.aligned a.start_lt
    (number_lt _)).symm

theorem index_of_inNetwork (hin : a.InNetwork pfx) :
    a.behind pfx / 2 ^ a.shift % 2 ^ 64 = a.behind pfx / 2 ^ a.shift ∧
      a.behind pfx / 2 ^ a.shift < a.count := by
  rw [h.inNetwork_iff, ← h.count_mul] at hin
  have hlt : a.behind pfx / 2 ^ a.shift < a.count :=
    (Nat.div_lt_iff_lt_mul (Nat.two_pow_pos _)).mpr hin
  exact ⟨Nat.mod_eq_of_lt (hlt.trans h.count_lt), hlt⟩

theorem contains_of_inNetwork (hp : a.Delegable pfx) (hin : a.InNetwork pfx) :
    a.prefixToIndex pfx = some (a.behind pfx / 2 ^ a.shift) := by
  obtain ⟨hmod, hlt⟩ := h.index_of_inNetwork hin
  exact (a.prefixToIndex_eq_some_iff pfx _).mpr ⟨hp, hmod.symm, hlt⟩

/-- A prefix that is accepted lies in the network if and only if the lost bits are those of
the network. -/
theorem sameTop_iff (hk : a.prefixToIndex pfx = some k) : a.SameTop pfx ↔ a.InNetwork pfx := by
  obtain ⟨-, hkeq, hlt⟩ := (a.prefixToIndex_eq_some_iff pfx k).mp hk
  have hnumber := number_lt pfx.ip
  have hstart := a.start_lt
  have hpos := Nat.two_pow_pos a.shift
  by_cases hshift : 64 ≤ a.shift
  · -- One word holds the whole index.
    have hle : (2 : Nat) ^ 128 ≤ 2 ^ (64 + a.shift) := Nat.pow_le_pow_right (by omega) (by omega)
    refine iff_of_true ?_ ?_
    · unfold SameTop
      rw [div_eq_of_lt (by omega), div_eq_of_lt (by omega)]
    · have hbehind : a.behind pfx < 2 ^ 128 := mod_lt _ (by norm_num)
      have hword : a.behind pfx / 2 ^ a.shift < 2 ^ 64 := by
        rw [Nat.div_lt_iff_lt_mul hpos, ← pow_add]
        omega
      rw [Nat.mod_eq_of_lt hword] at hkeq
      rw [h.inNetwork_iff, ← h.count_mul, ← Nat.div_lt_iff_lt_mul hpos, ← hkeq]
      exact hlt
  · have hcount := h.count_mul
    have hfew := h.few
    have hsmall : a.behind pfx % 2 ^ (64 + a.shift) < 2 ^ (128 - a.networkBits) := by
      rw [← hcount, ← Nat.div_lt_iff_lt_mul hpos, add_comm, pow_add, mod_mul_right_div_self, ← hkeq]
      exact hlt
    exact offset_mod_lt (Nat.two_pow_pos _) (pow_dvd_pow 2 (by have := h.shift_eq; omega))
      (pow_dvd_pow 2 (by omega)) h.aligned hstart hnumber (Nat.two_pow_pos _) hsmall

theorem contains_iff_member (pfx : IPNet) :
    (a.Contains pfx ↔ a.Member pfx) ↔ (a.Contains pfx → a.Aligned pfx ∧ a.SameTop pfx) := by
  have hmember : a.Member pfx → a.Contains pfx := by
    rintro ⟨hp, -, hin⟩
    unfold Contains
    rw [h.contains_of_inNetwork hp hin]
    rfl
  constructor
  · intro hiff hcontains
    obtain ⟨-, haligned, hin⟩ := hiff.mp hcontains
    obtain ⟨k, hk⟩ := isSome_iff_exists.mp hcontains
    exact ⟨haligned, (h.sameTop_iff hk).mpr hin⟩
  · intro hcareful
    refine ⟨fun hcontains => ?_, hmember⟩
    obtain ⟨haligned, htop⟩ := hcareful hcontains
    obtain ⟨k, hk⟩ := isSome_iff_exists.mp hcontains
    exact ⟨((a.prefixToIndex_eq_some_iff pfx k).mp hk).1, haligned, (h.sameTop_iff hk).mp htop⟩

theorem start_le (hin : a.InNetwork pfx) : a.start ≤ number pfx.ip := by
  have hstart : 2 ^ (128 - a.networkBits) * (a.start / 2 ^ (128 - a.networkBits)) = a.start :=
    Nat.mul_div_cancel' h.aligned
  rw [← hstart, ← hin]
  exact mul_div_le _ _

theorem behind_of_inNetwork (hin : a.InNetwork pfx) : a.behind pfx = number pfx.ip - a.start :=
  offset_of_le (number_lt _) (h.start_le hin)

theorem dvd_start : 2 ^ a.shift ∣ a.start :=
  (Dvd.intro_left a.count h.count_mul).trans h.aligned

theorem behind_indexToIPNet (hk : k < a.count) : a.behind (a.indexToIPNet k) = k * 2 ^ a.shift := by
  have hinside := h.mul_lt hk
  have hfits := h.start_add_le
  unfold behind
  rw [indexToIPNet_eq h hk, number_putBe (by omega), offset_of_le (by omega) (by omega)]
  omega

theorem inNetwork_indexToIPNet (hk : k < a.count) : a.InNetwork (a.indexToIPNet k) := by
  rw [h.inNetwork_iff, h.behind_indexToIPNet hk]
  exact h.mul_lt hk

theorem prefixToIndex_indexToIPNet (hk : k < a.count) :
    a.prefixToIndex (a.indexToIPNet k) = some k := by
  have hbehind := h.behind_indexToIPNet hk
  refine (a.prefixToIndex_eq_some_iff _ k).mpr ⟨?_, ?_, hk⟩
  · rw [indexToIPNet_eq h hk]
    exact ⟨rfl, rfl, .inr (length_putBe _ _)⟩
  · rw [hbehind, Nat.mul_div_cancel _ (Nat.two_pow_pos _), Nat.mod_eq_of_lt (hk.trans h.count_lt)]

theorem indexToIPNet_of_member (hp : a.Member pfx) : ∃ k < a.count, a.prefixToIndex pfx = some k ∧
      a.indexToIPNet k = { pfx with ip := to16 pfx.ip } := by
  obtain ⟨hdeleg, haligned, hin⟩ := hp
  obtain ⟨-, hlt⟩ := h.index_of_inNetwork hin
  refine ⟨_, hlt, h.contains_of_inNetwork hdeleg hin, ?_⟩
  have hbehind := h.behind_of_inNetwork hin
  have hle := h.start_le hin
  have hmul : a.behind pfx / 2 ^ a.shift * 2 ^ a.shift = a.behind pfx := by
    apply Nat.div_mul_cancel
    rw [hbehind]
    exact dvd_sub haligned h.dvd_start
  have hlen : (to16 pfx.ip).length = 16 := length_to16 hdeleg.2.2
  rw [indexToIPNet_eq h hlt, hmul, hbehind, Nat.add_sub_cancel' hle]
  have hbytes := putBe_beNat (to16 pfx.ip)
  rw [hlen] at hbytes
  show IPNet.mk (putBe 16 (beNat (to16 pfx.ip))) _ _ = _
  rw [hbytes, ← hdeleg.1, ← hdeleg.2.1]

theorem div_of_inNetwork (hk : a.prefixToIndex pfx = some k)
    (hin : a.InNetwork pfx) : number pfx.ip / 2 ^ a.shift = a.start / 2 ^ a.shift + k := by
  obtain ⟨-, hkeq, -⟩ := (a.prefixToIndex_eq_some_iff pfx k).mp hk
  rw [(h.index_of_inNetwork hin).1, h.behind_of_inNetwork hin] at hkeq
  have hle := h.start_le hin
  obtain ⟨c, hc⟩ := h.dvd_start
  have hpos := Nat.two_pow_pos a.shift
  rw [hkeq, show number pfx.ip = 2 ^ a.shift * c + (number pfx.ip - a.start) by omega, hc,
    Nat.mul_add_div hpos, Nat.mul_div_cancel_left _ hpos, Nat.add_sub_cancel_left]

end Regular
end PrefixAllocator

/-! ## Leased prefixes -/

def covered (pfx : IPNet) : Set Nat :=
  { x | x / 2 ^ (128 - pfx.ones) = number pfx.ip / 2 ^ (128 - pfx.ones) }

structure Delegation (S : Type) where
  pool : PrefixAllocator S
  held : Nat → Option IPNet

namespace Delegation
variable {S : Type} {d : Delegation S}

inductive Operation (S : Type) where
  | allocate (sessionID : S)
  | reserve (pfx : IPNet) (sessionID : S)
  | release (pfx : IPNet)

def record (d : Delegation S) (pool : PrefixAllocator S) (pfx : IPNet) (now : Option IPNet) :
    Delegation S where
  pool := pool
  held := match d.pool.prefixToIndex pfx with
    | none => d.held
    | some k => update d.held k now

def next [DecidableEq S] (d : Delegation S) : Operation S → Delegation S
  | .allocate sessionID =>
    (allocate d.pool sessionID).elim d fun (pfx, pool) => d.record pool pfx (some pfx)
  | .reserve pfx sessionID =>
    (reserve d.pool pfx sessionID).elim d fun pool => d.record pool pfx (some pfx)
  | .release pfx => d.record (release d.pool pfx) pfx none

def Initial (d : Delegation S) : Prop :=
  (∃ network networkBits prefixLength, prefixLength ≤ 128 ∧
    newPrefixAllocator (.v6 network) networkBits prefixLength = some d.pool) ∧
    d.held = fun _ => none

def machine (S : Type) [DecidableEq S] : Machine (Delegation S) (Operation S) :=
  .ofNext Initial fun d op => some (d.next op)

/-- The maps of the pool agree, and the history follows the leases. -/
structure Sound (d : Delegation S) : Prop where
  prefixToIndex_indexToIPNet :
    ∀ k < d.pool.count, d.pool.prefixToIndex (d.pool.indexToIPNet k) = some k
  indexToIPNet_prefixToIndex : ∀ pfx, d.pool.Member pfx →
    ∃ k < d.pool.count, d.pool.prefixToIndex pfx = some k ∧
      d.pool.indexToIPNet k = { pfx with ip := to16 pfx.ip }
  contains_iff : ∀ pfx, (d.pool.Contains pfx ↔ d.pool.Member pfx) ↔
    (d.pool.Contains pfx → d.pool.Aligned pfx ∧ d.pool.SameTop pfx)
  held_iff : ∀ k, (d.held k).isSome ↔ (d.pool.table.leases k).isSome

structure Apart (d : Delegation S) : Prop where
  inside : ∀ k, ∀ pfx ∈ d.held k, ∀ x ∈ covered pfx,
    x / 2 ^ (128 - d.pool.networkBits) = d.pool.start / 2 ^ (128 - d.pool.networkBits)
  disjoint : ∀ j k, j ≠ k → ∀ pfx ∈ d.held j, ∀ pfx' ∈ d.held k,
    Disjoint (covered pfx) (covered pfx')

/-- A session that reserves a prefix has to leave alone those that the pool takes for one of
its own. -/
def Careful (d : Delegation S) : Operation S → Prop
  | .reserve pfx sessionID => ∀ k ∈ d.pool.prefixToIndex pfx,
      d.pool.table.leases k = none ∨ d.pool.table.leases k = some sessionID → d.pool.SameTop pfx
  | _ => True

instance [DecidableEq S] (d : Delegation S) (op : Operation S) : Decidable (d.Careful op) := by
  rcases op <;> dsimp only [Careful] <;> infer_instance

structure Tracked (d : Delegation S) : Prop where
  regular : d.pool.Regular
  free_lt : ∀ k ∈ d.pool.table.free, k < d.pool.count
  held_iff : ∀ k, (d.held k).isSome ↔ (d.pool.table.leases k).isSome
  index_of_held : ∀ k, ∀ pfx ∈ d.held k, d.pool.prefixToIndex pfx = some k

namespace Tracked
variable {d : Delegation S} {now : Option IPNet} {d' : Delegation S} {op : Operation S}
  {pfx : IPNet}

theorem sound (h : d.Tracked) : d.Sound where
  prefixToIndex_indexToIPNet _ hk := h.regular.prefixToIndex_indexToIPNet hk
  indexToIPNet_prefixToIndex _ hp := h.regular.indexToIPNet_of_member hp
  contains_iff := h.regular.contains_iff_member
  held_iff := h.held_iff

theorem mem_covered (pfx : IPNet) : number pfx.ip ∈ covered pfx := rfl

/-- The leased prefixes are apart exactly when none of them differs in the bits that its
index has no room for. -/
theorem apart_iff (h : d.Tracked) : d.Apart ↔ ∀ k, ∀ pfx ∈ d.held k, d.pool.SameTop pfx := by
  have hreg := h.regular
  constructor
  · intro hapart k pfx hheld
    rw [hreg.sameTop_iff (h.index_of_held k pfx hheld)]
    exact hapart.inside k pfx hheld _ (mem_covered pfx)
  · intro htop
    have hin k : ∀ pfx ∈ d.held k, d.pool.InNetwork pfx := fun pfx hheld =>
      (hreg.sameTop_iff (h.index_of_held k pfx hheld)).mp (htop k pfx hheld)
    have hcovered k : ∀ pfx ∈ d.held k, ∀ x ∈ covered pfx,
        x / 2 ^ d.pool.shift = number pfx.ip / 2 ^ d.pool.shift := by
      intro pfx hheld x hx
      obtain ⟨⟨-, hones, -⟩, -⟩ :=
        (d.pool.prefixToIndex_eq_some_iff pfx k).mp (h.index_of_held k pfx hheld)
      rw [hreg.shift_eq, ← hones]
      exact hx
    refine ⟨fun k pfx hheld x hx => ?_, fun j k hjk pfx hj pfx' hk => ?_⟩
    · rw [← hin k pfx hheld, ← hreg.count_mul, Nat.mul_comm, ← Nat.div_div_eq_div_mul,
        hcovered k pfx hheld x hx, Nat.div_div_eq_div_mul]
    · rw [Set.disjoint_left]
      intro x hx hx'
      have hsame := (hcovered j pfx hj x hx).symm.trans (hcovered k pfx' hk x hx')
      rw [hreg.div_of_inNetwork (h.index_of_held j pfx hj) (hin j pfx hj),
        hreg.div_of_inNetwork (h.index_of_held k pfx' hk) (hin k pfx' hk)] at hsame
      omega

theorem held_record {pool : PrefixAllocator S} {k : Nat} (hk : d.pool.prefixToIndex pfx = some k) :
    (d.record pool pfx now).held = update d.held k now := by
  unfold Delegation.record
  rw [hk]

/-- What an operation does: nothing, and then it is harmless, or it turns one index over. -/
inductive Outcome (d : Delegation S) (op : Operation S) : Delegation S → Prop
  | stays (hcareful : d.Careful op) : Outcome d op d
  | turns (t : LeaseTable Nat S) (pfx : IPNet) (k : Nat) (now : Option IPNet)
      (hk : d.pool.prefixToIndex pfx = some k) (hnow : ∀ p ∈ now, p = pfx)
      (hleases : ∀ j, (t.leases j).isSome ↔ (update d.held k now j).isSome)
      (hfree : ∀ j ∈ t.free, j < d.pool.count)
      (hcareful : (∀ p ∈ now, d.pool.SameTop p) ↔ d.Careful op) :
      Outcome d op (d.record { d.pool with table := t } pfx now)

theorem Outcome.tracked (h : d.Tracked) (hd' : Outcome d op d') : d'.Tracked := by
  cases hd' with
  | stays => exact h
  | turns t pfx k now hk hnow hleases hfree =>
    have hreg := h.regular
    refine ⟨⟨hreg.bits_le, hreg.length_le, hreg.few, hreg.count_eq, hreg.aligned⟩, hfree, ?_, ?_⟩
    · intro j
      rw [held_record hk]
      exact (hleases j).symm
    · intro j p hp
      rw [held_record hk] at hp
      rcases update_cases hp with ⟨hj, hp⟩ | ⟨-, hp⟩
      · rw [hj, hnow p hp]
        exact hk
      · exact h.index_of_held j p hp

theorem Outcome.apart_iff (h : d.Tracked) (hapart : d.Apart)
    (hd' : Outcome d op d') : d'.Apart ↔ d.Careful op := by
  have hnext := hd'.tracked h
  cases hd' with
  | stays hcareful => exact iff_of_true hapart hcareful
  | turns t pfx k now hk hnow hleases hfree hcareful =>
    rw [hnext.apart_iff, held_record hk, ← hcareful]
    rw [h.apart_iff] at hapart
    constructor
    · intro hall p hp
      refine hall k p ?_
      rw [update_self]
      exact hp
    · intro htop j p hp
      rcases update_cases hp with ⟨-, hp⟩ | ⟨-, hp⟩
      · exact htop p hp
      · exact hapart j p hp

theorem leases_update (h : d.Tracked) {k : Nat} {owner : Option S}
    (hnow : owner.isSome ↔ now.isSome) (j : Nat) :
    (update d.pool.table.leases k owner j).isSome ↔ (update d.held k now j).isSome := by
  by_cases hj : j = k
  · rw [hj, update_self, update_self]
    exact hnow
  · rw [update_of_ne hj, update_of_ne hj]
    exact (h.held_iff j).symm

theorem record_of_none (hk : d.pool.prefixToIndex pfx = none) : d.record d.pool pfx now = d := by
  unfold Delegation.record
  rw [hk]

variable [DecidableEq S] (h : d.Tracked)
include h

theorem outcome_allocate (sessionID : S) :
    Outcome d (.allocate sessionID) (d.next (.allocate sessionID)) := by
  show Outcome d _ (((d.pool.table.allocate sessionID).map _).elim d _)
  cases ht : d.pool.table.allocate sessionID with
  | none => exact .stays trivial
  | some kt =>
    obtain ⟨k, t⟩ := kt
    obtain ⟨hmem, -, hleases, hdrop⟩ := LeaseTable.allocate_eq_some ht
    have hcount := h.free_lt k hmem
    have hk := h.regular.prefixToIndex_indexToIPNet hcount
    refine .turns t (d.pool.indexToIPNet k) k (some (d.pool.indexToIPNet k)) hk
      (fun p hp => (some_inj.mp hp).symm) (fun j => ?_) (fun j hj => ?_) ?_
    · rw [hleases]
      exact h.leases_update (iff_of_true rfl rfl) j
    · rw [hdrop] at hj
      exact h.free_lt j (dropLast_subset _ hj)
    · refine iff_of_true (fun p hp => ?_) trivial
      cases hp
      exact (h.regular.sameTop_iff hk).mpr (h.regular.inNetwork_indexToIPNet hcount)

theorem outcome_reserve (pfx : IPNet) (sessionID : S) :
    Outcome d (.reserve pfx sessionID) (d.next (.reserve pfx sessionID)) := by
  show Outcome d _ ((reserve d.pool pfx sessionID).elim d _)
  unfold reserve
  cases hkey : keyOf d.pool pfx with
  | none =>
    have hk : d.pool.prefixToIndex pfx = none := hkey
    show Outcome d _ (d.record d.pool pfx (some pfx))
    rw [record_of_none hk]
    exact .stays (by simp [Careful, hk])
  | some k =>
    have hk : d.pool.prefixToIndex pfx = some k := hkey
    show Outcome d _ (((d.pool.table.reserve k sessionID).map _).elim d _)
    cases ht : d.pool.table.reserve k sessionID with
    | none =>
      obtain ⟨other, hother, hne⟩ := (LeaseTable.reserve_eq_none_iff _ _ _).mp ht
      refine .stays fun k' hk' hfree => ?_
      rw [hk] at hk'
      cases hk'
      rw [hother] at hfree
      simp [hne] at hfree
    | some t =>
      obtain ⟨howner, hleases, hsub⟩ := LeaseTable.reserve_eq_some ht
      refine .turns t pfx k (some pfx) hk (fun p hp => (some_inj.mp hp).symm)
        (fun j => ?_) (fun j hj => h.free_lt j (hsub hj)) ?_
      · rw [hleases]
        exact h.leases_update (iff_of_true rfl rfl) j
      · show (∀ p ∈ some pfx, d.pool.SameTop p) ↔ ∀ k' ∈ d.pool.prefixToIndex pfx, _ → _
        rw [hk]
        simp only [mem_some_iff, forall_eq']
        exact ⟨fun htop _ => htop, fun hall => hall howner⟩

theorem outcome_release (pfx : IPNet) : Outcome d (.release pfx) (d.next (.release pfx)) := by
  show Outcome d _ (d.record (release d.pool pfx) pfx none)
  unfold release
  cases hkey : keyOf d.pool pfx with
  | none =>
    have hk : d.pool.prefixToIndex pfx = none := hkey
    rw [record_of_none hk]
    exact .stays trivial
  | some k =>
    have hk : d.pool.prefixToIndex pfx = some k := hkey
    refine .turns (d.pool.table.release k) pfx k none hk (by simp) (fun j => ?_)
      (fun j hj => ?_) (by simp [Careful])
    · rw [LeaseTable.leases_release]
      exact h.leases_update (by simp) j
    · rcases LeaseTable.mem_free_release hj with hj | ⟨rfl, -⟩
      · exact h.free_lt j hj
      · exact ((d.pool.prefixToIndex_eq_some_iff pfx j).mp hk).2.2

theorem outcome_next (op : Operation S) : Outcome d op (d.next op) := by
  cases op with
  | allocate sessionID => exact h.outcome_allocate sessionID
  | reserve pfx sessionID => exact h.outcome_reserve pfx sessionID
  | release pfx => exact h.outcome_release pfx

end Tracked

theorem tracked_of_initial (h : d.Initial) : d.Tracked := by
  obtain ⟨⟨network, networkBits, prefixLength, hlength, hnew⟩, hheld⟩ := h
  have hnone := PrefixAllocator.IsNew.leases_eq_none ⟨_, _, _, hnew⟩
  refine ⟨PrefixAllocator.regular_new hlength hnew, fun k hk => ?_, fun k => ?_, fun k p hp => ?_⟩
  · unfold newPrefixAllocator at hnew
    split at hnew
    · cases hnew
    · rw [← some_inj.mp hnew] at hk ⊢
      simpa [LeaseTable.ofFree] using hk
  · rw [hheld, hnone]
    exact Iff.rfl
  · rw [hheld] at hp
    cases hp

theorem apart_of_initial (h : d.Initial) : d.Apart := by
  rw [(tracked_of_initial h).apart_iff, h.2]
  intro k p hp
  cases hp

/-- After any careful operations the maps of the pool agree and the leased prefixes are apart;
the next operation keeps them apart if and only if it is careful as well. -/
theorem apart_of_careful [DecidableEq S] {d : Delegation S} (h : (machine S).Reach Careful d) :
    d.Sound ∧ d.Apart ∧ ∀ op, (d.next op).Apart ↔ d.Careful op := by
  have hboth : d.Tracked ∧ d.Apart := by
    refine h.invariant (fun d => d.Tracked ∧ d.Apart)
      (fun s hs => ⟨tracked_of_initial hs, apart_of_initial hs⟩) ?_
    rintro s op s' ⟨htracked, hapart⟩ hop hstep
    cases hstep
    have hnext := htracked.outcome_next op
    exact ⟨hnext.tracked htracked, (hnext.apart_iff htracked hapart).mpr hop⟩
  obtain ⟨htracked, hapart⟩ := hboth
  exact ⟨htracked.sound, hapart, fun op => (htracked.outcome_next op).apart_iff htracked hapart⟩

/-! ## Runs -/

def twoPrefixes : Delegation String where
  pool :=
    { base := .v6 0x20010db8000000000000000000000000#128
      networkBits := 79
      prefixLength := 80
      count := 2
      table := .ofFree [1, 0] (by decide) }
  held := fun _ => none

theorem initial_twoPrefixes : twoPrefixes.Initial :=
  ⟨⟨0x20010db8000000000000000000000000#128, 79, 80, by decide, rfl⟩, rfl⟩

def prefix80 (hi lo : Nat) : IPNet := { ip := putBe 8 hi ++ putBe 8 lo, ones := 80, bits := 128 }

/-- One prefix is allocated, the other is reserved by its name. -/
theorem apart_of_careful_twoPrefixes :
    ∃ d, (machine String).Reach Careful d ∧
      d.held 0 = some (prefix80 0x20010db800000000 0) ∧
      d.held 1 = some (prefix80 0x20010db800000000 0x1000000000000) ∧
      d.Sound ∧ d.Apart ∧ ∀ op, (d.next op).Apart ↔ d.Careful op := by
  obtain ⟨d, hreach, hfirst, hsecond⟩ : ∃ d, (machine String).Reach Careful d ∧
      d.held 0 = some (prefix80 0x20010db800000000 0) ∧
      d.held 1 = some (prefix80 0x20010db800000000 0x1000000000000) :=
    exists_reach_of_run initial_twoPrefixes
      [.allocate "a", .reserve (prefix80 0x20010db800000000 0x1000000000000) "b"]
      (by decide +kernel)
  exact ⟨d, hreach, hfirst, hsecond, apart_of_careful hreach⟩

/-- A session reserves 2002:db8::/80, which is not in the network. The pool takes it for its
first prefix, so that a session that asks for that one is refused. The address 2001:db8::1
with the same mask is accepted too, though it is not aligned. -/
theorem foreign :
    ∃ d, run (fun d op => some (next d op)) (fun _ _ => True) twoPrefixes
        [.reserve (prefix80 0x20020db800000000 0) "a"] = some d ∧
      (machine String).Reach (fun _ _ => True) d ∧
      d.held 0 = some (prefix80 0x20020db800000000 0) ∧ ¬ d.Apart ∧
      reserve d.pool (prefix80 0x20010db800000000 0) "b" = none ∧
      [prefix80 0x20020db800000000 0, prefix80 0x20010db800000000 1].Forall fun pfx =>
        d.pool.Contains pfx ∧ ¬ d.pool.Member pfx := by
  refine exists_run initial_twoPrefixes (fun d =>
    d.held 0 = some (prefix80 0x20020db800000000 0) ∧
      (reserve d.pool (prefix80 0x20010db800000000 0) "b").isNone ∧
      ¬ d.pool.InNetwork (prefix80 0x20020db800000000 0) ∧
      (d.pool.prefixToIndex (prefix80 0x20020db800000000 0)).isSome ∧
      ¬ d.pool.Aligned (prefix80 0x20010db800000000 1) ∧
      (d.pool.prefixToIndex (prefix80 0x20010db800000000 1)).isSome) (by decide +kernel) ?_
  rintro d hreach ⟨hheld, hrefused, hout, hforeign, hbits, hunaligned⟩
  refine ⟨hreach, hheld, fun hapart => hout ?_, isNone_iff_eq_none.mp hrefused, ?_⟩
  · exact hapart.inside 0 _ hheld _ (Tracked.mem_covered _)
  · rw [forall_cons, forall_cons]
    exact ⟨⟨hforeign, fun hmember => hout hmember.2.2⟩,
      ⟨hunaligned, fun hmember => hbits hmember.2.1⟩, trivial⟩

end Delegation
end Osvbng.Allocator
