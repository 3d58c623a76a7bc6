import Mathlib.Data.List.Induction
import Mathlib.Data.Nat.Digits.Defs
import Osvbng.Lib.Slice

/-!
# IP addresses

Two representations of an address. `IP` is a byte string: empty for "no
address", four bytes for IPv4 and sixteen for IPv6, where an IPv4 address may
also stand in its sixteen-byte mapped form. `Addr` is a value type with one
representation per family that can be ordered, stepped and used as a key.

`canon` sends a byte string to its value, with the mapped form removed, and
`canon_asSlice` says that it inverts `Addr.asSlice`.
-/

namespace Osvbng.Lib.NetIP
variable {a stop : Addr} {ip : IP} {fuel : Nat} {l : List Addr}
open Option List Lib.Slice Nat Bool

abbrev IP := Bytes

def v4InV6Prefix : Bytes := [0, 0, 0, 0, 0, 0, 0, 0, 0, 0, 255, 255]

def ipv4zero : IP := v4InV6Prefix ++ [0, 0, 0, 0]

def ipv6unspecified : IP := replicate 16 0

variable (ip)

/-- The four-byte form, or no address if the value is not IPv4. -/
def to4 : IP :=
  if ip.length = 4 then ip
  else if ip.length = 16 ∧ ip.take 12 = v4InV6Prefix then ip.drop 12
  else []

def to16 : IP :=
  if ip.length = 4 then v4InV6Prefix ++ ip
  else if ip.length = 16 then ip
  else []

/-- Equality of addresses: an IPv4 address equals its mapped form. -/
def equal (ip x : IP) : Bool :=
  if ip.length = x.length then ip = x
  else if ip.length = 4 ∧ x.length = 16 then x.take 12 = v4InV6Prefix ∧ ip = x.drop 12
  else if ip.length = 16 ∧ x.length = 4 then ip.take 12 = v4InV6Prefix ∧ ip.drop 12 = x
  else false

def isUnspecified : Bool := equal ip ipv4zero || equal ip ipv6unspecified

/-- An address as a value. `invalid` is the family of the zero value. -/
inductive Addr where
  | invalid (n : BitVec 128)
  | v4 (a : BitVec 32)
  | v6 (a : BitVec 128)
deriving DecidableEq, Repr

namespace Addr

instance : Inhabited Addr := ⟨invalid 0⟩

def bitLen : Addr → Nat
  | invalid _ => 0
  | v4 _ => 32
  | v6 _ => 128

def value : Addr → Nat
  | invalid n => n.toNat
  | v4 a => a.toNat
  | v6 a => a.toNat

/-- `a.Compare(b) <= 0`: shorter families first, then by value. -/
def le (a b : Addr) : Bool :=
  a.bitLen < b.bitLen || (a.bitLen = b.bitLen && a.value ≤ b.value)

/-- The address after `a`; the last address of a family is followed by the
zero value. -/
def next : Addr → Addr
  | invalid n => invalid (n + 1#128)
  | v4 a => if a + 1#32 = 0#32 then invalid 0#128 else v4 (a + 1#32)
  | v6 a => if a + 1#128 = 0#128 then invalid 0#128 else v6 (a + 1#128)

/-- Removes the mapped form of an IPv4 address. -/
def unmap : Addr → Addr
  | v6 a => if a >>> 32 = 0xffff#128 then v4 (a.truncate 32) else v6 a
  | a => a

def asSlice : Addr → IP
  | invalid _ => []
  | v4 a => putBe 4 a.toNat
  | v6 a => putBe 16 a.toNat

end Addr

def addrFromSlice : Option Addr :=
  if ip.length = 4 then some (.v4 (.ofNat 32 (beNat ip)))
  else if ip.length = 16 then some (.v6 (.ofNat 128 (beNat ip)))
  else none

/-- The key under which a byte string is stored. -/
def canon : Option Addr := (addrFromSlice ip).map .unmap

/-! ## Encoding and decoding -/

variable (b : Bytes)

theorem beNat_append_singleton (x : UInt8) : beNat (b ++ [x]) = beNat b * 256 + x.toNat := by
  simp [beNat]

theorem beNat_putBe (n v : Nat) : beNat (putBe n v) = v % 256 ^ n := by
  induction n generalizing v with
  | zero => simp [putBe, beNat, mod_one]
  | succ n ih =>
    rw [putBe, beNat_append_singleton, ih, UInt8.toNat_ofNat']
    have hsplit : v % 256 ^ (n + 1) = v % 256 + 256 * (v / 256 % 256 ^ n) := by
      rw [pow_succ', mod_mul]
    omega

theorem putBe_append (m n x y : Nat) (h : y < 256 ^ n) :
    putBe m x ++ putBe n y = putBe (m + n) (x * 256 ^ n + y) := by
  induction n generalizing y with
  | zero =>
    have hy : y = 0 := by simpa using h
    simp [putBe, hy]
  | succ n ih =>
    have hrest : y / 256 < 256 ^ n := by
      omega
    have hdiv : (x * 256 ^ (n + 1) + y) / 256 = x * 256 ^ n + y / 256 := by
      rw [pow_succ, ← mul_assoc]
      omega
    have hlast : UInt8.ofNat (x * 256 ^ (n + 1) + y) = UInt8.ofNat y := by
      apply UInt8.toNat_inj.mp
      rw [UInt8.toNat_ofNat', UInt8.toNat_ofNat', pow_succ, ← mul_assoc]
      omega
    rw [← add_assoc, putBe, putBe, hdiv, hlast, ← ih _ hrest, append_assoc]

/-- Addresses that a pool hands out: of a real family, not mapped. -/
def Addr.Plain : Addr → Prop
  | .invalid _ => False
  | .v4 _ => True
  | .v6 a => a >>> 32 ≠ 0xffff#128

theorem Addr.unmap_of_plain (h : a.Plain) : a.unmap = a := by
  cases a with
  | invalid | v4 => rfl
  | v6 a => exact if_neg h

theorem addrFromSlice_asSlice (h : ∀ n, a ≠ .invalid n) : addrFromSlice a.asSlice = some a := by
  cases a with
  | invalid n => exact absurd rfl (h n)
  | v4 a =>
    have hval : beNat (putBe 4 a.toNat) = a.toNat := by
      rw [beNat_putBe]
      exact mod_eq_of_lt a.isLt
    simp [addrFromSlice, Addr.asSlice, hval]
  | v6 a =>
    have hval : beNat (putBe 16 a.toNat) = a.toNat := by
      rw [beNat_putBe]
      exact mod_eq_of_lt a.isLt
    simp [addrFromSlice, Addr.asSlice, hval]

theorem canon_asSlice (h : a.Plain) : canon a.asSlice = some a := by
  have hreal : ∀ n, a ≠ .invalid n := by
    rintro n rfl
    exact h
  rw [canon, addrFromSlice_asSlice hreal, map_some, Addr.unmap_of_plain h]

theorem beNat_append (b c : Bytes) : beNat (b ++ c) = beNat b * 256 ^ c.length + beNat c := by
  induction c using reverseRecOn with
  | nil => simp [beNat]
  | append_singleton c x ih =>
    rw [← append_assoc, beNat_append_singleton, beNat_append_singleton, ih,
      length_append, length_singleton, pow_succ]
    ring

theorem beNat_lt : beNat b < 256 ^ b.length := by
  induction b using reverseRecOn with
  | nil => simp [beNat]
  | append_singleton b x ih =>
    rw [beNat_append_singleton, length_append, length_singleton, pow_succ]
    have hx := x.toNat_lt
    omega

theorem putBe_beNat : putBe b.length (beNat b) = b := by
  induction b using reverseRecOn with
  | nil => rfl
  | append_singleton b x ih =>
    have hx := x.toNat_lt
    have hdiv : (beNat b * 256 + x.toNat) / 256 = beNat b := by omega
    have hlast : UInt8.ofNat (beNat b * 256 + x.toNat) = x := by
      apply UInt8.toNat_inj.mp
      rw [UInt8.toNat_ofNat']
      omega
    rw [length_append, length_singleton, putBe, beNat_append_singleton, hdiv, hlast, ih]

variable {ip}

theorem canon_mapped (h : ip.length = 4) : canon (v4InV6Prefix ++ ip) = canon ip := by
  have hlt := beNat_lt ip
  have happ := beNat_append v4InV6Prefix ip
  rw [h] at hlt happ
  have hmapped : beNat v4InV6Prefix = 0xffff := by decide
  have hlen : (v4InV6Prefix ++ ip).length = 16 := by simp [v4InV6Prefix, h]
  have hshift : BitVec.ofNat 128 (beNat (v4InV6Prefix ++ ip)) >>> 32 = 0xffff#128 := by
    apply BitVec.eq_of_toNat_eq
    simp only [BitVec.toNat_ushiftRight, BitVec.toNat_ofNat, shiftRight_eq_div_pow]
    omega
  have htrunc : (BitVec.ofNat 128 (beNat (v4InV6Prefix ++ ip))).truncate 32 =
      BitVec.ofNat 32 (beNat ip) := by
    apply BitVec.eq_of_toNat_eq
    simp only [BitVec.truncate_eq_setWidth, BitVec.toNat_setWidth, BitVec.toNat_ofNat]
    omega
  unfold canon addrFromSlice
  rw [if_neg (by omega), if_pos hlen, if_pos h]
  simp only [map_some, Addr.unmap, if_pos hshift, htrunc]

theorem eq_mapped_of_take (h : ip.take 12 = v4InV6Prefix) : ip = v4InV6Prefix ++ ip.drop 12 := by
  rw [← h, take_append_drop]

theorem canon_eq_of_equal {x y : IP} (h : equal x y = true) : canon x = canon y := by
  unfold equal at h
  split at h
  · rw [of_decide_eq_true h]
  split at h
  · rename_i hlen
    simp only [decide_and, and_eq_true, decide_eq_true_eq] at h
    rw [eq_mapped_of_take h.1, ← h.2, canon_mapped hlen.1]
  split at h
  · rename_i hlen
    simp only [decide_and, and_eq_true, decide_eq_true_eq] at h
    rw [eq_mapped_of_take h.1, h.2, canon_mapped hlen.2]
  · cases h

theorem canon_to4 (h : to4 ip ≠ []) : canon (to4 ip) = canon ip := by
  unfold to4 at h ⊢
  split
  · rfl
  · rename_i hlen
    split
    · rename_i hmapped
      nth_rewrite 2 [eq_mapped_of_take hmapped.2]
      rw [canon_mapped]
      simp [hmapped.1]
    · rename_i hnot
      simp [hlen, hnot] at h

/-! ## Ranges -/

/-- The addresses from `a` to `stop` in steps of `next`; `none` if the walk
takes more than `fuel` steps. -/
def Addr.range : (fuel : Nat) → (a stop : Addr) → Option (List Addr)
  | 0, _, _ => none
  | fuel + 1, a, stop =>
    if a.le stop then (Addr.range fuel a.next stop).map (a :: ·) else some []

def unmapped (ip : IP) : IP :=
  if ip.length = 16 ∧ ip.take 12 = v4InV6Prefix then ip.drop 12 else ip

theorem unmapped_of_length_ne (h : ip.length ≠ 16) : unmapped ip = ip :=
  if_neg fun hmapped => h hmapped.1

theorem length_unmapped (ip : IP) :
    (unmapped ip).length = if ip.length = 16 ∧ ip.take 12 = v4InV6Prefix then 4 else ip.length := by
  unfold unmapped
  split
  · rename_i h
    rw [length_drop, h.1]
  · rfl

theorem equal_iff_unmapped {x : IP} : equal ip x = true ↔ unmapped ip = unmapped x := by
  unfold equal
  split
  · rw [decide_eq_true_iff]
    refine ⟨fun h => by rw [h], fun h => ?_⟩
    unfold unmapped at h
    split at h <;> split at h
    · rename_i hip hx
      rw [← take_append_drop 12 ip, ← take_append_drop 12 x, hip.2, hx.2, h]
    · have hcut := congrArg length h
      rw [length_drop] at hcut
      omega
    · have hcut := congrArg length h
      rw [length_drop] at hcut
      omega
    · exact h
  · rename_i hlen
    have hlip := length_unmapped ip
    have hlx := length_unmapped x
    split
    · rename_i h4
      rw [decide_eq_true_iff, unmapped_of_length_ne (by omega)]
      unfold unmapped
      refine ⟨fun h => by rw [if_pos ⟨h4.2, h.1⟩]; exact h.2, fun h => ?_⟩
      split at h
      · rename_i hx
        exact ⟨hx.2, h⟩
      · exact absurd (congrArg length h) hlen
    · split
      · rename_i h16
        have hx : unmapped x = x := unmapped_of_length_ne (by omega)
        rw [decide_eq_true_iff, hx]
        unfold unmapped
        refine ⟨fun h => by rw [if_pos ⟨h16.1, h.1⟩]; exact h.2, fun h => ?_⟩
        split at h
        · rename_i hip
          exact ⟨hip.2, h⟩
        · exact absurd (congrArg length h) hlen
      · refine ⟨nofun, fun h => ?_⟩
        have hcut := congrArg length h
        rw [hlip, hlx] at hcut
        split at hcut <;> split at hcut <;> omega

theorem unmapped_to4 (h : to4 ip ≠ []) : unmapped (to4 ip) = unmapped ip ∧ (to4 ip).length = 4 := by
  unfold to4 at h ⊢
  split
  · rename_i hlen
    exact ⟨rfl, hlen⟩
  · rename_i hlen
    split
    · rename_i hmapped
      have hdrop : (ip.drop 12).length = 4 := by
        rw [length_drop, hmapped.1]
      refine ⟨?_, hdrop⟩
      rw [unmapped_of_length_ne (by omega)]
      unfold unmapped
      rw [if_pos hmapped]
    · rename_i hmapped
      rw [if_neg hlen, if_neg hmapped] at h
      exact absurd rfl h

/-- A network: its address, and the size of its mask as ones and bits. -/
structure IPNet where
  ip : IP
  ones : Nat
  bits : Nat
deriving DecidableEq

/-- Membership in a network, by the bits of its mask. The mask of a mapped
network counts the bits before the IPv4 address. -/
def IPNet.contains (n : IPNet) (ip : IP) : Bool :=
  let ip := unmapped ip
  let nn := unmapped n.ip
  let ones := if nn.length = 4 ∧ n.bits = 128 then n.ones - 96 else n.ones
  ip.length = nn.length && 8 * nn.length ≤ n.bits &&
    beNat ip / 2 ^ (8 * nn.length - ones) = beNat nn / 2 ^ (8 * nn.length - ones)

theorem Addr.le_iff (a b : Addr) :
    a.le b = true ↔ a.bitLen < b.bitLen ∨ (a.bitLen = b.bitLen ∧ a.value ≤ b.value) := by
  simp [Addr.le]

theorem Addr.range_invalid (hstop : ∀ n, (Addr.invalid n).le stop)
    (fuel : Nat) (n : BitVec 128) : Addr.range fuel (.invalid n) stop = none := by
  induction fuel generalizing n with
  | zero => rfl
  | succ fuel ih => simp [Addr.range, hstop, Addr.next, ih]

theorem toNat_add_one_of_ne {w : Nat} {n : BitVec w} (h : n + 1#w ≠ 0#w) :
    (n + 1#w).toNat = n.toNat + 1 := by
  have hne : n.toNat + 1 ≠ 2 ^ w := by
    intro heq
    apply h
    apply BitVec.eq_of_toNat_eq
    simp [heq]
  rw [BitVec.toNat_add, BitVec.toNat_ofNat, add_mod_mod, mod_eq_of_lt (by omega)]

theorem Addr.next_cases (a : Addr) :
    (a.next = .invalid 0#128 ∧ ∀ b : Addr, a.le b → ∀ n, (Addr.invalid n).le b) ∨
      (a.next.bitLen = a.bitLen ∧ a.next.value = a.value + 1) := by
  cases a with
  | invalid n =>
    by_cases hlast : n + 1#128 = 0#128
    · refine .inl ⟨by simp [Addr.next, hlast], fun b hb m => ?_⟩
      have hmax : (n + 1#128).toNat = 0 := by simp [hlast]
      rw [Addr.le_iff] at hb ⊢
      simp only [Addr.bitLen, Addr.value, BitVec.toNat_add, BitVec.toNat_ofNat] at hb hmax ⊢
      omega
    · exact .inr ⟨rfl, toNat_add_one_of_ne hlast⟩
  | v4 n =>
    by_cases hlast : n + 1#32 = 0#32
    · refine .inl ⟨by simp [Addr.next, hlast], fun b hb m => ?_⟩
      rw [Addr.le_iff] at hb ⊢
      simp only [Addr.bitLen] at hb ⊢
      omega
    · rw [show (Addr.v4 n).next = .v4 (n + 1#32) from if_neg hlast]
      exact .inr ⟨rfl, toNat_add_one_of_ne hlast⟩
  | v6 n =>
    by_cases hlast : n + 1#128 = 0#128
    · refine .inl ⟨by simp [Addr.next, hlast], fun b hb m => ?_⟩
      rw [Addr.le_iff] at hb ⊢
      simp only [Addr.bitLen] at hb ⊢
      omega
    · rw [show (Addr.v6 n).next = .v6 (n + 1#128) from if_neg hlast]
      exact .inr ⟨rfl, toNat_add_one_of_ne hlast⟩

/-- The list of a walk that has ended: it stays in the family in which it starts. -/
inductive Addr.Walk (stop : Addr) : Addr → List Addr → Prop where
  | nil {a : Addr} (hle : ¬ a.le stop) : Walk stop a []
  | cons {a : Addr} {l : List Addr} (hle : a.le stop) (hbits : a.next.bitLen = a.bitLen)
      (hvalue : a.next.value = a.value + 1) (h : Walk stop a.next l) : Walk stop a (a :: l)

theorem Addr.walk_of_range (h : Addr.range fuel a stop = some l) : Addr.Walk stop a l := by
  induction fuel generalizing a l with
  | zero => cases h
  | succ fuel ih =>
    unfold Addr.range at h
    split at h
    · rename_i hle
      obtain ⟨rest, hrest, rfl⟩ := map_eq_some_iff.mp h
      rcases a.next_cases with ⟨hnext, hout⟩ | ⟨hbits, hvalue⟩
      · rw [hnext, Addr.range_invalid (hout stop hle)] at hrest
        cases hrest
      · exact .cons hle hbits hvalue (ih hrest)
    · rename_i hle
      cases h
      exact .nil hle

theorem Addr.Walk.of_mem {x : Addr} (h : Addr.Walk stop a l) (hx : x ∈ l) :
    x.bitLen = a.bitLen ∧ a.value ≤ x.value ∧ x.next.value = x.value + 1 := by
  induction h with
  | nil => cases hx
  | cons _ hbits hvalue _ ih =>
    rcases mem_cons.mp hx with rfl | hx
    · exact ⟨rfl, le_refl _, hvalue⟩
    · obtain ⟨h1, h2, h3⟩ := ih hx
      exact ⟨h1.trans hbits, by omega, h3⟩

theorem Addr.nodup_range (h : Addr.range fuel a stop = some l) : l.Nodup := by
  have hw := Addr.walk_of_range h
  clear h
  induction hw with
  | nil => exact nodup_nil
  | cons _ _ hvalue hw ih =>
    refine nodup_cons.mpr ⟨fun hmem => ?_, ih⟩
    have := (hw.of_mem hmem).2.1
    omega

theorem Addr.ext_value {b : Addr} (hbits : a.bitLen = b.bitLen) (hvalue : a.value = b.value) :
    a = b := by
  cases a <;> cases b <;> simp_all [Addr.bitLen, Addr.value, BitVec.toNat_inj]

/-- A walk that ends lists exactly the addresses between its bounds. -/
theorem Addr.mem_range_iff
    (h : Addr.range fuel a stop = some l) (x : Addr) : x ∈ l ↔ a.le x ∧ x.le stop := by
  have hw := Addr.walk_of_range h
  clear h
  induction hw with
  | nil hle =>
    refine ⟨nofun, fun ⟨hx, hstop⟩ => absurd ?_ hle⟩
    rw [Addr.le_iff] at hx hstop ⊢
    omega
  | @cons a l hle hbits hvalue _ ih =>
    have hfirst : a.le x ↔ x = a ∨ a.next.le x := by
      rw [Addr.le_iff, Addr.le_iff, hbits, hvalue]
      constructor
      · rintro (hlt | ⟨heq, hval⟩)
        · exact .inr (.inl hlt)
        · by_cases hsame : a.value = x.value
          · exact .inl (Addr.ext_value heq.symm hsame.symm)
          · exact .inr (.inr ⟨heq, by omega⟩)
      · rintro (rfl | hlt | ⟨heq, hval⟩)
        · exact .inr ⟨rfl, le_refl _⟩
        · exact .inl hlt
        · exact .inr ⟨heq, by omega⟩
    rw [mem_cons, or_congr_right ih, hfirst, or_and_right]
    constructor
    · rintro (rfl | hx)
      · exact .inl ⟨rfl, hle⟩
      · exact .inr hx
    · rintro (⟨rfl, -⟩ | hx)
      · exact .inl rfl
      · exact .inr hx

theorem Addr.le_refl (a : Addr) : a.le a = true := (Addr.le_iff a a).mpr (.inr ⟨rfl, Nat.le_refl _⟩)

theorem Addr.next_of_value_lt {b : Addr} (hbits : a.bitLen = b.bitLen)
    (hvalue : a.value < b.value) : a.next.bitLen = a.bitLen ∧ a.next.value = a.value + 1 := by
  have hlt : ∀ {w : Nat} {n m : BitVec w}, n.toNat < m.toNat → n + 1#w ≠ 0#w := by
    intro w n m hnm hzero
    have hval := congrArg BitVec.toNat hzero
    rw [BitVec.toNat_add, BitVec.toNat_ofNat, add_mod_mod, BitVec.toNat_ofNat,
      zero_mod, mod_eq_of_lt (by omega)] at hval
    omega
  cases a with
  | invalid n => cases b with
    | invalid m => exact ⟨rfl, toNat_add_one_of_ne (hlt hvalue)⟩
    | v4 | v6 => cases hbits
  | v4 n => cases b with
    | invalid m => cases hbits
    | v4 m =>
      rw [show (Addr.v4 n).next = .v4 (n + 1#32) from if_neg (hlt hvalue)]
      exact ⟨rfl, toNat_add_one_of_ne (hlt hvalue)⟩
    | v6 m => cases hbits
  | v6 n => cases b with
    | invalid | v4 => cases hbits
    | v6 m =>
      rw [show (Addr.v6 n).next = .v6 (n + 1#128) from if_neg (hlt hvalue)]
      exact ⟨rfl, toNat_add_one_of_ne (hlt hvalue)⟩

/-- A walk ends if it has nothing to do, or stays in one family and stops before the last
address of that family. -/
theorem Addr.exists_range_iff (a stop : Addr) :
    (∃ fuel l, Addr.range fuel a stop = some l) ↔
      (a.le stop → a.bitLen = stop.bitLen ∧ stop.next ≠ .invalid 0#128) := by
  constructor
  · rintro ⟨fuel, l, h⟩ hle
    have hmem : stop ∈ l := (Addr.mem_range_iff h stop).mpr ⟨hle, stop.le_refl⟩
    obtain ⟨hbits, -, hnext⟩ := (Addr.walk_of_range h).of_mem hmem
    refine ⟨hbits.symm, fun hlast => ?_⟩
    rw [hlast] at hnext
    cases hnext
  · intro hends
    -- The induction is on the steps that remain.
    induction hd : stop.value + 1 - a.value generalizing a with
    | zero =>
      refine ⟨1, [], if_neg fun hle => ?_⟩
      have hbits := (hends hle).1
      rw [Addr.le_iff] at hle
      omega
    | succ d ih =>
      by_cases hle : a.le stop = true
      · obtain ⟨hbits, hlast⟩ := hends hle
        have hnext : a.next.bitLen = a.bitLen ∧ a.next.value = a.value + 1 := by
          by_cases hvalue : a.value < stop.value
          · exact Addr.next_of_value_lt hbits hvalue
          · have heq : a = stop := Addr.ext_value hbits (by omega)
            rw [heq]
            exact stop.next_cases.resolve_left fun h => hlast h.1
        obtain ⟨fuel, l, hl⟩ := ih a.next (fun _ => ⟨hnext.1.trans hbits, hlast⟩) (by omega)
        refine ⟨fuel + 1, a :: l, ?_⟩
        rw [Addr.range, if_pos hle, hl, map_some]
      · exact ⟨1, [], if_neg hle⟩

end Osvbng.Lib.NetIP
