import Osvbng.Ha.Mappings

/-!
# The reverse index

From an outside address and a port to the mapping that has it. The index is kept
twice, by block and as a list for each outside address. The lists are searched for
the same mapping object, so that an entry here has a number of its own.

`Indexed` says that the two agree. It is kept where no block is added that the
index has already, and then the index is the function `lookup`
(`lookup_add`, `lookup_remove`).
-/

namespace Osvbng.Cgnat
open Function Option List Lib Lib.Slice Lib.NetIP Ha Nat

structure ReverseKey where
  outsideIP : Bytes
  portStart : UInt16
deriving DecidableEq

def makeReverseKey (ip : IP) (portStart : UInt16) : ReverseKey := ⟨copy4 (to4 ip), portStart⟩

structure Entry where
  ref : Nat
  mapping : SessionMapping

structure ReverseIndex where
  byBlock : ReverseKey → Option Entry
  byIP : Bytes → List Entry
  next : Nat

namespace ReverseIndex

def newReverseIndex : ReverseIndex := ⟨fun _ => none, fun _ => [], 0⟩

def add (ri : ReverseIndex) (mapping : SessionMapping) : ReverseIndex :=
  let key := makeReverseKey mapping.outsideIP mapping.portBlockStart
  let entry := ⟨ri.next, mapping⟩
  { byBlock := update ri.byBlock key (some entry)
    byIP := update ri.byIP key.outsideIP (ri.byIP key.outsideIP ++ [entry])
    next := ri.next + 1 }

def remove (ri : ReverseIndex) (outsideIP : IP) (portStart : UInt16) : ReverseIndex :=
  let key := makeReverseKey outsideIP portStart
  match ri.byBlock key with
  | none => ri
  | some entry =>
    { ri with
      byBlock := update ri.byBlock key none
      byIP := update ri.byIP key.outsideIP
        ((ri.byIP key.outsideIP).eraseP fun e => e.ref = entry.ref) }

end ReverseIndex

def reverseKey (m : SessionMapping) : ReverseKey := makeReverseKey m.outsideIP m.portBlockStart

namespace ReverseIndex
variable (ri : ReverseIndex)

def lookup (key : ReverseKey) : Option SessionMapping :=
  (ri.byBlock key).map (·.mapping)

/-- `Lookup`, by an outside address and a port. -/
def lookupPort (outsideIP : IP) (port : UInt16) : Option SessionMapping :=
  ((ri.byIP (copy4 (to4 outsideIP))).map Entry.mapping).find? fun m =>
    m.portBlockStart ≤ port ∧ port ≤ m.portBlockEnd

/-- The two halves of the index agree, and no two entries have one number. -/
structure Indexed (ri : ReverseIndex) : Prop where
  found : ∀ key e, ri.byBlock key = some e → key = reverseKey e.mapping
  listed : ∀ ip e, e ∈ ri.byIP ip →
    ri.byBlock (reverseKey e.mapping) = some e ∧ (reverseKey e.mapping).outsideIP = ip
  fresh : ∀ key e, ri.byBlock key = some e → e.ref < ri.next
  distinct : ∀ key e key' e', ri.byBlock key = some e → ri.byBlock key' = some e' →
    e.ref = e'.ref → e = e'
  nodup : ∀ ip, (ri.byIP ip).Nodup

theorem indexed_new : newReverseIndex.Indexed where
  found := nofun
  listed := nofun
  fresh := nofun
  distinct := nofun
  nodup _ := nodup_nil

theorem byIP_add (m : SessionMapping) (ip : Bytes) : (ri.add m).byIP ip =
      if ip = (reverseKey m).outsideIP then ri.byIP ip ++ [⟨ri.next, m⟩] else ri.byIP ip := by
  split
  · rename_i hip
    rw [hip]
    exact update_self ..
  · rename_i hip
    exact update_of_ne hip _ _

theorem lookup_add (m : SessionMapping) :
    (ri.add m).lookup = update ri.lookup (reverseKey m) (some m) := by
  funext key
  exact apply_update (fun _ => Option.map Entry.mapping) ri.byBlock ..

theorem lookup_remove (ip : IP) (portStart : UInt16) : (ri.remove ip portStart).lookup =
      update ri.lookup (makeReverseKey ip portStart) none := by
  funext key
  unfold remove
  dsimp only
  split
  · rename_i hnone
    by_cases hkey : key = makeReverseKey ip portStart
    · rw [hkey, update_self, lookup, hnone]
      rfl
    · rw [update_of_ne hkey]
  · exact apply_update (fun _ => Option.map Entry.mapping) ri.byBlock ..

variable {ri}

theorem Indexed.add (h : ri.Indexed) {m : SessionMapping}
    (hfree : ri.lookup (reverseKey m) = none) : (ri.add m).Indexed := by
  have hnone : ri.byBlock (reverseKey m) = none := by
    rwa [lookup, map_eq_none_iff] at hfree
  have hblock key e : (ri.add m).byBlock key = some e →
      (key = reverseKey m ∧ e = ⟨ri.next, m⟩) ∨ (key ≠ reverseKey m ∧ ri.byBlock key = some e) := by
    intro he
    rcases update_cases he with ⟨hkey, he⟩ | hold
    · exact .inl ⟨hkey, (some_inj.mp he).symm⟩
    · exact .inr hold
  have hold ip e : e ∈ ri.byIP ip → (ri.add m).byBlock (reverseKey e.mapping) = some e ∧
      (reverseKey e.mapping).outsideIP = ip := by
    intro he
    obtain ⟨hfound, hip⟩ := h.listed ip e he
    refine ⟨?_, hip⟩
    have hne : reverseKey e.mapping ≠ reverseKey m := by
      intro heq
      rw [heq, hnone] at hfound
      cases hfound
    exact (update_of_ne hne _ _).trans hfound
  refine ⟨?_, ?_, ?_, ?_, ?_⟩
  · intro key e he
    rcases hblock key e he with ⟨hkey, rfl⟩ | ⟨-, he⟩
    · exact hkey
    · exact h.found key e he
  · intro ip e he
    rw [byIP_add] at he
    split at he
    · rename_i hip
      rw [mem_append, mem_singleton] at he
      rcases he with he | rfl
      · exact hold ip e he
      · exact ⟨update_self .., hip.symm⟩
    · exact hold ip e he
  · intro key e he
    rcases hblock key e he with ⟨-, rfl⟩ | ⟨-, he⟩
    · exact lt_succ_self _
    · exact lt_succ_of_lt (h.fresh key e he)
  · intro key e key' e' he he' href
    rcases hblock key e he with ⟨-, rfl⟩ | ⟨-, he⟩ <;>
      rcases hblock key' e' he' with ⟨-, rfl⟩ | ⟨-, he'⟩
    · rfl
    · exact absurd (h.fresh key' e' he') (by rw [← href]; exact lt_irrefl _)
    · exact absurd (h.fresh key e he) (by rw [href]; exact lt_irrefl _)
    · exact h.distinct key e key' e' he he' href
  · intro ip
    rw [byIP_add]
    split
    · refine nodup_append.mpr ⟨h.nodup ip, nodup_singleton _, ?_⟩
      rintro e he e' hnew rfl
      rw [mem_singleton.mp hnew] at he
      exact absurd (h.fresh _ _ (h.listed ip _ he).1) (lt_irrefl _)
    · exact h.nodup ip

theorem Indexed.eraseP_eq_erase (h : ri.Indexed) {key : ReverseKey}
    {entry : Entry} (hentry : ri.byBlock key = some entry) (ip : Bytes) (e : Entry) :
    e ∈ (ri.byIP ip).eraseP (fun e => e.ref = entry.ref) → e ∈ ri.byIP ip ∧ e ≠ entry := by
  intro he
  refine ⟨mem_of_mem_eraseP he, ?_⟩
  rintro rfl
  have hmem := mem_of_mem_eraseP he
  have hself : decide (e.ref = e.ref) = true := decide_eq_true rfl
  obtain ⟨a, l₁, l₂, hbefore, ha, hlist, herase⟩ :=
    exists_of_eraseP (p := fun x => decide (x.ref = e.ref)) hmem hself
  have hin : a ∈ ri.byIP ip := hlist ▸ mem_append_right _ mem_cons_self
  have hae : a = e :=
    h.distinct _ a key e (h.listed ip a hin).1 hentry (of_decide_eq_true ha)
  have hnodup := h.nodup ip
  rw [hlist, hae] at hnodup
  rw [herase, mem_append] at he
  rcases he with he | he
  · exact hbefore e he hself
  · exact (nodup_cons.mp (nodup_append.mp hnodup).2.1).1 he

theorem Indexed.remove (h : ri.Indexed) (ip : IP) (portStart : UInt16) :
    (ri.remove ip portStart).Indexed := by
  unfold ReverseIndex.remove
  dsimp only
  split
  · exact h
  rename_i entry hentry
  have hsub key e : update ri.byBlock (makeReverseKey ip portStart) none key = some e →
      ri.byBlock key = some e := by
    intro he
    rcases update_cases he with ⟨-, he⟩ | ⟨-, he⟩
    · cases he
    · exact he
  have hmem ip' e : e ∈ update ri.byIP (makeReverseKey ip portStart).outsideIP
      ((ri.byIP (makeReverseKey ip portStart).outsideIP).eraseP fun e => e.ref = entry.ref) ip' →
      e ∈ ri.byIP ip' ∧ e ≠ entry := by
    intro he
    by_cases hip : ip' = (makeReverseKey ip portStart).outsideIP
    · rw [hip, update_self] at he
      rw [hip]
      exact h.eraseP_eq_erase hentry _ e he
    · rw [update_of_ne hip] at he
      refine ⟨he, ?_⟩
      rintro rfl
      exact hip ((h.listed ip' e he).2.symm.trans
        (congrArg ReverseKey.outsideIP (h.found _ _ hentry).symm))
  refine ⟨fun key e he => h.found key e (hsub key e he), ?_,
    fun key e he => h.fresh key e (hsub key e he),
    fun key e key' e' he he' => h.distinct key e key' e' (hsub key e he) (hsub key' e' he'), ?_⟩
  · intro ip' e he
    obtain ⟨hin, hne⟩ := hmem ip' e he
    obtain ⟨hfound, hip⟩ := h.listed ip' e hin
    refine ⟨?_, hip⟩
    have hkey : reverseKey e.mapping ≠ makeReverseKey ip portStart := by
      intro heq
      rw [heq, hentry] at hfound
      exact hne (some_inj.mp hfound).symm
    exact (update_of_ne hkey _ _).trans hfound
  · intro ip'
    by_cases hip : ip' = (makeReverseKey ip portStart).outsideIP
    · dsimp only
      rw [hip, update_self]
      exact (h.nodup _).sublist eraseP_sublist
    · dsimp only
      rw [update_of_ne hip]
      exact h.nodup ip'

end ReverseIndex
end Osvbng.Cgnat
