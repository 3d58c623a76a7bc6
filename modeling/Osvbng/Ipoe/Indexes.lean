import Osvbng.Ipoe.Removal

/-!
# The tables of the sessions

`Component.accurate_of_careful` says under which conditions the entries of the tables are
right, a removal takes exactly the entries of its session, and a restart gives back the
entries there were. An entry is written under the keys that a session has then and deleted
under those it has at its end, so a session must not give up a key in between, and must
share none. The conditions are on the event and on the state it finds.
-/

namespace Osvbng.Ipoe
open Option List Lib Lib.Slice Lib.NetIP Machine Index Held Effect
open Session (TupleKey Family)

/-- All tables but that of the transactions. -/
def Key.isIndexed : Key → Bool
  | .xid _ => false
  | _ => true

namespace Component
variable (c : Component)

def live (i : Nat) : Option Subscriber := (c.objects[i]?).filter (!·.closing)

def Accurate : Prop := Sound (·.isIndexed = true) c.keys c.live c.index

def owner (k : Key) : Option Bytes :=
  ((c.index k).bind (c.objects[·]?)).map (·.sessionID)

def isCheckpointed (r : Restart) (id : Bytes) : Bool :=
  c.opdb.any fun s => isKept r s && s.sessionID = id

/-- What is asked of the effect of an event: a session that changes keeps the keys under which
it is found, a removal deletes under the keys of its session alone, and the records of a restart
have the keys under which their sessions are found. -/
def Fits (c : Component) : Effect → Prop
  | .quiet _ named => ∀ p ∈ named, ∀ sess ∈ c.objects[p.1]?,
      sess.username = p.2 ∨ c.index (.username sess.username) ≠ some p.1
  | .leased i old new _ => old.closing = false ∧
      ∀ k ∈ c.keys old, c.index k = some i → k ∈ c.keys new
  | .removed i old _ ks _ _ => (∀ k ∈ ks, k.isIndexed → ∀ j ∈ c.index k, j = i) ∧
      ∀ k ∈ c.keys old, c.index k = some i → k ∈ ks
  | .restarted r => ∀ s ∈ c.opdb, isKept r s →
      (∀ k ∈ c.restoredKeys s, c.owner k = some s.sessionID) ∧
        ∀ sess ∈ c.objects, ∀ k ∈ c.keys sess, c.owner k = some s.sessionID → k ∈ c.restoredKeys s

/-! ## Careful events -/

/-- A message of a session for which the AAA server is asked: it is found under no other name
than the one of the policy. -/
def CarefulMessage (family : Family) (env : Env) (pkt : Packet) : Prop :=
  ∀ i ∈ c.index (.sessions (c.makeSessionKey family pkt.tuple)), ∀ sess ∈ c.objects[i]?,
    sess.aaaApproved ∨ sess.aaaInFlight ∨ sess.username = env.username ∨
      c.index (.username sess.username) ≠ some i
deriving Decidable

/-- The session is there, and is found under no other address than the one it gets. -/
def CarefulAck (ip : IP) (i : Nat) (sess : Subscriber) : Prop :=
  sess.closing = false ∧ (unmapped sess.ipv4 = unmapped ip ∧ ip ≠ [] ∨
    c.index (.ipv4 (unmapped sess.ipv4)) ≠ some i)
deriving Decidable

def CarefulReply (ip : IP) (i : Nat) (sess : Subscriber) : Prop :=
  sess.closing = false ∧ (unmapped sess.ipv6Address = unmapped ip ∧ ip ≠ [] ∨
    c.index (.ipv6 (unmapped sess.ipv6Address)) ≠ some i)
deriving Decidable

/-- Under the keys no other session is found, and the session is found under no other key. -/
def CarefulRemoval (i : Nat) (sess : Subscriber) (ks : List Key) : Prop :=
  (∀ k ∈ ks, ∀ j ∈ c.index k, j = i) ∧ ∀ k ∈ c.keys sess, c.index k = some i → k ∈ ks
deriving Decidable

def nameKeys (sess : Subscriber) : List Key :=
  (if sess.acctSessionID = [] then [] else [.acctSessionID sess.acctSessionID]) ++
    if sess.username = [] then [] else [.username sess.username]

def Careful : ComponentEvent → Prop
  | .discover env pkt => c.CarefulMessage .v4 env pkt
  | .request env pkt => c.CarefulMessage .v4 env pkt
  | .solicit env pkt => c.CarefulMessage .v6 env pkt
  | .answer n _ (.ack ip _) => ∀ x ∈ c.exchanges[n]?, x.origin = .live →
      ∀ sess ∈ c.objects[x.sess]?, c.CarefulAck ip x.sess sess
  | .answer n _ (.reply r) => ∀ x ∈ c.exchanges[n]?,
      x.origin = .live ∨ x.messages.head? = some .request6 →
        ∀ sess ∈ c.objects[x.sess]?, c.CarefulReply ((r.iana.map Prod.fst).getD []) x.sess sess
  | .serverResponse xid _ _ (.ack ip _) => ∀ i ∈ c.index (.xid xid),
      ∀ sess ∈ c.objects[i]?, c.CarefulAck ip i sess
  | .aaaResponse n false _ _ => ∀ i ∈ (c.aaa[n]?).bind (c.index <| .sessionID ·),
      ∀ sess ∈ c.objects[i]?, c.CarefulRemoval i sess (c.keys sess)
  | .release t _ => ∀ i ∈ c.index (.sessions (c.makeSessionKeyV4 t)), ∀ sess ∈ c.objects[i]?,
      if c.unified t.svlan t.cvlan && sess.ipv6Bound then c.CarefulAck [] i sess
      else c.CarefulRemoval i sess
        (.sessions (c.makeSessionKeyV4 t) :: .sessionID sess.sessionID :: nameKeys sess)
  | .release6 t => ∀ i ∈ c.index (.sessions (c.makeSessionKeyV6 t)), ∀ sess ∈ c.objects[i]?,
      if c.unified t.svlan t.cvlan && sess.ipv4 ≠ [] then c.CarefulReply [] i sess
      else c.CarefulRemoval i sess
        (.sessions (c.makeSessionKeyV6 t) :: .sessionID sess.sessionID :: nameKeys sess)
  | .terminate ev => ∀ i ∈ c.resolveTerminateTarget ev,
      ∀ sess ∈ c.objects[i]?, c.CarefulRemoval i sess (c.keys sess)
  | .sweep n => ∀ x ∈ c.toDelete[n]?, ∀ sess ∈ c.objects[x.2]?,
      c.CarefulRemoval x.2 sess (.sessions x.1 :: .sessionID sess.sessionID :: sess.indexKeys)
  | .restart r => c.Fits (.restarted r)
  | _ => True

instance (r : Restart) : Decidable (c.Fits (.restarted r)) :=
  inferInstanceAs (Decidable (∀ _ ∈ _, _ → _))

instance : DecidablePred c.Careful := fun e => by
  unfold Careful
  rcases e
  case answer r => rcases r <;> infer_instance
  case serverResponse r => rcases r <;> infer_instance
  case aaaResponse allowed _ _ => rcases allowed <;> infer_instance
  all_goals infer_instance

variable {c c' d : Component} {e : ComponentEvent} {i j : Nat} {k : Key} {r : Restart}
  {sess old new : Subscriber} {l : List Subscriber} {s : Subscriber}

theorem live_eq_some : c.live i = some sess ↔ c.objects[i]? = some sess ∧ sess.closing = false := by
  simp [live, filter_eq_some_iff]

theorem keys_congr (h : c'.unified = c.unified) (sess : Subscriber) :
    c'.keys sess = c.keys sess := by
  simp only [keys, makeSessionKeyV4, makeSessionKeyV6, makeSessionKey, h]

theorem restoredKeys_congr (h : c'.unified = c.unified) (s : Subscriber) :
    c'.restoredKeys s = c.restoredKeys s := by
  simp only [restoredKeys, makeSessionKeyV4, makeSessionKey, h]

theorem mem_keys_of_indexKeys (c : Component) (h : k ∈ sess.indexKeys) : k ∈ c.keys sess :=
  mem_append_right _ h

theorem fits_quiet {made : Option (Nat × IfKey)} : c.Fits (.quiet made none) :=
  fun _ h => by cases h

theorem fits_found {o : Option Nat} {f : Nat → Subscriber → Effect}
    (h : ∀ i ∈ o, ∀ sess ∈ c.objects[i]?, c.Fits (f i sess)) : c.Fits (c.found o f) := by
  unfold found
  cases o with
  | none => exact fits_quiet
  | some i =>
    cases hsess : c.objects[i]? with
    | none =>
      simp only [bind_some, hsess]
      exact fits_quiet
    | some sess =>
      simp only [bind_some, hsess]
      exact h i rfl sess hsess

theorem fits_message {family : Family} {env : Env} {pkt : Packet}
    (h : c.CarefulMessage family env pkt) : c.Fits (c.message family env pkt) := by
  rintro p hp sess hsess
  obtain ⟨i, hi, hp⟩ := bind_eq_some_iff.mp hp
  obtain ⟨sess', hsess', hp⟩ := bind_eq_some_iff.mp hp
  obtain ⟨hasks, ⟨⟩⟩ := ite_none_left_eq_some.mp hp
  cases hsess.symm.trans hsess'
  have hname := h i hi sess hsess
  simp only [Bool.or_eq_true, not_or] at hasks
  simpa [hasks] using hname

/-- A session keeps the keys that it does not change. -/
theorem mem_keys_of_mem (h : k ∈ c.keys old) (htuple : new.tuple = old.tuple)
    (hid : new.sessionID = old.sessionID) (hacct : new.acctSessionID = old.acctSessionID)
    (hname : new.username = old.username ∨ k ≠ .username old.username)
    (hipv4 : new.ipv4 = old.ipv4 ∨ (unmapped old.ipv4 = unmapped new.ipv4 ∧ new.ipv4 ≠ []) ∨
      k ≠ .ipv4 (unmapped old.ipv4))
    (hipv6 : new.ipv6Address = old.ipv6Address ∨
      (unmapped old.ipv6Address = unmapped new.ipv6Address ∧ new.ipv6Address ≠ []) ∨
      k ≠ .ipv6 (unmapped old.ipv6Address)) : k ∈ c.keys new := by
  simp only [keys, Subscriber.indexKeys, htuple, hid, hacct, mem_append, mem_ite_nil_left,
    mem_singleton] at h ⊢
  grind

theorem fits_leased4 {counted : Nat} (h : c.CarefulAck new.ipv4 i old)
    (hheld : new.held = { old.held with ipv4 := new.ipv4 }) (hname : new.username = old.username) :
    c.Fits (.leased i old new counted) :=
  ⟨h.1, fun _ hk hentry => mem_keys_of_mem hk (congrArg Held.tuple hheld)
    (congrArg sessionID hheld) (congrArg acctSessionID hheld) (.inl hname)
    (.inr (h.2.imp_right fun hnone hkey => hnone (hkey ▸ hentry)))
    (.inl (congrArg ipv6Address hheld))⟩

theorem fits_leased6 {counted : Nat} {bound : Bool} (h : c.CarefulReply new.ipv6Address i old)
    (hheld : new.held = { old.held with ipv6Address := new.ipv6Address, ipv6Bound := bound })
    (hname : new.username = old.username) : c.Fits (.leased i old new counted) :=
  ⟨h.1, fun _ hk hentry => mem_keys_of_mem hk (congrArg Held.tuple hheld)
    (congrArg sessionID hheld) (congrArg acctSessionID hheld) (.inl hname)
    (.inl (congrArg ipv4 hheld)) (.inr (h.2.imp_right fun hnone hkey => hnone (hkey ▸ hentry)))⟩

theorem fits_removed {ks ks' : List Key} {counted : Option TupleKey} {freed : Bool}
    (h : c.CarefulRemoval i old ks) (hks : ∀ k ∈ ks', k.isIndexed → k ∈ ks)
    (hks' : ∀ k ∈ ks, k ∈ ks') : c.Fits (.removed i old new ks' counted freed) :=
  ⟨fun k hk hindexed => h.1 k (hks k hk hindexed), fun k hk hentry => hks' k (h.2 k hk hentry)⟩

theorem mem_cons_xid {ks : List Key} {x : UInt32} (hk : k ∈ .xid x :: ks) (h : k.isIndexed) :
    k ∈ ks :=
  (mem_cons.mp hk).resolve_left fun heq => by
    rw [heq] at h
    cases h

/-- A release of one family, whose addresses are gone when the keys are deleted. -/
theorem indexKeys_release {lease : SessionState} (h4 : lease.ipv4 = [])
    (h6 : lease.ipv6Address = []) : (sess.release lease).indexKeys = nameKeys sess := by
  unfold Subscriber.indexKeys
  rw [if_pos (show (sess.release lease).ipv4 = [] from h4),
    if_pos (show (sess.release lease).ipv6Address = [] from h6), append_nil, append_nil]
  rfl

theorem fits_of_careful (h : c.next e = some c') (hcareful : c.Careful e) :
    c.Fits (c.effect e) := by
  cases e with
  | discover env pkt | request env pkt | solicit env pkt => exact fits_message hcareful
  | answer n now response =>
    obtain ⟨x, hx, -⟩ := bind_eq_some_iff.mp h
    cases response with
    | ack ip leaseTime =>
      simp only [effect, hx]
      split
      · rename_i hlive
        refine fits_found fun i hi sess hsess => fits_leased4 ?_ rfl rfl
        cases hi
        exact hcareful x hx hlive sess hsess
      · exact fits_quiet
    | reply r =>
      simp only [effect, hx]
      split
      · rename_i htaken
        refine fits_found fun i hi sess hsess => fits_leased6 ?_ rfl rfl
        cases hi
        exact hcareful x hx (by simpa using htaken) sess hsess
      · exact fits_quiet
    | other | failed =>
      simp only [effect, hx]
      exact fits_quiet
  | serverResponse xid now isRelayed response =>
    cases response with
    | ack ip leaseTime =>
      exact fits_found fun i hi sess hsess => fits_leased4 (hcareful i hi sess hsess) rfl rfl
    | reply | other | failed => exact fits_quiet
  | aaaResponse n allowed isVRFResolved isSetUp =>
    cases allowed with
    | true => exact fits_quiet
    | false =>
      refine fits_found fun i hi sess hsess => fits_removed (hcareful i hi sess hsess) ?_ ?_
      · exact fun k hk h => mem_cons_xid hk h
      · exact fun k hk => mem_cons_of_mem _ hk
  | release t ciaddr =>
    refine fits_found fun i hi sess hsess => ?_
    have hcareful := hcareful i hi sess hsess
    cases hkept : c.unified t.svlan t.cvlan && sess.ipv6Bound
    · simp only [hkept] at hcareful
      simp only [released, SessionState.handleRelease, hkept]
      refine fits_removed hcareful ?_ ?_
      · rw [indexKeys_release rfl rfl]
        exact fun k hk h => mem_cons_xid hk h
      · rw [indexKeys_release rfl rfl]
        exact fun k hk => mem_cons_of_mem _ hk
    · simp only [hkept, if_true] at hcareful
      simp only [released, SessionState.handleRelease, hkept]
      exact fits_leased4 hcareful rfl rfl
  | release6 t =>
    refine fits_found fun i hi sess hsess => ?_
    have hcareful := hcareful i hi sess hsess
    cases hkept : c.unified t.svlan t.cvlan && decide (sess.ipv4 ≠ [])
    · simp only [hkept] at hcareful
      simp only [released, SessionState.handleDHCPv6Release, hkept]
      refine fits_removed hcareful ?_ ?_
      · rw [indexKeys_release rfl rfl]
        exact fun k hk _ => hk
      · rw [indexKeys_release rfl rfl]
        exact fun k hk => hk
    · simp only [hkept, if_true] at hcareful
      simp only [released, SessionState.handleDHCPv6Release, hkept]
      exact fits_leased6 hcareful rfl rfl
  | terminate ev =>
    exact fits_found fun i hi sess hsess => fits_removed (hcareful i hi sess hsess)
      (fun _ hk _ => hk) fun _ hk => hk
  | sweep n =>
    simp only [effect]
    split
    · rename_i key i hn
      refine fits_found fun j hj sess hsess => ?_
      cases hj
      refine fits_removed (hcareful _ hn sess hsess) ?_ ?_
      · exact fun k hk h => mem_cons_xid hk h
      · exact fun k hk => mem_cons_of_mem _ hk
    · exact fits_quiet
  | vpp n result =>
    cases result with
    | none => exact fits_quiet
    | some sw =>
      simp only [effect]
      split <;> exact fits_quiet
  | restart r => exact hcareful
  | _ => exact fits_quiet

/-! ## Steps other than restarts -/

theorem accurate_quiet {made : Option (Nat × IfKey)} {named : Option (Nat × Bytes)}
    (hc : c.Accurate) (h : c.Quiet made named c') (hfits : c.Fits (.quiet made named)) :
    c'.Accurate := by
  intro k j hk hentry
  rw [show c'.keys = c.keys from funext (keys_congr h.unified)]
  rcases h.index k j hentry with hold | ⟨sess, hsess, hopen, hxid | hmem⟩
  · obtain ⟨sess, hlive, hmem⟩ := hc k j hk hold
    obtain ⟨hsess, hopen⟩ := live_eq_some.mp hlive
    obtain ⟨sess', hsess', hheld⟩ := h.object hsess
    have hopen' := (congrArg closing hheld).trans hopen
    have hname : sess'.username = sess.username ∨ k ≠ .username sess.username := by
      rcases h.username j sess hsess sess' hsess' with hsame | hnamed
      · exact .inl hsame
      · exact (hfits _ hnamed sess hsess).imp (·.symm) fun hnone hkey => hnone (hkey ▸ hold)
    exact ⟨sess', live_eq_some.mpr ⟨hsess', hopen'⟩, mem_keys_of_mem hmem
      (congrArg Held.tuple hheld) (congrArg sessionID hheld) (congrArg acctSessionID hheld) hname
      (.inl (congrArg ipv4 hheld)) (.inl (congrArg ipv6Address hheld))⟩
  · rw [hxid] at hk
    cases hk
  · exact ⟨sess, live_eq_some.mpr ⟨hsess, hopen⟩, hmem⟩

theorem Changed.object_self (h : c.Changed i old new c') : c'.objects[i]? = some new := by
  rw [h.objects, List.getElem?_set_self (List.getElem?_eq_some_iff.mp h.found).1]

theorem Changed.live_of_ne (h : c.Changed i old new c') (hne : i ≠ j) : c'.live j = c.live j := by
  unfold live
  rw [h.objects, getElem?_set_ne hne]

theorem accurate_leased {counted : Nat} (hc : c.Accurate) (h : c.Leased i old new counted c')
    (hfits : c.Fits (.leased i old new counted)) : c'.Accurate := by
  have hnew : c'.live i = some new :=
    live_eq_some.mpr ⟨h.object_self, h.closing.trans hfits.1⟩
  intro k j hk hentry
  rw [show c'.keys = c.keys from funext (keys_congr h.unified)]
  rcases h.index k j hentry with hold | ⟨rfl, hmem⟩
  · by_cases hij : i = j
    · subst hij
      obtain ⟨sess, hlive, hmem⟩ := hc k i hk hold
      cases h.found.symm.trans (live_eq_some.mp hlive).1
      exact ⟨new, hnew, hfits.2 k hmem hold⟩
    · rw [h.live_of_ne hij]
      exact hc k j hk hold
  · exact ⟨new, hnew, mem_keys_of_indexKeys c hmem⟩

section Removals
variable {ks : List Key} {counted : Option Session.TupleKey} {freed : Bool}

theorem index_removed (hc : c.Accurate) (h : c.Removed i old new ks counted freed c')
    (hks : ∀ k ∈ ks, k.isIndexed → ∀ j ∈ c.index k, j = i)
    (hown : ∀ k ∈ c.keys old, c.index k = some i → k ∈ ks) (hk : k.isIndexed) :
    c'.index k = some j ↔ c.index k = some j ∧ j ≠ i := by
  rw [h.index]
  constructor
  · intro hentry
    obtain ⟨hnot, hentry⟩ := erase_eq_some hentry
    refine ⟨hentry, ?_⟩
    rintro rfl
    obtain ⟨sess, hlive, hmem⟩ := hc k j hk hentry
    obtain rfl : old = sess := by
      have hsess := (live_eq_some.mp hlive).1
      rw [h.found] at hsess
      exact some.inj hsess
    exact hnot (hown k hmem hentry)
  · rintro ⟨hentry, hne⟩
    have hnot : k ∉ ks := fun hmem => hne (hks k hmem hk j hentry)
    exact (if_neg hnot).trans hentry

end Removals

/-! ## Restarts -/

/-- What the records `l` have made of a component that was `c`. -/
structure Rebuilt (c : Component) (r : Restart) (l : List Subscriber) (d : Component) : Prop where
  unified : d.unified = c.unified
  entry : ∀ k j, d.index k = some j → ∃ sess, d.objects[j]? = some sess ∧ sess.closing = false ∧
    k ∈ c.keys sess ∧ ∃ s ∈ l, isKept r s ∧ k ∈ c.restoredKeys s ∧ sess.sessionID = s.sessionID
  found : ∀ s ∈ l, isKept r s → ∀ k ∈ c.restoredKeys s, (d.index k).isSome

theorem mem_keys_of_restoredKeys (hindex : sess.indexKeys = s.indexKeys)
    (htuple : sess.tuple = s.tuple) (hid : sess.sessionID = s.sessionID)
    (h : k ∈ c.restoredKeys s) : k ∈ c.keys sess := by
  unfold keys
  rw [hindex, htuple, hid]
  rcases mem_cons.mp h with rfl | h
  · simp
  · rcases mem_cons.mp h with rfl | h
    · simp
    · exact mem_append_right _ h

theorem Rebuilt.restoreSession (h : c.Rebuilt r l d) (s : Subscriber) :
    c.Rebuilt r (l ++ [s]) (restoreSession r d s) := by
  have hs := restoreSession_spec r d s
  by_cases hkept : isKept r s
  · obtain ⟨sess, hobjects, hheld, hkeys, hindex⟩ := hs.kept hkept
    rw [restoredKeys_congr h.unified] at hindex
    refine ⟨hs.unified.trans h.unified, fun k j hentry => ?_, fun s' hs' hkept' k hk => ?_⟩
    · rw [hindex] at hentry
      rw [hobjects]
      rcases Index.insert_cases hentry with hold | ⟨rfl, hk⟩
      · obtain ⟨sess', hsess', hopen, hmem, s', hs', hrecord⟩ := h.entry k j hold
        refine ⟨sess', ?_, hopen, hmem, s', mem_append_left _ hs', hrecord⟩
        rw [List.getElem?_append_left (List.getElem?_eq_some_iff.mp hsess').1, hsess']
      · have hid : sess.sessionID = s.sessionID := congrArg sessionID hheld
        refine ⟨sess, by simp, congrArg closing hheld, ?_, s, by simp, hkept, hk, hid⟩
        exact mem_keys_of_restoredKeys hkeys (congrArg tuple hheld) hid hk
    · rw [hindex]
      unfold Index.insert
      split
      · rfl
      · rename_i hnot
        rcases mem_append.mp hs' with hs' | hs'
        · exact h.found s' hs' hkept' k hk
        · rw [mem_singleton.mp hs'] at hk
          exact absurd hk hnot
  · obtain ⟨hobjects, hindex⟩ := hs.dropped hkept
    refine ⟨hs.unified.trans h.unified, fun k j hentry => ?_, fun s' hs' hkept' k hk => ?_⟩
    · rw [hindex] at hentry
      obtain ⟨sess', hsess', hopen, hmem, s', hs', hrecord⟩ := h.entry k j hentry
      rw [hobjects]
      exact ⟨sess', hsess', hopen, hmem, s', mem_append_left _ hs', hrecord⟩
    · rw [hindex]
      rcases mem_append.mp hs' with hs' | hs'
      · exact h.found s' hs' hkept' k hk
      · rw [mem_singleton.mp hs'] at hkept'
        exact absurd hkept' hkept

theorem Rebuilt.foldl (h : c.Rebuilt r l d) (l' : List Subscriber) :
    c.Rebuilt r (l ++ l') (l'.foldl (.restoreSession r) d) := by
  induction l' generalizing l d with
  | nil => simpa using h
  | cons s l' ih =>
    have hrest := ih (h.restoreSession s)
    rw [append_assoc] at hrest
    exact hrest

theorem rebuilt_restart (c : Component) (r : Restart) : c.Rebuilt r c.opdb (c.restart r) := by
  have hforget : c.Rebuilt r [] c.forget := by
    refine ⟨rfl, fun k j h => ?_, fun s hs => ?_⟩
    · cases h
    · cases hs
  exact hforget.foldl c.opdb

theorem accurate_restart (c : Component) (r : Restart) : (c.restart r).Accurate := by
  have h := rebuilt_restart c r
  intro k j _ hentry
  obtain ⟨sess, hsess, hopen, hmem, -⟩ := h.entry k j hentry
  rw [show (c.restart r).keys = c.keys from funext (keys_congr h.unified)]
  exact ⟨sess, live_eq_some.mpr ⟨hsess, hopen⟩, hmem⟩

/-- The session found under a key after a restart is that of a record with the key. -/
theorem exists_record_of_owner {id : Bytes} (h : (c.restart r).owner k = some id) :
    ∃ s ∈ c.opdb, isKept r s ∧ k ∈ c.restoredKeys s ∧ s.sessionID = id := by
  obtain ⟨sess, hsess, hid⟩ := map_eq_some_iff.mp h
  obtain ⟨j, hentry, hsess⟩ := bind_eq_some_iff.mp hsess
  obtain ⟨sess', hsess', -, -, s, hs, hkept, hk, hids⟩ := (rebuilt_restart c r).entry k j hentry
  rw [hsess] at hsess'
  cases hsess'
  exact ⟨s, hs, hkept, hk, hids.symm.trans hid⟩

theorem owner_restart (hc : c.Accurate) (hfits : c.Fits (restarted r))
    (hk : k.isIndexed) : (c.restart r).owner k = (c.owner k).filter (c.isCheckpointed r) := by
  apply ext
  intro id
  rw [filter_eq_some_iff]
  constructor
  · intro h
    obtain ⟨s, hs, hkept, hmem, rfl⟩ := exists_record_of_owner h
    refine ⟨(hfits s hs hkept).1 k hmem, any_eq_true.mpr ⟨s, hs, ?_⟩⟩
    simp [hkept]
  · rintro ⟨howner, hcheck⟩
    obtain ⟨s, hs, hrecord⟩ := any_eq_true.mp hcheck
    obtain ⟨hkept, hid⟩ : isKept r s = true ∧ s.sessionID = id := by simpa using hrecord
    subst hid
    -- The session that is found has the key, so its record has it, and so the entry is back.
    obtain ⟨sess, hsess, hid⟩ := map_eq_some_iff.mp howner
    obtain ⟨j, hentry, hsess⟩ := bind_eq_some_iff.mp hsess
    obtain ⟨sess', hlive, hmem⟩ := hc k j hk hentry
    obtain rfl : sess = sess' := by
      have hsess' := (live_eq_some.mp hlive).1
      rw [hsess] at hsess'
      exact some.inj hsess'
    have hrestored := (hfits s hs hkept).2 sess (mem_of_getElem? hsess) k hmem howner
    have hfound := (rebuilt_restart c r).found s hs hkept k hrestored
    obtain ⟨j', hentry'⟩ := isSome_iff_exists.mp hfound
    obtain ⟨sess', hsess', -⟩ := (rebuilt_restart c r).entry k j' hentry'
    have hnew : (c.restart r).owner k = some sess'.sessionID := by
      unfold owner
      rw [hentry', bind_some, hsess']
      rfl
    obtain ⟨s', hs', hkept', hmem', hid'⟩ := exists_record_of_owner hnew
    rw [hnew, ← hid', ← (hfits s' hs' hkept').1 k hmem', howner]

theorem isRemoved_restart (c : Component) (r : Restart) (i : Nat) :
    (c.restart r).isRemoved i = false := by
  have hheld := (foldl_restoreSession r c.opdb c.forget).1
  rw [isRemoved_eq, show (c.restart r).objects.map (·.held) = _ from hheld, Option.any_eq_false]
  intro x hx
  obtain ⟨s, -, rfl⟩ := mem_map.mp (mem_of_getElem? hx)
  rfl

/-! ## Runs -/

theorem accurate_next (hc : c.Accurate) (hcareful : c.Careful e) (h : c.next e = some c') :
    c'.Accurate := by
  have hfits := fits_of_careful h hcareful
  have hdone := next_effect h
  generalize c.effect e = effect at hdone hfits
  cases effect with
  | quiet made named => exact accurate_quiet hc hdone hfits
  | leased i old new counted => exact accurate_leased hc hdone hfits
  | removed i old new ks counted freed =>
    intro k j hk hentry
    obtain ⟨hold, hne⟩ := (index_removed hc hdone hfits.1 hfits.2 hk).mp hentry
    rw [show c'.keys = c.keys from funext (keys_congr hdone.unified), hdone.live_of_ne hne.symm]
    exact hc k j hk hold
  | restarted r =>
    rw [show c' = c.restart r from hdone]
    exact accurate_restart c r

theorem index_next (hc : c.Accurate) (hcareful : c.Careful e) (h : c.next e = some c')
    (hopen : ¬ c.isRemoved i) (hremoved : c'.isRemoved i) (hk : k.isIndexed) :
    c'.index k = some j ↔ c.index k = some j ∧ j ≠ i := by
  have hfits := fits_of_careful h hcareful
  have hdone := next_effect h
  generalize c.effect e = effect at hdone hfits
  cases effect with
  | quiet made named =>
    rw [isRemoved_quiet hdone] at hremoved
    exact absurd hremoved hopen
  | leased i' old new counted =>
    rw [isRemoved_changed hdone.toChanged] at hremoved
    split at hremoved
    · rw [hdone.closing, hfits.1] at hremoved
      cases hremoved
    · exact absurd hremoved hopen
  | removed i' old new ks counted freed =>
    rw [isRemoved_changed hdone.toChanged] at hremoved
    split at hremoved
    · rename_i hi
      subst hi
      exact index_removed hc hdone hfits.1 hfits.2 hk
    · exact absurd hremoved hopen
  | restarted r =>
    rw [show c' = c.restart r from hdone, isRemoved_restart] at hremoved
    cases hremoved

theorem accurate_of_reach (h : machine.Reach Careful c) : c.Accurate := by
  apply h.invariant Accurate
  · intro c hinit k j _ hentry
    rw [hinit.index] at hentry
    cases hentry
  · exact fun c e c' hc hcareful hstep => accurate_next hc hcareful hstep

/-- As long as every event is careful, all entries are right, a removal takes exactly the
entries of its session, and a restart gives the restored sessions their entries back. -/
theorem accurate_of_careful (h : machine.Reach Careful c) :
    c.Accurate ∧ ∀ e c', c.Careful e → c.next e = some c' →
      (∀ i, ¬ c.isRemoved i → c'.isRemoved i → ∀ k j, k.isIndexed →
        (c'.index k = some j ↔ c.index k = some j ∧ j ≠ i)) ∧
      ∀ r, e = .restart r → ∀ k, k.isIndexed →
        c'.owner k = (c.owner k).filter (c.isCheckpointed r) := by
  have hc := accurate_of_reach h
  refine ⟨hc, fun e c' hcareful hstep => ⟨fun i hopen hremoved k j hk => ?_, ?_⟩⟩
  · exact index_next hc hcareful hstep hopen hremoved hk
  · rintro r rfl k hk
    cases hstep
    exact owner_restart hc hcareful hk

/-- The clean-up of a bound session, and a restart with its record. -/
theorem accurate_of_careful_bindUp : ∃ c, machine.Reach Careful c ∧ c.Accurate ∧
    c.owner (.ipv4 [10, 0, 0, 5]) = some [1] ∧
    (∃ c' ∈ c.next (.sweep 0), ∀ k, k.isIndexed → c'.index k ≠ some 0) ∧
    ∃ c' ∈ c.next (.restart ⟨100, fun _ => none⟩), c'.owner (.ipv4 [10, 0, 0, 5]) = some [1] := by
  obtain ⟨c, hreach, howner, hcheck, hopen, ⟨c₁, hsweep, hremoved, hcareful⟩, hcareful'⟩ :
      ∃ c, machine.Reach Careful c ∧ c.owner (.ipv4 [10, 0, 0, 5]) = some [1] ∧
        c.isCheckpointed ⟨100, fun _ => none⟩ [1] = true ∧ ¬ c.isRemoved 0 ∧
        (∃ c' ∈ c.next (.sweep 0), c'.isRemoved 0 ∧ c.Careful (.sweep 0)) ∧
        c.Careful (.restart ⟨100, fun _ => none⟩) :=
    exists_reach_of_run (initial_empty true)
      (bindUp ++ [.persist 0, .scan 10000000000000 ⟨none, client.tuple⟩]) (by decide +kernel)
  have h := accurate_of_careful hreach
  refine ⟨c, hreach, h.1, howner, ⟨c₁, hsweep, fun k hk hentry => ?_⟩, _, rfl, ?_⟩
  · exact (((h.2 _ _ hcareful hsweep).1 0 hopen hremoved k 0 hk).mp hentry).2 rfl
  · rw [(h.2 _ _ hcareful' rfl).2 _ rfl _ rfl, howner]
    exact filter_eq_some_iff.mpr ⟨rfl, hcheck⟩

/-- A renewal with another address, and the releases of one family of two and of a session. -/
def stale : List (List ComponentEvent) :=
  [[.request (policy 3) client, .answer 0 100 (.ack [10, 0, 0, 6] 3600)],
    [.solicit (policy 3) client, .answer 0 100 (.reply ⟨some ([32], 3600), none⟩),
      .release client.tuple [10, 0, 0, 5]],
    [.release client.tuple [10, 0, 0, 5]]].map (bindUp ++ ·)

def neighbour : Packet := { client with tuple := ⟨100, 2, [2, 0, 0, 0, 0, 2]⟩, xid := 8 }

def namesake : List ComponentEvent :=
  [.discover (policy 3) neighbour, .aaaResponse 0 true true true, .answer 0 100 .other,
    .vpp 0 (some 6), .request (policy 4) neighbour, .answer 0 100 (.ack [10, 0, 0, 6] 3600)]

def bindUp6 : List ComponentEvent :=
  [.solicit (policy 1) client, .aaaResponse 0 true true true, .answer 0 100 .other,
    .vpp 0 (some 5), .solicit (policy 2) client,
    .answer 0 100 (.reply ⟨some ([32], 3600), none⟩), .persist 0]

/-- Entries outlive the key or the session, a removal takes the entry of another session, and
a session is not found any more under its key after a restart. -/
theorem inaccurate :
    (stale.Forall fun es => ∃ c, run next (fun _ _ => True) (empty true) es = some c ∧
      machine.Reach (fun _ _ => True) c ∧ c.index (.ipv4 [10, 0, 0, 5]) = some 0 ∧
        ∀ sess ∈ c.live 0, .ipv4 [10, 0, 0, 5] ∉ c.keys sess) ∧
    (∃ c, machine.Reach (fun _ _ => True) c ∧ c.owner (.username [117]) = some [3] ∧
      ∃ c' ∈ c.next (.terminate ⟨some client.tuple, [], [], [], [], []⟩),
        c'.isRemoved 0 ∧ ¬ c'.isRemoved 1 ∧ c'.index (.username [117]) = none) ∧
    ∃ c, machine.Reach (fun _ _ => True) c ∧
      c.isCheckpointed ⟨100, fun _ => none⟩ [1] = true ∧
      c.owner (.sessions ⟨some .v6, client.tuple⟩) = some [1] ∧
      ∃ c' ∈ c.next (.restart ⟨100, fun _ => none⟩),
        c'.owner (.sessions ⟨some .v6, client.tuple⟩) = none := by
  refine ⟨?_, ?_, ?_⟩
  · exact forall_run (initial_empty true) (by decide +kernel)
  · exact exists_reach_of_run (initial_empty true) (bindUp ++ namesake) (by decide +kernel)
  · exact exists_reach_of_run (initial_empty false) bindUp6 (by decide +kernel)

end Component
end Osvbng.Ipoe
