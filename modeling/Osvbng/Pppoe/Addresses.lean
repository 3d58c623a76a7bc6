import Osvbng.Pppoe.Frames
import Osvbng.Pppoe.Leases

/-!
# No two sessions of a VRF hold one address

In the runs of the component in which every accept finds the session an address
of its own (not the fixed fallback, and no address outside every pool or inside
two), no session is removed twice, and no restart brings back a session that
was open, all addresses of live sessions are leased to them, and two live
sessions of a VRF hold different ones: `Component.addresses_distinct`.

`Component.fallback_shared` is a run in which two sessions find no pool and both
get the fallback.
-/

namespace Osvbng.Pppoe
open Function Option Lib Lib.NetIP Ppp Allocator Host Component Tracked Addr Machine Bool Session
variable {K N S Q : Type} {c c' : Component K N S Q} {s : Session K N S Q}

/-! ## Runs of the component -/

namespace Component

/-- The steps under which addresses stay distinct: an accept finds the session
an address of its own, no session is removed twice, and a restart brings back
no session that is open or has an IPv4 address. -/
def Careful [DecidableEq N] (c : Component K N S Q) (i : ComponentInput K N S Q) : Prop :=
  match i.event with
  | .padr .. | .vppSessionCreated .. => True
  | .session id e =>
    (∀ s, c.sessions id = some (s, false) → e ≠ .terminate) ∧
    ∀ s requestID attrs, c.sessions id = some (s, true) → e = .aaaResponse requestID true attrs →
      s.pendingAuthRequestID = some requestID → FindsAddress i.env c.registry s attrs
  | .restart expired _ _ =>
    ∀ id s, c.opdb id = some s → expired id = false → s.ipv4Address = [] ∧ ¬IsNetwork s.phase

abbrev host (s : Session K N S Q) (r : Registry K N S) : Host K N S Q := ⟨s, r, []⟩

/-- The registry is in order, and everything live sessions hold is leased to
them. -/
structure Sound (c : Component K N S Q) : Prop where
  shape : c.config.v4.SameShape c.registry.v4
  poolVRFs : c.registry.poolVRFs = c.config.poolVRFs
  within : WithinRange c.registry.v4
  fresh : ∀ pool a, c.config.v4.allocators pool = some a → a.IsNew
  sessionID : ∀ id s live, c.sessions id = some (s, live) → s.sessionID = id
  wantAuth : ∀ id s live, c.sessions id = some (s, live) → s.lcp.handler.localConfig.wantAuth = true
  leases : ∀ id s, c.sessions id = some (s, true) → (host s c.registry).Leases
  stored : ∀ id s, c.opdb id = some s → s.sessionID = id

theorem Sound.pools (hc : c.Sound) (hp : PoolsSound c.config) : PoolsSound c.registry where
  ipv4 pool k hk := hp.ipv4 pool k ((hc.shape.inRange_iff pool k).mp hk)
  distinct pool pool' k hk hk' hvrf := by
    rw [hc.poolVRFs] at hvrf
    exact hp.distinct pool pool' k ((hc.shape.inRange_iff pool k).mp hk)
      ((hc.shape.inRange_iff pool' k).mp hk') hvrf

theorem store_sessionID {id : S} (hs : s.sessionID = id)
    (out : List (Effect Q)) {entry : Option (Session K N S Q)}
    (hentry : ∀ t, entry = some t → t.sessionID = id) :
    ∀ t, store s out entry = some t → t.sessionID = id := by
  induction out generalizing entry with
  | nil => exact hentry
  | cons e out ih =>
    cases e with
    | checkpoint => exact ih (by rintro t ⟨⟩; exact hs)
    | deleteCheckpoint => exact ih (by rintro t ⟨⟩)
    | _ => exact ih hentry

theorem leases_installInMemoryState (env : Env K N Q) (magic : Nat) (ipv6cp : Ipv6cp)
    (r : Registry K N S) (hip : s.ipv4Address = [])
    (hphase : ¬IsNetwork s.phase) : (host (installInMemoryState env magic ipv6cp s) r).Leases where
  own h := by
    refine absurd ?_ h
    simp [holding, installInMemoryState, hip, to16]
  negotiated h := by
    refine absurd ?_ h
    simp [holding, installInMemoryState, hip, new, newFsm, Ipcp.new]
  assigned h := absurd h hphase

theorem Sound.restoreSessions (hc : c.Sound) (env : Env K N Q)
    {expired : S → Bool} (magic : S → Nat) (ipv6cp : S → Ipv6cp)
    (hok : ∀ id s, c.opdb id = some s → expired id = false →
      s.ipv4Address = [] ∧ ¬IsNetwork s.phase) :
    (c.restoreSessions env expired magic ipv6cp).Sound := by
  have hkept id s : (if expired id then none else c.opdb id) = some s →
      c.opdb id = some s ∧ expired id = false := by
    intro h
    split at h
    · cases h
    · rename_i hexp
      exact ⟨h, eq_false_of_not_eq_true hexp⟩
  refine ⟨.refl _, rfl, .of_isNew hc.fresh, hc.fresh, fun id s live hs => ?_,
    fun id s live hs => ?_, fun id s hs => ?_, fun id s hs => hc.stored id s (hkept id s hs).1⟩
  all_goals
    obtain ⟨t, ht, heq⟩ := map_eq_some_iff.mp hs
    cases heq
  · exact hc.stored id t (hkept id t ht).1
  · unfold installInMemoryState
    dsimp only
    split <;> split <;> rfl
  · obtain ⟨hip, hphase⟩ := hok id t (hkept id t ht).1 (hkept id t ht).2
    exact leases_installInMemoryState env _ _ _ hip hphase

theorem Initial.sound (h : c.Initial) : c.Sound := by
  obtain ⟨hnew, hreg, hsessions, hopdb⟩ := h
  refine ⟨?_, by rw [hreg], ?_, hnew, fun id s live hs => ?_, fun id s live hs => ?_,
    fun id s hs => ?_, fun id s hs => ?_⟩
  · rw [hreg]
    exact .refl _
  · rw [hreg]
    exact .of_isNew hnew
  · simp [hsessions id] at hs
  · simp [hsessions id] at hs
  · simp [hsessions id] at hs
  · simp [hopdb id] at hs

theorem eq_of_holds {r : Registry K N S} (hpools : PoolsSound r) {hd hd' : Holding K N S}
    {ip ip' : IP} (h : Holds r hd ip) (h' : Holds r hd' ip') (hip : canon ip = canon ip')
    (hvrf : hd.vrf = hd'.vrf) :
    hd.sessionID = hd'.sessionID := by
  obtain ⟨pool, k, hk, hrange, howner, hpool⟩ := h
  obtain ⟨pool', k', hk', hrange', howner', hpool'⟩ := h'
  have hkey : k = k' := by
    rw [hk, hk'] at hip
    exact some.inj hip
  subst hkey
  have hsame : pool = pool' := by
    rcases hpool with honly | ⟨-, hp⟩
    · exact (honly pool' hrange').symm
    · rcases hpool' with honly' | ⟨-, hp'⟩
      · exact honly' pool hrange
      · exact hpools.distinct pool pool' k hrange hrange' (by rw [hp, hp', hvrf])
  rw [hsame, howner'] at howner
  exact (some.inj howner).symm

section
variable [DecidableEq S] {id : S}

theorem Sound.put (hc : c.Sound) {h' : Host K N S Q} {live : Bool} (hid : s.sessionID = id)
    (hauth : s.lcp.handler.localConfig.wantAuth = true) (hr : Result (host s c.registry) h')
    (hl : live = true → h'.Leases) : (c.put id h' live).Sound := by
  have hid' : h'.session.sessionID = id := hr.sessionID.trans hid
  refine ⟨hc.shape.trans hr.shape, hr.poolVRFs.trans hc.poolVRFs, hr.within, hc.fresh,
    fun j t live' ht => ?_, fun j t live' ht => ?_, fun j t ht => ?_, fun j t ht => ?_⟩
  all_goals
    simp only [Component.put, update_apply] at ht
    by_cases hj : j = id
  · rw [if_pos hj] at ht
    cases ht
    exact hid'.trans hj.symm
  · rw [if_neg hj] at ht
    exact hc.sessionID j t live' ht
  · rw [if_pos hj] at ht
    cases ht
    exact hr.wantAuth.trans hauth
  · rw [if_neg hj] at ht
    exact hc.wantAuth j t live' ht
  · rw [if_pos hj] at ht
    cases ht
    exact hl rfl
  · rw [if_neg hj] at ht
    have hother : (host t c.registry).Leases := hc.leases j t ht
    have hsid : t.sessionID = j := hc.sessionID j t true ht
    refine hother.mono hr.shape hr.poolVRFs fun pool k hk => ?_
    refine hr.keeps pool k _ hk ?_
    intro heq
    exact hj (hsid.symm.trans (heq.trans hid))
  · rw [if_pos hj] at ht
    exact hj ▸ store_sessionID hid' h'.out (fun t' ht' => hj ▸ hc.stored j t' (hj ▸ ht')) t ht
  · rw [if_neg hj] at ht
    exact hc.stored j t ht

variable [DecidableEq K] [DecidableEq N]

theorem Sound.handlePADR (hc : c.Sound) (env : Env K N Q) (id : S)
    (vrf : N) (magic : Nat) (ipv6cp : Ipv6cp) :
    (c.put id (.up env (host (.new id vrf magic ipv6cp) c.registry)) true).Sound := by
  have hup : Still (host (.new id vrf magic ipv6cp) c.registry)
      (.up env (host (.new id vrf magic ipv6cp) c.registry)) := still_up env rfl
  exact hc.put (s := .new id vrf magic ipv6cp) rfl rfl (hup.negotiates.result hc.within)
    fun _ => hup.leases ⟨fun h => absurd rfl h, fun h => absurd rfl h, fun h => by
      simp [IsNetwork, new] at h⟩

variable [DecidableEq Q] {i : ComponentInput K N S Q}

theorem Sound.handleSession (hc : c.Sound)
    (hpools : PoolsSound c.config) {env : Env K N Q} (hlac : env.lacEnabled = false)
    {e : Event N Q} (hnot : isLAC e = false)
    (hok : c.Careful ⟨env, .session id e⟩)
    (hn : c.handleSession env id e = some c') : c'.Sound := by
  obtain ⟨honce, hfinds⟩ := hok
  unfold Component.handleSession at hn
  split at hn
  · cases hn
  rename_i s live hs
  split at hn
  swap
  · cases hn
  rename_i hreach
  obtain ⟨h', hh, rfl⟩ := map_eq_some_iff.mp hn
  have hid := hc.sessionID id s live hs
  have hauth := hc.wantAuth id s live hs
  by_cases hterm : e = .terminate
  · -- A removal, which finds the session in the indexes.
    subst hterm
    cases live with
    | false => exact absurd rfl (honce s hs)
    | true =>
      cases hh
      exact hc.put hid hauth (terminate_result env hc.within (hc.leases id s hs)) (by simp)
  by_cases hacc : ∃ requestID attrs, e = .aaaResponse requestID true attrs ∧
      s.pendingAuthRequestID = some requestID
  · -- An accept, which reaches live sessions only.
    obtain ⟨requestID, attrs, rfl, hpending⟩ := hacc
    have hlive : live = true := by simpa [Event.afterRemoval] using hreach
    subst hlive
    have hresult := accept_result env hlac (hc.pools hpools) hc.within (hc.leases id s hs)
      (hfinds s requestID attrs hs rfl hpending)
    have hh' : onAuthResult env true attrs (host s c.registry) = h' := by
      have hresponse : handleAAAResponse env requestID true attrs (host s c.registry) = h' :=
        some.inj hh
      rw [handleAAAResponse, if_pos hpending] at hresponse
      exact hresponse
    rw [hh'] at hresult
    exact hc.put hid hauth hresult.1 fun _ => hresult.2
  · have hstep := result_handleEvent env (h := host s c.registry) hauth hc.within hnot hterm
      (fun requestID attrs he hpending => hacc ⟨requestID, attrs, he, hpending⟩) hh
    cases live with
    | true =>
      have hleases := hstep.1 (hc.leases id s hs)
      exact hc.put hid hauth hleases.1 fun _ => hleases.2
    | false => exact hc.put hid hauth (hstep.2 (by simpa using hreach)) (by simp)

omit [DecidableEq K] [DecidableEq N] [DecidableEq Q] in
theorem Sound.onVPPSessionCreated (hc : c.Sound)
    (hn : c.onVPPSessionCreated id = some c') : c'.Sound := by
  unfold Component.onVPPSessionCreated at hn
  split at hn
  · rename_i s hs
    cases hn
    refine ⟨hc.shape, hc.poolVRFs, hc.within, hc.fresh, hc.sessionID, hc.wantAuth, hc.leases,
      fun j t ht => ?_⟩
    simp only [update_apply] at ht
    split at ht
    · rename_i hj
      cases ht
      exact (hc.sessionID id s true hs).trans hj.symm
    · exact hc.stored j t ht
  · cases hn

theorem Sound.next (hc : c.Sound)
    (hpools : PoolsSound c.config) (hok : c.Careful i) (hn : c.next i = some c') : c'.Sound := by
  obtain ⟨env, event⟩ := i
  unfold next at hn
  split at hn
  · cases hn
  rename_i hlac
  cases event with
  | padr id vrf magic ipv6cp =>
    dsimp only at hn
    split at hn
    · cases hn
    · cases hn
      exact hc.handlePADR env id vrf magic ipv6cp
  | session id e =>
    dsimp only at hn
    split at hn
    · cases hn
    · rename_i hnot
      exact hc.handleSession hpools (eq_false_of_not_eq_true hlac)
        (eq_false_of_not_eq_true hnot) hok hn
  | vppSessionCreated id => exact hc.onVPPSessionCreated hn
  | restart expired magic ipv6cp =>
    cases hn
    exact hc.restoreSessions env magic ipv6cp hok

theorem config_next (hn : c.next i = some c') : c'.config = c.config := by
  unfold next at hn
  split at hn
  · cases hn
  split at hn
  · split at hn
    · cases hn
    · cases hn
      rfl
  · split at hn
    · cases hn
    · unfold handleSession at hn
      split at hn
      · cases hn
      · split at hn
        · obtain ⟨h', -, rfl⟩ := map_eq_some_iff.mp hn
          rfl
        · cases hn
  · unfold onVPPSessionCreated at hn
    split at hn
    · cases hn
      rfl
    · cases hn
  · cases hn
    rfl

theorem sound_of_reach (h : (machine K N S Q).Reach Careful c) : PoolsSound c.config → c.Sound := by
  refine h.invariant (fun c => PoolsSound c.config → c.Sound)
    (fun c hinit _ => Initial.sound hinit) ?_
  intro c i c' hc hok hn hpools
  rw [config_next hn] at hpools
  exact (hc hpools).next hpools hok hn

/-- In every run of careful steps over sound pools, two live sessions of a VRF
hold different IPv4 addresses. -/
theorem addresses_distinct {c : Component K N S Q} (h : (machine K N S Q).Reach Careful c)
    (hpools : PoolsSound c.config) {id id' : S} {s s' : Session K N S Q}
    (hs : c.sessions id = some (s, true)) (hs' : c.sessions id' = some (s', true))
    (hne : id ≠ id') (hvrf : s.vrf = s'.vrf) (hip : s.ipv4Address ≠ []) :
    equal s.ipv4Address s'.ipv4Address = false := by
  have hc := sound_of_reach h hpools
  by_contra hequal
  rw [not_eq_false] at hequal
  have hip' : s'.ipv4Address ≠ [] := by
    intro hnil
    rw [hnil] at hequal
    have hlen (ip : IP) : equal ip [] = true → ip = [] := by
      intro he
      unfold equal at he
      split at he
      · exact of_decide_eq_true he
      · simp at he
    exact hip (hlen _ hequal)
  have hsame := eq_of_holds (hc.pools hpools) ((hc.leases id s hs).own hip)
    ((hc.leases id' s' hs').own hip') (canon_eq_of_equal hequal) hvrf
  exact hne ((hc.sessionID id s true hs).symm.trans (hsame.trans (hc.sessionID id' s' true hs')))

end

def start (r : Registry Nat Nat Nat) : Component Nat Nat Nat Nat :=
  ⟨r, r, fun _ => none, fun _ => none⟩

def bringUp (env : Env Nat Nat Nat) (id : Nat) : List (ComponentInput Nat Nat Nat Nat) :=
  [⟨env, .padr id 0 7 ⟨[2, 0, 0, 0, 0, 0, 0, 1], [], [], fun i => i⟩⟩,
    ⟨env, .session id (.frame protoLCP [1, 1, 0, 4])⟩,
    ⟨env, .session id (.frame protoLCP [2, 1, 0, 4])⟩,
    ⟨env, .session id (.frame protoCHAP [2, 1, 0, 5, 0])⟩,
    ⟨env, .session id (.aaaResponse env.requestID true .empty)⟩]

def FromPool (c : Component Nat Nat Nat Nat) (i : ComponentInput Nat Nat Nat Nat) : Prop :=
  match i.event with
  | .session id (.aaaResponse _ true attrs) =>
    ∀ p ∈ c.sessions id, p.1.ipv4Address = [] ∧ p.1.ipcp.handler.peerConfig.address = [] ∧
      replyAddress p.1 attrs = [] ∧
      Allocatable c.registry (buildAllocContext i.env (i.env.resolveServiceGroup attrs) attrs)
  | .session _ .terminate | .restart .. => False
  | _ => True

instance (c : Component Nat Nat Nat Nat) (i : ComponentInput Nat Nat Nat Nat) :
    Decidable (FromPool c i) := by
  obtain ⟨env, e⟩ := i
  rcases e
  case session id e =>
    rcases e
    case aaaResponse q allowed attrs => rcases allowed <;> dsimp only [FromPool] <;> infer_instance
    all_goals dsimp only [FromPool]; infer_instance
  all_goals dsimp only [FromPool]; infer_instance

theorem FromPool.careful {c : Component Nat Nat Nat Nat} {i : ComponentInput Nat Nat Nat Nat}
    (h : FromPool c i) : c.Careful i := by
  obtain ⟨env, event⟩ := i
  cases event with
  | padr | vppSessionCreated => trivial
  | restart expired magic ipv6cp => exact absurd h id
  | session id e =>
    refine ⟨fun s _ hterm => ?_, fun s requestID attrs hs he _ => ?_⟩
    · subst hterm
      exact h
    · subst he
      obtain ⟨hip, hneg, hreply, hall⟩ := h (s, true) hs
      refine ⟨fun ip hold pool k hk => ?_, fun hne => absurd hreply hne, fun _ => hall⟩
      have hnil : ip = [] := by
        rcases hold with rfl | rfl
        · exact hip
        · exact hneg
      rw [hnil] at hk
      cases hk

def pooledEnv : Env Nat Nat Nat := { bareEnv 7 with ipv4Profile := some 0, v4Order := [0] }

theorem onePool_inRange {pool : Nat} {k : Addr}
    (h : onePool.registry.v4.InRange pool k) :
    pool = 0 ∧ (v4 0x0a000001#32).le k ∧ k.le (.v4 0x0a000002#32) := by
  obtain ⟨a, ha, hrange⟩ := h
  by_cases hpool : pool = 0
  · subst hpool
    cases ha
    exact ⟨rfl, hrange⟩
  · simp [onePool, hpool] at ha

theorem onePool_poolsSound : PoolsSound onePool.registry where
  ipv4 pool k hk := by
    obtain ⟨-, hlow, hhigh⟩ := onePool_inRange hk
    cases k with
    | invalid n => simp [le, bitLen] at hlow
    | v4 a =>
      refine ⟨a, ?_, rfl⟩
      rintro rfl
      simp [le, bitLen, value] at hlow
    | v6 a => simp [le, bitLen] at hhigh
  distinct pool pool' k hk hk' _ := (onePool_inRange hk).1.trans (onePool_inRange hk').1.symm

theorem config_run {ok : Component Nat Nat Nat Nat → ComponentInput Nat Nat Nat Nat → Prop}
    [∀ c i, Decidable (ok c i)] {c c' : Component Nat Nat Nat Nat}
    {es : List (ComponentInput Nat Nat Nat Nat)} (h : run next ok c es = some c') :
    c'.config = c.config := by
  induction es generalizing c with
  | nil =>
    cases h
    rfl
  | cons e es ih =>
    unfold run at h
    split at h
    · obtain ⟨c1, hc1, h⟩ := bind_eq_some_iff.mp h
      rw [ih h, config_next hc1]
    · cases h

def holdsIP (c : Component Nat Nat Nat Nat) (id : Nat) (ip : IP) : Bool :=
  (c.sessions id).any fun s => s.2 && s.1.vrf == 0 && s.1.ipv4Address == ip

theorem exists_of_holdsIP {c : Component Nat Nat Nat Nat} {id : Nat} {ip : IP}
    (h : c.holdsIP id ip = true) :
    ∃ s, c.sessions id = some (s, true) ∧ s.vrf = 0 ∧ s.ipv4Address = ip := by
  unfold holdsIP at h
  cases hs : c.sessions id with
  | none => simp [hs] at h
  | some p =>
    obtain ⟨s, live⟩ := p
    simp only [hs, any_some, and_eq_true, beq_iff_eq] at h
    exact ⟨s, by rw [h.1.1], h.1.2, h.2⟩

theorem addresses_distinct_onePool :
    ∃ (c : Component Nat Nat Nat Nat) (s s' : Session Nat Nat Nat Nat),
      c.sessions 1 = some (s, true) ∧ c.sessions 2 = some (s', true) ∧
      s.ipv4Address = [10, 0, 0, 1] ∧ equal s.ipv4Address s'.ipv4Address = false := by
  have hinit : (start onePool.registry).Initial :=
    ⟨onePool_initial.1, rfl, fun _ => rfl, fun _ => rfl⟩
  have hrun : (run next FromPool (start onePool.registry)
      (bringUp pooledEnv 1 ++ bringUp pooledEnv 2)).any
      (fun c => c.holdsIP 1 [10, 0, 0, 1] && c.holdsIP 2 [10, 0, 0, 2]) = true := by
    decide
  cases hc : run next FromPool (start onePool.registry)
      (bringUp pooledEnv 1 ++ bringUp pooledEnv 2) with
  | none => simp [hc] at hrun
  | some c =>
    rw [hc, any_some, and_eq_true] at hrun
    obtain ⟨s, hs, hvrf, hip⟩ := exists_of_holdsIP hrun.1
    obtain ⟨s', hs', hvrf', -⟩ := exists_of_holdsIP hrun.2
    have hreach : (machine Nat Nat Nat Nat).Reach Careful c :=
      ((Reach.init hinit).of_run hc).mono fun _ _ => FromPool.careful
    have hpools : PoolsSound c.config := by
      rw [config_run hc]
      exact onePool_poolsSound
    exact ⟨c, s, s', hs, hs', hip, addresses_distinct hreach hpools hs hs' (by decide)
      (hvrf.trans hvrf'.symm) (by simp [hip])⟩

/-- Two subscribers of a group without pools both get the fallback address. -/
theorem fallback_shared :
    ∃ c : Component Nat Nat Nat Nat, (machine Nat Nat Nat Nat).Reach (fun _ _ => True) c ∧
      ∃ s s', c.sessions 1 = some (s, true) ∧ c.sessions 2 = some (s', true) ∧ s.vrf = s'.vrf ∧
        s.ipv4Address ≠ [] ∧ equal s.ipv4Address s'.ipv4Address = true := by
  have hinit : (start bareHost.registry).Initial :=
    ⟨nofun, rfl, fun _ => rfl, fun _ => rfl⟩
  obtain ⟨c, hc, hheld⟩ : ∃ c : Component Nat Nat Nat Nat,
      (machine Nat Nat Nat Nat).Reach (fun _ _ => True) c ∧
      (c.holdsIP 1 fallbackIPv4 && c.holdsIP 2 fallbackIPv4) = true :=
    exists_reach_of_run hinit (bringUp (bareEnv 7) 1 ++ bringUp (bareEnv 7) 2) (by decide)
  rw [and_eq_true] at hheld
  obtain ⟨s, hs, hvrf, hip⟩ := exists_of_holdsIP hheld.1
  obtain ⟨s', hs', hvrf', hip'⟩ := exists_of_holdsIP hheld.2
  refine ⟨c, hc, s, s', hs, hs', hvrf.trans hvrf'.symm, ?_, ?_⟩
  · rw [hip]
    decide
  · rw [hip, hip']
    decide

end Component
end Osvbng.Pppoe
