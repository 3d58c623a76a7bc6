import Osvbng.Ipoe.Component

/-!
# What an event does to the sessions

Of the handlers only few change the lease of a session or remove one. `Component.effect`
says which session that is and what it becomes, and `Component.next_effect` says what
follows for the rest of the component. What is proved about runs uses nothing else.
-/

namespace Osvbng.Ipoe
open Function Option List Lib Lib.Slice Lib.NetIP Index
open Session (TupleKey SessionKey Family Target)

/-- What a session keeps as long as its lease does not change. -/
structure Held where
  tuple : TupleKey
  sessionID : Bytes
  acctSessionID : Bytes
  ipv4 : IP
  ipv6Address : IP
  ipv6Bound : Bool
  closing : Bool

def Subscriber.held (s : Subscriber) : Held :=
  ⟨s.tuple, s.sessionID, s.acctSessionID, s.ipv4, s.ipv6Address, s.ipv6Bound, s.closing⟩

inductive Effect where
  /-- No lease changes. An interface may be made, for a session and under a key, and the AAA
  server may be asked for a session under a name. -/
  | quiet (made : Option (Nat × IfKey)) (named : Option (Nat × Bytes))
  /-- A session takes a lease or gives one up, and is checkpointed. -/
  | leased (i : Nat) (old new : Subscriber) (counted : Nat)
  /-- A session goes, with the entries under some keys. A counter may be lowered, and the
  interface given back. -/
  | removed (i : Nat) (old new : Subscriber) (keys : List Key) (counted : Option TupleKey)
      (freed : Bool)
  | restarted (r : Restart)

namespace Component
variable (c : Component)

def found (i : Option Nat) (f : Nat → Subscriber → Effect) : Effect :=
  (i.bind fun i => (c.objects[i]?).map (f i)).getD (.quiet none none)

/-- A message of a session that is not approved, with the name that the policy makes. -/
def asking (i : Nat) (env : Env) (sess : Subscriber) : Option (Nat × Bytes) :=
  if sess.aaaApproved || sess.aaaInFlight then none else some (i, env.username)

def message (family : Family) (env : Env) (pkt : Packet) : Effect :=
  .quiet none <| (c.index (.sessions (c.makeSessionKey family pkt.tuple))).bind fun i =>
    (c.objects[i]?).bind (asking i env)

def acked (now : Nat) (ip : IP) (leaseTime : UInt32) (i : Nat) (sess : Subscriber) : Effect :=
  .leased i sess (sess.handleAck now ip leaseTime) (if sess.state = .bound then 0 else 1)

/-- A release of one family, with the entries that go before that of the identifier. -/
def released (t : TupleKey) (ks : List Key) (i : Nat) (sess : Subscriber)
    (lease : SessionState × Bool) : Effect :=
  let gone := sess.release lease.1
  if lease.2 then
    .removed i sess gone (ks ++ .sessionID sess.sessionID :: gone.indexKeys) (some t) true
  else .leased i sess gone 0

def keys (sess : Subscriber) : List Key :=
  [.sessions (c.makeSessionKeyV4 sess.tuple), .sessions (c.makeSessionKeyV6 sess.tuple),
    .sessionID sess.sessionID] ++ sess.indexKeys

def effect : ComponentEvent → Effect
  | .discover env pkt => c.message .v4 env pkt
  | .request env pkt => c.message .v4 env pkt
  | .solicit env pkt => c.message .v6 env pkt
  | .answer n now response =>
    match c.exchanges[n]?, response with
    | some x, .ack ip leaseTime =>
      if x.origin = .live then c.found (some x.sess) (acked now ip leaseTime) else .quiet none none
    | some x, .reply r =>
      if x.origin = .live || x.messages.head? = some .request6 then
        c.found (some x.sess) fun i sess => .leased i sess (sess.handleDHCPv6Reply now r) 0
      else .quiet none none
    | _, _ => .quiet none none
  | .serverResponse xid now _ (.ack ip leaseTime) =>
    c.found (c.index (.xid xid)) (acked now ip leaseTime)
  | .aaaResponse n false _ _ =>
    c.found ((c.aaa[n]?).bind (c.index <| .sessionID ·)) fun i sess =>
      .removed i sess { sess.close with
          aaaApproved := false
          aaaInFlight := false
          pendingDHCPDiscover := false
          pendingDHCPRequest := false } (.xid sess.xid :: c.keys sess) none false
  | .vpp n (some _) =>
    match c.vpp[n]? with
    | some (.addIPoESession i key) => .quiet (some (i, key)) none
    | _ => .quiet none none
  | .release t _ =>
    c.found (c.index (.sessions (c.makeSessionKeyV4 t))) fun i sess =>
      released t [.xid sess.xid, .sessions (c.makeSessionKeyV4 t)] i sess
        (sess.toSessionState.handleRelease (c.unified t.svlan t.cvlan))
  | .release6 t =>
    c.found (c.index (.sessions (c.makeSessionKeyV6 t))) fun i sess =>
      released t [.sessions (c.makeSessionKeyV6 t)] i sess
        (sess.toSessionState.handleDHCPv6Release (c.unified t.svlan t.cvlan))
  | .terminate ev =>
    c.found (c.resolveTerminateTarget ev) fun i sess =>
      .removed i sess sess.close (c.keys sess) none true
  | .sweep n =>
    match c.toDelete[n]? with
    | some (key, i) => c.found (some i) fun i sess =>
      .removed i sess sess.close
        ([.xid sess.xid, .sessions key, .sessionID sess.sessionID] ++ sess.indexKeys) none true
    | none => .quiet none none
  | .restart r => .restarted r
  | _ => .quiet none none

/-- No lease changes: sessions are new or as they were, and new entries lead to sessions
that are not removed. -/
structure Quiet (c : Component) (made : Option (Nat × IfKey)) (named : Option (Nat × Bytes))
    (c' : Component) : Prop where
  unified : c'.unified = c.unified
  held : ∃ new, c'.objects.map (·.held) = c.objects.map (·.held) ++ new ∧
    ∀ h ∈ new, h.ipv4 = [] ∧ h.closing = false
  username : ∀ i, ∀ sess ∈ c.objects[i]?, ∀ sess' ∈ c'.objects[i]?,
    sess'.username = sess.username ∨ named = some (i, sess'.username)
  index : ∀ k j, c'.index k = some j → c.index k = some j ∨
    ∃ sess, c'.objects[j]? = some sess ∧ sess.closing = false ∧
      (k = .xid sess.xid ∨ k ∈ c.keys sess)
  counters : c'.counters = c.counters
  writes : ∀ w ∈ c'.writes, w ∈ c.writes
  interfaces : ∀ f ∈ c'.interfaces, f ∈ c.interfaces ∨ f.owner.map (·, f.key) = made
  vpp : ∀ key, .deleteIPoESession key ∈ c.vpp → .deleteIPoESession key ∈ c'.vpp ∨
    ∀ f ∈ c'.interfaces, f.key ≠ key

structure Changed (c : Component) (i : Nat) (old new : Subscriber) (c' : Component) : Prop where
  found : c.objects[i]? = some old
  objects : c'.objects = c.objects.set i new
  unified : c'.unified = c.unified
  interfaces : c'.interfaces = c.interfaces
  tuple : new.tuple = old.tuple
  username : new.username = old.username

structure Leased (c : Component) (i : Nat) (old new : Subscriber) (counted : Nat)
    (c' : Component) : Prop extends Changed c i old new c' where
  index : ∀ k j, c'.index k = some j → c.index k = some j ∨ (j = i ∧ k ∈ new.indexKeys)
  counters : c'.counters = update c.counters old.tuple (c.counters old.tuple + counted)
  writes : c'.writes = c.writes ++ [(i, new)]
  vpp : c'.vpp = c.vpp
  closing : new.closing = old.closing

structure Removed (c : Component) (i : Nat) (old new : Subscriber) (ks : List Key)
    (counted : Option TupleKey) (freed : Bool) (c' : Component) : Prop
    extends Changed c i old new c' where
  index : c'.index = erase ks c.index
  counters : c'.counters = counted.elim c.counters fun t => update c.counters t (c.counters t - 1)
  writes : c'.writes = c.writes
  vpp : c'.vpp = c.vpp ++
    if freed then (if old.ipoeSwIfIndex = 0 then [] else [.deleteIPoESession old.ifKey]) else []
  closing : new.closing = true
  ipv4 : new.ipv4 = old.ipv4 ∨ new.ipv4 = []
  ipv6Bound : new.ipv6Bound = old.ipv6Bound ∨ new.ipv6Bound = false

end Component

def Effect.Done (c : Component) : Effect → Component → Prop
  | .quiet made named, c' => c.Quiet made named c'
  | .leased i old new counted, c' => c.Leased i old new counted c'
  | .removed i old new ks counted freed, c' => c.Removed i old new ks counted freed c'
  | .restarted r, c' => c' = c.restart r

namespace Component
variable {c c₁ c' : Component} {e : ComponentEvent} {made : Option (Nat × IfKey)}
  {named : Option (Nat × Bytes)} {i n : Nat}
  {sess sess' : Subscriber} {t : TupleKey}

/-! ## Quiet steps -/

/-- The parts that a quiet step leaves alone unless it makes an interface. -/
structure Frame (c c' : Component) : Prop where
  unified : c'.unified = c.unified
  counters : c'.counters = c.counters
  interfaces : c'.interfaces = c.interfaces
  writes : ∀ w ∈ c'.writes, w ∈ c.writes
  vpp : ∀ key, .deleteIPoESession key ∈ c.vpp → .deleteIPoESession key ∈ c'.vpp

theorem Frame.of_eq (h : (c'.unified, c'.counters, c'.interfaces, c'.writes, c'.vpp) =
    (c.unified, c.counters, c.interfaces, c.writes, c.vpp)) : c.Frame c' := by
  injections
  constructor <;> simp [*]

namespace Quiet

theorem of_held (hf : c.Frame c') (hheld : c'.objects.map (·.held) = c.objects.map (·.held))
    (hname : ∀ i, ∀ sess ∈ c.objects[i]?, ∀ sess' ∈ c'.objects[i]?,
      sess'.username = sess.username ∨ named = some (i, sess'.username))
    (hindex : ∀ k j, c'.index k = some j → c.index k = some j ∨
      ∃ sess, c'.objects[j]? = some sess ∧ sess.closing = false ∧
        (k = .xid sess.xid ∨ k ∈ c.keys sess)) : c.Quiet none named c' where
  unified := hf.unified
  held := ⟨[], by rw [hheld, append_nil], by simp⟩
  username := hname
  index := hindex
  counters := hf.counters
  writes := hf.writes
  interfaces f hfi := .inl (hf.interfaces ▸ hfi)
  vpp key hkey := .inl (hf.vpp key hkey)

theorem username_same (hobjects : c'.objects = c.objects) (i : Nat) (sess : Subscriber)
    (hsess : sess ∈ c.objects[i]?) (sess' : Subscriber) (hsess' : sess' ∈ c'.objects[i]?) :
    sess'.username = sess.username ∨ named = some (i, sess'.username) := by
  rw [hobjects, hsess] at hsess'
  cases hsess'
  exact .inl rfl

theorem of_same (hf : c.Frame c') (hobjects : c'.objects = c.objects)
    (hindex : c'.index = c.index) : c.Quiet none none c' :=
  of_held hf (by rw [hobjects]) (username_same hobjects) fun k j hk => .inl (by rw [← hindex, hk])

theorem map_held_set (h : c.objects[i]? = some sess) (hheld : sess'.held = sess.held) :
    (c.objects.set i sess').map (·.held) = c.objects.map (·.held) := by
  rw [map_set, hheld]
  apply ext_getElem?
  intro j
  by_cases hj : i = j
  · subst hj
    rw [List.getElem?_set_self (by simpa using (List.getElem?_eq_some_iff.mp h).1),
      List.getElem?_map, h]
    rfl
  · rw [getElem?_set_ne hj]

theorem username_set (hsess : c.objects[i]? = some sess)
    (hname : sess'.username = sess.username ∨ named = some (i, sess'.username)) (j : Nat)
    (s : Subscriber) (hs : s ∈ c.objects[j]?) (s' : Subscriber)
    (hs' : s' ∈ (c.objects.set i sess')[j]?) :
    s'.username = s.username ∨ named = some (j, s'.username) := by
  by_cases hj : i = j
  · subst hj
    rw [List.getElem?_set_self (List.getElem?_eq_some_iff.mp hsess).1] at hs'
    cases hs'
    cases hsess.symm.trans hs
    exact hname
  · rw [getElem?_set_ne hj, hs] at hs'
    cases hs'
    exact .inl rfl

theorem of_set (hf : c.Frame c') (hobjects : c'.objects = c.objects.set i sess')
    (hindex : c'.index = c.index) (hsess : c.objects[i]? = some sess)
    (hheld : sess'.held = sess.held)
    (hname : sess'.username = sess.username ∨ named = some (i, sess'.username)) :
    c.Quiet none named c' :=
  of_held hf (by rw [hobjects, map_held_set hsess hheld])
    (by rw [hobjects]; exact username_set hsess hname) fun k j hk => .inl (by rw [← hindex, hk])

theorem of_xid (hf : c.Frame c') (hobjects : c'.objects = c.objects.set i sess')
    (hindex : c'.index = update c.index (.xid sess'.xid) (some i))
    (hsess : c.objects[i]? = some sess) (hheld : sess'.held = sess.held)
    (hname : sess'.username = sess.username ∨ named = some (i, sess'.username))
    (hopen : ¬ sess.closing) : c.Quiet none named c' := by
  refine of_held hf (by rw [hobjects, map_held_set hsess hheld])
    (by rw [hobjects]; exact username_set hsess hname) fun k j hk => ?_
  rw [hindex, update_apply] at hk
  split at hk
  · rename_i hkey
    cases hk
    have hclosing := (congrArg Held.closing hheld).trans (Bool.eq_false_iff.mpr hopen)
    refine .inr ⟨sess', ?_, hclosing, .inl hkey⟩
    rw [hobjects, List.getElem?_set_self (List.getElem?_eq_some_iff.mp hsess).1]
  · exact .inl hk

theorem object (h : c.Quiet made named c') (hsess : c.objects[i]? = some sess) :
    ∃ sess', c'.objects[i]? = some sess' ∧ sess'.held = sess.held := by
  obtain ⟨new, heq, -⟩ := h.held
  have hi := congrArg (·[i]?) heq
  rw [List.getElem?_map, getElem?_append_left
    (by simpa using (List.getElem?_eq_some_iff.mp hsess).1), List.getElem?_map, hsess] at hi
  exact map_eq_some_iff.mp hi

theorem of_store {family : Family} {id name : Bytes} {sw : UInt32} {state : State}
    (h : (c.store (c.makeSessionKey family t) (.new id t sw state)).Quiet none
      (some (c.objects.length, name)) c') : c.Quiet none none c' := by
  obtain ⟨new, heq, hnew⟩ := h.held
  refine ⟨h.unified, ⟨(Subscriber.new id t sw state).held :: new, ?_, ?_⟩,
    fun i sess hsess sess' hsess' => ?_, fun k j hk => ?_, h.counters, h.writes, h.interfaces,
    h.vpp⟩
  · rw [heq]
    simp [store]
  · intro x hx
    rcases mem_cons.mp hx with rfl | hx
    · exact ⟨rfl, rfl⟩
    · exact hnew x hx
  · have hlt := (List.getElem?_eq_some_iff.mp hsess).1
    refine .inl ((h.username i sess ?_ sess' hsess').resolve_right fun hnamed => ?_)
    · exact (getElem?_append_left hlt).trans hsess
    · cases hnamed
      exact absurd hlt (lt_irrefl _)
  · refine (h.index k j hk).elim (fun hold => ?_) .inr
    obtain hold | ⟨rfl, hkey⟩ := insert_cases hold
    · exact .inl hold
    · have hstored : (c.store (c.makeSessionKey family t) (.new id t sw
          state)).objects[c.objects.length]? = some (.new id t sw state) := by simp [store]
      obtain ⟨sess, hsess, hheld⟩ := h.object hstored
      refine .inr ⟨sess, hsess, congrArg Held.closing hheld, .inr ?_⟩
      unfold keys
      rw [show sess.tuple = t from congrArg Held.tuple hheld,
        show sess.sessionID = id from congrArg Held.sessionID hheld]
      rcases mem_pair.mp hkey with rfl | rfl
      · cases family <;> simp [makeSessionKeyV4, makeSessionKeyV6]
      · simp [Subscriber.new]

theorem of_sessionFor {env : Env} {pkt : Packet} {family : Family} {state : State} {allowed : Bool}
    (h : c.sessionFor env pkt family state allowed = some (c₁, i))
    (hsess : c₁.objects[i]? = some sess) (h' : c₁.Quiet none (asking i env sess) c') :
    (c.message family env pkt).Done c c' := by
  unfold sessionFor at h
  dsimp only at h
  unfold message
  split at h
  · rename_i hi
    split at h
    · cases h
      rw [hi, bind_some, hsess, bind_some]
      exact h'
    · cases h
  · rename_i hi
    split at h
    · cases h
      rw [hi]
      have hnew : sess = .new env.sessionID pkt.tuple pkt.swIfIndex state := by
        simpa [store] using hsess.symm
      rw [hnew] at h'
      exact of_store h'
    · cases h

end Quiet

section Messages
variable {env : Env} {pkt : Packet} {m : Message} {isTime : Bool} {sess₀ : Subscriber}

/-- What `proceed` makes of the session: only its name may change. -/
theorem held_asking {asks : Bool} (hheld : sess'.held = sess₀.held) :
    (if asks then { sess' with username := env.username } else sess').held = sess₀.held := by
  split <;> exact hheld

theorem username_asking (hname : sess'.username = sess₀.username)
    (happroved : sess.aaaApproved = sess₀.aaaApproved)
    (hflight : sess.aaaInFlight = sess₀.aaaInFlight) :
    (if !sess.aaaApproved && !sess.aaaInFlight then { sess' with username := env.username }
      else sess').username = sess₀.username ∨ asking i env sess₀ = some (i, (if !sess.aaaApproved &&
        !sess.aaaInFlight then { sess' with username := env.username } else sess').username) := by
  rw [happroved, hflight]
  cases ha : sess₀.aaaApproved <;> cases hf : sess₀.aaaInFlight <;> simp [asking, ha, hf, hname]

theorem quiet_proceed_xid (hsess : c.objects[i]? = some sess₀) (hheld : sess'.held = sess₀.held)
    (hname : sess'.username = sess₀.username) (happroved : sess.aaaApproved = sess₀.aaaApproved)
    (hflight : sess.aaaInFlight = sess₀.aaaInFlight) (hopen : ¬ sess₀.closing) :
    c.Quiet none (asking i env sess₀)
      ((c.storeXid sess'.xid i).proceed env i sess sess' m isTime) := by
  refine .of_xid (.of_eq rfl) rfl ?_ hsess (held_asking hheld)
    (username_asking hname happroved hflight) hopen
  split <;> rfl

theorem message_handleDiscover (h : c.handleDiscover env pkt = some c') :
    (c.message .v4 env pkt).Done c c' := by
  obtain ⟨⟨c₁, i⟩, hfor, h⟩ := bind_eq_some_iff.mp h
  obtain ⟨sess, hsess, h⟩ := bind_eq_some_iff.mp h
  split at h
  · cases h
  · rename_i hopen
    cases h
    exact .of_sessionFor hfor hsess (quiet_proceed_xid hsess rfl rfl rfl rfl hopen)

theorem message_handleRequest (h : c.handleRequest env pkt = some c') :
    (c.message .v4 env pkt).Done c c' := by
  obtain ⟨⟨c₁, i⟩, hfor, h⟩ := bind_eq_some_iff.mp h
  obtain ⟨sess, hsess, h⟩ := bind_eq_some_iff.mp h
  refine .of_sessionFor hfor hsess ?_
  dsimp only at h
  split at h
  · cases h
    exact .of_set (.of_eq rfl) rfl rfl hsess rfl (.inl rfl)
  · rename_i hopen
    cases h
    exact quiet_proceed_xid hsess rfl rfl rfl rfl hopen

theorem message_handleDHCPv6Solicit (h : c.handleDHCPv6Solicit env pkt = some c') :
    (c.message .v6 env pkt).Done c c' := by
  obtain ⟨⟨c₁, i⟩, hfor, h⟩ := bind_eq_some_iff.mp h
  obtain ⟨sess, hsess, h⟩ := bind_eq_some_iff.mp h
  split at h
  · cases h
  · cases h
    refine .of_sessionFor hfor hsess ?_
    exact .of_set (.of_eq rfl) rfl rfl hsess (held_asking rfl) (username_asking rfl rfl rfl)

theorem quiet_handleDHCPv6Request (h : c.handleDHCPv6Request env pkt = some c') :
    c.Quiet none none c' := by
  obtain ⟨i, -, h⟩ := bind_eq_some_iff.mp h
  obtain ⟨sess, hsess, h⟩ := bind_eq_some_iff.mp h
  split at h
  · cases h
    exact .of_set (.of_eq rfl) rfl rfl hsess rfl (.inl rfl)
  · cases h

end Messages

/-! ## Leases and removals -/

theorem found_done {g : Nat → Subscriber → Effect} {o : Option Nat} (hi : o = some i)
    (hsess : c.objects[i]? = some sess) (h : (g i sess).Done c c') : (c.found o g).Done c c' := by
  unfold found
  rw [hi, bind_some, hsess]
  exact h

section Leases
variable {now : Nat} {ip : IP} {leaseTime : UInt32} {response : Response}

theorem leased_handleAck {xs : List Exchange} (hsess : c.objects[i]? = some sess) :
    (acked now ip leaseTime i sess).Done c
      (({ c with exchanges := xs } : Component).handleAck i sess now ip leaseTime) :=
  ⟨⟨hsess, rfl, rfl, rfl, rfl, rfl⟩, fun _ _ hk => insert_cases hk, rfl, rfl, rfl, rfl⟩

theorem answer_done (h : c.answer n now response = some c') :
    (c.effect (.answer n now response)).Done c c' := by
  obtain ⟨x, hx, h⟩ := bind_eq_some_iff.mp h
  obtain ⟨m, hm, h⟩ := bind_eq_some_iff.mp h
  obtain ⟨sess, hsess, h⟩ := bind_eq_some_iff.mp h
  have hquiet : c.Quiet none none (c.advance n x m response) := .of_same (.of_eq rfl) rfl rfl
  obtain ⟨-, h⟩ := ite_none_right_eq_some.mp h
  cases response with
  | ack ip leaseTime =>
    cases h
    simp only [effect, hx]
    split
    · exact found_done rfl hsess (leased_handleAck hsess)
    · exact hquiet
  | reply r =>
    cases h
    simp only [effect, hx, hm, Option.some.injEq]
    split
    · refine found_done rfl hsess ?_
      exact ⟨⟨hsess, rfl, rfl, rfl, rfl, rfl⟩, fun _ _ hk => insert_cases hk,
        (update_eq_self _ _).symm, rfl, rfl, rfl⟩
    · exact hquiet
  | other | failed =>
    cases h
    simp only [effect, hx]
    exact hquiet

theorem handleAAAResponse_done {allowed isVRFResolved isSetUp : Bool}
    (h : c.handleAAAResponse n allowed isVRFResolved isSetUp = some c') :
    (c.effect (.aaaResponse n allowed isVRFResolved isSetUp)).Done c c' := by
  obtain ⟨id, hid, h⟩ := bind_eq_some_iff.mp h
  dsimp only at h
  split at h
  · rename_i hnone
    cases h
    have hquiet : c.Quiet none none { c with aaa := c.aaa.eraseIdx n } :=
      .of_same (.of_eq rfl) rfl rfl
    cases allowed with
    | true => exact hquiet
    | false =>
      simp only [effect, hid, bind_some, hnone]
      exact hquiet
  · rename_i i hi
    obtain ⟨sess, hsess, h⟩ := bind_eq_some_iff.mp h
    cases h
    cases allowed with
    | true =>
      simp only [if_true]
      unfold approveSession
      split
      · exact .of_set ⟨rfl, rfl, rfl, fun _ h => h, fun _ h => mem_append_left _ h⟩ rfl rfl hsess
          rfl (.inl rfl)
      · exact .of_set (.of_eq rfl) rfl rfl hsess rfl (.inl rfl)
    | false =>
      refine found_done (by rw [hid, bind_some]; exact hi) hsess ?_
      exact ⟨⟨hsess, rfl, rfl, rfl, rfl, rfl⟩, erase_erase _ _, rfl, rfl, (append_nil _).symm, rfl,
        .inl rfl, .inl rfl⟩

variable (s : SessionState)

/-- What a release of one family does: it closes the session or leaves it open. -/
def IsRelease (lease : SessionState × Bool) : Prop :=
  (lease.2 = true ∧ lease.1.closing = true ∧ lease.1.ipv4 = [] ∧ lease.1.ipv6Bound = false) ∨
    (lease.2 = false ∧ lease.1.closing = s.closing)

theorem isRelease_release (unified : Bool) :
    IsRelease s (s.handleRelease unified) ∧ IsRelease s (s.handleDHCPv6Release unified) := by
  unfold SessionState.handleRelease SessionState.handleDHCPv6Release
  constructor
  all_goals
    dsimp only
    split
    · exact .inl ⟨rfl, rfl, rfl, rfl⟩
    · exact .inr ⟨rfl, rfl⟩

theorem handleRelease_done {ciaddr : IP} (h : c.handleRelease t ciaddr = some c') :
    (c.effect (.release t ciaddr)).Done c c' := by
  obtain ⟨i, hi, h⟩ := bind_eq_some_iff.mp h
  obtain ⟨sess, hsess, h⟩ := bind_eq_some_iff.mp h
  refine found_done hi hsess ?_
  obtain ⟨-, h⟩ := ite_none_left_eq_some.mp h
  dsimp only [released] at h ⊢
  rcases (isRelease_release sess.toSessionState (c.unified t.svlan t.cvlan)).1 with
    ⟨hgone, hclosing, hipv4, hipv6⟩ | ⟨hkept, hclosing⟩
  · rw [if_pos hgone] at h ⊢
    cases h
    refine ⟨⟨hsess, rfl, rfl, rfl, rfl, rfl⟩, ?_, rfl, rfl, rfl, hclosing, .inr hipv4, .inr hipv6⟩
    exact (erase_erase _ _).trans (erase_erase _ _)
  · rw [if_neg (by rw [hkept]; decide)] at h ⊢
    cases h
    refine ⟨⟨hsess, rfl, rfl, rfl, rfl, rfl⟩, fun k j hk => ?_, (update_eq_self _ _).symm, rfl,
      rfl, hclosing⟩
    exact (insert_cases hk).imp_left fun hk => (erase_eq_some hk).2

theorem handleDHCPv6Release_done (h : c.handleDHCPv6Release t = some c') :
    (c.effect (.release6 t)).Done c c' := by
  obtain ⟨i, hi, h⟩ := bind_eq_some_iff.mp h
  obtain ⟨sess, hsess, h⟩ := bind_eq_some_iff.mp h
  refine found_done hi hsess ?_
  dsimp only [released] at h ⊢
  rcases (isRelease_release sess.toSessionState (c.unified t.svlan t.cvlan)).2 with
    ⟨hgone, hclosing, hipv4, hipv6⟩ | ⟨hkept, hclosing⟩
  · rw [if_pos hgone] at h ⊢
    cases h
    exact ⟨⟨hsess, rfl, rfl, rfl, rfl, rfl⟩, erase_erase _ _, rfl, rfl, rfl, hclosing, .inr hipv4,
      .inr hipv6⟩
  · rw [if_neg (by rw [hkept]; decide)] at h ⊢
    cases h
    exact ⟨⟨hsess, rfl, rfl, rfl, rfl, rfl⟩, fun k j hk => insert_cases hk,
      (update_eq_self _ _).symm, rfl, rfl, hclosing⟩

theorem handleSubscriberTerminate_done {ev : Target}
    (h : c.handleSubscriberTerminate ev = some c') : (c.effect (.terminate ev)).Done c c' := by
  obtain ⟨i, hi, h⟩ := bind_eq_some_iff.mp h
  obtain ⟨sess, hsess, h⟩ := bind_eq_some_iff.mp h
  split at h
  · cases h
  · cases h
    refine found_done hi hsess ?_
    exact ⟨⟨hsess, rfl, rfl, rfl, rfl, rfl⟩, erase_erase _ _, rfl, rfl, rfl, rfl, .inl rfl,
      .inl rfl⟩

theorem sweep_done (h : c.sweep n = some c') : (c.effect (.sweep n)).Done c c' := by
  obtain ⟨⟨key, i⟩, hi, h⟩ := bind_eq_some_iff.mp h
  obtain ⟨sess, hsess, h⟩ := bind_eq_some_iff.mp h
  cases h
  simp only [effect, hi]
  refine found_done rfl hsess ?_
  exact ⟨⟨hsess, rfl, rfl, rfl, rfl, rfl⟩, erase_erase _ _, rfl, rfl, rfl, rfl, .inl rfl, .inl rfl⟩

end Leases

/-! ## Requests to the dataplane -/

theorem mem_vpp_eraseIdx {call : VppCall} {key : IfKey} (hn : c.vpp[n]? = some call)
    (hne : call ≠ .deleteIPoESession key) (h : .deleteIPoESession key ∈ c.vpp) :
    .deleteIPoESession key ∈ c.vpp.eraseIdx n := by
  obtain ⟨m, hm⟩ := getElem?_of_mem h
  refine mem_eraseIdx_iff_getElem?.mpr ⟨m, fun heq => hne ?_, hm⟩
  rw [heq, hn] at hm
  exact some_inj.mp hm

theorem runVpp_done {result : Option UInt32} (h : c.runVpp n result = some c') :
    (c.effect (.vpp n result)).Done c c' := by
  unfold runVpp at h
  split at h
  · cases h
  · rename_i key hn
    cases h
    have hquiet : c.Quiet none none { c with
        vpp := c.vpp.eraseIdx n, interfaces := c.interfaces.filter (·.key ≠ key) } := by
      refine ⟨rfl, ⟨[], (append_nil _).symm, by simp⟩, Quiet.username_same rfl,
        fun k j hk => .inl hk, rfl, fun _ h => h, fun f hf => .inl (mem_filter.mp hf).1,
        fun key' hkey' => ?_⟩
      by_cases heq : key' = key
      · refine .inr fun f hf hfk => ?_
        exact of_decide_eq_true (mem_filter.mp hf).2 (hfk.trans heq)
      · exact .inl (mem_vpp_eraseIdx hn (fun h => heq (VppCall.deleteIPoESession.inj h).symm) hkey')
    cases result with
    | none => exact hquiet
    | some sw =>
      simp only [effect, hn]
      exact hquiet
  · rename_i i key hn
    have hvpp key' : .deleteIPoESession key' ∈ c.vpp →
        .deleteIPoESession key' ∈ c.vpp.eraseIdx n :=
      mem_vpp_eraseIdx hn VppCall.noConfusion
    dsimp only at h
    split at h
    · cases h
      exact .of_same ⟨rfl, rfl, rfl, fun _ h => h, hvpp⟩ rfl rfl
    · cases h
    · rename_i sw sess hsess
      obtain ⟨-, h⟩ := ite_none_right_eq_some.mp h
      cases h
      simp only [effect, hn]
      have hmade : ∀ f ∈ c.interfaces.filter (·.key ≠ key) ++ [⟨key, sw, some i⟩],
          f ∈ c.interfaces ∨ f.owner.map (·, f.key) = some (i, key) := by
        intro f hf
        rcases mem_append.mp hf with hf | hf
        · exact .inl (mem_filter.mp hf).1
        · rw [mem_singleton.mp hf]
          exact .inr rfl
      unfold onSessionCreated
      split
      · exact ⟨rfl, ⟨[], (append_nil _).symm, by simp⟩, Quiet.username_same rfl,
          fun k j hk => .inl hk, rfl, fun _ h => h, hmade, fun key' hkey' => .inl (hvpp key' hkey')⟩
      · refine ⟨rfl, ⟨[], ?_, by simp⟩, Quiet.username_set hsess (.inl rfl),
          fun k j hk => .inl hk, rfl, fun _ h => h, hmade, fun key' hkey' => .inl (hvpp key' hkey')⟩
        rw [append_nil]
        exact Quiet.map_held_set hsess rfl

theorem next_effect (h : c.next e = some c') : (c.effect e).Done c c' := by
  cases e with
  | discover env pkt => exact message_handleDiscover (ite_none_right_eq_some.mp h).2
  | request env pkt => exact message_handleRequest (ite_none_right_eq_some.mp h).2
  | solicit env pkt => exact message_handleDHCPv6Solicit (ite_none_right_eq_some.mp h).2
  | request6 env pkt => exact quiet_handleDHCPv6Request h
  | answer n now response => exact answer_done h
  | serverResponse xid now isRelayed response =>
    obtain ⟨i, hi, h⟩ := bind_eq_some_iff.mp h
    obtain ⟨sess, hsess, h⟩ := bind_eq_some_iff.mp h
    split at h
    · split at h
      · cases h
        exact found_done hi hsess (leased_handleAck hsess)
      · cases h
    · cases h
  | aaaResponse n allowed isVRFResolved isSetUp => exact handleAAAResponse_done h
  | vpp n result => exact runVpp_done h
  | release t ciaddr => exact handleRelease_done h
  | release6 t => exact handleDHCPv6Release_done h
  | terminate ev => exact handleSubscriberTerminate_done h
  | scan now key =>
    obtain ⟨i, -, h⟩ := bind_eq_some_iff.mp h
    obtain ⟨sess, -, h⟩ := bind_eq_some_iff.mp h
    cases (ite_none_right_eq_some.mp h).2
    exact .of_same (.of_eq rfl) rfl rfl
  | sweep n => exact sweep_done h
  | persist n =>
    obtain ⟨w, -, rfl⟩ := map_eq_some_iff.mp h
    exact .of_same ⟨rfl, rfl, rfl, fun _ h => mem_of_mem_eraseIdx h, fun _ h => h⟩ rfl rfl
  | restart r =>
    cases h
    rfl

/-! ## Restarts -/

variable (r : Restart) (s : Subscriber)

def isKept : Bool := !s.isSessionExpired r.now

def isSetUp : Bool :=
  !(s.aaaApproved && !s.ipoeSessionCreated) && (r.programmed s.sessionID).isSome

def isCounted : Bool :=
  isKept r s && isSetUp r s && s.state = .bound

def restoredKeys (c : Component) (s : Subscriber) : List Key :=
  .sessions (c.makeSessionKeyV4 s.tuple) :: .sessionID s.sessionID :: s.indexKeys

structure Restored (r : Restart) (c : Component) (s : Subscriber) (c' : Component) : Prop where
  unified : c'.unified = c.unified
  kept : isKept r s → ∃ sess, c'.objects = c.objects ++ [sess] ∧
    sess.held = { s.held with closing := false } ∧ sess.indexKeys = s.indexKeys ∧
    c'.index = insert (c.restoredKeys s) c.objects.length c.index
  dropped : ¬ isKept r s → c'.objects = c.objects ∧ c'.index = c.index
  counters : ∀ t, c'.counters t = c.counters t + if s.tuple = t ∧ isCounted r s then 1 else 0

theorem restoreSession_spec (c : Component) (s : Subscriber) :
    Restored r c s (restoreSession r c s) := by
  unfold restoreSession
  by_cases hexpired : s.isSessionExpired r.now
  · rw [if_pos hexpired]
    have hdropped : isKept r s = false := by simp [isKept, hexpired]
    refine ⟨rfl, fun hkept => ?_, fun _ => ⟨rfl, rfl⟩, fun t => ?_⟩
    · simp [hdropped] at hkept
    · simp [isCounted, hdropped, deleteSessionCheckpoint]
  · rw [if_neg hexpired]
    have hkept : isKept r s = true := by simp [isKept, hexpired]
    split
    · rename_i hreset
      refine ⟨rfl, fun _ => ⟨_, rfl, rfl, rfl, rfl⟩, fun h => absurd hkept h, fun t => ?_⟩
      simp [isCounted, isSetUp, hreset, installInMemoryState, putRecord]
    · rename_i hset
      split
      · rename_i hnone
        refine ⟨rfl, fun _ => ⟨_, rfl, rfl, rfl, rfl⟩, fun h => absurd hkept h, fun t => ?_⟩
        simp [isCounted, isSetUp, hnone, installInMemoryState]
      · rename_i encap sw hsome
        refine ⟨rfl, fun _ => ⟨_, rfl, rfl, rfl, ?_⟩, fun h => absurd hkept h, fun t => ?_⟩
        · exact insert_insert fun k hk => mem_cons_of_mem _ (mem_cons_of_mem _ hk)
        · refine (update_apply ..).trans ?_
          have hcounted : isCounted r s = decide (s.state = .bound) := by
            simp [isCounted, hkept, isSetUp, hset, hsome]
          change (if t = s.tuple then c.counters s.tuple + (if s.state = .bound then 1 else 0)
            else c.counters t) = _
          rw [hcounted]
          by_cases ht : t = s.tuple
          · subst ht
            simp
          · simp [ht, Ne.symm ht]

/-- The sessions after a restart are those of the records that are kept. -/
theorem foldl_restoreSession (l : List Subscriber) (c : Component) :
    (l.foldl (restoreSession r) c).objects.map (·.held) = c.objects.map (·.held) ++
        (l.filter (isKept r)).map (fun s => { s.held with closing := false }) ∧
      ∀ t, (l.foldl (restoreSession r) c).counters t =
        c.counters t + l.countP fun s => s.tuple = t ∧ isCounted r s := by
  induction l generalizing c with
  | nil => simp
  | cons s l ih =>
    have hs := restoreSession_spec r c s
    obtain ⟨hheld, hcounters⟩ := ih (restoreSession r c s)
    rw [foldl_cons]
    refine ⟨?_, fun t => ?_⟩
    · rw [hheld]
      by_cases hkept : isKept r s
      · obtain ⟨sess, hobjects, hsess, -⟩ := hs.kept hkept
        simp [hobjects, hsess, hkept]
      · simp [(hs.dropped hkept).1, hkept]
    · rw [hcounters, hs.counters, countP_cons]
      simp only [decide_eq_true_eq]
      omega

end Component
end Osvbng.Ipoe
