import Osvbng.Allocator.Ownership
import Osvbng.Dhcp.Sessions
import Osvbng.Lib.Owned

/-!
# What the DHCP servers write

The lease tables and the pools seen as slots with owners. Every operation of
the servers and of the registry is given its effect: the slots it writes
whoever owns them. Reservations are refused when someone else has the
resource, so what remains are the records found by an identifier of a client.

`Stores.Acts` is a step on the stores as a whole, `Stores.Moves` one on behalf of a
session and `Stores.Clears` that of an operation that only gives back. No operation
changes the range of a pool, so the slots of a call can be read off before or after
others.
-/

namespace Osvbng.Dhcp
open Function Option Lib.Slice Lib.NetIP Lib.Owned Allocator Set Provider6 Lease Lease6 Provider4

inductive Slot (P : Type) where
  | v4 (x : Index Bytes IP)
  | iana (x : Index Bytes IP)
  | pd (x : Index Bytes IPNet)
  | poolV4 (x : P × Addr)
  | poolIANA (x : P × Addr)
  | poolPD (x : P × Nat)

inductive Binding (P : Type) where
  | address (ip : IP) (client : Bytes) (poolName : Option P)
  | delegated (pfx : IPNet) (client : Bytes) (poolName : Option P)
  | pooled
deriving DecidableEq

variable {P N S : Type}
variable {r r' : Registry P N S} {U : Set (Index Bytes IP)} {v6 : Provider6 P S}

def Lease.binding (l : Lease P S) : S × Binding P :=
  (l.sessionID, .address l.ip l.mac l.poolName)

def Lease6.address (l : Lease6 P S IP) : S × Binding P :=
  (l.sessionID, .address l.resource l.duid l.poolName)

def Lease6.delegated (l : Lease6 P S IPNet) : S × Binding P :=
  (l.sessionID, .delegated l.resource l.duid l.poolName)

def bankView {A R K : Type} [LeasePool A R K S] (b : Bank P N A) (x : P × K) :
    Option (S × Binding P) :=
  (b.owner x.1 x.2).map (·, .pooled)

namespace Stores

def view (st : Stores P N S) : Slot P → Option (S × Binding P)
  | .v4 x => tableView binding st.v4.leases st.v4.leasesByIP x
  | .iana x => tableView address st.v6.iana.byDUID st.v6.iana.byResource x
  | .pd x => tableView delegated st.v6.pd.byDUID st.v6.pd.byResource x
  | .poolV4 x => bankView st.registry.v4 x
  | .poolIANA x => bankView st.registry.iana x
  | .poolPD x => bankView st.registry.pd x

/-- A DHCPv4 lease that has expired is nobody's. -/
def Counts (st : Stores P N S) (now : Nat) : Slot P → Prop
  | .v4 (.client mac) => ∀ l, st.v4.leases mac = some l → now ≤ l.expireTime
  | .v4 (.resource ip) => ∀ l, st.v4.leasesByIP ip = some l → now ≤ l.expireTime
  | _ => True

end Stores

/-! ## The registry -/

/-- Registries that differ in the lease tables of their pools only. -/
structure SameShape (r r' : Registry P N S) : Prop where
  v4 : r.v4.SameShape r'.v4
  iana : r.iana.SameShape r'.iana
  pd : r.pd.SameShape r'.pd

theorem SameShape.refl (r : Registry P N S) : SameShape r r := ⟨.refl _, .refl _, .refl _⟩

theorem SameShape.trans {r'' : Registry P N S} (h : SameShape r r') (h' : SameShape r' r'') :
    SameShape r r'' :=
  ⟨h.v4.trans h'.v4, h.iana.trans h'.iana, h.pd.trans h'.pd⟩

variable [DecidableEq P] [DecidableEq N] [DecidableEq S]

section Banks
variable {A R K : Type} [LeasePool A R K S] [DecidableEq K] {op : Option (Op P N R)}
  {own : Option (S × Binding P) → Prop}

def opSlots (b : Bank P N A) (op : Option (Op P N R)) : Set (P × K) :=
  {x | ∃ o ∈ op, b.releases x.1 x.2 o}

omit [DecidableEq N] [DecidableEq S] in
theorem opSlots_eq_empty (b : Bank P N A)
    (h : ∀ o ∈ op, ∀ q k, b.releases q k o = false) : opSlots b op = ∅ := by
  rw [eq_empty_iff_forall_notMem]
  rintro x ⟨o, ho, hrel⟩
  rw [h o ho] at hrel
  cases hrel

theorem sameShape_applyOp (r : Registry P N S) (s : S) (b : Bank P N A)
    (op : Option (Op P N R)) : b.SameShape (r.applyOp s b op) := by
  cases op with
  | none => exact .refl b
  | some o => exact (b.apply_spec r.poolKey r.poolVRFs s o).1

omit [DecidableEq N] [DecidableEq S] in
theorem opSlots_eq {b b' : Bank P N A} (h : b.SameShape b') (op : Option (Op P N R)) :
    opSlots b' op = opSlots b op := by
  have hreleases q k (o : Op P N R) : b'.releases q k o = b.releases q k o := by
    have hfirst : ∀ order (r : R), b'.firstContaining order r = b.firstContaining order r := by
      intro order r
      simp only [Bank.firstContaining, h.contains_eq]
    cases o <;> simp only [Bank.releases, h.keyOf_eq, hfirst]
  simp only [opSlots, hreleases]

/-- What is granted was free or the session's; a call that grants nothing only empties. -/
theorem writes_applyOp (r : Registry P N S) (s : S) (b : Bank P N A) (hnone : own none)
    (hop : (∀ o ∈ op, b.grant r.poolKey r.poolVRFs s o = none) ∨ ∀ x, Own s x → own x) :
    Writes own (opSlots b op) (bankView b) (bankView (r.applyOp s b op)) := by
  cases op with
  | none =>
    rw [opSlots_eq_empty b fun _ ho => by cases ho]
    exact .refl
  | some o =>
    refine ⟨fun x hx => ?_, fun x hx => ?_⟩
    · obtain ⟨o', ho', hrel⟩ := hx
      cases ho'
      have hfree : (r.applyOp s b (some o)).owner x.1 x.2 = none := by
        simp only [Registry.applyOp, Option.elim, Bank.owner_apply, hrel, if_true]
      simp only [bankView, hfree]
      exact hnone
    · have hrel : b.releases x.1 x.2 o = false := by
        simpa [opSlots] using hx
      by_cases hgrant : b.grant r.poolKey r.poolVRFs s o = some (x.1, x.2)
      · right
        have hown := hop.resolve_left fun h => by simp [h o rfl] at hgrant
        have hnew : (r.applyOp s b (some o)).owner x.1 x.2 = some s := by
          simp [Registry.applyOp, Bank.owner_apply, hrel, hgrant]
        refine ⟨?_, ?_⟩
        · rcases Bank.owner_of_grant hgrant with h | h
          · simp only [bankView, h]
            exact hnone
          · simp only [bankView, h]
            exact hown _ (own_some _)
        · simp only [bankView, hnew]
          exact hown _ (own_some _)
      · left
        simp [bankView, Registry.applyOp, Bank.owner_apply, hrel, hgrant]

end Banks

def isRelease : Call P N → Bool
  | .release _ _ | .releaseIANA _ _ | .releasePD _ _ => true
  | .releaseIP _ | .releaseIANAByIP _ | .releasePDByPrefix _ _ => true
  | _ => false

def callSlots (r : Registry P N S) (c : Call P N) : Set (Slot P) :=
  .poolV4 '' opSlots r.v4 c.onV4 ∪ .poolIANA '' opSlots r.iana c.onIANA ∪
    .poolPD '' opSlots r.pd c.onPD

omit [DecidableEq N] [DecidableEq S] in
theorem SameShape.callSlots_eq (h : SameShape r r') (c : Call P N) :
    callSlots r' c = callSlots r c := by
  simp only [callSlots, opSlots_eq h.v4, opSlots_eq h.iana, opSlots_eq h.pd]

namespace Stores

/-- A step that writes the slots of `T`, and no pool changes its range. -/
structure Acts (own : Option (S × Binding P) → Prop) (T : Set (Slot P)) (st st' : Stores P N S) :
    Prop where
  view : Writes own T st.view st'.view
  shape : SameShape st.registry st'.registry

abbrev Moves (s : S) (T : Set (Slot P)) (st st' : Stores P N S) : Prop := Acts (Own s) T st st'

abbrev Clears (T : Set (Slot P)) (st st' : Stores P N S) : Prop := Acts (· = none) T st st'

variable {s : S} {T T' : Set (Slot P)} {st st' st'' : Stores P N S} {v4 : Provider4 P S}
  {c : Call P N} {own : Option (S × Binding P) → Prop}

section Tables
omit [DecidableEq P] [DecidableEq N] [DecidableEq S]

theorem Acts.refl (st : Stores P N S) : Acts own ∅ st st := ⟨.refl, .refl _⟩

theorem Acts.trans (h : Acts own T st st') (h' : Acts own T' st' st'') :
    Acts own (T ∪ T') st st'' :=
  ⟨h.view.trans h'.view, h.shape.trans h'.shape⟩

theorem Acts.of_own (h : Acts own T st st') (hown : ∀ x ∈ T, own (st.view x)) : Acts own ∅ st st' :=
  ⟨h.view.restrict (empty_subset _) fun x hx _ => hown x hx, h.shape⟩

theorem Acts.moves (h : Clears T st st') (s : S) : Moves s T st st' :=
  ⟨h.view.effect s, h.shape⟩

theorem acts_v4 (h : Writes own U (tableView binding st.v4.leases st.v4.leasesByIP)
      (tableView binding v4.leases v4.leasesByIP)) : Acts own (Slot.v4 '' U) st
    { st with v4 := v4 } := by
  refine ⟨h.lift Slot.v4 (fun _ => rfl) (fun _ => rfl) ?_, .refl _⟩
  intro y hy
  cases y with
  | v4 x => exact absurd ⟨x, rfl⟩ hy
  | _ => rfl

theorem acts_iana
    (h : Writes own U (tableView address st.v6.iana.byDUID st.v6.iana.byResource)
      (tableView address v6.iana.byDUID v6.iana.byResource)) (hpd : v6.pd = st.v6.pd) :
    Acts own (Slot.iana '' U) st { st with v6 := v6 } := by
  refine ⟨h.lift Slot.iana (fun _ => rfl) (fun _ => rfl) ?_, .refl _⟩
  intro y hy
  cases y with
  | iana x => exact absurd ⟨x, rfl⟩ hy
  | pd x => simp only [view, hpd]
  | _ => rfl

theorem acts_pd {U : Set (Index Bytes IPNet)}
    (h : Writes own U (tableView delegated st.v6.pd.byDUID st.v6.pd.byResource)
      (tableView delegated v6.pd.byDUID v6.pd.byResource)) (hiana : v6.iana = st.v6.iana) :
    Acts own (Slot.pd '' U) st { st with v6 := v6 } := by
  refine ⟨h.lift Slot.pd (fun _ => rfl) (fun _ => rfl) ?_, .refl _⟩
  intro y hy
  cases y with
  | pd x => exact absurd ⟨x, rfl⟩ hy
  | iana x => simp only [view, hiana]
  | _ => rfl

theorem writes_registry {V I : Set (P × Addr)} {D : Set (P × Nat)}
    (hv4 : Writes own V (bankView st.registry.v4) (bankView r.v4))
    (hiana : Writes own I (bankView st.registry.iana) (bankView r.iana))
    (hpd : Writes own D (bankView st.registry.pd) (bankView r.pd)) :
    Writes own (.poolV4 '' V ∪ .poolIANA '' I ∪ .poolPD '' D) st.view
      { st with registry := r }.view := by
  refine ⟨?_, fun y hy => ?_⟩
  · rintro _ ((⟨x, hx, rfl⟩ | ⟨x, hx, rfl⟩) | ⟨x, hx, rfl⟩)
    exacts [hv4.inside x hx, hiana.inside x hx, hpd.inside x hx]
  · cases y with
    | poolV4 x => exact hv4.outside x fun hx => hy (.inl (.inl ⟨x, hx, rfl⟩))
    | poolIANA x => exact hiana.outside x fun hx => hy (.inl (.inr ⟨x, hx, rfl⟩))
    | poolPD x => exact hpd.outside x fun hx => hy (.inr ⟨x, hx, rfl⟩)
    | _ => exact .inl rfl

end Tables

variable (st)

theorem acts_call (s : S) (hnone : own none)
    (hown : isRelease c = true ∨ ∀ x, Own s x → own x) :
    Acts own (callSlots st.registry c) st { st with registry := st.registry.call s c } := by
  rw [st.registry.call_eq s c]
  refine ⟨writes_registry (writes_applyOp _ s _ hnone (hown.imp_left ?_))
    (writes_applyOp _ s _ hnone (hown.imp_left ?_))
    (writes_applyOp _ s _ hnone (hown.imp_left ?_)),
    sameShape_applyOp _ s _ _, sameShape_applyOp _ s _ _, sameShape_applyOp _ s _ _⟩
  all_goals
    intro hc o ho
    cases c <;> cases hc <;> cases ho <;> rfl

theorem clears_call (s : S) (hc : isRelease c = true) :
    Clears (callSlots st.registry c) st { st with registry := st.registry.call s c } :=
  st.acts_call s rfl (.inl hc)

def trySlots (r : Registry P N S) : Option (Call P N) → Set (Slot P)
  | none => ∅
  | some c => callSlots r c

theorem acts_tryCall (s : S) {c : Option (Call P N)} (hnone : own none)
    (hown : (∀ call ∈ c, isRelease call = true) ∨ ∀ x, Own s x → own x)
    (hr : r = c.elim st.registry (st.registry.call s)) :
    Acts own (trySlots st.registry c) st { st with registry := r } := by
  subst hr
  cases c with
  | none => exact .refl st
  | some c => exact st.acts_call s hnone (hown.imp_left (· c rfl))

/-! ## The lease tables -/

variable {st}

def leaseSlots4 (p : Provider4 P S) (r : Registry P N S) (mac : Bytes) : Set (Slot P) :=
  match p.leases mac with
  | none => ∅
  | some l => .v4 '' {.client mac, .resource (unmapped l.ip)} ∪
      trySlots r (l.poolName.map (.release · l.ip))

variable (p : Provider6 P S) {g : Registry P N S × AllocContext N × Option P} {duid : Bytes}
  {ctx : AllocContext N} {order : List P} {profile : N}

def ianaSlots (r : Registry P N S) (duid : Bytes) : Set (Slot P) :=
  match p.iana.byDUID duid with
  | none => ∅
  | some l => .iana '' {.client duid, .resource (unmapped l.resource)} ∪
      trySlots r (l.poolName.map (.releaseIANA · l.resource))

def pdSlots (r : Registry P N S) (duid : Bytes) : Set (Slot P) :=
  match p.pd.byDUID duid with
  | none => ∅
  | some l => .pd '' {.client duid, .resource (prefixKey l.resource)} ∪
      trySlots r (l.poolName.map (.releasePD · l.resource))

def leaseSlots6 (r : Registry P N S) : Option Bytes → Set (Slot P)
  | none => ∅
  | some duid => ianaSlots p r duid ∪ pdSlots p r duid

section Shape
variable {r r' : Registry P N S} (h : SameShape r r')
include h
omit [DecidableEq N] [DecidableEq S]

theorem trySlots_eq (c : Option (Call P N)) : trySlots r' c = trySlots r c := by
  cases c with
  | none => rfl
  | some c => exact h.callSlots_eq c

theorem leaseSlots4_eq (p : Provider4 P S) (mac : Bytes) :
    leaseSlots4 p r' mac = leaseSlots4 p r mac := by
  simp only [leaseSlots4, trySlots_eq h]

theorem pdSlots_eq (p : Provider6 P S) (duid : Bytes) : pdSlots p r' duid = pdSlots p r duid := by
  simp only [pdSlots, trySlots_eq h]

theorem leaseSlots6_eq (p : Provider6 P S) (duid : Option Bytes) :
    leaseSlots6 p r' duid = leaseSlots6 p r duid := by
  simp only [leaseSlots6, ianaSlots, pdSlots, trySlots_eq h]

end Shape

omit [DecidableEq P] [DecidableEq N] in
theorem release_of_map {poolName : Option P} {call : P → Call P N}
    (h : ∀ pool, isRelease (call pool) = true) :
    ∀ c ∈ poolName.map call, isRelease c = true := by
  intro c hc
  obtain ⟨pool, -, rfl⟩ := map_eq_some_iff.mp hc
  exact h pool

variable (st)

theorem clears_releaseLease4 (s : S) (mac : Bytes) :
    Clears (leaseSlots4 st.v4 st.registry mac) st (st.releaseLease4 mac) := by
  unfold leaseSlots4 releaseLease4 Provider4.releaseLease
  cases st.v4.leases mac with
  | none => exact .refl st
  | some l =>
    let v4 : Provider4 P S := { st.v4 with
      leasesByIP := update st.v4.leasesByIP (unmapped l.ip) none
      leases := update st.v4.leases mac none }
    have hremove : Clears (.v4 '' {.client mac, .resource (unmapped l.ip)}) st
        { st with v4 := v4 } :=
      acts_v4 (.update _ _ _ _ _ rfl)
    exact hremove.trans (acts_tryCall { st with v4 := v4 } s rfl
      (.inl (release_of_map fun _ => rfl))
      (by unfold Provider4.releaseIn; cases l.poolName <;> rfl))

theorem clears_releaseIANA (s : S) (duid : Bytes) : Clears (ianaSlots st.v6 st.registry duid) st
      { st with
        v6 := (st.v6.releaseIANA st.registry duid).1
        registry := (st.v6.releaseIANA st.registry duid).2 } := by
  unfold ianaSlots releaseIANA
  cases st.v6.iana.byDUID duid with
  | none => exact .refl st
  | some l =>
    let v6 : Provider6 P S :=
      { st.v6 with iana := st.v6.iana.remove duid (unmapped l.resource) }
    have hremove : Clears (.iana '' {.client duid, .resource (unmapped l.resource)}) st
        { st with v6 := v6 } :=
      acts_iana (.update _ _ _ _ _ rfl) rfl
    exact hremove.trans (acts_tryCall { st with v6 := v6 } s rfl
      (.inl (release_of_map fun _ => rfl)) (by dsimp only; cases l.poolName <;> rfl))

theorem clears_releasePD (s : S) (duid : Bytes) : Clears (pdSlots st.v6 st.registry duid) st
      { st with
        v6 := (st.v6.releasePD st.registry duid).1
        registry := (st.v6.releasePD st.registry duid).2 } := by
  unfold pdSlots releasePD
  cases st.v6.pd.byDUID duid with
  | none => exact .refl st
  | some l =>
    let v6 : Provider6 P S :=
      { st.v6 with pd := st.v6.pd.remove duid (prefixKey l.resource) }
    have hremove : Clears (.pd '' {.client duid, .resource (prefixKey l.resource)}) st
        { st with v6 := v6 } :=
      acts_pd (.update _ _ _ _ _ rfl) rfl
    exact hremove.trans (acts_tryCall { st with v6 := v6 } s rfl
      (.inl (release_of_map fun _ => rfl)) (by dsimp only; cases l.poolName <;> rfl))

theorem clears_releaseLease6 (s : S) (duid : Option Bytes) :
    Clears (leaseSlots6 st.v6 st.registry duid) st (st.releaseLease6 duid) := by
  cases duid with
  | none => exact .refl st
  | some duid =>
    have hiana := st.clears_releaseIANA s duid
    have hpd := clears_releasePD
      { st with
        v6 := (st.v6.releaseIANA st.registry duid).1
        registry := (st.v6.releaseIANA st.registry duid).2 } s duid
    have hsame : pdSlots (st.v6.releaseIANA st.registry duid).1
        (st.v6.releaseIANA st.registry duid).2 duid = pdSlots st.v6 st.registry duid := by
      rw [pdSlots_eq hiana.shape]
      unfold pdSlots releaseIANA
      cases st.v6.iana.byDUID duid <;> rfl
    rw [hsame] at hpd
    exact hiana.trans hpd

theorem clears_releaseIP (s : S) (ip : IP) :
    Clears (trySlots st.registry (if ip = [] then none else some (.releaseIP ip))) st
      (st.releaseIP ip) := by
  unfold releaseIP
  split
  · exact .refl st
  · exact st.clears_call s rfl

theorem clears_releaseIANAByIP (s : S) (ip : IP) :
    Clears (trySlots st.registry (if ip = [] then none else some (.releaseIANAByIP ip))) st
      (st.releaseIANAByIP ip) := by
  unfold releaseIANAByIP
  split
  · exact .refl st
  · exact st.clears_call s rfl

theorem clears_releasePDByPrefix (s : S) (order : List P) (pfx : Option IPNet) :
    Clears (trySlots st.registry (pfx.map (.releasePDByPrefix order))) st
      (st.releasePDByPrefix order pfx) := by
  cases pfx with
  | none => exact .refl st
  | some pfx => exact st.clears_call s rfl

/-! ## Reservations -/

/-- What a reservation overwrites: the lease of the hardware address, and with
it the lease of the address where that is another client's and has expired. -/
def reserveSlots4 (p : Provider4 P S) (r : Registry P N S) (now : Nat) (ip : IP) (mac : Bytes) :
    Set (Slot P) :=
  match p.leasesByIP (unmapped ip) with
  | none => {.v4 (.client mac)}
  | some l =>
    if l.mac = mac then ∅
    else if l.expireTime < now then
      .v4 '' {.client l.mac, .client mac, .resource (unmapped ip)} ∪
        trySlots r (l.poolName.map (.release · l.ip))
    else ∅

omit [DecidableEq N] [DecidableEq S] in
theorem reserveSlots4_eq (h : SameShape r r') (p : Provider4 P S)
    (now : Nat) (ip : IP) (mac : Bytes) :
    reserveSlots4 p r' now ip mac = reserveSlots4 p r now ip mac := by
  simp only [reserveSlots4, trySlots_eq h]

omit [DecidableEq P] [DecidableEq N] [DecidableEq S] in
theorem moves_refresh (s : S) (ref expireTime : Nat) :
    Moves s ∅ st { st with v4 := st.v4.refresh ref expireTime } := by
  have hset : ∀ l : Option (Lease P S), (l.map fun l =>
      if l.ref = ref then { l with expireTime := expireTime } else l).map binding =
        l.map binding := by
    intro l
    cases l with
    | none => rfl
    | some l =>
      simp only [map_some, some.injEq]
      split <;> rfl
  have hview x : tableView binding (st.v4.refresh ref expireTime).leases
      (st.v4.refresh ref expireTime).leasesByIP x =
        tableView binding st.v4.leases st.v4.leasesByIP x := by
    cases x with
    | client mac => exact hset (st.v4.leases mac)
    | resource ip => exact hset (st.v4.leasesByIP ip)
  have hmoves : Moves s (.v4 '' ∅) st { st with v4 := st.v4.refresh ref expireTime } :=
    acts_v4 (.of_eq hview)
  rwa [image_empty] at hmoves

omit [DecidableEq P] [DecidableEq S] in
theorem effect_addLease (p : Provider4 P S) (ip : IP) (mac : Bytes) (s : S)
    (poolName : Option P) (expireTime : Nat) :
    Effect s {.client mac, .resource (unmapped ip)}
      (tableView binding p.leases p.leasesByIP)
      (tableView binding (p.addLease ip mac s poolName expireTime).leases
        (p.addLease ip mac s poolName expireTime).leasesByIP) :=
  .update _ _ _ _ _ (own_some _)

def withV4 : Option (Provider4 P S × Registry P N S) → Stores P N S
  | none => st
  | some (p, r) => { st with v4 := p, registry := r }

theorem moves_reserveIP (s : S) (now : Nat) (ip : IP) (mac : Bytes)
    (poolName : Option P) (leaseTime : Nat) :
    Moves s (reserveSlots4 st.v4 st.registry now ip mac) st
      (st.withV4 (st.v4.reserveIP st.registry now ip mac s poolName leaseTime)) := by
  unfold reserveSlots4 reserveIP
  cases hip : st.v4.leasesByIP (unmapped ip) with
  | none =>
    have hadd := effect_addLease st.v4 ip mac s poolName (now + leaseTime)
    have hsub : ({.client mac} : Set (Index Bytes IP)) ⊆
        {.client mac, .resource (unmapped ip)} := by simp
    have hclient := hadd.restrict hsub (by
      rintro x (rfl | rfl) hx
      · exact absurd rfl hx
      · simp only [tableView, hip]
        exact own_none)
    rw [← image_singleton]
    exact acts_v4 hclient
  | some l =>
    by_cases hmac : l.mac = mac
    · simp only [hmac, if_true]
      exact st.moves_refresh s _ _
    · by_cases hexp : l.expireTime < now
      · simp only [hmac, hexp, if_true, if_false]
        let p : Provider4 P S := { st.v4 with
          leasesByIP := update st.v4.leasesByIP (unmapped ip) none
          leases := update st.v4.leases l.mac none }
        have hremove : Effect s {.client l.mac, .resource (unmapped ip)}
            (tableView binding st.v4.leases st.v4.leasesByIP)
            (tableView binding p.leases p.leasesByIP) :=
          .update _ _ _ _ _ own_none
        have htables := hremove.trans (effect_addLease p ip mac s poolName (now + leaseTime))
        have hunion : ({.client l.mac, .resource (unmapped ip)} ∪
            {.client mac, .resource (unmapped ip)} : Set (Index Bytes IP)) =
              {.client l.mac, .client mac, .resource (unmapped ip)} := by
          ext x
          simp only [mem_union, mem_insert_iff, mem_singleton_iff]
          tauto
        rw [hunion] at htables
        exact (acts_v4 htables).trans (acts_tryCall
          { st with v4 := p.addLease ip mac s poolName (now + leaseTime) } s own_none
          (.inr fun _ => id) (by unfold releaseIn; cases l.poolName <;> rfl))
      · simp only [hmac, hexp, if_false]
        exact .refl st

section Client
omit [DecidableEq P] [DecidableEq N]

variable {R : Type}

def Taken (t : LeaseTables P S R) (s : S) (key : R) : Prop :=
  ∃ l, t.byResource key = some l ∧ l.sessionID ≠ s

theorem effect_put [DecidableEq R] {f : Lease6 P S R → S × Binding P}
    (hf : ∀ l, (f l).1 = l.sessionID) (t : LeaseTables P S R) {key : R} {l : Lease6 P S R}
    (hfree : ¬Taken t l.sessionID key) :
    Effect l.sessionID {.client l.duid} (tableView f t.byDUID t.byResource)
      (tableView f (t.put key l).byDUID (t.put key l).byResource) := by
  have hput : Effect l.sessionID {.client l.duid, .resource key}
      (tableView f t.byDUID t.byResource)
      (tableView f (t.put key l).byDUID (t.put key l).byResource) := by
    refine .update _ _ _ _ _ ?_
    rw [map_some, ← hf l]
    exact own_some _
  refine hput.restrict (by simp) ?_
  rintro x (rfl | rfl) hx
  · exact absurd rfl hx
  · intro o b hb
    obtain ⟨l', hl', hfl⟩ := map_eq_some_iff.mp hb
    by_contra hne
    refine hfree ⟨l', hl', ?_⟩
    rw [← hf l', hfl]
    exact hne

theorem moves_putIANA {key : IP} {l : Lease6 P S IP} (hfree : ¬Taken st.v6.iana l.sessionID key) :
    Moves l.sessionID {.iana (.client l.duid)} st
      { st with v6 := { st.v6 with iana := st.v6.iana.put key l } } := by
  rw [← image_singleton]
  exact acts_iana (effect_put (fun _ => rfl) _ hfree) rfl

theorem moves_putPD {key : IPNet} {l : Lease6 P S IPNet} (hfree : ¬Taken st.v6.pd l.sessionID key) :
    Moves l.sessionID {.pd (.client l.duid)} st
      { st with v6 := { st.v6 with pd := st.v6.pd.put key l } } := by
  rw [← image_singleton]
  exact acts_pd (effect_put (fun _ => rfl) _ hfree) rfl

theorem reserve_of_taken [DecidableEq R] {t : LeaseTables P S R} {key : R}
    {l : Lease6 P S R} (h : Taken t l.sessionID key) : t.reserve key l = none := by
  obtain ⟨l', hl', hne⟩ := h
  simp [LeaseTables.reserve, hl', hne]

theorem reserve_of_not_taken [DecidableEq R] {t : LeaseTables P S R} {key : R}
    {l : Lease6 P S R} (h : ¬Taken t l.sessionID key) : t.reserve key l = some (t.put key l) := by
  refine if_neg fun hany => h ?_
  cases hl : t.byResource key with
  | none => simp [hl] at hany
  | some l' => exact ⟨l', hl, by simpa [hl] using hany⟩

/-- The resolved address is asked for and leased to another session. -/
def Refused (s : S) (a : Resolved6 P) (o : Options6) : Prop :=
  o.iana.isSome ∧ ∃ addr ∈ a.ianaAddress, Taken p.iana s (unmapped addr)

/-- What a client identifier stands for in the records of each kind, where a
reservation is made under it. -/
def reserveSlots6 (s : S) (a : Resolved6 P) (o : Options6) (duid : Bytes) : Set (Slot P) :=
  {x | ¬Refused p s a o ∧
    ((x = .iana (.client duid) ∧ o.iana.isSome ∧ a.ianaAddress.isSome) ∨
      (x = .pd (.client duid) ∧ o.iapd.isSome ∧ ∃ pfx ∈ a.pdPrefix, ¬Taken p.pd s (prefixKey pfx)))}

theorem moves_reserveAskedIANA (s : S) (a : Resolved6 P) (o : Options6) (duid : Bytes) :
    (Refused st.v6 s a o ∧ st.v6.reserveAskedIANA a o duid s = none) ∨
      (¬Refused st.v6 s a o ∧ ∃ p, st.v6.reserveAskedIANA a o duid s = some p ∧
        p.pd = st.v6.pd ∧ Moves s
          {x | x = .iana (.client duid) ∧ o.iana.isSome ∧ a.ianaAddress.isSome} st
          { st with v6 := p }) := by
  unfold Refused reserveAskedIANA
  cases hiana : o.iana with
  | none => exact .inr ⟨by simp, st.v6, rfl, rfl, by simpa using .refl st⟩
  | some iaid =>
    cases haddr : a.ianaAddress with
    | none => exact .inr ⟨by simp, st.v6, rfl, rfl, by simpa using .refl st⟩
    | some addr =>
      simp only [reserveIANA]
      by_cases htaken : Taken st.v6.iana s (unmapped addr)
      · left
        refine ⟨by simpa using htaken, ?_⟩
        rw [reserve_of_taken htaken, map_none]
      · right
        rw [reserve_of_not_taken htaken, map_some]
        refine ⟨by simpa using htaken, _, rfl, rfl, ?_⟩
        have hput := st.moves_putIANA (l := ⟨addr, duid, iaid, s, a.ianaPoolName⟩) htaken
        simpa using hput

theorem moves_reserveAskedPD (s : S) (a : Resolved6 P) (o : Options6) (duid : Bytes) :
    Moves s
      {x | x = .pd (.client duid) ∧ o.iapd.isSome ∧
        ∃ pfx ∈ a.pdPrefix, ¬Taken st.v6.pd s (prefixKey pfx)} st
      { st with v6 := (st.v6.reserveAskedPD a o duid s).getD st.v6 } := by
  unfold reserveAskedPD
  cases hiapd : o.iapd with
  | none => simpa using .refl st
  | some iaid =>
    cases hpfx : a.pdPrefix with
    | none => simpa using .refl st
    | some pfx =>
      simp only [reservePD]
      by_cases htaken : Taken st.v6.pd s (prefixKey pfx)
      · rw [reserve_of_taken htaken]
        simpa [htaken] using .refl st
      · rw [reserve_of_not_taken htaken]
        have hput := st.moves_putPD (l := ⟨pfx, duid, iaid, s, a.pdPoolName⟩) htaken
        simpa [htaken] using hput

theorem moves_reserveResolved (s : S) (a : Resolved6 P) (o : Options6) (duid : Bytes) :
    Moves s (reserveSlots6 st.v6 s a o duid) st
      { st with v6 := (st.v6.reserveResolved a o duid s).1 } := by
  unfold reserveResolved reserveSlots6
  rcases st.moves_reserveAskedIANA s a o duid with ⟨hrefused, heq⟩ | ⟨hrefused, p, heq, hpd, hiana⟩
  · rw [heq]
    simpa [hrefused] using .refl st
  · have hmoves := hiana.trans (moves_reserveAskedPD { st with v6 := p } s a o duid)
    rw [heq]
    cases hp : p.reserveAskedPD a o duid s with
    | none | some => simpa [hrefused, hp, hpd, ofPred_or] using hmoves

theorem moves_allocateAskedIANA {st : Stores P N S} (s : S) (o : Options6)
    (pick : Nat) (hduid : st.v6.iana.byDUID duid = none) {p : Provider6 P S}
    (h : st.v6.allocateAskedIANA o duid s pick = some p) :
    p.pd = st.v6.pd ∧ Moves s ∅ st { st with v6 := p } := by
  unfold allocateAskedIANA at h
  split at h
  · rename_i iaid i pool hiana hpool
    obtain ⟨addr, haddr, rfl⟩ := map_eq_some_iff.mp h
    have hfree := firstUnused_spec haddr
    have htaken : ¬Taken st.v6.iana s (unmapped addr) := by
      rintro ⟨l, hl, -⟩
      simp [hl] at hfree
    have hput := st.moves_putIANA (l := ⟨addr, duid, iaid, s, none⟩) htaken
    refine ⟨rfl, hput.of_own ?_⟩
    rintro x rfl
    simp only [view, tableView, hduid]
    exact own_none
  · cases h
    exact ⟨rfl, .refl st⟩

theorem moves_allocateAskedPD {st : Stores P N S} (s : S) (o : Options6)
    (pick : Nat) (hduid : st.v6.pd.byDUID duid = none) :
    Moves s ∅ st { st with v6 := st.v6.allocateAskedPD o duid s pick } := by
  unfold allocateAskedPD
  split
  · rename_i iaid i pool hiapd hpool
    unfold allocatePDPrefix
    split
    rename_i found next hnext
    cases found with
    | none => exact ⟨.of_eq fun x => by cases x <;> rfl, .refl _⟩
    | some pfx =>
      have hfree := nextFreePrefix_spec (congrArg Prod.fst hnext)
      have htaken : ¬Taken st.v6.pd s (prefixKey pfx) := by
        rintro ⟨l, hl, -⟩
        simp [hl] at hfree
      have hput := st.moves_putPD (l := ⟨pfx, duid, iaid, s, none⟩) htaken
      have hown := hput.of_own (by
        rintro x rfl
        simp only [view, tableView, hduid]
        exact own_none)
      exact ⟨by simpa using hown.view.trans (.of_eq fun x => by cases x <;> rfl), .refl _⟩
  · exact .refl st

theorem own_of_alreadyReserved {st : Stores P N S} {a : Resolved6 P} {o : Options6}
    (h : st.v6.alreadyReserved a o duid s) {x : Slot P}
    (hx : (x = .iana (.client duid) ∧ o.iana.isSome ∧ a.ianaAddress.isSome) ∨
      (x = .pd (.client duid) ∧ o.iapd.isSome ∧
        ∃ pfx ∈ a.pdPrefix, ¬Taken st.v6.pd s (prefixKey pfx))) :
    Own s (st.view x) := by
  simp only [alreadyReserved, Bool.and_eq_true, Bool.or_eq_true] at h
  have hlease : ∀ {R : Type} {f : Lease6 P S R → S × Binding P} {l : Option (Lease6 P S R)},
      (∀ l, (f l).1 = l.sessionID) → (l.any fun l => decide (l.sessionID = s)) →
        Own s (l.map f) := by
    intro R f l hf hl o b hb
    obtain ⟨l', rfl, hfl⟩ := map_eq_some_iff.mp hb
    have hs : l'.sessionID = s := by simpa using hl
    rw [← hs, ← hf l', hfl]
  rcases hx with ⟨rfl, hasked, haddr⟩ | ⟨rfl, hasked, pfx, hpfx, -⟩
  · refine hlease (fun _ => rfl) (h.1.resolve_left ?_)
    rw [← not_isSome, ← not_isSome, hasked, haddr]
    simp
  · refine hlease (fun _ => rfl) (h.2.resolve_left ?_)
    rw [← not_isSome, ← not_isSome, hasked, mem_def.mp hpfx]
    simp

def solicitSlots (s : S) (resolved : Option (Resolved6 P)) (o : Options6) : Set (Slot P) :=
  match o.clientID, resolved with
  | some duid, some a => reserveSlots6 p s a o duid
  | _, _ => ∅

theorem moves_handleSolicit (s : S) (resolved : Option (Resolved6 P))
    (o : Options6) (pickIANA pickPD : Nat) :
    Moves s (solicitSlots st.v6 s resolved o) st
      { st with v6 := st.v6.handleSolicit s resolved o pickIANA pickPD } := by
  unfold solicitSlots handleSolicit
  cases o.clientID with
  | none => exact .refl st
  | some duid =>
    cases resolved with
    | none =>
      simp only
      split
      · exact .refl st
      · rename_i hnone
        simp only [Bool.or_eq_true, not_or, Bool.not_eq_true, isSome_eq_false_iff,
          isNone_iff_eq_none] at hnone
        unfold allocateLocal
        cases hiana : st.v6.allocateAskedIANA o duid s pickIANA with
        | none => exact .refl st
        | some p =>
          obtain ⟨hpd, hmoves⟩ := moves_allocateAskedIANA s o pickIANA hnone.1 hiana
          have hnone' : p.pd.byDUID duid = none := hpd ▸ hnone.2
          have hdelegate : Moves s ∅ { st with v6 := p }
              { st with v6 := p.allocateAskedPD o duid s pickPD } :=
            moves_allocateAskedPD s o pickPD hnone'
          have hboth := hmoves.trans hdelegate
          rwa [union_empty] at hboth
    | some a =>
      simp only
      split
      · -- a retry: the leases asked for are there and are the session's
        rename_i hdone
        refine ⟨⟨fun x hx => ?_, fun x _ => .inl rfl⟩, .refl _⟩
        exact own_of_alreadyReserved hdone hx.2
      · exact st.moves_reserveResolved s a o duid

/-! ## Resolving addresses -/

end Client

theorem moves_grant (s : S)
    (hr : r = st.registry.call s c) (hc : isRelease c = false) : Moves s ∅ st
    { st with registry := r } := by
  have hempty : callSlots st.registry c = ∅ := by
    rw [callSlots, opSlots_eq_empty, opSlots_eq_empty, opSlots_eq_empty]
    · simp only [image_empty, union_empty]
    all_goals
      intro o ho q k
      cases c <;> cases hc <;> cases ho <;> rfl
  rw [hr, ← hempty]
  exact st.acts_call s own_none (.inr fun _ => id)

theorem moves_resolveV4 (order : List P) (s : S) (ctx : AllocContext N) :
    Moves s ∅ st { st with registry := (resolveV4 st.registry order s ctx).1 } := by
  unfold resolveV4
  cases ctx.profileName with
  | none => exact .refl st
  | some profile =>
    simp only
    split
    · split
      · exact .refl st
      · rename_i ip pool r hr
        exact st.moves_grant s (c := .allocateFromProfile profile ctx.poolOverride ctx.vrf)
          (by simp only [Registry.call, hr, Option.elim]) rfl
    · split
      · exact .refl st
      · rename_i r hr
        exact st.moves_grant s (c := .reserveIP order ctx.ipv4Address)
          (by simp only [Registry.call, hr, getD_some]) rfl

theorem moves_resolveIANA (h : resolveIANA st.registry order s profile ctx = some g) :
    Moves s ∅ st { st with registry := g.1 } := by
  unfold resolveIANA at h
  split at h
  · split at h
    · cases h
      exact .refl st
    · rename_i ip pool r hr
      cases h
      exact st.moves_grant s (c := .allocateIANAFromProfile profile ctx.ianaPoolOverride ctx.vrf)
        (by simp only [Registry.call, hr, Option.elim]) rfl
  · obtain ⟨r, hr, rfl⟩ := map_eq_some_iff.mp h
    exact st.moves_grant s (c := .reserveIANA order ctx.ipv6Address)
      (by simp only [Registry.call, hr, getD_some]) rfl

theorem moves_resolvePD (h : resolvePD st.registry order s profile ctx = some g) :
    Moves s ∅ st { st with registry := g.1 } := by
  unfold resolvePD at h
  split at h
  · split at h
    · cases h
      exact .refl st
    · rename_i pfx pool r hr
      cases h
      exact st.moves_grant s (c := .allocatePDFromProfile profile ctx.pdPoolOverride ctx.vrf)
        (by simp only [Registry.call, hr, Option.elim]) rfl
  · rename_i pfx hpfx
    obtain ⟨r, hr, rfl⟩ := map_eq_some_iff.mp h
    exact st.moves_grant s (c := .reservePD order pfx)
      (by simp only [Registry.call, hr, getD_some]) rfl

theorem moves_resolveV6 (orders : Orders P) (s : S) (ctx : AllocContext N) :
    Moves s ∅ st { st with registry := (resolveV6 st.registry orders s ctx).1 } := by
  unfold resolveV6
  cases ctx.ipv6ProfileName with
  | none => exact .refl st
  | some profile =>
    simp only
    split
    · exact .refl st
    · rename_i r ctx₁ ianaPool hiana
      have h₁ := st.moves_resolveIANA hiana
      split
      · exact h₁
      · rename_i r₂ ctx₂ pdPool hpd
        have h₂ := h₁.trans (moves_resolvePD { st with registry := r } hpd)
        rw [union_empty] at h₂
        split
        · exact h₂
        · exact h₂

end Stores
end Osvbng.Dhcp
