import Mathlib.Data.List.Nodup
import Osvbng.Cgnat.Pool

/-!
# Reconciliation of the pools in the dataplane

When the component starts, the dataplane may hold pools of an earlier run. The reconciler
reads them, plans an action for each pool, refuses to go on if a plan would drop active
mappings, and then makes the calls: first those for the pools, then those for their inside
prefixes and outside addresses.

The calls do not depend on each other, so a plan is turned into the list of its calls and
the list is run until one fails. Texts are read before they come here: a prefix is what the
parser makes of it. The order in which a Go loop visits a map, what the VRF manager knows
and which calls fail are part of the environment.

The dataplane is modelled by what the driver and its documentation say of it. Adding a pool
that exists updates it in place, except that a change of a hard parameter is refused; the
driver then deletes the pool, with its prefixes and mappings, and adds it again.
-/

namespace Osvbng.Cgnat.Reconcile
open Function List Lib.Slice

/-! ## The configuration -/

/-- A network as the parser of CIDR texts returns it. -/
inductive Net where
  | v4 (addr : UInt32) (len : Nat)
  | v6 (addr : BitVec 128) (len : Nat)
deriving DecidableEq

inductive Mode where
  | unset | pba | deterministic | other
deriving DecidableEq

inductive Filtering where
  | unset | endpointIndependent | endpointDependent | other
deriving DecidableEq

structure InsidePrefix where
  /-- `none` if the text is no prefix. -/
  pfx : Option Net
  vrf : String

structure ALGConfig where
  ftp : Option Bool
  tftp : Option Bool
  pptp : Option Bool
  sip : Option Bool
  rtsp : Option Bool
  dns : Option Bool

structure TimeoutConfig where
  tcpEstablished : UInt32
  tcpTransitory : UInt32
  udp : UInt32
  icmp : UInt32
deriving DecidableEq

structure PoolConfig extends Pool where
  mode : Mode
  filtering : Filtering
  insidePrefixes : List InsidePrefix
  /-- What `parseOutsideAddr` makes of the outside addresses: `none` if it is no address, and
  `some none` for a single IPv6 address, whose network cannot be printed. -/
  outsidePrefixes : List (Option (Option Net))
  maxSessionsPerSubscriber : UInt32
  portReuseTimeout : UInt16
  alg : Option ALGConfig
  timeouts : Option TimeoutConfig

namespace PoolConfig
variable (p : PoolConfig)

def getMaxSessionsPerSubscriber : UInt32 :=
  if 0 < p.maxSessionsPerSubscriber then p.maxSessionsPerSubscriber else 2000

def getPortReuseTimeout : UInt16 :=
  if 0 < p.portReuseTimeout then p.portReuseTimeout else 120

def getTimeouts : TimeoutConfig :=
  let t := p.timeouts.getD ⟨0, 0, 0, 0⟩
  { tcpEstablished := if 0 < t.tcpEstablished then t.tcpEstablished else 7200
    tcpTransitory := if 0 < t.tcpTransitory then t.tcpTransitory else 240
    udp := if 0 < t.udp then t.udp else 300
    icmp := if 0 < t.icmp then t.icmp else 60 }

def getALGBitmask : UInt8 :=
  match p.alg with
  | none => 0x1F
  | some alg =>
    (if alg.ftp.getD true then 0x01 else 0) ||| (if alg.tftp.getD true then 0x02 else 0) |||
    (if alg.pptp.getD true then 0x04 else 0) ||| (if alg.sip.getD true then 0x08 else 0) |||
    (if alg.rtsp.getD true then 0x10 else 0) ||| (if alg.dns.getD false then 0x20 else 0)

end PoolConfig

inductive OnDivergence where
  | reconcile | fail
deriving DecidableEq

structure ReconcileConfig where
  onDivergence : OnDivergence
  dropOrphans : Option Bool
  allowPoolDisruption : Option Bool

/-- The pools by name, in no particular order; a name may be there without a pool. -/
structure Config where
  pools : List (Bytes × Option PoolConfig)
  names_nodup : (pools.map Prod.fst).Nodup
  reconcile : Option ReconcileConfig

namespace Config
variable (cfg : Config)

def getOnDivergence : OnDivergence :=
  cfg.reconcile.elim .reconcile (·.onDivergence)

def getDropOrphans : Bool := (cfg.reconcile.bind (·.dropOrphans)).getD true

def getAllowPoolDisruption : Bool :=
  (cfg.reconcile.bind (·.allowPoolDisruption)).getD false

end Config

def poolID (name : Bytes) : UInt32 :=
  let h := name.foldl (fun h b => (h ^^^ b.toUInt32) * 16777619) 2166136261
  if h = 0 then 1 else h

/-! ## The dataplane -/

structure Params where
  mode : UInt8
  addressPooling : UInt8
  filtering : UInt8
  blockSize : UInt16
  maxBlocksPerSub : UInt8
  maxSessionsPerSub : UInt32
  portRangeStart : UInt16
  portRangeEnd : UInt16
  portReuseTimeout : UInt16
  algBitmask : UInt8
  timeouts : TimeoutConfig
deriving DecidableEq

/-- A change of these parameters cannot be made in place. -/
def Params.SameHard (a b : Params) : Prop :=
  a.mode = b.mode ∧ a.addressPooling = b.addressPooling ∧ a.filtering = b.filtering ∧
    a.blockSize = b.blockSize ∧ a.portRangeStart = b.portRangeStart ∧
    a.portRangeEnd = b.portRangeEnd
deriving Decidable

/-- An inside prefix with its VRF, or an outside address. -/
inductive Child (P : Type) where
  | inside (pfx : P) (vrfID : UInt32)
  | outside (pfx : P)
deriving DecidableEq

def Child.map {P Q : Type} (f : P → Q) : Child P → Child Q
  | .inside pfx vrfID => .inside (f pfx) vrfID
  | .outside pfx => .outside (f pfx)

def Child.isInside {P : Type} : Child P → Bool
  | .inside _ _ => true
  | .outside _ => false

/-- The dataplane knows IPv4 networks only. -/
abbrev Net4 := UInt32 × Nat

structure PoolState where
  params : Params
  activeMappings : UInt32
  children : List (Child Net4)

/-- The pools in the dataplane, with the identifiers in the order of a dump. -/
structure Dataplane where
  pool : UInt32 → Option PoolState
  ids : List UInt32
  ids_nodup : ids.Nodup
  mem_ids : ∀ id, id ∈ ids ↔ (pool id).isSome

namespace Dataplane
variable (d : Dataplane) (id : UInt32)

def set (state : PoolState) : Dataplane where
  pool := update d.pool id (some state)
  ids := if id ∈ d.ids then d.ids else d.ids ++ [id]
  ids_nodup := by
    split
    · exact d.ids_nodup
    · rename_i hnew
      refine nodup_append.mpr ⟨d.ids_nodup, nodup_singleton id, ?_⟩
      rintro k hk _ hid rfl
      rw [mem_singleton] at hid
      exact hnew (hid ▸ hk)
  mem_ids k := by
    by_cases hk : k = id
    · rw [hk, update_self]
      split <;> simp_all
    · rw [update_of_ne hk, ← d.mem_ids]
      split <;> simp [hk]

def erase : Dataplane where
  pool := update d.pool id none
  ids := d.ids.filter (· ≠ id)
  ids_nodup := d.ids_nodup.filter _
  mem_ids k := by
    by_cases hk : k = id
    · simp [hk]
    · rw [update_of_ne hk, ← d.mem_ids]
      simp [hk]

inductive Answer where
  | ok | noSuchEntry | failed
deriving DecidableEq

/-- What the environment makes of a call. A replacement is torn if its second half fails. -/
inductive Outcome where
  | accepted | refused | torn

/-- `CGNATPoolAddDel` of the driver, to add. -/
def poolAdd (params : Params) : Outcome → Dataplane × Answer
  | .refused => (d, .failed)
  | .torn =>
    match d.pool id with
    | some state => if state.params.SameHard params then (d, .failed) else (d.erase id, .failed)
    | none => (d, .failed)
  | .accepted =>
    match d.pool id with
    | some state =>
      if state.params.SameHard params then (d.set id { state with params := params }, .ok)
      else (d.set id ⟨params, 0, []⟩, .ok)
    | none => (d.set id ⟨params, 0, []⟩, .ok)

/-- `CGNATPoolAddDel` of the driver, to delete: the pool goes with all it has. -/
def poolDel : Outcome → Dataplane × Answer
  | .accepted => if (d.pool id).isSome then (d.erase id, .ok) else (d, .noSuchEntry)
  | _ => (d, .failed)

def childAdd (child : Child Net4) : Outcome → Dataplane × Answer
  | .accepted =>
    match d.pool id with
    | some state =>
      (d.set id { state with children := child :: state.children.filter (· ≠ child) }, .ok)
    | none => (d, .noSuchEntry)
  | _ => (d, .failed)

def childDel (child : Child Net4) : Outcome → Dataplane × Answer
  | .accepted =>
    match d.pool id with
    | some state =>
      if child ∈ state.children then
        (d.set id { state with children := state.children.filter (· ≠ child) }, .ok)
      else (d, .noSuchEntry)
    | none => (d, .noSuchEntry)
  | _ => (d, .failed)

end Dataplane

/-- The prefix the driver sends for a network: the address of one that is not IPv4 is lost. -/
def prefixFromIPNet : Net → Net4
  | .v4 addr len => (addr, len)
  | .v6 _ len => (0, len)

/-! ## Calls -/

inductive Call where
  | poolAdd (id : UInt32) (params : Params)
  | poolDel (id : UInt32)
  /-- `none` is the text of a network that cannot be printed, which does not parse again. -/
  | childAdd (id : UInt32) (child : Child (Option Net))
  | childDel (id : UInt32) (child : Child Net4)
deriving DecidableEq

def Call.id : Call → UInt32
  | .poolAdd id _ | .poolDel id | .childAdd id _ | .childDel id _ => id

/-- The child that `applyInsidePrefix` or `applyOutsideAddress` sends. -/
def sent : Child (Option Net) → Option (Child Net4)
  | .inside pfx vrfID => pfx.map fun net => .inside (prefixFromIPNet net) vrfID
  | .outside pfx => pfx.map fun net => .outside (prefixFromIPNet net)

/-- Runs a call; the second component tells whether the reconciler goes on. -/
def Call.run (outcome : Dataplane.Outcome) (d : Dataplane) : Call → Dataplane × Bool
  | .poolAdd id params => ((d.poolAdd id params outcome).1, (d.poolAdd id params outcome).2 = .ok)
  | .poolDel id => ((d.poolDel id outcome).1, (d.poolDel id outcome).2 = .ok)
  | .childAdd id child =>
    match sent child with
    | none => (d, false)
    | some child => ((d.childAdd id child outcome).1, (d.childAdd id child outcome).2 = .ok)
  | .childDel id child =>
    -- An entry that is gone already is as good as deleted.
    ((d.childDel id child outcome).1, (d.childDel id child outcome).2 ≠ .failed)

/-- Runs calls until one fails, and returns that one. -/
def runCalls (outcome : Nat → Dataplane.Outcome) (n : Nat) (d : Dataplane) :
    List Call → Option Call × Dataplane
  | [] => (none, d)
  | c :: calls =>
    let r := c.run (outcome n) d
    if r.2 then runCalls outcome (n + 1) r.1 calls else (some c, r.1)

/-! ## Plans -/

structure Env where
  /-- The table of a VRF; `none` if the manager does not know it. -/
  resolveVRF : String → Option UInt32
  /-- The order in which the `n`-th loop visits a map. -/
  order : Nat → {X : Type} → List X → List X
  order_perm : ∀ n {X : Type} (l : List X), (order n l).Perm l
  outcome : Nat → Dataplane.Outcome

inductive PoolAction where
  | noop | add | softUpdate | replace | drop
deriving DecidableEq

structure PoolPlan where
  /-- `none` for a pool that is not in the configuration. -/
  name : Option Bytes
  poolID : UInt32
  action : PoolAction
  driftFields : List String
  desired : Option PoolConfig
  activeMappings : UInt32

inductive Disruption where
  | replace (name : Option Bytes) (driftFields : List String) (activeMappings : UInt32)
  | drop (poolID : UInt32) (activeMappings : UInt32)
  | child (poolID : UInt32) (child : Child Net4)

inductive ReconcileError where
  | collision (name other : Bytes) (id : UInt32)
  | disruption (affected : List Disruption)
  | call (c : Call)
  | missing (name : Bytes) (id : UInt32)
  | stillDrifted (name : Bytes) (id : UInt32) (fields : List String)
  | diverged (name : Option Bytes) (action : PoolAction)

def PoolConfig.params (p : PoolConfig) : Params where
  mode := if p.mode = .deterministic then 1 else 0
  addressPooling := if p.getAddressPooling = .arbitrary then 1 else 0
  filtering := if p.filtering = .endpointDependent then 1 else 0
  blockSize := p.getBlockSize
  maxBlocksPerSub := p.getMaxBlocksPerSubscriber
  maxSessionsPerSub := p.getMaxSessionsPerSubscriber
  portRangeStart := p.getPortRangeStart
  portRangeEnd := p.getPortRangeEnd
  portReuseTimeout := p.getPortReuseTimeout
  algBitmask := p.getALGBitmask
  timeouts := p.getTimeouts

/-- The hard parameters in which a pool differs from its configuration. -/
def poolHardDrift (cur : Params) (p : PoolConfig) : List String :=
  (if cur.mode ≠ (if p.mode = .deterministic then 1 else 0) then ["mode"] else []) ++
  (if cur.addressPooling ≠ (if p.getAddressPooling = .arbitrary then 1 else 0) then
    ["address_pooling"] else []) ++
  (if cur.filtering ≠ (if p.filtering = .endpointDependent then 1 else 0) then
    ["filtering"] else []) ++
  (if cur.blockSize ≠ p.getBlockSize then ["block_size"] else []) ++
  (if cur.portRangeStart ≠ p.getPortRangeStart ∨ cur.portRangeEnd ≠ p.getPortRangeEnd then
    ["port_range"] else [])

def poolSoftDrift (cur : Params) (p : PoolConfig) : Bool :=
  cur.maxBlocksPerSub ≠ p.getMaxBlocksPerSubscriber ||
    cur.maxSessionsPerSub ≠ p.getMaxSessionsPerSubscriber ||
    cur.portReuseTimeout ≠ p.getPortReuseTimeout || cur.algBitmask ≠ p.getALGBitmask ||
    cur.timeouts ≠ p.getTimeouts

variable (d : Dataplane)

def planPool (name : Bytes) (p : PoolConfig) : PoolPlan :=
  let id := poolID name
  match d.pool id with
  | none => ⟨some name, id, .add, [], some p, 0⟩
  | some cur =>
    let fields := poolHardDrift cur.params p
    if fields ≠ [] then ⟨some name, id, .replace, fields, some p, cur.activeMappings⟩
    else if poolSoftDrift cur.params p then
      ⟨some name, id, .softUpdate, [], some p, cur.activeMappings⟩
    else ⟨some name, id, .noop, [], some p, cur.activeMappings⟩

/-- The plans for the pools of the configuration. `seen` are the pools planned so far, by
identifier. -/
def planDesired (d : Dataplane) : (seen : List (UInt32 × Bytes)) →
    List (Bytes × Option PoolConfig) → Except ReconcileError (List PoolPlan)
  | _, [] => .ok []
  | seen, (_, none) :: rest => planDesired d seen rest
  | seen, (name, some p) :: rest =>
    match seen.lookup (poolID name) with
    | some other => .error (.collision name other (poolID name))
    | none =>
      (planDesired d ((poolID name, name) :: seen) rest).map (planPool d name p :: ·)

def planOrphan (id : UInt32) : PoolPlan :=
  ⟨none, id, .drop, [], none, ((d.pool id).map (·.activeMappings)).getD 0⟩

variable (env : Env)

def plan (cfg : Config) (d : Dataplane) : Except ReconcileError (List PoolPlan) :=
  (planDesired d [] (env.order 0 cfg.pools)).map fun plans =>
    plans ++ ((env.order 1 d.ids).filter fun id => id ∉ plans.map (·.poolID)).map (planOrphan d)

/-! ## Children -/

abbrev Key := UInt32 × Child (Option Net)

def keyOf (id : UInt32) (child : Child Net4) : Key :=
  (id, child.map fun net => some (.v4 net.1 net.2))

def Env.vrfID (vrf : String) : UInt32 :=
  if vrf = "" then 0 else (env.resolveVRF vrf).getD 0

def buildDesiredInside (cfg : Config) : List Key :=
  cfg.pools.flatMap fun (name, pool) => pool.elim [] fun p =>
    p.insidePrefixes.filterMap fun ip =>
      ip.pfx.map fun net => (poolID name, .inside (some net) (env.vrfID ip.vrf))

variable (cfg : Config)

def buildDesiredOutside : List Key :=
  cfg.pools.flatMap fun (name, pool) => pool.elim [] fun p =>
    p.outsidePrefixes.filterMap fun addr => addr.map fun net => (poolID name, .outside net)

def Dataplane.dump : List (UInt32 × Child Net4) :=
  d.ids.flatMap fun id => (d.pool id).elim [] fun state => state.children.map (id, ·)

def Dataplane.insidePrefixDump : List (UInt32 × Child Net4) :=
  d.dump.filter (·.2.isInside)

def Dataplane.outsideAddressDump : List (UInt32 × Child Net4) :=
  d.dump.filter (!·.2.isInside)

variable (plans : List PoolPlan)

def hasActiveMappingsUnder (id : UInt32) : Bool :=
  plans.any fun plan => plan.poolID = id && 0 < plan.activeMappings

/-! ## The preflight -/

def planDisruption (plan : PoolPlan) : List Disruption :=
  match plan.action with
  | .replace =>
    if 0 < plan.activeMappings then
      [.replace plan.name plan.driftFields plan.activeMappings] else []
  | .drop =>
    if cfg.getDropOrphans && 0 < plan.activeMappings then
      [.drop plan.poolID plan.activeMappings] else []
  | _ => []

def childDisruption (desired : List Key) (actual : List (UInt32 × Child Net4)) : List Disruption :=
  (actual.filter fun (id, child) =>
      keyOf id child ∉ desired ∧ cfg.getDropOrphans ∧ hasActiveMappingsUnder plans id).map
    fun (id, child) => .child id child

def preflight (d : Dataplane) (plans : List PoolPlan) : List Disruption :=
  if cfg.getAllowPoolDisruption then []
  else plans.flatMap (planDisruption cfg) ++
    childDisruption cfg plans (buildDesiredInside env cfg) d.insidePrefixDump ++
    childDisruption cfg plans (buildDesiredOutside cfg) d.outsideAddressDump

/-! ## The reconciliation -/

def poolCall (plan : PoolPlan) : List Call :=
  match plan.action, plan.desired with
  | .noop, _ => []
  | .drop, _ => if cfg.getDropOrphans then [.poolDel plan.poolID] else []
  | _, some p => [.poolAdd plan.poolID p.params]
  | _, none => []

def replacedOrAddedPool (id : UInt32) : Bool :=
  plans.any fun plan => plan.poolID = id && (plan.action = .add || plan.action = .replace)

def droppedPool (id : UInt32) : Bool :=
  plans.any fun plan => plan.poolID = id && plan.action = .drop && cfg.getDropOrphans

/-- The calls for the children of one kind: what is missing is added, then what is not wanted
is removed. -/
def childCalls (desired : List Key) (actual : List (UInt32 × Child Net4)) : List Call :=
  (desired.filter fun k =>
      replacedOrAddedPool plans k.1 || k ∉ actual.map fun (id, child) => keyOf id child).map
    (fun k => .childAdd k.1 k.2) ++
  if cfg.getDropOrphans then
    (actual.filter fun (id, child) =>
      keyOf id child ∉ desired ∧ ¬ replacedOrAddedPool plans id ∧ ¬ droppedPool cfg plans id).map
      fun (id, child) => .childDel id child
  else []

def reconcileChildren (d : Dataplane) (plans : List PoolPlan) : List Call :=
  childCalls cfg plans (env.order 2 (buildDesiredInside env cfg).dedup)
      (env.order 3 d.insidePrefixDump) ++
    childCalls cfg plans (env.order 4 (buildDesiredOutside cfg).dedup)
      (env.order 5 d.outsideAddressDump)

def calls (d : Dataplane) (plans : List PoolPlan) : List Call :=
  plans.flatMap (poolCall cfg) ++ reconcileChildren env cfg d plans

/-- The first pool that is missing or still differs after the calls. -/
def verify (d : Dataplane) : List (Bytes × Option PoolConfig) → Option ReconcileError
  | [] => none
  | (_, none) :: rest => verify d rest
  | (name, some p) :: rest =>
    match d.pool (poolID name) with
    | none => some (.missing name (poolID name))
    | some cur =>
      if poolHardDrift cur.params p ≠ [] then
        some (.stillDrifted name (poolID name) (poolHardDrift cur.params p))
      else verify d rest

def onDivergence : Option ReconcileError :=
  if cfg.getOnDivergence = .fail then
    (plans.find? fun plan => plan.action ≠ .noop).map fun plan => .diverged plan.name plan.action
  else none

/-- The error, if any, and the dataplane afterwards. -/
def reconcileWith (cfg : Option Config) (d : Dataplane) : Option ReconcileError × Dataplane :=
  match cfg with
  | none => (none, d)
  | some cfg =>
    match plan env cfg d with
    | .error e => (some e, d)
    | .ok plans =>
      if preflight env cfg d plans ≠ [] then
        (some (.disruption (preflight env cfg d plans)), d)
      else
        match runCalls env.outcome 0 d (calls env cfg d plans) with
        | (some c, d') => (some (.call c), d')
        | (none, d') =>
          ((verify d' (env.order 6 cfg.pools)).orElse fun _ => onDivergence cfg plans, d')

end Osvbng.Cgnat.Reconcile
