import Mathlib.Data.List.Dedup
import Osvbng.Cgnat.Reconcile

/-!
# What a reconciliation leaves behind

`Sound` collects what holds of every reconciliation, whatever the dataplane held, whatever
the configuration asks for and whichever calls fail: active mappings and what they need are
spared unless disruption is allowed, two pools with one identifier stop it before its first
call, and a run that succeeds and drops orphans leaves exactly the configured pools.

The last point has a condition. The configured prefixes are in the dataplane if and only if
each of them is an IPv4 prefix of a VRF that the manager knows: the driver sends the address
of any other prefix as zero, and a VRF that is not known is taken for the default one.
-/

namespace Osvbng.Cgnat.Reconcile
open Function Option List Lib.Slice Dataplane Call Prod PoolConfig
variable {env : Env} {cfg : Config} {d d' : Dataplane} {plans : List PoolPlan} {name : Bytes}
  {p : PoolConfig} {id : UInt32} {state : PoolState} {c : Call} {outcome : Outcome}
  {cur : Params} {cs : List Call}

/-! ## Plans -/

theorem Env.mem_order (env : Env) (n : Nat) {X : Type} {l : List X} {x : X} :
    x ∈ env.order n l ↔ x ∈ l :=
  (env.order_perm n l).mem_iff

theorem poolHardDrift_eq_nil_iff (cur : Params) (p : PoolConfig) :
    poolHardDrift cur p = [] ↔ cur.SameHard p.params := by
  unfold poolHardDrift Params.SameHard params
  simp only [append_eq_nil_iff, ite_eq_right_iff, reduceCtorEq, imp_false, not_not, not_or,
    and_assoc]

theorem params_of_no_drift (hhard : poolHardDrift cur p = [])
    (hsoft : poolSoftDrift cur p = false) : cur = p.params := by
  rw [poolHardDrift_eq_nil_iff] at hhard
  simp only [poolSoftDrift, Bool.or_eq_false_iff, decide_eq_false_iff_not, not_not] at hsoft
  obtain ⟨h1, h2, h3, h4, h5, h6⟩ := hhard
  cases cur
  simp only [params] at *
  simp_all

theorem no_drift_params (p : PoolConfig) :
    poolHardDrift p.params p = [] ∧ poolSoftDrift p.params p = false := by
  constructor
  · rw [poolHardDrift_eq_nil_iff]
    exact ⟨rfl, rfl, rfl, rfl, rfl, rfl⟩
  · simp [poolSoftDrift, params]

theorem planPool_of_none (p : PoolConfig) (h : d.pool (poolID name) = none) :
    planPool d name p = ⟨some name, poolID name, .add, [], some p, 0⟩ := by
  unfold planPool
  dsimp only
  rw [h]

theorem planPool_of_some {cur : PoolState} (p : PoolConfig) (h : d.pool (poolID name) = some cur) :
    (¬ cur.params.SameHard p.params ∧
      planPool d name p = ⟨some name, poolID name, .replace, poolHardDrift cur.params p, some p,
        cur.activeMappings⟩) ∨ (cur.params.SameHard p.params ∧ cur.params ≠ p.params ∧
      planPool d name p = ⟨some name, poolID name, .softUpdate, [], some p,
        cur.activeMappings⟩) ∨ (cur.params = p.params ∧
      planPool d name p = ⟨some name, poolID name, .noop, [], some p, cur.activeMappings⟩) := by
  unfold planPool
  dsimp only
  rw [h]
  dsimp only
  split
  · rename_i hhard
    exact .inl ⟨fun hsame => hhard ((poolHardDrift_eq_nil_iff _ _).mpr hsame), rfl⟩
  · rename_i hhard
    rw [not_not] at hhard
    split
    · rename_i hsoft
      refine .inr (.inl ⟨(poolHardDrift_eq_nil_iff _ _).mp hhard, fun heq => ?_, rfl⟩)
      rw [heq, (no_drift_params p).2] at hsoft
      cases hsoft
    · rename_i hsoft
      exact .inr (.inr ⟨params_of_no_drift hhard (Bool.eq_false_iff.mpr hsoft), rfl⟩)

variable (d)

@[simp] theorem poolID_planPool (name : Bytes) (p : PoolConfig) :
    (planPool d name p).poolID = poolID name := by
  unfold planPool
  dsimp only
  repeat' split
  all_goals rfl

theorem map_poolID_planPool (pools : List (Bytes × PoolConfig)) :
    (pools.map fun np => planPool d np.1 np.2).map (·.poolID) =
      pools.map fun np => poolID np.1 := by
  rw [List.map_map]
  exact map_congr_left fun np _ => poolID_planPool d np.1 np.2

theorem action_planPool_ne_drop (name : Bytes) (p : PoolConfig) :
    (planPool d name p).action ≠ .drop := by
  unfold planPool
  dsimp only
  repeat' split
  all_goals exact PoolAction.noConfusion

def desiredPools (pools : List (Bytes × Option PoolConfig)) : List (Bytes × PoolConfig) :=
  pools.filterMap fun (name, pool) => pool.map (name, ·)

theorem mem_desiredPools {pools : List (Bytes × Option PoolConfig)} :
    (name, p) ∈ desiredPools pools ↔ (name, some p) ∈ pools := by
  simp only [desiredPools, mem_filterMap, map_eq_some_iff, Prod.mk.injEq]
  constructor
  · rintro ⟨⟨n, o⟩, hmem, q, rfl, rfl, rfl⟩
    exact hmem
  · intro hmem
    exact ⟨(name, some p), hmem, p, rfl, rfl, rfl⟩

/-- Planning succeeds exactly when the identifiers are distinct, and plans every pool. -/
theorem planDesired_cases (seen : List (UInt32 × Bytes)) (hseen : (seen.map fst).Nodup)
    (pools : List (Bytes × Option PoolConfig)) :
    (((desiredPools pools).map (fun np => poolID np.1) ++ seen.map fst).Nodup ∧
        planDesired d seen pools = .ok ((desiredPools pools).map fun np => planPool d np.1 np.2)) ∨
      (¬ ((desiredPools pools).map (fun np => poolID np.1) ++ seen.map fst).Nodup ∧
        ∃ name other id, planDesired d seen pools = .error (.collision name other id)) := by
  induction pools generalizing seen with
  | nil => exact .inl ⟨hseen, rfl⟩
  | cons entry pools ih =>
    obtain ⟨name, pool⟩ := entry
    cases pool with
    | none => exact ih seen hseen
    | some p =>
      unfold planDesired
      cases hlookup : seen.lookup (poolID name) with
      | some other =>
        obtain ⟨before, after, rfl, -⟩ := lookup_eq_some_iff.mp hlookup
        refine .inr ⟨fun hnodup => (nodup_cons.mp hnodup).1 ?_, name, other, _, rfl⟩
        simp
      | none =>
        have hnew : poolID name ∉ seen.map fst := by
          intro hmem
          obtain ⟨k, hk, heq⟩ := mem_map.mp hmem
          simpa [heq] using lookup_eq_none_iff.mp hlookup k hk
        -- The identifier moves from the pools to those that are seen.
        rcases ih ((poolID name, name) :: seen) (nodup_cons.mpr ⟨hnew, hseen⟩) with
          ⟨hnodup, hok⟩ | ⟨hdup, name', other, id, herr⟩
        · rw [hok]
          exact .inl ⟨nodup_middle.mp hnodup, rfl⟩
        · rw [herr]
          exact .inr ⟨fun hnodup => hdup (nodup_middle.mpr hnodup), name', other, id, rfl⟩

def Config.Desires (cfg : Config) (id : UInt32) : Prop :=
  ∃ name p, (name, some p) ∈ cfg.pools ∧ poolID name = id

def Config.Distinct (cfg : Config) : Prop :=
  ∀ name p name' p', (name, some p) ∈ cfg.pools → (name', some p') ∈ cfg.pools →
    poolID name = poolID name' → (name, p) = (name', p')

theorem mem_ordered {np : Bytes × PoolConfig} :
    np ∈ desiredPools (env.order 0 cfg.pools) ↔ (np.1, some np.2) ∈ cfg.pools := by
  exact mem_desiredPools.trans (env.mem_order 0)

theorem nodup_poolID (h : cfg.Distinct) :
    ((desiredPools (env.order 0 cfg.pools)).map fun np => poolID np.1).Nodup := by
  have hnodup : (env.order 0 cfg.pools).Nodup :=
    (env.order_perm 0 cfg.pools).nodup_iff.mpr (Nodup.of_map _ cfg.names_nodup)
  have hdesired : (desiredPools (env.order 0 cfg.pools)).Nodup := by
    refine hnodup.filterMap fun a b np ha hb => ?_
    obtain ⟨na, oa⟩ := a
    obtain ⟨nb, ob⟩ := b
    obtain ⟨pa, rfl, rfl⟩ := map_eq_some_iff.mp ha
    obtain ⟨pb, rfl, hpb⟩ := map_eq_some_iff.mp hb
    cases hpb
    rfl
  refine hdesired.map_on fun np hnp np' hnp' heq => ?_
  exact h _ _ _ _ (mem_ordered.mp hnp) (mem_ordered.mp hnp') heq

/-- A plan exists exactly when the identifiers are distinct; otherwise there is a collision. -/
theorem plan_cases (env : Env) (cfg : Config) (d : Dataplane) :
    (cfg.Distinct ∧ plan env cfg d = .ok
      (((desiredPools (env.order 0 cfg.pools)).map fun np => planPool d np.1 np.2) ++
        ((env.order 1 d.ids).filter fun id =>
          id ∉ (desiredPools (env.order 0 cfg.pools)).map fun np => poolID np.1).map
          (planOrphan d))) ∨
      (¬ cfg.Distinct ∧ ∃ name other id, plan env cfg d = .error (.collision name other id)) := by
  rcases planDesired_cases d [] nodup_nil (env.order 0 cfg.pools) with
    ⟨hnodup, hok⟩ | ⟨hdup, name, other, id, herr⟩
  all_goals rw [map_nil, append_nil] at *
  · refine .inl ⟨fun name p name' p' hp hp' heq => ?_, ?_⟩
    · exact inj_on_of_nodup_map hnodup (mem_ordered.mpr hp) (mem_ordered.mpr hp') heq
    · unfold plan
      rw [hok]
      simp only [Except.map, map_poolID_planPool]
  · refine .inr ⟨fun hdistinct => hdup (nodup_poolID hdistinct), name, other, id, ?_⟩
    unfold plan
    rw [herr]
    rfl

variable {d}

structure Planned (cfg : Config) (d : Dataplane) (plans : List PoolPlan) : Prop where
  distinct : cfg.Distinct
  ids_nodup : (plans.map (·.poolID)).Nodup
  mem_iff : ∀ plan, plan ∈ plans ↔
    (∃ name p, (name, some p) ∈ cfg.pools ∧ plan = planPool d name p) ∨
      ∃ id, (d.pool id).isSome ∧ ¬ cfg.Desires id ∧ plan = planOrphan d id

theorem planned_of_plan (h : plan env cfg d = .ok plans) : Planned cfg d plans := by
  rcases plan_cases env cfg d with ⟨hdistinct, hok⟩ | ⟨-, name, other, id, herr⟩
  · rw [hok] at h
    cases h
    have hmem {B : Type} (f : Bytes × PoolConfig → B) x :
        x ∈ (desiredPools (env.order 0 cfg.pools)).map f ↔
          ∃ name p, (name, some p) ∈ cfg.pools ∧ f (name, p) = x := by
      simp only [List.mem_map, Prod.exists, mem_ordered]
    have hdesires id : _ ↔ cfg.Desires id := hmem (fun np => poolID np.1) id
    refine ⟨hdistinct, ?_, fun plan => ?_⟩
    · have horphan (l : List UInt32) : (l.map (planOrphan d)).map (·.poolID) = l := by
        rw [List.map_map]
        exact map_id l
      rw [map_append, map_poolID_planPool, horphan, nodup_append]
      refine ⟨nodup_poolID hdistinct, ?_, ?_⟩
      · exact ((env.order_perm 1 d.ids).nodup_iff.mpr d.ids_nodup).filter _
      · rintro id hid _ hfree rfl
        exact (decide_eq_true_iff.mp (mem_filter.mp hfree).2) hid
    · rw [List.mem_append, hmem, List.mem_map]
      refine or_congr (by simp only [eq_comm]) (exists_congr fun id => ?_)
      rw [mem_filter, env.mem_order, d.mem_ids, decide_eq_true_iff, hdesires, and_assoc,
        @eq_comm _ _ plan]
  · rw [herr] at h
    cases h

namespace Planned

theorem exists_plan (h : Planned cfg d plans) (hid : d.pool id = some state) :
    ∃ plan ∈ plans, plan.poolID = id ∧ plan.activeMappings = state.activeMappings := by
  by_cases hdes : cfg.Desires id
  · obtain ⟨name, p, hp, rfl⟩ := hdes
    refine ⟨_, (h.mem_iff _).mpr (.inl ⟨name, p, hp, rfl⟩), poolID_planPool d name p, ?_⟩
    rcases planPool_of_some p hid with ⟨-, heq⟩ | ⟨-, -, heq⟩ | ⟨-, heq⟩
    all_goals rw [heq]
  · refine ⟨_, (h.mem_iff _).mpr (.inr ⟨id, ?_, hdes, rfl⟩), rfl, ?_⟩
    · rw [hid]
      rfl
    · show ((d.pool id).map _).getD 0 = _
      rw [hid]
      rfl

theorem plan_unique (h : Planned cfg d plans) {plan plan' : PoolPlan} (hp : plan ∈ plans)
    (hp' : plan' ∈ plans) (hid : plan.poolID = plan'.poolID) : plan = plan' :=
  inj_on_of_nodup_map h.ids_nodup hp hp' hid

end Planned

/-! ## Calls -/

/-- What a call that succeeds makes of the pool it is for. -/
def Call.effect : Call → Option PoolState → Option PoolState
  | .poolAdd _ params, some state =>
    if state.params.SameHard params then some { state with params := params }
    else some ⟨params, 0, []⟩
  | .poolAdd _ params, none => some ⟨params, 0, []⟩
  | .poolDel _, _ => none
  | .childAdd _ child, some state => (sent child).map fun child =>
    { state with children := child :: state.children.filter (· ≠ child) }
  | .childDel _ child, some state =>
    some { state with children := state.children.filter (· ≠ child) }
  | .childAdd _ _, none => none
  | .childDel _ _, none => none

theorem effect_childAdd {child : Child (Option Net)} {child4 : Child Net4}
    (h : sent child = some child4) : (childAdd id child).effect (some state) = some
      { state with children := child4 :: state.children.filter (· ≠ child4) } := by
  rw [effect, h]
  rfl

@[simp] theorem Dataplane.pool_set (d : Dataplane) (id : UInt32) (state : PoolState) :
    (d.set id state).pool = update d.pool id (some state) := rfl

@[simp] theorem Dataplane.pool_erase (d : Dataplane) (id : UInt32) :
    (d.erase id).pool = update d.pool id none := rfl

/-- Everything a call can do: nothing, its effect, or the deletion half of a replacement. -/
theorem Call.run_cases (c : Call) (outcome : Dataplane.Outcome) (d : Dataplane) :
    ((c.run outcome d).1 = d ∧
        ((c.run outcome d).2 = true → c.effect (d.pool c.id) = d.pool c.id)) ∨
      ((c.run outcome d).2 = true ∧
        (c.run outcome d).1.pool = update d.pool c.id (c.effect (d.pool c.id))) ∨
      ((c.run outcome d).2 = false ∧ (c.run outcome d).1.pool = update d.pool c.id none ∧
        ∃ params state, c = .poolAdd c.id params ∧ d.pool c.id = some state ∧
          ¬ state.params.SameHard params) := by
  cases c with
  | poolAdd id params =>
    cases hpool : d.pool id with
    | none => cases outcome <;> simp [Call.run, Dataplane.poolAdd, Call.effect, hpool, Call.id]
    | some state =>
      by_cases hsame : state.params.SameHard params <;> cases outcome <;>
        simp [Call.run, Dataplane.poolAdd, Call.effect, hpool, hsame, Call.id]
  | poolDel id =>
    cases hpool : d.pool id <;> cases outcome <;>
      simp [Call.run, Dataplane.poolDel, Call.effect, hpool, Call.id]
  | childAdd id child =>
    cases hsent : sent child with
    | none => exact .inl (by simp [Call.run, hsent])
    | some child4 =>
      cases hpool : d.pool id <;> cases outcome <;>
        simp [Call.run, Dataplane.childAdd, Call.effect, hpool, hsent, Call.id]
  | childDel id child =>
    cases hpool : d.pool id with
    | none => cases outcome <;> simp [Call.run, Dataplane.childDel, Call.effect, hpool, Call.id]
    | some state =>
      by_cases hmem : child ∈ state.children
      · cases outcome <;> simp [Call.run, Dataplane.childDel, Call.effect, hpool, hmem, Call.id]
      · have hfilter : (state.children.filter fun x => !decide (x = child)) = state.children := by
          rw [filter_eq_self]
          rintro x hx
          simpa using fun heq : x = child => hmem (heq ▸ hx)
        refine .inl ?_
        cases outcome <;>
          simp [Call.run, Dataplane.childDel, Call.effect, hpool, hmem, hfilter, Call.id]

theorem Call.run_of_ne (h : id ≠ c.id) : (c.run outcome d).1.pool id = d.pool id := by
  rcases c.run_cases outcome d with ⟨heq, -⟩ | ⟨-, heq⟩ | ⟨-, heq, -⟩
  · rw [heq]
  · rw [heq, update_of_ne h]
  · rw [heq, update_of_ne h]

theorem Call.run_eq_true
    (h : (c.run outcome d).2 = true) : (c.run outcome d).1.pool c.id = c.effect (d.pool c.id) := by
  rcases c.run_cases outcome d with ⟨heq, hsame⟩ | ⟨-, heq⟩ | ⟨hfalse, -⟩
  · rw [heq, hsame h]
  · rw [heq, update_self]
  · rw [h] at hfalse
    cases hfalse

def effects (cs : List Call) (id : UInt32) (state : Option PoolState) : Option PoolState :=
  (cs.filter (·.id = id)).foldl (fun s c => c.effect s) state

theorem runCalls_eq_none {outcome : Nat → Outcome} {n : Nat}
    (h : runCalls outcome n d cs = (none, d')) (id : UInt32) :
    d'.pool id = effects cs id (d.pool id) := by
  unfold effects
  induction cs generalizing n d with
  | nil =>
    cases h
    rfl
  | cons c cs ih =>
    unfold runCalls at h
    dsimp only at h
    split at h
    · rename_i hok
      rw [ih h]
      by_cases hid : c.id = id
      · rw [filter_cons_of_pos (by simpa using hid), foldl_cons, ← hid, run_eq_true hok]
      · rw [filter_cons_of_neg (by simpa using hid), run_of_ne (Ne.symm hid)]
    · cases h

/-! ## The calls of a plan -/

/-- The children that the reconciler wants, by pool. -/
def desiredKeys (env : Env) (cfg : Config) : List Key :=
  buildDesiredInside env cfg ++ buildDesiredOutside cfg

theorem mem_elim_nil {X Y : Type} {o : Option X} {f : X → List Y} {y : Y} :
    y ∈ o.elim [] f ↔ ∃ x, o = some x ∧ y ∈ f x := by
  cases o <;> simp

theorem Dataplane.mem_dump {child : Child Net4} :
    (id, child) ∈ d.dump ↔ ∃ state, d.pool id = some state ∧ child ∈ state.children := by
  simp only [dump, mem_flatMap, mem_elim_nil, List.mem_map]
  constructor
  · rintro ⟨id', -, state, hpool, child', hchild, heq⟩
    cases heq
    exact ⟨state, hpool, hchild⟩
  · rintro ⟨state, hpool, hchild⟩
    refine ⟨id, (d.mem_ids id).mpr ?_, state, hpool, child, hchild, rfl⟩
    rw [hpool]
    rfl

theorem mem_buildDesiredInside {k : Key} : k ∈ buildDesiredInside env cfg ↔
    ∃ name p, (name, some p) ∈ cfg.pools ∧ ∃ ip ∈ p.insidePrefixes, ∃ net, ip.pfx = some net ∧
      (poolID name, .inside (some net) (env.vrfID ip.vrf)) = k := by
  simp only [buildDesiredInside, mem_flatMap, mem_elim_nil, mem_filterMap, map_eq_some_iff]
  constructor
  · rintro ⟨⟨name, pool⟩, hpool, p, rfl, hk⟩
    exact ⟨name, p, hpool, hk⟩
  · rintro ⟨name, p, hpool, hk⟩
    exact ⟨(name, some p), hpool, p, rfl, hk⟩

theorem mem_buildDesiredOutside {k : Key} : k ∈ buildDesiredOutside cfg ↔
    ∃ name p, (name, some p) ∈ cfg.pools ∧ ∃ net, some net ∈ p.outsidePrefixes ∧
      (poolID name, .outside net) = k := by
  simp only [buildDesiredOutside, mem_flatMap, mem_elim_nil, mem_filterMap, map_eq_some_iff]
  constructor
  · rintro ⟨⟨name, pool⟩, hpool, p, rfl, _, hnet, net, rfl, hk⟩
    exact ⟨name, p, hpool, net, hnet, hk⟩
  · rintro ⟨name, p, hpool, net, hnet, hk⟩
    exact ⟨(name, some p), hpool, p, rfl, some net, hnet, net, rfl, hk⟩

theorem isInside_of_mem_inside {k : Key} (h : k ∈ buildDesiredInside env cfg) :
    k.2.isInside = true := by
  obtain ⟨-, -, -, -, -, -, -, rfl⟩ := mem_buildDesiredInside.mp h
  rfl

theorem isInside_of_mem_outside {k : Key} (h : k ∈ buildDesiredOutside cfg) :
    k.2.isInside = false := by
  obtain ⟨-, -, -, -, -, rfl⟩ := mem_buildDesiredOutside.mp h
  rfl

theorem sent_keyOf (id : UInt32) (child : Child Net4) : sent (keyOf id child).2 = some child := by
  cases child <;> rfl

theorem keyOf_injective {id' : UInt32} {child child' : Child Net4}
    (h : keyOf id child = keyOf id' child') : (id, child) = (id', child') := by
  have hchild : some child = some child' := by
    rw [← sent_keyOf id child, ← sent_keyOf id' child', h]
  rw [some_inj.mp hchild, show id = id' from congrArg fst h]

@[simp] theorem isInside_keyOf (id : UInt32) (child : Child Net4) :
    (keyOf id child).2.isInside = child.isInside := by
  cases child <;> rfl

variable {actual : List (UInt32 × Child Net4)} {child : Child (Option Net)} {desired : List Key}

theorem childAdd_mem_childCalls : .childAdd id child ∈ childCalls cfg plans desired actual ↔
      (id, child) ∈ desired ∧ (replacedOrAddedPool plans id = true ∨
        ∀ k ∈ actual, keyOf k.1 k.2 ≠ (id, child)) := by
  have hactual : ((id, child) ∉ actual.map fun k => keyOf k.1 k.2) ↔
      ∀ k ∈ actual, keyOf k.1 k.2 ≠ (id, child) := by
    rw [List.mem_map, not_exists]
    exact forall_congr' fun k => not_and
  unfold childCalls
  rw [List.mem_append, or_iff_left (by split <;> simp), List.mem_map, ← hactual]
  constructor
  · rintro ⟨⟨id', child'⟩, hmem, heq⟩
    cases heq
    obtain ⟨hdesired, hneeded⟩ := mem_filter.mp hmem
    rw [Bool.or_eq_true, decide_eq_true_iff] at hneeded
    exact ⟨hdesired, hneeded⟩
  · rintro ⟨hdesired, hneeded⟩
    refine ⟨(id, child), mem_filter.mpr ⟨hdesired, ?_⟩, rfl⟩
    rw [Bool.or_eq_true, decide_eq_true_iff]
    exact hneeded

theorem childDel_mem_childCalls {child : Child Net4} :
    .childDel id child ∈ childCalls cfg plans desired actual ↔
      cfg.getDropOrphans = true ∧ (id, child) ∈ actual ∧ keyOf id child ∉ desired ∧
        replacedOrAddedPool plans id = false ∧ droppedPool cfg plans id = false := by
  unfold childCalls
  rw [List.mem_append, or_iff_right (by simp)]
  split
  · rename_i hdrop
    rw [and_iff_right hdrop, List.mem_map]
    constructor
    · rintro ⟨⟨id', child'⟩, hmem, heq⟩
      cases heq
      obtain ⟨hactual, hnot⟩ := mem_filter.mp hmem
      rw [decide_eq_true_iff, Bool.not_eq_true, Bool.not_eq_true] at hnot
      exact ⟨hactual, hnot⟩
    · rintro ⟨hactual, hnot⟩
      refine ⟨(id, child), mem_filter.mpr ⟨hactual, ?_⟩, rfl⟩
      rw [decide_eq_true_iff, Bool.not_eq_true, Bool.not_eq_true]
      exact hnot
  · rename_i hdrop
    simp [hdrop]

/-- What is added: the children that are wanted, if the pool is new or they are not there. -/
theorem childAdd_mem_reconcileChildren : .childAdd id child ∈ reconcileChildren env cfg d plans ↔
      (id, child) ∈ desiredKeys env cfg ∧ (replacedOrAddedPool plans id = true ∨
        ∀ k ∈ d.dump, keyOf k.1 k.2 ≠ (id, child)) := by
  have hkind (k : UInt32 × Child Net4) : keyOf k.1 k.2 = (id, child) →
      k.2.isInside = child.isInside := by
    intro heq
    rw [← isInside_keyOf k.1 k.2, heq]
  unfold reconcileChildren desiredKeys
  rw [mem_append, childAdd_mem_childCalls, childAdd_mem_childCalls, mem_append]
  simp only [env.mem_order, mem_dedup, insidePrefixDump,
    outsideAddressDump, mem_filter]
  constructor
  · rintro (⟨hdesired, hneeded⟩ | ⟨hdesired, hneeded⟩)
    · have hinside := isInside_of_mem_inside hdesired
      refine ⟨.inl hdesired, hneeded.imp_right fun h k hk heq => h k ⟨hk, ?_⟩ heq⟩
      exact (hkind k heq).trans hinside
    · have houtside := isInside_of_mem_outside hdesired
      refine ⟨.inr hdesired, hneeded.imp_right fun h k hk heq => h k ⟨hk, ?_⟩ heq⟩
      rw [hkind k heq, houtside]
      rfl
  · rintro ⟨hdesired | hdesired, hneeded⟩
    · exact .inl ⟨hdesired, hneeded.imp_right fun h k hk => h k hk.1⟩
    · exact .inr ⟨hdesired, hneeded.imp_right fun h k hk => h k hk.1⟩

/-- What is removed: the children that are not wanted, unless their pool is new or gone. -/
theorem childDel_mem_reconcileChildren {child : Child Net4} :
    .childDel id child ∈ reconcileChildren env cfg d plans ↔
      cfg.getDropOrphans = true ∧ (id, child) ∈ d.dump ∧ keyOf id child ∉ desiredKeys env cfg ∧
        replacedOrAddedPool plans id = false ∧ droppedPool cfg plans id = false := by
  have hnotIn : child.isInside = false → keyOf id child ∉ buildDesiredInside env cfg := by
    intro hkind hmem
    have hinside := isInside_of_mem_inside hmem
    rw [isInside_keyOf, hkind] at hinside
    cases hinside
  have hnotOut : child.isInside = true → keyOf id child ∉ buildDesiredOutside cfg := by
    intro hkind hmem
    have houtside := isInside_of_mem_outside hmem
    rw [isInside_keyOf, hkind] at houtside
    cases houtside
  unfold reconcileChildren desiredKeys
  rw [mem_append, childDel_mem_childCalls, childDel_mem_childCalls, mem_append, not_or]
  simp only [env.mem_order, mem_dedup, insidePrefixDump,
    outsideAddressDump, mem_filter]
  cases hkind : child.isInside with
  | true => simp [hnotOut hkind]
  | false => simp [hnotIn hkind]

theorem poolCall_id {plan : PoolPlan} (h : c ∈ poolCall cfg plan) : c.id = plan.poolID := by
  unfold poolCall at h
  split at h
  · cases h
  · split at h
    · rw [mem_singleton.mp h]
      rfl
    · cases h
  · rw [mem_singleton.mp h]
    rfl
  · cases h

/-! ## Active mappings are spared -/

structure Spared (state state' : PoolState) : Prop where
  activeMappings : state'.activeMappings = state.activeMappings
  hard : state.params.SameHard state'.params
  children : state.children ⊆ state'.children

def Gentle (state : PoolState) : Call → Prop
  | .poolAdd _ params => state.params.SameHard params
  | .childAdd _ _ => True
  | .poolDel _ => False
  | .childDel _ _ => False

theorem Params.SameHard.symm {a b : Params} (h : a.SameHard b) : b.SameHard a :=
  ⟨h.1.symm, h.2.1.symm, h.2.2.1.symm, h.2.2.2.1.symm, h.2.2.2.2.1.symm, h.2.2.2.2.2.symm⟩

theorem Params.SameHard.trans {a b c : Params} (h : a.SameHard b) (h' : b.SameHard c) :
    a.SameHard c :=
  ⟨h.1.trans h'.1, h.2.1.trans h'.2.1, h.2.2.1.trans h'.2.2.1, h.2.2.2.1.trans h'.2.2.2.1,
    h.2.2.2.2.1.trans h'.2.2.2.2.1, h.2.2.2.2.2.trans h'.2.2.2.2.2⟩

theorem Gentle.run {cur : PoolState} (h : Gentle state c) (hcur : d.pool c.id = some cur)
    (hspared : Spared state cur) :
    ∃ cur', (c.run outcome d).1.pool c.id = some cur' ∧ Spared state cur' := by
  rcases c.run_cases outcome d with
    ⟨heq, -⟩ | ⟨hok, heq⟩ | ⟨-, -, params, cur', hc, hcur', hhard⟩
  · rw [heq]
    exact ⟨cur, hcur, hspared⟩
  · rw [heq, update_self, hcur]
    cases c with
    | poolAdd id params =>
      have hsame : cur.params.SameHard params := hspared.hard.symm.trans h
      exact ⟨_, if_pos hsame, hspared.activeMappings, h, hspared.children⟩
    | childAdd id child =>
      cases hsent : sent child with
      | none => simp [run, hsent] at hok
      | some child4 =>
        refine ⟨_, effect_childAdd hsent, hspared.activeMappings, hspared.hard, fun x hx => ?_⟩
        by_cases hxc : x = child4
        · rw [hxc]
          exact mem_cons_self
        · refine mem_cons_of_mem _ (mem_filter.mpr ⟨hspared.children hx, ?_⟩)
          exact decide_eq_true hxc
    | poolDel | childDel => exact h.elim
  · rw [hcur] at hcur'
    cases hcur'
    rw [hc] at h
    exact absurd (hspared.hard.symm.trans h) hhard

theorem runCalls_spares {outcome : Nat → Outcome} {n : Nat} {cur : PoolState}
    (hgentle : ∀ c ∈ cs, c.id = id → Gentle state c) (hcur : d.pool id = some cur)
    (hspared : Spared state cur) :
    ∃ cur', (runCalls outcome n d cs).2.pool id = some cur' ∧ Spared state cur' := by
  induction cs generalizing n d cur with
  | nil => exact ⟨cur, hcur, hspared⟩
  | cons c cs ih =>
    have hstep : ∃ cur', (c.run (outcome n) d).1.pool id = some cur' ∧ Spared state cur' := by
      by_cases hid : c.id = id
      · rw [← hid] at hcur ⊢
        exact (hgentle c mem_cons_self hid).run hcur hspared
      · rw [run_of_ne (Ne.symm hid)]
        exact ⟨cur, hcur, hspared⟩
    obtain ⟨cur', hcur', hspared'⟩ := hstep
    unfold runCalls
    dsimp only
    split
    · exact ih (fun c' hc' => hgentle c' (mem_cons_of_mem _ hc')) hcur' hspared'
    · exact ⟨cur', hcur', hspared'⟩

theorem preflight_eq_nil (hallow : cfg.getAllowPoolDisruption = false)
    (h : preflight env cfg d plans = []) :
    (∀ plan ∈ plans, planDisruption cfg plan = []) ∧
      ∀ id child, (id, child) ∈ d.dump → keyOf id child ∉ desiredKeys env cfg →
        cfg.getDropOrphans = true → hasActiveMappingsUnder plans id = false := by
  unfold preflight at h
  rw [hallow] at h
  simp only [Bool.false_eq_true, if_false, append_eq_nil_iff, flatMap_eq_nil_iff] at h
  obtain ⟨⟨hplans, hinside⟩, houtside⟩ := h
  refine ⟨hplans, fun id child hdump hkey hdrop => Bool.eq_false_iff.mpr fun hactive => ?_⟩
  unfold childDisruption at hinside houtside
  rw [map_eq_nil_iff, filter_eq_nil_iff] at hinside houtside
  unfold desiredKeys at hkey
  rw [mem_append, not_or] at hkey
  cases hkind : child.isInside with
  | true =>
    refine hinside (id, child) (mem_filter.mpr ⟨hdump, hkind⟩) ?_
    exact decide_eq_true ⟨hkey.1, hdrop, hactive⟩
  | false =>
    refine houtside (id, child) (mem_filter.mpr ⟨hdump, by rw [hkind]; rfl⟩) ?_
    exact decide_eq_true ⟨hkey.2, hdrop, hactive⟩

theorem gentle_of_preflight (hplanned : Planned cfg d plans)
    (hallow : cfg.getAllowPoolDisruption = false) (hpre : preflight env cfg d plans = [])
    (hid : d.pool id = some state)
    (hactive : 0 < state.activeMappings) (hc : c ∈ calls env cfg d plans)
    (hcid : c.id = id) : Gentle state c := by
  obtain ⟨hplans, hchildren⟩ := preflight_eq_nil hallow hpre
  obtain ⟨plan, hplan, hplanid, hmappings⟩ := hplanned.exists_plan hid
  rcases mem_append.mp hc with hpool | hchild
  · obtain ⟨plan', hplan', hc⟩ := mem_flatMap.mp hpool
    have hsame : plan' = plan :=
      hplanned.plan_unique hplan' hplan ((poolCall_id hc).symm.trans (hcid.trans hplanid.symm))
    rw [hsame] at hc hplan'
    have hquiet := hplans plan hplan
    rcases (hplanned.mem_iff plan).mp hplan with ⟨name, p, -, rfl⟩ | ⟨id', -, -, rfl⟩
    · rw [poolID_planPool] at hplanid
      rw [← hplanid] at hid
      rcases planPool_of_some p hid with ⟨-, heq⟩ | ⟨hhard, -, heq⟩ | ⟨-, heq⟩
      · rw [heq] at hquiet
        simp [planDisruption, hactive] at hquiet
      · rw [heq] at hc
        rw [mem_singleton.mp hc]
        exact hhard
      · rw [heq] at hc
        cases hc
    · rw [← hmappings] at hactive
      have hdrop : cfg.getDropOrphans = false := by
        by_contra hdrop
        rw [Bool.not_eq_false] at hdrop
        have hloud : planDisruption cfg (planOrphan d id') =
            [.drop id' (planOrphan d id').activeMappings] :=
          if_pos (by rw [hdrop, Bool.true_and]; exact decide_eq_true hactive)
        rw [hloud] at hquiet
        cases hquiet
      simp [poolCall, planOrphan, hdrop] at hc
  · cases c with
    | childAdd cid child => trivial
    | childDel cid child =>
      obtain ⟨hdrop, hdump, hkey, -⟩ := childDel_mem_reconcileChildren.mp hchild
      have hnone := hchildren cid child hdump hkey hdrop
      have hsome : hasActiveMappingsUnder plans cid = true := by
        refine any_eq_true.mpr ⟨plan, hplan, ?_⟩
        rw [Bool.and_eq_true, decide_eq_true_iff, decide_eq_true_iff]
        refine ⟨hplanid.trans hcid.symm, ?_⟩
        rw [hmappings]
        exact hactive
      rw [hnone] at hsome
      cases hsome
    | poolAdd | poolDel => simp [reconcileChildren, childCalls] at hchild

/-- Unless disruption is allowed, a pool with active mappings is spared, wherever the
reconciliation stops. -/
theorem reconcileWith_spares (hallow : cfg.getAllowPoolDisruption = false)
    (hid : d.pool id = some state) (hactive : 0 < state.activeMappings) :
    ∃ state', (reconcileWith env (some cfg) d).2.pool id = some state' ∧ Spared state state' := by
  have hrefl : Spared state state := ⟨rfl, ⟨rfl, rfl, rfl, rfl, rfl, rfl⟩, Subset.refl _⟩
  unfold reconcileWith
  dsimp only
  cases hplan : plan env cfg d with
  | error e => exact ⟨state, hid, hrefl⟩
  | ok plans =>
    dsimp only
    split
    · exact ⟨state, hid, hrefl⟩
    · rename_i hpre
      rw [not_not] at hpre
      have hgentle : ∀ c ∈ calls env cfg d plans, c.id = id → Gentle state c := fun c hc hcid =>
        gentle_of_preflight (planned_of_plan hplan) hallow hpre hid hactive hc hcid
      have hspares : ∃ state', (runCalls env.outcome 0 d (calls env cfg d plans)).2.pool id =
          some state' ∧ Spared state state' := runCalls_spares hgentle hid hrefl
      obtain ⟨state', hstate', hspared⟩ := hspares
      refine ⟨state', ?_, hspared⟩
      rw [← hstate']
      cases hrun : runCalls env.outcome 0 d (calls env cfg d plans) with
      | mk c d' =>
        cases c with
        | none | some => rfl

/-! ## Convergence -/

/-- All prefixes of the configuration are IPv4, and so the driver sends them as they are. -/
def Config.Ipv4 (cfg : Config) : Prop :=
  ∀ name p, (name, some p) ∈ cfg.pools →
    (∀ ip ∈ p.insidePrefixes, ∀ net ∈ ip.pfx, ∃ addr len, net = .v4 addr len) ∧
      ∀ net, some net ∈ p.outsidePrefixes → ∃ addr len, net = some (.v4 addr len)

/-- Calls for the children of a pool, none of which removes what another one adds. -/
theorem foldl_children (state : PoolState)
    (hkind : ∀ c ∈ cs, (∃ child, c = .childAdd id child) ∨ ∃ child, c = .childDel id child)
    (hsent : ∀ child, .childAdd id child ∈ cs → (sent child).isSome)
    (hapart : ∀ child child4, .childAdd id child ∈ cs → sent child = some child4 →
      .childDel id child4 ∉ cs) :
    ∃ state', cs.foldl (fun s c => c.effect s) (some state) = some state' ∧
      state'.params = state.params ∧
      ∀ x, x ∈ state'.children ↔ (x ∈ state.children ∧ .childDel id x ∉ cs) ∨
        ∃ child, .childAdd id child ∈ cs ∧ sent child = some x := by
  induction cs generalizing state with
  | nil => exact ⟨state, rfl, rfl, by simp⟩
  | cons c cs ih =>
    have hkind' := fun c' hc' => hkind c' (mem_cons_of_mem _ hc')
    have hsent' := fun child hc' => hsent child (mem_cons_of_mem _ hc')
    have hapart' : ∀ child child4, .childAdd id child ∈ cs → sent child = some child4 →
        .childDel id child4 ∉ cs := fun child child4 hc' hs hdel =>
      hapart child child4 (mem_cons_of_mem _ hc') hs (mem_cons_of_mem _ hdel)
    rw [foldl_cons]
    rcases hkind c mem_cons_self with ⟨child, rfl⟩ | ⟨child, rfl⟩
    · obtain ⟨child4, hchild4⟩ := isSome_iff_exists.mp (hsent child mem_cons_self)
      rw [effect_childAdd hchild4]
      obtain ⟨state', hfold, hparams, hmem⟩ := ih _ hkind' hsent' hapart'
      refine ⟨state', hfold, hparams, fun x => ?_⟩
      rw [hmem x]
      have hkeep : .childDel id child4 ∉ cs := fun hdel =>
        hapart child child4 mem_cons_self hchild4 (mem_cons_of_mem _ hdel)
      by_cases hx : x = child4
      · rw [hx]
        refine iff_of_true (.inl ⟨mem_cons_self, hkeep⟩) (.inr ?_)
        exact ⟨child, mem_cons_self, hchild4⟩
      · have hother child' : .childAdd id child' = childAdd id child →
            sent child' ≠ some x := by
          intro heq hs
          cases heq
          rw [hchild4] at hs
          exact hx (some_inj.mp hs).symm
        simp only [mem_cons, hx, false_or, mem_filter, decide_true, ne_eq,
          not_false_eq_true, and_true, reduceCtorEq]
        refine or_congr Iff.rfl (exists_congr fun child' => and_congr_left fun hs => ?_)
        rw [or_iff_right fun heq => hother child' heq hs]
    · have heffect : (childDel id child).effect (some state) = some
          { state with children := state.children.filter (· ≠ child) } := rfl
      obtain ⟨state', hfold, hparams, hmem⟩ := ih _ hkind' hsent' hapart'
      refine ⟨state', hfold, hparams, fun x => ?_⟩
      rw [hmem x]
      simp only [mem_cons, mem_filter, decide_eq_true_eq, reduceCtorEq, false_or,
        childDel.injEq, true_and, not_or, and_assoc]

section Converges
variable {plan : PoolPlan}

theorem filter_poolCalls_eq_nil (h : id ∉ plans.map (·.poolID)) :
    (plans.flatMap (poolCall cfg)).filter (·.id = id) = [] := by
  rw [filter_eq_nil_iff]
  intro c hc hid
  obtain ⟨q, hq, hc⟩ := mem_flatMap.mp hc
  exact h (mem_map.mpr ⟨q, hq, (poolCall_id hc).symm.trans (of_decide_eq_true hid)⟩)

theorem filter_poolCalls (hnodup : (plans.map (·.poolID)).Nodup) (hplan : plan ∈ plans) :
    (plans.flatMap (poolCall cfg)).filter (·.id = plan.poolID) = poolCall cfg plan := by
  obtain ⟨before, after, rfl⟩ := append_of_mem hplan
  rw [map_append, map_cons, nodup_middle, nodup_cons, mem_append, not_or] at hnodup
  rw [flatMap_append, flatMap_cons, filter_append, filter_append,
    filter_poolCalls_eq_nil hnodup.1.1, filter_poolCalls_eq_nil hnodup.1.2, nil_append, append_nil,
    filter_eq_self]
  exact fun c hc => decide_eq_true (poolCall_id hc)

theorem Planned.any_eq (h : Planned cfg d plans) (hplan : plan ∈ plans) (f : PoolPlan → Bool) :
    (plans.any fun q => decide (q.poolID = plan.poolID) && f q) = f plan := by
  rw [Bool.eq_iff_iff, List.any_eq_true]
  constructor
  · rintro ⟨q, hq, hact⟩
    rw [Bool.and_eq_true, decide_eq_true_iff] at hact
    rw [← h.plan_unique hq hplan hact.1]
    exact hact.2
  · intro hact
    exact ⟨plan, hplan, by rw [hact]; simp⟩

theorem Planned.replaced_eq (h : Planned cfg d plans) (hplan : plan ∈ plans) :
    replacedOrAddedPool plans plan.poolID =
      (decide (plan.action = .add) || decide (plan.action = .replace)) :=
  h.any_eq hplan _

theorem Planned.dropped_eq (h : Planned cfg d plans) (hplan : plan ∈ plans) :
    droppedPool cfg plans plan.poolID = (decide (plan.action = .drop) && cfg.getDropOrphans) := by
  simp only [droppedPool, Bool.and_assoc]
  exact h.any_eq hplan _

theorem mem_desiredKeys {k : Key} : k ∈ desiredKeys env cfg ↔
    ∃ name p, (name, some p) ∈ cfg.pools ∧
      ((∃ ip ∈ p.insidePrefixes, ∃ net, ip.pfx = some net ∧
          (poolID name, .inside (some net) (env.vrfID ip.vrf)) = k) ∨
        ∃ net, some net ∈ p.outsidePrefixes ∧ (poolID name, .outside net) = k) := by
  unfold desiredKeys
  rw [mem_append, mem_buildDesiredInside, mem_buildDesiredOutside]
  simp only [and_or_left, exists_or]

theorem desires_of_mem {k : Key} (h : k ∈ desiredKeys env cfg) : cfg.Desires k.1 := by
  obtain ⟨name, p, hp, ⟨-, -, -, -, rfl⟩ | ⟨-, -, rfl⟩⟩ := mem_desiredKeys.mp h
  all_goals exact ⟨name, p, hp, rfl⟩

theorem sent_of_ipv4 (hv4 : cfg.Ipv4) {child : Child (Option Net)}
    (h : (id, child) ∈ desiredKeys env cfg) :
    ∃ child4, sent child = some child4 ∧ keyOf id child4 = (id, child) := by
  obtain ⟨name, p, hp, ⟨ip, hip, net, hnet, hk⟩ | ⟨net, hnet, hk⟩⟩ := mem_desiredKeys.mp h
  · obtain ⟨addr, len, rfl⟩ := (hv4 name p hp).1 ip hip net hnet
    cases hk
    exact ⟨.inside (addr, len) (env.vrfID ip.vrf), rfl, rfl⟩
  · obtain ⟨addr, len, rfl⟩ := (hv4 name p hp).2 net hnet
    cases hk
    exact ⟨.outside (addr, len), rfl, rfl⟩

/-- The two ways to a pool of the configuration: made new and empty, or kept with its
children. -/
def Begun (plans : List PoolPlan) (d : Dataplane) (id : UInt32) (state : PoolState) : Prop :=
  (replacedOrAddedPool plans id = true ∧ state.children = []) ∨
    (replacedOrAddedPool plans id = false ∧
      ∃ cur, d.pool id = some cur ∧ state.children = cur.children)

theorem pool_after_poolCalls (hplanned : Planned cfg d plans) (hp : (name, some p) ∈ cfg.pools) :
    ∃ state, effects (plans.flatMap (poolCall cfg)) (poolID name) (d.pool (poolID name)) =
      some state ∧ state.params = p.params ∧ Begun plans d (poolID name) state := by
  have hplan : planPool d name p ∈ plans := (hplanned.mem_iff _).mpr (.inl ⟨name, p, hp, rfl⟩)
  have hcalls : (plans.flatMap (poolCall cfg)).filter (·.id = (planPool d name p).poolID) =
      poolCall cfg (planPool d name p) := filter_poolCalls hplanned.ids_nodup hplan
  have hreplaced := hplanned.replaced_eq hplan
  rw [poolID_planPool] at hcalls hreplaced
  unfold effects Begun
  rw [hcalls, hreplaced]
  cases hcur : d.pool (poolID name) with
  | none =>
    rw [planPool_of_none p hcur]
    exact ⟨⟨p.params, 0, []⟩, rfl, rfl, .inl ⟨rfl, rfl⟩⟩
  | some cur =>
    rcases planPool_of_some p hcur with ⟨hhard, heq⟩ | ⟨hhard, -, heq⟩ | ⟨hsame, heq⟩
    · rw [heq]
      refine ⟨⟨p.params, 0, []⟩, ?_, rfl, .inl ⟨rfl, rfl⟩⟩
      exact if_neg hhard
    · rw [heq]
      refine ⟨{ cur with params := p.params }, ?_, rfl, .inr ⟨rfl, cur, rfl, rfl⟩⟩
      exact if_pos hhard
    · rw [heq]
      exact ⟨cur, rfl, hsame, .inr ⟨rfl, cur, rfl, rfl⟩⟩

theorem reconcileChildren_kind (h : c ∈ reconcileChildren env cfg d plans) :
    (∃ child, c = .childAdd c.id child) ∨ ∃ child, c = .childDel c.id child := by
  cases c with
  | childAdd id child => exact .inl ⟨child, rfl⟩
  | childDel id child => exact .inr ⟨child, rfl⟩
  | poolAdd | poolDel => simp [reconcileChildren, childCalls] at h

theorem children_of_desired (env : Env) (hplanned : Planned cfg d plans) (hv4 : cfg.Ipv4)
    (hdrop : cfg.getDropOrphans = true) (hp : (name, some p) ∈ cfg.pools)
    (hid : poolID name = id) (hbegun : Begun plans d id state) :
    ∃ state', effects (reconcileChildren env cfg d plans) id (some state) = some state' ∧
      state'.params = state.params ∧
      ∀ x, x ∈ state'.children ↔ keyOf id x ∈ desiredKeys env cfg := by
  unfold effects
  generalize hL : (reconcileChildren env cfg d plans).filter (·.id = id) = L
  have hmem (c : Call) : c ∈ L ↔ c ∈ reconcileChildren env cfg d plans ∧ c.id = id := by
    rw [← hL, mem_filter, decide_eq_true_iff]
  have hadd child : .childAdd id child ∈ L ↔
      (id, child) ∈ desiredKeys env cfg ∧
        (replacedOrAddedPool plans id = true ∨ ∀ k ∈ d.dump, keyOf k.1 k.2 ≠ (id, child)) := by
    rw [hmem, childAdd_mem_reconcileChildren]
    exact and_iff_left rfl
  have hsent child : .childAdd id child ∈ L →
      ∃ child4, sent child = some child4 ∧ keyOf id child4 = (id, child) :=
    fun hc => sent_of_ipv4 hv4 ((hadd child).mp hc).1
  have hdropped : droppedPool cfg plans id = false := by
    have heq := hplanned.dropped_eq ((hplanned.mem_iff _).mpr (.inl ⟨name, p, hp, rfl⟩))
    rw [poolID_planPool, hid] at heq
    rw [heq, decide_eq_false (action_planPool_ne_drop d name p), Bool.false_and]
  have hdel child : .childDel id child ∈ L ↔ (id, child) ∈ d.dump ∧
      keyOf id child ∉ desiredKeys env cfg ∧
        replacedOrAddedPool plans id = false := by
    rw [hmem, childDel_mem_reconcileChildren, and_iff_right hdrop]
    exact ⟨fun h => ⟨h.1.1, h.1.2.1, h.1.2.2.1⟩, fun h => ⟨⟨h.1, h.2.1, h.2.2, hdropped⟩, rfl⟩⟩
  have hkind : ∀ c ∈ L, (∃ child, c = .childAdd id child) ∨
      ∃ child, c = .childDel id child := by
    intro c hc
    obtain ⟨hc, hcid⟩ := (hmem c).mp hc
    rw [← hcid]
    exact reconcileChildren_kind hc
  have hapart child child4 : .childAdd id child ∈ L → sent child = some child4 →
      .childDel id child4 ∉ L := by
    intro hc hs hdelc
    obtain ⟨child4', hs', hkey⟩ := hsent child hc
    rw [hs] at hs'
    cases hs'
    refine ((hdel child4).mp hdelc).2.1 ?_
    rw [hkey]
    exact ((hadd child).mp hc).1
  obtain ⟨state', hfold, hparams, hfinal⟩ := foldl_children state hkind
    (fun child hc => by
      obtain ⟨child4, hs, -⟩ := hsent child hc
      rw [hs]
      rfl) hapart
  refine ⟨state', hfold, hparams, fun x => ?_⟩
  have hadded : (∃ child, .childAdd id child ∈ L ∧ sent child = some x) ↔
      keyOf id x ∈ desiredKeys env cfg ∧
        (replacedOrAddedPool plans id = true ∨ (id, x) ∉ d.dump) := by
    constructor
    · rintro ⟨child, hc, hs⟩
      obtain ⟨child4, hs', hkey⟩ := hsent child hc
      rw [hs] at hs'
      cases hs'
      obtain ⟨hdesired, hneeded⟩ := (hadd child).mp hc
      rw [hkey]
      exact ⟨hdesired, hneeded.imp_right fun h hdump => h (id, x) hdump hkey⟩
    · rintro ⟨hdesired, hneeded⟩
      refine ⟨(keyOf id x).2, (hadd _).mpr ⟨hdesired, ?_⟩, sent_keyOf _ x⟩
      refine hneeded.imp_right fun hnot k hk heq => hnot ?_
      rw [← keyOf_injective (heq : keyOf k.1 k.2 = keyOf id x)]
      exact hk
  rw [hfinal x, hadded, hdel x]
  rcases hbegun with ⟨hnew, hempty⟩ | ⟨hold, cur, hcur, hkept⟩
  · rw [hempty, hnew]
    simp
  · have hdump : (id, x) ∈ d.dump ↔ x ∈ cur.children := by
      rw [mem_dump, hcur]
      simp
    rw [hkept, hold, hdump]
    by_cases hx : x ∈ cur.children
    · simp [hx]
    · simp [hx]

theorem effects_calls (state : Option PoolState) : effects (calls env cfg d plans) id state =
    effects (reconcileChildren env cfg d plans) id
      (effects (plans.flatMap (poolCall cfg)) id state) := by
  rw [effects, calls, filter_append, foldl_append]
  rfl

theorem pool_of_desired (hplanned : Planned cfg d plans) (hv4 : cfg.Ipv4)
    (hdrop : cfg.getDropOrphans = true) {n : Nat}
    (hrun : runCalls env.outcome n d (calls env cfg d plans) = (none, d')) (hp :
    (name, some p) ∈ cfg.pools) :
    ∃ state, d'.pool (poolID name) = some state ∧ state.params = p.params ∧
      ∀ x, x ∈ state.children ↔ keyOf (poolID name) x ∈ desiredKeys env cfg := by
  obtain ⟨state, hpools, hparams, hbegun⟩ := pool_after_poolCalls hplanned hp
  have hfinal := runCalls_eq_none hrun (poolID name)
  rw [effects_calls, hpools] at hfinal
  obtain ⟨state', hfold, hparams', hmem⟩ :=
    children_of_desired env hplanned hv4 hdrop hp rfl hbegun
  exact ⟨state', hfinal.trans hfold, hparams'.trans hparams, hmem⟩

theorem foldl_childDel (h : ∀ c ∈ cs, ∃ child, c = .childDel id child) :
    cs.foldl (fun s c => c.effect s) none = none := by
  induction cs with
  | nil => rfl
  | cons c cs ih =>
    obtain ⟨child, rfl⟩ := h c mem_cons_self
    exact ih fun c' hc' => h c' (mem_cons_of_mem _ hc')

theorem pool_of_orphan (hplanned : Planned cfg d plans) (hdrop : cfg.getDropOrphans = true)
    (hnot : ¬ cfg.Desires id) :
    effects (plans.flatMap (poolCall cfg)) id (d.pool id) = none := by
  unfold effects
  cases hcur : d.pool id with
  | some cur =>
    have hsome : (d.pool id).isSome := by
      rw [hcur]
      rfl
    have hplan : planOrphan d id ∈ plans :=
      (hplanned.mem_iff _).mpr (.inr ⟨id, hsome, hnot, rfl⟩)
    have hcalls : (plans.flatMap (poolCall cfg)).filter (·.id = (planOrphan d id).poolID) =
        poolCall cfg (planOrphan d id) := filter_poolCalls hplanned.ids_nodup hplan
    have hcall : poolCall cfg (planOrphan d id) = [.poolDel id] := if_pos hdrop
    rw [show id = (planOrphan d id).poolID from rfl, hcalls, hcall]
    rfl
  | none =>
    rw [filter_poolCalls_eq_nil fun hmem => ?_]
    · rfl
    · obtain ⟨plan, hplan, rfl⟩ := mem_map.mp hmem
      rcases (hplanned.mem_iff plan).mp hplan with ⟨name, p, hp, rfl⟩ | ⟨id, hsome, -, rfl⟩
      · exact hnot ⟨name, p, hp, (poolID_planPool d name p).symm⟩
      · rw [show d.pool id = none from hcur] at hsome
        cases hsome

theorem desires_of_pool (hplanned : Planned cfg d plans) (hdrop : cfg.getDropOrphans = true)
    {n : Nat} (hrun : runCalls env.outcome n d (calls env cfg d plans) = (none, d')) (hid :
    (d'.pool id).isSome) : cfg.Desires id := by
  by_contra hnot
  have hfinal := runCalls_eq_none hrun id
  rw [effects_calls, pool_of_orphan hplanned hdrop hnot] at hfinal
  have hdels : ∀ c ∈ (reconcileChildren env cfg d plans).filter (·.id = id),
      ∃ child, c = .childDel id child := by
    intro c hc
    obtain ⟨hc, hcid⟩ := mem_filter.mp hc
    rw [decide_eq_true_iff] at hcid
    rcases reconcileChildren_kind hc with ⟨child, heq⟩ | hdel
    · rw [heq, hcid] at hc
      exact absurd (desires_of_mem (childAdd_mem_reconcileChildren.mp hc).1) hnot
    · rw [hcid] at hdel
      exact hdel
  rw [hfinal, effects, foldl_childDel hdels] at hid
  cases hid

theorem exists_run_of_success (h : (reconcileWith env (some cfg) d).1 = none) :
    ∃ plans, Planned cfg d plans ∧
      runCalls env.outcome 0 d (calls env cfg d plans) =
        (none, (reconcileWith env (some cfg) d).2) := by
  unfold reconcileWith at h ⊢
  dsimp only at h ⊢
  cases hplan : plan env cfg d with
  | error e =>
    rw [hplan] at h
    cases h
  | ok plans =>
    rw [hplan] at h
    dsimp only at h ⊢
    split at h
    · cases h
    · rename_i hpre
      rw [if_neg hpre]
      refine ⟨plans, planned_of_plan hplan, ?_⟩
      cases hrun : runCalls env.outcome 0 d (calls env cfg d plans) with
      | mk c d' =>
        rw [hrun] at h
        cases c with
        | none => rfl
        | some c => cases h

end Converges

/-! ## The configuration and the dataplane -/

def Env.table (env : Env) (vrf : String) : Option UInt32 :=
  if vrf = "" then some 0 else env.resolveVRF vrf

def Plain (env : Env) (cfg : Config) : Prop :=
  cfg.Ipv4 ∧ ∀ name p, (name, some p) ∈ cfg.pools → ∀ ip ∈ p.insidePrefixes, ip.pfx.isSome →
    (env.table ip.vrf).isSome

structure Matches (env : Env) (p : PoolConfig) (state : PoolState) : Prop where
  params : state.params = p.params
  /-- Every configured inside prefix is there, in its VRF. -/
  inside : ∀ ip ∈ p.insidePrefixes, ∀ net ∈ ip.pfx, ∃ addr len vrfID,
    net = .v4 addr len ∧ env.table ip.vrf = some vrfID ∧ .inside (addr, len) vrfID ∈ state.children
  outside : ∀ net, some net ∈ p.outsidePrefixes → ∃ addr len,
    net = some (.v4 addr len) ∧ .outside (addr, len) ∈ state.children
  /-- There is nothing else. -/
  only : ∀ child ∈ state.children, match child with
    | .inside (addr, len) vrfID => ∃ ip ∈ p.insidePrefixes, ip.pfx = some (.v4 addr len) ∧
        env.table ip.vrf = some vrfID
    | .outside (addr, len) => some (some (.v4 addr len)) ∈ p.outsidePrefixes

structure Holds (env : Env) (cfg : Config) (d : Dataplane) : Prop where
  pools : ∀ name p, (name, some p) ∈ cfg.pools →
    ∃ state, d.pool (poolID name) = some state ∧ Matches env p state
  only : ∀ id, (d.pool id).isSome → cfg.Desires id

theorem plain_of_holds (h : Holds env cfg d) : Plain env cfg := by
  refine ⟨fun name p hp => ⟨fun ip hip net hnet => ?_, fun net hnet => ?_⟩, ?_⟩
  · obtain ⟨state, -, hmatches⟩ := h.pools name p hp
    obtain ⟨addr, len, -, hv4, -⟩ := hmatches.inside ip hip net hnet
    exact ⟨addr, len, hv4⟩
  · obtain ⟨state, -, hmatches⟩ := h.pools name p hp
    obtain ⟨addr, len, hv4, -⟩ := hmatches.outside net hnet
    exact ⟨addr, len, hv4⟩
  · intro name p hp ip hip hpfx
    obtain ⟨net, hnet⟩ := isSome_iff_exists.mp hpfx
    obtain ⟨state, -, hmatches⟩ := h.pools name p hp
    obtain ⟨-, -, vrfID, -, hvrf, -⟩ := hmatches.inside ip hip net hnet
    rw [hvrf]
    rfl

theorem vrfID_of_table {vrf : String} {vrfID : UInt32} (h : env.table vrf = some vrfID) :
    env.vrfID vrf = vrfID := by
  unfold Env.table at h
  unfold Env.vrfID
  split at h
  · rename_i hempty
    rw [if_pos hempty]
    exact some_inj.mp h
  · rename_i hname
    rw [if_neg hname, h]
    rfl

theorem matches_of_plain (hplain : Plain env cfg) (hdistinct : cfg.Distinct) (hp :
    (name, some p) ∈ cfg.pools)
    (hparams : state.params = p.params)
    (hmem : ∀ x, x ∈ state.children ↔ keyOf (poolID name) x ∈ desiredKeys env cfg) :
    Matches env p state := by
  obtain ⟨hv4, hvrf⟩ := hplain
  obtain ⟨hinside, houtside⟩ := hv4 name p hp
  refine ⟨hparams, fun ip hip net hnet => ?_, fun net hnet => ?_, fun child hchild => ?_⟩
  · obtain ⟨addr, len, rfl⟩ := hinside ip hip net hnet
    have hpfx : ip.pfx.isSome := by
      rw [Option.mem_def.mp hnet]
      rfl
    obtain ⟨vrfID, htable⟩ := isSome_iff_exists.mp (hvrf name p hp ip hip hpfx)
    refine ⟨addr, len, vrfID, rfl, htable, (hmem _).mpr (mem_desiredKeys.mpr ?_)⟩
    refine ⟨name, p, hp, .inl ⟨ip, hip, _, hnet, ?_⟩⟩
    rw [vrfID_of_table htable]
    rfl
  · obtain ⟨addr, len, rfl⟩ := houtside net hnet
    refine ⟨addr, len, rfl, (hmem _).mpr (mem_desiredKeys.mpr ?_)⟩
    exact ⟨name, p, hp, .inr ⟨_, hnet, rfl⟩⟩
  · obtain ⟨name', p', hp', hkey⟩ := mem_desiredKeys.mp ((hmem child).mp hchild)
    have hid : poolID name = poolID name' := by
      rcases hkey with ⟨_, _, _, _, hk⟩ | ⟨_, _, hk⟩
      all_goals exact (congrArg fst hk).symm
    cases hdistinct name p name' p' hp hp' hid
    cases child with
    | inside pfx vrfID =>
      rcases hkey with ⟨ip, hip, net, hnet, hk⟩ | ⟨net, -, hk⟩
      · cases hk
        have hpfx : ip.pfx.isSome := by
          rw [hnet]
          rfl
        obtain ⟨vrfID, htable⟩ := isSome_iff_exists.mp (hvrf name p hp ip hip hpfx)
        refine ⟨ip, hip, hnet, ?_⟩
        rw [htable, vrfID_of_table htable]
      · cases hk
    | outside pfx =>
      rcases hkey with ⟨ip, -, net, -, hk⟩ | ⟨net, hnet, hk⟩
      · cases hk
      · cases hk
        exact hnet

/-! ## The next reconciliation -/

structure Settled (env : Env) (cfg : Config) (d : Dataplane) : Prop where
  pools : ∀ name p, (name, some p) ∈ cfg.pools → ∃ state, d.pool (poolID name) = some state ∧
    state.params = p.params ∧ ∀ x, x ∈ state.children ↔ keyOf (poolID name) x ∈ desiredKeys env cfg
  only : ∀ id, (d.pool id).isSome → cfg.Desires id

namespace Settled
variable (h : Settled env cfg d)
include h

theorem noop_of_plan (hplanned : Planned cfg d plans) {plan : PoolPlan}
    (hplan : plan ∈ plans) : plan.action = .noop := by
  rcases (hplanned.mem_iff plan).mp hplan with ⟨name, p, hp, rfl⟩ | ⟨id, hsome, hnot, -⟩
  · obtain ⟨state, hstate, hparams, -⟩ := h.pools name p hp
    rcases planPool_of_some p hstate with ⟨hhard, -⟩ | ⟨-, hne, -⟩ | ⟨-, heq⟩
    · rw [hparams] at hhard
      exact absurd ⟨rfl, rfl, rfl, rfl, rfl, rfl⟩ hhard
    · exact absurd hparams hne
    · rw [heq]
  · exact absurd (h.only id hsome) hnot

theorem mem_dump_iff (hid : cfg.Desires id)
    (x : Child Net4) : (id, x) ∈ d.dump ↔ keyOf id x ∈ desiredKeys env cfg := by
  obtain ⟨name, p, hp, rfl⟩ := hid
  obtain ⟨state, hstate, -, hmem⟩ := h.pools name p hp
  rw [mem_dump, hstate, ← hmem]
  simp

theorem calls_eq_nil (hv4 : cfg.Ipv4) (hplanned : Planned cfg d plans) :
    calls env cfg d plans = [] := by
  have hnoop : ∀ plan ∈ plans, plan.action = .noop := fun plan hplan =>
    h.noop_of_plan hplanned hplan
  have hpools : plans.flatMap (poolCall cfg) = [] := by
    rw [flatMap_eq_nil_iff]
    intro plan hplan
    simp [poolCall, hnoop plan hplan]
  have hold id : replacedOrAddedPool plans id = false := by
    unfold replacedOrAddedPool
    rw [List.any_eq_false]
    intro plan hplan
    simp [hnoop plan hplan]
  unfold calls
  rw [hpools, nil_append, eq_nil_iff_forall_not_mem]
  intro c hc
  rcases reconcileChildren_kind hc with ⟨child, heq⟩ | ⟨child, heq⟩
  · rw [heq] at hc
    obtain ⟨hdesired, hneeded⟩ := childAdd_mem_reconcileChildren.mp hc
    obtain ⟨child4, -, hkey⟩ := sent_of_ipv4 hv4 hdesired
    rcases hneeded with hnew | hmissing
    · rw [hold] at hnew
      cases hnew
    · refine hmissing (c.id, child4) ?_ hkey
      rw [h.mem_dump_iff (desires_of_mem hdesired), hkey]
      exact hdesired
  · rw [heq] at hc
    obtain ⟨-, hdump, hkey, -⟩ := childDel_mem_reconcileChildren.mp hc
    obtain ⟨state, hstate, -⟩ := mem_dump.mp hdump
    have hid : cfg.Desires c.id := h.only c.id (by rw [hstate]; rfl)
    exact hkey ((h.mem_dump_iff hid child).mp hdump)

end Settled

theorem desiredKeys_congr {env' : Env} (h : env'.resolveVRF = env.resolveVRF) (cfg : Config) :
    desiredKeys env' cfg = desiredKeys env cfg := by
  unfold desiredKeys buildDesiredInside Env.vrfID
  rw [h]

structure Sound (env : Env) (cfg : Config) (d : Dataplane) : Prop where
  /-- Unless disruption is allowed, pools with active mappings keep them, their hard
  parameters and their children, wherever the reconciliation stops. -/
  spares : cfg.getAllowPoolDisruption = false → ∀ id state, d.pool id = some state →
    0 < state.activeMappings →
      ∃ state', (reconcileWith env (some cfg) d).2.pool id = some state' ∧ Spared state state'
  /-- Two pools with one identifier are rejected before any call. -/
  collision : ¬ cfg.Distinct →
    ∃ name other id, reconcileWith env (some cfg) d = (some (.collision name other id), d)
  /-- A run that succeeds and drops orphans leaves the configured pools, provided that the
  configuration is plain. -/
  holds_iff : (reconcileWith env (some cfg) d).1 = none → cfg.getDropOrphans = true →
    (Holds env cfg (reconcileWith env (some cfg) d).2 ↔ Plain env cfg)
  /-- After such a run the next one has nothing to do. -/
  settled : (reconcileWith env (some cfg) d).1 = none → cfg.getDropOrphans = true → cfg.Ipv4 →
    ∀ env' : Env, env'.resolveVRF = env.resolveVRF →
      ∃ plans, plan env' cfg (reconcileWith env (some cfg) d).2 = .ok plans ∧
        (∀ plan ∈ plans, plan.action = .noop) ∧
        calls env' cfg (reconcileWith env (some cfg) d).2 plans = []

theorem settled_of_success
    (h : (reconcileWith env (some cfg) d).1 = none) (hdrop : cfg.getDropOrphans = true)
    (hv4 : cfg.Ipv4) : cfg.Distinct ∧ Settled env cfg (reconcileWith env (some cfg) d).2 := by
  obtain ⟨plans, hplanned, hrun⟩ := exists_run_of_success h
  exact ⟨hplanned.distinct, fun name p hp => pool_of_desired hplanned hv4 hdrop hrun hp,
    fun id hid => desires_of_pool hplanned hdrop hrun hid⟩

theorem reconcileWith_sound (env : Env) (cfg : Config) (d : Dataplane) : Sound env cfg d where
  spares hallow id state hid hactive := reconcileWith_spares hallow hid hactive
  collision hnot := by
    rcases plan_cases env cfg d with ⟨hdistinct, -⟩ | ⟨-, name, other, id, herr⟩
    · exact absurd hdistinct hnot
    · refine ⟨name, other, id, ?_⟩
      unfold reconcileWith
      dsimp only
      rw [herr]
  holds_iff hsuccess hdrop := by
    refine ⟨plain_of_holds, fun hplain => ?_⟩
    obtain ⟨hdistinct, hsettled⟩ := settled_of_success hsuccess hdrop hplain.1
    refine ⟨fun name p hp => ?_, hsettled.only⟩
    obtain ⟨state, hstate, hparams, hmem⟩ := hsettled.pools name p hp
    exact ⟨state, hstate, matches_of_plain hplain hdistinct hp hparams hmem⟩
  settled hsuccess hdrop hv4 env' henv := by
    obtain ⟨hdistinct, hsettled⟩ := settled_of_success hsuccess hdrop hv4
    rcases plan_cases env' cfg (reconcileWith env (some cfg) d).2 with ⟨-, hok⟩ | ⟨hnot, -⟩
    · have hsettled' : Settled env' cfg (reconcileWith env (some cfg) d).2 := by
        refine ⟨fun name p hp => ?_, hsettled.only⟩
        rw [desiredKeys_congr henv]
        exact hsettled.pools name p hp
      have hplanned := planned_of_plan hok
      exact ⟨_, hok, fun plan hplan => hsettled'.noop_of_plan hplanned hplan,
        hsettled'.calls_eq_nil hv4 hplanned⟩
    · exact absurd hdistinct hnot

/-! ## Runs -/

def accepting (resolveVRF : String → Option UInt32) : Env where
  resolveVRF := resolveVRF
  order _ _ l := l
  order_perm _ _ l := Perm.refl l
  outcome _ := .accepted

def onePrefix (pfx : Net) (vrf : String) : PoolConfig where
  outsideAddresses := []
  excludedAddresses := []
  blockSize := 0
  subscriberRatio := 0
  maxBlocksPerSubscriber := 0
  portRange := none
  addressPooling := .unset
  mode := .unset
  filtering := .unset
  insidePrefixes := [⟨some pfx, vrf⟩]
  outsidePrefixes := [some (some (.v4 0xcb007140 26))]
  maxSessionsPerSubscriber := 0
  portReuseTimeout := 0
  alg := none
  timeouts := none

def oneConfig (p : PoolConfig) : Config where
  pools := [([112], some p)]
  names_nodup := by simp
  reconcile := none

def orphaned : Dataplane where
  pool := update (fun _ => none) 1
    (some ⟨(onePrefix (.v4 0x64400000 10) "").params, 0, [.inside (0x64400000, 10) 0]⟩)
  ids := [1]
  ids_nodup := by simp
  mem_ids id := by
    by_cases h : id = 1
    · simp [h]
    · simp [h]

/-- The orphan goes, the configured pool comes, and its prefix is in the VRF it belongs to. -/
theorem reconcileWith_sound_orphaned :
    Holds (accepting fun _ => some 10) (oneConfig (onePrefix (.v4 0x64400000 10) "cust"))
      (reconcileWith (accepting fun _ => some 10)
        (some (oneConfig (onePrefix (.v4 0x64400000 10) "cust"))) orphaned).2 := by
  have hsuccess : (reconcileWith (accepting fun _ => some 10)
      (some (oneConfig (onePrefix (.v4 0x64400000 10) "cust"))) orphaned).1 = none :=
    isNone_iff_eq_none.mp (by decide +kernel)
  refine ((reconcileWith_sound _ _ _).holds_iff hsuccess rfl).mpr ⟨?_, ?_⟩
  · intro name p hp
    cases mem_singleton.mp hp
    refine ⟨fun ip hip net hnet => ?_, fun net hnet => ?_⟩
    · cases mem_singleton.mp hip
      exact ⟨_, _, (some_inj.mp hnet).symm⟩
    · exact ⟨_, _, some_inj.mp (mem_singleton.mp hnet)⟩
  · intro name p hp ip hip _
    cases mem_singleton.mp hp
    cases mem_singleton.mp hip
    rfl

def unknownVRF : Config := oneConfig (onePrefix (.v4 0x64400000 10) "cust")

def ipv6Prefix : Config :=
  oneConfig (onePrefix (.v6 0x20010db8000000000000000000000000#128 32) "")

/-- Two configurations that are applied with success and not held: a prefix of a VRF that is
not known goes to the default table, and an IPv6 prefix is sent without its address. After
the second one the next reconciliation starts over. -/
theorem astray :
    [unknownVRF, ipv6Prefix].Forall (fun cfg => cfg.getDropOrphans = true ∧
      (reconcileWith (accepting fun _ => none) (some cfg) orphaned).1 = none ∧
      ¬ Holds (accepting fun _ => none) cfg
        (reconcileWith (accepting fun _ => none) (some cfg) orphaned).2) ∧
    ∃ plans, plan (accepting fun _ => none) ipv6Prefix
        (reconcileWith (accepting fun _ => none) (some ipv6Prefix) orphaned).2 = .ok plans ∧
      calls (accepting fun _ => none) ipv6Prefix
        (reconcileWith (accepting fun _ => none) (some ipv6Prefix) orphaned).2 plans ≠ [] := by
  have hnext : (plan (accepting fun _ => none) ipv6Prefix
      (reconcileWith (accepting fun _ => none) (some ipv6Prefix) orphaned).2).toOption.any
      (fun plans => calls (accepting fun _ => none) ipv6Prefix
        (reconcileWith (accepting fun _ => none) (some ipv6Prefix) orphaned).2 plans ≠ []) =
        true := by
    decide +kernel
  refine ⟨?_, ?_⟩
  · rw [forall_cons, forall_cons]
    refine ⟨⟨rfl, isNone_iff_eq_none.mp (by decide +kernel), fun hholds => ?_⟩,
      ⟨rfl, isNone_iff_eq_none.mp (by decide +kernel), fun hholds => ?_⟩, trivial⟩
    · have hknown := (plain_of_holds hholds).2 _ _ mem_cons_self _ mem_cons_self rfl
      revert hknown
      decide
    · obtain ⟨addr, len, hv4⟩ :=
        ((plain_of_holds hholds).1 _ _ mem_cons_self).1 _ mem_cons_self _ rfl
      cases hv4
  · cases hplan : plan (accepting fun _ => none) ipv6Prefix
        (reconcileWith (accepting fun _ => none) (some ipv6Prefix) orphaned).2 with
    | error e =>
      rw [hplan] at hnext
      cases hnext
    | ok plans =>
      rw [hplan] at hnext
      exact ⟨plans, rfl, of_decide_eq_true hnext⟩

end Osvbng.Cgnat.Reconcile
