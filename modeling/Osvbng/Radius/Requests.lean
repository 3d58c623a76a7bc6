import Osvbng.Radius.CoA

/-!
# What a request changes and how it is answered

A request names sessions by up to four identifiers and attributes by what the
dictionary reads from it. The handlers look at one identifier and drop some
attributes, so what they do agrees with the documentation under a condition.

The components answer over the bus. Their tables are those of `Subscribers`;
which event is lost, which write fails and who answers first is up to the
environment.
-/

namespace Osvbng.Radius
open Option List Lib.Slice Subscribers Radius.Action CoaConfig Prod Attrs

/-! ## Attributes -/

theorem lookup_put (attrs : Attrs) (key name : String) (value : Bytes) :
    (attrs.put key value).lookup name = if name = key then some value else attrs.lookup name := by
  unfold put
  rw [lookup_cons]
  by_cases hkey : name = key
  · simp [hkey]
  · rw [beq_false_of_ne hkey, if_neg hkey]
    dsimp only
    induction attrs with
    | nil => rfl
    | cons a attrs ih =>
      rw [filter_cons, lookup_cons]
      split
      · rw [lookup_cons, ih]
      · rename_i ha
        have hname : (name == a.1) = false := beq_false_of_ne fun h => hkey (by simpa [h] using ha)
        rw [ih, hname]

theorem lookup_putAll_of_notMem {attrs delta : Attrs} {name : String}
    (h : name ∉ delta.map fst) : (attrs.putAll delta).lookup name = attrs.lookup name := by
  induction delta generalizing attrs with
  | nil => rfl
  | cons a delta ih =>
    rw [map_cons, mem_cons, not_or] at h
    exact (ih h.2).trans ((lookup_put attrs a.1 name a.2).trans (if_neg h.1))

theorem lookup_putAll_ne_none {attrs delta : Attrs} {name : String}
    (h : name ∈ delta.map fst ∨ attrs.lookup name ≠ none) :
    (attrs.putAll delta).lookup name ≠ none := by
  induction delta generalizing attrs with
  | nil => simpa [putAll] using h
  | cons a delta ih =>
    apply ih
    rw [lookup_put]
    by_cases ha : name = a.1
    · simp [ha]
    · simpa [ha] using h

/-! ## What a request changes -/

/-- The attributes that may change while a session is up. -/
def allowedMutationAttrs : List String :=
  ["session_timeout", "idle_timeout", "acct_interim_interval", "acl.ingress", "acl.egress",
    "qos.ingress-policy", "qos.egress-policy", "qos.upload-rate", "qos.download-rate",
    "rate_limit_up", "rate_limit_down"]

/-- The identifiers of sessions that a request carries. -/
def identifiers (packet : Packet) : List Target :=
  packet.attributes.filterMap fun avp =>
    if avp.1 = attrTypeAcctSessionID ∧ avp.2 ≠ [] then some (.acctSessionID avp.2)
    else if avp.1 = attrTypeFramedIPAddress ∧ avp.2.length = 4 then some (.framedIPv4 avp.2)
    else if avp.1 = attrTypeUserName ∧ avp.2 ≠ [] then some (.username avp.2)
    else if avp.1 = attrTypeFramedIPv6Address ∧ avp.2.length = 16 then some (.framedIPv6 avp.2)
    else none

namespace Action

def target : Action → Target
  | .mutate target _ _ => target
  | .terminate target => target

def delta : Action → Attrs
  | .mutate _ delta _ => delta
  | .terminate _ => []

def effect : Action → Option Attrs → Option Attrs
  | .mutate _ delta _, sess => sess.map (·.putAll delta)
  | .terminate _, _ => none

theorem effect_ne (action : Action) : action.effect (some []) ≠ some [] := by
  cases action with
  | mutate target delta hdelta =>
    exact fun heq => putAll_ne_nil hdelta (some_inj.mp heq)
  | terminate target => exact nofun

end Action

theorem sessions_apply {S : Type} [DecidableEq S] (subs : Subscribers S) (action : Action) (s : S) :
    (subs.apply (some action)).sessions s =
      if subs.resolve action.target = some s then action.effect (subs.sessions s)
      else subs.sessions s := by
  cases action with
  | mutate target delta hdelta =>
    cases hresolve : subs.resolve target with
    | none => simp [apply, Action.target, hresolve]
    | some s' =>
      by_cases hs : s' = s
      · simp [apply, Action.target, Action.effect, hresolve, hs]
      · simp [apply, Action.target, hresolve, hs, Ne.symm hs]
  | terminate target =>
    cases hresolve : subs.resolve target with
    | none => simp [apply, Action.target, hresolve]
    | some s' => simp [apply, Action.target, Action.effect, hresolve,
        Function.update_apply, @eq_comm _ s' s]

section Changes
variable (cfg : CoaConfig) (packet : Packet)

/-- The request names an attribute, not one that identifies, which may not change. -/
def CoaConfig.namesOther : Bool :=
  packet.attributes.any fun avp => avp.1 ∉ identificationAttrTypes &&
    (cfg.dictionary.extractAttributes { packet with attributes := [avp] }).any
      (·.1 ∉ allowedMutationAttrs)

variable {S : Type}

/-- What a request may do to the sessions, given which identifiers name which session. -/
structure CoaConfig.Bounded (names : S → Target → Prop) (subs subs' : Subscribers S) : Prop where
  sessions : ∀ s, subs'.sessions s ≠ subs.sessions s → ∀ t ∈ identifiers packet, names s t
  attrs : ∀ s old new, subs.sessions s = some old → subs'.sessions s = some new →
    ∀ name, new.lookup name ≠ old.lookup name → name ∈ allowedMutationAttrs
  refused : cfg.namesOther packet = true → subs' = subs

variable {cfg packet}

theorem bounded_refl (names : S → Target → Prop) (subs : Subscribers S) :
    cfg.Bounded packet names subs subs where
  sessions s hne := absurd rfl hne
  attrs s old new hold hnew name hne := by
    rw [hold] at hnew
    cases hnew
    exact absurd rfl hne
  refused _ := rfl

theorem lookup_of_effect {action : Action} {old new : Attrs} {name : String}
    (h : action.effect (some old) = some new) (hname : name ∉ action.delta.map fst) :
    new.lookup name = old.lookup name := by
  cases action with
  | mutate target delta hdelta =>
    cases h
    exact lookup_putAll_of_notMem hname
  | terminate target => cases h

theorem mem_identifiers_of_resolveCoATarget {target : Target}
    (h : resolveCoATarget packet = some target) : target ∈ identifiers packet := by
  have hfirst {type : UInt8} {ok : Bytes → Bool} {f : Bytes → Target}
      (hf : (firstOf packet type ok).map f = some target) :
      ∃ value, (type, value) ∈ packet.attributes ∧ ok value ∧ f value = target := by
    obtain ⟨value, hvalue, rfl⟩ := map_eq_some_iff.mp hf
    obtain ⟨avp, havp, rfl⟩ := map_eq_some_iff.mp hvalue
    have hok := find?_some havp
    simp only [Bool.and_eq_true, decide_eq_true_eq] at hok
    exact ⟨avp.2, hok.1 ▸ mem_of_find?_eq_some havp, hok.2, rfl⟩
  unfold resolveCoATarget at h
  rw [identifiers, mem_filterMap]
  simp only [or_eq_some_iff] at h
  rcases h with h | ⟨-, h | ⟨-, h | ⟨-, h⟩⟩⟩ <;> obtain ⟨value, hmem, hok, rfl⟩ := hfirst h <;>
    exact ⟨_, hmem, by simpa [attrTypeAcctSessionID, attrTypeFramedIPAddress, attrTypeUserName,
      attrTypeFramedIPv6Address] using hok⟩

theorem action_of_handleRequest {now : Int} {action : Action}
    (h : cfg.handleRequest now packet = some action) :
    resolveCoATarget packet = some action.target ∧
      action.delta = if packet.code = codeCoARequest then
        stripNonMutableAttrs (cfg.dictionary.extractAttributes packet) else [] := by
  unfold handleRequest handleCoARequest handleDisconnectRequest at h
  grind [Action.target, Action.delta]

end Changes

def timeoutAndPool : CoaConfig :=
  { oneClient with
    dictionary :=
      { tier1Index := fun type =>
          if type = 27 then some ⟨"session_timeout", fun value =>
            if value = [0, 0, 14, 16] then [0x33, 0x36, 0x30, 0x30] else []⟩
          else if type = 88 then some ⟨"pool", fun value => value⟩
          else none
        tier2Index := fun _ _ => none
        tier3 := [] } }

def timeoutRequest (other : UInt8 × Bytes) : Packet where
  code := codeCoARequest
  identifier := 1
  authenticator := replicate 16 0
  attributes := [(attrTypeAcctSessionID, [0x61]), other, (27, [0, 0, 14, 16])]

def twoSessions : Subscribers Bool where
  resolve t :=
    if t = .acctSessionID [0x61] then some false
    else if t = .username [0x62] then some true else none
  sessions _ := some []

def codeDisconnectACK : UInt8 := 41
def codeDisconnectNAK : UInt8 := 42
def codeCoAACK : UInt8 := 44
def codeCoANAK : UInt8 := 45

def errorCauseResidualRemoved : Nat := 201
def errorCauseMissingAttr : Nat := 402
def errorCauseNASIDMismatch : Nat := 403
def errorCauseInvalidRequest : Nat := 404
def errorCauseSessionNotFound : Nat := 503
def errorCauseResourcesUnavail : Nat := 506
def errorCauseRequestInitiated : Nat := 507

inductive AccessType where
  | ipoe
  | pppoe
  | l2gw
deriving DecidableEq

inductive Put where
  | written
  | failed
  /-- The answer comes when the listener no longer waits. -/
  | late
deriving DecidableEq

structure Surroundings where
  /-- The queue to the handlers is full. -/
  queueFull : Bool
  /-- The bus drops the event. -/
  dropped : Bool
  put : AccessType → Put
  /-- Who answers first if two components know the session. -/
  first : AccessType

abbrev Tables (S : Type) := AccessType → Subscribers S

section Answers
variable {S : Type} [DecidableEq S] (tables : Tables S) (env : Surroundings) (cfg : CoaConfig)
  (now : Int) (packet : Packet)

/-- Circuits are terminated by their accounting session only, and never changed. -/
def Tables.apply (action : Action) : Tables S := fun access =>
  match access, action with
  | .l2gw, .terminate (.acctSessionID id) =>
    (tables access).apply (some (.terminate (.acctSessionID id)))
  | .l2gw, _ => tables access
  | _, _ => (tables access).apply (some action)

/-- The Error-Cause with which a component answers, zero if all went well. -/
def handleSubscriberMutation (target : Target) : AccessType → Option Nat
  | .l2gw => none
  | access =>
    match (tables access).resolve target with
    | none => none
    | some s =>
      if (tables access).sessions s = none then some errorCauseSessionNotFound
      else
        match env.put access with
        | .written => some 0
        | .failed => some errorCauseResourcesUnavail
        | .late => none

/-- The first answer, or that of the listener itself when the time is up. -/
def mutateViaEventBus (target : Target) : Nat :=
  if env.dropped then errorCauseResourcesUnavail
  else ([env.first, .ipoe, .pppoe].findSome? (handleSubscriberMutation tables env target)).getD
    errorCauseResourcesUnavail

/-- Why no session is asked for; a replay is not answered. -/
def refusal : Option Nat :=
  if packet.code = codeCoARequest then
    if hasServiceType packet 8 then some errorCauseRequestInitiated
    else if cfg.replayed now packet then none
    else if resolveCoATarget packet = none then some errorCauseMissingAttr
    else if !validateNASIdentifier packet cfg.nasIdentifier then some errorCauseNASIDMismatch
    else some errorCauseMissingAttr
  else if packet.code = codeDisconnectRequest then
    if hasNonIdentificationAttrs packet then some errorCauseInvalidRequest
    else if resolveCoATarget packet = none then some errorCauseMissingAttr
    else some errorCauseNASIDMismatch
  else none

/-- The code and Error-Cause of the answer, and the sessions afterwards. -/
def answer : Option (UInt8 × Nat) × Tables S :=
  if env.queueFull then (some (codeCoANAK, errorCauseResourcesUnavail), tables)
  else
    let tables' (action : Action) := if env.dropped then tables else tables.apply action
    match cfg.handleRequest now packet with
    | none => ((refusal cfg now packet).map fun cause =>
        (if packet.code = codeCoARequest then codeCoANAK else codeDisconnectNAK, cause), tables)
    | some (.mutate target delta hdelta) =>
      let cause := mutateViaEventBus tables env target
      (some (if cause = 0 then codeCoAACK else codeCoANAK, cause),
        tables' (.mutate target delta hdelta))
    | some (.terminate target) =>
      (some (codeDisconnectACK, errorCauseResidualRemoved), tables' (.terminate target))

def ackCode : UInt8 := if packet.code = codeCoARequest then codeCoAACK else codeDisconnectACK
def nakCode : UInt8 := if packet.code = codeCoARequest then codeCoANAK else codeDisconnectNAK

def Attrs.Same (a b : Attrs) : Prop := ∀ name, a.lookup name = b.lookup name

variable {P : Type} (policyOf : Attrs → P) (policy : AccessType → S → P)

def delta : Attrs := stripNonMutableAttrs (cfg.dictionary.extractAttributes packet)

/-- There was a session that the request names. It is gone after a Disconnect-Request; after a
CoA-Request it has the change, and the policy on its interface is that of the two together. -/
def Served (tables' : Tables S) : Prop :=
  ∃ access, ∃ target ∈ resolveCoATarget packet, ∃ s old,
    (tables access).resolve target = some s ∧ (tables access).sessions s = some old ∧
    if packet.code = codeCoARequest then
      policy access s = policyOf (old.putAll (delta cfg packet)) ∧
        ∃ new, (tables' access).sessions s = some new ∧ new.Same (old.putAll (delta cfg packet))
    else (tables' access).sessions s = none

def NoneChanged (tables' : Tables S) : Prop :=
  ∀ access s, Option.Rel Attrs.Same ((tables' access).sessions s) ((tables access).sessions s)

/-- An answer of the right family, positive only if the request took effect and otherwise with
no session changed. -/
structure Proper : Prop where
  family : ∃ cause, (answer tables env cfg now packet).1 = some (ackCode packet, cause) ∨
    (answer tables env cfg now packet).1 = some (nakCode packet, cause)
  ack : ∀ cause, (answer tables env cfg now packet).1 = some (ackCode packet, cause) →
    Served tables cfg packet policyOf policy (answer tables env cfg now packet).2
  nak : ∀ cause, (answer tables env cfg now packet).1 = some (nakCode packet, cause) →
    NoneChanged tables (answer tables env cfg now packet).2

/-- Circuits are found by their accounting session only. -/
def terminates : AccessType → Target → Bool
  | .l2gw, .acctSessionID _ => true
  | .l2gw, _ => false
  | _, _ => true

/-- The component knows the session and answers in time. -/
def Speaks (target : Target) (access : AccessType) : Prop :=
  access ≠ .l2gw ∧ ∃ s ∈ (tables access).resolve target,
    (tables access).sessions s = none ∨ env.put access ≠ .late

/-- The first component that answers has the session and writes its record. -/
def Confirmed (target : Target) : Prop :=
  ∃ before access after, [env.first, .ipoe, .pppoe] = before ++ access :: after ∧
    (∀ a ∈ before, ¬ Speaks tables env target a) ∧ access ≠ .l2gw ∧
    env.put access = .written ∧ ∃ s ∈ (tables access).resolve target,
      (tables access).sessions s ≠ none

/-- What the tables and the environment have to be like for a request with this target: for a
Disconnect-Request a session that is handled, and for a CoA-Request one with the right policy if
the first answer is positive, and otherwise none for which the change is one. -/
def Favourable (target : Target) : Prop :=
  if packet.code = codeCoARequest then
    env.dropped = true ∨
    (Confirmed tables env target ∧ ∃ access, ∃ s ∈ (tables access).resolve target,
      ∃ old ∈ (tables access).sessions s,
        policy access s = policyOf (old.putAll (delta cfg packet)) ∧
          (access = .l2gw → old.Same (old.putAll (delta cfg packet)))) ∨
    (¬ Confirmed tables env target ∧ ∀ access, ∀ s ∈ (tables access).resolve target,
      ∀ old ∈ (tables access).sessions s, access ≠ .l2gw →
        (old.putAll (delta cfg packet)).Same old)
  else env.dropped = false ∧ ∃ access, terminates access target ∧
    ∃ s ∈ (tables access).resolve target, (tables access).sessions s ≠ none

variable {tables env cfg now packet policyOf policy} {action : Action} {target : Target}

theorem sessions_mutate (target : Target) (delta : Attrs) (hdelta : delta ≠ [])
    (access : AccessType) (s : S) : (tables.apply (.mutate target delta hdelta) access).sessions s =
      if access ≠ .l2gw ∧ (tables access).resolve target = some s then
        ((tables access).sessions s).map (·.putAll delta)
      else (tables access).sessions s := by
  by_cases hs : (tables access).resolve target = some s <;> cases access <;>
    simp [Tables.apply, sessions_apply, Action.target, effect, hs]

theorem sessions_terminate (target : Target) (access : AccessType) (s : S) :
    (tables.apply (.terminate target) access).sessions s =
      if terminates access target ∧ (tables access).resolve target = some s then none
      else (tables access).sessions s := by
  by_cases hs : (tables access).resolve target = some s <;> cases access <;> cases target <;>
    simp [Tables.apply, sessions_apply, Action.target, effect, terminates, hs]

theorem ackCode_ne_nakCode : ackCode packet ≠ nakCode packet := by
  unfold ackCode nakCode
  split <;> decide

variable (tables' : Tables S) (cause : Nat)

theorem proper_of_nak
    (h : answer tables env cfg now packet = (some (nakCode packet, cause), tables')) :
    Proper tables env cfg now packet policyOf policy ↔ NoneChanged tables tables' := by
  refine ⟨fun hp => by simpa [h] using hp.nak, fun hnone => ⟨⟨cause, .inr (by rw [h])⟩, ?_, ?_⟩⟩
  · intro _ hack
    rw [h] at hack
    cases ackCode_ne_nakCode (congrArg fst (some_inj.mp hack)).symm
  · rw [h]
    exact fun _ _ => hnone

theorem proper_of_ack
    (h : answer tables env cfg now packet = (some (ackCode packet, cause), tables')) :
    Proper tables env cfg now packet policyOf policy ↔
      Served tables cfg packet policyOf policy tables' := by
  refine ⟨fun hp => by simpa [h] using hp.ack, fun hserved => ⟨⟨cause, .inl (by rw [h])⟩, ?_, ?_⟩⟩
  · rw [h]
    exact fun _ _ => hserved
  · intro _ hnak
    rw [h] at hnak
    cases ackCode_ne_nakCode (congrArg fst (some_inj.mp hnak))

omit [DecidableEq S] in
theorem handleSubscriberMutation_eq_none_iff {access : AccessType} :
    handleSubscriberMutation tables env target access = none ↔
      ¬ Speaks tables env target access := by
  unfold handleSubscriberMutation Speaks
  cases access with
  | l2gw => simp
  | ipoe | pppoe => grind

omit [DecidableEq S] in
theorem handleSubscriberMutation_eq_zero_iff {access : AccessType} :
    handleSubscriberMutation tables env target access = some 0 ↔ access ≠ .l2gw ∧
      env.put access = .written ∧ ∃ s ∈ (tables access).resolve target,
        (tables access).sessions s ≠ none := by
  unfold handleSubscriberMutation errorCauseSessionNotFound errorCauseResourcesUnavail
  cases access with
  | l2gw => simp
  | ipoe | pppoe => grind

omit [DecidableEq S] in
theorem mutateViaEventBus_eq_zero_iff (hdropped : env.dropped = false) :
    mutateViaEventBus tables env target = 0 ↔ Confirmed tables env target := by
  have hzero (found : Option Nat) :
      found.getD errorCauseResourcesUnavail = 0 ↔ found = some 0 := by
    cases found <;> simp [errorCauseResourcesUnavail]
  rw [mutateViaEventBus, hdropped, if_neg Bool.false_ne_true, hzero, findSome?_eq_some_iff]
  simp only [handleSubscriberMutation_eq_none_iff, handleSubscriberMutation_eq_zero_iff]
  unfold Confirmed
  grind

omit [DecidableEq S] in
theorem noneChanged_refl : NoneChanged tables tables := by
  intro access s
  cases (tables access).sessions s with
  | none => exact .none
  | some attrs => exact .some fun _ => rfl

theorem noneChanged_mutate {delta : Attrs} (hdelta : delta ≠ []) :
    NoneChanged tables (tables.apply (.mutate target delta hdelta)) ↔
      ∀ access, ∀ s ∈ (tables access).resolve target, ∀ old ∈ (tables access).sessions s,
        access ≠ .l2gw → (old.putAll delta).Same old := by
  constructor
  · intro h access s hs old hold hl2gw
    have hrel := h access s
    rw [sessions_mutate, if_pos ⟨hl2gw, hs⟩, hold] at hrel
    cases hrel with
    | some hsame => exact hsame
  · intro h access s
    rw [sessions_mutate]
    split
    · rename_i hs
      cases hold : (tables access).sessions s with
      | none => exact .none
      | some old => exact .some (h access s hs.2 old hold hs.1)
    · exact noneChanged_refl access s

theorem served_mutate (hdelta : delta cfg packet ≠ [])
    (htarget : resolveCoATarget packet = some target) (hcode : packet.code = codeCoARequest) :
    Served tables cfg packet policyOf policy (tables.apply (.mutate target _ hdelta)) ↔
      ∃ access, ∃ s ∈ (tables access).resolve target, ∃ old ∈ (tables access).sessions s,
        policy access s = policyOf (old.putAll (delta cfg packet)) ∧
          (access = .l2gw → old.Same (old.putAll (delta cfg packet))) := by
  simp only [Served, htarget, hcode, if_true, sessions_mutate, mem_some_iff, exists_eq_left']
  refine exists_congr fun access => exists_congr fun s => ⟨?_, ?_⟩
  · rintro ⟨old, hs, hold, hpolicy, new, hnew, hsame⟩
    refine ⟨hs, old, hold, hpolicy, ?_⟩
    rintro rfl
    rw [if_neg (by simp), hold] at hnew
    cases hnew
    exact hsame
  · rintro ⟨hs, old, hold, hpolicy, hl2gw⟩
    refine ⟨old, hs, hold, hpolicy, ?_⟩
    by_cases haccess : access = .l2gw
    · exact ⟨old, by rw [if_neg (by simp [haccess]), hold], hl2gw haccess⟩
    · exact ⟨_, by rw [if_pos ⟨haccess, hs⟩, hold, map_some], fun _ => rfl⟩

theorem served_terminate (htarget : resolveCoATarget packet = some target)
    (hcode : packet.code ≠ codeCoARequest) :
    Served tables cfg packet policyOf policy (tables.apply (.terminate target)) ↔
      ∃ access, terminates access target ∧ ∃ s ∈ (tables access).resolve target,
        (tables access).sessions s ≠ none := by
  simp only [Served, htarget, if_neg hcode, sessions_terminate, mem_some_iff, exists_eq_left']
  refine exists_congr fun access => ⟨?_, ?_⟩
  · rintro ⟨s, old, hs, hold, hgone⟩
    split at hgone
    · rename_i htakes
      exact ⟨htakes.1, s, hs, by simp [hold]⟩
    · rw [hold] at hgone
      cases hgone
  · rintro ⟨htakes, s, hs, hlive⟩
    obtain ⟨old, hold⟩ := ne_none_iff_exists'.mp hlive
    exact ⟨s, old, hs, hold, if_pos ⟨htakes, hs⟩⟩

theorem mutate_of_handleRequest {change : Attrs} {hchange : change ≠ []}
    (h : cfg.handleRequest now packet = some (.mutate target change hchange)) :
    packet.code = codeCoARequest ∧ change = delta cfg packet := by
  unfold handleRequest handleCoARequest handleDisconnectRequest at h
  grind [delta]

theorem code_of_terminate
    (h : cfg.handleRequest now packet = some (.terminate target)) :
    packet.code ≠ codeCoARequest := by
  unfold handleRequest handleCoARequest at h
  grind

theorem exists_refusal (hcode : packet.code = codeCoARequest ∨ packet.code = codeDisconnectRequest)
    (h : cfg.replayed now packet = false) : ∃ cause, refusal cfg now packet = some cause := by
  rw [← ne_none_iff_exists']
  unfold refusal
  grind

theorem proper_coa (hdelta : delta cfg packet ≠ [])
    (hfull : env.queueFull = false) (hcode : packet.code = codeCoARequest)
    (htarget : resolveCoATarget packet = some target)
    (h : cfg.handleRequest now packet = some (.mutate target _ hdelta)) :
    Proper tables env cfg now packet policyOf policy ↔
      Favourable tables env cfg packet policyOf policy target := by
  unfold Favourable
  rw [if_pos hcode]
  cases hdropped : env.dropped with
  | true =>
    rw [proper_of_nak tables errorCauseResourcesUnavail]
    · exact iff_of_true noneChanged_refl (.inl rfl)
    · simp [answer, hfull, h, hdropped, mutateViaEventBus, nakCode, hcode,
        errorCauseResourcesUnavail]
  | false =>
    rw [← mutateViaEventBus_eq_zero_iff hdropped, or_iff_right Bool.false_ne_true,
      ← served_mutate hdelta htarget hcode, ← noneChanged_mutate hdelta]
    by_cases hcause : mutateViaEventBus tables env target = 0
    · simp only [hcause, true_and, not_true, false_and, or_false]
      refine proper_of_ack _ 0 ?_
      simp [answer, hfull, h, hdropped, hcause, ackCode, hcode]
    · simp only [hcause, not_false_iff, true_and, false_and, false_or]
      refine proper_of_nak _ (mutateViaEventBus tables env target) ?_
      simp [answer, hfull, h, hdropped, hcause, nakCode, hcode]

theorem proper_disconnect (hfull : env.queueFull = false)
    (hcode : packet.code ≠ codeCoARequest) (htarget : resolveCoATarget packet = some target)
    (h : cfg.handleRequest now packet = some (.terminate target)) :
    Proper tables env cfg now packet policyOf policy ↔
      Favourable tables env cfg packet policyOf policy target := by
  unfold Favourable
  rw [if_neg hcode]
  cases hdropped : env.dropped with
  | true =>
    rw [proper_of_ack tables errorCauseResidualRemoved]
    · refine iff_of_false ?_ (by simp)
      rintro ⟨access, _, -, s, old, -, hold, hgone⟩
      rw [if_neg hcode, hold] at hgone
      cases hgone
    · simp [answer, hfull, h, hdropped, ackCode, hcode]
  | false =>
    rw [proper_of_ack (tables.apply (.terminate target)) errorCauseResidualRemoved,
      served_terminate htarget hcode, eq_self, true_and]
    simp [answer, hfull, h, hdropped, ackCode, hcode]

/-- A request that is no replay is answered properly if and only if it comes when the queue is
full and is a CoA-Request, or it is turned down, or it meets with favourable circumstances. -/
theorem answer_proper_iff {d : Datagram}
    (hrequested : packet.code = codeCoARequest ∨ packet.code = codeDisconnectRequest)
    (hreplay : cfg.replayed d.now packet = false) :
    Proper tables env cfg d.now packet policyOf policy ↔
      if env.queueFull then packet.code = codeCoARequest
      else cfg.TurnedDown d packet ∨ ∃ target ∈ resolveCoATarget packet,
        Favourable tables env cfg packet policyOf policy target := by
  cases hfull : env.queueFull with
  | true =>
    have hanswer : answer tables env cfg d.now packet =
        (some (codeCoANAK, errorCauseResourcesUnavail), tables) := if_pos hfull
    rw [if_pos rfl]
    by_cases hcode : packet.code = codeCoARequest
    · rw [proper_of_nak tables errorCauseResourcesUnavail (by rw [hanswer, nakCode, if_pos hcode])]
      exact iff_of_true noneChanged_refl hcode
    · refine iff_of_false (fun hp => ?_) hcode
      obtain ⟨cause, hfamily⟩ := hp.family
      rw [hanswer, ackCode, nakCode, if_neg hcode, if_neg hcode] at hfamily
      rcases hfamily with hfamily | hfamily <;> cases hfamily
  | false =>
    rw [if_neg Bool.false_ne_true, ← handleRequest_eq_none_iff]
    cases haction : cfg.handleRequest d.now packet with
    | none =>
      obtain ⟨cause, hcause⟩ := exists_refusal hrequested hreplay
      rw [proper_of_nak tables cause]
      · exact iff_of_true noneChanged_refl (.inl rfl)
      · simp [answer, hfull, haction, hcause, nakCode]
    | some action =>
      obtain ⟨htarget, -⟩ := action_of_handleRequest haction
      rw [or_iff_right nofun]
      simp only [htarget, mem_some_iff, exists_eq_left']
      cases action with
      | mutate target delta hdelta =>
        obtain ⟨hcode, rfl⟩ := mutate_of_handleRequest haction
        exact proper_coa hdelta hfull hcode htarget haction
      | terminate target =>
        exact proper_disconnect hfull (code_of_terminate haction) htarget haction

end Answers

def knownTo (access : AccessType) (subs : Subscribers Bool) : Tables Bool := fun a =>
  if a = access then subs else ⟨fun _ => none, fun _ => none⟩

def calm : Surroundings where
  queueFull := false
  dropped := false
  put _ := .written
  first := .ipoe

def disconnectRequest : Packet where
  code := codeDisconnectRequest
  identifier := 1
  authenticator := replicate 16 0
  attributes := [(attrTypeAcctSessionID, [0x61])]

theorem answer_proper_iff_disconnect :
    Proper (knownTo .pppoe twoSessions) calm oneClient forgedDisconnect.now disconnectRequest
      (fun _ => ()) (fun _ _ => ()) := by
  refine (answer_proper_iff (.inr rfl) (by decide)).mpr (.inr ⟨.acctSessionID [0x61], rfl, ?_⟩)
  exact ⟨rfl, .pppoe, rfl, false, rfl, nofun⟩

/-- With a full queue a Disconnect-Request is answered by a CoA-NAK; one that names a circuit by
its user is acknowledged; and a change whose record is not written stays, for all the NAK. -/
theorem answer_improper :
    (answer (knownTo .pppoe twoSessions) { calm with queueFull := true } oneClient 0
      disconnectRequest).1 = some (codeCoANAK, errorCauseResourcesUnavail) ∧
    (answer (knownTo .l2gw twoSessions) calm oneClient 0
      { disconnectRequest with attributes := [(attrTypeUserName, [0x62])] }).1 =
        some (codeDisconnectACK, errorCauseResidualRemoved) ∧
    (answer (knownTo .pppoe twoSessions) { calm with put _ := .failed } timeoutAndPool 0
      (timeoutRequest (attrTypeProxyState, []))).1 =
        some (codeCoANAK, errorCauseResourcesUnavail) ∧
    ((answer (knownTo .pppoe twoSessions) { calm with put _ := .failed } timeoutAndPool 0
      (timeoutRequest (attrTypeProxyState, []))).2 .pppoe).sessions false ≠ some [] := by
  decide +kernel

end Osvbng.Radius
