import Mathlib.Data.List.Nodup
import Osvbng.Relay.Client

/-!
# Replies and their requests

A reply reaches a call through the channel that the call has registered. When the
call ends, the channel goes back to the pool, and the next call that takes it
receives what is still sent to it: a reader that has looked the channel up does not
notice, and neither does a registration that the call has left behind because
another socket answered.

`Client.matched_of_careful`: in runs where a call empties its channel only when no
reader and no registration has it, every reply carries the identifiers of the
request it is returned for. The proof follows the channels. A channel has at most
one call (`Ownership`), and whatever is registered, looked up or sent for a channel
has the key of the call that has it (`References`).
-/

namespace Osvbng.Relay
open Function Option List Lib Lib.Slice Machine Prod
variable {N : Type}
namespace Client
variable {c c' : Client N} {id ch : Nat} {call : ForwardCall N} {key : PendingKey}

/-! ## The invariant -/

def Lent (calls : Nat → Option (ForwardCall N)) (ch : Nat) (key : PendingKey) : Prop :=
  ∃ id call, calls id = some call ∧ call.stage.isOpen = true ∧ call.replyCh = ch ∧
    call.request.key = key

/-- A channel is in the pool once, or has one call. -/
structure Ownership (c : Client N) : Prop where
  fresh : ∀ id, c.nextCall ≤ id → c.calls id = none
  called : ∀ id call, c.calls id = some call → call.replyCh < c.nextChannel
  pooled : ∀ ch ∈ c.replyPool, ch < c.nextChannel
  nodup : c.replyPool.Nodup
  disjoint : ∀ id call, c.calls id = some call → call.stage.isActive = true →
    call.replyCh ∉ c.replyPool
  unique : ∀ id id' call call', c.calls id = some call → c.calls id' = some call' →
    call.stage.isActive = true → call'.stage.isActive = true → call.replyCh = call'.replyCh →
      id = id'

/-- What is on its way to a channel is for the request of the call that has it. -/
structure References (L : Nat → PendingKey → Prop) (opened : List (SocketGroup N))
    (channel : Nat → Option Bytes) : Prop where
  pending : ∀ g ∈ opened, ∀ p ∈ g.pending, L p.2 p.1
  sending : ∀ g ∈ opened, ∀ m ∈ g.sending, ∃ key, L m.1 key ∧ Carries m.2 key
  channel : ∀ ch reply, channel ch = some reply → ∃ key, L ch key ∧ Carries reply key

structure Inv (c : Client N) : Prop where
  ownership : Ownership c
  references : References (Lent c.calls) c.opened c.channel
  matched : c.Matched

/-! ## References -/

variable {L L' : Nat → PendingKey → Prop} {opened opened' : List (SocketGroup N)}
  {channel : Nat → Option Bytes} {g : SocketGroup N} {i : Nat} {f : SocketGroup N → SocketGroup N}
  {content : Option Bytes} {stage : Stage}

/-- A channel that no socket has, neither registered nor looked up. -/
def Quiet (opened : List (SocketGroup N)) (ch : Nat) : Prop :=
  ∀ g ∈ opened, (∀ p ∈ g.pending, p.2 ≠ ch) ∧ ∀ m ∈ g.sending, m.1 ≠ ch
deriving Decidable

theorem References.mono (h : References L opened channel)
    (hL : ∀ ch key, (¬ Quiet opened ch ∨ channel ch ≠ none) → L ch key → L' ch key) :
    References L' opened channel where
  pending g hg p hp := by
    refine hL p.2 p.1 (.inl fun hquiet => ?_) (h.pending g hg p hp)
    exact (hquiet g hg).1 p hp rfl
  sending g hg m hm := by
    obtain ⟨key, hlent, hcarries⟩ := h.sending g hg m hm
    refine ⟨key, hL m.1 key (.inl fun hquiet => ?_) hlent, hcarries⟩
    exact (hquiet g hg).2 m hm rfl
  channel ch reply hch := by
    obtain ⟨key, hlent, hcarries⟩ := h.channel ch reply hch
    refine ⟨key, hL ch key (.inr ?_) hlent, hcarries⟩
    rw [hch]
    exact some_ne_none _

/-- What a socket may hold. -/
def Sound (L : Nat → PendingKey → Prop) (g : SocketGroup N) : Prop :=
  (∀ p ∈ g.pending, L p.2 p.1) ∧ ∀ m ∈ g.sending, ∃ key, L m.1 key ∧ Carries m.2 key

theorem References.sound (h : References L opened channel) (hg : g ∈ opened) : Sound L g :=
  ⟨h.pending g hg, h.sending g hg⟩

theorem References.groups (h : References L opened channel) (hsound : ∀ g ∈ opened', Sound L g) :
    References L opened' channel :=
  ⟨fun g hg => (hsound g hg).1, fun g hg => (hsound g hg).2, h.channel⟩

theorem Sound.cancel (h : Sound L g) (key : PendingKey) : Sound L (g.cancel key) :=
  ⟨fun p hp => h.1 p (mem_of_mem_filter hp), h.2⟩

theorem Sound.register (h : Sound L g) (hL : L ch key) : Sound L (g.register key ch) := by
  refine ⟨fun p hp => ?_, h.2⟩
  rcases mem_cons.mp hp with rfl | hp
  · exact hL
  · exact (h.cancel key).1 p hp

theorem Sound.dispatch (h : Sound L g) (raw : Bytes) : Sound L (g.dispatch raw) := by
  unfold SocketGroup.dispatch
  cases hkey : replyKey g.key.family raw with
  | none => exact h
  | some key =>
    dsimp only
    cases hfind : g.pending.find? (·.1 = key) with
    | none => exact h
    | some p =>
      refine ⟨(h.cancel key).1, fun m hm => ?_⟩
      cases hm
      have hp : p.1 = key := by simpa using find?_some hfind
      refine ⟨key, ?_, carries_of_replyKey hkey⟩
      rw [← hp]
      exact h.1 p (mem_of_find?_eq_some hfind)

theorem mem_modify {X : Type} {l : List X} {f : X → X} {y : X}
    (h : y ∈ l.modify i f) : y ∈ l ∨ ∃ x ∈ l, y = f x := by
  obtain ⟨j, hj⟩ := mem_iff_getElem?.mp h
  rw [getElem?_modify] at hj
  by_cases hij : i = j
  · subst hij
    simp only [if_true, Option.map_eq_map, Option.map_eq_some_iff] at hj
    obtain ⟨x, hx, rfl⟩ := hj
    exact .inr ⟨x, mem_of_getElem? hx, rfl⟩
  · simp only [hij, if_false, id_map'] at hj
    exact .inl (mem_of_getElem? hj)

theorem References.modify (h : References L opened channel) (i : Nat)
    (hf : ∀ g, Sound L g → Sound L (f g)) :
    References L (opened.modify i f) channel := by
  refine h.groups fun g hg => ?_
  rcases mem_modify hg with hg | ⟨g₀, hg₀, rfl⟩
  · exact h.sound hg
  · exact hf g₀ (h.sound hg₀)

theorem References.setChannel (h : References L opened channel)
    (hcontent : ∀ reply ∈ content, ∃ key, L ch key ∧ Carries reply key) :
    References L opened (update channel ch content) := by
  refine ⟨h.pending, h.sending, fun ch' reply hreply => ?_⟩
  rcases update_cases hreply with ⟨rfl, hreply'⟩ | ⟨-, hreply'⟩
  · exact hcontent reply hreply'
  · exact h.channel ch' reply hreply'

/-! ## Channels and their calls -/

theorem isActive_of_isOpen (h : stage.isOpen = true) : stage.isActive = true := by
  cases stage with
  | returned r => cases h
  | _ => rfl

theorem Ownership.key_eq (h : Ownership c) (hcall : c.calls id = some call)
    (hopen : call.stage.isOpen = true) (hlent : Lent c.calls call.replyCh key) :
    key = call.request.key := by
  obtain ⟨id', call', hcall', hopen', hch, rfl⟩ := hlent
  have hid := h.unique id' id call' call hcall' hcall (isActive_of_isOpen hopen')
    (isActive_of_isOpen hopen) hch
  subst hid
  cases hcall.symm.trans hcall'
  rfl

variable {calls : Nat → Option (ForwardCall N)} {call' : ForwardCall N}
  {servers : List (BindingKey N)} {request : Request}

theorem Lent.update (h : Lent calls ch key) (hcall : calls id = some call)
    (hch : call'.replyCh = call.replyCh) (hrequest : call'.request = call.request)
    (hopen : call.stage.isOpen = true → call'.stage.isOpen = true ∨ ch ≠ call.replyCh) :
    Lent (update calls id (some call')) ch key := by
  obtain ⟨id₁, call₁, hcall₁, hopen₁, hch₁, hkey₁⟩ := h
  by_cases hid : id₁ = id
  · subst hid
    cases hcall.symm.trans hcall₁
    refine ⟨id₁, call', update_self .., ?_, hch.trans hch₁, ?_⟩
    · exact (hopen hopen₁).resolve_right fun hne => hne hch₁.symm
    · rw [hrequest]
      exact hkey₁
  · exact ⟨id₁, call₁, (update_of_ne hid _ _).trans hcall₁, hopen₁, hch₁, hkey₁⟩

theorem Lent.new (h : Lent calls ch key) (hnone : calls id = none) (call : ForwardCall N) :
    Lent (Function.update calls id (some call)) ch key := by
  obtain ⟨id₁, call₁, hcall₁, hrest⟩ := h
  have hid : id₁ ≠ id := by
    rintro rfl
    cases hnone.symm.trans hcall₁
  exact ⟨id₁, call₁, (Function.update_of_ne hid _ _).trans hcall₁, hrest⟩

theorem Ownership.setCall (h : Ownership c) (hcall : c.calls id = some call)
    (hch : call'.replyCh = call.replyCh)
    (hactive : call'.stage.isActive = true → call.stage.isActive = true) :
    Ownership (c.setCall id call') := by
  -- a call after the step stands for a call before it with the same channel
  have hbefore : ∀ {id₁ call₁}, (c.setCall id call').calls id₁ = some call₁ →
      ∃ call₀, c.calls id₁ = some call₀ ∧ call₁.replyCh = call₀.replyCh ∧
        (call₁.stage.isActive = true → call₀.stage.isActive = true) := by
    intro id₁ call₁ h₁
    obtain ⟨rfl, ⟨⟩⟩ | ⟨-, h₀⟩ := update_cases h₁
    · exact ⟨call, hcall, hch, hactive⟩
    · exact ⟨call₁, h₀, rfl, fun hact => hact⟩
  refine ⟨fun id₁ hid₁ => ?_, fun id₁ call₁ h₁ => ?_, h.pooled, h.nodup,
    fun id₁ call₁ h₁ hact => ?_, fun id₁ id₂ call₁ call₂ h₁ h₂ hact₁ hact₂ hsame => ?_⟩
  · have hne : id₁ ≠ id := by
      rintro rfl
      cases hcall.symm.trans (h.fresh id₁ hid₁)
    exact (update_of_ne hne _ _).trans (h.fresh id₁ hid₁)
  · obtain ⟨call₀, h₀, hch₀, -⟩ := hbefore h₁
    rw [hch₀]
    exact h.called id₁ call₀ h₀
  · obtain ⟨call₀, h₀, hch₀, hact₀⟩ := hbefore h₁
    rw [hch₀]
    exact h.disjoint id₁ call₀ h₀ (hact₀ hact)
  · obtain ⟨call₀, h₀, hch₀, hact₀⟩ := hbefore h₁
    obtain ⟨call₃, h₃, hch₃, hact₃⟩ := hbefore h₂
    exact h.unique id₁ id₂ call₀ call₃ h₀ h₃ (hact₀ hact₁) (hact₃ hact₂)
      (hch₀.symm.trans (hsame.trans hch₃))

theorem Matched.setCall (h : c.Matched)
    (hresult : ∀ reply, call'.stage.result = some (.ok reply) →
      Carries reply call'.request.key) : (c.setCall id call').Matched := by
  intro id₁ call₁ reply h₁ hreply
  obtain ⟨-, ⟨⟩⟩ | ⟨-, h₀⟩ := update_cases h₁
  · exact hresult reply hreply
  · exact h id₁ call₁ reply h₀ hreply

/-! ## Steps -/

variable (h : Inv c)
include h

theorem Inv.advance (hcall : c.calls id = some call)
    (hopen : call.stage.isOpen = true) (hch : call'.replyCh = call.replyCh)
    (hrequest : call'.request = call.request) (hopen' : call'.stage.isOpen = true)
    (hresult : ∀ reply, call'.stage.result = some (.ok reply) →
      Carries reply call.request.key) : Inv (c.setCall id call') where
  ownership := h.ownership.setCall hcall hch fun _ => isActive_of_isOpen hopen
  references := h.references.mono fun _ _ _ hlent =>
    hlent.update hcall hch hrequest fun _ => .inl hopen'
  matched := h.matched.setCall (by rwa [hrequest])

theorem Inv.setGroup (i : Nat)
    (hf : ∀ g, Sound (Lent c.calls) g → Sound (Lent c.calls) (f g)) : Inv (c.setGroup i f) where
  ownership := { h.ownership with }
  references := h.references.modify i hf
  matched := h.matched

theorem Inv.setChannel
    (hcontent : ∀ reply ∈ content, ∃ key, Lent c.calls ch key ∧ Carries reply key) :
    Inv (c.setChannel ch content) where
  ownership := { h.ownership with }
  references := h.references.setChannel hcontent
  matched := h.matched

theorem Inv.giveUp (hcall : c.calls id = some call)
    (hopen : call.stage.isOpen = true) (i : Nat) (hopen' : stage.isOpen = true)
    (hresult : ∀ reply, stage.result ≠ some (.ok reply)) : Inv (c.giveUp id call i stage) := by
  have hgroup : Inv (c.setGroup i (·.cancel call.request.key)) :=
    h.setGroup i fun g hg => hg.cancel _
  exact hgroup.advance hcall hopen rfl rfl hopen' fun reply hreply => absurd hreply (hresult reply)

theorem Inv.skip (hs : c.skip id = some c') : Inv c' := by
  obtain ⟨call, hcall, hs⟩ := bind_eq_some_iff.mp hs
  split at hs
  · rename_i hstage _
    cases hs
    have hopen : call.stage.isOpen = true := by rw [hstage]; rfl
    refine h.advance hcall hopen rfl rfl hopen fun reply hreply => ?_
    exact h.matched id call reply hcall hreply
  · cases hs

theorem Inv.write (hs : c.write id = some c') : Inv c' := by
  obtain ⟨call, hcall, hs⟩ := bind_eq_some_iff.mp hs
  split at hs
  · rename_i i hstage
    split at hs
    · cases hs
      exact h.advance hcall (by rw [hstage]; rfl) rfl rfl rfl nofun
    · cases hs
  · cases hs

theorem Inv.timeout (hs : c.writeFails id = some c' ∨ c.timeout id = some c') : Inv c' := by
  rcases hs with hs | hs
  all_goals
    obtain ⟨call, hcall, hs⟩ := bind_eq_some_iff.mp hs
    split at hs
    · rename_i i hstage
      cases hs
      exact h.giveUp hcall (by rw [hstage]; rfl) i rfl nofun
    · cases hs

theorem Inv.abort (hs : c.abort id = some c') : Inv c' := by
  obtain ⟨call, hcall, hs⟩ := bind_eq_some_iff.mp hs
  split at hs
  · rename_i i hstage
    split at hs
    · cases hs
      exact h.giveUp hcall (by rw [hstage]; rfl) i rfl nofun
    · cases hs
  · cases hs

theorem Inv.exhausted (hs : c.exhausted id = some c') : Inv c' := by
  obtain ⟨call, hcall, hs⟩ := bind_eq_some_iff.mp hs
  split at hs
  · rename_i hstage _
    cases hs
    exact h.advance hcall (by rw [hstage]; rfl) rfl rfl rfl nofun
  · cases hs

/-- What a call reads was sent for its own request: the channel has no other call. -/
theorem Inv.receive (hs : c.receive id = some c') : Inv c' := by
  obtain ⟨call, hcall, hs⟩ := bind_eq_some_iff.mp hs
  split at hs
  · rename_i i reply hstage hreply
    cases hs
    have hopen : call.stage.isOpen = true := by rw [hstage]; rfl
    obtain ⟨key, hlent, hcarries⟩ := h.references.channel call.replyCh reply hreply
    rw [h.ownership.key_eq hcall hopen hlent] at hcarries
    have hempty : Inv (c.setChannel call.replyCh none) := h.setChannel nofun
    refine hempty.advance hcall hopen rfl rfl rfl fun reply' hreply' => ?_
    cases hreply'
    exact hcarries
  · cases hs

omit h

/-- Where the condition of the runs stands: a call empties its channel when no reader
and no registration has it. -/
def Careful (c : Client N) : Event N → Prop
  | .drain id => ∀ call ∈ c.calls id, Quiet c.opened call.replyCh
  | _ => True

instance (c : Client N) (e : Event N) : Decidable (c.Careful e) := by
  rcases e <;> dsimp only [Careful] <;> infer_instance

/-- Nothing is on its way to a channel that is quiet and empty, so nothing is lost when
its call stops reading. -/
theorem Inv.drain (h : Inv c) (hok : c.Careful (.drain id)) (hs : c.drain id = some c') :
    Inv c' := by
  obtain ⟨call, hcall, hs⟩ := bind_eq_some_iff.mp hs
  split at hs
  · rename_i r hstage
    cases hs
    have hempty : Inv (c.setChannel call.replyCh none) := h.setChannel nofun
    have hactive : call.stage.isActive = true := by rw [hstage]; rfl
    refine ⟨hempty.ownership.setCall hcall rfl fun _ => hactive, ?_,
      hempty.matched.setCall fun reply hreply => ?_⟩
    · refine hempty.references.mono fun ch key hused hlent =>
        hlent.update hcall rfl rfl fun _ => .inr ?_
      rintro rfl
      rcases hused with hused | hused
      · exact hused (hok call hcall)
      · exact hused (update_self ..)
    · exact h.matched id call reply hcall (by rw [hstage]; exact hreply)
  · cases hs

theorem Ownership.put (h : Ownership c) (hcall : c.calls id = some call)
    (hactive : call.stage.isActive = true) {r : Except ForwardError Bytes} :
    Ownership { c.setStage id call (.returned r) with
      replyPool := c.replyPool ++ [call.replyCh] } := by
  have hset : Ownership (c.setStage id call (.returned r)) :=
    h.setCall hcall rfl nofun
  refine ⟨hset.fresh, hset.called, fun ch hch => ?_, ?_, fun id' call' h' hactive' hmem => ?_,
    hset.unique⟩
  · rcases mem_append.mp hch with hch | hch
    · exact h.pooled ch hch
    · rw [mem_singleton.mp hch]
      exact h.called id call hcall
  · refine nodup_append.mpr ⟨h.nodup, nodup_singleton _, ?_⟩
    rintro ch hch _ hmem rfl
    rw [mem_singleton.mp hmem] at hch
    exact h.disjoint id call hcall hactive hch
  · rcases mem_append.mp hmem with hmem | hmem
    · exact hset.disjoint id' call' h' hactive' hmem
    · -- another call with the channel would be the same call, which is done
      obtain ⟨-, ⟨⟩⟩ | ⟨hid, hbefore⟩ := update_cases h'
      · cases hactive'
      · exact hid (h.unique id' id call' call hbefore hcall hactive' hactive
          (mem_singleton.mp hmem))

theorem Inv.put (h : Inv c) (hs : c.put id = some c') : Inv c' := by
  obtain ⟨call, hcall, hs⟩ := bind_eq_some_iff.mp hs
  split at hs
  · rename_i r hstage
    cases hs
    refine ⟨h.ownership.put hcall (by rw [hstage]; rfl), ?_,
      h.matched.setCall fun reply hreply => ?_⟩
    · refine h.references.mono fun ch key _ hlent => hlent.update hcall rfl rfl fun hopen => ?_
      rw [hstage] at hopen
      cases hopen
    · exact h.matched id call reply hcall (by rw [hstage]; exact hreply)
  · cases hs

theorem Inv.discard (h : Inv c) (i : Nat) : Inv (c.discard i) := by
  have hsub : (c.replyPool.eraseIdx i).Sublist c.replyPool := eraseIdx_sublist ..
  refine ⟨{ h.ownership with
    pooled ch hch := h.ownership.pooled ch (hsub.subset hch)
    nodup := h.ownership.nodup.sublist hsub
    disjoint id call hcall hactive hmem :=
      h.ownership.disjoint id call hcall hactive (hsub.subset hmem) }, h.references, h.matched⟩

theorem Inv.dispatch (h : Inv c) {raw : Bytes} (hs : c.dispatch i raw = some c') : Inv c' := by
  obtain ⟨g, hg, hs⟩ := bind_eq_some_iff.mp hs
  split at hs
  · cases hs
    exact h.setGroup i fun g hg => hg.dispatch raw
  · cases hs

theorem Inv.send (h : Inv c) (hs : c.send i = some c') : Inv c' := by
  obtain ⟨g, hg, hs⟩ := bind_eq_some_iff.mp hs
  obtain ⟨⟨ch, reply⟩, hsending, hs⟩ := bind_eq_some_iff.mp hs
  have hsent : Inv (c.setGroup i fun g => { g with sending := none }) :=
    h.setGroup i fun g hg => ⟨hg.1, nofun⟩
  cases hs
  split
  · refine hsent.setChannel fun reply' hreply' => ?_
    cases hreply'
    exact h.references.sending g (mem_of_getElem? hg) (ch, reply) hsending
  · exact hsent

theorem Inv.markClosed [DecidableEq N] (h : Inv c) (hs : c.markClosed i = some c') : Inv c' := by
  obtain ⟨g, hg, hs⟩ := bind_eq_some_iff.mp hs
  have hclosed : Inv (c.setGroup i fun g => { g with closed := true }) :=
    h.setGroup i fun g hg => hg
  split at hs
  · cases hs
    exact h
  · cases hs
    split
    · exact ⟨{ hclosed.ownership with }, hclosed.references, hclosed.matched⟩
    · exact hclosed

theorem Inv.close [DecidableEq N] (h : Inv c) : Inv c.close := by
  refine ⟨{ h.ownership with }, h.references.groups fun g hg => ?_, h.matched⟩
  obtain ⟨i, hi, rfl⟩ := mem_mapIdx.mp hg
  have hsound := h.references.sound (getElem_mem hi)
  split
  · exact hsound
  · exact hsound

theorem Inv.groupFor [DecidableEq N] (h : Inv c) {key : BindingKey N}
    (hs : c.groupFor key = some (i, c')) : Inv c' ∧ c'.calls = c.calls := by
  unfold Client.groupFor at hs
  dsimp only at hs
  split at hs
  · cases hs
    exact ⟨h, rfl⟩
  · split at hs
    · cases hs
    · cases hs
      refine ⟨⟨{ h.ownership with }, h.references.groups fun g hg => ?_, h.matched⟩, rfl⟩
      rcases mem_append.mp hg with hg | hg
      · exact h.references.sound hg
      · rw [mem_singleton.mp hg]
        exact ⟨nofun, nofun⟩

theorem Inv.register [DecidableEq N] (h : Inv c) (hs : c.register id = some c') : Inv c' := by
  obtain ⟨call, hcall, hs⟩ := bind_eq_some_iff.mp hs
  split at hs
  · rename_i key servers hstage _
    obtain ⟨⟨i, c₁⟩, hgroup, rfl⟩ := map_eq_some_iff.mp hs
    have hopen : call.stage.isOpen = true := by rw [hstage]; rfl
    obtain ⟨h₁, hcalls⟩ := h.groupFor hgroup
    have hcall₁ : c₁.calls id = some call := by rw [hcalls]; exact hcall
    have hset : Inv (c₁.setGroup i (·.register call.request.key call.replyCh)) :=
      h₁.setGroup i fun g hg => hg.register ⟨id, call, hcall₁, hopen, rfl, rfl⟩
    exact hset.advance hcall₁ hopen rfl rfl rfl nofun
  · cases hs

theorem Inv.newCall (h : Inv c) (hbound : ch < c.nextChannel) (hpool : ch ∉ c.replyPool)
    (hfree : ∀ id call, c.calls id = some call → call.stage.isActive = true → call.replyCh ≠ ch) :
    Inv { c with
      calls := update c.calls c.nextCall (some ⟨request, ch, servers, .next⟩)
      nextCall := c.nextCall + 1 } := by
  have hnone : c.calls c.nextCall = none := h.ownership.fresh _ (Nat.le_refl _)
  refine ⟨⟨fun id hid => ?_, fun id call hcall => ?_, h.ownership.pooled, h.ownership.nodup,
    fun id call hcall hactive => ?_, fun id id' call call' hcall hcall' hactive hactive' hch => ?_⟩,
    h.references.mono fun _ _ _ hlent => hlent.new hnone _, fun id call reply hcall hreply => ?_⟩
  · have hne : id ≠ c.nextCall := Nat.ne_of_gt hid
    exact (update_of_ne hne _ _).trans (h.ownership.fresh id (Nat.le_of_succ_le hid))
  · obtain ⟨-, ⟨⟩⟩ | ⟨-, hcall⟩ := update_cases hcall
    · exact hbound
    · exact h.ownership.called id call hcall
  · obtain ⟨-, ⟨⟩⟩ | ⟨-, hcall⟩ := update_cases hcall
    · exact hpool
    · exact h.ownership.disjoint id call hcall hactive
  · obtain ⟨hid, ⟨⟩⟩ | ⟨-, hcall⟩ := update_cases hcall
    · obtain ⟨hid', -⟩ | ⟨-, hcall'⟩ := update_cases hcall'
      · exact hid.trans hid'.symm
      · exact absurd hch.symm (hfree id' call' hcall' hactive')
    · obtain ⟨-, ⟨⟩⟩ | ⟨-, hcall'⟩ := update_cases hcall'
      · exact absurd hch (hfree id call hcall hactive)
      · exact h.ownership.unique id id' call call' hcall hcall' hactive hactive' hch
  · obtain ⟨-, ⟨⟩⟩ | ⟨-, hcall⟩ := update_cases hcall
    · cases hreply
    · exact h.matched id call reply hcall hreply

theorem Inv.forward (h : Inv c)
    {pick : Option Nat} (hs : c.forward request servers pick = some c') : Inv c' := by
  obtain ⟨⟨ch, c₁⟩, hget, rfl⟩ := map_eq_some_iff.mp hs
  cases pick with
  | none =>
    cases hget
    have hempty : Inv (c.setChannel c.nextChannel none) :=
      h.setChannel nofun
    have hgrown : Inv { c.setChannel c.nextChannel none with nextChannel := c.nextChannel + 1 } :=
      ⟨{ hempty.ownership with
          called id call hcall := Nat.lt_succ_of_lt (h.ownership.called id call hcall)
          pooled ch hch := Nat.lt_succ_of_lt (h.ownership.pooled ch hch) },
        hempty.references, hempty.matched⟩
    refine hgrown.newCall (Nat.lt_succ_self _) (fun hmem => ?_) fun id call hcall _ hch => ?_
    · exact Nat.lt_irrefl _ (h.ownership.pooled _ hmem)
    · exact Nat.lt_irrefl _ (hch ▸ h.ownership.called id call hcall)
  | some i =>
    obtain ⟨ch', hi, heq⟩ := map_eq_some_iff.mp hget
    cases heq
    have hmem : ch ∈ c.replyPool := mem_of_getElem? hi
    refine (h.discard i).newCall (h.ownership.pooled ch hmem) (fun hmem' => ?_)
      fun id call hcall hactive hch => ?_
    · obtain ⟨j, hne, hj⟩ := mem_eraseIdx_iff_getElem?.mp hmem'
      have hlt := (List.getElem?_eq_some_iff.mp hj).1
      exact hne ((getElem?_inj hlt h.ownership.nodup).mp (hj.trans hi.symm))
    · exact h.ownership.disjoint id call hcall hactive (hch ▸ hmem)

/-! ## Runs -/

theorem Initial.inv (h : Initial c) : Inv c where
  ownership := by
    have hnone : ∀ {id call}, c.calls id = some call → False := by
      intro id call hcall
      rw [h.calls id] at hcall
      cases hcall
    refine ⟨fun id _ => h.calls id, fun _ _ hcall => (hnone hcall).elim, ?_, ?_,
      fun _ _ hcall => (hnone hcall).elim, fun _ _ _ _ hcall => (hnone hcall).elim⟩
    · rw [h.replyPool]
      exact nofun
    · rw [h.replyPool]
      exact nodup_nil
  references := by
    rw [h.opened]
    refine ⟨nofun, nofun, fun ch reply hch => ?_⟩
    rw [h.channel ch] at hch
    cases hch
  matched id call reply hcall := by
    rw [h.calls id] at hcall
    cases hcall

theorem Inv.next [DecidableEq N] (h : Inv c) {e : Event N} (hok : c.Careful e)
    (hs : c.next e = some c') : Inv c' := by
  cases e with
  | forward request servers pick => exact h.forward hs
  | skip id => exact h.skip hs
  | register id => exact h.register hs
  | write id => exact h.write hs
  | writeFails id => exact h.timeout (.inl hs)
  | receive id => exact h.receive hs
  | timeout id => exact h.timeout (.inr hs)
  | abort id => exact h.abort hs
  | exhausted id => exact h.exhausted hs
  | drain id => exact h.drain hok hs
  | put id => exact h.put hs
  | discard i =>
    cases hs
    exact h.discard i
  | dispatch i raw => exact h.dispatch hs
  | send i => exact h.send hs
  | markClosed i => exact h.markClosed hs
  | close =>
    cases hs
    exact h.close

/-- In every run in which a call empties its channel only when no reader and no
registration has it, every reply carries the identifiers of its request. -/
theorem matched_of_careful [DecidableEq N] (h : (machine N).Reach Careful c) : c.Matched :=
  (h.invariant Inv (fun _ => Initial.inv) fun _ _ _ hinv hok hs => hinv.next hok hs).matched

/-! ### Subscribers of one relay -/

/-- A message of subscriber `n`: transaction `n`, and `n` as the last byte of the
hardware address. -/
def packet4 (n : UInt8) : Bytes := replicate 7 0 ++ [n] ++ replicate 25 0 ++ [n]

def request4 (n : UInt8) : Request := .v4 (packet4 n) n.toUInt32

def request6 (n : UInt8) : Request := .v6 (replicate 33 0 ++ [n]) [0, 0, n]

def socket4 : BindingKey Nat := ⟨.v4, 0, none, 67⟩

def socket6 : BindingKey Nat := ⟨.v6, 0, none, 547⟩

def start : Client Nat := ⟨false, fun _ => none, [], fun _ => none, 0, [], fun _ => none, 0⟩

theorem initial_start : Initial start := ⟨rfl, fun _ => rfl, rfl, fun _ => rfl⟩

/-- Two calls at a time, the later one answered first, and a third one that takes over
its channel. -/
theorem matched_of_careful_three :
    ∃ c, (machine Nat).Reach Careful c ∧
      (c.calls 2).map (fun call => (call.replyCh, call.stage.result)) =
        some (1, some (.ok (packet4 3))) ∧ c.Matched := by
  obtain ⟨c, hc, hthird⟩ : ∃ c, (machine Nat).Reach Careful c ∧
      (c.calls 2).map (fun call => (call.replyCh, call.stage.result)) =
        some (1, some (.ok (packet4 3))) :=
    exists_reach_of_run initial_start
      [.forward (request4 1) [socket4] none, .register 0, .write 0,
        .forward (request4 2) [socket4] none, .register 1, .write 1,
        .dispatch 0 (packet4 2), .send 0, .dispatch 0 (packet4 1), .send 0,
        .receive 1, .drain 1, .put 1, .receive 0,
        .forward (request4 3) [socket4] (some 0), .register 2, .write 2,
        .dispatch 0 (packet4 3), .send 0, .receive 2] (by decide +kernel)
  exact ⟨c, hc, hthird, matched_of_careful hc⟩

/-- The request of a second call, and a run in which it returns the reply of the first:
* the reader sends when the channel has changed hands;
* the reader sends between the drain and the return to the pool;
* the same as the first, to a call of the other family;
* the first call was answered by a reply that was looked up before it registered
  again, and left the second registration. -/
def misdeliveries : List (Request × List (Event Nat)) :=
  [(request4 2,
      [.forward (request4 1) [socket4] none, .register 0, .write 0, .dispatch 0 (packet4 1),
        .timeout 0, .exhausted 0, .drain 0, .put 0,
        .forward (request4 2) [socket4] (some 0), .register 1, .write 1, .send 0, .receive 1]),
    (request4 2,
      [.forward (request4 1) [socket4] none, .register 0, .write 0, .dispatch 0 (packet4 1),
        .timeout 0, .exhausted 0, .drain 0, .send 0, .put 0,
        .forward (request4 2) [socket4] (some 0), .register 1, .write 1, .receive 1]),
    (request6 2,
      [.forward (request4 1) [socket4] none, .register 0, .write 0, .dispatch 0 (packet4 1),
        .timeout 0, .exhausted 0, .drain 0, .put 0,
        .forward (request6 2) [socket6] (some 0), .register 1, .write 1, .send 0, .receive 1]),
    (request4 2,
      [.forward (request4 1) [socket4, socket4] none, .register 0, .write 0,
        .dispatch 0 (packet4 1), .timeout 0, .register 0, .write 0, .send 0, .receive 0,
        .drain 0, .put 0,
        .forward (request4 2) [socket4] (some 0), .register 1, .write 1,
        .dispatch 0 (packet4 1), .send 0, .receive 1])]

theorem reply_misdelivered :
    misdeliveries.Forall fun m => ∃ c, run next (fun _ _ => True) start m.2 = some c ∧
      (machine Nat).Reach (fun _ _ => True) c ∧ ¬ c.Matched := by
  refine forall_exists_run initial_start _ (fun m c => ¬ Carries (packet4 1) m.1.key ∧
    ∃ call ∈ c.calls 1, call.request.key = m.1.key ∧
      call.stage.result = some (.ok (packet4 1))) (by decide +kernel) ?_
  rintro m c hreach ⟨hother, call, hcall, hkey, hresult⟩
  exact ⟨hreach, fun hmatched => hother (hkey ▸ hmatched 1 call (packet4 1) hcall hresult)⟩

end Client
end Osvbng.Relay
