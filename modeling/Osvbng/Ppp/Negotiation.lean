import Osvbng.L2tp.Lns
import Osvbng.Pppoe.Leases

/-!
# The address a peer negotiates

A session that has allocated an address hands it to IPCP and takes the address
of the peer's record when IPCP opens. A request for another address is answered
with the allocated one. A request that has no address is acknowledged as it is.
-/

namespace Osvbng.Ppp
open Option List Lib Lib.Slice Lib.NetIP OptionHandler Fsm L2tp.Lns.Host Machine Pppoe Bool Ipcp

/-- Whether an event is a request with the address that is assigned to the peer. -/
def asksAddress (i : Ipcp) : Event → Bool
  | .input code _ data =>
    code = confReq && match parseOptions data with
      | some (.ok opts) => ipAddressOption i.peerConfig.peerAddress ∈ opts
      | _ => false
  | _ => false

/-- The address of a session after the callbacks of an event. -/
def sessionAddress (r : Fsm Ipcp × List Action) (ip : IP) : IP :=
  if .layerUp ∈ r.2 then r.1.handler.peerConfig.address else ip

section Hosts
variable {K N T Q : Type}

/-- A session whose callbacks store the peer's address when the layer comes up. -/
theorem foldl_sessionAddress {S : Type} {act : S → Action → S} {v : S → Fsm Ipcp × IP}
    (hv : ∀ s a, v (act s a) = ((v s).1, sessionAddress ((v s).1, [a]) (v s).2)) (s : S)
    (acts : List Action) : (v (acts.foldl act s)).2 = sessionAddress ((v s).1, acts) (v s).2 := by
  induction acts generalizing s with
  | nil => rfl
  | cons a acts ih =>
    rw [foldl_cons, ih, hv]
    by_cases ha : a = .layerUp
    · simp [sessionAddress, ha]
    · simp [sessionAddress, Ne.symm ha]

theorem pppoe_applyIPCP_address (h : Host K N T Q) (r : Fsm Ipcp × List Action) :
    (h.applyIPCP r).session.ipv4Address = sessionAddress r h.session.ipv4Address := by
  refine foldl_sessionAddress (v := fun h : Host K N T Q =>
    (h.session.ipcp, h.session.ipv4Address)) (fun h a => ?_) _ r.2
  cases a with
  | layerUp =>
    unfold Host.ipcpAction Host.onIPCPUp Host.checkOpen
    dsimp only
    repeat' split
    all_goals rfl
  | _ => rfl

theorem l2tp_applyIPCP_address (h : L2tp.Lns.Host K N Q) (r : Fsm Ipcp × List Action) :
    (h.applyIPCP r).session.ipv4Address = sessionAddress r h.session.ipv4Address := by
  refine foldl_sessionAddress (v := fun h : L2tp.Lns.Host K N Q =>
    (h.session.ipcp, h.session.ipv4Address)) (fun h a => ?_) _ r.2
  cases a with
  | layerUp =>
    unfold ipcpAction onIPCPUp checkSessionOpen
      programSessionVPP
    dsimp only
    repeat' split
    all_goals rfl
  | _ => rfl

end Hosts

structure Negotiation where
  fsm : Fsm Ipcp
  ipv4Address : IP
  /-- History: the peer has asked for the address assigned to it. -/
  asked : Bool

namespace Negotiation
variable {n n' : Negotiation} {e : Event} {allocated : IP}

def next (n : Negotiation) (e : Event) : Option Negotiation := do
  let r ← n.fsm.handle e
  return ⟨r.1, sessionAddress r n.ipv4Address, n.asked || asksAddress n.fsm.handler e⟩

def start (i : Ipcp) (allocated : IP) : Negotiation :=
  ⟨newFsm (i.setPeerAddress allocated), allocated, false⟩

def machine (allocated : IP) : Machine Negotiation Event :=
  .ofNext (fun n => ∃ i, n = start i allocated) next

/-- The assigned address is acknowledged, and its request takes an open layer down. -/
theorem asksAddress_spec {f : Fsm Ipcp} {r : Fsm Ipcp × List Action} {a : IP}
    (h : f.handle e = some r) (hasks : asksAddress f.handler e = true)
    (ha : isUsableIPv4 a = true) (hassigned : f.handler.peerConfig.peerAddress = a) :
    canon r.1.handler.peerConfig.address = canon a ∧ (f.state = .opened → r.1.state ≠ .opened) := by
  cases e with
  | input code id data =>
    simp only [asksAddress, and_eq_true, decide_eq_true_eq] at hasks
    obtain ⟨rfl, hasks⟩ := hasks
    rw [handle, input, if_pos rfl, rcrEvent] at h
    split at hasks
    · rename_i opts hparsed
      rw [hparsed] at h
      obtain ⟨_, ⟨⟩, h⟩ := bind_eq_some_iff.mp h
      obtain ⟨⟨i, reply⟩, hreq, h⟩ := bind_eq_some_iff.mp h
      cases h
      rw [handler_rcrTransition]
      refine ⟨?_, fun hopen => ?_⟩
      · have hstep {s s' : Ipcp × ConfReply} {o : ConfOption} (hstep : confReqOption s o = some s')
            (hpeer : s.1.peerConfig.peerAddress = a) :=
          confReqOption_address hstep (by rw [hpeer]; exact ha)
        -- The address is set by its option, and kept or set again by those after it.
        obtain ⟨before, after, rfl⟩ := append_of_mem (of_decide_eq_true hasks)
        change (before ++ _ :: after).foldlM confReqOption _ = _ at hreq
        rw [hassigned, foldlM_append] at hreq
        obtain ⟨s, hs, hreq⟩ := bind_eq_some_iff.mp hreq
        rw [foldlM_cons] at hreq
        obtain ⟨s', hs', hreq⟩ := bind_eq_some_iff.mp hreq
        have hpeer := foldlM_invariant (fun s : Ipcp × ConfReply => s.1.peerConfig.peerAddress = a)
          (fun s o s' h hs => (hstep h hs).1.trans hs) hs hassigned
        obtain ⟨hsame, hset⟩ := hstep hs' hpeer
        rw [hpeer] at hsame hset
        refine (foldlM_invariant (fun s : Ipcp × ConfReply => s.1.peerConfig.peerAddress = a ∧
          canon s.1.peerConfig.address = canon a) ?_ hreq
          ⟨hsame, hset.resolve_left fun h => h.2 rfl⟩).2
        rintro s o s' h ⟨hs, hcanon⟩
        obtain ⟨hsame, hkept⟩ := hstep h hs
        rw [hs] at hsame hkept
        refine ⟨hsame, hkept.elim (fun h => ?_) fun h => h⟩
        rw [h.1, hcanon]
      · simp only [rcrTransition, hopen]
        exact state_answer_ne_opened _ id reply nofun nofun
    · cases hasks
  | _ => cases hasks

structure Inv (allocated : IP) (n : Negotiation) : Prop where
  assigned : n.fsm.handler.peerConfig.peerAddress = to4 allocated
  peer : n.asked = true → canon n.fsm.handler.peerConfig.address = canon (to4 allocated)
  session : n.asked = true → n.fsm.state = .opened → canon n.ipv4Address = canon (to4 allocated)

theorem Inv.next (ha : isUsableIPv4 allocated = true) (hn : Inv allocated n)
    (h : n.next e = some n') : Inv allocated n' := by
  have ha' := isUsableIPv4_to4 ha
  obtain ⟨r, hr, h⟩ := bind_eq_some_iff.mp h
  cases h
  obtain ⟨hassigned, hkept⟩ := handlerInvariant_handle
    (address_invariant ha' n.fsm.handler.peerConfig.address) hr ⟨hn.assigned, .inl rfl⟩
  have hpeer : (n.asked || asksAddress n.fsm.handler e) = true →
      canon r.1.handler.peerConfig.address = canon (to4 allocated) := by
    intro hasked
    rcases or_eq_true_iff.mp hasked with hasked | hasks
    · rcases hkept with hkept | hkept
      · rw [hkept]
        exact hn.peer hasked
      · exact hkept
    · exact (asksAddress_spec hr hasks ha' hn.assigned).1
  refine ⟨hassigned, hpeer, fun hasked hopen => ?_⟩
  dsimp only at hopen ⊢
  unfold sessionAddress
  split
  · exact hpeer hasked
  · rename_i hup
    -- without the callback the layer was open before, so the request is an earlier one
    have hwas : n.fsm.state = .opened := by
      have hspec : layerActs r.2 = layerMove n.fsm.state r.1.state := layerSpec_handle hr
      by_contra hwas
      have hacts : Action.layerUp ∈ layerActs r.2 := by simp [hspec, layerMove, hwas, hopen]
      exact hup (mem_filter.mp hacts).1
    rcases or_eq_true_iff.mp hasked with hasked | hasks
    · exact hn.session hasked hwas
    · exact absurd hopen ((asksAddress_spec hr hasks ha' hn.assigned).2 hwas)

def startRun : Negotiation := start .new [10, 0, 0, 5]

/-- The layer is opened, and the peer sends a request and acknowledges ours. -/
def exchange (options : Bytes) : List Event :=
  [.open, .up, .input confReq 1 options, .input confAck 1 []]

end Negotiation
end Osvbng.Ppp
