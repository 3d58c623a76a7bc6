import Osvbng.Lib.Run
import Osvbng.Ppp.Protocols

/-!
# Acknowledgements

What a Configure-Request is answered with, and what a Configure-Ack changes. The
three option handlers answer every option once and in order, and an
acknowledgement has the received options; a byte after the last option is lost. A
received acknowledgement is compared by its identifier alone.
-/

namespace Osvbng.Ppp
open Lib Lib.Slice OptionHandler Fsm Machine ConfReply Prod

/-! ## Sent acknowledgements -/

/-- Every option is answered once, in the order of the request. -/
inductive Accounts : List ConfOption → ConfReply → Prop
  | nil : Accounts [] .empty
  | snoc {opts o r r'} (h : Accounts opts r) (ho : r.Answers o r') : Accounts (opts ++ [o]) r'

variable {H : Type} {opts seen : List ConfOption} {reply : ConfReply} {data : Bytes} {id : UInt8}

theorem Accounts.foldlM {step : H × ConfReply → ConfOption → Checked (H × ConfReply)}
    (hstep : ∀ s o s', step s o = some s' → s.2.Answers o s'.2) {s s' : H × ConfReply}
    (hs : Accounts seen s.2) (h : opts.foldlM step s = some s') : Accounts (seen ++ opts) s'.2 := by
  induction opts generalizing seen s with
  | nil =>
    cases h
    simpa using hs
  | cons o opts ih =>
    obtain ⟨s1, hs1, h⟩ := Option.bind_eq_some_iff.mp h
    simpa using ih (hs.snoc (hstep _ _ _ hs1)) h

theorem Accounts.ack_eq (h : Accounts opts reply) (hnak : reply.nak = []) (hrej : reply.rej = []) :
    reply.ack = opts := by
  induction h with
  | nil => rfl
  | snoc h ho ih =>
    cases ho with
    | ack => exact congrArg (· ++ [_]) (ih hnak hrej)
    | nak => simp [addNak] at hnak
    | rej => simp [addRej] at hrej

/-- Handlers that answer every option of a request. -/
class Accountable (H : Type) [OptionHandler H] : Prop extends SafeHandler H where
  accounts : ∀ (h : H) opts h' reply, processConfReq h opts = some (h', reply) → Accounts opts reply

instance : Accountable Lcp where
  accounts _ _ _ _ h := by
    refine Accounts.nil.foldlM (fun s o s' hs => ?_) h
    obtain ⟨_, hspec, -, hanswers⟩ := Lcp.confReqOption_spec s o
    cases hspec.symm.trans hs
    exact hanswers

instance : Accountable Ipcp where
  accounts _ _ _ _ h := by
    refine Accounts.nil.foldlM (fun s o s' hs => ?_) h
    unfold Ipcp.confReqOption at hs
    repeat' split at hs
    all_goals cases hs
    all_goals first
      | exact .ack
      | exact .rej
      | exact .nak (Eq.symm ‹_›)

instance : Accountable Ipv6cp where
  accounts _ _ _ _ h := by
    refine Accounts.nil.foldlM (fun s o s' hs => ?_) h
    unfold Ipv6cp.confReqOption at hs
    repeat' split at hs
    all_goals cases hs
    all_goals first
      | exact .ack
      | exact .rej
      | exact .nak (Eq.symm (And.left ‹_ ∧ _›))

def Fits (opts : List ConfOption) : Prop := ∀ o ∈ opts, o.data.length ≤ 253

theorem serializeOptions_of_parseOptionsLoop {fuel : Nat}
    (h : parseOptionsLoop fuel data seen = some (.ok opts)) : ∃ new rest, opts = seen ++ new ∧
      data = serializeOptions new ++ rest ∧ rest.length < 2 ∧ Fits new := by
  induction fuel generalizing data seen with
  | zero => cases h
  | succ fuel ih =>
    unfold parseOptionsLoop at h
    split at h
    · cases h
      exact ⟨[], data, by simp, rfl, ‹_›, List.forall_mem_nil _⟩
    · obtain ⟨t, ht, h⟩ := Option.bind_eq_some_iff.mp h
      obtain ⟨l, hl, h⟩ := Option.bind_eq_some_iff.mp h
      split at h
      · cases h
      · rename_i hlen
        obtain _ | ⟨t', _ | ⟨l', data⟩⟩ := data
        · cases ht
        · cases hl
        cases ht
        cases hl
        obtain ⟨k, hk⟩ : ∃ k, l.toNat = k + 2 := ⟨l.toNat - 2, by omega⟩
        rw [slice_of_le (by omega) (by omega), sliceFrom_of_le (by omega), hk] at h
        obtain ⟨new, rest, rfl, hdata, hrest, hfits⟩ := ih h
        have hlength : UInt8.ofNat (2 + (data.take k).length) = l := by
          simp only [List.length_cons] at hlen
          rw [List.length_take, min_eq_left (by omega), Nat.add_comm, ← hk, UInt8.ofNat_toNat]
        have hlt := l.toNat_lt
        have hfit : (data.take k).length ≤ 253 := (List.length_take_le ..).trans (by omega)
        refine ⟨⟨t, data.take k⟩ :: new, rest, by simp, ?_, hrest,
          List.forall_mem_cons.mpr ⟨hfit, hfits⟩⟩
        rw [List.drop_succ_cons, List.drop_succ_cons] at hdata
        rw [serializeOptions, List.flatMap_cons, serializeOption, hlength, List.append_assoc]
        change _ = t :: l :: (data.take k ++ (serializeOptions new ++ rest))
        rw [← hdata, List.take_append_drop]

/-- How a request is answered: every option once; and with an acknowledgement only when nothing
is naked or rejected, which then has the received bytes unless one more byte follows the last
option. A malformed request is discarded. -/
def Answered [OptionHandler H] (f : Fsm H) (id : UInt8) (data : Bytes) : Prop :=
  (∃ err, parseOptions data = some (.error err) ∧ f.rcrEvent id data = some (f, [])) ∨
    ∃ opts h reply r, parseOptions data = some (.ok opts) ∧
      processConfReq f.handler opts = some (h, reply) ∧ f.rcrEvent id data = some r ∧
      Accounts opts reply ∧ ∀ id' bytes, .send confAck id' bytes ∈ r.2 →
        id' = id ∧ reply.nak = [] ∧ reply.rej = [] ∧
          (bytes = data ↔ data.length = (serializeOptions opts).length)

theorem confAck_of_rcrTransition [OptionHandler H] {f : Fsm H} {id' : UInt8} {bytes : Bytes}
    (h : .send confAck id' bytes ∈ (f.rcrTransition id reply).2) :
    id' = id ∧ bytes = serializeOptions reply.ack ∧ reply.nak = [] ∧ reply.rej = [] := by
  unfold rcrTransition answer at h
  revert h
  cases hs : f.state <;> dsimp only <;> repeat' split
  all_goals simp_all +decide [after, goto, scr, scn, sca, scj, sta]

theorem answered [OptionHandler H] [Accountable H] (f : Fsm H) (id : UInt8) (data : Bytes) :
    Answered f id data := by
  obtain ⟨parsed, hparsed⟩ := exists_parseOptions data
  cases parsed with
  | error err => exact .inl ⟨err, hparsed, by simp [rcrEvent, hparsed]⟩
  | ok opts =>
    obtain ⟨⟨h, reply⟩, hreq⟩ := SafeHandler.exists_processConfReq f.handler opts
    have haccounts := Accountable.accounts _ _ _ _ hreq
    refine .inr ⟨opts, h, reply, _, hparsed, hreq, by simp [rcrEvent, hparsed, hreq]; rfl,
      haccounts, fun id' bytes hsent => ?_⟩
    obtain ⟨hid, hbytes, hnak, hrej⟩ := confAck_of_rcrTransition hsent
    refine ⟨hid, hnak, hrej, ?_⟩
    obtain ⟨new, rest, rfl, hdata, -⟩ := serializeOptions_of_parseOptionsLoop hparsed
    rw [hbytes, haccounts.ack_eq hnak hrej, hdata]
    simp

/-- LCP, IPCP and IPv6CP answer every request so. -/
theorem answered_all (lcp : Fsm Lcp) (ipcp : Fsm Ipcp) (ipv6cp : Fsm Ipv6cp) (id : UInt8)
    (data : Bytes) : Answered lcp id data ∧ Answered ipcp id data ∧ Answered ipv6cp id data :=
  ⟨answered lcp id data, answered ipcp id data, answered ipv6cp id data⟩

def requested : Fsm Lcp := (newFsm (.new 7)).open.1.up.1

/-- LCP acknowledges a request without the byte that follows its option. -/
theorem confAck_drops_byte : ∃ r, requested.rcrEvent 1 [1, 4, 5, 220, 0] = some r ∧
    .send confAck 1 [1, 4, 5, 220] ∈ r.2 := by
  have hany : (requested.rcrEvent 1 [1, 4, 5, 220, 0]).any
      (fun r => .send confAck 1 [1, 4, 5, 220] ∈ r.2) = true := by decide +kernel
  obtain ⟨r, hr, hsent⟩ := (Option.any_eq_true _ _).mp hany
  exact ⟨r, hr, of_decide_eq_true hsent⟩

/-! ## Encoding and parsing -/

section Codec
open List Option

theorem parseOptionsLoop_serialize {fuel : Nat} {rest : Bytes} (hfits : Fits opts)
    (hrest : rest.length < 2) (hfuel : (serializeOptions opts).length < fuel) :
    parseOptionsLoop fuel (serializeOptions opts ++ rest) seen = some (.ok (seen ++ opts)) := by
  obtain ⟨fuel, rfl⟩ := Nat.exists_eq_succ_of_ne_zero (Nat.ne_zero_of_lt hfuel)
  induction opts generalizing fuel seen with
  | nil => simp [parseOptionsLoop, serializeOptions, hrest]
  | cons o opts ih =>
    obtain ⟨ho, hfits⟩ := forall_mem_cons.mp hfits
    have hlen : (UInt8.ofNat (2 + o.data.length)).toNat = 2 + o.data.length := by
      rw [UInt8.toNat_ofNat']
      omega
    have hcons : serializeOptions (o :: opts) =
        o.type :: .ofNat (2 + o.data.length) :: (o.data ++ serializeOptions opts) := rfl
    generalize UInt8.ofNat (2 + o.data.length) = l at hlen hcons
    rw [hcons] at hfuel ⊢
    simp only [length_cons, length_append] at hfuel
    obtain ⟨fuel, rfl⟩ : ∃ k, fuel = k + 1 := ⟨fuel - 1, by omega⟩
    have hih := @ih (seen ++ [o]) hfits fuel (by omega)
    rw [cons_append, cons_append, append_assoc, parseOptionsLoop, if_neg (by simp)]
    simp only [index, getElem?_cons_zero, getElem?_cons_succ, bind_eq_bind, bind_some]
    rw [if_neg (by simp [hlen]; omega), slice_of_le (by omega) (by simp [hlen]; omega),
      sliceFrom_of_le (by simp [hlen]; omega), hlen, Nat.add_comm]
    simpa using hih

/-- The parser accepts the encodings of the options that fit, and one byte after them. -/
theorem parseOptions_eq_ok_iff (data : Bytes) (opts : List ConfOption) :
    parseOptions data = some (.ok opts) ↔
      Fits opts ∧ ∃ rest, data = serializeOptions opts ++ rest ∧ rest.length < 2 := by
  constructor
  · intro h
    obtain ⟨new, rest, rfl, hdata, hrest, hfits⟩ := serializeOptions_of_parseOptionsLoop h
    exact ⟨hfits, rest, hdata, hrest⟩
  · rintro ⟨hfits, rest, rfl, hrest⟩
    exact parseOptionsLoop_serialize hfits hrest (by rw [length_append]; omega)

end Codec

/-! ## Adopted options -/

def valueOf (type : UInt8) (length : Nat) (o : ConfOption) : Option Bytes :=
  if o.type = type ∧ o.data.length = length then some o.data else none

def lastValue {V : Type} (read : ConfOption → Option V) (opts : List ConfOption) : Option V :=
  opts.reverse.findSome? read

/-- Handlers of which it is known when they already have what an acknowledgement says: the last
value it gives a parameter is the one there is. -/
class Adopts (H : Type) [OptionHandler H] where
  Has : H → List ConfOption → Prop
  processConfAck_eq_self_iff : ∀ (h : H) opts, processConfAck h opts = some h ↔ Has h opts

theorem foldlM_adopt {adopt : H → ConfOption → Checked H} (adopted : H → List ConfOption → H)
    (hnil : ∀ h, adopted h [] = h) (hone : ∀ h o, adopt h o = some (adopted h [o]))
    (hcons : ∀ h o opts, adopted h (o :: opts) = adopted (adopted h [o]) opts) (h : H)
    (opts : List ConfOption) : opts.foldlM adopt h = some (adopted h opts) := by
  induction opts generalizing h with
  | nil => exact congrArg some (hnil h).symm
  | cons o opts ih =>
    rw [List.foldlM_cons, hone, hcons h o opts]
    exact ih _

theorem getD_eq_self_iff {V : Type} (o : Option V) (v : V) : o.getD v = v ↔ ∀ v' ∈ o, v' = v := by
  cases o <;> simp

namespace Lcp

def mruOf (o : ConfOption) : Option Nat := (valueOf lcpOptMRU 2 o).bind uint16
def magicOf (o : ConfOption) : Option Nat := (valueOf lcpOptMagic 4 o).bind uint32

def adopted (l : Lcp) (opts : List ConfOption) : Lcp :=
  { l with localConfig := { l.localConfig with
      mru := (lastValue mruOf opts).getD l.localConfig.mru
      magic := (lastValue magicOf opts).getD l.localConfig.magic } }

theorem adoptOption_eq (l : Lcp) (o : ConfOption) : l.adoptOption o = some (l.adopted [o]) := by
  simp only [adopted, lastValue, List.reverse_singleton, List.findSome?_singleton]
  unfold adoptOption mruOf magicOf valueOf
  by_cases hmru : o.type = lcpOptMRU
  · by_cases hlen : o.data.length = 2
    · obtain ⟨mru, h⟩ := exists_uint16 (b := o.data) (by omega)
      simp [hmru, hlen, h, lcpOptMagic, lcpOptMRU]
    · simp [hmru, hlen, lcpOptMagic, lcpOptMRU]
  · by_cases hmagic : o.type = lcpOptMagic ∧ o.data.length = 4
    · obtain ⟨magic, h⟩ := exists_uint32 (b := o.data) (by omega)
      simp [hmagic, h, lcpOptMagic, lcpOptMRU, setMagic]
    · by_cases htype : o.type = lcpOptMagic <;> simp_all [lcpOptMagic, lcpOptMRU]

instance : Adopts Lcp where
  Has l opts := (∀ mru ∈ lastValue mruOf opts, mru = l.localConfig.mru) ∧
    ∀ magic ∈ lastValue magicOf opts, magic = l.localConfig.magic
  processConfAck_eq_self_iff l opts := by
    rw [show processConfAck l opts = _ from foldlM_adopt adopted (fun _ => rfl) adoptOption_eq
      (fun l o opts => by simp [adopted, lastValue]) l opts, ← getD_eq_self_iff, ← getD_eq_self_iff]
    obtain ⟨⟨_, _, _, _, _⟩, _, _⟩ := l
    simp [adopted]

end Lcp

namespace Ipcp

def adopted (i : Ipcp) (opts : List ConfOption) : Ipcp :=
  { i with localConfig := { i.localConfig with
      address := (lastValue (valueOf ipcpOptAddress 4) opts).getD i.localConfig.address
      primaryDNS := (lastValue (valueOf ipcpOptPrimaryDNS 4) opts).getD i.localConfig.primaryDNS
      secondaryDNS :=
        (lastValue (valueOf ipcpOptSecondaryDNS 4) opts).getD i.localConfig.secondaryDNS } }

theorem adoptOption_eq (i : Ipcp) (o : ConfOption) : i.adoptOption o = some (i.adopted [o]) := by
  simp only [adopted, lastValue, List.reverse_singleton, List.findSome?_singleton]
  unfold adoptOption valueOf
  repeat' split
  all_goals simp_all [ipcpOptAddress, ipcpOptPrimaryDNS, ipcpOptSecondaryDNS]

instance : Adopts Ipcp where
  Has i opts := (∀ ip ∈ lastValue (valueOf ipcpOptAddress 4) opts, ip = i.localConfig.address) ∧
    (∀ ip ∈ lastValue (valueOf ipcpOptPrimaryDNS 4) opts, ip = i.localConfig.primaryDNS) ∧
    ∀ ip ∈ lastValue (valueOf ipcpOptSecondaryDNS 4) opts, ip = i.localConfig.secondaryDNS
  processConfAck_eq_self_iff i opts := by
    rw [show processConfAck i opts = _ from foldlM_adopt adopted (fun _ => rfl) adoptOption_eq
      (fun i o opts => by simp [adopted, lastValue]) i opts]
    simp only [← getD_eq_self_iff]
    obtain ⟨⟨_, _, _, _⟩, _, _⟩ := i
    simp [adopted]

end Ipcp

namespace Ipv6cp

def adopted (i : Ipv6cp) (opts : List ConfOption) : Ipv6cp :=
  { i with
    localInterfaceID := (lastValue (valueOf ipv6cpOptInterfaceID 8) opts).getD i.localInterfaceID }

theorem adoptOption_eq (i : Ipv6cp) (o : ConfOption) : i.adoptOption o = some (i.adopted [o]) := by
  simp only [adopted, lastValue, List.reverse_singleton, List.findSome?_singleton]
  unfold adoptOption valueOf
  split <;> rfl

instance : Adopts Ipv6cp where
  Has i opts := ∀ id ∈ lastValue (valueOf ipv6cpOptInterfaceID 8) opts, id = i.localInterfaceID
  processConfAck_eq_self_iff i opts := by
    rw [show processConfAck i opts = _ from foldlM_adopt adopted (fun _ => rfl) adoptOption_eq
      (fun i o opts => by simp [adopted, lastValue]) i opts, ← getD_eq_self_iff]
    obtain ⟨_, _, _, _⟩ := i
    simp [adopted]

end Ipv6cp

/-! ## Received acknowledgements -/

/-- The Configure-Request among the callbacks of an event. -/
def requestOf (acts : List Action) : Option (UInt8 × Bytes) :=
  acts.findSome? fun
    | .send code id data => if code = confReq then some (id, data) else none
    | _ => none

/-- An automaton with the request it has sent last. -/
structure Exchange (H : Type) where
  fsm : Fsm H
  request : Option (UInt8 × Bytes)

namespace Exchange
variable [OptionHandler H] {f : Fsm H} {r : Fsm H × List Action} {x x' : Exchange H}

def next (x : Exchange H) (e : Event) : Option (Exchange H) := do
  let r ← x.fsm.handle e
  return ⟨r.1, (requestOf r.2).or x.request⟩

def Starts (x : Exchange H) : Prop := ∃ h, x = ⟨newFsm h, none⟩

def machine (H : Type) [OptionHandler H] : Machine (Exchange H) Event := .ofNext Starts next

/-- The identifier of the last request; it is zero before the first. -/
def requestID (x : Exchange H) : UInt8 := (x.request.map fst).getD 0

/-- Whether an acknowledgement has the identifier and the options of the last request. -/
def Matches (x : Exchange H) (id : UInt8) (data : Bytes) : Prop :=
  ∃ bytes, x.request = some (id, bytes) ∧ parseOptions data = parseOptions bytes

theorem lastReqID_handle {e : Fsm.Event} (h : f.handle e = some r) :
    r.1.lastReqID = ((requestOf r.2).map fst).getD f.lastReqID := by
  cases e with
  | input code id data =>
    cases moves_input h with
    | rcr =>
      unfold rcrTransition answer
      cases hs : f.state <;> dsimp only <;> repeat' split
      all_goals simp +decide [requestOf, after, goto, scr, scn, sca, scj, sta, irc]
    | rxr =>
      unfold rxrEvent
      split <;> simp +decide [requestOf]
    | unread | stale | ignored => rfl
    | _ =>
      cases hs : f.state <;> simp +decide [hs, requestOf, rcaTransition, rcnTransition, rtrEvent,
        rtaEvent, rxjEvent, rucEvent, after, goto, scr, sta, irc, zrc, str, strRetransmit]
  | _ =>
    cases h
    cases hs : f.state <;> simp +decide [hs, requestOf, up, down, Fsm.open, close, timeout, after,
      goto, scr, str, strRetransmit, irc]
    all_goals split <;> simp +decide

theorem lastReqID_of_reach (h : (machine H).Reach (fun _ _ => True) x) :
    x.fsm.lastReqID = x.requestID := by
  refine h.invariant (fun x => x.fsm.lastReqID = x.requestID) ?_ fun x e x' hx _ hstep => ?_
  · rintro _ ⟨h, rfl⟩
    rfl
  · obtain ⟨r, hr, hstep⟩ := Option.bind_eq_some_iff.mp hstep
    cases hstep
    rw [lastReqID_handle hr, hx]
    cases requestOf r.2 <;> simp [requestID]

theorem confAck_cases {id : UInt8} {data : Bytes} (h : f.handle (.input confAck id data) = some r) :
    id ≠ f.lastReqID ∧ r.1 = f ∨ id = f.lastReqID ∧ ∃ opts hnew,
      parseOptionsOrNil data = some opts ∧ processConfAck f.handler opts = some hnew ∧
        r = rcaTransition { f with handler := hnew } id := by
  cases moves_input h with
  | rca hcode hid hopts hack => exact .inr ⟨hid, _, _, hopts, hack, rfl⟩
  | stale hcode hid => exact .inl ⟨hid, rfl⟩
  | ruc hcode => exact absurd (by decide) hcode
  | ignored hcode => exact absurd hcode (by decide)
  | rcr hcode | unread hcode | rcn hcode | rtr hcode | rta hcode | rxj hcode | rxr hcode =>
    exact absurd hcode (by decide)

def Changes (f f' : Fsm H) : Prop := f'.state ≠ f.state ∨ f'.handler ≠ f.handler

/-- States in which an acknowledgement moves the automaton. -/
def negotiates (s : State) : Bool := s = .reqSent || s = .ackRcvd || s = .ackSent || s = .opened

def start : Exchange Lcp := ⟨newFsm (.new 7), none⟩

end Exchange
end Osvbng.Ppp
