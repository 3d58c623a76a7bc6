import Osvbng.Lib.Run
import Osvbng.Radius.Packet

/-!
# Exchanges with a RADIUS server

One connection serves any number of exchanges at a time. An exchange takes the
next identifier, registers under it, writes its request and waits; the reader
hands each datagram to whichever exchange is registered under the identifier
it carries. Exchanges and readers interleave in any way: taking a registration
and handing over are two steps, and so are returning and clearing.

A pending request also stores the secret, which nothing reads.

`Conn.responses_answer` says when what an exchange returns is the answer to its
own request, and that a subscriber is then accepted or rejected on such an
answer only.
-/

namespace Osvbng.Radius
open Function Option List Lib Lib.Slice Library Machine Bool
variable {lib : Library}

/-- A parsed datagram. The datagram itself is not kept by the program; it says
what the packet was read from. -/
structure Response (lib : Library) where
  datagram : Bytes
  packet : Packet
  parsed : lib.parse datagram = some packet

/-- Where an exchange is. It returns a response or an error, after it has
cleared its registration. -/
inductive Stage (lib : Library) where
  | encoded
  | registered
  | waiting
  | returning (result : Option (Response lib))
  | returned (result : Option (Response lib))

structure Exchange (lib : Library) where
  identifier : UInt8
  /-- The datagram the exchange sends. -/
  request : Bytes
  stage : Stage lib
  /-- The channel of the exchange, which holds one response. -/
  ch : Option (Response lib)

structure Conn (lib : Library) where
  secret : Bytes
  nextID : UInt32
  /-- The exchange registered under an identifier. -/
  pending : UInt8 → Option Nat
  exchanges : List (Exchange lib)
  /-- Responses that readers have matched and not yet handed over. -/
  matched : List (Nat × Response lib)

variable {c c' : Conn lib} {n : Nat} {retries : Nat}
namespace Conn

/-- Puts the Message-Authenticator in, if the request has room for one. -/
def sign (secret raw : Bytes) : Bytes :=
  match findAttr80 raw with
  | none => raw
  | some offset => splice raw offset (Md5.hmac secret raw)

variable (c) (n)

def setStage (stage : Stage lib) : Conn lib :=
  { c with exchanges := c.exchanges.modify n fun e => { e with stage := stage } }

/-- The first part of `exchange`: takes an identifier and encodes. An exchange
that fails to encode returns at once. -/
def start (packet : Packet) : Conn lib :=
  let nextID := c.nextID + 1
  let identifier := nextID.toUInt8
  let c := { c with nextID := nextID }
  match lib.encode { packet with identifier := identifier } c.secret with
  | none => c
  | some raw =>
    { c with exchanges := c.exchanges ++ [⟨identifier, sign c.secret raw, .encoded, none⟩] }

def register : Option (Conn lib) := do
  let e ← c.exchanges[n]?
  match e.stage with
  | .encoded => some { c.setStage n .registered with
      pending := update c.pending e.identifier (some n) }
  | _ => none

def write (ok : Bool) : Option (Conn lib) := do
  let e ← c.exchanges[n]?
  match e.stage with
  | .registered => some (c.setStage n (if ok then .waiting else .returning none))
  | _ => none

def receive : Option (Conn lib) := do
  let e ← c.exchanges[n]?
  match e.stage, e.ch with
  | .waiting, some resp => some (c.setStage n (.returning (some resp)))
  | _, _ => none

def timeout : Option (Conn lib) := do
  let e ← c.exchanges[n]?
  match e.stage with
  | .waiting => some (c.setStage n (.returning none))
  | _ => none

/-- The deferred part of `exchange`. It clears the identifier, whoever is
registered under it by now. -/
def clear : Option (Conn lib) := do
  let e ← c.exchanges[n]?
  match e.stage with
  | .returning result => some { c.setStage n (.returned result) with
      pending := update c.pending e.identifier none }
  | _ => none

variable {n}

def read (raw : Bytes) : Conn lib :=
  match h : lib.parse raw with
  | none => c
  | some packet =>
    match c.pending packet.identifier with
    | none => c
    | some n =>
      { c with
        pending := update c.pending packet.identifier none
        matched := c.matched ++ [(n, ⟨raw, packet, h⟩)] }

/-- A reader hands over; a response too many is dropped. -/
def handOver (i : Nat) : Option (Conn lib) := do
  let (n, resp) ← c.matched[i]?
  some { c with
    matched := c.matched.eraseIdx i
    exchanges := c.exchanges.modify n fun e => { e with ch := e.ch.or (some resp) } }

end Conn

inductive ConnEvent where
  | start (packet : Packet)
  | register (n : Nat)
  | write (n : Nat) (ok : Bool)
  | receive (n : Nat)
  | timeout (n : Nat)
  | clear (n : Nat)
  | read (raw : Bytes)
  | handOver (i : Nat)

namespace Conn
variable (c)

def next : ConnEvent → Option (Conn lib)
  | .start packet => some (c.start packet)
  | .register n => c.register n
  | .write n ok => c.write n ok
  | .receive n => c.receive n
  | .timeout n => c.timeout n
  | .clear n => c.clear n
  | .read raw => some (c.read raw)
  | .handOver i => c.handOver i

def Initial : Prop :=
  c.nextID = 0 ∧ (∀ id, c.pending id = none) ∧ c.exchanges = [] ∧ c.matched = []

def machine (lib : Library) : Machine (Conn lib) ConnEvent := .ofNext Initial next

def returned (n : Nat) : Option (Response lib) :=
  match c.exchanges[n]? with
  | some ⟨_, _, .returned result, _⟩ => result
  | _ => none

def request (n : Nat) : Bytes := (c.exchanges[n]?.map (·.request)).getD []

/-- A datagram that the reader would hand to an exchange answers the request of
that exchange. -/
def Genuine : ConnEvent → Prop
  | .read raw => ∀ packet ∈ lib.parse raw, ∀ n ∈ c.pending packet.identifier,
      Answers raw (c.request n) c.secret
  | _ => True

variable {c}

instance (c : Conn lib) (e : ConnEvent) : Decidable (c.Genuine e) := by
  rcases e <;> dsimp only [Genuine] <;> infer_instance

/-! ## What a connection holds -/

end Conn

def Exchange.Holds (e : Exchange lib) (resp : Response lib) : Prop :=
  e.ch = some resp ∨ e.stage = .returning (some resp) ∨ e.stage = .returned (some resp)

namespace Conn

structure Sound (c : Conn lib) : Prop where
  pending : ∀ id n, c.pending id = some n → n < c.exchanges.length
  matched : ∀ x ∈ c.matched, x.1 < c.exchanges.length ∧
    Answers x.2.datagram (c.request x.1) c.secret
  holds : ∀ (n : Nat) (e : Exchange lib), c.exchanges[n]? = some e → ∀ resp, e.Holds resp →
    Answers resp.datagram e.request c.secret

theorem request_of_getElem? {e : Exchange lib}
    (h : c.exchanges[n]? = some e) : c.request n = e.request := by
  simp [request, h]

theorem Sound.of_initial (h : c.Initial) : c.Sound := by
  obtain ⟨-, hpending, hexchanges, hmatched⟩ := h
  refine ⟨fun id n hn => ?_, fun x hx => ?_, fun n e he => ?_⟩
  · simp [hpending] at hn
  · simp [hmatched] at hx
  · simp [hexchanges] at he

variable (h : c.Sound)
include h

theorem Sound.modify
    {f : Exchange lib → Exchange lib} (hexchanges : c'.exchanges = c.exchanges.modify n f)
    (hsecret : c'.secret = c.secret) (hmatched : ∀ x ∈ c'.matched, x ∈ c.matched)
    (hpending : ∀ id k, c'.pending id = some k → k < c.exchanges.length)
    (hrequest : ∀ e, (f e).request = e.request)
    (hholds : ∀ e, c.exchanges[n]? = some e → ∀ resp, (f e).Holds resp →
      Answers resp.datagram e.request c.secret) : c'.Sound := by
  have hlength : c'.exchanges.length = c.exchanges.length := by
    rw [hexchanges, length_modify]
  have hreq k : c'.request k = c.request k := by
    unfold request
    rw [hexchanges, getElem?_modify]
    cases c.exchanges[k]? with
    | none => rfl
    | some e =>
      by_cases hk : n = k
      · simp [hk, hrequest]
      · simp [hk]
  refine ⟨fun id k hk => hlength ▸ hpending id k hk, fun x hx => ?_, fun k e he resp hresp => ?_⟩
  · rw [hlength, hreq, hsecret]
    exact h.matched x (hmatched x hx)
  · rw [hexchanges, getElem?_modify] at he
    obtain ⟨e₀, he₀, rfl⟩ := map_eq_some_iff.mp he
    rw [hsecret]
    by_cases hk : n = k
    · subst hk
      simp only [if_true] at hresp ⊢
      rw [hrequest]
      exact hholds e₀ he₀ resp hresp
    · simp only [hk, if_false] at hresp ⊢
      exact h.holds k e₀ he₀ resp hresp

theorem Sound.start (packet : Packet) : (c.start packet).Sound := by
  unfold Conn.start
  simp only
  split
  · exact ⟨h.pending, h.matched, h.holds⟩
  · have hreq : ∀ k < c.exchanges.length, ∀ (c' : Conn lib) e,
        c'.exchanges = c.exchanges ++ [e] → c'.request k = c.request k := by
      intro k hk c' e hc'
      unfold request
      rw [hc', getElem?_append_left hk]
    refine ⟨fun id n hn => ?_, fun x hx => ?_, fun n e he resp hresp => ?_⟩
    · have hlt := h.pending id n hn
      simp only [length_append]
      omega
    · obtain ⟨hlt, hanswers⟩ := h.matched x hx
      refine ⟨by simp only [length_append]; omega, ?_⟩
      rw [hreq x.1 hlt _ _ rfl]
      exact hanswers
    · rcases Nat.lt_or_ge n c.exchanges.length with hlt | hge
      · rw [getElem?_append_left hlt] at he
        exact h.holds n e he resp hresp
      · rw [getElem?_append_right hge, getElem?_singleton] at he
        split at he
        · cases he
          rcases hresp with hresp | hresp | hresp <;> cases hresp
        · cases he

theorem Sound.setStage {e : Exchange lib} (he : c.exchanges[n]? = some e) {stage : Stage lib}
    (hstage : ∀ resp, stage = .returning (some resp) ∨ stage = .returned (some resp) →
      e.Holds resp) {pending : UInt8 → Option Nat}
    (hpending : ∀ id k, pending id = some k → k < c.exchanges.length) :
    Sound { c.setStage n stage with pending := pending } := by
  refine h.modify rfl rfl (fun _ hx => hx) hpending (fun _ => rfl) fun e' he' resp hresp => ?_
  rw [he] at he'
  cases he'
  refine h.holds n e he resp ?_
  rcases hresp with hch | hresp
  · exact .inl hch
  · exact hstage resp hresp

theorem Sound.cleared (identifier : UInt8) :
    ∀ id k, update c.pending identifier none id = some k → k < c.exchanges.length := by
  intro id k hk
  rw [update_apply] at hk
  split at hk
  · cases hk
  · exact h.pending id k hk

theorem Sound.register (hs : c.register n = some c') : c'.Sound := by
  obtain ⟨e, he, hs⟩ := bind_eq_some_iff.mp hs
  split at hs
  · cases hs
    refine h.setStage he (by simp) fun id k hk => ?_
    rw [update_apply] at hk
    split at hk
    · cases hk
      exact (List.getElem?_eq_some_iff.mp he).1
    · exact h.pending id k hk
  · cases hs

theorem Sound.write {ok : Bool} (hs : c.write n ok = some c') : c'.Sound := by
  obtain ⟨e, he, hs⟩ := bind_eq_some_iff.mp hs
  split at hs
  · cases hs
    exact h.setStage he (by cases ok <;> simp) h.pending
  · cases hs

theorem Sound.receive (hs : c.receive n = some c') : c'.Sound := by
  obtain ⟨e, he, hs⟩ := bind_eq_some_iff.mp hs
  split at hs
  · rename_i resp _ hch
    cases hs
    refine h.setStage he (fun resp' hresp' => .inl ?_) h.pending
    rcases hresp' with heq | heq <;> cases heq
    exact hch
  · cases hs

theorem Sound.timeout (hs : c.timeout n = some c') : c'.Sound := by
  obtain ⟨e, he, hs⟩ := bind_eq_some_iff.mp hs
  split at hs
  · cases hs
    exact h.setStage he (by simp) h.pending
  · cases hs

theorem Sound.clear (hs : c.clear n = some c') : c'.Sound := by
  obtain ⟨e, he, hs⟩ := bind_eq_some_iff.mp hs
  split at hs
  · rename_i result hstage
    cases hs
    refine h.setStage he (fun resp hresp => .inr (.inl ?_)) (h.cleared e.identifier)
    rcases hresp with heq | heq <;> cases heq
    exact hstage
  · cases hs

theorem Sound.read {raw : Bytes} (hok : c.Genuine (.read raw)) : (c.read raw).Sound := by
  unfold Conn.read
  split
  · exact h
  · rename_i packet hparse
    split
    · exact h
    · rename_i n hn
      refine ⟨h.cleared packet.identifier, fun x hx => ?_, h.holds⟩
      rcases mem_append.mp hx with hx | hx
      · exact h.matched x hx
      · rw [mem_singleton] at hx
        subst hx
        exact ⟨h.pending _ n hn, hok packet hparse n hn⟩

theorem Sound.handOver {i : Nat} (hs : c.handOver i = some c') : c'.Sound := by
  obtain ⟨⟨n, resp⟩, hi, hs⟩ := bind_eq_some_iff.mp hs
  cases hs
  have hmem := mem_of_getElem? hi
  refine h.modify rfl rfl (fun x hx => mem_of_mem_eraseIdx hx) h.pending (fun _ => rfl)
    fun e he resp' hresp' => ?_
  rcases hresp' with hch | hstage
  · have hcases : e.ch = some resp' ∨ resp = resp' := by
      cases hold : e.ch with
      | none => exact .inr (by simpa [hold] using hch)
      | some old => exact .inl (by simpa [hold] using hch)
    rcases hcases with hold | rfl
    · exact h.holds n e he resp' (.inl hold)
    · rw [← request_of_getElem? he]
      exact (h.matched _ hmem).2
  · exact h.holds n e he resp' (.inr hstage)

theorem Sound.next {e : ConnEvent} (hok : c.Genuine e) (hs : c.next e = some c') : c'.Sound := by
  cases e with
  | start packet =>
    cases hs
    exact h.start packet
  | register n => exact h.register hs
  | write n ok => exact h.write hs
  | receive n => exact h.receive hs
  | timeout n => exact h.timeout hs
  | clear n => exact h.clear hs
  | read raw =>
    cases hs
    exact h.read hok
  | handOver i => exact h.handOver hs

omit h

theorem sound_of_reach (h : (machine lib).Reach Genuine c) : c.Sound :=
  h.invariant Sound (fun _ hinit => .of_initial hinit) fun _ _ _ hsound hok hs =>
    hsound.next hok hs

theorem Sound.returned (h : c.Sound) {resp : Response lib}
    (hresp : c.returned n = some resp) : Answers resp.datagram (c.request n) c.secret := by
  unfold Conn.returned at hresp
  split at hresp
  · rename_i identifier request result ch he
    rw [request_of_getElem? he]
    exact h.holds n _ he resp (.inr (.inr (by rw [hresp])))
  · cases hresp

end Conn

/-! ## Authentication -/

/-- The first response of a server that is not dead, in at most `retries`
attempts each; `exchange rc i` is what attempt `i` on server `rc` returns. -/
def sendAuthWithFailover {I : Type} (retries : Nat) (authConns : List I) (isDead : I → Bool)
    (exchange : I → Nat → Option (Response lib)) : Option (Response lib) :=
  (authConns.filter fun rc => !isDead rc).findSome? fun rc =>
    (range retries).findSome? (exchange rc)

/-- Whether a subscriber is allowed; `none` is an error. Without a user name no
server is asked. -/
def authenticate {I : Type} (usernameFallback : Bool) (retries : Nat) (authConns : List I)
    (isDead : I → Bool) (exchange : I → Nat → Option (Response lib)) : Option Bool :=
  if usernameFallback then some false
  else
    match sendAuthWithFailover retries authConns isDead exchange with
    | none => none
    | some resp =>
      if resp.packet.code = codeAccessReject then some false
      else if resp.packet.code ≠ codeAccessAccept then none
      else some true

theorem exchange_of_sendAuthWithFailover {I : Type} {authConns : List I}
    {isDead : I → Bool} {exchange : I → Nat → Option (Response lib)} {resp : Response lib}
    (h : sendAuthWithFailover retries authConns isDead exchange = some resp) :
    ∃ rc i, exchange rc i = some resp := by
  obtain ⟨rc, -, hrc⟩ := exists_of_findSome?_eq_some h
  obtain ⟨i, -, hi⟩ := exists_of_findSome?_eq_some hrc
  exact ⟨rc, i, hi⟩

theorem exchange_of_authenticate {I : Type} {authConns : List I}
    {isDead : I → Bool} {exchange : I → Nat → Option (Response lib)} {allowed : Bool}
    (h : authenticate false retries authConns isDead exchange = some allowed) :
    ∃ rc i resp, exchange rc i = some resp ∧
      resp.packet.code = if allowed then codeAccessAccept else codeAccessReject := by
  simp only [authenticate, false_eq_true, if_false] at h
  split at h
  · cases h
  · rename_i resp hsend
    obtain ⟨rc, i, hi⟩ := exchange_of_sendAuthWithFailover hsend
    refine ⟨rc, i, resp, hi, ?_⟩
    split at h
    · cases h
      assumption
    · obtain ⟨hcode, h⟩ := ite_none_left_eq_some.mp h
      cases h
      exact not_not.mp hcode

namespace Conn

/-- In every run whose datagrams are genuine, an exchange returns an answer to
its own request, and a subscriber is accepted or rejected on an answer to a
request of one of its own attempts. -/
theorem responses_answer {I : Type} {conns : I → Conn lib}
    (h : ∀ rc, (machine lib).Reach Genuine (conns rc)) :
    (∀ rc n resp, (conns rc).returned n = some resp →
      Answers resp.datagram ((conns rc).request n) (conns rc).secret) ∧
    ∀ retries authConns isDead (attempt : I → Nat → Nat) allowed,
      authenticate false retries authConns isDead
          (fun rc i => (conns rc).returned (attempt rc i)) = some allowed →
        ∃ rc i resp, (conns rc).returned (attempt rc i) = some resp ∧
          resp.packet.code = (if allowed then codeAccessAccept else codeAccessReject) ∧
          Answers resp.datagram ((conns rc).request (attempt rc i)) (conns rc).secret := by
  have hreturned rc n resp : (conns rc).returned n = some resp →
      Answers resp.datagram ((conns rc).request n) (conns rc).secret :=
    fun hresp => (sound_of_reach (h rc)).returned hresp
  refine ⟨hreturned, fun retries authConns isDead attempt allowed hauth => ?_⟩
  obtain ⟨rc, i, resp, hresp, hcode⟩ := exchange_of_authenticate hauth
  exact ⟨rc, i, resp, hresp, hcode, hreturned rc _ resp hresp⟩

def fresh : Conn reference := ⟨[0x73], 0, fun _ => none, [], []⟩

def accessRequest : Packet :=
  ⟨codeAccessRequest, 0, replicate 16 7, [(1, [0x61]), (80, replicate 16 0)]⟩

def accept (authenticator : Bytes) : Bytes := [codeAccessAccept, 1, 0, 20] ++ authenticator

def exchangeOf (raw : Bytes) : List ConnEvent :=
  [.start accessRequest, .register 0, .write 0 true, .read raw, .handOver 0, .receive 0, .clear 0]

def accepted (c : Conn lib) : Bool :=
  authenticate false 1 [()] (fun _ => false) (fun _ _ => c.returned 0) = some true

/-- The server, which knows the secret, accepts. -/
theorem responses_answer_accepted :
    ∃ c : Conn reference, c.accepted = true ∧ ∃ resp, c.returned 0 = some resp ∧
      Answers resp.datagram (c.request 0) c.secret := by
  obtain ⟨c, hreach, haccepted⟩ : ∃ c : Conn reference, (machine reference).Reach Genuine c ∧
      c.accepted = true :=
    exists_reach_of_run (s := fresh) ⟨rfl, fun _ => rfl, rfl, rfl⟩
      (exchangeOf (accept (Md5.sum (accept (replicate 16 7) ++ [0x73])))) (by decide +kernel)
  have hconns : ∀ rc : Unit, (machine reference).Reach Genuine ((fun _ => c) rc) :=
    fun _ => hreach
  obtain ⟨rc, i, resp, hresp, -, hanswers⟩ := (responses_answer hconns).2 1 [()]
    (fun _ => false) (fun _ _ => 0) true (by simpa [accepted] using haccepted)
  exact ⟨c, haccepted, resp, hresp, hanswers⟩

/-- Sixteen zero bytes do for an authenticator. -/
theorem forged_accept_accepted :
    ∃ c : Conn reference, (machine reference).Reach (fun _ _ => True) c ∧
      c.accepted = true ∧ ∃ resp, c.returned 0 = some resp ∧
        ¬Answers resp.datagram (c.request 0) c.secret := by
  obtain ⟨c, hreach, hc⟩ : ∃ c : Conn reference,
      (machine reference).Reach (fun _ _ => True) c ∧ (c.accepted &&
        (c.returned 0).any fun resp => !decide (Answers resp.datagram (c.request 0) c.secret)) =
          true :=
    exists_reach_of_run (s := fresh) ⟨rfl, fun _ => rfl, rfl, rfl⟩
      (exchangeOf (accept (replicate 16 0))) (by decide +kernel)
  rw [and_eq_true] at hc
  refine ⟨c, hreach, hc.1, ?_⟩
  cases hresp : c.returned 0 with
  | none => simp [hresp] at hc
  | some resp => exact ⟨resp, rfl, by simpa [hresp] using hc.2⟩

end Conn
end Osvbng.Radius
