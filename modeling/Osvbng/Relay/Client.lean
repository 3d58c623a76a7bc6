import Osvbng.Lib.Run
import Osvbng.Lib.Slice

/-!
# The DHCP relay client

Requests that are forwarded to servers of the operator, and the sockets their
replies come back on. A call takes a channel from a pool that both families share,
registers it under the key of its request with the socket of one server after the
other, and waits for a reply, a timeout or the end of the client. When it is done
it empties the channel and puts it back.

A socket has a reader. It looks up the channel of a reply and removes the
registration under a lock, and sends without it: `sending` is what the reader has
looked up and not sent yet. A channel has room for one reply, and a send to a full
one is dropped.

Which servers count as dead, the counters and the texts of the log are left out: a
call may pass over any server.
-/

namespace Osvbng.Relay
open Function Lib Lib.Slice Option List

inductive Family where
  | v4 | v6
deriving DecidableEq

structure BindingKey (N : Type) where
  family : Family
  vrf : N
  sourceIP : Option N
  localPort : Nat
deriving DecidableEq

/-! ## Keys -/

/-- `v4PendingKey` and `v6PendingKey`. -/
inductive PendingKey where
  | v4 (xid : UInt32) (mac : Bytes)
  | v6 (txnID : Bytes) (peerAddr : Bytes)
deriving DecidableEq

def PendingKey.family : PendingKey → Family
  | .v4 _ _ => .v4
  | .v6 _ _ => .v6

def dhcpv6MsgRelayReply : UInt8 := 13

def dhcpv6OptRelayMessage : Nat := 9

def dhcpv6RelayHeaderLen : Nat := 34

inductive Request where
  | v4 (pkt : Bytes) (xid : UInt32)
  | v6 (pkt : Bytes) (txnID : Bytes)

/-- The key of a request. A packet that is too short leaves the address zero. -/
def Request.key : Request → PendingKey
  | .v4 pkt xid =>
    .v4 xid (if 34 ≤ pkt.length then (pkt.take 34).drop 28 else replicate 6 0)
  | .v6 pkt txnID =>
    .v6 txnID
      (if dhcpv6RelayHeaderLen ≤ pkt.length then (pkt.take 34).drop 18
        else replicate 16 0)

/-- The loop of `extractRelayMessage` over the options. -/
def findRelayMessage : (fuel : Nat) → Bytes → Option Bytes
  | 0, _ => none
  | fuel + 1, options =>
    if options.length < 4 then none
    else
      let optCode := beNat (options.take 2)
      let optLen := beNat ((options.drop 2).take 2)
      if options.length < 4 + optLen then none
      else if optCode = dhcpv6OptRelayMessage then some ((options.drop 4).take optLen)
      else findRelayMessage fuel (options.drop (4 + optLen))

def extractRelayMessage (pkt : Bytes) : Option Bytes :=
  if pkt.length < dhcpv6RelayHeaderLen then none
  else findRelayMessage pkt.length (pkt.drop dhcpv6RelayHeaderLen)

variable (raw : Bytes)

def xidOf : UInt32 :=
  (raw.getD 4 0).toUInt32 <<< 24 ||| (raw.getD 5 0).toUInt32 <<< 16 |||
    (raw.getD 6 0).toUInt32 <<< 8 ||| (raw.getD 7 0).toUInt32

/-- The key that `dispatchV4` finds in a message. -/
def replyKeyV4 : Option PendingKey :=
  if raw.length < 34 then none else some (.v4 (xidOf raw) ((raw.take 34).drop 28))

/-- The key that `dispatchV6` finds. Only a relay reply has a peer address. -/
def replyKeyV6 : Option PendingKey :=
  if raw.length < dhcpv6RelayHeaderLen then none
  else if raw.getD 0 0 = dhcpv6MsgRelayReply then
    let inner := (extractRelayMessage raw).getD []
    if inner.length < 4 then none
    else some (.v6 ((inner.take 4).drop 1) ((raw.take 34).drop 18))
  else some (.v6 ((raw.take 4).drop 1) (replicate 16 0))

def replyKey : Family → Bytes → Option PendingKey
  | .v4 => replyKeyV4
  | .v6 => replyKeyV6

def Carries (key : PendingKey) : Prop := replyKey key.family raw = some key
deriving Decidable

theorem carries_of_replyKey {family : Family} {raw : Bytes} {key : PendingKey}
    (h : replyKey family raw = some key) : Carries raw key := by
  cases family with
  | v4 =>
    have hkey : ∃ xid mac, key = .v4 xid mac := by
      simp only [replyKey, replyKeyV4] at h
      split at h
      · cases h
      · exact ⟨_, _, (some.inj h).symm⟩
    obtain ⟨xid, mac, rfl⟩ := hkey
    exact h
  | v6 =>
    have hkey : ∃ txnID peerAddr, key = .v6 txnID peerAddr := by
      simp only [replyKey, replyKeyV6] at h
      split at h
      · cases h
      · split at h
        · split at h
          · cases h
          · exact ⟨_, _, (some.inj h).symm⟩
        · exact ⟨_, _, (some.inj h).symm⟩
    obtain ⟨txnID, peerAddr, rfl⟩ := hkey
    exact h

/-! ## Sockets, calls and channels -/

/-- `socketGroup`, with the two maps of pending requests in one. -/
structure SocketGroup (N : Type) where
  key : BindingKey N
  closed : Bool
  pending : List (PendingKey × Nat)
  sending : Option (Nat × Bytes)

namespace SocketGroup
variable {N : Type}

def new (key : BindingKey N) : SocketGroup N := ⟨key, false, [], none⟩

variable (g : SocketGroup N)

/-- `cancelV4` and `cancelV6`. -/
def cancel (key : PendingKey) : SocketGroup N :=
  { g with pending := g.pending.filter (·.1 ≠ key) }

/-- `registerV4` and `registerV6`; an earlier registration of the key is replaced. -/
def register (key : PendingKey) (ch : Nat) : SocketGroup N :=
  { g with pending := (key, ch) :: (g.cancel key).pending }

/-- The locked part of `dispatchV4` and `dispatchV6`. -/
def dispatch (raw : Bytes) : SocketGroup N :=
  match replyKey g.key.family raw with
  | none => g
  | some key =>
    match g.pending.find? (·.1 = key) with
    | none => g
    | some (_, ch) => { g.cancel key with sending := some (ch, raw) }

end SocketGroup

inductive ForwardError where
  | allDead | clientClose
deriving DecidableEq

/-- Where a call is: at the head of the loop over the servers, before its packet is
written, in the `select`, before the deferred drain, before the channel is put
back, and done. -/
inductive Stage where
  | next
  | registered (group : Nat)
  | waiting (group : Nat)
  | leaving (result : Except ForwardError Bytes)
  | drained (result : Except ForwardError Bytes)
  | returned (result : Except ForwardError Bytes)

namespace Stage

def isOpen : Stage → Bool
  | .drained _ | .returned _ => false
  | _ => true

def isActive : Stage → Bool
  | .returned _ => false
  | _ => true

def result : Stage → Option (Except ForwardError Bytes)
  | .leaving r | .drained r | .returned r => some r
  | _ => none

end Stage

/-- A call of `Forward4` or `Forward6`, with the servers it has not tried. -/
structure ForwardCall (N : Type) where
  request : Request
  replyCh : Nat
  servers : List (BindingKey N)
  stage : Stage

structure Client (N : Type) where
  closed : Bool
  /-- The open sockets; every socket there ever was. -/
  groups : BindingKey N → Option Nat
  opened : List (SocketGroup N)
  /-- What is in each channel. -/
  channel : Nat → Option Bytes
  nextChannel : Nat
  replyPool : List Nat
  calls : Nat → Option (ForwardCall N)
  nextCall : Nat

inductive Event (N : Type) where
  /-- A call takes the channel number `pick` of the pool, or a new one. -/
  | forward (request : Request) (servers : List (BindingKey N)) (pick : Option Nat)
  /-- The next server is dead, or its socket cannot be opened. -/
  | skip (id : Nat)
  | register (id : Nat)
  | write (id : Nat)
  | writeFails (id : Nat)
  | receive (id : Nat)
  | timeout (id : Nat)
  | abort (id : Nat)
  | exhausted (id : Nat)
  /-- The two halves of the deferred function. -/
  | drain (id : Nat)
  | put (id : Nat)
  /-- The pool forgets a channel. -/
  | discard (i : Nat)
  /-- The reader of a socket has a message; sends what it has looked up. -/
  | dispatch (group : Nat) (raw : Bytes)
  | send (group : Nat)
  | markClosed (group : Nat)
  | close

namespace Client
variable {N : Type} [DecidableEq N] (c : Client N)

def getChannel : Option Nat → Option (Nat × Client N)
  | none => some (c.nextChannel,
      { c with
        channel := update c.channel c.nextChannel none
        nextChannel := c.nextChannel + 1 })
  | some i => c.replyPool[i]?.map fun ch => (ch, { c with replyPool := c.replyPool.eraseIdx i })

def forward (request : Request) (servers : List (BindingKey N))
    (pick : Option Nat) : Option (Client N) :=
  (c.getChannel pick).map fun (ch, c) =>
    { c with
      calls := update c.calls c.nextCall (some ⟨request, ch, servers, .next⟩)
      nextCall := c.nextCall + 1 }

variable (id : Nat)

def setCall (call : ForwardCall N) : Client N :=
  { c with calls := update c.calls id (some call) }

def setStage (call : ForwardCall N) (stage : Stage) : Client N :=
  c.setCall id { call with stage := stage }

def setGroup (i : Nat) (f : SocketGroup N → SocketGroup N) : Client N :=
  { c with opened := c.opened.modify i f }

def setChannel (ch : Nat) (content : Option Bytes) : Client N :=
  { c with channel := update c.channel ch content }

/-- The socket of a binding: the open one, or a new one unless the client is
closed. -/
def groupFor (key : BindingKey N) : Option (Nat × Client N) :=
  let current := (c.groups key).filter fun i => (c.opened[i]?).any fun g => !g.closed
  match current with
  | some i => some (i, c)
  | none =>
    if c.closed then none
    else
      some (c.opened.length,
        { c with
          groups := update c.groups key (some c.opened.length)
          opened := c.opened ++ [.new key] })

def skip : Option (Client N) := do
  let call ← c.calls id
  match call.stage, call.servers with
  | .next, _ :: servers => some (c.setCall id { call with servers := servers })
  | _, _ => none

def register : Option (Client N) := do
  let call ← c.calls id
  match call.stage, call.servers with
  | .next, key :: servers =>
    (c.groupFor key).map fun (i, c) =>
      (c.setGroup i (·.register call.request.key call.replyCh)).setCall id
        { call with servers := servers, stage := .registered i }
  | _, _ => none

def write : Option (Client N) := do
  let call ← c.calls id
  match call.stage with
  | .registered i =>
    if (c.opened[i]?).any fun g => !g.closed then some (c.setStage id call (.waiting i))
    else none
  | _ => none

/-- The registration of a call is cancelled and the call goes on at `stage`. -/
def giveUp (call : ForwardCall N) (i : Nat) (stage : Stage) : Client N :=
  (c.setGroup i (·.cancel call.request.key)).setStage id call stage

def writeFails : Option (Client N) := do
  let call ← c.calls id
  match call.stage with
  | .registered i => some (c.giveUp id call i .next)
  | _ => none

def receive : Option (Client N) := do
  let call ← c.calls id
  match call.stage, c.channel call.replyCh with
  | .waiting _, some reply =>
    some ((c.setChannel call.replyCh none).setStage id call (.leaving (.ok reply)))
  | _, _ => none

def timeout : Option (Client N) := do
  let call ← c.calls id
  match call.stage with
  | .waiting i => some (c.giveUp id call i .next)
  | _ => none

def abort : Option (Client N) := do
  let call ← c.calls id
  match call.stage with
  | .waiting i =>
    if c.closed then some (c.giveUp id call i (.leaving (.error .clientClose))) else none
  | _ => none

def exhausted : Option (Client N) := do
  let call ← c.calls id
  match call.stage, call.servers with
  | .next, [] => some (c.setStage id call (.leaving (.error .allDead)))
  | _, _ => none

def drain : Option (Client N) := do
  let call ← c.calls id
  match call.stage with
  | .leaving r => some ((c.setChannel call.replyCh none).setStage id call (.drained r))
  | _ => none

def put : Option (Client N) := do
  let call ← c.calls id
  match call.stage with
  | .drained r =>
    some { c.setStage id call (.returned r) with
      replyPool := c.replyPool ++ [call.replyCh] }
  | _ => none

variable (i : Nat)

def discard : Client N :=
  { c with replyPool := c.replyPool.eraseIdx i }

/-- The reader takes the next message when it is done with the one before. -/
def dispatch (raw : Bytes) : Option (Client N) := do
  let g ← c.opened[i]?
  if g.sending.isNone then some (c.setGroup i (·.dispatch raw)) else none

def send : Option (Client N) := do
  let g ← c.opened[i]?
  let (ch, reply) ← g.sending
  let c := c.setGroup i fun g => { g with sending := none }
  some (if (c.channel ch).isNone then c.setChannel ch (some reply) else c)

/-- `markClosed` and `dropGroup`. -/
def markClosed : Option (Client N) := do
  let g ← c.opened[i]?
  if g.closed then some c
  else
    let c := c.setGroup i fun g => { g with closed := true }
    some (if ((c.groups g.key).bind (c.opened[·]?)).any (·.closed) then
      { c with groups := update c.groups g.key none }
    else c)

def close : Client N :=
  { c with
    closed := true
    groups := fun _ => none
    opened := c.opened.mapIdx fun i g =>
      if c.groups g.key = some i then { g with closed := true } else g }

def next : Event N → Option (Client N)
  | .forward request servers pick => c.forward request servers pick
  | .skip id => c.skip id
  | .register id => c.register id
  | .write id => c.write id
  | .writeFails id => c.writeFails id
  | .receive id => c.receive id
  | .timeout id => c.timeout id
  | .abort id => c.abort id
  | .exhausted id => c.exhausted id
  | .drain id => c.drain id
  | .put id => c.put id
  | .discard i => some (c.discard i)
  | .dispatch i raw => c.dispatch i raw
  | .send i => c.send i
  | .markClosed i => c.markClosed i
  | .close => some c.close

structure Initial (c : Client N) : Prop where
  opened : c.opened = []
  channel : ∀ ch, c.channel ch = none
  replyPool : c.replyPool = []
  calls : ∀ id, c.calls id = none

def machine (N : Type) [DecidableEq N] : Machine (Client N) (Event N) := .ofNext Initial next

/-- Every reply that a call returns carries the identifiers of its own request. -/
def Matched : Prop :=
  ∀ id call reply, c.calls id = some call → call.stage.result = some (.ok reply) →
    Carries reply call.request.key

end Client
end Osvbng.Relay
