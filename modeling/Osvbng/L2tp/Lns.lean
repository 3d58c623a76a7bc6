import Osvbng.L2tp.Component
import Osvbng.Pppoe.Session

/-!
# Sessions that end at the LNS

The PPP side of the sessions of an LNS: the automata behind a session, its
authentication against AAA and its addresses, next to the control plane that
creates sessions and removes them.

A session is a number; the control plane's tables lead to the session that is
current under an id of a tunnel. A session that has been removed stays an object,
with its timers. `granted` records what was allocated for a session, `dataplane`
the sessions the dataplane has: no call of the source takes one out.
-/

namespace Osvbng.L2tp.Lns
open Function Lib Lib.Slice Lib.NetIP Ppp Allocator Component Pppoe.Host
open Pppoe (AllocContext Attributes AuthType Credentials ServiceGroup)

structure SessionID where
  tunnel : TunnelKey
  id : UInt16
deriving DecidableEq

structure IPv4Profile where
  gateway : Option IP
  dns : List (Option IP)

/-- What was allocated for a session, by pool and key. -/
structure Granted (P : Type) where
  v4 : P → Addr → Bool
  iana : P → Addr → Bool
  pd : P → Nat → Bool

/-- Adds the keys whose owner has changed from one bank to the next. -/
def grantedBy {P N A R K : Type} [LeasePool A R K SessionID] (old : P → K → Bool)
    (b b' : Bank P N A) (pool : P) (k : K) : Bool :=
  old pool k || decide (b'.owner pool k ≠ b.owner pool k)

structure Session (P N Q : Type) where
  sessionID : SessionID
  /-- The number of its tunnel. -/
  tunnel : Nat
  swIfIndex : UInt32
  programmedInVPP : Bool
  /-- The PPP stack has been set up. -/
  ready : Bool
  phase : Phase
  lcp : Fsm Lcp
  ipcp : Fsm Ipcp
  ipv6cp : Fsm Ipv6cp
  ipcpOpen : Bool
  ipv6cpOpen : Bool
  lifecyclePublished : Bool
  ipv4Address : IP
  ipv6Address : IP
  ipv6Prefix : Option IPNet
  username : Bytes
  attributes : Attributes N
  allocCtx : Option (AllocContext N)
  lcpMagic : Nat
  chapChallenge : Bytes
  chapID : UInt8
  chapRetryTimer : Bool
  chapRetryCount : Nat
  pendingAuthRequestID : Option Q
  pendingAuthType : Option AuthType
  pendingPAPID : UInt8
  pendingCHAPID : UInt8
  granted : Granted P

structure Env (N Q : Type) where
  /-- Drawn at random when the PPP stack is set up. -/
  magic : Nat
  ipv6cp : Ipv6cp
  requestID : Q
  challenge : Bytes
  localHostname : Bytes
  /-- Whether an event bus is wired. -/
  eventBus : Bool
  ipv4Profile : Option N
  ipv6Profile : Option N
  resolveServiceGroup : Attributes N → ServiceGroup N
  profiles : N → Option IPv4Profile

inductive Effect (Q : Type) where
  | frame (proto : UInt16) (code id : UInt8) (data : Bytes)
  | aaaRequest (requestID : Q) (username : Bytes) (credentials : Credentials)
  /-- `programSessionVPP` on the interface of the session. -/
  | program (swIfIndex : UInt32) (ipv4 ipv6 : IP) (pfx : Option IPNet)
  | lifecycleActive

def Session.new {P N Q : Type} (sessionID : SessionID) (tunnel : Nat) (swIfIndex : UInt32)
    (programmedInVPP : Bool) (env : Env N Q) : Session P N Q where
  sessionID := sessionID
  tunnel := tunnel
  swIfIndex := swIfIndex
  programmedInVPP := programmedInVPP
  ready := false
  phase := .dead
  lcp := Pppoe.newLCP env.magic
  ipcp := newFsm Ipcp.new
  ipv6cp := newFsm env.ipv6cp
  ipcpOpen := false
  ipv6cpOpen := false
  lifecyclePublished := false
  ipv4Address := []
  ipv6Address := []
  ipv6Prefix := none
  username := []
  attributes := .empty
  allocCtx := none
  lcpMagic := 0
  chapChallenge := []
  chapID := 0
  chapRetryTimer := false
  chapRetryCount := 0
  pendingAuthRequestID := none
  pendingAuthType := none
  pendingPAPID := 0
  pendingCHAPID := 0
  granted := ⟨fun _ _ => false, fun _ _ => false, fun _ _ => false⟩

structure Host (P N Q : Type) where
  session : Session P N Q
  registry : Registry P N SessionID
  out : List (Effect Q)

namespace Host
variable {P N Q : Type} [DecidableEq P] [DecidableEq N] [DecidableEq Q] (env : Env N Q)

def emit (e : Effect Q) (h : Host P N Q) : Host P N Q := { h with out := h.out ++ [e] }

def modify (f : Session P N Q → Session P N Q) (h : Host P N Q) : Host P N Q :=
  { h with session := f h.session }

/-! ## Network control protocols -/

variable (h : Host P N Q)

def programSessionVPP : Host P N Q :=
  if h.session.swIfIndex = 0 then h
  else h.emit (.program h.session.swIfIndex h.session.ipv4Address h.session.ipv6Address
    h.session.ipv6Prefix)

def checkSessionOpen : Host P N Q :=
  if h.session.phase = .network ∧ (h.session.ipcpOpen ∨ h.session.ipv6cpOpen) ∧
      h.session.lifecyclePublished = false then
    (h.modify fun s => { s with phase := .open, lifecyclePublished := true }).programSessionVPP.emit
      .lifecycleActive
  else h

def onIPCPUp : Host P N Q :=
  (h.modify fun s =>
    { s with ipv4Address := s.ipcp.handler.peerConfig.address, ipcpOpen := true }).checkSessionOpen

def onIPCPDown : Host P N Q := h.modify fun s => { s with ipcpOpen := false }

def onIPv6CPUp : Host P N Q :=
  (h.modify fun s => { s with ipv6cpOpen := true }).checkSessionOpen

def onIPv6CPDown : Host P N Q := h.modify fun s => { s with ipv6cpOpen := false }

def ipcpAction : Action → Host P N Q
  | .send code id data => h.emit (.frame protoIPCP code id data)
  | .layerUp => h.onIPCPUp
  | .layerDown => h.onIPCPDown
  | .layerStarted | .layerFinished => h

def ipv6cpAction : Action → Host P N Q
  | .send code id data => h.emit (.frame protoIPv6CP code id data)
  | .layerUp => h.onIPv6CPUp
  | .layerDown => h.onIPv6CPDown
  | .layerStarted | .layerFinished => h

def applyIPCP (r : Fsm Ipcp × List Action) : Host P N Q :=
  r.2.foldl ipcpAction (h.modify fun s => { s with ipcp := r.1 })

def applyIPv6CP (r : Fsm Ipv6cp × List Action) : Host P N Q :=
  r.2.foldl ipv6cpAction (h.modify fun s => { s with ipv6cp := r.1 })

/-! ## Addresses -/

def allocateIPv4 : Host P N Q :=
  match h.session.allocCtx with
  | none => h
  | some ctx =>
    match ctx.profileName with
    | none => h
    | some profile =>
      match h.registry.allocateFromProfile profile ctx.poolOverride ctx.vrf h.session.sessionID with
      | none => h
      | some (ip, _, registry) =>
        let granted := { h.session.granted with
          v4 := grantedBy h.session.granted.v4 h.registry.v4 registry.v4 }
        { h with
          registry := registry
          session := { h.session with ipv4Address := ip, granted := granted } }

def allocateIANA : Host P N Q :=
  match h.session.allocCtx with
  | none => h
  | some ctx =>
    match ctx.ipv6ProfileName with
    | none => h
    | some profile =>
      match h.registry.allocateIANAFromProfile profile ctx.ianaPoolOverride ctx.vrf
        h.session.sessionID with
      | none => h
      | some (ip, _, registry) =>
        let granted := { h.session.granted with
          iana := grantedBy h.session.granted.iana h.registry.iana registry.iana }
        { h with
          registry := registry
          session := { h.session with ipv6Address := ip, granted := granted } }

def allocatePD : Host P N Q :=
  match h.session.allocCtx with
  | none => h
  | some ctx =>
    match ctx.ipv6ProfileName with
    | none => h
    | some profile =>
      match h.registry.allocatePDFromProfile profile ctx.pdPoolOverride ctx.vrf
        h.session.sessionID with
      | none => h
      | some (pfx, _, registry) =>
        let granted := { h.session.granted with
          pd := grantedBy h.session.granted.pd h.registry.pd registry.pd }
        { h with
          registry := registry
          session := { h.session with ipv6Prefix := some pfx, granted := granted } }

variable (s : Session P N Q)

/-- The gateway and the name servers of the profile, where they parse. -/
def applyIPv4ProfileToIPCP : Session P N Q :=
  match (s.allocCtx.bind (·.profileName)).bind env.profiles with
  | none => s
  | some profile =>
    let ipcp := match profile.gateway with
      | none => s.ipcp.handler
      | some gw => s.ipcp.handler.setAddress gw
    let dns1 := profile.dns[0]?.join
    let dns2 := profile.dns[1]?.join
    let ipcp := if dns1 = none ∧ dns2 = none then ipcp
      else ipcp.setDNS (dns1.getD []) (dns2.getD [])
    { s with ipcp := { s.ipcp with handler := ipcp } }

def configureIPCP : Session P N Q :=
  let s := if s.ipv4Address = [] then s
    else { s with ipcp := { s.ipcp with handler := s.ipcp.handler.setPeerAddress s.ipv4Address } }
  let s := applyIPv4ProfileToIPCP env s
  match s.attributes.dnsPrimary with
  | none => s
  | some dns1 =>
    let dns2 := s.attributes.dnsSecondary.join
    let ipcp := s.ipcp.handler.setDNS (dns1.getD []) (dns2.getD [])
    { s with ipcp := { s.ipcp with handler := ipcp } }

/-- Allocates what AAA has not given. -/
def assignAddresses : Host P N Q :=
  let h := if h.session.ipv4Address = [] then h.allocateIPv4 else h
  let h := if h.session.ipv6Address = [] then h.allocateIANA else h
  if h.session.ipv6Prefix = none then h.allocatePD else h

def startNCP : Host P N Q :=
  let h := h.assignAddresses.modify (configureIPCP env)
  let h := h.applyIPCP h.session.ipcp.up
  let h := h.applyIPCP h.session.ipcp.open
  let h := h.applyIPv6CP h.session.ipv6cp.up
  h.applyIPv6CP h.session.ipv6cp.open

/-! ## Link control and authentication -/

def sendCHAPChallenge : Host P N Q :=
  let h := h.modify fun s =>
    { s with chapChallenge := env.challenge, chapID := s.chapID + 1, chapRetryTimer := true }
  h.emit (.frame protoCHAP Pppoe.chapChallengeCode h.session.chapID
    (UInt8.ofNat env.challenge.length :: (env.challenge ++ env.localHostname)))

def startCHAPAuth : Host P N Q :=
  sendCHAPChallenge env (h.modify fun s => { s with chapRetryCount := 0 })

def onLCPUp : Host P N Q :=
  let h := h.modify fun s => { s with lcpMagic := s.lcp.handler.localConfig.magic }
  if h.session.lcp.handler.localConfig.wantAuth then
    startCHAPAuth env (h.modify fun s => { s with phase := .authenticate })
  else startNCP env (h.modify fun s => { s with phase := .network })

def onLCPDown : Host P N Q := h.modify fun s => { s with phase := .establish }

def lcpAction : Action → Host P N Q
  | .send code id data => h.emit (.frame protoLCP code id data)
  | .layerUp => onLCPUp env h
  | .layerDown => h.onLCPDown
  | .layerStarted | .layerFinished => h

def applyLCP (r : Fsm Lcp × List Action) : Host P N Q :=
  r.2.foldl (lcpAction env) (h.modify fun s => { s with lcp := r.1 })

def closeLCP : Host P N Q := applyLCP env h h.session.lcp.close

def initSessionPPP : Host P N Q :=
  let h := h.modify fun s =>
    { s with
      ready := true
      lcp := Pppoe.newLCP env.magic
      ipcp := newFsm Ipcp.new
      ipv6cp := newFsm env.ipv6cp
      phase := .establish }
  let h := applyLCP env h h.session.lcp.up
  applyLCP env h h.session.lcp.open

def handleCHAPTimeout : Host P N Q :=
  if h.session.phase ≠ .authenticate then h
  else
    let h := h.modify fun s => { s with chapRetryCount := s.chapRetryCount + 1 }
    if Pppoe.chapMaxRetries ≤ h.session.chapRetryCount then closeLCP env h
    else sendCHAPChallenge env h

def publishAAARequest (credentials : Credentials) (h : Host P N Q) : Host P N Q :=
  if env.eventBus then
    (h.modify fun s => { s with pendingAuthRequestID := some env.requestID }).emit
      (.aaaRequest env.requestID h.session.username credentials)
  else h

def handleCHAPPacket (code id : UInt8) (data : Bytes) (h : Host P N Q) : Checked (Host P N Q) :=
  if h.session.phase ≠ .authenticate ∨ code ≠ Pppoe.chapResponseCode then some h
  else do
    let h := h.modify fun s => { s with chapRetryTimer := false }
    match ← parseCHAPResponse data with
    | none => pure h
    | some (response, username) =>
      pure (publishAAARequest env (.chap id h.session.chapChallenge response)
        (h.modify fun s =>
          { s with username := username, pendingAuthType := some .chap, pendingCHAPID := id }))

def handlePAPPacket (code id : UInt8) (data : Bytes) (h : Host P N Q) : Checked (Host P N Q) :=
  if h.session.phase ≠ .authenticate ∨ code ≠ Pppoe.papAuthReq then some h
  else do
    match ← parsePAPAuthReq data with
    | none => pure h
    | some (username, password) =>
      pure (publishAAARequest env (.pap password) (h.modify fun s =>
        { s with username := username, pendingAuthType := some .pap, pendingPAPID := id }))

def sendAuthAccept : Host P N Q :=
  match h.session.pendingAuthType with
  | some .pap => h.emit (.frame protoPAP Pppoe.papAuthAck h.session.pendingPAPID
      (papMessage "Login OK"))
  | some .chap => h.emit (.frame protoCHAP Pppoe.chapSuccess h.session.pendingCHAPID
      (ascii "Welcome"))
  | none => h

def sendAuthReject : Host P N Q :=
  match h.session.pendingAuthType with
  | some .pap => h.emit (.frame protoPAP Pppoe.papAuthNak h.session.pendingPAPID
      (papMessage "Authentication failed"))
  | some .chap => h.emit (.frame protoCHAP Pppoe.chapFailure h.session.pendingCHAPID
      (ascii "Authentication failed"))
  | none => h

def extractIPFromAttributes : Session P N Q :=
  { s with
    ipv4Address := s.attributes.ipv4Address.join.getD s.ipv4Address
    ipv6Address := s.attributes.ipv6Address.join.getD s.ipv6Address
    ipv6Prefix := s.attributes.ipv6Prefix.join <|> s.ipv6Prefix }

def buildAllocContext : ServiceGroup N → Attributes N → AllocContext N :=
  Pppoe.newContext env.ipv4Profile env.ipv6Profile

def clearPending : Session P N Q :=
  { s with pendingAuthType := none, pendingAuthRequestID := none }

def onAuthResult (allowed : Bool) (attrs : Attributes N) (h : Host P N Q) : Host P N Q :=
  if allowed then
    let h := h.modify fun s =>
      { extractIPFromAttributes { s with attributes := s.attributes.merge attrs } with
        allocCtx := some (buildAllocContext env (env.resolveServiceGroup attrs) attrs) }
    let h := h.sendAuthAccept
    (startNCP env (h.modify fun s => { s with phase := .network })).modify clearPending
  else (closeLCP env h.sendAuthReject).modify clearPending

/-! ## Frames -/

def sendEchoReply (id : UInt8) (data : Bytes) (h : Host P N Q) : Checked (Host P N Q) := do
  let tail ← if 4 < data.length then sliceFrom data 4 else some []
  pure (h.emit (.frame protoLCP echoRep id
    (putBe 4 h.session.lcp.handler.localConfig.magic ++ tail)))

def onProtocolReject (proto : UInt16) (h : Host P N Q) : Host P N Q :=
  if proto = protoIPCP then h.applyIPCP h.session.ipcp.close
  else if proto = protoIPv6CP then h.applyIPv6CP h.session.ipv6cp.close
  else h

def dispatcher : Dispatcher (Host P N Q) where
  lcp := some fun code id data h => (h.session.lcp.input code id data).map (applyLCP env h)
  ipcp := some fun code id data h => (h.session.ipcp.input code id data).map h.applyIPCP
  ipv6cp := some fun code id data h => (h.session.ipv6cp.input code id data).map h.applyIPv6CP
  ipv6cpOpened h := h.session.ipv6cp.state = .opened
  phaseFn := some fun h => h.session.phase
  handlePAP := some (handlePAPPacket env)
  handleCHAP := some (handleCHAPPacket env)
  onEchoReq := some fun id data h =>
    if h.session.phase = .open ∨ h.session.phase = .network then h.sendEchoReply id data
    else some h
  onEchoRep := none
  onProtocolReject := some fun proto h => some (h.onProtocolReject proto)
  sendProtocolReject := none
  handleIPv6 := none

def protoIPv4 : UInt16 := 0x0021

/-- `dispatchPPPFrame`; a frame that is refused changes nothing. -/
def dispatchPPPFrame (frame : Bytes) (h : Host P N Q) : Checked (Host P N Q) :=
  let frame := match frame with
    | 0xff :: 0x03 :: rest => rest
    | _ => frame
  match frame with
  | hi :: lo :: payload =>
    let proto := UInt16.ofNat (hi.toNat * 256 + lo.toNat)
    if proto = protoIPv4 ∨ proto = protoIPv6 ∨ h.session.ready = false then some h
    else ((dispatcher env).handleFrame proto payload h).map fun
      | .ok h' => h'
      | .error _ => h
  | _ => some h

end Host

/-! ## The LNS -/

structure State (P N Q : Type) where
  control : Component
  registry : Registry P N SessionID
  /-- Every session there ever was. -/
  sessions : List (Session P N Q)
  /-- By the number of a tunnel and the session id. -/
  current : Nat → UInt16 → Option Nat
  dataplane : List Nat

inductive Event (N Q : Type) where
  | control (event : Component.Event)
  | aaaResponse (i : Nat) (id : UInt16) (requestID : Q) (allowed : Bool) (attrs : Attributes N)
  | lcpTimeout (n : Nat)
  | ipcpTimeout (n : Nat)
  | ipv6cpTimeout (n : Nat)
  | chapTimeout (n : Nat)

structure Input (N Q : Type) where
  event : Event N Q
  env : L2tp.Env
  ppp : Env N Q

namespace State
variable {P N Q : Type} [DecidableEq P] [DecidableEq N] [DecidableEq Q] (c : State P N Q)

def run (n : Nat) (f : Host P N Q → Checked (Host P N Q)) : Checked (State P N Q) :=
  match c.sessions[n]? with
  | none => some c
  | some s =>
    (f ⟨s, c.registry, []⟩).map fun h =>
      { c with registry := h.registry, sessions := c.sessions.set n h.session }

variable (env : Env N Q)

/-- The session an ICRQ has made, which the dataplane may already have. -/
def create (c : State P N Q) (i : Nat) (k : TunnelKey) (s : Component.Session) : State P N Q :=
  { c with
    sessions := c.sessions ++ [.new ⟨k, s.localID⟩ i s.swIfIndex s.programmedInVPP env]
    current := update c.current i (update (c.current i) s.localID (some c.sessions.length))
    dataplane := if s.programmedInVPP then c.dataplane ++ [c.sessions.length] else c.dataplane }

def forget (i : Nat) (id : UInt16) : State P N Q :=
  { c with current := update c.current i (update (c.current i) id none) }

def subject (t : Component.Tunnel) (h : Header) (avps : Body) : UInt16 :=
  if MessageType.ofCode (decodeMessageType avps) = some .icrq then
    (Component.Tunnel.findSessionID t.sessions 0xffff 1).getD 0
  else h.sessionID

/-- What a control message for a session means for its PPP side: HandleICRQ has made
it, HandleICCN calls `initSessionPPP`, HandleCDN has removed it. -/
def follow (c : State P N Q) (i : Nat) (k : TunnelKey) (id : UInt16)
    (before after : Option Component.Session) : Checked (State P N Q) :=
  match before, after with
  | none, some s => some (if s.role = .lns then c.create env i k s else c)
  | some _, none => some (c.forget i id)
  | some s, some s' =>
    if s.ppp = false ∧ s'.ppp = true then
      match c.current i id with
      | none => some c
      | some n => c.run n fun h => some (h.initSessionPPP env)
    else some c
  | none, none => some c

def sessionAt (c : Component) (i : Nat) (id : UInt16) : Option Component.Session :=
  (c.objects[i]?).bind (·.sessions id)

def readData (body : Bytes) : Option (Header × Bytes) :=
  if isL2TPv3 body then none
  else
    match parse body with
    | .error _ => none
    | .ok (h, payload) =>
      if h.version = version2 ∧ h.isControl = false then some (h, payload) else none

def punt (c : State P N Q) (control : Component) (src : IP) (body : Bytes) :
    Checked (State P N Q) :=
  let c' := { c with control := control }
  match readData body with
  | some (h, frame) =>
    match c.control.lookupTunnel src h.tunnelID with
    | none => some c'
    | some (i, t) =>
      match t.sessions h.sessionID, c.current i h.sessionID with
      | some _, some n => c'.run n fun host => host.dispatchPPPFrame env frame
      | _, _ => some c'
  | none =>
    match readPacket body with
    | .ok (h, some avps) =>
      match c.control.lookupTunnel src h.tunnelID with
      | none => some c'
      | some (i, t) =>
        let id := subject t h avps
        c'.follow env i t.key id (t.sessions id) (sessionAt control i id)
    | _ => some c'

/-- The session that the tables of a registered tunnel lead to. -/
def find (i : Nat) (id : UInt16) : Option Nat :=
  match c.control.objects[i]? with
  | none => none
  | some t =>
    if c.control.tunnels t.key = some i ∧ (t.sessions id).isSome then c.current i id else none

/-- `findSessionByAuthRequestID` scans the tables; the place where it finds the session
is given. -/
def handleAAAResponse (c : State P N Q) (i : Nat) (id : UInt16) (requestID : Q)
    (allowed : Bool) (attrs : Attributes N) : Option (State P N Q) :=
  match c.find i id with
  | none => none
  | some n =>
    match c.sessions[n]? with
    | none => none
    | some s =>
      if s.pendingAuthRequestID = some requestID then
        c.run n fun h => some (h.onAuthResult env allowed attrs)
      else none

def next (c : State P N Q) (inp : Input N Q) : Option (State P N Q) :=
  match inp.event with
  | .control event =>
    match Component.next c.control ⟨event, inp.env⟩ with
    | none => none
    | some control =>
      match event with
      | .punt src _ body => c.punt inp.ppp control src body
      | _ => some { c with control := control }
  | .aaaResponse i id requestID allowed attrs =>
    c.handleAAAResponse inp.ppp i id requestID allowed attrs
  | .lcpTimeout n => c.run n fun h => some (Host.applyLCP inp.ppp h h.session.lcp.timeout)
  | .ipcpTimeout n => c.run n fun h => some (h.applyIPCP h.session.ipcp.timeout)
  | .ipv6cpTimeout n => c.run n fun h => some (h.applyIPv6CP h.session.ipv6cp.timeout)
  | .chapTimeout n => c.run n fun h => some (h.handleCHAPTimeout inp.ppp)

/-- No tunnel and no session; the pools may be in use by others. -/
def Initial : Prop :=
  c.control = new ∧ c.sessions = [] ∧ (∀ i id, c.current i id = none) ∧ c.dataplane = []

def machine (P N Q : Type) [DecidableEq P] [DecidableEq N] [DecidableEq Q] :
    Machine (State P N Q) (Input N Q) :=
  .ofNext Initial next

end State
end Osvbng.L2tp.Lns
