import Osvbng.Allocator.Registry
import Osvbng.Ppp.Dispatcher
import Osvbng.Ppp.Protocols

/-!
# PPPoE subscriber sessions

One subscriber session: the three automata, authentication against AAA, address
assignment from the registry, and the hand-off to an L2TP tunnel. A session is
driven by the frames of its peer, by timers, by AAA answers and by completions
of dataplane requests.

What a session reads from its surroundings during one step (random draws, the
configuration of its subscriber group, the order of map iterations) is an
`Env`; what it emits is a list of effects.
-/

namespace Osvbng.Pppoe
open Lib.Slice Lib.NetIP Ppp Allocator

def papAuthReq : UInt8 := 1
def papAuthAck : UInt8 := 2
def papAuthNak : UInt8 := 3
def chapChallengeCode : UInt8 := 1
def chapResponseCode : UInt8 := 2
def chapSuccess : UInt8 := 3
def chapFailure : UInt8 := 4
def chapMaxRetries : Nat := 10

inductive AuthType where
  | pap | chap
deriving DecidableEq, Repr

/-- The AAA attributes a session reads. An attribute that is present carries
the result of parsing its text. -/
structure Attributes (N : Type) where
  ipv4Address : Option (Option IP)
  ipv6Address : Option (Option IP)
  ipv6Prefix : Option (Option IPNet)
  dnsPrimary : Option (Option IP)
  dnsSecondary : Option (Option IP)
  pool : Option N
  ianaPool : Option N
  pdPool : Option N
  /-- The tunnel types by tag: whether the text is "L2TP". -/
  tunnelTypes : List (Nat × Bool)

namespace Attributes
variable {N : Type}

def empty : Attributes N := ⟨none, none, none, none, none, none, none, none, []⟩

/-- Writes the attributes of a reply over those collected before. -/
def merge (old new : Attributes N) : Attributes N where
  ipv4Address := new.ipv4Address <|> old.ipv4Address
  ipv6Address := new.ipv6Address <|> old.ipv6Address
  ipv6Prefix := new.ipv6Prefix <|> old.ipv6Prefix
  dnsPrimary := new.dnsPrimary <|> old.dnsPrimary
  dnsSecondary := new.dnsSecondary <|> old.dnsSecondary
  pool := new.pool <|> old.pool
  ianaPool := new.ianaPool <|> old.ianaPool
  pdPool := new.pdPool <|> old.pdPool
  tunnelTypes := new.tunnelTypes ++
    old.tunnelTypes.filter fun t => !new.tunnelTypes.any (·.1 == t.1)

end Attributes

/-- The parts of a resolved service group that decide an address. -/
structure ServiceGroup (N : Type) where
  vrf : N
  pool : Option N
  ianaPool : Option N
  pdPool : Option N

/-- The names under which a session allocates; an empty name is `none`. -/
structure AllocContext (N : Type) where
  vrf : N
  profileName : Option N
  ipv6ProfileName : Option N
  poolOverride : Option N
  ianaPoolOverride : Option N
  pdPoolOverride : Option N

/-- The pools of the reply are read where the group has a profile of the family. -/
def newContext {N : Type} (ipv4Profile ipv6Profile : Option N) (sg : ServiceGroup N)
    (attrs : Attributes N) : AllocContext N where
  vrf := sg.vrf
  profileName := ipv4Profile
  ipv6ProfileName := ipv6Profile
  poolOverride := (ipv4Profile.bind fun _ => attrs.pool) <|> sg.pool
  ianaPoolOverride := (ipv6Profile.bind fun _ => attrs.ianaPool) <|> sg.ianaPool
  pdPoolOverride := (ipv6Profile.bind fun _ => attrs.pdPool) <|> sg.pdPool

structure Session (K N S Q : Type) where
  sessionID : S
  phase : Phase
  lcp : Fsm Lcp
  ipcp : Fsm Ipcp
  ipv6cp : Fsm Ipv6cp
  ipcpOpen : Bool
  ipv6cpOpen : Bool
  ipv4Address : IP
  ipv6Address : IP
  ipv6Prefix : Option IPNet
  dns1 : IP
  dns2 : IP
  username : Bytes
  attributes : Attributes N
  vrf : N
  allocCtx : Option (AllocContext N)
  allocatedPool : Option K
  allocatedIANAPool : Option K
  lcpMagic : Nat
  chapChallenge : Bytes
  chapResponse : Bytes
  chapID : UInt8
  /-- Whether the challenge retransmission timer is armed. -/
  chapRetryTimer : Bool
  chapRetryCount : Nat
  /-- The request whose answer is awaited, if any. -/
  pendingAuthRequestID : Option Q
  pendingAuthType : Option AuthType
  pendingPAPID : UInt8
  pendingCHAPID : UInt8

/-- The link automaton of a new session, which asks for CHAP with MD5. -/
def newLCP (magic : Nat) : Fsm Lcp := newFsm ((Lcp.new magic).setAuthProto protoCHAP chapMD5)

/-- A session as discovery creates it. Its magic number and its interface
identifier are drawn at random. -/
def Session.new {K N S Q : Type} (sessionID : S) (defaultVRF : N) (magic : Nat)
    (ipv6cp : Ipv6cp) : Session K N S Q where
  sessionID := sessionID
  phase := .dead
  lcp := newLCP magic
  ipcp := newFsm Ipcp.new
  ipv6cp := newFsm ipv6cp
  ipcpOpen := false
  ipv6cpOpen := false
  ipv4Address := []
  ipv6Address := []
  ipv6Prefix := none
  dns1 := []
  dns2 := []
  username := []
  attributes := .empty
  vrf := defaultVRF
  allocCtx := none
  allocatedPool := none
  allocatedIANAPool := none
  lcpMagic := 0
  chapChallenge := []
  chapResponse := []
  chapID := 0
  chapRetryTimer := false
  chapRetryCount := 0
  pendingAuthRequestID := none
  pendingAuthType := none
  pendingPAPID := 0
  pendingCHAPID := 0

inductive Credentials where
  | pap (password : Bytes)
  | chap (id : UInt8) (challenge response : Bytes)

inductive Effect (Q : Type) where
  | frame (proto : UInt16) (code id : UInt8) (data : Bytes)
  | aaaRequest (requestID : Q) (username : Bytes) (credentials : Credentials)
  | echoReply (id : UInt8)
  | ipv6 (payload : Bytes)
  | checkpoint
  | deleteCheckpoint
  | lifecycleActive
  | lifecycleTunneled
  | lifecycleReleased
  | addPPPoESession
  | addLACSession

structure Env (K N Q : Type) where
  /-- The identifier drawn for the next AAA request. -/
  requestID : Q
  /-- The sixteen bytes drawn for the next challenge. -/
  challenge : Bytes
  acName : Bytes
  ipv4Profile : Option N
  ipv6Profile : Option N
  resolveServiceGroup : Attributes N → ServiceGroup N
  /-- The name servers of a profile, each with the result of parsing it. -/
  profileDNS : N → List (Option IP)
  bngSourceMAC : Bytes
  /-- Orders of iteration over the pools of each family. -/
  v4Order : List K
  ianaOrder : List K
  pdOrder : List K
  /-- Whether the group hands subscribers off and a trigger is installed. -/
  lacEnabled : Bool
  /-- Whether starting the hand-off fails at once. -/
  lacStartFails : Bool

structure Host (K N S Q : Type) where
  session : Session K N S Q
  registry : Registry K N S
  out : List (Effect Q)

namespace Host
variable {K N S Q : Type} [DecidableEq K] [DecidableEq N] [DecidableEq S] [DecidableEq Q]
  (env : Env K N Q)

def emit (e : Effect Q) (h : Host K N S Q) : Host K N S Q := { h with out := h.out ++ [e] }

def modify (f : Session K N S Q → Session K N S Q) (h : Host K N S Q) : Host K N S Q :=
  { h with session := f h.session }

/-! ### Network control protocols -/

variable (h : Host K N S Q)

def checkOpen : Host K N S Q :=
  if h.session.phase = .network ∧ (h.session.ipcpOpen ∨ h.session.ipv6cpOpen) then
    let h := h.modify fun s =>
      { s with phase := .open, lcpMagic := s.lcp.handler.localConfig.magic }
    let h := (h.emit .checkpoint).emit .lifecycleActive
    if h.session.ipv4Address = [] then h else h.emit .addPPPoESession
  else h

def onIPCPUp : Host K N S Q :=
  (h.modify fun s =>
    { s with ipv4Address := s.ipcp.handler.peerConfig.address, ipcpOpen := true }).checkOpen

def onIPCPDown : Host K N S Q :=
  h.modify fun s => { s with ipcpOpen := false }

def onIPv6CPUp : Host K N S Q :=
  (h.modify fun s => { s with ipv6cpOpen := true }).checkOpen

def onIPv6CPDown : Host K N S Q :=
  h.modify fun s => { s with ipv6cpOpen := false }

def ipcpAction : Action → Host K N S Q
  | .send code id data => h.emit (.frame protoIPCP code id data)
  | .layerUp => h.onIPCPUp
  | .layerDown => h.onIPCPDown
  | .layerStarted | .layerFinished => h

def ipv6cpAction : Action → Host K N S Q
  | .send code id data => h.emit (.frame protoIPv6CP code id data)
  | .layerUp => h.onIPv6CPUp
  | .layerDown => h.onIPv6CPDown
  | .layerStarted | .layerFinished => h

/-- Takes over the result of an event of the automaton and runs its callbacks. -/
def applyIPCP (r : Fsm Ipcp × List Action) : Host K N S Q :=
  r.2.foldl ipcpAction (h.modify fun s => { s with ipcp := r.1 })

def applyIPv6CP (r : Fsm Ipv6cp × List Action) : Host K N S Q :=
  r.2.foldl ipv6cpAction (h.modify fun s => { s with ipv6cp := r.1 })

/-! ### Address assignment -/

def allocateFromPool : Host K N S Q :=
  match h.session.allocCtx with
  | none => h
  | some ctx =>
    match ctx.profileName with
    | none => h
    | some profile =>
      match h.registry.allocateFromProfile profile ctx.poolOverride ctx.vrf h.session.sessionID with
      | none => h
      | some (ip, pool, registry) =>
        { h with
          registry := registry
          session := { h.session with ipv4Address := ip, allocatedPool := some pool } }

def allocateIANAFromPool : Host K N S Q :=
  match h.session.allocCtx with
  | none => h
  | some ctx =>
    match ctx.ipv6ProfileName with
    | none => h
    | some profile =>
      match h.registry.allocateIANAFromProfile profile ctx.ianaPoolOverride ctx.vrf
          h.session.sessionID with
      | none => h
      | some (ip, pool, registry) =>
        { h with
          registry := registry
          session := { h.session with ipv6Address := ip, allocatedIANAPool := some pool } }

def assignIPv4 : Host K N S Q :=
  if h.session.ipv4Address = [] then h.allocateFromPool
  else
    match h.registry.reserveIP env.v4Order h.session.ipv4Address h.session.sessionID with
    | some registry => { h with registry := registry }
    | none => h.modify fun s => { s with ipv4Address := [] }

def assignIPv6 : Host K N S Q :=
  if h.session.ipv6Address = [] then h.allocateIANAFromPool
  else
    match h.registry.reserveIANA env.ianaOrder h.session.ipv6Address h.session.sessionID with
    | some registry => { h with registry := registry }
    | none => h.modify fun s => { s with ipv6Address := [] }

def assignPD : Host K N S Q :=
  match h.session.ipv6Prefix with
  | none => h
  | some pfx =>
    match h.registry.reservePD env.pdOrder pfx h.session.sessionID with
    | some registry => { h with registry := registry }
    | none => h.modify fun s => { s with ipv6Prefix := none }

def fallbackIPv4 : IP := v4InV6Prefix ++ [100, 64, 0, 1]
def fallbackDNS1 : IP := v4InV6Prefix ++ [8, 8, 8, 8]
def fallbackDNS2 : IP := v4InV6Prefix ++ [8, 8, 4, 4]

variable (s : Session K N S Q)

def applyProfileDNS : Session K N S Q :=
  match s.allocCtx.bind (·.profileName) with
  | none => s
  | some profile =>
    { s with
      dns1 := ((env.profileDNS profile)[0]?.join).getD s.dns1
      dns2 := ((env.profileDNS profile)[1]?.join).getD s.dns2 }

/-- The fixed values used where nothing was assigned. -/
def applyFallbacks : Session K N S Q :=
  { s with
    ipv4Address := if s.ipv4Address = [] then fallbackIPv4 else s.ipv4Address
    dns1 := if s.dns1 = [] then fallbackDNS1 else s.dns1
    dns2 := if s.dns2 = [] then fallbackDNS2 else s.dns2 }

def configureIPCP : Session K N S Q :=
  { s with ipcp := { s.ipcp with handler :=
      (s.ipcp.handler.setPeerAddress s.ipv4Address).setDNS s.dns1 s.dns2 } }

def configureIPv6CP : Session K N S Q :=
  if env.bngSourceMAC.length = 6 then
    { s with ipv6cp := { s.ipv6cp with handler :=
        { s.ipv6cp.handler with localInterfaceID := ipv6cpConfigFromMAC env.bngSourceMAC } } }
  else s

def assignAddresses : Host K N S Q :=
  let h := assignPD env (assignIPv6 env (assignIPv4 env h))
  let h := if h.session.dns1 = [] then h.modify (applyProfileDNS env) else h
  h.modify fun s => configureIPCP (applyFallbacks s)

def startNCP : Host K N S Q :=
  let h := assignAddresses env h
  let h := h.applyIPCP h.session.ipcp.up
  let h := h.applyIPCP h.session.ipcp.open
  let h := h.modify (configureIPv6CP env)
  let h := h.applyIPv6CP h.session.ipv6cp.up
  h.applyIPv6CP h.session.ipv6cp.open

/-! ### Link control and authentication -/

def sendCHAPChallenge : Host K N S Q :=
  let h := h.modify fun s =>
    { s with chapChallenge := env.challenge, chapID := s.chapID + 1, chapRetryTimer := true }
  h.emit (.frame protoCHAP chapChallengeCode h.session.chapID
    (.ofNat env.challenge.length :: (env.challenge ++ env.acName)))

def startAuth (authProto : UInt16) (h : Host K N S Q) : Host K N S Q :=
  if authProto = protoCHAP then
    sendCHAPChallenge env (h.modify fun s => { s with chapRetryCount := 0 })
  else h

def onLCPUp : Host K N S Q :=
  let cfg := h.session.lcp.handler.localConfig
  if cfg.wantAuth then
    startAuth env cfg.authProto (h.modify fun s => { s with phase := .authenticate })
  else startNCP env (h.modify fun s => { s with phase := .network })

def onLCPDown : Host K N S Q :=
  h.modify fun s => { s with phase := .establish }

def lcpAction : Action → Host K N S Q
  | .send code id data => h.emit (.frame protoLCP code id data)
  | .layerUp => onLCPUp env h
  | .layerDown => h.onLCPDown
  | .layerStarted | .layerFinished => h

def applyLCP (r : Fsm Lcp × List Action) : Host K N S Q :=
  r.2.foldl (lcpAction env) (h.modify fun s => { s with lcp := r.1 })

def closeLCP : Host K N S Q := applyLCP env h h.session.lcp.close

def up : Host K N S Q :=
  let h := h.modify fun s => { s with phase := .establish }
  let h := applyLCP env h h.session.lcp.up
  applyLCP env h h.session.lcp.open

def handleCHAPTimeout : Host K N S Q :=
  if h.session.phase ≠ .authenticate then h
  else
    let h := h.modify fun s => { s with chapRetryCount := s.chapRetryCount + 1 }
    if chapMaxRetries ≤ h.session.chapRetryCount then closeLCP env h
    else sendCHAPChallenge env h

def publishAAARequest (credentials : Credentials) (h : Host K N S Q) : Host K N S Q :=
  (h.modify fun s => { s with pendingAuthRequestID := some env.requestID }).emit
    (.aaaRequest env.requestID h.session.username credentials)

def parsePAPAuthReq (data : Bytes) : Checked (Option (Bytes × Bytes)) :=
  if data.length < 2 then some none
  else do
    let userLen := (← index data 0).toNat
    if data.length < 1 + userLen + 1 then pure none
    else
      let username ← slice data 1 (1 + userLen)
      let passLen := (← index data (1 + userLen)).toNat
      if data.length < 2 + userLen + passLen then pure none
      else
        let password ← slice data (2 + userLen) (2 + userLen + passLen)
        pure (some (username, password))

def handlePAPPacket (code id : UInt8) (data : Bytes) (h : Host K N S Q) : Checked (Host K N S Q) :=
  if h.session.phase ≠ .authenticate ∨ code ≠ papAuthReq then some h
  else do
    match ← parsePAPAuthReq data with
    | none => pure h
    | some (username, password) =>
      pure (publishAAARequest env (.pap password) (h.modify fun s =>
        { s with username := username, pendingAuthType := some .pap, pendingPAPID := id }))

def parseCHAPResponse (data : Bytes) : Checked (Option (Bytes × Bytes)) :=
  if data.length < 1 then some none
  else do
    let valueLen := (← index data 0).toNat
    if data.length < 1 + valueLen then pure none
    else
      let response ← slice data 1 (1 + valueLen)
      let username ← sliceFrom data (1 + valueLen)
      pure (some (response, username))

def handleCHAPPacket (code id : UInt8) (data : Bytes) (h : Host K N S Q) : Checked (Host K N S Q) :=
  if h.session.phase ≠ .authenticate ∨ code ≠ chapResponseCode then some h
  else do
    let h := h.modify fun s => { s with chapRetryTimer := false }
    match ← parseCHAPResponse data with
    | none => pure h
    | some (response, username) =>
      pure (publishAAARequest env (.chap id h.session.chapChallenge response)
        (h.modify fun s =>
          { s with
            username := username
            pendingAuthType := some .chap
            pendingCHAPID := id
            chapResponse := response }))

def ascii (text : String) : Bytes := text.toList.map fun c => .ofNat c.toNat

def papMessage (text : String) : Bytes := .ofNat (ascii text).length :: ascii text

def sendAuthAccept : Host K N S Q :=
  match h.session.pendingAuthType with
  | some .pap => h.emit (.frame protoPAP papAuthAck h.session.pendingPAPID (papMessage "Login OK"))
  | some .chap => h.emit (.frame protoCHAP chapSuccess h.session.pendingCHAPID (ascii "Welcome"))
  | none => h

def sendAuthReject : Host K N S Q :=
  match h.session.pendingAuthType with
  | some .pap =>
    h.emit (.frame protoPAP papAuthNak h.session.pendingPAPID (papMessage "Authentication failed"))
  | some .chap =>
    h.emit (.frame protoCHAP chapFailure h.session.pendingCHAPID (ascii "Authentication failed"))
  | none => h

/-- An address attribute that is present and parses replaces the old value. -/
def extractIP (attr : Option (Option IP)) (old : IP) : IP := attr.join.getD old

def extractIPFromAttributes : Session K N S Q :=
  { s with
    ipv4Address := extractIP s.attributes.ipv4Address s.ipv4Address
    dns1 := extractIP s.attributes.dnsPrimary s.dns1
    dns2 := extractIP s.attributes.dnsSecondary s.dns2
    ipv6Address := extractIP s.attributes.ipv6Address s.ipv6Address
    ipv6Prefix := s.attributes.ipv6Prefix.join <|> s.ipv6Prefix }

def buildAllocContext : ServiceGroup N → Attributes N → AllocContext N :=
  newContext env.ipv4Profile env.ipv6Profile

def shouldTunnelToLAC : Bool :=
  env.lacEnabled && s.attributes.tunnelTypes.any (·.2)

def clearPending : Session K N S Q :=
  { s with pendingAuthType := none, pendingAuthRequestID := none }

/-- Turns the subscriber away; used where the hand-off to a tunnel fails. -/
def failLACBringUp : Host K N S Q :=
  closeLCP env (h.sendAuthReject.modify clearPending)

/-- What an accept writes into the session before it proceeds. -/
def adoptReply (attrs : Attributes N) (s : Session K N S Q) : Session K N S Q :=
  let s := extractIPFromAttributes { s with attributes := s.attributes.merge attrs }
  let sg := env.resolveServiceGroup attrs
  { s with vrf := sg.vrf, allocCtx := some (buildAllocContext env sg attrs) }

def onAuthSuccess : Host K N S Q :=
  startNCP env (h.modify fun s => { s with phase := .network })

def onAuthResult (allowed : Bool) (attrs : Attributes N) (h : Host K N S Q) : Host K N S Q :=
  if allowed then
    let h := h.modify (adoptReply env attrs)
    if shouldTunnelToLAC env h.session then
      let h := h.modify fun s =>
        { s with phase := .lacTunnelPending, pendingAuthRequestID := none }
      if env.lacStartFails then failLACBringUp env h else h.emit .addLACSession
    else (onAuthSuccess env h.sendAuthAccept).modify clearPending
  else (closeLCP env h.sendAuthReject).modify clearPending

/-- An answer of AAA; one whose request is not awaited is dropped. -/
def handleAAAResponse (requestID : Q) (allowed : Bool) (attrs : Attributes N)
    (h : Host K N S Q) : Host K N S Q :=
  if h.session.pendingAuthRequestID = some requestID then onAuthResult env allowed attrs h else h

/-- The tunnel component's decision; `vppFails` if the dataplane refuses it. -/
def handleLACDecision (success vppFails : Bool) (h : Host K N S Q) : Host K N S Q :=
  if h.session.phase ≠ .lacTunnelPending then h
  else if success && !vppFails then
    let h := h.sendAuthAccept.modify fun s => clearPending { s with phase := .lacTunneled }
    (h.emit .checkpoint).emit .lifecycleTunneled
  else failLACBringUp env h

/-- Completion of the dataplane request of a hand-off. -/
def onLACVPPSessionCreated (ok triggerFails : Bool) (h : Host K N S Q) : Host K N S Q :=
  if ok && !triggerFails then h else failLACBringUp env h

def handleProtocolReject (proto : UInt16) (h : Host K N S Q) : Host K N S Q :=
  if proto = protoIPCP then h.applyIPCP h.session.ipcp.close
  else if proto = protoIPv6CP then h.applyIPv6CP h.session.ipv6cp.close
  else h

def sendLCPEchoReply (id : UInt8) (data : Bytes) (h : Host K N S Q) : Checked (Host K N S Q) := do
  let tail ← if 4 < data.length then sliceFrom data 4 else some []
  pure (h.emit
    (.frame protoLCP echoRep id (putBe 4 h.session.lcp.handler.localConfig.magic ++ tail)))

def terminate : Host K N S Q :=
  let s := h.session
  let r := h.registry
  let r :=
    if s.ipv4Address = [] then r
    else match s.allocatedPool with
      | some pool => r.release pool s.ipv4Address
      | none => r.releaseIP s.ipv4Address
  let r :=
    if s.ipv6Address = [] then r
    else match s.allocatedIANAPool with
      | some pool => r.releaseIANA pool s.ipv6Address
      | none => r.releaseIANAByIP s.ipv6Address
  let r :=
    match s.ipv6Prefix with
    | none => r
    | some pfx => r.releasePDByPrefix env.pdOrder pfx
  let stop : Bool := s.phase = .open ∨ s.phase = .network
  let s :=
    { s with
      chapRetryTimer := false
      ipcp := if stop then s.ipcp.kill else s.ipcp
      ipv6cp := if stop then s.ipv6cp.kill else s.ipv6cp
      lcp := s.lcp.kill
      phase := .terminate }
  { session := s
    registry := r
    out := h.out ++ [.deleteCheckpoint, .lifecycleReleased] }

/-! ### Frames -/

def dispatcher : Dispatcher (Host K N S Q) where
  lcp := some fun code id data h =>
    (h.session.lcp.input code id data).map (applyLCP env h)
  ipcp := some fun code id data h => (h.session.ipcp.input code id data).map h.applyIPCP
  ipv6cp := some fun code id data h => (h.session.ipv6cp.input code id data).map h.applyIPv6CP
  ipv6cpOpened h := h.session.ipv6cp.state = .opened
  phaseFn := some fun h => h.session.phase
  handlePAP := some (handlePAPPacket env)
  handleCHAP := some (handleCHAPPacket env)
  onEchoReq := some fun id data h =>
    if h.session.phase = .open ∨ h.session.phase = .network then h.sendLCPEchoReply id data
    else some h
  onEchoRep := some fun id _ h => some (h.emit (.echoReply id))
  onProtocolReject := some fun proto h => some (h.handleProtocolReject proto)
  sendProtocolReject := some fun proto data h =>
    some (h.emit (.frame protoLCP protoRej 0 (putBe 2 proto.toNat ++ data)))
  handleIPv6 := some fun payload h => some (h.emit (.ipv6 payload))

def handlePPP (proto : UInt16) (payload : Bytes) (h : Host K N S Q) :
    Checked (Except FrameError (Host K N S Q)) :=
  (dispatcher env).handleFrame proto payload h

end Host

/-! ### Events -/

/-- What can happen to a session: a frame of its peer, a timer, an answer of
AAA, a step of the hand-off to a tunnel, or its removal. -/
inductive Event (N Q : Type) where
  | frame (proto : UInt16) (payload : Bytes)
  | lcpTimeout | ipcpTimeout | ipv6cpTimeout | chapTimeout
  | aaaResponse (requestID : Q) (allowed : Bool) (attrs : Attributes N)
  | lacDecision (success vppFails : Bool)
  | lacVPPSessionCreated (ok triggerFails : Bool)
  | terminate

/-- The events that still reach a session once it has left the indexes: timers
that had fired, completions, and a second removal. -/
def Event.afterRemoval {N Q : Type} : Event N Q → Bool
  | .frame .. | .aaaResponse .. | .lacDecision .. => false
  | .lcpTimeout | .ipcpTimeout | .ipv6cpTimeout | .chapTimeout => true
  | .lacVPPSessionCreated .. | .terminate => true

namespace Host
variable {K N S Q : Type} [DecidableEq K] [DecidableEq N] [DecidableEq S] [DecidableEq Q]
  (env : Env K N Q)

def handleEvent (h : Host K N S Q) : Event N Q → Checked (Host K N S Q)
  | .frame proto payload =>
    (handlePPP env proto payload h).map fun
      | .ok h' => h'
      | .error _ => h
  | .lcpTimeout => some (applyLCP env h h.session.lcp.timeout)
  | .ipcpTimeout => some (h.applyIPCP h.session.ipcp.timeout)
  | .ipv6cpTimeout => some (h.applyIPv6CP h.session.ipv6cp.timeout)
  | .chapTimeout => some (handleCHAPTimeout env h)
  | .aaaResponse requestID allowed attrs => some (handleAAAResponse env requestID allowed attrs h)
  | .lacDecision success vppFails => some (handleLACDecision env success vppFails h)
  | .lacVPPSessionCreated ok triggerFails =>
    some (onLACVPPSessionCreated env ok triggerFails h)
  | .terminate => some (terminate env h)

end Host
end Osvbng.Pppoe
