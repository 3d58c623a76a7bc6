import Osvbng.L2tp.Endpoint
import Osvbng.L2tp.IdAllocator
import Osvbng.L2tp.Messages
import Osvbng.Lib.NetIP
import Osvbng.Lib.Run

/-!
# The control plane of an L2TP endpoint

The tunnels of an endpoint, in either role, with the sessions in them: the state
machines, the registration of tunnels, their ids and their runners, and the
handlers of control messages.

Tunnels are objects that the maps of the component refer to by number; an object
stays when nothing refers to it. A tunnel's channel carries what was submitted to
it and what it handed to the tunnel, see `Endpoint`. Handlers return the error of
the source next to what they have changed until then. Random bytes, the clock,
the configuration and the answers of the dataplane are inputs.
-/

namespace Osvbng.L2tp
open Function Lib
open Lib.NetIP
open Lib.Slice (Bytes)

/-! ## State machines -/

inductive TunnelState where
  | idle | waitCtlReply | waitCtlConn | established | cleanup
deriving DecidableEq

inductive TunnelRole where
  | initiator | responder
deriving DecidableEq

structure TunnelFSM where
  state : TunnelState
  role : TunnelRole
deriving DecidableEq

def newTunnelFSM (role : TunnelRole) : TunnelFSM := ⟨.idle, role⟩

variable (f : TunnelFSM)

/-- The transitions; `none` is the error for one that is not allowed. -/
def TunnelFSM.sendSCCRQ : Option TunnelFSM :=
  if f.state ≠ .idle ∨ f.role ≠ .initiator then none else some { f with state := .waitCtlReply }

def TunnelFSM.recvSCCRQ : Option TunnelFSM :=
  if f.state ≠ .idle ∨ f.role ≠ .responder then none else some { f with state := .waitCtlConn }

def TunnelFSM.recvSCCRP : Option TunnelFSM :=
  if f.state ≠ .waitCtlReply then none else some { f with state := .established }

def TunnelFSM.recvSCCCN : Option TunnelFSM :=
  if f.state ≠ .waitCtlConn then none else some { f with state := .established }

def TunnelFSM.stop : TunnelFSM := { f with state := .cleanup }

inductive SessionState where
  | idle | waitReply | established | cleanup
deriving DecidableEq

inductive SessionRole where
  | lac | lns
deriving DecidableEq

structure SessionFSM where
  state : SessionState
  role : SessionRole
deriving DecidableEq

def newSessionFSM (role : SessionRole) : SessionFSM := ⟨.idle, role⟩

variable (f : SessionFSM)

def SessionFSM.sendICRQ : Option SessionFSM :=
  if f.state ≠ .idle ∨ f.role ≠ .lac then none else some { f with state := .waitReply }

def SessionFSM.recvICRQ : Option SessionFSM :=
  if f.state ≠ .idle ∨ f.role ≠ .lns then none else some { f with state := .waitReply }

def SessionFSM.recvICRP : Option SessionFSM :=
  if f.state ≠ .waitReply ∨ f.role ≠ .lac then none else some { f with state := .established }

def SessionFSM.recvICCN : Option SessionFSM :=
  if f.state ≠ .waitReply ∨ f.role ≠ .lns then none else some { f with state := .established }

/-! ## Errors and surroundings -/

inductive Err where
  | notSCCRQ | notSCCRP | notSCCCN | notICRQ | notICRP | notICCN
  | missingHostName | missingAssignedTunnelID | missingAssignedSessionID
  | missingChallengeResponse | challengeWithoutSecret | challengeRequired
  | challenge (e : ChallengeError)
  | unexpectedSCCRP | unexpectedICRP
  | badTunnelTransition | badSessionTransition
  | tunnelExhaustion | sessionExhaustion | tunnelExists
  | noTunnelCandidates | allCandidatesDenied | noLocalIP | lacRequestMissing
  | noSuchTunnel | noSuchSession | unsupportedMessageType | unsupportedVersion | v3Unsupported
  | lnsConfigUnresolved | lacNotAuthorized | sendNotConfigured
  | wire (e : WireError)
  /-- Errors of the random source, the transport and the dataplane. -/
  | entropy | send | southbound
deriving DecidableEq

structure LNSConfig where
  localHostname : Bytes
  vendorName : Bytes
  receiveWindowSize : UInt16
  secret : Bytes
  challengeRequired : Bool
  pppHdrSkip : UInt8

structure TunnelSpec where
  serverIP : IP
  clientIP : IP
  password : Bytes
  pppHdrSkip : UInt8

structure LACBringUpRequest where
  pppoeSessionID : UInt16
  username : Bytes
  tunnelSpecs : List TunnelSpec
  localName : Bytes
  localIP : IP
  pppoeSwIfIndex : UInt32
  lastSentLCPConfReq : Bytes
  lastReceivedLCPConfReq : Bytes
  proxyAuthenType : UInt16
  proxyAuthenName : Bytes
  proxyAuthenChallenge : Bytes
  proxyAuthenResponse : Bytes

/-- What is published about a request: the error, or the session it is bound to. -/
structure LACDecision where
  pppoeSessionID : UInt16
  error : Option Err
  localIP : IP
  peerIP : IP
  localTunnelID : UInt16
  peerTunnelID : UInt16
  localSessionID : UInt16
  peerSessionID : UInt16
  lacL2TPSessionIndex : UInt32

def LACDecision.failed (pppoeSessionID : UInt16) (e : Err) : LACDecision :=
  ⟨pppoeSessionID, some e, [], [], 0, 0, 0, 0, 0⟩

/-- The answers of the dataplane: whether a tunnel is added, and the interface of
a session that is. -/
structure Southbound where
  addL2TPTunnel : Bool
  addPPPoL2TPSession : Option UInt32
  addL2TPSessionRaw : Option UInt32

structure Env where
  now : Nat
  /-- Whether a transmitter has been installed, and whether it can send, by the
  number of the message. -/
  sendConfigured : Bool
  sendOk : UInt16 → Bool
  /-- By the number of the attempt. -/
  newChallenge : Nat → Option Bytes
  resolveLNSConfig : Option (Bytes → Option LNSConfig)
  lookupConfiguredSourceIP : IP → IP
  isDenied : IP → Bool
  localHostname : Bytes
  vpp : Option Southbound

def ControlChannel.sendSessionOk {B : Type} (c : ControlChannel B) (body : B) (sessionID : UInt16)
    (now : Nat) (sendOk : UInt16 → Bool) : Bool :=
  let queue := c.queue ++ [⟨body, sessionID, c.ns, 0, 0⟩]
  (driveQueue c.nr c.cwnd (now + c.rtoInitial) sendOk (inflight queue) queue).2.2

/-! ## Tunnels -/

/-- Addresses that are equal make one key. -/
structure TunnelKey where
  peerIP : Option Addr
  id : UInt16
deriving DecidableEq

def makeTunnelKey (peerIP : IP) (id : UInt16) : TunnelKey := ⟨canon peerIP, id⟩

namespace Component

structure Session where
  localID : UInt16
  peerID : UInt16
  role : SessionRole
  fsm : SessionFSM
  username : Bytes
  pppoeSessionID : UInt16
  pppoeSwIfIndex : UInt32
  swIfIndex : UInt32
  programmedInVPP : Bool
  /-- PPP is terminated here. -/
  ppp : Bool
deriving DecidableEq

structure Tunnel where
  localIP : IP
  peerIP : IP
  localID : UInt16
  peerID : UInt16
  role : TunnelRole
  fsm : TunnelFSM
  channel : Option (Endpoint Body)
  localHostname : Bytes
  peerHostname : Bytes
  secret : Bytes
  outstandingChallenge : Bytes
  sessions : UInt16 → Option Session
  pppHdrSkip : UInt8
  refCount : Int
  installedInVPP : Bool
  /-- The runner of the tunnel has been started and not been stopped. -/
  running : Bool

/-- What the handler of a message leaves: the tunnel, the error, what is published
about the pending request, which is then no longer pending, and whether a call
serial number was used. -/
structure Outcome where
  tunnel : Tunnel
  err : Option Err
  decision : Option LACDecision
  serial : Bool

namespace Tunnel

def new (role : TunnelRole) (localIP peerIP : IP) (localID peerID : UInt16)
    (localHostname peerHostname secret challenge : Bytes) (pppHdrSkip : UInt8) : Tunnel where
  localIP := localIP
  peerIP := peerIP
  localID := localID
  peerID := peerID
  role := role
  fsm := newTunnelFSM role
  channel := none
  localHostname := localHostname
  peerHostname := peerHostname
  secret := secret
  outstandingChallenge := challenge
  sessions := fun _ => none
  pppHdrSkip := pppHdrSkip
  refCount := 0
  installedInVPP := false
  running := false

variable (t : Tunnel)

def key : TunnelKey := makeTunnelKey t.peerIP t.localID

def addSession (s : Session) : Tunnel :=
  { t with
    sessions := update t.sessions s.localID (some s)
    refCount := t.refCount + 1 }

def removeSession (localID : UInt16) : Tunnel :=
  { t with
    sessions := update t.sessions localID none
    refCount := t.refCount - 1 }

def setSession (s : Session) : Tunnel :=
  { t with sessions := update t.sessions s.localID (some s) }

/-- The first id that is not in use, tried one after the other. -/
def findSessionID (sessions : UInt16 → Option Session) : (rounds : Nat) → UInt16 → Option UInt16
  | 0, _ => none
  | rounds + 1, id =>
    if (sessions id).isNone then some id else findSessionID sessions rounds (id + 1)

/-- Hands a message to the channel. A tunnel gets its channel with its runner; only
a tunnel of the responder can be without. -/
def sendSession (env : Env) (t : Tunnel) (body : Body) (sessionID : UInt16) : Tunnel × Option Err :=
  match t.channel with
  | none => (t, none)
  | some e =>
    ({ t with channel := some (e.submit body sessionID env.now env.sendOk).1 },
      if e.channel.sendSessionOk body sessionID env.now env.sendOk then none else some .send)

/-- The channel takes the numbers of a message; tells whether to go on. -/
def recv (env : Env) (t : Tunnel) (h : Header) (avps : Body) : Tunnel × Bool :=
  match t.channel with
  | none => (t, true)
  | some e =>
    let p : Packet Body := ⟨if avps = [] then none else some avps, h.sessionID, h.ns, h.nr⟩
    ({ t with channel := some (e.dispatch p env.now env.sendOk).1 },
      (e.channel.recv h.ns h.nr env.now env.sendOk).1)

def installTunnelVPP (env : Env) (t : Tunnel) : Tunnel × Option Err :=
  match env.vpp with
  | none => (t, none)
  | some vpp =>
    if t.installedInVPP then (t, none)
    else if vpp.addL2TPTunnel then ({ t with installedInVPP := true }, none)
    else (t, some .southbound)

def uninstallTunnelVPP (env : Env) (t : Tunnel) : Tunnel :=
  match env.vpp with
  | none => t
  | some _ => { t with installedInVPP := false }

/-- Verifies the answer to a challenge that is outstanding, which then is no more. -/
def answerChallenge (type : MessageType) (avps : Body) (outstanding : Bytes) : Except Err Tunnel :=
  if outstanding = [] then .ok t
  else
    match findFirst avps 0 avpChallengeResponse with
    | none => .error .missingChallengeResponse
    | some response =>
      match verifyChallengeResponse type.code.toUInt8 t.secret outstanding response.value with
      | .error e => .error (.challenge e)
      | .ok () => .ok { t with outstandingChallenge := [] }

end Tunnel

/-- The answer to the challenge of a message, if it has one. -/
def respondTo (type : MessageType) (secret : Bytes) (avps : Body) : Except Err Bytes :=
  match findFirst avps 0 avpChallenge with
  | none => .ok []
  | some challenge =>
    if secret = [] then .error .challengeWithoutSecret
    else .ok (computeChallengeResponse type.code.toUInt8 secret challenge.value)

def Outcome.of (t : Tunnel) (err : Option Err) : Outcome := ⟨t, err, none, false⟩

namespace Tunnel

/-! ## Handlers of the LNS -/

def handleSCCCN (env : Env) (t : Tunnel) (avps : Body) (outstanding : Bytes) :
    Tunnel × Option Err :=
  if decodeMessageType avps ≠ MessageType.scccn.code then (t, some .notSCCCN)
  else
    match t.answerChallenge .scccn avps outstanding with
    | .error e => (t, some e)
    | .ok t =>
      match t.fsm.recvSCCCN with
      | none => (t, some .badTunnelTransition)
      | some fsm => { t with fsm := fsm }.installTunnelVPP env

end Tunnel

def Session.installLNSSessionVPP (env : Env) (s : Session) : Except Err Session :=
  match env.vpp with
  | none => .ok s
  | some vpp =>
    if s.programmedInVPP then .ok s
    else
      match vpp.addPPPoL2TPSession with
      | none => .error .southbound
      | some swIfIndex => .ok { s with swIfIndex := swIfIndex, programmedInVPP := true }

namespace Tunnel
variable (env : Env) (t : Tunnel)

/-- Returns the reply and the session it is about. -/
def handleICRQ (avps : Body) : Tunnel × Except Err (Body × Session) :=
  if decodeMessageType avps ≠ MessageType.icrq.code then (t, .error .notICRQ)
  else
    match findUint16 avps avpAssignedSessionID with
    | none => (t, .error .missingAssignedSessionID)
    | some peerSessionID =>
      match findSessionID t.sessions 0xffff 1 with
      | none => (t, .error .sessionExhaustion)
      | some localID =>
        match (newSessionFSM .lns).recvICRQ with
        | none => (t, .error .badSessionTransition)
        | some fsm =>
          let s : Session :=
            { localID := localID, peerID := peerSessionID, role := .lns, fsm := fsm,
              username := [], pppoeSessionID := 0, pppoeSwIfIndex := 0, swIfIndex := 0,
              programmedInVPP := false, ppp := false }
          let t := t.addSession s
          match s.installLNSSessionVPP env with
          | .error e => (t.removeSession s.localID, .error e)
          | .ok s => (t.setSession s, .ok (buildICRP localID, s))

variable (s : Session)

def handleICCN (avps : Body) : Tunnel × Option Err :=
  if decodeMessageType avps ≠ MessageType.iccn.code then (t, some .notICCN)
  else
    match s.fsm.recvICCN with
    | none => (t, some .badSessionTransition)
    | some fsm => (t.setSession { s with fsm := fsm, ppp := true }, none)

def handleCDN : Tunnel := t.removeSession s.localID

/-! ## Handlers of the LAC -/

def openLACSession (req : LACBringUpRequest) (serial : UInt32) : Outcome :=
  match findSessionID t.sessions 0xffff 1 with
  | none => .of t (some .sessionExhaustion)
  | some localID =>
    match (newSessionFSM .lac).sendICRQ with
    | none => .of t (some .badSessionTransition)
    | some fsm =>
      let t := t.addSession
        { localID := localID, peerID := 0, role := .lac, fsm := fsm, username := req.username,
          pppoeSessionID := req.pppoeSessionID, pppoeSwIfIndex := 0, swIfIndex := 0,
          programmedInVPP := false, ppp := false }
      let (t, err) := t.sendSession env (buildICRQ localID serial) 0
      ⟨t, err, none, true⟩

/-- The part of `handleSCCRP` after the tunnel is established. -/
def completeSCCRP (peerResp : Bytes)
    (pending : Option LACBringUpRequest) (serial : UInt32) : Outcome :=
  match t.sendSession env (buildSCCCN peerResp) 0 with
  | (t, some e) => .of t (some e)
  | (t, none) =>
    match t.installTunnelVPP env with
    | (t, some e) => .of t (some e)
    | (t, none) =>
      match pending with
      | none => .of t (some .lacRequestMissing)
      | some req => t.openLACSession env req serial

def handleSCCRP (avps : Body) (pending : Option LACBringUpRequest) (serial : UInt32) : Outcome :=
  if decodeMessageType avps ≠ MessageType.sccrp.code then .of t (some .notSCCRP)
  else if t.role ≠ .initiator then .of t (some .unexpectedSCCRP)
  else
    match findUint16 avps avpAssignedTunnelID with
    | none => .of t (some .missingAssignedTunnelID)
    | some peerTunnelID =>
      let t := { t with
        peerHostname := ((findFirst avps 0 avpHostName).map AVP.value).getD t.peerHostname
        peerID := peerTunnelID }
      match t.answerChallenge .sccrp avps t.outstandingChallenge with
      | .error e => .of t (some e)
      | .ok t =>
        match respondTo .scccn t.secret avps with
        | .error e => .of t (some e)
        | .ok peerResp =>
          match t.fsm.recvSCCRP with
          | none => .of t (some .badTunnelTransition)
          | some fsm => { t with fsm := fsm }.completeSCCRP env peerResp pending serial

/-- The part of `handleICRP` after the ICCN has been sent. -/
def bindLACSession (req : LACBringUpRequest) : Outcome :=
  let bound (s : Session) : Outcome :=
    let s := { s with pppoeSwIfIndex := req.pppoeSwIfIndex }
    ⟨t.setSession s, none,
      some ⟨req.pppoeSessionID, none, t.localIP, t.peerIP, t.localID, t.peerID, s.localID,
        s.peerID, s.swIfIndex⟩, false⟩
  match env.vpp with
  | none => bound s
  | some vpp =>
    match vpp.addL2TPSessionRaw with
    | none => ⟨t, some .southbound, some (.failed req.pppoeSessionID .southbound), false⟩
    | some poolIndex => bound { s with swIfIndex := poolIndex }

def handleICRP (avps : Body) (pending : Option LACBringUpRequest) : Outcome :=
  if decodeMessageType avps ≠ MessageType.icrp.code then .of t (some .notICRP)
  else if s.role ≠ .lac then .of t (some .unexpectedICRP)
  else
    match findUint16 avps avpAssignedSessionID with
    | none => .of t (some .missingAssignedSessionID)
    | some peerID =>
      let s := { s with peerID := peerID }
      match s.fsm.recvICRP with
      | none => .of (t.setSession s) (some .badSessionTransition)
      | some fsm =>
        let s := { s with fsm := fsm }
        let t := t.setSession s
        match pending with
        | none => .of t (some .lacRequestMissing)
        | some req =>
          let iccn := buildICCN
            { txConnectSpeed := 0, framing := framingSync,
              lastSentLCPConfReq := req.lastSentLCPConfReq,
              lastReceivedLCPConfReq := req.lastReceivedLCPConfReq,
              proxyAuthenType := req.proxyAuthenType,
              proxyAuthenName := req.proxyAuthenName,
              proxyAuthenChallenge := req.proxyAuthenChallenge,
              proxyAuthenResponse := req.proxyAuthenResponse }
          match t.sendSession env iccn s.peerID with
          | (t, some e) => .of t (some e)
          | (t, none) => t.bindLACSession env s req

/-- The messages whose handlers stay within the tunnel. -/
def handle (h : Header) (avps : Body)
    (pending : Option LACBringUpRequest) (serial : UInt32) : Option MessageType → Outcome
  | some .sccrp => t.handleSCCRP env avps pending serial
  | some .icrp =>
    match t.sessions h.sessionID with
    | none => .of t (some .noSuchSession)
    | some s => t.handleICRP env s avps pending
  | some .scccn =>
    let (t, err) := t.handleSCCCN env avps t.outstandingChallenge
    .of t err
  | some .hello => .of t none
  | some .icrq =>
    match t.handleICRQ env avps with
    | (t, .error e) => .of t (some e)
    | (t, .ok (icrp, s)) =>
      let (t, err) := t.sendSession env icrp s.peerID
      .of t err
  | some .iccn =>
    match t.sessions h.sessionID with
    | none => .of t (some .noSuchSession)
    | some s =>
      let (t, err) := t.handleICCN s avps
      .of t err
  | some .cdn =>
    match t.sessions h.sessionID with
    | none => .of t (some .noSuchSession)
    | some s => .of (t.handleCDN s) none
  | _ => .of t (some .unsupportedMessageType)

end Tunnel
end Component

/-! ## The component -/

structure Component where
  objects : List Component.Tunnel
  tunnels : TunnelKey → Option Nat
  runners : TunnelKey → Option Nat
  tunnelIDs : Option Addr → Option IDAllocator
  lacPending : TunnelKey → Option LACBringUpRequest
  callSerial : UInt32
  decisions : List LACDecision
  /-- The consumer of punted packets runs. -/
  started : Bool

namespace Component

def new : Component where
  objects := []
  tunnels := fun _ => none
  runners := fun _ => none
  tunnelIDs := fun _ => none
  lacPending := fun _ => none
  callSerial := 0
  decisions := []
  started := false

def modify (c : Component) (i : Nat) (f : Tunnel → Tunnel) : Component :=
  { c with objects := c.objects.modify i f }

variable (c : Component) (peerIP : IP)

def lookupTunnel (localTunnelID : UInt16) : Option (Nat × Tunnel) :=
  match c.tunnels (makeTunnelKey peerIP localTunnelID) with
  | none => none
  | some i => (c.objects[i]?).map fun t => (i, t)

def allocateTunnelID : Component × Option UInt16 :=
  let r := ((c.tunnelIDs (canon peerIP)).getD newIDAllocator).allocate
  ({ c with tunnelIDs := update c.tunnelIDs (canon peerIP) (some r.1) }, r.2)

def releaseTunnelID (id : UInt16) : Component :=
  match c.tunnelIDs (canon peerIP) with
  | none => c
  | some a =>
    { c with tunnelIDs := update c.tunnelIDs (canon peerIP) (some (a.release id)) }

def registerTunnel (t : Tunnel) : Option Component :=
  match c.tunnels t.key with
  | some _ => none
  | none =>
    some { c with
      objects := c.objects ++ [t]
      tunnels := update c.tunnels t.key (some c.objects.length) }

variable (k : TunnelKey)

def unregisterTunnel : Component :=
  { c with tunnels := update c.tunnels k none }

variable (env : Env)

/-- The channel is new, with the window the source has for every peer. -/
def startTunnelRunner (i : Nat) (k : TunnelKey) : Component :=
  if env.sendConfigured then
    { c with runners := update c.runners k (some i) }.modify i fun t =>
      { t with channel := some (.new ⟨0, 0, 0, 16, 0⟩), running := true }
  else c

def stopTunnelRunner : Component :=
  match c.runners k with
  | none => c
  | some i =>
    { c with runners := update c.runners k none }.modify i fun t =>
      { t with running := false }

def clearLACPending : Component :=
  { c with lacPending := update c.lacPending k none }

def publishLACDecision (d : LACDecision) : Component :=
  { c with decisions := c.decisions ++ [d] }

/-- The end of both ways to a tunnel: its state machine leaves Idle, it is
registered and its runner is started. On an error the id is released. -/
def enterTunnel (t : Tunnel) (fsm : Option TunnelFSM) : Component × Except Err Nat :=
  match fsm with
  | none => (c.releaseTunnelID t.peerIP t.localID, .error .badTunnelTransition)
  | some fsm =>
    match c.registerTunnel { t with fsm := fsm } with
    | none => (c.releaseTunnelID t.peerIP t.localID, .error .tunnelExists)
    | some c' => (c'.startTunnelRunner env c.objects.length t.key, .ok c.objects.length)

def removeTunnel (localID : UInt16) : Component :=
  let k := makeTunnelKey peerIP localID
  ((c.stopTunnelRunner k).unregisterTunnel k).releaseTunnelID peerIP localID

/-! ## The LNS side of a new tunnel -/

/-- What an SCCRQ that is accepted says, with the challenge for its sender. -/
structure SCCRQ where
  peerHostname : Bytes
  peerTunnelID : UInt16
  challengeResp : Bytes
  challenge : Bytes

def readSCCRQ (avps : Body) (cfg : LNSConfig) : Except Err SCCRQ := do
  if decodeMessageType avps ≠ MessageType.sccrq.code then .error .notSCCRQ
  let hostName ← (findFirst avps 0 avpHostName).elim (.error .missingHostName) .ok
  let peerTunnelID ←
    (findUint16 avps avpAssignedTunnelID).elim (.error .missingAssignedTunnelID) .ok
  if cfg.challengeRequired ∧ findFirst avps 0 avpChallenge = none then .error .challengeRequired
  let challengeResp ← respondTo .sccrp cfg.secret avps
  let challenge ←
    if cfg.challengeRequired ∧ cfg.secret ≠ [] then
      (env.newChallenge 0).elim (.error .entropy) .ok
    else .ok []
  .ok ⟨hostName.value, peerTunnelID, challengeResp, challenge⟩

/-- Returns the reply and the number of the tunnel it is sent on. -/
def handleSCCRQ (localIP peerIP : IP) (avps : Body)
    (cfg : LNSConfig) : Component × Except Err (Body × Nat) :=
  match readSCCRQ env avps cfg with
  | .error e => (c, .error e)
  | .ok r =>
    match c.allocateTunnelID peerIP with
    | (c, none) => (c, .error .tunnelExhaustion)
    | (c, some localID) =>
      let t := .new .responder localIP peerIP localID r.peerTunnelID cfg.localHostname
        r.peerHostname cfg.secret r.challenge cfg.pppHdrSkip
      match c.enterTunnel env t t.fsm.recvSCCRQ with
      | (c, .error e) => (c, .error e)
      | (c, .ok i) =>
        (c, .ok (buildSCCRP ⟨localID, cfg.receiveWindowSize, cfg.localHostname,
          cfg.vendorName, r.challenge⟩ r.challengeResp, i))

variable (src dst : IP)

def dispatchSCCRQ (h : Header) (avps : Body) : Component × Option Err :=
  match findFirst avps 0 avpHostName with
  | none => (c, some .missingHostName)
  | some hostName =>
    match env.resolveLNSConfig with
    | none => (c, some .lnsConfigUnresolved)
    | some resolve =>
      match resolve hostName.value with
      | none => (c, some .lacNotAuthorized)
      | some cfg =>
        match c.handleSCCRQ env dst src avps cfg with
        | (c, .error e) => (c, some e)
        | (c, .ok (sccrp, i)) =>
          match c.objects[i]? with
          | none => (c, none)
          | some t =>
            -- The channel counts the SCCRQ whether or not it is the
            -- first message by its number.
            let (t', err) := (t.recv env h avps).1.sendSession env sccrp 0
            (c.modify i fun _ => t', err)

/-! ## Control messages on a tunnel -/

def handleStopCCN (i : Nat) (t : Tunnel) : Component :=
  let c := c.modify i fun t => { t with fsm := t.fsm.stop }
  (c.removeTunnel t.peerIP t.localID).modify i (.uninstallTunnelVPP env)

def apply (i : Nat) (k : TunnelKey) (r : Outcome) : Component :=
  let c := { c with callSerial := if r.serial then c.callSerial + 1 else c.callSerial }
  let c := c.modify i fun _ => r.tunnel
  match r.decision with
  | none => c
  | some d => (c.clearLACPending k).publishLACDecision d

def handleMessage (i : Nat) (t : Tunnel) (h : Header) (avps : Body) : Component × Option Err :=
  let msgType := MessageType.ofCode (decodeMessageType avps)
  if msgType = some .stopCCN then (c.handleStopCCN env i t, none)
  else
    let r := t.handle env h avps (c.lacPending t.key) (c.callSerial + 1) msgType
    (c.apply i t.key r, r.err)

def dispatchControl (h : Header) (avps : Body) : Component × Option Err :=
  if decodeMessageType avps = MessageType.sccrq.code then c.dispatchSCCRQ env src dst h avps
  else
    match c.lookupTunnel src h.tunnelID with
    | none => (c, some .noSuchTunnel)
    | some (i, t) =>
      let (t, accept) := t.recv env h avps
      let c := c.modify i fun _ => t
      if !accept then (c, none)
      else if avps = [] then (c, none)
      else c.handleMessage env i t h avps

def readPacket (body : Bytes) : Except Err (Header × Option Body) :=
  if isL2TPv3 body then .error .v3Unsupported
  else
    match parse body with
    | .error e => .error (.wire e)
    | .ok (h, payload) =>
      if h.version ≠ version2 then .error .unsupportedVersion
      else if !h.isControl then .ok (h, none)
      else
        match parseAVPs payload with
        | .error e => .error (.wire e)
        | .ok avps => .ok (h, some avps)

/-- A packet from the network. Data messages go to the PPP stack of their
session, which does not touch the tunnel. -/
def dispatch (body : Bytes) : Component × Option Err :=
  match readPacket body with
  | .error e => (c, some e)
  | .ok (h, none) =>
    match (c.lookupTunnel src h.tunnelID).bind fun (_, t) => t.sessions h.sessionID with
    | none => (c, some .noSuchSession)
    | some _ => (c, none)
  | .ok (h, some avps) => c.dispatchControl env src dst h avps

/-! ## The LAC side of a new tunnel -/

variable (req : LACBringUpRequest)

def localIPFor (spec : TunnelSpec) : IP :=
  if req.localIP ≠ [] then req.localIP
  else if spec.clientIP ≠ [] then spec.clientIP
  else env.lookupConfiguredSourceIP spec.serverIP

def tryLACTunnel (attempt : Nat) (req : LACBringUpRequest)
    (spec : TunnelSpec) : Component × Option Err :=
  let localIP := localIPFor env req spec
  if localIP = [] then (c, some .noLocalIP)
  else
    match c.allocateTunnelID spec.serverIP with
    | (c, none) => (c, some .tunnelExhaustion)
    | (c, some localTunnelID) =>
      let hostName := if req.localName = [] then env.localHostname else req.localName
      match if spec.password = [] then some [] else env.newChallenge attempt with
      | none => (c.releaseTunnelID spec.serverIP localTunnelID, some .entropy)
      | some challenge =>
        let t := .new .initiator localIP spec.serverIP localTunnelID 0 hostName []
          spec.password challenge spec.pppHdrSkip
        match c.enterTunnel env t t.fsm.sendSCCRQ with
        | (c, .error e) => (c, some e)
        | (c, .ok i) =>
          let c := { c with lacPending := update c.lacPending t.key (some req) }
          match c.objects[i]? with
          | none => (c, none)
          | some t =>
            match t.sendSession env (buildSCCRQ ⟨localTunnelID, 16, hostName, [], challenge⟩) 0 with
            | (t', none) => (c.modify i fun _ => t', none)
            | (t', some e) =>
              let c := c.modify i fun _ => t'
              let c := c.removeTunnel spec.serverIP localTunnelID
              (c.clearLACPending t.key, some e)

/-- The loop over the candidates that are left, the number of attempts and of
candidates that were denied before. -/
def tryCandidates (env : Env) (req : LACBringUpRequest) :
    (attempt skipped : Nat) → List TunnelSpec → Component → Component × Option Err
  | _, skipped, [], c =>
    let e : Err :=
      if 0 < skipped ∧ skipped = req.tunnelSpecs.length then .allCandidatesDenied
      else .noTunnelCandidates
    (c.publishLACDecision (.failed req.pppoeSessionID e), some e)
  | attempt, skipped, spec :: specs, c =>
    if spec.serverIP = [] then tryCandidates env req attempt skipped specs c
    else if env.isDenied spec.serverIP then tryCandidates env req attempt (skipped + 1) specs c
    else
      match c.tryLACTunnel env attempt req spec with
      | (c, none) => (c, none)
      | (c, some _) => tryCandidates env req (attempt + 1) skipped specs c

def startLACSession : Component × Option Err :=
  if req.tunnelSpecs = [] then (c, some .noTunnelCandidates)
  else if !env.sendConfigured then (c, some .sendNotConfigured)
  else tryCandidates env req 0 0 req.tunnelSpecs c

/-! ## Runners -/

/-- What the channel calls when it gives its peer up. -/
def onDead (i : Nat) (t : Tunnel) : Component :=
  let c := c.modify i fun t => { t with fsm := t.fsm.stop }
  (c.unregisterTunnel t.key).modify i (.uninstallTunnelVPP env)

/-- A round of the loop of a runner. It goes on after the channel has given up. -/
def tick (env : Env) (i : Nat) (t : Tunnel) : Component :=
  match t.channel with
  | none => c
  | some e =>
    let c := c.modify i fun t =>
      { t with channel := some (e.tick env.now env.sendOk).1 }
    if (e.channel.tick env.now env.sendOk).1 then c.onDead env i t else c

/-- Ends the component: the runners it knows are stopped and its tunnels
forgotten. -/
def stop : Component :=
  { c with
    started := false
    runners := fun _ => none
    tunnels := fun _ => none
    objects := c.objects.mapIdx fun i t =>
      if c.runners t.key = some i then { t with running := false } else t }

inductive Event where
  | punt (src dst : IP) (body : Bytes)
  | startLACSession (req : LACBringUpRequest)
  /-- The timers of the runner of a tunnel. -/
  | tick (i : Nat)
  | hello (i : Nat)
  | start
  | stop

structure Input where
  event : Event
  env : Env

def next (i : Input) : Option Component :=
  match i.event with
  | .punt src dst body => if c.started then some (c.dispatch i.env src dst body).1 else none
  | .startLACSession req => some (c.startLACSession i.env req).1
  | .tick n =>
    match c.objects[n]? with
    | none => none
    | some t => if t.running then some (c.tick i.env n t) else none
  | .hello n =>
    match c.objects[n]? with
    | none => none
    | some t =>
      if t.running then
        some (c.modify n fun t => (t.sendSession i.env buildHello 0).1)
      else none
  | .start => some { c with started := true }
  | .stop => some c.stop

def Initial : Prop := c = new

theorem initial_new : Initial new := rfl

def machine : Machine Component Input := .ofNext Initial next

end Component
end Osvbng.L2tp
