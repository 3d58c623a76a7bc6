import Osvbng.Lib.Run
import Osvbng.Pppoe.Session

/-!
# The PPPoE component

All sessions of the component over one registry, and the operational database
from which a restart of the control plane brings them back. The component
terminates its subscribers itself: no group hands them to a tunnel.

A restart builds the registry anew from the configuration. It does not reserve
the addresses of the sessions it brings back.
-/

namespace Osvbng.Pppoe
open Function Lib Lib.NetIP Ppp Allocator Host

structure Component (K N S Q : Type) where
  /-- The registry as the configuration builds it. -/
  config : Registry K N S
  registry : Registry K N S
  /-- The sessions in memory, and whether the indexes still hold them. -/
  sessions : S → Option (Session K N S Q × Bool)
  opdb : S → Option (Session K N S Q)

inductive ComponentEvent (N S Q : Type) where
  /-- A discovery request; the identifier and the magic number are drawn at
  random. -/
  | padr (sessionID : S) (defaultVRF : N) (magic : Nat) (ipv6cp : Ipv6cp)
  | session (sessionID : S) (event : Event N Q)
  /-- The dataplane has programmed the session, which is stored once more. -/
  | vppSessionCreated (sessionID : S)
  /-- The control plane restarts; `expired` are the entries it finds too old. -/
  | restart (expired : S → Bool) (magic : S → Nat) (ipv6cp : S → Ipv6cp)

structure ComponentInput (K N S Q : Type) where
  env : Env K N Q
  event : ComponentEvent N S Q

namespace Component
variable {K N S Q : Type}

/-- A stored session with its automata rebuilt. Only exported fields are
stored, so the pools it allocated from are lost. -/
def installInMemoryState (env : Env K N Q) (magic : Nat) (ipv6cp : Ipv6cp)
    (s : Session K N S Q) : Session K N S Q :=
  let new : Session K N S Q := .new s.sessionID s.vrf magic ipv6cp
  let lcp :=
    if s.lcpMagic = 0 then new.lcp
    else { new.lcp with handler := { new.lcp.handler with localConfig :=
      { new.lcp.handler.localConfig with magic := s.lcpMagic } } }
  let isOpen := s.phase = .open
  let hasIPv4 := isOpen ∧ s.ipv4Address ≠ []
  let hasIPv6 := isOpen ∧ s.ipv6Address ≠ []
  { new with
    phase := s.phase
    ipv4Address := to16 s.ipv4Address
    ipv6Address := to16 s.ipv6Address
    ipv6Prefix := s.ipv6Prefix
    dns1 := to16 s.dns1
    dns2 := to16 s.dns2
    username := s.username
    attributes := s.attributes
    lcpMagic := s.lcpMagic
    lcp := if isOpen then lcp.restore else lcp
    ipcp := if hasIPv4 then new.ipcp.restore else new.ipcp
    ipcpOpen := hasIPv4
    ipv6cp := if hasIPv6 then (configureIPv6CP env new).ipv6cp.restore else new.ipv6cp
    ipv6cpOpen := hasIPv6 }

def store (s : Session K N S Q) : List (Effect Q) → Option (Session K N S Q) →
    Option (Session K N S Q)
  | [], entry => entry
  | .checkpoint :: out, _ => store s out (some s)
  | .deleteCheckpoint :: out, _ => store s out none
  | _ :: out, entry => store s out entry

variable [DecidableEq S]

/-- Takes over what a step of a session has done. -/
def put (c : Component K N S Q) (sessionID : S) (h : Host K N S Q) (live : Bool) :
    Component K N S Q :=
  { c with
    registry := h.registry
    sessions := update c.sessions sessionID (some (h.session, live))
    opdb := update c.opdb sessionID (store h.session h.out (c.opdb sessionID)) }

variable [DecidableEq K] [DecidableEq N] [DecidableEq Q]

def handlePADR (env : Env K N Q) (c : Component K N S Q) (sessionID : S) (defaultVRF : N)
    (magic : Nat) (ipv6cp : Ipv6cp) : Component K N S Q :=
  c.put sessionID (.up env ⟨.new sessionID defaultVRF magic ipv6cp, c.registry, []⟩) true

/-- An event of one session. What is left of a session after its removal still
gets the events that were under way. -/
def handleSession (env : Env K N Q) (c : Component K N S Q) (sessionID : S)
    (event : Event N Q) : Option (Component K N S Q) :=
  match c.sessions sessionID with
  | none => none
  | some (s, live) =>
    if live || event.afterRemoval then
      (handleEvent env ⟨s, c.registry, []⟩ event).map fun h =>
        c.put sessionID h (live && !(event matches .terminate))
    else none

variable (c : Component K N S Q)

def onVPPSessionCreated (sessionID : S) : Option (Component K N S Q) :=
  match c.sessions sessionID with
  | some (s, true) => some { c with opdb := update c.opdb sessionID (some s) }
  | _ => none

def restoreSessions (env : Env K N Q) (c : Component K N S Q) (expired : S → Bool)
    (magic : S → Nat) (ipv6cp : S → Ipv6cp) : Component K N S Q :=
  let kept := fun sessionID => if expired sessionID then none else c.opdb sessionID
  { c with
    registry := c.config
    sessions := fun sessionID => (kept sessionID).map fun s =>
      (installInMemoryState env (magic sessionID) (ipv6cp sessionID) s, true)
    opdb := kept }

/-- The events of a hand-off to a tunnel, which no group asks for here. -/
def isLAC : Event N Q → Bool
  | .lacDecision .. | .lacVPPSessionCreated .. => true
  | _ => false

def next (i : ComponentInput K N S Q) : Option (Component K N S Q) :=
  if i.env.lacEnabled then none
  else
    match i.event with
    | .padr sessionID defaultVRF magic ipv6cp =>
      if (c.sessions sessionID).isSome then none
      else some (c.handlePADR i.env sessionID defaultVRF magic ipv6cp)
    | .session sessionID event =>
      if isLAC event then none else c.handleSession i.env sessionID event
    | .vppSessionCreated sessionID => c.onVPPSessionCreated sessionID
    | .restart expired magic ipv6cp => some (c.restoreSessions i.env expired magic ipv6cp)

def Initial : Prop :=
  (∀ pool a, c.config.v4.allocators pool = some a → a.IsNew) ∧
    c.registry = c.config ∧ (∀ id, c.sessions id = none) ∧ ∀ id, c.opdb id = none

def machine (K N S Q : Type) [DecidableEq K] [DecidableEq N] [DecidableEq S] [DecidableEq Q] :
    Machine (Component K N S Q) (ComponentInput K N S Q) :=
  .ofNext Initial next

end Component
end Osvbng.Pppoe
