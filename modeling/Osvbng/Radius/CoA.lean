import Osvbng.Lib.NetIP
import Osvbng.Radius.Packet

/-!
# The CoA listener

A datagram goes through the read loop and one of two handlers, and in the end
changes a subscriber session, terminates one, or does neither. The listener
asks the session components by events; what they answer only decides the code
of the reply and is not modelled.

Compiled regular expressions of custom mappings are functions from a value to
the first group they match.
-/

namespace Osvbng.Radius
open Function Option List Lib Lib.Slice Lib.NetIP Md5

def codeDisconnectRequest : UInt8 := 40
def codeCoARequest : UInt8 := 43

def attrTypeUserName : UInt8 := 1
def attrTypeServiceType : UInt8 := 6
def attrTypeFramedIPAddress : UInt8 := 8
def attrTypeNASIdentifier : UInt8 := 32
def attrTypeProxyState : UInt8 := 33
def attrTypeAcctSessionID : UInt8 := 44
def attrTypeEventTimestamp : UInt8 := 55
def attrTypeMessageAuth : UInt8 := 80
def attrTypeErrorCause : UInt8 := 101
def attrTypeFramedIPv6Address : UInt8 := 168

/-! ## Attributes -/

abbrev Attrs := List (String × Bytes)

def Attrs.put (attrs : Attrs) (name : String) (value : Bytes) : Attrs :=
  (name, value) :: attrs.filter fun a => a.1 ≠ name

def Attrs.putAll (attrs delta : Attrs) : Attrs :=
  delta.foldl (fun attrs a => attrs.put a.1 a.2) attrs

structure Mapping where
  internal : String
  /-- The text of a value; the empty text is no value. -/
  decode : Bytes → Bytes

structure CustomMapping where
  vendorID : Nat
  vendorType : UInt8
  internal : String
  extract : Option (Bytes → Option Bytes)

structure Dictionary where
  tier1Index : UInt8 → Option Mapping
  tier2Index : Nat → UInt8 → Option Mapping
  tier3 : List CustomMapping

namespace Dictionary

def store (m : Option Mapping) (value : Bytes) (attrs : Attrs) : Attrs :=
  match m with
  | none => attrs
  | some m => if m.decode value = [] then attrs else attrs.put m.internal (m.decode value)

def storeCustom (vendorID : Nat) (vsaType : UInt8) (value : Bytes) (attrs : Attrs)
    (cm : CustomMapping) : Attrs :=
  if cm.vendorID = vendorID ∧ cm.vendorType = vsaType then
    match cm.extract with
    | none => attrs.put cm.internal value
    | some extract =>
      match extract value with
      | none => attrs
      | some group => attrs.put cm.internal group
  else attrs

def extractVSAFrom (d : Dictionary) (vendorID : Nat) (raw : Bytes) :
    (fuel offset : Nat) → Attrs → Attrs
  | 0, _, attrs => attrs
  | fuel + 1, offset, attrs =>
    if offset + 2 ≤ raw.length then
      let vsaType := raw.getD offset 0
      let vsaLen := (raw.getD (offset + 1) 0).toNat
      if vsaLen < 2 ∨ raw.length < offset + vsaLen then attrs
      else
        let vsaData := (raw.take (offset + vsaLen)).drop (offset + 2)
        let attrs := store (d.tier2Index vendorID vsaType) vsaData attrs
        let attrs := d.tier3.foldl (storeCustom vendorID vsaType vsaData) attrs
        d.extractVSAFrom vendorID raw fuel (offset + vsaLen) attrs
    else attrs

def extractVSA (d : Dictionary) (raw : Bytes) (attrs : Attrs) : Attrs :=
  if raw.length < 7 then attrs
  else d.extractVSAFrom (beNat (raw.take 4)) raw raw.length 4 attrs

def extractAttributes (d : Dictionary) (packet : Packet) : Attrs :=
  packet.attributes.foldl (fun attrs avp =>
    let attrs := store (d.tier1Index avp.1) avp.2 attrs
    if avp.1 = 26 then d.extractVSA avp.2 attrs else attrs) []

end Dictionary

def nonMutableAttrs : List String :=
  ["ipv4_address", "ipv4_netmask", "ipv6_address", "ipv6_prefix", "ipv6_wan_prefix", "pool",
    "iana_pool", "pd_pool", "vrf", "unnumbered", "urpf", "routed_prefix", "username", "password",
    "dns_primary", "dns_secondary"]

def stripNonMutableAttrs (attrs : Attrs) : Attrs := attrs.filter fun a => a.1 ∉ nonMutableAttrs

/-! ## Checks -/

/-- The session a request is about, by the first identifier it gives. -/
inductive Target where
  | acctSessionID (id : Bytes)
  | framedIPv4 (ip : IP)
  | username (name : Bytes)
  | framedIPv6 (ip : IP)
deriving DecidableEq

variable (packet : Packet)

def firstOf (type : UInt8) (ok : Bytes → Bool) : Option Bytes :=
  (packet.attributes.find? fun avp => avp.1 = type && ok avp.2).map Prod.snd

/-- `none` is a missing attribute. -/
def resolveCoATarget : Option Target :=
  ((firstOf packet attrTypeAcctSessionID (· ≠ [])).map .acctSessionID).or <|
    ((firstOf packet attrTypeFramedIPAddress (·.length = 4)).map .framedIPv4).or <|
      ((firstOf packet attrTypeUserName (· ≠ [])).map .username).or <|
        (firstOf packet attrTypeFramedIPv6Address (·.length = 16)).map .framedIPv6

/-- Only the first NAS-Identifier is looked at. -/
def validateNASIdentifier (expected : Bytes) : Bool :=
  match firstOf packet attrTypeNASIdentifier fun _ => true with
  | none => true
  | some value => expected = [] || value = expected

def hasServiceType (value : Nat) : Bool :=
  packet.attributes.any fun avp =>
    avp.1 = attrTypeServiceType && avp.2.length = 4 && beNat avp.2 = value

def getEventTimestamp : Nat :=
  ((firstOf packet attrTypeEventTimestamp (·.length = 4)).map beNat).getD 0

def identificationAttrTypes : List UInt8 :=
  [attrTypeUserName, attrTypeFramedIPAddress, attrTypeAcctSessionID, attrTypeFramedIPv6Address,
    attrTypeNASIdentifier, 4, 5, 31, 61, 87, attrTypeEventTimestamp, attrTypeMessageAuth,
    attrTypeProxyState, attrTypeErrorCause]

def hasNonIdentificationAttrs : Bool :=
  packet.attributes.any fun avp => avp.1 ∉ identificationAttrTypes

/-- The Message-Authenticator is compared with the HMAC of the packet as it
came, its value set to zero; without one the packet passes. -/
def validateMessageAuthenticator (raw secret : Bytes) : Bool :=
  match findAttr80 raw with
  | none => true
  | some offset =>
    (raw.drop offset).take 16 = hmac secret (splice raw offset (replicate 16 0))

/-! ## Requests -/

structure CoaClient where
  network : IPNet
  secret : Bytes

structure CoaConfig where
  clients : List CoaClient
  coaReplayWindow : Int
  nasIdentifier : Bytes
  dictionary : Dictionary

/-- What the listener asks the session components for. It never asks for an
empty change. -/
inductive Action where
  | mutate (target : Target) (delta : Attrs) (hdelta : delta ≠ [])
  | terminate (target : Target)

/-- A datagram, with the time at which it is handled and whether the queue to
the handlers is full when it arrives. -/
structure Datagram where
  src : IP
  raw : Bytes
  now : Int
  queueFull : Bool

namespace CoaConfig
variable (cfg : CoaConfig)

def findClient (src : IP) : Option CoaClient :=
  cfg.clients.find? fun client => client.network.contains src

/-- A replay window is set, the request has a timestamp and it is too old or
too new. -/
def replayed (now : Int) (packet : Packet) : Bool :=
  let age := now - getEventTimestamp packet
  0 < cfg.coaReplayWindow && 0 < getEventTimestamp packet &&
    (cfg.coaReplayWindow < age || age < -cfg.coaReplayWindow)

def handleCoARequest (now : Int) (packet : Packet) : Option Action :=
  if hasServiceType packet 8 then none
  else if cfg.replayed now packet then none
  else
    match resolveCoATarget packet with
    | none => none
    | some target =>
      if !validateNASIdentifier packet cfg.nasIdentifier then none
      else
        let attrs := stripNonMutableAttrs (cfg.dictionary.extractAttributes packet)
        if hattrs : attrs = [] then none else some (.mutate target attrs hattrs)

def handleDisconnectRequest (packet : Packet) : Option Action :=
  if hasNonIdentificationAttrs packet then none
  else
    match resolveCoATarget packet with
    | none => none
    | some target =>
      if !validateNASIdentifier packet cfg.nasIdentifier then none
      else some (.terminate target)

def handleRequest (now : Int) (packet : Packet) : Option Action :=
  if packet.code = codeCoARequest then cfg.handleCoARequest now packet
  else if packet.code = codeDisconnectRequest then cfg.handleDisconnectRequest packet
  else none

def receive (lib : Library) (d : Datagram) : Option Action :=
  match cfg.findClient d.src with
  | none => none
  | some client =>
    match lib.parse d.raw with
    | none => none
    | some packet =>
      if !validateMessageAuthenticator d.raw client.secret then none
      else if d.queueFull then none
      else cfg.handleRequest d.now packet

end CoaConfig

/-! ## Sessions -/

/-- The indexes of the session components, and the attributes of the sessions
that are neither closing nor released. -/
structure Subscribers (S : Type) where
  resolve : Target → Option S
  sessions : S → Option Attrs

namespace Subscribers
variable {S : Type} [DecidableEq S]

def apply (subs : Subscribers S) : Option Action → Subscribers S
  | none => subs
  | some (.mutate target delta _) =>
    match subs.resolve target with
    | none => subs
    | some s =>
      { subs with
        sessions := update subs.sessions s ((subs.sessions s).map (·.putAll delta)) }
  | some (.terminate target) =>
    match subs.resolve target with
    | none => subs
    | some s =>
      { subs with
        sessions := update subs.sessions s none }

theorem putAll_ne_nil {attrs delta : Attrs} (h : delta ≠ []) : attrs.putAll delta ≠ [] := by
  induction delta generalizing attrs with
  | nil => exact absurd rfl h
  | cons a delta ih =>
    cases delta with
    | nil => exact cons_ne_nil _ _
    | cons b delta => exact ih (cons_ne_nil _ _)

/-- Everything the listener asks for changes the sessions of some table. -/
theorem exists_apply_ne [Inhabited S] (action : Action) :
    ∃ subs : Subscribers S, subs.apply (some action) ≠ subs := by
  refine ⟨⟨fun _ => some default, fun _ => some []⟩, fun heq => ?_⟩
  have hsession := congrFun (congrArg Subscribers.sessions heq) default
  cases action with
  | mutate target delta hdelta =>
    simp only [apply, update_self, map_some, Option.some.injEq] at hsession
    exact putAll_ne_nil hdelta hsession
  | terminate target => simp [apply] at hsession

end Subscribers

/-! ## Whose requests are served -/

/-- The attributes of a datagram: where the value starts, the type, and how
long the value is. -/
def attributeSpans (raw : Bytes) : (fuel i : Nat) → List (Nat × UInt8 × Nat)
  | 0, _ => []
  | fuel + 1, i =>
    let attrLen := (raw.getD (i + 1) 0).toNat
    if raw.length < i + 2 ∨ attrLen < 2 ∨ raw.length < i + attrLen then []
    else (i + 2, raw.getD i 0, attrLen - 2) :: attributeSpans raw fuel (i + attrLen)

/-- `MD5(Code + ID + Length + 16 zero octets + Attributes + Secret)`. -/
def requestAuthenticator (raw secret : Bytes) : Bytes :=
  sum (raw.take 4 ++ replicate 16 0 ++ attributesOf raw ++ secret)

/-- The HMAC over the request whose authenticator and Message-Authenticator are
both taken as sixteen zero octets. -/
def requestMessageAuthenticator (raw secret : Bytes) (offset : Nat) : Bytes :=
  let zero := replicate 16 0
  hmac secret (splice (splice (raw.take (lengthField raw)) 4 zero) offset zero)

/-- A request from someone who knows the secret, by both authenticators. -/
structure Authentic (raw secret : Bytes) : Prop where
  authenticator : authenticatorOf raw = requestAuthenticator raw secret
  messageAuthenticator : ∀ x ∈ attributeSpans (raw.take (lengthField raw)) raw.length 20,
    x.2.1 = attrTypeMessageAuth → x.2.2 = 16 ∧
      (raw.drop x.1).take 16 = requestMessageAuthenticator raw secret x.1

namespace CoaConfig
variable (cfg : CoaConfig) (lib : Library) (d : Datagram)

def Timely (packet : Packet) : Prop :=
  0 < cfg.coaReplayWindow → ∀ avp ∈ packet.attributes,
    avp.1 = attrTypeEventTimestamp → avp.2.length = 4 →
      |d.now - (beNat avp.2 : Int)| ≤ cfg.coaReplayWindow

/-- The request of a client, made with its secret and in time. -/
def Genuine : Prop :=
  ∃ client packet, cfg.findClient d.src = some client ∧ lib.parse d.raw = some packet ∧
    Authentic d.raw client.secret ∧ cfg.Timely d packet

/-- A request that names no session, or names another NAS. -/
def Misdirected (packet : Packet) : Prop :=
  resolveCoATarget packet = none ∨ validateNASIdentifier packet cfg.nasIdentifier = false

def TurnedDown (packet : Packet) : Prop :=
  (packet.code ≠ codeCoARequest ∧ packet.code ≠ codeDisconnectRequest) ∨
  cfg.Misdirected packet ∨
  (packet.code = codeCoARequest ∧ (hasServiceType packet 8 ∨ cfg.replayed d.now packet ∨
    stripNonMutableAttrs (cfg.dictionary.extractAttributes packet) = [])) ∨
  (packet.code = codeDisconnectRequest ∧ hasNonIdentificationAttrs packet)

/-- A datagram that is dropped on the way: from an unknown source, unreadable,
with a Message-Authenticator other than the one expected, or turned down. -/
def Stopped : Prop :=
  ∀ client ∈ cfg.findClient d.src, ∀ packet ∈ lib.parse d.raw,
    validateMessageAuthenticator d.raw client.secret = false ∨ d.queueFull ∨ cfg.TurnedDown d packet

variable {cfg lib d}

theorem handleCoARequest_eq_none_iff {now : Int} {packet : Packet} :
    cfg.handleCoARequest now packet = none ↔
      cfg.Misdirected packet ∨ hasServiceType packet 8 ∨ cfg.replayed now packet ∨
        stripNonMutableAttrs (cfg.dictionary.extractAttributes packet) = [] := by
  unfold handleCoARequest Misdirected
  cases hservice : hasServiceType packet 8 with
  | true => simp
  | false =>
    cases hreplayed : cfg.replayed now packet with
    | true => simp
    | false =>
      cases htarget : resolveCoATarget packet with
      | none => simp
      | some target => cases validateNASIdentifier packet cfg.nasIdentifier <;> simp

theorem handleDisconnectRequest_eq_none_iff {packet : Packet} :
    cfg.handleDisconnectRequest packet = none ↔
      cfg.Misdirected packet ∨ hasNonIdentificationAttrs packet := by
  unfold handleDisconnectRequest Misdirected
  cases hattrs : hasNonIdentificationAttrs packet with
  | true => simp
  | false =>
    cases htarget : resolveCoATarget packet with
    | none => simp
    | some target => cases validateNASIdentifier packet cfg.nasIdentifier <;> simp

theorem handleRequest_eq_none_iff {packet : Packet} :
    cfg.handleRequest d.now packet = none ↔ cfg.TurnedDown d packet := by
  unfold handleRequest TurnedDown
  by_cases hcoa : packet.code = codeCoARequest
  · have hne : codeCoARequest ≠ codeDisconnectRequest := by decide
    rw [if_pos hcoa, handleCoARequest_eq_none_iff]
    simp [hcoa, hne]
  · rw [if_neg hcoa]
    by_cases hdisconnect : packet.code = codeDisconnectRequest
    · have hne : codeDisconnectRequest ≠ codeCoARequest := by decide
      rw [if_pos hdisconnect, handleDisconnectRequest_eq_none_iff]
      simp [hdisconnect, hne]
    · simp [hcoa, hdisconnect]

theorem receive_eq_none_iff : cfg.receive lib d = none ↔ cfg.Stopped lib d := by
  unfold receive Stopped
  cases hclient : cfg.findClient d.src with
  | none => simp
  | some client =>
    cases hparse : lib.parse d.raw with
    | none => simp
    | some packet =>
      simp only [mem_some_iff, forall_eq']
      rw [← handleRequest_eq_none_iff]
      cases hma : validateMessageAuthenticator d.raw client.secret with
      | false => simp
      | true => cases hfull : d.queueFull <;> simp

/-- A datagram changes or terminates a session, in whatever table of sessions,
only if it is genuine: this holds of the genuine datagrams and of those that
are stopped by a check of another kind. -/
theorem changes_genuine_iff (cfg : CoaConfig) (lib : Library) (d : Datagram) (S : Type)
    [DecidableEq S] [Inhabited S] :
    (∀ subs : Subscribers S, subs.apply (cfg.receive lib d) ≠ subs → cfg.Genuine lib d) ↔
      cfg.Genuine lib d ∨ cfg.Stopped lib d := by
  rw [← receive_eq_none_iff]
  constructor
  · intro h
    cases haction : cfg.receive lib d with
    | none => exact .inr rfl
    | some action =>
      obtain ⟨subs, hne⟩ := Subscribers.exists_apply_ne (S := S) action
      exact .inl (h subs (by rwa [haction]))
  · rintro (hgenuine | hnone) subs hne
    · exact hgenuine
    · rw [hnone] at hne
      exact absurd rfl hne

def oneClient : CoaConfig where
  clients := [⟨⟨[192, 0, 2, 1], 32, 32⟩, [0x73]⟩]
  coaReplayWindow := 300
  nasIdentifier := []
  dictionary := ⟨fun _ => none, fun _ _ => none, []⟩

def forgedDisconnect : Datagram where
  src := [192, 0, 2, 1]
  raw := [codeDisconnectRequest, 1, 0, 23] ++ replicate 16 0 ++
    [attrTypeAcctSessionID, 3, 0x61]
  now := 0
  queueFull := false

/-- It terminates the session. -/
theorem forged_disconnect_terminates :
    ¬oneClient.Genuine .reference forgedDisconnect ∧
      ∃ subs : Subscribers Unit, subs.sessions () = some [] ∧
        (subs.apply (oneClient.receive .reference forgedDisconnect)).sessions () = none := by
  refine ⟨?_, ⟨fun _ => some (), fun _ => some []⟩, rfl, by decide⟩
  rintro ⟨client, packet, hclient, -, hauthentic, -⟩
  have hsecret : client.secret = [0x73] := by
    cases (show some _ = some client from hclient)
    rfl
  have hzero := hauthentic.authenticator
  rw [hsecret] at hzero
  revert hzero
  decide +kernel

end CoaConfig
end Osvbng.Radius
