import Osvbng.Lib.Md5

/-!
# Control messages

Headers and attribute-value pairs (AVPs) as they stand on the wire, the messages
an endpoint builds, and the challenge with which the two ends of a tunnel prove
that they know its secret. A message is the list of its AVPs; names and secrets
are byte strings.
-/

namespace Osvbng.L2tp
open Option List Lib
open Lib.Slice

def be16 (v : UInt16) : Bytes := putBe 2 v.toNat

def be32 (v : UInt32) : Bytes := putBe 4 v.toNat

variable (b : Bytes)

def word (off : Nat) : UInt16 := .ofNat (beNat ((b.drop off).take 2))

inductive WireError where
  | shortPacket
  | reservedBits
  | lengthInvalid
  | avpShort
  | avpReserved
  | avpLengthTooSmall
  | avpLengthTooBig
  | avpHiddenNoRV
deriving DecidableEq

/-! ## Headers -/

def flagT : UInt16 := 0x8000
def flagL : UInt16 := 0x4000
def flagS : UInt16 := 0x0800
def flagO : UInt16 := 0x0200
def flagP : UInt16 := 0x0100
def verMask : UInt16 := 0x000f
def resMask : UInt16 := 0x34f0

def version2 : UInt8 := 2
def version3 : UInt8 := 3

structure Header where
  isControl : Bool
  hasLength : Bool
  hasSequence : Bool
  hasOffset : Bool
  priority : Bool
  version : UInt8
  length : UInt16
  tunnelID : UInt16
  sessionID : UInt16
  ns : UInt16
  nr : UInt16
  offsetSize : UInt16
  headerLen : Nat
deriving DecidableEq

def minHeaderLen : Nat := 6

def hasFlag (flags flag : UInt16) : Bool := flags &&& flag != 0

def needs (n : Nat) : Except WireError Unit :=
  if b.length < n then .error .shortPacket else .ok ()

def parse : Except WireError (Header × Bytes) := do
  needs b minHeaderLen
  let flags := word b 0
  if flags &&& resMask ≠ 0 then .error .reservedBits
  let hasLength := hasFlag flags flagL
  let hasSequence := hasFlag flags flagS
  let hasOffset := hasFlag flags flagO
  let ids := if hasLength then 4 else 2
  needs b (ids + 4)
  let sequence := ids + 4
  let offset := if hasSequence then sequence + 4 else sequence
  needs b offset
  let offsetSize ← if hasOffset then do
      needs b (offset + 2)
      needs b (offset + 2 + (word b offset).toNat)
      pure (word b offset)
    else pure 0
  let off := if hasOffset then offset + 2 + offsetSize.toNat else offset
  let length := if hasLength then word b 2 else 0
  if hasLength then do
    if length.toNat < off then .error .lengthInvalid
    needs b length.toNat
  pure ({ isControl := hasFlag flags flagT
          hasLength := hasLength
          hasSequence := hasSequence
          hasOffset := hasOffset
          priority := hasFlag flags flagP
          version := (flags &&& verMask).toUInt8
          length := length
          tunnelID := word b ids
          sessionID := word b (ids + 2)
          ns := if hasSequence then word b sequence else 0
          nr := if hasSequence then word b (sequence + 2) else 0
          offsetSize := offsetSize
          headerLen := off }, b.drop off)

def isL2TPv3 : Bool :=
  2 ≤ b.length && (word b 0 &&& verMask).toUInt8 == version3

namespace Header
variable (h : Header)

def headerLenBytes : Nat :=
  6 + (if h.hasLength then 2 else 0) + (if h.hasSequence then 4 else 0) +
    (if h.hasOffset then 2 + h.offsetSize.toNat else 0)

def flags : UInt16 :=
  (if h.isControl then flagT else 0) ||| (if h.hasLength then flagL else 0) |||
    (if h.hasSequence then flagS else 0) ||| (if h.hasOffset then flagO else 0) |||
    (if h.priority then flagP else 0) ||| (h.version.toUInt16 &&& verMask)

def appendTo (dst : Bytes) (bodyLen : Nat) : Bytes :=
  dst ++ be16 h.flags ++
    (if h.hasLength then be16 (.ofNat (h.headerLenBytes + bodyLen)) else []) ++
    be16 h.tunnelID ++ be16 h.sessionID ++
    (if h.hasSequence then be16 h.ns ++ be16 h.nr else []) ++
    (if h.hasOffset then be16 h.offsetSize ++ replicate h.offsetSize.toNat 0 else [])

end Header

def newControl (tunnelID sessionID ns nr : UInt16) : Header where
  isControl := true
  hasLength := true
  hasSequence := true
  hasOffset := false
  priority := false
  version := version2
  length := 0
  tunnelID := tunnelID
  sessionID := sessionID
  ns := ns
  nr := nr
  offsetSize := 0
  headerLen := 0

/-! ## Attribute-value pairs -/

def avpHeaderLen : Nat := 6
def avpFlagM : UInt16 := 0x8000
def avpFlagH : UInt16 := 0x4000
def avpLenMask : UInt16 := 0x03ff
def avpResMask : UInt16 := 0x3c00

def vendorIETF : UInt16 := 0

def avpMessageType : UInt16 := 0
def avpProtocolVersion : UInt16 := 2
def avpFramingCapabilities : UInt16 := 3
def avpBearerCapabilities : UInt16 := 4
def avpHostName : UInt16 := 7
def avpVendorName : UInt16 := 8
def avpAssignedTunnelID : UInt16 := 9
def avpReceiveWindowSize : UInt16 := 10
def avpChallenge : UInt16 := 11
def avpChallengeResponse : UInt16 := 13
def avpAssignedSessionID : UInt16 := 14
def avpCallSerialNumber : UInt16 := 15
def avpFramingType : UInt16 := 19
def avpTxConnectSpeed : UInt16 := 24
def avpLastSentLCPConfReq : UInt16 := 27
def avpLastRecvLCPConfReq : UInt16 := 28
def avpProxyAuthenType : UInt16 := 29
def avpProxyAuthenName : UInt16 := 30
def avpProxyAuthenChallenge : UInt16 := 31
def avpProxyAuthenResponse : UInt16 := 33
def avpCallErrors : UInt16 := 34
def avpACCM : UInt16 := 35
def avpRandomVector : UInt16 := 36

structure AVP where
  mandatory : Bool
  hidden : Bool
  vendorID : UInt16
  type : UInt16
  value : Bytes
deriving DecidableEq

/-- The loop of `ParseAVPs`, with a bound on its rounds: each takes at least the
six bytes of a header. -/
def parseAVPsLoop : (fuel : Nat) → (seenRV : Bool) → Bytes → Except WireError (List AVP)
  | 0, _, _ => .ok []
  | fuel + 1, seenRV, b =>
    if b = [] then .ok []
    else if b.length < avpHeaderLen then .error .avpShort
    else
      let flagsLen := word b 0
      let length := (flagsLen &&& avpLenMask).toNat
      if flagsLen &&& avpResMask ≠ 0 then .error .avpReserved
      else if length < avpHeaderLen then .error .avpLengthTooSmall
      else if b.length < length then .error .avpLengthTooBig
      else
        let a : AVP :=
          { mandatory := hasFlag flagsLen avpFlagM
            hidden := hasFlag flagsLen avpFlagH
            vendorID := word b 2
            type := word b 4
            value := (b.take length).drop avpHeaderLen }
        if a.hidden && !seenRV then .error .avpHiddenNoRV
        else
          (parseAVPsLoop fuel
            (seenRV || (a.vendorID == 0 && a.type == avpRandomVector)) (b.drop length)).map
            (a :: ·)

def parseAVPs : Except WireError (List AVP) := parseAVPsLoop b.length false b

/-- Appends an AVP. `none` is the panic on a value that is too large for the
length field. -/
def appendAVP (dst : Bytes) (a : AVP) : Option Bytes :=
  let total := avpHeaderLen + a.value.length
  if avpLenMask.toNat < total then none
  else
    some (dst ++ be16 ((.ofNat total &&& avpLenMask) |||
        (if a.mandatory then avpFlagM else 0) ||| (if a.hidden then avpFlagH else 0)) ++
      be16 a.vendorID ++ be16 a.type ++ a.value)

variable (avps : List AVP)

def encode : Option Bytes := avps.foldlM appendAVP []

def findFirst (vendorID attrType : UInt16) : Option AVP :=
  avps.find? fun a => a.vendorID == vendorID && a.type == attrType

def decodeUint16 (a : AVP) : UInt16 := word a.value 0

def findUint16 (attrType : UInt16) : Option UInt16 :=
  match findFirst avps 0 attrType with
  | none => none
  | some a => if a.value.length < 2 then none else some (decodeUint16 a)

def decodeMessageType : List AVP → UInt16
  | [] => 0
  | a :: _ =>
    if a.vendorID ≠ vendorIETF ∨ a.type ≠ avpMessageType ∨ a.value.length < 2 then 0
    else decodeUint16 a

inductive MessageType where
  | sccrq | sccrp | scccn | stopCCN | hello | icrq | icrp | iccn | cdn
deriving DecidableEq

namespace MessageType

def code : MessageType → UInt16
  | sccrq => 1
  | sccrp => 2
  | scccn => 3
  | stopCCN => 4
  | hello => 6
  | icrq => 10
  | icrp => 11
  | iccn => 12
  | cdn => 14

def all : List MessageType := [sccrq, sccrp, scccn, stopCCN, hello, icrq, icrp, iccn, cdn]

def ofCode (n : UInt16) : Option MessageType := all.find? fun m => m.code == n

end MessageType

/-! ## The messages that are sent -/

abbrev Body := List AVP

/-- The AVPs that are emitted are not hidden and have no vendor. -/
def avp (mandatory : Bool) (type : UInt16) (value : Bytes) : AVP :=
  ⟨mandatory, false, vendorIETF, type, value⟩

def avpIf (present : Bool) (a : AVP) : Body := if present then [a] else []

def avpIfAny (mandatory : Bool) (type : UInt16) (value : Bytes) : Body :=
  avpIf (value ≠ []) (avp mandatory type value)

def messageTypeAVP (m : MessageType) : AVP := avp true avpMessageType (be16 m.code)

def framingSync : UInt32 := 2
def bearerDigital : UInt32 := 2

structure TunnelParams where
  localTunnelID : UInt16
  receiveWindowSize : UInt16
  hostName : Bytes
  vendorName : Bytes
  challenge : Bytes

variable (p : TunnelParams)

def tunnelAVPs : Body :=
  [avp true avpProtocolVersion [1, 0], avp true avpFramingCapabilities (be32 framingSync),
    avp true avpBearerCapabilities (be32 bearerDigital), avp true avpHostName p.hostName] ++
  avpIfAny false avpVendorName p.vendorName ++
  [avp true avpAssignedTunnelID (be16 p.localTunnelID),
    avp true avpReceiveWindowSize (be16 p.receiveWindowSize)] ++
  avpIfAny true avpChallenge p.challenge

def buildSCCRQ : Body := messageTypeAVP .sccrq :: tunnelAVPs p

def challengeResponseAVP (response : Bytes) : Body := avpIfAny true avpChallengeResponse response

variable (challengeResponse : Bytes)

def buildSCCRP : Body :=
  messageTypeAVP .sccrp :: (tunnelAVPs p ++ challengeResponseAVP challengeResponse)

def buildSCCCN : Body :=
  messageTypeAVP .scccn :: challengeResponseAVP challengeResponse

def buildHello : Body := [messageTypeAVP .hello]

variable (localSessionID : UInt16)

def buildICRQ (callSerialNumber : UInt32) : Body :=
  [messageTypeAVP .icrq, avp true avpAssignedSessionID (be16 localSessionID),
    avp true avpCallSerialNumber (be32 callSerialNumber)]

def buildICRP : Body :=
  [messageTypeAVP .icrp, avp true avpAssignedSessionID (be16 localSessionID)]

structure ICCNParams where
  txConnectSpeed : UInt32
  framing : UInt32
  lastSentLCPConfReq : Bytes
  lastReceivedLCPConfReq : Bytes
  proxyAuthenType : UInt16
  proxyAuthenName : Bytes
  proxyAuthenChallenge : Bytes
  proxyAuthenResponse : Bytes

def buildICCN (p : ICCNParams) : Body :=
  let speed := if p.txConnectSpeed = 0 then 1000000000 else p.txConnectSpeed
  [messageTypeAVP .iccn, avp true avpTxConnectSpeed (be32 speed),
    avp true avpFramingType (be32 p.framing),
    avp false avpCallErrors (replicate (2 + 6 * 4) 0),
    avp false avpACCM (replicate (2 + 4 + 4) 0)] ++
  avpIfAny true avpLastSentLCPConfReq p.lastSentLCPConfReq ++
  avpIfAny true avpLastRecvLCPConfReq p.lastReceivedLCPConfReq ++
  avpIf (p.proxyAuthenType ≠ 0) (avp false avpProxyAuthenType (be16 p.proxyAuthenType)) ++
  avpIfAny false avpProxyAuthenName p.proxyAuthenName ++
  avpIfAny false avpProxyAuthenChallenge p.proxyAuthenChallenge ++
  avpIfAny false avpProxyAuthenResponse p.proxyAuthenResponse

def challengeOf (body : Body) : Option Bytes := (findFirst body 0 avpChallenge).map AVP.value

theorem challengeOf_eq_none {body : Body} (h : ∀ a ∈ body, a.type ≠ avpChallenge) :
    challengeOf body = none := by
  rw [challengeOf, findFirst, map_eq_none_iff, find?_eq_none]
  intro a ha
  simp [h a ha]

theorem mem_avpIf_iff {present : Bool} {a x : AVP} :
    x ∈ avpIf present a ↔ present = true ∧ x = a := by
  unfold avpIf
  split <;> simp_all

theorem mem_avpIf {present : Bool} {a x : AVP} (h : x ∈ avpIf present a) : x = a :=
  (mem_avpIf_iff.mp h).2

theorem challengeOf_buildSCCCN (response : Bytes) : challengeOf (buildSCCCN response) = none := by
  apply challengeOf_eq_none
  intro a ha
  rw [buildSCCCN, mem_cons] at ha
  rcases ha with rfl | h
  · decide
  · rw [mem_avpIf h]
    simp only [avp]
    decide

theorem challengeOf_buildICRQ (id : UInt16) (serial : UInt32) :
    challengeOf (buildICRQ id serial) = none := by
  apply challengeOf_eq_none
  simp [buildICRQ, messageTypeAVP, avp]
  decide

theorem challengeOf_buildICRP (id : UInt16) : challengeOf (buildICRP id) = none := by
  apply challengeOf_eq_none
  simp [buildICRP, messageTypeAVP, avp]
  decide

theorem challengeOf_buildICCN (p : ICCNParams) : challengeOf (buildICCN p) = none := by
  apply challengeOf_eq_none
  intro a ha
  simp only [buildICCN, mem_append, mem_cons, not_mem_nil, or_false] at ha
  rcases ha with (((((((rfl | rfl | rfl | rfl | rfl) | h) | h) | h) | h) | h) | h)
  all_goals first
    | (rw [mem_avpIf h]; simp only [avp]; decide)
    | (simp only [messageTypeAVP, avp]; decide)

theorem exists_mem_of_challengeOf {body : Body} {ch : Bytes} (h : challengeOf body = some ch) :
    ∃ a ∈ body, a.type = avpChallenge ∧ a.value = ch := by
  obtain ⟨a, hfind, rfl⟩ := map_eq_some_iff.mp h
  have htype := find?_some hfind
  rw [Bool.and_eq_true, beq_iff_eq, beq_iff_eq] at htype
  exact ⟨a, mem_of_find?_eq_some hfind, htype.2, rfl⟩

variable {p : TunnelParams}

theorem challenge_of_mem_tunnelAVPs {a : AVP} (ha : a ∈ tunnelAVPs p)
    (htype : a.type = avpChallenge) : p.challenge ≠ [] ∧ a.value = p.challenge := by
  simp only [tunnelAVPs, mem_append, mem_cons, not_mem_nil, or_false] at ha
  rcases ha with (((rfl | rfl | rfl | rfl) | h) | rfl | rfl) | h
  case inr =>
    obtain ⟨hpresent, rfl⟩ := mem_avpIf_iff.mp h
    exact ⟨of_decide_eq_true hpresent, rfl⟩
  case inl.inl.inr =>
    rw [mem_avpIf h] at htype
    exact absurd htype (by simp only [avp]; decide)
  all_goals exact absurd htype (by simp only [avp]; decide)

theorem challengeOf_buildSCCRQ {ch : Bytes}
    (h : challengeOf (buildSCCRQ p) = some ch) : ch ≠ [] ∧ p.challenge = ch := by
  obtain ⟨a, ha, htype, rfl⟩ := exists_mem_of_challengeOf h
  rw [buildSCCRQ, mem_cons] at ha
  rcases ha with rfl | ha
  · exact absurd htype (by simp only [messageTypeAVP, avp]; decide)
  · obtain ⟨hne, heq⟩ := challenge_of_mem_tunnelAVPs ha htype
    exact ⟨heq ▸ hne, heq.symm⟩

theorem challengeOf_buildSCCRP {response ch : Bytes}
    (h : challengeOf (buildSCCRP p response) = some ch) : ch ≠ [] ∧ p.challenge = ch := by
  obtain ⟨a, ha, htype, rfl⟩ := exists_mem_of_challengeOf h
  rw [buildSCCRP, mem_cons, mem_append] at ha
  rcases ha with rfl | ha | ha
  · exact absurd htype (by simp only [messageTypeAVP, avp]; decide)
  · obtain ⟨hne, heq⟩ := challenge_of_mem_tunnelAVPs ha htype
    exact ⟨heq ▸ hne, heq.symm⟩
  · rw [mem_avpIf ha] at htype
    exact absurd htype (by simp only [avp]; decide)

/-! ## Challenges -/

def responseLen : Nat := 16

variable (messageTypeByte : UInt8)

def computeChallengeResponse (password challenge : Bytes) : Bytes :=
  Md5.sum ([messageTypeByte] ++ password ++ challenge)

/-- Compares without a branch on the bytes. -/
def constantTimeEqual (a b : Bytes) : Bool :=
  if a.length ≠ b.length then false
  else (zipWith (· ^^^ ·) a b).foldl (· ||| ·) 0 == 0

inductive ChallengeError where
  | challengeShort
  | challengeBadResponse
deriving DecidableEq

def verifyChallengeResponse (password challenge observed : Bytes) : Except ChallengeError Unit :=
  if observed.length < responseLen then .error .challengeShort
  else if constantTimeEqual (computeChallengeResponse messageTypeByte password challenge)
      (observed.take responseLen) then .ok ()
  else .error .challengeBadResponse

end Osvbng.L2tp
