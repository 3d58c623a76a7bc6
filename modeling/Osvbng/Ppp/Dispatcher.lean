import Osvbng.Ppp.Fsm

/-!
# Packet headers and the frame dispatcher

Every PPP control packet starts with a code, an identifier and a 16-bit length
that counts the header. The dispatcher reads that header and routes the packet
to an automaton or to a callback of its host; the packet parsers of PAP, CHAP
and IPv6CP read the same header.

Main results: `parseHeader_isSome_iff` and `Dispatcher.handleFrame_isSome_iff`
give the exact inputs on which the slice after the header is in bounds.
-/

namespace Osvbng.Ppp
open Option Lib.Slice

def declaredLength (packet : Bytes) : Nat :=
  (packet.getD 2 0).toNat * 256 + (packet.getD 3 0).toNat

/-- The inputs on which the bytes after the header can be sliced out: those
that are rejected first, and those whose length field covers the header. -/
def HeaderInBounds (packet : Bytes) : Prop :=
  packet.length < 4 ∨ packet.length < declaredLength packet ∨ 4 ≤ declaredLength packet

/-! ## Packet parsers -/

inductive PacketError where
  | errShortPacket
deriving DecidableEq, Repr

/-- Splits a packet into code, identifier and data. The source repeats these
lines in each reader; they differ in the two errors only. -/
def parseHeader {E : Type} (short mismatch : E) (packet : Bytes) :
    Checked (Except E (UInt8 × UInt8 × Bytes)) :=
  if packet.length < 4 then some (.error short)
  else do
    let code ← index packet 0
    let id ← index packet 1
    let length ← uint16 (← slice packet 2 4)
    if packet.length < length then pure (.error mismatch)
    else
      let data ← slice packet 4 length
      pure (.ok (code, id, data))

abbrev PacketParser := Bytes → Checked (Except PacketError (UInt8 × UInt8 × Bytes))

def parsePAPPacket : PacketParser := parseHeader .errShortPacket .errShortPacket
def parseCHAPPacket : PacketParser := parseHeader .errShortPacket .errShortPacket
def parseIPv6CPPacket : PacketParser := parseHeader .errShortPacket .errShortPacket

/-! ## The dispatcher -/

/-- A callback of the host, or an automaton's `Input`, on host state `S`. -/
abbrev PacketHandler (S : Type) := UInt8 → UInt8 → Bytes → S → Checked S

/-- The automata and callbacks a host installs; `none` is a nil reference. -/
structure Dispatcher (S : Type) where
  lcp : Option (PacketHandler S)
  ipcp : Option (PacketHandler S)
  ipv6cp : Option (PacketHandler S)
  /-- Whether the host's IPv6CP automaton is opened. -/
  ipv6cpOpened : S → Bool
  phaseFn : Option (S → Phase)
  handlePAP : Option (PacketHandler S)
  handleCHAP : Option (PacketHandler S)
  onEchoReq : Option (UInt8 → Bytes → S → Checked S)
  onEchoRep : Option (UInt8 → Bytes → S → Checked S)
  onProtocolReject : Option (UInt16 → S → Checked S)
  sendProtocolReject : Option (UInt16 → Bytes → S → Checked S)
  handleIPv6 : Option (Bytes → S → Checked S)

inductive FrameError where
  | errFrameShort
  | errFrameLengthMismatch
deriving DecidableEq, Repr

namespace Dispatcher
variable {S : Type} (d : Dispatcher S)

def inNetworkPhase (s : S) : Bool :=
  match d.phaseFn with
  | none => true
  | some phase => phase s = .network ∨ phase s = .open

def call (h : Option (PacketHandler S)) (code id : UInt8) (data : Bytes) (s : S) : Checked S :=
  match h with
  | none => some s
  | some h => h code id data s

def handleLCP (code id : UInt8) (data : Bytes) (s : S) : Checked S :=
  if code = echoReq then
    match d.onEchoReq with
    | none => some s
    | some f => f id data s
  else if code = echoRep then
    match d.onEchoRep with
    | none => some s
    | some f => f id data s
  else if code = protoRej then
    match d.onProtocolReject with
    | none => some s
    | some f =>
      if 2 ≤ data.length then do
        let proto ← uint16 (← slice data 0 2)
        f (UInt16.ofNat proto) s
      else some s
  else call d.lcp code id data s

def route (proto : UInt16) (payload : Bytes) (code id : UInt8) (data : Bytes) (s : S) : Checked S :=
  if proto = protoLCP then d.handleLCP code id data s
  else if proto = protoPAP then call d.handlePAP code id data s
  else if proto = protoCHAP then call d.handleCHAP code id data s
  else if proto = protoIPCP then
    if d.inNetworkPhase s then call d.ipcp code id data s else some s
  else if proto = protoIPv6CP then
    if d.inNetworkPhase s then call d.ipv6cp code id data s else some s
  else
    match d.sendProtocolReject with
    | none => some s
    | some f => f proto payload s

/-- A bare IPv6 datagram, which has no control header. -/
def routeIPv6 (payload : Bytes) (s : S) : Checked S :=
  match d.handleIPv6 with
  | none => some s
  | some f =>
    if d.inNetworkPhase s && d.ipv6cp.isSome && d.ipv6cpOpened s then f payload s else some s

def handleFrame (proto : UInt16) (payload : Bytes) (s : S) : Checked (Except FrameError S) :=
  if proto = protoIPv6 then do
    let s' ← d.routeIPv6 payload s
    pure (.ok s')
  else do
    match ← parseHeader .errFrameShort .errFrameLengthMismatch payload with
    | .error e => pure (.error e)
    | .ok (code, id, data) =>
      let s' ← d.route proto payload code id data s
      pure (.ok s')

/-- What holds of a state and of what an automaton or a callback makes of it. -/
structure Meets (d : Dispatcher S) (R : S → Checked S → Prop) : Prop where
  refl : ∀ s, R s (some s)
  lcp : ∀ h ∈ d.lcp, ∀ code id data s, R s (h code id data s)
  ipcp : ∀ h ∈ d.ipcp, ∀ code id data s, R s (h code id data s)
  ipv6cp : ∀ h ∈ d.ipv6cp, ∀ code id data s, R s (h code id data s)
  handlePAP : ∀ h ∈ d.handlePAP, ∀ code id data s, R s (h code id data s)
  handleCHAP : ∀ h ∈ d.handleCHAP, ∀ code id data s, R s (h code id data s)
  onEchoReq : ∀ h ∈ d.onEchoReq, ∀ id data s, R s (h id data s)
  onEchoRep : ∀ h ∈ d.onEchoRep, ∀ id data s, R s (h id data s)
  onProtocolReject : ∀ h ∈ d.onProtocolReject, ∀ proto s, R s (h proto s)
  sendProtocolReject : ∀ h ∈ d.sendProtocolReject, ∀ proto data s, R s (h proto data s)
  handleIPv6 : ∀ h ∈ d.handleIPv6, ∀ payload s, R s (h payload s)

/-- Nothing a host installs leaves the bounds of its packet. -/
def Safe : Prop := d.Meets fun _ r => ∃ s', r = some s'

/-- Whatever a host installs relates the states before and after. -/
def Respects (R : S → S → Prop) : Prop := d.Meets fun s r => ∀ s', r = some s' → R s s'

end Dispatcher

/-! ## Header bounds -/

theorem parseHeader_isSome_iff {E : Type} (short mismatch : E) (packet : Bytes) :
    (parseHeader short mismatch packet).isSome ↔ HeaderInBounds packet := by
  unfold parseHeader HeaderInBounds
  by_cases hshort : packet.length < 4
  · simp [hshort]
  have hfield : (slice packet 2 4).bind uint16 = some (declaredLength packet) := by
    match packet, Nat.le_of_not_lt hshort with
    | _ :: _ :: _ :: _ :: _, _ => simp [slice, uint16, index, declaredLength]
  rw [if_neg hshort, index_of_lt (i := 0) (by omega), index_of_lt (i := 1) (by omega)]
  simp only [bind_eq_bind, bind_some]
  rw [← bind_assoc, hfield, bind_some]
  by_cases hlong : packet.length < declaredLength packet
  · simp [hlong]
  · cases hs : slice packet 4 (declaredLength packet) with
    | none =>
      rw [slice_eq_none_iff] at hs
      simp [hlong, hshort]
      omega
    | some data =>
      have hsome := (slice_isSome packet 4 (declaredLength packet)).mp (by simp [hs])
      simp [hlong, hsome.1]

namespace Dispatcher
variable {S : Type} {d : Dispatcher S} {h : Option (PacketHandler S)}

namespace Meets
variable {R : S → Checked S → Prop} (hd : d.Meets R) (proto : UInt16) (payload : Bytes)
  (code id : UInt8) (data : Bytes) (s : S)
include hd

theorem call (hR : ∀ f ∈ h, ∀ code id data s, R s (f code id data s)) :
    R s (Dispatcher.call h code id data s) := by
  cases h with
  | none => exact hd.refl s
  | some f => exact hR f rfl code id data s

theorem handleLCP : R s (d.handleLCP code id data s) := by
  unfold Dispatcher.handleLCP
  split
  · split
    · exact hd.refl s
    · exact hd.onEchoReq _ ‹_› id data s
  split
  · split
    · exact hd.refl s
    · exact hd.onEchoRep _ ‹_› id data s
  split
  · split
    · exact hd.refl s
    · rename_i f hf
      split
      · rename_i hlen
        obtain ⟨proto, hproto⟩ := exists_uint16 (b := (data.take 2).drop 0) (by simp; omega)
        rw [slice_of_le (by omega) hlen]
        simp only [bind_eq_bind, bind_some, hproto]
        exact hd.onProtocolReject f hf _ s
      · exact hd.refl s
  · exact hd.call code id data s hd.lcp

theorem route : R s (d.route proto payload code id data s) := by
  unfold Dispatcher.route
  split
  · exact hd.handleLCP code id data s
  split
  · exact hd.call code id data s hd.handlePAP
  split
  · exact hd.call code id data s hd.handleCHAP
  split
  · split
    · exact hd.call code id data s hd.ipcp
    · exact hd.refl s
  split
  · split
    · exact hd.call code id data s hd.ipv6cp
    · exact hd.refl s
  split
  · exact hd.refl s
  · exact hd.sendProtocolReject _ ‹_› proto payload s

theorem routeIPv6 : R s (d.routeIPv6 payload s) := by
  unfold Dispatcher.routeIPv6
  split
  · exact hd.refl s
  · split
    · exact hd.handleIPv6 _ ‹_› payload s
    · exact hd.refl s

end Meets

/-- Over a safe host, a frame stops the dispatcher exactly when its length
field is smaller than the header it counts. -/
theorem handleFrame_isSome_iff (hd : d.Safe) (proto : UInt16) (payload : Bytes) (s : S) :
    (d.handleFrame proto payload s).isSome ↔ proto = protoIPv6 ∨ HeaderInBounds payload := by
  unfold handleFrame
  by_cases hproto : proto = protoIPv6
  · obtain ⟨s', hs'⟩ := hd.routeIPv6 payload s
    simp [hproto, hs']
  rw [if_neg hproto, or_iff_right hproto,
    ← parseHeader_isSome_iff FrameError.errFrameShort .errFrameLengthMismatch payload]
  -- Past the header every route returns, so only the header can fail.
  match parseHeader FrameError.errFrameShort .errFrameLengthMismatch payload with
  | none => simp
  | some (.error e) => simp
  | some (.ok (code, id, data)) =>
    obtain ⟨s', hs'⟩ := hd.route proto payload code id data s
    simp [hs']

theorem Respects.handleFrame {R : S → S → Prop} {s s' : S} {payload : Bytes} {proto : UInt16}
    (hd : d.Respects R) (hs' : d.handleFrame proto payload s = some (.ok s')) : R s s' := by
  unfold Dispatcher.handleFrame at hs'
  split at hs'
  · obtain ⟨t, ht, hs'⟩ := bind_eq_some_iff.mp hs'
    cases hs'
    exact hd.routeIPv6 payload s _ ht
  · obtain ⟨r, -, hs'⟩ := bind_eq_some_iff.mp hs'
    cases r with
    | error e => cases hs'
    | ok packet =>
      obtain ⟨t, ht, hs'⟩ := bind_eq_some_iff.mp hs'
      cases hs'
      exact hd.route proto payload _ _ _ s _ ht

end Dispatcher
end Osvbng.Ppp
