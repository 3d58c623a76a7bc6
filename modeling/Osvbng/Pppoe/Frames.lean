import Osvbng.Pppoe.Session

/-!
# Frames and the bounds of their packets

A frame of a subscriber is handed to the dispatcher of its session in a
goroutine without a recover, so a bounds fault stops the control plane. Every
callback and every automaton stays in bounds on all inputs
(`Host.dispatcher_safe`); what is left is the header that the dispatcher and
the packet parsers read, and `handlePPP_isSome_iff` names the frames on which
it faults.
-/

namespace Osvbng.Pppoe
open Option Lib.Slice Ppp
namespace Host
variable {K N S Q : Type} (env : Env K N Q)

theorem exists_parsePAPAuthReq (data : Bytes) : ∃ r, parsePAPAuthReq data = some r := by
  unfold parsePAPAuthReq
  by_cases hshort : data.length < 2
  · exact ⟨none, if_pos hshort⟩
  rw [if_neg hshort, index_of_lt (i := 0) (by omega)]
  simp only [bind_eq_bind, bind_some]
  split
  · exact ⟨none, rfl⟩
  · rw [slice_of_le (by omega) (by omega), index_of_lt (by omega)]
    simp only [bind_some]
    split
    · exact ⟨none, rfl⟩
    · rw [slice_of_le (by omega) (by omega)]
      exact ⟨_, rfl⟩

theorem exists_parseCHAPResponse (data : Bytes) : ∃ r, parseCHAPResponse data = some r := by
  unfold parseCHAPResponse
  by_cases hshort : data.length < 1
  · exact ⟨none, if_pos hshort⟩
  rw [if_neg hshort, index_of_lt (i := 0) (by omega)]
  simp only [bind_eq_bind, bind_some]
  split
  · exact ⟨none, rfl⟩
  · rw [slice_of_le (by omega) (by omega), sliceFrom_of_le (by omega)]
    exact ⟨_, rfl⟩

variable [DecidableEq K] [DecidableEq N] [DecidableEq S]

theorem dispatcher_safe : (dispatcher env : Dispatcher (Host K N S Q)).Safe where
  refl h := ⟨h, rfl⟩
  lcp := by
    rintro _ ⟨⟩ code id data h
    obtain ⟨r, hr⟩ := h.session.lcp.exists_input code id data
    exact ⟨applyLCP env h r, by simp [hr]⟩
  ipcp := by
    rintro _ ⟨⟩ code id data h
    obtain ⟨r, hr⟩ := h.session.ipcp.exists_input code id data
    exact ⟨h.applyIPCP r, by simp [hr]⟩
  ipv6cp := by
    rintro _ ⟨⟩ code id data h
    obtain ⟨r, hr⟩ := h.session.ipv6cp.exists_input code id data
    exact ⟨h.applyIPv6CP r, by simp [hr]⟩
  handlePAP := by
    rintro _ ⟨⟩ code id data h
    unfold handlePAPPacket
    split
    · exact ⟨h, rfl⟩
    · obtain ⟨r, hr⟩ := exists_parsePAPAuthReq data
      rw [hr]
      cases r with
      | none | some => exact ⟨_, rfl⟩
  handleCHAP := by
    rintro _ ⟨⟩ code id data h
    unfold handleCHAPPacket
    split
    · exact ⟨h, rfl⟩
    · obtain ⟨r, hr⟩ := exists_parseCHAPResponse data
      rw [hr]
      cases r with
      | none | some => exact ⟨_, rfl⟩
  onEchoReq := by
    rintro _ ⟨⟩ id data h
    dsimp only
    split
    · unfold sendLCPEchoReply
      split
      · rw [sliceFrom_of_le (by omega)]
        exact ⟨_, rfl⟩
      · exact ⟨_, rfl⟩
    · exact ⟨h, rfl⟩
  onEchoRep := by
    rintro _ ⟨⟩ id data h
    exact ⟨_, rfl⟩
  onProtocolReject := by
    rintro _ ⟨⟩ proto h
    exact ⟨_, rfl⟩
  sendProtocolReject := by
    rintro _ ⟨⟩ proto data h
    exact ⟨_, rfl⟩
  handleIPv6 := by
    rintro _ ⟨⟩ payload h
    exact ⟨_, rfl⟩

/-- A frame is rejected or processed, with every access in bounds, exactly when
it is a bare IPv6 datagram or its header is not one of a length field below
four in a packet of at least four bytes. The packet parsers have the same
bounds. -/
theorem handlePPP_isSome_iff (h : Host K N S Q) (proto : UInt16) (payload : Bytes) :
    ((handlePPP env proto payload h).isSome ↔ proto = protoIPv6 ∨ HeaderInBounds payload) ∧
      ((parsePAPPacket payload).isSome ↔ HeaderInBounds payload) ∧
      ((parseCHAPPacket payload).isSome ↔ HeaderInBounds payload) ∧
      ((parseIPv6CPPacket payload).isSome ↔ HeaderInBounds payload) :=
  ⟨Dispatcher.handleFrame_isSome_iff (dispatcher_safe env) proto payload h,
    parseHeader_isSome_iff _ _ payload, parseHeader_isSome_iff _ _ payload,
    parseHeader_isSome_iff _ _ payload⟩

end Host

def bareHost : Host Nat Nat Nat Nat where
  session := .new 1 0 7 ⟨[2, 0, 0, 0, 0, 0, 0, 1], [], [], fun id => id⟩
  registry :=
    { poolVRFs := fun _ => 0
      poolKey := fun profile _ => profile
      v4 := ⟨fun _ => none, fun _ => []⟩
      iana := ⟨fun _ => none, fun _ => []⟩
      pd := ⟨fun _ => none, fun _ => []⟩ }
  out := []

def bareEnv (requestID : Nat) : Env Nat Nat Nat where
  requestID := requestID
  challenge := List.replicate 16 0
  acName := []
  ipv4Profile := none
  ipv6Profile := none
  resolveServiceGroup := fun _ => ⟨0, none, none, none⟩
  profileDNS := fun _ => []
  bngSourceMAC := []
  v4Order := []
  ianaOrder := []
  pdOrder := []
  lacEnabled := false
  lacStartFails := false

/-- A Configure-Request whose length field is zero stops the dispatcher and
all three parsers. -/
theorem handlePPP_zero_length :
    (Host.handlePPP (bareEnv 1) protoLCP [1, 1, 0, 0] bareHost).isNone ∧
      (parsePAPPacket [1, 1, 0, 0]).isNone ∧ (parseCHAPPacket [1, 1, 0, 0]).isNone ∧
      (parseIPv6CPPacket [1, 1, 0, 0]).isNone := by
  decide

end Osvbng.Pppoe
