import Osvbng.Lib.NetIP
import Osvbng.Ppp.Fsm

/-!
# LCP, IPCP and IPv6CP

The option handlers of the three control protocols a subscriber session runs.
Each answers the peer's options one by one, in order, and keeps what it
accepted. The instances of `SafeHandler` say that no option list makes a
handler read outside an option's data.
-/

namespace Osvbng.Ppp
open Lib.Slice Lib.NetIP ConfOption ConfReply
namespace ConfReply

def empty : ConfReply := ⟨[], [], []⟩

variable (r : ConfReply) (o : ConfOption)

def addAck : ConfReply := { r with ack := r.ack ++ [o] }
def addNak : ConfReply := { r with nak := r.nak ++ [o] }
def addRej : ConfReply := { r with rej := r.rej ++ [o] }

/-- One option is acknowledged or rejected as it is, or naked with an option of its type. -/
inductive Answers (r : ConfReply) (o : ConfOption) : ConfReply → Prop
  | ack : r.Answers o (r.addAck o)
  | nak {o' : ConfOption} (htype : o'.type = o.type) : r.Answers o (r.addNak o')
  | rej : r.Answers o (r.addRej o)

end ConfReply

/-! ## LCP -/

def lcpOptMRU : UInt8 := 1
def lcpOptAuthProto : UInt8 := 3
def lcpOptMagic : UInt8 := 5

def chapMD5 : UInt8 := 5
def defaultPPPoEMRU : Nat := 1492

structure LcpConfig where
  mru : Nat
  magic : Nat
  authProto : UInt16
  authAlgo : UInt8
  wantAuth : Bool

structure Lcp where
  localConfig : LcpConfig
  peerConfig : LcpConfig
  /-- The option types the peer has rejected. -/
  rejected : List UInt8

def mruOption (mru : Nat) : ConfOption := ⟨lcpOptMRU, putBe 2 mru⟩

def magicOption (magic : Nat) : ConfOption := ⟨lcpOptMagic, putBe 4 magic⟩

def authOption (proto : UInt16) (algo : UInt8) : ConfOption :=
  if proto = protoCHAP then ⟨lcpOptAuthProto, putBe 2 proto.toNat ++ [algo]⟩
  else ⟨lcpOptAuthProto, putBe 2 proto.toNat⟩

namespace Lcp

def new (magic : Nat) : Lcp where
  localConfig := ⟨defaultPPPoEMRU, magic, 0, 0, false⟩
  peerConfig := ⟨0, 0, 0, 0, false⟩
  rejected := []

variable (l : Lcp)

def setAuthProto (proto : UInt16) (algo : UInt8) : Lcp :=
  { l with localConfig :=
      { l.localConfig with authProto := proto, authAlgo := algo, wantAuth := true } }

def setMagic (magic : Nat) : Lcp :=
  { l with localConfig := { l.localConfig with magic := magic } }

def buildConfReq : List ConfOption :=
  (if lcpOptMRU ∈ l.rejected then [] else [mruOption l.localConfig.mru]) ++
  (if lcpOptMagic ∈ l.rejected ∨ l.localConfig.magic = 0 then []
    else [magicOption l.localConfig.magic]) ++
  (if lcpOptAuthProto ∈ l.rejected ∨ l.localConfig.wantAuth = false then []
    else [authOption l.localConfig.authProto l.localConfig.authAlgo])

def authAlgoOr (data : Bytes) (algo : UInt8) : Checked UInt8 :=
  if 2 < data.length then index data 2 else some algo

variable (r : ConfReply) (o : ConfOption)

def confReqMRU : Checked (Lcp × ConfReply) :=
  if o.data.length = 2 then do
    let mru ← uint16 o.data
    pure (if mru < 64 then (l, r.addNak (mruOption defaultPPPoEMRU))
      else ({ l with peerConfig := { l.peerConfig with mru := mru } }, r.addAck o))
  else pure (l, r.addRej o)

def confReqMagic : Checked (Lcp × ConfReply) :=
  if o.data.length = 4 then do
    let magic ← uint32 o.data
    pure (if magic = l.localConfig.magic ∧ magic ≠ 0 then (l, r.addNak o)
      else ({ l with peerConfig := { l.peerConfig with magic := magic } }, r.addAck o))
  else pure (l, r.addRej o)

def confReqAuthProto : Checked (Lcp × ConfReply) :=
  if 2 ≤ o.data.length then do
    let proto ← uint16 o.data
    let algo ← authAlgoOr o.data l.peerConfig.authAlgo
    pure (if .ofNat proto = protoPAP ∨ .ofNat proto = protoCHAP then
        ({ l with peerConfig :=
          { l.peerConfig with authProto := .ofNat proto, authAlgo := algo } }, r.addAck o)
      else (l, r.addNak (authOption protoCHAP chapMD5)))
  else pure (l, r.addRej o)

def confReqOption (s : Lcp × ConfReply) (o : ConfOption) : Checked (Lcp × ConfReply) :=
  if o.type = lcpOptMRU then confReqMRU s.1 s.2 o
  else if o.type = lcpOptMagic then confReqMagic s.1 s.2 o
  else if o.type = lcpOptAuthProto then confReqAuthProto s.1 s.2 o
  else pure (s.1, s.2.addRej o)

/-- The options that an acknowledgement and a nak both write back. -/
def adoptOption : Checked Lcp :=
  if o.type = lcpOptMRU then
    if o.data.length = 2 then do
      let mru ← uint16 o.data
      pure { l with localConfig := { l.localConfig with mru := mru } }
    else pure l
  else if o.type = lcpOptMagic then
    if o.data.length = 4 then do
      let magic ← uint32 o.data
      pure (l.setMagic magic)
    else pure l
  else pure l

def confNakOption : Checked Lcp :=
  if o.type = lcpOptAuthProto then
    if 2 ≤ o.data.length then do
      let proto ← uint16 o.data
      let algo ← authAlgoOr o.data l.localConfig.authAlgo
      pure { l with localConfig :=
        { l.localConfig with authProto := .ofNat proto, authAlgo := algo } }
    else pure l
  else l.adoptOption o

end Lcp

instance : OptionHandler Lcp where
  buildConfReq := Lcp.buildConfReq
  processConfReq l opts := opts.foldlM Lcp.confReqOption (l, .empty)
  processConfAck l opts := opts.foldlM Lcp.adoptOption l
  processConfNak l opts := opts.foldlM Lcp.confNakOption l
  processConfRej l opts := some { l with rejected := l.rejected ++ opts.map type }

/-! ## IPCP -/

def ipcpOptAddress : UInt8 := 3
def ipcpOptPrimaryDNS : UInt8 := 129
def ipcpOptSecondaryDNS : UInt8 := 131

structure IpcpConfig where
  address : IP
  primaryDNS : IP
  secondaryDNS : IP
  /-- What the session assigns to the peer; only the peer's record uses it. -/
  peerAddress : IP

structure Ipcp where
  localConfig : IpcpConfig
  peerConfig : IpcpConfig
  rejected : List UInt8

def isUsableIPv4 (ip : IP) : Bool :=
  ip ≠ [] && to4 ip ≠ [] && !isUnspecified (to4 ip)

/-- An address option of the given type; an address that is not IPv4 is sent
as zeros. -/
def dnsOption (optType : UInt8) (addr : IP) : ConfOption :=
  ⟨optType, if to4 addr = [] then [0, 0, 0, 0] else to4 addr⟩

def ipAddressOption (addr : IP) : ConfOption := dnsOption ipcpOptAddress addr

namespace Ipcp

def new : Ipcp where
  localConfig := ⟨ipv4zero, ipv4zero, ipv4zero, []⟩
  peerConfig := ⟨[], [], [], []⟩
  rejected := []

variable (i : Ipcp)

def setAddress (addr : IP) : Ipcp :=
  { i with localConfig := { i.localConfig with address := to4 addr } }

def setPeerAddress (addr : IP) : Ipcp :=
  { i with peerConfig := { i.peerConfig with peerAddress := to4 addr } }

def setDNS (primary secondary : IP) : Ipcp :=
  { i with localConfig :=
      { i.localConfig with primaryDNS := to4 primary, secondaryDNS := to4 secondary } }

def buildConfReq : List ConfOption :=
  (if ipcpOptAddress ∈ i.rejected ∨ !isUsableIPv4 i.localConfig.address then []
    else [ipAddressOption i.localConfig.address]) ++
  (if ipcpOptPrimaryDNS ∈ i.rejected ∨ !isUsableIPv4 i.localConfig.primaryDNS then []
    else [dnsOption ipcpOptPrimaryDNS i.localConfig.primaryDNS]) ++
  (if ipcpOptSecondaryDNS ∈ i.rejected ∨ !isUsableIPv4 i.localConfig.secondaryDNS then []
    else [dnsOption ipcpOptSecondaryDNS i.localConfig.secondaryDNS])

/-- Whether a name-server request is answered with our own server. -/
def suggestsDNS (own : IP) (addr : IP) : Bool :=
  equal addr ipv4zero && own ≠ [] && !equal own ipv4zero

def confReqOption (s : Ipcp × ConfReply) (o : ConfOption) : Checked (Ipcp × ConfReply) :=
  let (i, r) := s
  if o.type = ipcpOptAddress then
    if o.data.length = 4 then
      if isUsableIPv4 i.peerConfig.peerAddress ∧
          equal o.data (to4 i.peerConfig.peerAddress) = false then
        pure (i, r.addNak (ipAddressOption i.peerConfig.peerAddress))
      else if equal o.data ipv4zero then pure (i, r.addRej o)
      else pure ({ i with peerConfig := { i.peerConfig with address := o.data } }, r.addAck o)
    else pure (i, r.addRej o)
  else if o.type = ipcpOptPrimaryDNS then
    if o.data.length = 4 then
      if suggestsDNS i.localConfig.primaryDNS o.data then
        pure (i, r.addNak (dnsOption ipcpOptPrimaryDNS i.localConfig.primaryDNS))
      else pure ({ i with peerConfig := { i.peerConfig with primaryDNS := o.data } }, r.addAck o)
    else pure (i, r.addRej o)
  else if o.type = ipcpOptSecondaryDNS then
    if o.data.length = 4 then
      if suggestsDNS i.localConfig.secondaryDNS o.data then
        pure (i, r.addNak (dnsOption ipcpOptSecondaryDNS i.localConfig.secondaryDNS))
      else pure ({ i with peerConfig := { i.peerConfig with secondaryDNS := o.data } }, r.addAck o)
    else pure (i, r.addRej o)
  else pure (i, r.addRej o)

/-- Acknowledgements and naks both write the option into the local record. -/
def adoptOption (o : ConfOption) : Checked Ipcp :=
  if o.data.length = 4 then
    if o.type = ipcpOptAddress then
      pure { i with localConfig := { i.localConfig with address := o.data } }
    else if o.type = ipcpOptPrimaryDNS then
      pure { i with localConfig := { i.localConfig with primaryDNS := o.data } }
    else if o.type = ipcpOptSecondaryDNS then
      pure { i with localConfig := { i.localConfig with secondaryDNS := o.data } }
    else pure i
  else pure i

end Ipcp

instance : OptionHandler Ipcp where
  buildConfReq := Ipcp.buildConfReq
  processConfReq i opts := opts.foldlM Ipcp.confReqOption (i, .empty)
  processConfAck i opts := opts.foldlM Ipcp.adoptOption i
  processConfNak i opts := opts.foldlM Ipcp.adoptOption i
  processConfRej i opts := some { i with rejected := i.rejected ++ opts.map type }

/-! ## IPv6CP -/

def ipv6cpOptInterfaceID : UInt8 := 1

structure Ipv6cp where
  localInterfaceID : Bytes
  peerInterfaceID : Bytes
  rejected : List UInt8
  /-- The identifier suggested to a peer, by our own identifier. The source
  draws it at random until it differs from ours. -/
  generatePeerInterfaceID : Bytes → Bytes

def interfaceIDOption (id : Bytes) : ConfOption := ⟨ipv6cpOptInterfaceID, id⟩

def ipv6cpConfigFromMAC (mac : Bytes) : Bytes :=
  match mac with
  | [m0, m1, m2, m3, m4, m5] => [m0 ^^^ 2, m1, m2, 0xff, 0xfe, m3, m4, m5]
  | _ => List.replicate 8 0

namespace Ipv6cp

def buildConfReq (i : Ipv6cp) : List ConfOption :=
  if ipv6cpOptInterfaceID ∈ i.rejected then [] else [interfaceIDOption i.localInterfaceID]

def isZero (id : Bytes) : Bool := id.all (· = 0)

def confReqOption (s : Ipv6cp × ConfReply) (o : ConfOption) : Checked (Ipv6cp × ConfReply) :=
  let (i, r) := s
  if o.type = ipv6cpOptInterfaceID ∧ o.data.length = 8 then
    if isZero o.data ∧ isZero i.localInterfaceID then pure (i, r.addRej o)
    else if isZero o.data ∨ o.data = i.localInterfaceID then
      pure (i, r.addNak (interfaceIDOption (i.generatePeerInterfaceID i.localInterfaceID)))
    else pure ({ i with peerInterfaceID := o.data }, r.addAck o)
  else pure (i, r.addRej o)

def adoptOption (i : Ipv6cp) (o : ConfOption) : Checked Ipv6cp :=
  if o.type = ipv6cpOptInterfaceID ∧ o.data.length = 8 then
    pure { i with localInterfaceID := o.data }
  else pure i

end Ipv6cp

instance : OptionHandler Ipv6cp where
  buildConfReq := Ipv6cp.buildConfReq
  processConfReq i opts := opts.foldlM Ipv6cp.confReqOption (i, .empty)
  processConfAck i opts := opts.foldlM Ipv6cp.adoptOption i
  processConfNak i opts := opts.foldlM Ipv6cp.adoptOption i
  processConfRej i opts := some { i with rejected := i.rejected ++ opts.map type }

/-! ## Bounds -/

theorem Lcp.exists_authAlgoOr (data : Bytes) (algo : UInt8) :
    ∃ a, authAlgoOr data algo = some a := by
  unfold authAlgoOr
  split
  · exact ⟨_, index_of_lt ‹_›⟩
  · exact ⟨_, rfl⟩

theorem Lcp.confReqOption_spec (s : Lcp × ConfReply) (o : ConfOption) :
    ∃ s', confReqOption s o = some s' ∧ s'.1.localConfig = s.1.localConfig ∧
      s.2.Answers o s'.2 := by
  unfold confReqOption
  split
  · rename_i htype
    unfold confReqMRU
    split
    · obtain ⟨mru, hmru⟩ := exists_uint16 (b := o.data) (by omega)
      refine ⟨_, by rw [hmru]; rfl, ?_⟩
      split
      · exact ⟨rfl, .nak htype.symm⟩
      · exact ⟨rfl, .ack⟩
    · exact ⟨_, rfl, rfl, .rej⟩
  split
  · unfold confReqMagic
    split
    · obtain ⟨magic, hmagic⟩ := exists_uint32 (b := o.data) (by omega)
      refine ⟨_, by rw [hmagic]; rfl, ?_⟩
      split
      · exact ⟨rfl, .nak rfl⟩
      · exact ⟨rfl, .ack⟩
    · exact ⟨_, rfl, rfl, .rej⟩
  split
  · rename_i htype
    unfold confReqAuthProto
    split
    · rename_i hlen
      obtain ⟨proto, hproto⟩ := exists_uint16 hlen
      obtain ⟨algo, halgo⟩ := exists_authAlgoOr o.data s.1.peerConfig.authAlgo
      refine ⟨_, by rw [hproto, halgo]; rfl, ?_⟩
      split
      · exact ⟨rfl, .ack⟩
      · exact ⟨rfl, .nak htype.symm⟩
    · exact ⟨_, rfl, rfl, .rej⟩
  · exact ⟨_, rfl, rfl, .rej⟩

theorem Lcp.adoptOption_spec (l : Lcp) (o : ConfOption) :
    ∃ l', l.adoptOption o = some l' ∧ l'.localConfig.wantAuth = l.localConfig.wantAuth := by
  unfold adoptOption
  split
  · split
    · obtain ⟨mru, hmru⟩ := exists_uint16 (b := o.data) (by omega)
      refine ⟨_, by rw [hmru]; rfl, ?_⟩
      rfl
    · exact ⟨_, rfl, rfl⟩
  · split
    · split
      · obtain ⟨magic, hmagic⟩ := exists_uint32 (b := o.data) (by omega)
        refine ⟨_, by rw [hmagic]; rfl, ?_⟩
        rfl
      · exact ⟨_, rfl, rfl⟩
    · exact ⟨_, rfl, rfl⟩

theorem Lcp.confNakOption_spec (l : Lcp) (o : ConfOption) :
    ∃ l', l.confNakOption o = some l' ∧ l'.localConfig.wantAuth = l.localConfig.wantAuth := by
  unfold confNakOption
  split
  · split
    · rename_i hlen
      obtain ⟨proto, hproto⟩ := exists_uint16 hlen
      obtain ⟨algo, halgo⟩ := exists_authAlgoOr o.data l.localConfig.authAlgo
      refine ⟨_, by rw [hproto, halgo]; rfl, ?_⟩
      rfl
    · exact ⟨_, rfl, rfl⟩
  · exact l.adoptOption_spec o

instance : SafeHandler Lcp where
  exists_processConfReq _ opts := exists_foldlM _
    (fun s o => (Lcp.confReqOption_spec s o).imp fun _ h => h.1) opts _
  exists_processConfAck _ opts := exists_foldlM _
    (fun l o => (Lcp.adoptOption_spec l o).imp fun _ h => h.1) opts _
  exists_processConfNak _ opts := exists_foldlM _
    (fun l o => (Lcp.confNakOption_spec l o).imp fun _ h => h.1) opts _
  exists_processConfRej _ _ := ⟨_, rfl⟩

theorem Ipcp.exists_confReqOption (s : Ipcp × ConfReply) (o : ConfOption) :
    ∃ r, confReqOption s o = some r := by
  unfold confReqOption
  repeat' split
  all_goals exact ⟨_, rfl⟩

theorem Ipcp.exists_adoptOption (i : Ipcp) (o : ConfOption) : ∃ r, i.adoptOption o = some r := by
  unfold adoptOption
  repeat' split
  all_goals exact ⟨_, rfl⟩

instance : SafeHandler Ipcp where
  exists_processConfReq _ opts := exists_foldlM _ Ipcp.exists_confReqOption opts _
  exists_processConfAck _ opts := exists_foldlM _ Ipcp.exists_adoptOption opts _
  exists_processConfNak _ opts := exists_foldlM _ Ipcp.exists_adoptOption opts _
  exists_processConfRej _ _ := ⟨_, rfl⟩

theorem Ipv6cp.exists_confReqOption (s : Ipv6cp × ConfReply) (o : ConfOption) :
    ∃ r, confReqOption s o = some r := by
  unfold confReqOption
  repeat' split
  all_goals exact ⟨_, rfl⟩

theorem Ipv6cp.exists_adoptOption (i : Ipv6cp) (o : ConfOption) :
    ∃ r, i.adoptOption o = some r := by
  unfold adoptOption
  split <;> exact ⟨_, rfl⟩

instance : SafeHandler Ipv6cp where
  exists_processConfReq _ opts := exists_foldlM _ Ipv6cp.exists_confReqOption opts _
  exists_processConfAck _ opts := exists_foldlM _ Ipv6cp.exists_adoptOption opts _
  exists_processConfNak _ opts := exists_foldlM _ Ipv6cp.exists_adoptOption opts _
  exists_processConfRej _ _ := ⟨_, rfl⟩

/-! ## What negotiation cannot change -/

variable {o : ConfOption}

/-- Negotiation never withdraws our demand for authentication: a peer that
rejects the option only stops us from sending it. -/
theorem Lcp.wantAuth_invariant :
    Fsm.HandlerInvariant fun l : Lcp => l.localConfig.wantAuth = true where
  req h opts h' r hreq hh := by
    refine foldlM_invariant (fun s : Lcp × ConfReply => s.1.localConfig.wantAuth = true) ?_ hreq hh
    intro s o s' hstep hs
    obtain ⟨_, hspec, hlocal, -⟩ := confReqOption_spec s o
    cases hspec.symm.trans hstep
    rw [hlocal]
    exact hs
  ack h opts h' hack hh := by
    refine foldlM_invariant (fun l : Lcp => l.localConfig.wantAuth = true) ?_ hack hh
    intro l o l' hstep hl
    obtain ⟨_, hspec, hwant⟩ := l.adoptOption_spec o
    cases hspec.symm.trans hstep
    exact hwant.trans hl
  nak h opts h' hnak hh := by
    refine foldlM_invariant (fun l : Lcp => l.localConfig.wantAuth = true) ?_ hnak hh
    intro l o l' hstep hl
    obtain ⟨_, hspec, hwant⟩ := l.confNakOption_spec o
    cases hspec.symm.trans hstep
    exact hwant.trans hl
  rej h opts h' hrej hh := by
    cases hrej
    exact hh

theorem to4_ne_nil_of_isUsableIPv4 {ip : IP} (h : isUsableIPv4 ip = true) : to4 ip ≠ [] := by
  simp only [isUsableIPv4, Bool.and_eq_true, decide_eq_true_eq] at h
  exact h.1.2

theorem ipAddressOption_data {ip : IP} (h : isUsableIPv4 ip = true) :
    (ipAddressOption ip).data.length = 4 ∧ equal (ipAddressOption ip).data (to4 ip) = true ∧
      equal (ipAddressOption ip).data ipv4zero = false := by
  have hto4 := to4_ne_nil_of_isUsableIPv4 h
  rw [show (ipAddressOption ip).data = to4 ip from if_neg hto4]
  refine ⟨?_, by simp [equal], ?_⟩
  · revert hto4
    unfold to4
    grind
  · simp only [isUsableIPv4, isUnspecified, Bool.and_eq_true, Bool.not_eq_true',
      Bool.or_eq_false_iff] at h
    exact h.2.1

theorem Ipcp.confReqOption_address {s s' : Ipcp × ConfReply}
    (h : confReqOption s o = some s') (ha : isUsableIPv4 s.1.peerConfig.peerAddress = true) :
    s'.1.peerConfig.peerAddress = s.1.peerConfig.peerAddress ∧
      (s'.1.peerConfig.address = s.1.peerConfig.address ∧
          o ≠ ipAddressOption s.1.peerConfig.peerAddress ∨
        canon s'.1.peerConfig.address = canon s.1.peerConfig.peerAddress) := by
  obtain ⟨i, r⟩ := s
  unfold confReqOption at h
  dsimp only at h ha ⊢
  have hdata := ipAddressOption_data ha
  split at h
  · split at h
    · split at h
      · cases h
        exact ⟨rfl, .inl ⟨rfl, by rintro rfl; simp_all⟩⟩
      · rename_i hother
        split at h
        · cases h
          exact ⟨rfl, .inl ⟨rfl, by rintro rfl; simp_all⟩⟩
        · cases h
          have hequal : equal o.data (to4 i.peerConfig.peerAddress) = true := by
            simpa [ha] using hother
          refine ⟨rfl, .inr ?_⟩
          rw [← canon_to4 (to4_ne_nil_of_isUsableIPv4 ha)]
          exact canon_eq_of_equal hequal
    · cases h
      exact ⟨rfl, .inl ⟨rfl, by rintro rfl; simp_all⟩⟩
  · rename_i htype
    repeat' split at h
    all_goals cases h
    all_goals exact ⟨rfl, .inl ⟨rfl, by rintro rfl; exact htype rfl⟩⟩

theorem Ipcp.adoptOption_peerConfig {i i' : Ipcp} (h : i.adoptOption o = some i') :
    i'.peerConfig = i.peerConfig := by
  unfold adoptOption at h
  repeat' split at h
  all_goals cases h
  all_goals rfl

theorem Ipcp.foldlM_adoptOption_peerConfig {i i' : Ipcp} {opts : List ConfOption}
    (h : opts.foldlM adoptOption i = some i') : i'.peerConfig = i.peerConfig :=
  foldlM_invariant (fun x : Ipcp => x.peerConfig = i.peerConfig)
    (fun _ _ _ hstep hx => (adoptOption_peerConfig hstep).trans hx) h rfl

/-- Once a usable address `a` is assigned, negotiation leaves the peer's address
as it was or makes it `a`. -/
theorem Ipcp.address_invariant {a : IP} (ha : isUsableIPv4 a = true) (old : IP) :
    Fsm.HandlerInvariant fun i : Ipcp => i.peerConfig.peerAddress = a ∧
      (i.peerConfig.address = old ∨ canon i.peerConfig.address = canon a) where
  req h opts h' r hreq hh := by
    refine foldlM_invariant (fun s : Ipcp × ConfReply => s.1.peerConfig.peerAddress = a ∧
      (s.1.peerConfig.address = old ∨ canon s.1.peerConfig.address = canon a)) ?_ hreq hh
    rintro s o s' hstep ⟨hassigned, haddress⟩
    obtain ⟨hsame, hnew⟩ := confReqOption_address hstep (by rw [hassigned]; exact ha)
    rw [hassigned] at hsame hnew
    refine ⟨hsame, ?_⟩
    rcases hnew with ⟨hnew, -⟩ | hnew
    · rw [hnew]
      exact haddress
    · exact .inr hnew
  ack h opts h' hack hh := by
    rw [foldlM_adoptOption_peerConfig hack]
    exact hh
  nak h opts h' hnak hh := by
    rw [foldlM_adoptOption_peerConfig hnak]
    exact hh
  rej h opts h' hrej hh := by
    cases hrej
    exact hh

end Osvbng.Ppp
