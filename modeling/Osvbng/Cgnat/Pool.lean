import Osvbng.Lib.Bitmap
import Osvbng.Lib.NetIP

/-!
# Pools of port blocks

The pool manager of the address translator. A pool has outside addresses, the
ports of each are cut into blocks of one size, and a bitmap per address says
which blocks are taken. A subscriber, known by its inside address and VRF, holds
a list of blocks.

Texts are read before they come here: a port range is `none` when the
configuration leaves it out or it does not read as two numbers, an outside
address is what the address parser made of it.
-/

namespace Osvbng.Cgnat
open Function Lib.Slice Lib.NetIP Lib.Bitmap List Prod

/-! ## The configuration of a pool -/

inductive AddressPooling where
  | unset | paired | arbitrary
deriving DecidableEq

/-- An outside address or a prefix of them, as the parser reads it. -/
inductive OutsideAddress where
  | address (ip : IP)
  | cidr4 (network : UInt32) (ones : Nat)
  | cidr6
  | malformed

structure Pool where
  outsideAddresses : List OutsideAddress
  excludedAddresses : List String
  blockSize : UInt16
  subscriberRatio : UInt16
  maxBlocksPerSubscriber : UInt8
  portRange : Option (UInt16 × UInt16)
  addressPooling : AddressPooling

namespace Pool
variable (p : Pool)

def getPortRangeStart : UInt16 := (p.portRange.map fst).getD 1024

def getPortRangeEnd : UInt16 := (p.portRange.map snd).getD 65535

def getPortRangeSize : UInt32 :=
  p.getPortRangeEnd.toUInt32 - p.getPortRangeStart.toUInt32 + 1

def getBlockSize : UInt16 :=
  if 0 < p.blockSize then p.blockSize
  else if 0 < p.subscriberRatio then (p.getPortRangeSize / p.subscriberRatio.toUInt32).toUInt16
  else 512

def getMaxBlocksPerSubscriber : UInt8 :=
  if 0 < p.maxBlocksPerSubscriber then p.maxBlocksPerSubscriber else 4

def getAddressPooling : AddressPooling :=
  if p.addressPooling = .unset then .paired else p.addressPooling

end Pool

/-! ## The state of a pool -/

structure SubscriberKey where
  insideVRF : UInt32
  insideIP : IP
deriving DecidableEq

structure BlockAllocation where
  outsideIP : IP
  portBlockStart : UInt16
  portBlockEnd : UInt16
deriving DecidableEq

structure SubscriberAllocation (N : Type) where
  poolName : N
  poolID : UInt32
  swIfIndex : UInt32
  blocks : List BlockAllocation

structure OutsideAddressState where
  ip : IP
  totalBlocks : Nat
  allocatedBits : Words
  excluded : Bool

structure PoolState (N : Type) where
  name : N
  id : UInt32
  config : Pool
  outsideAddresses : List OutsideAddressState
  subscribers : SubscriberKey → Option (SubscriberAllocation N)

structure PoolManager (N : Type) where
  pools : N → Option (PoolState N)

structure CGNATMapping (N : Type) where
  poolName : N
  poolID : UInt32
  insideIP : IP
  insideVRFID : UInt32
  outsideIP : IP
  portBlockStart : UInt16
  portBlockEnd : UInt16
  swIfIndex : UInt32

inductive PoolError (N : Type) where
  | notFound (pool : N)
  | invalidOutsideAddress (pool : N) (entry : OutsideAddress)
  | maxBlocks (insideIP : IP) (insideVRF : UInt32) (max : Nat)
  | noFreeBlocks (pool : N)
  | allocationFailed (pool : N) (outsideIP : IP)

/-! ## Outside addresses -/

def u32ToIP (v : UInt32) : IP := v4InV6Prefix ++ putBe 4 v.toNat

/-- The addresses of an entry. The number of addresses of a prefix is a 32-bit
number too, so the prefix of length zero has none. -/
def expandCIDR : OutsideAddress → Option (List IP)
  | .address ip => some [to4 ip]
  | .cidr4 network ones =>
    some ((range (2 ^ (32 - ones) % 2 ^ 32)).map fun i => u32ToIP (network + UInt32.ofNat i))
  | .cidr6 => none
  | .malformed => none

/-- The text of an outside address, which is IPv4 or missing. -/
def ipString (ip : IP) : String :=
  if ip = [] then "<nil>" else ".".intercalate ((to4 ip).map fun b => toString b.toNat)

def popcount (x : BitVec 64) : Nat :=
  let x := x - ((x >>> 1) &&& 0x5555555555555555)
  let x := (x &&& 0x3333333333333333) + ((x >>> 2) &&& 0x3333333333333333)
  let x := (x + (x >>> 4)) &&& 0x0f0f0f0f0f0f0f0f
  ((x * 0x0101010101010101) >>> 56).toNat

variable (addr : OutsideAddressState)

def hasFreeBlock : Bool :=
  (addr.allocatedBits.map popcount).sum % 2 ^ 32 < addr.totalBlocks

def allocateBlock : Option (Nat × OutsideAddressState) :=
  (firstFree addr.totalBlocks 0 addr.allocatedBits).map fun blockIdx =>
    (blockIdx, { addr with allocatedBits := setBit addr.allocatedBits blockIdx })

def freeBlock (blockIdx : Nat) : OutsideAddressState :=
  { addr with allocatedBits := clearBit addr.allocatedBits blockIdx }

def markBlock (blockIdx : Nat) : OutsideAddressState :=
  { addr with allocatedBits := setBit addr.allocatedBits blockIdx }

def copy4 (b : Bytes) : Bytes := (b ++ replicate 4 0).take 4

def makeSubscriberKey (vrf : UInt32) (ip : IP) : SubscriberKey := ⟨vrf, copy4 (to4 ip)⟩

def updateAddress (addresses : List OutsideAddressState) (ip : IP)
    (f : OutsideAddressState → OutsideAddressState) : List OutsideAddressState :=
  match addresses.findIdx? fun a => equal a.ip ip with
  | none => addresses
  | some p => addresses.modify p f

/-! ## Operations on a pool -/

def newAddresses (cfg : Pool) (blocksPerAddr : Nat) (ips : List IP) : List OutsideAddressState :=
  ips.map fun ip =>
    { ip := ip
      totalBlocks := blocksPerAddr
      allocatedBits := replicate ((blocksPerAddr + 63) % 2 ^ 32 / 64) 0#64
      excluded := cfg.excludedAddresses.contains (ipString ip) }

namespace PoolState
variable {N : Type} (ps : PoolState N)

def blockIdx (portBlockStart : UInt16) : Nat :=
  (portBlockStart - ps.config.getPortRangeStart).toNat / ps.config.getBlockSize.toNat

/-- The address the next block is taken from: for paired pooling that of the
first block the subscriber has, else the first one with a free block. -/
def targetAddr (sub : Option (SubscriberAllocation N)) : Option Nat :=
  let paired : Option Nat :=
    match sub.bind fun sub => sub.blocks.head? with
    | some block =>
      if ps.config.getAddressPooling = .paired then
        ps.outsideAddresses.findIdx? fun a => equal a.ip block.outsideIP && !a.excluded
      else none
    | none => none
  match paired with
  | some p => some p
  | none => ps.outsideAddresses.findIdx? fun a => !a.excluded && hasFreeBlock a

def addBlock (key : SubscriberKey) (swIfIndex : UInt32) (block : BlockAllocation) : PoolState N :=
  let sub := (ps.subscribers key).getD ⟨ps.name, ps.id, swIfIndex, []⟩
  { ps with
    subscribers :=
      update ps.subscribers key (some { sub with blocks := sub.blocks ++ [block] }) }

def allocateLocked (insideIP : IP) (insideVRF swIfIndex : UInt32) :
    Except (PoolError N) (PoolState N × CGNATMapping N) :=
  let key := makeSubscriberKey insideVRF insideIP
  let maxBlocks := ps.config.getMaxBlocksPerSubscriber.toNat
  if (ps.subscribers key).any fun sub => decide (maxBlocks ≤ sub.blocks.length) then
    .error (.maxBlocks insideIP insideVRF maxBlocks)
  else
    match ps.targetAddr (ps.subscribers key) with
    | none => .error (.noFreeBlocks ps.name)
    | some p =>
      match ps.outsideAddresses[p]? with
      | none => .error (.noFreeBlocks ps.name)
      | some addr =>
        match allocateBlock addr with
        | none => .error (.allocationFailed ps.name addr.ip)
        | some (blockIdx, addr') =>
          let portBlockStart := ps.config.getPortRangeStart +
            UInt16.ofNat blockIdx * ps.config.getBlockSize
          let portBlockEnd := portBlockStart + ps.config.getBlockSize - 1
          let block := ⟨copy4 (to4 addr.ip), portBlockStart, portBlockEnd⟩
          .ok ({ ps with
                outsideAddresses := ps.outsideAddresses.modify p fun _ => addr' }.addBlock
                key swIfIndex block,
            ⟨ps.name, ps.id, to4 insideIP, insideVRF, block.outsideIP, portBlockStart,
              portBlockEnd, swIfIndex⟩)

def freeBlocks (blocks : List BlockAllocation) : List OutsideAddressState :=
  blocks.foldl (fun addresses block =>
    updateAddress addresses block.outsideIP fun addr =>
      freeBlock addr (ps.blockIdx block.portBlockStart)) ps.outsideAddresses

def releaseBlocks (key : SubscriberKey) : PoolState N :=
  match ps.subscribers key with
  | none => ps
  | some sub =>
    { ps with
      outsideAddresses := ps.freeBlocks sub.blocks
      subscribers := update ps.subscribers key none }

def hasBlock (key : SubscriberKey) (mapping : CGNATMapping N) : Bool :=
  (ps.subscribers key).any fun sub => sub.blocks.any fun b =>
    b.portBlockStart = mapping.portBlockStart && equal b.outsideIP mapping.outsideIP

def restore (mapping : CGNATMapping N) (ifAbsent : Bool) : PoolState N :=
  let key := makeSubscriberKey mapping.insideVRFID mapping.insideIP
  if ifAbsent && ps.hasBlock key mapping then ps
  else
    { ps with
      outsideAddresses := updateAddress ps.outsideAddresses mapping.outsideIP fun addr =>
        markBlock addr (ps.blockIdx mapping.portBlockStart) }.addBlock key mapping.swIfIndex
      ⟨mapping.outsideIP, mapping.portBlockStart, mapping.portBlockEnd⟩

end PoolState

/-! ## The pool manager -/

namespace PoolManager
variable {N : Type} [DecidableEq N]

def newPoolManager : PoolManager N := ⟨fun _ => none⟩

variable (pm : PoolManager N)

def put (name : N) (ps : PoolState N) : PoolManager N :=
  ⟨update pm.pools name (some ps)⟩

/-- Sets a pool up anew. It is `none` when the number of blocks is a division by
zero, which stops the process. -/
def configurePool (name : N) (id : UInt32) (cfg : Pool) :
    Checked (Except (PoolError N) (PoolManager N)) :=
  if cfg.getBlockSize = 0 then none
  else
    let blocksPerAddr := (cfg.getPortRangeSize / cfg.getBlockSize.toUInt32).toNat
    match cfg.outsideAddresses.find? fun entry => (expandCIDR entry).isNone with
    | some entry => some (.error (.invalidOutsideAddress name entry))
    | none =>
      let ips := cfg.outsideAddresses.flatMap fun entry => (expandCIDR entry).getD []
      some (.ok (pm.put name
        { name := name
          id := id
          config := cfg
          outsideAddresses := newAddresses cfg blocksPerAddr ips
          subscribers := fun _ => none }))

def removePool (name : N) : PoolManager N :=
  ⟨update pm.pools name none⟩

variable (poolName : N) (insideIP : IP)

/-- The first block of the subscriber, or a new one; the flag tells which. -/
def getOrAllocate (insideVRF swIfIndex : UInt32) :
    Except (PoolError N) (PoolManager N × CGNATMapping N × Bool) :=
  match pm.pools poolName with
  | none => .error (.notFound poolName)
  | some ps =>
    let sub := ps.subscribers (makeSubscriberKey insideVRF insideIP)
    match sub, sub.bind fun sub => sub.blocks.head? with
    | some sub, some b =>
      .ok (pm, ⟨poolName, ps.id, to4 insideIP, insideVRF, copy4 (to4 b.outsideIP),
        b.portBlockStart, b.portBlockEnd, sub.swIfIndex⟩, false)
    | _, _ => do
        let (ps, mapping) ← ps.allocateLocked insideIP insideVRF swIfIndex
        .ok (pm.put poolName ps, mapping, true)

def releaseBlocks (insideVRF : UInt32) : Except (PoolError N) (PoolManager N) :=
  match pm.pools poolName with
  | none => .error (.notFound poolName)
  | some ps => .ok (pm.put poolName (ps.releaseBlocks (makeSubscriberKey insideVRF insideIP)))

def getMappings (insideVRF : UInt32) : List (CGNATMapping N) :=
  match pm.pools poolName with
  | none => []
  | some ps =>
    match ps.subscribers (makeSubscriberKey insideVRF insideIP) with
    | none => []
    | some sub => sub.blocks.map fun b =>
      ⟨poolName, ps.id, to4 insideIP, insideVRF, b.outsideIP, b.portBlockStart, b.portBlockEnd,
        sub.swIfIndex⟩

variable (mapping : CGNATMapping N)

def restoreLocked (ifAbsent : Bool) : Except (PoolError N) (PoolManager N) :=
  match pm.pools mapping.poolName with
  | none => .error (.notFound mapping.poolName)
  | some ps => .ok (pm.put mapping.poolName (ps.restore mapping ifAbsent))

def restoreMappingIfAbsent : Except (PoolError N) (PoolManager N) :=
  pm.restoreLocked mapping true

end PoolManager
end Osvbng.Cgnat
