import Osvbng.Allocator.Ownership
import Osvbng.Ha.Sync
import Osvbng.Lib.WriteLog

/-!
# Session checkpoints on the standby

The active node turns a session into a checkpoint and sends it; the standby keeps
it in its database, under the access type and the session's id, and reserves its
addresses. `opdb_handleSyncSession` and `opdb_handleBulkSyncPage` say what a
message does to the database, as writes to its keys.

A reservation that fails is only logged, and a message whose number leaves a gap
is only logged too. Both logs, the time of the last message and the components
that apply a checkpoint at once are left out.
-/

namespace Osvbng.Ha
open Function Lib Lib.NetIP Allocator Write

/-! ## From a session to its checkpoint -/

/-- `D` stands for the fields that are copied and not read here. -/
structure SessionCheckpoint (D : Type) where
  sessionId : String
  srgName : String
  accessType : String
  ipv4Address : IP
  ipv4Pool : String
  ipv6Address : IP
  ianaPool : String
  ipv6Prefix : IP
  ipv6PrefixLen : UInt32
  pdPool : String
  details : D

inductive AccessKind where
  | ipoe
  | l2gw
  | ppp
  | other
deriving DecidableEq

structure SubscriberSession (D : Type) where
  sessionID : String
  srgName : String
  kind : AccessKind
  ipv4Address : IP
  ipv6Address : IP
  ipv4Pool : String
  ianaPool : String
  pdPool : String
  /-- The delegated network, if the session has one that parses. -/
  ipv6Prefix : Option IPNet
  details : D

variable {D : Type} (sess : SubscriberSession D)

/-- What every kind of session has, then what its own kind adds. -/
def sessionToCheckpoint : SessionCheckpoint D :=
  let cp : SessionCheckpoint D :=
    { sessionId := sess.sessionID
      srgName := sess.srgName
      accessType := ""
      ipv4Address := to4 sess.ipv4Address
      ipv4Pool := ""
      ipv6Address := to16 sess.ipv6Address
      ianaPool := ""
      ipv6Prefix := []
      ipv6PrefixLen := 0
      pdPool := ""
      details := sess.details }
  let ipv6Prefix := (sess.ipv6Prefix.map fun ipNet => to16 ipNet.ip).getD []
  let ipv6PrefixLen := (sess.ipv6Prefix.map fun ipNet => UInt32.ofNat ipNet.ones).getD 0
  match sess.kind with
  | .ipoe =>
    { cp with
      accessType := "ipoe"
      ipv4Pool := sess.ipv4Pool
      ianaPool := sess.ianaPool
      pdPool := sess.pdPool
      ipv6Prefix := ipv6Prefix
      ipv6PrefixLen := ipv6PrefixLen }
  | .l2gw => { cp with accessType := "l2gw" }
  | .ppp =>
    { cp with
      accessType := "pppoe"
      ipv4Pool := sess.ipv4Pool
      ianaPool := sess.ianaPool
      ipv6Prefix := ipv6Prefix
      ipv6PrefixLen := ipv6PrefixLen }
  | .other => cp

@[simp] theorem srgName_sessionToCheckpoint :
    (sessionToCheckpoint sess).srgName = sess.srgName := by
  unfold sessionToCheckpoint
  cases sess.kind <;> rfl

/-! ## The database of the standby -/

inductive SyncedNamespace where
  | ipoe
  | pppoe
  | l2gw
deriving DecidableEq

def syncedNamespace (accessType : String) : SyncedNamespace :=
  if accessType = "pppoe" then .pppoe
  else if accessType = "l2gw" then .l2gw
  else .ipoe

abbrev SyncedKey := SyncedNamespace × String

variable (cp : SessionCheckpoint D)

def SessionCheckpoint.key : SyncedKey :=
  (syncedNamespace cp.accessType, cp.sessionId)

def SubscriberSession.key : SyncedKey := (sessionToCheckpoint sess).key

def SessionCheckpoint.put : Write SyncedKey (SessionCheckpoint D) :=
  ⟨cp.key, some cp⟩

def SessionCheckpoint.remove : Write SyncedKey (SessionCheckpoint D) :=
  ⟨cp.key, none⟩

def SyncSessionRequest.write (req : SyncSessionRequest (SessionCheckpoint D)) :
    Write SyncedKey (SessionCheckpoint D) :=
  if req.action = .delete then req.session.remove else req.session.put

/-- The order in which the loops over the pools of each family visit them. -/
structure Visits where
  v4 : List String
  iana : List String
  pd : List String

abbrev Pools := Registry String String String

structure SyncSessionResponse where
  success : Bool
  lastSyncSeq : UInt64
deriving DecidableEq

structure BulkSyncResponse (D : Type) where
  srgName : String
  sessions : List (SessionCheckpoint D)
  sequence : UInt64
  lastPage : Bool

/-- The sessions of a page that are stored when the database refuses one after the
first `stored`. -/
def BulkSyncResponse.taken (resp : BulkSyncResponse D) : Option Nat → List (SessionCheckpoint D)
  | none => resp.sessions
  | some stored => resp.sessions.take stored

namespace SessionCheckpoint

/-- `net.CIDRMask` has no mask of more than 128 ones. -/
def ipNet : IPNet :=
  if cp.ipv6PrefixLen.toNat ≤ 128 then ⟨cp.ipv6Prefix, cp.ipv6PrefixLen.toNat, 128⟩
  else ⟨cp.ipv6Prefix, 0, 0⟩

def delegated : Option IPNet :=
  if cp.ipv6Prefix.length > 0 ∧ cp.ipv6PrefixLen > 0 then some cp.ipNet else none

variable (visits : Visits)

def reserveIPv4 (cp : SessionCheckpoint D) (r : Pools) : Pools :=
  if cp.ipv4Address.length > 0 then
    (if cp.ipv4Pool ≠ "" then
        r.reserveIPInPool visits.v4 cp.ipv4Pool cp.ipv4Address cp.sessionId
      else r.reserveIP visits.v4 cp.ipv4Address cp.sessionId).getD r
  else r

def reserveIPv6 (cp : SessionCheckpoint D) (r : Pools) : Pools :=
  if cp.ipv6Address.length > 0 then
    (if cp.ianaPool ≠ "" then
        r.reserveIANAInPool visits.iana cp.ianaPool cp.ipv6Address cp.sessionId
      else r.reserveIANA visits.iana cp.ipv6Address cp.sessionId).getD r
  else r

def reservePrefix (cp : SessionCheckpoint D) (r : Pools) : Pools :=
  match cp.delegated with
  | none => r
  | some ipNet =>
    (if cp.pdPool ≠ "" then r.reservePDInPool visits.pd cp.pdPool ipNet cp.sessionId
      else r.reservePD visits.pd ipNet cp.sessionId).getD r

end SessionCheckpoint

variable (visits : Visits)

/-- Reserves what a checkpoint holds; what cannot be reserved is skipped. -/
def reserveAddresses (cp : SessionCheckpoint D) (r : Pools) : Pools :=
  cp.reservePrefix visits (cp.reserveIPv6 visits (cp.reserveIPv4 visits r))

/-- Releases the addresses of a checkpoint, whoever holds them. -/
def releaseAddresses (cp : SessionCheckpoint D) (r : Pools) : Pools :=
  let r := if cp.ipv4Address.length > 0 then r.releaseIP cp.ipv4Address else r
  let r := if cp.ipv6Address.length > 0 then r.releaseIANAByIP cp.ipv6Address else r
  match cp.delegated with
  | none => r
  | some ipNet => r.releasePDByPrefix visits.pd ipNet

namespace SessionSync

/-- What the receiver of the peer's messages keeps of the sessions. -/
structure SyncReceiver (D : Type) where
  opdb : SyncedKey → Option (SessionCheckpoint D)
  registry : Option Pools
  lastSeq : String → UInt64

namespace SyncReceiver

def new (registry : Option Pools) : SyncReceiver D := ⟨fun _ => none, registry, fun _ => 0⟩

def keep (r : SyncReceiver D) (cp : SessionCheckpoint D) : SyncReceiver D :=
  { r with
    opdb := cp.put.apply r.opdb
    registry := r.registry.map (reserveAddresses visits cp) }

/-- `stored` is whether the database accepts the write. -/
def handleSyncSession (stored : Bool) (visits : Visits) (r : SyncReceiver D)
    (req : SyncSessionRequest (SessionCheckpoint D)) : SyncReceiver D × SyncSessionResponse :=
  let r := { r with lastSeq := update r.lastSeq req.srgName req.sequence }
  if !stored then (r, ⟨false, req.sequence⟩)
  else
    match req.action with
    | .create | .update => (r.keep visits req.session, ⟨true, req.sequence⟩)
    | .delete =>
      ({ r with
          opdb := req.session.remove.apply r.opdb
          registry := r.registry.map (releaseAddresses visits req.session) },
        ⟨true, req.sequence⟩)

/-- A page is given up when the database refuses one of its sessions. -/
def handleBulkSyncPage (stored : Option Nat) (visits : Visits) (r : SyncReceiver D)
    (resp : BulkSyncResponse D) : SyncReceiver D × Bool :=
  let complete := stored.all (resp.sessions.length ≤ ·)
  let r := (resp.taken stored).foldl (keep visits) r
  if complete ∧ resp.sequence > 0 then
    ({ r with lastSeq := update r.lastSeq resp.srgName resp.sequence }, complete)
  else (r, complete)

/-! ### What the messages do to the database -/

variable {r : SyncReceiver D} {visits : Visits}

theorem opdb_handleSyncSession (req : SyncSessionRequest (SessionCheckpoint D)) :
    (r.handleSyncSession true visits req).1.opdb = req.write.apply r.opdb := by
  unfold handleSyncSession SyncSessionRequest.write
  cases req.action <;> rfl

theorem opdb_foldl_keep (cps : List (SessionCheckpoint D)) :
    (cps.foldl (keep visits) r).opdb = replay r.opdb (cps.map (·.put)) := by
  induction cps generalizing r with
  | nil => rfl
  | cons cp cps ih => exact ih

theorem opdb_handleBulkSyncPage (resp : BulkSyncResponse D) :
    (r.handleBulkSyncPage none visits resp).1.opdb =
      replay r.opdb (resp.sessions.map (·.put)) := by
  calc (r.handleBulkSyncPage none visits resp).1.opdb
      = (resp.sessions.foldl (keep visits) r).opdb := by
        unfold handleBulkSyncPage
        dsimp only
        split <;> rfl
    _ = replay r.opdb (resp.sessions.map (·.put)) := opdb_foldl_keep resp.sessions

end SyncReceiver
end SessionSync
end Osvbng.Ha
