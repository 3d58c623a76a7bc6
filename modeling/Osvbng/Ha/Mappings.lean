import Osvbng.Cgnat.Ownership
import Osvbng.Ha.Sync
import Osvbng.Lib.Json
import Osvbng.Lib.Wire

/-!
# Address mappings on the standby

A mapping of the active node goes to the standby as a checkpoint, when it is made
or with a bulk of all mappings. The standby stores the checkpoint in its database
in the wire format of the messages. After a failover the component that owns the
mappings looks for a stored one and decodes it as JSON.

`synced_mapping_not_restored`: no mapping is ever restored that way. The outside
address of a mapping is four bytes long, its length stands before it in the wire
format, and no JSON text has a byte with the value four in it.
-/

namespace Osvbng.Ha
open Function List Lib Lib.Slice Lib.NetIP Cgnat Wire Json PoolManager

structure SessionMapping extends CGNATMapping String where
  sessionID : String

instance : Coe SessionMapping (CGNATMapping String) := ⟨(·.toCGNATMapping)⟩

structure CGNATMappingCheckpoint where
  sessionID : String
  srgName : String
  poolName : String
  insideIP : Bytes
  outsideIP : Bytes
  portBlockStart : UInt32
  portBlockEnd : UInt32
  insideVRFID : UInt32

def mappingToCheckpoint (srgName : String) (m : SessionMapping) : CGNATMappingCheckpoint where
  sessionID := m.sessionID
  srgName := srgName
  poolName := m.poolName
  insideIP := to4 m.insideIP
  outsideIP := to4 m.outsideIP
  portBlockStart := m.portBlockStart.toUInt32
  portBlockEnd := m.portBlockEnd.toUInt32
  insideVRFID := m.insideVRFID

def CGNATMappingCheckpoint.marshal (cp : CGNATMappingCheckpoint) : Bytes :=
  stringField 1 cp.sessionID ++ stringField 2 cp.srgName ++
    stringField 3 cp.poolName ++ bytesField 4 cp.insideIP ++
    bytesField 5 cp.outsideIP ++ uintField 6 cp.portBlockStart.toNat ++
    uintField 7 cp.portBlockEnd.toNat ++ uintField 8 cp.insideVRFID.toNat

abbrev Store := String → String → Option Bytes

namespace Store

def put (store : Store) (ns key : String) (value : Bytes) : Store :=
  update store ns (update (store ns) key (some value))

def delete (store : Store) (ns key : String) : Store :=
  update store ns (update (store ns) key none)

def namespaceHASyncedCGNAT : String := "ha_synced_cgnat"

end Store

structure SyncReceiver where
  opdb : Store
  lastSeq : String → UInt64

structure BulkSyncCGNATResponse where
  srgName : String
  mappings : List CGNATMappingCheckpoint
  sequence : UInt64

namespace SyncReceiver
variable (r : SyncReceiver)

def storeCGNATCheckpoint (cp : CGNATMappingCheckpoint) : SyncReceiver :=
  { r with opdb := r.opdb.put Store.namespaceHASyncedCGNAT cp.sessionID cp.marshal }

def deleteCGNATCheckpoint (cp : CGNATMappingCheckpoint) : SyncReceiver :=
  { r with opdb := r.opdb.delete Store.namespaceHASyncedCGNAT cp.sessionID }

def handleSyncCGNATMapping (req : SyncCGNATMappingRequest CGNATMappingCheckpoint) : SyncReceiver :=
  let r := { r with
    lastSeq := update r.lastSeq (req.srgName ++ "_cgnat") req.sequence }
  match req.action with
  | .create => r.storeCGNATCheckpoint req.mapping
  | .update => r.storeCGNATCheckpoint req.mapping
  | .delete => r.deleteCGNATCheckpoint req.mapping

def handleBulkSyncCGNATPage (resp : BulkSyncCGNATResponse) : SyncReceiver :=
  let r := resp.mappings.foldl storeCGNATCheckpoint r
  if 0 < resp.sequence then
    { r with lastSeq := update r.lastSeq (resp.srgName ++ "_cgnat") resp.sequence }
  else r

end SyncReceiver

/-- Finds and decodes a stored mapping and restores it in the pools. What follows
is the dataplane's answer. -/
def tryRestoreSyncedMapping (decode : Bytes → Option SessionMapping) (opdb : Store)
    (pools : PoolManager String) (sessionID : String) (swIfIndex : UInt32) :
    Option (SessionMapping × PoolManager String) := do
  let found ← opdb Store.namespaceHASyncedCGNAT sessionID
  let mapping ← unmarshal decode found
  let mapping := { mapping with swIfIndex := swIfIndex, sessionID := sessionID }
  match pools.restoreMappingIfAbsent mapping.toCGNATMapping with
  | .error _ => none
  | .ok pools => some (mapping, pools)

def Restores (decode : Bytes → Option SessionMapping) (opdb : Store)
    (pools : PoolManager String) (swIfIndex : UInt32) (m : SessionMapping) : Prop :=
  ∃ m' pools', tryRestoreSyncedMapping decode opdb pools m.sessionID swIfIndex = some (m', pools') ∧
    equal m'.insideIP m.insideIP ∧ m'.insideVRFID = m.insideVRFID ∧
    equal m'.outsideIP m.outsideIP ∧ m'.portBlockStart = m.portBlockStart ∧
    m'.portBlockEnd = m.portBlockEnd ∧ m'.poolName = m.poolName ∧ m'.sessionID = m.sessionID

/-! ## What is stored is not JSON -/

theorem length_copy4 (b : Bytes) : (copy4 b).length = 4 := by
  unfold copy4
  simp

theorem to4_copy4 (b : Bytes) : to4 (copy4 b) ≠ [] := by
  have hlength := length_copy4 b
  unfold to4
  rw [if_pos hlength]
  intro hnil
  rw [hnil] at hlength
  cases hlength

variable {m : SessionMapping} {opdb : Store}

theorem valid_marshal (srgName : String) (hm : to4 m.outsideIP ≠ []) :
    valid (mappingToCheckpoint srgName m).marshal = false := by
  have hfour : (4 : UInt8) ∈ bytesField 5 (to4 m.outsideIP) := by
    have hmem := mem_length_bytesField 5 hm (by rw [(unmapped_to4 hm).2]; decide)
    rw [(unmapped_to4 hm).2] at hmem
    exact hmem
  apply valid_eq_false_of_control (c := 4) (by decide)
  unfold CGNATMappingCheckpoint.marshal
  simp only [mem_append]
  exact .inl (.inl (.inl (.inr hfour)))

def Unreadable (opdb : Store) (sessionID : String) : Prop :=
  ∀ data ∈ opdb Store.namespaceHASyncedCGNAT sessionID, valid data = false

theorem tryRestoreSyncedMapping_of_unreadable {sessionID : String}
    (h : Unreadable opdb sessionID) (decode : Bytes → Option SessionMapping)
    (pools : PoolManager String) (swIfIndex : UInt32) :
    tryRestoreSyncedMapping decode opdb pools sessionID swIfIndex = none := by
  refine Option.bind_eq_none_iff.mpr fun data hdata => ?_
  rw [unmarshal, h data hdata]
  rfl

theorem not_restores_of_unreadable {decode : Bytes → Option SessionMapping}
    {pools : PoolManager String} {swIfIndex : UInt32}
    (h : Unreadable opdb m.sessionID) : ¬ Restores decode opdb pools swIfIndex m := by
  rintro ⟨m', pools', hrestore, -⟩
  rw [tryRestoreSyncedMapping_of_unreadable h] at hrestore
  cases hrestore

namespace SyncReceiver
variable (r : SyncReceiver) {cp : CGNATMappingCheckpoint} {sessionID : String}

theorem opdb_storeCGNATCheckpoint :
    (r.storeCGNATCheckpoint cp).opdb Store.namespaceHASyncedCGNAT sessionID =
      if sessionID = cp.sessionID then some cp.marshal
      else r.opdb Store.namespaceHASyncedCGNAT sessionID := by
  unfold storeCGNATCheckpoint Store.put
  dsimp only
  rw [update_self]
  split
  · rename_i heq
    rw [heq, update_self]
  · rename_i hne
    rw [update_of_ne hne]

theorem unreadable_store (hcp : valid cp.marshal = false) :
    Unreadable (r.storeCGNATCheckpoint cp).opdb cp.sessionID := by
  intro data hdata
  rw [opdb_storeCGNATCheckpoint, if_pos rfl] at hdata
  cases hdata
  exact hcp

theorem unreadable_store_of_unreadable (hcp : valid cp.marshal = false)
    (h : Unreadable r.opdb sessionID) :
    Unreadable (r.storeCGNATCheckpoint cp).opdb sessionID := by
  intro data hdata
  rw [opdb_storeCGNATCheckpoint] at hdata
  split at hdata
  · cases hdata
    exact hcp
  · exact h data hdata

theorem unreadable_page {cps : List CGNATMappingCheckpoint}
    (hcps : ∀ cp ∈ cps, valid cp.marshal = false)
    (h : Unreadable r.opdb sessionID ∨ ∃ cp ∈ cps, cp.sessionID = sessionID) :
    Unreadable (cps.foldl storeCGNATCheckpoint r).opdb sessionID := by
  induction cps generalizing r with
  | nil => exact h.resolve_right (by simp)
  | cons cp cps ih =>
    have hcp := hcps cp (mem_cons_self ..)
    apply ih _ fun cp' hcp' => hcps cp' (mem_cons_of_mem _ hcp')
    rcases h with h | ⟨cp', hmem, hkey⟩
    · exact .inl (r.unreadable_store_of_unreadable hcp h)
    · rcases mem_cons.mp hmem with rfl | hmem
      · rw [← hkey]
        exact .inl (r.unreadable_store hcp)
      · exact .inr ⟨cp', hmem, hkey⟩

end SyncReceiver

/-- Neither the checkpoint of a new mapping nor that of a bulk is decoded after a
failover, whatever the decoder makes of JSON. -/
theorem synced_mapping_not_restored (hm : to4 m.outsideIP ≠ [])
    (r : SyncReceiver) (decode : Bytes → Option SessionMapping) (pools : PoolManager String)
    (swIfIndex : UInt32) :
    (∀ srgName sequence action, action ≠ .delete →
      ¬ Restores decode (r.handleSyncCGNATMapping
        ⟨srgName, sequence, action, mappingToCheckpoint srgName m⟩).opdb pools swIfIndex m) ∧
    ∀ srgName sequence (ms : List SessionMapping), m ∈ ms → (∀ m' ∈ ms, to4 m'.outsideIP ≠ []) →
      ¬ Restores decode (r.handleBulkSyncCGNATPage
        ⟨srgName, ms.map (mappingToCheckpoint ""), sequence⟩).opdb pools swIfIndex m := by
  constructor
  · intro srgName sequence action haction
    apply not_restores_of_unreadable
    have hstore := fun receiver : SyncReceiver =>
      receiver.unreadable_store (valid_marshal srgName hm)
    cases action with
    | create | update => exact hstore _
    | delete => exact absurd rfl haction
  · intro srgName sequence ms hmem hms
    apply not_restores_of_unreadable
    have hpage : Unreadable ((ms.map (mappingToCheckpoint "")).foldl
        SyncReceiver.storeCGNATCheckpoint r).opdb m.sessionID := by
      apply SyncReceiver.unreadable_page
      · intro cp hcp
        obtain ⟨m', hm', rfl⟩ := mem_map.mp hcp
        exact valid_marshal "" (hms m' hm')
      · exact .inr ⟨_, mem_map_of_mem hmem, rfl⟩
    unfold SyncReceiver.handleBulkSyncCGNATPage
    split
    · exact hpage
    · exact hpage

/-! ## A subscriber that moves -/

def onePool : PoolManager String :=
  let cfg : Pool := ⟨[.address [203, 0, 113, 1]], [], 0, 0, 0, some (1024, 2047), .unset⟩
  match newPoolManager.configurePool "cgn" 1 cfg with
  | some (.ok pm) => pm
  | _ => newPoolManager

def secondBlock : SessionMapping :=
  ⟨⟨"cgn", 1, [10, 0, 0, 2], 0, [203, 0, 113, 1], 1536, 2047, 8⟩, "s2"⟩

def emptyReceiver : SyncReceiver := ⟨fun _ _ => none, fun _ => 0⟩

theorem synced_mapping_not_restored_secondBlock :
    to4 secondBlock.outsideIP ≠ [] ∧
      ∀ decode : Bytes → Option SessionMapping, ¬ Restores decode
        (emptyReceiver.handleBulkSyncCGNATPage
          ⟨"srg", [secondBlock].map (mappingToCheckpoint ""), 1⟩).opdb onePool 3 secondBlock := by
  refine ⟨by decide, fun decode => ?_⟩
  apply (synced_mapping_not_restored (by decide) emptyReceiver decode onePool 3).2
  · exact mem_singleton.mpr rfl
  · intro m' hm'
    rw [mem_singleton.mp hm']
    decide

/-- The active node gives the second subscriber the second block and tells the
standby. After the failover the subscriber has the first block. -/
theorem failover_moves_subscriber :
    (∃ active, (onePool.getOrAllocate "cgn" [10, 0, 0, 1] 0 7).map Prod.fst = .ok active ∧
      (active.getOrAllocate "cgn" [10, 0, 0, 2] 0 8).map (·.2.1) =
        .ok secondBlock) ∧
    (∀ decode : Bytes → Option SessionMapping, ¬ Restores decode
      (emptyReceiver.handleSyncCGNATMapping
        ⟨"srg", 1, .create, mappingToCheckpoint "srg" secondBlock⟩).opdb onePool 3 secondBlock) ∧
    (onePool.getOrAllocate "cgn" [10, 0, 0, 2] 0 3).map (·.2.1) =
      .ok ⟨"cgn", 1, [10, 0, 0, 2], 0, [203, 0, 113, 1], 1024, 1535, 3⟩ := by
  refine ⟨⟨_, rfl, rfl⟩, fun decode => ?_, rfl⟩
  apply not_restores_of_unreadable
  exact SyncReceiver.unreadable_store _ (valid_marshal "srg" (by decide))

end Osvbng.Ha
