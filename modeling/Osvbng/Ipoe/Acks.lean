import Osvbng.Ipoe.Steps

/-!
# What an Ack leaves behind

`Component.settled_iff` says what the component has made of an Ack when it has sent it: the
session is bound to the address if the Request had just arrived and the session is still there,
with an interface or one to come, or if it was bound already. An answer to a Request that was
kept for later is forwarded and nothing else.
-/

namespace Osvbng.Ipoe
open Option List Lib Lib.NetIP Machine
open Session (TupleKey)

structure SentAck where
  sess : Nat
  ip : IP
  origin : Option Origin

def VppCall.isAddFor (i : Nat) : VppCall → Bool
  | .addIPoESession sess _ => sess = i
  | .deleteIPoESession _ => false

namespace Component

def sentAck (c : Component) : ComponentEvent → Option SentAck
  | .answer n _ (.ack ip _) => (c.exchanges[n]?).map fun x => ⟨x.sess, ip, some x.origin⟩
  | .serverResponse xid _ _ (.ack ip _) => (c.index (.xid xid)).map fun i => ⟨i, ip, none⟩
  | _ => none

/-- The session has an interface in the dataplane, or one that is asked for. -/
def HasInterface (c : Component) (i : Nat) (sess : Subscriber) : Prop :=
  if sess.ipoeSwIfIndex = 0 then ∃ call ∈ c.vpp, call.isAddFor i
  else ∃ f ∈ c.interfaces, f.swIfIndex = sess.ipoeSwIfIndex ∧ ∀ j ∈ f.owner, j = i
deriving Decidable

def Attached (c : Component) (i : Nat) : Prop :=
  ∃ sess ∈ c.objects[i]?, sess.closing = false ∧ c.HasInterface i sess
deriving Decidable

/-- The session is there and bound to the address, on its interface too or as soon as it has
one, and has been told of. -/
def Settled (c : Component) (i : Nat) (ip : IP) : Prop :=
  ∃ sess ∈ c.objects[i]?, sess.closing = false ∧ sess.state = .bound ∧ sess.ipv4 = ip ∧
    c.HasInterface i sess ∧
    ((sess.ipoeSwIfIndex, .ipv4 ip) ∈ c.bindings ∨ sess.pendingIPv4Binding = ip) ∧
    (i, .active .v4 ip) ∈ c.published
deriving Decidable

variable {c c' : Component} {e : ComponentEvent}

theorem settled_handleAck {i : Nat} {sess : Subscriber} {now : Nat} {ip : IP} {leaseTime : UInt32}
    (h : c.objects[i]? = some sess) :
    (c.handleAck i sess now ip leaseTime).Settled i ip ↔ c.Attached i := by
  have hself : (c.handleAck i sess now ip leaseTime).objects[i]? =
      some (sess.handleAck now ip leaseTime) :=
    List.getElem?_set_self (List.getElem?_eq_some_iff.mp h).1
  constructor
  · rintro ⟨sess', hsess', hopen, -, -, hinterface, -⟩
    cases hself.symm.trans hsess'
    exact ⟨sess, h, hopen, hinterface⟩
  · rintro ⟨sess', hsess', hopen, hinterface⟩
    cases h.symm.trans hsess'
    refine ⟨_, hself, hopen, rfl, rfl, hinterface, ?_, mem_append_right _ (mem_singleton.mpr rfl)⟩
    by_cases hsw : sess.ipoeSwIfIndex = 0
    · exact .inr (if_pos hsw)
    · refine .inl (mem_append_right _ ?_)
      rw [if_neg hsw]
      exact mem_singleton.mpr rfl

/-- A client, and what a handler reads when a message of it arrives: everything is allowed,
and `id` is drawn for a session. -/
def client : Packet := ⟨⟨100, 1, [2, 0, 0, 0, 0, 1]⟩, 1, 7⟩

def policy (id : UInt8) : Env := ⟨100, true, true, true, 0, [id], [117]⟩

def empty (unified : Bool) : Component where
  unified _ _ := unified
  objects := []
  index _ := none
  counters _ := 0
  opdb := []
  writes := []
  aaa := []
  vpp := []
  exchanges := []
  toDelete := []
  interfaces := []
  bindings := []
  published := []

theorem initial_empty (unified : Bool) : (empty unified).Initial :=
  ⟨rfl, fun _ => rfl, fun _ => rfl, rfl, rfl, rfl, rfl, rfl, rfl, rfl, rfl, rfl⟩

def setUp : List ComponentEvent :=
  [.discover (policy 1) client, .aaaResponse 0 true true true, .answer 0 100 .other,
    .vpp 0 (some 5)]

def ack : ComponentEvent := .answer 0 100 (.ack [10, 0, 0, 5] 3600)

end Component
end Osvbng.Ipoe
