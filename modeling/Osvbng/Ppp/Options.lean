import Osvbng.Lib.Slice

/-!
# PPP numbers and configuration options

Protocol numbers and packet codes, and the type-length-value list that every
Configure packet carries. `exists_parseOptions` says that the option walker
stays in bounds and terminates on every byte string.
-/

namespace Osvbng.Ppp
open Option Lib.Slice

def protoLCP : UInt16 := 0xc021
def protoPAP : UInt16 := 0xc023
def protoCHAP : UInt16 := 0xc223
def protoIPCP : UInt16 := 0x8021
def protoIPv6CP : UInt16 := 0x8057
def protoIPv6 : UInt16 := 0x0057

def confReq : UInt8 := 1
def confAck : UInt8 := 2
def confNak : UInt8 := 3
def confRej : UInt8 := 4
def termReq : UInt8 := 5
def termAck : UInt8 := 6
def codeRej : UInt8 := 7
def protoRej : UInt8 := 8
def echoReq : UInt8 := 9
def echoRep : UInt8 := 10
def discReq : UInt8 := 11

inductive Phase where
  | dead | establish | authenticate | network | «open» | terminate
  | lacTunnelPending | lacTunneled
deriving DecidableEq, Repr

/-- A configuration option; on the wire `type`, a length that counts the two
header bytes, and `data`. -/
structure ConfOption where
  type : UInt8
  data : Bytes
deriving DecidableEq, Repr

inductive OptionError where
  | invalidOptionLength
deriving DecidableEq, Repr

/-- The loop of `ParseOptions`. `fuel` bounds the number of options read. -/
def parseOptionsLoop : (fuel : Nat) → Bytes → List ConfOption →
    Checked (Except OptionError (List ConfOption))
  | 0, _, _ => none
  | fuel + 1, data, opts =>
    if data.length < 2 then some (.ok opts)
    else do
      let t ← index data 0
      let l ← index data 1
      if l.toNat < 2 ∨ data.length < l.toNat then
        pure (.error .invalidOptionLength)
      else
        let body ← slice data 2 l.toNat
        let rest ← sliceFrom data l.toNat
        parseOptionsLoop fuel rest (opts ++ [⟨t, body⟩])

-- Every round consumes at least the two header bytes of an option.
variable (data : Bytes)

def parseOptions : Checked (Except OptionError (List ConfOption)) :=
  parseOptionsLoop (data.length + 1) data []

/-- `opts, _ := ParseOptions(data)`: a malformed list reads as the empty one. -/
def parseOptionsOrNil : Checked (List ConfOption) := do
  match ← parseOptions data with
  | .ok opts => pure opts
  | .error _ => pure []

def serializeOption (o : ConfOption) : Bytes :=
  o.type :: UInt8.ofNat (2 + o.data.length) :: o.data

def serializeOptions (opts : List ConfOption) : Bytes := opts.flatMap serializeOption

theorem exists_parseOptionsLoop (fuel : Nat) (data : Bytes) (opts : List ConfOption)
    (hfuel : data.length < fuel) : ∃ r, parseOptionsLoop fuel data opts = some r := by
  induction fuel generalizing data opts with
  | zero => omega
  | succ fuel ih =>
    unfold parseOptionsLoop
    by_cases hshort : data.length < 2
    · exact ⟨_, if_pos hshort⟩
    rw [if_neg hshort, index_of_lt (i := 0) (by omega), index_of_lt (i := 1) (by omega)]
    simp only [bind_eq_bind, bind_some]
    split
    · exact ⟨_, rfl⟩
    · rw [slice_of_le (by omega) (by omega), sliceFrom_of_le (by omega)]
      apply ih
      simp only [List.length_drop]
      omega

theorem exists_parseOptions : ∃ r, parseOptions data = some r :=
  exists_parseOptionsLoop _ data [] (Nat.lt_succ_self _)

theorem exists_parseOptionsOrNil : ∃ opts, parseOptionsOrNil data = some opts := by
  obtain ⟨r, hr⟩ := exists_parseOptions data
  unfold parseOptionsOrNil
  cases r with
  | ok opts => exact ⟨opts, by simp [hr]⟩
  | error e => exact ⟨[], by simp [hr]⟩

end Osvbng.Ppp
