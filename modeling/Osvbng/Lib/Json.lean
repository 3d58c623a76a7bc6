import Osvbng.Lib.Slice

/-!
# Validity of JSON text

A scanner that reads a text byte by byte and says whether it is one JSON value.
It is the automaton of a decoder that checks the whole text before it decodes
anything, so what the scanner rejects is never decoded.

`valid_eq_false_of_control`: no text with a control byte in it is valid. Between
values only four kinds of blank are allowed, and in a string no byte below `0x20`.
-/

namespace Osvbng.Lib.Json
open List Lib.Slice UInt8

inductive ParseState where
  | objectKey
  | objectValue
  | arrayValue
deriving DecidableEq

inductive NumberState where
  | neg
  | one
  | zero
  | dot
  | dot0
  | e
  | eSign
  | e0
deriving DecidableEq

inductive LiteralState where
  | t
  | tr
  | tru
  | f
  | fa
  | fal
  | fals
  | n
  | nu
  | nul
deriving DecidableEq

def LiteralState.next : LiteralState → UInt8 × Option LiteralState
  | .t => (0x72, some .tr)
  | .tr => (0x75, some .tru)
  | .tru => (0x65, none)
  | .f => (0x61, some .fa)
  | .fa => (0x6C, some .fal)
  | .fal => (0x73, some .fals)
  | .fals => (0x65, none)
  | .n => (0x75, some .nu)
  | .nu => (0x6C, some .nul)
  | .nul => (0x6C, none)

inductive State where
  | beginValue
  | beginValueOrEmpty
  | beginString
  | beginStringOrEmpty
  | endValue
  | endTop
  | inString
  | inStringEsc
  /-- Hexadecimal digits that are still to come. -/
  | inStringEscU (digits : Nat)
  | number (s : NumberState)
  | literal (s : LiteralState)
deriving DecidableEq

structure Scanner where
  state : State
  parseState : List ParseState

def isSpace (c : UInt8) : Bool := c = 0x20 || c = 0x09 || c = 0x0D || c = 0x0A

def isDigit (c : UInt8) : Bool := 0x30 ≤ c && c ≤ 0x39

def isHexDigit (c : UInt8) : Bool :=
  isDigit c || (0x61 ≤ c && c ≤ 0x66) || (0x41 ≤ c && c ≤ 0x46)

def maxNestingDepth : Nat := 10000

namespace Scanner

def start : Scanner := ⟨.beginValue, []⟩

variable (s : Scanner)

def goto (state : State) : Option Scanner := some { s with state := state }

def push (state : State) (ps : ParseState) : Option Scanner :=
  if s.parseState.length < maxNestingDepth then some ⟨state, ps :: s.parseState⟩ else none

def pop : Option Scanner :=
  match s.parseState with
  | [] => none
  | _ :: [] => some ⟨.endTop, []⟩
  | _ :: rest => some ⟨.endValue, rest⟩

def endValue (c : UInt8) : Option Scanner :=
  if isSpace c then s.goto (if s.parseState.isEmpty then .endTop else .endValue)
  else
    match s.parseState with
    | [] => none
    | .objectKey :: rest =>
      if c = 0x3A then some ⟨.beginValue, .objectValue :: rest⟩ else none
    | .objectValue :: rest =>
      if c = 0x2C then some ⟨.beginString, .objectKey :: rest⟩
      else if c = 0x7D then s.pop
      else none
    | .arrayValue :: _ =>
      if c = 0x2C then s.goto .beginValue
      else if c = 0x5D then s.pop
      else none

def beginValue (c : UInt8) : Option Scanner :=
  if isSpace c then some s
  else if c = 0x7B then s.push .beginStringOrEmpty .objectKey
  else if c = 0x5B then s.push .beginValueOrEmpty .arrayValue
  else if c = 0x22 then s.goto .inString
  else if c = 0x2D then s.goto (.number .neg)
  else if c = 0x30 then s.goto (.number .zero)
  else if c = 0x74 then s.goto (.literal .t)
  else if c = 0x66 then s.goto (.literal .f)
  else if c = 0x6E then s.goto (.literal .n)
  else if isDigit c then s.goto (.number .one)
  else none

def beginString (c : UInt8) : Option Scanner :=
  if isSpace c then some s else if c = 0x22 then s.goto .inString else none

def number (n : NumberState) (c : UInt8) : Option Scanner :=
  match n with
  | .neg =>
    if c = 0x30 then s.goto (.number .zero)
    else if isDigit c then s.goto (.number .one)
    else none
  | .one =>
    if isDigit c then s.goto (.number .one)
    else if c = 0x2E then s.goto (.number .dot)
    else if c = 0x65 || c = 0x45 then s.goto (.number .e)
    else s.endValue c
  | .zero =>
    if c = 0x2E then s.goto (.number .dot)
    else if c = 0x65 || c = 0x45 then s.goto (.number .e)
    else s.endValue c
  | .dot => if isDigit c then s.goto (.number .dot0) else none
  | .dot0 =>
    if isDigit c then s.goto (.number .dot0)
    else if c = 0x65 || c = 0x45 then s.goto (.number .e)
    else s.endValue c
  | .e =>
    if c = 0x2B || c = 0x2D then s.goto (.number .eSign)
    else if isDigit c then s.goto (.number .e0)
    else none
  | .eSign => if isDigit c then s.goto (.number .e0) else none
  | .e0 => if isDigit c then s.goto (.number .e0) else s.endValue c

/-- The scanner after a byte; `none` is a syntax error. -/
def step (c : UInt8) : Option Scanner :=
  match s.state with
  | .beginValue => s.beginValue c
  | .beginValueOrEmpty =>
    if isSpace c then some s else if c = 0x5D then s.endValue c else s.beginValue c
  | .beginString => s.beginString c
  | .beginStringOrEmpty =>
    if isSpace c then some s
    else if c = 0x7D then
      Scanner.endValue { s with parseState := .objectValue :: s.parseState.tail } c
    else s.beginString c
  | .endValue => s.endValue c
  | .endTop => if isSpace c then some s else none
  | .inString =>
    if c = 0x22 then s.goto .endValue
    else if c = 0x5C then s.goto .inStringEsc
    else if c < 0x20 then none
    else some s
  | .inStringEsc =>
    if c = 0x75 then s.goto (.inStringEscU 4)
    else if c ∈ [0x62, 0x66, 0x6E, 0x72, 0x74, 0x5C, 0x2F, 0x22] then s.goto .inString
    else none
  | .inStringEscU digits =>
    if isHexDigit c then s.goto (if digits ≤ 1 then .inString else .inStringEscU (digits - 1))
    else none
  | .number n => s.number n c
  | .literal l => if c = l.next.1 then s.goto (l.next.2.elim .endValue .literal) else none

/-- A blank after the text has to complete the value. -/
def eof : Bool :=
  match s.step 0x20 with
  | some s' => s'.state = .endTop
  | none => false

def run (text : Bytes) : Option Scanner := text.foldlM step s

end Scanner

def valid (text : Bytes) : Bool := (Scanner.start.run text).any Scanner.eof

example : valid "[1, -2.5e3, \"b\\u00e9\", [], null] ".toUTF8.toList = true := by decide +kernel

example : valid "[01]".toUTF8.toList = false := by decide +kernel

/-- A decoder is given only text that is valid. -/
def unmarshal {X : Type} (decode : Bytes → Option X) (text : Bytes) : Option X :=
  if valid text then decode text else none

/-! ## Control bytes -/

def IsControl (c : UInt8) : Prop := c < 0x20 ∧ isSpace c = false
deriving Decidable

theorem IsControl.ne {c d : UInt8} (h : IsControl c) (hd : 0x20 ≤ d) : c ≠ d := by
  rintro rfl
  exact absurd h.1 (UInt8.not_lt.mpr hd)

variable {c : UInt8}

theorem IsControl.isDigit (h : IsControl c) : isDigit c = false := by
  have hlt := lt_iff_toNat_lt.mp h.1
  unfold Json.isDigit
  rw [Bool.and_eq_false_iff]
  left
  rw [decide_eq_false_iff_not, le_iff_toNat_le]
  change ¬ 48 ≤ c.toNat
  change c.toNat < 32 at hlt
  omega

theorem IsControl.isHexDigit (h : IsControl c) : isHexDigit c = false := by
  have hlt : c.toNat < 32 := lt_iff_toNat_lt.mp h.1
  unfold Json.isHexDigit
  rw [h.isDigit, Bool.false_or, Bool.or_eq_false_iff, Bool.and_eq_false_iff, Bool.and_eq_false_iff]
  refine ⟨.inl ?_, .inl ?_⟩
  · rw [decide_eq_false_iff_not, le_iff_toNat_le]
    change ¬ 97 ≤ c.toNat
    omega
  · rw [decide_eq_false_iff_not, le_iff_toNat_le]
    change ¬ 65 ≤ c.toNat
    omega

namespace Scanner
variable {s : Scanner} {c : UInt8}

theorem endValue_control (h : IsControl c) : s.endValue c = none := by
  unfold endValue
  rw [h.2]
  have hcolon := h.ne (d := 0x3A) (by decide)
  have hcomma := h.ne (d := 0x2C) (by decide)
  have hbrace := h.ne (d := 0x7D) (by decide)
  have hbracket := h.ne (d := 0x5D) (by decide)
  split
  · contradiction
  · split <;> simp [*]

theorem beginValue_control (h : IsControl c) : s.beginValue c = none := by
  unfold beginValue
  rw [h.2, h.isDigit]
  simp [h.ne (d := 0x7B) (by decide), h.ne (d := 0x5B) (by decide), h.ne (d := 0x22) (by decide),
    h.ne (d := 0x2D) (by decide), h.ne (d := 0x30) (by decide), h.ne (d := 0x74) (by decide),
    h.ne (d := 0x66) (by decide), h.ne (d := 0x6E) (by decide)]

theorem beginString_control (h : IsControl c) : s.beginString c = none := by
  unfold beginString
  rw [h.2]
  simp [h.ne (d := 0x22) (by decide)]

theorem number_control {n : NumberState} (h : IsControl c) : s.number n c = none := by
  unfold number
  rw [h.isDigit, endValue_control h]
  cases n <;>
    simp [h.ne (d := 0x30) (by decide), h.ne (d := 0x2E) (by decide), h.ne (d := 0x65) (by decide),
      h.ne (d := 0x45) (by decide), h.ne (d := 0x2B) (by decide), h.ne (d := 0x2D) (by decide)]

theorem step_control (h : IsControl c) : s.step c = none := by
  unfold step
  split
  · exact beginValue_control h
  · rw [h.2]
    simp [h.ne (d := 0x5D) (by decide), beginValue_control h]
  · exact beginString_control h
  · rw [h.2]
    simp [h.ne (d := 0x7D) (by decide), beginString_control h]
  · exact endValue_control h
  · rw [h.2]
    rfl
  · simp [h.ne (d := 0x22) (by decide), h.ne (d := 0x5C) (by decide), h.1]
  · simp [h.ne (d := 0x75) (by decide), h.ne (d := 0x62) (by decide), h.ne (d := 0x66) (by decide),
      h.ne (d := 0x6E) (by decide), h.ne (d := 0x72) (by decide), h.ne (d := 0x74) (by decide),
      h.ne (d := 0x5C) (by decide), h.ne (d := 0x2F) (by decide), h.ne (d := 0x22) (by decide)]
  · rw [h.isHexDigit]
    rfl
  · exact number_control h
  · rename_i l _
    rw [if_neg (h.ne _)]
    cases l <;> decide

theorem run_control {text : Bytes} (h : IsControl c) (hc : c ∈ text) : s.run text = none := by
  induction text generalizing s with
  | nil => cases hc
  | cons b text ih =>
    unfold run
    rw [foldlM_cons]
    rcases mem_cons.mp hc with rfl | hmem
    · rw [step_control h]
      rfl
    · cases s.step b with
      | none => rfl
      | some s' => exact ih hmem

end Scanner

theorem valid_eq_false_of_control {text : Bytes} (h : IsControl c) (hc : c ∈ text) :
    valid text = false := by
  unfold valid
  rw [Scanner.run_control h hc]
  rfl

end Osvbng.Lib.Json
