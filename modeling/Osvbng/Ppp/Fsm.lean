import Osvbng.Ppp.Options

/-!
# The option-negotiation automaton

The automaton that LCP and every network control protocol run. It is generic
in the option handler, which decides what to request and how to answer the
peer's requests. Each event returns the new automaton and the list of callback
invocations, in order; the host interprets them.

Main results: `layerSpec_handle`, by which the layer callbacks fire over every
event exactly when the automaton enters or leaves `opened`, and
`exists_handle`, by which no event stops with a bounds fault when the option
handler does not.
-/

namespace Osvbng.Ppp
open Option Lib.Slice

inductive State where
  | initial | starting | closed | stopped | closing | stopping
  | reqSent | ackRcvd | ackSent | opened
deriving DecidableEq, Repr

inductive Action where
  | send (code id : UInt8) (data : Bytes)
  | layerUp
  | layerDown
  | layerStarted
  | layerFinished
deriving DecidableEq, Repr

/-- What a handler answers to a Configure-Request. -/
structure ConfReply where
  ack : List ConfOption
  nak : List ConfOption
  rej : List ConfOption

class OptionHandler (H : Type) where
  buildConfReq : H → List ConfOption
  processConfReq : H → List ConfOption → Checked (H × ConfReply)
  processConfAck : H → List ConfOption → Checked H
  processConfNak : H → List ConfOption → Checked H
  processConfRej : H → List ConfOption → Checked H

open OptionHandler

/-- Handlers whose option accesses are in bounds on every option list. -/
class SafeHandler (H : Type) [OptionHandler H] : Prop where
  exists_processConfReq : ∀ (h : H) opts, ∃ r, processConfReq h opts = some r
  exists_processConfAck : ∀ (h : H) opts, ∃ r, processConfAck h opts = some r
  exists_processConfNak : ∀ (h : H) opts, ∃ r, processConfNak h opts = some r
  exists_processConfRej : ∀ (h : H) opts, ∃ r, processConfRej h opts = some r

structure Fsm (H : Type) where
  state : State
  id : UInt8
  restartCount : Nat
  failCount : Nat
  lastReqID : UInt8
  /-- Whether the restart timer is armed. -/
  timer : Bool
  handler : H

def maxConf : Nat := 10
def maxTerm : Nat := 2

def newFsm {H : Type} (h : H) : Fsm H where
  state := .initial
  id := 0
  restartCount := 0
  failCount := 0
  lastReqID := 0
  timer := false
  handler := h

namespace Fsm
variable {H : Type} [OptionHandler H] {f : Fsm H} {r : Fsm H × List Action} {data : Bytes}
  {id code : UInt8}

def irc (f : Fsm H) : Fsm H := { f with restartCount := maxConf }

def zrc (f : Fsm H) : Fsm H := { f with restartCount := 0 }

def scr (f : Fsm H) : Fsm H × List Action :=
  ({ f with id := f.id + 1, lastReqID := f.id + 1, timer := true },
    [.send confReq (f.id + 1) (serializeOptions (buildConfReq f.handler))])

def sca (id : UInt8) (opts : List ConfOption) : Action := .send confAck id (serializeOptions opts)

def scn (f : Fsm H) (id : UInt8) (opts : List ConfOption) : Fsm H × List Action :=
  ({ f with failCount := f.failCount + 1 }, [.send confNak id (serializeOptions opts)])

def scj (id : UInt8) (opts : List ConfOption) : Action := .send confRej id (serializeOptions opts)

def strRetransmit (f : Fsm H) : Fsm H × List Action :=
  ({ f with id := f.id + 1, timer := true }, [.send termReq (f.id + 1) []])

def str (f : Fsm H) : Fsm H × List Action :=
  strRetransmit { f with restartCount := maxTerm }

def sta (id : UInt8) : Action := .send termAck id []

def goto (s : State) (r : Fsm H × List Action) : Fsm H × List Action :=
  ({ r.1 with state := s }, r.2)

variable (acts : List Action) {e : Event} {P : H → Prop}

def after (r : Fsm H × List Action) : Fsm H × List Action :=
  (r.1, acts ++ r.2)

def restore (f : Fsm H) : Fsm H :=
  { f with timer := false, state := .opened, restartCount := 0, failCount := 0 }

def kill (f : Fsm H) : Fsm H := { f with timer := false, state := .closed }

def up (f : Fsm H) : Fsm H × List Action :=
  match f.state with
  | .initial => ({ f with state := .closed }, [])
  | .starting => goto .reqSent (scr (irc f))
  | _ => (f, [])

def down (f : Fsm H) : Fsm H × List Action :=
  let f := { f with timer := false }
  match f.state with
  | .closed | .closing => ({ f with state := .initial }, [])
  | .stopped => ({ f with state := .starting }, [.layerStarted])
  | .stopping | .reqSent | .ackRcvd | .ackSent => ({ f with state := .starting }, [])
  | .opened => ({ f with state := .starting }, [.layerDown])
  | _ => (f, [])

def «open» (f : Fsm H) : Fsm H × List Action :=
  match f.state with
  | .initial => ({ f with state := .starting }, [.layerStarted])
  | .closed => goto .reqSent (scr (irc f))
  | _ => (f, [])

def close (f : Fsm H) : Fsm H × List Action :=
  match f.state with
  | .starting => ({ f with state := .initial }, [.layerFinished])
  | .stopped => ({ f with state := .closed }, [])
  | .stopping => ({ f with state := .closing }, [])
  | .opened => after [.layerDown] (goto .closing (str (irc f)))
  | .reqSent | .ackRcvd | .ackSent => goto .closing (str (irc f))
  | _ => (f, [])

def timeout (f : Fsm H) : Fsm H × List Action :=
  if 0 < f.restartCount then
    let f := { f with restartCount := f.restartCount - 1 }
    match f.state with
    | .closing | .stopping => strRetransmit f
    | .reqSent | .ackSent => scr f
    | .ackRcvd => goto .reqSent (scr f)
    | _ => (f, [])
  else
    match f.state with
    | .closing => ({ f with state := .closed }, [.layerFinished])
    | .stopping => ({ f with state := .stopped }, [.layerFinished])
    | .reqSent | .ackRcvd | .ackSent => ({ f with state := .stopped }, [.layerFinished])
    | _ => (f, [])

/-- The answer to a Configure-Request: acknowledge it, else reject, else nak. -/
def answer (f : Fsm H) (id : UInt8) (r : ConfReply) (good bad : State) : Fsm H × List Action :=
  if r.nak.isEmpty && r.rej.isEmpty then ({ f with state := good }, [sca id r.ack])
  else if !r.rej.isEmpty then ({ f with state := bad }, [scj id r.rej])
  else goto bad (scn f id r.nak)

def rcrTransition (f : Fsm H) (id : UInt8) (r : ConfReply) : Fsm H × List Action :=
  match f.state with
  | .closed => (f, [sta id])
  | .stopped =>
    let (f, acts) := scr (irc f)
    after acts (answer f id r .ackSent .reqSent)
  | .reqSent => answer f id r .ackSent .reqSent
  | .ackRcvd =>
    if r.nak.isEmpty && r.rej.isEmpty then
      ({ f with state := .opened, timer := false }, [sca id r.ack, .layerUp])
    else answer f id r .ackRcvd .ackRcvd
  | .ackSent => answer f id r .ackSent .reqSent
  | .opened =>
    let (f, acts) := scr f
    after (.layerDown :: acts) (answer f id r .ackSent .reqSent)
  | _ => (f, [])

def rcrEvent (f : Fsm H) (id : UInt8) (data : Bytes) : Checked (Fsm H × List Action) := do
  match ← parseOptions data with
  | .error _ => pure (f, [])
  | .ok opts =>
    let (h, r) ← processConfReq f.handler opts
    pure (rcrTransition { f with handler := h } id r)

def rcaTransition (f : Fsm H) (id : UInt8) : Fsm H × List Action :=
  match f.state with
  | .closed | .stopped => (f, [sta id])
  | .reqSent => ({ irc f with state := .ackRcvd }, [])
  | .ackRcvd => goto .reqSent (scr f)
  | .ackSent => ({ f with state := .opened, timer := false }, [.layerUp])
  | .opened => after [.layerDown] (goto .reqSent (scr f))
  | _ => (f, [])

def rcaEvent (f : Fsm H) (id : UInt8) (data : Bytes) : Checked (Fsm H × List Action) :=
  if id ≠ f.lastReqID then some (f, [])
  else do
    let opts ← parseOptionsOrNil data
    let h ← processConfAck f.handler opts
    pure (rcaTransition { f with handler := h } id)

def rcnTransition (f : Fsm H) (id : UInt8) : Fsm H × List Action :=
  match f.state with
  | .closed | .stopped => (f, [sta id])
  | .reqSent => scr (irc f)
  | .ackRcvd => goto .reqSent (scr f)
  | .ackSent => goto .reqSent (scr (irc f))
  | .opened => after [.layerDown] (goto .reqSent (scr f))
  | _ => (f, [])

def processConfNakRej (h : H) (opts : List ConfOption) (isRej : Bool) : Checked H :=
  if isRej then processConfRej h opts else processConfNak h opts

def rcnEvent (f : Fsm H) (id : UInt8) (data : Bytes) (isRej : Bool) :
    Checked (Fsm H × List Action) :=
  if id ≠ f.lastReqID then some (f, [])
  else do
    let opts ← parseOptionsOrNil data
    let h ← processConfNakRej f.handler opts isRej
    pure (rcnTransition { f with handler := h } id)

def rtrEvent (f : Fsm H) (id : UInt8) : Fsm H × List Action :=
  match f.state with
  | .closed | .stopped | .closing | .stopping => (f, [sta id])
  | .reqSent | .ackRcvd | .ackSent => (f, [sta id])
  | .opened => ({ zrc f with state := .stopping }, [.layerDown, sta id])
  | _ => (f, [])

def rtaEvent (f : Fsm H) : Fsm H × List Action :=
  match f.state with
  | .closing => ({ f with state := .closed, timer := false }, [.layerFinished])
  | .stopping => ({ f with state := .stopped, timer := false }, [.layerFinished])
  | .ackSent => ({ f with state := .reqSent }, [])
  | .opened => after [.layerDown] (goto .reqSent (scr f))
  | _ => (f, [])

def rxjEvent (f : Fsm H) : Fsm H × List Action :=
  match f.state with
  | .reqSent | .ackRcvd | .ackSent => ({ f with state := .stopped }, [.layerFinished])
  | .opened => after [.layerDown] (goto .stopping (str (irc f)))
  | _ => (f, [])

def rucEvent (f : Fsm H) (code id : UInt8) (data : Bytes) : Fsm H × List Action :=
  ({ f with id := f.id + 1 },
    [.send codeRej (f.id + 1) ([code, id] ++ putBe 2 (4 + data.length) ++ data)])

def rxrEvent (f : Fsm H) (id : UInt8) (data : Bytes) : Fsm H × List Action :=
  if f.state = .opened ∧ 4 ≤ data.length then (f, [.send echoRep id data]) else (f, [])

def input (f : Fsm H) (code id : UInt8) (data : Bytes) : Checked (Fsm H × List Action) :=
  if code = confReq then f.rcrEvent id data
  else if code = confAck then f.rcaEvent id data
  else if code = confNak ∨ code = confRej then f.rcnEvent id data (code = confRej)
  else if code = termReq then some (f.rtrEvent id)
  else if code = termAck then some f.rtaEvent
  else if code = codeRej then some f.rxjEvent
  else if code = protoRej then some (f, [])
  else if code = echoReq then some (f.rxrEvent id data)
  else if code = echoRep ∨ code = discReq then some (f, [])
  else some (f.rucEvent code id data)

def knownCodes : List UInt8 :=
  [confReq, confAck, confNak, confRej, termReq, termAck, codeRej, protoRej, echoReq, echoRep,
    discReq]

/-- What a packet does when its handling does not stop with a bounds fault. -/
inductive Moves (f : Fsm H) (code id : UInt8) (data : Bytes) : Fsm H × List Action → Prop
  | rcr {opts h reply} (hcode : code = confReq) (hopts : parseOptions data = some (.ok opts))
      (hreq : processConfReq f.handler opts = some (h, reply)) :
      Moves f code id data (rcrTransition { f with handler := h } id reply)
  | rca {opts h} (hcode : code = confAck) (hid : id = f.lastReqID)
      (hopts : parseOptionsOrNil data = some opts) (hack : processConfAck f.handler opts = some h) :
      Moves f code id data (rcaTransition { f with handler := h } id)
  | rcn {opts h} (hcode : code = confNak ∨ code = confRej) (hid : id = f.lastReqID)
      (hopts : parseOptionsOrNil data = some opts)
      (hproc : processConfNakRej f.handler opts (code = confRej) = some h) :
      Moves f code id data (rcnTransition { f with handler := h } id)
  | rtr (hcode : code = termReq) : Moves f code id data (f.rtrEvent id)
  | rta (hcode : code = termAck) : Moves f code id data f.rtaEvent
  | rxj (hcode : code = codeRej) : Moves f code id data f.rxjEvent
  | rxr (hcode : code = echoReq) : Moves f code id data (f.rxrEvent id data)
  | ruc (hcode : code ∉ knownCodes) : Moves f code id data (f.rucEvent code id data)
  | unread {err} (hcode : code = confReq) (hopts : parseOptions data = some (.error err)) :
      Moves f code id data (f, [])
  | stale (hcode : code = confAck ∨ code = confNak ∨ code = confRej) (hid : id ≠ f.lastReqID) :
      Moves f code id data (f, [])
  | ignored (hcode : code = protoRej ∨ code = echoRep ∨ code = discReq) :
      Moves f code id data (f, [])

theorem moves_input (h : f.input code id data = some r) : f.Moves code id data r := by
  unfold input at h
  split at h
  · rename_i hcode
    obtain ⟨parsed, hparsed, h⟩ := bind_eq_some_iff.mp h
    cases parsed with
    | error e =>
      cases h
      exact .unread hcode hparsed
    | ok opts =>
      obtain ⟨⟨hnew, reply⟩, hreq, h⟩ := bind_eq_some_iff.mp h
      cases h
      exact .rcr hcode hparsed hreq
  split at h
  · rename_i hcode
    unfold rcaEvent at h
    split at h
    · cases h
      exact .stale (.inl hcode) ‹_›
    · obtain ⟨opts, hopts, h⟩ := bind_eq_some_iff.mp h
      obtain ⟨hnew, hack, h⟩ := bind_eq_some_iff.mp h
      cases h
      exact .rca hcode (not_not.mp ‹_›) hopts hack
  split at h
  · rename_i hcode
    unfold rcnEvent at h
    split at h
    · cases h
      exact .stale (.inr hcode) ‹_›
    · obtain ⟨opts, hopts, h⟩ := bind_eq_some_iff.mp h
      obtain ⟨hnew, hproc, h⟩ := bind_eq_some_iff.mp h
      cases h
      exact .rcn hcode (not_not.mp ‹_›) hopts hproc
  repeat' split at h
  all_goals
    cases h
    rename_i hcode
  · exact .rtr hcode
  · exact .rta hcode
  · exact .rxj hcode
  · exact .ignored (.inl hcode)
  · exact .rxr hcode
  · exact .ignored (.inr hcode)
  · exact .ruc (by simp_all [knownCodes])

inductive Event where
  | up | down | «open» | close | timeout
  | input (code id : UInt8) (data : Bytes)

variable (f)

def handle : Event → Checked (Fsm H × List Action)
  | .up => some f.up
  | .down => some f.down
  | .open => some f.open
  | .close => some f.close
  | .timeout => some f.timeout
  | .input code id data => f.input code id data

/-! ## Bounds -/

section Bounds
variable [SafeHandler H]

theorem exists_rcrEvent (f : Fsm H) (id : UInt8) (data : Bytes) :
    ∃ r, f.rcrEvent id data = some r := by
  obtain ⟨parsed, hparsed⟩ := exists_parseOptions data
  unfold rcrEvent
  cases parsed with
  | error e => exact ⟨(f, []), by simp [hparsed]⟩
  | ok opts =>
    obtain ⟨⟨h, r⟩, hreq⟩ := SafeHandler.exists_processConfReq f.handler opts
    exact ⟨rcrTransition { f with handler := h } id r, by simp [hparsed, hreq]⟩

theorem exists_rcaEvent (f : Fsm H) (id : UInt8) (data : Bytes) :
    ∃ r, f.rcaEvent id data = some r := by
  unfold rcaEvent
  split
  · exact ⟨_, rfl⟩
  · obtain ⟨opts, hopts⟩ := exists_parseOptionsOrNil data
    obtain ⟨h, hack⟩ := SafeHandler.exists_processConfAck f.handler opts
    exact ⟨_, by simp only [hopts, hack, bind_eq_bind, bind_some]; rfl⟩

theorem exists_rcnEvent (f : Fsm H) (id : UInt8) (data : Bytes) (isRej : Bool) :
    ∃ r, f.rcnEvent id data isRej = some r := by
  unfold rcnEvent
  split
  · exact ⟨_, rfl⟩
  · obtain ⟨opts, hopts⟩ := exists_parseOptionsOrNil data
    obtain ⟨hn, hnak⟩ := SafeHandler.exists_processConfNak f.handler opts
    obtain ⟨hr, hrej⟩ := SafeHandler.exists_processConfRej f.handler opts
    cases isRej with
    | true =>
      exact ⟨rcnTransition { f with handler := hr } id, by simp [hopts, processConfNakRej, hrej]⟩
    | false =>
      exact ⟨rcnTransition { f with handler := hn } id, by simp [hopts, processConfNakRej, hnak]⟩

theorem exists_input (f : Fsm H) (code id : UInt8) (data : Bytes) :
    ∃ r, f.input code id data = some r := by
  unfold input
  split
  · exact f.exists_rcrEvent id data
  split
  · exact f.exists_rcaEvent id data
  split
  · exact f.exists_rcnEvent id data _
  repeat' split
  all_goals exact ⟨_, rfl⟩

theorem exists_handle (f : Fsm H) (e : Event) : ∃ r, f.handle e = some r := by
  cases e with
  | input code id data => exact f.exists_input code id data
  | _ => exact ⟨_, rfl⟩

end Bounds

/-! ## Layer callbacks -/

def layerActs : List Action :=
  acts.filter fun a => a = .layerUp ∨ a = .layerDown

@[simp] theorem layerActs_nil : layerActs [] = [] := rfl

@[simp] theorem layerActs_send (code id : UInt8) (data : Bytes) (acts : List Action) :
    layerActs (.send code id data :: acts) = layerActs acts := by
  simp [layerActs]

@[simp] theorem layerActs_layerUp : layerActs (.layerUp :: acts) = .layerUp :: layerActs acts := by
  simp [layerActs]

@[simp] theorem layerActs_layerDown :
    layerActs (.layerDown :: acts) = .layerDown :: layerActs acts := by
  simp [layerActs]

@[simp] theorem layerActs_layerStarted : layerActs (.layerStarted :: acts) = layerActs acts := by
  simp [layerActs]

@[simp] theorem layerActs_layerFinished : layerActs (.layerFinished :: acts) = layerActs acts := by
  simp [layerActs]

def layerMove (s s' : State) : List Action :=
  if s = .opened then (if s' = .opened then [] else [.layerDown])
  else (if s' = .opened then [.layerUp] else [])

def LayerSpec (r : Fsm H × List Action) : Prop :=
  layerActs r.2 = layerMove f.state r.1.state

omit [OptionHandler H] in
theorem layerActs_answer (id : UInt8) (r : ConfReply) (good bad : State) :
    layerActs (f.answer id r good bad).2 = [] := by
  unfold answer
  repeat' split
  all_goals simp [sca, scj, scn, goto]

omit [OptionHandler H] in
theorem state_answer_ne_opened (id : UInt8) (r : ConfReply) {good bad : State}
    (hgood : good ≠ .opened) (hbad : bad ≠ .opened) :
    (f.answer id r good bad).1.state ≠ .opened := by
  unfold answer
  repeat' split
  all_goals simpa [goto]

theorem layerSpec_rcrTransition (id : UInt8) (r : ConfReply) :
    LayerSpec f (f.rcrTransition id r) := by
  unfold LayerSpec rcrTransition
  cases hs : f.state with
  | ackRcvd =>
    dsimp only
    split
    · simp [layerMove, sca]
    · rw [layerActs_answer]
      simp [layerMove, state_answer_ne_opened]
  | _ =>
    simp [layerMove, after, scr, sta, hs, layerActs_answer, state_answer_ne_opened]

omit [OptionHandler H] in
theorem layerSpec_self : LayerSpec f (f, []) := by
  unfold LayerSpec layerMove
  split <;> simp

omit [OptionHandler H] in
theorem layerSpec_send {f' : Fsm H} (hstate : f'.state = f.state) (code id : UInt8)
    (data : Bytes) : LayerSpec f (f', [.send code id data]) := by
  unfold LayerSpec
  rw [layerActs_send, hstate]
  exact f.layerSpec_self

variable {f}

theorem layerSpec_input (h : f.input code id data = some r) : LayerSpec f r := by
  cases moves_input h with
  | rcr => exact layerSpec_rcrTransition { f with handler := _ } id _
  | rca =>
    cases hs : f.state <;>
      simp [LayerSpec, rcaTransition, layerMove, hs, after, goto, scr, sta, irc]
  | rcn =>
    cases hs : f.state <;>
      simp [LayerSpec, rcnTransition, layerMove, hs, after, goto, scr, sta, irc]
  | rtr => cases hs : f.state <;> simp [LayerSpec, layerMove, hs, rtrEvent, sta, zrc]
  | rta => cases hs : f.state <;> simp [LayerSpec, layerMove, hs, rtaEvent, after, goto, scr]
  | rxj =>
    cases hs : f.state <;>
      simp [LayerSpec, layerMove, hs, rxjEvent, after, goto, str, strRetransmit, irc]
  | rxr =>
    unfold rxrEvent
    split
    · exact f.layerSpec_send rfl ..
    · exact f.layerSpec_self
  | ruc => exact f.layerSpec_send rfl ..
  | unread | stale | ignored => exact f.layerSpec_self

/-- The layer callbacks fire exactly when an event enters or leaves `opened`. -/
theorem layerSpec_handle (h : f.handle e = some r) : LayerSpec f r := by
  cases e with
  | input code id data => exact layerSpec_input h
  | _ =>
    cases h
    cases hs : f.state <;>
      simp [LayerSpec, layerMove, hs, up, down, Fsm.open, close, timeout, after, goto, scr, str,
        strRetransmit, irc]
    all_goals split <;> simp [hs]

theorem state_ne_opened_of_handle
    (h : f.handle e = some r) (he : ∀ code id data, e ≠ .input code id data)
    (hs : f.state ≠ .opened) : r.1.state ≠ .opened := by
  cases e with
  | input code id data => exact absurd rfl (he code id data)
  | _ =>
    cases h
    revert hs
    cases hs : f.state <;>
      simp [hs, up, down, Fsm.open, close, timeout, after, goto, scr, str, strRetransmit, irc]
    all_goals split <;> simp [hs]

/-- The packets that take an opened automaton out of `opened`: a readable
request, an answer to the last request, and every terminate and code reject. -/
def LeavesOpened (f : Fsm H) (code id : UInt8) (data : Bytes) : Prop :=
  (code = confReq ∧ ∃ opts, parseOptions data = some (.ok opts)) ∨
    ((code = confAck ∨ code = confNak ∨ code = confRej) ∧ id = f.lastReqID) ∨
    code = termReq ∨ code = termAck ∨ code = codeRej

instance (f : Fsm H) (code id : UInt8) (data : Bytes) : Decidable (f.LeavesOpened code id data) :=
  haveI : Decidable (∃ opts, parseOptions data = some (.ok opts)) :=
    match parseOptions data with
    | some (.ok opts) => isTrue ⟨opts, rfl⟩
    | some (.error _) | none => isFalse nofun
  inferInstanceAs (Decidable (_ ∨ _))

theorem state_eq_opened_of_input (h : f.input code id data = some r) (hs : f.state = .opened)
    (hl : ¬f.LeavesOpened code id data) : r.1.state = .opened := by
  cases moves_input h with
  | rcr hcode hopts => exact absurd (.inl ⟨hcode, _, hopts⟩) hl
  | rca hcode hid => exact absurd (.inr (.inl ⟨.inl hcode, hid⟩)) hl
  | rcn hcode hid => exact absurd (.inr (.inl ⟨.inr hcode, hid⟩)) hl
  | rtr hcode | rta hcode | rxj hcode => simp [LeavesOpened, hcode] at hl
  | rxr =>
    unfold rxrEvent
    split <;> exact hs
  | ruc | unread | stale | ignored => exact hs

theorem state_timeout_of_opened (hs : f.state = .opened) : f.timeout.1.state = .opened := by
  unfold timeout
  simp only [hs]
  split
  · rfl
  · exact hs

/-! ## What happens to the handler -/

/-- A property of handlers that processing any option list keeps. -/
structure HandlerInvariant (P : H → Prop) : Prop where
  req : ∀ h opts h' r, processConfReq h opts = some (h', r) → P h → P h'
  ack : ∀ h opts h', processConfAck h opts = some h' → P h → P h'
  nak : ∀ h opts h', processConfNak h opts = some h' → P h → P h'
  rej : ∀ h opts h', processConfRej h opts = some h' → P h → P h'

variable (f) (id)

omit [OptionHandler H] in
theorem handler_answer (r : ConfReply) (good bad : State) :
    (f.answer id r good bad).1.handler = f.handler := by
  unfold answer
  repeat' split
  all_goals rfl

theorem handler_rcrTransition (r : ConfReply) : (f.rcrTransition id r).1.handler = f.handler := by
  unfold rcrTransition
  split
  all_goals first
    | rfl
    | exact handler_answer _ id r _ _
    | skip
  split
  · rfl
  · exact handler_answer _ id r _ _

theorem handler_rcaTransition : (f.rcaTransition id).1.handler = f.handler := by
  unfold rcaTransition
  split <;> rfl

theorem handler_rcnTransition : (f.rcnTransition id).1.handler = f.handler := by
  unfold rcnTransition
  split <;> rfl

variable {f}
variable {id}

theorem handlerInvariant_input (hP : HandlerInvariant P)
    (h : f.input code id data = some r) (hf : P f.handler) : P r.1.handler := by
  cases moves_input h with
  | rcr hcode hopts hreq =>
    rw [handler_rcrTransition]
    exact hP.req _ _ _ _ hreq hf
  | rca hcode hid hopts hack =>
    rw [handler_rcaTransition]
    exact hP.ack _ _ _ hack hf
  | rcn hcode hid hopts hproc =>
    rw [handler_rcnTransition]
    unfold processConfNakRej at hproc
    split at hproc
    · exact hP.rej _ _ _ hproc hf
    · exact hP.nak _ _ _ hproc hf
  -- the remaining packets do not reach the handler
  | rtr =>
    unfold rtrEvent
    split <;> exact hf
  | rta =>
    unfold rtaEvent
    split <;> exact hf
  | rxj =>
    unfold rxjEvent
    split <;> exact hf
  | rxr =>
    unfold rxrEvent
    split <;> exact hf
  | ruc | unread | stale | ignored => exact hf

theorem handler_handle (h : f.handle e = some r) (he : ∀ code id data, e ≠ .input code id data) :
    r.1.handler = f.handler := by
  cases e with
  | input code id data => exact absurd rfl (he code id data)
  | _ =>
    cases h
    cases hs : f.state <;>
      simp only [hs, up, down, Fsm.open, close, timeout, after, goto, scr, str, strRetransmit, irc]
    all_goals first
      | rfl
      | (split <;> rfl)

/-- What every option list keeps, every event keeps. -/
theorem handlerInvariant_handle (hP : HandlerInvariant P)
    (h : f.handle e = some r) (hf : P f.handler) : P r.1.handler := by
  by_cases he : ∀ code id data, e ≠ .input code id data
  · rw [handler_handle h he]
    exact hf
  · push Not at he
    obtain ⟨code, id, data, rfl⟩ := he
    exact handlerInvariant_input hP h hf

end Fsm
end Osvbng.Ppp
