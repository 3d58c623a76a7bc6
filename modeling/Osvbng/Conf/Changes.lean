import Mathlib.Logic.Function.Basic

/-!
# Configuration changes and their handlers

A candidate session is a configuration and the list of changes that led to it.
Each change belongs to the handler registered for its path, which applies it to
the part of the system it looks after and can roll it back. The handlers are a
parameter, and so are the configuration and the values in it.
-/

namespace Osvbng.Conf

structure HandlerContext (Value : Type) where
  path : String
  oldValue : Option Value
  newValue : Option Value
deriving DecidableEq

structure Applied (S : Type) where
  ok : Bool
  frrReloadNeeded : Bool
  state : S

structure Registry (Config Value K S : Type) where
  getHandler : String → Option K
  pathPattern : K → String
  dependencies : K → List String
  /-- With the callbacks around it. -/
  apply : K → Config → HandlerContext Value → S → Applied S
  rollback : K → HandlerContext Value → S → S

inductive Change (Value : Type) where
  | add (path : String) (value : Value)
  | modify (path : String) (value : Option Value)
  | delete (path : String) (value : Value)
deriving DecidableEq

structure DiffResult (Value : Type) where
  added : List (Change Value)
  modified : List (Change Value)
  deleted : List (Change Value)

variable {Value : Type} (diff : DiffResult Value)

def DiffResult.isEmpty : Bool :=
  diff.added.isEmpty && diff.modified.isEmpty && diff.deleted.isEmpty

def DiffResult.changes : List (Change Value) :=
  diff.added ++ diff.modified ++ diff.deleted

/-- A change from a value to the same value is none. -/
def formatChanges [DecidableEq Value] : List (HandlerContext Value) → DiffResult Value
  | [] => ⟨[], [], []⟩
  | change :: rest =>
    let result := formatChanges rest
    match change.oldValue, change.newValue with
    | none, some value => { result with added := .add change.path value :: result.added }
    | some value, none => { result with deleted := .delete change.path value :: result.deleted }
    | old, new =>
      if old = new then result
      else { result with modified := .modify change.path new :: result.modified }

/-! ## The order of the changes -/

inductive OrderError where
  | noHandler (path : String)
  | notConfigured (path dependency : String)
  | circular
deriving DecidableEq

section Order
variable {Config Value K S : Type} (reg : Registry Config Value K S)

/-- The dependencies of one change on patterns of changes up to it, or else on
what is configured. -/
def dependencyEdges (configured : String → String → Bool) (path : String) (i : Nat)
    (seen : List String) : List String → Except OrderError (List (String × Nat))
  | [] => .ok []
  | dep :: deps =>
    if dep ∈ seen then (dependencyEdges configured path i seen deps).map ((dep, i) :: ·)
    else if configured path dep then dependencyEdges configured path i seen deps
    else .error (.notConfigured path dep)

/-- An edge leads from a pattern to the index of a change that depends on it. -/
def changeEdges (configured : String → String → Bool) (i : Nat) (seen : List String) :
    List (HandlerContext Value) → Except OrderError (List (String × Nat))
  | [] => .ok []
  | change :: rest =>
    match reg.getHandler change.path with
    | none => .error (.noHandler change.path)
    | some handler =>
      let seen := seen ++ [reg.pathPattern handler]
      match dependencyEdges configured change.path i seen (reg.dependencies handler) with
      | .error e => .error e
      | .ok edges => (changeEdges configured (i + 1) seen rest).map (edges ++ ·)

def visitDependents (inDegree : Nat → Int) (queue : List Nat) : List Nat → (Nat → Int) × List Nat
  | [] => (inDegree, queue)
  | i :: rest =>
    let degree := inDegree i - 1
    visitDependents (Function.update inDegree i degree)
      (if degree = 0 then queue ++ [i] else queue) rest

/-- Empties the queue. A degree only falls, so an index enters the queue once. -/
def drainQueue (pattern : Nat → String) (edges : List (String × Nat)) :
    Nat → (Nat → Int) → List Nat → List Nat
  | 0, _, _ => []
  | _ + 1, _, [] => []
  | fuel + 1, inDegree, i :: queue =>
    let dependents := (edges.filter (·.1 = pattern i)).map (·.2)
    let (inDegree, queue) := visitDependents inDegree queue dependents
    i :: drainQueue pattern edges fuel inDegree queue

/-- The second argument says whether a dependency of a path is configured in the
running configuration. -/
def sortChangesByDependencies (configured : String → String → Bool)
    (changes : List (HandlerContext Value)) : Except OrderError (List (HandlerContext Value)) :=
  match changeEdges reg configured 0 [] changes with
  | .error e => .error e
  | .ok edges =>
    let pattern := fun i =>
      ((changes[i]?.bind fun change => reg.getHandler change.path).map reg.pathPattern).getD ""
    let inDegree : Nat → Int := fun i => (edges.filter (·.2 = i)).length
    let roots := (List.range changes.length).filter fun i => inDegree i = 0
    let sorted := (drainQueue pattern edges changes.length inDegree roots).filterMap (changes[·]?)
    if sorted.length = changes.length then .ok sorted else .error .circular

end Order
end Osvbng.Conf
