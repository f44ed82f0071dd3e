import TextGrammar.Grammar.Depth
import TextGrammar.Grammar.Rule

/-!
The store: all that changes while grammars are made and run. It holds the names of grammar objects,
the cells of recursive definitions, the variables of the session, and the trace of what happened.

Whether a placeholder may still run depends on who owns its cell. The owners are the variables, the
grammars that are running, the calls of builders and the invocations that are under way, and the
definitions of cells that have owners themselves, or their builders as long as there is no definition.
Grammars own what they consist of, functions what they have captured, and a placeholder owns nothing.
-/
namespace TextGrammar

/-- What happened, in the order in which it happened. -/
inductive Event
  /-- A grammar object began to run at an offset. -/
  | started (offset : Int)
  /-- The same for an object that was made while the log was verbose. -/
  | tried (name : String) (offset : Int)
  /-- A repetition ended. -/
  | repeated (count : Nat) (name : String) (stop : Int)
  /-- The definition of a recursive grammar was built. -/
  | resolved (cell : CellId) (name : String)
  /-- A nesting limit was lowered. -/
  | lowered (requested : Depth.Request) (granted : Int)
  /-- An invocation of a recursive grammar began or ended. -/
  | entered (cell : CellId)
  | left (cell : CellId)
  /-- A placeholder ran whose grammar had no owner. -/
  | refused (cell : CellId)

namespace Event

/-- The line of the log for an event, if it has one. -/
def line? : Event → Option String
  | tried name offset => some s!"DEBUG trying {name} at {offset}"
  | repeated count name stop =>
    some s!"DEBUG *matched* {count} instances of {name}, end = {stop}"
  | resolved _ name => some s!"DEBUG resolved {name}"
  | lowered requested granted => some s!"WARNING {Depth.warning requested granted}"
  | started _ | entered _ | left _ | refused _ => none

end Event

/-- A builder: what it does at which of its calls, and the placeholders that it may name. -/
structure Builder where
  script : Nat → Script
  scope : Scope

/-- The cells that a builder owns, as what it has captured. -/
def Builder.owned (builder : Builder) : List CellId := builder.scope.owned

/-- The slot of a recursive grammar. -/
structure Cell where
  name : String
  kind : Kind
  /-- The greatest number of invocations that may be under way at once. -/
  limit : Option Nat
  builder : Option Builder := none
  definition : Option Rule := none
  /-- Whether the builder is being called. -/
  building : Bool := false
  /-- How many invocations are under way. -/
  active : Nat := 0
  /-- How often a builder was called. -/
  calls : Nat := 0

/-- Whether a cell is in use: its builder is being called, or an invocation of it is under way. -/
def Cell.inUse (cell : Cell) : Bool := cell.building || decide (0 < cell.active)

/-- All that changes while grammars are made and run. -/
structure Store where
  /-- Whether the log is verbose. -/
  verbose : Bool := false
  /-- The names of grammar objects, by their tags. -/
  names : Array String
  cells : Array Cell := #[]
  /-- The variables of the session, the latest first. -/
  assigned : List (String × Operand) := []
  /-- Builder calls counted under labels, one entry each. -/
  tallies : List String := []
  /-- The rules whose runs are under way and that nothing else may own. -/
  running : List Rule := []
  /-- What happened, the latest first. -/
  trace : List Event := []

namespace Constant

def all : List Constant := [.finished, .nothing, .failure, .digits, .whitespace, .letters]

/-- The name that a constant starts with. -/
def name : Constant → String
  | .finished => "end of text"
  | .nothing => "nothing"
  | .failure => "failure"
  | .digits => "digits"
  | .whitespace => "whitespace"
  | .letters => "letters"

def tag : Constant → Tag
  | .finished => 0
  | .nothing => 1
  | .failure => 2
  | .digits => 3
  | .whitespace => 4
  | .letters => 5

def recognise : Constant → Leaf
  | .finished => Leaf.finished
  | .nothing => Leaf.nothing
  | .failure => Leaf.failure
  | .digits => Leaf.charactersIn Character.isDecimal
  | .whitespace => Leaf.charactersIn Character.isBlank
  | .letters => Leaf.charactersIn Character.isLetter

/-- The object of a constant, made before any log was asked for. -/
def grammar (constant : Constant) : Grammar :=
  ⟨.pattern, constant.tag, .object constant.tag false (.leaf constant.recognise)⟩

end Constant

namespace Store

/-- The store that a session starts with. -/
def initial : Store := { names := (Constant.all.map Constant.name).toArray }

/-- The name of a grammar object. -/
def nameOf (store : Store) (tag : Tag) : String := store.names.getD tag ""

/-- A cell by its number. Cells are never removed, so the number of one is good for ever; what has
not been made yet is without a name and a builder. -/
def cellAt (store : Store) (cell : CellId) : Cell :=
  store.cells.getD cell { name := "", kind := .pattern, limit := none }

/-- The cells owned by the definition of a cell. -/
def ownedByCell (store : Store) (cell : CellId) : List CellId :=
  ((store.cellAt cell).definition.map Rule.owned).getD []

/-- The cells owned by a cell, whose builder is dropped when the definition is there. -/
def heldByCell (store : Store) (cell : CellId) : List CellId :=
  store.ownedByCell cell ++ ((store.cellAt cell).builder.map Builder.owned).getD []

/-- The cells in use. -/
def cellsInUse (store : Store) : List CellId :=
  (List.range store.cells.size).filter fun cell => (store.cellAt cell).inUse

/-- The cells that are owned directly. -/
def roots (store : Store) : List CellId :=
  store.assigned.flatMap (fun entry => entry.2.owned) ++ store.running.flatMap Rule.owned ++
    store.cellsInUse

/-- The cells met by following ownership from `pending`, as far as they are `unseen`. -/
def follow (store : Store) (unseen pending : List CellId) : List CellId :=
  match pending with
  | [] => []
  | cell :: rest =>
    if cell ∈ unseen then
      cell :: store.follow (unseen.erase cell) (store.heldByCell cell ++ rest)
    else store.follow unseen rest
termination_by (unseen.length, pending.length)
decreasing_by
  · exact Prod.Lex.left _ _ (by
      rename_i member
      rw [List.length_erase_of_mem member]
      have := List.length_pos_of_mem member
      omega)
  · exact Prod.Lex.right _ (Nat.lt_succ_self _)

/-- The cells that have an owner. -/
def ownedCells (store : Store) : List CellId :=
  store.follow (List.range store.cells.size) store.roots

/-- Whether a cell has an owner. An invocation under way is one, so ownership need not be followed
for the placeholders that its own definition runs. -/
def isOwned (store : Store) (cell : CellId) : Bool :=
  (store.cellAt cell).inUse || store.ownedCells.contains cell

/-- The value of a variable. -/
def assigned? (store : Store) (name : String) : Option Operand :=
  store.assigned.lookup name

/-- Forgets a variable. -/
def forget (name : String) (store : Store) : Store :=
  { store with assigned := store.assigned.filter (·.1 != name) }

/-- Assigns a variable and forgets its old value. -/
def assign (name : String) (operand : Operand) (store : Store) : Store :=
  { store with assigned := (name, operand) :: (store.forget name).assigned }

/-- Adds an event to the trace. -/
def record (event : Event) (store : Store) : Store :=
  { store with trace := event :: store.trace }

/-- Changes a cell. -/
def updateCell (cell : CellId) (change : Cell → Cell) (store : Store) : Store :=
  { store with cells := store.cells.modify cell change }

/-- The lines of the log, in order. -/
def log (store : Store) : List String :=
  store.trace.reverse.filterMap Event.line?

end Store

/-- Why an action did not come to an answer. -/
inductive Halt
  | fault (fault : Fault)
  /-- The recursion was cut off. -/
  | exhausted

/-- What reads and changes the store, and ends with an answer or halts; a halt keeps the changes
made so far. -/
abbrev Action := ExceptT Halt (StateM Store)

namespace Action

def fail {α : Type} (fault : Fault) : Action α := throw (.fault fault)

def ofExcept {α : Type} : Except Fault α → Action α
  | .ok answer => pure answer
  | .error fault => fail fault

/-- Changes the store at the end of an action, however that comes about. -/
def ensuring {α : Type} (action : Action α) (cleanup : Store → Store) : Action α :=
  ExceptT.mk do
    let outcome ← action.run
    modify cleanup
    return outcome

/-- An action with its fault as an answer. That the recursion was cut off is none. -/
def attempt {α : Type} (action : Action α) : Action (Except Fault α) :=
  ExceptT.mk do
    match ← action.run with
    | .ok answer => return .ok (.ok answer)
    | .error (.fault fault) => return .ok (.error fault)
    | .error .exhausted => return .error .exhausted

def record (event : Event) : Action Unit := modify (Store.record event)

/-- A new object, under a new tag. -/
def newGrammar (kind : Kind) (name : String) (body : Rule) : Action Grammar := do
  let store ← get
  let tag := store.names.size
  set { store with names := store.names.push name }
  return ⟨kind, tag, .object tag store.verbose body⟩

def nameOf (grammar : Grammar) : Action String := do
  return (← get).nameOf grammar.tag

def cellAt (cell : CellId) : Action Cell := do
  return (← get).cellAt cell

def updateCell (cell : CellId) (change : Cell → Cell) : Action Unit :=
  modify (Store.updateCell cell change)

end Action

end TextGrammar
