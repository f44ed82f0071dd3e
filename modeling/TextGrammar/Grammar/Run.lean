import TextGrammar.Grammar.Evaluation

/-!
How grammars run. `step` says for each rule what its run consists of, given a runner for the rules
it is made of; `run` ties the knot with fuel, one unit for each level of nesting. Repetition is
bounded as well: among rules that never go back, a round that goes on takes a character at least,
and the bound leaves room for a leaf that does go back.

A recursive grammar resolves its definition when it first runs. Its builder is called at most once
successfully; a call that comes back to a grammar that is being built is refused, and a build that
fails leaves the grammar as it was. Nested invocations are counted, and beyond a limit refused.
-/
namespace TextGrammar

open TextGrammar.Action

/-- Runs a rule on a text from an offset on. -/
abbrev Runner := Rule → Text → Int → Action (Option Match)

namespace Runner

/-- Runs a rule whose only owner is the run itself. -/
def owning (runner : Runner) : Runner := fun rule text start => do
  modify fun store => { store with running := rule :: store.running }
  ensuring (runner rule text start) fun store => { store with running := store.running.tail }

/-- Runs a grammar from an offset on, which must be one of the text. -/
def matchFrom (runner : Runner) (operand : Operand) (text : Text) (start : Int) :
    Action (Option Match) := do
  let grammar ← operand.asGrammar "match_prefix"
  ofExcept (text.checkOffset start)
  runner.owning grammar.rule text start

/-- Repeats the run of a grammar of some kind until it finds no match, takes nothing, or reaches the
end of the text. -/
def repeatFrom (attempt : Int → Action (Option Match)) (kind : Kind) (size : Nat) :
    Nat → Int → Array Match → Action (Array Match × Int)
  | 0, _, _ => throw .exhausted
  | bound + 1, position, found => do
    match ← attempt position with
    | none => return (found, position)
    | some next =>
      let stop ← ofExcept (next.stopAs kind)
      if stop = position ∨ stop = size then return (found.push next, stop)
      else repeatFrom attempt kind size bound stop (found.push next)

/-- The rounds that steps back may add to a repetition. No session takes as many. -/
def spareRounds : Nat := 1 <<< 62

/-- The rounds that a repetition from an offset can have; one more does not go on. -/
def rounds (text : Text) (start : Int) : Nat := (text.size - start).toNat + 2 + spareRounds

/-- Repeats the run of a grammar of some kind a number of times, or fewer where the text ends. -/
def repeatTimes (attempt : Int → Action (Option Match)) (kind : Kind) (size : Nat) :
    Nat → Int → Array Match → Action (Option (Array Match × Int))
  | 0, position, found => return some (found, position)
  | count + 1, position, found => do
    match ← attempt position with
    | none => return none
    | some next =>
      let stop ← ofExcept (next.stopAs kind)
      if stop = size then return some (found.push next, stop)
      else repeatTimes attempt kind size count stop (found.push next)

/-- Runs alternatives until one of them matches. -/
def firstOf (attempt : Rule → Action (Option Match)) : List Rule → Action (Option Match)
  | [] => return none
  | rule :: rest => do
    match ← attempt rule with
    | some found => return some found
    | none => firstOf attempt rest

/-- Does what a builder's script says, up to its answer. -/
def perform (runner : Runner) (scope : Scope) : Script → Action Operand
  | .finish definition => definition.evaluate scope
  | .tally label rest => do
    modify fun store => { store with tallies := label :: store.tallies }
    runner.perform scope rest
  | .leak name subject rest => do
    let operand ← subject.evaluate scope
    modify (Store.assign name operand)
    runner.perform scope rest
  | .attempt subject text start rest => do
    let outcome ← attempt do
      let operand ← subject.evaluate scope
      runner.matchFrom operand text start
    runner.perform scope (rest outcome)

/-- The rule of a definition, which must be a grammar of the kind that was promised. -/
def definitionRule (cell : Cell) (definition : Operand) : Action Rule := do
  match ← Grammar.asAlternative cell.kind definition with
  | some grammar => return grammar.rule
  | none => match definition with
    | .raw value => fail (.wrongDefinition cell.name value cell.kind)
    | .grammar made => fail (.otherKindDefinition cell.name (← nameOf made) cell.kind)

/-- Calls the builder of a cell. -/
def build (runner : Runner) (id : CellId) (builder : Builder) : Action Rule := do
  updateCell id fun cell => { cell with building := true, calls := cell.calls + 1 }
  let cell ← cellAt id
  ensuring (do definitionRule cell (← runner.perform builder.scope (builder.script cell.calls)))
    (Store.updateCell id fun cell => { cell with building := false })

/-- The definition of a cell, which is built unless it was before. -/
def resolve (runner : Runner) (id : CellId) : Action Rule := do
  let cell ← cellAt id
  match cell.definition with
  | some rule => return rule
  | none =>
    if cell.building then fail (.reentered cell.name)
    match cell.builder with
    | none => fail (.noBuilder cell.name)
    | some builder =>
      let rule ← runner.build id builder
      updateCell id fun cell => { cell with definition := some rule, builder := none }
      record (.resolved id cell.name)
      return rule

/-- Runs a definition as an invocation of its cell, unless that is nested too deeply. -/
def enter (runner : Runner) (id : CellId) (rule : Rule) (text : Text) (start : Int) :
    Action (Option Match) := do
  let cell ← cellAt id
  if let some limit := cell.limit then
    if limit ≤ cell.active then fail (.tooDeep cell.name limit start)
  updateCell id fun cell => { cell with active := cell.active + 1 }
  record (.entered id)
  ensuring (runner rule text start) fun store =>
    (store.updateCell id fun cell => { cell with active := cell.active - 1 }).record (.left id)

/-- Runs the definition of a cell. -/
def invoke (runner : Runner) (id : CellId) (text : Text) (start : Int) : Action (Option Match) := do
  runner.enter id (← runner.resolve id) text start

/-- Runs the grammar that a parsed value leads to. -/
def continueWith (runner : Runner) (scope : Scope) (expression : Expression) (text : Text)
    (start : Int) : Action (Option Match) := do
  match ← expression.evaluate scope with
  | .raw value => fail (.missingMember value.typeName "run")
  | .grammar next => runner.owning next.rule text start

/-- What the run of a rule consists of. -/
def step (runner : Runner) : Runner := fun rule text start =>
  match rule with
  | .leaf recognise => ofExcept (recognise text start)
  | .object tag traced body => do
    record (.started start)
    if traced then record (.tried ((← get).nameOf tag) start)
    runner body text start
  | .sequence firstKind secondKind first second => do
    let some found ← runner first text start | return none
    let some next ← runner second text (← ofExcept (found.stopAs firstKind)) | return none
    return some (← ofExcept (found.followedBy firstKind secondKind next))
  | .orElse first second => do
    match ← runner first text start with
    | some found => return some found
    | none => runner second text start
  | .either alternatives => firstOf (fun rule => runner rule text start) alternatives
  | .optional kind operand => do
    match ← runner operand text start with
    | some found => return some found
    | none => return some (.absent kind start)
  | .many kind tag operand => do
    let (found, stop) ←
      repeatFrom (runner operand text) kind text.size (rounds text start) start #[]
    let store ← get
    if store.verbose then record (.repeated found.size (store.nameOf tag) stop)
    return some (.collected kind found stop)
  | .oneOrMore kind operand => do
    let some first ← runner operand text start | return none
    let firstStop ← ofExcept (first.stopAs kind)
    if firstStop = start ∨ firstStop = text.size then
      return some (.collected kind #[first] firstStop)
    let (found, stop) ←
      repeatFrom (runner operand text) kind text.size (rounds text firstStop) firstStop #[first]
    return some (.collected kind found stop)
  | .times kind count operand => do
    let some (found, stop) ← repeatTimes (runner operand text) kind text.size count start #[]
      | return none
    return some (.collected kind found stop)
  | .separated kind first rest => do
    let some found ← runner first text start | return none
    let firstStop ← ofExcept (found.stopAs kind)
    let (all, stop) ←
      repeatFrom (runner rest text) kind text.size (rounds text firstStop) firstStop #[found]
    return some (.collected kind all stop)
  | .captured kind operand => do
    let some found ← runner operand text start | return none
    let stop ← ofExcept (found.stopAs kind)
    return some (.yielding (.str (text.slice start stop)) stop)
  | .valued value operand => do
    let some found ← runner operand text start | return none
    return some (.yielding value found.stop)
  | .erased operand => do
    let some found ← runner operand text start | return none
    return some (.span (← ofExcept (found.stopAs .parser)))
  | .map transform operand => do
    let some found ← runner operand text start | return none
    let value ← ofExcept (found.valueAs "map")
    return some (.yielding (← ofExcept (transform value)) found.stop)
  | .filter accept operand => do
    let some found ← runner operand text start | return none
    let value ← ofExcept (found.valueAs "value")
    return if ← ofExcept (accept value) then some found else none
  | .bind scope continuation operand => do
    let some found ← runner operand text start | return none
    let value ← ofExcept (found.valueAs "value")
    runner.continueWith scope (continuation value) text found.stop
  | .retaining _ operand => runner operand text start
  | .recursive cell => runner.invoke cell text start
  | .placeholder cell => do
    let store ← get
    if store.isOwned cell then runner.invoke cell text start
    else
      record (.refused cell)
      fail (.outlived (store.cellAt cell).name)

end Runner

/-- Runs a rule with a limit on the nesting of rules. -/
def Rule.run : Nat → Rule → Text → Int → Action (Option Match)
  | 0, _, _, _ => throw .exhausted
  | fuel + 1, rule, text, start => Runner.step (Rule.run fuel) rule text start

end TextGrammar
