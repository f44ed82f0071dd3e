import TextGrammar.Grammar.Command

/-! What grammars do, told without a session that changes while they run. A blueprint is a rule
without objects and cells: a recursive grammar is told by its definition and by the names that are
known there, and its definition is drafted anew whenever it is invoked. All that is remembered from
one invocation to the next is how many of them are under way. -/

namespace TextGrammar

/-- What tells recursive grammars apart whose invocations are counted: those that are there before,
those that are made on the way after some number of parsed values, and the ones that are made by
the definition of another one, in the order in which they are made. -/
inductive Key
  | base (cell : CellId)
  | stage (depth : Nat)
  | within (outer : Key) (index : Nat)
  deriving DecidableEq

namespace Key

/-- How many parsed values must have been bound for a grammar to be there. -/
def level : Key → Nat
  | .base _ => 0
  | .stage depth => depth + 1
  | .within outer _ => outer.level

/-- The invocations that are under way when one more has begun. -/
def enter (key : Key) (active : Key → Nat) : Key → Nat :=
  fun other => if other = key then active other + 1 else active other

end Key

mutual

/-- How a grammar runs, apart from what it is kept in. -/
inductive Blueprint
  | leaf (recognise : Leaf)
  | object (body : Blueprint)
  | sequence (firstKind secondKind : Kind) (first second : Blueprint)
  | orElse (first second : Blueprint)
  | either (alternatives : List Blueprint)
  | optional (kind : Kind) (operand : Blueprint)
  | many (kind : Kind) (operand : Blueprint)
  | oneOrMore (kind : Kind) (operand : Blueprint)
  | times (kind : Kind) (count : Nat) (operand : Blueprint)
  | separated (kind : Kind) (first rest : Blueprint)
  | captured (kind : Kind) (operand : Blueprint)
  | valued (value : Value) (operand : Blueprint)
  | erased (operand : Blueprint)
  | map (transform : Value → Except Fault Value) (operand : Blueprint)
  | filter (accept : Value → Except Fault Bool) (operand : Blueprint)
  | bind (names : List (String × Kind × Target)) (continuation : Value → Expression)
      (operand : Blueprint)
  /-- A grammar with a function that has captured grammars. -/
  | retaining (operand : Blueprint)
  | invoke (target : Target)

/-- A recursive grammar. -/
inductive Target
  /-- One that is in a cell of the session from the start. -/
  | base (cell : CellId)
  /-- One that is made by an expression, with the names that are known there. -/
  | inner (key : Key) (kind : Kind) (limit : Option Nat) (binder : String) (definition : Expression)
      (names : List (String × Kind × Target))

end

/-- The recursive grammars that an expression may name, the innermost first. -/
abbrev Names := List (String × Kind × Target)

/-- A grammar without objects. -/
structure Sketch where
  kind : Kind
  body : Blueprint

/-- What an expression stands for. -/
inductive Draft
  | raw (value : Value)
  | grammar (made : Sketch)

/-- Drafting counts the recursive grammars that it comes across. -/
abbrev Drafting := StateT Nat (Except Fault)

namespace Sketch

/-- A new object. -/
def new (kind : Kind) (body : Blueprint) : Sketch := ⟨kind, .object body⟩

def literal (word : String) : Sketch := .new .pattern (.leaf (Leaf.literal word))

def followedByGrammar (first second : Sketch) : Sketch :=
  .new (match first.kind with | .pattern => second.kind | .parser => .parser)
    (.sequence first.kind second.kind first.body second.body)

def followedBy (first : Sketch) : Draft → Except Fault Sketch
  | .grammar second => .ok (first.followedByGrammar second)
  | .raw (.str word) => .ok (first.followedByGrammar (literal word))
  | .raw value => .error (.notSequenced first.kind value)

def choice (first second : Sketch) : Sketch := .new first.kind (.orElse first.body second.body)

end Sketch

namespace Draft

def typeName : Draft → String
  | .raw value => value.typeName
  | .grammar made => made.kind.title

def asGrammar (member : String) : Draft → Except Fault Sketch
  | .grammar made => .ok made
  | .raw value => .error (.missingMember value.typeName member)

def asAlternative (kind : Kind) : Draft → Option Sketch
  | .grammar made => if made.kind = kind then some made else none
  | .raw (.str word) => if kind = .pattern then some (.literal word) else none
  | .raw _ => none

/-- The fault of what is no alternative. -/
def notAlternative (kind : Kind) : Draft → Fault
  | .grammar _ => .otherKindAlternative kind ""
  | .raw value => .notAlternative kind value

def alternative (kind : Kind) (draft : Draft) : Except Fault Sketch :=
  match draft.asAlternative kind with
  | some made => .ok made
  | none => .error (draft.notAlternative kind)

def asPattern : Draft → Except Fault Sketch
  | .grammar made => match made.kind with
    | .pattern => .ok made
    | .parser => .ok (.new .pattern (.erased made.body))
  | .raw (.str word) => .ok (.literal word)
  | .raw value => .error (.notPattern value)

end Draft

namespace Sketch

def orElse (first : Sketch) (draft : Draft) : Except Fault Sketch :=
  return first.choice (← draft.alternative first.kind)

def either (kind : Kind) (drafts : List Draft) : Except Fault Sketch :=
  return .new kind (.either ((← drafts.mapM (Draft.alternative kind)).map Sketch.body))

/-- A new object around another one of the same kind. -/
def around (made : Sketch) (wrap : Kind → Blueprint → Blueprint) : Sketch :=
  .new made.kind (wrap made.kind made.body)

def repetitions (count : Value) : Except Fault Nat := do
  let (negative, times) ← match count, count.integer? with
    | .float number, _ => pure (number.isLess 0, Value.ofFraction number)
    | _, some integer => pure (decide (integer < 0), .ok integer)
    | _, none => .error (.unordered "<" count.typeName "int")
  let times ← times
  if !Numeral.isWritable times then .error .integerTooLong
  if negative then .error (.negativeTimes "" times)
  return times.toNat

def times (made : Sketch) (count : Value) : Except Fault Sketch := do
  let repetitions ← repetitions count
  return .new made.kind <| match count with
    | .float _ => .leaf fun _ _ => .error (.notCount count.typeName)
    | _ => .times made.kind repetitions made.body

def captured (made : Sketch) : Sketch := .new .parser (.captured made.kind made.body)

def separatedBy (made : Sketch) (separator : Draft) : Except Fault Sketch := do
  let rest := (← separator.asPattern).followedByGrammar made
  return .new made.kind (.separated made.kind made.body rest.body)

def valueFor (draft : Draft) (value : Value) : Except Fault Sketch :=
  return .new .parser (.valued value (← draft.asPattern).body)

def returning (made : Sketch) (value : Value) : Except Fault Sketch :=
  match made.kind with
  | .pattern => valueFor (.grammar made) value
  | .parser => .error (.missingMember made.kind.title "returning")

/-- A new object around a parser; a pattern has no such member. -/
def ofParser (made : Sketch) (member : String) (kind : Kind) (wrap : Blueprint → Blueprint) :
    Except Fault Sketch :=
  match made.kind with
  | .parser => .ok (.new kind (wrap made.body))
  | .pattern => .error (.missingMember made.kind.title member)

end Sketch

namespace Draft

def sum : Draft → Draft → Except Fault Draft
  | .raw first, .raw second => .raw <$> first.add second
  | .raw (.str word), second@(.grammar _) => .grammar <$> (Sketch.literal word).followedBy second
  | .grammar first, second@(.grammar _) | .grammar first, second@(.raw (.str _)) =>
    .grammar <$> first.followedBy second
  | first, second => .error (.unsupportedOperands "+" first.typeName second.typeName)

def union (first second : Draft) : Except Fault Draft :=
  let refused := Fault.unsupportedOperands "|" first.typeName second.typeName
  match first, second with
  | .raw value, .raw other => .raw <$> value.union other
  | .grammar made, draft =>
    match draft.asAlternative made.kind with
    | some alternative => .ok (.grammar (made.choice alternative))
    | none => .error refused
  | draft, .grammar made =>
    match draft.asAlternative made.kind with
    | some alternative => .ok (.grammar (alternative.choice made))
    | none => .error refused

def negated : Draft → Except Fault Draft
  | .raw value => .raw <$> value.negate
  | .grammar made => match made.kind with
    | .parser => .grammar <$> made.ofParser "pattern" .pattern .erased
    | .pattern => .error (.unsupportedNegation made.kind.title)

def shifted (transform : Value → Except Fault Value) (functionType : String) (draft : Draft) :
    Except Fault Draft :=
  let refused := Fault.unsupportedOperands ">>" draft.typeName functionType
  match draft with
  | .grammar made => match made.kind with
    | .parser => .grammar <$> made.ofParser "map" .parser (.map transform)
    | .pattern => .error refused
  | .raw _ => .error refused

def times (draft : Draft) (count : Value) : Except Fault Draft :=
  match draft with
  | .raw (.str text) => .raw <$> Value.count text count
  | _ => do return .grammar (← (← draft.asGrammar "count").times count)

def copy : Draft → Except Fault Draft
  | .grammar made => .ok (.grammar (.new made.kind made.body))
  | .raw .null => .error (.notCopied "NoneType")
  | .raw value => .ok (.raw value)

/-- The recursive grammar that a draft stands for, if it is one or the stand-in of one. -/
def target? : Draft → Option (Kind × Target)
  | .grammar ⟨kind, .object (.invoke target)⟩ => some (kind, target)
  | _ => none

/-- A draft with a function that has captured grammars. -/
def retaining : Draft → Draft
  | .raw value => .raw value
  | .grammar made => .grammar ⟨made.kind, .retaining made.body⟩

/-- What the definition of a recursive grammar comes to, which must be of the kind that was promised. -/
def definition (title : String) (kind : Kind) (draft : Draft) : Except Fault Blueprint :=
  match draft.asAlternative kind with
  | some made => .ok made.body
  | none => .error <| match draft with
    | .raw value => .wrongDefinition title value kind
    | .grammar _ => .otherKindDefinition title "" kind

end Draft

/-- The definition that a builder answers with that does no more than count its calls. -/
def Script.definition? : Script → Option Expression
  | .finish definition => some definition
  | .tally _ rest => rest.definition?
  | .leak _ _ _ | .attempt _ _ _ _ => none

namespace Names

/-- The grammar that a recursive one is from within. -/
def draft? (names : Names) (name : String) : Option Draft :=
  (names.lookup name).map fun (kind, target) => .grammar ⟨kind, .object (.invoke target)⟩

/-- The names that are known where these drafts have been captured. -/
def capturing (captured : List String) (drafts : List Draft) (names : Names) : Names :=
  (captured.zip drafts).filterMap (fun entry => entry.2.target?.map (entry.1, ·)) ++ names

end Names

/-- The limit of a recursive grammar as it is granted. -/
def Depth.granted (limit : Option Request) : Except Fault (Option Nat) :=
  limit.mapM fun requested => do return (← clamp requested reserve).limit.toNat

/-- What a name stands for. -/
def draftOf (globals : String → Option Draft) (names : Names) (name : String) : Drafting Draft :=
  match (names.draft? name).or (globals name) with
  | some draft => return draft
  | none => throw (.unboundVariable name)

namespace Expression
variable (globals : String → Option Draft) (key : Key)

mutual

/-- What an expression stands for, given what the variables of the session and some names stand
for. Recursive grammars are made under a key. -/
def draft (names : Names) : Expression → Drafting Draft
  | .raw value => return .raw value
  | .variable name => draftOf globals names name
  | .invalid fault => throw fault
  | .leaf kind _ recognise => return .grammar (.new kind (.leaf recognise))
  | .constant shared => return .grammar (.new .pattern (.leaf shared.recognise))
  | .followedBy first second => do
    let first ← first.draft names
    let second ← second.draft names
    return .grammar (← (← first.asGrammar "then").followedBy second)
  | .sum first second => do
    let first ← first.draft names
    let second ← second.draft names
    first.sum second
  | .orElse first second => do
    let first ← first.draft names
    let second ← second.draft names
    return .grammar (← (← first.asGrammar "or_else").orElse second)
  | .union first second => do
    let first ← first.draft names
    let second ← second.draft names
    first.union second
  | .either kind alternatives => do
    return .grammar (← Sketch.either kind (← draftAll names alternatives))
  | .optional operand => do
    return .grammar ((← (← operand.draft names).asGrammar "optional").around .optional)
  | .many operand => do
    return .grammar ((← (← operand.draft names).asGrammar "zero_or_more").around .many)
  | .oneOrMore operand => do
    return .grammar ((← (← operand.draft names).asGrammar "one_or_more").around .oneOrMore)
  | .times operand count => do (← operand.draft names).times count
  | .separatedBy operand separator => do
    let operand ← operand.draft names
    let separator ← separator.draft names
    return .grammar (← (← operand.asGrammar "separated_by").separatedBy separator)
  | .captured operand => do
    return .grammar (← (← operand.draft names).asGrammar "captured_text").captured
  | .capturedPattern operand => do
    return .grammar (← (← operand.draft names).asPattern).captured
  | .returning operand value => do
    return .grammar (← (← (← operand.draft names).asGrammar "returning").returning value)
  | .valueFor operand value => do
    return .grammar (← Sketch.valueFor (← operand.draft names) value)
  | .erased operand => do
    return .grammar (← (← (← operand.draft names).asGrammar "pattern").ofParser "pattern" .pattern .erased)
  | .negated operand => do (← operand.draft names).negated
  | .map operand transform => do
    return .grammar (← (← (← operand.draft names).asGrammar "map").ofParser "map" .parser (.map transform))
  | .shifted operand transform functionType => do
    (← operand.draft names).shifted transform functionType
  | .filter operand accept => do
    return .grammar (← (← (← operand.draft names).asGrammar "when").ofParser "when" .parser (.filter accept))
  | .bind operand continuation => do
    return .grammar (← (← (← operand.draft names).asGrammar "bind").ofParser "bind" .parser
      (.bind names continuation))
  | .named operand _ => do
    return .grammar (← (← operand.draft names).asGrammar "named")
  | .copy operand => do (← operand.draft names).copy
  | .capturing taken body => do
    body.draft (names.capturing taken (← taken.mapM (draftOf globals names)))
  | .retaining taken body => do
    let _ ← taken.mapM (draftOf globals names)
    return (← body.draft names).retaining
  | .recursive kind binder limit script => do
    let granted ← Depth.granted limit
    let index ← modifyGet fun index => (index, index + 1)
    let definition := ((script 0).definition?).getD (.raw .null)
    return .grammar (.new kind (.invoke (.inner (.within key index) kind granted binder definition names)))

def draftAll (names : Names) : List Expression → Drafting (List Draft)
  | [] => return []
  | expression :: rest => do
    let draft ← expression.draft names
    return draft :: (← draftAll names rest)

end

/-- What an expression stands for where none of its recursive grammars has been made. -/
def drafted (names : Names) (expression : Expression) : Except Fault Draft :=
  (expression.draft globals key names).run' 0

/-- The definition of a recursive grammar of a kind, which was made under that title. -/
def defined (names : Names) (title : String) (kind : Kind) (definition : Expression) : Except Fault Blueprint := do
  (← definition.drafted globals key names).definition title kind

end Expression

/-- The placeholders of a scope, which are of grammars that are there from the start. -/
def Scope.names (scope : Scope) : Names :=
  scope.map fun entry => (entry.1, entry.2.kind, .base entry.2.cell)

namespace Rule

mutual

/-- The blueprint of a rule whose cells are there from the start. -/
def blueprint : Rule → Blueprint
  | .leaf recognise => .leaf recognise
  | .object _ _ body => .object body.blueprint
  | .sequence kind other first second => .sequence kind other first.blueprint second.blueprint
  | .orElse first second => .orElse first.blueprint second.blueprint
  | .either alternatives => .either (blueprints alternatives)
  | .optional kind operand => .optional kind operand.blueprint
  | .many kind _ operand => .many kind operand.blueprint
  | .oneOrMore kind operand => .oneOrMore kind operand.blueprint
  | .times kind count operand => .times kind count operand.blueprint
  | .separated kind first rest => .separated kind first.blueprint rest.blueprint
  | .captured kind operand => .captured kind operand.blueprint
  | .valued value operand => .valued value operand.blueprint
  | .erased operand => .erased operand.blueprint
  | .map transform operand => .map transform operand.blueprint
  | .filter accept operand => .filter accept operand.blueprint
  | .bind scope continuation operand => .bind (Scope.names scope) continuation operand.blueprint
  | .retaining _ operand => .retaining operand.blueprint
  | .recursive cell | .placeholder cell => .invoke (.base cell)

def blueprints : List Rule → List Blueprint
  | [] => []
  | rule :: rules => rule.blueprint :: blueprints rules

end

end Rule

/-- What an operand stands for that is there from the start. -/
def Operand.draft : Operand → Draft
  | .raw value => .raw value
  | .grammar made => .grammar ⟨made.kind, made.rule.blueprint⟩

/-- What the variables of a session stand for. -/
def Store.globals (base : Store) (name : String) : Option Draft :=
  (base.assigned? name).map Operand.draft

namespace Target
variable (base : Store)

def key : Target → Key
  | .base cell => .base cell
  | .inner key _ _ _ _ _ => key

def kind : Target → Kind
  | .base cell => (base.cellAt cell).kind
  | .inner _ kind _ _ _ _ => kind

/-- The name that it was made under. -/
def title : Target → String
  | .base cell => (base.cellAt cell).name
  | .inner _ kind _ _ _ _ => s!"recursive {kind.noun}"

def limit : Target → Option Nat
  | .base cell => (base.cellAt cell).limit
  | .inner _ _ limit _ _ _ => limit

/-- The names that are known in the definition. -/
def names : Target → Names
  | .base cell => match (base.cellAt cell).builder with
    | some builder => builder.scope.names
    | none => []
  | target@(.inner _ kind _ binder _ names) => (binder, kind, target) :: names

/-- The definition, which is drafted unless it was built from the start. -/
def definition : Target → Except Fault Blueprint
  | target@(.base cell) =>
    let slot := base.cellAt cell
    match slot.definition, slot.builder with
    | some rule, _ => .ok rule.blueprint
    | none, none => .error (.noBuilder slot.name)
    | none, some builder =>
      let definition := ((builder.script 0).definition?).getD (.raw .null)
      definition.defined base.globals target.key (target.names base) slot.name slot.kind
  | target@(.inner key kind _ _ definition _) =>
    definition.defined base.globals key (target.names base) (target.title base) kind

end Target

/-- What runs a blueprint when so many invocations are under way, and after that many parsed values
that were bound. -/
abbrev Player := (Key → Nat) → Nat → Blueprint → Text → Int → Except Halt (Option Match)

namespace Player

def repeatFrom (attempt : Int → Except Halt (Option Match)) (kind : Kind) (size : Nat) :
    Nat → Int → Array Match → Except Halt (Array Match × Int)
  | 0, _, _ => .error .exhausted
  | bound + 1, position, found => do
    match ← attempt position with
    | none => return (found, position)
    | some next =>
      let stop ← (next.stopAs kind).mapError .fault
      if stop = position ∨ stop = size then return (found.push next, stop)
      else repeatFrom attempt kind size bound stop (found.push next)

def repeatTimes (attempt : Int → Except Halt (Option Match)) (kind : Kind) (size : Nat) :
    Nat → Int → Array Match → Except Halt (Option (Array Match × Int))
  | 0, position, found => return some (found, position)
  | count + 1, position, found => do
    match ← attempt position with
    | none => return none
    | some next =>
      let stop ← (next.stopAs kind).mapError .fault
      if stop = size then return some (found.push next, stop)
      else repeatTimes attempt kind size count stop (found.push next)

def firstOf (attempt : Blueprint → Except Halt (Option Match)) :
    List Blueprint → Except Halt (Option Match)
  | [] => return none
  | blueprint :: rest => do
    match ← attempt blueprint with
    | some found => return some found
    | none => firstOf attempt rest

/-- What the run of a blueprint consists of. -/
def step (base : Store) (player : Player) : Player := fun active stage blueprint text start =>
  let run blueprint start := player active stage blueprint text start
  match blueprint with
  | .leaf recognise => (recognise text start).mapError .fault
  | .object body => run body start
  | .sequence firstKind secondKind first second => do
    let some found ← run first start | return none
    let some next ← run second (← (found.stopAs firstKind).mapError .fault) | return none
    return some (← (found.followedBy firstKind secondKind next).mapError .fault)
  | .orElse first second => do
    match ← run first start with
    | some found => return some found
    | none => run second start
  | .either alternatives => firstOf (run · start) alternatives
  | .optional kind operand => do
    match ← run operand start with
    | some found => return some found
    | none => return some (.absent kind start)
  | .many kind operand => do
    let (found, stop) ←
      repeatFrom (run operand) kind text.size (Runner.rounds text start) start #[]
    return some (.collected kind found stop)
  | .oneOrMore kind operand => do
    let some first ← run operand start | return none
    let firstStop ← (first.stopAs kind).mapError .fault
    if firstStop = start ∨ firstStop = text.size then
      return some (.collected kind #[first] firstStop)
    let (found, stop) ←
      repeatFrom (run operand) kind text.size (Runner.rounds text firstStop) firstStop #[first]
    return some (.collected kind found stop)
  | .times kind count operand => do
    let some (found, stop) ← repeatTimes (run operand) kind text.size count start #[] | return none
    return some (.collected kind found stop)
  | .separated kind first rest => do
    let some found ← run first start | return none
    let firstStop ← (found.stopAs kind).mapError .fault
    let (all, stop) ←
      repeatFrom (run rest) kind text.size (Runner.rounds text firstStop) firstStop #[found]
    return some (.collected kind all stop)
  | .captured kind operand => do
    let some found ← run operand start | return none
    let stop ← (found.stopAs kind).mapError .fault
    return some (.yielding (.str (text.slice start stop)) stop)
  | .valued value operand => do
    let some found ← run operand start | return none
    return some (.yielding value found.stop)
  | .erased operand => do
    let some found ← run operand start | return none
    return some (.span (← (found.stopAs .parser).mapError .fault))
  | .map transform operand => do
    let some found ← run operand start | return none
    let value ← (found.valueAs "map").mapError .fault
    return some (.yielding (← (transform value).mapError .fault) found.stop)
  | .filter accept operand => do
    let some found ← run operand start | return none
    let value ← (found.valueAs "value").mapError .fault
    return if ← (accept value).mapError .fault then some found else none
  | .bind names continuation operand => do
    let some found ← run operand start | return none
    let value ← (found.valueAs "value").mapError .fault
    match ← ((continuation value).drafted base.globals (.stage stage) names).mapError .fault with
    | .raw value => .error (.fault (.missingMember value.typeName "run"))
    | .grammar next => player active (stage + 1) next.body text found.stop
  | .retaining operand => run operand start
  | .invoke target => do
    let body ← (target.definition base).mapError .fault
    if let some limit := target.limit base then
      if limit ≤ active target.key then .error (.fault (.tooDeep (target.title base) limit start))
    player (target.key.enter active) stage body text start

end Player

/-- Runs a blueprint with a limit on the nesting of blueprints. -/
def Blueprint.run (base : Store) : Nat → Player
  | 0, _, _, _, _, _ => .error .exhausted
  | fuel + 1, active, stage, blueprint, text, start =>
    Player.step base (run base fuel) active stage blueprint text start

end TextGrammar
