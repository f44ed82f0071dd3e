import TextGrammar.Proofs.Alignment

/-! Aligned runs put the same grammars together. What makes a grammar never looks at a text or at
an offset, so both runs carry out one and the same action, with the same answer. -/

namespace TextGrammar.Alignment
open TextGrammar.Action

variable {α β : Type} {pair : Alignment}

/-- An action that answers the same in both runs, and with what has a property. -/
def Makes (pair : Alignment) (property : α → Prop) (action : Action α) : Prop :=
  pair.Parallel (fun first second => first = second ∧ property first) action action

namespace Makes
variable {property : α → Prop} {result : β → Prop}

theorem pure {answer : α} (holds : property answer) : pair.Makes property (Pure.pure answer) :=
  Parallel.pure ⟨rfl, holds⟩

theorem bind {action : Action α} {next : α → Action β} (first : pair.Makes property action)
    (rest : ∀ answer, property answer → pair.Makes result (next answer)) :
    pair.Makes result (action >>= next) := by
  refine Parallel.bind first fun answer other related => ?_
  obtain ⟨rfl, holds⟩ := related
  exact rest answer holds

/-- Of some answers nothing has to be known. -/
theorem andThen {action : Action α} {next : α → Action β}
    (first : pair.Makes (fun _ => True) action) (rest : ∀ answer, pair.Makes result (next answer)) :
    pair.Makes result (action >>= next) :=
  first.bind fun answer _ => rest answer

theorem thenAligned {γ δ : Type} {results : γ → δ → Prop} {action : Action α} {next : α → Action γ}
    {later : α → Action δ} (first : pair.Makes property action)
    (rest : ∀ answer, property answer → pair.Aligned results (next answer) (later answer)) :
    pair.Aligned results (action >>= next) (action >>= later) := by
  refine Parallel.andThen first fun answer other related => ?_
  obtain ⟨rfl, holds⟩ := related
  exact rest answer holds

theorem map {action : Action α} (first : pair.Makes property action) {change : α → β}
    (holds : ∀ answer, property answer → result (change answer)) :
    pair.Makes result (change <$> action) := by
  rw [map_eq_pure_bind]
  exact first.bind fun answer made => .pure (holds answer made)

theorem mapM {items : List β} {action : β → Action α}
    (each : ∀ item ∈ items, pair.Makes property (action item)) :
    pair.Makes (fun answers => ∀ answer ∈ answers, property answer) (items.mapM action) := by
  induction items with
  | nil => exact .pure (by simp)
  | cons item rest ih =>
    rw [List.mapM_cons]
    refine (each item (by simp)).bind fun answer made => ?_
    refine (ih fun other member => each other (by simp [member])).bind fun answers all => .pure ?_
    simpa using ⟨made, all⟩

end Makes

/-- What would follow a fault makes no difference. -/
theorem Parallel.fail_bind {γ δ : Type} {results : γ → δ → Prop} {fault other : Fault}
    (same : pair.halts (.fault fault) (.fault other)) (next : α → Action γ) (later : β → Action δ) :
    pair.Parallel results (fail fault >>= next) (fail other >>= later) :=
  fun _ _ stores => .inr ⟨_, _, _, _, rfl, rfl, same, stores⟩

namespace Lawful
variable (lawful : pair.Lawful)
include lawful

/-- A change that nothing linked takes part in. -/
theorem stores {before after next later : Store} (stores : pair.Stores before after)
    (agree : next.Agree pair.guarded later) (built : next.BuiltFrom pair.parts)
    (still : before.Still pair.guarded next) (other : after.Still pair.guarded later) :
    pair.Stores next later :=
  ⟨agree, built, lawful.linkStill stores.link still other⟩

theorem stores_record {before after : Store} (stores : pair.Stores before after) {event other : Event}
    (alike : event.Alike pair.place pair.guarded other) :
    pair.Stores (before.record event) (after.record other) :=
  ⟨stores.agree.record event other, ⟨stores.built.assigned, stores.built.cells⟩,
    lawful.linkRecord stores.link alike⟩

theorem makes_fail {property : α → Prop} (fault : Fault) : pair.Makes property (fail fault) :=
  .throw (lawful.halts _)

/-- A change that nothing linked takes part in, and that is the same in both stores. -/
theorem makes_modify {change : Store → Store}
    (agree : ∀ {first second : Store}, pair.Stores first second →
      (change first).Agree pair.guarded (change second))
    (built : ∀ {store : Store}, store.BuiltFrom pair.parts → (change store).BuiltFrom pair.parts)
    (still : ∀ store : Store, store.Still pair.guarded (change store)) :
    pair.Makes (fun _ => True) (modify change) :=
  fun _ _ stores => .inl ⟨_, _, _, _, rfl, rfl, ⟨rfl, trivial⟩,
    lawful.stores stores (agree stores) (built stores.built) (still _) (still _)⟩

theorem makes_ofExcept {property : α → Prop} (outcome : Except Fault α)
    (holds : ∀ answer, outcome = .ok answer → property answer) :
    pair.Makes property (ofExcept outcome) := by
  cases outcome with
  | ok answer => exact .pure (holds answer rfl)
  | error fault => exact lawful.makes_fail fault

omit lawful in
theorem makes_nameOf (grammar : Grammar) : pair.Makes (fun _ => True) (nameOf grammar) :=
  fun _ _ stores => .inl ⟨_, _, _, _, rfl, rfl, ⟨stores.agree.nameOf _, trivial⟩, stores⟩

theorem makes_newGrammar (kind : Kind) (name : String) {body : Rule}
    (built : body.BuiltFrom pair.parts) :
    pair.Makes (·.rule.BuiltFrom pair.parts) (newGrammar kind name body) := by
  intro before after stores
  refine .inl ⟨_, _, _, _, rfl, rfl, ⟨?_, built⟩, ?_⟩
  · simp only [stores.agree.names, stores.agree.verbose]
  · have agree := stores.agree.withNames (before.names.push name)
    exact lawful.stores stores (stores.agree.names ▸ agree)
      ⟨stores.built.assigned, stores.built.cells⟩ (.of_cells rfl rfl) (.of_cells rfl rfl)

theorem makes_literal (word : String) :
    pair.Makes (·.rule.BuiltFrom pair.parts) (Grammar.literal word) :=
  lawful.makes_newGrammar _ _ (lawful.complete.literal word)

theorem makes_followedByGrammar {first second : Grammar} (built : first.rule.BuiltFrom pair.parts)
    (next : second.rule.BuiltFrom pair.parts) :
    pair.Makes (·.rule.BuiltFrom pair.parts) (first.followedByGrammar second) :=
  (makes_nameOf first).andThen fun _ => (makes_nameOf second).andThen fun _ =>
    lawful.makes_newGrammar _ _ ⟨built, next⟩

theorem makes_followedBy {first : Grammar} {second : Operand}
    (built : first.rule.BuiltFrom pair.parts) (next : second.BuiltFrom pair.parts) :
    pair.Makes (·.rule.BuiltFrom pair.parts) (first.followedBy second) := by
  unfold Grammar.followedBy
  split
  · exact lawful.makes_followedByGrammar built next
  · exact (lawful.makes_literal _).bind fun _ made => lawful.makes_followedByGrammar built made
  · exact lawful.makes_fail _

theorem makes_asAlternative (kind : Kind) {operand : Operand}
    (built : operand.BuiltFrom pair.parts) :
    pair.Makes (∀ made ∈ ·, made.rule.BuiltFrom pair.parts)
      (Grammar.asAlternative kind operand) := by
  unfold Grammar.asAlternative
  split
  · split
    · exact .pure (by simpa [Operand.BuiltFrom] using built)
    · exact .pure (by simp)
  · split
    · exact (lawful.makes_literal _).map (by simp)
    · exact .pure (by simp)
  · exact .pure (by simp)

omit lawful in
theorem makes_notAlternative (kind : Kind) (operand : Operand) :
    pair.Makes (fun _ => True) (Grammar.notAlternative kind operand) := by
  cases operand with
  | grammar made => exact (makes_nameOf made).andThen fun _ => .pure trivial
  | raw value => exact .pure trivial

theorem makes_choice {first second : Grammar} (built : first.rule.BuiltFrom pair.parts)
    (next : second.rule.BuiltFrom pair.parts) :
    pair.Makes (·.rule.BuiltFrom pair.parts) (first.choice second) :=
  (makes_nameOf first).andThen fun _ => (makes_nameOf second).andThen fun _ =>
    lawful.makes_newGrammar _ _ ⟨built, next⟩

theorem makes_orElse {first : Grammar} {operand : Operand}
    (built : first.rule.BuiltFrom pair.parts) (next : operand.BuiltFrom pair.parts) :
    pair.Makes (·.rule.BuiltFrom pair.parts) (first.orElse operand) := by
  refine (lawful.makes_asAlternative first.kind next).bind fun alternative made => ?_
  cases alternative with
  | some second => exact lawful.makes_choice built (made second rfl)
  | none => exact (makes_notAlternative _ _).andThen fun _ => lawful.makes_fail _

omit lawful in
theorem allBuiltFrom_rules {grammars : List Grammar}
    (built : ∀ made ∈ grammars, made.rule.BuiltFrom pair.parts) :
    Rule.AllBuiltFrom pair.parts (grammars.map Grammar.rule) := by
  induction grammars with
  | nil => trivial
  | cons made rest ih =>
    exact ⟨built made (by simp), ih fun other member => built other (by simp [member])⟩

theorem makes_either (kind : Kind) {operands : List Operand}
    (built : ∀ operand ∈ operands, operand.BuiltFrom pair.parts) :
    pair.Makes (·.rule.BuiltFrom pair.parts) (Grammar.either kind operands) := by
  refine (Makes.mapM fun operand member => ?_).bind fun alternatives made =>
    (Makes.mapM fun alternative _ => makes_nameOf alternative).bind fun names _ =>
      lawful.makes_newGrammar _ _ (allBuiltFrom_rules made)
  refine (lawful.makes_asAlternative kind (built operand member)).bind fun alternative made => ?_
  cases alternative with
  | some made' => exact .pure (made _ rfl)
  | none => exact (makes_notAlternative _ _).andThen fun _ => lawful.makes_fail _

/-- A new object that is named after an old one. -/
theorem makes_around (grammar : Grammar) (kind : Kind) (name : String → String) {body : Rule}
    (built : body.BuiltFrom pair.parts) :
    pair.Makes (·.rule.BuiltFrom pair.parts)
      (do newGrammar kind (name (← nameOf grammar)) body) :=
  (makes_nameOf grammar).andThen fun _ => lawful.makes_newGrammar _ _ built

theorem makes_asPattern {operand : Operand} (built : operand.BuiltFrom pair.parts) :
    pair.Makes (·.rule.BuiltFrom pair.parts) (Grammar.asPattern operand) := by
  unfold Grammar.asPattern
  split
  · split
    · exact .pure built
    · exact lawful.makes_around _ _ id built
  · exact lawful.makes_literal _
  · exact lawful.makes_fail _

theorem makes_valueFor {operand : Operand} (built : operand.BuiltFrom pair.parts) (value : Value) :
    pair.Makes (·.rule.BuiltFrom pair.parts) (Grammar.valueFor operand value) :=
  (lawful.makes_asPattern built).bind fun pattern made => lawful.makes_around pattern _ id made

theorem makes_repetitions (grammar : Grammar) (count : Value) :
    pair.Makes (fun _ => True) (grammar.repetitions count) := by
  unfold Grammar.repetitions
  dsimp only
  split
  all_goals
    refine Makes.andThen ?_ fun counted =>
      (lawful.makes_ofExcept counted.2 fun _ _ => trivial).andThen fun times => ?_
  · exact .pure trivial
  rotate_left
  · exact .pure trivial
  rotate_left
  · exact lawful.makes_fail _
  all_goals
    split
    · exact Parallel.fail_bind (lawful.halts _) _ _
    · split
      · exact (makes_nameOf grammar).andThen fun _ => Parallel.fail_bind (lawful.halts _) _ _
      · exact .pure trivial

section Parts
variable {grammar : Grammar} (built : grammar.rule.BuiltFrom pair.parts)
include built

theorem makes_oneOrMore : pair.Makes (·.rule.BuiltFrom pair.parts) grammar.oneOrMore :=
  (makes_nameOf grammar).andThen fun _ => lawful.makes_newGrammar _ _ built

theorem makes_times (count : Value) :
    pair.Makes (·.rule.BuiltFrom pair.parts) (grammar.times count) := by
  refine (lawful.makes_repetitions grammar count).andThen fun repetitions => ?_
  refine lawful.makes_around grammar _ (fun name => s!"{name} * {repetitions}") ?_
  split
  · exact lawful.complete.failing _
  · exact built

theorem makes_captured : pair.Makes (·.rule.BuiltFrom pair.parts) grammar.captured :=
  (makes_nameOf grammar).andThen fun _ => lawful.makes_newGrammar _ _ built

theorem makes_separatedBy {separator : Operand} (next : separator.BuiltFrom pair.parts) :
    pair.Makes (·.rule.BuiltFrom pair.parts) (grammar.separatedBy separator) :=
  (lawful.makes_asPattern next).bind fun _ pattern =>
    (lawful.makes_followedByGrammar pattern built).bind fun _ rest =>
      (makes_nameOf grammar).andThen fun _ => (makes_nameOf _).andThen fun _ =>
        lawful.makes_newGrammar _ _ ⟨built, rest⟩

theorem makes_returning (value : Value) :
    pair.Makes (·.rule.BuiltFrom pair.parts) (grammar.returning value) := by
  unfold Grammar.returning
  split
  · have operand : (Operand.grammar grammar).BuiltFrom pair.parts := built
    exact lawful.makes_valueFor operand value
  · exact lawful.makes_fail _

omit built in
theorem makes_ofParser (member : String) (kind : Kind) (name : String → String)
    {rule : Rule → Rule} (made : (rule grammar.rule).BuiltFrom pair.parts) :
    pair.Makes (·.rule.BuiltFrom pair.parts) (grammar.ofParser member kind name rule) := by
  unfold Grammar.ofParser
  split
  · exact lawful.makes_around _ _ name made
  · exact lawful.makes_fail _

theorem makes_named (name : String) :
    pair.Makes (·.rule.BuiltFrom pair.parts) (grammar.named name) := by
  refine Makes.andThen (lawful.makes_modify (fun stores => ?_)
    (fun stored => ⟨stored.assigned, stored.cells⟩) fun _ => .of_cells rfl rfl)
    fun _ => .pure built
  rw [← stores.agree.names]
  exact stores.agree.withNames _

theorem makes_copy : pair.Makes (·.rule.BuiltFrom pair.parts) grammar.copy :=
  (makes_nameOf grammar).andThen fun _ => lawful.makes_newGrammar _ _ built

end Parts

theorem makes_record {event : Event} (alike : event.Alike pair.place pair.guarded event) :
    pair.Makes (fun _ => True) (record event) :=
  fun _ _ stores => .inl ⟨_, _, _, _, rfl, rfl, ⟨rfl, trivial⟩, lawful.stores_record stores alike⟩

/-- A cell that is not there yet is not guarded, since a guarded one is told apart by its number. -/
theorem makes_newCell (kind : Kind) (name : String) (limit : Option Depth.Request) :
    pair.Makes (fun _ => True) (Grammar.newCell kind name limit) := by
  unfold Grammar.newCell
  refine Makes.andThen ?_ fun limit => ?_
  · cases limit with
    | none => exact .pure trivial
    | some requested =>
      have granted : pair.Makes (fun _ => True) (do
          let granted ← ofExcept (Depth.clamp requested Depth.reserve)
          if granted.lowered then record (.lowered requested granted.limit)
          return granted.limit.toNat) := by
        refine (lawful.makes_ofExcept _ fun _ _ => trivial).andThen fun granted => ?_
        split
        · exact (lawful.makes_record (.lowered _ _)).andThen fun _ => .pure trivial
        · exact .pure trivial
      exact granted.map fun _ _ => trivial
  · intro before after stores
    refine .inl ⟨_, _, _, _, rfl, rfl, ⟨stores.agree.size, trivial⟩, ?_⟩
    refine lawful.stores stores (stores.agree.pushCell _) (stores.built.pushCell ⟨?_, ?_⟩)
      ⟨rfl, by simp, ?_⟩ ⟨rfl, by simp, ?_⟩
    · simp
    · simp
    all_goals
      intro cell _ inside
      rw [Store.cellAt_push, if_neg (Nat.ne_of_lt inside)]
      exact ⟨rfl, rfl⟩

/-- A change of a cell. What is linked of a guarded one stays as it is. -/
theorem stores_updateCell {before after : Store} (same : pair.Stores before after) (cell : CellId)
    {change : Cell → Cell}
    (respects : ∀ {slot other : Cell}, slot.Alike (pair.guarded ≠ some cell) other →
      (change slot).Alike (pair.guarded ≠ some cell) (change other))
    (built : ∀ {slot : Cell}, slot.BuiltFrom pair.parts → (change slot).BuiltFrom pair.parts)
    (still : pair.guarded = some cell →
      ∀ slot, (change slot).limit = slot.limit ∧ (change slot).active = slot.active) :
    pair.Stores (before.updateCell cell change) (after.updateCell cell change) := by
  have unchanged (store : Store) : store.Still pair.guarded (store.updateCell cell change) := by
    refine ⟨rfl, by simp, fun other guarded _ => ?_⟩
    rw [Store.cellAt_updateCell]
    split
    next chosen => exact still (chosen.1 ▸ guarded) _
    next => exact ⟨rfl, rfl⟩
  exact lawful.stores same (same.agree.updateCell cell change fun _ _ => respects)
    (same.built.updateCell cell (built (same.built.cellAt cell))) (unchanged _) (unchanged _)

theorem makes_setBuilder (cell : CellId) {builder : Builder} (built : builder.BuiltFrom pair.parts) :
    pair.Makes (fun _ => True) (Grammar.setBuilder cell builder) := by
  refine fun before after same => .inl ⟨_, _, _, _, rfl, rfl, ⟨rfl, trivial⟩,
    lawful.stores_updateCell same cell ?_ ?_ fun _ _ => ⟨rfl, rfl⟩⟩
  · rintro _ _ ⟨name, kind, -, definition, building, active, calls, limit⟩
    exact ⟨name, kind, rfl, definition, building, active, calls, limit⟩
  · intro slot stored
    refine ⟨?_, stored.definition⟩
    rintro _ ⟨⟩
    exact built

theorem makes_ofCell (kind : Kind) (name binder : String) {script : Nat → Script} (scope : Scope)
    (built : ∀ call, (script call).BuiltFrom pair.parts) (cell : CellId) :
    pair.Makes (·.rule.BuiltFrom pair.parts)
      (Grammar.ofCell kind name binder script scope cell) := by
  refine Parallel.bind (fun _ _ stores => .inl ⟨_, _, _, _, rfl, rfl, stores.agree.verbose, stores⟩)
    fun store other (same : store.verbose = other.verbose) => ?_
  rw [same]
  have standIn : Rule.BuiltFrom pair.parts (.placeholder cell) := trivial
  have owner : Rule.BuiltFrom pair.parts (.recursive cell) := trivial
  refine (lawful.makes_newGrammar _ _ standIn).bind fun standIn _ => ?_
  have builder (placeholder : Placeholder) :
      Builder.BuiltFrom pair.parts ⟨script, (binder, placeholder) :: scope⟩ := built
  exact (lawful.makes_setBuilder cell (builder _)).andThen fun _ => lawful.makes_newGrammar _ _ owner

theorem makes_recursive (kind : Kind) (binder : String) (limit : Option Depth.Request)
    {script : Nat → Script} (scope : Scope) (built : ∀ call, (script call).BuiltFrom pair.parts) :
    pair.Makes (·.rule.BuiltFrom pair.parts) (Grammar.recursive kind binder limit script scope) :=
  (lawful.makes_newCell kind _ limit).andThen fun cell =>
    lawful.makes_ofCell kind _ binder scope built cell

theorem makes_asGrammar (member : String) {operand : Operand}
    (built : operand.BuiltFrom pair.parts) :
    pair.Makes (·.rule.BuiltFrom pair.parts) (operand.asGrammar member) := by
  cases operand with
  | grammar made => exact .pure built
  | raw value => exact lawful.makes_fail _

omit lawful in
/-- A grammar as an operand. -/
theorem makes_made {action : Action Grammar}
    (made : pair.Makes (·.rule.BuiltFrom pair.parts) action) :
    pair.Makes (Operand.BuiltFrom pair.parts) (Operand.grammar <$> action) :=
  made.map fun _ built => built

omit lawful in
theorem builtFrom_raw (value : Value) : (Operand.raw value).BuiltFrom pair.parts := trivial

theorem makes_raw (outcome : Except Fault Value) :
    pair.Makes (Operand.BuiltFrom pair.parts) (Operand.raw <$> ofExcept outcome) :=
  (lawful.makes_ofExcept outcome fun _ _ => trivial).map fun value _ => builtFrom_raw value

theorem makes_sum {first second : Operand} (built : first.BuiltFrom pair.parts)
    (next : second.BuiltFrom pair.parts) :
    pair.Makes (Operand.BuiltFrom pair.parts) (first.sum second) := by
  unfold Operand.sum
  split
  · exact lawful.makes_raw _
  · exact (lawful.makes_literal _).bind fun _ made =>
      (lawful.makes_followedBy made next).bind fun _ both => .pure both
  · exact makes_made (lawful.makes_followedBy built next)
  · exact makes_made (lawful.makes_followedBy built next)
  · exact lawful.makes_fail _

theorem makes_union {first second : Operand} (built : first.BuiltFrom pair.parts)
    (next : second.BuiltFrom pair.parts) :
    pair.Makes (Operand.BuiltFrom pair.parts) (first.union second) := by
  unfold Operand.union
  dsimp only
  split
  · exact lawful.makes_raw _
  · refine (lawful.makes_asAlternative _ next).bind fun alternative made => ?_
    cases alternative with
    | some second => exact makes_made (lawful.makes_choice built (made second rfl))
    | none => exact lawful.makes_fail _
  · refine (lawful.makes_asAlternative _ built).bind fun alternative made => ?_
    cases alternative with
    | some first => exact makes_made (lawful.makes_choice (made first rfl) next)
    | none => exact lawful.makes_fail _

theorem makes_negated {operand : Operand} (built : operand.BuiltFrom pair.parts) :
    pair.Makes (Operand.BuiltFrom pair.parts) operand.negated := by
  unfold Operand.negated
  split
  · exact lawful.makes_raw _
  · split
    · exact makes_made (lawful.makes_ofParser _ _ _ built)
    · exact lawful.makes_fail _

theorem makes_shifted {operand : Operand} (built : operand.BuiltFrom pair.parts)
    (transform : Value → Except Fault Value) (functionType : String) :
    pair.Makes (Operand.BuiltFrom pair.parts) (operand.shifted transform functionType) := by
  unfold Operand.shifted
  dsimp only
  split
  · split
    · exact makes_made (lawful.makes_ofParser _ _ _ built)
    · exact lawful.makes_fail _
  · exact lawful.makes_fail _

theorem makes_counted {operand : Operand} (built : operand.BuiltFrom pair.parts) (count : Value) :
    pair.Makes (Operand.BuiltFrom pair.parts) (operand.times count) := by
  unfold Operand.times
  split
  · exact lawful.makes_raw _
  · exact (lawful.makes_asGrammar _ built).bind fun _ made =>
      (lawful.makes_times made count).bind fun _ repeated => .pure repeated

theorem makes_duplicate {operand : Operand} (built : operand.BuiltFrom pair.parts) :
    pair.Makes (Operand.BuiltFrom pair.parts) operand.copy := by
  unfold Operand.copy
  split
  · exact makes_made (lawful.makes_copy built)
  · exact lawful.makes_fail _
  · exact .pure trivial

theorem makes_lookUp (scope : Scope) (name : String) :
    pair.Makes (Operand.BuiltFrom pair.parts) (lookUp scope name) := by
  unfold lookUp
  split
  next placeholder _ => exact .pure placeholder.builtFrom
  · intro before after stores
    have same : after.assigned? name = before.assigned? name := by
      simp only [Store.assigned?, stores.agree.assigned]
    rw [exec_bind_ok (exec_get before), exec_bind_ok (exec_get after), same]
    rcases found : before.assigned? name with _ | operand
    · exact lawful.makes_fail _ stores
    · exact Makes.pure (stores.built.assigned? found) stores

/-- What a grammar is made from, if the operand is a grammar. -/
theorem makes_from (member : String) {operand : Action Operand}
    (made : pair.Makes (Operand.BuiltFrom pair.parts) operand) {use : Grammar → Action Grammar}
    (used : ∀ grammar : Grammar, grammar.rule.BuiltFrom pair.parts →
      pair.Makes (·.rule.BuiltFrom pair.parts) (use grammar)) :
    pair.Makes (Operand.BuiltFrom pair.parts) (do
      return Operand.grammar (← use (← (← operand).asGrammar member))) :=
  made.bind fun _ built => (lawful.makes_asGrammar member built).bind fun grammar built =>
    (used grammar built).bind fun _ made => .pure made

end Lawful

mutual

theorem Lawful.makes_evaluate (lawful : pair.Lawful) (scope : Scope) : (expression : Expression) →
    expression.BuiltFrom pair.parts →
    pair.Makes (Operand.BuiltFrom pair.parts) (expression.evaluate scope)
  | .raw _, _ => .pure trivial
  | .variable name, _ => lawful.makes_lookUp scope name
  | .invalid fault, _ => lawful.makes_fail fault
  | .leaf kind name _, built => Lawful.makes_made (lawful.makes_newGrammar kind name built)
  | .constant shared, _ => .pure (lawful.complete.constant shared)
  | .followedBy first second, built =>
    (lawful.makes_evaluate scope first built.1).bind fun _ made =>
      (lawful.makes_evaluate scope second built.2).bind fun _ next =>
        (lawful.makes_asGrammar _ made).bind fun _ made =>
          (lawful.makes_followedBy made next).bind fun _ both => .pure both
  | .sum first second, built =>
    (lawful.makes_evaluate scope first built.1).bind fun _ made =>
      (lawful.makes_evaluate scope second built.2).bind fun _ next => lawful.makes_sum made next
  | .orElse first second, built =>
    (lawful.makes_evaluate scope first built.1).bind fun _ made =>
      (lawful.makes_evaluate scope second built.2).bind fun _ next =>
        (lawful.makes_asGrammar _ made).bind fun _ made =>
          (lawful.makes_orElse made next).bind fun _ both => .pure both
  | .union first second, built =>
    (lawful.makes_evaluate scope first built.1).bind fun _ made =>
      (lawful.makes_evaluate scope second built.2).bind fun _ next => lawful.makes_union made next
  | .either kind alternatives, built =>
    (lawful.makes_evaluateAll scope alternatives built).bind fun _ all =>
      (lawful.makes_either kind all).bind fun _ made => .pure made
  | .optional operand, built =>
    lawful.makes_from _ (lawful.makes_evaluate scope operand built) fun made inner =>
      lawful.makes_around made _ _ inner
  | .many operand, built =>
    lawful.makes_from _ (lawful.makes_evaluate scope operand built) fun made inner =>
      lawful.makes_around made _ _ inner
  | .oneOrMore operand, built =>
    lawful.makes_from _ (lawful.makes_evaluate scope operand built) fun _ inner =>
      lawful.makes_oneOrMore inner
  | .times operand count, built =>
    (lawful.makes_evaluate scope operand built).bind fun _ made => lawful.makes_counted made count
  | .separatedBy operand separator, built =>
    (lawful.makes_evaluate scope operand built.1).bind fun _ made =>
      (lawful.makes_evaluate scope separator built.2).bind fun _ next =>
        (lawful.makes_asGrammar _ made).bind fun _ made =>
          (lawful.makes_separatedBy made next).bind fun _ all => .pure all
  | .captured operand, built =>
    lawful.makes_from _ (lawful.makes_evaluate scope operand built) fun _ inner =>
      lawful.makes_captured inner
  | .capturedPattern operand, built =>
    (lawful.makes_evaluate scope operand built).bind fun _ made =>
      (lawful.makes_asPattern made).bind fun _ inner =>
        (lawful.makes_captured inner).bind fun _ made => .pure made
  | .returning operand value, built =>
    lawful.makes_from _ (lawful.makes_evaluate scope operand built) fun _ inner =>
      lawful.makes_returning inner value
  | .valueFor operand value, built =>
    (lawful.makes_evaluate scope operand built).bind fun _ made =>
      (lawful.makes_valueFor made value).bind fun _ made => .pure made
  | .erased operand, built =>
    lawful.makes_from _ (lawful.makes_evaluate scope operand built) fun _ inner =>
      lawful.makes_ofParser _ _ _ inner
  | .negated operand, built =>
    (lawful.makes_evaluate scope operand built).bind fun _ made => lawful.makes_negated made
  | .map operand _, built =>
    lawful.makes_from _ (lawful.makes_evaluate scope operand built) fun _ inner =>
      lawful.makes_ofParser _ _ _ inner
  | .shifted operand transform functionType, built =>
    (lawful.makes_evaluate scope operand built).bind fun _ made =>
      lawful.makes_shifted made transform functionType
  | .filter operand _, built =>
    lawful.makes_from _ (lawful.makes_evaluate scope operand built) fun _ inner =>
      lawful.makes_ofParser _ _ _ inner
  | .bind operand _, built =>
    lawful.makes_from _ (lawful.makes_evaluate scope operand built.1) fun _ inner =>
      lawful.makes_ofParser _ _ _ ⟨inner, built.2⟩
  | .named operand name, built =>
    lawful.makes_from _ (lawful.makes_evaluate scope operand built) fun _ inner =>
      lawful.makes_named inner name
  | .copy operand, built =>
    (lawful.makes_evaluate scope operand built).bind fun _ made => lawful.makes_duplicate made
  | .capturing names body, built =>
    (Makes.mapM fun name _ => lawful.makes_lookUp scope name).bind fun _ _ =>
      lawful.makes_evaluate _ body built
  | .retaining names body, built =>
    (Makes.mapM fun name _ => lawful.makes_lookUp scope name).bind fun _ _ =>
      (lawful.makes_evaluate scope body built).bind fun _ made => .pure (made.retaining _)
  | .recursive kind binder limit _, built =>
    Lawful.makes_made (lawful.makes_recursive kind binder limit scope built)

theorem Lawful.makes_evaluateAll (lawful : pair.Lawful) (scope : Scope) : (expressions : List Expression) →
    Expression.AllBuiltFrom pair.parts expressions →
    pair.Makes (∀ operand ∈ ·, operand.BuiltFrom pair.parts)
      (Expression.evaluateAll scope expressions)
  | [], _ => .pure (by simp)
  | expression :: rest, built =>
    (lawful.makes_evaluate scope expression built.1).bind fun operand made =>
      (lawful.makes_evaluateAll scope rest built.2).bind fun operands all => .pure (by
        simpa using ⟨made, all⟩)

end

/-- What a builder answers with is a grammar of the kind that was promised, or else a fault. -/
theorem Lawful.makes_definitionRule (lawful : pair.Lawful) {cell other : Cell}
    (name : cell.name = other.name) (kind : cell.kind = other.kind) {definition : Operand}
    (built : definition.BuiltFrom pair.parts) :
    pair.Parallel (fun first second => first = second ∧ first.BuiltFrom pair.parts)
      (Runner.definitionRule cell definition) (Runner.definitionRule other definition) := by
  have same : Runner.definitionRule cell definition = Runner.definitionRule other definition := by
    simp only [Runner.definitionRule, name, kind]
  rw [same]
  refine Makes.bind (lawful.makes_asAlternative other.kind built) fun alternative made => ?_
  cases alternative with
  | some grammar => exact .pure (made grammar rfl)
  | none =>
    cases definition with
    | raw value => exact lawful.makes_fail _
    | grammar answer => exact (makes_nameOf answer).andThen fun _ => lawful.makes_fail _

end TextGrammar.Alignment
