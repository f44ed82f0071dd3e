import TextGrammar.Proofs.Execution

/-! What an operation does that makes a grammar out of others. It gives names to new objects and
changes nothing else, and what it makes owns no cell that its operands did not own. -/

namespace TextGrammar

/-- Whether a rule owns no other cells than these. -/
def Rule.OwnsOnly (free : CellId → Prop) (rule : Rule) : Prop := ∀ cell ∈ rule.owned, free cell

def Grammar.OwnsOnly (free : CellId → Prop) (grammar : Grammar) : Prop := grammar.rule.OwnsOnly free

def Operand.OwnsOnly (free : CellId → Prop) (operand : Operand) : Prop :=
  ∀ cell ∈ operand.owned, free cell

/-- Whether the functions that are made in a scope own no other cells than these. -/
def Scope.OwnsOnly (free : CellId → Prop) (scope : Scope) : Prop := ∀ cell ∈ scope.owned, free cell

namespace Scope
variable {name : String} {placeholder : Placeholder} {scope : Scope} {cell : CellId}

theorem owned_append (first second : Scope) : owned (first ++ second) = first.owned ++ second.owned := by
  simp [owned]

theorem mem_owned : cell ∈ scope.owned ↔ ∃ entry ∈ scope, entry.2.captured = true ∧ entry.2.cell = cell := by
  simp [owned, and_assoc]

/-- A stand-in adds nothing to what a scope owns. -/
theorem owned_cons_of_uncaptured (stands : placeholder.captured = false) : owned ((name, placeholder) :: scope) = scope.owned := by
  simp [owned, stands]

theorem owned_released (scope : Scope) : scope.released.owned = [] := by
  simp only [owned, released, List.map_eq_nil_iff, List.filter_eq_nil_iff, List.mem_map]
  rintro _ ⟨entry, -, rfl⟩
  simp

end Scope

/-- What stands for an operand owns what the operand owns, or nothing. -/
theorem Operand.owned_of_placeholder? {operand : Operand} {placeholder : Placeholder}
    (stands : operand.placeholder? = some placeholder) (captured : placeholder.captured = true) :
    operand.owned = [placeholder.cell] := by
  unfold Operand.placeholder? at stands
  split at stands
  · cases stands
    rfl
  · cases stands
    cases captured
  · cases stands

section Ownership
variable {free : CellId → Prop}

theorem Rule.ownsOnly_pair {first second whole : Rule} (parts : whole.owned = first.owned ++ second.owned) :
    whole.OwnsOnly free ↔ first.OwnsOnly free ∧ second.OwnsOnly free := by
  simp only [OwnsOnly, parts, List.mem_append, or_imp, forall_and]

theorem Rule.ownsOnly_either {rules : List Rule} :
    (Rule.either rules).OwnsOnly free ↔ ∀ rule ∈ rules, rule.OwnsOnly free := by
  simp only [OwnsOnly, owned_either, List.mem_flatMap]
  constructor
  · intro all rule member cell owned
    exact all cell ⟨rule, member, owned⟩
  · intro each cell ⟨rule, member, owned⟩
    exact each rule member cell owned

theorem Rule.ownsOnly_leaf (recognise : Leaf) : (Rule.leaf recognise).OwnsOnly free := by
  simp [OwnsOnly, owned]

theorem Operand.ownsOnly_raw (value : Value) : (Operand.raw value).OwnsOnly free := by
  simp [OwnsOnly, owned]

theorem Constant.ownsOnly (shared : Constant) : shared.grammar.OwnsOnly free := by
  simp [Grammar.OwnsOnly, Rule.OwnsOnly, grammar, Rule.owned]

theorem Placeholder.ownsOnly {placeholder : Placeholder} (owns : placeholder.captured = true → free placeholder.cell) :
    placeholder.grammar.OwnsOnly free := by
  intro cell owned
  cases captured : placeholder.captured with
  | true =>
    have same : cell = placeholder.cell := by simpa [grammar, rule, Rule.owned, captured] using owned
    exact same ▸ owns captured
  | false => simp [grammar, rule, Rule.owned, captured] at owned

theorem Scope.ownsOnly_nil : Scope.OwnsOnly free [] := by
  simp [OwnsOnly, owned]

/-- What is looked up in a scope owns what the scope owns. -/
theorem Scope.OwnsOnly.lookup {scope : Scope} (owns : scope.OwnsOnly free) {name : String} {placeholder : Placeholder}
    (found : scope.lookup name = some placeholder) : placeholder.grammar.OwnsOnly free := by
  obtain ⟨before, after, same, -⟩ := List.lookup_eq_some_iff.mp found
  refine Placeholder.ownsOnly fun captured => owns _ (Scope.mem_owned.mpr ⟨(name, placeholder), ?_, captured, rfl⟩)
  simp [same]

/-- What has been captured is all that a scope owns then. -/
theorem Scope.ownsOnly_capturing {operands : List Operand} (owns : ∀ operand ∈ operands, operand.OwnsOnly free)
    (names : List String) (scope : Scope) : (scope.capturing names operands).OwnsOnly free := by
  intro cell owned
  rw [Scope.capturing, Scope.owned_append, Scope.owned_released, List.append_nil] at owned
  obtain ⟨entry, member, captured, rfl⟩ := Scope.mem_owned.mp owned
  obtain ⟨⟨name, operand⟩, paired, is⟩ := List.mem_filterMap.mp member
  obtain ⟨placeholder, stands, rfl⟩ := Option.map_eq_some_iff.mp is
  refine owns operand (List.of_mem_zip paired).2 _ ?_
  rw [Operand.owned_of_placeholder? stands captured]
  exact List.mem_singleton.mpr rfl

theorem Rule.ownsOnly_bind {scope : Scope} {continuation : Value → Expression} {operand : Rule} :
    (Rule.bind scope continuation operand).OwnsOnly free ↔ scope.OwnsOnly free ∧ operand.OwnsOnly free := by
  simp only [OwnsOnly, Scope.OwnsOnly, owned, List.mem_append, or_imp, forall_and]

theorem Rule.ownsOnly_retaining {held : List CellId} {operand : Rule} :
    (Rule.retaining held operand).OwnsOnly free ↔ (∀ cell ∈ held, free cell) ∧ operand.OwnsOnly free := by
  simp only [OwnsOnly, owned, List.mem_append, or_imp, forall_and]

theorem Operand.OwnsOnly.retaining {operand : Operand} {held : List CellId} (owns : operand.OwnsOnly free)
    (all : ∀ cell ∈ held, free cell) : (operand.retaining held).OwnsOnly free := by
  cases operand with
  | raw value => exact Operand.ownsOnly_raw value
  | grammar made => exact Rule.ownsOnly_retaining.mpr ⟨all, owns⟩

end Ownership

namespace Action
variable {α β : Type} {free : CellId → Prop}

/-- An action that changes nothing but names, and answers with nothing but what is `good`. -/
def Assembles (good : α → Prop) (action : Action α) : Prop :=
  ∀ store, (∃ names, (action.exec store).2 = { store with names }) ∧
    ∀ answer, (action.exec store).1 = .ok answer → good answer

namespace Assembles
variable {good : α → Prop} {fine : β → Prop} {action other : Action α} {next : α → Action β}

theorem pure {answer : α} (holds : good answer) : (Pure.pure answer : Action α).Assembles good := by
  intro store
  refine ⟨⟨store.names, rfl⟩, fun other same => ?_⟩
  cases same
  exact holds

theorem fail (fault : Fault) : (Action.fail fault : Action α).Assembles good :=
  fun store => ⟨⟨store.names, rfl⟩, fun _ answered => by cases answered⟩

theorem ofExcept (outcome : Except Fault α) : (Action.ofExcept outcome).Assembles fun _ => True := by
  cases outcome with
  | error fault => exact fail fault
  | ok answer => exact pure trivial

theorem nameOf (grammar : Grammar) : (Action.nameOf grammar).Assembles fun _ => True :=
  fun store => ⟨⟨store.names, rfl⟩, fun _ _ => trivial⟩

theorem newGrammar (kind : Kind) (name : String) {body : Rule} (owns : body.OwnsOnly free) :
    (Action.newGrammar kind name body).Assembles (Grammar.OwnsOnly free) := by
  intro store
  refine ⟨⟨_, rfl⟩, fun made answered => ?_⟩
  cases answered
  exact owns

theorem bind (first : action.Assembles good) (rest : ∀ answer, good answer → (next answer).Assembles fine) :
    (action >>= next).Assembles fine := by
  intro store
  obtain ⟨⟨names, same⟩, holds⟩ := first store
  rw [exec_bind]
  rcases ended : action.exec store with ⟨halt | answer, after⟩ <;> rw [ended] at same holds
  · exact ⟨⟨names, same⟩, fun _ answered => by cases answered⟩
  · obtain ⟨⟨later, further⟩, result⟩ := rest answer (holds answer rfl) after
    cases same
    exact ⟨⟨later, further⟩, result⟩

theorem imp (assembles : action.Assembles good) {wide : α → Prop} (implies : ∀ answer, good answer → wide answer) :
    action.Assembles wide :=
  fun store => ⟨(assembles store).1, fun answer answered => implies answer ((assembles store).2 answer answered)⟩

theorem map (first : action.Assembles good) {change : α → β} (rest : ∀ answer, good answer → fine (change answer)) :
    (change <$> action).Assembles fine := by
  rw [map_eq_pure_bind]
  exact first.bind fun answer holds => pure (rest answer holds)

/-- What would follow a fault makes no difference. -/
theorem fail_bind (fault : Fault) (next : α → Action β) : (Action.fail fault >>= next).Assembles fine :=
  fun store => ⟨⟨store.names, rfl⟩, fun _ answered => by cases answered⟩

theorem branch {condition : Prop} [Decidable condition] (yes : action.Assembles good)
    (no : other.Assembles good) : (if condition then action else other).Assembles good := by
  split
  · exact yes
  · exact no

theorem mapM {action : α → Action β} {items : List α} (each : ∀ item ∈ items, (action item).Assembles fine) :
    (items.mapM action).Assembles fun answers => ∀ answer ∈ answers, fine answer := by
  induction items with
  | nil => exact pure (by simp)
  | cons item rest ih =>
    rw [List.mapM_cons]
    refine (each item (by simp)).bind fun answer holds => ?_
    refine (ih fun other member => each other (by simp [member])).bind fun answers all => pure ?_
    intro other member
    obtain rfl | member := List.mem_cons.mp member
    · exact holds
    · exact all other member

end Assembles

end Action

open TextGrammar.Action
variable {free : CellId → Prop}

namespace Grammar

theorem literal_assembles (word : String) : (literal word).Assembles (OwnsOnly free) :=
  .newGrammar _ _ (Rule.ownsOnly_leaf _)

/-- A new object that is named after an old one. -/
theorem around_assembles (grammar : Grammar) (kind : Kind) (name : String → String) {rule : Rule}
    (owns : rule.OwnsOnly free) :
    (do newGrammar kind (name (← nameOf grammar)) rule).Assembles (OwnsOnly free) :=
  (Assembles.nameOf _).bind fun _ _ => .newGrammar _ _ owns

theorem followedByGrammar_assembles {first second : Grammar} (one : first.OwnsOnly free)
    (two : second.OwnsOnly free) : (first.followedByGrammar second).Assembles (OwnsOnly free) :=
  (Assembles.nameOf _).bind fun _ _ => (Assembles.nameOf _).bind fun _ _ =>
    .newGrammar _ _ ((Rule.ownsOnly_pair rfl).mpr ⟨one, two⟩)

theorem followedBy_assembles {first : Grammar} {second : Operand} (one : first.OwnsOnly free)
    (two : second.OwnsOnly free) : (first.followedBy second).Assembles (OwnsOnly free) := by
  unfold followedBy
  split
  · exact followedByGrammar_assembles one two
  · exact (literal_assembles _).bind fun _ word => followedByGrammar_assembles one word
  · exact .fail _

theorem asAlternative_assembles (kind : Kind) {operand : Operand} (owns : operand.OwnsOnly free) :
    (asAlternative kind operand).Assembles fun found => ∀ made ∈ found, made.OwnsOnly free := by
  unfold asAlternative
  split
  · apply Assembles.pure
    split
    · intro made is
      cases is
      exact owns
    · simp
  next word =>
    have made : (literal word).Assembles (OwnsOnly free) := literal_assembles word
    refine .branch (made.map fun grammar owns => ?_) (.pure (by simp))
    simpa using owns
  · exact .pure (by simp)

theorem notAlternative_assembles (kind : Kind) (operand : Operand) :
    (notAlternative kind operand).Assembles fun _ => True := by
  unfold notAlternative
  split
  · exact (Assembles.nameOf _).bind fun _ _ => .pure trivial
  · exact .pure trivial

theorem choice_assembles {first second : Grammar} (one : first.OwnsOnly free) (two : second.OwnsOnly free) :
    (first.choice second).Assembles (OwnsOnly free) :=
  (Assembles.nameOf _).bind fun _ _ => (Assembles.nameOf _).bind fun _ _ =>
    .newGrammar _ _ ((Rule.ownsOnly_pair rfl).mpr ⟨one, two⟩)

/-- An alternative, or the fault of what is none. -/
theorem alternative_assembles {α : Type} {good : α → Prop} (kind : Kind) {operand : Operand}
    (owns : operand.OwnsOnly free) {next : Grammar → Action α}
    (rest : ∀ made : Grammar, made.OwnsOnly free → (next made).Assembles good) :
    (do match ← asAlternative kind operand with
      | some made => next made
      | none => fail (← notAlternative kind operand)).Assembles good := by
  refine (asAlternative_assembles kind owns).bind fun found holds => ?_
  cases found with
  | some made => exact rest made (holds made rfl)
  | none => exact (notAlternative_assembles _ _).bind fun _ _ => .fail _

theorem orElse_assembles {grammar : Grammar} {operand : Operand} (one : grammar.OwnsOnly free)
    (two : operand.OwnsOnly free) : (grammar.orElse operand).Assembles (OwnsOnly free) :=
  alternative_assembles _ two fun _ made => choice_assembles one made

theorem either_assembles (kind : Kind) {operands : List Operand}
    (owns : ∀ operand ∈ operands, operand.OwnsOnly free) :
    (either kind operands).Assembles (OwnsOnly free) := by
  refine (Assembles.mapM fun operand member =>
    alternative_assembles kind (owns operand member) fun made holds => .pure holds).bind fun made all => ?_
  refine (Assembles.mapM fun other _ => .nameOf other).bind fun names _ => .newGrammar _ _ ?_
  rw [Rule.ownsOnly_either]
  intro rule member
  obtain ⟨grammar, present, rfl⟩ := List.mem_map.mp member
  exact all grammar present

theorem repetitions_assembles (grammar : Grammar) (count : Value) :
    (grammar.repetitions count).Assembles fun _ => True := by
  have given (counted : Bool × Except Fault Int) :
      (pure counted : Action _).Assembles fun _ => True := .pure trivial
  unfold repetitions
  dsimp only
  split
  case h_3 => exact .fail_bind _ _
  all_goals
    refine (given _).bind fun counted _ => (Assembles.ofExcept counted.2).bind fun times _ => ?_
    refine .branch (.fail_bind _ _) ?_
    exact .branch ((Assembles.nameOf _).bind fun _ _ => .fail_bind _ _) (.pure trivial)

theorem times_assembles {grammar : Grammar} (count : Value) (owns : grammar.OwnsOnly free) :
    (grammar.times count).Assembles (OwnsOnly free) := by
  refine (repetitions_assembles _ _).bind fun repetitions _ => around_assembles _ _ _ ?_
  cases count with
  | float number => exact Rule.ownsOnly_leaf _
  | _ => exact owns

theorem asPattern_assembles {operand : Operand} (owns : operand.OwnsOnly free) :
    (asPattern operand).Assembles (OwnsOnly free) := by
  unfold asPattern
  split
  · split
    · exact .pure owns
    · exact around_assembles _ _ _ owns
  · exact literal_assembles _
  · exact .fail _

theorem separatedBy_assembles {grammar : Grammar} {separator : Operand} (one : grammar.OwnsOnly free)
    (two : separator.OwnsOnly free) : (grammar.separatedBy separator).Assembles (OwnsOnly free) :=
  (asPattern_assembles two).bind fun _ pattern => (followedByGrammar_assembles pattern one).bind fun _ rest =>
    (Assembles.nameOf _).bind fun _ _ => (Assembles.nameOf _).bind fun _ _ =>
      .newGrammar _ _ ((Rule.ownsOnly_pair rfl).mpr ⟨one, rest⟩)

theorem valueFor_assembles {operand : Operand} (value : Value) (owns : operand.OwnsOnly free) :
    (valueFor operand value).Assembles (OwnsOnly free) :=
  (asPattern_assembles owns).bind fun _ pattern => around_assembles _ _ _ pattern

theorem returning_assembles {grammar : Grammar} (value : Value) (owns : grammar.OwnsOnly free) :
    (grammar.returning value).Assembles (OwnsOnly free) := by
  unfold returning
  split
  · exact valueFor_assembles value owns
  · exact .fail _

theorem ofParser_assembles (grammar : Grammar) (member : String) (kind : Kind) (name : String → String)
    {rule : Rule → Rule} (owns : (rule grammar.rule).OwnsOnly free) :
    (grammar.ofParser member kind name rule).Assembles (OwnsOnly free) := by
  unfold ofParser
  split
  · exact around_assembles _ _ _ owns
  · exact .fail _

theorem named_assembles {grammar : Grammar} (name : String) (owns : grammar.OwnsOnly free) :
    (grammar.named name).Assembles (OwnsOnly free) := by
  intro store
  refine ⟨⟨_, rfl⟩, fun made answered => ?_⟩
  cases answered
  exact owns

end Grammar

namespace Operand

theorem asGrammar_assembles (member : String) {operand : Operand} (owns : operand.OwnsOnly free) :
    (operand.asGrammar member).Assembles (Grammar.OwnsOnly free) := by
  cases operand with
  | raw value => exact .fail _
  | grammar made => exact .pure owns

/-- An operand that is made out of a grammar. -/
theorem made_assembles {action : Action Grammar} (assembles : action.Assembles (Grammar.OwnsOnly free)) :
    (Operand.grammar <$> action).Assembles (OwnsOnly free) :=
  assembles.map fun _ => id

theorem sum_assembles {first second : Operand} (one : first.OwnsOnly free) (two : second.OwnsOnly free) :
    (first.sum second).Assembles (OwnsOnly free) := by
  unfold sum
  split
  · exact (Assembles.ofExcept _).map fun _ _ => ownsOnly_raw _
  · exact (Grammar.literal_assembles _).bind fun _ word =>
      (Grammar.followedBy_assembles word two).bind fun _ made => .pure made
  · exact made_assembles (Grammar.followedBy_assembles one two)
  · exact made_assembles (Grammar.followedBy_assembles one two)
  · exact .fail _

theorem union_assembles {first second : Operand} (one : first.OwnsOnly free) (two : second.OwnsOnly free) :
    (first.union second).Assembles (OwnsOnly free) := by
  unfold union
  dsimp only
  split
  · exact (Assembles.ofExcept _).map fun _ _ => ownsOnly_raw _
  · refine (Grammar.asAlternative_assembles _ two).bind fun found holds => ?_
    cases found with
    | some made => exact made_assembles (Grammar.choice_assembles one (holds made rfl))
    | none => exact .fail _
  · refine (Grammar.asAlternative_assembles _ one).bind fun found holds => ?_
    cases found with
    | some made => exact made_assembles (Grammar.choice_assembles (holds made rfl) two)
    | none => exact .fail _

theorem negated_assembles {operand : Operand} (owns : operand.OwnsOnly free) :
    operand.negated.Assembles (OwnsOnly free) := by
  unfold negated
  split
  · exact (Assembles.ofExcept _).map fun _ _ => ownsOnly_raw _
  · split
    · exact made_assembles (Grammar.ofParser_assembles _ _ _ _ owns)
    · exact .fail _

theorem shifted_assembles {operand : Operand} (transform : Value → Except Fault Value)
    (functionType : String) (owns : operand.OwnsOnly free) :
    (operand.shifted transform functionType).Assembles (OwnsOnly free) := by
  unfold shifted
  dsimp only
  split
  · split
    · exact made_assembles (Grammar.ofParser_assembles _ _ _ _ owns)
    · exact .fail _
  · exact .fail _

theorem times_assembles {operand : Operand} (count : Value) (owns : operand.OwnsOnly free) :
    (operand.times count).Assembles (OwnsOnly free) := by
  unfold times
  split
  · exact (Assembles.ofExcept _).map fun _ _ => ownsOnly_raw _
  · exact (asGrammar_assembles _ owns).bind fun _ made => (Grammar.times_assembles count made).bind
      fun _ whole => .pure whole

theorem copy_assembles {operand : Operand} (owns : operand.OwnsOnly free) :
    operand.copy.Assembles (OwnsOnly free) := by
  unfold copy
  split
  · exact made_assembles (Grammar.around_assembles _ _ _ owns)
  · exact .fail _
  · exact .pure (ownsOnly_raw _)

theorem asParser_assembles (member : String) {operand : Operand} (owns : operand.OwnsOnly free) :
    (operand.asParser member).Assembles (Grammar.OwnsOnly free) := by
  refine (asGrammar_assembles member owns).bind fun grammar made => ?_
  split
  · exact .pure made
  · exact .fail _

theorem describe_assembles (operand : Operand) : operand.describe.Assembles fun _ => True := by
  cases operand with
  | raw value => exact .pure trivial
  | grammar made => exact (Assembles.nameOf _).bind fun _ _ => .pure trivial

end Operand

namespace Runner

theorem definitionRule_assembles (slot : Cell) {operand : Operand} (owns : operand.OwnsOnly free) :
    (definitionRule slot operand).Assembles (Rule.OwnsOnly free) := by
  unfold definitionRule
  refine (Grammar.asAlternative_assembles _ owns).bind fun found holds => ?_
  cases found with
  | some made => exact .pure (holds made rfl)
  | none =>
    cases operand with
    | raw value => exact .fail _
    | grammar made => exact (Assembles.nameOf _).bind fun _ _ => .fail _

end Runner

end TextGrammar
