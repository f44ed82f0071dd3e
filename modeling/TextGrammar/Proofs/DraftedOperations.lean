import TextGrammar.Proofs.Staging

/-! Operations on grammars beside the same operations on sketches. What they make differs in the
names and the tags of objects, and where one refuses its operands, so does the other. -/

namespace TextGrammar
open TextGrammar.Action

variable {α β γ δ : Type}

/-- An action that comes to what a draft says, and changes no more than names. -/
def Action.Drafts (action : Action α) (outcome : Except Fault β) (related : α → β → Prop) : Prop :=
  ∀ store : Store, ∃ names, match outcome with
    | .ok drafted => ∃ made, action.exec store = (.ok made, { store with names }) ∧ related made drafted
    | .error fault => ∃ cause, action.exec store = (.error (.fault cause), { store with names }) ∧
      cause.unnamed = fault.unnamed

namespace Action.Drafts
variable {action : Action α} {outcome : Except Fault β} {related : α → β → Prop}

theorem pure {made : α} {drafted : β} (holds : related made drafted) :
    (Pure.pure made : Action α).Drafts (.ok drafted) related :=
  fun store => ⟨store.names, made, rfl, holds⟩

theorem fail {cause fault : Fault} (same : cause.unnamed = fault.unnamed) :
    (Action.fail cause : Action α).Drafts (.error fault : Except Fault β) related :=
  fun store => ⟨store.names, cause, rfl, same⟩

theorem ofExcept {first : Except Fault α} {related : α → α → Prop}
    (holds : ∀ made, first = .ok made → related made made) :
    (Action.ofExcept first).Drafts first related := by
  cases first with
  | ok made => exact pure (holds made rfl)
  | error fault => exact fail rfl

theorem bind {next : α → Action γ} {later : β → Except Fault δ} {result : γ → δ → Prop}
    (first : action.Drafts outcome related)
    (rest : ∀ made drafted, related made drafted → (next made).Drafts (later drafted) result) :
    (action >>= next).Drafts (outcome >>= later) result := by
  intro store
  obtain ⟨names, done⟩ := first store
  cases outcome with
  | error fault =>
    obtain ⟨cause, failed, same⟩ := done
    exact ⟨names, cause, exec_bind_error failed, same⟩
  | ok drafted =>
    obtain ⟨made, answered, holds⟩ := done
    obtain ⟨renamed, ended⟩ := rest made drafted holds { store with names }
    refine ⟨renamed, ?_⟩
    rw [exec_bind_ok answered]
    exact ended

/-- What follows an action that does not fail. -/
theorem andThen {drafted : β} {next : α → Action γ} {later : Except Fault δ} {result : γ → δ → Prop}
    (first : action.Drafts (.ok drafted) related)
    (rest : ∀ made, related made drafted → (next made).Drafts later result) :
    (action >>= next).Drafts later result := by
  intro store
  obtain ⟨names, made, answered, holds⟩ := first store
  rw [exec_bind_ok answered]
  exact rest made holds { store with names }

theorem map {result : γ → δ → Prop} (first : action.Drafts outcome related) {change : α → γ}
    {other : β → δ} (holds : ∀ made drafted, related made drafted → result (change made) (other drafted)) :
    (change <$> action).Drafts (other <$> outcome) result := by
  rw [map_eq_pure_bind, map_eq_pure_bind]
  exact first.bind fun made drafted same => pure (holds made drafted same)

/-- What would follow a fault makes no difference. -/
theorem refused {cause fault : Fault} {next : α → Action γ} {later : β → Except Fault δ}
    {result : γ → δ → Prop} (same : cause.unnamed = fault.unnamed) :
    (Action.fail cause >>= next).Drafts (.error fault >>= later) result :=
  fun store => ⟨store.names, cause, rfl, same⟩

theorem branch {condition : Prop} [Decidable condition] {other : Action α} {second : Except Fault β}
    (yes : condition → action.Drafts outcome related) (no : ¬condition → other.Drafts second related) :
    (if condition then action else other).Drafts (if condition then outcome else second) related := by
  split
  · exact yes ‹_›
  · exact no ‹_›

/-- Names do not matter. -/
theorem nameOf {grammar : Grammar} {next : String → Action α}
    (rest : ∀ name, (next name).Drafts outcome related) :
    (Action.nameOf grammar >>= next).Drafts outcome related :=
  fun store => rest (store.nameOf grammar.tag) store

end Action.Drafts

section Operations
variable {scene : Scene} {cast : Cast} {awake : Key → Prop} {made next : Grammar} {sketch other : Sketch}

theorem newGrammar_drafts (kind : Kind) (name : String) {body : Rule} {part : Blueprint}
    (plays : body.Plays scene.allowed cast awake part) :
    (newGrammar kind name body).Drafts (.ok (.new kind part)) (Grammar.Plays scene cast awake) :=
  fun store => ⟨store.names.push name, _, rfl, rfl, plays.object _ _⟩

namespace Grammar

theorem literal_drafts (word : String) :
    (literal word).Drafts (.ok (.literal word)) (Plays scene cast awake) :=
  newGrammar_drafts _ _ (.leaf _)

namespace Plays
variable (one : made.Plays scene cast awake sketch)
include one

/-- A new object around another one of the same kind. -/
theorem around {name : String → String} {wrap : Rule → Rule} {change : Kind → Blueprint → Blueprint}
    (wraps : made.rule.Plays scene.allowed cast awake sketch.body →
      (wrap made.rule).Plays scene.allowed cast awake (change made.kind sketch.body)) :
    (do newGrammar made.kind (name (← nameOf made)) (wrap made.rule)).Drafts
      (.ok (sketch.around change)) (Plays scene cast awake) := by
  rw [Sketch.around, ← one.kind]
  exact .nameOf fun _ => newGrammar_drafts _ _ (wraps one.body)

theorem ofParser (member : String) (kind : Kind) (name : String → String) {wrap : Rule → Rule}
    {change : Blueprint → Blueprint}
    (wraps : made.rule.Plays scene.allowed cast awake sketch.body →
      (wrap made.rule).Plays scene.allowed cast awake (change sketch.body)) :
    (made.ofParser member kind name wrap).Drafts (sketch.ofParser member kind change)
      (Plays scene cast awake) := by
  rw [Grammar.ofParser, Sketch.ofParser, ← one.kind]
  cases is : made.kind with
  | parser => exact .nameOf fun _ => newGrammar_drafts _ _ (wraps one.body)
  | pattern => exact .fail (by rw [missingMember, is])

theorem followedByGrammar (two : next.Plays scene cast awake other) :
    (made.followedByGrammar next).Drafts (.ok (sketch.followedByGrammar other))
      (Plays scene cast awake) := by
  obtain ⟨kind, body⟩ := one
  obtain ⟨kind', body'⟩ := two
  rw [Sketch.followedByGrammar, ← kind, ← kind']
  exact .nameOf fun _ => .nameOf fun _ => newGrammar_drafts _ _ (body.sequence _ _ body')

theorem followedBy {operand : Operand} {draft : Draft} (two : operand.Plays scene cast awake draft) :
    (made.followedBy operand).Drafts (sketch.followedBy draft) (Plays scene cast awake) := by
  cases two with
  | grammar two => exact one.followedByGrammar two
  | raw value =>
    have refused : (fail (.notSequenced made.kind value) : Action Grammar).Drafts
        (.error (.notSequenced sketch.kind value)) (Plays scene cast awake) :=
      .fail (by rw [one.kind])
    cases value with
    | str word => exact (literal_drafts word).bind fun _ _ two => one.followedByGrammar two
    | _ => exact refused

theorem choice (two : next.Plays scene cast awake other) :
    (made.choice next).Drafts (.ok (sketch.choice other)) (Plays scene cast awake) := by
  rw [Sketch.choice, ← one.kind]
  exact .nameOf fun _ => .nameOf fun _ => newGrammar_drafts _ _ (one.body.orElse two.body)

theorem optional : made.optional.Drafts (.ok (sketch.around .optional)) (Plays scene cast awake) :=
  one.around (.optional _)

theorem many : made.many.Drafts (.ok (sketch.around .many)) (Plays scene cast awake) :=
  one.around (.many _ _)

theorem oneOrMore : made.oneOrMore.Drafts (.ok (sketch.around .oneOrMore)) (Plays scene cast awake) :=
  one.around (.oneOrMore _)

theorem captured : made.captured.Drafts (.ok sketch.captured) (Plays scene cast awake) := by
  rw [Sketch.captured, ← one.kind]
  exact .nameOf fun _ => newGrammar_drafts _ _ (one.body.captured _)

theorem copy : made.copy.Drafts (.ok (.new sketch.kind sketch.body)) (Plays scene cast awake) := by
  rw [← one.kind]
  exact .nameOf fun _ => newGrammar_drafts _ _ one.body

theorem named (name : String) : (made.named name).Drafts (.ok sketch) (Plays scene cast awake) :=
  fun store => ⟨store.names.setIfInBounds made.tag name, made, rfl, one⟩

omit one in
theorem repetitions (made : Grammar) (count : Value) :
    (made.repetitions count).Drafts (Sketch.repetitions count) Eq := by
  have whole (negative : Bool) (times : Except Fault Int) :
      (do
        let times ← Action.ofExcept times
        if !Numeral.isWritable times then Action.fail .integerTooLong
        if negative then Action.fail (.negativeTimes (← nameOf made) times)
        return times.toNat : Action Nat).Drafts (do
        let times ← times
        if !Numeral.isWritable times then .error .integerTooLong
        if negative then .error (.negativeTimes "" times)
        return times.toNat) Eq := by
    generalize Numeral.isWritable = writable
    refine Drafts.bind (.ofExcept fun _ _ => rfl) fun times _ same => ?_
    subst same
    refine .branch (fun _ => .refused rfl) fun _ => .branch (fun _ => ?_) fun _ => .pure rfl
    exact .nameOf fun _ => .refused rfl
  have refused : (Action.fail (.unordered "<" count.typeName "int")).Drafts
      (.error (.unordered "<" count.typeName "int") : Except Fault (Bool × Except Fault Int)) Eq :=
    .fail rfl
  have given (counted : Bool × Except Fault Int) :
      (pure counted : Action _).Drafts (pure counted : Except Fault _) Eq := .pure rfl
  unfold Grammar.repetitions Sketch.repetitions
  dsimp only at whole ⊢
  cases count with
  | float number =>
    refine (given _).bind fun counted _ same => ?_
    subst same
    exact whole _ _
  | _ =>
    generalize Value.integer? _ = integer
    cases integer with
    | some integer =>
      refine (given _).bind fun counted _ same => ?_
      subst same
      exact whole _ _
    | none =>
      refine refused.bind fun counted _ same => ?_
      subst same
      exact whole _ _

theorem times (count : Value) :
    (made.times count).Drafts (sketch.times count) (Plays scene cast awake) := by
  refine (repetitions made count).bind fun times _ same => ?_
  subst same
  rw [← one.kind]
  refine .nameOf fun _ => ?_
  cases count with
  | float number => exact newGrammar_drafts _ _ (.leaf _)
  | _ => exact newGrammar_drafts _ _ (one.body.times _ _)

end Plays

end Grammar

namespace Operand.Plays
variable {operand : Operand} {draft : Draft} (one : operand.Plays scene cast awake draft)
include one

theorem typeName : operand.typeName = draft.typeName := by
  cases one with
  | raw value => rfl
  | grammar made => rw [Operand.typeName, Draft.typeName, made.kind]

theorem asGrammar (member : String) :
    (operand.asGrammar member).Drafts (draft.asGrammar member) (Grammar.Plays scene cast awake) := by
  cases one with
  | raw value => exact .fail rfl
  | grammar made => exact .pure made

theorem asAlternative (kind : Kind) :
    (Grammar.asAlternative kind operand).Drafts (.ok (draft.asAlternative kind))
      (Option.Rel (Grammar.Plays scene cast awake)) := by
  cases one with
  | grammar made =>
    simp only [Grammar.asAlternative, Draft.asAlternative, made.kind]
    split
    · exact .pure (.some made)
    · exact .pure .none
  | raw value =>
    cases value with
    | str word =>
      simp only [Grammar.asAlternative, Draft.asAlternative]
      split
      · exact Drafts.map (Grammar.literal_drafts word) fun _ _ made => .some made
      · exact .pure .none
    | _ => exact .pure .none

theorem asPattern :
    (Grammar.asPattern operand).Drafts draft.asPattern (Grammar.Plays scene cast awake) := by
  cases one with
  | grammar made =>
    rename_i grammar sketch
    simp only [Grammar.asPattern, Draft.asPattern, made.kind]
    cases sketch.kind with
    | pattern => exact .pure made
    | parser => exact .nameOf fun _ => newGrammar_drafts _ _ made.body.erased
  | raw value =>
    cases value with
    | str word => exact Grammar.literal_drafts word
    | _ => exact .fail rfl

/-- An operand that is no alternative is refused. -/
theorem refused (kind : Kind) {result : α → β → Prop} :
    (do fail (← Grammar.notAlternative kind operand) : Action α).Drafts
      (.error (draft.notAlternative kind)) result := by
  cases one with
  | raw value => exact .fail rfl
  | @grammar made _ _ =>
    exact fun store => ⟨store.names, .otherKindAlternative kind (store.nameOf made.tag), rfl, rfl⟩

/-- An alternative, from which something is made. -/
theorem alternative (kind : Kind) {next : Grammar → Action α} {later : Sketch → Except Fault β}
    {result : α → β → Prop}
    (rest : ∀ made sketch, Grammar.Plays scene cast awake made sketch →
      (next made).Drafts (later sketch) result) :
    (do match ← Grammar.asAlternative kind operand with
      | some made => next made
      | none => fail (← Grammar.notAlternative kind operand)).Drafts
      (draft.alternative kind >>= later) result := by
  rw [Draft.alternative]
  refine (one.asAlternative kind).andThen fun made same => ?_
  generalize draft.asAlternative kind = drafted at same
  cases same with
  | some made => exact rest _ _ made
  | none => exact one.refused kind

theorem valueFor (value : Value) :
    (Grammar.valueFor operand value).Drafts (Sketch.valueFor draft value)
      (Grammar.Plays scene cast awake) :=
  one.asPattern.bind fun _ _ pattern => .nameOf fun _ => newGrammar_drafts _ _ (pattern.body.valued _)

end Operand.Plays

namespace Grammar.Plays
variable (one : made.Plays scene cast awake sketch)
include one

theorem orElse {operand : Operand} {draft : Draft} (two : operand.Plays scene cast awake draft) :
    (made.orElse operand).Drafts (sketch.orElse draft) (Plays scene cast awake) := by
  rw [Sketch.orElse, ← one.kind]
  exact two.alternative made.kind fun _ _ other => one.choice other

theorem separatedBy {operand : Operand} {draft : Draft} (two : operand.Plays scene cast awake draft) :
    (made.separatedBy operand).Drafts (sketch.separatedBy draft) (Plays scene cast awake) := by
  refine two.asPattern.bind fun separator _ pattern => ?_
  refine (pattern.followedByGrammar one).andThen fun rest next => ?_
  rw [← one.kind]
  exact .nameOf fun _ => .nameOf fun _ => newGrammar_drafts _ _ (one.body.separated _ next.body)

theorem returning (value : Value) :
    (made.returning value).Drafts (sketch.returning value) (Plays scene cast awake) := by
  rw [Grammar.returning, Sketch.returning, ← one.kind]
  cases is : made.kind with
  | pattern => exact (Operand.Plays.grammar one).valueFor value
  | parser => exact .fail (by rw [missingMember, is])

end Grammar.Plays

/-- Alternatives of a kind, as far as all of them are. -/
theorem alternatives_drafts (kind : Kind) {operands : List Operand} {drafts : List Draft}
    (all : List.Forall₂ (Operand.Plays scene cast awake) operands drafts) :
    (operands.mapM fun operand => do
      match ← Grammar.asAlternative kind operand with
      | some alternative => return alternative
      | none => fail (← Grammar.notAlternative kind operand)).Drafts
      (drafts.mapM (Draft.alternative kind)) (List.Forall₂ (Grammar.Plays scene cast awake)) := by
  induction all with
  | nil => exact .pure .nil
  | @cons operand draft _ _ one _ ih =>
    rw [List.mapM_cons, List.mapM_cons]
    have first : (do match ← Grammar.asAlternative kind operand with
        | some alternative => return alternative
        | none => fail (← Grammar.notAlternative kind operand)).Drafts
        (draft.alternative kind) (Grammar.Plays scene cast awake) := by
      rw [← bind_pure (draft.alternative kind)]
      exact one.alternative kind fun _ _ made => .pure made
    exact first.bind fun _ _ made => ih.bind fun _ _ rest => .pure (.cons made rest)

/-- Names do not matter. -/
theorem names_drafts (grammars : List Grammar) :
    (grammars.mapM nameOf).Drafts (.ok () : Except Fault Unit) fun _ _ => True := by
  induction grammars with
  | nil => exact .pure trivial
  | cons grammar rest ih =>
    rw [List.mapM_cons]
    exact .nameOf fun _ => ih.andThen fun _ _ => .pure trivial

theorem allPlay_of_forall₂ {grammars : List Grammar} {sketches : List Sketch}
    (all : List.Forall₂ (Grammar.Plays scene cast awake) grammars sketches) :
    Rule.AllPlay scene.allowed cast awake (grammars.map Grammar.rule) (sketches.map Sketch.body) := by
  induction all with
  | nil => exact .nil
  | cons one _ ih => exact .cons one.body ih

theorem either_drafts (kind : Kind) {operands : List Operand} {drafts : List Draft}
    (all : List.Forall₂ (Operand.Plays scene cast awake) operands drafts) :
    (Grammar.either kind operands).Drafts (Sketch.either kind drafts)
      (Grammar.Plays scene cast awake) :=
  (alternatives_drafts kind all).bind fun _ _ made => (names_drafts _).andThen fun _ _ =>
    newGrammar_drafts _ _ (.either (allPlay_of_forall₂ made))

end Operations

section Operands
variable {scene : Scene} {cast : Cast} {awake : Key → Prop} {operand : Operand} {draft : Draft}

namespace Operand.Plays

theorem sum {second : Operand} {other : Draft} (one : operand.Plays scene cast awake draft)
    (two : second.Plays scene cast awake other) :
    (operand.sum second).Drafts (draft.sum other) (Operand.Plays scene cast awake) := by
  have refused : (fail (.unsupportedOperands "+" operand.typeName second.typeName) : Action Operand).Drafts
      (.error (.unsupportedOperands "+" draft.typeName other.typeName)) (Operand.Plays scene cast awake) :=
    .fail (by rw [one.typeName, two.typeName])
  cases one with
  | raw first =>
    cases two with
    | raw second => exact Drafts.map (.ofExcept fun _ _ => rfl) fun _ _ same => same ▸ .raw _
    | grammar two =>
      cases first with
      | str word =>
        have literal : (Grammar.literal word).Drafts _ (Grammar.Plays scene cast awake) :=
          Grammar.literal_drafts word
        refine literal.andThen fun made first => ?_
        dsimp only [Draft.sum]
        rw [map_eq_pure_bind]
        exact (first.followedBy (.grammar two)).bind fun _ _ both => .pure (.grammar both)
      | _ => exact refused
  | grammar one =>
    cases two with
    | grammar two => exact (one.followedBy (.grammar two)).map fun _ _ both => .grammar both
    | raw second =>
      cases second with
      | str word => exact (one.followedBy (.raw _)).map fun _ _ both => .grammar both
      | _ => exact refused

theorem union {second : Operand} {other : Draft} (one : operand.Plays scene cast awake draft)
    (two : second.Plays scene cast awake other) :
    (operand.union second).Drafts (draft.union other) (Operand.Plays scene cast awake) := by
  have refused : (fail (.unsupportedOperands "|" operand.typeName second.typeName) : Action Operand).Drafts
      (.error (.unsupportedOperands "|" draft.typeName other.typeName)) (Operand.Plays scene cast awake) :=
    .fail (by rw [one.typeName, two.typeName])
  cases one with
  | @grammar made sketch one =>
    dsimp only [Operand.union, Draft.union]
    rw [← one.kind]
    refine (two.asAlternative made.kind).andThen fun found same => ?_
    generalize other.asAlternative made.kind = drafted at same
    cases same with
    | some made => exact Drafts.map (one.choice made) fun _ _ both => .grammar both
    | none => exact refused
  | raw first =>
    cases two with
    | raw second => exact Drafts.map (.ofExcept fun _ _ => rfl) fun _ _ same => same ▸ .raw _
    | @grammar made sketch two =>
      dsimp only [Operand.union, Draft.union]
      rw [← two.kind]
      have one : (Operand.raw first).Plays scene cast awake (.raw first) := .raw first
      refine (one.asAlternative made.kind).andThen fun found same => ?_
      generalize (Draft.raw first).asAlternative made.kind = drafted at same
      cases same with
      | some one => exact Drafts.map (one.choice two) fun _ _ both => .grammar both
      | none => exact refused

variable (one : operand.Plays scene cast awake draft)
include one

theorem negated : operand.negated.Drafts draft.negated (Operand.Plays scene cast awake) := by
  cases one with
  | raw value => exact Drafts.map (.ofExcept fun _ _ => rfl) fun _ _ same => same ▸ .raw _
  | @grammar made sketch one =>
    rw [Operand.negated, Draft.negated, ← one.kind]
    cases made.kind with
    | parser => exact (one.ofParser _ _ _ .erased).map fun _ _ made => .grammar made
    | pattern => exact .fail rfl

theorem shifted (transform : Value → Except Fault Value) (functionType : String) :
    (operand.shifted transform functionType).Drafts (draft.shifted transform functionType)
      (Operand.Plays scene cast awake) := by
  have refused : (fail (.unsupportedOperands ">>" operand.typeName functionType) : Action Operand).Drafts
      (.error (.unsupportedOperands ">>" draft.typeName functionType))
      (Operand.Plays scene cast awake) := .fail (by rw [one.typeName])
  cases one with
  | raw value => exact refused
  | @grammar made sketch one =>
    dsimp only [Operand.shifted, Draft.shifted]
    rw [← one.kind]
    cases made.kind with
    | parser => exact (one.ofParser _ _ _ (.map transform)).map fun _ _ made => .grammar made
    | pattern => exact refused

theorem times (count : Value) :
    (operand.times count).Drafts (draft.times count) (Operand.Plays scene cast awake) := by
  have whole : (do return Operand.grammar (← (← operand.asGrammar "count").times count)).Drafts
      (do return Draft.grammar (← (← draft.asGrammar "count").times count))
      (Operand.Plays scene cast awake) :=
    (one.asGrammar _).bind fun _ _ made => (made.times count).bind fun _ _ made => .pure (.grammar made)
  cases one with
  | raw value =>
    cases value with
    | str text => exact Drafts.map (.ofExcept fun _ _ => rfl) fun _ _ same => same ▸ .raw _
    | _ => exact whole
  | grammar made => exact whole

theorem copy : operand.copy.Drafts draft.copy (Operand.Plays scene cast awake) := by
  cases one with
  | raw value =>
    cases value with
    | null => exact .fail rfl
    | _ => exact .pure (.raw _)
  | grammar made => exact Drafts.map made.copy fun _ _ made => .grammar made

end Operand.Plays

end Operands

end TextGrammar
