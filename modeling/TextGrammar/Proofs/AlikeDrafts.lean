import Mathlib.Data.List.Find
import TextGrammar.Proofs.Likeness
import TextGrammar.Proofs.Unrolling

/-! Expressions that are drafted alike. An expression in which a name is replaced by another expression
comes to a grammar that runs as the expression itself does, if the name stands for a grammar that runs
as the other expression. That holds of recursive grammars within it as well, whose definitions are drafted
where they run, and of the grammars that values lead to. -/

namespace TextGrammar

variable {α : Type}

section Faults
variable (cut : Fault → Prop)

/-- Faults that are the same apart from the names of grammars. Some faults of the second computation
say nothing about the first one. -/
def Comparison.unnamed : Comparison Fault where
  cutFirst _ := False
  cutSecond := cut
  same one other := one.unnamed = other.unnamed

/-- Outcomes of what is put together from expressions that are alike. -/
abbrev Same {β : Type} (related : α → β → Prop) (outcome : Except Fault α) (other : Except Fault β) : Prop :=
  (Comparison.unnamed cut).Meets related outcome other

variable {cut}

theorem Same.refl {related : α → α → Prop} (holds : ∀ answer, related answer answer)
    (outcome : Except Fault α) : Same cut related outcome outcome := by
  cases outcome with
  | error fault => exact .failure rfl
  | ok answer => exact .answer (holds answer)

end Faults

/-- How far apart runs may be that are to come to the same. -/
structure Leeway where
  /-- Faults of the second run that say nothing about the first one. -/
  cut : Fault → Prop
  /-- The invocations that are under way. Those of grammars that are made by definitions do not matter. -/
  under : (Key → Nat) → (Key → Nat) → Prop
  inner : ∀ {active counts}, under active counts → ∀ outer index later count,
    under ((Key.within outer index).enter active) ((Key.within later count).enter counts)

/-- Grammars that come to the same, apart from the names of grammars in faults. -/
def Likeness.renaming (way : Leeway) : Likeness where
  terms := .unnamed way.cut
  kinds kind := kind
  matched _ := Eq
  under := way.under
  pattern := rfl
  andThen _ _ := rfl
  span _ := rfl
  stops is := is ▸ Same.refl (fun _ => rfl) _
  absent _ _ := rfl
  collected stop lists := by
    rw [List.forall₂_eq_eq_eq] at lists
    rw [Array.toList_inj.mp lists]
  followedBy is are := is ▸ are ▸ Same.refl (fun _ => rfl) _

section Drafts
variable (way : Leeway) (base : Store) (side : Side) (fuel : Nat)

abbrev Blueprint.Alike (kind : Kind) (one other : Blueprint) : Prop :=
  one.Near base (.renaming way) side fuel kind other

/-- Grammars that run alike. -/
inductive Sketch.Alike : Sketch → Sketch → Prop
  | intro {kind : Kind} {one two : Blueprint} : one.Alike way base side fuel kind two → Alike ⟨kind, one⟩ ⟨kind, two⟩

/-- What expressions stand for that are alike. -/
inductive Draft.Alike : Draft → Draft → Prop
  | raw (value : Value) : Alike (.raw value) (.raw value)
  | grammar {made other : Sketch} : made.Alike way base side fuel other → Alike (.grammar made) (.grammar other)

end Drafts

variable {way : Leeway} {base : Store} {side : Side} {fuel less : Nat} {kind kinds : Kind}

namespace Blueprint.Near
variable {one two whole other : Blueprint}

/-- What only goes on with what another blueprint comes to. -/
theorem onward (near : one.Alike way base side fuel kind two)
    {after : Text → Int → Option Match → Except Halt (Option Match)}
    (steps : ∀ player active stage text start, Player.step base player active stage whole text start =
      player active stage one text start >>= after text start)
    (others : ∀ player active stage text start, Player.step base player active stage other text start =
      player active stage two text start >>= after text start) :
    whole.Alike way base side (fuel + 1) kinds other := by
  refine of_step fun active counts under stage later text start => ?_
  rw [steps, others]
  refine (near active counts under stage later text start).bind fun found founds related => ?_
  obtain rfl : found = founds := by
    cases related with
    | none => rfl
    | some related => rw [show _ = _ from related]
  cases after text start found with
  | error halt =>
    cases halt with
    | fault fault => exact .failure rfl
    | exhausted => exact .failure trivial
  | ok found =>
    refine .answer ?_
    cases found with
    | none => exact .none
    | some found => exact .some rfl

/-- Parsers that go on with the grammars that values lead to. -/
theorem bind {names others : Names} {continuation further : Value → Expression} (near : one.Alike way base side fuel .parser two)
    (continues : ∀ value stage later, Same way.cut (Draft.Alike way base side fuel)
      ((continuation value).drafted base.globals (.stage stage) names)
      ((further value).drafted base.globals (.stage later) others)) :
    Blueprint.Alike way base side (fuel + 1) .parser (.bind names continuation one) (.bind others further two) := by
  refine of_step fun active counts under stage later text start => ?_
  refine (near active counts under stage later text start).bind fun found founds related => ?_
  cases related with
  | none => exact .answer .none
  | @some found _ related =>
    obtain rfl : found = _ := related
    have valued : Same way.cut Eq (found.valueAs "value") (found.valueAs "value") := Same.refl (fun _ => rfl) _
    refine valued.faults.bind fun value _ is => ?_
    subst is
    refine (continues value stage later).faults.bind fun draft drafts alike => ?_
    cases alike with
    | raw value => exact .failure rfl
    | grammar alike =>
      obtain ⟨near⟩ := alike
      exact near active counts under (stage + 1) (later + 1) text found.stop

/-- What passes on to another blueprint, maybe with some more invocations under way. -/
theorem before (near : one.Alike way base side fuel kind other) (enter : (Key → Nat) → Key → Nat)
    (enters : ∀ active counts, way.under active counts → way.under (enter active) counts)
    (passes : ∀ player active stage text start, Player.step base player active stage whole text start =
      player (enter active) stage one text start) :
    whole.Alike way base side fuel kind other := by
  intro active counts under stage later text start
  cases side with
  | first =>
    cases fuel with
    | zero => exact zero _ _ _ active counts under stage later text start
    | succ fuel =>
      rw [Side.firstPlayer_step, passes]
      exact near.earlier fuel.le_succ (enter active) counts (enters _ _ under) stage later text start
  | second =>
    rw [Side.firstPlayer, limit_eq_step, passes]
    exact near (enter active) counts (enters _ _ under) stage later text start

end Blueprint.Near

namespace Sketch.Alike
variable {made other next later : Sketch}

theorem near (alike : made.Alike way base side fuel other) : made.Near base (.renaming way) side fuel made.kind other := by
  obtain ⟨near⟩ := alike
  exact ⟨rfl, rfl, near⟩

theorem of_near (near : made.Near base (.renaming way) side fuel kind other) : made.Alike way base side fuel other := by
  obtain ⟨kind, one⟩ := made
  obtain ⟨_, two⟩ := other
  obtain ⟨rfl, rfl, body⟩ := near
  exact .intro body

theorem earlier (alike : made.Alike way base side fuel other) (least : less ≤ fuel) :
    made.Alike way base side less other := by
  obtain ⟨near⟩ := alike
  exact .intro (near.earlier least)

theorem new {one two : Blueprint} (near : one.Alike way base side (fuel + 1) kind two) :
    Sketch.Alike way base side fuel (.new kind one) (.new kind two) :=
  .of_near (.new (near.earlier fuel.le_succ))

theorem leaf (recognise : Leaf) : Sketch.Alike way base side fuel (.new kind (.leaf recognise)) (.new kind (.leaf recognise)) := by
  refine .new (.leaf fun text start => Same.refl (fun found => ?_) (recognise text start))
  cases found with
  | none => exact .none
  | some found => exact .some rfl

theorem literal (word : String) : Sketch.Alike way base side fuel (.literal word) (.literal word) :=
  .leaf (Leaf.literal word)

theorem choice (one : made.Alike way base side fuel other) (two : next.Alike way base side fuel later)
    (same : made.kind = next.kind) : (made.choice next).Alike way base side fuel (other.choice later) := by
  obtain ⟨one⟩ := one
  obtain ⟨two⟩ := two
  cases same
  exact .new (one.orElse two)

theorem followedByGrammar (one : made.Alike way base side fuel other) (two : next.Alike way base side fuel later) :
    (made.followedByGrammar next).Alike way base side fuel (other.followedByGrammar later) :=
  .of_near (one.near.followedByGrammar two.near)

theorem captured (alike : made.Alike way base side fuel other) : made.captured.Alike way base side fuel other.captured := by
  obtain ⟨near⟩ := alike
  exact .new (near.onward (fun _ _ _ _ _ => rfl) fun _ _ _ _ _ => rfl)

theorem times (alike : made.Alike way base side fuel other) (count : Value) :
    Same way.cut (Sketch.Alike way base side fuel) (made.times count) (other.times count) := by
  obtain ⟨near⟩ := alike
  rw [Sketch.times, Sketch.times]
  cases Sketch.repetitions count with
  | error fault => exact .failure rfl
  | ok repetitions =>
    refine .answer (.new ?_)
    split
    · exact .leaf fun _ _ => .failure rfl
    · exact near.times repetitions

/-- A parser is made from another one, and from nothing else. -/
theorem ofParser (alike : made.Alike way base side fuel other) (member : String) (kind : Kind) {wrap wraps : Blueprint → Blueprint}
    (wrapped : ∀ {one two : Blueprint}, one.Alike way base side fuel .parser two →
      (wrap one).Alike way base side (fuel + 1) kind (wraps two)) :
    Same way.cut (Sketch.Alike way base side fuel) (made.ofParser member kind wrap) (other.ofParser member kind wraps) := by
  obtain @⟨kinds, one, two, near⟩ := alike
  cases kinds with
  | parser => exact .answer (.new (wrapped near))
  | pattern => exact .failure rfl

end Sketch.Alike

namespace Draft.Alike
variable {draft other next later : Draft} {made shell : Sketch}

theorem asGrammar (alike : draft.Alike way base side fuel other) (member : String) :
    Same way.cut (Sketch.Alike way base side fuel) (draft.asGrammar member) (other.asGrammar member) := by
  cases alike with
  | raw value => exact .failure rfl
  | grammar alike => exact .answer alike

/-- Alternatives to grammars of some kind. -/
theorem asAlternative (alike : draft.Alike way base side fuel other) (kind : Kind) :
    Option.Rel (fun made shell => made.kind = kind ∧ made.Alike way base side fuel shell) (draft.asAlternative kind)
      (other.asAlternative kind) := by
  cases alike with
  | raw value =>
    cases value with
    | str word =>
      cases kind with
      | pattern => exact .some ⟨rfl, .literal word⟩
      | parser => exact .none
    | _ => exact .none
  | grammar alike =>
    obtain @⟨kinds, one, two, near⟩ := alike
    by_cases same : kinds = kind
    · simp only [Draft.asAlternative, if_pos same]
      exact .some ⟨same, .intro near⟩
    · simp only [Draft.asAlternative, if_neg same]
      exact .none

theorem notAlternative (alike : draft.Alike way base side fuel other) (kind : Kind) :
    draft.notAlternative kind = other.notAlternative kind := by
  cases alike <;> rfl

theorem typeName (alike : draft.Alike way base side fuel other) : draft.typeName = other.typeName := by
  cases alike with
  | raw value => rfl
  | grammar alike =>
    obtain ⟨near⟩ := alike
    rfl

theorem alternative (alike : draft.Alike way base side fuel other) (kind : Kind) :
    Same way.cut (fun made shell => made.kind = kind ∧ made.Alike way base side fuel shell) (draft.alternative kind)
      (other.alternative kind) := by
  rw [Draft.alternative, Draft.alternative, alike.notAlternative]
  have alternatives := alike.asAlternative kind
  generalize draft.asAlternative kind = first at alternatives ⊢
  generalize other.asAlternative kind = second at alternatives ⊢
  cases alternatives with
  | none => exact .failure rfl
  | some alike => exact .answer alike

theorem asPattern (alike : draft.Alike way base side fuel other) :
    Same way.cut (Sketch.Alike way base side fuel) draft.asPattern other.asPattern := by
  cases alike with
  | raw value =>
    cases value with
    | str word => exact .answer (.literal word)
    | _ => exact .failure rfl
  | grammar alike =>
    obtain @⟨kind, one, two, near⟩ := alike
    cases kind with
    | pattern => exact .answer (.intro near)
    | parser => exact .answer (.new (near.onward (fun _ _ _ _ _ => rfl) fun _ _ _ _ _ => rfl))

theorem definition (alike : draft.Alike way base side fuel other) (title : String) (kind : Kind) :
    Same way.cut (Blueprint.Alike way base side fuel kind) (draft.definition title kind)
      (other.definition title kind) := by
  have alternatives := alike.asAlternative kind
  cases alike with
  | raw value =>
    cases value with
    | str word =>
      cases kind with
      | pattern => exact .answer (Sketch.Near.literal word).body
      | parser => exact .failure rfl
    | _ => exact .failure rfl
  | grammar alike =>
    simp only [Draft.definition]
    generalize Draft.asAlternative kind _ = first at alternatives ⊢
    generalize Draft.asAlternative kind _ = second at alternatives ⊢
    cases alternatives with
    | none => exact .failure rfl
    | some alike =>
      obtain ⟨rfl, ⟨near⟩⟩ := alike
      exact .answer near

theorem followedBy (one : made.Alike way base side fuel shell) (two : draft.Alike way base side fuel other) :
    Same way.cut (Sketch.Alike way base side fuel) (made.followedBy draft) (shell.followedBy other) := by
  cases two with
  | raw value =>
    obtain ⟨near⟩ := one
    cases value with
    | str word => exact .answer (.followedByGrammar (.intro near) (.literal word))
    | _ => exact .failure rfl
  | grammar two => exact .answer (one.followedByGrammar two)

theorem orElse (one : made.Alike way base side fuel shell) (two : draft.Alike way base side fuel other) :
    Same way.cut (Sketch.Alike way base side fuel) (made.orElse draft) (shell.orElse other) := by
  obtain ⟨near⟩ := one
  exact (two.alternative _).bind fun _ _ next => .answer (.choice (.intro near) next.2 next.1.symm)

theorem either {drafts others : List Draft} (alike : List.Forall₂ (Draft.Alike way base side fuel) drafts others) (kind : Kind) :
    Same way.cut (Sketch.Alike way base side fuel) (Sketch.either kind drafts) (Sketch.either kind others) := by
  have parts : Same way.cut (fun mades shells =>
      List.Forall₂ (Blueprint.Alike way base side fuel kind) (mades.map Sketch.body) (shells.map Sketch.body))
      (drafts.mapM (Draft.alternative kind)) (others.mapM (Draft.alternative kind)) := by
    induction alike with
    | nil => exact .answer .nil
    | cons alike _ ih =>
      rw [List.mapM_cons, List.mapM_cons]
      refine (alike.alternative kind).bind fun _ _ one => ih.bind fun _ _ all => ?_
      obtain ⟨rfl, ⟨near⟩⟩ := one
      exact .answer (.cons near all)
  exact parts.bind fun _ _ all => .answer (.new (.either all))

theorem times (alike : draft.Alike way base side fuel other) (count : Value) :
    Same way.cut (Draft.Alike way base side fuel) (draft.times count) (other.times count) := by
  cases alike with
  | raw value =>
    cases value with
    | str text => exact (Same.refl (fun _ => rfl) (Value.count text count)).bind fun value _ is => is ▸ .answer (.raw value)
    | _ => exact .failure rfl
  | grammar alike => exact (alike.times count).bind fun _ _ alike => .answer (.grammar alike)

theorem separatedBy (one : made.Alike way base side fuel shell) (two : draft.Alike way base side fuel other) :
    Same way.cut (Sketch.Alike way base side fuel) (made.separatedBy draft) (shell.separatedBy other) := by
  refine two.asPattern.bind fun pattern others alike => ?_
  have rest := (alike.followedByGrammar one).near.body
  obtain ⟨near⟩ := one
  exact .answer (.new (near.separated rest))

theorem valueFor (alike : draft.Alike way base side fuel other) (value : Value) :
    Same way.cut (Sketch.Alike way base side fuel) (Sketch.valueFor draft value) (Sketch.valueFor other value) :=
  alike.asPattern.bind fun _ _ alike =>
    .answer (.new (alike.near.body.onward (fun _ _ _ _ _ => rfl) fun _ _ _ _ _ => rfl))

theorem returning (alike : made.Alike way base side fuel shell) (value : Value) :
    Same way.cut (Sketch.Alike way base side fuel) (made.returning value) (shell.returning value) := by
  obtain @⟨kind, one, two, near⟩ := alike
  cases kind with
  | pattern => exact valueFor (.grammar (.intro near)) value
  | parser => exact .failure rfl

/-- A grammar as what an expression stands for. -/
theorem grammars {outcome others : Except Fault Sketch} (same : Same way.cut (Sketch.Alike way base side fuel) outcome others) :
    Same way.cut (Draft.Alike way base side fuel) (Draft.grammar <$> outcome) (Draft.grammar <$> others) :=
  same.bind fun _ _ alike => .answer (.grammar alike)

theorem sum (one : draft.Alike way base side fuel other) (two : next.Alike way base side fuel later) :
    Same way.cut (Draft.Alike way base side fuel) (draft.sum next) (other.sum later) := by
  cases one with
  | raw value =>
    cases two with
    | raw further =>
      exact (Same.refl (fun _ => rfl) (value.add further)).bind fun value _ is => is ▸ .answer (.raw value)
    | grammar two =>
      cases value with
      | str word => exact grammars (followedBy (.literal word) (.grammar two))
      | _ =>
        obtain ⟨near⟩ := two
        exact .failure rfl
  | grammar one =>
    cases two with
    | raw further =>
      cases further with
      | str word => exact grammars (followedBy one (.raw (.str word)))
      | _ =>
        obtain ⟨near⟩ := one
        exact .failure rfl
    | grammar two => exact grammars (followedBy one (.grammar two))

theorem union (one : draft.Alike way base side fuel other) (two : next.Alike way base side fuel later) :
    Same way.cut (Draft.Alike way base side fuel) (draft.union next) (other.union later) := by
  cases one with
  | raw value =>
    cases two with
    | raw further =>
      exact (Same.refl (fun _ => rfl) (value.union further)).bind fun value _ is => is ▸ .answer (.raw value)
    | grammar two =>
      obtain @⟨kind, _, _, near⟩ := two
      have alternatives := asAlternative (.raw value : Draft.Alike way base side fuel _ _) kind
      simp only [Draft.union]
      generalize Draft.asAlternative kind (.raw value) = first at alternatives ⊢
      cases first with
      | none => exact .failure rfl
      | some made =>
        obtain ⟨same, alike⟩ := Option.rel_some_some.mp alternatives
        exact .answer (.grammar (alike.choice (.intro near) same))
  | grammar one =>
    have named := two.typeName
    obtain @⟨kind, _, _, near⟩ := one
    have alternatives := two.asAlternative kind
    simp only [Draft.union, named]
    generalize next.asAlternative kind = first at alternatives ⊢
    generalize later.asAlternative kind = second at alternatives ⊢
    cases alternatives with
    | none => exact .failure rfl
    | some alike => exact .answer (.grammar (.choice (.intro near) alike.2 alike.1.symm))

theorem negated (alike : draft.Alike way base side fuel other) :
    Same way.cut (Draft.Alike way base side fuel) draft.negated other.negated := by
  cases alike with
  | raw value => exact (Same.refl (fun _ => rfl) value.negate).bind fun value _ is => is ▸ .answer (.raw value)
  | grammar alike =>
    obtain @⟨kind, one, two, near⟩ := alike
    cases kind with
    | parser => exact .answer (.grammar (.new (near.onward (fun _ _ _ _ _ => rfl) fun _ _ _ _ _ => rfl)))
    | pattern => exact .failure rfl

theorem shifted (alike : draft.Alike way base side fuel other) (transform : Value → Except Fault Value)
    (functionType : String) :
    Same way.cut (Draft.Alike way base side fuel) (draft.shifted transform functionType) (other.shifted transform functionType) := by
  cases alike with
  | raw value => exact .failure rfl
  | grammar alike =>
    obtain @⟨kind, one, two, near⟩ := alike
    cases kind with
    | parser => exact .answer (.grammar (.new (near.onward (fun _ _ _ _ _ => rfl) fun _ _ _ _ _ => rfl)))
    | pattern => exact .failure rfl

theorem copy (alike : draft.Alike way base side fuel other) :
    Same way.cut (Draft.Alike way base side fuel) draft.copy other.copy := by
  cases alike with
  | raw value =>
    cases value with
    | null => exact .failure rfl
    | _ => exact .answer (.raw _)
  | grammar alike =>
    obtain ⟨near⟩ := alike
    exact .answer (.grammar (.of_near (.new near)))

theorem retaining (alike : draft.Alike way base side fuel other) :
    draft.retaining.Alike way base side fuel other.retaining := by
  cases alike with
  | raw value => exact .raw value
  | grammar alike =>
    obtain @⟨kind, one, two, near⟩ := alike
    have passes : Blueprint.Alike way base side (fuel + 1) kind (.retaining one) (.retaining two) :=
      near.onward (fun _ _ _ _ _ => (bind_pure _).symm) fun _ _ _ _ _ => (bind_pure _).symm
    exact .grammar (.intro (passes.earlier fuel.le_succ))

theorem earlier (alike : draft.Alike way base side fuel other) (least : less ≤ fuel) :
    draft.Alike way base side less other := by
  cases alike with
  | raw value => exact .raw value
  | grammar alike => exact .grammar (alike.earlier least)

/-- Recursive grammars are alike if their definitions are drafted alike wherever they are themselves. -/
theorem recursive {binder : String} {outer later : Key} {index count : Nat} {definition further : Expression}
    {names others : Names}
    (drafted : ∀ less < fuel, ∀ target shell, (Blueprint.invoke target).Alike way base side less kind (.invoke shell) →
      Same way.cut (Draft.Alike way base side less)
        (definition.drafted base.globals (.within outer index) ((binder, kind, target) :: names))
        (further.drafted base.globals (.within later count) ((binder, kind, shell) :: others))) :
    Draft.Alike way base side fuel
      (.grammar (.new kind (.invoke (.inner (.within outer index) kind none binder definition names))))
      (.grammar (.new kind (.invoke (.inner (.within later count) kind none binder further others)))) := by
  refine .grammar (.of_near (.new (.recursive (fun less least near => ?_) (fun _ _ => rfl) rfl (fun _ _ _ => .inl rfl)
    fun _ _ under => way.inner under _ _ _ _)))
  exact (drafted less least _ _ near).bind fun _ _ alike => alike.definition _ kind

end Draft.Alike

section Names
variable {name binder : String} {names : Names} {target : Target}

/-- What a name stands for. -/
abbrev Names.meaning (names : Names) (globals : String → Option Draft) (name : String) : Option Draft :=
  (names.draft? name).or (globals name)

variable {globals : String → Option Draft}

theorem Names.meaning_self :
    Names.meaning ((binder, kind, target) :: names) globals binder = some (.grammar (.new kind (.invoke target))) := by
  simp [Names.meaning, Names.draft?, Sketch.new]

theorem Names.lookup_apart (apart : name ≠ binder) :
    List.lookup name ((binder, kind, target) :: names) = names.lookup name := by
  rw [List.lookup_cons, beq_eq_false_iff_ne.mpr apart]

theorem Names.meaning_apart (apart : name ≠ binder) :
    Names.meaning ((binder, kind, target) :: names) globals name = names.meaning globals name := by
  rw [Names.meaning, Names.draft?, Names.lookup_apart apart]
  rfl

/-- What stands for a draft that is captured is the draft. -/
theorem Draft.eq_of_target? {draft : Draft} (is : draft.target? = some (kind, target)) :
    draft = .grammar (.new kind (.invoke target)) := by
  unfold Draft.target? at is
  split at is
  · cases is
    rfl
  · cases is

/-- Names stand for the same where they have been captured. -/
theorem Names.meaning_capturing {taken : List String}
    (known : ∀ name ∈ taken, (names.meaning globals name).isSome) (name : String) :
    (names.capturing taken (taken.filterMap (names.meaning globals))).meaning globals name = names.meaning globals name := by
  induction taken with
  | nil => rfl
  | cons first rest ih =>
    specialize ih fun other member => known other (List.mem_cons_of_mem _ member)
    obtain ⟨draft, is⟩ := Option.isSome_iff_exists.mp (known first List.mem_cons_self)
    rw [List.filterMap_cons_some is]
    cases stands : draft.target? with
    | none => simpa only [Names.capturing, List.zip_cons_cons, List.filterMap_cons, stands, Option.map_none] using ih
    | some entry =>
      obtain ⟨kind, target⟩ := entry
      have more : names.capturing (first :: rest) (draft :: rest.filterMap (names.meaning globals)) =
          (first, kind, target) :: names.capturing rest (rest.filterMap (names.meaning globals)) := by
        simp [Names.capturing, stands]
      rw [more]
      by_cases same : name = first
      · subst same
        rw [meaning_self, is, Draft.eq_of_target? stands]
      · rw [meaning_apart same, ih]

theorem draftOf_eq (globals : String → Option Draft) (names : Names) (name : String) :
    draftOf globals names name = match names.meaning globals name with
      | some draft => Pure.pure draft
      | none => throw (.unboundVariable name) := rfl

/-- What several names stand for, or the first of them that is not known. -/
theorem mapM_draftOf (globals : String → Option Draft) (names : Names) (taken : List String) :
    taken.mapM (draftOf globals names) = match taken.find? fun name => (names.meaning globals name).isNone with
      | some name => throw (.unboundVariable name)
      | none => Pure.pure (taken.filterMap (names.meaning globals)) := by
  induction taken with
  | nil => rfl
  | cons first rest ih =>
    rw [List.mapM_cons, draftOf_eq, ih]
    cases is : names.meaning globals first with
    | none =>
      simp only [List.find?_cons, is, Option.isNone_none]
      rfl
    | some draft =>
      simp only [List.find?_cons, is, Option.isNone_some, List.filterMap_cons_some is, pure_bind]
      cases rest.find? fun name => (names.meaning globals name).isNone <;> rfl

end Names

/-- Drafts of expressions that are alike. -/
abbrev Expression.DraftsAlike (way : Leeway) (base : Store) (side : Side) (fuel : Nat) (plan other : Drafting Draft) : Prop :=
  Drafting.Meets (fun _ _ => True) (.unnamed way.cut) (Draft.Alike way base side fuel) plan other

theorem Expression.draft_variable (globals : String → Option Draft) (key : Key) (names : Names) (name : String) :
    (Expression.variable name).draft globals key names = match names.meaning globals name with
      | some draft => Pure.pure draft
      | none => throw (.unboundVariable name) := by
  rw [Expression.draft, draftOf_eq]

/-- Names that stand for grammars that are alike, but for one of them: what that one stands for is like
what another expression comes to, wherever the other one is put. -/
structure Names.Replaced (way : Leeway) (base : Store) (side : Side) (fuel : Nat) (known : String → Prop) (name : String)
    (substitute : Expression) (names others : Names) : Prop where
  kept : ∀ other, known other → other ≠ name →
    Option.Rel (Draft.Alike way base side fuel) (names.meaning base.globals other) (others.meaning base.globals other)
  replaced : known name → ∃ draft, names.meaning base.globals name = some draft ∧
    (others.meaning base.globals name).isSome ∧
      ∀ key (further : Names), further.meaning base.globals name = others.meaning base.globals name →
        Expression.DraftsAlike way base side fuel (pure draft) (substitute.draft base.globals key further)

namespace Names.Replaced
variable {known : String → Prop} {name binder : String} {substitute : Expression} {names others : Names}
  {target shell : Target}

theorem earlier (replaced : names.Replaced way base side fuel known name substitute others) (least : less ≤ fuel) :
    names.Replaced way base side less known name substitute others where
  kept other granted apart := by
    have alike := replaced.kept other granted apart
    generalize names.meaning base.globals other = first at alike ⊢
    generalize others.meaning base.globals other = second at alike ⊢
    cases alike with
    | none => exact .none
    | some alike => exact .some (alike.earlier least)
  replaced granted := by
    obtain ⟨draft, is, found, drafts⟩ := replaced.replaced granted
    refine ⟨draft, is, found, fun key further same index count related => ?_⟩
    exact (drafts key further same index count related).mono fun _ _ alike => ⟨alike.1.earlier least, trivial⟩

/-- Within the definition of another grammar. -/
theorem within (replaced : names.Replaced way base side fuel known name substitute others) (apart : name ≠ binder)
    (near : (Blueprint.invoke target).Alike way base side fuel kind (.invoke shell)) :
    Names.Replaced way base side fuel (fun other => other = binder ∨ known other) name substitute
      ((binder, kind, target) :: names) ((binder, kind, shell) :: others) where
  kept other granted distinct := by
    by_cases same : other = binder
    · subst same
      rw [meaning_self, meaning_self]
      exact .some (.grammar (.of_near (.new near)))
    · rw [meaning_apart same, meaning_apart same]
      exact replaced.kept other (granted.resolve_left same) distinct
  replaced granted := by
    rw [meaning_apart apart, meaning_apart apart]
    exact replaced.replaced (granted.resolve_left apart)

/-- Within the definition of a grammar that takes the name for itself. -/
theorem shadowed (replaced : names.Replaced way base side fuel known name substitute others)
    (near : (Blueprint.invoke target).Alike way base side fuel kind (.invoke shell)) :
    Names.Replaced way base side fuel (fun other => other = name ∨ known other) name (.variable name)
      ((name, kind, target) :: names) ((name, kind, shell) :: others) where
  kept other granted distinct := by
    rw [meaning_apart distinct, meaning_apart distinct]
    exact replaced.kept other (granted.resolve_left distinct) distinct
  replaced _ := by
    refine ⟨_, meaning_self, by rw [meaning_self]; rfl, fun key further same => ?_⟩
    rw [Expression.draft_variable, same, meaning_self]
    exact .pure (.grammar (.of_near (.new near)))

/-- Where names have been captured. -/
theorem congr (replaced : names.Replaced way base side fuel known name substitute others) {taken more : Names}
    (first : ∀ other, taken.meaning base.globals other = names.meaning base.globals other)
    (second : ∀ other, more.meaning base.globals other = others.meaning base.globals other) :
    taken.Replaced way base side fuel known name substitute more where
  kept other granted apart := by
    rw [first, second]
    exact replaced.kept other granted apart
  replaced granted := by
    rw [first, second]
    exact replaced.replaced granted

/-- What is known on one side is known on the other one. -/
theorem isNone_meaning (replaced : names.Replaced way base side fuel known name substitute others) {other : String}
    (granted : known other) :
    (names.meaning base.globals other).isNone = (others.meaning base.globals other).isNone := by
  by_cases same : other = name
  · subst same
    obtain ⟨draft, is, found, -⟩ := replaced.replaced granted
    simp [is, Option.isNone_eq_false_iff.mpr found]
  · have alike := replaced.kept other granted same
    generalize names.meaning base.globals other = first at alike ⊢
    generalize others.meaning base.globals other = second at alike ⊢
    cases alike <;> rfl

/-- What some names stand for, on both sides, unless one of them is not known. -/
theorem taken (replaced : names.Replaced way base side fuel known name substitute others) {taken : List String}
    (granted : ∀ other ∈ taken, known other) :
    Drafting.Meets (fun _ _ => True) (.unnamed way.cut) (fun drafts further =>
        drafts = taken.filterMap (names.meaning base.globals) ∧ further = taken.filterMap (others.meaning base.globals) ∧
          (∀ other ∈ taken, (names.meaning base.globals other).isSome) ∧
            ∀ other ∈ taken, (others.meaning base.globals other).isSome)
      (taken.mapM (draftOf base.globals names)) (taken.mapM (draftOf base.globals others)) := by
  have same other (member : other ∈ taken) := replaced.isNone_meaning (granted other member)
  rw [mapM_draftOf, mapM_draftOf, ← List.find?_congr same]
  cases missing : taken.find? fun name => (names.meaning base.globals name).isNone with
  | some name => exact fun _ _ _ => .failure rfl
  | none =>
    have here other (member : other ∈ taken) : (names.meaning base.globals other).isNone = false :=
      Bool.eq_false_iff.mpr (List.find?_eq_none.mp missing other member)
    exact .pure ⟨rfl, rfl, fun other member => Option.isNone_eq_false_iff.mp (here other member),
      fun other member => Option.isNone_eq_false_iff.mp ((same other member).symm.trans (here other member))⟩

end Names.Replaced

namespace Expression

theorem draft_unlimited {globals : String → Option Draft} {key : Key} {names : Names} {binder : String}
    {script : Nat → Script} {definition : Expression} (is : (script 0).definition? = some definition) (index : Nat) :
    ((Expression.recursive kind binder none script).draft globals key names).run index =
      .ok (.grammar (.new kind (.invoke (.inner (.within key index) kind none binder definition names))), index + 1) := by
  rw [draft, is]
  rfl

mutual

/-- An expression is drafted like the expression in which a name is replaced. -/
theorem drafts_replaced {fuel : Nat} {known : String → Prop} {name : String} {substitute : Expression} {names others : Names}
    (replaced : names.Replaced way base side fuel known name substitute others) (expression : Expression)
    (plain : expression.Plain known) (unlimited : expression.Unlimited) (key later : Key) :
    DraftsAlike way base side fuel (expression.draft base.globals key names)
      ((expression.replace name substitute).draft base.globals later others) := by
  cases expression with
  | raw value => exact .pure (.raw value)
  | invalid fault => exact fun _ _ _ => .failure rfl
  | leaf kind title recognise => exact .pure (.grammar (.leaf _))
  | constant shared => exact .pure (.grammar (.leaf _))
  | «variable» other =>
    rw [replace]
    by_cases same : other = name
    · subst same
      obtain ⟨draft, is, -, drafts⟩ := replaced.replaced plain
      rw [if_pos rfl, draft_variable, is]
      exact drafts later others rfl
    · have alike := replaced.kept other plain same
      rw [if_neg same, draft_variable, draft_variable]
      generalize names.meaning base.globals other = first at alike ⊢
      generalize others.meaning base.globals other = second at alike ⊢
      cases alike with
      | none => exact fun _ _ _ => .failure rfl
      | some alike => exact .pure alike
  | followedBy first second =>
    refine (drafts_replaced replaced first plain.1 unlimited.1 key later).bind fun _ _ one => ?_
    refine (drafts_replaced replaced second plain.2 unlimited.2 key later).bind fun _ _ two => ?_
    exact .bind (.lift (one.asGrammar _)) fun _ _ one => .bind (.lift (Draft.Alike.followedBy one two)) fun _ _ alike =>
      .pure (.grammar alike)
  | sum first second =>
    exact (drafts_replaced replaced first plain.1 unlimited.1 key later).bind fun _ _ one =>
      (drafts_replaced replaced second plain.2 unlimited.2 key later).bind fun _ _ two => .lift (one.sum two)
  | orElse first second =>
    refine (drafts_replaced replaced first plain.1 unlimited.1 key later).bind fun _ _ one => ?_
    refine (drafts_replaced replaced second plain.2 unlimited.2 key later).bind fun _ _ two => ?_
    exact .bind (.lift (one.asGrammar _)) fun _ _ one => .bind (.lift (Draft.Alike.orElse one two)) fun _ _ alike =>
      .pure (.grammar alike)
  | union first second =>
    exact (drafts_replaced replaced first plain.1 unlimited.1 key later).bind fun _ _ one =>
      (drafts_replaced replaced second plain.2 unlimited.2 key later).bind fun _ _ two => .lift (one.union two)
  | separatedBy first second =>
    refine (drafts_replaced replaced first plain.1 unlimited.1 key later).bind fun _ _ one => ?_
    refine (drafts_replaced replaced second plain.2 unlimited.2 key later).bind fun _ _ two => ?_
    exact .bind (.lift (one.asGrammar _)) fun _ _ one => .bind (.lift (Draft.Alike.separatedBy one two)) fun _ _ alike =>
      .pure (.grammar alike)
  | either kind alternatives =>
    exact (draftAll_replaced replaced alternatives plain unlimited key later).bind fun _ _ all =>
      .bind (.lift (Draft.Alike.either all kind)) fun _ _ alike => .pure (.grammar alike)
  | optional operand =>
    refine (drafts_replaced replaced operand plain unlimited key later).bind fun _ _ one => ?_
    exact .bind (.lift (one.asGrammar _)) fun _ _ one => .pure (.grammar (.of_near (one.near.around .optional)))
  | many operand =>
    refine (drafts_replaced replaced operand plain unlimited key later).bind fun _ _ one => ?_
    exact .bind (.lift (one.asGrammar _)) fun _ _ one => .pure (.grammar (.of_near (one.near.around .many)))
  | oneOrMore operand =>
    refine (drafts_replaced replaced operand plain unlimited key later).bind fun _ _ one => ?_
    exact .bind (.lift (one.asGrammar _)) fun _ _ one => .pure (.grammar (.of_near (one.near.around .oneOrMore)))
  | times operand count =>
    exact (drafts_replaced replaced operand plain unlimited key later).bind fun _ _ one => .lift (one.times count)
  | captured operand =>
    refine (drafts_replaced replaced operand plain unlimited key later).bind fun _ _ one => ?_
    exact .bind (.lift (one.asGrammar _)) fun _ _ one => .pure (.grammar one.captured)
  | capturedPattern operand =>
    refine (drafts_replaced replaced operand plain unlimited key later).bind fun _ _ one => ?_
    exact .bind (.lift one.asPattern) fun _ _ one => .pure (.grammar one.captured)
  | returning operand value =>
    refine (drafts_replaced replaced operand plain unlimited key later).bind fun _ _ one => ?_
    exact .bind (.lift (one.asGrammar _)) fun _ _ one => .bind (.lift (Draft.Alike.returning one value)) fun _ _ alike =>
      .pure (.grammar alike)
  | valueFor operand value =>
    refine (drafts_replaced replaced operand plain unlimited key later).bind fun _ _ one => ?_
    exact .bind (.lift (one.valueFor value)) fun _ _ alike => .pure (.grammar alike)
  | erased operand =>
    refine (drafts_replaced replaced operand plain unlimited key later).bind fun _ _ one => ?_
    refine .bind (.lift (one.asGrammar _)) fun _ _ one => .bind (.lift ?_) fun _ _ alike => .pure (.grammar alike)
    exact one.ofParser _ _ fun near => near.onward (fun _ _ _ _ _ => rfl) fun _ _ _ _ _ => rfl
  | negated operand =>
    exact (drafts_replaced replaced operand plain unlimited key later).bind fun _ _ one => .lift one.negated
  | map operand transform =>
    refine (drafts_replaced replaced operand plain unlimited key later).bind fun _ _ one => ?_
    refine .bind (.lift (one.asGrammar _)) fun _ _ one => .bind (.lift ?_) fun _ _ alike => .pure (.grammar alike)
    exact one.ofParser _ _ fun near => near.onward (fun _ _ _ _ _ => rfl) fun _ _ _ _ _ => rfl
  | shifted operand transform functionType =>
    exact (drafts_replaced replaced operand plain unlimited key later).bind fun _ _ one =>
      .lift (one.shifted transform functionType)
  | filter operand accept =>
    refine (drafts_replaced replaced operand plain unlimited key later).bind fun _ _ one => ?_
    refine .bind (.lift (one.asGrammar _)) fun _ _ one => .bind (.lift ?_) fun _ _ alike => .pure (.grammar alike)
    exact one.ofParser _ _ fun near => near.onward (fun _ _ _ _ _ => rfl) fun _ _ _ _ _ => rfl
  | bind operand continuation =>
    refine (drafts_replaced replaced operand plain.1 unlimited.1 key later).bind fun _ _ one => ?_
    refine .bind (.lift (one.asGrammar _)) fun _ _ one => .bind (.lift ?_) fun _ _ alike => .pure (.grammar alike)
    refine one.ofParser _ _ fun near => near.bind fun value stage more => ?_
    exact (drafts_replaced replaced (continuation value) (plain.2 value) (unlimited.2 value) (.stage stage) (.stage more)).drafted trivial
  | named operand title =>
    refine (drafts_replaced replaced operand plain unlimited key later).bind fun _ _ one => ?_
    exact .bind (.lift (one.asGrammar _)) fun _ _ one => .pure (.grammar one)
  | copy operand =>
    exact (drafts_replaced replaced operand plain unlimited key later).bind fun _ _ one => .lift one.copy
  | capturing taken body =>
    rw [replace, draft, draft]
    refine (replaced.taken plain.1).bind ?_
    rintro _ _ ⟨rfl, rfl, here, there⟩
    exact drafts_replaced (replaced.congr (Names.meaning_capturing here) (Names.meaning_capturing there)) body
      plain.2 unlimited key later
  | retaining taken body =>
    rw [replace, draft, draft]
    exact (replaced.taken plain.1).bind fun _ _ _ =>
      (drafts_replaced replaced body plain.2 unlimited key later).bind fun _ _ one => .pure one.retaining
  | recursive kind binder limit script =>
    obtain ⟨rfl, unlimited⟩ := unlimited
    obtain ⟨definition, is, own⟩ := Script.Plain.definition _ (plain.2 0)
    intro index count _
    rw [replace]
    by_cases same : binder = name
    · subst same
      rw [if_pos rfl, draft_unlimited is, draft_unlimited is]
      refine .answer ⟨.recursive fun less least target shell near => ?_, trivial⟩
      have drafts := Script.drafts_replaced (replaced.earlier (Nat.le_of_lt least) |>.shadowed near) (script 0) (plain.2 0)
        (unlimited 0) is (.within key index) (.within later count)
      rw [replace_self] at drafts
      exact drafts.drafted trivial
    · have others : ((script 0).replace name substitute).definition? = some (definition.replace name substitute) := by
        rw [Script.definition?_replace, is]
        rfl
      rw [if_neg same, draft_unlimited is, draft_unlimited others]
      refine .answer ⟨.recursive fun less least target shell near => ?_, trivial⟩
      exact (Script.drafts_replaced (replaced.earlier (Nat.le_of_lt least) |>.within (Ne.symm same) near) (script 0) (plain.2 0)
        (unlimited 0) is (.within key index) (.within later count)).drafted trivial
termination_by structural expression

/-- So is what a builder answers with. -/
theorem Script.drafts_replaced {fuel : Nat} {known : String → Prop} {name : String} {substitute : Expression} {names others : Names}
    (replaced : names.Replaced way base side fuel known name substitute others) (script : Script)
    (plain : script.Plain known) (unlimited : script.Unlimited) {definition : Expression}
    (is : script.definition? = some definition) (key later : Key) :
    DraftsAlike way base side fuel (definition.draft base.globals key names)
      ((definition.replace name substitute).draft base.globals later others) := by
  cases script with
  | finish answer =>
    obtain rfl : answer = definition := Option.some.inj is
    exact drafts_replaced replaced answer plain unlimited key later
  | tally label rest => exact Script.drafts_replaced replaced rest plain unlimited is key later
  | leak => exact plain.elim
  | attempt => exact plain.elim
termination_by structural script

theorem draftAll_replaced {fuel : Nat} {known : String → Prop} {name : String} {substitute : Expression} {names others : Names}
    (replaced : names.Replaced way base side fuel known name substitute others) (expressions : List Expression)
    (plain : AllPlain known expressions) (unlimited : AllUnlimited expressions) (key later : Key) :
    Drafting.Meets (fun _ _ => True) (.unnamed way.cut) (List.Forall₂ (Draft.Alike way base side fuel))
      (draftAll base.globals key names expressions)
      (draftAll base.globals later others (replaceAll expressions name substitute)) := by
  cases expressions with
  | nil => exact .pure .nil
  | cons first rest =>
    exact (drafts_replaced replaced first plain.1 unlimited.1 key later).bind fun _ _ alike =>
      (draftAll_replaced replaced rest plain.2 unlimited.2 key later).bind fun _ _ all => .pure (.cons alike all)
termination_by structural expressions

end

end Expression

end TextGrammar
