import TextGrammar.Proofs.Erasure
import TextGrammar.Proofs.PatternExtents
import TextGrammar.Sample.Number

/-! What a parser finds and what its erasure does. Both are drafted side by side, step by step, and
come to blueprints that run alike: where a parser yields a value, its erasure stops. -/

namespace TextGrammar

namespace Match.Erases
variable {kind other : Kind} {one two next later : Match}

theorem stop (erases : one.Erases kind two) : one.stop = two.stop := by
  cases erases <;> rfl

theorem span_stop (erases : one.Erases kind two) : two = .span one.stop := by
  cases erases <;> rfl

theorem stopAs (erases : one.Erases kind two) : one.stopAs kind = .ok two.stop := by
  cases erases <;> rfl

theorem followedBy (erases : one.Erases kind two) (then_ : next.Erases other later) :
    ∃ both, one.followedBy kind other next = .ok both ∧ both.Erases (kind.andThen other) later := by
  cases erases with
  | pattern => exact ⟨next, rfl, then_⟩
  | parser value =>
    cases then_ with
    | pattern stop => exact ⟨.yielding value stop, rfl, .parser _ _⟩
    | parser further stop => exact ⟨_, rfl, .parser _ _⟩

end Match.Erases

/-- Parsers and their erasures, whose faults are of the same classes. Faults of some classes are such
as only functions of values may give up with. -/
def Likeness.erasure (raised : FaultClass → Prop) : Likeness where
  terms := ⟨fun fault => raised fault.class, fun _ => False, fun one other => one.class = other.class⟩
  kinds _ := .pattern
  matched := Match.Erases
  under := Eq
  pattern := rfl
  andThen _ _ := rfl
  span := .pattern
  stops erases := by
    rw [erases.stopAs]
    exact .answer rfl
  absent kind start := by
    cases kind with
    | pattern => exact .pattern start
    | parser => exact .parser .null start
  collected {kind} _ _ stop _ := by
    cases kind with
    | pattern => exact .pattern stop
    | parser => exact .parser _ stop
  followedBy erases then_ := by
    obtain ⟨both, is, erases⟩ := erases.followedBy then_
    rw [is]
    exact .answer erases

section Leaves
variable {raised : FaultClass → Prop} {recognise : Leaf}

namespace Leaf.IsOf

theorem total (stop? : Text → Int → Option Int) : (Leaf.total stop?).IsOf .pattern := by
  intro text start found matched
  simp only [Leaf.total, Except.ok.injEq, Option.map_eq_some_iff] at matched
  obtain ⟨stop, -, rfl⟩ := matched
  simp [Match.span]

theorem charactersIn (member : Char → Bool) : (Leaf.charactersIn member).IsOf .pattern := by
  intro text start found matched
  obtain ⟨stop, -, matched⟩ := ok_of_bind matched
  split at matched
  · cases matched
  · cases matched
    simp [Match.span]

theorem constant (shared : Constant) : shared.recognise.IsOf .pattern := by
  cases shared with
  | finished => exact total _
  | nothing => exact total _
  | failure => exact total _
  | digits => exact charactersIn _
  | whitespace => exact charactersIn _
  | letters => exact charactersIn _

/-- A leaf of some kind and the pattern with the same ends. -/
theorem ends {kind : Kind} (known : recognise.IsOf kind) (text : Text) (start : Int) :
    (Likeness.erasure raised).terms.Meets (Option.Rel (Match.Erases kind)) (recognise text start)
      (recognise.ends text start) := by
  rw [Leaf.ends]
  rcases result : recognise text start with fault | ⟨_ | found⟩
  · exact .failure rfl
  · exact .answer .none
  · obtain ⟨value, stop⟩ := found
    have valued := known text start _ result
    refine .answer (.some ?_)
    cases kind with
    | pattern =>
      cases value with
      | none => exact .pattern stop
      | some value => cases valued.mp rfl
    | parser =>
      cases value with
      | none => cases valued.mpr rfl
      | some value => exact .parser value stop

/-- A pattern is its own erasure. -/
theorem self (known : recognise.IsOf .pattern) (text : Text) (start : Int) :
    (Likeness.erasure raised).terms.Meets (Option.Rel (Match.Erases .pattern)) (recognise text start)
      (recognise text start) := by
  rcases result : recognise text start with fault | ⟨_ | ⟨_ | value, stop⟩⟩
  · exact .failure rfl
  · exact .answer .none
  · exact .answer (.some (.pattern stop))
  · cases (known text start _ result).mp rfl

end Leaf.IsOf

end Leaves

namespace Blueprint.Near
variable {raised : FaultClass → Prop} {base : Store} {side : Side} {fuel : Nat} {kind kinds : Kind}
  {one two : Blueprint}

/-- What only changes the values that another blueprint yields, or raises what functions may, runs like
the erasure of that one. -/
theorem dressed {whole : Blueprint} (near : Near base (.erasure raised) side fuel kind one two)
    {after : Text → Int → Option Match → Except Halt (Option Match)}
    (steps : ∀ player active stage text start, Player.step base player active stage whole text start =
      player active stage one text start >>= after text start)
    (none : ∀ text start, after text start none = .ok none)
    (dresses : ∀ text start found later, found.Erases kind later →
      ((Likeness.erasure raised).terms.runs (side = .first) (side = .second)).Meets
        (Option.Rel (Match.Erases kinds)) (after text start (some found)) (.ok (some later))) :
    Near base (.erasure raised) side fuel kinds whole two := by
  have onward {text start} {outcome other : Except Halt (Option Match)}
      (meets : ((Likeness.erasure raised).terms.runs (side = .first) (side = .second)).Meets
        (Option.Rel (Match.Erases kind)) outcome other) :
      ((Likeness.erasure raised).terms.runs (side = .first) (side = .second)).Meets
        (Option.Rel (Match.Erases kinds)) (outcome >>= after text start) other := by
    refine meets.bindFirst fun found founds related => ?_
    cases related with
    | none =>
      rw [none]
      exact .answer .none
    | some related => exact dresses text start _ _ related
  intro active counts under stage later text start
  cases side with
  | first =>
    cases fuel with
    | zero => exact .cutFirst rfl
    | succ fuel =>
      rw [Side.firstPlayer_step, steps]
      exact onward (near.earlier fuel.le_succ active counts under stage later text start)
  | second =>
    rw [Side.firstPlayer, Blueprint.limit_eq_step, steps]
    exact onward (near active counts under stage later text start)

theorem inside (near : Near base (.erasure raised) side fuel kind one two) :
    Near base (.erasure raised) side fuel kind (.object one) two :=
  near.dressed (fun _ _ _ _ _ => (bind_pure _).symm) (fun _ _ => rfl) fun _ _ _ _ erases =>
    .answer (.some erases)

theorem captured (near : Near base (.erasure raised) side fuel kind one two) :
    Near base (.erasure raised) side fuel .parser (.captured kind one) two := by
  refine near.dressed (fun _ _ _ _ _ => rfl) (fun _ _ => rfl) fun text start found later erases => ?_
  simp only [erases.stopAs, Except.mapError]
  refine .answer (.some ?_)
  rw [erases.span_stop]
  exact .parser _ found.stop

theorem valued (value : Value) (near : Near base (.erasure raised) side fuel .pattern one two) :
    Near base (.erasure raised) side fuel .parser (.valued value one) two := by
  refine near.dressed (fun _ _ _ _ _ => rfl) (fun _ _ => rfl) fun _ _ _ _ erases => ?_
  obtain ⟨stop⟩ := erases
  exact .answer (.some (.parser value stop))

theorem erased (near : Near base (.erasure raised) side fuel .parser one two) :
    Near base (.erasure raised) side fuel .pattern (.erased one) two := by
  refine near.dressed (fun _ _ _ _ _ => rfl) (fun _ _ => rfl) fun _ _ _ _ erases => ?_
  obtain _ | ⟨value, stop⟩ := erases
  exact .answer (.some (.pattern stop))

theorem map {transform : Value → Except Fault Value}
    (raises : ∀ value fault, transform value = .error fault → raised fault.class)
    (near : Near base (.erasure raised) side fuel .parser one two) :
    Near base (.erasure raised) side fuel .parser (.map transform one) two := by
  refine near.dressed (fun _ _ _ _ _ => rfl) (fun _ _ => rfl) fun _ _ _ _ erases => ?_
  obtain _ | ⟨value, stop⟩ := erases
  change Comparison.Meets _ _ ((transform value).mapError Halt.fault >>= _) _
  cases result : transform value with
  | error fault => exact .cutFirst (raises value fault result)
  | ok answer => exact .answer (.some (.parser answer stop))

end Blueprint.Near

section Drafts
variable (raised : FaultClass → Prop) (base : Store) (side : Side) (fuel : Nat)

/-- A grammar of some kind and its erasure. -/
abbrev Sketch.Erases (kind : Kind) (made shell : Sketch) : Prop :=
  made.Near base (.erasure raised) side fuel kind shell

/-- What an expression stands for, and what its erasure does. -/
inductive Draft.Erases : Role → Draft → Draft → Prop
  | word (word : String) : Erases .word (.raw (.str word)) (.raw (.str word))
  | grammar {kind : Kind} {made shell : Sketch} : made.Erases raised base side fuel kind shell →
      Erases (.grammar kind) (.grammar made) (.grammar shell)

/-- The recursive grammars that an expression may name, and those that its erasure may. -/
def Names.Erase (kinds : Kinds) (names shells : Names) : Prop :=
  ∀ ⦃name kind⦄, kinds.lookup name = some kind → ∃ target shell,
    names.lookup name = some (kind, target) ∧ shells.lookup name = some (.pattern, shell) ∧
      (Blueprint.invoke target).Near base (.erasure raised) side fuel kind (.invoke shell)

end Drafts

section Operations
variable {raised : FaultClass → Prop} {base : Store} {side : Side} {fuel : Nat} {kind : Kind} {role : Role}
  {made shell : Sketch} {draft other : Draft}

def Draft.IsRaw : Draft → Prop
  | .raw _ => True
  | .grammar _ => False

/-- The union of two alternatives of some kind, not both of them texts. -/
theorem Draft.union_alternatives {first second : Draft} {one two : Sketch}
    (is : first.asAlternative kind = some one) (are : second.asAlternative kind = some two)
    (grammar : ¬(first.IsRaw ∧ second.IsRaw)) : first.union second = .ok (.grammar (one.choice two)) := by
  have kinds {made found : Sketch} (known : (Draft.grammar made).asAlternative kind = some found) :
      made.kind = kind ∧ found = made := by
    rw [asAlternative] at known
    split at known
    next same => exact ⟨same, (Option.some.inj known).symm⟩
    next => cases known
  cases first with
  | grammar made =>
    obtain ⟨rfl, rfl⟩ := kinds is
    simp only [Draft.union, are]
  | raw value =>
    cases second with
    | raw other => exact absurd ⟨trivial, trivial⟩ grammar
    | grammar made =>
      obtain ⟨rfl, rfl⟩ := kinds are
      simp only [Draft.union, is]

/-- Outcomes of what is put together from an expression and from its erasure. -/
abbrev Erased (raised : FaultClass → Prop) {α : Type} (related : α → α → Prop) (outcome other : Except Fault α) : Prop :=
  (Likeness.erasure raised).terms.Meets related outcome other

namespace Draft.Erases

theorem bodies (erases : draft.Erases raised base side fuel (.grammar kind) other) : ∃ body shell,
    draft = .grammar ⟨kind, body⟩ ∧ other = .grammar ⟨.pattern, shell⟩ ∧
      body.Near base (.erasure raised) side fuel kind shell := by
  cases erases with
  | @grammar _ made shell erases =>
    obtain ⟨kinds, body⟩ := made
    obtain ⟨shells, other⟩ := shell
    obtain ⟨rfl, rfl, near⟩ := erases
    exact ⟨body, other, rfl, rfl, near⟩

theorem asGrammar (erases : draft.Erases raised base side fuel (.grammar kind) other) (member : String) :
    Erased raised (Sketch.Erases raised base side fuel kind) (draft.asGrammar member) (other.asGrammar member) := by
  cases erases with
  | grammar erases => exact .answer erases

/-- A text and a pattern are alternatives to patterns, and a parser to parsers. -/
theorem asAlternative (erases : draft.Erases raised base side fuel role other) :
    ∃ made shell, draft.asAlternative role.kind = some made ∧ other.asAlternative .pattern = some shell ∧
      made.Erases raised base side fuel role.kind shell := by
  cases erases with
  | word word => exact ⟨_, _, rfl, rfl, .literal word⟩
  | grammar erases => exact ⟨_, _, if_pos erases.is, if_pos erases.kinds, erases⟩

theorem alternative (erases : draft.Erases raised base side fuel role other) :
    Erased raised (Sketch.Erases raised base side fuel role.kind) (draft.alternative role.kind) (other.alternative .pattern) := by
  obtain ⟨made, shell, is, same, erases⟩ := erases.asAlternative
  rw [Draft.alternative, Draft.alternative, is, same]
  exact .answer erases

theorem definition (erases : draft.Erases raised base side fuel role other) (title titles : String) :
    Erased raised (Blueprint.Near base (.erasure raised) side fuel role.kind) (draft.definition title role.kind)
      (other.definition titles .pattern) := by
  obtain ⟨made, shell, is, same, erases⟩ := erases.asAlternative
  simp only [Draft.definition, is, same]
  exact .answer erases.body

theorem asPattern (erases : draft.Erases raised base side fuel role other) :
    Erased raised (Sketch.Erases raised base side fuel .pattern) draft.asPattern other.asPattern := by
  cases erases with
  | word word => exact .answer (.literal word)
  | @grammar kind made shell erases =>
    obtain ⟨body, other, is, rest, near⟩ := bodies (.grammar erases)
    cases is
    cases rest
    cases kind with
    | pattern => exact .answer ⟨rfl, rfl, near⟩
    | parser => exact .answer ⟨rfl, rfl, near.erased.inside⟩

theorem sum {second : Role} {next later : Draft} (one : draft.Erases raised base side fuel role other)
    (two : next.Erases raised base side fuel second later) (some : ¬(role = .word ∧ second = .word)) :
    Erased raised (Draft.Erases raised base side fuel (.grammar (role.kind.andThen second.kind))) (draft.sum next)
      (other.sum later) := by
  cases one with
  | word word =>
    cases two with
    | word => exact absurd ⟨rfl, rfl⟩ some
    | grammar two => exact .answer (.grammar (Sketch.Near.followedByGrammar (.literal word) two))
  | grammar one =>
    cases two with
    | word word => exact .answer (.grammar (one.followedByGrammar (.literal word)))
    | grammar two => exact .answer (.grammar (one.followedByGrammar two))

theorem union {second : Role} {next later : Draft} (one : draft.Erases raised base side fuel role other)
    (two : next.Erases raised base side fuel second later) (some : ¬(role = .word ∧ second = .word))
    (same : role.kind = second.kind) :
    Erased raised (Draft.Erases raised base side fuel (.grammar role.kind)) (draft.union next) (other.union later) := by
  obtain ⟨before, shell, is, others, near⟩ := one.asAlternative
  obtain ⟨after, last, are, rest, further⟩ := two.asAlternative
  rw [← same] at are further
  have grammar : ¬(draft.IsRaw ∧ next.IsRaw) ∧ ¬(other.IsRaw ∧ later.IsRaw) := by
    cases one <;> cases two <;> simp_all [Draft.IsRaw]
  rw [union_alternatives is are grammar.1, union_alternatives others rest grammar.2]
  exact .answer (.grammar (near.choice further))

end Draft.Erases

namespace Sketch.Erases

theorem followedBy (one : made.Erases raised base side fuel kind shell) (two : draft.Erases raised base side fuel role other) :
    Erased raised (Sketch.Erases raised base side fuel (kind.andThen role.kind)) (made.followedBy draft) (shell.followedBy other) := by
  cases two with
  | word word => exact .answer (one.followedByGrammar (.literal word))
  | grammar two => exact .answer (one.followedByGrammar two)

theorem orElse (one : made.Erases raised base side fuel role.kind shell) (two : draft.Erases raised base side fuel role other) :
    Erased raised (Sketch.Erases raised base side fuel role.kind) (made.orElse draft) (shell.orElse other) := by
  rw [Sketch.orElse, Sketch.orElse, one.is, one.kinds]
  exact two.alternative.bind fun _ _ two => .answer (one.choice two)

/-- Alternatives of one kind. -/
theorem either {drafts others : List Draft}
    (all : List.Forall₂ (fun draft other => ∃ role : Role, role.kind = kind ∧
      draft.Erases raised base side fuel role other) drafts others) :
    Erased raised (Sketch.Erases raised base side fuel kind) (Sketch.either kind drafts) (Sketch.either .pattern others) := by
  have parts : Erased raised (fun mades shells =>
      List.Forall₂ (Blueprint.Near base (.erasure raised) side fuel kind) (mades.map Sketch.body) (shells.map Sketch.body))
      (drafts.mapM (Draft.alternative kind)) (others.mapM (Draft.alternative .pattern)) := by
    induction all with
    | nil => exact .answer .nil
    | cons erases _ ih =>
      obtain ⟨role, rfl, erases⟩ := erases
      rw [List.mapM_cons, List.mapM_cons]
      exact erases.alternative.bind fun _ _ near => ih.bind fun _ _ all => .answer (.cons near.body all)
  exact parts.bind fun _ _ all => .answer (.new ((Blueprint.Near.either all).earlier fuel.le_succ))

theorem times (one : made.Erases raised base side fuel kind shell) (count : Value) :
    Erased raised (Sketch.Erases raised base side fuel kind) (made.times count) (shell.times count) := by
  rw [Sketch.times, Sketch.times, one.is, show shell.kind = .pattern from one.kinds]
  cases Sketch.repetitions count with
  | error fault => exact .failure rfl
  | ok repetitions =>
    refine .answer ?_
    split
    · exact .leaf fun _ _ => .failure rfl
    · exact .new ((one.body.times repetitions).earlier fuel.le_succ)

theorem separatedBy (one : made.Erases raised base side fuel kind shell) (two : draft.Erases raised base side fuel role other) :
    Erased raised (Sketch.Erases raised base side fuel kind) (made.separatedBy draft) (shell.separatedBy other) := by
  rw [Sketch.separatedBy, Sketch.separatedBy, one.is, one.kinds]
  refine two.asPattern.bind fun pattern others near => ?_
  have rest : (pattern.followedByGrammar made).Near base (.erasure raised) side fuel kind (others.followedByGrammar shell) :=
    near.followedByGrammar one
  exact .answer (.new ((one.body.separated rest.body).earlier fuel.le_succ))

end Sketch.Erases

theorem Sketch.Erases.captured (one : made.Erases raised base side fuel kind shell) :
    made.captured.Erases raised base side fuel .parser shell := by
  refine ⟨rfl, one.kinds, ?_⟩
  rw [Sketch.captured, one.is]
  exact one.body.captured.inside

end Operations

section Expressions
variable {raised : FaultClass → Prop} {base : Store} {side : Side}

namespace Names.Erase
variable {fuel less : Nat} {kinds : Kinds} {names shells : Names}

theorem earlier (known : names.Erase raised base side fuel kinds shells) (least : less ≤ fuel) :
    names.Erase raised base side less kinds shells := by
  intro name kind is
  obtain ⟨target, shell, found, other, near⟩ := known is
  exact ⟨target, shell, found, other, near.earlier least⟩

theorem cons (known : names.Erase raised base side fuel kinds shells) (binder : String) {kind : Kind}
    {target shell : Target} (near : (Blueprint.invoke target).Near base (.erasure raised) side fuel kind (.invoke shell)) :
    Names.Erase raised base side fuel ((binder, kind) :: kinds) ((binder, kind, target) :: names)
      ((binder, .pattern, shell) :: shells) := by
  intro name other is
  rw [List.lookup_cons] at is ⊢
  rw [List.lookup_cons]
  cases same : name == binder with
  | true =>
    simp only [same] at is ⊢
    cases is
    exact ⟨target, shell, rfl, rfl, near⟩
  | false =>
    simp only [same] at is ⊢
    exact known is

end Names.Erase

namespace Expression

/-- Drafts of an expression and of its erasure, which come across recursive grammars in the same
order. -/
abbrev DraftsErase (raised : FaultClass → Prop) (base : Store) (side : Side) (fuel : Nat) (key : Key) (names shells : Names)
    (role : Role) (expression shell : Expression) : Prop :=
  Drafting.Meets Eq (Likeness.erasure raised).terms (Draft.Erases raised base side fuel role)
    (expression.draft base.globals key names) (shell.draft base.globals key shells)

/-- Of an operand that is first taken as a pattern, its erasure is what is left. -/
theorem Erases.patterned {kinds : Kinds} {role : Role} {operand shell : Expression}
    (erases : Erases raised kinds role operand shell) {fuel : Nat} {key : Key} {names shells : Names}
    (drafts : DraftsErase raised base side fuel key names shells role operand shell) {next : Draft → Drafting Draft}
    {wrap : Blueprint → Blueprint}
    (nexts : ∀ (draft : Draft) (body), draft.asPattern = .ok ⟨.pattern, body⟩ →
      next draft = Pure.pure (Draft.grammar (.new .parser (wrap body))))
    (wraps : ∀ {one two : Blueprint}, one.Near base (.erasure raised) side fuel .pattern two →
      (wrap one).Near base (.erasure raised) side fuel .parser two) :
    Drafting.Meets Eq (Likeness.erasure raised).terms (Draft.Erases raised base side fuel (.grammar .parser))
      (operand.draft base.globals key names >>= next) (shell.asPattern.draft base.globals key shells) := by
  cases role with
  | word =>
    cases erases with
    | word word =>
      change Drafting.Meets _ _ _ (next (.raw (.str word))) (Pure.pure (Draft.grammar (.literal word)))
      rw [nexts (.raw (.str word)) _ rfl]
      have near : Sketch.Erases raised base side fuel .pattern (.literal word) (.literal word) := .literal word
      exact .pure (.grammar ⟨rfl, rfl, (wraps near.body).inside⟩)
  | grammar kind =>
    rw [erases.asPattern]
    refine drafts.bindFirst fun one shell near => ?_
    obtain ⟨body, other, rfl, rfl, runs⟩ := near.bodies
    cases kind with
    | pattern =>
      rw [nexts (.grammar ⟨.pattern, body⟩) _ rfl]
      exact .pure (.grammar ⟨rfl, rfl, (wraps runs).inside⟩)
    | parser =>
      rw [nexts (.grammar ⟨.parser, body⟩) _ rfl]
      exact .pure (.grammar ⟨rfl, rfl, (wraps runs.erased.inside).inside⟩)

theorem Erases.drafts {kinds : Kinds} {role : Role} {expression shell : Expression}
    (erases : Erases raised kinds role expression shell) {fuel : Nat} {names shells : Names}
    (known : names.Erase raised base side fuel kinds shells) (key : Key) :
    DraftsErase raised base side fuel key names shells role expression shell := by
  induction erases generalizing fuel names shells key with
  | word word => exact .pure (.word word)
  | placeholder is =>
    obtain ⟨target, shell, found, other, near⟩ := known is
    rw [DraftsErase, draft, draft]
    simp only [draftOf, Names.draft?, found, other, Option.map_some, Option.some_or]
    exact .pure (.grammar (.new near))
  | invalid kind fault =>
    rintro index _ rfl
    exact .failure rfl
  | pattern name is => exact .pure (.grammar (.leaf is.self))
  | constant shared => exact .pure (.grammar (.leaf (Leaf.IsOf.constant shared).self))
  | parser name other is => exact .pure (.grammar (.leaf is.ends))
  | pure writable =>
    rw [Expression.pure, leafNamedAfter, if_pos writable]
    exact .pure (.grammar (.leaf fun _ start => .answer (.some (.parser _ start))))
  | followedBy _ _ before after =>
    refine (before known key).bind fun one shell near => (after known key).bind fun two other next => ?_
    refine .bind (.lift (near.asGrammar _)) fun _ _ near => .bind (.lift ?_) fun _ _ near => .pure (.grammar near)
    exact near.followedBy next
  | sum _ _ some before after =>
    exact (before known key).bind fun _ _ near => (after known key).bind fun _ _ next => .lift (near.sum next some)
  | orElse _ _ before after =>
    refine (before known key).bind fun one shell near => (after known key).bind fun two other next => ?_
    refine .bind (.lift (near.asGrammar _)) fun _ _ near => .bind (.lift ?_) fun _ _ near => .pure (.grammar near)
    exact near.orElse next
  | union _ _ some same before after =>
    exact (before known key).bind fun _ _ near => (after known key).bind fun _ _ next =>
      .lift (near.union next some same)
  | optional _ ih =>
    exact (ih known key).bind fun _ _ near => .bind (.lift (near.asGrammar _)) fun _ _ near =>
      .pure (.grammar (near.around .optional))
  | many _ ih =>
    exact (ih known key).bind fun _ _ near => .bind (.lift (near.asGrammar _)) fun _ _ near =>
      .pure (.grammar (near.around .many))
  | oneOrMore _ ih =>
    exact (ih known key).bind fun _ _ near => .bind (.lift (near.asGrammar _)) fun _ _ near =>
      .pure (.grammar (near.around .oneOrMore))
  | separatedBy _ _ before after =>
    refine (before known key).bind fun one shell near => (after known key).bind fun two other next => ?_
    refine .bind (.lift (near.asGrammar _)) fun _ _ near => .bind (.lift ?_) fun _ _ near => .pure (.grammar near)
    exact near.separatedBy next
  | times count _ ih =>
    refine (ih known key).bind fun one shell near => ?_
    obtain ⟨body, other, rfl, rfl, runs⟩ := near.bodies
    exact .lift ((Sketch.Erases.times ⟨rfl, rfl, runs⟩ count).bind fun _ _ near => .answer (.grammar near))
  | @either kinds kind parts same _ ih =>
    have all : Drafting.Meets Eq (Likeness.erasure raised).terms
        (List.Forall₂ fun draft other => ∃ role : Role, role.kind = kind ∧ draft.Erases raised base side fuel role other)
        (draftAll base.globals key names (parts.map (·.2.1))) (draftAll base.globals key shells (parts.map (·.2.2))) := by
      clear * - same ih known
      induction parts with
      | nil => exact .pure .nil
      | cons part parts rest =>
        refine (ih part (by simp) known key).bind fun one shell near => ?_
        refine (rest (fun part member => same part (by simp [member])) fun part member =>
          ih part (by simp [member])).bind fun all others near => ?_
        exact .pure (.cons ⟨part.1, same part (by simp), by assumption⟩ near)
    exact all.bind fun _ _ all => .bind (.lift (Sketch.Erases.either all)) fun _ _ near => .pure (.grammar near)
  | captured _ ih =>
    refine (ih known key).bindFirst fun one shell near => ?_
    obtain ⟨body, other, rfl, rfl, runs⟩ := near.bodies
    exact fun index _ is => .answer ⟨.grammar ⟨rfl, rfl, runs.captured.inside⟩, is⟩
  | returning value _ ih =>
    refine (ih known key).bindFirst fun one shell near => ?_
    obtain ⟨body, other, rfl, rfl, runs⟩ := near.bodies
    exact fun index _ is => .answer ⟨.grammar ⟨rfl, rfl, (runs.valued value).inside⟩, is⟩
  | erased _ ih | negated _ ih =>
    refine (ih known key).bindFirst fun one shell near => ?_
    obtain ⟨body, other, rfl, rfl, runs⟩ := near.bodies
    exact fun index _ is => .answer ⟨.grammar ⟨rfl, rfl, runs.erased.inside⟩, is⟩
  | map raises _ ih | shifted _ raises _ ih =>
    refine (ih known key).bindFirst fun one shell near => ?_
    obtain ⟨body, other, rfl, rfl, runs⟩ := near.bodies
    exact fun index _ is => .answer ⟨.grammar ⟨rfl, rfl, (runs.map raises).inside⟩, is⟩
  | named name _ ih =>
    exact (ih known key).bind fun _ _ near => .bind (.lift (near.asGrammar _)) fun _ _ near =>
      .pure (.grammar near)
  | copy _ ih =>
    refine (ih known key).bind fun one shell near => ?_
    obtain ⟨body, other, rfl, rfl, runs⟩ := near.bodies
    exact .pure (.grammar (.new runs))
  | @fix kinds role definition shell binder limit _ ih =>
    rintro index _ rfl
    rw [Expression.fix, Expression.fix, draft, draft]
    cases Depth.granted limit with
    | error fault => exact .failure rfl
    | ok granted =>
      refine .answer ⟨.grammar (.new (.recursive (fun less least near => ?_) (fun _ _ => rfl) rfl ?_ ?_)), rfl⟩
      · have drafted := (ih ((known.earlier (Nat.le_of_lt least)).cons binder near) (.within key index)).drafted rfl
        exact drafted.bind fun _ _ erases => erases.definition _ _
      · rintro active _ rfl
        exact .inr rfl
      · rintro active _ rfl
        rfl
  | capturedPattern erases ih =>
    refine erases.patterned (ih known key) (fun draft body is => ?_) .captured
    rw [is]
    rfl
  | valueFor value erases ih =>
    refine erases.patterned (ih known key) (fun draft body is => ?_) (.valued value)
    rw [Sketch.valueFor, is]
    rfl

end Expression

end Expressions

namespace Session
variable {raised : FaultClass → Prop} {subject shell : Expression} {kind : Kind}

/-- In the limit an expression and its erasure come to the same, apart from values. -/
theorem foretold_erased (erases : subject.Erases raised [] (.grammar kind) shell) (base : Store) (text : Text) (start : Int) :
    ((Likeness.erasure raised).terms.runs False False).Meets (Option.Rel (Match.Erases kind))
      (foretold base subject text start) (foretold base shell text start) := by
  have drafts side fuel : Erased raised (Draft.Erases raised base side fuel (.grammar kind))
      (subject.drafted base.globals (.stage 0) []) (shell.drafted base.globals (.stage 0) []) :=
    (erases.drafts (fun _ _ known => nomatch known) (.stage 0)).drafted rfl
  rw [foretold, foretold]
  generalize subject.drafted base.globals (.stage 0) [] = first at drafts ⊢
  generalize shell.drafted base.globals (.stage 0) [] = second at drafts ⊢
  cases drafts .first 0 with
  | failure same => exact .failure same
  | cutFirst cut => exact .cutFirst cut
  | cutSecond cut => exact cut.elim
  | answer known =>
    obtain ⟨body, other, rfl, rfl, -⟩ := known.bodies
    have near side fuel : Blueprint.Near base (.erasure raised) side fuel kind body other := by
      cases drafts side fuel with
      | answer known =>
        cases known with
        | grammar near => exact near.body
    have checked : Erased raised Eq (text.checkOffset start) (text.checkOffset start) := by
      cases text.checkOffset start with
      | error fault => exact .failure rfl
      | ok _ => exact .answer rfl
    exact checked.faults.bind fun _ _ _ => Blueprint.Near.limits near rfl 1 1 text start

/-- What can be told of two runs that differ in values only, unless the first one raised what its
functions may. -/
theorem outcomes_erased {one other : Except Halt (Option Match)}
    (meets : ((Likeness.erasure raised).terms.runs False False).Meets (Option.Rel (Match.Erases kind)) one other) :
    (∃ fault : Fault, raised fault.class ∧ one = .error (.fault fault)) ∨
    (one = .ok none ↔ other = .ok none) ∧
    (∀ stop, (∃ found, found.stop = stop ∧ one = .ok (some found)) ↔ other = .ok (some (.span stop))) ∧
    ∀ kind : FaultClass, (∃ fault : Fault, fault.class = kind ∧ one = .error (.fault fault)) ↔
      ∃ fault : Fault, fault.class = kind ∧ other = .error (.fault fault) := by
  cases meets with
  | answer related =>
    refine .inr ?_
    cases related with
    | none => simp
    | @some found later erases =>
      obtain rfl := erases.span_stop
      simp [Match.span]
  | @failure halt later same =>
    refine .inr ?_
    cases halt with
    | exhausted =>
      cases later with
      | exhausted => simp
      | fault => exact same.elim
    | fault fault =>
      cases later with
      | exhausted => exact same.elim
      | fault further =>
        have same : fault.class = further.class := same
        simp [same]
  | @cutFirst halt _ cut =>
    cases halt with
    | exhausted => exact cut.elim
    | fault fault => exact .inl ⟨fault, cut, rfl⟩
  | @cutSecond _ halt cut => cases halt <;> exact cut.elim

/-- Parsers and patterns are run alike. Unless a parser raises what one of its functions does, it finds
no match where its erasure finds none, it stops where its erasure does, and it gives up with a fault of
the class that its erasure gives up with. -/
theorem matching_erased (erases : subject.Erases raised [] (.grammar .parser) shell) (history : List Command)
    (text : Text) (start : Int) :
    let comes := Comes (.afterAll history)
    (∃ fault, raised fault.class ∧ comes subject text start (.error fault)) ∨
    (comes subject text start (.ok none) ↔ comes shell text start (.ok none)) ∧
    (∀ stop, (∃ found, found.stop = stop ∧ comes subject text start (.ok (some found))) ↔
      comes shell text start (.ok (some (.span stop)))) ∧
    ∀ kind : FaultClass, (∃ fault, fault.class = kind ∧ comes subject text start (.error fault)) ↔
      ∃ fault, fault.class = kind ∧ comes shell text start (.error fault) := by
  intro comes
  have unnamed (name : String) (known : (List.lookup name ([] : Kinds)).isSome) : False := nomatch known
  have founded := Scene.bare_founded history
  have ok {expression : Expression} (plain : expression.Plain fun _ => False) (found : Option Match) :
      comes expression text start (.ok found) ↔ foretold (.afterAll history) expression text start = .ok found :=
    Scene.comes_ok_iff founded plain
  have error {expression : Expression} (plain : expression.Plain fun _ => False) (kind : FaultClass) :
      (∃ fault, fault.class = kind ∧ comes expression text start (.error fault)) ↔
        ∃ fault : Fault, fault.class = kind ∧
          foretold (.afterAll history) expression text start = .error (.fault fault) :=
    Scene.comes_error_iff founded plain
  obtain ⟨one, other⟩ := erases.plain
  replace one := one.mono unnamed
  replace other := other.mono unnamed
  simp only [ok one, ok other, error one, error other]
  refine (outcomes_erased (foretold_erased erases (.afterAll history) text start)).imp_left ?_
  rintro ⟨fault, raised, told⟩
  obtain ⟨cause, same, comes⟩ := (error one fault.class).mpr ⟨fault, rfl, told⟩
  exact ⟨cause, same ▸ raised, comes⟩

/-- Brackets around the grammar of that name, or around nothing. -/
abbrev enclosing (name : String) : Expression := "(" + .optional (.variable name) + ")"

/-- A parser for nested brackets that yields a list within a list for each pair, with a limit. -/
abbrev nestedLists : Expression :=
  .fix .parser "nested" (.shifted (enclosing "nested") fun value => .ok (.list [value])) (some 3)

/-- The classes of the faults with which what is no integer is refused. -/
abbrev refusals : List FaultClass := [.value, .overflow, .type]

theorem class_of_toInteger {value : Value} {fault : Fault} (refused : value.toInteger = .error fault) :
    fault.class ∈ refusals := by
  unfold Value.toInteger at refused
  split at refused
  next text =>
    unfold Value.ofNumeral at refused
    split at refused <;> cases refused <;> simp [Fault.class]
  next number =>
    unfold Value.ofFraction at refused
    split at refused <;> cases refused
    split <;> simp [Fault.class]
  next =>
    split at refused <;> cases refused
    simp [Fault.class]

set_option maxRecDepth 4096 in
/-- A parser for nested brackets stops where the pattern for them does, and is refused where it is; and
a parser for integers stops where the pattern for their digits does, as long as it can read them. -/
theorem matching_erased_brackets :
    let shell := Expression.fix .pattern "nested" (enclosing "nested") (some 3)
    let digits := Expression.optional (.literal "-") + Sample.digits
    let comes := Comes (.afterAll [])
    nestedLists.Erases (fun _ => False) [] (.grammar .parser) shell ∧
    (comes shell (Text.ofString "(())") 0 (.ok (some (.span 4))) ∧
      ∃ found, found.stop = 4 ∧ comes nestedLists (Text.ofString "(())") 0 (.ok (some found))) ∧
    (comes shell (Text.ofString "(((()") 0 (.error (.tooDeep "recursive pattern" 3 3)) ∧
      ∃ fault, fault.class = .depthLimit ∧ comes nestedLists (Text.ofString "(((()") 0 (.error fault)) ∧
    Sample.integer.Erases (· ∈ refusals) [] (.grammar .parser) digits ∧
      comes Sample.integer (Text.ofString "-12") 0 (.ok (some (.yielding (.int (-12)) 3))) ∧
      comes digits (Text.ofString "-12") 0 (.ok (some (.span 3))) := by
  intro shell digits comes
  have inside : Expression.Erases (fun _ => False) [("nested", .parser)] (.grammar .parser)
      (.optional (.variable "nested")) (.optional (.variable "nested")) := .optional (.placeholder rfl)
  have placed : Expression.Erases (fun _ => False) [("nested", .parser)] (.grammar .parser) (enclosing "nested")
      (enclosing "nested") :=
    .sum (.sum (.word "(") inside (by simp)) (.word ")") (by simp)
  have erases : nestedLists.Erases (fun _ => False) [] (.grammar .parser) shell :=
    .fix "nested" (some 3) (.shifted "function" (by simp) placed)
  have alike (text : Text) := (matching_erased erases [] text 0).resolve_left (by simp)
  have found : comes shell (Text.ofString "(())") 0 (.ok (some (.span 4))) := ⟨40, by cbv⟩
  have deep : comes shell (Text.ofString "(((()") 0 (.error (.tooDeep "recursive pattern" 3 3)) := ⟨40, by cbv⟩
  have signed : Expression.Erases (· ∈ refusals) [] (.grammar .pattern) digits digits :=
    .sum (.optional (.pattern _ (Leaf.IsOf.total _))) (.constant .digits) (by simp)
  have reads : Sample.integer.Erases (· ∈ refusals) [] (.grammar .parser) digits :=
    .shifted _ (fun _ _ => class_of_toInteger) (.captured signed)
  have read : comes Sample.integer (Text.ofString "-12") 0 (.ok (some (.yielding (.int (-12)) 3))) := ⟨40, by cbv⟩
  have ends := (matching_erased reads [] (Text.ofString "-12") 0).resolve_left <| by
    rintro ⟨fault, -, refused⟩
    cases Comes.unique read refused
  exact ⟨erases, ⟨found, ((alike _).2.1 4).mpr found⟩, ⟨deep, ((alike _).2.2 .depthLimit).mpr ⟨_, rfl, deep⟩⟩,
    reads, read, (ends.2.1 3).mp ⟨_, rfl, read⟩⟩

end Session

end TextGrammar
