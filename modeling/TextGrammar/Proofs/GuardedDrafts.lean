import TextGrammar.Proofs.KeptGrammars
import TextGrammar.Proofs.SteadyLeaves
import TextGrammar.Proofs.Unrolling

/-! Definitions whose placeholder is guarded. Before it is run, a part must have been passed that cannot
succeed without going on in the text. What is drafted from such a definition is steady: wherever it is run,
the placeholder is run behind that offset only. -/

namespace TextGrammar

variable {α β : Type}

namespace Value

theorem arithmetic?_shallow {exact : Int → Int → Int} {rounded : Binary64 → Binary64 → Binary64} {first second : Value}
    {outcome : Except Fault Value} (is : arithmetic? exact rounded first second = some outcome) :
    Shallow (fun _ => True) outcome := by
  have fraction (value : Value) (number : Except Fault Binary64) (is : value.fraction? = some number) :
      Shallow (fun _ => True) number := by
    unfold fraction? at is
    split at is
    · cases is
      trivial
    · obtain ⟨integer, -, rfl⟩ := Option.map_eq_some_iff.mp is
      split
      · trivial
      · nofun
  unfold arithmetic? at is
  split at is
  · cases is
    trivial
  · obtain ⟨number, one, is⟩ := Option.bind_eq_some_iff.mp is
    obtain ⟨other, two, is⟩ := Option.bind_eq_some_iff.mp is
    cases is
    exact (fraction _ _ one).bind fun _ _ => (fraction _ _ two).bind fun _ _ => trivial

theorem add_shallow (first second : Value) : Shallow (fun _ => True) (first.add second) := by
  unfold add
  split
  iterate 3 trivial
  iterate 3 nofun
  next =>
    cases is : arithmetic? (· + ·) Binary64.add first second with
    | none => exact nofun
    | some outcome => exact arithmetic?_shallow is

theorem union_shallow (first second : Value) : Shallow (fun _ => True) (first.union second) := by
  unfold union
  repeat' split
  all_goals first | trivial | nofun

theorem negate_shallow (value : Value) : Shallow (fun _ => True) value.negate := by
  unfold negate
  repeat' split
  all_goals first | trivial | nofun

theorem count_shallow (text : String) (value : Value) : Shallow (fun _ => True) (count text value) := by
  unfold count
  split
  · trivial
  · nofun

end Value

/-- What is drafted where there are no recursive grammars. -/
def Drafting.Yields (answers : α → Prop) (plan : Drafting α) : Prop :=
  Shallow (fun result => answers result.1 ∧ result.2 = 0) (plan.run 0)

namespace Drafting.Yields
variable {answers : α → Prop} {results : β → Prop} {plan : Drafting α}

theorem pure {answer : α} (holds : answers answer) : Yields answers (Pure.pure answer) :=
  ⟨holds, rfl⟩

theorem lift {outcome : Except Fault α} (shallow : Shallow answers outcome) : Yields answers (liftM outcome) := by
  cases outcome with
  | ok answer => exact ⟨shallow, rfl⟩
  | error fault => exact shallow

theorem bind {next : α → Drafting β} (yields : Yields answers plan)
    (rest : ∀ answer, answers answer → plan.run' 0 = .ok answer → Yields results (next answer)) :
    Yields results (plan >>= next) := by
  rw [Yields, StateT.run_bind]
  rw [Yields] at yields
  cases ended : plan.run 0 with
  | error fault =>
    rw [ended] at yields
    exact yields
  | ok result =>
    obtain ⟨answer, index⟩ := result
    rw [ended] at yields
    obtain ⟨holds, rfl⟩ := yields
    exact rest answer holds (congrArg (Prod.fst <$> ·) ended)

/-- Nothing but the draft matters in the end. -/
theorem drafted (yields : Yields answers plan) : Shallow answers (plan.run' 0) := by
  rw [Yields] at yields
  rw [StateT.run']
  change Shallow answers (Prod.fst <$> plan.run 0)
  generalize plan.run 0 = outcome at yields ⊢
  cases outcome with
  | error fault => exact yields
  | ok result => exact yields.1

end Drafting.Yields

section Drafts
variable (journey : Journey) (free : Prop)

/-- A grammar that comes to an end. -/
def Sketch.Steady (made : Sketch) : Prop :=
  made.body.Steady journey free

/-- What comes to an end if it is a grammar. -/
def Draft.Steady : Draft → Prop
  | .raw _ => True
  | .grammar made => made.Steady journey free

/-- What cannot succeed without going on in the text, as a part of a sequence. -/
def Draft.Advances : Draft → Prop
  | .raw (.str word) => (Sketch.literal word).body.Advances journey .pattern
  | .raw _ => True
  | .grammar made => made.body.Advances journey made.kind

end Drafts

variable {journey : Journey} {free more gains : Prop} {kind : Kind}

namespace Sketch.Steady
variable {made next : Sketch}

theorem mono (steady : made.Steady journey free) (freer : free → more) : made.Steady journey more :=
  Blueprint.Steady.mono steady freer

theorem new {body : Blueprint} (steady : body.Steady journey free) : (Sketch.new kind body).Steady journey free :=
  steady.object

theorem leaf {recognise : Leaf} (steady : recognise.Steady) : (Sketch.new kind (.leaf recognise)).Steady journey free :=
  new (.leaf steady)

theorem literal (word : String) : (Sketch.literal word).Steady journey free :=
  leaf (Leaf.literal_steady word)

theorem followedByGrammar (steady : made.Steady journey free) (advances : gains → made.body.Advances journey made.kind)
    (rest : next.Steady journey (free ∨ gains)) : (made.followedByGrammar next).Steady journey free :=
  new (Blueprint.Steady.sequence steady advances rest next.kind)

theorem choice (steady : made.Steady journey free) (rest : next.Steady journey free) :
    (made.choice next).Steady journey free :=
  new (Blueprint.Steady.orElse steady rest)

theorem repetitions (count : Value) : Shallow (fun _ => True) (Sketch.repetitions count) := by
  have fraction (number : Binary64) : Shallow (fun _ => True) (Value.ofFraction number) := by
    unfold Value.ofFraction
    repeat' split
    all_goals first | trivial | nofun
  unfold Sketch.repetitions
  -- which integers can be written does not matter, and is too much to compute
  generalize Numeral.isWritable = writable
  have checked (negative : Bool) (times : Int) : Shallow (fun _ => True) (do
      if !writable times then .error .integerTooLong
      if negative then .error (.negativeTimes "" times)
      return times.toNat) := by
    cases writable times <;> cases negative <;> first | trivial | nofun
  dsimp only
  split
  · exact (fraction _).bind fun times _ => checked _ times
  · exact checked _ _
  · nofun

section Single
variable (steady : made.Steady journey free)
include steady

theorem around {wrap : Kind → Blueprint → Blueprint} (wraps : ∀ {kind one}, Blueprint.Steady journey free one →
    (wrap kind one).Steady journey free) : (made.around wrap).Steady journey free :=
  new (wraps steady)

theorem captured : made.captured.Steady journey free :=
  new (Blueprint.Steady.captured steady)

theorem times (count : Value) : Shallow (Sketch.Steady journey free) (made.times count) := by
  refine (repetitions count).bind fun times _ => new ?_
  split
  · exact .leaf ⟨fun _ _ _ _ _ matched => (nomatch matched), fun _ _ => nofun⟩
  · exact Blueprint.Steady.times steady times

end Single

/-- A new grammar around a parser. -/
theorem ofParser (member : String) (kind : Kind) {wrap : Blueprint → Blueprint}
    (wraps : (wrap made.body).Steady journey free) : Shallow (Sketch.Steady journey free) (made.ofParser member kind wrap) := by
  rw [Sketch.ofParser]
  cases made.kind with
  | parser => exact new wraps
  | pattern => exact fun deep => by cases deep

end Sketch.Steady

namespace Draft.Steady
variable {draft next : Draft} {made : Sketch}

theorem mono (steady : draft.Steady journey free) (freer : free → more) : draft.Steady journey more := by
  cases draft with
  | raw value => trivial
  | grammar made => exact Sketch.Steady.mono steady freer

theorem grammars {outcome : Except Fault Sketch} (shallow : Shallow (Sketch.Steady journey free) outcome) :
    Shallow (Draft.Steady journey free) (Draft.grammar <$> outcome) := by
  cases outcome with
  | error fault => exact shallow
  | ok made => exact shallow

theorem raws {outcome : Except Fault Value} (shallow : Shallow (fun _ => True) outcome) :
    Shallow (Draft.Steady journey free) (Draft.raw <$> outcome) := by
  cases outcome with
  | error fault => exact shallow
  | ok value => trivial

/-- A grammar is what stood for one. -/
theorem asGrammar (member : String) (draft : Draft) : Shallow (fun made => draft = .grammar made) (draft.asGrammar member) := by
  cases draft with
  | raw value => nofun
  | grammar made => exact rfl

section Single
variable (steady : draft.Steady journey free)
include steady

theorem asAlternative (kind : Kind) : ∀ made ∈ draft.asAlternative kind, made.Steady journey free := by
  intro made member
  unfold Draft.asAlternative at member
  split at member
  · obtain ⟨-, same⟩ := Option.ite_none_right_eq_some.mp member
    cases same
    exact steady
  · obtain ⟨-, same⟩ := Option.ite_none_right_eq_some.mp member
    cases same
    exact .literal _
  · cases member

theorem alternative (kind : Kind) : Shallow (Sketch.Steady journey free) (draft.alternative kind) := by
  have steady := steady.asAlternative kind
  unfold Draft.alternative
  cases is : draft.asAlternative kind with
  | none => cases draft <;> nofun
  | some made => exact steady made is

theorem definition (title : String) (kind : Kind) :
    Shallow (fun body => body.Steady journey free) (draft.definition title kind) := by
  have steady := steady.asAlternative kind
  unfold Draft.definition
  cases is : draft.asAlternative kind with
  | none => cases draft <;> nofun
  | some made => exact steady made is

theorem asPattern : Shallow (Sketch.Steady journey free) draft.asPattern := by
  unfold Draft.asPattern
  split
  next made =>
    cases made.kind with
    | pattern => exact steady
    | parser => exact Sketch.Steady.new (Blueprint.Steady.erased steady)
  · exact Sketch.Steady.literal _
  · nofun

theorem valueFor (value : Value) : Shallow (Sketch.Steady journey free) (Sketch.valueFor draft value) :=
  steady.asPattern.bind fun _ steady => Sketch.Steady.new (Blueprint.Steady.valued steady value)

theorem negated : Shallow (Draft.Steady journey free) draft.negated := by
  cases draft with
  | raw value => exact raws value.negate_shallow
  | grammar made =>
    obtain ⟨kind, body⟩ := made
    cases kind with
    | parser => exact Sketch.Steady.new (Blueprint.Steady.erased steady)
    | pattern => nofun

theorem shifted {transform : Value → Except Fault Value} (shallow : ∀ value, Shallow (fun _ => True) (transform value))
    (functionType : String) : Shallow (Draft.Steady journey free) (draft.shifted transform functionType) := by
  cases draft with
  | raw value => nofun
  | grammar made =>
    obtain ⟨kind, body⟩ := made
    cases kind with
    | parser => exact Sketch.Steady.new (Blueprint.Steady.map steady shallow)
    | pattern => nofun

theorem times (count : Value) : Shallow (Draft.Steady journey free) (draft.times count) := by
  cases draft with
  | grammar made => exact (Sketch.Steady.times steady count).bind fun _ steady => steady
  | raw value =>
    cases value with
    | str text => exact raws (Value.count_shallow text count)
    | _ => nofun

theorem copy : Shallow (Draft.Steady journey free) draft.copy := by
  cases draft with
  | grammar made => exact Sketch.Steady.new steady
  | raw value => cases value <;> first | trivial | nofun

end Single

section Two
variable (steady : made.Steady journey free)
include steady

theorem followedBy (advances : gains → made.body.Advances journey made.kind) (rest : next.Steady journey (free ∨ gains)) :
    Shallow (Sketch.Steady journey free) (made.followedBy next) := by
  unfold Sketch.followedBy
  split
  · exact steady.followedByGrammar advances rest
  · exact steady.followedByGrammar advances (.literal _)
  · nofun

theorem orElse (rest : next.Steady journey free) : Shallow (Sketch.Steady journey free) (made.orElse next) :=
  (rest.alternative made.kind).bind fun _ rest => steady.choice rest

theorem separatedBy (advances : gains → made.body.Advances journey made.kind) (rest : next.Steady journey (free ∨ gains)) :
    Shallow (Sketch.Steady journey free) (made.separatedBy next) := by
  refine rest.asPattern.bind fun pattern rest => ?_
  refine Sketch.Steady.new (Blueprint.Steady.separated steady advances ?_)
  have again : made.Steady journey ((free ∨ gains) ∨ False) := steady.mono fun there => .inl (.inl there)
  exact rest.followedByGrammar False.elim again

theorem returning (value : Value) : Shallow (Sketch.Steady journey free) (made.returning value) := by
  have operand : (Draft.grammar made).Steady journey free := steady
  unfold Sketch.returning
  split
  · exact operand.valueFor value
  · nofun

end Two

theorem sum (steady : draft.Steady journey free) (advances : gains → draft.Advances journey)
    (rest : next.Steady journey (free ∨ gains)) : Shallow (Draft.Steady journey free) (draft.sum next) := by
  unfold Draft.sum
  split
  · exact raws (Value.add_shallow _ _)
  · exact grammars (followedBy (.literal _) advances rest)
  · exact grammars (followedBy steady advances rest)
  · exact grammars (followedBy steady advances rest)
  · nofun

theorem union (steady : draft.Steady journey free) (rest : next.Steady journey free) :
    Shallow (Draft.Steady journey free) (draft.union next) := by
  have firsts := steady.asAlternative
  have seconds := rest.asAlternative
  cases draft with
  | grammar made =>
    simp only [Draft.union]
    cases is : next.asAlternative made.kind with
    | none => nofun
    | some other => exact Sketch.Steady.choice steady (seconds _ other is)
  | raw value =>
    cases next with
    | raw other => exact raws (value.union_shallow other)
    | grammar made =>
      simp only [Draft.union]
      cases is : (Draft.raw value).asAlternative made.kind with
      | none => nofun
      | some other => exact Sketch.Steady.choice (firsts _ other is) rest

theorem either {drafts : List Draft} (steady : ∀ draft ∈ drafts, draft.Steady journey free) (kind : Kind) :
    Shallow (Sketch.Steady journey free) (Sketch.either kind drafts) := by
  have alternatives : Shallow (fun all : List Sketch => ∀ made ∈ all, made.Steady journey free)
      (drafts.mapM (Draft.alternative kind)) := by
    induction drafts with
    | nil => exact fun _ member => nomatch member
    | cons first rest ih =>
      rw [List.mapM_cons]
      refine ((steady first List.mem_cons_self).alternative kind).bind fun made one => ?_
      refine (ih fun draft member => steady draft (List.mem_cons_of_mem _ member)).bind fun all others => ?_
      exact List.forall_mem_cons.mpr ⟨one, others⟩
  refine alternatives.bind fun all steady => Sketch.Steady.new (Blueprint.Steady.either ?_)
  rintro _ member
  obtain ⟨made, present, rfl⟩ := List.mem_map.mp member
  exact steady made present

end Draft.Steady

/-- An operand that must be a grammar, and what is made of it. -/
theorem Drafting.Yields.grammar {results : β → Prop} {plan : Drafting Draft}
    (yields : Drafting.Yields (Draft.Steady journey free) plan) (member : String) {next : Sketch → Drafting β}
    (rest : ∀ made : Sketch, made.Steady journey free → Drafting.Yields results (next made)) :
    Drafting.Yields results (do next (← (← plan).asGrammar member)) := by
  refine yields.bind fun draft steady _ => .bind (.lift (Draft.Steady.asGrammar member draft)) fun made is _ => ?_
  subst is
  exact rest made steady

section Guards
variable (name : String) (consumes : Expression → Prop)

mutual

/-- A definition that is put together from leaves and its own name, without further recursive grammars and
without grammars that values lead to or that functions have captured. Its own name stands only where a part of a sequence has been passed
that consumes something, unless it is free to stand anywhere. -/
def Expression.Guards (free : Prop) : Expression → Prop
  | .raw _ | .constant _ => True
  | .invalid fault => fault.class ≠ .depthLimit
  | .variable other => other = name ∧ free
  | .leaf _ _ recognise => recognise.Steady
  | .followedBy first second | .sum first second | .separatedBy first second =>
    first.Guards free ∧ second.Guards (free ∨ consumes first)
  | .orElse first second | .union first second => first.Guards free ∧ second.Guards free
  | .either _ alternatives => Expression.AllGuard free alternatives
  | .optional operand | .many operand | .oneOrMore operand | .times operand _ | .captured operand
  | .capturedPattern operand | .returning operand _ | .valueFor operand _ | .erased operand
  | .negated operand | .named operand _ | .copy operand => operand.Guards free
  | .map operand transform | .shifted operand transform _ =>
    operand.Guards free ∧ ∀ value, Shallow (fun _ => True) (transform value)
  | .filter operand accept => operand.Guards free ∧ ∀ value, Shallow (fun _ => True) (accept value)
  | .bind _ _ | .capturing _ _ | .retaining _ _ | .recursive _ _ _ _ => False

def Expression.AllGuard (free : Prop) : List Expression → Prop
  | [] => True
  | expression :: rest => expression.Guards free ∧ Expression.AllGuard free rest

end

end Guards

namespace Expression
variable {name : String} {consumes : Expression → Prop}

mutual

theorem Guards.plain {free : Prop} {expression : Expression} (guards : expression.Guards name consumes free) :
    expression.Plain fun other => other = name := by
  cases expression with
  | raw | invalid | constant | leaf => trivial
  | «variable» other => exact guards.1
  | followedBy first second | sum first second | orElse first second | union first second
  | separatedBy first second => exact ⟨guards.1.plain, guards.2.plain⟩
  | either kind alternatives => exact AllGuard.plain guards
  | optional operand | many operand | oneOrMore operand | times operand | captured operand
  | capturedPattern operand | returning operand | valueFor operand | erased operand | negated operand
  | named operand | copy operand => exact @Guards.plain free operand guards
  | map operand | shifted operand | filter operand => exact guards.1.plain
  | bind | capturing | retaining | recursive => exact guards.elim

theorem AllGuard.plain {free : Prop} {expressions : List Expression} (guards : AllGuard name consumes free expressions) :
    AllPlain (fun other => other = name) expressions := by
  cases expressions with
  | nil => trivial
  | cons first rest => exact ⟨guards.1.plain, AllGuard.plain guards.2⟩

end

mutual

theorem Guards.unlimited {free : Prop} {expression : Expression} (guards : expression.Guards name consumes free) :
    expression.Unlimited := by
  cases expression with
  | raw | invalid | constant | leaf | «variable» => trivial
  | followedBy first second | sum first second | orElse first second | union first second
  | separatedBy first second => exact ⟨guards.1.unlimited, guards.2.unlimited⟩
  | either kind alternatives => exact AllGuard.unlimited guards
  | optional operand | many operand | oneOrMore operand | times operand | captured operand
  | capturedPattern operand | returning operand | valueFor operand | erased operand | negated operand
  | named operand | copy operand => exact @Guards.unlimited free operand guards
  | map operand | shifted operand | filter operand => exact guards.1.unlimited
  | bind | capturing | retaining | recursive => exact guards.elim

theorem AllGuard.unlimited {free : Prop} {expressions : List Expression} (guards : AllGuard name consumes free expressions) :
    AllUnlimited expressions := by
  cases expressions with
  | nil => trivial
  | cons first rest => exact ⟨guards.1.unlimited, AllGuard.unlimited guards.2⟩

end

section Steady
variable {journey : Journey} {globals : String → Option Draft} {kind : Kind} {cell : CellId}

/-- Parts that consume something go on in the text. -/
abbrev Lead (name : String) (consumes : Expression → Prop) (journey : Journey) (globals : String → Option Draft)
    (kind : Kind) (cell : CellId) : Prop :=
  ∀ {element : Expression} {free : Prop} {draft : Draft}, element.Guards name consumes free → consumes element →
    element.drafted globals (.base cell) (.own name kind cell) = .ok draft → draft.Advances journey

mutual

/-- What is drafted from a guarded expression is steady, if the placeholder is behind the start. -/
theorem draft_steady (lead : Lead name consumes journey globals kind cell)
    (inner : (Blueprint.invoke (.base cell)).Steady journey True) (free : Prop) (expression : Expression)
    (guards : expression.Guards name consumes free) :
    Drafting.Yields (Draft.Steady journey free) (expression.draft globals (.base cell) (.own name kind cell)) := by
  cases expression with
  | raw value => exact .pure trivial
  | invalid fault => exact guards
  | leaf kind title recognise => exact .pure (Sketch.Steady.leaf guards)
  | constant shared => exact .pure (Sketch.Steady.leaf (Leaf.constant_steady shared))
  | «variable» other =>
    obtain ⟨rfl, there⟩ := guards
    have own : (Names.own other kind cell).draft? other = some (.grammar (.new kind (.invoke (.base cell)))) := by
      simp [Names.draft?, Sketch.new]
    rw [draft, draftOf, own]
    exact .pure (Sketch.Steady.new (inner.mono fun _ => there))
  | followedBy first second =>
    refine (draft_steady lead inner free first guards.1).bind fun draft steady drafted => ?_
    refine (draft_steady lead inner _ second guards.2).bind fun next rest _ => ?_
    refine .bind (.lift (Draft.Steady.asGrammar _ draft)) fun made is _ => ?_
    subst is
    exact .bind (.lift (Draft.Steady.followedBy steady (lead guards.1 · drafted) rest)) fun _ steady _ => .pure steady
  | separatedBy first second =>
    refine (draft_steady lead inner free first guards.1).bind fun draft steady drafted => ?_
    refine (draft_steady lead inner _ second guards.2).bind fun next rest _ => ?_
    refine .bind (.lift (Draft.Steady.asGrammar _ draft)) fun made is _ => ?_
    subst is
    exact .bind (.lift (Draft.Steady.separatedBy steady (lead guards.1 · drafted) rest)) fun _ steady _ => .pure steady
  | sum first second =>
    refine (draft_steady lead inner free first guards.1).bind fun draft steady drafted => ?_
    exact (draft_steady lead inner _ second guards.2).bind fun next rest _ => .lift (steady.sum (lead guards.1 · drafted) rest)
  | orElse first second =>
    refine (draft_steady lead inner free first guards.1).bind fun draft steady _ => ?_
    refine (draft_steady lead inner free second guards.2).bind fun next rest _ => ?_
    refine .bind (.lift (Draft.Steady.asGrammar _ draft)) fun made is _ => ?_
    subst is
    exact .bind (.lift (Draft.Steady.orElse steady rest)) fun _ steady _ => .pure steady
  | union first second =>
    refine (draft_steady lead inner free first guards.1).bind fun draft steady _ => ?_
    exact (draft_steady lead inner free second guards.2).bind fun next rest _ => .lift (steady.union rest)
  | either kind alternatives =>
    refine (draftAll_steady lead inner free alternatives guards).bind fun drafts steady _ => ?_
    exact .bind (.lift (Draft.Steady.either steady kind)) fun _ steady _ => .pure steady
  | optional operand =>
    exact (draft_steady lead inner free operand guards).grammar _ fun _ steady => .pure (steady.around .optional)
  | many operand => exact (draft_steady lead inner free operand guards).grammar _ fun _ steady => .pure (steady.around .many)
  | oneOrMore operand =>
    exact (draft_steady lead inner free operand guards).grammar _ fun _ steady => .pure (steady.around .oneOrMore)
  | times operand count => exact (draft_steady lead inner free operand guards).bind fun _ steady _ => .lift (steady.times count)
  | captured operand => exact (draft_steady lead inner free operand guards).grammar _ fun _ steady => .pure steady.captured
  | capturedPattern operand =>
    refine (draft_steady lead inner free operand guards).bind fun _ steady _ => ?_
    exact .bind (.lift steady.asPattern) fun _ steady _ => .pure (Sketch.Steady.captured steady)
  | returning operand value =>
    refine (draft_steady lead inner free operand guards).grammar _ fun _ steady => ?_
    exact .bind (.lift (Draft.Steady.returning steady value)) fun _ steady _ => .pure steady
  | valueFor operand value =>
    refine (draft_steady lead inner free operand guards).bind fun _ steady _ => ?_
    exact .bind (.lift (steady.valueFor value)) fun _ steady _ => .pure steady
  | erased operand =>
    refine (draft_steady lead inner free operand guards).grammar _ fun _ steady => ?_
    exact .bind (.lift (Sketch.Steady.ofParser _ _ (Blueprint.Steady.erased steady))) fun _ steady _ => .pure steady
  | negated operand => exact (draft_steady lead inner free operand guards).bind fun _ steady _ => .lift steady.negated
  | map operand transform =>
    refine (draft_steady lead inner free operand guards.1).grammar _ fun _ steady => ?_
    exact .bind (.lift (Sketch.Steady.ofParser _ _ (Blueprint.Steady.map steady guards.2))) fun _ steady _ => .pure steady
  | shifted operand transform functionType =>
    exact (draft_steady lead inner free operand guards.1).bind fun _ steady _ => .lift (steady.shifted guards.2 functionType)
  | filter operand accept =>
    refine (draft_steady lead inner free operand guards.1).grammar _ fun _ steady => ?_
    exact .bind (.lift (Sketch.Steady.ofParser _ _ (Blueprint.Steady.filter steady guards.2))) fun _ steady _ => .pure steady
  | bind | capturing | retaining | recursive => exact guards.elim
  | named operand title => exact (draft_steady lead inner free operand guards).grammar _ fun _ steady => .pure steady
  | copy operand => exact (draft_steady lead inner free operand guards).bind fun _ steady _ => .lift steady.copy
termination_by structural expression

theorem draftAll_steady (lead : Lead name consumes journey globals kind cell)
    (inner : (Blueprint.invoke (.base cell)).Steady journey True) (free : Prop) (expressions : List Expression)
    (guards : AllGuard name consumes free expressions) :
    Drafting.Yields (fun drafts => ∀ draft ∈ drafts, draft.Steady journey free)
      (draftAll globals (.base cell) (.own name kind cell) expressions) := by
  cases expressions with
  | nil => exact .pure fun _ member => nomatch member
  | cons first rest =>
    refine (draft_steady lead inner free first guards.1).bind fun draft one _ => ?_
    exact (draftAll_steady lead inner free rest guards.2).bind fun all others _ => .pure (List.forall_mem_cons.mpr ⟨one, others⟩)
termination_by structural expressions

end

end Steady

end Expression

end TextGrammar
