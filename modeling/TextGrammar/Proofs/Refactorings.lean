import TextGrammar.Proofs.CountedRuns

/-! Grammars put together in another way. Sequences can be grouped from either side, apart from how the pairs
of three parsers nest, and so can choices, which are also made at once or one after the other. Each way runs
the same grammars at the same offsets in the same order, so it comes to the same in every store, whatever
the builders of the grammars do. -/

namespace TextGrammar
open TextGrammar.Action

variable {text : Text} {start : Int} {store : Store} {first second third : Grammar} {kind other last : Kind}

/-- A grammar whose matches have values if it is a parser, where it runs behind a match of another one. -/
def Grammar.Fits (made behind : Grammar) (text : Text) (start : Int) (store : Store) : Prop :=
  ∀ ⦃found stop middle next after⦄, behind.rule.Comes text start store (.ok (some found)) middle →
    found.stopAs behind.kind = .ok stop → made.rule.Comes text stop middle (.ok (some next)) after → made.kind.Suits next.value

/-- A grammar that is known to match with a value behind the match that another one is known to have. -/
theorem Grammar.Fits.of_comes {made behind : Grammar} {found next : Match} {stop : Int} {middle after : Store}
    (first : behind.rule.Comes text start store (.ok (some found)) middle) (stopped : found.stopAs behind.kind = .ok stop)
    (comes : made.rule.Comes text stop middle (.ok (some next)) after) (suits : made.kind.Suits next.value) :
    made.Fits behind text start store := by
  intro other place between item final again ended matched
  obtain ⟨same, rfl⟩ := first.unique again
  cases same
  cases stopped.symm.trans ended
  cases (comes.unique matched).1
  exact suits

namespace Match
variable {found next item : Match}

/-- A value in front of a pair, as a pair in front of a value. -/
def regrouped (found : Match) : Match :=
  match found.value with
  | some (.tuple [one, .tuple [two, three]]) => .yielding (.tuple [.tuple [one, two], three]) found.stop
  | _ => found

/-- Three matches in sequence, the last two of them first, as if it were the first two: only the pairs of three
parsers nest in another way. -/
def grouped (kind other last : Kind) (found : Match) : Match :=
  match kind, other, last with
  | .parser, .parser, .parser => found.regrouped
  | _, _, _ => found

/-- Two matches in sequence end as the second one does. -/
theorem followedBy_stopAs (suits : kind.Suits found.value) (suited : other.Suits next.value) :
    ∃ both, found.followedBy kind other next = .ok both ∧ both.stopAs (kind.joined other) = next.stopAs other := by
  refine ⟨_, followedBy_of_suits suits suited, ?_⟩
  rw [stopAs_of_suits suited, stopAs_of_suits (suits.paired suited)]

/-- Two matches of parsers in sequence are a pair. -/
theorem followedBy_parsers {both : Match} (is : found.followedBy .parser .parser next = .ok both) :
    ∃ one two, next.value = some two ∧ both = .yielding (.tuple [one, two]) next.stop := by
  obtain ⟨one, -, is⟩ := ok_of_bind is
  obtain ⟨two, second, is⟩ := ok_of_bind is
  cases is
  refine ⟨one, two, ?_, rfl⟩
  cases valued : next.value with
  | none =>
    rw [valueAs, valued] at second
    cases second
  | some value =>
    rw [valueAs, valued] at second
    cases second
    rfl

/-- Which two of three matches come first makes no difference, apart from how pairs nest. -/
theorem followedBy_grouped (suits : kind.Suits found.value) (suited : other.Suits next.value) (item : Match) :
    (do (← found.followedBy kind other next).followedBy (kind.joined other) last item) =
      grouped kind other last <$> (do found.followedBy kind (other.joined last) (← next.followedBy other last item)) := by
  rcases found with ⟨value, stop⟩
  rcases next with ⟨value', stop'⟩
  rcases item with ⟨value'', stop''⟩
  cases kind with
  | pattern =>
    cases other with
    | pattern => rfl
    | parser =>
      obtain ⟨value', rfl⟩ := Option.isSome_iff_exists.mp (suited rfl)
      cases last <;> cases value'' <;> rfl
  | parser =>
    obtain ⟨value, rfl⟩ := Option.isSome_iff_exists.mp (suits rfl)
    cases other with
    | pattern => cases last <;> cases value'' <;> rfl
    | parser =>
      obtain ⟨value', rfl⟩ := Option.isSome_iff_exists.mp (suited rfl)
      cases last <;> cases value'' <;> rfl

end Match

theorem Action.ofExcept_ok {α : Type} (answer : α) : ofExcept (.ok answer) = pure answer := rfl

/-- What goes on in the same way. -/
theorem Action.Mirrors.bind_eq {α β : Type} {first second : Action α} {next : α → Action β}
    (mirrors : Mirrors anywhere Eq first second) (rest : ∀ answer, Mirrors anywhere Eq (next answer) (next answer)) :
    Mirrors anywhere Eq (first >>= next) (second >>= next) :=
  mirrors.bind fun answer _ same => same ▸ rest answer

namespace Rule
variable {rule next rest : Rule}

/-- A match and where it ends. -/
def ended (kind : Kind) : Option Match → Action (Option (Match × Int))
  | none => return none
  | some found => return some (found, ← ofExcept (found.stopAs kind))

/-- What has been matched, and where it ends, is what the rule comes to. -/
theorem past_found {found : Match} {stop : Int} {after : Store}
    (ended : (past kind rule text start).exec store = (.ok (some (found, stop)), after)) :
    rule.Comes text start store (.ok (some found)) after ∧ found.stopAs kind = .ok stop := by
  rw [past, exec_bind] at ended
  rcases ran : (limit rule text start).exec store with ⟨halt | _ | found, after⟩
  · rw [ran] at ended
    cases ended
  · rw [ran] at ended
    cases ended
  · rw [ran] at ended
    cases stopped : found.stopAs kind with
    | error fault =>
      simp only [stopped] at ended
      cases ended
    | ok stop =>
      simp only [stopped] at ended
      cases ended
      exact ⟨comes_iff.mpr ran, stopped⟩

theorem past_eq_ended (kind : Kind) (rule : Rule) (text : Text) (start : Int) :
    past kind rule text start = limit rule text start >>= ended kind := by
  refine bind_congr fun found => ?_
  cases found <;> rfl

theorem combined_mirrors (found : Match) (answer : Option Match) :
    Mirrors anywhere Eq (combined kind other found answer) (combined kind other found answer) := by
  cases answer with
  | none => exact .pure rfl
  | some next => exact (Mirrors.ofExcept _).bind fun both _ same => .pure (congrArg some same)

/-- What a sequence goes on with is the same in stores that agree. -/
theorem ended_continued_mirrors (answer : Option Match) :
    Mirrors anywhere Eq (ended kind answer >>= continued kind other rest text)
      (ended kind answer >>= continued kind other rest text) := by
  cases answer with
  | none => exact .pure rfl
  | some found =>
    simp only [ended, bind_assoc, pure_bind, continued]
    refine (Mirrors.ofExcept _).bind fun stop _ same => same ▸ ?_
    exact (limit_mirrors rest text stop).bind fun next _ same => same ▸ combined_mirrors found next

/-- What follows two matches may as well follow the second of them before that follows the first. -/
theorem combined_grouped {found one both : Match} (suits : kind.Suits found.value) (suited : other.Suits one.value)
    (is : found.followedBy kind other one = .ok both) (item : Option Match) :
    Mirrors anywhere (fun answer raw => answer = raw.map (Match.grouped kind other last))
      (combined (kind.joined other) last both item)
      (combined other last one item >>= combined kind (other.joined last) found) := by
  cases item with
  | none => exact .pure rfl
  | some item =>
    have groups : both.followedBy (kind.joined other) last item = Match.grouped kind other last <$>
        (do found.followedBy kind (other.joined last) (← one.followedBy other last item)) := by
      rw [← Match.followedBy_grouped suits suited item, is]
      rfl
    rw [combined, groups]
    change Mirrors _ _ _
      ((ofExcept (one.followedBy other last item) >>= fun next => pure (some next)) >>= combined kind (other.joined last) found)
    cases one.followedBy other last item with
    | error fault => exact .fault fault
    | ok pair =>
      change Mirrors _ _ (ofExcept (Match.grouped kind other last <$> found.followedBy kind (other.joined last) pair) >>= fun all =>
        pure (some all)) (ofExcept (found.followedBy kind (other.joined last) pair) >>= fun all => pure (some all))
      cases found.followedBy kind (other.joined last) pair with
      | error fault => exact .fault fault
      | ok all => exact .pure rfl

theorem limit_sequence (tag : Tag) (traced : Bool) (start : Int) :
    Mirrors anywhere Eq (limit (.object tag traced (.sequence kind other rule next)) text start)
      (past kind rule text start >>= continued kind other next text) := by
  rw [← step_sequence]
  exact limit_object_step (by trivial)

/-- Sequences of three can be grouped from either side. -/
theorem sequence_meets (suits : ∀ ⦃found stop middle item after⦄, rule.Comes text start store (.ok (some found)) middle →
      found.stopAs kind = .ok stop → next.Comes text stop middle (.ok (some item)) after → other.Suits item.value)
    (outer inner whole tail : Tag) (traced told tried logged : Bool) :
    Meet anywhere (fun answer raw => answer = raw.map (Match.grouped kind other last))
      ((limit (.object outer traced (.sequence (kind.joined other) last (.object inner told (.sequence kind other rule next)) rest))
        text start).exec store)
      ((limit (.object whole tried (.sequence kind (other.joined last) rule (.object tail logged (.sequence other last next rest))))
        text start).exec store) := by
  have from_ {α β : Type} {answers : α → β → Prop} {one : Action α} {two : Action β} (mirrors : Mirrors anywhere answers one two)
      (store : Store) : Meet anywhere answers (one.exec store) (two.exec store) :=
    mirrors (known_anywhere store) (.refl none store)
  refine .before (from_ (limit_sequence outer traced start) store) (.after ?_ (from_ (limit_sequence whole tried start) store))
  rw [past_eq_ended, bind_assoc]
  refine .before (from_ ((limit_sequence inner told start).bind_eq ended_continued_mirrors) store) ?_
  rw [bind_assoc]
  refine .bind fun one middle ran => ?_
  cases one with
  | none => exact .answer rfl (known_anywhere _) (.refl none middle)
  | some one =>
    obtain ⟨found, stop⟩ := one
    obtain ⟨first, stopped⟩ := past_found ran
    have suited := (Match.suits_of_stopAs stopped).1
    refine .after ?_ (from_ ((limit_sequence tail logged stop).bind_eq (combined_mirrors found)) middle)
    rw [past_eq_ended, bind_assoc, bind_assoc, continued, bind_assoc]
    refine .bind fun one after ran => ?_
    cases one with
    | none => exact .answer rfl (known_anywhere _) (.refl none after)
    | some one =>
      have fit := suits first stopped (comes_iff.mpr ran)
      obtain ⟨both, is, stops⟩ := Match.followedBy_stopAs suited fit
      rw [Match.stopAs_of_suits fit] at stops
      simp only [combined, is, ended, ofExcept_ok, stops, Match.stopAs_of_suits fit, pure_bind, bind_assoc, continued]
      refine .bind fun item last _ => ?_
      exact from_ (combined_grouped suited fit is item) last

/-- What a sequence has matched are two matches. -/
theorem sequence_found {tag : Tag} {traced : Bool} {found : Match}
    (gives : (Rule.object tag traced (.sequence kind other rule next)).Gives text start store (.ok (some found))) :
    ∃ (one two : Match) (stop : Int) (middle : Store), next.Gives text stop middle (.ok (some two)) ∧
      one.followedBy kind other two = .ok found := by
  obtain ⟨after, is⟩ := ((limit_sequence tag traced start).ends_eq store _).mp (gives_iff.mp gives)
  have yields : (past kind rule text start >>= continued kind other next text).Yields (some found) := ⟨store, after, is⟩
  obtain ⟨answer, -, yields⟩ := yields.bind
  cases answer with
  | none =>
    obtain ⟨_, _, is⟩ := yields
    cases is
  | some pair =>
    obtain ⟨one, stop⟩ := pair
    obtain ⟨answer, ⟨middle, last, second⟩, yields⟩ := yields.bind
    cases answer with
    | none =>
      obtain ⟨_, _, is⟩ := yields
      cases is
    | some two =>
      obtain ⟨both, ⟨_, _, is⟩, _, _, same⟩ := yields.bind
      cases same
      refine ⟨one, two, stop, middle, ⟨last, comes_iff.mpr second⟩, ?_⟩
      cases follows : one.followedBy kind other two with
      | error fault =>
        rw [follows] at is
        cases is
      | ok found =>
        rw [follows] at is
        cases is
        rfl

/-- A rule that does what the first of some alternatives does that matches. -/
def Chooses (rule : Rule) (text : Text) (alternatives : List Rule) : Prop :=
  ∀ start, Mirrors anywhere Eq (limit rule text start) (Runner.firstOf (limit · text start) alternatives)

theorem firstOf_append (attempt : Rule → Action (Option Match)) (rules others : List Rule) :
    Runner.firstOf attempt (rules ++ others) = Runner.firstOf attempt rules >>= fun
      | some found => return some found
      | none => Runner.firstOf attempt others := by
  induction rules with
  | nil => rfl
  | cons rule rest ih =>
    rw [List.cons_append, Runner.firstOf, Runner.firstOf, bind_assoc]
    refine bind_congr fun answer => ?_
    cases answer with
    | none => exact ih
    | some found => rfl

namespace Chooses
variable {alternatives others : List Rule}

theorem single (rule : Rule) (text : Text) : rule.Chooses text [rule] := by
  intro start
  have same : Runner.firstOf (limit · text start) [rule] = limit rule text start >>= pure := by
    refine bind_congr fun answer => ?_
    cases answer <;> rfl
  rw [same, bind_pure]
  exact limit_mirrors rule text start

/-- Alternatives that do the same one by one. -/
theorem congr (chooses : rule.Chooses text alternatives)
    (same : List.Forall₂ (fun one two => ∀ start, Mirrors anywhere Eq (limit one text start) (limit two text start))
      alternatives others) :
    rule.Chooses text others := by
  intro start
  refine Mirrors.before (chooses start) ?_
  clear chooses
  induction same with
  | nil => exact .pure rfl
  | cons one _ ih =>
    refine (one start).bind fun answer _ same => ?_
    subst same
    cases answer with
    | none => exact ih
    | some found => exact .pure rfl

theorem orElse (one : rule.Chooses text alternatives) (two : next.Chooses text others) (tag : Tag) (traced : Bool) :
    (Rule.object tag traced (.orElse rule next)).Chooses text (alternatives ++ others) := by
  intro start
  rw [firstOf_append]
  refine Mirrors.before (limit_object_step (by trivial)) ?_
  refine (one start).bind fun answer _ same => ?_
  subst same
  cases answer with
  | none => exact two start
  | some found => exact .pure rfl

theorem either (rules : List Rule) (text : Text) (tag : Tag) (traced : Bool) :
    (Rule.object tag traced (.either rules)).Chooses text rules :=
  fun _ => limit_object_step (by trivial)

/-- Rules with the same alternatives come to the same. -/
theorem gives_iff (one : rule.Chooses text alternatives) (two : next.Chooses text alternatives) (store : Store) (start : Int)
    (outcome : Except Fault (Option Match)) : rule.Gives text start store outcome ↔ next.Gives text start store outcome := by
  rw [Rule.gives_iff, Rule.gives_iff, (one start).ends_eq, (two start).ends_eq]

end Chooses

end Rule

namespace Operand
variable {operand : Operand}

/-- However often a word is made a grammar, it does the same. -/
theorem Stands.mirrors (one : operand.Stands first) (two : operand.Stands second) (text : Text) (start : Int) :
    Mirrors anywhere Eq (Rule.limit first.rule text start) (Rule.limit second.rule text start) := by
  cases one with
  | grammar =>
    cases two
    exact Rule.limit_mirrors _ text start
  | word =>
    cases two
    exact .between (Rule.limit_leaf _ _ _) (.ofExcept _) (Rule.limit_leaf _ _ _)

end Operand

namespace Grammar
variable {operand : Operand} {made whole : Grammar}

/-- A grammar that does not match, and leaves all as it is. -/
def Never (made : Grammar) (text : Text) (start : Int) (store : Store) : Prop :=
  ∃ after, made.rule.Comes text start store (.ok none) after ∧ store.Agree none after

theorem asAlternative_yields (yields : (asAlternative kind operand).Yields (some made)) :
    operand.Stands made ∧ made.kind = kind := by
  obtain ⟨before, after, is⟩ := yields
  cases operand with
  | grammar other =>
    rw [asAlternative] at is
    split at is
    next same =>
      cases is
      exact ⟨.grammar made, same⟩
    next => cases is
  | raw value =>
    cases value with
    | str word =>
      rw [asAlternative] at is
      split at is
      next same =>
        cases is
        exact ⟨.word word _ _, same.symm⟩
      next => cases is
    | _ => cases is

/-- What is made of an operand as an alternative, or else refused. -/
theorem alternative_yields {next : Grammar → Action Grammar} (yields : (asAlternative kind operand >>= fun
      | some made => next made
      | none => do fail (← notAlternative kind operand)).Yields whole) :
    ∃ made, operand.Stands made ∧ made.kind = kind ∧ (next made).Yields whole := by
  obtain ⟨alternative, one, yields⟩ := yields.bind
  cases alternative with
  | none =>
    obtain ⟨fault, -, before, after, is⟩ := yields.bind
    cases is
  | some made =>
    obtain ⟨stands, same⟩ := asAlternative_yields one
    exact ⟨made, stands, same, yields⟩

theorem orElse_yields (yields : (made.orElse operand).Yields whole) : ∃ other tag traced, operand.Stands other ∧
    other.kind = made.kind ∧ whole = ⟨made.kind, tag, .object tag traced (.orElse made.rule other.rule)⟩ := by
  obtain ⟨other, stands, kind, before, after, is⟩ := alternative_yields yields
  cases is
  exact ⟨other, _, _, stands, kind, rfl⟩

theorem alternatives_yield {operands : List Operand} {alternatives : List Grammar} (yields : (operands.mapM fun operand => do
      match ← asAlternative kind operand with
      | some alternative => return alternative
      | none => fail (← notAlternative kind operand) : Action (List Grammar)).Yields alternatives) :
    List.Forall₂ Operand.Stands operands alternatives := by
  induction operands generalizing alternatives with
  | nil =>
    obtain ⟨_, _, is⟩ := yields
    cases is
    exact .nil
  | cons operand rest ih =>
    rw [List.mapM_cons] at yields
    obtain ⟨one, first, yields⟩ := yields.bind
    obtain ⟨others, further, _, _, is⟩ := yields.bind
    cases is
    obtain ⟨_, stands, -, _, _, is⟩ := alternative_yields first
    cases is
    exact .cons stands (ih further)

theorem either_yields {operands : List Operand} (yields : (either kind operands).Yields whole) : ∃ alternatives tag traced,
    List.Forall₂ Operand.Stands operands alternatives ∧
      whole = ⟨kind, tag, .object tag traced (.either (alternatives.map Grammar.rule))⟩ := by
  obtain ⟨alternatives, made, yields⟩ := yields.bind
  obtain ⟨names, -, before, after, is⟩ := yields.bind
  cases is
  exact ⟨alternatives, _, _, alternatives_yield made, rfl⟩

/-- Alternatives one after the other, behind some others. -/
theorem foldl_chooses {operands : List Operand} {folded : Grammar} {alternatives : List Rule}
    (chooses : made.rule.Chooses text alternatives)
    (yields : (operands.foldlM orElse made).Yields folded) :
    ∃ grammars, List.Forall₂ Operand.Stands operands grammars ∧
      folded.rule.Chooses text (alternatives ++ grammars.map Grammar.rule) := by
  induction operands generalizing made alternatives with
  | nil =>
    obtain ⟨_, _, is⟩ := yields
    cases is
    exact ⟨[], .nil, by rwa [List.map_nil, List.append_nil]⟩
  | cons operand rest ih =>
    rw [List.foldlM_cons] at yields
    obtain ⟨next, one, yields⟩ := yields.bind
    obtain ⟨other, tag, traced, stands, -, rfl⟩ := orElse_yields one
    obtain ⟨grammars, all, chooses⟩ := ih (chooses.orElse (.single other.rule text) tag traced) yields
    refine ⟨other :: grammars, .cons stands all, ?_⟩
    rwa [List.append_assoc] at chooses

theorem stands_mirrors {operands : List Operand} {one two : List Grammar} (stands : List.Forall₂ Operand.Stands operands one)
    (others : List.Forall₂ Operand.Stands operands two) (text : Text) :
    List.Forall₂ (fun one two => ∀ start, Mirrors anywhere Eq (Rule.limit one text start) (Rule.limit two text start))
      (one.map Grammar.rule) (two.map Grammar.rule) := by
  induction stands generalizing two with
  | nil =>
    cases others
    exact .nil
  | cons stands _ ih =>
    cases others with
    | cons other rest => exact .cons (stands.mirrors other text) (ih rest)

/-- Sequences of three are the same however they are grouped, apart from how pairs nest. -/
theorem grouped_gives (fits : second.Fits first text start store) {left right : Grammar}
    (lefts : (first.followedByGrammar second >>= (·.followedByGrammar third)).Yields left)
    (rights : (second.followedByGrammar third >>= first.followedByGrammar).Yields right) (outcome : Except Fault (Option Match)) :
    left.rule.Gives text start store outcome ↔ ∃ raw, right.rule.Gives text start store raw ∧
      outcome = Option.map (Match.grouped first.kind second.kind third.kind) <$> raw := by
  obtain ⟨front, one, lefts⟩ := lefts.bind
  obtain ⟨back, two, rights⟩ := rights.bind
  obtain ⟨inner, told, rfl⟩ := followedByGrammar_yields one
  obtain ⟨outer, traced, rfl⟩ := followedByGrammar_yields lefts
  obtain ⟨tail, logged, rfl⟩ := followedByGrammar_yields two
  obtain ⟨whole, tried, rfl⟩ := followedByGrammar_yields rights
  simp only [Rule.gives_iff]
  exact (Rule.sequence_meets fits outer inner whole tail traced told tried logged).ends_iff outcome

/-- What three parsers match that are grouped from the right is a value in front of a pair. -/
theorem grouped_pairs {right : Grammar} (one : first.kind = .parser) (two : second.kind = .parser) (three : third.kind = .parser)
    (rights : (second.followedByGrammar third >>= first.followedByGrammar).Yields right) {found : Match}
    (gives : right.rule.Gives text start store (.ok (some found))) :
    ∃ x y z stop, found = .yielding (.tuple [x, .tuple [y, z]]) stop := by
  obtain ⟨back, tail, rights⟩ := rights.bind
  obtain ⟨inner, told, rfl⟩ := followedByGrammar_yields tail
  obtain ⟨outer, traced, rfl⟩ := followedByGrammar_yields rights
  rw [one, two, three] at gives
  obtain ⟨before, pair, stop, middle, again, is⟩ := Rule.sequence_found gives
  obtain ⟨x, value, valued, rfl⟩ := Match.followedBy_parsers is
  obtain ⟨_, item, _, _, -, is⟩ := Rule.sequence_found again
  obtain ⟨y, z, -, rfl⟩ := Match.followedBy_parsers is
  cases valued
  exact ⟨x, y, z, item.stop, rfl⟩

/-- So three grammars in sequence come to the same however they are grouped, but for the pairs of three parsers. -/
theorem sequences_give (fits : second.Fits first text start store) {left right : Grammar}
    (lefts : (first.followedByGrammar second >>= (·.followedByGrammar third)).Yields left)
    (rights : (second.followedByGrammar third >>= first.followedByGrammar).Yields right) :
    (first.kind = .pattern ∨ second.kind = .pattern ∨ third.kind = .pattern → ∀ outcome,
      left.rule.Gives text start store outcome ↔ right.rule.Gives text start store outcome) ∧
    (first.kind = .parser → second.kind = .parser → third.kind = .parser →
      (∀ fault, left.rule.Gives text start store (.error fault) ↔ right.rule.Gives text start store (.error fault)) ∧
      (left.rule.Gives text start store (.ok none) ↔ right.rule.Gives text start store (.ok none)) ∧
      ∀ found, left.rule.Gives text start store (.ok (some found)) ↔ ∃ x y z stop,
        found = .yielding (.tuple [.tuple [x, y], z]) stop ∧
          right.rule.Gives text start store (.ok (some (.yielding (.tuple [x, .tuple [y, z]]) stop)))) := by
  have gives outcome : left.rule.Gives text start store outcome ↔ _ := grouped_gives fits lefts rights outcome
  refine ⟨fun pattern outcome => ?_, fun one two three => ⟨fun fault => ?_, ?_, fun found => ?_⟩⟩
  · have same : Match.grouped first.kind second.kind third.kind = id := by
      funext found
      generalize first.kind = one at pattern
      generalize second.kind = two at pattern
      generalize third.kind = three at pattern
      cases one <;> cases two <;> cases three <;> simp_all [Match.grouped]
    rw [gives, same]
    simp
  · rw [gives]
    refine ⟨?_, fun right => ⟨_, right, rfl⟩⟩
    rintro ⟨_ | _ | raw, right, ⟨⟩⟩
    exact right
  · rw [gives]
    refine ⟨?_, fun right => ⟨_, right, rfl⟩⟩
    rintro ⟨_ | _ | raw, right, ⟨⟩⟩
    exact right
  · rw [gives, one, two, three]
    constructor
    · rintro ⟨_ | _ | raw, right, ⟨⟩⟩
      obtain ⟨x, y, z, stop, rfl⟩ := grouped_pairs one two three rights right
      exact ⟨x, y, z, stop, rfl, right⟩
    · rintro ⟨x, y, z, stop, rfl, right⟩
      exact ⟨_, right, rfl⟩

/-- Choices of three are the same however they are grouped, and at once. -/
theorem choices_give {left right whole : Grammar}
    (lefts : (first.orElse (.grammar second) >>= (·.orElse (.grammar third))).Yields left)
    (rights : (second.orElse (.grammar third) >>= fun rest => first.orElse (.grammar rest)).Yields right)
    (wholes : (either first.kind [.grammar first, .grammar second, .grammar third]).Yields whole)
    (outcome : Except Fault (Option Match)) :
    (left.rule.Gives text start store outcome ↔ right.rule.Gives text start store outcome) ∧
      (left.rule.Gives text start store outcome ↔ whole.rule.Gives text start store outcome) := by
  obtain ⟨front, one, lefts⟩ := lefts.bind
  obtain ⟨back, two, rights⟩ := rights.bind
  obtain ⟨_, inner, told, ⟨⟩, -, rfl⟩ := orElse_yields one
  obtain ⟨_, outer, traced, ⟨⟩, -, rfl⟩ := orElse_yields lefts
  obtain ⟨_, tail, logged, ⟨⟩, -, rfl⟩ := orElse_yields two
  obtain ⟨_, all, tried, ⟨⟩, -, rfl⟩ := orElse_yields rights
  obtain ⟨_, tag, debug, stands, rfl⟩ := either_yields wholes
  cases stands with | cons one stands => cases stands with | cons two stands => cases stands with | cons three stands =>
  cases one
  cases two
  cases three
  cases stands
  have left := ((Rule.Chooses.single first.rule text).orElse (.single second.rule text) inner told).orElse
    (.single third.rule text) outer traced
  have right := (Rule.Chooses.single first.rule text).orElse
    ((Rule.Chooses.single second.rule text).orElse (.single third.rule text) tail logged) all tried
  exact ⟨left.gives_iff right store start outcome, left.gives_iff (.either _ text tag debug) store start outcome⟩

/-- Alternatives at once are what they are one after the other, behind what does not match. -/
theorem folded_gives {never folded : Grammar} {operands : List Operand} (nowhere : never.Never text start store)
    (wholes : (either never.kind operands).Yields whole) (folds : (operands.foldlM orElse never).Yields folded)
    (outcome : Except Fault (Option Match)) :
    whole.rule.Gives text start store outcome ↔ folded.rule.Gives text start store outcome := by
  obtain ⟨alternatives, tag, traced, stands, rfl⟩ := either_yields wholes
  obtain ⟨grammars, others, chooses⟩ := foldl_chooses (.single never.rule text) folds
  obtain ⟨after, comes, same⟩ := nowhere
  have chosen := ((Rule.Chooses.either _ text tag traced).congr (stands_mirrors stands others text) start)
    (known_anywhere store) same
  have folded : Meet anywhere Eq ((Rule.limit folded.rule text start).exec store)
      ((Runner.firstOf (Rule.limit · text start) (grammars.map Grammar.rule)).exec after) := by
    have meet := chooses start (known_anywhere store) (.refl none store)
    rwa [List.singleton_append, Runner.firstOf, exec_bind_ok (Rule.comes_iff.mp comes)] at meet
  rw [Rule.gives_iff, Rule.gives_iff, chosen.ends_eq, folded.ends_eq]

end Grammar

end TextGrammar
