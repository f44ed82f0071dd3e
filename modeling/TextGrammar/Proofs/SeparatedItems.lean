import Mathlib.Data.List.Forall2
import TextGrammar.Proofs.MirroredRuns
import TextGrammar.Proofs.Readings

/-! Items with separators between them, beside what they consist of: an item, and then a separator and an
item as often as possible. Both run the same grammars at the same offsets. What they have apart are the
values, for those of separators are dropped, and the first item comes into the list of the others. -/

namespace TextGrammar
open TextGrammar.Action

variable {α β : Type} {known : Store → Prop} {text : Text} {start : Int} {made : Grammar}

/-- What an action can answer with. -/
def Action.Yields (action : Action α) (answer : α) : Prop :=
  ∃ before after, action.exec before = (.ok answer, after)

theorem Action.Yields.bind {action : Action α} {next : α → Action β} {answer : β} (yields : (action >>= next).Yields answer) :
    ∃ middle, action.Yields middle ∧ (next middle).Yields answer := by
  obtain ⟨before, after, ended⟩ := yields
  rcases first : action.exec before with ⟨halt | middle, between⟩
  · rw [exec_bind_error first] at ended
    cases ended
  · rw [exec_bind_ok first] at ended
    exact ⟨middle, ⟨before, between, first⟩, between, after, ended⟩

/-- What a rule comes to, whatever it leaves behind. -/
def Rule.Gives (rule : Rule) (text : Text) (start : Int) (store : Store) (outcome : Except Fault (Option Match)) : Prop :=
  ∃ after, rule.Comes text start store outcome after

/-- What an action comes to, if that is not cut off. -/
def Action.Ends (action : Action (Option Match)) (store : Store) (outcome : Except Fault (Option Match)) : Prop :=
  ∃ after, action.exec store = (outcome.mapError .fault, after)

theorem Rule.gives_iff {rule : Rule} {store : Store} {outcome : Except Fault (Option Match)} :
    rule.Gives text start store outcome ↔ (limit rule text start).Ends store outcome :=
  exists_congr fun _ => comes_iff

/-- A grammar whose runs stay among some stores. -/
def Grammar.Stays (made : Grammar) (text : Text) (known : Store → Prop) : Prop :=
  ∀ ⦃store start found after⦄, known store → made.rule.Comes text start store (.ok found) after → known after

/-- A grammar that respects offsets: what it matches ends between its start and the end of the text, with a
value if the grammar is a parser. -/
structure Grammar.Regular (made : Grammar) (text : Text) (known : Store → Prop) : Prop where
  stays : made.Stays text known
  suits ⦃store start found after⦄ : known store → made.rule.Comes text start store (.ok (some found)) after →
    made.kind.Suits found.value
  within ⦃store start found after⦄ : known store → 0 ≤ start → start ≤ (text.size : Int) →
    made.rule.Comes text start store (.ok (some found)) after → start ≤ found.stop ∧ found.stop ≤ text.size

namespace Match

theorem suits_of_stopAs {kind : Kind} {found : Match} {stop : Int} (stopped : found.stopAs kind = .ok stop) :
    kind.Suits found.value ∧ found.stop = stop := by
  cases kind with
  | pattern => exact ⟨.pattern _, Except.ok.inj stopped⟩
  | parser =>
    obtain ⟨value, valued, ended⟩ := ok_of_bind stopped
    refine ⟨fun _ => ?_, Except.ok.inj ended⟩
    rw [valueAs] at valued
    split at valued
    next is => simp [is]
    next => cases valued

end Match

/-- What ends in the same way apart from its answer comes to the same apart from that. -/
theorem Action.Meet.ends_iff {first second : Action (Option Match)} {change : Option Match → Option Match}
    {store other : Store} (meet : Meet known (fun answer raw => answer = change raw) (first.exec store) (second.exec other))
    (outcome : Except Fault (Option Match)) :
    first.Ends store outcome ↔ ∃ raw, second.Ends other raw ∧ outcome = change <$> raw := by
  unfold Action.Ends
  generalize first.exec store = one at meet ⊢
  generalize second.exec other = two at meet ⊢
  constructor
  · rintro ⟨after, rfl⟩
    cases outcome with
    | ok answer =>
      cases meet with
      | answer same => exact ⟨.ok _, ⟨_, rfl⟩, congrArg Except.ok same⟩
    | error fault =>
      cases meet with
      | fault => exact ⟨.error fault, ⟨_, rfl⟩, rfl⟩
  · rintro ⟨raw, ⟨after, rfl⟩, rfl⟩
    cases raw with
    | ok answer =>
      cases meet with
      | answer same => exact ⟨_, congrArg (fun answer => (Except.ok answer, _)) same⟩
    | error fault =>
      cases meet with
      | fault => exact ⟨_, rfl⟩

theorem Action.Meet.ends_eq {first second : Action (Option Match)} {store other : Store}
    (meet : Meet known Eq (first.exec store) (second.exec other)) (outcome : Except Fault (Option Match)) :
    first.Ends store outcome ↔ second.Ends other outcome := by
  have same : Meet known (fun answer raw => answer = id raw) (first.exec store) (second.exec other) := meet
  simp [same.ends_iff]

namespace Action.Mirrors

theorem ends_iff {first second : Action (Option Match)} {change : Option Match → Option Match}
    (mirrors : Mirrors known (fun answer raw => answer = change raw) first second) {store : Store} (is : store.Known known)
    (outcome : Except Fault (Option Match)) :
    first.Ends store outcome ↔ ∃ raw, second.Ends store raw ∧ outcome = change <$> raw :=
  (mirrors is (.refl none store)).ends_iff outcome

theorem ends_eq {first second : Action (Option Match)} (mirrors : Mirrors anywhere Eq first second) (store : Store)
    (outcome : Except Fault (Option Match)) : first.Ends store outcome ↔ second.Ends store outcome :=
  (mirrors (known_anywhere store) (.refl none store)).ends_eq outcome

theorem map {γ : Type} {answers : γ → β → Prop} {first : Action α} {second : Action β} {change : α → γ}
    (mirrors : Mirrors known (fun answer other => answers (change answer) other) first second) :
    Mirrors known answers (change <$> first) second := by
  have same : Mirrors known answers (first >>= fun answer => Pure.pure (change answer)) (second >>= Pure.pure) :=
    mirrors.bind fun _ _ related => .pure related
  rwa [← map_eq_pure_bind, bind_pure] at same

/-- Loops whose rounds do the same and end in the same places. -/
theorem repeatFrom {matched : Match → Match → Prop} {first second : Int → Action (Option Match)}
    (each : ∀ position, Mirrors known (Option.Rel matched) (first position) (second position)) {kind other : Kind}
    (stops : ∀ found next, matched found next → found.stopAs kind = next.stopAs other) (size bound : Nat) (position : Int)
    (ahead before : Array Match) :
    Mirrors known
      (fun one two => one.2 = two.2 ∧ ∃ found next, one.1 = ahead ++ found.toArray ∧ two.1 = before ++ next.toArray ∧
        List.Forall₂ matched found next)
      (Runner.repeatFrom first kind size bound position ahead) (Runner.repeatFrom second other size bound position before) := by
  induction bound generalizing position ahead before with
  | zero => exact .throw
  | succ bound ih =>
    refine (each position).bind fun found next related => ?_
    cases related with
    | none => exact .pure ⟨rfl, [], [], by simp, by simp, .nil⟩
    | @some found next related =>
      dsimp only
      rw [stops found next related]
      refine (Mirrors.ofExcept (next.stopAs other)).bind fun stop same => ?_
      rintro rfl
      split
      · exact .pure ⟨rfl, [found], [next], by simp, by simp, .cons related .nil⟩
      · refine (ih stop (ahead.push found) (before.push next)).weaken ?_
        rintro ⟨ones, _⟩ ⟨twos, last⟩ ⟨rfl, founds, nexts, is, are, all⟩
        exact ⟨rfl, found :: founds, next :: nexts, is.trans (by simp), are.trans (by simp), .cons related all⟩

end Action.Mirrors

namespace Grammar.Stays
variable (stays : made.Stays text known) (start : Int)
include stays

/-- Runs that stay among some stores do the same wherever these are known. -/
theorem mirrors : Mirrors known (fun answer other => answer = other ∧
      ∃ store after, known store ∧ made.rule.Comes text start store (.ok answer) after)
    (Rule.limit made.rule text start) (Rule.limit made.rule text start) := by
  rintro before after ⟨clean, holds, same⟩ agree
  have one := Rule.limit_mirrors made.rule text start (known_anywhere clean) same
  have two := Rule.limit_mirrors made.rule text start (known_anywhere clean) (same.trans agree)
  rcases ended : (Rule.limit made.rule text start).exec clean with ⟨outcome, last⟩
  rw [ended] at one two
  generalize (Rule.limit made.rule text start).exec before = first at one ⊢
  generalize (Rule.limit made.rule text start).exec after = second at two ⊢
  cases one with
  | @answer answer _ _ _ equal _ here =>
    cases two with
    | answer equals _ there =>
      obtain rfl := equal
      obtain rfl := equals
      have comes : made.rule.Comes text start clean (.ok answer) last := Rule.comes_iff.mpr ended
      exact .answer ⟨rfl, clean, last, holds, comes⟩ ⟨last, stays holds comes, here⟩ (here.symm.trans there)
  | fault here =>
    cases two with
    | fault there => exact .fault (here.symm.trans there)
  | cut =>
    cases two with
    | cut => exact .cut

end Grammar.Stays

/-- What is matched behind something else has its value. -/
theorem Grammar.Regular.mirrors (regular : made.Regular text known) (start : Int) :
    Mirrors known (Option.Rel fun found next => found = next ∧ made.kind.Suits next.value)
      (Rule.limit made.rule text start) (Rule.limit made.rule text start) := by
  refine (regular.stays.mirrors start).weaken ?_
  rintro answer _ ⟨rfl, store, after, holds, comes⟩
  cases answer with
  | none => exact .none
  | some found => exact .some ⟨rfl, regular.suits holds comes⟩

namespace Rule

theorem limit_leaf (recognise : Leaf) (tag : Tag) (traced : Bool) :
    Mirrors anywhere Eq (limit (.object tag traced (.leaf recognise)) text start) (ofExcept (recognise text start)) :=
  limit_object_step (by trivial)

/-- The run of a rule of some kind, and where it ends. -/
noncomputable def past (kind : Kind) (rule : Rule) (text : Text) (start : Int) : Action (Option (Match × Int)) := do
  match ← limit rule text start with
  | none => return none
  | some found => return some (found, ← ofExcept (found.stopAs kind))

/-- A match and what follows it. -/
def combined (kind other : Kind) (found : Match) : Option Match → Action (Option Match)
  | none => return none
  | some next => return some (← ofExcept (found.followedBy kind other next))

/-- What a sequence goes on with when its first part is over. -/
noncomputable def continued (kind other : Kind) (rule : Rule) (text : Text) : Option (Match × Int) → Action (Option Match)
  | none => return none
  | some (found, stop) => limit rule text stop >>= combined kind other found

theorem step_sequence (kind other : Kind) (first second : Rule) (text : Text) (start : Int) :
    Runner.step limit (.sequence kind other first second) text start =
      past kind first text start >>= continued kind other second text := by
  rw [past, bind_assoc]
  refine bind_congr fun found => ?_
  cases found with
  | none => rw [pure_bind]; rfl
  | some found =>
    dsimp only
    rw [bind_assoc]
    refine bind_congr fun stop => ?_
    rw [pure_bind]
    refine bind_congr fun next => ?_
    cases next <;> rfl

/-- The loop of a repetition. -/
noncomputable def loop (kind : Kind) (rule : Rule) (text : Text) (start : Int) (found : Array Match) : Action (Array Match × Int) :=
  Runner.repeatFrom (limit rule text) kind text.size (Runner.rounds text start) start found

theorem step_separated (kind : Kind) (first rest : Rule) (text : Text) (start : Int) :
    Runner.step limit (.separated kind first rest) text start = past kind first text start >>= fun
      | none => return none
      | some (found, stop) => do
        let (all, stop) ← loop kind rest text stop #[found]
        return some (.collected kind all stop) := by
  rw [past, bind_assoc]
  refine bind_congr fun found => ?_
  cases found with
  | none => rw [pure_bind]
  | some found =>
    dsimp only
    rw [bind_assoc]
    refine bind_congr fun stop => ?_
    rw [pure_bind]
    rfl

/-- A repetition is its loop, apart from what it logs. -/
theorem limit_many (kind : Kind) (item tag : Tag) (traced : Bool) (rule : Rule) :
    Mirrors anywhere Eq (limit (.object tag traced (.many kind item rule)) text start)
      ((fun all => some (.collected kind all.1 all.2)) <$> loop kind rule text start #[]) := by
  refine (limit_object_step (by trivial)).before ?_
  have rounds position : Mirrors anywhere (Option.Rel Eq) (limit rule text position) (limit rule text position) := by
    refine (limit_mirrors rule text position).weaken fun found _ same => same ▸ ?_
    cases found with
    | none => exact .none
    | some found => exact .some rfl
  rw [map_eq_pure_bind]
  refine (Mirrors.repeatFrom rounds (fun _ _ same => same ▸ rfl) _ _ start #[] #[]).bind fun one two same => ?_
  obtain ⟨all, stop⟩ := one
  obtain ⟨others, last⟩ := two
  obtain ⟨rfl, found, next, rfl, rfl, equal⟩ := same
  obtain rfl := List.forall₂_eq_eq_eq ▸ equal
  intro before after is agree
  rw [exec_bind_ok (exec_get before)]
  dsimp only
  split
  · exact .answer rfl (known_anywhere _) (agree.record_left _)
  · exact .answer rfl (known_anywhere _) agree

/-- A sequence goes on with a repetition as it does with the loop. -/
theorem continued_many (kind other : Kind) (item tag : Tag) (traced : Bool) (rule : Rule) (found : Match) :
    Mirrors anywhere Eq (continued kind other (.object tag traced (.many other item rule)) text (some (found, start)))
      (do
        let all ← loop other rule text start #[]
        return some (← ofExcept (found.followedBy kind other (.collected other all.1 all.2)))) := by
  have goes : Mirrors anywhere Eq (limit (.object tag traced (.many other item rule)) text start >>= combined kind other found)
      ((fun all => some (.collected other all.1 all.2)) <$> loop other rule text start #[] >>= combined kind other found) := by
    refine (limit_many other item tag traced rule).bind fun next _ same => ?_
    subst same
    cases next with
    | none => exact .pure rfl
    | some next => exact (Mirrors.ofExcept _).bind fun both _ same => .pure (congrArg some same)
  rw [bind_map_left] at goes
  exact goes

theorem past_mirrors {rule other : Rule} {kind kinds : Kind} {matched : Match → Match → Prop}
    (mirrors : Mirrors known (Option.Rel matched) (limit rule text start) (limit other text start))
    (stops : ∀ found next, matched found next → found.stopAs kind = next.stopAs kinds) :
    Mirrors known (Option.Rel fun one two => matched one.1 two.1 ∧ one.2 = two.2 ∧ two.1.stopAs kinds = .ok two.2)
      (past kind rule text start) (past kinds other text start) := by
  refine mirrors.bind fun found next related => ?_
  cases related with
  | none => exact .pure .none
  | @some found next related =>
    dsimp only
    rw [stops found next related]
    cases stopped : next.stopAs kinds with
    | error fault => exact .fault fault
    | ok stop => exact .pure (.some ⟨related, rfl, stopped⟩)

/-- Patterns that do the same end in the same places. -/
theorem past_mirrors_pattern {rule other : Rule} (mirrors : Mirrors known Eq (limit rule text start) (limit other text start)) :
    Mirrors known (Option.Rel fun one two => one.2 = two.2 ∧ Kind.pattern.Suits two.1.value)
      (past .pattern rule text start) (past .pattern other text start) := by
  refine mirrors.bind fun found _ same => ?_
  subst same
  cases found with
  | none => exact .pure .none
  | some found => exact .pure (.some ⟨rfl, .pattern _⟩)

/-- A parser without its value ends where it does. -/
theorem past_erased (rule : Rule) (tag : Tag) (traced : Bool) :
    Mirrors anywhere Eq (past .pattern (.object tag traced (.erased rule)) text start)
      (Option.map (fun one => (.span one.2, one.2)) <$> past .parser rule text start) := by
  have step : Option.map (fun one => (Match.span one.2, one.2)) <$> past .parser rule text start =
      (Runner.step limit (.erased rule) text start >>= fun
        | none => return none
        | some found => return some (found, ← ofExcept (found.stopAs .pattern))) := by
    rw [past, map_eq_pure_bind, Runner.step, bind_assoc, bind_assoc]
    refine bind_congr fun found => ?_
    cases found with
    | none => rfl
    | some found => rw [bind_assoc, bind_assoc]; rfl
  rw [step]
  refine (limit_object_step (by trivial)).bind fun found _ same => ?_
  subst same
  cases found with
  | none => exact .pure rfl
  | some found => exact .pure rfl

end Rule

/-- A separator as it stands: a grammar, and for a word the literal of it. -/
inductive Operand.Stands : Operand → Grammar → Prop
  | grammar (made : Grammar) : Stands (.grammar made) made
  | word (word : String) (tag : Tag) (traced : Bool) :
      Stands (.raw (.str word)) ⟨.pattern, tag, .object tag traced (.leaf (Leaf.literal word))⟩

/-- An operand whose runs stay among some stores, if it is a grammar. -/
def Operand.Stays (operand : Operand) (text : Text) (known : Store → Prop) : Prop :=
  ∀ made, operand = .grammar made → made.Stays text known

namespace Operand.Stands
variable {separator : Operand} {between pattern : Grammar}

/-- What a separator is as a pattern does what it does as it stands, and ends where that does. -/
theorem past_mirrors (stands : separator.Stands between) (yields : (Grammar.asPattern separator).Yields pattern)
    (stays : separator.Stays text known) (start : Int) :
    Mirrors known (Option.Rel fun one two => one.2 = two.2 ∧ between.kind.Suits two.1.value)
      (Rule.past .pattern pattern.rule text start) (Rule.past between.kind between.rule text start) := by
  obtain ⟨before, after, made⟩ := yields
  cases stands with
  | grammar =>
    have self := (stays _ rfl).mirrors start
    rcases between with ⟨kind, tag, rule⟩
    cases kind with
    | pattern =>
      cases made
      exact Rule.past_mirrors_pattern (self.weaken fun _ _ => And.left)
    | parser =>
      cases made
      have ends : Mirrors known (Option.Rel Eq) (Rule.limit rule text start) (Rule.limit rule text start) := by
        refine self.weaken fun answer _ same => same.1 ▸ ?_
        cases answer with
        | none => exact .none
        | some found => exact .some rfl
      refine (Rule.past_erased rule _ _).before (.map ?_)
      refine (Rule.past_mirrors ends fun _ _ same => same ▸ rfl).weaken fun one two related => ?_
      cases related with
      | none => exact .none
      | some related => exact .some ⟨related.2.1, (Match.suits_of_stopAs related.2.2).1⟩
  | word word tag traced =>
    cases made
    exact Rule.past_mirrors_pattern (.between (Rule.limit_leaf _ _ _) (.ofExcept _) (Rule.limit_leaf _ _ _))

end Operand.Stands

/-- The value of an item behind a separator, without the separator's own. -/
def Kind.dropped (separator : Kind) (pair : Value) : Value :=
  match separator, pair with
  | .parser, .tuple [_, item] => item
  | _, value => value

/-- A first item and the further ones with their separators, as the items alone. -/
def Match.unseparated (kind separator : Kind) (found : Match) : Match :=
  match kind, found.value with
  | .parser, some (.tuple [first, .list further]) => yielding (.list (first :: further.map separator.dropped)) found.stop
  | _, _ => span found.stop

/-- An item, and what it is together with the separator before it. -/
structure Match.Unpaired (kind separator : Kind) (item both : Match) : Prop where
  stop : item.stop = both.stop
  suits : (separator.joined kind).Suits both.value
  value : kind = .parser → item.value = both.value.map separator.dropped

namespace Match.Unpaired
variable {kind separator : Kind} {item both : Match}

theorem stopAs (unpaired : Unpaired kind separator item both) : item.stopAs kind = both.stopAs (separator.joined kind) := by
  have suits : kind.Suits item.value := by
    rintro rfl
    rw [unpaired.value rfl, Option.isSome_map]
    exact unpaired.suits (by cases separator <;> rfl)
  rw [stopAs_of_suits suits, stopAs_of_suits unpaired.suits, unpaired.stop]

/-- A match behind that of a separator is an item that stands behind it. -/
theorem behind {before : Match} (suits : separator.Suits before.value) (suited : kind.Suits item.value) :
    ∃ both, before.followedBy separator kind item = .ok both ∧ Unpaired kind separator item both := by
  refine ⟨_, followedBy_of_suits suits suited, rfl, suits.paired suited, ?_⟩
  rintro rfl
  obtain ⟨value, is⟩ := Option.isSome_iff_exists.mp (suited rfl)
  cases separator <;> simp [Kind.paired, Kind.dropped, is]

theorem values {items pairs : List Match} (unpaired : List.Forall₂ (Unpaired .parser separator) items pairs) :
    items.filterMap Match.value = (pairs.filterMap Match.value).map separator.dropped := by
  induction unpaired with
  | nil => rfl
  | @cons item both _ _ is _ ih =>
    rw [List.filterMap_cons, List.filterMap_cons, is.value rfl, ih]
    cases both.value <;> rfl

/-- Items that are collected alone, and behind a first one with their separators. -/
theorem collected {first : Match} {items pairs : List Match} (suits : kind.Suits first.value) (stop : Int)
    (unpaired : List.Forall₂ (Unpaired kind separator) items pairs) :
    ∃ raw, first.followedBy kind (separator.joined kind) (.collected (separator.joined kind) pairs.toArray stop) = .ok raw ∧
      Match.collected kind (#[first] ++ items.toArray) stop = raw.unseparated kind separator := by
  cases kind with
  | pattern =>
    refine ⟨_, rfl, ?_⟩
    cases separator <;> rfl
  | parser =>
    obtain ⟨value, stop⟩ := first
    obtain ⟨value, rfl⟩ := Option.isSome_iff_exists.mp (suits rfl)
    have joined : separator.joined .parser = .parser := by cases separator <;> rfl
    rw [joined]
    refine ⟨_, rfl, ?_⟩
    simp [Match.collected, Match.unseparated, Match.yielding, ← values unpaired]

end Match.Unpaired

section Rounds
variable {separator : Operand} {between pattern : Grammar} (stands : separator.Stands between)
  (yields : (Grammar.asPattern separator).Yields pattern) (stays : separator.Stays text known) (regular : made.Regular text known)
  (inner around : Tag) (traced logged : Bool)
include stands yields stays regular

/-- A separator and an item, with the value of the separator and without it. -/
theorem round_mirrors (start : Int) : Mirrors known (Option.Rel (Match.Unpaired made.kind between.kind))
    (Rule.limit (.object inner traced (.sequence .pattern made.kind pattern.rule made.rule)) text start)
    (Rule.limit (.object around logged (.sequence between.kind made.kind between.rule made.rule)) text start) := by
  refine Mirrors.between (Rule.limit_object_step (by trivial)) ?_ (Rule.limit_object_step (by trivial))
  rw [Rule.step_sequence, Rule.step_sequence]
  refine (stands.past_mirrors yields stays start).bind fun one two related => ?_
  cases related with
  | none => exact .pure .none
  | @some one two related =>
    obtain ⟨before, stop⟩ := one
    obtain ⟨apart, _⟩ := two
    obtain ⟨rfl, suits⟩ := related
    refine (regular.mirrors stop).bind fun item next same => ?_
    cases same with
    | none => exact .pure .none
    | @some item _ same =>
      obtain ⟨rfl, suited⟩ := same
      obtain ⟨both, follows, unpaired⟩ := Match.Unpaired.behind suits suited
      simp only [Rule.combined, follows]
      exact .pure (.some unpaired)

/-- So items do what they consist of does, apart from the values. -/
theorem separated_mirrors (start : Int) (outer whole all item : Tag) (tried told debug : Bool) :
    Mirrors known (fun answer raw => answer = raw.map (Match.unseparated made.kind between.kind))
      (Rule.limit (.object outer tried (.separated made.kind made.rule
        (.object inner traced (.sequence .pattern made.kind pattern.rule made.rule)))) text start)
      (Rule.limit (.object whole told (.sequence made.kind (between.kind.joined made.kind) made.rule
        (.object all debug (.many (between.kind.joined made.kind) item
          (.object around logged (.sequence between.kind made.kind between.rule made.rule)))))) text start) := by
  refine Mirrors.between (Rule.limit_object_step (by trivial)) ?_ (Rule.limit_object_step (by trivial))
  rw [Rule.step_separated, Rule.step_sequence]
  refine (Rule.past_mirrors (regular.mirrors start) fun found _ same => same.1 ▸ rfl).bind fun one two related => ?_
  cases related with
  | none => exact .pure rfl
  | @some one two related =>
    obtain ⟨first, stop⟩ := one
    obtain ⟨_, _⟩ := two
    obtain ⟨⟨rfl, suits⟩, rfl, -⟩ := related
    have rounds := round_mirrors stands yields stays regular inner around traced logged
    refine Mirrors.after ?_ (Rule.continued_many _ _ _ _ _ _ _)
    refine (Mirrors.repeatFrom rounds (fun _ _ => Match.Unpaired.stopAs) _ _ stop #[first] #[]).bind fun one two same => ?_
    obtain ⟨all, last⟩ := one
    obtain ⟨pairs, _⟩ := two
    obtain ⟨rfl, items, others, rfl, rfl, unpaired⟩ := same
    obtain ⟨raw, follows, is⟩ := Match.Unpaired.collected suits last unpaired
    simp only [Array.empty_append, follows, is]
    exact .pure rfl

end Rounds

/-- The kind of a separator as it stands. -/
def Operand.standing : Operand → Kind
  | .grammar made => made.kind
  | .raw _ => .pattern

namespace Grammar
variable {separator : Operand} {items : Grammar}

/-- What items with separators consist of: an item, and then a separator and an item as often as possible. -/
def itemsBetween (made : Grammar) (separator : Operand) : Action Grammar := do
  let further ← (← separator.sum (.grammar made)).asGrammar "zero_or_more"
  made.followedByGrammar (← further.many)

theorem followedByGrammar_yields {first second whole : Grammar} (yields : (first.followedByGrammar second).Yields whole) :
    ∃ tag traced, whole = ⟨first.kind.joined second.kind, tag,
      .object tag traced (.sequence first.kind second.kind first.rule second.rule)⟩ := by
  obtain ⟨before, after, is⟩ := yields
  cases is
  exact ⟨_, _, rfl⟩

theorem many_yields {whole : Grammar} (yields : made.many.Yields whole) :
    ∃ tag traced, whole = ⟨made.kind, tag, .object tag traced (.many made.kind made.tag made.rule)⟩ := by
  obtain ⟨before, after, is⟩ := yields
  cases is
  exact ⟨_, _, rfl⟩

theorem asPattern_yields {pattern : Grammar} (yields : (asPattern separator).Yields pattern) : pattern.kind = .pattern := by
  obtain ⟨before, after, is⟩ := yields
  cases separator with
  | grammar made =>
    rcases made with ⟨kind, tag, rule⟩
    cases kind <;> cases is <;> rfl
  | raw value =>
    cases value <;> cases is
    rfl

theorem separatedBy_yields (yields : (made.separatedBy separator).Yields items) :
    ∃ pattern outer tried inner traced, (asPattern separator).Yields pattern ∧
      items.rule = .object outer tried (.separated made.kind made.rule
        (.object inner traced (.sequence .pattern made.kind pattern.rule made.rule))) := by
  obtain ⟨pattern, between, yields⟩ := yields.bind
  obtain ⟨rest, further, before, after, is⟩ := yields.bind
  obtain ⟨inner, traced, rfl⟩ := followedByGrammar_yields further
  have kind := asPattern_yields between
  cases is
  rw [kind]
  exact ⟨pattern, _, _, inner, traced, between, rfl⟩

theorem itemsBetween_yields (yields : (made.itemsBetween separator).Yields items) :
    ∃ between whole told all debug item around logged, separator.Stands between ∧ separator.standing = between.kind ∧
      items.rule = .object whole told (.sequence made.kind (between.kind.joined made.kind) made.rule
        (.object all debug (.many (between.kind.joined made.kind) item
          (.object around logged (.sequence between.kind made.kind between.rule made.rule))))) := by
  obtain ⟨sum, summed, yields⟩ := yields.bind
  obtain ⟨further, is, yields⟩ := yields.bind
  obtain ⟨repeated, again, yields⟩ := yields.bind
  obtain ⟨all, debug, rfl⟩ := many_yields again
  obtain ⟨whole, told, rfl⟩ := followedByGrammar_yields yields
  obtain ⟨between, stands, standing, sequence⟩ : ∃ between : Grammar, separator.Stands between ∧
      separator.standing = between.kind ∧ ∃ item around logged, further = ⟨between.kind.joined made.kind, item,
        .object around logged (.sequence between.kind made.kind between.rule made.rule)⟩ := by
    obtain ⟨_, _, summed⟩ := summed
    obtain ⟨_, _, is⟩ := is
    cases separator with
    | grammar between =>
      cases summed
      cases is
      exact ⟨between, .grammar between, rfl, _, _, _, rfl⟩
    | raw value =>
      cases value <;> cases summed
      cases is
      exact ⟨_, .word _ _ _, rfl, _, _, _, rfl⟩
  obtain ⟨item, around, logged, rfl⟩ := sequence
  exact ⟨between, whole, told, all, debug, item, around, logged, stands, standing, rfl⟩

end Grammar

end TextGrammar
