import TextGrammar.Proofs.RuleLimits

/-! Runs that do the same. No run reads the trace, so what is run from stores that agree apart from it does
the same, and so does what differs in no more than the objects around it. Where the runs of a grammar stay
among some stores, whatever is known there may be used of what they answer with. -/

namespace TextGrammar
open Filter TextGrammar.Action

variable {α β γ δ : Type}

theorem Cell.Alike.symm {same : Prop} {first second : Cell} (alike : first.Alike same second) : second.Alike same first := by
  obtain ⟨name, kind, builder, definition, building, active, calls, limit⟩ := alike
  exact ⟨name.symm, kind.symm, builder.symm, definition.symm, building.symm, active.symm, calls.symm,
    fun free => (limit free).symm⟩

theorem Cell.Alike.trans {same : Prop} {first second third : Cell} (one : first.Alike same second)
    (two : second.Alike same third) : first.Alike same third :=
  ⟨one.name.trans two.name, one.kind.trans two.kind, one.builder.trans two.builder,
    one.definition.trans two.definition, one.building.trans two.building, one.active.trans two.active,
    one.calls.trans two.calls, fun free => (one.limit free).trans (two.limit free)⟩

namespace Store.Agree
variable {guarded : Option CellId} {first second third : Store}

theorem symm (agree : first.Agree guarded second) : second.Agree guarded first :=
  ⟨agree.verbose.symm, agree.names.symm, agree.assigned.symm, agree.tallies.symm, agree.running.symm, agree.size.symm,
    fun cell => (agree.cells cell).symm⟩

theorem trans (one : first.Agree guarded second) (two : second.Agree guarded third) : first.Agree guarded third :=
  ⟨one.verbose.trans two.verbose, one.names.trans two.names, one.assigned.trans two.assigned,
    one.tallies.trans two.tallies, one.running.trans two.running, one.size.trans two.size,
    fun cell => (one.cells cell).trans (two.cells cell)⟩

theorem record_left (agree : first.Agree guarded second) (event : Event) : (first.record event).Agree guarded second :=
  ⟨agree.verbose, agree.names, agree.assigned, agree.tallies, agree.running, agree.size, agree.cells⟩

/-- Stores that are the same without their traces agree. -/
theorem of_untraced (same : { first with trace := [] } = { second with trace := [] }) : first.Agree guarded second := by
  cases first
  cases second
  cases same
  exact ⟨rfl, rfl, rfl, rfl, rfl, rfl, fun _ => .refl _ _⟩

end Store.Agree

/-- A store that is known apart from its trace. -/
def Store.Known (known : Store → Prop) (store : Store) : Prop :=
  ∃ clean, known clean ∧ clean.Agree none store

namespace Store.Known
variable {known : Store → Prop} {store other : Store}

theorem of (holds : known store) : store.Known known :=
  ⟨store, holds, .refl none store⟩

theorem congr (is : store.Known known) (agree : store.Agree none other) : other.Known known := by
  obtain ⟨clean, holds, same⟩ := is
  exact ⟨clean, holds, same.trans agree⟩

theorem flatten (is : store.Known (Store.Known known)) : store.Known known := by
  obtain ⟨clean, holds, agree⟩ := is
  exact holds.congr agree

end Store.Known

namespace Action

/-- How two actions end that do the same: with answers that correspond, with the same fault, or not at all.
The stores that they leave agree apart from their traces, and they are known where the actions answer. -/
inductive Meet (known : Store → Prop) (answers : α → β → Prop) : Except Halt α × Store → Except Halt β × Store → Prop
  | answer {answer other before after} : answers answer other → before.Known known → before.Agree none after →
      Meet known answers (.ok answer, before) (.ok other, after)
  | fault {fault before after} : before.Agree none after →
      Meet known answers (.error (.fault fault), before) (.error (.fault fault), after)
  | cut {before after} : Meet known answers (.error .exhausted, before) (.error .exhausted, after)

/-- Any store. -/
abbrev anywhere : Store → Prop := fun _ => True

theorem known_anywhere (store : Store) : store.Known anywhere := .of trivial

namespace Meet
variable {known : Store → Prop} {answers : α → β → Prop}

theorem symm {first : Except Halt α × Store} {second : Except Halt β × Store} (meet : Meet known answers first second) :
    Meet known (flip answers) second first := by
  cases meet with
  | answer related is agree => exact .answer related (is.congr agree) agree.symm
  | fault agree => exact .fault agree.symm
  | cut => exact .cut

/-- What ends as something else does ends as all does that this ends as. -/
theorem before {first middle : Except Halt α × Store} {last : Except Halt β × Store} (one : Meet anywhere Eq first middle)
    (two : Meet known answers middle last) : Meet known answers first last := by
  cases one with
  | answer same _ here =>
    cases two with
    | answer related is there => exact .answer (same ▸ related) (is.congr here.symm) (here.trans there)
  | fault here =>
    cases two with
    | fault there => exact .fault (here.trans there)
  | cut =>
    cases two with
    | cut => exact .cut

theorem after {first : Except Halt α × Store} {middle last : Except Halt β × Store} (one : Meet known answers first middle)
    (two : Meet anywhere Eq last middle) : Meet known answers first last :=
  (two.before one.symm).symm

/-- What one action goes on with in two ways. -/
theorem bind {first : Action γ} {next : γ → Action α} {later : γ → Action β} {store : Store}
    (rest : ∀ answer middle, first.exec store = (.ok answer, middle) →
      Meet known answers ((next answer).exec middle) ((later answer).exec middle)) :
    Meet known answers ((first >>= next).exec store) ((first >>= later).exec store) := by
  rw [exec_bind, exec_bind]
  rcases ended : first.exec store with ⟨halt | answer, middle⟩
  · cases halt with
    | fault fault => exact .fault (.refl none middle)
    | exhausted => exact .cut
  · exact rest answer middle ended

end Meet

/-- Actions that do the same from known stores that agree. -/
def Mirrors (known : Store → Prop) (answers : α → β → Prop) (first : Action α) (second : Action β) : Prop :=
  ∀ ⦃before after⦄, before.Known known → before.Agree none after → Meet known answers (first.exec before) (second.exec after)

namespace Mirrors
variable {known : Store → Prop} {answers : α → β → Prop} {results : γ → δ → Prop} {first : Action α} {second : Action β}

theorem pure {answer : α} {other : β} (related : answers answer other) :
    Mirrors known answers (Pure.pure answer) (Pure.pure other) :=
  fun _ _ is agree => .answer related is agree

theorem fault (fault : Fault) : Mirrors known answers (Action.ofExcept (.error fault)) (Action.ofExcept (.error fault)) :=
  fun _ _ _ agree => .fault agree

theorem ofExcept (outcome : Except Fault α) : Mirrors known Eq (Action.ofExcept outcome) (Action.ofExcept outcome) := by
  cases outcome with
  | ok answer => exact .pure rfl
  | error cause => exact .fault cause

theorem throw : Mirrors known answers (MonadExcept.throw Halt.exhausted : Action α) (MonadExcept.throw Halt.exhausted : Action β) :=
  fun _ _ _ _ => .cut

theorem weaken {wider : α → β → Prop} (mirrors : Mirrors known answers first second)
    (more : ∀ answer other, answers answer other → wider answer other) : Mirrors known wider first second := by
  intro before after is agree
  have meet := mirrors is agree
  generalize first.exec before = one at meet ⊢
  generalize second.exec after = two at meet ⊢
  cases meet with
  | answer related is agree => exact .answer (more _ _ related) is agree
  | fault agree => exact .fault agree
  | cut => exact .cut

theorem bind {next : α → Action γ} {later : β → Action δ} (mirrors : Mirrors known answers first second)
    (rest : ∀ answer other, answers answer other → Mirrors known results (next answer) (later other)) :
    Mirrors known results (first >>= next) (second >>= later) := by
  intro before after is agree
  have meet := mirrors is agree
  rw [exec_bind, exec_bind]
  generalize first.exec before = one at meet ⊢
  generalize second.exec after = two at meet ⊢
  cases meet with
  | answer related is agree => exact rest _ _ related is agree
  | fault agree => exact .fault agree
  | cut => exact .cut

/-- What goes on with a match, or finds none. -/
theorem onward {matched further : Match → Match → Prop} {first second : Action (Option Match)}
    {next later : Match → Action (Option Match)} (mirrors : Mirrors known (Option.Rel matched) first second)
    (rest : ∀ found other, matched found other → Mirrors known (Option.Rel further) (next found) (later other)) :
    Mirrors known (Option.Rel further)
      (do
        let some found ← first | return none
        next found)
      (do
        let some found ← second | return none
        later found) := by
  refine mirrors.bind fun found other related => ?_
  cases related with
  | none => exact .pure .none
  | some related => exact rest _ _ related

theorem symm (mirrors : Mirrors known answers first second) : Mirrors known (flip answers) second first :=
  fun _ _ is agree => (mirrors (is.congr agree) agree.symm).symm

/-- What does the same everywhere does the same from known stores as what it does the same as. -/
theorem before {next : Action α} (one : Mirrors anywhere Eq next first) (two : Mirrors known answers first second) :
    Mirrors known answers next second :=
  fun before _ is agree => (one (known_anywhere before) (.refl none before)).before (two is agree)

theorem eqSymm {next : Action α} (one : Mirrors known Eq next first) : Mirrors known Eq first next :=
  one.symm.weaken fun _ _ => Eq.symm

theorem after {later : Action β} (mirrors : Mirrors known answers first second) (two : Mirrors anywhere Eq later second) :
    Mirrors known answers first later :=
  (two.before mirrors.symm).symm

/-- The same on both sides. -/
theorem between {next : Action α} {later : Action β} (one : Mirrors anywhere Eq next first)
    (mirrors : Mirrors known answers first second) (two : Mirrors anywhere Eq later second) : Mirrors known answers next later :=
  (one.before mirrors).after two

/-- The trace makes no difference. -/
theorem recording {next : Action α} (event : Event) (mirrors : Mirrors known answers next second) :
    Mirrors known answers (record event >>= fun _ => next) second :=
  fun _ _ is agree => mirrors (is.congr ((Store.Agree.refl none _).record_left event).symm) (agree.record_left event)

end Mirrors

end Action

namespace Rule
variable (rule : Rule) (text : Text) (start : Int)

/-- A run that is not cut off is no other one where only the trace is. -/
theorem limit_meets {before after : Store} (agree : before.Agree none after)
    (finished : ((limit rule text start).exec before).1 ≠ .error .exhausted) :
    Meet anywhere Eq ((limit rule text start).exec before) ((limit rule text start).exec after) := by
  obtain ⟨fuel, same⟩ := (limit_settles rule text start before finished).exists
  rw [← same] at finished ⊢
  have here : (Alignment.refuelled False text).place start start := rfl
  have ends := (Alignment.refuelled_runs False text fuel 0).aligned rule.builtFrom_any here
    ⟨agree, before.builtFrom_any, False.elim⟩
  change Alignment.Ends _ _ ((Rule.run fuel rule text start).exec before)
    ((Rule.run fuel rule text start).exec after) at ends
  have settled := run_settles_limit rule text start fuel after
  generalize (Rule.run fuel rule text start).exec before = one at ends finished ⊢
  rcases ended : (Rule.run fuel rule text start).exec after with ⟨outcome, final⟩
  rw [ended] at ends settled
  cases ends with
  | answer related stores =>
    rw [eventually_const.mp (settled (by simp))]
    exact .answer (Alignment.twin_outcomes related) (known_anywhere _) stores.agree
  | @halt halt _ _ _ related stores =>
    obtain rfl := related
    cases halt with
    | exhausted => exact absurd rfl finished
    | fault fault =>
      rw [eventually_const.mp (settled (by simp))]
      exact .fault stores.agree
  | behind gaveUp _ =>
    obtain rfl := gaveUp
    exact absurd rfl finished

theorem limit_mirrors : Mirrors anywhere Eq (limit rule text start) (limit rule text start) := by
  intro before after _ agree
  by_cases finished : ((limit rule text start).exec before).1 = .error .exhausted
  · by_cases other : ((limit rule text start).exec after).1 = .error .exhausted
    · rw [← Prod.eta ((limit rule text start).exec before), ← Prod.eta ((limit rule text start).exec after), finished, other]
      exact .cut
    · have meet := limit_meets rule text start agree.symm other
      generalize (limit rule text start).exec before = one at meet finished
      generalize (limit rule text start).exec after = two at meet other
      cases meet <;> simp_all
  · exact limit_meets rule text start agree finished

variable {rule}

/-- A rule does what its step does. -/
theorem limit_mirrors_step (direct : rule.Direct) :
    Mirrors anywhere Eq (limit rule text start) (Runner.step limit rule text start) := by
  intro before after is agree
  have meet := limit_mirrors rule text start is agree
  rcases limit_eq_step text start direct after with same | ⟨cut, other⟩
  · rwa [← same]
  · rw [← Prod.eta ((Runner.step limit rule text start).exec after), other]
    generalize (limit rule text start).exec before = one at meet ⊢
    generalize (limit rule text start).exec after = two at meet cut
    cases meet with
    | cut => exact .cut
    | answer => cases cut
    | fault => cases cut

/-- An object runs as its body does. -/
theorem limit_object (tag : Tag) (traced : Bool) (body : Rule) :
    Mirrors anywhere Eq (limit (.object tag traced body) text start) (limit body text start) := by
  have step : Mirrors anywhere Eq (Runner.step limit (.object tag traced body) text start) (limit body text start) := by
    refine .recording _ ?_
    cases traced with
    | false => exact limit_mirrors body text start
    | true =>
      intro before after is agree
      exact limit_mirrors body text start (known_anywhere _) (agree.record_left _)
  exact (limit_mirrors_step text start (show (Rule.object tag traced body).Direct from trivial)).before step

variable {text start}

theorem limit_object_step {tag : Tag} {traced : Bool} {body : Rule} (direct : body.Direct) :
    Mirrors anywhere Eq (limit (.object tag traced body) text start) (Runner.step limit body text start) :=
  (limit_object text start tag traced body).before (limit_mirrors_step text start direct)

end Rule

namespace Action.Mirrors
variable {known : Store → Prop} {rule other : Rule} {text : Text} {start : Int} {store before after : Store}

/-- What does the same in the limit comes to the same, from stores that agree. -/
theorem comes (mirrors : Mirrors known Eq (Rule.limit rule text start) (Rule.limit other text start))
    (is : before.Known known) (agree : before.Agree none store) {outcome : Except Fault (Option Match)}
    (comes : rule.Comes text start before outcome after) :
    ∃ final, other.Comes text start store outcome final ∧ after.Agree none final := by
  have meet := mirrors is agree
  rw [Rule.comes_iff.mp comes] at meet
  rcases ended : (Rule.limit other text start).exec store with ⟨result, final⟩
  rw [ended] at meet
  refine ⟨final, Rule.comes_iff.mpr (ended.trans ?_), ?_⟩
  · cases outcome with
    | ok answer =>
      cases meet with
      | answer same => exact congrArg (fun answer => (Except.ok answer, final)) same.symm
    | error fault =>
      cases meet with
      | fault => rfl
  · cases outcome with
    | ok answer =>
      cases meet with
      | answer _ _ agree => exact agree
    | error fault =>
      cases meet with
      | fault agree => exact agree

/-- What an object comes to is what its body does. -/
theorem comes_object (tag : Tag) (traced : Bool) {body : Rule} {outcome : Except Fault (Option Match)} (agree : before.Agree none store)
    (comes : body.Comes text start before outcome after) :
    ∃ final, (Rule.object tag traced body).Comes text start store outcome final ∧ after.Agree none final :=
  Mirrors.comes (Rule.limit_object text start tag traced body).eqSymm (known_anywhere _) agree comes

end Action.Mirrors

/-- What a run answers with is what its rule comes to, whatever the trace is. -/
theorem Rule.comes_of_run {rule : Rule} {text : Text} {start : Int} {store after : Store} {found : Option Match} (fuel : Nat)
    (ran : ((Rule.run fuel rule text start).exec store).map id (fun left => { left with trace := [] }) =
      (.ok found, { after with trace := [] })) :
    ∃ final, rule.Comes text start store (.ok found) final ∧ after.Agree none final := by
  obtain ⟨answers, leaves⟩ := Prod.mk.inj ran
  exact ⟨_, ⟨fuel, Prod.ext answers rfl⟩, .of_untraced leaves.symm⟩

end TextGrammar
