import TextGrammar.Proofs.AlignedDefinitions

/-! Aligned runs of whole rules. One level of a run is aligned if the levels below are, whatever the
rule is; so are runs to any depth. -/

namespace TextGrammar.Alignment
open TextGrammar.Action

variable {pair : Alignment}

/-- What no rule here says of an alignment: that it lasts through invocations of its guarded cell. -/
def Guards (pair : Alignment) : Prop :=
  ∀ {runner other : Runner}, pair.Runs runner other → ∀ {cell : CellId}, pair.guarded = some cell →
    ∀ {rule : Rule}, rule.BuiltFrom pair.parts → ∀ {first second}, pair.place first second →
      pair.Aligned pair.Outcomes (runner.enter cell rule pair.text first)
        (other.enter cell rule pair.other second)

theorem guards_of_none (none : pair.guarded = none) : pair.Guards := by
  intro _ _ _ cell guarded
  rw [none] at guarded
  cases guarded

namespace Lawful
variable (lawful : pair.Lawful) (guards : pair.Guards) {runner other : Runner}
  (runs : pair.Runs runner other) {first second : Int} (related : pair.place first second)
include lawful guards runs related

theorem invoke (cell : CellId) :
    pair.Aligned pair.Outcomes (runner.invoke cell pair.text first)
      (other.invoke cell pair.other second) := by
  refine lawful.bind (lawful.resolve runs cell) (fun rule same equal => ?_) fun rule gives => ?_
  · obtain ⟨rfl, built⟩ := equal
    by_cases guarded : pair.guarded = some cell
    · exact guards runs guarded built related
    · exact lawful.enter runs guarded built related
  · exact Runner.enter_grows (fun rule text start => runs.keeps rule text start gives) cell rule _ _

omit guards in
theorem stepObject (tag : Tag) (traced : Bool) {body : Rule} (built : body.BuiltFrom pair.parts) :
    pair.Aligned pair.Outcomes (runner.step (.object tag traced body) pair.text first)
      (other.step (.object tag traced body) pair.other second) := by
  refine (lawful.parallel_record (.started related)).andThen fun _ _ _ => ?_
  cases traced with
  | false => exact runs.aligned built related
  | true =>
    refine Parallel.get.andThen fun store same stores => ?_
    rw [stores.agree.nameOf]
    exact (lawful.parallel_record (.tried _ related)).andThen fun _ _ _ => runs.aligned built related

omit guards in
theorem stepSequence (firstKind secondKind : Kind) {rule next : Rule}
    (built : rule.BuiltFrom pair.parts) (after : next.BuiltFrom pair.parts) :
    pair.Aligned pair.Outcomes
      (runner.step (.sequence firstKind secondKind rule next) pair.text first)
      (other.step (.sequence firstKind secondKind rule next) pair.other second) := by
  refine lawful.onFound (runs.aligned built related) (fun {found match'} same => ?_)
    fun found gives => ?_
  · refine (lawful.stopAs same firstKind).andThen fun stop last ended => ?_
    refine lawful.onFound (runs.aligned after ended) (fun later => ?_) fun found _ => ?_
    · refine ((lawful.followedBy same later firstKind secondKind).bind fun whole both joined => ?_).aligned
      exact .pure (.some joined)
    · exact (Grows.ofExcept _).bind fun _ => .pure _
  · refine (Grows.ofExcept _).bind fun stop => (runs.keeps next _ stop gives).bind fun outcome => ?_
    cases outcome with
    | none => exact .pure _
    | some later => exact (Grows.ofExcept _).bind fun _ => .pure _

omit guards related in
/-- The repetitions of a rule after what was found of it before. -/
theorem repeats (kind : Kind) {rule : Rule} (built : rule.BuiltFrom pair.parts)
    {found others : Array Match} {start place : Int}
    (same : pair.Collects (found, start) (others, place)) :
    pair.Aligned pair.Collects
      (Runner.repeatFrom (runner rule pair.text) kind pair.text.size
        (Runner.rounds pair.text start) start found)
      (Runner.repeatFrom (other rule pair.other) kind pair.other.size
        (Runner.rounds pair.other place) place others) := by
  rw [lawful.rounds same.stop]
  exact lawful.repeatFrom (runs.aligned built) (runs.keeps rule pair.other) kind _ same

omit guards in
theorem stepMany (kind : Kind) (tag : Tag) {rule : Rule} (built : rule.BuiltFrom pair.parts) :
    pair.Aligned pair.Outcomes (runner.step (.many kind tag rule) pair.text first)
      (other.step (.many kind tag rule) pair.other second) := by
  have start : pair.Collects (#[], first) (#[], second) := ⟨rfl, related⟩
  refine lawful.bind (lawful.repeats runs kind built start) (fun found others same => ?_)
    fun found _ => ?_
  · obtain ⟨found, stop⟩ := found
    obtain ⟨others, last⟩ := others
    refine Parallel.get.andThen fun store equal stores => ?_
    have count : found.size = others.size := by simpa using congrArg Array.size same.values
    rw [stores.agree.verbose, stores.agree.nameOf, count]
    have answers : pair.Parallel pair.Outcomes (pure (some (.collected kind found stop)))
      (pure (some (.collected kind others last))) := .pure (.some (same.collected kind))
    cases equal.verbose with
    | false => exact answers.aligned
    | true =>
      exact (lawful.parallel_record (.repeated _ _ same.stop)).andThen fun _ _ _ => answers.aligned
  · refine Grows.get.bind fun store => ?_
    cases store.verbose with
    | false => exact .pure _
    | true => exact (Grows.record _).bind fun _ => .pure _

omit guards in
theorem stepOneOrMore (kind : Kind) {rule : Rule} (built : rule.BuiltFrom pair.parts) :
    pair.Aligned pair.Outcomes (runner.step (.oneOrMore kind rule) pair.text first)
      (other.step (.oneOrMore kind rule) pair.other second) := by
  refine lawful.onFound (runs.aligned built related) (fun {found match'} same => ?_)
    fun found gives => ?_
  · refine (lawful.stopAs same kind).andThen fun stop last ended => ?_
    have once : pair.Collects (#[found], stop) (#[match'], last) := ⟨by simp [same.value], ended⟩
    have finished := or_congr (lawful.same related ended) (lawful.finished ended)
    by_cases here : last = second ∨ last = pair.other.size
    · rw [if_pos here, if_pos (finished.mpr here)]
      exact (Parallel.pure (.some (once.collected kind))).aligned
    · rw [if_neg here, if_neg (mt finished.mp here)]
      refine lawful.bind (lawful.repeats runs kind built once) (fun found others same => ?_)
        fun _ _ => .pure _
      exact (Parallel.pure (.some (same.collected kind))).aligned
  · refine (Grows.ofExcept _).bind fun stop => ?_
    split
    · exact .pure _
    · exact (Runner.repeatFrom_grows (fun start => runs.keeps rule _ start gives) kind _ _ _ _).bind
        fun _ => .pure _

omit guards in
theorem stepTimes (kind : Kind) (count : Nat) {rule : Rule} (built : rule.BuiltFrom pair.parts) :
    pair.Aligned pair.Outcomes (runner.step (.times kind count rule) pair.text first)
      (other.step (.times kind count rule) pair.other second) := by
  have start : pair.Collects (#[], first) (#[], second) := ⟨rfl, related⟩
  refine lawful.bind (lawful.repeatTimes (runs.aligned built) (runs.keeps rule pair.other) kind count
    start) (fun found others same => ?_) fun found _ => ?_
  · cases same with
    | none => exact (Parallel.pure .none).aligned
    | some same => exact (Parallel.pure (.some (same.collected kind))).aligned
  · cases found with
    | none => exact .pure _
    | some found => exact .pure _

omit guards in
theorem stepSeparated (kind : Kind) {rule rest : Rule} (built : rule.BuiltFrom pair.parts)
    (after : rest.BuiltFrom pair.parts) :
    pair.Aligned pair.Outcomes (runner.step (.separated kind rule rest) pair.text first)
      (other.step (.separated kind rule rest) pair.other second) := by
  refine lawful.onFound (runs.aligned built related) (fun {found match'} same => ?_)
    fun found gives => ?_
  · refine (lawful.stopAs same kind).andThen fun stop last ended => ?_
    have once : pair.Collects (#[found], stop) (#[match'], last) := ⟨by simp [same.value], ended⟩
    refine lawful.bind (lawful.repeats runs kind after once) (fun found others same => ?_)
      fun _ _ => .pure _
    exact (Parallel.pure (.some (same.collected kind))).aligned
  · refine (Grows.ofExcept _).bind fun stop => ?_
    exact (Runner.repeatFrom_grows (fun start => runs.keeps rest _ start gives) kind _ _ _ _).bind
      fun _ => .pure _

omit guards in
theorem stepCaptured (kind : Kind) {rule : Rule} (built : rule.BuiltFrom pair.parts) :
    pair.Aligned pair.Outcomes (runner.step (.captured kind rule) pair.text first)
      (other.step (.captured kind rule) pair.other second) := by
  refine lawful.onFound (runs.aligned built related) (fun same => ?_)
    fun _ _ => (Grows.ofExcept _).bind fun _ => .pure _
  refine (lawful.stopAs same kind).andThen fun stop last ended => ?_
  rw [lawful.slice related ended]
  exact (Parallel.pure (.some ⟨rfl, ended⟩)).aligned

omit guards in
theorem stepMap (transform : Value → Except Fault Value) {rule : Rule}
    (built : rule.BuiltFrom pair.parts) :
    pair.Aligned pair.Outcomes (runner.step (.map transform rule) pair.text first)
      (other.step (.map transform rule) pair.other second) := by
  refine lawful.onFound (runs.aligned built related) (fun same => ?_)
    fun _ _ => (Grows.ofExcept _).bind fun _ => (Grows.ofExcept _).bind fun _ => .pure _
  have any {α : Type} (outcome : Except Fault α) : pair.Makes (fun _ => True) (ofExcept outcome) :=
    lawful.makes_ofExcept outcome fun _ _ => trivial
  rw [same.valueAs]
  refine (any _).thenAligned fun value _ => (any _).thenAligned fun changed _ => ?_
  exact (Parallel.pure (.some ⟨rfl, same.stop⟩)).aligned

omit guards in
theorem stepFilter (accept : Value → Except Fault Bool) {rule : Rule}
    (built : rule.BuiltFrom pair.parts) :
    pair.Aligned pair.Outcomes (runner.step (.filter accept rule) pair.text first)
      (other.step (.filter accept rule) pair.other second) := by
  refine lawful.onFound (runs.aligned built related) (fun same => ?_)
    fun _ _ => (Grows.ofExcept _).bind fun _ => (Grows.ofExcept _).bind fun _ => .pure _
  have any {α : Type} (outcome : Except Fault α) : pair.Makes (fun _ => True) (ofExcept outcome) :=
    lawful.makes_ofExcept outcome fun _ _ => trivial
  rw [same.valueAs]
  refine (any _).thenAligned fun value _ => (any _).thenAligned fun accepted _ => ?_
  cases accepted with
  | true => exact (Parallel.pure (.some same)).aligned
  | false => exact (Parallel.pure .none).aligned

omit guards in
theorem stepBind (scope : Scope) {continuation : Value → Expression} {rule : Rule}
    (built : rule.BuiltFrom pair.parts) (after : ∀ value, (continuation value).BuiltFrom pair.parts) :
    pair.Aligned pair.Outcomes (runner.step (.bind scope continuation rule) pair.text first)
      (other.step (.bind scope continuation rule) pair.other second) := by
  refine lawful.onFound (runs.aligned built related) (fun same => ?_) fun found gives => ?_
  · rw [same.valueAs]
    exact (lawful.makes_ofExcept _ fun _ _ => trivial).thenAligned fun value _ =>
      lawful.continueWith runs scope (after value) same.stop
  · exact (Grows.ofExcept _).bind fun value => Runner.continueWith_grows
      (fun rule text start => runs.keeps rule text start gives) scope (continuation value) _ _

/-- One level of a run. -/
theorem step {rule : Rule} (built : rule.BuiltFrom pair.parts) :
    pair.Aligned pair.Outcomes (runner.step rule pair.text first)
      (other.step rule pair.other second) := by
  cases rule with
  | leaf recognise =>
    have finds := lawful.leaves built related
    generalize one : recognise pair.text first = answer at finds
    generalize two : recognise pair.other second = outcome at finds
    change pair.Aligned pair.Outcomes (ofExcept (recognise _ _)) (ofExcept (recognise _ _))
    rw [one, two]
    cases finds with
    | none => exact (Parallel.pure .none).aligned
    | found same => exact (Parallel.pure (.some same)).aligned
    | fault same => exact (Parallel.throw same).aligned
  | object tag traced body => exact lawful.stepObject runs related tag traced built
  | sequence firstKind secondKind rule next =>
    exact lawful.stepSequence runs related firstKind secondKind built.1 built.2
  | orElse rule next =>
    refine lawful.bind (runs.aligned built.1 related) (fun answer outcome same => ?_)
      fun outcome gives => ?_
    · cases same with
      | none => exact runs.aligned built.2 related
      | some same => exact (Parallel.pure (.some same)).aligned
    · cases outcome with
      | none => exact runs.keeps next _ _ gives
      | some found => exact .pure _
  | either rules =>
    exact lawful.firstOf (fun rule member => runs.aligned (built.mem member) related)
      fun rule => runs.keeps rule _ _
  | optional kind operand =>
    have built : operand.BuiltFrom pair.parts := built
    refine lawful.bind (runs.aligned built related) (fun answer outcome same => ?_)
      fun outcome _ => ?_
    · cases same with
      | none => cases kind <;> exact (Parallel.pure (.some ⟨rfl, related⟩)).aligned
      | some same => exact (Parallel.pure (.some same)).aligned
    · cases outcome <;> exact .pure _
  | many kind tag rule => exact lawful.stepMany runs related kind tag built
  | oneOrMore kind rule => exact lawful.stepOneOrMore runs related kind built
  | times kind count rule => exact lawful.stepTimes runs related kind count built
  | separated kind rule rest => exact lawful.stepSeparated runs related kind built.1 built.2
  | captured kind rule => exact lawful.stepCaptured runs related kind built
  | valued value operand =>
    have built : operand.BuiltFrom pair.parts := built
    refine lawful.onFound (runs.aligned built related) (fun same => ?_) fun _ _ => .pure _
    exact (Parallel.pure (.some ⟨rfl, same.stop⟩)).aligned
  | erased operand =>
    have built : operand.BuiltFrom pair.parts := built
    refine lawful.onFound (runs.aligned built related) (fun same => ?_)
      fun _ _ => (Grows.ofExcept _).bind fun _ => .pure _
    exact (lawful.stopAs same .parser).andThen fun stop last ended =>
      (Parallel.pure (.some ⟨rfl, ended⟩)).aligned
  | map transform rule => exact lawful.stepMap runs related transform built
  | filter accept rule => exact lawful.stepFilter runs related accept built
  | bind scope continuation rule => exact lawful.stepBind runs related scope built.1 built.2
  | retaining held operand =>
    have built : operand.BuiltFrom pair.parts := built
    exact runs.aligned built related
  | recursive cell => exact lawful.invoke guards runs related cell
  | placeholder cell =>
    refine Parallel.get.andThen fun store same stores => ?_
    rw [stores.agree.isOwned]
    cases same.isOwned cell with
    | true => exact lawful.invoke guards runs related cell
    | false =>
      rw [(stores.agree.cells cell).name]
      exact (lawful.makes_record (.refused cell)).thenAligned fun _ _ =>
        (Parallel.throw (lawful.halts _)).aligned

end Lawful

theorem Runs.step {runner other : Runner} (runs : pair.Runs runner other) (lawful : pair.Lawful)
    (guards : pair.Guards)
    (aside : ∀ {rest}, pair.parts.goesOn rest → ∀ text, (pair.aside text).Guards)
    (keeps : ∀ rule text start, pair.Keeps (other.step rule text start)) :
    pair.Runs runner.step other.step where
  aligned built _ _ related := lawful.step guards runs related built
  aside goesOn text _ built _ :=
    (lawful.aside goesOn text).step (aside goesOn text) (runs.turnAside goesOn text) rfl built
  keeps := keeps

/-- Runs to the same depth, where the second one keeps its trace. -/
theorem Lawful.run (lawful : pair.Lawful) (guards : pair.Guards)
    (aside : ∀ {rest}, pair.parts.goesOn rest → ∀ text, (pair.aside text).Guards)
    (keeps : ∀ fuel rule text start, pair.Keeps (Rule.run fuel rule text start)) (fuel : Nat) :
    pair.Runs (Rule.run fuel) (Rule.run fuel) := by
  induction fuel with
  | zero =>
    refine ⟨fun _ _ _ _ => (Parallel.throw (lawful.halts _)).aligned, fun _ _ _ _ _ => ?_, keeps 0⟩
    exact (Parallel.throw rfl).aligned
  | succ fuel ih => exact ih.step lawful guards aside (keeps (fuel + 1))

end TextGrammar.Alignment
