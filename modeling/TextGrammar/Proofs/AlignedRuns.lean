import TextGrammar.Proofs.SingleRun
import TextGrammar.Proofs.TraceGrowth

/-! Aligned runs of the engine. If two runners are aligned, so is what they do with a rule, and so
are runs to any depth. Where the first run may give up, the second one goes on alone; then all that
is known of it is that its trace still grows. -/

namespace TextGrammar.Alignment
open TextGrammar.Action

variable {α β : Type} {pair : Alignment}

/-- Outcomes of runs that correspond. -/
abbrev Outcomes (pair : Alignment) : Option Match → Option Match → Prop := Option.Rel pair.Matches

theorem twin_outcomes {parts : Parts} {text : Text} {givesUp : Halt → Prop} {passed : Store → Prop}
    {guarded : Option CellId} {link : Store → Store → Prop} {first second : Option Match}
    (same : (twin parts text givesUp passed guarded link).Outcomes first second) :
    first = second := by
  cases same with
  | none => rfl
  | @some found other same =>
    obtain ⟨value, stop⟩ := found
    obtain ⟨other, last⟩ := other
    obtain ⟨rfl, rfl⟩ := same
    rfl

/-- Collected matches and where they end. -/
structure Collects (pair : Alignment) (first second : Array Match × Int) : Prop where
  values : first.1.map Match.value = second.1.map Match.value
  stop : pair.place first.2 second.2

theorem Collects.push {found other : Array Match} {next later : Match}
    {first second : Int} (same : found.map Match.value = other.map Match.value)
    (matched : pair.Matches next later) (related : pair.place first second) :
    pair.Collects (found.push next, first) (other.push later, second) :=
  ⟨by simp [same, matched.value], related⟩

theorem Collects.collected {found other : Array Match} {stop last : Int}
    (same : pair.Collects (found, stop) (other, last)) (kind : Kind) :
    pair.Matches (.collected kind found stop) (.collected kind other last) := by
  have values := congrArg Array.toList same.values
  simp only [Array.toList_map] at values
  cases kind with
  | pattern => exact ⟨rfl, same.stop⟩
  | parser =>
    refine ⟨?_, same.stop⟩
    have kept (all : List Match) :
        all.filterMap Match.value = (all.map Match.value).filterMap id := by
      simp [List.filterMap_map]
    simp only [Match.collected, Match.yielding, kept, values]

theorem Matches.valueAs {first second : Match} (same : pair.Matches first second) (member : String) :
    first.valueAs member = second.valueAs member := by
  simp only [Match.valueAs, same.value]

theorem stores_aside {text : Text} {before after : Store} :
    (pair.aside text).Stores before after ↔ pair.Stores before after :=
  ⟨fun stores => ⟨stores.agree, stores.built, stores.link⟩,
    fun stores => ⟨stores.agree, stores.built, stores.link⟩⟩

theorem Parallel.get : pair.Parallel pair.Stores (get : Action Store) (get : Action Store) :=
  fun _ _ stores => .inl ⟨_, _, _, _, rfl, rfl, stores, stores⟩

namespace Lawful
variable (lawful : pair.Lawful)
include lawful

theorem stopAs {first second : Match} (same : pair.Matches first second) (kind : Kind) :
    pair.Parallel pair.place (ofExcept (first.stopAs kind)) (ofExcept (second.stopAs kind)) := by
  obtain ⟨value, stop⟩ := first
  obtain ⟨other, last⟩ := second
  obtain ⟨rfl, related⟩ := same
  cases kind with
  | pattern => exact .pure related
  | parser =>
    cases value with
    | none => exact .throw (lawful.halts _)
    | some value => exact .pure related

theorem followedBy {first second next later : Match} (same : pair.Matches first second)
    (after : pair.Matches next later) (firstKind secondKind : Kind) :
    pair.Parallel pair.Matches (ofExcept (first.followedBy firstKind secondKind next))
      (ofExcept (second.followedBy firstKind secondKind later)) := by
  obtain ⟨value, stop⟩ := first
  obtain ⟨other, last⟩ := second
  obtain ⟨rfl, -⟩ := same
  obtain ⟨value', stop'⟩ := next
  obtain ⟨other', last'⟩ := later
  obtain ⟨rfl, related⟩ := after
  cases firstKind with
  | pattern => exact .pure ⟨rfl, related⟩
  | parser =>
    cases secondKind with
    | pattern => exact .pure ⟨rfl, related⟩
    | parser =>
      rcases value with _ | value
      · exact .throw (lawful.halts _)
      · rcases value' with _ | value'
        · exact .throw (lawful.halts _)
        · exact .pure ⟨rfl, related⟩

theorem parallel_record {event other : Event}
    (alike : event.Alike pair.place pair.guarded other) :
    pair.Parallel (fun _ _ => True) (record event) (record other) :=
  fun _ _ stores => .inl ⟨_, _, _, _, rfl, rfl, trivial, lawful.stores_record stores alike⟩

/-- What follows a match; where there is none, both runs end. -/
theorem onFound {attempt other : Action (Option Match)} {next later : Match → Action (Option Match)}
    (aligned : pair.Aligned pair.Outcomes attempt other)
    (rest : ∀ {found match' : Match}, pair.Matches found match' →
      pair.Aligned pair.Outcomes (next found) (later match'))
    (keeps : ∀ found, pair.Keeps (later found)) :
    pair.Aligned pair.Outcomes
      (do let some found ← attempt | return none
          next found)
      (do let some found ← other | return none
          later found) := by
  refine lawful.bind aligned (fun answer other same => ?_) fun other gives => ?_
  · cases same with
    | none => exact (Parallel.pure .none).aligned
    | some same => exact rest same
  · cases other with
    | none => exact .pure _
    | some found => exact keeps found gives

theorem repeatFrom {attempt other : Int → Action (Option Match)}
    (aligned : ∀ {first second}, pair.place first second →
      pair.Aligned pair.Outcomes (attempt first) (other second))
    (keeps : ∀ start, pair.Keeps (other start)) (kind : Kind) (bound : Nat) {first second : Int}
    {found others : Array Match} (same : pair.Collects (found, first) (others, second)) :
    pair.Aligned pair.Collects (Runner.repeatFrom attempt kind pair.text.size bound first found)
      (Runner.repeatFrom other kind pair.other.size bound second others) := by
  induction bound generalizing first second found others with
  | zero => exact (Parallel.throw (lawful.halts _)).aligned
  | succ bound ih =>
    refine lawful.bind (aligned same.stop) (fun answer outcome related => ?_)
      fun outcome gives => ?_
    · cases related with
      | none => exact (Parallel.pure same).aligned
      | some matched =>
        refine (lawful.stopAs matched kind).andThen fun stop last ended => ?_
        have finished := or_congr (lawful.same same.stop ended) (lawful.finished ended)
        have pushed := Collects.push same.values matched ended
        by_cases here : last = second ∨ last = pair.other.size
        · rw [if_pos here, if_pos (finished.mpr here)]
          exact (Parallel.pure pushed).aligned
        · rw [if_neg here, if_neg (mt finished.mp here)]
          exact ih pushed
    · cases outcome with
      | none => exact .pure _
      | some next =>
        refine (Grows.ofExcept _).bind fun stop => ?_
        split
        · exact .pure _
        · exact Runner.repeatFrom_grows (fun start => keeps start gives) kind _ bound stop _

theorem repeatTimes {attempt other : Int → Action (Option Match)}
    (aligned : ∀ {first second}, pair.place first second →
      pair.Aligned pair.Outcomes (attempt first) (other second))
    (keeps : ∀ start, pair.Keeps (other start)) (kind : Kind) (count : Nat) {first second : Int}
    {found others : Array Match} (same : pair.Collects (found, first) (others, second)) :
    pair.Aligned (Option.Rel pair.Collects)
      (Runner.repeatTimes attempt kind pair.text.size count first found)
      (Runner.repeatTimes other kind pair.other.size count second others) := by
  induction count generalizing first second found others with
  | zero => exact (Parallel.pure (.some same)).aligned
  | succ count ih =>
    refine lawful.bind (aligned same.stop) (fun answer outcome related => ?_)
      fun outcome gives => ?_
    · cases related with
      | none => exact (Parallel.pure .none).aligned
      | some matched =>
        refine (lawful.stopAs matched kind).andThen fun stop last ended => ?_
        have pushed := Collects.push same.values matched ended
        by_cases here : last = pair.other.size
        · rw [if_pos here, if_pos ((lawful.finished ended).mpr here)]
          exact (Parallel.pure (.some pushed)).aligned
        · rw [if_neg here, if_neg (mt (lawful.finished ended).mp here)]
          exact ih pushed
    · cases outcome with
      | none => exact .pure _
      | some next =>
        refine (Grows.ofExcept _).bind fun stop => ?_
        split
        · exact .pure _
        · exact Runner.repeatTimes_grows (fun start => keeps start gives) kind _ count stop _

theorem firstOf {attempt other : Rule → Action (Option Match)} {rules : List Rule}
    (aligned : ∀ rule ∈ rules, pair.Aligned pair.Outcomes (attempt rule) (other rule))
    (keeps : ∀ rule, pair.Keeps (other rule)) :
    pair.Aligned pair.Outcomes (Runner.firstOf attempt rules) (Runner.firstOf other rules) := by
  induction rules with
  | nil => exact (Parallel.pure .none).aligned
  | cons rule rest ih =>
    refine lawful.bind (aligned rule (by simp)) (fun answer outcome related => ?_)
      fun outcome gives => ?_
    · cases related with
      | none => exact ih fun rule member => aligned rule (by simp [member])
      | some matched => exact (Parallel.pure (.some matched)).aligned
    · cases outcome with
      | none => exact Runner.firstOf_grows (fun rule => keeps rule gives) rest
      | some found => exact .pure _

theorem ensuring {answers : α → β → Prop} {first : Action α} {second : Action β}
    (aligned : pair.Aligned answers first second) {cleanup other : Store → Store}
    (stores : ∀ {before after}, pair.Stores before after →
      pair.Stores (cleanup before) (other after))
    (grows : ∀ store : Store, store.trace <:+ (other store).trace) :
    pair.Aligned answers (ensuring first cleanup) (ensuring second other) := by
  intro before after same
  have ends := aligned same
  rw [exec_ensuring, exec_ensuring]
  generalize first.exec before = one at ends ⊢
  generalize second.exec after = two at ends ⊢
  cases ends with
  | answer related next => exact .answer related (stores next)
  | halt related next => exact .halt related (stores next)
  | behind gaveUp passed => exact .behind gaveUp (lawful.passed passed (grows _))

theorem stores_running {before after : Store} (same : pair.Stores before after)
    {running others : List Rule} (equal : running = others) :
    pair.Stores { before with running } { after with running := others } := by
  subst equal
  exact lawful.stores same (same.agree.withRunning running)
    ⟨same.built.assigned, same.built.cells⟩ (.of_cells rfl rfl) (.of_cells rfl rfl)

theorem owning {runner other : Runner} {rule : Rule} {text second : Text} {start place : Int}
    (aligned : pair.Aligned pair.Outcomes (runner rule text start) (other rule second place)) :
    pair.Aligned pair.Outcomes (runner.owning rule text start) (other.owning rule second place) := by
  have owns : pair.Parallel (fun _ _ => True)
      (modify fun store => { store with running := rule :: store.running } : Action PUnit)
      (modify fun store => { store with running := rule :: store.running } : Action PUnit) :=
    fun _ _ same => .inl ⟨_, _, _, _, rfl, rfl, trivial,
      lawful.stores_running same (congrArg (rule :: ·) same.agree.running)⟩
  refine owns.andThen fun _ _ _ => lawful.ensuring aligned (fun same => ?_) fun _ => ?_
  · exact lawful.stores_running same (congrArg List.tail same.agree.running)
  · exact List.suffix_refl _

end Lawful

end TextGrammar.Alignment
