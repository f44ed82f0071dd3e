import Mathlib.Data.Option.Basic
import TextGrammar.Proofs.Agreement
import TextGrammar.Proofs.Execution

/-! Two runs side by side. An alignment says what they have in common at every moment: which texts
they are on, which offsets correspond, and how their stores are related. The first run may give up
where the second one goes on; what is known from then on concerns the second store alone.

The rules here carry an alignment over the ways in which actions are put together. What the engine
does is aligned in the modules that follow, once for all alignments. -/

namespace TextGrammar

/-- Events of two runs that correspond, apart from invocations of the guarded cell. -/
inductive Event.Alike (place : Int → Int → Prop) (guarded : Option CellId) : Event → Event → Prop
  | started {first second : Int} : place first second →
      Alike place guarded (.started first) (.started second)
  | tried (name : String) {first second : Int} : place first second →
      Alike place guarded (.tried name first) (.tried name second)
  | repeated (count : Nat) (name : String) {first second : Int} : place first second →
      Alike place guarded (.repeated count name first) (.repeated count name second)
  | resolved (cell : CellId) (name : String) :
      Alike place guarded (.resolved cell name) (.resolved cell name)
  | lowered (requested : Depth.Request) (granted : Int) :
      Alike place guarded (.lowered requested granted) (.lowered requested granted)
  | entered {cell : CellId} : guarded ≠ some cell → Alike place guarded (.entered cell) (.entered cell)
  | left {cell : CellId} : guarded ≠ some cell → Alike place guarded (.left cell) (.left cell)
  | refused (cell : CellId) : Alike place guarded (.refused cell) (.refused cell)

theorem Event.Alike.eq {place : Int → Int → Prop} {guarded : Option CellId} {event other : Event}
    (alike : event.Alike place guarded other)
    (same : ∀ {first second}, place first second → first = second) : event = other := by
  cases alike with
  | started related => rw [same related]
  | tried name related => rw [same related]
  | repeated count name related => rw [same related]
  | _ => rfl

/-- Nothing happened that a guarded cell has to do with, nor anything that is traced. -/
structure Store.Still (guarded : Option CellId) (before after : Store) : Prop where
  trace : after.trace = before.trace
  size : before.cells.size ≤ after.cells.size
  guarded : ∀ cell ∈ guarded, cell < before.cells.size →
    (after.cellAt cell).limit = (before.cellAt cell).limit ∧
      (after.cellAt cell).active = (before.cellAt cell).active

theorem Store.Still.of_cells {guarded : Option CellId} {before after : Store}
    (trace : after.trace = before.trace) (cells : after.cells = before.cells) :
    before.Still guarded after := by
  refine ⟨trace, Nat.le_of_eq (congrArg Array.size cells.symm), fun cell _ _ => ?_⟩
  simp only [cellAt, cells, and_self]

/-- What two runs have in common. -/
structure Alignment where
  parts : Parts
  /-- The texts of the first and of the second run. -/
  text : Text
  other : Text
  /-- Offsets of the two texts that correspond. -/
  place : Int → Int → Prop
  /-- Ways to halt that correspond. -/
  halts : Halt → Halt → Prop
  /-- Ways to halt that the second run need not follow. -/
  givesUp : Halt → Prop
  /-- What is known of the second store once the first run has given up. -/
  passed : Store → Prop
  /-- The cell whose limit may differ. -/
  guarded : Option CellId
  /-- What relates the traces, and the state of the guarded cell. -/
  link : Store → Store → Prop

namespace Alignment

/-- Two runs of the same grammar on the same text. -/
def twin (parts : Parts) (text : Text) (givesUp : Halt → Prop) (passed : Store → Prop)
    (guarded : Option CellId) (link : Store → Store → Prop) : Alignment where
  parts := parts
  text := text
  other := text
  place := Eq
  halts := Eq
  givesUp := givesUp
  passed := passed
  guarded := guarded
  link := link

/-- What two runs have in common while they run the same grammar on some other text, which is what a
builder may do. -/
def aside (pair : Alignment) (text : Text) : Alignment :=
  twin pair.parts text pair.givesUp pair.passed pair.guarded pair.link

/-- Stores at a common moment. -/
structure Stores (pair : Alignment) (first second : Store) : Prop where
  agree : first.Agree pair.guarded second
  built : first.BuiltFrom pair.parts
  link : pair.link first second

/-- Matches with the same value and corresponding ends. -/
structure Matches (pair : Alignment) (first second : Match) : Prop where
  value : first.value = second.value
  stop : pair.place first.stop second.stop

/-- Answers of leaves that correspond. -/
inductive Finds (pair : Alignment) : Except Fault (Option Match) → Except Fault (Option Match) → Prop
  | none : Finds pair (.ok none) (.ok none)
  | found {first second : Match} : pair.Matches first second →
      Finds pair (.ok (some first)) (.ok (some second))
  | fault {first second : Fault} : pair.halts (.fault first) (.fault second) →
      Finds pair (.error first) (.error second)

/-- What an alignment needs of the relations that it is made of. -/
structure Lawful (pair : Alignment) : Prop where
  complete : pair.parts.Complete
  leaves : ∀ {recognise}, pair.parts.leaf recognise → ∀ {first second}, pair.place first second →
    pair.Finds (recognise pair.text first) (recognise pair.other second)
  same : ∀ {first second next later}, pair.place first second → pair.place next later →
    (next = first ↔ later = second)
  finished : ∀ {first second}, pair.place first second →
    (first = pair.text.size ↔ second = pair.other.size)
  slice : ∀ {first second next later}, pair.place first second → pair.place next later →
    pair.text.slice first next = pair.other.slice second later
  rounds : ∀ {first second}, pair.place first second →
    Runner.rounds pair.text first = Runner.rounds pair.other second
  halts : ∀ halt, pair.halts halt halt
  tooDeep : ∀ name limit {first second}, pair.place first second →
    pair.halts (.fault (.tooDeep name limit first)) (.fault (.tooDeep name limit second))
  linkStill : ∀ {first second next later}, pair.link first second →
    first.Still pair.guarded next → second.Still pair.guarded later → pair.link next later
  linkRecord : ∀ {first second event other}, pair.link first second →
    event.Alike pair.place pair.guarded other →
    pair.link (first.record event) (second.record other)
  linkAside : ∀ {rest}, pair.parts.goesOn rest → ∀ {first second event other},
    pair.link first second → event.Alike Eq pair.guarded other →
    pair.link (first.record event) (second.record other)
  /-- A builder passes on what its own run gives up with. -/
  passesOn : ∀ {rest fault}, pair.parts.goesOn rest → pair.givesUp (.fault fault) →
    rest (.error fault) = .finish (.invalid fault)
  passed : ∀ {before after}, pair.passed before → before.trace <:+ after.trace → pair.passed after

section Twins
variable {parts : Parts} {text : Text} {givesUp : Halt → Prop} {passed : Store → Prop}
  {guarded : Option CellId} {link : Store → Store → Prop}

/-- Of two runs on the same text only the traces, and what guards a cell, have to be looked after. -/
theorem twin_lawful (complete : parts.Complete)
    (linkStill : ∀ {first second next later}, link first second →
      first.Still guarded next → second.Still guarded later → link next later)
    (linkRecord : ∀ {first second event other}, link first second → event.Alike Eq guarded other →
      link (first.record event) (second.record other))
    (passesOn : ∀ {rest fault}, parts.goesOn rest → givesUp (.fault fault) →
      rest (.error fault) = .finish (.invalid fault))
    (keeps : ∀ {before after}, passed before → before.trace <:+ after.trace → passed after) :
    (twin parts text givesUp passed guarded link).Lawful where
  complete := complete
  leaves := by
    rintro recognise - first second rfl
    change Finds _ (recognise text first) (recognise text first)
    rcases recognise text first with fault | ⟨_ | found⟩
    · exact .fault rfl
    · exact .none
    · exact .found ⟨rfl, rfl⟩
  same := by rintro _ _ _ _ rfl rfl; rfl
  finished := by rintro _ _ rfl; rfl
  slice := by rintro _ _ _ _ rfl rfl; rfl
  rounds := by rintro _ _ rfl; rfl
  halts _ := rfl
  tooDeep := by rintro _ _ _ _ rfl; rfl
  linkStill := linkStill
  linkRecord := linkRecord
  linkAside _ := linkRecord
  passesOn := passesOn
  passed := keeps

/-- Nothing is asked of a run aside that the run itself does not need. -/
theorem Lawful.aside {pair : Alignment} (lawful : pair.Lawful)
    {rest : Except Fault (Option Match) → Script} (goesOn : pair.parts.goesOn rest) (text : Text) :
    (pair.aside text).Lawful :=
  twin_lawful lawful.complete lawful.linkStill (lawful.linkAside goesOn) lawful.passesOn
    lawful.passed

end Twins

variable {α β γ δ : Type} {pair : Alignment}

/-- How two aligned actions end: with corresponding answers, with corresponding halts, or the first
one by giving up. -/
inductive Ends (pair : Alignment) (answers : α → β → Prop) :
    Except Halt α × Store → Except Halt β × Store → Prop
  | answer {answer other before after} : answers answer other → pair.Stores before after →
      Ends pair answers (.ok answer, before) (.ok other, after)
  | halt {halt other before after} : pair.halts halt other → pair.Stores before after →
      Ends pair answers (.error halt, before) (.error other, after)
  | behind {halt before outcome after} : pair.givesUp halt → pair.passed after →
      Ends pair answers (.error halt, before) (outcome, after)

/-- Actions that stay aligned, where the first one may give up. -/
def Aligned (pair : Alignment) (answers : α → β → Prop) (first : Action α) (second : Action β) :
    Prop :=
  ∀ ⦃before after⦄, pair.Stores before after →
    pair.Ends answers (first.exec before) (second.exec after)

/-- Actions that stay aligned up to their ends. -/
def Parallel (pair : Alignment) (answers : α → β → Prop) (first : Action α) (second : Action β) :
    Prop :=
  ∀ ⦃before after⦄, pair.Stores before after →
    (∃ answer other before' after', first.exec before = (.ok answer, before') ∧
      second.exec after = (.ok other, after') ∧ answers answer other ∧
      pair.Stores before' after') ∨
    ∃ halt other before' after', first.exec before = (.error halt, before') ∧
      second.exec after = (.error other, after') ∧ pair.halts halt other ∧
      pair.Stores before' after'

/-- What the second run must be like to go on alone, if the first one may give up at all. -/
def Keeps (pair : Alignment) (action : Action α) : Prop :=
  (∃ halt, pair.givesUp halt) → action.Grows

section Sequences
variable {answers : α → β → Prop} {results : γ → δ → Prop}

theorem Parallel.aligned {first : Action α} {second : Action β}
    (parallel : pair.Parallel answers first second) : pair.Aligned answers first second := by
  intro before after stores
  obtain ⟨answer, other, last, final, one, two, related, stores⟩ |
    ⟨halt, other, last, final, one, two, related, stores⟩ := parallel stores
  · rw [one, two]
    exact .answer related stores
  · rw [one, two]
    exact .halt related stores

theorem Parallel.pure {answer : α} {other : β} (related : answers answer other) :
    pair.Parallel answers (Pure.pure answer) (Pure.pure other) :=
  fun _ _ stores => .inl ⟨_, _, _, _, rfl, rfl, related, stores⟩

theorem Parallel.throw {halt other : Halt} (related : pair.halts halt other) :
    pair.Parallel answers (MonadExcept.throw halt) (MonadExcept.throw other) :=
  fun _ _ stores => .inr ⟨_, _, _, _, rfl, rfl, related, stores⟩

theorem Parallel.bind {first : Action α} {second : Action β} {next : α → Action γ}
    {later : β → Action δ} (parallel : pair.Parallel answers first second)
    (rest : ∀ answer other, answers answer other →
      pair.Parallel results (next answer) (later other)) :
    pair.Parallel results (first >>= next) (second >>= later) := by
  intro before after stores
  obtain ⟨answer, other, last, final, one, two, related, stores⟩ |
    ⟨halt, other, last, final, one, two, related, stores⟩ := parallel stores
  · rw [Action.exec_bind_ok one, Action.exec_bind_ok two]
    exact rest answer other related stores
  · rw [Action.exec_bind_error one, Action.exec_bind_error two]
    exact .inr ⟨_, _, _, _, rfl, rfl, related, stores⟩

theorem Parallel.andThen {first : Action α} {second : Action β} {next : α → Action γ}
    {later : β → Action δ} (parallel : pair.Parallel answers first second)
    (rest : ∀ answer other, answers answer other →
      pair.Aligned results (next answer) (later other)) :
    pair.Aligned results (first >>= next) (second >>= later) := by
  intro before after stores
  obtain ⟨answer, other, last, final, one, two, related, stores⟩ |
    ⟨halt, other, last, final, one, two, related, stores⟩ := parallel stores
  · rw [Action.exec_bind_ok one, Action.exec_bind_ok two]
    exact rest answer other related stores
  · rw [Action.exec_bind_error one, Action.exec_bind_error two]
    exact .halt related stores

/-- Once the first run has given up, the second one goes on with whatever it has come to. -/
theorem Lawful.bind {first : Action α} {second : Action β} {next : α → Action γ}
    {later : β → Action δ} (lawful : pair.Lawful) (related : pair.Aligned answers first second)
    (rest : ∀ answer other, answers answer other →
      pair.Aligned results (next answer) (later other))
    (keeps : ∀ other, pair.Keeps (later other)) :
    pair.Aligned results (first >>= next) (second >>= later) := by
  intro before after stores
  have ends := related stores
  rcases one : first.exec before with ⟨halt | answer, last⟩
  · rw [Action.exec_bind_error one]
    rw [one] at ends
    rcases two : second.exec after with ⟨otherHalt | other, final⟩ <;> rw [two] at ends
    · rw [Action.exec_bind_error two]
      cases ends with
      | halt related stores => exact .halt related stores
      | behind gaveUp passed => exact .behind gaveUp passed
    · rw [Action.exec_bind_ok two]
      cases ends with
      | behind gaveUp passed => exact .behind gaveUp (lawful.passed passed (keeps other ⟨_, gaveUp⟩ _))
  · rw [Action.exec_bind_ok one]
    rw [one] at ends
    rcases two : second.exec after with ⟨otherHalt | other, final⟩ <;> rw [two] at ends
    · cases ends
    · rw [Action.exec_bind_ok two]
      cases ends with
      | answer same stores => exact rest answer other same stores

theorem Ends.weaken {stronger : α → β → Prop} {first : Except Halt α × Store}
    {second : Except Halt β × Store} (ends : pair.Ends stronger first second)
    (implies : ∀ answer other, stronger answer other → answers answer other) :
    pair.Ends answers first second := by
  cases ends with
  | answer same stores => exact .answer (implies _ _ same) stores
  | halt same stores => exact .halt same stores
  | behind gaveUp passed => exact .behind gaveUp passed

theorem Aligned.weaken {first : Action α} {second : Action β} {stronger : α → β → Prop}
    (related : pair.Aligned stronger first second)
    (implies : ∀ answer other, stronger answer other → answers answer other) :
    pair.Aligned answers first second :=
  fun _ _ stores => (related stores).weaken implies

end Sequences

end Alignment

end TextGrammar
