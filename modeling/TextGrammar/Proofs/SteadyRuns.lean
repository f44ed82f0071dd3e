import TextGrammar.Fault.Class
import TextGrammar.Proofs.Limits
import TextGrammar.Proofs.Offsets

/-! Runs that come to an end. Where the placeholder of a definition is run behind the offset only at which
the definition is run, and comes to an end there, so do the parts of the definition, and what they have in
common otherwise is kept: matches end at or behind their start, and grammars nest no deeper than there is
room for. -/

namespace TextGrammar

variable {α β : Type}

/-- An answer of some sort, or a fault other than that grammars nest too deeply. -/
def Shallow (answers : α → Prop) : Except Fault α → Prop
  | .ok answer => answers answer
  | .error fault => fault.class ≠ .depthLimit

/-- A run that is not cut off. Where there is room, grammars do not nest too deeply. -/
def Finishes (room : Prop) (answers : α → Prop) : Except Halt α → Prop
  | .ok answer => answers answer
  | .error (.fault fault) => room → fault.class ≠ .depthLimit
  | .error .exhausted => False

namespace Shallow
variable {answers : α → Prop} {results : β → Prop} {outcome : Except Fault α}

theorem mono {wider : α → Prop} (shallow : Shallow answers outcome) (more : ∀ answer, answers answer → wider answer) :
    Shallow wider outcome := by
  cases outcome with
  | ok answer => exact more _ shallow
  | error fault => exact shallow

theorem bind {next : α → Except Fault β} (shallow : Shallow answers outcome)
    (rest : ∀ answer, answers answer → Shallow results (next answer)) : Shallow results (outcome >>= next) := by
  cases outcome with
  | ok answer => exact rest _ shallow
  | error fault => exact shallow

theorem finishes (shallow : Shallow answers outcome) (room : Prop) :
    Finishes room answers (outcome.mapError .fault) := by
  cases outcome with
  | ok answer => exact shallow
  | error fault => exact fun _ => shallow

end Shallow

namespace Finishes
variable {room less : Prop} {answers : α → Prop} {results : β → Prop} {outcome : Except Halt α}

theorem mono {wider : α → Prop} (finishes : Finishes room answers outcome)
    (more : ∀ answer, answers answer → wider answer) : Finishes room wider outcome := by
  cases outcome with
  | ok answer => exact more _ finishes
  | error halt => cases halt <;> exact finishes

/-- With less room there is less to be shown. -/
theorem narrow (finishes : Finishes room answers outcome) (narrower : less → room) : Finishes less answers outcome := by
  cases outcome with
  | ok answer => exact finishes
  | error halt =>
    cases halt with
    | fault fault => exact fun there => finishes (narrower there)
    | exhausted => exact finishes

theorem bind {next : α → Except Halt β} (finishes : Finishes room answers outcome)
    (rest : ∀ answer, answers answer → outcome = .ok answer → Finishes room results (next answer)) :
    Finishes room results (outcome >>= next) := by
  cases outcome with
  | ok answer => exact rest _ finishes rfl
  | error halt => cases halt <;> exact finishes

/-- What goes on with a match, or finds none. -/
theorem onward {outcome : Except Halt (Option Match)} {matched further : Match → Prop}
    {next : Match → Except Halt (Option Match)} (finishes : Finishes room (fun found => ∀ one ∈ found, matched one) outcome)
    (rest : ∀ found, matched found → outcome = .ok (some found) →
      Finishes room (fun found => ∀ one ∈ found, further one) (next found)) :
    Finishes room (fun found => ∀ one ∈ found, further one)
      (do
        let some found ← outcome | return none
        next found) := by
  refine finishes.bind fun found related is => ?_
  cases found with
  | none => exact fun _ nothing => nomatch nothing
  | some found => exact rest found (related found rfl) is

end Finishes

namespace Match

theorem stopAs_shallow (kind : Kind) (found : Match) : Shallow (fun stop => stop = found.stop) (found.stopAs kind) := by
  obtain ⟨value, stop⟩ := found
  cases kind with
  | pattern => exact rfl
  | parser =>
    cases value with
    | none => exact nofun
    | some value => exact rfl

theorem valueAs_shallow (member : String) (found : Match) : Shallow (fun _ => True) (found.valueAs member) := by
  obtain ⟨value, stop⟩ := found
  cases value with
  | none => exact nofun
  | some value => exact trivial

theorem followedBy_shallow (kind other : Kind) (found next : Match) :
    Shallow (fun both => both.stop = next.stop) (found.followedBy kind other next) := by
  cases kind with
  | pattern => exact rfl
  | parser =>
    cases other with
    | pattern => exact rfl
    | parser =>
      exact (found.valueAs_shallow _).bind fun _ _ => (next.valueAs_shallow _).bind fun _ _ => rfl

end Match

/-- Matches between an offset and the end of a text. -/
def Match.Between (text : Text) (start : Int) (found : Match) : Prop :=
  start ≤ found.stop ∧ found.stop ≤ text.size

theorem Match.Between.later {text : Text} {start later : Int} {found : Match} (between : found.Between text later)
    (least : start ≤ later) : found.Between text start :=
  ⟨Int.le_trans least between.1, between.2⟩

/-- A leaf whose matches are between their start and the end of the text, and whose faults do not tell of
grammars. -/
structure Leaf.Steady (recognise : Leaf) : Prop where
  within : recognise.Within
  shallow : ∀ text start, Shallow (fun _ => True) (recognise text start)

/-- The run of a definition: where it starts in which text, and whether there is room for all of the
invocations that it leads to. -/
structure Journey where
  base : Store
  text : Text
  least : Int
  active : Key → Nat
  stage : Nat
  room : Prop
  valid : 0 ≤ least

section Loops
variable {room : Prop} {text : Text} {least : Int} {attempt : Int → Except Halt (Option Match)}
  (each : ∀ position, least ≤ position → position ≤ text.size →
    Finishes room (fun found => ∀ one ∈ found, one.Between text position) (attempt position)) (kind : Kind)
include each

theorem Finishes.repeatFrom (bound : Nat) {position : Int} (from_ : least ≤ position) (inside : position ≤ text.size)
    (enough : (text.size - position).toNat < bound) (found : Array Match) :
    Finishes room (fun ends => position ≤ ends.2 ∧ ends.2 ≤ (text.size : Int))
      (Player.repeatFrom attempt kind text.size bound position found) := by
  induction bound generalizing position found with
  | zero => omega
  | succ bound ih =>
    refine (each position from_ inside).bind fun next related _ => ?_
    cases next with
    | none => exact ⟨Int.le_refl _, inside⟩
    | some next =>
      obtain ⟨onward, within⟩ := related next rfl
      refine ((next.stopAs_shallow kind).finishes room).bind fun stop is _ => ?_
      subst is
      split
      · exact ⟨onward, within⟩
      next goes =>
        have moved : position < next.stop := by omega
        refine (ih (by omega) within (by omega) (found.push next)).mono fun ends between => ?_
        exact ⟨Int.le_trans onward between.1, between.2⟩

theorem Finishes.repeatTimes (count : Nat) {position : Int} (from_ : least ≤ position) (inside : position ≤ text.size)
    (found : Array Match) :
    Finishes room (fun ends => ∀ one ∈ ends, position ≤ one.2 ∧ one.2 ≤ (text.size : Int))
      (Player.repeatTimes attempt kind text.size count position found) := by
  induction count generalizing position found with
  | zero =>
    rintro _ ⟨⟩
    exact ⟨Int.le_refl _, inside⟩
  | succ count ih =>
    refine (each position from_ inside).bind fun next related _ => ?_
    cases next with
    | none => exact nofun
    | some next =>
      obtain ⟨onward, within⟩ := related next rfl
      refine ((next.stopAs_shallow kind).finishes room).bind fun stop is _ => ?_
      subst is
      split
      · rintro _ ⟨⟩
        exact ⟨onward, within⟩
      · refine (ih (Int.le_trans from_ onward) within (found.push next)).mono fun ends between one member => ?_
        exact ⟨Int.le_trans onward (between one member).1, (between one member).2⟩

end Loops

namespace Blueprint
variable (journey : Journey)

/-- What a blueprint comes to in the limit on the way. -/
noncomputable abbrev goes (blueprint : Blueprint) (start : Int) : Except Halt (Option Match) :=
  limit journey.base journey.active journey.stage blueprint journey.text start

/-- A blueprint that comes to an end wherever it is run from the start on, or behind the start only if
it has a placeholder that is free. -/
def Steady (free : Prop) (blueprint : Blueprint) : Prop :=
  ∀ start, journey.least ≤ start → start ≤ journey.text.size → (free → journey.least < start) →
    Finishes journey.room (fun found => ∀ one ∈ found, one.Between journey.text start) (blueprint.goes journey start)

/-- A blueprint of some kind that cannot succeed without going on in the text. -/
def Advances (kind : Kind) (blueprint : Blueprint) : Prop :=
  ∀ start found stop, journey.least ≤ start → start ≤ journey.text.size →
    blueprint.goes journey start = .ok (some found) → found.stopAs kind = .ok stop → start < stop

namespace Steady
variable {journey : Journey} {free more gains : Prop} {kind kinds : Kind} {one two : Blueprint}

theorem mono (steady : one.Steady journey free) (freer : free → more) : one.Steady journey more :=
  fun start least inside behind => steady start least inside fun there => behind (freer there)

theorem of_step (steps : ∀ start, journey.least ≤ start → start ≤ journey.text.size →
      (free → journey.least < start) →
    Finishes journey.room (fun found => ∀ one ∈ found, one.Between journey.text start)
      (Player.step journey.base (limit journey.base) journey.active journey.stage one journey.text start)) :
    one.Steady journey free := by
  intro start least inside behind
  rw [goes, limit_eq_step]
  exact steps start least inside behind

theorem leaf {recognise : Leaf} (steady : recognise.Steady) : (Blueprint.leaf recognise).Steady journey free := by
  refine of_step fun start least inside _ => ?_
  have shallow := steady.shallow journey.text start
  have within := steady.within journey.text start
  have finishes := shallow.finishes journey.room
  simp only [Player.step]
  generalize recognise journey.text start = outcome at *
  cases outcome with
  | error fault => exact finishes
  | ok found =>
    rintro one ⟨⟩
    exact within one (Int.le_trans journey.valid least) inside rfl

theorem object (steady : one.Steady journey free) : (Blueprint.object one).Steady journey free :=
  of_step steady

/-- Where a first part has ended that cannot succeed without going on. -/
theorem passed {start : Int} {found : Match} (advances : gains → one.Advances journey kind)
    (least : journey.least ≤ start) (inside : start ≤ journey.text.size) (onward : start ≤ found.stop)
    (behind : free → journey.least < start) (is : one.goes journey start = .ok (some found))
    (stopped : (found.stopAs kind).mapError Halt.fault = .ok found.stop) : free ∨ gains → journey.least < found.stop := by
  rintro (there | there)
  · exact Int.lt_of_lt_of_le (behind there) onward
  · refine Int.lt_of_le_of_lt least (advances there start found found.stop least inside is ?_)
    cases ended : found.stopAs kind with
    | ok stop =>
      rw [ended] at stopped
      cases stopped
      rfl
    | error fault =>
      rw [ended] at stopped
      cases stopped

theorem sequence (steady : one.Steady journey free) (advances : gains → one.Advances journey kind)
    (next : two.Steady journey (free ∨ gains)) (other : Kind) :
    (Blueprint.sequence kind other one two).Steady journey free := by
  refine of_step fun start least inside behind => ?_
  refine (steady start least inside behind).onward fun found between is => ?_
  refine ((found.stopAs_shallow kind).finishes _).bind fun stop same stopped => ?_
  subst same
  have behind := passed advances least inside between.1 behind is stopped
  refine (next found.stop (Int.le_trans least between.1) between.2 behind).onward fun later after _ => ?_
  refine ((found.followedBy_shallow kind other later).finishes _).bind fun both same _ => ?_
  rintro _ ⟨⟩
  exact ⟨same ▸ Int.le_trans between.1 after.1, same ▸ after.2⟩

theorem orElse (steady : one.Steady journey free) (next : two.Steady journey free) :
    (Blueprint.orElse one two).Steady journey free := by
  refine of_step fun start least inside behind => ?_
  refine (steady start least inside behind).bind fun found between _ => ?_
  cases found with
  | none => exact next start least inside behind
  | some found => exact between

theorem either {parts : List Blueprint} (steady : ∀ part ∈ parts, part.Steady journey free) :
    (Blueprint.either parts).Steady journey free := by
  refine of_step fun start least inside behind => ?_
  simp only [Player.step]
  induction parts with
  | nil =>
    rintro _ ⟨⟩
  | cons part rest ih =>
    refine (steady part List.mem_cons_self start least inside behind).bind fun found between _ => ?_
    cases found with
    | none => exact ih fun part member => steady part (List.mem_cons_of_mem _ member)
    | some found => exact between

theorem optional (steady : one.Steady journey free) : (Blueprint.optional kind one).Steady journey free := by
  refine of_step fun start least inside behind => ?_
  refine (steady start least inside behind).bind fun found between _ => ?_
  cases found with
  | none =>
    rintro _ ⟨⟩
    rw [Match.Between, Match.absent_stop]
    exact ⟨Int.le_refl _, inside⟩
  | some found => exact between

/-- Matches that a repetition has found are between the start and the end of the text. -/
theorem collected {start : Int} {ends : Array Match × Int} (between : start ≤ ends.2 ∧ ends.2 ≤ journey.text.size) :
    Finishes journey.room (fun found : Option Match => ∀ one ∈ found, one.Between journey.text start)
      (.ok (some (Match.collected kind ends.1 ends.2))) := by
  rintro _ ⟨⟩
  rw [Match.Between, Match.collected_stop]
  exact between

/-- What is repeated from some offset on. -/
theorem attempts (steady : one.Steady journey free) {start : Int} (least : journey.least ≤ start)
    (behind : free → journey.least < start) (position : Int) (from_ : start ≤ position)
    (inside : position ≤ journey.text.size) :
    Finishes journey.room (fun found => ∀ one ∈ found, one.Between journey.text position)
      (one.goes journey position) :=
  steady position (Int.le_trans least from_) inside fun there => Int.lt_of_lt_of_le (behind there) from_

theorem many (steady : one.Steady journey free) : (Blueprint.many kind one).Steady journey free := by
  refine of_step fun start least inside behind => ?_
  exact (Finishes.repeatFrom (steady.attempts least behind) kind _ (Int.le_refl _) inside
    (Runner.rounds_enough _ _) #[]).bind fun ends between _ => collected between

theorem oneOrMore (steady : one.Steady journey free) : (Blueprint.oneOrMore kind one).Steady journey free := by
  refine of_step fun start least inside behind => ?_
  refine (steady start least inside behind).onward fun found between _ => ?_
  refine ((found.stopAs_shallow kind).finishes _).bind fun stop same _ => ?_
  subst same
  dsimp only
  split
  · exact @collected _ _ _ (#[found], found.stop) between
  · refine (Finishes.repeatFrom (steady.attempts least behind) kind _ between.1 between.2
      (Runner.rounds_enough _ _) #[found]).bind fun ends after _ => ?_
    exact collected ⟨Int.le_trans between.1 after.1, after.2⟩

theorem times (steady : one.Steady journey free) (count : Nat) : (Blueprint.times kind count one).Steady journey free := by
  refine of_step fun start least inside behind => ?_
  refine (Finishes.repeatTimes (steady.attempts least behind) kind count (Int.le_refl _) inside #[]).bind
    fun ends between _ => ?_
  cases ends with
  | none => exact fun _ nothing => nomatch nothing
  | some ends => exact collected (between ends rfl)

theorem separated (steady : one.Steady journey free) (advances : gains → one.Advances journey kind)
    (rest : two.Steady journey (free ∨ gains)) : (Blueprint.separated kind one two).Steady journey free := by
  refine of_step fun start least inside behind => ?_
  refine (steady start least inside behind).onward fun found between is => ?_
  refine ((found.stopAs_shallow kind).finishes _).bind fun stop same stopped => ?_
  subst same
  have behind := passed advances least inside between.1 behind is stopped
  refine (Finishes.repeatFrom (rest.attempts (Int.le_trans least between.1) behind) kind _ (Int.le_refl _)
    between.2 (Runner.rounds_enough _ _) #[found]).bind fun ends after _ => ?_
  exact collected ⟨Int.le_trans between.1 after.1, after.2⟩

section Single
variable (steady : one.Steady journey free)
include steady

/-- What makes something of a match that ends where the match does. -/
theorem single {whole : Blueprint} {after : Text → Int → Match → Except Halt (Option Match)}
    (steps : ∀ player active stage text start, Player.step journey.base player active stage whole text start = (do
      let some found ← player active stage one text start | return none
      after text start found))
    (ends : ∀ text start found, Finishes journey.room
      (fun results : Option Match => ∀ result ∈ results, result.stop = found.stop) (after text start found)) :
    whole.Steady journey free := by
  refine of_step fun start least inside behind => ?_
  rw [steps]
  refine (steady start least inside behind).onward fun found between _ => ?_
  refine (ends journey.text start found).mono fun results same result member => ?_
  rw [Match.Between, same result member]
  exact between

theorem captured : (Blueprint.captured kind one).Steady journey free := by
  refine steady.single (fun _ _ _ _ _ => rfl) fun text start found => ?_
  refine ((found.stopAs_shallow kind).finishes _).bind fun stop same _ => ?_
  rintro _ ⟨⟩
  exact same

theorem valued (value : Value) : (Blueprint.valued value one).Steady journey free := by
  refine steady.single (fun _ _ _ _ _ => rfl) fun text start found => ?_
  rintro _ ⟨⟩
  rfl

theorem erased : (Blueprint.erased one).Steady journey free := by
  refine steady.single (fun _ _ _ _ _ => rfl) fun text start found => ?_
  refine ((found.stopAs_shallow .parser).finishes _).bind fun stop same _ => ?_
  rintro _ ⟨⟩
  exact same

theorem map {transform : Value → Except Fault Value} (shallow : ∀ value, Shallow (fun _ => True) (transform value)) :
    (Blueprint.map transform one).Steady journey free := by
  refine steady.single (fun _ _ _ _ _ => rfl) fun text start found => ?_
  refine ((found.valueAs_shallow "map").finishes _).bind fun value _ _ => ?_
  refine ((shallow value).finishes _).bind fun result _ _ => ?_
  rintro _ ⟨⟩
  rfl

theorem filter {accept : Value → Except Fault Bool} (shallow : ∀ value, Shallow (fun _ => True) (accept value)) :
    (Blueprint.filter accept one).Steady journey free := by
  refine steady.single (fun _ _ _ _ _ => rfl) fun text start found => ?_
  refine ((found.valueAs_shallow "value").finishes _).bind fun value _ _ => ?_
  refine ((shallow value).finishes _).bind fun accepts _ _ => ?_
  cases accepts with
  | false => exact nofun
  | true =>
    rintro _ ⟨⟩
    rfl

end Single

end Steady

end Blueprint

end TextGrammar
