import Mathlib
import TextGrammar.Fault.Class
import TextGrammar.Proofs.Histories
import TextGrammar.Proofs.TextSuffix

/-! Only the rest of a text matters. A grammar whose leaves look at nothing before them runs in the
midst of a text as it does where that text begins there, with the same value and with an end that is
further on by what stands before. -/

namespace TextGrammar

/-- The same outcome further on in a text, up to what is alike about errors. -/
inductive Match.Shifted {ε : Type} (alike : ε → ε → Prop) (shift : Nat) :
    Except ε (Option Match) → Except ε (Option Match) → Prop
  | none : Shifted alike shift (.ok none) (.ok none)
  | found (value : Option Value) {stop : Int} : 0 ≤ stop →
      Shifted alike shift (.ok (some ⟨value, shift + stop⟩)) (.ok (some ⟨value, stop⟩))
  | error {first second : ε} : alike first second →
      Shifted alike shift (.error first) (.error second)

/-- Faults of one class. -/
def Fault.Alike (first second : Fault) : Prop := first.class = second.class

/-- A leaf for which it makes no difference what stands before its start. That includes that it does
not go back to where there is nothing if the text begins at its start. -/
def Leaf.Local (leaf : Leaf) : Prop :=
  ∀ (before rest : Text) (start : Int), 0 ≤ start →
    Match.Shifted Fault.Alike before.size (leaf (before ++ rest) (before.size + start))
      (leaf rest start)

namespace Leaf

theorem total_local {stop? : Text → Int → Option Int}
    (ends : ∀ (before rest : Text) (start : Int), 0 ≤ start →
      stop? (before ++ rest) (before.size + start) = (stop? rest start).map ((before.size : Int) + ·) ∧
        ∀ stop, stop? rest start = some stop → 0 ≤ stop) : (total stop?).Local := by
  intro before rest start valid
  obtain ⟨shifted, positive⟩ := ends before rest start valid
  simp only [total, shifted]
  cases found : stop? rest start with
  | none => exact .none
  | some stop => exact .found none (positive stop found)

theorem literal_local (word : String) : (literal word).Local := by
  refine total_local fun before rest start valid => ?_
  rw [Text.hasAt_behind before rest valid]
  cases rest.hasAt word.toList start with
  | false => exact ⟨rfl, fun _ found => nomatch found⟩
  | true =>
    refine ⟨congrArg some (Int.add_assoc _ _ _), fun stop found => ?_⟩
    cases found
    omega

theorem fixed_local {count : Int} (positive : 0 ≤ count) : (fixed count).Local := by
  refine total_local fun before rest start valid => ?_
  simp only [Text.advance, Array.size_append]
  by_cases inside : start + count ≤ rest.size
  · rw [if_pos inside, if_pos (by omega)]
    refine ⟨congrArg some (Int.add_assoc _ _ _), fun stop found => ?_⟩
    cases found
    omega
  · rw [if_neg inside, if_neg (by omega)]
    exact ⟨rfl, fun _ found => nomatch found⟩

theorem finished_local : finished.Local := by
  refine total_local fun before rest start valid => ?_
  simp only [Array.size_append]
  by_cases finished : rest.size ≤ start
  · rw [if_pos finished, if_pos (by omega)]
    refine ⟨rfl, fun stop found => ?_⟩
    cases found
    exact valid
  · rw [if_neg finished, if_neg (by omega)]
    exact ⟨rfl, fun _ found => nomatch found⟩

theorem charactersIn_local (member : Char → Bool) : (charactersIn member).Local := by
  intro before rest start valid
  obtain ⟨stop, later, part, whole⟩ := Text.runEnd_behind before rest member valid
  simp only [charactersIn, part, whole]
  by_cases here : stop = start
  · simp only [bind, Except.bind, here, ↓reduceIte]
    exact .none
  · have there : before.size + stop ≠ before.size + start := by omega
    simp only [bind, Except.bind, if_neg here, if_neg there]
    exact .found none (by omega)

theorem characterIn_local (member : Char → Bool) : (characterIn member).Local := by
  intro before rest start valid
  by_cases below : start < rest.size
  · obtain ⟨character, whole, part⟩ := Text.characterAt_behind before rest valid below
    simp only [characterIn, if_pos below, if_pos ((Text.below_behind before rest start).mpr below),
      whole, part, bind, Except.bind]
    cases member character with
    | false => exact .none
    | true =>
      rw [Int.add_assoc]
      exact .found none (by omega)
  · simp only [characterIn, if_neg below, if_neg (mt (Text.below_behind before rest start).mp below)]
    exact .none

/-- A distance in the units of a codec is walked over the same characters. -/
theorem charactersAfter_behind (codec : Codec) (before rest : Text) {start : Int} (valid : 0 ≤ start)
    (units : Int) :
    (∃ stop, 0 ≤ stop ∧ codec.charactersAfter rest start units = .ok stop ∧
      codec.charactersAfter (before ++ rest) (before.size + start) units = .ok (before.size + stop)) ∨
    ∃ first second : Fault, first.Alike second ∧ codec.charactersAfter rest start units = .error second ∧
      codec.charactersAfter (before ++ rest) (before.size + start) units = .error first := by
  simp only [Codec.charactersAfter, Text.window_behind before rest valid,
    Text.window_of_nonneg valid, Array.size_append]
  cases codec.width? with
  | none =>
    by_cases inside : 0 ≤ units ∧ units ≤ rest.size - start
    · have there : 0 ≤ units ∧ units ≤ (before.size + rest.size : Nat) - (before.size + start) := by
        omega
      simp only [if_pos inside, if_pos there]
      exact .inl ⟨start + units, by omega, rfl, congrArg _ (Int.add_assoc _ _ _)⟩
    · have there : ¬(0 ≤ units ∧ units ≤ (before.size + rest.size : Nat) - (before.size + start)) := by
        omega
      simp only [if_neg inside, if_neg there]
      refine .inr ⟨_, _, ?_, rfl, rfl⟩
      rfl
  | some width =>
    dsimp only
    rcases Codec.walk width units (rest.toList.drop start.toNat) with (_ | _) | count
    · refine .inr ⟨_, _, ?_, rfl, rfl⟩
      rfl
    · refine .inr ⟨_, _, ?_, rfl, rfl⟩
      rfl
    · exact .inl ⟨start + count, by omega, rfl, congrArg _ (Int.add_assoc _ _ _)⟩

theorem ofRecogniser_local (codec : Codec) (recognise : Recogniser) :
    (ofRecogniser codec recognise).Local := by
  intro before rest start valid
  simp only [ofRecogniser, Codec.continueAt, Text.suffix_behind before rest valid]
  rcases recognise (rest.suffix start) with fault | ⟨_ | recognition⟩
  · exact .error rfl
  · exact .none
  · obtain ⟨stop, positive, part, whole⟩ | ⟨first, second, alike, part, whole⟩ :=
      charactersAfter_behind codec before rest valid recognition.units
    · simp only [bind, Except.bind, part, whole]
      exact .found recognition.value positive
    · simp only [bind, Except.bind, part, whole]
      exact .error alike

theorem KnownOr.local {leaf : Leaf} (known : KnownOr Leaf.Local leaf) : leaf.Local := by
  cases known with
  | literal word => exact literal_local word
  | fixed positive => exact fixed_local positive
  | finished => exact finished_local
  | nothing => exact total_local fun _ _ _ valid => ⟨rfl, fun _ found => by cases found; exact valid⟩
  | failure => exact total_local fun _ _ _ _ => ⟨rfl, fun _ found => nomatch found⟩
  | pure value => exact fun _ _ _ valid => .found (some value) valid
  | charactersIn member => exact charactersIn_local member
  | characterIn member => exact characterIn_local member
  | ofRecogniser codec recognise => exact ofRecogniser_local codec recognise
  | failing fault => exact fun _ _ _ _ => .error (show fault.Alike fault from rfl)
  | foreign hasLocal => exact hasLocal

end Leaf

/-- Halts of one kind. -/
inductive Halt.Alike : Halt → Halt → Prop
  | fault {first second : Fault} : first.Alike second → Alike (.fault first) (.fault second)
  | exhausted : Alike .exhausted .exhausted

theorem Halt.Alike.refl (halt : Halt) : halt.Alike halt := by
  cases halt with
  | fault fault => exact .fault rfl
  | exhausted => exact .exhausted

/-- Parts of grammars whose leaves look at nothing before them. Builders may do what they like. -/
def Parts.local : Parts := ⟨Leaf.KnownOr Leaf.Local, fun _ => True⟩

namespace Alignment

/-- A run on a text behind another one, and on the text by itself. -/
def behind (before rest : Text) : Alignment where
  parts := .local
  text := before ++ rest
  other := rest
  place first second := first = before.size + second ∧ 0 ≤ second
  halts := Halt.Alike
  givesUp _ := False
  passed _ := False
  guarded := none
  link _ _ := True

variable {before rest : Text}

theorem behind_finds {first second : Except Fault (Option Match)}
    (shifted : Match.Shifted Fault.Alike before.size first second) :
    (behind before rest).Finds first second := by
  cases shifted with
  | none => exact .none
  | found value positive => exact .found ⟨rfl, rfl, positive⟩
  | error alike => exact .fault (.fault alike)

theorem shifted_of_outcomes {ε : Type} {alike : ε → ε → Prop} {first second : Option Match}
    (same : (behind before rest).Outcomes first second) :
    Match.Shifted alike before.size (.ok first) (.ok second) := by
  cases same with
  | none => exact .none
  | @some found other same =>
    obtain ⟨value, stop⟩ := found
    obtain ⟨other, last⟩ := other
    obtain ⟨equal, placed⟩ := same
    dsimp only at equal placed
    obtain ⟨rfl, positive⟩ := placed
    rw [equal]
    exact .found other positive

theorem behind_lawful (before rest : Text) : (behind before rest).Lawful where
  complete := Leaf.KnownOr.complete _
  leaves := by
    rintro recognise known _ start ⟨rfl, valid⟩
    exact behind_finds (Leaf.KnownOr.local known before rest start valid)
  same := by
    rintro _ second _ later ⟨rfl, _⟩ ⟨rfl, _⟩
    omega
  finished := by
    rintro _ second ⟨rfl, _⟩
    change _ = ((before ++ rest).size : Int) ↔ second = rest.size
    rw [Array.size_append]
    omega
  slice := by
    rintro _ second _ later ⟨rfl, valid⟩ ⟨rfl, ended⟩
    exact Text.slice_behind before rest valid ended
  rounds := by
    rintro _ second ⟨rfl, _⟩
    change Runner.rounds (before ++ rest) _ = Runner.rounds rest second
    simp only [Runner.rounds, Array.size_append]
    omega
  halts := .refl
  tooDeep := fun _ _ _ _ _ => .fault rfl
  linkStill := fun _ _ _ => trivial
  linkRecord := fun _ _ => trivial
  linkAside := fun _ _ _ _ _ _ _ => trivial
  passesOn := fun _ gaveUp => gaveUp.elim
  passed := fun gone => gone.elim

end Alignment

/-- The same outcome behind another text as at the beginning: the same value, an end that is further
on by the text before, and a fault of the same class. -/
theorem Session.matching_behind {history : List Command} {subject : Expression}
    (known : ∀ command ∈ history, command.BuiltFrom .local) (built : subject.BuiltFrom .local)
    (fuel : Nat) (before rest : Text) {start : Int} (valid : 0 ≤ start) (inside : start ≤ rest.size) :
    Match.Shifted Halt.Alike before.size
      ((matching fuel subject (before ++ rest) (before.size + start)).exec (.afterAll history)).1
      ((matching fuel subject rest start).exec (.afterAll history)).1 := by
  have lawful := Alignment.behind_lawful before rest
  have checked : (before ++ rest).checkOffset (before.size + start) = rest.checkOffset start := by
    simp only [Text.checkOffset, Array.size_append]
    rw [if_pos (by omega), if_pos ⟨valid, inside⟩]
  have runs : (Alignment.behind before rest).Runs (Rule.run fuel) (Rule.run fuel) :=
    lawful.run (Alignment.guards_of_none rfl) (fun _ _ => Alignment.guards_of_none rfl)
      (fun _ _ _ _ gives => gives.choose_spec.elim) fuel
  have aligned := (lawful.makes_evaluate [] subject built).thenAligned fun operand made =>
    lawful.matchFrom runs made checked ⟨rfl, valid⟩
  have stored := Store.afterAll_builtFrom (Leaf.KnownOr.complete _) known
  have ends := aligned ⟨.refl _ _, stored, trivial⟩
  change Alignment.Ends _ _ ((matching fuel subject (before ++ rest) (before.size + start)).exec _)
    ((matching fuel subject rest start).exec _) at ends
  generalize (matching fuel subject (before ++ rest) (before.size + start)).exec _ = one at ends ⊢
  generalize (matching fuel subject rest start).exec _ = two at ends ⊢
  cases ends with
  | answer same _ => exact Alignment.shifted_of_outcomes same
  | halt alike _ => exact .error alike
  | behind gaveUp _ => exact gaveUp.elim

set_option maxRecDepth 4096 in
private theorem brackets_alone :
    ((Session.matching 40 (.variable "brackets") (Text.ofString "(())") 0).exec
      (.afterAll [.assign "brackets" Sample.brackets])).1.toOption.map (Option.map Match.stop) =
      some (some 4) := by
  cbv

/-- Nested brackets at the beginning of a text, and behind another one. -/
theorem Session.matching_behind_brackets :
    let history := [Command.assign "brackets" Sample.brackets]
    let rest := Text.ofString "(())"
    let before := Text.ofString "x)"
    (∀ command ∈ history, command.BuiltFrom .local) ∧
    (Expression.variable "brackets").BuiltFrom .local ∧ (0 : Int) ≤ 0 ∧ (0 : Int) ≤ rest.size ∧
    ((matching 40 (.variable "brackets") rest 0).exec (.afterAll history)).1.toOption.map
      (Option.map Match.stop) = some (some 4) ∧
    Match.Shifted Halt.Alike before.size
      ((matching 40 (.variable "brackets") (before ++ rest) (before.size + 0)).exec
        (.afterAll history)).1
      ((matching 40 (.variable "brackets") rest 0).exec (.afterAll history)).1 := by
  have known : ∀ command ∈ [Command.assign "brackets" Sample.brackets], command.BuiltFrom .local := by
    intro command member
    obtain rfl := List.mem_singleton.mp member
    exact Sample.brackets_builtFrom _
  have built : (Expression.variable "brackets").BuiltFrom .local := trivial
  have inside : (0 : Int) ≤ (Text.ofString "(())").size := by decide
  exact ⟨known, built, by decide, inside, brackets_alone,
    matching_behind known built 40 _ _ (by decide) inside⟩

end TextGrammar
