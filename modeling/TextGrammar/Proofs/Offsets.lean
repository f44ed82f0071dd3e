import Mathlib
import TextGrammar.Proofs.Histories
import TextGrammar.Proofs.TextSuffix

/-! Offsets stay within their text. From a valid offset on, no grammar goes back behind it or on
beyond the end of the text, and none of its parts is started anywhere else. -/

namespace TextGrammar

/-- A leaf that goes on from where it starts, as far as the text goes. -/
def Leaf.Within (leaf : Leaf) : Prop :=
  ∀ (text : Text) (start : Int) (found : Match), 0 ≤ start → start ≤ text.size →
    leaf text start = .ok (some found) → start ≤ found.stop ∧ found.stop ≤ text.size

/-- A repetition has enough rounds for what is left of the text. -/
theorem Runner.rounds_enough (text : Text) (start : Int) : (text.size - start).toNat < Runner.rounds text start := by
  rw [Runner.rounds]
  omega

namespace Text

private theorem hasAt_go_le {text : Text} {word : List Char} {index : Nat}
    (found : hasAt.go text word index = true) (inside : index ≤ text.size) :
    index + word.length ≤ text.size := by
  induction word generalizing index with
  | nil => simpa using inside
  | cons character rest ih =>
    simp only [hasAt.go, Bool.and_eq_true, beq_iff_eq] at found
    obtain ⟨here, _⟩ := Array.getElem?_eq_some_iff.mp found.1
    have := ih found.2 here
    simp only [List.length_cons]
    omega

theorem hasAt_le {text : Text} {word : List Char} {start : Int} (valid : 0 ≤ start)
    (found : text.hasAt word start = true) : start + word.length ≤ text.size := by
  simp only [hasAt, Bool.and_eq_true, decide_eq_true_eq] at found
  rw [place_of_nonneg valid found.1] at found
  have := hasAt_go_le found.2 (by omega)
  omega

theorem runEnd_within {text : Text} {member : Char → Bool} {start stop : Int}
    (inside : start ≤ text.size) (found : text.runEnd member start = .ok stop) :
    start ≤ stop ∧ stop ≤ text.size := by
  fun_induction runEnd text member start with
  | case1 => cases found
  | case2 start below character _ accepted ih =>
    have := ih (by omega) found
    omega
  | case3 =>
    cases found
    omega
  | case4 =>
    cases found
    omega

end Text

namespace Codec

theorem walk_le {width : Char → Int} {units : Int} {characters : List Char} {count : Nat}
    (walked : walk width units characters = .ok count) : count ≤ characters.length := by
  induction characters generalizing units count with
  | nil =>
    simp only [walk] at walked
    split at walked
    · cases walked
    · split at walked
      · cases walked
      · cases walked
        exact Nat.le_refl _
  | cons character rest ih =>
    simp only [walk] at walked
    split at walked
    · rcases inner : walk width (units - width character) rest with stray | further
      · rw [inner] at walked
        cases walked
      · rw [inner] at walked
        cases walked
        exact Nat.succ_le_succ (ih inner)
    · split at walked
      · cases walked
      · cases walked
        exact Nat.zero_le _

/-- However a client measures characters, a distance in its units ends within the text. -/
theorem charactersAfter_within {codec : Codec} {text : Text} {start units stop : Int}
    (valid : 0 ≤ start) (inside : start ≤ text.size)
    (converted : codec.charactersAfter text start units = .ok stop) :
    start ≤ stop ∧ stop ≤ text.size := by
  simp only [charactersAfter, Text.window_of_nonneg valid] at converted
  split at converted
  · split at converted
    · cases converted
      omega
    · cases converted
  · split at converted
    next count walked =>
      cases converted
      have := walk_le walked
      simp only [List.length_drop, Array.length_toList] at this
      omega
    · cases converted
    · cases converted

end Codec

namespace Leaf

theorem total_found {stop? : Text → Int → Option Int} {text : Text} {start : Int} {found : Match}
    (matched : total stop? text start = .ok (some found)) : stop? text start = some found.stop := by
  simp only [total, Except.ok.injEq, Option.map_eq_some_iff] at matched
  obtain ⟨stop, ended, rfl⟩ := matched
  exact ended

theorem total_within {stop? : Text → Int → Option Int}
    (ends : ∀ (text : Text) (start stop : Int), 0 ≤ start → start ≤ text.size →
      stop? text start = some stop → start ≤ stop ∧ stop ≤ text.size) : (total stop?).Within :=
  fun text start _ valid inside matched => ends text start _ valid inside (total_found matched)

theorem literal_within (word : String) : (literal word).Within := by
  refine total_within fun text start stop valid inside found => ?_
  split at found
  next present =>
    have := Text.hasAt_le valid present
    cases found
    omega
  next => cases found

theorem fixed_within {count : Int} (positive : 0 ≤ count) : (fixed count).Within := by
  refine total_within fun text start stop _ _ found => ?_
  simp only [Text.advance, Option.ite_none_right_eq_some, Option.some.injEq] at found
  omega

theorem finished_within : finished.Within := by
  refine total_within fun text start stop _ _ found => ?_
  simp only [Option.ite_none_right_eq_some, Option.some.injEq] at found
  omega

theorem charactersIn_within (member : Char → Bool) : (charactersIn member).Within := by
  intro text start found _ inside matched
  obtain ⟨stop, ended, matched⟩ := ok_of_bind matched
  have bounds := Text.runEnd_within inside ended
  split at matched
  · cases matched
  · cases matched
    exact bounds

theorem characterIn_within (member : Char → Bool) : (characterIn member).Within := by
  intro text start found _ _ matched
  unfold characterIn at matched
  split at matched
  next below =>
    obtain ⟨character, -, matched⟩ := ok_of_bind matched
    split at matched
    · cases matched
      simp only [Match.span]
      omega
    · cases matched
  next => cases matched

theorem ofRecogniser_within (codec : Codec) (recognise : Recogniser) :
    (ofRecogniser codec recognise).Within := by
  intro text start found valid inside matched
  obtain ⟨recognition, -, matched⟩ := ok_of_bind matched
  cases recognition with
  | none => cases matched
  | some recognition =>
    obtain ⟨stop, converted, matched⟩ := ok_of_bind matched
    cases matched
    exact Codec.charactersAfter_within valid inside converted

theorem KnownOr.within {leaf : Leaf} (known : KnownOr Leaf.Within leaf) : leaf.Within := by
  cases known with
  | literal word => exact literal_within word
  | fixed positive => exact fixed_within positive
  | finished => exact finished_within
  | nothing =>
    refine total_within fun text start stop _ inside found => ?_
    cases found
    omega
  | failure => exact total_within fun _ _ _ _ _ found => nomatch found
  | pure value =>
    intro text start found _ inside matched
    cases matched
    exact ⟨Int.le_refl _, inside⟩
  | charactersIn member => exact charactersIn_within member
  | characterIn member => exact characterIn_within member
  | ofRecogniser codec recognise => exact ofRecogniser_within codec recognise
  | failing fault => exact fun _ _ _ _ _ matched => nomatch matched
  | foreign within => exact within

end Leaf

/-- Parts of grammars whose leaves stay within their text. -/
def Parts.bounded (goesOn : (Except Fault (Option Match) → Script) → Prop) : Parts :=
  ⟨Leaf.KnownOr Leaf.Within, goesOn⟩

namespace Session
variable {goesOn : (Except Fault (Option Match) → Script) → Prop} {history : List Command}
  {subject : Expression} {text : Text} {start : Int}

/-- A single run between an offset and the end of a text. -/
abbrev between (goesOn : (Except Fault (Option Match) → Script) → Prop) (text : Text) (start : Int)
    (kept : List Event → Prop) : Alignment :=
  .solo (.bounded goesOn) text (fun offset => start ≤ offset ∧ offset ≤ text.size) kept

theorem between_lawful (valid : 0 ≤ start) {kept : List Event → Prop}
    (events : ∀ {event trace}, event.Alike
      (fun first second => first = second ∧ start ≤ first ∧ first ≤ text.size) none event →
        kept trace → kept (event :: trace))
    (aside : ∀ {rest}, goesOn rest → ∀ event {trace}, kept trace → kept (event :: trace)) :
    (between goesOn text start kept).Lawful := by
  refine Alignment.solo_lawful (Leaf.KnownOr.complete goesOn) (fun known inside matched => ?_)
    events aside
  have ended := Leaf.KnownOr.within known _ _ _ (by omega) inside.2 matched
  omega

/-- A match ends at or behind its start, within the text, and on the way every grammar is started at
such an offset. The starts are told for builders that only put grammars together: one that runs a
grammar while it builds does so on a text of its own, and the trace has no texts. -/
theorem matching_within (known : ∀ command ∈ history, command.BuiltFrom (.bounded goesOn))
    (built : subject.BuiltFrom (.bounded goesOn)) (fuel : Nat) (valid : 0 ≤ start)
    (inside : start ≤ text.size) :
    (∀ found, ((matching fuel subject text start).exec (.afterAll history)).1 = .ok (some found) →
      start ≤ found.stop ∧ found.stop ≤ text.size) ∧
    ((∀ rest, ¬goesOn rest) → ∀ offset, .started offset ∈
      ((matching fuel subject text start).exec (.afterAll history)).2.trace →
        start ≤ offset ∧ offset ≤ text.size) := by
  have stored := Store.afterAll_builtFrom (Leaf.KnownOr.complete goesOn) known
  refine ⟨?_, fun alone => ?_⟩
  · have lawful : (between goesOn text start fun _ => True).Lawful :=
      between_lawful valid (fun _ => id) fun _ _ _ => id
    exact (matching_keeps lawful built fuel ⟨Int.le_refl _, inside⟩ stored trivial).2
  · have lawful : (between goesOn text start fun trace => ∀ offset, .started offset ∈ trace →
        start ≤ offset ∧ offset ≤ text.size).Lawful := by
      refine between_lawful valid (fun alike holds offset member => ?_) fun goes => absurd goes (alone _)
      rcases List.mem_cons.mp member with rfl | member
      · cases alike with
        | started related => exact related.2
      · exact holds offset member
    refine (matching_keeps lawful built fuel ⟨Int.le_refl _, inside⟩ stored ?_).1
    simp [Store.afterAll_trace]

set_option maxRecDepth 4096 in
private theorem brackets_found :
    ((matching 40 (.variable "brackets") (Text.ofString "x(())") 1).exec
      (.afterAll [.assign "brackets" Sample.brackets])).1.toOption.map (Option.map Match.stop) =
      some (some 5) := by
  cbv

/-- Nested brackets from the second character on: the match ends at the end of the text. -/
theorem matching_within_brackets :
    let history := [Command.assign "brackets" Sample.brackets]
    let text := Text.ofString "x(())"
    let ended := (matching 40 (.variable "brackets") text 1).exec (.afterAll history)
    (∀ command ∈ history, command.BuiltFrom (.bounded fun _ => False)) ∧
    (Expression.variable "brackets").BuiltFrom (.bounded fun _ => False) ∧
    (0 : Int) ≤ 1 ∧ (1 : Int) ≤ text.size ∧
    ended.1.toOption.map (Option.map Match.stop) = some (some 5) ∧
    (∀ found, ended.1 = .ok (some found) → (1 : Int) ≤ found.stop ∧ found.stop ≤ text.size) ∧
    ((∀ _ : Except Fault (Option Match) → Script, ¬False) →
      ∀ offset : Int, .started offset ∈ ended.2.trace → 1 ≤ offset ∧ offset ≤ text.size) := by
  have known : ∀ command ∈ [Command.assign "brackets" Sample.brackets],
      command.BuiltFrom (.bounded fun _ => False) := by
    intro command member
    obtain rfl := List.mem_singleton.mp member
    exact Sample.brackets_builtFrom _
  have built : (Expression.variable "brackets").BuiltFrom (.bounded fun _ => False) := trivial
  have inside : (1 : Int) ≤ (Text.ofString "x(())").size := by decide
  exact ⟨known, built, by decide, inside, brackets_found, matching_within known built 40 (by decide) inside⟩

end Session

end TextGrammar
