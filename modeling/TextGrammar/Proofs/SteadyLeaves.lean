import TextGrammar.Proofs.SteadyRuns

/-! The leaves of the library are steady: they match between their start and the end of the text, and do
not fail as grammars do that nest too deeply. A search for a regular expression never goes back behind its
start, since what looks behind goes on from where it was. -/

namespace TextGrammar

namespace Regex
variable {mode : RegexMode} {text : Text}

/-- A search that goes on from some later position of the text, if it succeeds. -/
def Onward (text : Text) (run : Continuation → Progress → Option Progress) : Prop :=
  ∀ {continuation : Continuation} {progress reached : Progress}, progress.position ≤ text.size →
    run continuation progress = some reached →
      ∃ next : Progress, progress.position ≤ next.position ∧ next.position ≤ text.size ∧ continuation next = some reached

theorem takeOne_onward (test : Char → Bool) : Onward text (takeOne text test) := by
  intro continuation progress reached _ found
  rw [takeOne] at found
  split at found
  next taken =>
    have below : progress.position < text.size := by
      by_contra beyond
      rw [Array.getElem?_eq_none (Nat.le_of_not_lt beyond)] at taken
      cases taken
    exact ⟨{ progress with position := progress.position + 1 }, Nat.le_succ _, below, found⟩
  next => cases found

theorem takeWord?_le {word : List Char} {position stop : Nat} (inside : position ≤ text.size)
    (taken : takeWord? mode text word position = some stop) : position ≤ stop ∧ stop ≤ text.size := by
  induction word generalizing position with
  | nil =>
    cases taken
    exact ⟨Nat.le_refl _, inside⟩
  | cons character rest ih =>
    rw [takeWord?] at taken
    split at taken
    next here =>
      have below : position < text.size := by
        by_contra beyond
        rw [Array.getElem?_eq_none (Nat.le_of_not_lt beyond)] at here
        cases here
      have bounds := ih below taken
      omega
    next => cases taken

theorem repeatBody_onward {body : Continuation → Progress → Option Progress} (onward : Onward text body)
    (least : Nat) (most : Option Nat) (greedy : Bool) (fuel count : Nat) (last : Option Nat) :
    Onward text fun continuation => repeatBody body least most greedy continuation fuel count last := by
  induction fuel generalizing count last with
  | zero => exact fun _ found => nomatch found
  | succ fuel ih =>
    intro continuation progress reached inside found
    -- one more repetition, and what follows it
    have further {last : Option Nat}
        (found : body (repeatBody body least most greedy continuation fuel (count + 1) last) progress = some reached) :
        ∃ next : Progress, progress.position ≤ next.position ∧ next.position ≤ text.size ∧ continuation next = some reached := by
      obtain ⟨middle, after, within, found⟩ := onward inside found
      obtain ⟨next, later, ends, found⟩ := ih _ _ within found
      exact ⟨next, Nat.le_trans after later, ends, found⟩
    have here (found : continuation progress = some reached) :
        ∃ next : Progress, progress.position ≤ next.position ∧ next.position ≤ text.size ∧ continuation next = some reached :=
      ⟨progress, Nat.le_refl _, inside, found⟩
    simp only [repeatBody] at found
    split at found
    · exact further found
    · split at found
      · rcases (Option.orElse_eq_some _ _ _).mp found with again | ⟨-, ended⟩
        · exact further (Option.ite_none_right_eq_some.mp again).2
        · exact here ended
      · rcases (Option.orElse_eq_some _ _ _).mp found with ended | ⟨-, again⟩
        · exact here ended
        · exact further (Option.ite_none_right_eq_some.mp again).2

theorem search_onward (regex : Regex) : Onward text (search mode text regex) := by
  induction regex with
  | empty => exact fun inside found => ⟨_, Nat.le_refl _, inside, found⟩
  | literal code => exact takeOne_onward _
  | any => exact takeOne_onward _
  | set negated items => exact takeOne_onward _
  | sequence first second ihFirst ihSecond =>
    intro continuation progress reached inside found
    obtain ⟨middle, after, within, found⟩ := ihFirst inside found
    obtain ⟨next, later, ends, found⟩ := ihSecond within found
    exact ⟨next, Nat.le_trans after later, ends, found⟩
  | choice first second ihFirst ihSecond =>
    intro continuation progress reached inside found
    rcases (Option.orElse_eq_some _ _ _).mp found with found | ⟨-, found⟩
    · exact ihFirst inside found
    · exact ihSecond inside found
  | group number body ih =>
    intro continuation progress reached inside found
    obtain ⟨next, after, within, found⟩ := ih inside found
    exact ⟨{ next with captures := (number, progress.position, next.position) :: next.captures }, after, within, found⟩
  | backreference number =>
    intro continuation progress reached inside found
    simp only [search] at found
    split at found
    · cases found
    · split at found
      · cases found
      next taken =>
        obtain ⟨after, within⟩ := takeWord?_le inside taken
        exact ⟨{ progress with position := _ }, after, within, found⟩
  | repetition least most greedy body ih => exact fun inside found => repeatBody_onward ih _ _ _ _ _ _ inside found
  | atomic body ih =>
    intro continuation progress reached inside found
    obtain ⟨middle, taken, found⟩ := Option.bind_eq_some_iff.mp found
    obtain ⟨next, after, within, same⟩ := ih inside taken
    cases same
    exact ⟨_, after, within, found⟩
  | ahead negated body ih =>
    intro continuation progress reached inside found
    simp only [search] at found
    split at found
    next looked _ =>
      exact ⟨{ progress with captures := looked.captures }, Nat.le_refl _, inside, (Option.ite_none_left_eq_some.mp found).2⟩
    · exact ⟨_, Nat.le_refl _, inside, (Option.ite_none_right_eq_some.mp found).2⟩
  | behind negated width body ih =>
    intro continuation progress reached inside found
    simp only [search] at found
    split at found
    next looked _ =>
      exact ⟨{ progress with captures := looked.captures }, Nat.le_refl _, inside, (Option.ite_none_left_eq_some.mp found).2⟩
    · exact ⟨_, Nat.le_refl _, inside, (Option.ite_none_right_eq_some.mp found).2⟩
  | anchor condition =>
    intro continuation progress reached inside found
    exact ⟨_, Nat.le_refl _, inside, (Option.ite_none_right_eq_some.mp found).2⟩

theorem matchEnd?_within {regex : Regex} {start stop : Nat} (inside : start ≤ text.size)
    (found : regex.matchEnd? mode text start = some stop) : start ≤ stop ∧ stop ≤ text.size := by
  obtain ⟨reached, searched, rfl⟩ := Option.map_eq_some_iff.mp found
  obtain ⟨next, after, within, same⟩ := search_onward regex (Nat.min_le_right _ _) searched
  cases same
  rw [Nat.min_eq_left inside] at after
  exact ⟨after, within⟩

end Regex

namespace Text

theorem characterAt_shallow (text : Text) (offset : Int) : Shallow (fun _ => True) (text.characterAt offset) := by
  rw [characterAt]
  split
  · trivial
  · rw [Shallow, outside]
    split <;> decide

theorem runEnd_shallow (text : Text) (member : Char → Bool) (start : Int) :
    Shallow (fun _ => True) (text.runEnd member start) := by
  fun_induction runEnd text member start with
  | case1 start below fault failed =>
    have shallow := text.characterAt_shallow start
    rwa [failed] at shallow
  | case2 start below character found accepted ih => exact ih
  | case3 => trivial
  | case4 => trivial

end Text

theorem Codec.charactersAfter_shallow (codec : Codec) (text : Text) (start units : Int) :
    Shallow (fun _ => True) (codec.charactersAfter text start units) := by
  unfold charactersAfter Text.outside
  repeat' split
  all_goals first | trivial | nofun

namespace Leaf

theorem total_steady {stop? : Text → Int → Option Int} (within : (total stop?).Within) : (total stop?).Steady :=
  ⟨within, fun _ _ => trivial⟩

theorem literal_steady (word : String) : (literal word).Steady :=
  total_steady (literal_within word)

theorem fixed_steady {count : Int} (positive : 0 ≤ count) : (fixed count).Steady :=
  total_steady (fixed_within positive)

theorem constant_steady (shared : Constant) : shared.recognise.Steady where
  within := KnownOr.within (.constant shared)
  shallow text start := by
    cases shared with
    | finished | nothing | failure => trivial
    | digits | whitespace | letters => exact (text.runEnd_shallow _ start).bind fun _ _ => by split <;> trivial

theorem pure_steady (value : Value) : (pure value).Steady :=
  ⟨KnownOr.within (.pure value), fun _ _ => trivial⟩

theorem charactersIn_steady (member : Char → Bool) : (charactersIn member).Steady :=
  ⟨charactersIn_within member, fun text start => (text.runEnd_shallow member start).bind fun _ _ => by split <;> trivial⟩

theorem characterIn_steady (member : Char → Bool) : (characterIn member).Steady where
  within := characterIn_within member
  shallow text start := by
    rw [characterIn]
    split
    · exact (text.characterAt_shallow start).bind fun _ _ => by split <;> trivial
    · trivial

theorem regex_steady (mode : RegexMode) (expression : Regex) : (regex mode expression).Steady where
  within := by
    intro text start found valid inside matched
    rw [regex] at matched
    split at matched
    · obtain ⟨stop, ended, rfl⟩ := Option.map_eq_some_iff.mp (Except.ok.inj matched)
      obtain ⟨place, searched, same⟩ := Option.bind_eq_some_iff.mp ended
      cases same
      have bounds := Regex.matchEnd?_within (by omega) searched
      simp only [Match.span]
      omega
    · cases matched
  shallow text start := by
    rw [regex]
    split
    · trivial
    · exact fun deep => by cases deep

/-- A function of the rest of the text, if it does not fail as grammars do. -/
theorem ofRecogniser_steady (codec : Codec) {recognise : Recogniser}
    (shallow : ∀ rest, Shallow (fun _ => True) (recognise rest)) : (ofRecogniser codec recognise).Steady where
  within := ofRecogniser_within codec recognise
  shallow text start := by
    refine (shallow _).bind fun found _ => ?_
    cases found with
    | none => trivial
    | some found => exact (codec.charactersAfter_shallow text start _).bind fun _ _ => trivial

theorem regexBytes_steady (mode : RegexMode) (expression : Regex) : (regexBytes mode expression).Steady := by
  unfold regexBytes ofBytes
  exact ofRecogniser_steady .utf8 fun _ => trivial

end Leaf

end TextGrammar
