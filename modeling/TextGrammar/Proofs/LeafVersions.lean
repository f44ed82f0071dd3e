import TextGrammar.Proofs.Encodings
import TextGrammar.Proofs.GuisedRuns

/-! Versions of a leaf. A function that recognises some characters at the start of a text may tell where
they end in the units of any codec. However it does, the leaf that is made of it ends at the same offset. -/

namespace TextGrammar

variable {text : Text} {start stop : Int}

/-- A function that recognises some characters at the start of a text, and finds a value for them or none. -/
structure Matcher where
  recognise : Text → Option (Option Value × Nat)
  within : ∀ {rest : Text} {found : Option Value × Nat}, recognise rest = some found → found.2 ≤ rest.size

namespace Matcher
variable (matcher : Matcher) {codec : Codec}

/-- The function that tells the end in the units of a codec. -/
def version (codec : Codec) : Recogniser := fun rest =>
  match matcher.recognise rest with
  | none => .ok none
  | some (value, count) => (codec.units rest 0 count).map fun units => some ⟨value, units⟩

/-- What is found in a text from an offset on. -/
def matchAt (text : Text) (start : Int) : Option Match :=
  (matcher.recognise (text.suffix start)).map fun (value, count) => ⟨value, start + count⟩

/-- The leaf that is made of a version. -/
def leaf (codec : Codec) : Leaf := .ofRecogniser codec (matcher.version codec)

end Matcher

/-- The characters up to the first blank, as a text. -/
def Matcher.word : Matcher where
  recognise rest :=
    let word := rest.toList.takeWhile (· != ' ')
    if word.isEmpty then none else some (some (.str (String.ofList word)), word.length)
  within found := by
    dsimp only at found
    split at found
    · cases found
    · cases found
      exact (List.takeWhile_prefix _).length_le

namespace Codec

/-- Units are counted in the rest of a text as they are in the whole. -/
theorem units_suffix (codec : Codec) (valid : 0 ≤ start) {count : Nat} (inside : start + count ≤ text.size) :
    codec.units (text.suffix start) 0 count = codec.units text start (start + count) := by
  rcases given : codec.width? with _ | width
  · simp only [units, given]
    congr 1
    omega
  · have size := Text.size_suffix valid (show start ≤ text.size by omega)
    obtain ⟨total, counted⟩ := units_total valid codec (show start ≤ start + count by omega) inside
    rw [counted, units_of_width (Int.le_refl 0) given (by omega) (by omega), Text.toList_suffix valid (by omega)]
    rw [units_of_width valid given (by omega) inside] at counted
    simpa using counted

/-- The conversion of an end that a function finds which may do anything else besides. -/
def continueIn {m : Type → Type} [Monad m] [MonadExceptOf Fault m] {α β : Type} (codec : Codec) (text : Text)
    (start : Int) (recognise : Text → m (Option α)) (unitsOf : α → Int) (withStop : α → Int → β) : m (Option β) := do
  match ← recognise (text.suffix start) with
  | none => return none
  | some found =>
    let stop ← MonadExcept.ofExcept (codec.charactersAfter text start (unitsOf found))
    return some (withStop found stop)

end Codec

/-- The same for a leaf. -/
def Leaf.ofRecogniserIn {m : Type → Type} [Monad m] [MonadExceptOf Fault m] (codec : Codec)
    (recognise : Text → m (Option Recognition)) (text : Text) (start : Int) : m (Option Match) :=
  codec.continueIn text start recognise Recognition.units fun found stop => ⟨found.value, stop⟩

namespace Codec

/-- What takes note of the texts that a function is called with. -/
abbrev Noting := ExceptT Fault (StateM (List Text))

/-- A function whose calls are noted. -/
def noting {α : Type} (recognise : Text → Except Fault (Option α)) : Text → Noting (Option α) := fun rest => do
  modify (rest :: ·)
  MonadExcept.ofExcept (recognise rest)

variable {α β : Type} (codec : Codec) (text : Text) (start : Int) (recognise : Text → Except Fault (Option α))
  (unitsOf : α → Int) (withStop : α → Int → β)

/-- A function that does nothing else is the special case that leaves are made of. -/
theorem continueIn_except :
    codec.continueIn text start recognise unitsOf withStop = codec.continueAt text start recognise unitsOf withStop := by
  have lifted (outcome : Except Fault Int) : (MonadExcept.ofExcept outcome : Except Fault Int) = outcome := by
    cases outcome <;> rfl
  unfold continueIn continueAt
  refine bind_congr fun answer => ?_
  cases answer with
  | none => rfl
  | some found => simp only [lifted]

/-- The function is called once, with the rest of the text. -/
theorem continueIn_noting (calls : List Text) :
    (codec.continueIn text start (noting recognise) unitsOf withStop).run.run calls =
      (codec.continueAt text start recognise unitsOf withStop, text.suffix start :: calls) := by
  simp only [continueIn, continueAt, noting]
  cases recognise (text.suffix start) with
  | error fault => rfl
  | ok answer =>
    cases answer with
    | none => rfl
    | some found =>
      have converts (outcome : Except Fault Int) :
          (do return some (withStop found (← MonadExcept.ofExcept outcome)) : Noting (Option β)).run.run
              (text.suffix start :: calls) =
            ((do return some (withStop found (← outcome))), text.suffix start :: calls) := by
        cases outcome <;> rfl
      exact converts _

end Codec

namespace Matcher
variable (matcher : Matcher) {codec : Codec}

/-- Whichever codec it is told in, the end is the same. -/
theorem leaf_eq (positive : codec.Positive) (valid : 0 ≤ start) (inside : start ≤ text.size) :
    matcher.leaf codec text start = .ok (matcher.matchAt text start) := by
  rw [leaf, Leaf.ofRecogniser, Codec.continueAt, matchAt, version]
  cases recognised : matcher.recognise (text.suffix start) with
  | none => rfl
  | some found =>
    obtain ⟨value, count⟩ := found
    have size := Text.size_suffix valid inside
    have enough : count ≤ (text.suffix start).size := matcher.within recognised
    have below : start + count ≤ text.size := by omega
    obtain ⟨units, counted⟩ := Codec.units_total valid codec (show start ≤ start + count by omega) below
    have converted := (Codec.charactersAfter_eq_ok_iff valid positive inside).mpr ⟨by omega, below, counted⟩
    dsimp only
    rw [Codec.units_suffix codec valid below, counted]
    change (do
      let stop ← codec.charactersAfter text start units
      return some (Match.mk value stop)) = _
    rw [converted]
    rfl

end Matcher

/-- Leaves that are versions of one another: they are made of the same function, as told in two codecs. Any
other leaf is a version of itself alone. -/
inductive Leaf.Versions : Leaf → Leaf → Prop
  | same {leaf : Leaf} : leaf.Within → Versions leaf leaf
  | told (matcher : Matcher) {first second : Codec} : first.Positive → second.Positive →
      Versions (matcher.leaf first) (matcher.leaf second)

theorem Leaf.Versions.within {first second : Leaf} (versions : Leaf.Versions first second) : first.Within := by
  cases versions with
  | same within => exact within
  | told => exact Leaf.ofRecogniser_within _ _

/-- The guise of sessions that differ in the versions of leaves, which may be exchanged wherever a text has an
offset. -/
def Guise.versions : Guise where
  leaves := Leaf.Versions
  asked text start := 0 ≤ start ∧ start ≤ text.size
  renames := False
  logs := False
  grammatical _ := False
  refl := .same
  valid := And.intro
  agree versions text start asked := by
    cases versions with
    | same => rfl
    | told matcher one two => rw [matcher.leaf_eq one asked.1 asked.2, matcher.leaf_eq two asked.1 asked.2]
  stays versions text start found asked ended := by
    have between := versions.within text start found asked.1 asked.2 ended
    exact ⟨asked.1.trans between.1, between.2⟩
  told := id

/-- What a caller is told does not depend on which version of a leaf is in use. -/
theorem Session.replies_versions {commands others : List Command} (all : List.Forall₂ Guise.versions.Commands commands others) :
    replies commands = replies others :=
  Guise.Commands.replies id all .initial

namespace Session

/-- A leaf does not depend on the units that it is measured in. From every offset of a text on, the grammar
that is made of a version of a function finds the value that the function finds, and ends as many characters
on as the function recognises, or it finds nothing where the function recognises nothing. The function is
called once, with the rest of the text. Hence versions may stand in for one another wherever they occur, in
whatever a caller asks for. -/
theorem versions_interchangeable :
    (∀ (matcher : Matcher) (codec : Codec) (text : Text) (start : Int), codec.Positive → 0 ≤ start →
      start ≤ text.size →
        (∀ history kind title found,
          Comes (.afterAll history) (.ofRecogniser kind title codec (matcher.version codec)) text start (.ok found) ↔
            found = matcher.matchAt text start) ∧
        Leaf.ofRecogniserIn codec (matcher.version codec) text start = matcher.leaf codec text start ∧
        ∀ calls, (Leaf.ofRecogniserIn codec (Codec.noting (matcher.version codec)) text start).run.run calls =
          (matcher.leaf codec text start, text.suffix start :: calls)) ∧
    ∀ commands others, List.Forall₂ Guise.versions.Commands commands others → replies commands = replies others := by
  refine ⟨fun matcher codec text start positive valid inside => ⟨fun history kind title found => ?_, ?_, fun calls => ?_⟩,
    fun _ _ all => replies_versions all⟩
  · have same := matcher.leaf_eq positive valid inside
    refine (comes_leaf_ok history valid inside).trans ?_
    rw [← Matcher.leaf, same, Except.ok.injEq, eq_comm]
  · exact codec.continueIn_except text start _ _ _
  · exact codec.continueIn_noting text start _ _ _ calls

/-- A word of characters that take more than one byte, told in bytes, and words with blanks between them, told
in bytes or in units of two bytes. -/
theorem versions_interchangeable_words :
    let text := Text.ofString "x héhé"
    let word (codec : Codec) := Expression.ofRecogniser .parser none codec (Matcher.word.version codec)
    let commands (codec : Codec) := [Command.parse (.separatedBy (word codec) (.literal " ")) text]
    Codec.utf8.Positive ∧ (0 : Int) ≤ 2 ∧ (2 : Int) ≤ text.size ∧
      Comes (.afterAll []) (word .utf8) text 2 (.ok (some (.yielding (.str "héhé") 6))) ∧
      List.Forall₂ Guise.versions.Commands (commands .utf8) (commands .utf16) ∧
      replies (commands .utf8) = replies (commands .utf16) := by
  intro text word commands
  have inside : (2 : Int) ≤ text.size := by decide
  have found : Matcher.word.matchAt text 2 = some (.yielding (.str "héhé") 6) := by
    have rest : (text.suffix 2).toList = ['h', 'é', 'h', 'é'] := by decide
    simp only [Matcher.matchAt, Matcher.word, rest]
    rfl
  obtain ⟨comes, -⟩ := versions_interchangeable.1 Matcher.word .utf8 text 2 Codec.utf8_positive (by decide) inside
  have told : Guise.versions.Expressions (word .utf8) (word .utf16) :=
    .leaf .parser "prefix function" (.told Matcher.word Codec.utf8_positive Codec.utf16_positive)
  have blank : Guise.versions.Expressions (.literal " ") (.literal " ") :=
    .leaf _ _ (.same (Leaf.literal_within " "))
  have all : List.Forall₂ Guise.versions.Commands (commands .utf8) (commands .utf16) :=
    .cons (.parse _ (.separatedBy told blank)) .nil
  exact ⟨Codec.utf8_positive, by decide, inside, (comes _ _ _ _).mpr found.symm, all, versions_interchangeable.2 _ _ all⟩

end Session

end TextGrammar
