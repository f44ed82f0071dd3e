import TextGrammar.Fault.Class
import TextGrammar.Proofs.TextSuffix

/-! Units and characters. Counting the units between two offsets and walking that many units from the
first of them are inverse to one another, as long as every character takes a unit at least: a walk
then passes every boundary at a number of units of its own. -/

namespace TextGrammar.Codec

/-- Whether every character takes a unit at least. -/
def Positive (codec : Codec) : Prop :=
  ∀ width, codec.width? = some width → ∀ character, 1 ≤ width character

/-- A codec of its own whose characters take one unit each. -/
def Single (codec : Codec) : Prop :=
  ∃ width, codec.width? = some width ∧ ∀ character, width character = 1

theorem characters_positive : characters.Positive := by
  intro width given
  cases given

theorem ofWidth_positive {name : String} {width : Char → Int}
    (positive : ∀ character, 1 ≤ width character) : (ofWidth name width).Positive := by
  intro _ given
  cases given
  exact positive

theorem utf8_positive : utf8.Positive := by
  apply ofWidth_positive
  intro character
  unfold utf8Width
  repeat' split
  all_goals decide

theorem utf16_positive : utf16.Positive := by
  apply ofWidth_positive
  intro character
  unfold utf16Width
  split <;> decide

theorem Single.positive {codec : Codec} (single : codec.Single) : codec.Positive := by
  obtain ⟨width, given, one⟩ := single
  intro other same character
  have : other = width := Option.some.inj (same.symm.trans given)
  simp only [this, one, Int.le_refl]

section Walks
variable {width : Char → Int}

theorem sumWidths_isSome_iff {count : Nat} {text : List Char} :
    (sumWidths width count text).isSome ↔ count ≤ text.length := by
  induction text generalizing count with
  | nil => cases count <;> simp [sumWidths]
  | cons character rest ih =>
    cases count with
    | zero => simp [sumWidths]
    | succ count => simpa [sumWidths] using ih

theorem sumWidths_single (one : ∀ character, width character = 1) {count : Nat} {text : List Char}
    (inside : count ≤ text.length) : sumWidths width count text = some (count : Int) := by
  induction text generalizing count with
  | nil =>
    obtain rfl : count = 0 := by simpa using inside
    rfl
  | cons character rest ih =>
    cases count with
    | zero => rfl
    | succ count =>
      rw [sumWidths, ih (by simpa using inside), one]
      simp only [Option.map_some, Option.some.injEq]
      omega

variable (positive : ∀ character, 1 ≤ width character)
include positive

theorem le_sumWidths {count : Nat} {text : List Char} {total : Int}
    (summed : sumWidths width count text = some total) : (count : Int) ≤ total := by
  induction text generalizing count total with
  | nil =>
    cases count with
    | zero =>
      cases summed
      exact Int.le_refl _
    | succ count => cases summed
  | cons character rest ih =>
    cases count with
    | zero =>
      cases summed
      exact Int.le_refl _
    | succ count =>
      rw [sumWidths] at summed
      obtain ⟨further, inner, rfl⟩ := Option.map_eq_some_iff.mp summed
      have := ih inner
      have := positive character
      omega

/-- A walk stops after `count` characters if and only if these take the units that it was given. -/
theorem walk_eq_ok_iff {units : Int} {text : List Char} {count : Nat} :
    walk width units text = .ok count ↔ sumWidths width count text = some units := by
  induction text generalizing units count with
  | nil =>
    rw [walk]
    cases count with
    | zero =>
      simp only [sumWidths, Option.some.injEq]
      split
      next more => simp only [reduceCtorEq, false_iff]; omega
      · split
        next less => simp only [reduceCtorEq, false_iff]; omega
        · simp only [true_iff]
          omega
    | succ count =>
      simp only [sumWidths, reduceCtorEq, iff_false]
      repeat' split
      all_goals simp
  | cons character rest ih =>
    have wide := positive character
    rw [walk]
    cases count with
    | zero =>
      simp only [sumWidths, Option.some.injEq]
      split
      next more =>
        have : ¬ (0 : Int) = units := by omega
        simp only [this, iff_false]
        cases walk width (units - width character) rest <;> simp [Functor.map, Except.map]
      · split
        next less => simp only [reduceCtorEq, false_iff]; omega
        · simp only [true_iff]
          omega
    | succ count =>
      have step : (sumWidths width (count + 1) (character :: rest) = some units) ↔
          sumWidths width count rest = some (units - width character) := by
        rw [sumWidths, Option.map_eq_some_iff]
        constructor
        · intro ⟨further, inner, total⟩
          rw [inner, Option.some.injEq]
          omega
        · intro inner
          exact ⟨_, inner, by omega⟩
      rw [step, ← ih]
      split
      · cases walk width (units - width character) rest <;> simp [Functor.map, Except.map]
      next none =>
        have : ¬ sumWidths width count rest = some (units - width character) := by
          intro summed
          have := le_sumWidths positive summed
          omega
        rw [ih]
        split <;> simp [this]

end Walks

/-- No number of units is a fault of anything but its value. -/
theorem charactersAfter_class {codec : Codec} {text : Text} {start : Int} (valid : 0 ≤ start)
    {units : Int} {fault : Fault} (failed : codec.charactersAfter text start units = .error fault) :
    fault.class = .value := by
  simp only [charactersAfter, Text.window_of_nonneg valid] at failed
  split at failed
  · split at failed
    · cases failed
    · cases failed
      rfl
  · split at failed <;> cases failed <;> rfl

section Inverse
variable {codec : Codec} {text : Text} {start stop : Int} (valid : 0 ≤ start)
include valid

/-- The units from a valid offset up to a later one are the widths of the characters between. -/
theorem units_of_width {width : Char → Int} (given : codec.width? = some width)
    (later : start ≤ stop) (inside : stop ≤ text.size) {units : Int} :
    codec.units text start stop = .ok units ↔
      sumWidths width (stop - start).toNat (text.toList.drop start.toNat) = some units := by
  simp only [Codec.units, given, Text.window_of_nonneg valid]
  split
  next none =>
    have : (stop - start).toNat = 0 := by omega
    simp [this, sumWidths]
  · have enough : (stop - start).toNat ≤ (text.toList.drop start.toNat).length := by
      simp only [List.length_drop, Array.length_toList]
      omega
    rw [Nat.min_eq_left (by omega)]
    cases sumWidths width (stop - start).toNat (text.toList.drop start.toNat) <;> simp

/-- Between valid offsets units can always be counted. -/
theorem units_total (codec : Codec) (later : start ≤ stop) (inside : stop ≤ text.size) :
    ∃ units, codec.units text start stop = .ok units := by
  rcases given : codec.width? with _ | width
  · exact ⟨stop - start, by simp only [Codec.units, given]⟩
  · have enough : (stop - start).toNat ≤ (text.toList.drop start.toNat).length := by
      simp only [List.length_drop, Array.length_toList]
      omega
    have summed : (sumWidths width _ _).isSome := sumWidths_isSome_iff.mpr enough
    obtain ⟨units, summed⟩ := Option.isSome_iff_exists.mp summed
    exact ⟨units, (units_of_width valid given later inside).mpr summed⟩

/-- In a codec of single units, as in that of characters, units are counted by subtraction. -/
theorem units_single (single : codec.Single) (later : start ≤ stop) (inside : stop ≤ text.size) :
    codec.units text start stop = .ok (stop - start) := by
  obtain ⟨width, given, one⟩ := single
  rw [units_of_width valid given later inside, sumWidths_single one]
  · simp only [Option.some.injEq]
    omega
  · simp only [List.length_drop, Array.length_toList]
    omega

/-- The offset that lies some units on is the one, if there is any, up to which so many are counted. -/
theorem charactersAfter_eq_ok_iff (positive : codec.Positive) (inside : start ≤ text.size)
    {units : Int} :
    codec.charactersAfter text start units = .ok stop ↔
      start ≤ stop ∧ stop ≤ text.size ∧ codec.units text start stop = .ok units := by
  rcases given : codec.width? with _ | width
  · simp only [charactersAfter, Codec.units, given, Except.ok.injEq]
    split
    · simp only [Except.ok.injEq]
      omega
    · simp only [reduceCtorEq, false_iff]
      omega
  · have wide := positive width given
    constructor
    · intro found
      simp only [charactersAfter, given, Text.window_of_nonneg valid] at found
      split at found
      next count walked =>
        cases found
        have summed := (walk_eq_ok_iff wide).mp walked
        have enough := sumWidths_isSome_iff.mp (Option.isSome_iff_exists.mpr ⟨_, summed⟩)
        simp only [List.length_drop, Array.length_toList] at enough
        refine ⟨by omega, by omega, ?_⟩
        rw [units_of_width valid given (by omega) (by omega)]
        have : (start + count - start).toNat = count := by omega
        rw [this, summed]
      all_goals cases found
    · intro ⟨later, before, counted⟩
      have summed := (units_of_width valid given later before).mp counted
      simp only [charactersAfter, given, Text.window_of_nonneg valid,
        (walk_eq_ok_iff wide).mpr summed, Except.ok.injEq]
      omega

end Inverse

/-- What units say of offsets into a text from `start` on, in a codec that gives every character a
unit at least. -/
structure Inverse (codec : Codec) (text : Text) (start : Int) : Prop where
  /-- A conversion finds an offset if and only if so many units lie before it. -/
  found : ∀ units stop, codec.charactersAfter text start units = .ok stop ↔
    start ≤ stop ∧ stop ≤ text.size ∧ codec.units text start stop = .ok units
  /-- No two offsets have as many units before them. -/
  unique : ∀ units first second, start ≤ first → first ≤ text.size → start ≤ second →
    second ≤ text.size → codec.units text start first = .ok units →
    codec.units text start second = .ok units → first = second
  /-- Where there is no such offset, the number of units is refused for its value. -/
  refused : ∀ units, (¬ ∃ stop, start ≤ stop ∧ stop ≤ text.size ∧
      codec.units text start stop = .ok units) →
    ∃ fault, codec.charactersAfter text start units = .error fault ∧ fault.class = .value
  /-- There and back again. -/
  back : ∀ stop, start ≤ stop → stop ≤ text.size →
    (codec.units text start stop >>= codec.charactersAfter text start) = .ok stop

/-- How the codec of characters compares with another one from an offset on: they count the same
units and convert them to the same offsets, and refuse the same ones for their values. -/
structure LikeCharacters (codec : Codec) (text : Text) (start : Int) : Prop where
  units : ∀ stop, start ≤ stop → stop ≤ text.size →
    codec.units text start stop = characters.units text start stop
  found : ∀ units stop, codec.charactersAfter text start units = .ok stop ↔
    characters.charactersAfter text start units = .ok stop
  refused : ∀ units, (∃ fault, codec.charactersAfter text start units = .error fault ∧
      fault.class = .value) ↔
    ∃ fault, characters.charactersAfter text start units = .error fault ∧ fault.class = .value

theorem inverse {codec : Codec} (positive : codec.Positive) {text : Text} {start : Int}
    (valid : 0 ≤ start) (inside : start ≤ text.size) : codec.Inverse text start where
  found _ _ := charactersAfter_eq_ok_iff valid positive inside
  unique := by
    intro units first second later before later' before' counted counted'
    have one := (charactersAfter_eq_ok_iff valid positive inside).mpr ⟨later, before, counted⟩
    have two := (charactersAfter_eq_ok_iff valid positive inside).mpr ⟨later', before', counted'⟩
    exact Except.ok.inj (one.symm.trans two)
  refused := by
    intro units none
    rcases converted : codec.charactersAfter text start units with fault | stop
    · exact ⟨fault, rfl, charactersAfter_class valid converted⟩
    · exact absurd ⟨stop, (charactersAfter_eq_ok_iff valid positive inside).mp converted⟩ none
  back := by
    intro stop later before
    obtain ⟨units, counted⟩ := units_total valid codec later before
    rw [counted]
    exact (charactersAfter_eq_ok_iff valid positive inside).mpr ⟨later, before, counted⟩

theorem Single.likeCharacters {codec : Codec} (single : codec.Single) {text : Text} {start : Int}
    (valid : 0 ≤ start) (inside : start ≤ text.size) : codec.LikeCharacters text start := by
  have counted {stop : Int} (later : start ≤ stop) (before : stop ≤ text.size) :
      codec.units text start stop = characters.units text start stop :=
    units_single valid single later before
  have found (units stop : Int) : codec.charactersAfter text start units = .ok stop ↔
      characters.charactersAfter text start units = .ok stop := by
    rw [charactersAfter_eq_ok_iff valid single.positive inside,
      charactersAfter_eq_ok_iff valid characters_positive inside]
    constructor
    · intro ⟨later, before, same⟩
      exact ⟨later, before, (counted later before).symm.trans same⟩
    · intro ⟨later, before, same⟩
      exact ⟨later, before, (counted later before).trans same⟩
  refine ⟨fun stop => counted, found, fun units => ?_⟩
  rcases one : codec.charactersAfter text start units with fault | stop
  · rcases two : characters.charactersAfter text start units with other | stop
    · exact ⟨fun _ => ⟨other, rfl, charactersAfter_class valid two⟩,
        fun _ => ⟨fault, rfl, charactersAfter_class valid one⟩⟩
    · rw [(found units stop).mpr two] at one
      cases one
  · rw [(found units stop).mp one]

/-- Units and characters are exact inverses from every valid offset on, and the codec of characters
is no different there from those that give every character a single unit. -/
theorem units_inverse {codec : Codec} (positive : codec.Positive) (text : Text) {start : Int}
    (valid : 0 ≤ start) (inside : start ≤ text.size) :
    codec.Inverse text start ∧
      ∀ other : Codec, other.Single → other.LikeCharacters text start :=
  ⟨inverse positive valid inside, fun _ single => single.likeCharacters valid inside⟩

/-- Two bytes and four from the second character on, and nothing in between. -/
theorem units_inverse_utf8 :
    (utf8.Inverse #['a', 'é', '😀'] 1 ∧
      ∀ other : Codec, other.Single → other.LikeCharacters #['a', 'é', '😀'] 1) ∧
      utf8.charactersAfter #['a', 'é', '😀'] 1 6 = .ok 3 :=
  ⟨units_inverse utf8_positive #['a', 'é', '😀'] (by decide) (by decide), rfl⟩

end TextGrammar.Codec
