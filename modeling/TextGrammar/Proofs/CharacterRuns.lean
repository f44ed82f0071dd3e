import TextGrammar.Proofs.Foretelling
import TextGrammar.Proofs.Integers
import TextGrammar.Proofs.WholeTexts

/-! Runs of characters of a class. The leaf that scans for a run reads the same as repetitions of a single
character, namely as far as the class goes. Where it ends either nothing is left or a run of the other
characters begins, so the two leaves for a class and for all other characters cut a text into pieces in turn. -/

namespace TextGrammar
open TextGrammar.Action

/-- What is read where characters of a class are taken as far as they go. -/
def Reading.ofRun (member : Char → Bool) (rest : List Char) : Reading :=
  .ok (if rest.head?.any member then some (none, rest.dropWhile member) else none)

/-- A rule that takes characters of a class as far as they go, and nothing if there are none. -/
def Rule.TakesRuns (member : Char → Bool) : Rule → Prop :=
  Rule.Tells fun rest reading => reading = .ofRun member rest

theorem Rule.TakesRuns.reads {member : Char → Bool} {rule : Rule} (takes : rule.TakesRuns member) {setting : Setting}
    {rest : List Char} (inside : rest <:+ setting.text.toList) : setting.Reads rule rest (.ofRun member rest) := by
  obtain ⟨_, reads, rfl⟩ := takes setting rest inside
  exact reads

/-- Pieces that consist of characters of a class and of other characters in turn. -/
inductive Alternate (member : Char → Bool) : Bool → List String → Prop
  | nil {side : Bool} : Alternate member side []
  | cons {side : Bool} {piece : String} {pieces : List String} : piece ≠ "" →
      (∀ character ∈ piece.toList, member character = side) → Alternate member (!side) pieces →
        Alternate member side (piece :: pieces)

/-- What is read where all that is left is cut into pieces. -/
def Reading.Tiles (member : Char → Bool) (rest : List Char) (reading : Reading) : Prop :=
  ∃ side pieces, Alternate member side pieces ∧ String.join pieces = String.ofList rest ∧
    reading = .ok (some (some (.list (pieces.map .str)), []))

/-- Characters of a class from an offset up to another one, where the text ends or a different character stands. -/
structure Text.RunsTo (text : Text) (member : Char → Bool) (start stop : Int) : Prop where
  forward : start ≤ stop
  inside : stop ≤ text.size
  members : ∀ offset, start ≤ offset → offset < stop →
    ∃ character, text.characterAt offset = .ok character ∧ member character
  ends : stop = text.size ∨ ∃ character, text.characterAt stop = .ok character ∧ ¬member character

theorem Text.runsTo_offsetOf {text : Text} {before rest : List Char} (parted : text.toList = before ++ rest)
    (member : Char → Bool) : text.RunsTo member (text.offsetOf rest) (text.offsetOf (rest.dropWhile member)) := by
  induction rest generalizing before with
  | nil =>
    rw [List.dropWhile_nil]
    exact ⟨Int.le_refl _, Int.le_of_eq text.offsetOf_nil, fun _ _ _ => by omega, .inl text.offsetOf_nil⟩
  | cons first tail ih =>
    have here := characterAt_offsetOf parted
    by_cases accepted : member first
    · have runs := ih (parted.trans (List.append_cons before first tail))
      have next : text.offsetOf tail = text.offsetOf (first :: tail) + 1 := by
        rw [offsetOf, offsetOf, List.length_cons]
        omega
      rw [List.dropWhile_cons_of_pos accepted]
      refine ⟨by have := runs.forward; omega, runs.inside, fun offset least less => ?_, runs.ends⟩
      by_cases begins : offset = text.offsetOf (first :: tail)
      · exact ⟨first, begins ▸ here, accepted⟩
      · exact runs.members offset (by omega) less
    · rw [List.dropWhile_cons_of_neg accepted]
      refine ⟨Int.le_refl _, ?_, fun _ _ _ => by omega, .inr ⟨first, here, accepted⟩⟩
      rw [offsetOf]
      omega

/-- The match of a run, if it takes a character. -/
theorem Reading.matches_ofRun (text : Text) (member : Char → Bool) (rest : List Char) :
    (ofRun member rest).map (Option.map text.matchOf) =
      .ok (if text.offsetOf rest < text.offsetOf (rest.dropWhile member) then
        some (.span (text.offsetOf (rest.dropWhile member))) else none) := by
  refine congrArg Except.ok ?_
  have moved : rest.head?.any member ↔ text.offsetOf rest < text.offsetOf (rest.dropWhile member) := by
    rw [Text.offsetOf, Text.offsetOf]
    constructor
    · intro begins
      have shorter := Form.length_dropWhile ((Option.any_eq_true _ _).mp begins)
      omega
    · cases rest with
      | nil => simp
      | cons first tail =>
        intro less
        by_contra refused
        rw [List.dropWhile_cons_of_neg (by simpa using refused)] at less
        omega
  by_cases begins : rest.head?.any member
  · rw [if_pos begins, if_pos (moved.mp begins)]
    rfl
  · rw [if_neg begins, if_neg (mt moved.mpr begins)]
    rfl

theorem Form.not_begins_character {member : Char → Bool} {first : Char} {tail : List Char} (refused : ¬member first) :
    ¬(character member).begins (first :: tail) := by
  rintro ⟨_, ⟨⟩, holds⟩
  exact refused holds

namespace Setting
variable {setting : Setting} {rest : List Char} {member : Char → Bool} (tag : Tag) (traced : Bool)

namespace Reads

theorem charactersIn (inside : rest <:+ setting.text.toList) :
    setting.Reads (.object tag traced (.leaf (Leaf.charactersIn member))) rest (.ofRun member rest) := by
  have decides : (⟨setting, fun _ => False⟩ : Trial).Decides (.run member) _ rest := Trial.decides_run member
  obtain ⟨reading, reads, explains⟩ := decides inside
  refine object ?_ tag traced
  rw [Reading.ofRun]
  by_cases begins : (Form.run member).begins rest
  · have taken : (Form.run member).Explains (fun _ => False) rest _ := Form.explains_run begins
    obtain ⟨body, parted, denotes⟩ := taken.sound rfl
    cases explains.complete parted (Form.ends_dropWhile member rest) denotes
    rwa [if_pos ((Option.any_eq_true _ _).mpr begins)]
  · cases explains.otherwise begins
    rwa [if_neg (mt (Option.any_eq_true _ _).mp begins)]

theorem characterIn {first : Char} {tail : List Char} (accepted : member first)
    (inside : first :: tail <:+ setting.text.toList) :
    setting.Reads (.object tag traced (.leaf (Leaf.characterIn member))) (first :: tail)
      (.ok (some (none, tail))) := by
  have decides : (⟨setting, fun _ => False⟩ : Trial).Decides (.character member) _ (first :: tail) :=
    Trial.decides_character member
  obtain ⟨reading, reads, explains⟩ := decides inside
  have whole : first :: tail = [first] ++ tail := rfl
  cases explains.complete whole trivial ⟨first, rfl, accepted, rfl⟩
  exact reads.object tag traced

theorem no_characterIn (absent : ¬(Form.character member).begins rest) (inside : rest <:+ setting.text.toList) :
    setting.Reads (.object tag traced (.leaf (Leaf.characterIn member))) rest (.ok none) := by
  have decides : (⟨setting, fun _ => False⟩ : Trial).Decides (.character member) _ rest :=
    Trial.decides_character member
  obtain ⟨reading, reads, explains⟩ := decides inside
  cases explains.otherwise absent
  exact reads.object tag traced

end Reads

/-- Repetitions of a character of a class go as far as the class does. -/
theorem Repeats.characterIn (inside : rest <:+ setting.text.toList) :
    ∃ found, setting.Repeats .pattern (.object tag traced (.leaf (Leaf.characterIn member))) rest
      (.ok (found, rest.dropWhile member)) := by
  induction rest with
  | nil => exact ⟨[], stopped (.no_characterIn tag traced nofun inside)⟩
  | cons first tail ih =>
    by_cases accepted : member first
    · have one := Reads.characterIn tag traced accepted inside
      rw [List.dropWhile_cons_of_pos accepted]
      by_cases ended : tail = []
      · subst ended
        exact ⟨_, last one rfl (.pattern none)⟩
      · obtain ⟨found, repeats⟩ := ih ((List.suffix_cons first tail).trans inside)
        exact ⟨_, next one (.pattern none) (Nat.lt_succ_self _) ended repeats⟩
    · rw [List.dropWhile_cons_of_neg accepted]
      exact ⟨[], stopped (.no_characterIn tag traced (Form.not_begins_character accepted) inside)⟩

/-- A character of a class and its repetitions read the run that begins with it. -/
theorem Reads.oneOrMore_characterIn (inside : rest <:+ setting.text.toList) :
    setting.Reads (.oneOrMore .pattern (.object tag traced (.leaf (Leaf.characterIn member)))) rest
      (.ofRun member rest) := by
  cases rest with
  | nil => exact oneOrMore_none (no_characterIn tag traced nofun inside)
  | cons first tail =>
    rw [Reading.ofRun, List.head?_cons, Option.any_some]
    by_cases accepted : member first
    · have one := characterIn tag traced accepted inside
      rw [if_pos accepted, List.dropWhile_cons_of_pos accepted]
      by_cases ended : tail = []
      · subst ended
        exact oneOrMore_last one (.pattern none)
      · obtain ⟨found, repeats⟩ : ∃ found, setting.Repeats .pattern _ tail (.ok (found, tail.dropWhile member)) :=
          Repeats.characterIn tag traced ((List.suffix_cons first tail).trans inside)
        exact oneOrMore one (.pattern none) (Nat.lt_succ_self _) ended repeats
    · rw [if_neg accepted]
      exact oneOrMore_none (no_characterIn tag traced (Form.not_begins_character accepted) inside)

end Setting

namespace Expression
variable {scope : Scope} (members : CharacterClass)

theorem charactersIn_makes : (charactersIn members).Makes scope .pattern (Rule.TakesRuns members.member) :=
  .leaf _ _ fun tag traced _ _ inside => ⟨_, .charactersIn tag traced inside, rfl⟩

theorem charactersNotIn_makes :
    (charactersNotIn members).Makes scope .pattern (Rule.TakesRuns fun character => !members.member character) :=
  .leaf _ _ fun tag traced _ _ inside => ⟨_, .charactersIn tag traced inside, rfl⟩

theorem oneOrMore_characterIn_makes :
    (oneOrMore (characterIn members)).Makes scope .pattern (Rule.TakesRuns members.member) := by
  have one : (characterIn members).Makes scope .pattern fun rule =>
      ∃ inner around, rule = .object inner around (.leaf (Leaf.characterIn members.member)) :=
    .leaf _ _ fun inner around => ⟨inner, around, rfl⟩
  refine one.oneOrMore ?_
  rintro _ ⟨inner, around, rfl⟩ tag traced setting rest inside
  exact ⟨_, (Setting.Reads.oneOrMore_characterIn inner around inside).object tag traced, rfl⟩

end Expression

/-- A grammar that does not depend on other ones matches what its rule reads. -/
theorem Expression.Makes.comes_matches {subject : Expression} {kind : Kind} {text : Text} {rest : List Char}
    {spec : List Char → Reading → Prop} (makes : subject.Makes [] kind (Rule.Tells spec))
    (inside : rest <:+ text.toList) (store : Store) : ∃ reading, spec rest reading ∧
      Session.Comes store subject text (text.offsetOf rest) (reading.map (Option.map text.matchOf)) := by
  obtain ⟨_, named, ⟨made, rfl, is⟩, evaluates⟩ := makes store.verbose store.names
  obtain ⟨reading, reads, told⟩ := is.rule ⟨text, .any⟩ rest inside
  obtain ⟨enough, matched⟩ := Setting.Reads.matchFrom { store with names := named } (fun _ => trivial) reads inside
  refine ⟨reading, told, enough, ?_⟩
  rw [Session.matching, Session.evaluate, exec_bind_ok (evaluates store rfl rfl), matched enough (Nat.le_refl _)]
  rfl

/-- The piece that a list of characters begins with, as far as characters are on one side of a class. -/
structure Piece (member : Char → Bool) (side : Bool) (rest piece after : List Char) : Prop where
  parted : rest = piece ++ after
  some : piece ≠ []
  same : ∀ character ∈ piece, member character = side
  turns : ∀ character ∈ after.head?, member character = !side

section Pieces
variable {member : Char → Bool} {side : Bool} {rest piece after : List Char} {first second item : Rule}
  {setting : Setting}

theorem exists_piece (member : Char → Bool) (character : Char) (tail : List Char) :
    ∃ piece after, Piece member (member character) (character :: tail) piece after := by
  let within (other : Char) : Bool := member other == member character
  refine ⟨(character :: tail).takeWhile within, (character :: tail).dropWhile within,
    List.takeWhile_append_dropWhile.symm, ?_, fun other inside => ?_, fun other next => ?_⟩
  · have begins : within character := beq_self_eq_true _
    rw [List.takeWhile_cons_of_pos begins]
    exact List.cons_ne_nil _ _
  · have accepted : within other := List.mem_takeWhile_imp inside
    exact eq_of_beq accepted
  · have refused := List.head?_dropWhile_not within (character :: tail)
    rw [Option.mem_def.mp next] at refused
    exact Bool.eq_not.mpr (ne_of_beq_false refused)

namespace Piece

theorem negated (is : Piece member side rest piece after) :
    Piece (fun character => !member character) (!side) rest piece after :=
  ⟨is.parted, is.some, fun character inside => congrArg not (is.same character inside),
    fun character next => congrArg not (is.turns character next)⟩

theorem shorter (is : Piece member side rest piece after) : after.length < rest.length := by
  have positive := List.length_pos_of_ne_nil is.some
  rw [is.parted, List.length_append]
  omega

/-- Characters of a class in front are taken up to the last of them. -/
theorem taken (is : Piece member true rest piece after) :
    Reading.ofRun member rest = .ok (Option.some (none, after)) := by
  obtain ⟨rfl, nonempty, same, turns⟩ := is
  have ends : (piece ++ after).dropWhile member = after :=
    Form.dropWhile_of_ends same fun character next => by simp [turns character next]
  cases piece with
  | nil => exact absurd rfl nonempty
  | cons character tail =>
    rw [Reading.ofRun, ends, List.cons_append, List.head?_cons, Option.any_some, if_pos (same character (by simp))]

/-- Where another character stands in front, nothing is taken. -/
theorem refused (is : Piece member false rest piece after) : Reading.ofRun member rest = .ok none := by
  obtain ⟨rfl, nonempty, same, -⟩ := is
  cases piece with
  | nil => exact absurd rfl nonempty
  | cons character tail =>
    rw [Reading.ofRun, List.cons_append, List.head?_cons, Option.any_some, same character (by simp),
      if_neg Bool.false_ne_true]

end Piece

/-- One of the two rules for a class and for all other characters takes the piece in front. -/
theorem Rule.TakesRuns.orElse (one : first.TakesRuns member)
    (two : second.TakesRuns fun character => !member character) (is : Piece member side rest piece after)
    (inside : rest <:+ setting.text.toList) :
    setting.Reads (.orElse first second) rest (.ok (some (none, after))) := by
  have inClass := one.reads inside
  have outOfClass := two.reads inside
  cases side with
  | true =>
    rw [is.taken] at inClass
    exact .orElse_found inClass
  | false =>
    rw [is.refused] at inClass
    rw [is.negated.taken] at outOfClass
    exact .orElse_next inClass outOfClass

theorem Rule.TakesRuns.orElse_nil (one : first.TakesRuns member)
    (two : second.TakesRuns fun character => !member character) :
    setting.Reads (.orElse first second) [] (.ok none) :=
  .orElse_next (one.reads List.nil_suffix) (two.reads List.nil_suffix)

/-- A rule that takes the piece in front, and is worth its text. -/
structure Rule.TakesPieces (member : Char → Bool) (rule : Rule) : Prop where
  taken : ∀ {setting : Setting} {side : Bool} {rest piece after : List Char}, rest <:+ setting.text.toList →
    Piece member side rest piece after →
      setting.Reads rule rest (.ok (some (some (.str (String.ofList piece)), after)))
  ended : ∀ {setting : Setting}, setting.Reads rule [] (.ok none)

theorem Expression.pieces_makes (members : CharacterClass) :
    (captured (charactersIn members ||| charactersNotIn members)).Makes [] .parser
      (Rule.TakesPieces members.member) := by
  have choice : (charactersIn members ||| charactersNotIn members).Makes [] .pattern fun rule =>
      ∃ first second tag traced, rule = .object tag traced (.orElse first second) ∧
        first.TakesRuns members.member ∧ second.TakesRuns fun character => !members.member character :=
    (charactersIn_makes members).union (charactersNotIn_makes members)
      fun one two tag traced => ⟨_, _, tag, traced, rfl, one, two⟩
  refine choice.captured ?_
  rintro _ ⟨first, second, tag, traced, rfl, one, two⟩ around logged
  constructor
  · intro setting side rest piece after inside is
    have reads := (one.orElse two is inside).object tag traced
    obtain ⟨before, parted⟩ := inside
    rw [is.parted] at parted reads ⊢
    exact .object (.captured parted.symm reads (.pattern none)) around logged
  · intro setting
    exact .object (.captured_none .pattern ((one.orElse_nil two).object tag traced)) around logged

/-- Repetitions cut what is left into pieces. -/
theorem Rule.TakesPieces.repeats (takes : item.TakesPieces member)
    (starts : ∀ character ∈ rest.head?, member character = side) (inside : rest <:+ setting.text.toList) :
    ∃ pieces found, Alternate member side pieces ∧ String.join pieces = String.ofList rest ∧
      found.map Prod.fst = pieces.map (some ∘ Value.str) ∧ setting.Repeats .parser item rest (.ok (found, [])) := by
  induction size : rest.length using Nat.strong_induction_on generalizing rest side with
  | _ length ih =>
    cases rest with
    | nil => exact ⟨[], [], .nil, rfl, rfl, .stopped takes.ended⟩
    | cons character tail =>
      obtain rfl : member character = side := starts character rfl
      obtain ⟨piece, after, is⟩ := exists_piece member character tail
      have behind : after <:+ setting.text.toList := .trans ⟨piece, is.parted.symm⟩ inside
      have one : setting.Reads item (character :: tail) _ := takes.taken inside is
      obtain ⟨pieces, found, alternate, joined, values, repeats⟩ : ∃ pieces found,
          Alternate member (!member character) pieces ∧ String.join pieces = String.ofList after ∧
            found.map Prod.fst = pieces.map (some ∘ Value.str) ∧ setting.Repeats .parser item (character :: tail)
              (.ok ((some (.str (String.ofList piece)), after) :: found, [])) := by
        by_cases ended : after = []
        · subst ended
          exact ⟨[], [], .nil, rfl, rfl, .last one rfl fun _ => rfl⟩
        · obtain ⟨pieces, found, alternate, joined, values, repeats⟩ :=
            ih after.length (size ▸ is.shorter) is.turns behind rfl
          exact ⟨pieces, found, alternate, joined, values, .next one (fun _ => rfl) is.shorter ended repeats⟩
      refine ⟨String.ofList piece :: pieces, _, .cons ?_ ?_ alternate, ?_, ?_, repeats⟩
      · rw [Ne, String.ofList_eq_empty_iff]
        exact is.some
      · rw [String.toList_ofList]
        exact is.same
      · rw [String.join_cons, joined, ← String.ofList_append, is.parted]
      · rw [List.map_cons, List.map_cons, values]
        rfl

theorem Expression.tiles_makes (members : CharacterClass) :
    (many (captured (charactersIn members ||| charactersNotIn members))).Makes [] .parser
      (Rule.Tells (Reading.Tiles members.member)) := by
  refine (pieces_makes members).many fun {rule} takes item tag traced setting rest inside => ?_
  have starts : ∀ character ∈ rest.head?, members.member character = rest.head?.any members.member := by
    intro character first
    rw [Option.mem_def.mp first, Option.any_some]
  obtain ⟨pieces, found, alternate, joined, values, repeats⟩ := takes.repeats starts inside
  refine ⟨_, (Setting.Reads.many item repeats).object tag traced, _, pieces, alternate, joined, ?_⟩
  simp only [Except.map, values, Kind.gathered, List.filterMap_map, Function.id_comp, List.filterMap_eq_map]

end Pieces

/-- All characters that are not of a class. -/
def Expression.CharacterClass.complement (members : CharacterClass) (description : String) : CharacterClass :=
  ⟨description, fun character => !members.member character⟩

namespace Session
open Expression (CharacterClass)

variable {store : Store} {text : Text} {start : Int} {members : CharacterClass} {rest : List Char}

/-- A grammar that matches the run of a class at an offset up to its end, if a character of the class stands there. -/
def MatchesRun (store : Store) (subject : Expression) (member : Char → Bool) (text : Text) (start : Int) : Prop :=
  ∃ stop, text.RunsTo member start stop ∧
    Comes store subject text start (.ok (if start < stop then some (.span stop) else none))

/-- How runs of a class, and runs of all other characters, are found at an offset. -/
structure FindsRuns (store : Store) (members : CharacterClass) (text : Text) (start : Int) : Prop where
  inClass : MatchesRun store (.charactersIn members) members.member text start
  outOfClass : MatchesRun store (.charactersNotIn members) (fun character => !members.member character) text start
  /-- Scanning for a run comes to the same as repeating a single character. -/
  repeated : ∀ outcome, Comes store (.charactersIn members) text start outcome ↔
    Comes store (.oneOrMore (.characterIn members)) text start outcome
  repeatedOut : ∀ description outcome, Comes store (.charactersNotIn members) text start outcome ↔
    Comes store (.oneOrMore (.characterIn (members.complement description))) text start outcome
  /-- Before the end of the text one of the two matches, and the other one does not. -/
  oneSide : start < text.size → ∃ stop, start < stop ∧
    (Comes store (.charactersIn members) text start (.ok (some (.span stop))) ∧
        Comes store (.charactersNotIn members) text start (.ok none) ∨
      Comes store (.charactersIn members) text start (.ok none) ∧
        Comes store (.charactersNotIn members) text start (.ok (some (.span stop))))
  /-- Repeating them cuts the rest of the text into pieces. -/
  tiled : ∃ side pieces, Alternate members.member side pieces ∧ String.join pieces = text.slice start text.size ∧
    Comes store (.many (.captured (.charactersIn members ||| .charactersNotIn members))) text start
      (.ok (some (.yielding (.list (pieces.map .str)) text.size)))

theorem comes_ofRun {subject : Expression} {member : Char → Bool}
    (makes : subject.Makes [] .pattern (Rule.TakesRuns member)) (inside : rest <:+ text.toList) :
    Comes store subject text (text.offsetOf rest) ((Reading.ofRun member rest).map (Option.map text.matchOf)) := by
  obtain ⟨_, rfl, comes⟩ := makes.comes_matches inside store
  exact comes

/-- What takes the same runs comes to the same. -/
theorem comes_runs_iff {subject other : Expression} {member : Char → Bool}
    (makes : subject.Makes [] .pattern (Rule.TakesRuns member))
    (others : other.Makes [] .pattern (Rule.TakesRuns member)) (inside : rest <:+ text.toList)
    (outcome : Except Fault (Option Match)) :
    Comes store subject text (text.offsetOf rest) outcome ↔ Comes store other text (text.offsetOf rest) outcome := by
  constructor
  · intro comes
    exact comes.unique (comes_ofRun makes inside) ▸ comes_ofRun others inside
  · intro comes
    exact comes.unique (comes_ofRun others inside) ▸ comes_ofRun makes inside

theorem matchesRun {subject : Expression} {member : Char → Bool}
    (makes : subject.Makes [] .pattern (Rule.TakesRuns member)) (inside : rest <:+ text.toList) :
    MatchesRun store subject member text (text.offsetOf rest) := by
  have comes : Comes store subject text (text.offsetOf rest) _ := comes_ofRun makes inside
  rw [Reading.matches_ofRun] at comes
  obtain ⟨before, parted⟩ := inside
  exact ⟨_, Text.runsTo_offsetOf parted.symm member, comes⟩

/-- The piece in front of what is left is a run on the one side of a class. -/
theorem comes_oneSide (inside : rest <:+ text.toList) (some : rest ≠ []) : ∃ stop, text.offsetOf rest < stop ∧
    (Comes store (.charactersIn members) text (text.offsetOf rest) (.ok (Option.some (.span stop))) ∧
        Comes store (.charactersNotIn members) text (text.offsetOf rest) (.ok none) ∨
      Comes store (.charactersIn members) text (text.offsetOf rest) (.ok none) ∧
        Comes store (.charactersNotIn members) text (text.offsetOf rest) (.ok (Option.some (.span stop)))) := by
  obtain ⟨character, tail, rfl⟩ := List.exists_cons_of_ne_nil some
  obtain ⟨piece, after, is⟩ := exists_piece members.member character tail
  have inClass : Comes store _ text _ _ := comes_ofRun (Expression.charactersIn_makes members) inside
  have outOfClass : Comes store _ text _ _ := comes_ofRun (Expression.charactersNotIn_makes members) inside
  have forward : text.offsetOf (character :: tail) < text.offsetOf after := by
    have shorter := is.shorter
    rw [Text.offsetOf, Text.offsetOf]
    omega
  refine ⟨text.offsetOf after, forward, ?_⟩
  cases side : members.member character with
  | true =>
    rw [side] at is
    rw [is.taken] at inClass
    rw [is.negated.refused] at outOfClass
    exact .inl ⟨inClass, outOfClass⟩
  | false =>
    rw [side] at is
    rw [is.refused] at inClass
    rw [is.negated.taken] at outOfClass
    exact .inr ⟨inClass, outOfClass⟩

theorem comes_pieces (inside : rest <:+ text.toList) : ∃ side pieces, Alternate members.member side pieces ∧
    String.join pieces = text.slice (text.offsetOf rest) text.size ∧
      Comes store (.many (.captured (.charactersIn members ||| .charactersNotIn members))) text (text.offsetOf rest)
        (.ok (some (.yielding (.list (pieces.map .str)) text.size))) := by
  obtain ⟨_, ⟨side, pieces, alternate, joined, rfl⟩, comes⟩ :=
    (Expression.tiles_makes members).comes_matches inside store
  refine ⟨side, pieces, alternate, ?_, ?_⟩
  · obtain ⟨before, parted⟩ := inside
    rw [← List.append_nil rest] at parted
    have slice := Text.slice_offsetOf parted.symm
    rw [List.append_nil, text.offsetOf_nil] at slice
    rw [joined, slice]
  · rw [← text.offsetOf_nil]
    exact comes

/-- Runs of a class of characters are found the same by scanning and by repetition, at every offset of every text
and at any time of a session. They end where membership changes or the text ends, and together with the runs of
all other characters they tile the text. -/
theorem character_runs (store : Store) (members : CharacterClass) (text : Text) {start : Int} (valid : 0 ≤ start)
    (inside : start ≤ text.size) : FindsRuns store members text start := by
  obtain ⟨rest, within, rfl⟩ := Text.exists_offsetOf valid inside
  refine ⟨?_, ?_, ?_, ?_, ?_, ?_⟩
  · exact matchesRun (Expression.charactersIn_makes members) within
  · exact matchesRun (Expression.charactersNotIn_makes members) within
  · exact comes_runs_iff (Expression.charactersIn_makes members)
      (Expression.oneOrMore_characterIn_makes members) within
  · exact fun description => comes_runs_iff (Expression.charactersNotIn_makes members)
      (Expression.oneOrMore_characterIn_makes (members.complement description)) within
  · intro before
    refine comes_oneSide within ?_
    rintro rfl
    exact absurd text.offsetOf_nil (Int.ne_of_lt before)
  · exact comes_pieces within

theorem character_runs_letters : (0 : Int) ≤ 1 ∧ (1 : Int) ≤ (Text.ofString "baxyab").size ∧
    FindsRuns .initial (.ofString "ab") (Text.ofString "baxyab") 1 :=
  ⟨by decide, by decide, character_runs .initial (.ofString "ab") (Text.ofString "baxyab") (by decide) (by decide)⟩

-- A run of members between two runs of other characters.
set_option maxRecDepth 4096 in
example : ((matching 20 (.many (.captured (.charactersIn (.ofString "ab") ||| .charactersNotIn (.ofString "ab"))))
    (Text.ofString "xyabz") 1).exec .initial).1.toOption.map (Option.map Match.value) =
      some (some (some (.list [.str "y", .str "ab", .str "z"]))) := by cbv

end Session

end TextGrammar
