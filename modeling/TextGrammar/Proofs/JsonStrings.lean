import TextGrammar.Proofs.Numerals
import TextGrammar.Proofs.Recognition

/-! Strings between quotes, read part by part. A repetition that counts ends early where the text
does, so an escape may lack digits at the end of a text; no quote closes such a string. -/

namespace TextGrammar

/-- What is left behind a number of characters of a class, or fewer where nothing is left. -/
def Leaf.behind (member : Char → Bool) : Nat → List Char → Option (List Char)
  | 0, rest => some rest
  | _ + 1, [] => none
  | count + 1, first :: rest =>
    if member first then if rest = [] then some [] else behind member count rest else none

namespace Leaf
variable {member : Char → Bool} {count : Nat} {rest after : List Char}

theorem behind_append {body : List Char} (accepted : ∀ character ∈ body, member character)
    (after : List Char) : behind member body.length (body ++ after) = some after := by
  induction body with
  | nil => rfl
  | cons first body ih =>
    obtain ⟨head, others⟩ := List.forall_mem_cons.mp accepted
    rw [List.length_cons, List.cons_append, behind, if_pos head]
    by_cases finished : body ++ after = []
    · obtain ⟨-, rfl⟩ := List.append_eq_nil_iff.mp finished
      rw [if_pos finished]
    · rw [if_neg finished]
      exact ih others

theorem behind_sound (found : behind member (count + 1) rest = some after) :
    ∃ body, rest = body ++ after ∧ body ≠ [] ∧ (∀ character ∈ body, member character) ∧
      body.length ≤ count + 1 ∧ (body.length = count + 1 ∨ after = []) := by
  induction count generalizing rest with
  | zero =>
    cases rest with
    | nil => cases found
    | cons first tail =>
      rw [behind] at found
      split at found
      · next accepted =>
        have last : tail = after := by
          split at found
          · next finished => simpa [finished] using found
          · simpa [behind] using found
        exact ⟨[first], by simp [last], by simp, by simpa using accepted, by simp, .inl rfl⟩
      · cases found
  | succ count ih =>
    cases rest with
    | nil => cases found
    | cons first tail =>
      rw [behind] at found
      split at found
      · next accepted =>
        split at found
        · next finished =>
          cases found
          exact ⟨[first], by simp [finished], by simp, by simpa using accepted, by simp, .inr rfl⟩
        · obtain ⟨body, rfl, -, others, most, ends⟩ := ih found
          refine ⟨first :: body, rfl, by simp, ?_, by simpa using most, by simpa using ends⟩
          exact List.forall_mem_cons.mpr ⟨accepted, others⟩
      · cases found

end Leaf

/-- A rule that never fails, and reads what a relation says. -/
def Rule.Reader (spec : List Char → Option (Option Value × List Char) → Prop) (rule : Rule) : Prop :=
  ∀ (setting : Setting) (rest : List Char), rest <:+ setting.text.toList →
    ∃ read, setting.Reads rule rest (.ok read) ∧ spec rest read

/-- Nothing needs to be known of other rules. -/
def always (_ : Trial) (_ : Nat) : Prop := True

theorem Rule.reader_of_recognises {form : Form} {rule : Rule} (recognises : rule.Recognises always 0 form) :
    Rule.Reader (fun rest read => form.Explains (fun _ => False) rest (.ok read)) rule := by
  intro setting rest inside
  obtain ⟨reading, reads, explains⟩ :=
    recognises ⟨setting, fun _ => False⟩ (rest.length + 1) trivial rest (Nat.lt_succ_self _) inside
  cases reading with
  | error fault => exact (explains.faults rfl).elim
  | ok read => exact ⟨read, reads, explains⟩

theorem Rule.word_reader (word : String) :
    Rule.Reader (fun rest read => (Form.word word).Explains (fun _ => False) rest (.ok read))
      (.leaf (Leaf.literal word)) :=
  reader_of_recognises fun trial _ _ _ _ => trial.decides_word word

namespace Setting
variable {setting : Setting} {member : Char → Bool} {rule : Rule} {rest : List Char}

/-- Characters of a class, counted. -/
theorem Reads.times (reader : Rule.Reader (fun rest read =>
      (Form.character member).Explains (fun _ => False) rest (.ok read)) rule) (count : Nat)
    (inside : rest <:+ setting.text.toList) :
    setting.Reads (.times .pattern count rule) rest
      (.ok ((Leaf.behind member count rest).map fun after => (none, after))) := by
  have counted : ∀ found : Array Match, ∃ more : Array Match, setting.moment.Settles
      (fun fuel => Runner.repeatTimes (Rule.run fuel rule setting.text) .pattern setting.text.size count
        (setting.text.offsetOf rest) found)
      (.ok ((Leaf.behind member count rest).map fun after => (more, setting.text.offsetOf after))) := by
    induction count generalizing rest with
    | zero =>
      intro matched
      exact ⟨matched, .pure _⟩
    | succ count ih =>
      intro matched
      obtain ⟨read, reads, explains⟩ := reader setting rest inside
      cases rest with
      | nil =>
        cases explains.otherwise nofun
        exact ⟨#[], .bind reads (.pure _)⟩
      | cons first tail =>
        by_cases accepted : member first
        · have parted : first :: tail = [first] ++ tail := rfl
          cases explains.complete parted trivial ⟨first, rfl, accepted, rfl⟩
          rw [Leaf.behind, if_pos accepted]
          by_cases finished : tail = []
          · have stop : setting.text.offsetOf tail = setting.text.size := Text.offsetOf_eq_size.mpr finished
            subst finished
            refine ⟨matched.push (setting.text.matchOf (Option.none, [])),
              .bind reads (.bind (Setting.stopAs (.pattern _) _) ?_)⟩
            simp only [if_pos stop]
            exact .pure _
          · have goes : ¬setting.text.offsetOf tail = setting.text.size := mt Text.offsetOf_eq_size.mp finished
            obtain ⟨more, settles⟩ := ih (.trans (List.suffix_cons _ _) inside)
              (matched.push (setting.text.matchOf (Option.none, tail)))
            refine ⟨more, .bind reads (.bind (Setting.stopAs (.pattern _) _) ?_)⟩
            simp only [if_neg goes, if_neg finished]
            exact settles
        · have absent : ¬(Form.character member).begins (first :: tail) := by
            rintro ⟨_, ⟨⟩, holds⟩
            exact accepted holds
          cases explains.otherwise absent
          refine ⟨#[], .bind reads ?_⟩
          rw [Leaf.behind, if_neg accepted]
          exact .pure _
  obtain ⟨more, settles⟩ := counted #[]
  refine .of_step (.bind settles ?_)
  cases Leaf.behind member count rest with
  | none => exact .pure _
  | some after => exact .pure _

end Setting

namespace Json

/-- A part of what stands between quotes, as it is read at once. -/
inductive Piece : List Char → List Char → Prop
  | raw {run : List Char} : run ≠ [] → (∀ character ∈ run, character ≠ '"' ∧ character ≠ '\\') →
      Piece run run
  | simple {letter character : Char} : escaped? letter = some character →
      Piece ['\\', letter] [character]
  | unicode {digits : List Char} : digits.length = 4 → (∀ digit ∈ digits, isHexadecimal digit) →
      Piece ('\\' :: 'u' :: digits) [Char.ofNat (codePoint digits)]

variable {body inner rest after later characters others : List Char}

theorem Piece.taken (piece : Piece body characters) : body ≠ [] := by
  cases piece with
  | raw some => exact some
  | simple => simp
  | unicode => simp

section Raw
variable {run : List Char} (plain : ∀ character ∈ run, character ≠ '"' ∧ character ≠ '\\')
include plain

theorem Quotes.raws (quotes : Quotes inner others) : Quotes (run ++ inner) (run ++ others) := by
  induction run with
  | nil => exact quotes
  | cons first run ih =>
    obtain ⟨head, plain⟩ := List.forall_mem_cons.mp plain
    exact .raw head.1 head.2 (ih plain)

theorem Quotes.split_raws (quotes : Quotes inner others) (parted : run ++ after = inner ++ '"' :: later) :
    ∃ back more, after = back ++ '"' :: later ∧ Quotes back more ∧ others = run ++ more := by
  induction run generalizing inner others with
  | nil => exact ⟨inner, others, parted, quotes, rfl⟩
  | cons first run ih =>
    obtain ⟨head, plain⟩ := List.forall_mem_cons.mp plain
    cases quotes with
    | nil => exact absurd (List.cons.inj parted).1 head.1
    | raw _ _ quotes =>
      obtain ⟨same, behind⟩ := List.cons.inj parted
      obtain ⟨back, more, rest, continues, equal⟩ := ih plain quotes behind
      rw [same, equal]
      exact ⟨back, more, rest, continues, rfl⟩
    | simple => exact absurd (List.cons.inj parted).1 head.2
    | unicode => exact absurd (List.cons.inj parted).1 head.2

end Raw

theorem Piece.quotes (piece : Piece body characters) (quotes : Quotes inner others) :
    Quotes (body ++ inner) (characters ++ others) := by
  cases piece with
  | raw _ plain => exact quotes.raws plain
  | simple known => exact .simple known quotes
  | unicode four hex => exact .unicode four hex quotes

/-- Whatever is closed by a quote goes on behind each of its parts. -/
theorem Piece.split (piece : Piece body characters) (quotes : Quotes inner others)
    (parted : body ++ after = inner ++ '"' :: later) :
    ∃ back more, after = back ++ '"' :: later ∧ Quotes back more ∧ others = characters ++ more := by
  have escape : escaped? 'u' = none := by decide
  cases piece with
  | raw _ plain => exact quotes.split_raws plain parted
  | simple known =>
    cases quotes with
    | nil => cases (List.cons.inj parted).1
    | raw _ other => exact absurd (List.cons.inj parted).1.symm other
    | simple same quotes =>
      obtain ⟨letter, behind⟩ := List.cons.inj (List.cons.inj parted).2
      rw [letter] at known
      cases known.symm.trans same
      exact ⟨_, _, behind, quotes, rfl⟩
    | unicode =>
      rw [(List.cons.inj (List.cons.inj parted).2).1, escape] at known
      cases known
  | @unicode digits four hex =>
    cases quotes with
    | nil => cases (List.cons.inj parted).1
    | raw _ other => exact absurd (List.cons.inj parted).1.symm other
    | simple known =>
      rw [← (List.cons.inj (List.cons.inj parted).2).1, escape] at known
      cases known
    | @unicode others body _ four' _ quotes =>
      have behind : digits ++ after = (others ++ body) ++ '"' :: later :=
        (List.cons.inj (List.cons.inj parted).2).2
      rw [List.append_assoc] at behind
      obtain ⟨same, behind⟩ := List.append_inj behind (four.trans four'.symm)
      rw [same]
      exact ⟨_, _, behind, quotes, rfl⟩

/-- What stands between quotes begins with a part. -/
theorem Quotes.piece (quotes : Quotes inner others) (some : inner ≠ []) :
    ∃ body characters back, Piece body characters ∧ inner = body ++ back := by
  cases quotes with
  | nil => exact absurd rfl some
  | @raw character _ _ quote backslash quotes =>
    exact ⟨[character], [character], _, .raw (by simp) (by simp [quote, backslash]), rfl⟩
  | simple known quotes => exact ⟨_, _, _, .simple known, rfl⟩
  | unicode four hex quotes => exact ⟨_, _, _, .unicode four hex, rfl⟩

section Escapes
variable {scope : Scope}

/-- What is read of an escape with hexadecimal digits. -/
inductive EscapeRead (valueOf : List Char → Value) (rest : List Char) :
    Option (Option Value × List Char) → Prop
  | none : (∀ tail, rest = '\\' :: 'u' :: tail → Leaf.behind isHexadecimal 4 tail = none) →
      EscapeRead valueOf rest none
  | some {digits after : List Char} : rest = '\\' :: 'u' :: (digits ++ after) → digits ≠ [] →
      (∀ digit ∈ digits, isHexadecimal digit) → digits.length ≤ 4 → digits.length = 4 ∨ after = [] →
        EscapeRead valueOf rest (some (some (valueOf digits), after))

theorem digits_makes : (Expression.captured (.times
    (.characterIn (.ofString "0123456789abcdefABCDEF")) (.int 4))).Makes scope .parser
      (Rule.Reader fun rest read => (Leaf.behind isHexadecimal 4 rest = none ∧ read = none) ∨
        ∃ digits after, rest = digits ++ after ∧ Leaf.behind isHexadecimal 4 rest = some after ∧
          read = some (some (.str (String.ofList digits)), after)) := by
  have digit := (Expression.Recognises.characterIn scope always 0
    (.ofString "0123456789abcdefABCDEF")).makes
  have counted : (Expression.times (.characterIn (.ofString "0123456789abcdefABCDEF")) (.int 4)).Makes
      scope .pattern (Rule.Reader fun rest read =>
        read = (Leaf.behind isHexadecimal 4 rest).map fun after => (none, after)) := by
    change (Expression.times _ (.int (4 : Nat))).Makes _ _ _
    apply digit.times (Numeral.isWritable_of_le (by decide))
    intro rule decides tag traced setting rest inside
    exact ⟨_, (Setting.Reads.times (Rule.reader_of_recognises decides) 4 inside).object tag traced, rfl⟩
  apply counted.captured
  intro rule reader tag traced setting rest inside
  obtain ⟨_, reads, rfl⟩ := reader setting rest inside
  cases behind : Leaf.behind isHexadecimal 4 rest with
  | none =>
    rw [behind] at reads
    exact ⟨none, (reads.captured_none _).object tag traced, .inl ⟨behind, rfl⟩⟩
  | some after =>
    obtain ⟨digits, rfl, -⟩ := Leaf.behind_sound behind
    obtain ⟨before, parted⟩ := inside
    rw [behind] at reads
    exact ⟨_, (reads.captured parted.symm (.pattern _)).object tag traced,
      .inr ⟨digits, after, rfl, behind, rfl⟩⟩

theorem unicodeEscape_makes :
    Sample.unicodeEscape.Makes scope .parser (Rule.Reader (EscapeRead fun digits =>
      .str (String.singleton (Char.ofNat (codePoint digits))))) := by
  have escape : (("\\u" : Expression) + Expression.captured (.times
      (.characterIn (.ofString "0123456789abcdefABCDEF")) (.int 4))).Makes scope .parser
        (Rule.Reader (EscapeRead fun digits => .str (String.ofList digits))) := by
    apply digits_makes.word_sum
    intro rule reader inner around tag traced setting rest inside
    obtain ⟨read, begun, explains⟩ := Rule.word_reader "\\u" setting rest inside
    have reads := begun.object inner around
    by_cases begins : "\\u".toList <+: rest
    · obtain ⟨tail, rfl⟩ := begins
      cases explains.complete rfl trivial ⟨rfl, rfl⟩
      obtain ⟨read, continues, spec⟩ := reader setting tail (.trans (List.suffix_append _ _) inside)
      obtain ⟨short, rfl⟩ | ⟨digits, after, rfl, found, rfl⟩ := spec
      · have both : setting.Reads (.sequence .pattern .parser _ rule) _ _ :=
          reads.sequence (.pattern _) continues nofun
        refine ⟨none, both.object tag traced, .none ?_⟩
        rintro _ ⟨⟩
        exact short
      · have suited : ∀ found, (Except.ok (some (some (.str (String.ofList digits)), after)) : Reading) =
            .ok (some found) → Kind.parser.Suits found.1 := by
          rintro _ ⟨⟩ _
          rfl
        have both := reads.sequence (.pattern _) continues suited
        obtain ⟨body, parted, some, hex, most, ends⟩ := Leaf.behind_sound found
        cases List.append_cancel_right parted
        exact ⟨_, both.object tag traced, .some rfl some hex most ends⟩
    · cases explains.otherwise begins
      refine ⟨none, (reads.sequence_none _ _).object tag traced, .none ?_⟩
      rintro tail rfl
      exact absurd ⟨tail, rfl⟩ begins
  apply escape.shifted
  intro rule reader tag traced setting rest inside
  obtain ⟨read, reads, spec⟩ := reader setting rest inside
  cases spec with
  | none short => exact ⟨none, (reads.map_none _).object tag traced, .none short⟩
  | @some digits after parted some hex most ends =>
    have changed : setting.Reads (.map Sample.toCharacter rule) rest _ := reads.map
    rw [toCharacter_hexadecimal hex some] at changed
    exact ⟨_, changed.object tag traced, .some parted some hex most ends⟩

/-- The two characters of an escape. -/
def escapeForm (entry : Char × Char) : Form :=
  (Form.word (String.ofList ['\\', entry.1])).worth fun _ => .str (String.singleton entry.2)

theorem escapeForm_lawful (entry : Char × Char) : (escapeForm entry).Lawful := by
  apply Form.Lawful.worth
  apply Form.word_lawful
  simp

theorem escapes_apart : Form.Apart .parser (Sample.escapes.map escapeForm) where
  kinds := List.forall_mem_map.mpr fun _ _ => rfl
  empty := List.forall_mem_map.mpr fun _ _ => rfl
  lawful := List.forall_mem_map.mpr fun entry _ => escapeForm_lawful entry
  begins := by
    have letters : Sample.escapes.Pairwise fun entry other => entry.1 ≠ other.1 := by decide
    rw [List.pairwise_map]
    apply letters.imp
    intro entry other apart rest one two
    obtain ⟨tail, rfl⟩ := one
    obtain ⟨tail, same⟩ := two
    simp only [String.toList_ofList, List.cons_append, List.cons.injEq, true_and] at same
    exact apart same.1.symm

theorem simpleEscape_recognises :
    Sample.simpleEscape.Recognises scope always 0 (.oneOf .parser (Sample.escapes.map escapeForm)) := by
  apply Expression.Recognises.either _ escapes_apart
  rw [List.forall₂_map_left_iff, List.forall₂_map_right_iff, List.forall₂_same]
  intro entry _
  exact (Expression.Recognises.literal scope always 0 (by simp)).returning rfl _

theorem unescaped_recognises :
    Sample.unescaped.Recognises scope always 0
      ((Form.run fun character => !"\"\\".toList.contains character).worth fun body =>
        .str (String.ofList body)) :=
  (Expression.Recognises.charactersNotIn scope always 0 (.ofString "\"\\")).captured

theorem mem_escapes {letter character : Char} :
    (letter, character) ∈ Sample.escapes ↔ escaped? letter = some character := by
  constructor
  · have known : ∀ entry ∈ Sample.escapes, escaped? entry.1 = some entry.2 := by decide
    exact known _
  · intro known
    unfold escaped? at known
    split at known <;> cases known <;> decide

/-- What is read of what stands between quotes, at once. -/
inductive PartRead (rest : List Char) : Option (Option Value × List Char) → Prop
  | none : (∀ body characters after, Piece body characters → rest ≠ body ++ after) → PartRead rest none
  | piece {body characters after : List Char} : Piece body characters → rest = body ++ after →
      PartRead rest (some (some (.str (String.ofList characters)), after))
  /-- An escape without all of its digits. -/
  | cut {characters : List Char} : rest ≠ [] →
      (∀ inner others later, Quotes inner others → rest ≠ inner ++ '"' :: later) →
        PartRead rest (some (some (.str (String.ofList characters)), []))

theorem unclosed {digits : List Char} (short : digits.length < 4) (quotes : Quotes inner others) :
    '\\' :: 'u' :: digits ≠ inner ++ '"' :: later := by
  intro parted
  cases quotes with
  | nil => cases (List.cons.inj parted).1
  | raw _ other => exact other (List.cons.inj parted).1.symm
  | simple known =>
    rw [← (List.cons.inj (List.cons.inj parted).2).1] at known
    cases known
  | unicode four =>
    have lengths := congrArg List.length parted
    simp only [List.length_cons, List.cons_append, List.length_append] at lengths
    omega

/-- What is read of what stands between quotes by the first two of its choices. -/
inductive PlainRead (rest : List Char) : Option (Option Value × List Char) → Prop
  | none : (∀ character ∈ rest.head?, character = '"' ∨ character = '\\') →
      (∀ letter character tail, escaped? letter = some character → rest ≠ '\\' :: letter :: tail) → PlainRead rest none
  | piece {body characters after : List Char} : Piece body characters → rest = body ++ after →
      PlainRead rest (some (some (.str (String.ofList characters)), after))

theorem plainPart_makes : (Sample.unescaped ||| Sample.simpleEscape).Makes scope .parser (Rule.Reader PlainRead) := by
  apply unescaped_recognises.makes.union simpleEscape_recognises.makes
  intro rule later takes escapes tag traced setting rest inside
  obtain ⟨read, reads, explains⟩ := Rule.reader_of_recognises takes setting rest inside
  cases read with
  | some found =>
    obtain ⟨value, after⟩ := found
    obtain ⟨body, parted, ⟨_, some, accepted, -⟩, rfl⟩ := explains.sound rfl
    have raw : ∀ character ∈ body, character ≠ '"' ∧ character ≠ '\\' := by
      intro character member
      simpa using accepted character member
    exact ⟨_, reads.orElse_found.object tag traced, .piece (.raw some raw) parted⟩
  | none =>
    obtain ⟨other, continues, describes⟩ := Rule.reader_of_recognises escapes setting rest inside
    refine ⟨other, (reads.orElse_next continues).object tag traced, ?_⟩
    cases other with
    | some found =>
      obtain ⟨value, after⟩ := found
      obtain ⟨body, parted, form, member, denotes⟩ := describes.sound rfl
      obtain ⟨entry, known, rfl⟩ := List.mem_map.mp member
      obtain ⟨⟨_, rfl, -⟩, rfl⟩ := denotes
      rw [String.singleton_eq_ofList]
      exact .piece (.simple (mem_escapes.mp known)) (by simpa using parted)
    | none =>
      apply PlainRead.none
      · intro character first
        have absent := explains.not_begins_run
        by_contra other
        exact absent ⟨character, first, by simpa using other⟩
      · intro letter character tail known parted
        have member : escapeForm (letter, character) ∈ Sample.escapes.map escapeForm :=
          List.mem_map_of_mem (mem_escapes.mpr known)
        have split : rest = (String.ofList ['\\', letter]).toList ++ tail := by simpa using parted
        have ends : (Form.oneOf .parser (Sample.escapes.map escapeForm)).ends tail :=
          List.forall_mem_map.mpr fun _ _ => trivial
        cases describes.complete split ends ⟨_, member, ⟨_, rfl, rfl⟩, rfl⟩

/-- Where nothing plain is read, it is the escape that counts. -/
theorem PartRead.of_escape {read : Option (Option Value × List Char)} (refused : PlainRead rest Option.none)
    (escape : EscapeRead (fun digits => .str (String.singleton (Char.ofNat (codePoint digits)))) rest read) :
    PartRead rest read := by
  cases refused with
  | none head simple =>
    cases escape with
    | none short =>
      apply PartRead.none
      intro body characters after piece parted
      cases piece with
      | raw some plain =>
        cases body with
        | nil => exact some rfl
        | cons first body =>
          have raw := plain first (by simp)
          have special := head first (by simp [parted])
          simp [raw] at special
      | simple known => exact simple _ _ after known parted
      | @unicode digits four hex =>
        have found := Leaf.behind_append hex after
        have none := short (digits ++ after) parted
        rw [four, none] at found
        cases found
    | @some digits after parted some hex most ends =>
      rw [String.singleton_eq_ofList]
      by_cases four : digits.length = 4
      · exact .piece (.unicode four hex) parted
      · obtain rfl := ends.resolve_left four
        apply PartRead.cut
        · simp [parted]
        · intro inner others later quotes
          rw [parted, List.append_nil]
          exact unclosed (by omega) quotes

theorem stringPart_makes : Sample.stringPart.Makes scope .parser (Rule.Reader PartRead) := by
  apply plainPart_makes.union unicodeEscape_makes
  intro rule later plain unicode tag traced setting rest inside
  obtain ⟨read, reads, spec⟩ := plain setting rest inside
  cases read with
  | none =>
    obtain ⟨read, continues, escape⟩ := unicode setting rest inside
    exact ⟨read, (reads.orElse_next continues).object tag traced, .of_escape spec escape⟩
  | some found =>
    cases spec with
    | piece piece parted => exact ⟨_, reads.orElse_found.object tag traced, .piece piece parted⟩

end Escapes

/-- The texts of the parts of a string. -/
def texts (pieces : List (List Char)) : List Value := pieces.map fun piece => .str (String.ofList piece)

/-- What is read of what stands between quotes. -/
structure PartsRead (rest : List Char) (pieces : List (List Char)) (last : List Char) : Prop where
  complete : ∀ {inner others later}, Quotes inner others → rest = inner ++ '"' :: later →
    last = '"' :: later ∧ others = pieces.flatten
  sound : last = [] ∨ ∃ inner, rest = inner ++ last ∧ Quotes inner pieces.flatten

namespace PartsRead

theorem stopped (refused : ∀ body characters after, Piece body characters → rest ≠ body ++ after) :
    PartsRead rest [] rest where
  complete {inner _ later} quotes parted := by
    by_cases some : inner = []
    · subst some
      cases quotes
      exact ⟨parted, rfl⟩
    · obtain ⟨body, characters, back, piece, rfl⟩ := quotes.piece some
      rw [List.append_assoc] at parted
      exact absurd parted (refused _ _ _ piece)
  sound := .inr ⟨[], rfl, .nil⟩

theorem spent (unclosed : ∀ inner others later, Quotes inner others → rest ≠ inner ++ '"' :: later)
    (characters : List Char) : PartsRead rest [characters] [] where
  complete quotes parted := absurd parted (unclosed _ _ _ quotes)
  sound := .inl rfl

theorem finished : PartsRead [] [] [] where
  complete _ parted := by simp at parted
  sound := .inl rfl

theorem further {pieces : List (List Char)} {last : List Char} (piece : Piece body characters)
    (read : PartsRead after pieces last) : PartsRead (body ++ after) (characters :: pieces) last where
  complete quotes parted := by
    obtain ⟨back, more, rfl, continues, rfl⟩ := piece.split quotes parted
    obtain ⟨rfl, rfl⟩ := read.complete continues rfl
    exact ⟨rfl, rfl⟩
  sound := by
    obtain none | ⟨inner, rfl, quotes⟩ := read.sound
    · exact .inl none
    · exact .inr ⟨body ++ inner, (List.append_assoc _ _ _).symm, piece.quotes quotes⟩

theorem suffix {pieces : List (List Char)} {last : List Char} (read : PartsRead rest pieces last) :
    last <:+ rest := by
  obtain rfl | ⟨inner, rfl, -⟩ := read.sound
  · exact List.nil_suffix
  · exact List.suffix_append _ _

end PartsRead

theorem repeats_parts {setting : Setting} {rule : Rule} (reader : Rule.Reader PartRead rule)
    (inside : rest <:+ setting.text.toList) :
    ∃ found pieces last, setting.Repeats .parser rule rest (.ok (found, last)) ∧
      found.map (·.1) = (texts pieces).map some ∧ PartsRead rest pieces last := by
  generalize size : rest.length = length
  induction length using Nat.strong_induction_on generalizing rest with
  | h length ih =>
    obtain ⟨read, reads, spec⟩ := reader setting rest inside
    cases spec with
    | none refused => exact ⟨[], [], rest, .stopped reads, rfl, .stopped refused⟩
    | @cut characters _ unclosed =>
      exact ⟨_, [characters], [], .last reads rfl fun _ => rfl, rfl, .spent unclosed characters⟩
    | @piece body characters after piece parted =>
      subst parted
      have taken := List.length_pos_iff.mpr piece.taken
      rw [List.length_append] at size
      have further : after <:+ setting.text.toList := .trans (List.suffix_append _ _) inside
      by_cases finished : after = []
      · subst finished
        exact ⟨_, [characters], [], .last reads rfl fun _ => rfl, rfl, .further piece .finished⟩
      · obtain ⟨found, pieces, last, repeats, same, spec⟩ := ih after.length (by omega) further rfl
        have shorter : after.length < (body ++ after).length := by
          rw [List.length_append]
          omega
        refine ⟨_, characters :: pieces, last, .next reads (fun _ => rfl) shorter finished repeats, ?_,
          .further piece spec⟩
        simp [texts, same]

theorem joined_texts (pieces : List (List Char)) :
    Value.joined (.list (texts pieces)) = .ok (.str (String.ofList pieces.flatten)) := by
  have join : ∀ index, Value.joinItems index (texts pieces) = .ok pieces.flatten := by
    induction pieces with
    | nil => exact fun _ => rfl
    | cons piece pieces ih =>
      intro index
      rw [texts, List.map_cons, Value.joinItems, ← texts, ih, String.toList_ofList]
      rfl
  simp only [Value.joined, Value.items?, join]
  rfl

/-- A string in quotes. -/
def stringForm : Form where
  kind := .parser
  denotes body value := ∃ inner characters, body = '"' :: (inner ++ ['"']) ∧ Quotes inner characters ∧
    value = some (.str (String.ofList characters))
  empty := none
  begins rest := '"' ∈ rest.head?
  ends _ := True

theorem stringForm_lawful : stringForm.Lawful where
  starts denotes := by
    obtain ⟨inner, characters, rfl, -, -⟩ := denotes
    exact .inr ⟨by simp, fun after => rfl⟩
  suits denotes _ := by
    obtain ⟨inner, characters, -, -, rfl⟩ := denotes
    rfl

/-- What is read of a string before its parts are joined. -/
structure StringRead (rest : List Char) (read : Option (Option Value × List Char)) : Prop where
  complete : ∀ {inner others later}, Quotes inner others → rest = '"' :: (inner ++ '"' :: later) →
    ∃ pieces, others = pieces.flatten ∧ read = some (some (.list (texts pieces)), later)
  sound : ∀ {value after}, read = some (value, after) → ∃ inner pieces,
    rest = '"' :: (inner ++ '"' :: after) ∧ Quotes inner pieces.flatten ∧
      value = some (.list (texts pieces))

variable {scope : Scope}

theorem opened_makes : (("\"" : Expression) + Expression.many Sample.stringPart).Makes scope .parser
    (Rule.Reader fun rest read => (read = none ∧ '"' ∉ rest.head?) ∨ ∃ tail pieces last,
      rest = '"' :: tail ∧ PartsRead tail pieces last ∧
        read = some (some (.list (texts pieces)), last)) := by
  have parts : (Expression.many Sample.stringPart).Makes scope .parser (Rule.Reader fun rest read =>
      ∃ pieces last, PartsRead rest pieces last ∧ read = some (some (.list (texts pieces)), last)) := by
    apply stringPart_makes.many
    intro rule reader item tag traced setting rest inside
    obtain ⟨found, pieces, last, repeats, same, spec⟩ := repeats_parts reader inside
    refine ⟨_, (Setting.Reads.many item repeats).object tag traced, pieces, last, spec, ?_⟩
    have values : ((texts pieces).map some).filterMap id = texts pieces := by simp
    simp only [same, Kind.gathered, values]
  apply parts.word_sum
  intro rule reader inner around tag traced setting rest inside
  obtain ⟨read, begun, explains⟩ := Rule.word_reader "\"" setting rest inside
  have reads := begun.object inner around
  by_cases begins : "\"".toList <+: rest
  · obtain ⟨tail, rfl⟩ := begins
    cases explains.complete rfl trivial ⟨rfl, rfl⟩
    obtain ⟨_, continues, pieces, last, spec, rfl⟩ :=
      reader setting tail (.trans (List.suffix_append _ _) inside)
    have suited : ∀ found, (Except.ok (some (some (.list (texts pieces)), last)) : Reading) =
        .ok (some found) → Kind.parser.Suits found.1 := by
      rintro _ ⟨⟩ _
      rfl
    have both := reads.sequence (.pattern _) continues suited
    exact ⟨_, both.object tag traced, .inr ⟨tail, pieces, last, rfl, spec, rfl⟩⟩
  · cases explains.otherwise begins
    refine ⟨none, (reads.sequence_none _ _).object tag traced, .inl ⟨rfl, ?_⟩⟩
    intro first
    cases rest with
    | nil => cases first
    | cons character tail =>
      cases first
      exact begins ⟨tail, rfl⟩

theorem closed_makes : (("\"" : Expression) + Expression.many Sample.stringPart + ("\"" : Expression)).Makes
    scope .parser (Rule.Reader StringRead) := by
  apply opened_makes.sum_word
  intro rule reader inner around tag traced setting rest inside
  obtain ⟨_, reads, ⟨rfl, absent⟩ | ⟨tail, pieces, last, rfl, parts, rfl⟩⟩ := reader setting rest inside
  · refine ⟨none, (reads.sequence_none _ _).object tag traced, ?_, nofun⟩
    intro inner others later _ parted
    rw [parted] at absent
    exact absurd rfl absent
  · have further : last <:+ setting.text.toList :=
      .trans parts.suffix (.trans (List.suffix_cons _ _) inside)
    obtain ⟨read, ended, explains⟩ := Rule.word_reader "\"" setting last further
    have closes := ended.object inner around
    have given : Kind.parser.Suits (some (.list (texts pieces))) := fun _ => rfl
    have both := reads.sequence given closes fun found _ => Kind.Suits.pattern found.1
    refine ⟨_, both.object tag traced, ?_, ?_⟩
    · intro inner others later quotes parted
      obtain ⟨rfl, rfl⟩ := parts.complete quotes (List.cons.inj parted).2
      cases explains.complete rfl trivial ⟨rfl, rfl⟩
      exact ⟨pieces, rfl, rfl⟩
    · intro value after found
      cases read with
      | none => cases found
      | some closing =>
        cases found
        obtain ⟨_, parted, rfl, -⟩ := explains.sound rfl
        obtain finished | ⟨inner, rfl, quotes⟩ := parts.sound
        · rw [finished] at parted
          cases parted
        · refine ⟨inner, pieces, ?_, quotes, rfl⟩
          rw [parted]
          rfl

/-- The grammar of strings recognises strings. -/
theorem string_makes : Sample.string.Makes scope .parser (Rule.Recognises always 0 stringForm) := by
  apply closed_makes.shifted
  intro rule reader tag traced trial bound _ rest _ inside
  obtain ⟨read, reads, spec⟩ := reader trial.toSetting rest inside
  cases read with
  | none =>
    refine ⟨_, (reads.map_none _).object tag traced, ?_, nofun, fun _ => rfl, nofun⟩
    intro body value after parted _ denotes
    obtain ⟨inner, characters, rfl, quotes, rfl⟩ := denotes
    obtain ⟨pieces, -, none⟩ := spec.complete quotes (by simpa using parted)
    cases none
  | some found =>
    obtain ⟨value, after⟩ := found
    obtain ⟨inner, pieces, parted, quotes, rfl⟩ := spec.sound rfl
    have joined : trial.Reads (.map Value.joined rule) rest
        (.ok (some (some (.str (String.ofList pieces.flatten)), after))) := by
      have changed : trial.Reads (.map Value.joined rule) rest _ := reads.map
      rw [joined_texts] at changed
      exact changed
    refine ⟨_, joined.object tag traced, ?_, ?_, ?_, nofun⟩
    · intro body value later split _ denotes
      obtain ⟨others, characters, rfl, quotes, rfl⟩ := denotes
      obtain ⟨more, rfl, same⟩ := spec.complete quotes (by simpa using split)
      simp only [Option.some.injEq, Prod.mk.injEq, Value.list.injEq] at same
      obtain ⟨same, rfl⟩ := same
      have joins := joined_texts more
      rw [← same, joined_texts] at joins
      rw [Value.str.inj (Except.ok.inj joins)]
    · intro value later read
      cases read
      exact ⟨'"' :: (inner ++ ['"']), by simp [parted], inner, _, rfl, quotes, rfl⟩
    · intro begins
      rw [parted] at begins
      exact absurd rfl begins

end Json

end TextGrammar
