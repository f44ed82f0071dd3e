import TextGrammar.Proofs.Numerals
import TextGrammar.Proofs.Repetitions
import TextGrammar.Proofs.SeparatedItems

/-! What a counted repetition consists of. The grammar is run as often as the count says, each time from the
end of the match before, or less often where a match ends at the end of the text. That is looked at behind
every match, so a repetition that starts at the end of the text must match once all the same. -/

namespace TextGrammar
open TextGrammar.Action

variable {made whole : Grammar} {text : Text} {known : Store → Prop}

/-- Runs of a grammar in a row, each from where the one before has ended: what they match, where the last of
them ends, and the store that it leaves. -/
inductive Grammar.Row (made : Grammar) (text : Text) : Store → Int → List Match → Int → Store → Prop
  | nil {store start} : Row made text store start [] start store
  | cons {store start found between rest stop after} : made.rule.Comes text start store (.ok (some found)) between →
      Row made text between found.stop rest stop after → Row made text store start (found :: rest) stop after

/-- As many matches as a count asks for, or fewer if the last of them is the first to end where the text does. -/
structure Match.Fill (count : Nat) (size : Int) (all : List Match) (stop : Int) : Prop where
  few : all.length ≤ count
  before : ∀ one ∈ all.dropLast, one.stop ≠ size
  enough : all.length = count ∨ 1 ≤ all.length ∧ stop = size

variable {store after : Store} {start stop : Int} {all : List Match} {count : Nat}

/-- What repeated matches are collected to: parsers yield the list of their values, in order. -/
def Kind.Collects (kind : Kind) (all : List Match) (value : Option Value) : Prop :=
  match kind with
  | .pattern => value = none
  | .parser => ∃ values, all.map Match.value = values.map some ∧ value = some (.list values)

theorem Kind.collects_collected {kind : Kind} (stop : Int) (suits : ∀ one ∈ all, kind.Suits one.value) :
    kind.Collects all (Match.collected kind all.toArray stop).value := by
  obtain ⟨pattern, parser⟩ := Grammar.collected_value stop suits
  cases kind with
  | pattern => exact pattern rfl
  | parser => exact parser rfl

/-- The values of some matches are collected to one thing only. -/
theorem Kind.Collects.unique {kind : Kind} {value other : Option Value} (is : kind.Collects all value)
    (again : kind.Collects all other) : other = value := by
  cases kind with
  | pattern => exact Eq.trans again (Eq.symm is)
  | parser =>
    obtain ⟨values, are, rfl⟩ := is
    obtain ⟨others, same, rfl⟩ := again
    have equal : others = values := List.map_injective_iff.mpr (Option.some_injective _) (same.symm.trans are)
    rw [equal]

/-- A list has as many values as there are matches. -/
theorem Kind.Collects.length {kind : Kind} {values : List Value} (is : kind.Collects all (some (.list values))) :
    values.length = all.length := by
  cases kind with
  | pattern => cases is
  | parser =>
    obtain ⟨others, are, same⟩ := is
    cases same
    rw [← List.length_map Match.value, are, List.length_map]

/-- A rule comes to one outcome at most. -/
theorem Rule.Gives.unique {rule : Rule} {outcome other : Except Fault (Option Match)} (gives : rule.Gives text start store outcome)
    (again : rule.Gives text start store other) : outcome = other := by
  obtain ⟨_, comes⟩ := gives
  obtain ⟨_, comesAgain⟩ := again
  exact (comes.unique comesAgain).1

namespace Match.Fill
variable {size : Int} {found : Match}

theorem nil_count (fill : Fill count size [] stop) : count = 0 := by
  obtain same | ⟨least, -⟩ := fill.enough
  · exact same.symm
  · cases least

/-- A match that ends where the text does is the last one. -/
theorem rest_nil (fill : Fill count size (found :: all) stop) (ends : found.stop = size) : all = [] := by
  by_contra more
  refine fill.before found ?_ ends
  rw [List.dropLast_cons_of_ne_nil more]
  exact List.mem_cons_self

theorem single (ends : found.stop = size) : Fill (count + 1) size [found] found.stop :=
  ⟨Nat.le_add_left 1 count, nofun, .inr ⟨Nat.le_refl 1, ends⟩⟩

theorem cons (fill : Fill count size all stop) (short : found.stop ≠ size) : Fill (count + 1) size (found :: all) stop := by
  refine ⟨Nat.succ_le_succ fill.few, fun one member => ?_, ?_⟩
  · cases all with
    | nil => cases member
    | cons next rest =>
      rw [List.dropLast_cons_of_ne_nil (List.cons_ne_nil next rest)] at member
      rcases List.mem_cons.mp member with rfl | member
      · exact short
      · exact fill.before one member
  · obtain same | ⟨-, ends⟩ := fill.enough
    · exact .inl (congrArg Nat.succ same)
    · exact .inr ⟨Nat.le_add_left 1 all.length, ends⟩

/-- What follows a match that does not end there fills the rest of the count. -/
theorem tail (fill : Fill (count + 1) size (found :: all) stop) (short : found.stop ≠ size)
    (last : all = [] → stop = found.stop) :
    Fill count size all stop := by
  refine ⟨Nat.le_of_succ_le_succ fill.few, fun one member => fill.before one ?_, ?_⟩
  · cases all with
    | nil => cases member
    | cons => exact List.mem_cons_of_mem _ member
  · obtain same | ⟨-, closed⟩ := fill.enough
    · exact .inl (Nat.succ.inj same)
    · refine .inr ⟨List.length_pos_iff.mpr fun none => short ?_, closed⟩
      rw [← last none, closed]

end Match.Fill

/-- What is known of a match from a known store. -/
theorem Grammar.Calm.matched (calm : made.Calm text known) {found : Match} (from_ : known store) (valid : 0 ≤ start)
    (inside : start ≤ text.size) (comes : made.rule.Comes text start store (.ok (some found)) after) :
    known after ∧ made.kind.Suits found.value ∧ start ≤ found.stop ∧ found.stop ≤ text.size := by
  obtain ⟨answer, final, again, leads, within⟩ := calm from_ valid inside
  obtain ⟨same, rfl⟩ := comes.unique again
  cases same
  exact ⟨leads, within found rfl⟩

namespace Grammar.Row

theorem bounds (calm : made.Calm text known) (row : made.Row text store start all stop after) (from_ : known store)
    (valid : 0 ≤ start) (inside : start ≤ text.size) :
    known after ∧ start ≤ stop ∧ stop ≤ text.size ∧ ∀ one ∈ all, made.kind.Suits one.value := by
  induction row with
  | nil => exact ⟨from_, Int.le_refl _, inside, nofun⟩
  | cons comes _ ih =>
    obtain ⟨leads, suits, later, before⟩ := calm.matched from_ valid inside comes
    obtain ⟨last, onward, ends, suited⟩ := ih leads (Int.le_trans valid later) before
    exact ⟨last, Int.le_trans later onward, ends, List.forall_mem_cons.mpr ⟨suits, suited⟩⟩

section Loops
variable (calm : made.Calm text known) (row : made.Row text store start all stop after) (from_ : known store) (valid : 0 ≤ start)
  (inside : start ≤ text.size)
include calm row from_ valid inside

/-- The loop runs through a row that fills its count. -/
theorem repeatTimes (fill : Match.Fill count text.size all stop) (found : Array Match) {other : Store}
    (agree : store.Agree none other) :
    ∃ final, after.Agree none final ∧
      (Runner.repeatTimes (Rule.limit made.rule text) made.kind text.size count start found).exec other =
        (.ok (some (found ++ all.toArray, stop)), final) := by
  induction row generalizing count found other with
  | nil =>
    obtain rfl := fill.nil_count
    exact ⟨other, agree, by simp [Runner.repeatTimes]⟩
  | @cons _ _ one _ rest _ _ comes row ih =>
    obtain ⟨leads, suits, later, before⟩ := calm.matched from_ valid inside comes
    obtain ⟨count, rfl⟩ : ∃ less, count = less + 1 :=
      Nat.exists_eq_add_one_of_ne_zero (Nat.ne_of_gt (Nat.lt_of_lt_of_le (Nat.succ_pos _) fill.few))
    obtain ⟨next, ran, agrees⟩ := (Rule.limit_mirrors made.rule text _).comes (known_anywhere _) agree comes
    rw [Runner.repeatTimes, exec_bind_ok (Rule.comes_iff.mp ran)]
    dsimp only
    rw [Match.stopAs_of_suits suits, exec_bind_ok (exec_ofExcept_ok _ _)]
    by_cases ends : one.stop = text.size
    · obtain rfl := fill.rest_nil ends
      cases row
      rw [if_pos ends]
      exact ⟨next, agrees, by simp⟩
    · have filled := fill.tail ends fun none => by
        subst none
        cases row
        rfl
      obtain ⟨final, same, looped⟩ := ih leads (Int.le_trans valid later) before filled (found.push one) agrees
      rw [if_neg ends, looped]
      exact ⟨final, same, by simp⟩

/-- It fails behind a row that neither fills its count nor comes to the end of the text. -/
theorem repeatTimes_none {final : Store} (fewer : all.length < count) (open_ : ∀ one ∈ all, one.stop < (text.size : Int))
    (fails : made.rule.Comes text stop after (.ok none) final) (found : Array Match) {other : Store}
    (agree : store.Agree none other) :
    ∃ last, final.Agree none last ∧
      (Runner.repeatTimes (Rule.limit made.rule text) made.kind text.size count start found).exec other = (.ok none, last) := by
  obtain ⟨count, rfl⟩ : ∃ less, count = less + 1 := Nat.exists_eq_add_one_of_ne_zero (Nat.ne_zero_of_lt fewer)
  induction row generalizing count found other with
  | nil =>
    obtain ⟨last, ran, agrees⟩ := (Rule.limit_mirrors made.rule text _).comes (known_anywhere _) agree fails
    rw [Runner.repeatTimes, exec_bind_ok (Rule.comes_iff.mp ran)]
    exact ⟨last, agrees, rfl⟩
  | @cons _ _ one _ rest _ _ comes _ ih =>
    obtain ⟨leads, suits, later, before⟩ := calm.matched from_ valid inside comes
    obtain ⟨short, open_⟩ := List.forall_mem_cons.mp open_
    obtain ⟨less, rfl⟩ : ∃ less, count = less + 1 :=
      Nat.exists_eq_add_one_of_ne_zero (Nat.ne_zero_of_lt (Nat.lt_of_succ_lt_succ fewer))
    obtain ⟨next, ran, agrees⟩ := (Rule.limit_mirrors made.rule text _).comes (known_anywhere _) agree comes
    rw [Runner.repeatTimes, exec_bind_ok (Rule.comes_iff.mp ran)]
    dsimp only
    rw [Match.stopAs_of_suits suits, exec_bind_ok (exec_ofExcept_ok _ _), if_neg (Int.ne_of_lt short)]
    exact ih leads (Int.le_trans valid later) before open_ fails _ agrees _ (Nat.lt_of_succ_lt_succ fewer)

end Loops

end Grammar.Row

namespace Grammar.Calm
variable (calm : made.Calm text known) (from_ : known store) (valid : 0 ≤ start) (inside : start ≤ text.size)
include calm from_ valid inside

/-- There is a row that fills a count, or one behind which the grammar fails. -/
theorem row (count : Nat) :
    (∃ all stop after, made.Row text store start all stop after ∧ Match.Fill count text.size all stop) ∨
      ∃ all stop between after, made.Row text store start all stop between ∧ all.length < count ∧
        (∀ one ∈ all, one.stop < (text.size : Int)) ∧ made.rule.Comes text stop between (.ok none) after := by
  induction count generalizing store start with
  | zero => exact .inl ⟨[], start, store, .nil, Nat.le_refl 0, nofun, .inl rfl⟩
  | succ count ih =>
    obtain ⟨answer, between, comes, leads, within⟩ := calm from_ valid inside
    cases answer with
    | none => exact .inr ⟨[], start, store, between, .nil, Nat.succ_pos count, nofun, comes⟩
    | some one =>
      obtain ⟨suits, later, before⟩ := within one rfl
      by_cases ends : one.stop = text.size
      · exact .inl ⟨[one], one.stop, between, .cons comes .nil, .single ends⟩
      · obtain ⟨rest, stop, after, row, fill⟩ | ⟨rest, stop, last, after, row, fewer, open_, fails⟩ :=
          ih leads (Int.le_trans valid later) before
        · exact .inl ⟨one :: rest, stop, after, .cons comes row, fill.cons ends⟩
        · exact .inr ⟨one :: rest, stop, last, after, .cons comes row, Nat.succ_lt_succ fewer,
            List.forall_mem_cons.mpr ⟨lt_of_le_of_ne before ends, open_⟩, fails⟩

end Grammar.Calm

namespace Grammar.Row
variable (calm : made.Calm text known) (row : made.Row text store start all stop after) (from_ : known store) (valid : 0 ≤ start)
  (inside : start ≤ text.size) (tag : Tag) (traced : Bool)
include calm row from_ valid inside

theorem times (fill : Match.Fill count text.size all stop) :
    (Rule.object tag traced (.times made.kind count made.rule)).Gives text start store
      (.ok (some (.collected made.kind all.toArray stop))) := by
  obtain ⟨final, -, looped⟩ := row.repeatTimes calm from_ valid inside fill #[] (.refl none store)
  rw [Array.empty_append] at looped
  exact Rule.gives_iff.mpr (((Rule.limit_object_step (by trivial)).ends_eq store _).mpr ⟨final, exec_bind_ok looped⟩)

theorem times_none {final : Store} (fewer : all.length < count) (open_ : ∀ one ∈ all, one.stop < (text.size : Int))
    (fails : made.rule.Comes text stop after (.ok none) final) :
    (Rule.object tag traced (.times made.kind count made.rule)).Gives text start store (.ok none) := by
  obtain ⟨last, -, looped⟩ := row.repeatTimes_none calm from_ valid inside fewer open_ fails #[] (.refl none store)
  exact Rule.gives_iff.mpr (((Rule.limit_object_step (by trivial)).ends_eq store _).mpr ⟨last, exec_bind_ok looped⟩)

end Grammar.Row

/-- Integers of too many digits are not written. -/
theorem Numeral.isWritable_of_large (large : Nat.pow 10 digitLimit ≤ count) : isWritable count = false := by
  rw [isWritable, decide_eq_false_iff_not, Int.natAbs_natCast]
  exact Nat.not_lt_of_le large

namespace Grammar

/-- A count that can be written makes a repetition. -/
theorem exec_times (made : Grammar) (writable : Numeral.isWritable count) (making : Store) :
    ∃ named tag traced makes, (made.times (.int count)).exec making =
      (.ok ⟨made.kind, named, .object tag traced (.times made.kind count made.rule)⟩, makes) := by
  have is : made.Is made.kind (· = made.rule) := ⟨rfl, rfl⟩
  have answers : (made.times (.int count)).Answers (Is made.kind fun rule =>
      ∃ tag traced, rule = .object tag traced (.times made.kind count made.rule)) :=
    is.times_answers writable fun same tag traced => ⟨tag, traced, same ▸ rfl⟩
  obtain ⟨⟨_, named, _⟩, names, ⟨rfl, tag, traced, rfl⟩, same⟩ := answers making.verbose making.names
  exact ⟨named, tag, traced, _, same making rfl rfl⟩

/-- A count that cannot be written makes none. -/
theorem exec_times_unwritable (made : Grammar) (long : Numeral.isWritable count = false) (making : Store) :
    (made.times (.int count)).exec making = (.error (.fault .integerTooLong), making) := by
  have counted : (made.repetitions (.int count)).exec making = (.error (.fault .integerTooLong), making) := by
    have short : (!Numeral.isWritable count) = true := by
      rw [long]
      rfl
    unfold repetitions
    refine (exec_bind_ok (exec_pure _ _)).trans ((exec_bind_ok (exec_ofExcept_ok _ _)).trans ?_)
    dsimp only
    rw [if_pos short]
    exact exec_bind_error (exec_fail _ _)
  rw [times, exec_bind_error counted]

/-- A word is looked for in all stores. -/
theorem calm_literal (word : String) (text : Text) :
    Calm ⟨.pattern, 0, .object 0 false (.leaf (Leaf.literal word))⟩ text fun _ => True :=
  calm_leaf fun start valid inside => ⟨_, rfl, fun one member =>
    ⟨.pattern _, Leaf.literal_within word text start one valid inside (congrArg Except.ok member)⟩⟩

/-- A grammar that is repeated a number of times is run in a row: that many times, or less often if a match
ends where the text does and none before it has. The result ends where the last match does, and has the
values of the matches. The repetition fails where a run in the row fails, and behind matches that have all
ended before the text does; otherwise it comes to a result. So runs of that number none of which but
the last ends where the text does are all matched, and fewer values are only found
where the rest of the text is matched. -/
theorem times_fill (calm : made.Calm text known) (writable : Numeral.isWritable count) (making : Store) (from_ : known store)
    (valid : 0 ≤ start) (inside : start ≤ text.size) :
    ∃ whole makes, (made.times (.int count)).exec making = (.ok whole, makes) ∧ whole.kind = made.kind ∧
      (∀ result, whole.rule.Gives text start store (.ok (some result)) ↔ ∃ all after,
        made.Row text store start all result.stop after ∧ Match.Fill count text.size all result.stop ∧
          made.kind.Collects all result.value) ∧
      (whole.rule.Gives text start store (.ok none) ↔ ∃ all stop between after, made.Row text store start all stop between ∧
        all.length < count ∧ (∀ one ∈ all, one.stop < (text.size : Int)) ∧
          made.rule.Comes text stop between (.ok none) after) ∧
      (∃ answer, whole.rule.Gives text start store (.ok answer)) ∧
      (∀ all stop after, made.Row text store start all stop after → all.length = count →
        (∀ one ∈ all.dropLast, one.stop ≠ (text.size : Int)) →
          ∃ result, whole.rule.Gives text start store (.ok (some result)) ∧ result.stop = stop ∧
            made.kind.Collects all result.value) ∧
      ∀ result values, whole.rule.Gives text start store (.ok (some result)) → result.value = some (.list values) →
        values.length < count → result.stop = text.size := by
  obtain ⟨named, tag, traced, makes, is⟩ := exec_times made writable making
  have matched {all stop after} (row : made.Row text store start all stop after) (fill : Match.Fill count text.size all stop) :=
    row.times calm from_ valid inside tag traced fill
  have collects {all stop after} (row : made.Row text store start all stop after) :=
    Kind.collects_collected stop (row.bounds calm from_ valid inside).2.2.2
  have one result (gives : (Rule.object tag traced (.times made.kind count made.rule)).Gives text start store (.ok (some result))) :
      ∃ all after, made.Row text store start all result.stop after ∧ Match.Fill count text.size all result.stop ∧
        made.kind.Collects all result.value := by
    obtain ⟨all, stop, after, row, fill⟩ | ⟨all, stop, between, after, row, fewer, open_, fails⟩ :=
      calm.row from_ valid inside count
    · cases gives.unique (matched row fill)
      rw [Match.collected_stop]
      exact ⟨all, after, row, fill, collects row⟩
    · cases gives.unique (row.times_none calm from_ valid inside tag traced fewer open_ fails)
  refine ⟨_, makes, is, rfl, fun result => ⟨one result, ?_⟩, ⟨fun gives => ?_, ?_⟩, ?_, ?_, ?_⟩
  · rintro ⟨all, after, row, fill, are⟩
    have same : result = .collected made.kind all.toArray result.stop := by
      change (⟨result.value, result.stop⟩ : Match) = _
      rw [(collects row).unique are]
      cases made.kind <;> rfl
    rw [same]
    exact matched row fill
  · obtain ⟨all, stop, after, row, fill⟩ | short := calm.row from_ valid inside count
    · cases gives.unique (matched row fill)
    · exact short
  · rintro ⟨all, stop, between, after, row, fewer, open_, fails⟩
    exact row.times_none calm from_ valid inside tag traced fewer open_ fails
  · obtain ⟨all, stop, after, row, fill⟩ | ⟨all, stop, between, after, row, fewer, open_, fails⟩ :=
      calm.row from_ valid inside count
    · exact ⟨_, matched row fill⟩
    · exact ⟨_, row.times_none calm from_ valid inside tag traced fewer open_ fails⟩
  · intro all stop after row many open_
    exact ⟨_, matched row ⟨Nat.le_of_eq many, open_, .inl many⟩, Match.collected_stop _ _ stop, collects row⟩
  · intro result values gives is fewer
    obtain ⟨all, after, row, fill, are⟩ := one result gives
    rw [is] at are
    obtain same | ⟨-, ends⟩ := fill.enough
    · rw [are.length, same] at fewer
      exact absurd fewer (Nat.lt_irrefl count)
    · exact ends

/-- A word is found twice where it is looked for five times and the text ends. -/
theorem times_fill_words :
    let text := Text.ofString "abab"
    let word : Grammar := ⟨.pattern, 0, .object 0 false (.leaf (Leaf.literal "ab"))⟩
    word.Calm text (fun _ => True) ∧ Numeral.isWritable (5 : Nat) ∧
      ∃ whole makes result, (word.times (.int (5 : Nat))).exec .initial = (.ok whole, makes) ∧
        whole.rule.Gives text 0 .initial (.ok (some result)) ∧ result.stop = 4 := by
  intro text word
  have calm := calm_literal "ab" text
  have writable : Numeral.isWritable (5 : Nat) := Numeral.isWritable_of_le (by decide)
  obtain ⟨whole, makes, is, -, gives, -⟩ := times_fill calm writable .initial trivial (Int.le_refl 0) (by decide)
  obtain ⟨one, first⟩ := comes_leaf (Leaf.literal "ab") 0 false text 0 .initial
  obtain ⟨two, second⟩ := comes_leaf (Leaf.literal "ab") 0 false text 2 one
  have row : word.Row text .initial 0 [.span 2, .span 4] 4 two := .cons first (.cons second .nil)
  have fill : Match.Fill 5 text.size [.span 2, .span 4] 4 := ⟨by decide, by decide, .inr ⟨by decide, rfl⟩⟩
  exact ⟨calm, writable, whole, makes, .span 4, is, (gives _).mpr ⟨_, two, row, fill, rfl⟩, rfl⟩

/-- A count of too many digits makes no repetition, though the text ends behind the first match. -/
theorem times_unwritable :
    let text := Text.ofString "a"
    let word : Grammar := ⟨.pattern, 0, .object 0 false (.leaf (Leaf.literal "a"))⟩
    let count := Nat.pow 10 Numeral.digitLimit
    word.Calm text (fun _ => True) ∧ (∃ after, word.Row text .initial 0 [.span 1] 1 after) ∧
      Match.Fill count text.size [.span 1] 1 ∧
      (word.times (.int count)).exec .initial = (.error (.fault .integerTooLong), .initial) := by
  intro text word count
  obtain ⟨after, comes⟩ := comes_leaf (Leaf.literal "a") 0 false text 0 .initial
  have fill : ∀ count, 1 ≤ count → Match.Fill count text.size [.span 1] 1 := fun count least =>
    ⟨least, nofun, .inr ⟨Nat.le_refl 1, rfl⟩⟩
  have positive : ∀ digits, 1 ≤ Nat.pow 10 digits := fun digits => Nat.one_le_pow digits 10 (by decide)
  exact ⟨calm_literal "a" text, ⟨after, .cons comes .nil⟩, fill _ (positive Numeral.digitLimit),
    exec_times_unwritable word (Numeral.isWritable_of_large (Nat.le_refl _)) .initial⟩

end Grammar

end TextGrammar
