import TextGrammar.Proofs.CountedRuns
import TextGrammar.Proofs.Encodings
import TextGrammar.Proofs.RepetitionLaws

/-! Captured texts. What a grammar captures is the text between its start and the end of its match. The
matches of repeated runs, and those of two grammars in sequence, tile the text that is matched in all, so
their captured texts in one are the text that is captured in one. -/

namespace TextGrammar
open TextGrammar.Action

variable {text : Text} {known : Store → Prop} {store after : Store} {start stop : Int} {made next whole : Grammar}
  {all : List Match}
  {count : Nat}

theorem Text.slice_append {middle : Int} (valid : 0 ≤ start) (one : start ≤ middle) (two : middle ≤ stop)
    (inside : stop ≤ text.size) :
    text.slice start middle ++ text.slice middle stop = text.slice start stop := by
  apply String.toList_injective
  have further : text.toList.drop middle.toNat = (text.toList.drop start.toNat).drop (middle - start).toNat := by
    rw [List.drop_drop]
    congr 1
    omega
  rw [String.toList_append, toList_slice valid one (Int.le_trans two inside), toList_slice (Int.le_trans valid one) two inside,
    toList_slice valid (Int.le_trans one two) inside, further, ← List.take_add]
  congr 1
  omega

/-- A match of a grammar that captures its text. -/
def Match.captured (text : Text) (start : Int) (found : Match) : Match :=
  .yielding (.str (text.slice start found.stop)) found.stop

/-- The captured texts of matches in a row. -/
def Match.pieces (text : Text) : Int → List Match → List Match
  | _, [] => []
  | start, found :: rest => found.captured text start :: pieces text found.stop rest

/-- Captured texts end where the matches do. -/
theorem Match.stops_pieces (text : Text) (start : Int) (all : List Match) :
    (pieces text start all).map Match.stop = all.map Match.stop := by
  induction all generalizing start with
  | nil => rfl
  | cons found rest ih => exact congrArg (found.stop :: ·) (ih found.stop)

theorem Match.length_pieces (text : Text) (start : Int) (all : List Match) : (pieces text start all).length = all.length := by
  rw [← List.length_map Match.stop, stops_pieces, List.length_map]

theorem Match.forall_pieces (text : Text) (start : Int) (property : Int → Prop) (holds : ∀ one ∈ all, property one.stop) :
    ∀ piece ∈ pieces text start all, property piece.stop := by
  intro piece member
  have ends : piece.stop ∈ (pieces text start all).map Match.stop := List.mem_map_of_mem member
  rw [stops_pieces] at ends
  obtain ⟨one, member, is⟩ := List.mem_map.mp ends
  exact is ▸ holds one member

/-- Whether matches fill a count is told by where they end. -/
theorem Match.Fill.pieces {size : Int} (fill : Fill count size all stop) (text : Text) (start : Int) :
    Fill count size (Match.pieces text start all) stop := by
  have lengths := length_pieces text start all
  refine ⟨lengths ▸ fill.few, fun one member => ?_, lengths ▸ fill.enough⟩
  have ends : one.stop ∈ (Match.pieces text start all).dropLast.map Match.stop := List.mem_map_of_mem member
  rw [List.map_dropLast, stops_pieces, ← List.map_dropLast] at ends
  obtain ⟨other, member, is⟩ := List.mem_map.mp ends
  exact is ▸ fill.before other member

/-- What captures the text of a grammar. -/
def Grammar.capturing (made : Grammar) (tag : Tag) (traced : Bool) : Grammar :=
  ⟨.parser, tag, .object tag traced (.captured made.kind made.rule)⟩

namespace Rule

theorem exec_captured {kind : Kind} {rule : Rule} {found : Option Match} (comes : rule.Comes text start store (.ok found) after)
    (suits : ∀ one ∈ found, kind.Suits one.value) :
    (Runner.step limit (.captured kind rule) text start).exec store = (.ok (found.map (Match.captured text start)), after) := by
  rw [Runner.step, exec_bind_ok (comes_iff.mp comes)]
  cases found with
  | none => rfl
  | some one =>
    dsimp only
    rw [Match.stopAs_of_suits (suits one rfl), exec_bind_ok (exec_ofExcept_ok _ _)]
    rfl

end Rule

section Captured
variable (calm : made.Calm text known) (tag : Tag) (traced : Bool)
include calm

/-- A grammar captures its text wherever it matches. -/
theorem Grammar.Calm.comes_capturing (from_ : known store) (valid : 0 ≤ start) (inside : start ≤ text.size)
    {found : Option Match} (comes : made.rule.Comes text start store (.ok found) after) {other : Store} (agree : store.Agree none other) :
    ∃ final, after.Agree none final ∧
      (made.capturing tag traced).rule.Comes text start other (.ok (found.map (Match.captured text start))) final := by
  obtain ⟨answer, last, again, -, within⟩ := calm from_ valid inside
  cases (comes.unique again).1
  have direct : (Rule.captured made.kind made.rule).Direct := trivial
  have captures : (Rule.captured made.kind made.rule).Comes text start store (.ok (found.map (Match.captured text start))) after :=
    (Rule.comes_iff_step direct).mpr (Rule.exec_captured comes fun one member => (within one member).1)
  obtain ⟨final, comes, agrees⟩ := Mirrors.comes_object tag traced agree captures
  exact ⟨final, agrees, comes⟩

theorem Grammar.Calm.capturing : (made.capturing tag traced).Calm text (Store.Known known) := by
  rintro store start ⟨clean, holds, agree⟩ valid inside
  obtain ⟨found, after, comes, leads, within⟩ := calm holds valid inside
  obtain ⟨final, agrees, comes⟩ := calm.comes_capturing tag traced holds valid inside comes agree
  refine ⟨_, final, comes, ⟨after, leads, agrees⟩, fun piece member => ?_⟩
  obtain ⟨one, rfl, rfl⟩ := Option.map_eq_some_iff.mp member
  exact ⟨fun _ => rfl, (within one rfl).2⟩

/-- Grammars that capture their texts run in the same chains as without. -/
theorem Grammar.Chain.capturing (chain : made.Chain text store start all stop) (from_ : known store) (valid : 0 ≤ start)
    (inside : start ≤ text.size) {other : Store} (agree : store.Agree none other) :
    (made.capturing tag traced).Chain text other start (Match.pieces text start all) stop := by
  induction chain generalizing other with
  | failed comes =>
    obtain ⟨final, -, comes⟩ := calm.comes_capturing tag traced from_ valid inside comes agree
    exact .failed comes
  | last comes ends =>
    obtain ⟨final, -, comes⟩ := calm.comes_capturing tag traced from_ valid inside comes agree
    exact .last comes ends
  | step comes moved short _ ih =>
    obtain ⟨leads, -, later, before⟩ := calm.matched from_ valid inside comes
    obtain ⟨final, agrees, comes⟩ := calm.comes_capturing tag traced from_ valid inside comes agree
    exact .step comes moved short (ih leads (Int.le_trans valid later) before agrees)

/-- So they do in rows. -/
theorem Grammar.Row.capturing (row : made.Row text store start all stop after) (from_ : known store) (valid : 0 ≤ start)
    (inside : start ≤ text.size) {other : Store} (agree : store.Agree none other) :
    ∃ final, after.Agree none final ∧
      (made.capturing tag traced).Row text other start (Match.pieces text start all) stop final := by
  induction row generalizing other with
  | nil => exact ⟨other, agree, .nil⟩
  | cons comes _ ih =>
    obtain ⟨leads, -, later, before⟩ := calm.matched from_ valid inside comes
    obtain ⟨middle, agrees, comes⟩ := calm.comes_capturing tag traced from_ valid inside comes agree
    obtain ⟨final, same, row⟩ := ih leads (Int.le_trans valid later) before agrees
    exact ⟨final, same, .cons comes row⟩

omit tag traced in
/-- The pieces of a row are the text between its start and its end. -/
theorem Grammar.Row.joinItems_pieces (row : made.Row text store start all stop after) (from_ : known store) (valid : 0 ≤ start)
    (inside : start ≤ text.size) (index : Nat) :
    Value.joinItems index ((Match.pieces text start all).filterMap Match.value) = .ok (text.slice start stop).toList := by
  induction row generalizing index with
  | @nil store start =>
    rw [Text.toList_slice valid (Int.le_refl start) inside, Int.sub_self]
    rfl
  | @cons _ start found _ _ _ _ comes row ih =>
    obtain ⟨leads, -, later, before⟩ := calm.matched from_ valid inside comes
    obtain ⟨-, onward, ends, -⟩ := row.bounds calm leads (Int.le_trans valid later) before
    have piece : (found.captured text start).value = some (.str (text.slice start found.stop)) := rfl
    have rest := ih leads (Int.le_trans valid later) before (index + 1)
    rw [← Text.slice_append valid later onward ends, String.toList_append, Match.pieces, List.filterMap_cons_some piece,
      Value.joinItems, rest]
    rfl

end Captured

/-- The runs of a chain are a row. -/
theorem Grammar.Chain.row (chain : made.Chain text store start all stop) : ∃ after, made.Row text store start all stop after := by
  induction chain with
  | failed => exact ⟨_, .nil⟩
  | last comes => exact ⟨_, .cons comes .nil⟩
  | step comes _ _ _ ih =>
    obtain ⟨after, row⟩ := ih
    exact ⟨after, .cons comes row⟩

section Chains
variable (calm : made.Calm text known) (from_ : known store) (valid : 0 ≤ start) (inside : start ≤ text.size) (tag : Tag)
  (traced : Bool)
include calm from_ valid inside

theorem Grammar.Chain.many_gives (chain : made.Chain text store start all stop) (item : Tag) :
    (Rule.object tag traced (.many made.kind item made.rule)).Gives text start store
      (.ok (some (.collected made.kind all.toArray stop))) := by
  obtain ⟨others, last, other, comes⟩ := calm.many from_ valid inside
  obtain ⟨rfl, rfl⟩ := chain.unique other
  obtain ⟨final, -, comes⟩ := comes item
  obtain ⟨after, comes, -⟩ := Mirrors.comes_object tag traced (.refl none store) comes
  exact ⟨after, comes⟩

theorem Grammar.Chain.oneOrMore_gives (chain : made.Chain text store start all stop) (some_ : all ≠ []) :
    (Rule.object tag traced (.oneOrMore made.kind made.rule)).Gives text start store
      (.ok (some (.collected made.kind all.toArray stop))) := by
  have goes : made.rule.Inside text known := by
    intro store start found after from_ valid inside comes
    obtain ⟨leads, -, within⟩ := calm.matched from_ valid inside comes
    exact ⟨leads, within⟩
  have matched after : (Rule.limit made.rule text start).exec store ≠ (.ok none, after) := by
    intro none
    cases chain with
    | failed => exact some_ rfl
    | last comes | step comes =>
      rw [Rule.comes_iff.mp comes] at none
      cases none
  obtain ⟨others, last, other, loops⟩ :=
    calm.repeatFrom (Runner.rounds text start) from_ valid inside (Runner.rounds_enough text start)
  obtain ⟨rfl, rfl⟩ := chain.unique other
  obtain ⟨final, -, looped⟩ := loops #[] (.refl none store)
  rw [Array.empty_append] at looped
  refine Rule.gives_iff.mpr (((Rule.limit_object_step (by trivial)).ends_eq store _).mpr ⟨final, ?_⟩)
  rw [goes.exec_oneOrMore made.kind from_ valid inside matched, map_eq_pure_bind]
  exact exec_bind_ok looped

omit calm from_ valid inside in
theorem Rule.oneOrMore_none {kind : Kind} {rule : Rule} (fails : rule.Comes text start store (.ok none) after) :
    (Rule.object tag traced (.oneOrMore kind rule)).Gives text start store (.ok none) :=
  Rule.gives_iff.mpr (((Rule.limit_object_step (by trivial)).ends_eq store _).mpr
    ⟨after, exec_bind_ok (Rule.comes_iff.mp fails)⟩)

end Chains

/-- Rules that match the same part of the text, one with a value that is made into this text. -/
def Rule.Tile (parts whole : Rule) (kind : Kind) (change : Value.Transform) (text : Text) (start : Int) (store : Store) : Prop :=
  ∃ pieces found, parts.Gives text start store (.ok pieces) ∧ whole.Gives text start store (.ok found) ∧
    Option.Rel (fun piece one => kind.Suits one.value ∧ piece.stop = one.stop ∧
      ∃ value, piece.value = some value ∧ change value = .ok (.str (text.slice start one.stop))) pieces found

namespace Rule.Tile
variable {parts rule : Rule} {kind : Kind} {change : Value.Transform}

/-- Where the value is changed so, both come to the text that is matched. -/
theorem gives (tile : parts.Tile rule kind change text start store) (tag other : Tag) (traced logged : Bool) :
    ∃ found, (Rule.object tag traced (.map change parts)).Gives text start store (.ok found) ∧
      (Rule.object other logged (.captured kind rule)).Gives text start store (.ok found) := by
  obtain ⟨pieces, found, ⟨after, comes⟩, ⟨final, again⟩, related⟩ := tile
  refine ⟨found.map (Match.captured text start), ?_, ?_⟩
  · refine Rule.gives_iff.mpr (((Rule.limit_object_step (by trivial)).ends_eq store _).mpr ⟨after, ?_⟩)
    rw [Runner.step, exec_bind_ok (comes_iff.mp comes)]
    cases related with
    | none => rfl
    | some related =>
      obtain ⟨-, same, value, is, changed⟩ := related
      dsimp only
      rw [Match.valueAs, is]
      dsimp only
      rw [exec_bind_ok (exec_ofExcept_ok _ _), changed, exec_bind_ok (exec_ofExcept_ok _ _), same]
      rfl
  · refine Rule.gives_iff.mpr (((Rule.limit_object_step (by trivial)).ends_eq store _).mpr
      ⟨final, Rule.exec_captured again ?_⟩)
    rintro one rfl
    cases related with
    | some related => exact related.1

end Rule.Tile

section Tiles
variable (calm : made.Calm text known) (from_ : known store) (valid : 0 ≤ start) (inside : start ≤ text.size)
  (tag item other inner : Tag) (traced logged told : Bool)
include calm from_ valid inside

/-- What is collected from the pieces of a row is the text that is matched in all. -/
theorem Grammar.Row.tile (row : made.Row text store start all stop after) {parts rule : Rule}
    (pieces : parts.Gives text start store (.ok (some (.collected .parser (Match.pieces text start all).toArray stop))))
    (found : rule.Gives text start store (.ok (some (.collected made.kind all.toArray stop)))) :
    parts.Tile rule made.kind Value.joined text start store := by
  have joined : Value.joined (.list ((Match.pieces text start all).filterMap Match.value)) =
      .ok (.str (text.slice start stop)) := by
    simp only [Value.joined, Value.items?]
    rw [row.joinItems_pieces calm from_ valid inside 0]
    exact congrArg (fun characters => Except.ok (Value.str characters)) String.ofList_toList
  refine ⟨_, _, pieces, found, .some ⟨?_, (Match.collected_stop made.kind _ stop).symm, _, rfl, ?_⟩⟩
  · cases made.kind with
    | pattern => exact .pattern _
    | parser => exact fun _ => rfl
  · rw [Match.collected_stop]
    exact joined

theorem Grammar.Calm.many_tile :
    (Rule.object tag traced (.many .parser item (made.capturing inner told).rule)).Tile
      (.object other logged (.many made.kind made.tag made.rule)) made.kind Value.joined text start store := by
  obtain ⟨all, stop, chain, -⟩ := calm.many from_ valid inside
  obtain ⟨after, row⟩ := chain.row
  have pieces := chain.capturing calm inner told from_ valid inside (.refl none store)
  exact row.tile calm from_ valid inside
    (pieces.many_gives (calm.capturing inner told) (.of from_) valid inside tag traced item)
    (chain.many_gives calm from_ valid inside other logged made.tag)

theorem Grammar.Calm.oneOrMore_tile :
    (Rule.object tag traced (.oneOrMore .parser (made.capturing inner told).rule)).Tile
      (.object other logged (.oneOrMore made.kind made.rule)) made.kind Value.joined text start store := by
  obtain ⟨all, stop, chain, -⟩ := calm.many from_ valid inside
  have pieces := chain.capturing calm inner told from_ valid inside (.refl none store)
  by_cases none : all = []
  · subst none
    cases chain with
    | failed comes =>
      cases pieces with
      | failed again =>
        exact ⟨_, _, Rule.oneOrMore_none tag traced again, Rule.oneOrMore_none other logged comes, .none⟩
  · obtain ⟨after, row⟩ := chain.row
    have some_ : Match.pieces text start all ≠ [] := fun empty => none <| by
      rw [← List.length_eq_zero_iff, ← Match.length_pieces text start, empty, List.length_nil]
    exact row.tile calm from_ valid inside
      (pieces.oneOrMore_gives (calm.capturing inner told) (.of from_) valid inside tag traced some_)
      (chain.oneOrMore_gives calm from_ valid inside other logged none)

theorem Grammar.Calm.times_tile (count : Nat) :
    (Rule.object tag traced (.times .parser count (made.capturing inner told).rule)).Tile
      (.object other logged (.times made.kind count made.rule)) made.kind Value.joined text start store := by
  have captures := calm.capturing inner told
  obtain ⟨all, stop, after, row, fill⟩ | ⟨all, stop, between, after, row, fewer, open_, fails⟩ :=
    calm.row from_ valid inside count
  · obtain ⟨final, -, pieces⟩ := row.capturing calm inner told from_ valid inside (.refl none store)
    exact row.tile calm from_ valid inside (pieces.times captures (.of from_) valid inside tag traced (fill.pieces text start))
      (row.times calm from_ valid inside other logged fill)
  · obtain ⟨leads, onward, ends, -⟩ := row.bounds calm from_ valid inside
    obtain ⟨middle, agree, pieces⟩ := row.capturing calm inner told from_ valid inside (.refl none store)
    obtain ⟨final, -, again⟩ := calm.comes_capturing inner told leads (Int.le_trans valid onward) ends fails agree
    have short := Match.forall_pieces text start (· < text.size) open_
    have fewer_ := Match.length_pieces text start all ▸ fewer
    exact ⟨_, _, pieces.times_none captures (.of from_) valid inside tag traced fewer_ short again,
      row.times_none calm from_ valid inside other logged fewer open_ fails, .none⟩

end Tiles

namespace Rule
variable {kind other : Kind} {first second : Rule} (tag : Tag) (traced : Bool)

theorem sequence_none (fails : first.Comes text start store (.ok none) after) :
    (Rule.object tag traced (.sequence kind other first second)).Gives text start store (.ok none) :=
  gives_iff.mpr (((limit_object_step (by trivial)).ends_eq store _).mpr ⟨after, exec_bind_ok (comes_iff.mp fails)⟩)

theorem sequence_gives {middle : Store} {found : Match} {next : Option Match}
    (comes : first.Comes text start store (.ok (some found)) middle) (suits : kind.Suits found.value)
    (again : second.Comes text found.stop middle (.ok next) after) (suited : ∀ one ∈ next, other.Suits one.value) :
    (Rule.object tag traced (.sequence kind other first second)).Gives text start store
      (.ok (next.map fun one => ⟨kind.paired other found.value one.value, one.stop⟩)) := by
  refine gives_iff.mpr (((limit_object_step (by trivial)).ends_eq store _).mpr ⟨after, ?_⟩)
  rw [Runner.step, exec_bind_ok (comes_iff.mp comes)]
  dsimp only
  rw [Match.stopAs_of_suits suits, exec_bind_ok (exec_ofExcept_ok _ _), exec_bind_ok (comes_iff.mp again)]
  cases next with
  | none => rfl
  | some one =>
    dsimp only
    rw [Match.followedBy_of_suits suits (suited one rfl), exec_bind_ok (exec_ofExcept_ok _ _)]
    rfl

end Rule

/-- Two captured texts in sequence are the captured text of a sequence. -/
theorem Grammar.Calm.sequence_tile (calm : made.Calm text known) (follows : next.Calm text known) (from_ : known store)
    (valid : 0 ≤ start) (inside : start ≤ text.size) (tag other inner item : Tag) (traced logged told debug : Bool) :
    (Rule.object tag traced (.sequence .parser .parser (made.capturing inner told).rule (next.capturing item debug).rule)).Tile
      (.object other logged (.sequence made.kind next.kind made.rule next.rule)) (made.kind.joined next.kind)
      (Value.Transform.combined Value.add) text start store := by
  obtain ⟨answer, middle, comes, leads, within⟩ := calm from_ valid inside
  obtain ⟨between, agree, captures⟩ := calm.comes_capturing inner told from_ valid inside comes (.refl none store)
  cases answer with
  | none => exact ⟨_, _, Rule.sequence_none tag traced captures, Rule.sequence_none other logged comes, .none⟩
  | some one =>
    obtain ⟨suits, later, before⟩ := within one rfl
    obtain ⟨answer, final, again, -, within⟩ := follows leads (Int.le_trans valid later) before
    obtain ⟨last, -, repeated⟩ := follows.comes_capturing item debug leads (Int.le_trans valid later) before again agree
    refine ⟨_, _, Rule.sequence_gives tag traced captures (fun _ => rfl) repeated ?_,
      Rule.sequence_gives other logged comes suits again fun one member => (within one member).1, ?_⟩
    · intro piece member
      obtain ⟨one, -, rfl⟩ := Option.map_eq_some_iff.mp member
      exact fun _ => rfl
    · cases answer with
      | none => exact .none
      | some two =>
        obtain ⟨suited, onward, ends⟩ := within two rfl
        refine .some ⟨suits.paired suited, rfl, _, rfl, ?_⟩
        rw [← Text.slice_append valid later onward ends]
        rfl

namespace Grammar

theorem captured_yields (yields : made.captured.Yields whole) : ∃ tag traced, whole = made.capturing tag traced := by
  obtain ⟨before, after, is⟩ := yields
  cases is
  exact ⟨_, _, rfl⟩

theorem map_yields {change : Value.Transform} (yields : (made.map change).Yields whole) :
    ∃ tag traced, whole = ⟨.parser, tag, .object tag traced (.map change made.rule)⟩ := by
  obtain ⟨before, after, is⟩ := yields
  rcases made with ⟨kind, named, rule⟩
  cases kind <;> cases is
  exact ⟨_, _, rfl⟩

theorem times_yields (yields : (made.times (.int count)).Yields whole) :
    ∃ named tag traced, whole = ⟨made.kind, named, .object tag traced (.times made.kind count made.rule)⟩ := by
  obtain ⟨before, after, is⟩ := yields
  cases writable : Numeral.isWritable count with
  | false =>
    rw [exec_times_unwritable made writable] at is
    cases is
  | true =>
    obtain ⟨named, tag, traced, makes, made⟩ := exec_times made writable before
    rw [made] at is
    cases is
    exact ⟨named, tag, traced, rfl⟩

/-- Any grammar can be repeated, as often as a count says that can be written. -/
theorem repeating_answers (made : Grammar) (writable : Numeral.isWritable count) :
    ∀ repeating ∈ [many, oneOrMore, (·.times (.int count))], (repeating made).Answers (Is made.kind fun _ => True) := by
  have is : made.Is made.kind fun _ => True := ⟨rfl, trivial⟩
  intro repeating one
  simp only [List.mem_cons, List.not_mem_nil, or_false] at one
  rcases one with rfl | rfl | rfl
  · exact is.many_answers fun _ _ _ => trivial
  · exact .around made _ _ fun _ _ => trivial
  · exact is.times_answers writable fun _ _ _ => trivial

theorem captured_answers (made : Grammar) : made.captured.Answers (Is .parser fun _ => True) := by
  have is : made.Is made.kind fun _ => True := ⟨rfl, trivial⟩
  exact is.captured_answers fun _ _ _ => trivial

theorem sequence_answers (made next : Grammar) :
    (made.followedByGrammar next).Answers (Is (made.kind.joined next.kind) fun _ => True) := by
  have one : made.Is made.kind fun _ => True := ⟨rfl, trivial⟩
  have two : next.Is next.kind fun _ => True := ⟨rfl, trivial⟩
  exact followedByGrammar_answers one two fun _ _ _ _ => trivial

section Tiles
variable {pieces : Grammar} (calm : made.Calm text known) (from_ : known store) (valid : 0 ≤ start) (inside : start ≤ text.size)
include calm from_ valid inside

theorem Calm.captured_gives (yields : made.captured.Yields whole) : ∃ found, made.rule.Gives text start store (.ok found) ∧
    whole.rule.Gives text start store (.ok (found.map fun one => .yielding (.str (text.slice start one.stop)) one.stop)) := by
  obtain ⟨tag, traced, rfl⟩ := captured_yields yields
  obtain ⟨found, after, comes, -⟩ := calm from_ valid inside
  obtain ⟨final, -, captures⟩ := calm.comes_capturing tag traced from_ valid inside comes (.refl none store)
  exact ⟨found, ⟨after, comes⟩, final, captures⟩

theorem Calm.repeating_gives {repeating : Grammar → Action Grammar} (count : Nat)
    (one : repeating ∈ [Grammar.many, oneOrMore, (·.times (.int count))])
    (parts : (made.captured >>= repeating >>= (·.map Value.joined)).Yields pieces)
    (yields : (repeating made >>= captured).Yields whole) :
    ∃ found, pieces.rule.Gives text start store (.ok found) ∧ whole.rule.Gives text start store (.ok found) := by
  obtain ⟨repeated, collects, mapped⟩ := parts.bind
  obtain ⟨piece, captures, collects⟩ := collects.bind
  obtain ⟨raw, repeats, yields⟩ := yields.bind
  obtain ⟨inner, told, rfl⟩ := captured_yields captures
  obtain ⟨tag, traced, rfl⟩ := map_yields mapped
  obtain ⟨other, logged, rfl⟩ := captured_yields yields
  simp only [List.mem_cons, List.not_mem_nil, or_false] at one
  rcases one with rfl | rfl | rfl
  · obtain ⟨outer, tried, rfl⟩ := many_yields collects
    obtain ⟨last, debug, rfl⟩ := many_yields repeats
    exact (calm.many_tile from_ valid inside outer inner last inner tried debug told).gives tag other traced logged
  · obtain ⟨outer, tried, rfl⟩ := oneOrMore_yields collects
    obtain ⟨last, debug, rfl⟩ := oneOrMore_yields repeats
    exact (calm.oneOrMore_tile from_ valid inside outer last inner tried debug told).gives tag other traced logged
  · obtain ⟨_, outer, tried, rfl⟩ := times_yields collects
    obtain ⟨_, last, debug, rfl⟩ := times_yields repeats
    exact (calm.times_tile from_ valid inside outer last inner tried debug told count).gives tag other traced logged

theorem Calm.sequence_gives (follows : next.Calm text known)
    (parts : (do (← (← made.captured).followedByGrammar (← next.captured)).map (Value.Transform.combined Value.add)).Yields pieces)
    (yields : (made.followedByGrammar next >>= captured).Yields whole) :
    ∃ found, pieces.rule.Gives text start store (.ok found) ∧ whole.rule.Gives text start store (.ok found) := by
  obtain ⟨first, one, parts⟩ := parts.bind
  obtain ⟨second, two, parts⟩ := parts.bind
  obtain ⟨both, sequence, mapped⟩ := parts.bind
  obtain ⟨raw, follow, yields⟩ := yields.bind
  obtain ⟨inner, told, rfl⟩ := captured_yields one
  obtain ⟨item, debug, rfl⟩ := captured_yields two
  obtain ⟨outer, tried, rfl⟩ := followedByGrammar_yields sequence
  obtain ⟨tag, traced, rfl⟩ := map_yields mapped
  obtain ⟨last, verbose, rfl⟩ := followedByGrammar_yields follow
  obtain ⟨other, logged, rfl⟩ := captured_yields yields
  have tile := calm.sequence_tile follows from_ valid inside outer last inner item tried verbose told debug
  exact tile.gives tag other traced logged

end Tiles

theorem captured_repeating_answers (made : Grammar) {count : Nat} (writable : Numeral.isWritable count)
    {repeating : Grammar → Action Grammar} (one : repeating ∈ [many, oneOrMore, (·.times (.int count))]) :
    (made.captured >>= repeating >>= (·.map Value.joined)).Answers (Is .parser fun _ => True) := by
  have collects : (made.captured >>= repeating).Answers (Is .parser fun _ => True) := by
    refine made.captured_answers.bind fun piece is => ?_
    rw [← is.kind]
    exact piece.repeating_answers writable repeating one
  exact collects.bind fun repeated is => is.map_answers fun _ _ _ => trivial

theorem captured_sequence_answers (made next : Grammar) :
    (do (← (← made.captured).followedByGrammar (← next.captured)).map (Value.Transform.combined Value.add)).Answers
      (Is .parser fun _ => True) := by
  refine made.captured_answers.bind fun first one => next.captured_answers.bind fun second two => ?_
  refine (first.sequence_answers second).bind fun both is => ?_
  rw [one.kind, two.kind] at is
  exact is.map_answers fun _ _ _ => trivial

/-- Captured texts lose and duplicate nothing. A grammar captures its text exactly where it matches, and this is
the text between the start and the end of the match. The captured texts of a repetition of any sort in one, and
those of two grammars in sequence, are what the repetition and the sequence capture. All these grammars can be
made, if the count can be written. -/
theorem captured_tiles (calm : made.Calm text known) (follows : next.Calm text known) (from_ : known store) (valid : 0 ≤ start)
    (inside : start ≤ text.size) :
    (∀ whole, made.captured.Yields whole → ∃ found, made.rule.Gives text start store (.ok found) ∧
      whole.rule.Gives text start store (.ok (found.map fun one => .yielding (.str (text.slice start one.stop)) one.stop))) ∧
    (∀ count : Nat, ∀ repeating ∈ [many, oneOrMore, (·.times (.int count))], ∀ pieces whole,
      (made.captured >>= repeating >>= (·.map Value.joined)).Yields pieces → (repeating made >>= captured).Yields whole →
        ∃ found, pieces.rule.Gives text start store (.ok found) ∧ whole.rule.Gives text start store (.ok found)) ∧
    (∀ pieces whole,
      (do (← (← made.captured).followedByGrammar (← next.captured)).map (Value.Transform.combined Value.add)).Yields
          pieces → (made.followedByGrammar next >>= captured).Yields whole →
          ∃ found, pieces.rule.Gives text start store (.ok found) ∧ whole.rule.Gives text start store (.ok found)) ∧
    made.captured.Answers (Is .parser fun _ => True) ∧
    (∀ count : Nat, Numeral.isWritable count → ∀ repeating ∈ [many, oneOrMore, (·.times (.int count))],
      (made.captured >>= repeating >>= (·.map Value.joined)).Answers (Is .parser fun _ => True) ∧
        (repeating made >>= captured).Answers (Is .parser fun _ => True)) ∧
    (do (← (← made.captured).followedByGrammar (← next.captured)).map (Value.Transform.combined Value.add)).Answers
        (Is .parser fun _ => True) ∧
      (made.followedByGrammar next >>= captured).Answers (Is .parser fun _ => True) := by
  refine ⟨fun whole => calm.captured_gives from_ valid inside,
    fun count repeating one pieces whole => calm.repeating_gives from_ valid inside count one,
    fun pieces whole => calm.sequence_gives from_ valid inside follows,
    made.captured_answers, fun count writable repeating one => ⟨made.captured_repeating_answers writable one, ?_⟩,
    made.captured_sequence_answers next, ?_⟩
  · exact (made.repeating_answers writable repeating one).bind fun whole _ => whole.captured_answers
  · exact (made.sequence_answers next).bind fun whole _ => whole.captured_answers

/-- Two words and what is left, each captured alone and all in one. -/
theorem captured_tiles_words :
    let text := Text.ofString "ababc"
    let word : Grammar := ⟨.pattern, 0, .object 0 false (.leaf (Leaf.literal "ab"))⟩
    let last : Grammar := ⟨.pattern, 0, .object 0 false (.leaf (Leaf.literal "c"))⟩
    word.Calm text (fun _ => True) ∧ last.Calm text (fun _ => True) ∧
      (∃ pieces whole, (word.captured >>= many >>= (·.map Value.joined)).Yields pieces ∧
        (many word >>= captured).Yields whole ∧
        ∃ found, pieces.rule.Gives text 0 .initial (.ok found) ∧ whole.rule.Gives text 0 .initial (.ok found)) ∧
      ∃ pieces whole,
        (do (← (← word.captured).followedByGrammar (← last.captured)).map (Value.Transform.combined Value.add)).Yields
          pieces ∧ (word.followedByGrammar last >>= captured).Yields whole ∧
            ∃ found, pieces.rule.Gives text 2 .initial (.ok found) ∧ whole.rule.Gives text 2 .initial (.ok found) := by
  intro text word last
  have calm := calm_literal "ab" text
  have follows := calm_literal "c" text
  obtain ⟨-, repeated, -⟩ :=
    captured_tiles calm follows (trivial : (fun _ => True) Store.initial) (Int.le_refl 0) (by decide)
  obtain ⟨-, -, sequence, -⟩ :=
    captured_tiles calm follows (trivial : (fun _ => True) Store.initial) (by decide : (0 : Int) ≤ 2) (by decide)
  refine ⟨calm, follows, ⟨_, _, ⟨.initial, _, rfl⟩, ⟨.initial, _, rfl⟩, ?_⟩,
    _, _, ⟨.initial, _, rfl⟩, ⟨.initial, _, rfl⟩, ?_⟩
  · exact repeated 0 many (by simp) _ _ ⟨.initial, _, rfl⟩ ⟨.initial, _, rfl⟩
  · exact sequence _ _ ⟨.initial, _, rfl⟩ ⟨.initial, _, rfl⟩

end Grammar

end TextGrammar
