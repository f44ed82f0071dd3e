import Mathlib
import TextGrammar.Proofs.Integers
import TextGrammar.Proofs.Recursions
import TextGrammar.Proofs.WholeTexts
import TextGrammar.Sample.Total

/-! Sums of integers. The grammar that is defined in terms of itself and the loop read the same integers,
and stop in front of the same plus sign where no integer follows it. Each of them is compared with what
is read of integers, one plus sign after the other. -/

namespace TextGrammar.Sums
open TextGrammar.Action Sample Json

/-- The integers that are read behind the first one, with a plus sign in front of each. -/
inductive TailRead : List Char → Except Fault (List Int × List Char) → Prop
  | ended {after : List Char} : ¬['+'] <+: after → TailRead after (.ok ([], after))
  | dangling {next : List Char} : IntegerRead next (.ok none) → TailRead ('+' :: next) (.ok ([], '+' :: next))
  | failed {next : List Char} {fault : Fault} : IntegerRead next (.error fault) →
      TailRead ('+' :: next) (.error fault)
  | further {next after : List Char} {number : Int} {outcome : Except Fault (List Int × List Char)} :
      IntegerRead next (.ok (some (some (.int number), after))) → TailRead after outcome →
        TailRead ('+' :: next) (outcome.map fun (more, last) => (number :: more, last))

/-- The integers that are read where the first one may stand. -/
inductive TermsRead : List Char → Except Fault (Option (List Int × List Char)) → Prop
  | nothing {rest : List Char} : IntegerRead rest (.ok none) → TermsRead rest (.ok none)
  | failed {rest : List Char} {fault : Fault} : IntegerRead rest (.error fault) →
      TermsRead rest (.error fault)
  | found {rest after : List Char} {number : Int} {outcome : Except Fault (List Int × List Char)} :
      IntegerRead rest (.ok (some (some (.int number), after))) → TailRead after outcome →
        TermsRead rest (outcome.map fun (more, last) => some (number :: more, last))

/-- Integers that were read, as their sum. -/
def summed (terms : Except Fault (Option (List Int × List Char))) : Reading :=
  terms.map (Option.map fun (numbers, after) => (some (.int numbers.sum), after))

/-- A sum of integers that is read. -/
def SumRead (rest : List Char) (reading : Reading) : Prop :=
  ∃ terms, TermsRead rest terms ∧ reading = summed terms

variable {rest : List Char}

theorem TailRead.unique {outcome other : Except Fault (List Int × List Char)} (one : TailRead rest outcome)
    (two : TailRead rest other) : outcome = other := by
  induction one generalizing other with
  | ended absent =>
    cases two with
    | ended => rfl
    | dangling | failed | further => exact absurd (List.prefix_append ['+'] _) absent
  | dangling none =>
    cases two with
    | ended absent => exact absurd (List.prefix_append ['+'] _) absent
    | dangling => rfl
    | failed read | further read => cases none.unique read
  | failed halted =>
    cases two with
    | ended absent => exact absurd (List.prefix_append ['+'] _) absent
    | dangling read | further read => cases halted.unique read
    | failed read =>
      cases halted.unique read
      rfl
  | further read _ ih =>
    cases two with
    | ended absent => exact absurd (List.prefix_append ['+'] _) absent
    | dangling other | failed other => cases read.unique other
    | further other later =>
      cases read.unique other
      rw [ih later]

theorem TermsRead.unique {terms other : Except Fault (Option (List Int × List Char))}
    (one : TermsRead rest terms) (two : TermsRead rest other) : terms = other := by
  cases one with
  | nothing none =>
    cases two with
    | nothing => rfl
    | failed read | found read => cases none.unique read
  | failed halted =>
    cases two with
    | nothing read | found read => cases halted.unique read
    | failed read =>
      cases halted.unique read
      rfl
  | found read later =>
    cases two with
    | nothing other | failed other => cases read.unique other
    | found other further =>
      cases read.unique other
      rw [later.unique further]

theorem SumRead.unique {reading other : Reading} (one : SumRead rest reading) (two : SumRead rest other) :
    reading = other := by
  obtain ⟨terms, read, rfl⟩ := one
  obtain ⟨others, again, rfl⟩ := two
  rw [read.unique again]

section Recursive
variable {cell : CellId} {rule : Rule}

/-- What is read of an integer with a plus sign behind it. -/
inductive PlusRead : List Char → Reading → Prop
  | nothing {rest : List Char} : IntegerRead rest (.ok none) → PlusRead rest (.ok none)
  | failed {rest : List Char} {fault : Fault} : IntegerRead rest (.error fault) →
      PlusRead rest (.error fault)
  | last {rest after : List Char} {number : Int} : IntegerRead rest (.ok (some (some (.int number), after))) →
      ¬['+'] <+: after → PlusRead rest (.ok none)
  | found {rest next : List Char} {number : Int} :
      IntegerRead rest (.ok (some (some (.int number), '+' :: next))) →
        PlusRead rest (.ok (some (some (.int number), next)))

theorem plus_makes {scope : Scope} : (integer + "+").Makes scope .parser (Rule.Tells PlusRead) := by
  apply integer_makes.sum_word
  intro rule tells inner around tag traced setting rest inside
  obtain ⟨reading, reads, read⟩ := tells setting rest inside
  rcases reading with fault | _ | ⟨value, after⟩
  · exact ⟨_, (reads.sequence_fault _ _).object tag traced, .failed read⟩
  · exact ⟨_, (reads.sequence_none _ _).object tag traced, .nothing read⟩
  · obtain ⟨token, number, -, rfl, -, -, rfl⟩ := read.found
    have further : after <:+ setting.text.toList := .trans (List.suffix_append _ _) inside
    by_cases plus : ['+'] <+: after
    · obtain ⟨next, rfl⟩ := plus
      have sign : setting.Reads (.object inner around (.leaf (Leaf.literal "+"))) ('+' :: next)
          (.ok (some (none, next))) := .literal inner around further
      exact ⟨_, (reads.sequence (fun _ => rfl) sign fun _ _ => .pattern _).object tag traced, .found read⟩
    · have absent : setting.Reads (.object inner around (.leaf (Leaf.literal "+"))) after (.ok none) :=
        .no_literal inner around plus further
      exact ⟨_, (reads.sequence (fun _ => rfl) absent fun _ _ => .pattern _).object tag traced, .last read plus⟩

/-- What follows a first integer where terms are read behind a plus sign. -/
def behindPlus (next : List Char) :
    Except Fault (Option (List Int × List Char)) → Except Fault (List Int × List Char)
  | .error fault => .error fault
  | .ok none => .ok ([], '+' :: next)
  | .ok (some found) => .ok found

theorem TermsRead.tail {next : List Char} {terms : Except Fault (Option (List Int × List Char))}
    (read : TermsRead next terms) : TailRead ('+' :: next) (behindPlus next terms) := by
  cases read with
  | nothing none => exact .dangling none
  | failed halted => exact .failed halted
  | @found _ _ outcome read later =>
    have further := TailRead.further read later
    cases outcome with
    | error fault => exact further
    | ok found => exact further

/-- A single integer, as a sum. -/
theorem SumRead.single {after : List Char} {number : Int}
    (read : IntegerRead rest (.ok (some (some (.int number), after)))) (tail : TailRead after (.ok ([], after))) :
    SumRead rest (.ok (some (some (.int number), after))) := by
  refine ⟨_, .found read tail, ?_⟩
  simp [summed, Except.map]

/-- What is read where a sum goes on behind its first integer: if that is no match, the sum is the
integer. -/
def FurtherRead (rest : List Char) (reading : Reading) : Prop :=
  (reading = .ok none ∧ ∀ other, IntegerRead rest other → SumRead rest other) ∨
    (reading ≠ .ok none ∧ SumRead rest reading)

/-- What a placeholder reads where less is left than somewhere. -/
def Knows (setting : Setting) (cell : CellId) (rest : List Char) : Prop :=
  ∀ next, next.length < rest.length → next <:+ setting.text.toList →
    ∃ terms, setting.Reads (.placeholder cell) next (summed terms) ∧ TermsRead next terms

theorem further_reads {setting : Setting} {plus : Rule} (tells : plus.Tells PlusRead)
    (inside : rest <:+ setting.text.toList) (knows : Knows setting cell rest) (own pair outer : Tag)
    (one two three : Bool) :
    ∃ reading, setting.Reads (.object outer three (.map (Value.Transform.combined Value.add)
      (.object pair two (.sequence .parser .parser plus (.object own one (.placeholder cell)))))) rest
        reading ∧ FurtherRead rest reading := by
  obtain ⟨reading, reads, read⟩ := tells setting rest inside
  cases read with
  | nothing none =>
    refine ⟨_, (((reads.sequence_none _ _).object pair two).map_none _).object outer three, .inl ⟨rfl, ?_⟩⟩
    intro other again
    cases none.unique again
    exact ⟨_, .nothing none, rfl⟩
  | failed halted =>
    refine ⟨_, (((reads.sequence_fault _ _).object pair two).map_fault _).object outer three, .inr ⟨nofun, ?_⟩⟩
    exact ⟨_, .failed halted, rfl⟩
  | last read absent =>
    refine ⟨_, (((reads.sequence_none _ _).object pair two).map_none _).object outer three, .inl ⟨rfl, ?_⟩⟩
    intro other again
    cases read.unique again
    exact .single read (.ended absent)
  | @found next number read =>
    obtain ⟨token, -, integer, rfl, -⟩ := read.found
    have shorter : next.length < (token ++ '+' :: next).length := by
      rw [List.length_append, List.length_cons]
      omega
    have further : '+' :: next <:+ setting.text.toList := .trans (List.suffix_append _ _) inside
    obtain ⟨terms, continues, later⟩ := knows next shorter (.trans (List.suffix_cons _ _) further)
    have sum := TermsRead.found read later.tail
    have suits (found) (is : summed terms = .ok (some found)) : Kind.parser.Suits found.1 := by
      rcases terms with fault | _ | found
      · cases is
      · cases is
      · cases is
        exact fun _ => rfl
    have suited : Kind.parser.Suits (some (.int number)) := fun _ => rfl
    have both := (reads.sequence suited (continues.object own one) suits).object pair two
    rcases terms with fault | _ | ⟨numbers, after⟩
    · exact ⟨_, (both.map_fault _).object outer three, .inr ⟨nofun, _, sum, rfl⟩⟩
    · refine ⟨_, (both.map_none _).object outer three, .inl ⟨rfl, ?_⟩⟩
      intro other again
      cases read.unique again
      exact .single read later.tail
    · exact ⟨_, both.map.object outer three, .inr ⟨nofun, _, sum, rfl⟩⟩

/-- What the grammar is defined as, in its own terms. -/
def definition : Expression :=
  .shifted (integer + "+" + Expression.variable "total") (Value.Transform.combined Value.add) ||| integer

/-- The definition makes a rule that reads sums, given that its placeholder does so further on. -/
theorem definition_comes {placeholder : Placeholder} (kind : placeholder.kind = .parser)
    (standsIn : placeholder.captured = false) (verbose : Bool) (names : Array String) :
    ∃ rule, definition.Comes [("total", placeholder)] verbose names .parser rule ∧
      ∀ (setting : Setting) (rest : List Char), rest <:+ setting.text.toList →
        Knows setting placeholder.cell rest →
        ∃ terms, setting.Reads rule rest (summed terms) ∧ TermsRead rest terms := by
  have own : (Expression.variable "total").Makes [("total", placeholder)] .parser
      (· = .object placeholder.tag placeholder.traced (.placeholder placeholder.cell)) := by
    rw [← kind]
    exact .placeholder rfl standsIn rfl
  have pair : (integer + "+" + Expression.variable "total").Makes [("total", placeholder)] .parser
      fun rule => ∃ plus tag traced, plus.Tells PlusRead ∧
        rule = .object tag traced (.sequence .parser .parser plus
          (.object placeholder.tag placeholder.traced (.placeholder placeholder.cell))) :=
    plus_makes.sum own fun plus same tag traced => ⟨_, tag, traced, plus, by rw [same]⟩
  have further : (Expression.shifted (integer + "+" + Expression.variable "total")
      (Value.Transform.combined Value.add)).Makes [("total", placeholder)] .parser
        fun rule => ∀ setting rest, rest <:+ setting.text.toList → Knows setting placeholder.cell rest →
          ∃ reading, setting.Reads rule rest reading ∧ FurtherRead rest reading := by
    apply pair.shifted
    rintro _ ⟨plus, tag, traced, tells, rfl⟩ around three setting rest inside knows
    exact further_reads tells inside knows _ _ _ _ _ _
  have whole : definition.Makes [("total", placeholder)] .parser
        fun rule => ∀ setting rest, rest <:+ setting.text.toList → Knows setting placeholder.cell rest →
          ∃ terms, setting.Reads rule rest (summed terms) ∧ TermsRead rest terms := by
    apply further.union integer_makes
    intro rule later reads tells tag traced setting rest inside knows
    obtain ⟨reading, first, read⟩ := reads setting rest inside knows
    obtain ⟨rfl, falls⟩ | ⟨ended, terms, read, rfl⟩ := read
    · obtain ⟨other, second, integer⟩ := tells setting rest inside
      obtain ⟨terms, read, rfl⟩ := falls other integer
      exact ⟨terms, (first.orElse_next second).object tag traced, read⟩
    · refine ⟨terms, ?_, read⟩
      rcases terms with fault | _ | found
      · exact first.orElse_fault.object tag traced
      · exact absurd rfl ended
      · exact first.orElse_found.object tag traced
  exact whole.comes verbose names

/-- During an invocation the definition reads sums of any length. -/
theorem definition_below {text : Text}
    (continues : ∀ (setting : Setting) (rest : List Char), rest <:+ setting.text.toList →
      Knows setting cell rest → ∃ terms, setting.Reads rule rest (summed terms) ∧ TermsRead rest terms)
    (bound : Nat) : ∀ rest : List Char, rest.length < bound → rest <:+ text.toList →
      ∃ terms, (⟨text, .within cell rule⟩ : Setting).Reads rule rest (summed terms) ∧ TermsRead rest terms := by
  induction bound with
  | zero => exact fun rest short => absurd short (Nat.not_lt_zero _)
  | succ bound ih =>
    intro rest short inside
    refine continues ⟨text, .within cell rule⟩ rest inside fun next shorter further => ?_
    obtain ⟨terms, reads, read⟩ := ih next (by omega) further
    exact ⟨terms, reads.placeholder, read⟩

theorem summed_isSome {terms : Except Fault (Option (List Int × List Char))} {found : Option Value × List Char}
    (is : summed terms = .ok (some found)) : found.1.isSome := by
  rcases terms with fault | _ | found
  · cases is
  · cases is
  · cases is
    rfl

/-- The grammar that is defined in terms of itself reads sums. -/
theorem total_parses (text : Text) (store : Store) : total.Parses text store SumRead := by
  obtain ⟨placeholder, made, next, evaluated, kind, cell, standsIn, is, fresh⟩ :=
    Expression.exec_fix .parser "total" definition [] store
  obtain ⟨rule, comes, continues⟩ := definition_comes kind standsIn next.verbose next.names
  rw [cell] at continues
  obtain ⟨own, traced, same⟩ := is.rule
  refine ⟨made, next, .prepared store.cells.size .parser [("total", placeholder)] definition next.verbose
    next.names rule, evaluated, is.kind, fun running => ?_, fun rest inside => ?_⟩
  · exact .inr ⟨⟨fresh.inside, fresh.kind, fresh.undefined, fresh.idle, fresh.builder, fresh.unlimited⟩,
      rfl, rfl⟩
  · obtain ⟨terms, reads, read⟩ := definition_below continues (rest.length + 1) rest (Nat.lt_succ_self _) inside
    rw [same]
    exact ⟨_, (Setting.Reads.recursive comes reads).object own traced, fun _ => summed_isSome, terms, read, rfl⟩

end Recursive

section Loop
variable {setting : Setting} {item : Rule}

/-- Integers that a loop has collected. -/
inductive Collects : Except Fault (List Int × List Char) →
    Except Fault (List (Option Value × List Char) × List Char) → Prop
  | failed {fault : Fault} : Collects (.error fault) (.error fault)
  | found {numbers : List Int} {found : List (Option Value × List Char)} {last : List Char} :
      found.map (·.1) = numbers.map (fun number => some (.int number)) →
        Collects (.ok (numbers, last)) (.ok (found, last))

theorem Collects.further {outcome : Except Fault (List Int × List Char)} {number : Int} {after : List Char}
    {repeated : Except Fault (List (Option Value × List Char) × List Char)} (collects : Collects outcome repeated) :
    Collects (outcome.map fun (more, last) => (number :: more, last))
      (repeated.map fun (more, last) => ((some (.int number), after) :: more, last)) := by
  cases collects with
  | failed => exact .failed
  | found same => exact .found (by rw [List.map_cons, List.map_cons, same])

/-- A loop reads integers, each with a plus sign in front of it. -/
theorem loop_repeats (tells : item.Tells IntegerRead) (sign own : Tag) (one two : Bool) (bound : Nat) :
    ∀ rest : List Char, rest.length < bound → rest <:+ setting.text.toList → ∃ repeated outcome,
      setting.Repeats .parser (.object own two (.sequence .pattern .parser
        (.object sign one (.leaf (Leaf.literal "+"))) item)) rest repeated ∧
        TailRead rest outcome ∧ Collects outcome repeated := by
  induction bound with
  | zero => exact fun rest short => absurd short (Nat.not_lt_zero _)
  | succ bound ih =>
    intro rest short inside
    by_cases plus : ['+'] <+: rest
    · obtain ⟨next, rfl⟩ := plus
      have further : next <:+ setting.text.toList := .trans (List.suffix_cons _ _) inside
      obtain ⟨reading, reads, read⟩ := tells setting next further
      have plus : setting.Reads (.object sign one (.leaf (Leaf.literal "+"))) ('+' :: next)
          (.ok (some (none, next))) := .literal sign one inside
      have bare : Kind.pattern.Suits none := .pattern _
      rcases reading with fault | _ | ⟨value, after⟩
      · exact ⟨_, _, .halted ((plus.sequence bare reads nofun).object own two), .failed read, .failed⟩
      · exact ⟨_, _, .stopped ((plus.sequence bare reads nofun).object own two), .dangling read, .found rfl⟩
      · obtain ⟨token, number, integer, rfl, -, -, rfl⟩ := read.found
        have suits : Kind.parser.Suits (some (.int number)) := fun _ => rfl
        have both := (plus.sequence bare reads fun found is => by cases is; exact suits).object own two
        have shorter : after.length < ('+' :: (token ++ after)).length := by
          rw [List.length_cons, List.length_append]
          omega
        by_cases ended : after = []
        · subst ended
          exact ⟨_, _, .last both rfl suits, .further read (.ended nofun), .found rfl⟩
        · have less : after.length < bound := by
            rw [List.length_append, List.length_singleton, List.length_append] at short
            omega
          obtain ⟨repeated, outcome, repeats, tail, collects⟩ :=
            ih after less (.trans (List.suffix_append _ _) further)
          exact ⟨_, _, .next both suits shorter ended repeats, .further read tail, collects.further⟩
    · have absent : setting.Reads (.object sign one (.leaf (Leaf.literal "+"))) rest (.ok none) :=
        .no_literal sign one plus inside
      exact ⟨_, _, .stopped ((absent.sequence_none _ _).object own two), .ended plus, .found rfl⟩

/-- Integers that were read, as a list. -/
def listed (terms : Except Fault (Option (List Int × List Char))) : Reading :=
  terms.map (Option.map fun (numbers, after) => (some (.list (numbers.map .int)), after))

theorem loop_makes : (Expression.separatedBy integer "+").Makes [] .parser
    (Rule.Tells fun rest reading => ∃ terms, TermsRead rest terms ∧ reading = listed terms) := by
  apply integer_makes.separatedBy_word
  intro rule tells sign one inner two tag traced setting rest inside
  obtain ⟨reading, reads, read⟩ := tells setting rest inside
  rcases reading with fault | _ | ⟨value, after⟩
  · exact ⟨_, reads.separated_fault.object tag traced, _, .failed read, rfl⟩
  · exact ⟨_, reads.separated_none.object tag traced, _, .nothing read, rfl⟩
  · obtain ⟨token, number, integer, rfl, -, -, rfl⟩ := read.found
    obtain ⟨repeated, outcome, repeats, tail, collects⟩ := loop_repeats tells sign inner one two
      (after.length + 1) after (Nat.lt_succ_self _) (.trans (List.suffix_append _ _) inside)
    refine ⟨_, (reads.separated (fun _ => rfl) repeats).object tag traced, _, .found read tail, ?_⟩
    cases collects with
    | failed => rfl
    | found same =>
      simp [Except.map, listed, same, Kind.gathered]

theorem total_ints (numbers : List Int) : Value.total (.list (numbers.map .int)) = .ok (.int numbers.sum) := by
  have added (start : Int) (numbers : List Int) :
      (numbers.map Value.int).foldlM Value.add (.int start) = .ok (.int (start + numbers.sum)) := by
    induction numbers generalizing start with
    | nil => simp; rfl
    | cons number numbers ih =>
      have first : Value.add (.int start) (.int number) = .ok (.int (start + number)) := rfl
      rw [List.map_cons, List.foldlM_cons, first, List.sum_cons, ← Int.add_assoc]
      exact ih (start + number)
  have whole := added 0 numbers
  rw [Int.zero_add] at whole
  exact whole

theorem loop_parses (text : Text) (store : Store) :
    (Expression.map (.separatedBy integer "+") Value.total).Parses text store SumRead := by
  have makes : (Expression.map (.separatedBy integer "+") Value.total).Makes [] .parser
      (Rule.Tells SumRead) := by
    apply loop_makes.mapped
    intro rule tells tag traced setting rest inside
    obtain ⟨_, reads, terms, read, rfl⟩ := tells setting rest inside
    rcases terms with fault | _ | ⟨numbers, after⟩
    · exact ⟨_, (reads.map_fault _).object tag traced, _, read, rfl⟩
    · exact ⟨_, (reads.map_none _).object tag traced, _, read, rfl⟩
    · have sum : setting.Reads (.map Value.total _) rest ((Value.total (.list (numbers.map .int))).map _) :=
        reads.map
      rw [total_ints] at sum
      exact ⟨_, sum.object tag traced, _, read, rfl⟩
  refine makes.parses (fun tells rest inside => ?_) store
  obtain ⟨_, reads, terms, read, rfl⟩ := tells ⟨text, .any⟩ rest inside
  exact ⟨_, reads, fun _ => summed_isSome, terms, read, rfl⟩

end Loop

/-- Integers as they are written. -/
structure Terms where
  numerals : List (List Char)
  present : numerals ≠ []
  integers : ∀ numeral ∈ numerals, Integer numeral

namespace Terms

/-- The text of a sum. -/
def text (terms : Terms) : List Char := ['+'].intercalate terms.numerals

def numberOf (numeral : List Char) : Except Fault Int := Value.ofNumeral 10 (String.ofList numeral)

def sum (terms : Terms) : Except Fault Int := List.sum <$> terms.numerals.mapM numberOf

end Terms

section Texts
variable {numerals : List (List Char)} {after : List Char}

theorem IntegerRead.whole {numeral : List Char} (integer : Integer numeral) (ends : digitsForm.ends after) :
    IntegerRead (numeral ++ after) ((Terms.numberOf numeral).map fun number =>
      some (some (.int number), after)) :=
  .token integer ends

/-- What stands behind a first integer is read up to its end, or to the first integer that cannot be
read. -/
theorem tail_complete (integers : ∀ numeral ∈ numerals, Integer numeral) :
    TailRead (numerals.flatMap ('+' :: ·)) ((numerals.mapM Terms.numberOf).map fun numbers => (numbers, [])) ∧
      digitsForm.ends (numerals.flatMap ('+' :: ·)) := by
  induction numerals with
  | nil => exact ⟨.ended nofun, nofun⟩
  | cons numeral numerals ih =>
    obtain ⟨integer, integers⟩ := List.forall_mem_cons.mp integers
    obtain ⟨tail, ends⟩ := ih integers
    have read := IntegerRead.whole integer ends
    refine ⟨?_, ?_⟩
    · rw [List.mapM_cons]
      cases given : Terms.numberOf numeral with
      | error fault =>
        rw [given] at read
        exact .failed read
      | ok number =>
        rw [given] at read
        have further := TailRead.further read tail
        cases more : numerals.mapM Terms.numberOf with
        | error fault =>
          rw [more] at further
          exact further
        | ok numbers =>
          rw [more] at further
          exact further
    · rintro _ ⟨⟩
      exact by decide

/-- The text of a sum is read as a whole. -/
theorem Terms.read (terms : Terms) :
    TermsRead terms.text ((terms.numerals.mapM numberOf).map fun numbers => some (numbers, [])) := by
  obtain ⟨_ | ⟨numeral, numerals⟩, present, integers⟩ := terms
  · exact absurd rfl present
  obtain ⟨integer, integers⟩ := List.forall_mem_cons.mp integers
  obtain ⟨tail, ends⟩ := tail_complete integers
  have read := IntegerRead.whole integer ends
  rw [text, Form.intercalate_cons, List.mapM_cons]
  cases given : numberOf numeral with
  | error fault =>
    rw [given] at read
    exact .failed read
  | ok number =>
    rw [given] at read
    have found := TermsRead.found read tail
    cases more : numerals.mapM numberOf with
    | error fault =>
      rw [more] at found
      exact found
    | ok numbers =>
      rw [more] at found
      exact found

theorem TailRead.sound {outcome : Except Fault (List Int × List Char)} (read : TailRead rest outcome) :
    (∀ {numbers last}, outcome = .ok (numbers, last) → ∃ numerals : List (List Char),
      (∀ numeral ∈ numerals, Integer numeral) ∧ rest = numerals.flatMap ('+' :: ·) ++ last) ∧
    ∀ {fault}, outcome = .error fault → ∃ numeral, numeral <:+: rest ∧ Integer numeral ∧
      Terms.numberOf numeral = .error fault := by
  induction read with
  | ended | dangling =>
    refine ⟨fun is => ?_, nofun⟩
    cases is
    exact ⟨[], List.forall_mem_nil _, rfl⟩
  | failed halted =>
    refine ⟨nofun, fun is => ?_⟩
    cases is
    obtain ⟨token, part, integer, refused⟩ := halted.failed
    exact ⟨token, part.isInfix.trans (List.suffix_cons _ _).isInfix, integer, refused⟩
  | @further _ last _ outcome read _ ih =>
    obtain ⟨token, number, integer, rfl, -, -, same⟩ := read.found
    cases same
    rcases outcome with fault | ⟨more, last⟩
    · refine ⟨nofun, fun is => ?_⟩
      cases is
      obtain ⟨numeral, part, integer, refused⟩ := ih.2 rfl
      have behind : last <:+ '+' :: (token ++ last) := .trans (List.suffix_append _ _) (List.suffix_cons _ _)
      exact ⟨numeral, part.trans behind.isInfix, integer, refused⟩
    · refine ⟨fun is => ?_, nofun⟩
      cases is
      obtain ⟨numerals, integers, rfl⟩ := ih.1 rfl
      exact ⟨token :: numerals, List.forall_mem_cons.mpr ⟨integer, integers⟩, by simp⟩

theorem TermsRead.sound {terms : Except Fault (Option (List Int × List Char))} (read : TermsRead rest terms) :
    (∀ {numbers last}, terms = .ok (some (numbers, last)) → ∃ terms : Terms, rest = terms.text ++ last) ∧
    ∀ {fault}, terms = .error fault → ∃ numeral, numeral <:+: rest ∧ Integer numeral ∧
      Terms.numberOf numeral = .error fault := by
  cases read with
  | nothing => exact ⟨nofun, nofun⟩
  | failed halted =>
    refine ⟨nofun, fun is => ?_⟩
    cases is
    obtain ⟨token, part, integer, refused⟩ := halted.failed
    exact ⟨token, part.isInfix, integer, refused⟩
  | @found _ _ outcome read tail =>
    obtain ⟨token, number, integer, rfl, -, -, same⟩ := read.found
    cases same
    rcases outcome with fault | ⟨more, last⟩
    · refine ⟨nofun, fun is => ?_⟩
      cases is
      obtain ⟨numeral, part, integer, refused⟩ := tail.sound.2 rfl
      exact ⟨numeral, part.trans (List.suffix_append _ _).isInfix, integer, refused⟩
    · refine ⟨fun is => ?_, nofun⟩
      cases is
      obtain ⟨numerals, integers, rfl⟩ := tail.sound.1 rfl
      refine ⟨⟨token :: numerals, List.cons_ne_nil _ _, List.forall_mem_cons.mpr ⟨integer, integers⟩⟩, ?_⟩
      rw [Terms.text, Form.intercalate_cons, List.append_assoc]

end Texts

/-- The text of a sum is worth the sum, unless an integer in it cannot be read. Any other text is worth
null, unless an integer in front of what does not belong there has too many digits to be read. -/
theorem whole_sum {text : Text} {reading : Reading} (read : SumRead text.toList reading) :
    (∀ terms : Terms, terms.text = text.toList → reading.whole = terms.sum.map .int) ∧
    ((∀ terms : Terms, terms.text ≠ text.toList) → reading.whole = .ok .null ∨
      ∃ digits, digits <:+: text.toList ∧ Digits digits ∧ Numeral.digitLimit < digits.length ∧
        reading.whole = .error (.numeralTooLong digits.length)) := by
  obtain ⟨terms, read, rfl⟩ := read
  constructor
  · intro written same
    rw [← same] at read
    rw [read.unique written.read, Terms.sum]
    cases written.numerals.mapM Terms.numberOf <;> rfl
  · intro foreign
    rcases terms with fault | _ | ⟨numbers, _ | ⟨first, tail⟩⟩
    · obtain ⟨numeral, part, integer, refused⟩ := read.sound.2 rfl
      obtain ⟨digits, inside, decimal, many, rfl⟩ := Unreadable.digits ⟨numeral, part, integer, refused⟩
      exact .inr ⟨digits, inside, decimal, many, rfl⟩
    · exact .inl rfl
    · obtain ⟨written, same⟩ := read.sound.1 rfl
      rw [List.append_nil] at same
      exact absurd same.symm (foreign written)
    · exact .inl rfl

/-- The grammar of sums that is defined in terms of itself and the loop over integers come to the same at
every offset, faults included. A whole text is worth its sum if it is one, as far as its integers can be
read, and otherwise null, unless it has too many digits in a row. -/
theorem matching_total (history : List Command) (text : Text) :
    (∀ start : Int, 0 ≤ start → start ≤ text.size →
      ∃ (outcome : Except Fault (Option Match)) (enough : Nat), ∀ fuel, enough ≤ fuel →
        ((Session.matching fuel total text start).exec (Store.afterAll history)).1 =
          outcome.mapError .fault ∧
        ((Session.matching fuel (.map (.separatedBy integer "+") Value.total) text start).exec
          (Store.afterAll history)).1 = outcome.mapError .fault) ∧
    ∃ (outcome : Except Fault Value) (enough : Nat),
      (∀ fuel, enough ≤ fuel → ((Session.parsingOrNull fuel total text).exec (Store.afterAll history)).1 =
        outcome.mapError .fault) ∧
      (∀ terms : Terms, terms.text = text.toList → outcome = terms.sum.map .int) ∧
      ((∀ terms : Terms, terms.text ≠ text.toList) → outcome = .ok .null ∨
        ∃ digits, digits <:+: text.toList ∧ Digits digits ∧ Numeral.digitLimit < digits.length ∧
          outcome = .error (.numeralTooLong digits.length)) := by
  constructor
  · intro start valid inside
    obtain ⟨rest, within, rfl⟩ := Text.exists_offsetOf valid inside
    obtain ⟨reading, read, enough, recursive⟩ := (total_parses text (Store.afterAll history)).matching within
    obtain ⟨other, again, more, loop⟩ := (loop_parses text (Store.afterAll history)).matching within
    cases read.unique again
    refine ⟨_, max enough more, fun fuel least => ⟨recursive fuel ?_, loop fuel ?_⟩⟩ <;> omega
  · obtain ⟨reading, read, enough, parsed⟩ := (total_parses text (Store.afterAll history)).parsingOrNull
    exact ⟨reading.whole, enough, parsed, whole_sum read⟩

/-- Digits that are too many to be read are no sum that can be read. -/
theorem parses_overlong {digits : List Char} (decimal : Digits digits) (many : Numeral.digitLimit < digits.length)
    (store : Store) : ∃ terms : Terms, terms.text = digits ∧ ∃ enough, ∀ fuel, enough ≤ fuel →
      ((Session.parsingOrNull fuel total digits.toArray).exec store).1 =
        .error (.fault (.numeralTooLong digits.length)) := by
  have integer : Integer digits := .of (.inl rfl) decimal
  let terms : Terms := ⟨[digits], List.cons_ne_nil _ _, List.forall_mem_singleton.mpr integer⟩
  have text : terms.text = digits := (Form.intercalate_cons '+' digits []).trans (List.append_nil _)
  have refused : terms.sum = .error (.numeralTooLong digits.length) := by
    obtain ⟨few, -⟩ | ⟨-, refused⟩ := decimal.ofNumeral (.inl rfl : Sign [])
    · omega
    · rw [Terms.sum, List.mapM_cons, Terms.numberOf]
      rw [List.nil_append] at refused
      rw [refused]
      rfl
  refine ⟨terms, text, ?_⟩
  obtain ⟨reading, read, enough, parsed⟩ := (total_parses digits.toArray store).parsingOrNull
  refine ⟨enough, fun fuel least => ?_⟩
  rw [parsed fuel least, (whole_sum read).1 terms text, refused]
  rfl

/-- One digit too many. -/
theorem parsing_overlong : ∃ terms : Terms, terms.text = List.replicate 4301 '1' ∧ ∃ enough, ∀ fuel, enough ≤ fuel →
    ((Session.parsingOrNull fuel total (List.replicate 4301 '1').toArray).exec (Store.afterAll [])).1 =
      .error (.fault (.numeralTooLong 4301)) := by
  have decimal (count : Nat) : Digits (List.replicate (count + 1) '1') := by
    refine ⟨List.cons_ne_nil _ _, fun character member => ?_⟩
    rw [List.eq_of_mem_replicate member]
    decide
  have overlong := parses_overlong (decimal 4300) (by rw [List.length_replicate]; decide) (Store.afterAll [])
  rw [List.length_replicate] at overlong
  exact overlong

end TextGrammar.Sums
