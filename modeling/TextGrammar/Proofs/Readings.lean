import TextGrammar.Proofs.Settling
import TextGrammar.Proofs.TextSuffix

/-! What rules read from the rest of a text. An offset is told by the characters that are left
there, and what a rule reads is told by its parts, one rule after the other. Nothing is said here of
bindings and of recursive grammars. -/

namespace TextGrammar
open TextGrammar.Action

/-- What is read where some characters are left: a value, if there is one, and what is left then. -/
abbrev Reading := Except Fault (Option (Option Value × List Char))

namespace Kind

/-- A parser yields a value. -/
def Suits (kind : Kind) (value : Option Value) : Prop := kind = .parser → value.isSome

/-- The kind of a sequence. -/
def joined (first second : Kind) : Kind :=
  match first with
  | .pattern => second
  | .parser => .parser

/-- The value of a sequence. -/
def paired (first second : Kind) (value next : Option Value) : Option Value :=
  match first, second with
  | .pattern, _ => next
  | .parser, .pattern => value
  | .parser, .parser => some (.tuple [value.getD .null, next.getD .null])

/-- The value of a repetition. -/
def gathered (kind : Kind) (values : List (Option Value)) : Option Value :=
  match kind with
  | .pattern => none
  | .parser => some (.list (values.filterMap id))

/-- The value of what is absent. -/
def nothing : Kind → Option Value
  | .pattern => none
  | .parser => some .null

theorem Suits.pattern (value : Option Value) : Kind.pattern.Suits value := nofun

theorem Suits.paired {first second : Kind} {value next : Option Value} (suits : first.Suits value)
    (suited : second.Suits next) : (first.joined second).Suits (first.paired second value next) := by
  cases first with
  | pattern => exact suited
  | parser =>
    cases second with
    | pattern => exact suits
    | parser => exact fun _ => rfl

end Kind

namespace Text

/-- The offset at which the given characters are left of a text. -/
def offsetOf (text : Text) (rest : List Char) : Int := text.size - rest.length

/-- A reading as a match. -/
def matchOf (text : Text) (found : Option Value × List Char) : Match :=
  ⟨found.1, text.offsetOf found.2⟩

theorem collected_matchOf (text : Text) (kind : Kind) (found : List (Option Value × List Char))
    (stop : Int) :
    Match.collected kind (found.map text.matchOf).toArray stop =
      ⟨kind.gathered (found.map (·.1)), stop⟩ := by
  cases kind with
  | pattern => rfl
  | parser =>
    simp only [Match.collected, Match.yielding, Kind.gathered, List.filterMap_map]
    rfl

theorem offsetOf_nil (text : Text) : text.offsetOf [] = text.size := by
  simp [offsetOf]

theorem offsetOf_eq_size {text : Text} {rest : List Char} :
    text.offsetOf rest = text.size ↔ rest = [] := by
  rw [← List.length_eq_zero_iff, offsetOf]
  omega

theorem offsetOf_inj {text : Text} {rest after : List Char} :
    text.offsetOf after = text.offsetOf rest ↔ after.length = rest.length := by
  simp only [offsetOf]
  omega

theorem rounds_offsetOf (text : Text) (rest : List Char) :
    rest.length < Runner.rounds text (text.offsetOf rest) := by
  simp only [Runner.rounds, offsetOf]
  omega

/-- The offset in front of what is left is the number of characters before it. -/
theorem offsetOf_of_parted {text : Text} {before rest : List Char}
    (parted : text.toList = before ++ rest) : text.offsetOf rest = before.length := by
  rw [offsetOf, ← Array.length_toList, parted, List.length_append]
  omega

theorem place_offsetOf {text : Text} {before rest : List Char}
    (parted : text.toList = before ++ rest) : text.place (text.offsetOf rest) = before.length := by
  have inside : before.length ≤ text.size := by
    rw [← Array.length_toList, parted, List.length_append]
    omega
  rw [offsetOf_of_parted parted, place_of_nonneg (by omega) (by omega), Int.toNat_natCast]

/-- What is cut out of a text between two of its ends. -/
theorem slice_offsetOf {text : Text} {before body after : List Char}
    (parted : text.toList = before ++ (body ++ after)) :
    text.slice (text.offsetOf (body ++ after)) (text.offsetOf after) = String.ofList body := by
  have further : text.toList = (before ++ body) ++ after := by
    rw [parted, List.append_assoc]
  rw [slice, place_offsetOf parted, place_offsetOf further, Array.toList_extract,
    List.extract_eq_take_drop, List.length_append, Nat.add_sub_cancel_left, parted, List.drop_left,
    List.take_left]

end Text

namespace Match

theorem stopAs_of_suits {kind : Kind} {found : Match} (suits : kind.Suits found.value) :
    found.stopAs kind = .ok found.stop := by
  obtain ⟨value, stop⟩ := found
  cases kind with
  | pattern => rfl
  | parser =>
    cases value with
    | none => cases suits rfl
    | some value => rfl

theorem followedBy_of_suits {first second : Kind} {found next : Match}
    (suits : first.Suits found.value) (suited : second.Suits next.value) :
    found.followedBy first second next =
      .ok ⟨first.paired second found.value next.value, next.stop⟩ := by
  obtain ⟨value, stop⟩ := found
  obtain ⟨other, last⟩ := next
  cases first with
  | pattern => rfl
  | parser =>
    cases second with
    | pattern => rfl
    | parser =>
      cases value with
      | none => cases suits rfl
      | some value =>
        cases other with
        | none => cases suited rfl
        | some other => rfl

end Match

/-- Where and when grammars are run: on a text, at a moment of a session. -/
structure Setting where
  text : Text
  moment : Moment

namespace Setting

/-- An outcome as runs have it. -/
def outcomeOf (setting : Setting) (reading : Reading) : Except Halt (Option Match) :=
  (reading.map (Option.map setting.text.matchOf)).mapError .fault

/-- What a rule reads. -/
def Reads (setting : Setting) (rule : Rule) (rest : List Char) (reading : Reading) : Prop :=
  setting.moment.Settles (fun fuel => Rule.run fuel rule setting.text (setting.text.offsetOf rest))
    (setting.outcomeOf reading)

/-- What the repetitions of a rule read. -/
def Repeats (setting : Setting) (kind : Kind) (rule : Rule) (rest : List Char)
    (outcome : Except Fault (List (Option Value × List Char) × List Char)) : Prop :=
  ∀ bound, rest.length < bound → ∀ found : Array Match, setting.moment.Settles
    (fun fuel => Runner.repeatFrom (Rule.run fuel rule setting.text) kind setting.text.size bound
      (setting.text.offsetOf rest) found)
    ((outcome.map fun (more, last) =>
      (found ++ (more.map setting.text.matchOf).toArray, setting.text.offsetOf last)).mapError .fault)

variable {setting : Setting} {rest : List Char}

theorem stopAs {kind : Kind} {value : Option Value} (suits : kind.Suits value) (after : List Char) :
    setting.moment.Settles (fun _ => ofExcept ((setting.text.matchOf (value, after)).stopAs kind))
      (.ok (setting.text.offsetOf after)) := by
  have stops : (setting.text.matchOf (value, after)).stopAs kind = .ok (setting.text.offsetOf after) :=
    Match.stopAs_of_suits suits
  rw [stops]
  exact .pure _

namespace Reads
variable {rule next : Rule} {reading : Reading} {value : Option Value} {after : List Char}
  {fault : Fault}

theorem of_step (settles : setting.moment.Settles (fun fuel => Runner.step (Rule.run fuel) rule
    setting.text (setting.text.offsetOf rest)) (setting.outcomeOf reading)) :
    setting.Reads rule rest reading :=
  Moment.Settles.run settles

theorem step (reads : setting.Reads rule rest reading) :
    setting.moment.Settles (fun fuel => Runner.step (Rule.run fuel) rule setting.text
      (setting.text.offsetOf rest)) (setting.outcomeOf reading) :=
  Moment.Settles.step reads

theorem leaf {recognise : Leaf}
    (found : recognise setting.text (setting.text.offsetOf rest) =
      reading.map (Option.map setting.text.matchOf)) :
    setting.Reads (.leaf recognise) rest reading := by
  refine of_step ?_
  rw [outcomeOf, ← found]
  exact .ofExcept _

theorem object (reads : setting.Reads rule rest reading) (tag : Tag) (traced : Bool) :
    setting.Reads (.object tag traced rule) rest reading := by
  refine of_step ?_
  cases traced with
  | false => exact reads.logged fun _ => .started _
  | true =>
    have tried := Moment.Settles.logged reads fun store =>
      .tried (store.nameOf tag) (setting.text.offsetOf rest)
    exact tried.logged fun _ => .started _

section Sequence
variable (kind other : Kind)

theorem sequence_fault (one : setting.Reads rule rest (.error fault)) :
    setting.Reads (.sequence kind other rule next) rest (.error fault) :=
  of_step (Moment.Settles.onHalt one)

theorem sequence_none (one : setting.Reads rule rest (.ok none)) :
    setting.Reads (.sequence kind other rule next) rest (.ok none) :=
  of_step (Moment.Settles.onNone one)

variable {kind other}

theorem sequence (one : setting.Reads rule rest (.ok (some (value, after))))
    (suits : kind.Suits value) (two : setting.Reads next after reading)
    (suited : ∀ found, reading = .ok (some found) → other.Suits found.1) :
    setting.Reads (.sequence kind other rule next) rest
      (reading.map (Option.map fun found => (kind.paired other value found.1, found.2))) := by
  refine of_step (Moment.Settles.onFound one ?_)
  refine Moment.Settles.bind (stopAs suits after) ?_
  rcases reading with fault | _ | ⟨value', last⟩
  · exact Moment.Settles.onHalt two
  · exact Moment.Settles.onNone two
  · refine Moment.Settles.onFound two ?_
    have joined : (setting.text.matchOf (value, after)).followedBy kind other
        (setting.text.matchOf (value', last)) =
          .ok ⟨kind.paired other value value', setting.text.offsetOf last⟩ :=
      Match.followedBy_of_suits suits (suited _ rfl)
    simp only [joined]
    exact .pure _

end Sequence

section Choice

theorem orElse_fault (one : setting.Reads rule rest (.error fault)) :
    setting.Reads (.orElse rule next) rest (.error fault) :=
  of_step (Moment.Settles.bind_halt one _)

theorem orElse_found {found : Option Value × List Char}
    (one : setting.Reads rule rest (.ok (some found))) :
    setting.Reads (.orElse rule next) rest (.ok (some found)) :=
  of_step (Moment.Settles.bind one (.pure _))

theorem orElse_next (one : setting.Reads rule rest (.ok none))
    (two : setting.Reads next rest reading) : setting.Reads (.orElse rule next) rest reading :=
  of_step (Moment.Settles.bind one two)

variable {rules : List Rule}

theorem either_nil : setting.Reads (.either []) rest (.ok none) :=
  of_step (.pure none)

theorem either_fault (one : setting.Reads rule rest (.error fault)) :
    setting.Reads (.either (rule :: rules)) rest (.error fault) :=
  of_step (Moment.Settles.bind_halt one _)

theorem either_found {found : Option Value × List Char}
    (one : setting.Reads rule rest (.ok (some found))) :
    setting.Reads (.either (rule :: rules)) rest (.ok (some found)) :=
  of_step (Moment.Settles.bind one (.pure _))

theorem either_next (one : setting.Reads rule rest (.ok none))
    (two : setting.Reads (.either rules) rest reading) :
    setting.Reads (.either (rule :: rules)) rest reading :=
  of_step (Moment.Settles.bind one two.step)

end Choice

section Optional
variable (kind : Kind)

theorem optional_fault (one : setting.Reads rule rest (.error fault)) :
    setting.Reads (.optional kind rule) rest (.error fault) :=
  of_step (Moment.Settles.bind_halt one _)

theorem optional_found {found : Option Value × List Char}
    (one : setting.Reads rule rest (.ok (some found))) :
    setting.Reads (.optional kind rule) rest (.ok (some found)) :=
  of_step (Moment.Settles.bind one (.pure _))

theorem optional_none (one : setting.Reads rule rest (.ok none)) :
    setting.Reads (.optional kind rule) rest (.ok (some (kind.nothing, rest))) := by
  refine of_step (Moment.Settles.bind one ?_)
  cases kind with
  | pattern => exact .pure _
  | parser => exact .pure _

end Optional

section Values

theorem captured_fault (kind : Kind) (one : setting.Reads rule rest (.error fault)) :
    setting.Reads (.captured kind rule) rest (.error fault) :=
  of_step (Moment.Settles.onHalt one)

theorem captured_none (kind : Kind) (one : setting.Reads rule rest (.ok none)) :
    setting.Reads (.captured kind rule) rest (.ok none) :=
  of_step (Moment.Settles.onNone one)

theorem captured {kind : Kind} {before body : List Char}
    (parted : setting.text.toList = before ++ (body ++ after))
    (one : setting.Reads rule (body ++ after) (.ok (some (value, after)))) (suits : kind.Suits value) :
    setting.Reads (.captured kind rule) (body ++ after)
      (.ok (some (some (.str (String.ofList body)), after))) := by
  refine of_step (Moment.Settles.onFound one ?_)
  refine Moment.Settles.bind (stopAs suits after) ?_
  rw [Text.slice_offsetOf parted]
  exact .pure _

theorem valued (given : Value) (one : setting.Reads rule rest reading) :
    setting.Reads (.valued given rule) rest
      (reading.map (Option.map fun found => (some given, found.2))) := by
  refine of_step ?_
  rcases reading with fault | _ | found
  · exact Moment.Settles.onHalt one
  · exact Moment.Settles.onNone one
  · exact Moment.Settles.onFound one (.pure _)

variable (transform : Value → Except Fault Value)

theorem map_fault (one : setting.Reads rule rest (.error fault)) :
    setting.Reads (.map transform rule) rest (.error fault) :=
  of_step (Moment.Settles.onHalt one)

theorem map_none (one : setting.Reads rule rest (.ok none)) :
    setting.Reads (.map transform rule) rest (.ok none) :=
  of_step (Moment.Settles.onNone one)

theorem map {transform : Value → Except Fault Value} {given : Value}
    (one : setting.Reads rule rest (.ok (some (some given, after)))) :
    setting.Reads (.map transform rule) rest
      ((transform given).map fun changed => some (some changed, after)) := by
  refine of_step (Moment.Settles.onFound one (Moment.Settles.bind (.pure given) ?_))
  cases transform given with
  | error fault => exact Moment.Settles.bind_halt (.ofExcept (.error fault)) _
  | ok changed => exact Moment.Settles.bind (.pure changed) (.pure _)

theorem filter_none (accept : Value → Except Fault Bool) (one : setting.Reads rule rest (.ok none)) :
    setting.Reads (.filter accept rule) rest (.ok none) :=
  of_step (Moment.Settles.onNone one)

theorem filter {accept : Value → Except Fault Bool} {given : Value} {kept : Bool}
    (one : setting.Reads rule rest (.ok (some (some given, after)))) (accepts : accept given = .ok kept) :
    setting.Reads (.filter accept rule) rest (.ok (if kept then some (some given, after) else none)) := by
  refine of_step (Moment.Settles.onFound one (Moment.Settles.bind (.pure given) ?_))
  rw [accepts]
  refine Moment.Settles.bind (.pure kept) ?_
  cases kept with
  | false => exact .pure _
  | true => exact .pure _

end Values

section Repetition
variable {kind : Kind} {outcome : Except Fault (List (Option Value × List Char) × List Char)}

theorem many (tag : Tag) (repeats : setting.Repeats kind rule rest outcome) :
    setting.Reads (.many kind tag rule) rest
      (outcome.map fun (more, last) => some (kind.gathered (more.map (·.1)), last)) := by
  refine of_step ?_
  have loop := repeats _ (setting.text.rounds_offsetOf rest) #[]
  rcases outcome with fault | ⟨more, last⟩
  · exact Moment.Settles.bind_halt loop _
  · refine Moment.Settles.bind loop (Moment.Settles.always fun store => ?_)
    have collected := setting.text.collected_matchOf kind more (setting.text.offsetOf last)
    dsimp only
    rw [Array.empty_append, collected, exec_bind_ok (exec_get store)]
    by_cases verbose : store.verbose
    · simp only [if_pos verbose]
      exact ⟨_, rfl⟩
    · simp only [if_neg verbose]
      exact ⟨_, rfl⟩

theorem oneOrMore_none (one : setting.Reads rule rest (.ok none)) :
    setting.Reads (.oneOrMore kind rule) rest (.ok none) :=
  of_step (Moment.Settles.onNone one)

/-- One repetition, behind which nothing is left. -/
theorem oneOrMore_last (one : setting.Reads rule rest (.ok (some (value, [])))) (suits : kind.Suits value) :
    setting.Reads (.oneOrMore kind rule) rest (.ok (some (kind.gathered [value], []))) := by
  refine of_step (Moment.Settles.onFound one ?_)
  refine Moment.Settles.bind (stopAs suits []) ?_
  have collected := setting.text.collected_matchOf kind [(value, [])] (setting.text.offsetOf [])
  rw [List.map_singleton, List.map_singleton] at collected
  simp only [if_pos (Or.inr setting.text.offsetOf_nil), collected]
  exact .pure _

theorem oneOrMore (one : setting.Reads rule rest (.ok (some (value, after)))) (suits : kind.Suits value)
    (shorter : after.length < rest.length) (goes : after ≠ []) (repeats : setting.Repeats kind rule after outcome) :
    setting.Reads (.oneOrMore kind rule) rest
      (outcome.map fun (more, last) => some (kind.gathered (value :: more.map (·.1)), last)) := by
  refine of_step (Moment.Settles.onFound one ?_)
  refine Moment.Settles.bind (stopAs suits after) ?_
  have moved : ¬setting.text.offsetOf after = setting.text.offsetOf rest :=
    mt Text.offsetOf_inj.mp (Nat.ne_of_lt shorter)
  have inside : ¬setting.text.offsetOf after = setting.text.size := mt Text.offsetOf_eq_size.mp goes
  simp only [if_neg (not_or.mpr ⟨moved, inside⟩)]
  have loop := repeats _ (setting.text.rounds_offsetOf after) #[setting.text.matchOf (value, after)]
  rcases outcome with fault | ⟨more, last⟩
  · exact Moment.Settles.bind_halt loop _
  · refine Moment.Settles.bind loop ?_
    have collected := setting.text.collected_matchOf kind ((value, after) :: more)
      (setting.text.offsetOf last)
    rw [List.map_cons, ← List.singleton_append, ← List.append_toArray] at collected
    dsimp only
    rw [collected]
    exact .pure _

theorem separated_fault (one : setting.Reads rule rest (.error fault)) :
    setting.Reads (.separated kind rule next) rest (.error fault) :=
  of_step (Moment.Settles.onHalt one)

theorem separated_none (one : setting.Reads rule rest (.ok none)) :
    setting.Reads (.separated kind rule next) rest (.ok none) :=
  of_step (Moment.Settles.onNone one)

theorem separated (one : setting.Reads rule rest (.ok (some (value, after)))) (suits : kind.Suits value)
    (repeats : setting.Repeats kind next after outcome) :
    setting.Reads (.separated kind rule next) rest
      (outcome.map fun (more, last) => some (kind.gathered (value :: more.map (·.1)), last)) := by
  refine of_step (Moment.Settles.onFound one ?_)
  refine Moment.Settles.bind (stopAs suits after) ?_
  have loop := repeats _ (setting.text.rounds_offsetOf after) #[setting.text.matchOf (value, after)]
  rcases outcome with fault | ⟨more, last⟩
  · exact Moment.Settles.bind_halt loop _
  · refine Moment.Settles.bind loop ?_
    have collected := setting.text.collected_matchOf kind ((value, after) :: more)
      (setting.text.offsetOf last)
    rw [List.map_cons, ← List.singleton_append, ← List.append_toArray] at collected
    dsimp only
    rw [collected]
    exact .pure _

end Repetition

end Reads

namespace Repeats
variable {kind : Kind} {rule : Rule} {value : Option Value} {after : List Char} {fault : Fault}

theorem halted (one : setting.Reads rule rest (.error fault)) :
    setting.Repeats kind rule rest (.error fault) := by
  intro bound enough found
  cases bound with
  | zero => omega
  | succ bound => exact Moment.Settles.bind_halt one _

theorem stopped (one : setting.Reads rule rest (.ok none)) :
    setting.Repeats kind rule rest (.ok ([], rest)) := by
  intro bound enough found
  cases bound with
  | zero => omega
  | succ bound =>
    refine Moment.Settles.bind one ?_
    simp only [List.map_nil, Except.map, Array.append_empty]
    exact .pure _

section Next
variable (one : setting.Reads rule rest (.ok (some (value, after)))) (suits : kind.Suits value)
include one suits

theorem next {outcome : Except Fault (List (Option Value × List Char) × List Char)}
    (shorter : after.length < rest.length) (goes : after ≠ [])
    (repeats : setting.Repeats kind rule after outcome) :
    setting.Repeats kind rule rest
      (outcome.map fun (more, last) => ((value, after) :: more, last)) := by
  intro bound enough found
  cases bound with
  | zero => omega
  | succ bound =>
    refine Moment.Settles.bind one ?_
    have moved : ¬setting.text.offsetOf after = setting.text.offsetOf rest :=
      mt Text.offsetOf_inj.mp (Nat.ne_of_lt shorter)
    have inside : ¬setting.text.offsetOf after = setting.text.size := mt Text.offsetOf_eq_size.mp goes
    refine Moment.Settles.bind (stopAs suits after) ?_
    simp only [if_neg (not_or.mpr ⟨moved, inside⟩)]
    have loop := repeats bound (by omega) (found.push (setting.text.matchOf (value, after)))
    cases outcome with
    | error fault => exact loop
    | ok later =>
      have pushed : found.push (setting.text.matchOf (value, after)) ++
          (later.1.map setting.text.matchOf).toArray =
            found ++ (((value, after) :: later.1).map setting.text.matchOf).toArray := by
        apply Array.ext'
        simp
      simp only [Except.map, pushed] at loop
      exact loop

omit suits in
theorem last (ended : after = []) (suits : kind.Suits value) :
    setting.Repeats kind rule rest (.ok ([(value, after)], after)) := by
  intro bound enough found
  cases bound with
  | zero => omega
  | succ bound =>
    refine Moment.Settles.bind one ?_
    have finished : setting.text.offsetOf after = setting.text.size := Text.offsetOf_eq_size.mpr ended
    refine Moment.Settles.bind (stopAs suits after) ?_
    simp only [if_pos (Or.inr finished)]
    exact .pure _

end Next

end Repeats

end Setting

end TextGrammar
