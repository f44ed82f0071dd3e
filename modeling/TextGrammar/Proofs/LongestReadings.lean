import Mathlib.Data.Nat.Find
import TextGrammar.Proofs.Foretelling
import TextGrammar.Proofs.Integers
import TextGrammar.Proofs.WholeTexts

/-! The longest texts of a form. A rule that takes the longest text of its form does so wherever one stands,
whatever follows. Such rules can be put in sequence where the second form never begins with a character of the
first one: no character that the first rule takes is then of use to the second. Of choices the same is only true
if their forms begin in different ways. -/

namespace TextGrammar

namespace Form
variable {form first second : Form} {rest body middle more after : List Char} {value one two : Option Value}

/-- A text of a form at the beginning of what is left, where no longer one stands. -/
structure Longest (form : Form) (rest body after : List Char) (value : Option Value) : Prop where
  parted : rest = body ++ after
  denotes : form.denotes body value
  most : ∀ {other found}, other <+: rest → form.denotes other found → other <+: body

/-- No text of a form at the beginning of what is left. -/
def Nowhere (form : Form) (rest : List Char) : Prop := ∀ {body value}, body <+: rest → ¬form.denotes body value

/-- What is read where the longest text of a form is taken. -/
inductive Takes (form : Form) (rest : List Char) : Reading → Prop
  | longest {body after : List Char} {value : Option Value} : form.Longest rest body after value →
      form.Takes rest (.ok (some (value, after)))
  | nothing : form.Nowhere rest → form.Takes rest (.ok none)

theorem exists_longest (form : Form) (rest : List Char) :
    (∃ body after value, form.Longest rest body after value) ∨ form.Nowhere rest := by
  classical
  let stands (count : Nat) : Prop := ∃ value, form.denotes (rest.take count) value
  by_cases some : ∃ body value, body <+: rest ∧ form.denotes body value
  · obtain ⟨body, value, inside, denotes⟩ := some
    have here {other : List Char} {found : Option Value} (inside : other <+: rest) (denotes : form.denotes other found) :
        stands other.length := ⟨found, List.prefix_iff_eq_take.mp inside ▸ denotes⟩
    obtain ⟨last, longest⟩ := Nat.findGreatest_spec inside.length_le (here inside denotes)
    refine .inl ⟨_, _, last, (List.take_append_drop _ rest).symm, longest, fun {other found} inside denotes => ?_⟩
    rw [List.prefix_iff_eq_take.mp inside]
    exact List.take_prefix_take_left (Nat.le_findGreatest inside.length_le (here inside denotes))
  · exact .inr fun {body value} inside denotes => some ⟨body, value, inside, denotes⟩

/-- Where a form is decided, its longest text is taken if that ends as it should. -/
theorem Explains.takes {reading : Reading} (explains : form.Explains (fun _ => False) rest reading)
    (ends : ∀ {body after value}, form.Longest rest body after value → form.ends after) : form.Takes rest reading := by
  obtain ⟨body, after, value, longest⟩ | nowhere := form.exists_longest rest
  · rw [explains.complete longest.parted (ends longest) longest.denotes]
    exact .longest longest
  · rcases reading with fault | _ | ⟨value, after⟩
    · exact (explains.faults rfl).elim
    · exact .nothing nowhere
    · obtain ⟨body, rfl, denotes⟩ := explains.sound rfl
      exact absurd denotes (nowhere (List.prefix_append _ _))

/-- A run goes on as far as there are characters of its class. -/
theorem Longest.run_ends {member : Char → Bool} (longest : (run member).Longest rest body after value) :
    (run member).ends after := by
  obtain ⟨rfl, ⟨some, accepted, -⟩, most⟩ := longest
  intro next here more
  obtain ⟨tail, rfl⟩ := List.head?_eq_some_iff.mp here
  have further : (run member).denotes (body ++ [next]) none := by
    refine ⟨by simp, fun character inside => ?_, rfl⟩
    obtain inside | inside := List.mem_append.mp inside
    · exact accepted character inside
    · rwa [List.mem_singleton.mp inside]
  have short := (most ⟨tail, by simp⟩ further).length_le
  rw [List.length_append, List.length_singleton] at short
  omega

section Sequence

/-- No text of the second form begins with a character of the first one. -/
def Parts (first second : Form) : Prop :=
  ∀ {body value}, first.denotes body value → ∀ character ∈ body, ∀ tail, ¬second.begins (character :: tail)

variable (parts : first.Parts second) (lawful : second.Lawful) (front : first.Longest rest body middle one)
include parts lawful front

/-- Two texts in sequence begin with the longest one of the first form, or the second one is empty. -/
theorem Longest.behind {head tail : List Char} {left right : Option Value} (inside : head ++ tail <+: rest)
    (starts : first.denotes head left) (follows : second.denotes tail right) :
    (head = body ∧ tail <+: middle) ∨ (tail = [] ∧ head <+: body) := by
  obtain ⟨spare, rfl⟩ := front.most (.trans (List.prefix_append _ _) inside) starts
  rw [front.parted, List.append_assoc, List.prefix_append_right_inj] at inside
  cases spare with
  | nil => exact .inl ⟨(List.append_nil head).symm, inside⟩
  | cons next spare =>
    refine .inr ⟨?_, List.prefix_append _ _⟩
    cases tail with
    | nil => rfl
    | cons character tail =>
      obtain ⟨rfl, -⟩ := List.cons_prefix_cons.mp inside
      obtain ⟨none, -⟩ | ⟨-, begins⟩ := lawful.starts follows
      · cases none
      · exact absurd (begins []) (parts front.denotes character (by simp) _)

theorem Longest.followedBy (back : second.Longest middle more after two) :
    (first.followedBy second).Longest rest (body ++ more) after (first.kind.paired second.kind one two) where
  parted := by rw [front.parted, back.parted, List.append_assoc]
  denotes := ⟨body, more, one, two, rfl, front.denotes, back.denotes, rfl⟩
  most inside denotes := by
    obtain ⟨head, tail, left, right, rfl, starts, follows, -⟩ := denotes
    obtain ⟨rfl, here⟩ | ⟨rfl, shorter⟩ := front.behind parts lawful inside starts follows
    · exact (List.prefix_append_right_inj head).mpr (back.most here follows)
    · rw [List.append_nil]
      exact shorter.trans (List.prefix_append _ _)

theorem Longest.unfollowed (nowhere : second.Nowhere middle) : (first.followedBy second).Nowhere rest := by
  rintro _ _ inside ⟨head, tail, left, right, rfl, starts, follows, -⟩
  obtain ⟨-, here⟩ | ⟨rfl, -⟩ := front.behind parts lawful inside starts follows
  · exact nowhere here follows
  · exact nowhere List.nil_prefix follows

end Sequence

theorem Nowhere.followedBy (nowhere : first.Nowhere rest) (second : Form) : (first.followedBy second).Nowhere rest := by
  rintro _ _ inside ⟨head, tail, left, right, rfl, starts, -, -⟩
  exact nowhere (.trans (List.prefix_append _ _) inside) starts

theorem Longest.optional (longest : form.Longest rest body after value) : form.optional.Longest rest body after value where
  parted := longest.parted
  denotes := .inr longest.denotes
  most inside denotes := by
    obtain ⟨rfl, -⟩ | denotes := denotes
    · exact List.nil_prefix
    · exact longest.most inside denotes

theorem Nowhere.optional (nowhere : form.Nowhere rest) : form.optional.Longest rest [] rest form.kind.nothing where
  parted := rfl
  denotes := .inl ⟨rfl, rfl⟩
  most inside denotes := by
    obtain ⟨rfl, -⟩ | denotes := denotes
    · exact List.nil_prefix
    · exact absurd denotes (nowhere inside)

theorem Longest.worth (longest : form.Longest rest body after value) (given : List Char → Value) :
    (form.worth given).Longest rest body after (some (given body)) where
  parted := longest.parted
  denotes := ⟨⟨value, longest.denotes⟩, rfl⟩
  most inside denotes := by
    obtain ⟨⟨_, denotes⟩, -⟩ := denotes
    exact longest.most inside denotes

theorem Nowhere.worth (nowhere : form.Nowhere rest) (given : List Char → Value) : (form.worth given).Nowhere rest := by
  rintro _ _ inside ⟨⟨_, denotes⟩, -⟩
  exact nowhere inside denotes

section Values
variable {transform : Value → Except Fault Value} {accept : Value → Except Fault Bool} {given changed : Value}

theorem Longest.mapped (longest : form.Longest rest body after (some given)) (changes : transform given = .ok changed) :
    (form.mapped transform).Longest rest body after (some changed) where
  parted := longest.parted
  denotes := ⟨given, changed, longest.denotes, changes, rfl⟩
  most inside denotes := by
    obtain ⟨_, _, denotes, -⟩ := denotes
    exact longest.most inside denotes

theorem Nowhere.mapped (nowhere : form.Nowhere rest) (transform : Value → Except Fault Value) :
    (form.mapped transform).Nowhere rest := by
  rintro _ _ inside ⟨_, _, denotes, -⟩
  exact nowhere inside denotes

/-- The texts whose values are accepted, none of which is empty. -/
def kept (form : Form) (accept : Value → Except Fault Bool) : Form where
  kind := .parser
  denotes body value := ∃ given, form.denotes body (some given) ∧ accept given = .ok true ∧ value = some given
  empty := none
  begins := form.begins
  ends := form.ends

/-- All texts but the empty one are accepted. -/
def Judged (form : Form) (accept : Value → Except Fault Bool) : Prop :=
  ∀ {body given}, form.denotes body (some given) → accept given = .ok (!body.isEmpty)

variable (judged : form.Judged accept)
include judged

theorem Lawful.kept (lawful : form.Lawful) : (form.kept accept).Lawful where
  starts := by
    rintro body _ ⟨given, denotes, accepted, rfl⟩
    obtain ⟨rfl, -⟩ | begins := lawful.starts denotes
    · cases (judged denotes).symm.trans accepted
    · exact .inr begins
  suits := by
    rintro _ _ ⟨given, -, -, rfl⟩ -
    rfl

theorem Longest.kept (longest : form.Longest rest body after (some given)) (some : body ≠ []) :
    (form.kept accept).Longest rest body after (Option.some given) where
  parted := longest.parted
  denotes := by
    refine ⟨given, longest.denotes, ?_, rfl⟩
    rw [judged longest.denotes, List.isEmpty_eq_false_iff.mpr some]
    rfl
  most inside denotes := by
    obtain ⟨_, denotes, -⟩ := denotes
    exact longest.most inside denotes

theorem Longest.refused (longest : form.Longest rest [] after value) : (form.kept accept).Nowhere rest := by
  rintro _ _ inside ⟨given, denotes, accepted, rfl⟩
  obtain rfl := List.prefix_nil.mp (longest.most inside denotes)
  cases (judged denotes).symm.trans accepted

end Values

theorem Nowhere.kept (nowhere : form.Nowhere rest) (accept : Value → Except Fault Bool) : (form.kept accept).Nowhere rest := by
  rintro _ _ inside ⟨_, denotes, -⟩
  exact nowhere inside denotes

theorem Takes.refine {other : Form} {reading : Reading} (takes : form.Takes rest reading) (refines : other.Refines form) :
    other.Takes rest reading := by
  cases takes with
  | longest longest =>
    exact .longest ⟨longest.parted, refines.denotes.mpr longest.denotes,
      fun inside denotes => longest.most inside (refines.denotes.mp denotes)⟩
  | nothing nowhere => exact .nothing fun inside denotes => nowhere inside (refines.denotes.mp denotes)

section Choice
variable {kind : Kind} (apart : Apart kind [first, second])
include apart

theorem Longest.oneOf_first (longest : first.Longest rest body after value) :
    (oneOf kind [first, second]).Longest rest body after value where
  parted := longest.parted
  denotes := ⟨first, by simp, longest.denotes⟩
  most {other _} inside denotes := by
    obtain ⟨form, member, denotes⟩ := denotes
    obtain rfl | rfl : form = first ∨ form = second := by simpa using member
    · exact longest.most inside denotes
    · obtain ⟨later, parted⟩ := inside
      have begins := ((apart.lawful first (by simp)).taken (apart.empty first (by simp)) longest.denotes).2 after
      have there := ((apart.lawful form (by simp)).taken (apart.empty form (by simp)) denotes).2 later
      rw [← longest.parted] at begins
      rw [parted] at there
      exact absurd there ((List.pairwise_cons.mp apart.begins).1 form (by simp) rest begins)

omit apart in
theorem Longest.oneOf_second (nowhere : first.Nowhere rest) (longest : second.Longest rest body after value) :
    (oneOf kind [first, second]).Longest rest body after value where
  parted := longest.parted
  denotes := ⟨second, by simp, longest.denotes⟩
  most inside denotes := by
    obtain ⟨form, member, denotes⟩ := denotes
    obtain rfl | rfl : form = first ∨ form = second := by simpa using member
    · exact absurd denotes (nowhere inside)
    · exact longest.most inside denotes

omit apart in
theorem Nowhere.oneOf (nowhere : first.Nowhere rest) (absent : second.Nowhere rest) :
    (oneOf kind [first, second]).Nowhere rest := by
  rintro _ _ inside ⟨form, member, denotes⟩
  obtain rfl | rfl : form = first ∨ form = second := by simpa using member
  · exact nowhere inside denotes
  · exact absent inside denotes

end Choice

/-- What is read where the longest text of a form is taken and its value changed. -/
inductive TakesAs (form : Form) (transform : Value → Except Fault Value) (rest : List Char) : Reading → Prop
  | longest {body after : List Char} {given : Value} : form.Longest rest body after (some given) →
      form.TakesAs transform rest ((transform given).map fun changed => some (some changed, after))
  | nothing : form.Nowhere rest → form.TakesAs transform rest (.ok none)

end Form

namespace Rule.Tells
variable {form first second : Form} {rule next : Rule}

theorem object {spec : List Char → Reading → Prop} (tells : rule.Tells spec) (tag : Tag) (traced : Bool) :
    (Rule.object tag traced rule).Tells spec := by
  intro setting rest inside
  obtain ⟨reading, reads, told⟩ := tells setting rest inside
  exact ⟨reading, reads.object tag traced, told⟩

theorem sequence (one : rule.Tells first.Takes) (two : next.Tells second.Takes) (lawful : first.Lawful)
    (other : second.Lawful) (parts : first.Parts second) :
    (Rule.sequence first.kind second.kind rule next).Tells (first.followedBy second).Takes := by
  intro setting rest inside
  obtain ⟨reading, reads, takes⟩ := one setting rest inside
  cases takes with
  | @longest body middle value longest =>
    have within : middle <:+ setting.text.toList := .trans ⟨body, longest.parted.symm⟩ inside
    obtain ⟨reading, again, takes⟩ := two setting middle within
    have suits := lawful.suits longest.denotes
    cases takes with
    | longest back =>
      refine ⟨_, reads.sequence suits again ?_, .longest (longest.followedBy parts other back)⟩
      rintro _ ⟨⟩
      exact other.suits back.denotes
    | nothing nowhere => exact ⟨_, reads.sequence suits again nofun, .nothing (longest.unfollowed parts other nowhere)⟩
  | nothing nowhere => exact ⟨_, reads.sequence_none _ _, .nothing (nowhere.followedBy second)⟩

theorem optional (tells : rule.Tells form.Takes) : (Rule.optional form.kind rule).Tells form.optional.Takes := by
  intro setting rest inside
  obtain ⟨reading, reads, takes⟩ := tells setting rest inside
  cases takes with
  | longest longest => exact ⟨_, reads.optional_found _, .longest longest.optional⟩
  | nothing nowhere => exact ⟨_, reads.optional_none _, .longest nowhere.optional⟩

theorem captured (tells : rule.Tells form.Takes) (lawful : form.Lawful) :
    (Rule.captured form.kind rule).Tells (form.worth fun body => .str (String.ofList body)).Takes := by
  intro setting rest inside
  obtain ⟨reading, reads, takes⟩ := tells setting rest inside
  cases takes with
  | longest longest =>
    obtain ⟨before, parted⟩ := inside
    obtain rfl := longest.parted
    exact ⟨_, reads.captured parted.symm (lawful.suits longest.denotes), .longest (longest.worth _)⟩
  | nothing nowhere => exact ⟨_, reads.captured_none _, .nothing (nowhere.worth _)⟩

theorem orElse {kind : Kind} (one : rule.Tells first.Takes) (two : next.Tells second.Takes)
    (apart : Form.Apart kind [first, second]) : (Rule.orElse rule next).Tells (Form.oneOf kind [first, second]).Takes := by
  intro setting rest inside
  obtain ⟨reading, reads, takes⟩ := one setting rest inside
  cases takes with
  | longest longest => exact ⟨_, reads.orElse_found, .longest (longest.oneOf_first apart)⟩
  | nothing nowhere =>
    obtain ⟨reading, again, takes⟩ := two setting rest inside
    cases takes with
    | longest longest => exact ⟨_, reads.orElse_next again, .longest (longest.oneOf_second nowhere)⟩
    | nothing absent => exact ⟨_, reads.orElse_next again, .nothing (nowhere.oneOf absent)⟩

section Values
variable {transform : Value → Except Fault Value} (tells : rule.Tells form.Takes) (lawful : form.Lawful)
  (kind : form.kind = .parser)
include tells lawful kind

theorem map (transform : Value → Except Fault Value) : (Rule.map transform rule).Tells (form.TakesAs transform) := by
  intro setting rest inside
  obtain ⟨reading, reads, takes⟩ := tells setting rest inside
  cases takes with
  | longest longest =>
    obtain ⟨given, rfl⟩ := Option.isSome_iff_exists.mp (lawful.suits longest.denotes kind)
    exact ⟨_, reads.map, .longest longest⟩
  | nothing nowhere => exact ⟨_, reads.map_none _, .nothing nowhere⟩

theorem filter {accept : Value → Except Fault Bool} (judged : form.Judged accept) :
    (Rule.filter accept rule).Tells (form.kept accept).Takes := by
  intro setting rest inside
  obtain ⟨reading, reads, takes⟩ := tells setting rest inside
  cases takes with
  | @longest body after value longest =>
    obtain ⟨given, rfl⟩ := Option.isSome_iff_exists.mp (lawful.suits longest.denotes kind)
    refine ⟨_, reads.filter (judged longest.denotes), ?_⟩
    cases body with
    | nil => exact .nothing (longest.refused judged)
    | cons first tail => exact .longest (longest.kept judged (List.cons_ne_nil _ _))
  | nothing nowhere => exact ⟨_, reads.filter_none _, .nothing (nowhere.kept accept)⟩

end Values

/-- A change that always succeeds makes another form of the texts. -/
theorem mapped {transform : Value → Except Fault Value} (tells : rule.Tells (form.TakesAs transform))
    (succeeds : ∀ {body given}, form.denotes body (some given) → ∃ changed, transform given = .ok changed) :
    rule.Tells (form.mapped transform).Takes := by
  intro setting rest inside
  obtain ⟨reading, reads, takes⟩ := tells setting rest inside
  refine ⟨reading, reads, ?_⟩
  cases takes with
  | longest longest =>
    obtain ⟨changed, is⟩ := succeeds longest.denotes
    rw [is]
    exact .longest (longest.mapped is)
  | nothing nowhere => exact .nothing (nowhere.mapped transform)

end Rule.Tells

/-- An expression for a rule that takes the longest text of a form, at any moment of a session. -/
structure Expression.TakesLongest (scope : Scope) (form : Form) (expression : Expression) : Prop where
  lawful : form.Lawful
  makes : expression.Makes scope form.kind (Rule.Tells form.Takes)

namespace Expression
variable {scope : Scope} {form first second : Form} {expression one two : Expression}

/-- Where a form is recognised, its longest text is taken if that ends as it should. -/
theorem Recognises.takesLongest (recognises : expression.Recognises scope (fun _ _ => True) 0 form)
    (ends : ∀ {rest body after value}, form.Longest rest body after value → form.ends after) :
    expression.TakesLongest scope form where
  lawful := recognises.lawful
  makes := by
    apply recognises.makes.imp
    intro rule decides setting rest inside
    obtain ⟨reading, reads, explains⟩ :=
      decides ⟨setting, fun _ => False⟩ (rest.length + 1) trivial rest (Nat.lt_succ_self _) inside
    exact ⟨reading, reads, explains.takes ends⟩

namespace TakesLongest

/-- What is taken in one guise is taken in another. -/
theorem refine {other : Form} (takes : expression.TakesLongest scope form) (refines : other.Refines form)
    (kind : other.kind = form.kind) : expression.TakesLongest scope other where
  lawful := refines.lawful takes.lawful kind
  makes := by
    rw [kind]
    apply takes.makes.imp
    intro rule tells setting rest inside
    obtain ⟨reading, reads, takes⟩ := tells setting rest inside
    exact ⟨reading, reads, takes.refine refines⟩

section Leaves
variable (scope)

theorem literal {word : String} (some : word.toList ≠ []) : (Expression.literal word).TakesLongest scope (.word word) :=
  Recognises.takesLongest (.literal scope _ 0 some) fun _ => trivial

theorem characterIn (members : CharacterClass) :
    (Expression.characterIn members).TakesLongest scope (.character members.member) :=
  Recognises.takesLongest (.characterIn scope _ 0 members) fun _ => trivial

theorem constant {shared : Constant} {member : Char → Bool} (runs : shared.recognise = Leaf.charactersIn member) :
    (Expression.constant shared).TakesLongest scope (.run member) :=
  Recognises.takesLongest (.constant scope _ 0 runs) Form.Longest.run_ends

end Leaves

theorem sum (before : one.TakesLongest scope first) (after : two.TakesLongest scope second) (parts : first.Parts second) :
    (one + two).TakesLongest scope (first.followedBy second) where
  lawful := before.lawful.followedBy after.lawful
  makes := before.makes.sum after.makes fun begins continues tag traced =>
    (begins.sequence continues before.lawful after.lawful parts).object tag traced

theorem word_sum {word : String} (some : word.toList ≠ []) (after : two.TakesLongest scope second)
    (parts : (Form.word word).Parts second) :
    ((word : Expression) + two).TakesLongest scope ((Form.word word).followedBy second) where
  lawful := (Form.word_lawful some).followedBy after.lawful
  makes := by
    apply after.makes.word_sum
    intro rule continues inner around tag traced
    have leaf : (Rule.leaf (Leaf.literal word)).Tells (Form.word word).Takes := by
      intro setting rest inside
      let trial : Trial := ⟨setting, fun _ => False⟩
      obtain ⟨reading, reads, explains⟩ := (trial.decides_word word : trial.Decides _ _ rest) inside
      exact ⟨reading, reads, explains.takes fun _ => trivial⟩
    exact ((leaf.object inner around).sequence continues (Form.word_lawful some) after.lawful parts).object tag traced

theorem optional (takes : expression.TakesLongest scope form) (empty : form.empty = none) :
    (Expression.optional expression).TakesLongest scope form.optional where
  lawful := takes.lawful.optional empty
  makes := takes.makes.optional fun tells tag traced => tells.optional.object tag traced

theorem captured (takes : expression.TakesLongest scope form) :
    (Expression.captured expression).TakesLongest scope (form.worth fun body => .str (String.ofList body)) where
  lawful := takes.lawful.worth _
  makes := takes.makes.captured fun tells tag traced => (tells.captured takes.lawful).object tag traced

theorem union {kind : Kind} (before : one.TakesLongest scope first) (after : two.TakesLongest scope second)
    (apart : Form.Apart kind [first, second]) : (one ||| two).TakesLongest scope (.oneOf kind [first, second]) where
  lawful := .oneOf apart
  makes := by
    have makes := before.makes
    have others := after.makes
    rw [apart.kinds first (by simp)] at makes
    rw [apart.kinds second (by simp)] at others
    exact makes.union others fun begins continues tag traced => (begins.orElse continues apart).object tag traced

section Values
variable (takes : expression.TakesLongest scope form) (kind : form.kind = .parser)
include takes kind

theorem shifted (transform : Value → Except Fault Value) (functionType : String) :
    (Expression.shifted expression transform functionType).Makes scope .parser (Rule.Tells (form.TakesAs transform)) := by
  have makes := takes.makes
  rw [kind] at makes
  exact makes.shifted fun tells tag traced => (tells.map takes.lawful kind transform).object tag traced

theorem unchanged : expression.Makes scope .parser (Rule.Tells (form.TakesAs .ok)) := by
  have makes := takes.makes
  rw [kind] at makes
  apply makes.imp
  intro rule tells setting rest inside
  obtain ⟨reading, reads, told⟩ := tells setting rest inside
  refine ⟨reading, reads, ?_⟩
  cases told with
  | longest longest =>
    obtain ⟨given, rfl⟩ := Option.isSome_iff_exists.mp (takes.lawful.suits longest.denotes kind)
    exact .longest longest
  | nothing nowhere => exact .nothing nowhere

theorem mapped {transform : Value → Except Fault Value} {functionType : String} (empty : form.empty = none)
    (succeeds : ∀ {body given}, form.denotes body (some given) → ∃ changed, transform given = .ok changed) :
    (Expression.shifted expression transform functionType).TakesLongest scope (form.mapped transform) where
  lawful := takes.lawful.mapped empty transform
  makes := (takes.shifted kind transform functionType).imp fun tells => tells.mapped succeeds

theorem filter {accept : Value → Except Fault Bool} (judged : form.Judged accept) :
    (Expression.filter expression accept).TakesLongest scope (form.kept accept) where
  lawful := takes.lawful.kept judged
  makes := by
    have makes := takes.makes
    rw [kind] at makes
    exact makes.filter fun tells tag traced => (tells.filter takes.lawful kind judged).object tag traced

end Values

end TakesLongest

end Expression

section Tokens
variable {language : List Char → Prop} {text : Text}

/-- A token of a language between two offsets of a text. -/
structure Text.Holds (text : Text) (language : List Char → Prop) (start stop : Int) : Prop where
  forward : start ≤ stop
  inside : stop ≤ text.size
  token : language (text.slice start stop).toList

theorem Text.slice_toList {rest body after : List Char} (inside : rest <:+ text.toList) (parted : rest = body ++ after) :
    (text.slice (text.offsetOf rest) (text.offsetOf after)).toList = body := by
  obtain ⟨before, whole⟩ := inside
  rw [parted] at whole ⊢
  rw [slice_offsetOf whole.symm, String.toList_ofList]

/-- The tokens behind an offset are those at the beginning of what is left there. -/
theorem Text.holds_offsetOf {rest : List Char} (within : rest <:+ text.toList) {stop : Int} :
    text.Holds language (text.offsetOf rest) stop ↔
      ∃ body after, rest = body ++ after ∧ stop = text.offsetOf after ∧ language body := by
  constructor
  · rintro ⟨forward, inside, token⟩
    have short : rest.length ≤ text.size := within.length_le
    obtain ⟨after, suffix, rfl⟩ := Text.exists_offsetOf (by rw [offsetOf] at forward; omega : 0 ≤ stop) inside
    rw [offsetOf, offsetOf] at forward
    obtain ⟨body, parted⟩ := List.suffix_of_suffix_length_le suffix within (by omega)
    rw [slice_toList within parted.symm] at token
    exact ⟨body, after, parted.symm, rfl, token⟩
  · rintro ⟨body, after, rfl, rfl, token⟩
    refine ⟨?_, ?_, (slice_toList within rfl).symm ▸ token⟩
    · rw [offsetOf, offsetOf, List.length_append]
      omega
    · rw [offsetOf]
      omega

namespace Session

/-- A grammar that matches the longest token of a language at every offset where one stands, and nothing at other
ones, at any time of a session. What the match is worth is told of the token. -/
def MatchesLongest (subject : Expression) (language : List Char → Prop)
    (worth : List Char → Except Fault Value → Prop) : Prop :=
  ∀ (history : List Command) (text : Text) (start : Int), 0 ≤ start → start ≤ text.size →
    (∃ stop outcome, text.Holds language start stop ∧ (∀ other, text.Holds language start other → other ≤ stop) ∧
      worth (text.slice start stop).toList outcome ∧
        Comes (Store.afterAll history) subject text start (outcome.map fun value => some (.yielding value stop))) ∨
      ((∀ stop, ¬text.Holds language start stop) ∧ Comes (Store.afterAll history) subject text start (.ok none))

theorem matchesLongest {form : Form} {transform : Value → Except Fault Value}
    {worth : List Char → Except Fault Value → Prop} {subject : Expression}
    (makes : subject.Makes [] .parser (Rule.Tells (form.TakesAs transform)))
    (tokens : ∀ {body}, language body ↔ ∃ given, form.denotes body (some given))
    (is : ∀ {body given}, form.denotes body (some given) → worth body (transform given)) :
    MatchesLongest subject language worth := by
  intro history text start valid inside
  obtain ⟨rest, within, rfl⟩ := Text.exists_offsetOf valid inside
  have parses : subject.Parses text (Store.afterAll history) (form.TakesAs transform) := by
    refine makes.parses (fun tells rest within => ?_) _
    obtain ⟨reading, reads, told⟩ := tells ⟨text, .any⟩ rest within
    refine ⟨reading, reads, fun found same => ?_, told⟩
    cases told with
    | @longest body after given longest =>
      cases changed : transform given with
      | error fault =>
        rw [changed] at same
        cases same
      | ok value =>
        rw [changed] at same
        cases same
        rfl
    | nothing => cases same
  obtain ⟨reading, told, enough, matched⟩ := parses.matching within
  have comes := matched enough (Nat.le_refl enough)
  cases told with
  | @longest body after given longest =>
    refine .inl ⟨text.offsetOf after, transform given, ?_, fun other holds => ?_, ?_, enough, ?_⟩
    · exact (Text.holds_offsetOf within).mpr ⟨body, after, longest.parted, rfl, tokens.mpr ⟨given, longest.denotes⟩⟩
    · obtain ⟨further, later, parted, rfl, token⟩ := (Text.holds_offsetOf within).mp holds
      obtain ⟨value, denotes⟩ := tokens.mp token
      have most := (longest.most ⟨later, parted.symm⟩ denotes).length_le
      have same := congrArg List.length (parted.symm.trans longest.parted)
      rw [List.length_append, List.length_append] at same
      rw [Text.offsetOf, Text.offsetOf]
      omega
    · rw [Text.slice_toList within longest.parted]
      exact is longest.denotes
    · rw [comes]
      cases transform given <;> rfl
  | nothing nowhere =>
    refine .inr ⟨fun stop holds => ?_, enough, comes⟩
    obtain ⟨body, after, parted, -, token⟩ := (Text.holds_offsetOf within).mp holds
    obtain ⟨value, denotes⟩ := tokens.mp token
    exact nowhere ⟨after, parted.symm⟩ denotes

/-- The longest texts of a form, each with a value that is made of the text. -/
theorem matchesLongest_captured {form : Form} {transform : Value → Except Fault Value} {functionType : String}
    {worth : List Char → Except Fault Value → Prop} {expression : Expression} (takes : expression.TakesLongest [] form)
    (tokens : ∀ body, language body ↔ ∃ value, form.denotes body value)
    (is : ∀ {body}, language body → worth body (transform (.str (String.ofList body)))) :
    MatchesLongest (.shifted (.captured expression) transform functionType) language worth := by
  refine matchesLongest (takes.captured.shifted rfl transform functionType) (fun {body} => ?_) ?_
  · rw [tokens body]
    constructor
    · exact fun denotes => ⟨_, denotes, rfl⟩
    · rintro ⟨_, denotes, -⟩
      exact denotes
  · rintro body _ ⟨denotes, ⟨⟩⟩
    exact is ((tokens body).mpr denotes)

end Session

end Tokens

end TextGrammar
