import TextGrammar.Proofs.PatternExtents
import TextGrammar.Sample.Brackets

/-! The texts of the brackets grammar. Its choices are ordered and its repetition takes all it can, yet it
accepts all that its rules allow if choices are left open: where the repetition takes less than what
stands between brackets, brackets around that can not be a nested pair. It does not accept all balanced
brackets. -/

namespace TextGrammar.Brackets
open Sample

/-- Pairs of brackets, one within the other. -/
inductive Nested : List Char → Prop
  | pair : Nested ['(', ')']
  | within {body : List Char} : Nested body → Nested ('(' :: (body ++ [')']))

/-- Nested pairs in a row, with any number of brackets around them. -/
inductive Bracketed : List Char → Prop
  | row {items : List (List Char)} : items ≠ [] → (∀ item ∈ items, Nested item) → Bracketed items.flatten
  | within {body : List Char} : Bracketed body → Bracketed ('(' :: (body ++ [')']))

/-- Brackets of which every one is closed behind where it is opened. -/
structure Balanced (body : List Char) : Prop where
  present : body ≠ []
  brackets : ∀ character ∈ body, character = '(' ∨ character = ')'
  opened : ∀ front, front <+: body → front.count ')' ≤ front.count '('
  closed : body.count '(' = body.count ')'

instance (body : List Char) : Decidable (Balanced body) :=
  decidable_of_iff (body ≠ [] ∧ body.all (fun character => character = '(' ∨ character = ')') ∧
    body.inits.all (fun front => front.count ')' ≤ front.count '(') ∧ body.count '(' = body.count ')') <| by
  simp only [List.all_eq_true, List.mem_inits, decide_eq_true_iff]
  exact ⟨fun ⟨present, brackets, opened, closed⟩ => ⟨present, brackets, opened, closed⟩,
    fun balanced => ⟨balanced.present, balanced.brackets, balanced.opened, balanced.closed⟩⟩

section Language
variable {body other rest after later : List Char}

theorem Nested.head (nested : Nested body) : ∃ tail, body = '(' :: tail := by
  cases nested with
  | pair => exact ⟨_, rfl⟩
  | within nested => exact ⟨_, rfl⟩

theorem Bracketed.head (bracketed : Bracketed body) : ∃ tail, body = '(' :: tail := by
  cases bracketed with
  | @row items present nested =>
    cases items with
    | nil => exact absurd rfl present
    | cons item items =>
      obtain ⟨tail, rfl⟩ := (nested item (by simp)).head
      exact ⟨_, rfl⟩
  | within bracketed => exact ⟨_, rfl⟩

/-- No nested pair begins with another one. -/
theorem Nested.unique (one : Nested body) (two : Nested other) (same : body ++ after = other ++ later) :
    body = other ∧ after = later := by
  induction one generalizing other after later with
  | pair =>
    cases two with
    | pair =>
      rw [List.append_cancel_left same]
      exact ⟨rfl, rfl⟩
    | within two =>
      obtain ⟨tail, rfl⟩ := two.head
      cases same
  | within one ih =>
    cases two with
    | pair =>
      obtain ⟨tail, rfl⟩ := one.head
      cases same
    | within two =>
      simp only [List.cons_append, List.append_assoc, List.cons.injEq, true_and] at same
      obtain ⟨rfl, ends⟩ := ih two same
      cases ends
      exact ⟨rfl, rfl⟩

/-- Where no nested pair begins. -/
def Ended (rest : List Char) : Prop := ∀ body after, Nested body → rest ≠ body ++ after

theorem Ended.of_head? (head : rest.head? ≠ some '(') : Ended rest := by
  rintro body after nested rfl
  obtain ⟨tail, rfl⟩ := nested.head
  exact head rfl

/-- No pair begins where what stands behind a bracket is a pair that is not closed in turn, -/
theorem Ended.unclosed (nested : Nested body) (absent : after.head? ≠ some ')') : Ended ('(' :: (body ++ after)) := by
  intro _ later around same
  cases around with
  | pair =>
    obtain ⟨_, rfl⟩ := nested.head
    cases same
  | within other =>
    simp only [List.cons_append, List.append_assoc, List.cons.injEq, true_and] at same
    obtain ⟨-, rfl⟩ := nested.unique other same
    exact absent rfl

/-- nor where no pair begins behind the bracket, and it is not closed at once. -/
theorem Ended.unpaired (ended : Ended rest) (absent : ¬['(', ')'] <+: '(' :: rest) : Ended ('(' :: rest) := by
  intro _ later around same
  cases around with
  | pair => exact absent ⟨later, same.symm⟩
  | within nested =>
    simp only [List.cons_append, List.append_assoc, List.cons.injEq, true_and] at same
    exact ended _ _ nested same

theorem row_unique {items others : List (List Char)} (one : ∀ item ∈ items, Nested item)
    (two : ∀ item ∈ others, Nested item) (ended : Ended after) (finished : Ended later)
    (same : items.flatten ++ after = others.flatten ++ later) : after = later := by
  induction items generalizing others with
  | nil =>
    cases others with
    | nil => exact same
    | cons other others =>
      rw [List.flatten_cons, List.append_assoc] at same
      exact absurd same (ended other _ (two other (by simp)))
  | cons item items ih =>
    cases others with
    | nil =>
      rw [List.flatten_cons, List.append_assoc] at same
      exact absurd same.symm (finished item _ (one item (by simp)))
    | cons other others =>
      obtain ⟨first, one⟩ := List.forall_mem_cons.mp one
      obtain ⟨second, two⟩ := List.forall_mem_cons.mp two
      rw [List.flatten_cons, List.flatten_cons, List.append_assoc, List.append_assoc] at same
      exact ih one two (first.unique second same).2

/-- What is closed as a nested pair is, is one. -/
theorem Bracketed.nested (bracketed : Bracketed body) (nested : Nested other)
    (same : body ++ ')' :: after = other ++ ')' :: later) : Nested body := by
  induction bracketed generalizing other after later with
  | @row items present all =>
    cases items with
    | nil => exact absurd rfl present
    | cons item items =>
      obtain ⟨first, all⟩ := List.forall_mem_cons.mp all
      rw [List.flatten_cons, List.append_assoc] at same
      obtain ⟨rfl, ends⟩ := first.unique nested same
      cases items with
      | nil => simpa using first
      | cons next items =>
        obtain ⟨tail, rfl⟩ := (all next (by simp)).head
        cases ends
  | @within inner bracketed ih =>
    cases nested with
    | pair =>
      obtain ⟨tail, rfl⟩ := bracketed.head
      cases same
    | within nested =>
      simp only [List.cons_append, List.append_assoc, List.cons.injEq, true_and] at same
      exact .within (ih nested same)

/-- Where a nested pair begins and something bracketed stands between brackets, that is the pair. -/
theorem Bracketed.within_nested (bracketed : Bracketed body) (nested : Nested other)
    (same : '(' :: (body ++ [')']) ++ after = other ++ later) : Nested ('(' :: (body ++ [')'])) := by
  cases nested with
  | pair =>
    obtain ⟨tail, rfl⟩ := bracketed.head
    cases same
  | within nested =>
    simp only [List.cons_append, List.append_assoc, List.cons.injEq, true_and] at same
    exact .within (bracketed.nested nested same)

/-- What is left of a text where the grammar runs: what is taken is bracketed, and what is bracketed is taken
where no other bracket is opened behind it. -/
structure Leaves (rest : List Char) (left : Option (List Char)) : Prop where
  sound : ∀ after, left = some after → ∃ body, Bracketed body ∧ rest = body ++ after
  complete : ∀ body after, Bracketed body → after.head? ≠ some '(' → rest = body ++ after → left = some after

theorem Leaves.unopened (absent : rest.head? ≠ some '(') : Leaves rest none where
  sound := nofun
  complete := by
    rintro body after bracketed - rfl
    obtain ⟨tail, rfl⟩ := bracketed.head
    exact absurd rfl absent

/-- A row is taken as far as it goes. -/
theorem Leaves.row {items : List (List Char)} (present : items ≠ []) (all : ∀ item ∈ items, Nested item)
    (ended : Ended after) : Leaves (items.flatten ++ after) (some after) where
  sound := by
    rintro _ ⟨⟩
    exact ⟨_, .row present all, rfl⟩
  complete body later bracketed stops parted := by
    have rows {others : List (List Char)} (nested : ∀ item ∈ others, Nested item) (is : body = others.flatten) :
        some after = some later := by
      rw [is] at parted
      rw [row_unique all nested ended (.of_head? stops) parted]
    cases bracketed with
    | row _ nested => exact rows nested rfl
    | @within body bracketed =>
      -- where a nested pair begins, what stands between the brackets is one itself
      cases items with
      | nil => exact absurd rfl present
      | cons item items =>
        have begins : '(' :: (body ++ [')']) ++ later = item ++ (items.flatten ++ after) := by
          rw [← parted, List.flatten_cons, List.append_assoc]
        have nested := bracketed.within_nested (all item (by simp)) begins
        exact rows (List.forall_mem_singleton.mpr nested) (List.flatten_singleton).symm

section Within
variable {left : Option (List Char)} (ended : Ended ('(' :: rest)) (leaves : Leaves rest left)
include ended leaves

/-- Where no pair begins, what is bracketed has brackets around it. -/
theorem Leaves.closes (bracketed : Bracketed body) (parted : '(' :: rest = body ++ after) : left = some (')' :: after) := by
  cases bracketed with
  | @row items present nested =>
    cases items with
    | nil => exact absurd rfl present
    | cons item items =>
      rw [List.flatten_cons, List.append_assoc] at parted
      exact absurd parted (ended item _ (nested item (by simp)))
  | within bracketed =>
    simp only [List.cons_append, List.append_assoc, List.cons.injEq, true_and] at parted
    exact leaves.complete _ _ bracketed (by simp) parted

theorem Leaves.closed (is : left = some (')' :: after)) : Leaves ('(' :: rest) (some after) where
  sound := by
    rintro _ ⟨⟩
    obtain ⟨body, bracketed, rfl⟩ := leaves.sound _ is
    exact ⟨_, .within bracketed, by simp⟩
  complete body later bracketed _ parted := by
    cases is.symm.trans (leaves.closes ended bracketed parted)
    rfl

theorem Leaves.unclosed (open_ : ∀ after, left ≠ some (')' :: after)) : Leaves ('(' :: rest) none where
  sound := nofun
  complete _ after bracketed _ parted := absurd (leaves.closes ended bracketed parted) (open_ after)

end Within

end Language

section Grammar
variable {base : Store} {text : Text} {rest after : List Char} {blueprint : Blueprint}

/-- What the grammar is defined as, in its own terms. -/
def outer : Expression := .oneOrMore nestedPair ||| "(" + Expression.variable "bracketed" + ")"

/-- What nested pairs are defined as, in their own terms. -/
def inner : Expression := "(" + Expression.variable "single" + ")" ||| "()"

def outerTarget : Target := .inner (.within (.stage 0) 0) .pattern none "bracketed" outer []

def innerTarget : Target :=
  .inner (.within outerTarget.key 0) .pattern none "single" inner [("bracketed", .pattern, outerTarget)]

/-- Something between brackets. -/
def wrapped (blueprint : Blueprint) : Blueprint :=
  .object (.sequence .pattern .pattern
    (.object (.sequence .pattern .pattern (.object (.leaf (Leaf.literal "("))) (.object blueprint)))
    (.object (.leaf (Leaf.literal ")"))))

theorem brackets_drafted (globals : String → Option Draft) :
    brackets.drafted globals (.stage 0) [] = .ok (.grammar ⟨.pattern, .object (.invoke outerTarget)⟩) :=
  rfl

theorem brackets_plain : brackets.Plain fun _ => False :=
  ⟨fun _ => rfl, fun _ => ⟨⟨fun _ => rfl, fun _ => ⟨⟨⟨trivial, .inl rfl⟩, trivial⟩, trivial⟩⟩,
    ⟨trivial, .inl rfl⟩, trivial⟩⟩

theorem outer_defined : outerTarget.definition base = .ok (.object (.orElse
    (.object (.oneOrMore .pattern (.object (.invoke innerTarget)))) (wrapped (.invoke outerTarget)))) :=
  rfl

theorem inner_defined : innerTarget.definition base = .ok (.object (.orElse
    (wrapped (.invoke innerTarget)) (.object (.leaf (Leaf.literal "()"))))) :=
  rfl

theorem wrapped_unopened (absent : rest.head? ≠ some '(') (inside : rest <:+ text.toList) :
    (wrapped blueprint).Takes base text rest none := by
  have opens : ¬['('] <+: rest := by
    rintro ⟨tail, rfl⟩
    exact absent rfl
  have opening : (Blueprint.leaf (Leaf.literal "(")).Takes base text rest none := .no_literal opens inside
  exact opening.object.sequence_none.object.sequence_none.object

section Opened
variable (inside : '(' :: rest <:+ text.toList)
include inside

theorem opening_takes : (Blueprint.leaf (Leaf.literal "(")).Takes base text ('(' :: rest) (some rest) :=
  .literal inside

theorem wrapped_none (takes : blueprint.Takes base text rest none) :
    (wrapped blueprint).Takes base text ('(' :: rest) none :=
  ((opening_takes inside).object.sequence takes.object).object.sequence_none.object

theorem wrapped_unclosed (takes : blueprint.Takes base text rest (some after))
    (absent : after.head? ≠ some ')') (within : after <:+ rest) :
    (wrapped blueprint).Takes base text ('(' :: rest) none := by
  have closes : ¬[')'] <+: after := by
    rintro ⟨tail, rfl⟩
    exact absent rfl
  have closing : (Blueprint.leaf (Leaf.literal ")")).Takes base text after none :=
    .no_literal closes (within.trans (.trans (List.suffix_cons _ _) inside))
  exact (((opening_takes inside).object.sequence takes.object).object.sequence closing.object).object

theorem wrapped_closed (takes : blueprint.Takes base text rest (some (')' :: after)))
    (within : ')' :: after <:+ rest) :
    (wrapped blueprint).Takes base text ('(' :: rest) (some after) := by
  have closing : (Blueprint.leaf (Leaf.literal ")")).Takes base text (')' :: after) (some after) :=
    .literal (within.trans (.trans (List.suffix_cons _ _) inside))
  exact (((opening_takes inside).object.sequence takes.object).object.sequence closing.object).object

end Opened

/-- A nested pair is taken where one begins. -/
theorem inner_takes (base : Store) (bound : Nat) : ∀ rest : List Char, rest.length < bound → rest <:+ text.toList →
    (∃ body after, Nested body ∧ rest = body ++ after ∧
      (Blueprint.invoke innerTarget).Takes base text rest (some after)) ∨
    (Ended rest ∧ (Blueprint.invoke innerTarget).Takes base text rest none) := by
  induction bound with
  | zero => exact fun rest short => absurd short (Nat.not_lt_zero _)
  | succ bound ih =>
    intro rest short inside
    have chosen {left : Option (List Char)} (none : (wrapped (.invoke innerTarget)).Takes base text rest none)
        (takes : (Blueprint.leaf (Leaf.literal "()")).Takes base text rest left) :
        (Blueprint.invoke innerTarget).Takes base text rest left :=
      .invoke rfl inner_defined (none.orElse_next takes.object).object
    have no_pair (absent : ¬['(', ')'] <+: rest) :
        (Blueprint.leaf (Leaf.literal "()")).Takes base text rest none := .no_literal absent inside
    by_cases opens : rest.head? = some '('
    · obtain ⟨tail, rfl⟩ : ∃ tail, rest = '(' :: tail := List.head?_eq_some_iff.mp opens
      obtain ⟨body, after, nested, rfl, takes⟩ | ⟨ended, takes⟩ :=
        ih tail (by simpa using short) (.trans (List.suffix_cons _ _) inside)
      · by_cases closes : after.head? = some ')'
        · obtain ⟨last, rfl⟩ := List.head?_eq_some_iff.mp closes
          refine .inl ⟨_, last, .within nested, by simp, ?_⟩
          have closed := wrapped_closed inside takes (List.suffix_append _ _)
          exact .invoke rfl inner_defined closed.orElse_found.object
        · refine .inr ⟨.unclosed nested closes, chosen (wrapped_unclosed inside takes closes (List.suffix_append _ _)) (no_pair ?_)⟩
          obtain ⟨_, rfl⟩ := nested.head
          rintro ⟨_, ⟨⟩⟩
      · have none := wrapped_none inside takes
        by_cases closed : ['(', ')'] <+: '(' :: tail
        · obtain ⟨after, same⟩ := closed
          cases same
          exact .inl ⟨_, after, .pair, rfl, chosen none (.literal inside)⟩
        · exact .inr ⟨ended.unpaired closed, chosen none (no_pair closed)⟩
    · refine .inr ⟨.of_head? opens, chosen (wrapped_unopened opens inside) (no_pair ?_)⟩
      rintro ⟨_, rfl⟩
      exact opens rfl

/-- Nested pairs are taken one behind the other, as long as there is one. -/
theorem row_exhausts (base : Store) (bound : Nat) : ∀ rest : List Char, rest.length < bound → rest <:+ text.toList →
    ∃ (items : List (List Char)) (last : List Char), (∀ item ∈ items, Nested item) ∧
      rest = items.flatten ++ last ∧ Ended last ∧
      (Blueprint.object (.invoke innerTarget)).Exhausts base text rest last := by
  induction bound with
  | zero => exact fun rest short => absurd short (Nat.not_lt_zero _)
  | succ bound ih =>
    intro rest short inside
    obtain ⟨body, after, nested, rfl, takes⟩ | ⟨ended, takes⟩ :=
      inner_takes base (rest.length + 1) rest (Nat.lt_succ_self _) inside
    · obtain ⟨tail, rfl⟩ := nested.head
      by_cases finished : after = []
      · subst finished
        exact ⟨[_], [], List.forall_mem_singleton.mpr nested, by simp, .of_head? nofun, .last takes.object⟩
      · have shorter : after.length < ('(' :: tail ++ after).length := by
          rw [List.length_append, List.length_cons]
          omega
        obtain ⟨items, last, all, same, ended, exhausts⟩ :=
          ih after (by omega) (.trans (List.suffix_append _ _) inside)
        refine ⟨_ :: items, last, List.forall_mem_cons.mpr ⟨nested, all⟩, ?_, ended,
          .next takes.object shorter finished exhausts⟩
        rw [same, List.flatten_cons, List.append_assoc]
    · exact ⟨[], rest, List.forall_mem_nil _, rfl, ended, .stop takes.object⟩

theorem row_takes (base : Store) (inside : rest <:+ text.toList) :
    (∃ (items : List (List Char)) (last : List Char), items ≠ [] ∧ (∀ item ∈ items, Nested item) ∧
      rest = items.flatten ++ last ∧ Ended last ∧
      (Blueprint.oneOrMore .pattern (.object (.invoke innerTarget))).Takes base text rest (some last)) ∨
    (Ended rest ∧ (Blueprint.oneOrMore .pattern (.object (.invoke innerTarget))).Takes base text rest none) := by
  obtain ⟨body, after, nested, rfl, takes⟩ | ⟨ended, takes⟩ :=
    inner_takes base (rest.length + 1) rest (Nat.lt_succ_self _) inside
  · obtain ⟨items, last, all, same, ended, exhausts⟩ :=
      row_exhausts base (after.length + 1) after (Nat.lt_succ_self _) (.trans (List.suffix_append _ _) inside)
    have shorter : after.length < (body ++ after).length := by
      obtain ⟨tail, rfl⟩ := nested.head
      rw [List.length_append, List.length_cons]
      omega
    refine .inl ⟨body :: items, last, List.cons_ne_nil _ _, List.forall_mem_cons.mpr ⟨nested, all⟩, ?_, ended,
      takes.object.oneOrMore shorter exhausts⟩
    rw [same, List.flatten_cons, List.append_assoc]
  · exact .inr ⟨ended, takes.object.oneOrMore_none⟩

/-- The grammar takes a row, or what has brackets around it. -/
theorem outer_takes (base : Store) (bound : Nat) : ∀ rest : List Char, rest.length < bound → rest <:+ text.toList →
    ∃ left, (Blueprint.invoke outerTarget).Takes base text rest left ∧ Leaves rest left := by
  induction bound with
  | zero => exact fun rest short => absurd short (Nat.not_lt_zero _)
  | succ bound ih =>
    intro rest short inside
    obtain ⟨items, last, present, all, rfl, ended, takes⟩ | ⟨ended, takes⟩ := row_takes base inside
    · exact ⟨some last, .invoke rfl outer_defined takes.object.orElse_found.object, .row present all ended⟩
    · have chosen {left : Option (List Char)} (around : (wrapped (.invoke outerTarget)).Takes base text rest left) :
          (Blueprint.invoke outerTarget).Takes base text rest left :=
        .invoke rfl outer_defined (takes.object.orElse_next around).object
      by_cases opens : rest.head? = some '('
      · obtain ⟨tail, rfl⟩ : ∃ tail, rest = '(' :: tail := List.head?_eq_some_iff.mp opens
        obtain ⟨left, within, leaves⟩ := ih tail (by simpa using short) (.trans (List.suffix_cons _ _) inside)
        cases left with
        | none => exact ⟨none, chosen (wrapped_none inside within), leaves.unclosed ended nofun⟩
        | some after =>
          have behind : after <:+ tail := by
            obtain ⟨body, -, rfl⟩ := leaves.sound after rfl
            exact List.suffix_append _ _
          by_cases closed : after.head? = some ')'
          · obtain ⟨last, rfl⟩ := List.head?_eq_some_iff.mp closed
            exact ⟨some last, chosen (wrapped_closed inside within behind), leaves.closed ended rfl⟩
          · refine ⟨none, chosen (wrapped_unclosed inside within closed behind), leaves.unclosed ended ?_⟩
            rintro last ⟨⟩
            exact closed rfl
      · exact ⟨none, chosen (wrapped_unopened opens inside), .unopened opens⟩

end Grammar

theorem brackets_take (base : Store) (text : Text) :
    ∃ left, (Blueprint.object (.invoke outerTarget)).Takes base text text.toList left ∧
      (left = some [] ↔ Bracketed text.toList) := by
  obtain ⟨left, takes, leaves⟩ := outer_takes base (text.toList.length + 1) text.toList
    (Nat.lt_succ_self _) (List.suffix_refl _)
  refine ⟨left, takes.object, fun whole => ?_, fun bracketed => ?_⟩
  · obtain ⟨body, bracketed, same⟩ := leaves.sound [] whole
    rw [same, List.append_nil]
    exact bracketed
  · exact leaves.complete _ [] bracketed nofun (List.append_nil _).symm

/-- The grammar decides the texts that its rules allow if every choice is left open: neither an ordered
choice nor a repetition that takes all it can refuses any of them. -/
theorem deciding_brackets (history : List Command) (text : Text) :
    ∃ (decision : Bool) (enough : Nat), (∀ fuel, enough ≤ fuel →
      ((Session.deciding fuel brackets text).exec (Store.afterAll history)).1 = .ok decision) ∧
      (decision = true ↔ Bracketed text.toList) := by
  obtain ⟨left, takes, whole⟩ := brackets_take (Store.afterAll history) text
  obtain ⟨enough, decides⟩ := Session.deciding_takes brackets_plain (brackets_drafted _) takes
  exact ⟨_, enough, decides, decide_eq_true_iff.trans whole⟩

section Balance
variable {body other : List Char}

theorem Balanced.within (balanced : Balanced body) : Balanced ('(' :: (body ++ [')'])) where
  present := List.cons_ne_nil _ _
  brackets := by
    simp only [List.mem_cons, List.mem_append, List.not_mem_nil, or_false]
    rintro character (rfl | member | rfl)
    · exact .inl rfl
    · exact balanced.brackets character member
    · exact .inr rfl
  opened front within := by
    cases front with
    | nil => exact Nat.le_refl _
    | cons first front =>
      obtain ⟨rfl, behind⟩ := List.cons_prefix_cons.mp within
      have closed := balanced.closed
      obtain rfl | inside := List.prefix_concat_iff.mp behind
      · simp
        omega
      · have opened := balanced.opened front inside
        simp
        omega
  closed := by
    simp [balanced.closed]

theorem Balanced.append (one : Balanced body) (two : Balanced other) : Balanced (body ++ other) where
  present := List.append_ne_nil_of_left_ne_nil one.present _
  brackets character member :=
    (List.mem_append.mp member).elim (one.brackets character) (two.brackets character)
  opened front within := by
    obtain shorter | ⟨back, rfl⟩ := List.prefix_or_prefix_of_prefix within (List.prefix_append body other)
    · exact one.opened front shorter
    · have closed := one.closed
      have opened := two.opened back ((List.prefix_append_right_inj body).mp within)
      rw [List.count_append, List.count_append]
      omega
  closed := by
    rw [List.count_append, List.count_append, one.closed, two.closed]

theorem Nested.balanced (nested : Nested body) : Balanced body := by
  induction nested with
  | pair => decide
  | within _ ih => exact ih.within

theorem Bracketed.balanced (bracketed : Bracketed body) : Balanced body := by
  induction bracketed with
  | @row items present all =>
    induction items with
    | nil => exact absurd rfl present
    | cons item items ih =>
      obtain ⟨nested, all⟩ := List.forall_mem_cons.mp all
      by_cases last : items = []
      · subst last
        simpa using nested.balanced
      · exact nested.balanced.append (ih last all)
  | within _ ih => exact ih.within

/-- A number of brackets that are opened, and as many that close them. -/
def opposed (width : Nat) : List Char := List.replicate width '(' ++ List.replicate width ')'

theorem opposed_succ (width : Nat) : opposed (width + 1) = '(' :: (opposed width ++ [')']) := by
  rw [opposed, opposed, List.replicate_succ, List.replicate_succ', List.cons_append, List.append_assoc]

theorem nested_iff : Nested body ↔ ∃ width, body = opposed (width + 1) := by
  constructor
  · intro nested
    induction nested with
    | pair => exact ⟨0, rfl⟩
    | within _ ih =>
      obtain ⟨width, rfl⟩ := ih
      exact ⟨width + 1, (opposed_succ _).symm⟩
  · rintro ⟨width, rfl⟩
    induction width with
    | zero => exact .pair
    | succ width ih =>
      rw [opposed_succ]
      exact .within ih

/-- Nested pairs of some widths in a row, with some brackets around them. -/
def spread (depth : Nat) (widths : List Nat) : List Char :=
  List.replicate depth '(' ++ (widths.flatMap fun width => opposed (width + 1)) ++ List.replicate depth ')'

theorem bracketed_iff : Bracketed body ↔ ∃ depth widths, widths ≠ [] ∧ body = spread depth widths := by
  have deeper (depth : Nat) (widths : List Nat) : spread (depth + 1) widths = '(' :: (spread depth widths ++ [')']) := by
    rw [spread, spread, List.replicate_succ, List.replicate_succ']
    simp
  constructor
  · intro bracketed
    induction bracketed with
    | @row items present all =>
      have widths : ∃ widths : List Nat, items = widths.map fun width => opposed (width + 1) := by
        clear present
        induction items with
        | nil => exact ⟨[], rfl⟩
        | cons item items ih =>
          obtain ⟨nested, others⟩ := List.forall_mem_cons.mp all
          obtain ⟨width, rfl⟩ := nested_iff.mp nested
          obtain ⟨widths, rfl⟩ := ih others
          exact ⟨width :: widths, rfl⟩
      obtain ⟨widths, rfl⟩ := widths
      exact ⟨0, widths, by simpa using present, by simp [spread, List.flatMap_def]⟩
    | within _ ih =>
      obtain ⟨depth, widths, present, rfl⟩ := ih
      exact ⟨depth + 1, widths, present, (deeper depth widths).symm⟩
  · rintro ⟨depth, widths, present, rfl⟩
    induction depth with
    | zero =>
      have row : Bracketed (widths.map fun width => opposed (width + 1)).flatten := by
        refine .row (by simpa using present) fun item member => ?_
        obtain ⟨width, -, rfl⟩ := List.mem_map.mp member
        exact nested_iff.mpr ⟨width, rfl⟩
      simpa [spread, List.flatMap_def] using row
    | succ depth ih =>
      rw [deeper]
      exact .within ih

end Balance

/-- What the grammar accepts are balanced brackets, but only those where no pair stands beside what holds
several pairs side by side. -/
theorem deciding_balanced (history : List Command) (text : Text) :
    ∃ (decision : Bool) (enough : Nat), (∀ fuel, enough ≤ fuel →
      ((Session.deciding fuel brackets text).exec (Store.afterAll history)).1 = .ok decision) ∧
      (decision = true → Balanced text.toList) ∧
      (decision = true ↔ ∃ depth widths, widths ≠ [] ∧ text.toList = spread depth widths) := by
  obtain ⟨left, takes, whole⟩ := brackets_take (Store.afterAll history) text
  obtain ⟨enough, decides⟩ := Session.deciding_takes brackets_plain (brackets_drafted _) takes
  refine ⟨_, enough, decides, fun accepted => ?_, decide_eq_true_iff.trans (whole.trans bracketed_iff)⟩
  exact (whole.mp (decide_eq_true_iff.mp accepted)).balanced

/-- Two pairs side by side between brackets, and another pair beside them. -/
def besides : List Char := ['(', '(', ')', '(', ')', ')', '(', ')']

theorem besides_not_bracketed : ¬Bracketed besides := by
  intro bracketed
  generalize same : besides = body at bracketed
  cases bracketed with
  | @row items present all =>
    cases items with
    | nil => exact present rfl
    | cons item items =>
      rw [List.flatten_cons] at same
      cases all item (by simp) with
      | pair => cases same
      | within nested =>
        cases nested with
        | pair => cases same
        | within nested =>
          obtain ⟨tail, rfl⟩ := nested.head
          cases same
  | @within body bracketed =>
    have inner : body = ['(', ')', '(', ')', ')', '('] :=
      (List.append_cancel_right (List.cons.inj same).2.symm : body = _)
    have opened := bracketed.balanced.opened ['(', ')', '(', ')', ')'] (by rw [inner]; exact ⟨['('], rfl⟩)
    exact absurd opened (by decide)

/-- Balanced brackets that the grammar refuses. -/
theorem balanced_refused : Balanced besides ∧ ∃ enough, ∀ fuel, enough ≤ fuel →
    ((Session.deciding fuel brackets besides.toArray).exec (Store.afterAll [])).1 = .ok false := by
  obtain ⟨left, takes, whole⟩ := brackets_take (Store.afterAll []) besides.toArray
  obtain ⟨enough, decides⟩ := Session.deciding_takes brackets_plain (brackets_drafted _) takes
  refine ⟨by decide, enough, fun fuel least => ?_⟩
  rw [decides fuel least, decide_eq_false (mt whole.mp besides_not_bracketed)]

end TextGrammar.Brackets
