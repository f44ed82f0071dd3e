import Mathlib.Data.List.TakeWhile
import TextGrammar.Proofs.ValueForms

/-! Words, characters of a class and runs of them as forms, and the leaves that decide them. -/

namespace TextGrammar

namespace Text
variable {text : Text} {before rest : List Char}

theorem getElem?_of_parted (parted : text.toList = before ++ rest) :
    text[before.length]? = rest.head? := by
  rw [← Array.getElem?_toList, parted, List.getElem?_append_right (Nat.le_refl _), Nat.sub_self,
    List.head?_eq_getElem?]

theorem hasAt_offsetOf (parted : text.toList = before ++ rest) (word : List Char) :
    text.hasAt word (text.offsetOf rest) = word.isPrefixOf rest := by
  have inside : text.offsetOf rest ≤ text.size := by
    rw [offsetOf]
    omega
  rw [hasAt, place_offsetOf parted, decide_eq_true inside, Bool.true_and]
  clear inside
  induction word generalizing before rest with
  | nil => simp [hasAt.go]
  | cons character word ih =>
    rw [hasAt.go, getElem?_of_parted parted]
    cases rest with
    | nil => rfl
    | cons first tail =>
      have further : text.toList = (before ++ [first]) ++ tail := by
        rw [parted, List.append_assoc, List.singleton_append]
      have next := ih further
      rw [List.length_append, List.length_singleton] at next
      rw [next, List.head?_cons, List.isPrefixOf_cons_cons]
      simp only [Option.some_beq_some, Bool.beq_comm]

theorem characterAt_offsetOf {character : Char} {tail : List Char}
    (parted : text.toList = before ++ character :: tail) :
    text.characterAt (text.offsetOf (character :: tail)) = .ok character := by
  have here := getElem?_of_parted parted
  rw [offsetOf_of_parted parted, characterAt]
  simp only [Int.natCast_nonneg, ↓reduceIte, Int.toNat_natCast, here, List.head?_cons]

theorem runEnd_offsetOf (parted : text.toList = before ++ rest) (member : Char → Bool) :
    text.runEnd member (text.offsetOf rest) = .ok (text.offsetOf (rest.dropWhile member)) := by
  induction rest generalizing before with
  | nil =>
    rw [runEnd, offsetOf_nil, if_neg (Int.lt_irrefl _)]
    rfl
  | cons character tail ih =>
    have further : text.toList = (before ++ [character]) ++ tail := by
      rw [parted, List.append_assoc, List.singleton_append]
    have next : text.offsetOf (character :: tail) + 1 = text.offsetOf tail := by
      rw [offsetOf, offsetOf, List.length_cons]
      omega
    have below : text.offsetOf (character :: tail) < text.size := by
      rw [offsetOf, List.length_cons]
      omega
    rw [runEnd, if_pos below, characterAt_offsetOf parted]
    dsimp only
    by_cases accepted : member character
    · rw [if_pos accepted, next, ih further, List.dropWhile_cons_of_pos accepted]
    · rw [if_neg accepted, List.dropWhile_cons_of_neg accepted]

end Text

namespace Form

/-- A word. -/
def word (word : String) : Form where
  kind := .pattern
  denotes body value := body = word.toList ∧ value = none
  empty := none
  begins rest := word.toList <+: rest
  ends _ := True

theorem word_lawful {word : String} (some : word.toList ≠ []) : (Form.word word).Lawful where
  starts := by
    rintro body value ⟨rfl, rfl⟩
    exact .inr ⟨some, fun after => List.prefix_append _ _⟩
  suits _ := .pattern _

/-- A character of a class. -/
def character (member : Char → Bool) : Form where
  kind := .pattern
  denotes body value := ∃ first, body = [first] ∧ member first ∧ value = none
  empty := none
  begins rest := ∃ first ∈ rest.head?, member first
  ends _ := True

theorem character_lawful (member : Char → Bool) : (character member).Lawful where
  starts := by
    rintro _ _ ⟨first, rfl, accepted, rfl⟩
    exact .inr ⟨List.cons_ne_nil _ _, fun after => ⟨first, rfl, accepted⟩⟩
  suits _ := .pattern _

/-- Characters of a class, at least one. -/
def run (member : Char → Bool) : Form where
  kind := .pattern
  denotes body value := body ≠ [] ∧ (∀ first ∈ body, member first) ∧ value = none
  empty := none
  begins rest := ∃ first ∈ rest.head?, member first
  ends after := ∀ first ∈ after.head?, ¬member first

theorem run_lawful (member : Char → Bool) : (run member).Lawful where
  starts := by
    rintro body _ ⟨some, accepted, rfl⟩
    refine .inr ⟨some, fun after => ?_⟩
    cases body with
    | nil => exact absurd rfl some
    | cons first tail => exact ⟨first, rfl, accepted first (by simp)⟩
  suits _ := .pattern _

variable {blamed : Fault → Prop} {rest : List Char}

theorem explains_word (word : String) (after : List Char) :
    (Form.word word).Explains blamed (word.toList ++ after) (.ok (some (none, after))) where
  complete parted _ denotes := by
    obtain ⟨rfl, rfl⟩ := denotes
    rw [List.append_cancel_left parted]
  sound read := by
    cases read
    exact ⟨_, rfl, rfl, rfl⟩
  otherwise begins := absurd (List.prefix_append _ _) begins
  faults := nofun

theorem explains_no_word {word : String} (absent : ¬word.toList <+: rest) :
    (Form.word word).Explains blamed rest (.ok none) where
  complete parted _ denotes := by
    obtain ⟨rfl, -⟩ := denotes
    exact absurd (parted ▸ List.prefix_append _ _) absent
  sound := nofun
  otherwise _ := rfl
  faults := nofun

theorem explains_character {member : Char → Bool} {first : Char} (accepted : member first)
    (tail : List Char) :
    (character member).Explains blamed (first :: tail) (.ok (some (none, tail))) where
  complete parted _ denotes := by
    obtain ⟨other, rfl, -, rfl⟩ := denotes
    cases parted
    rfl
  sound read := by
    cases read
    exact ⟨[first], rfl, first, rfl, accepted, rfl⟩
  otherwise begins := absurd ⟨first, rfl, accepted⟩ begins
  faults := nofun

theorem explains_no_character {member : Char → Bool} (absent : ¬(character member).begins rest) :
    (character member).Explains blamed rest (.ok none) where
  complete parted _ denotes := by
    obtain ⟨first, rfl, accepted, -⟩ := denotes
    rw [parted] at absent
    exact absurd ⟨first, rfl, accepted⟩ absent
  sound := nofun
  otherwise _ := rfl
  faults := nofun

theorem dropWhile_of_ends {member : Char → Bool} {body after : List Char}
    (accepted : ∀ first ∈ body, member first) (ends : (run member).ends after) :
    (body ++ after).dropWhile member = after := by
  rw [List.dropWhile_append_of_pos accepted]
  cases after with
  | nil => rfl
  | cons first tail => exact List.dropWhile_cons_of_neg (ends first rfl)

theorem length_dropWhile {member : Char → Bool} (begins : (run member).begins rest) :
    (rest.dropWhile member).length < rest.length := by
  obtain ⟨first, here, accepted⟩ := begins
  cases rest with
  | nil => cases here
  | cons other tail =>
    cases here
    rw [List.dropWhile_cons_of_pos accepted]
    exact Nat.lt_succ_of_le (List.dropWhile_suffix _).length_le

theorem explains_run {member : Char → Bool} (begins : (run member).begins rest) :
    (run member).Explains blamed rest (.ok (some (none, rest.dropWhile member))) where
  complete parted follows denotes := by
    obtain ⟨-, accepted, rfl⟩ := denotes
    rw [parted, dropWhile_of_ends accepted follows]
  sound read := by
    cases read
    refine ⟨rest.takeWhile member, List.takeWhile_append_dropWhile.symm, ?_, ?_, rfl⟩
    · obtain ⟨first, here, accepted⟩ := begins
      cases rest with
      | nil => cases here
      | cons other tail =>
        cases here
        rw [List.takeWhile_cons_of_pos accepted]
        exact List.cons_ne_nil _ _
    · exact fun first there => List.mem_takeWhile_imp there
  otherwise absent := absurd begins absent
  faults := nofun

theorem ends_dropWhile (member : Char → Bool) (rest : List Char) :
    (run member).ends (rest.dropWhile member) := by
  intro first here
  have refused := List.head?_dropWhile_not member rest
  rw [Option.mem_def.mp here] at refused
  simpa using refused

/-- A run that begins is read. -/
theorem Explains.not_begins_run {member : Char → Bool} {given : List Char → Value}
    (explains : ((run member).worth given).Explains blamed rest (.ok none)) :
    ¬(run member).begins rest := by
  intro begins
  have reads : (run member).Explains blamed rest _ := explains_run begins
  obtain ⟨body, parted, denotes⟩ := reads.sound rfl
  cases explains.complete parted (ends_dropWhile member rest) ⟨⟨_, denotes⟩, rfl⟩

theorem explains_no_run {member : Char → Bool} (absent : ¬(run member).begins rest) :
    (run member).Explains blamed rest (.ok none) where
  complete {_ _ after} parted _ denotes := by
    obtain begins := ((run_lawful member).taken rfl denotes).2 after
    rw [parted] at absent
    exact absurd begins absent
  sound := nofun
  otherwise _ := rfl
  faults := nofun

end Form

namespace Trial
variable {trial : Trial} {rest : List Char}

theorem decides_word (word : String) :
    trial.Decides (.word word) (.leaf (Leaf.literal word)) rest := by
  intro inside
  obtain ⟨before, parted⟩ := inside
  have found := Text.hasAt_offsetOf parted.symm word.toList
  by_cases present : word.toList <+: rest
  · obtain ⟨after, rfl⟩ := present
    refine ⟨_, .leaf ?_, Form.explains_word word after⟩
    rw [List.isPrefixOf_iff_prefix.mpr (List.prefix_append _ _)] at found
    have length : trial.text.offsetOf (word.toList ++ after) + word.toList.length =
        trial.text.offsetOf after := by
      rw [Text.offsetOf, Text.offsetOf, List.length_append]
      omega
    simp only [Leaf.literal, Leaf.total, found, ↓reduceIte, length]
    rfl
  · refine ⟨_, .leaf ?_, Form.explains_no_word present⟩
    rw [Bool.eq_false_iff.mpr (mt List.isPrefixOf_iff_prefix.mp present)] at found
    simp only [Leaf.literal, Leaf.total, found]
    rfl

theorem decides_character (member : Char → Bool) :
    trial.Decides (.character member) (.leaf (Leaf.characterIn member)) rest := by
  intro inside
  obtain ⟨before, parted⟩ := inside
  cases rest with
  | nil =>
    refine ⟨_, .leaf ?_, Form.explains_no_character nofun⟩
    rw [Text.offsetOf_nil, Leaf.characterIn, if_neg (Int.lt_irrefl _)]
    rfl
  | cons first tail =>
    have below : trial.text.offsetOf (first :: tail) < trial.text.size := by
      rw [Text.offsetOf, List.length_cons]
      omega
    have next : trial.text.offsetOf (first :: tail) + 1 = trial.text.offsetOf tail := by
      rw [Text.offsetOf, Text.offsetOf, List.length_cons]
      omega
    by_cases accepted : member first
    · refine ⟨_, .leaf ?_, Form.explains_character accepted tail⟩
      rw [Leaf.characterIn, if_pos below, Text.characterAt_offsetOf parted.symm, next]
      simp only [bind, Except.bind, accepted, ↓reduceIte]
      rfl
    · have absent : ¬(Form.character member).begins (first :: tail) := by
        rintro ⟨_, ⟨⟩, holds⟩
        exact accepted holds
      refine ⟨_, .leaf ?_, Form.explains_no_character absent⟩
      rw [Leaf.characterIn, if_pos below, Text.characterAt_offsetOf parted.symm]
      simp only [bind, Except.bind, accepted]
      rfl

theorem decides_run (member : Char → Bool) :
    trial.Decides (.run member) (.leaf (Leaf.charactersIn member)) rest := by
  intro inside
  obtain ⟨before, parted⟩ := inside
  have ended := Text.runEnd_offsetOf parted.symm member
  by_cases begins : (Form.run member).begins rest
  · refine ⟨_, .leaf ?_, Form.explains_run begins⟩
    have moved : ¬trial.text.offsetOf (rest.dropWhile member) = trial.text.offsetOf rest :=
      mt Text.offsetOf_inj.mp (Nat.ne_of_lt (Form.length_dropWhile begins))
    simp only [Leaf.charactersIn, ended, bind, Except.bind, if_neg moved]
    rfl
  · refine ⟨_, .leaf ?_, Form.explains_no_run begins⟩
    have ends : (Form.run member).ends rest := fun first here accepted =>
      begins ⟨first, here, accepted⟩
    have stays : rest.dropWhile member = rest :=
      Form.dropWhile_of_ends (List.forall_mem_nil _) ends
    simp only [Leaf.charactersIn, ended, bind, Except.bind, stays, ↓reduceIte]
    rfl

end Trial

namespace Setting.Reads
variable {setting : Setting} {word : String} {rest : List Char} (tag : Tag) (traced : Bool)

theorem literal (inside : word.toList ++ rest <:+ setting.text.toList) :
    setting.Reads (.object tag traced (.leaf (Leaf.literal word))) (word.toList ++ rest)
      (.ok (some (none, rest))) := by
  have decides : (⟨setting, fun _ => True⟩ : Trial).Decides (.word word) _ (word.toList ++ rest) :=
    Trial.decides_word word
  obtain ⟨reading, reads, explains⟩ := decides inside
  cases explains.complete rfl trivial ⟨rfl, rfl⟩
  exact reads.object tag traced

theorem no_literal (absent : ¬word.toList <+: rest) (inside : rest <:+ setting.text.toList) :
    setting.Reads (.object tag traced (.leaf (Leaf.literal word))) rest (.ok none) := by
  have decides : (⟨setting, fun _ => True⟩ : Trial).Decides (.word word) _ rest := Trial.decides_word word
  obtain ⟨reading, reads, explains⟩ := decides inside
  cases explains.otherwise absent
  exact reads.object tag traced

end Setting.Reads

end TextGrammar
