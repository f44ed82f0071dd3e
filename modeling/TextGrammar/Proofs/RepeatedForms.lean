import TextGrammar.Proofs.Forms

/-! Texts of a form with others of a second form behind them, as many as there are. Where a text of
the second form does not begin, the repetition ends. -/

namespace TextGrammar

namespace Form

/-- Texts of a form one behind the other, with their values. -/
inductive Repeated (form : Form) : List Char → List (Option Value) → Prop
  | nil : Repeated form [] []
  | cons {front back : List Char} {value : Option Value} {values : List (Option Value)} :
      form.denotes front value → Repeated form back values →
        Repeated form (front ++ back) (value :: values)

variable (form next : Form)

/-- A text of a form, and any number of texts of another one behind it. -/
def separated : Form where
  kind := form.kind
  denotes body value := ∃ front back one values, body = front ++ back ∧ form.denotes front one ∧
    next.Repeated back values ∧ value = form.kind.gathered (one :: values)
  empty := none
  begins := form.begins
  ends after := form.ends after ∧ next.ends after ∧ ¬next.begins after

/-- What a form must be like for texts of it to be repeated behind another one. -/
structure Chains (form next : Form) : Prop where
  kind : next.kind = form.kind
  empty : form.empty = none
  none : next.empty = none
  begins : ∀ {rest}, next.begins rest → form.ends rest ∧ next.ends rest

variable {form next}

theorem Lawful.separated (lawful : form.Lawful) (empty : form.empty = none) :
    (form.separated next).Lawful where
  starts := by
    rintro _ _ ⟨front, back, one, values, rfl, denotes, -, -⟩
    obtain ⟨taken, begins⟩ := lawful.taken empty denotes
    refine .inr ⟨by simp [taken], fun after => ?_⟩
    rw [List.append_assoc]
    exact begins _
  suits := by
    rintro _ _ ⟨front, back, one, values, -, -, -, rfl⟩ kind
    have parser : form.kind = .parser := kind
    rw [parser]
    rfl

/-- Repetitions either are none, or begin as the form does. -/
theorem Repeated.begins {body : List Char} {values : List (Option Value)}
    (repeated : next.Repeated body values) (lawful : next.Lawful) (empty : next.empty = none)
    (after : List Char) : (body = [] ∧ values = []) ∨ next.begins (body ++ after) := by
  cases repeated with
  | nil => exact .inl ⟨rfl, rfl⟩
  | cons denotes others =>
    rw [List.append_assoc]
    exact .inr ((lawful.taken empty denotes).2 _)

/-- An outcome of repetitions that goes by a form. -/
structure Accounts (next : Form) (blamed : Fault → Prop) (rest : List Char)
    (outcome : Except Fault (List (Option Value × List Char) × List Char)) : Prop where
  complete : ∀ {body values after}, rest = body ++ after → next.ends after → ¬next.begins after →
    next.Repeated body values → ∃ found, outcome = .ok (found, after) ∧ found.map (·.1) = values
  sound : ∀ {found after}, outcome = .ok (found, after) →
    ∃ body, rest = body ++ after ∧ next.Repeated body (found.map (·.1))
  otherwise : ¬next.begins rest → outcome = .ok ([], rest)
  faults : ∀ {fault}, outcome = .error fault → blamed fault

section Accounts
variable {blamed : Fault → Prop} {rest after front : List Char} {value : Option Value}
  (lawful : next.Lawful) (empty : next.empty = none)
  (meets : ∀ {rest}, next.begins rest → next.ends rest)
include lawful empty meets

theorem Repeated.ends {body : List Char} {values : List (Option Value)}
    (repeated : next.Repeated body values) (follows : next.ends after) : next.ends (body ++ after) := by
  obtain ⟨rfl, -⟩ | begins := repeated.begins lawful empty after
  · exact follows
  · exact meets begins

theorem Accounts.halted {fault : Fault} (explains : next.Explains blamed rest (.error fault)) :
    next.Accounts blamed rest (.error fault) where
  complete parted follows finished repeated := by
    cases repeated with
    | nil => cases explains.otherwise (parted ▸ finished)
    | cons denotes others =>
      rw [List.append_assoc] at parted
      cases explains.complete parted (others.ends lawful empty meets follows) denotes
  sound := nofun
  otherwise absent := by cases explains.otherwise absent
  faults failed := by
    cases failed
    exact explains.faults rfl

theorem Accounts.stopped (explains : next.Explains blamed rest (.ok none)) :
    next.Accounts blamed rest (.ok ([], rest)) where
  complete parted follows finished repeated := by
    cases repeated with
    | nil =>
      refine ⟨[], ?_, rfl⟩
      rw [parted]
      rfl
    | cons denotes others =>
      rw [List.append_assoc] at parted
      cases explains.complete parted (others.ends lawful empty meets follows) denotes
  sound read := by
    cases read
    exact ⟨[], rfl, .nil⟩
  otherwise _ := rfl
  faults := nofun

theorem Accounts.further {outcome : Except Fault (List (Option Value × List Char) × List Char)}
    (explains : next.Explains blamed (front ++ after) (.ok (some (value, after))))
    (denotes : next.denotes front value) (accounts : next.Accounts blamed after outcome) :
    next.Accounts blamed (front ++ after)
      (outcome.map fun (more, last) => ((value, after) :: more, last)) where
  complete parted follows finished repeated := by
    cases repeated with
    | nil =>
      have none := explains.otherwise (parted ▸ finished)
      rw [empty] at none
      cases none
    | cons head others =>
      rw [List.append_assoc] at parted
      cases explains.complete parted (others.ends lawful empty meets follows) head
      obtain ⟨found, rfl, rfl⟩ := accounts.complete rfl follows finished others
      exact ⟨_, rfl, rfl⟩
  sound read := by
    rcases outcome with fault | ⟨more, last⟩
    · cases read
    · cases read
      obtain ⟨back, rfl, repeated⟩ := accounts.sound rfl
      exact ⟨front ++ back, (List.append_assoc _ _ _).symm, .cons denotes repeated⟩
  otherwise absent := by
    have none := explains.otherwise absent
    rw [empty] at none
    cases none
  faults failed := by
    rcases outcome with fault | found
    · exact accounts.faults failed
    · cases failed

omit meets in
theorem Repeated.of_nil {values : List (Option Value)} (repeated : next.Repeated [] values) :
    values = [] := by
  generalize nothing : [] = body at repeated
  cases repeated with
  | nil => rfl
  | cons denotes others =>
    have none := (List.append_eq_nil_iff.mp nothing.symm).1
    exact absurd none (lawful.taken empty denotes).1

omit meets in
/-- Nothing is repeated where nothing is left. -/
theorem Accounts.finished : next.Accounts blamed [] (.ok ([], [])) where
  complete parted _ _ repeated := by
    obtain ⟨rfl, rfl⟩ := List.append_eq_nil_iff.mp parted.symm
    exact ⟨[], rfl, (repeated.of_nil lawful empty).symm⟩
  sound read := by
    cases read
    exact ⟨[], rfl, .nil⟩
  otherwise _ := rfl
  faults := nofun

end Accounts

/-- Texts of a form, one behind the other, as many as there are. -/
def many (form : Form) : Form where
  kind := form.kind
  denotes body value := ∃ values, form.Repeated body values ∧ value = form.kind.gathered values
  empty := some (form.kind.gathered [])
  begins := form.begins
  ends after := form.ends after ∧ ¬form.begins after

theorem Lawful.many (lawful : form.Lawful) (empty : form.empty = none) : form.many.Lawful where
  starts := by
    rintro body _ ⟨values, repeated, rfl⟩
    by_cases none : body = []
    · subst none
      obtain rfl := repeated.of_nil lawful empty
      exact .inl ⟨rfl, rfl⟩
    · refine .inr ⟨none, fun after => ?_⟩
      exact (repeated.begins lawful empty after).resolve_left fun is => none is.1
  suits := by
    rintro _ _ ⟨values, -, rfl⟩ kind
    have parser : form.kind = .parser := kind
    rw [parser]
    rfl

theorem Accounts.many {blamed : Fault → Prop} {rest : List Char}
    {outcome : Except Fault (List (Option Value × List Char) × List Char)}
    (accounts : form.Accounts blamed rest outcome) :
    form.many.Explains blamed rest
      (outcome.map fun (more, last) => some (form.kind.gathered (more.map (·.1)), last)) where
  complete parted follows denotes := by
    obtain ⟨values, repeated, rfl⟩ := denotes
    obtain ⟨found, rfl, rfl⟩ := accounts.complete parted follows.1 follows.2 repeated
    rfl
  sound read := by
    rcases outcome with fault | ⟨more, last⟩
    · cases read
    · cases read
      obtain ⟨body, rfl, repeated⟩ := accounts.sound rfl
      exact ⟨body, rfl, _, repeated, rfl⟩
  otherwise absent := by
    rw [accounts.otherwise absent]
    rfl
  faults failed := by
    rcases outcome with fault | found
    · cases failed
      exact accounts.faults rfl
    · cases failed

section Items
variable {ι : Type} {whole : ι → List Char} {valueOf : ι → Option Value} {good : ι → Prop}

/-- A form of items, told by the items. -/
def Itemises (form : Form) (whole : ι → List Char) (valueOf : ι → Option Value) (good : ι → Prop) : Prop :=
  ∀ {body value}, form.denotes body value ↔ ∃ item, good item ∧ body = whole item ∧ value = valueOf item

theorem Itemises.repeated_iff (itemises : form.Itemises whole valueOf good) {body : List Char}
    {values : List (Option Value)} :
    form.Repeated body values ↔ ∃ items : List ι, (∀ item ∈ items, good item) ∧
      body = items.flatMap whole ∧ values = items.map valueOf := by
  constructor
  · intro repeated
    induction repeated with
    | nil => exact ⟨[], by simp⟩
    | cons denotes _ ih =>
      obtain ⟨item, is, rfl, rfl⟩ := itemises.mp denotes
      obtain ⟨items, all, rfl, rfl⟩ := ih
      exact ⟨item :: items, List.forall_mem_cons.mpr ⟨is, all⟩, rfl, rfl⟩
  · rintro ⟨items, all, rfl, rfl⟩
    induction items with
    | nil => exact .nil
    | cons item items ih =>
      obtain ⟨is, all⟩ := List.forall_mem_cons.mp all
      exact .cons (itemises.mpr ⟨item, is, rfl, rfl⟩) (ih all)

/-- Texts with a character between them. -/
theorem intercalate_cons (separator : Char) (first : List Char) (others : List (List Char)) :
    [separator].intercalate (first :: others) = first ++ others.flatMap (separator :: ·) := by
  induction others generalizing first with
  | nil => simp
  | cons second others ih => simp [ih]

/-- Items with a word between them. -/
theorem Itemises.separated_iff (itemises : form.Itemises whole valueOf good) {between : Form} {separator : Char}
    (separates : ∀ {body value}, between.denotes body value ↔ ∃ back, body = separator :: back ∧ form.denotes back value)
    {body : List Char} {value : Option Value} :
    (form.separated between).denotes body value ↔ ∃ items : List ι, items ≠ [] ∧
      (∀ item ∈ items, good item) ∧ body = [separator].intercalate (items.map whole) ∧
        value = form.kind.gathered (items.map valueOf) := by
  have next : between.Itemises (fun item => separator :: whole item) valueOf good := by
    intro body value
    rw [separates]
    constructor
    · rintro ⟨back, rfl, denotes⟩
      obtain ⟨item, is, rfl, rfl⟩ := itemises.mp denotes
      exact ⟨item, is, rfl, rfl⟩
    · rintro ⟨item, is, rfl, rfl⟩
      exact ⟨whole item, rfl, itemises.mpr ⟨item, is, rfl, rfl⟩⟩
  constructor
  · rintro ⟨_, _, _, _, rfl, denotes, repeated, rfl⟩
    obtain ⟨first, is, rfl, rfl⟩ := itemises.mp denotes
    obtain ⟨items, all, rfl, rfl⟩ := next.repeated_iff.mp repeated
    refine ⟨first :: items, List.cons_ne_nil _ _, List.forall_mem_cons.mpr ⟨is, all⟩, ?_, rfl⟩
    rw [List.map_cons, intercalate_cons, List.flatMap_map]
  · rintro ⟨items, some, all, rfl, rfl⟩
    cases items with
    | nil => exact absurd rfl some
    | cons first items =>
      obtain ⟨is, all⟩ := List.forall_mem_cons.mp all
      refine ⟨_, _, _, _, ?_, itemises.mpr ⟨first, is, rfl, rfl⟩, next.repeated_iff.mpr ⟨items, all, rfl, rfl⟩, rfl⟩
      rw [List.map_cons, intercalate_cons, List.flatMap_map]

end Items

section Separated
variable {blamed : Fault → Prop} {rest after front : List Char} {value : Option Value}
  (other : next.Lawful) (chains : form.Chains next)
include other chains

/-- Behind a text of the form, repetitions may stand, or what may follow them. -/
theorem Chains.ends {back : List Char} {values : List (Option Value)}
    (repeated : next.Repeated back values) (follows : form.ends after) : form.ends (back ++ after) := by
  obtain ⟨rfl, -⟩ | begins := repeated.begins other chains.none after
  · exact follows
  · exact (chains.begins begins).1

theorem Explains.separated_ended {reading : Reading} (explains : form.Explains blamed rest reading)
    (ended : ∀ found, reading ≠ .ok (some found)) :
    (form.separated next).Explains blamed rest reading where
  complete parted follows denotes := by
    obtain ⟨front, back, one, values, rfl, left, repeated, rfl⟩ := denotes
    rw [List.append_assoc] at parted
    exact absurd (explains.complete parted (chains.ends other repeated follows.1) left) (ended _)
  sound read := absurd read (ended _)
  otherwise begins := by
    have read := explains.otherwise begins
    rw [chains.empty] at read
    exact read
  faults := explains.faults

theorem Explains.separated {outcome : Except Fault (List (Option Value × List Char) × List Char)}
    (explains : form.Explains blamed (front ++ after) (.ok (some (value, after))))
    (denotes : form.denotes front value) (accounts : next.Accounts blamed after outcome) :
    (form.separated next).Explains blamed (front ++ after)
      (outcome.map fun (more, last) =>
        some (form.kind.gathered (value :: more.map (·.1)), last)) where
  complete parted follows denotes := by
    obtain ⟨front, back, one, values, rfl, left, repeated, rfl⟩ := denotes
    rw [List.append_assoc] at parted
    cases explains.complete parted (chains.ends other repeated follows.1) left
    obtain ⟨found, rfl, rfl⟩ := accounts.complete rfl follows.2.1 follows.2.2 repeated
    rfl
  sound read := by
    rcases outcome with fault | ⟨more, last⟩
    · cases read
    · cases read
      obtain ⟨back, rfl, repeated⟩ := accounts.sound rfl
      exact ⟨front ++ back, (List.append_assoc _ _ _).symm, front, back, _, _, rfl, denotes, repeated,
        rfl⟩
  otherwise begins := by
    have none := explains.otherwise begins
    rw [chains.empty] at none
    cases none
  faults failed := by
    rcases outcome with fault | found
    · cases failed
      exact accounts.faults rfl
    · cases failed

end Separated

end Form

namespace Trial
variable {trial : Trial} {form next : Form} {rule more : Rule} {rest : List Char} {bound : Nat}

theorem Below.repeats (below : trial.Below next rule bound) (lawful : next.Lawful)
    (empty : next.empty = none) (meets : ∀ {rest}, next.begins rest → next.ends rest)
    (short : rest.length < bound) (inside : rest <:+ trial.text.toList) :
    ∃ outcome, trial.Repeats next.kind rule rest outcome ∧ next.Accounts trial.blamed rest outcome := by
  induction bound generalizing rest with
  | zero => omega
  | succ bound ih =>
    obtain ⟨reading, reads, explains⟩ := below rest short inside
    rcases reading with fault | _ | ⟨value, after⟩
    · exact ⟨_, .halted reads, .halted lawful empty meets explains⟩
    · exact ⟨_, .stopped reads, .stopped lawful empty meets explains⟩
    · obtain ⟨front, rfl, denotes⟩ := explains.sound rfl
      have taken := List.length_pos_iff.mpr (lawful.taken empty denotes).1
      have suits := lawful.suits denotes
      have shorter : after.length < (front ++ after).length := by
        rw [List.length_append]
        omega
      by_cases ended : after = []
      · refine ⟨_, .last reads ended suits, ?_⟩
        subst ended
        exact .further lawful empty meets explains denotes (.finished lawful empty)
      · obtain ⟨outcome, repeats, accounts⟩ := ih (below.mono (Nat.le_succ _)) (by omega)
          (.trans (List.suffix_append _ _) inside)
        exact ⟨_, .next reads suits shorter ended repeats,
          .further lawful empty meets explains denotes accounts⟩

theorem Below.many (below : trial.Below form rule bound) (lawful : form.Lawful)
    (empty : form.empty = none) (meets : ∀ {rest}, form.begins rest → form.ends rest) (item : Tag) :
    trial.Below form.many (.many form.kind item rule) bound := by
  intro rest short inside
  obtain ⟨outcome, repeats, accounts⟩ := below.repeats lawful empty meets short inside
  exact ⟨_, .many item repeats, accounts.many⟩

theorem Below.separated (one : trial.Below form rule bound) (two : trial.Below next more bound)
    (lawful : form.Lawful) (other : next.Lawful) (chains : form.Chains next) :
    trial.Below (form.separated next) (.separated form.kind rule more) bound := by
  intro rest short inside
  obtain ⟨reading, reads, explains⟩ := one rest short inside
  rcases reading with fault | _ | ⟨value, after⟩
  · exact ⟨_, reads.separated_fault, explains.separated_ended other chains nofun⟩
  · exact ⟨_, reads.separated_none, explains.separated_ended other chains nofun⟩
  · obtain ⟨front, rfl, denotes⟩ := explains.sound rfl
    rw [List.length_append] at short
    obtain ⟨outcome, repeats, accounts⟩ := two.repeats other chains.none
      (fun begins => (chains.begins begins).2) (by omega) (.trans (List.suffix_append _ _) inside)
    rw [chains.kind] at repeats
    exact ⟨_, reads.separated (lawful.suits denotes) repeats,
      explains.separated other chains denotes accounts⟩

end Trial

end TextGrammar
