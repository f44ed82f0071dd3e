import Mathlib.Data.List.Forall2
import TextGrammar.Proofs.Readings

/-! Forms of texts, and rules that decide them. A form says which texts have it and what they are
worth. It also says how such a text begins and what may follow it, so that a rule that looks no
further than the beginning and takes what it can comes to the right end. Forms are put together as
rules are; where a rule decides one, it reads what has the form and nothing else. -/

namespace TextGrammar

/-- A form of texts. -/
structure Form where
  kind : Kind
  /-- The texts of the form, with their values. -/
  denotes : List Char → Option Value → Prop
  /-- The value of the empty text, if that has the form. -/
  empty : Option (Option Value)
  /-- What the rest of a text must be like where a text of the form begins that is not empty. -/
  begins : List Char → Prop
  /-- What the rest of a text must be like where a text of the form ends. -/
  ends : List Char → Prop

namespace Form

structure Lawful (form : Form) : Prop where
  starts : ∀ {body value}, form.denotes body value →
    (body = [] ∧ form.empty = some value) ∨ (body ≠ [] ∧ ∀ after, form.begins (body ++ after))
  suits : ∀ {body value}, form.denotes body value → form.kind.Suits value

/-- A reading of what is left of a text that goes by a form. -/
structure Explains (form : Form) (blamed : Fault → Prop) (rest : List Char) (reading : Reading) :
    Prop where
  /-- What has the form, and ends as it should, is read. -/
  complete : ∀ {body value after}, rest = body ++ after → form.ends after →
    form.denotes body value → reading = .ok (some (value, after))
  /-- What is read has the form. -/
  sound : ∀ {value after}, reading = .ok (some (value, after)) →
    ∃ body, rest = body ++ after ∧ form.denotes body value
  /-- Where nothing of the form begins, the empty text is read if it has the form. -/
  otherwise : ¬form.begins rest → reading = .ok (form.empty.map (·, rest))
  faults : ∀ {fault}, reading = .error fault → blamed fault

end Form

/-- The faults that may come up where grammars are run in a setting. -/
structure Trial extends Setting where
  blamed : Fault → Prop

namespace Trial
variable (trial : Trial)

/-- A rule that reads what has a form from what is left of a text. -/
def Decides (form : Form) (rule : Rule) (rest : List Char) : Prop :=
  rest <:+ trial.text.toList →
    ∃ reading, trial.Reads rule rest reading ∧ form.Explains trial.blamed rest reading

/-- A rule that does so when less than a number of characters is left. -/
def Below (form : Form) (rule : Rule) (bound : Nat) : Prop :=
  ∀ rest, rest.length < bound → trial.Decides form rule rest

variable {trial} {form : Form} {rule : Rule} {rest : List Char} {bound : Nat}

theorem Below.mono (below : trial.Below form rule bound) {less : Nat} (le : less ≤ bound) :
    trial.Below form rule less :=
  fun rest shorter => below rest (Nat.lt_of_lt_of_le shorter le)

theorem Decides.object (decides : trial.Decides form rule rest) (tag : Tag) (traced : Bool) :
    trial.Decides form (.object tag traced rule) rest := by
  intro inside
  obtain ⟨reading, reads, explains⟩ := decides inside
  exact ⟨reading, reads.object tag traced, explains⟩

end Trial

namespace Form

/-- A form in another guise: the same texts, which begin and end in a way that is told less closely
and more closely. -/
structure Refines (other form : Form) : Prop where
  denotes : ∀ {body value}, other.denotes body value ↔ form.denotes body value
  empty : other.empty = form.empty
  begins : ∀ {rest}, form.begins rest → other.begins rest
  ends : ∀ {after}, other.ends after → form.ends after

theorem Refines.lawful {form other : Form} (refines : other.Refines form) (lawful : form.Lawful)
    (kind : other.kind = form.kind) : other.Lawful where
  starts denotes := by
    obtain ⟨none, empty⟩ | ⟨taken, begins⟩ := lawful.starts (refines.denotes.mp denotes)
    · rw [← refines.empty] at empty
      exact .inl ⟨none, empty⟩
    · exact .inr ⟨taken, fun after => refines.begins (begins after)⟩
  suits denotes := by
    have suits := lawful.suits (refines.denotes.mp denotes)
    rw [← kind] at suits
    exact suits

theorem Explains.refine {form other : Form} {blamed : Fault → Prop} {rest : List Char}
    {reading : Reading} (explains : form.Explains blamed rest reading) (refines : other.Refines form) :
    other.Explains blamed rest reading where
  complete parted follows denotes :=
    explains.complete parted (refines.ends follows) (refines.denotes.mp denotes)
  sound read := by
    obtain ⟨body, parted, denotes⟩ := explains.sound read
    exact ⟨body, parted, refines.denotes.mpr denotes⟩
  otherwise begins := by
    rw [refines.empty]
    exact explains.otherwise (mt refines.begins begins)
  faults := explains.faults

section Sequence
variable (first second : Form)

/-- A text of one form and one of another behind it. -/
def followedBy : Form where
  kind := first.kind.joined second.kind
  denotes body value := ∃ front back one two, body = front ++ back ∧ first.denotes front one ∧
    second.denotes back two ∧ value = first.kind.paired second.kind one two
  empty := first.empty.bind fun one => second.empty.map (first.kind.paired second.kind one)
  begins rest := first.begins rest ∨ (first.empty.isSome ∧ second.begins rest)
  ends := second.ends

/-- Where the second form may stand, the first one may end. -/
def Meets : Prop :=
  ∀ {back value after}, second.denotes back value → second.ends after → first.ends (back ++ after)

variable {first second} {blamed : Fault → Prop} {rest after : List Char}

theorem begins_of_followedBy (begins : (first.followedBy second).begins rest)
    (empty : first.empty = none) : first.begins rest := by
  cases begins with
  | inl begins => exact begins
  | inr skipped =>
    rw [empty] at skipped
    cases skipped.1

theorem Lawful.followedBy (lawful : first.Lawful) (other : second.Lawful) :
    (first.followedBy second).Lawful where
  starts := by
    rintro _ _ ⟨front, back, one, two, rfl, left, right, rfl⟩
    obtain ⟨rfl, empty⟩ | ⟨taken, begins⟩ := lawful.starts left
    · obtain ⟨rfl, none⟩ | ⟨taken, begins⟩ := other.starts right
      · refine .inl ⟨rfl, ?_⟩
        simp [Form.followedBy, empty, none]
      · exact .inr ⟨taken, fun after => .inr ⟨by simp [empty], begins after⟩⟩
    · refine .inr ⟨by simp [taken], fun after => .inl ?_⟩
      rw [List.append_assoc]
      exact begins _
  suits := by
    rintro _ _ ⟨front, back, one, two, -, left, right, rfl⟩
    exact (lawful.suits left).paired (other.suits right)

theorem Explains.unfollowed {reading : Reading} (explains : first.Explains blamed rest reading)
    (meets : first.Meets second) (ended : ∀ found, reading ≠ .ok (some found)) :
    (first.followedBy second).Explains blamed rest reading where
  complete parted follows denotes := by
    obtain ⟨front, back, _, _, rfl, left, right, -⟩ := denotes
    rw [List.append_assoc] at parted
    exact absurd (explains.complete parted (meets right follows) left) (ended _)
  sound read := absurd read (ended _)
  otherwise begins := by
    have read := explains.otherwise (mt Or.inl begins)
    cases empty : first.empty with
    | none => simpa [Form.followedBy, empty] using read
    | some one =>
      rw [empty] at read
      exact absurd read (ended _)
  faults := explains.faults

theorem Explains.followedBy {value : Option Value} {later : Reading}
    (explains : first.Explains blamed rest (.ok (some (value, after))))
    (describes : second.Explains blamed after later) (meets : first.Meets second) :
    (first.followedBy second).Explains blamed rest
      (later.map (Option.map fun found => (first.kind.paired second.kind value found.1, found.2))) where
  complete parted follows denotes := by
    obtain ⟨front, back, one, two, rfl, left, right, rfl⟩ := denotes
    rw [List.append_assoc] at parted
    cases explains.complete parted (meets right follows) left
    rw [describes.complete rfl follows right]
    rfl
  sound read := by
    obtain ⟨front, rfl, left⟩ := explains.sound rfl
    rcases later with fault | _ | ⟨next, last⟩
    · cases read
    · cases read
    · cases read
      obtain ⟨back, rfl, right⟩ := describes.sound rfl
      exact ⟨front ++ back, (List.append_assoc _ _ _).symm, front, back, _, _, rfl, left, right, rfl⟩
  otherwise begins := by
    have read := explains.otherwise (mt Or.inl begins)
    cases empty : first.empty with
    | none =>
      rw [empty] at read
      cases read
    | some one =>
      rw [empty] at read
      cases read
      have next := describes.otherwise fun there => begins (.inr ⟨by simp [empty], there⟩)
      rw [next]
      simp only [Form.followedBy, empty]
      cases second.empty <;> rfl
  faults failed := by
    rcases later with fault | found
    · exact describes.faults failed
    · cases failed

end Sequence

end Form

namespace Trial
variable {trial : Trial} {first second : Form} {rule next : Rule} {rest : List Char} {bound : Nat}

theorem Decides.sequence (one : trial.Decides first rule rest)
    (two : ∀ {front after}, rest = front ++ after → (first.empty = none → front ≠ []) →
      trial.Decides second next after)
    (lawful : first.Lawful) (other : second.Lawful) (meets : first.Meets second) :
    trial.Decides (first.followedBy second) (.sequence first.kind second.kind rule next) rest := by
  intro inside
  obtain ⟨reading, reads, explains⟩ := one inside
  rcases reading with fault | _ | ⟨value, after⟩
  · exact ⟨_, reads.sequence_fault _ _, explains.unfollowed meets nofun⟩
  · exact ⟨_, reads.sequence_none _ _, explains.unfollowed meets nofun⟩
  · obtain ⟨front, parted, left⟩ := explains.sound rfl
    have taken (none : first.empty = none) : front ≠ [] := by
      obtain ⟨_, empty⟩ | ⟨taken, -⟩ := lawful.starts left
      · rw [none] at empty
        cases empty
      · exact taken
    obtain ⟨later, continues, describes⟩ := two parted taken (.trans ⟨front, parted.symm⟩ inside)
    have suited found (read : later = .ok (some found)) : second.kind.Suits found.1 := by
      obtain ⟨_, -, right⟩ := describes.sound read
      exact other.suits right
    exact ⟨_, reads.sequence (lawful.suits left) continues suited, explains.followedBy describes meets⟩

theorem Below.sequence (one : trial.Below first rule bound) (two : trial.Below second next bound)
    (lawful : first.Lawful) (other : second.Lawful) (meets : first.Meets second) :
    trial.Below (first.followedBy second) (.sequence first.kind second.kind rule next) bound := by
  refine fun rest short => (one rest short).sequence (fun parted _ => two _ ?_) lawful other meets
  rw [parted, List.length_append] at short
  omega

/-- Behind a text that is not empty, less is left. -/
theorem Below.guarded (one : trial.Below first rule (bound + 1)) (taken : first.empty = none)
    (two : trial.Below second next bound) (lawful : first.Lawful) (other : second.Lawful)
    (meets : first.Meets second) :
    trial.Below (first.followedBy second) (.sequence first.kind second.kind rule next)
      (bound + 1) := by
  refine fun rest short => (one rest short).sequence (fun parted front => two _ ?_) lawful other meets
  have some := List.length_pos_iff.mpr (front taken)
  rw [parted, List.length_append] at short
  omega

end Trial

namespace Form
variable {form first : Form} {blamed : Fault → Prop} {rest : List Char} {reading : Reading}

theorem Lawful.taken (lawful : form.Lawful) (empty : form.empty = none) {body : List Char}
    {value : Option Value} (denotes : form.denotes body value) :
    body ≠ [] ∧ ∀ after, form.begins (body ++ after) := by
  obtain ⟨_, none⟩ | begins := lawful.starts denotes
  · rw [empty] at none
    cases none
  · exact begins

/-- A form, or else the empty text. -/
def optional (form : Form) : Form where
  kind := form.kind
  denotes body value := (body = [] ∧ value = form.kind.nothing) ∨ form.denotes body value
  empty := some form.kind.nothing
  begins := form.begins
  ends after := form.ends after ∧ ¬form.begins after

theorem Lawful.optional (lawful : form.Lawful) (empty : form.empty = none) :
    form.optional.Lawful where
  starts := by
    rintro body value (⟨rfl, rfl⟩ | denotes)
    · exact .inl ⟨rfl, rfl⟩
    · exact .inr (lawful.taken empty denotes)
  suits := by
    rintro body value (⟨-, rfl⟩ | denotes)
    · change form.kind.Suits form.kind.nothing
      cases form.kind with
      | pattern => exact .pattern _
      | parser => exact fun _ => rfl
    · exact lawful.suits denotes

theorem Explains.optional_found {found : Option Value × List Char}
    (explains : form.Explains blamed rest (.ok (some found))) (empty : form.empty = none) :
    form.optional.Explains blamed rest (.ok (some found)) where
  complete parted follows denotes := by
    obtain ⟨rfl, rfl⟩ | denotes := denotes
    · have none := explains.otherwise (parted ▸ follows.2)
      rw [empty] at none
      cases none
    · exact explains.complete parted follows.1 denotes
  sound read := by
    obtain ⟨body, parted, denotes⟩ := explains.sound read
    exact ⟨body, parted, .inr denotes⟩
  otherwise begins := by
    have none := explains.otherwise begins
    rw [empty] at none
    cases none
  faults := nofun

theorem Explains.optional_none (explains : form.Explains blamed rest (.ok none)) :
    form.optional.Explains blamed rest (.ok (some (form.kind.nothing, rest))) where
  complete parted follows denotes := by
    obtain ⟨rfl, rfl⟩ | denotes := denotes
    · rw [parted]
      rfl
    · cases explains.complete parted follows.1 denotes
  sound read := by
    cases read
    exact ⟨[], rfl, .inl ⟨rfl, rfl⟩⟩
  otherwise _ := rfl
  faults := nofun

theorem Explains.optional_fault {fault : Fault} (explains : form.Explains blamed rest (.error fault)) :
    form.optional.Explains blamed rest (.error fault) where
  complete parted follows denotes := by
    obtain ⟨rfl, rfl⟩ | denotes := denotes
    · cases explains.otherwise (parted ▸ follows.2)
    · exact explains.complete parted follows.1 denotes
  sound := nofun
  otherwise begins := by cases explains.otherwise begins
  faults := explains.faults

/-- A text of one of some forms of a kind. -/
def oneOf (kind : Kind) (forms : List Form) : Form where
  kind := kind
  denotes body value := ∃ form ∈ forms, form.denotes body value
  empty := none
  begins rest := ∃ form ∈ forms, form.begins rest
  ends after := ∀ form ∈ forms, form.ends after

/-- Forms of a kind of which no two begin in the same way. -/
structure Apart (kind : Kind) (forms : List Form) : Prop where
  kinds : ∀ form ∈ forms, form.kind = kind
  empty : ∀ form ∈ forms, form.empty = none
  lawful : ∀ form ∈ forms, form.Lawful
  begins : forms.Pairwise fun first second => ∀ rest, first.begins rest → ¬second.begins rest

section Keys
variable {κ : Type} {key : List Char → Option κ} {forms : List Form} {keys : List κ}
  (keyed : List.Forall₂ (fun form value => ∀ rest, form.begins rest → key rest = some value) forms keys)
include keyed

theorem exists_key {form : Form} (member : form ∈ forms) (begins : form.begins rest) :
    ∃ value ∈ keys, key rest = some value := by
  obtain ⟨length, keyed⟩ := List.forall₂_iff_get.mp keyed
  obtain ⟨index, inside, rfl⟩ := List.mem_iff_getElem.mp member
  exact ⟨_, List.get_mem keys ⟨index, by omega⟩, keyed index inside (by omega) rest begins⟩

/-- Forms that are told by a key of what they begin with. -/
theorem begins_apart (distinct : keys.Nodup) :
    forms.Pairwise fun first second => ∀ rest, first.begins rest → ¬second.begins rest := by
  obtain ⟨length, keyed⟩ := List.forall₂_iff_get.mp keyed
  rw [List.pairwise_iff_getElem]
  intro index other inside there less rest one two
  have equal := (keyed index inside (by omega) rest one).symm.trans (keyed other there (by omega) rest two)
  exact List.pairwise_iff_getElem.mp distinct index other (by omega) (by omega) less (Option.some.inj equal)

end Keys

theorem Apart.tail {kind : Kind} {forms : List Form} (apart : Apart kind (first :: forms)) :
    Apart kind forms where
  kinds := (List.forall_mem_cons.mp apart.kinds).2
  empty := (List.forall_mem_cons.mp apart.empty).2
  lawful := (List.forall_mem_cons.mp apart.lawful).2
  begins := (List.pairwise_cons.mp apart.begins).2

theorem Lawful.oneOf {kind : Kind} {forms : List Form} (apart : Apart kind forms) :
    (oneOf kind forms).Lawful where
  starts denotes := by
    obtain ⟨form, member, denotes⟩ := denotes
    obtain ⟨taken, begins⟩ := (apart.lawful form member).taken (apart.empty form member) denotes
    exact .inr ⟨taken, fun after => ⟨form, member, begins after⟩⟩
  suits denotes := by
    obtain ⟨form, member, denotes⟩ := denotes
    have suits := (apart.lawful form member).suits denotes
    rw [apart.kinds form member] at suits
    exact suits

/-- Where the first form is read, or has failed, no other one begins. -/
theorem Explains.oneOf_ended {kind : Kind} {forms : List Form}
    (explains : first.Explains blamed rest reading) (ended : reading ≠ .ok none)
    (apart : Apart kind (first :: forms)) : (oneOf kind (first :: forms)).Explains blamed rest reading where
  complete {_ _ after} parted follows denotes := by
    obtain ⟨form, member, denotes⟩ := denotes
    cases member with
    | head => exact explains.complete parted (follows first (by simp)) denotes
    | tail _ member =>
      have begins := ((apart.tail.lawful form member).taken (apart.tail.empty form member) denotes).2 after
      rw [← parted] at begins
      have none := explains.otherwise fun there =>
        (List.pairwise_cons.mp apart.begins).1 form member rest there begins
      rw [apart.empty first (by simp)] at none
      exact absurd none ended
  sound read := by
    obtain ⟨body, parted, denotes⟩ := explains.sound read
    exact ⟨body, parted, first, by simp, denotes⟩
  otherwise begins := by
    have none := explains.otherwise fun there => begins ⟨first, by simp, there⟩
    rw [apart.empty first (by simp)] at none
    exact absurd none ended
  faults := explains.faults

theorem Explains.oneOf_last {kind : Kind} (explains : form.Explains blamed rest reading)
    (empty : form.empty = none) : (oneOf kind [form]).Explains blamed rest reading where
  complete parted follows denotes := by
    obtain ⟨_, member, denotes⟩ := denotes
    obtain rfl := List.mem_singleton.mp member
    exact explains.complete parted (follows _ member) denotes
  sound read := by
    obtain ⟨body, parted, denotes⟩ := explains.sound read
    exact ⟨body, parted, form, List.mem_singleton.mpr rfl, denotes⟩
  otherwise begins := by
    have read := explains.otherwise fun there => begins ⟨form, List.mem_singleton.mpr rfl, there⟩
    rw [empty] at read
    exact read
  faults := explains.faults

theorem Explains.oneOf_next {kind : Kind} {forms : List Form}
    (explains : first.Explains blamed rest (.ok none))
    (describes : (oneOf kind forms).Explains blamed rest reading) :
    (oneOf kind (first :: forms)).Explains blamed rest reading where
  complete parted follows denotes := by
    obtain ⟨form, member, denotes⟩ := denotes
    cases member with
    | head => cases explains.complete parted (follows first (by simp)) denotes
    | tail _ member =>
      exact describes.complete parted (fun other there => follows other (by simp [there]))
        ⟨form, member, denotes⟩
  sound read := by
    obtain ⟨body, parted, form, member, denotes⟩ := describes.sound read
    exact ⟨body, parted, form, by simp [member], denotes⟩
  otherwise begins := by
    refine describes.otherwise fun there => ?_
    obtain ⟨form, member, there⟩ := there
    exact begins ⟨form, by simp [member], there⟩
  faults := describes.faults

end Form

namespace Trial
variable {trial : Trial} {form : Form} {rule : Rule} {rest : List Char}

theorem Decides.optional (decides : trial.Decides form rule rest) (empty : form.empty = none) :
    trial.Decides form.optional (.optional form.kind rule) rest := by
  intro inside
  obtain ⟨reading, reads, explains⟩ := decides inside
  rcases reading with fault | _ | found
  · exact ⟨_, reads.optional_fault _, explains.optional_fault⟩
  · exact ⟨_, reads.optional_none _, explains.optional_none⟩
  · exact ⟨_, reads.optional_found _, explains.optional_found empty⟩

theorem Decides.union {kind : Kind} {first second : Form} {next : Rule}
    (one : trial.Decides first rule rest) (two : trial.Decides second next rest)
    (apart : Form.Apart kind [first, second]) :
    trial.Decides (.oneOf kind [first, second]) (.orElse rule next) rest := by
  intro inside
  obtain ⟨reading, reads, explains⟩ := one inside
  rcases reading with fault | _ | found
  · exact ⟨_, reads.orElse_fault, explains.oneOf_ended nofun apart⟩
  · obtain ⟨later, continues, describes⟩ := two inside
    have last : (Form.oneOf kind [second]).Explains trial.blamed rest later := describes.oneOf_last
      (apart.empty second (by simp))
    exact ⟨later, reads.orElse_next continues, explains.oneOf_next last⟩
  · exact ⟨_, reads.orElse_found, explains.oneOf_ended nofun apart⟩

theorem Decides.either {kind : Kind} {rules : List Rule} {forms : List Form}
    (all : List.Forall₂ (fun rule form => trial.Decides form rule rest) rules forms)
    (apart : Form.Apart kind forms) : trial.Decides (.oneOf kind forms) (.either rules) rest := by
  intro inside
  induction all with
  | nil => exact ⟨_, .either_nil, nofun, nofun, fun _ => rfl, nofun⟩
  | cons one _ ih =>
    obtain ⟨reading, reads, explains⟩ := one inside
    rcases reading with fault | _ | found
    · exact ⟨_, reads.either_fault, explains.oneOf_ended nofun apart⟩
    · obtain ⟨later, continues, describes⟩ := ih apart.tail
      exact ⟨later, reads.either_next continues, explains.oneOf_next describes⟩
    · exact ⟨_, reads.either_found, explains.oneOf_ended nofun apart⟩

end Trial

end TextGrammar
