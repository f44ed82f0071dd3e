import TextGrammar.Proofs.Forms

/-! Forms whose texts have other values than their parts: the text itself, a value given for it, or
one that is made of the old one. Rules that change values decide such forms. -/

namespace TextGrammar

namespace Form
variable {form : Form} {blamed : Fault → Prop} {rest after body : List Char} {value : Option Value}

/-- The same texts, each worth a value of its own. -/
def worth (form : Form) (given : List Char → Value) : Form where
  kind := .parser
  denotes body value := (∃ inner, form.denotes body inner) ∧ value = some (given body)
  empty := form.empty.map fun _ => some (given [])
  begins := form.begins
  ends := form.ends

theorem Lawful.worth (lawful : form.Lawful) (given : List Char → Value) : (form.worth given).Lawful where
  starts := by
    rintro body value ⟨⟨inner, denotes⟩, rfl⟩
    obtain ⟨rfl, empty⟩ | begins := lawful.starts denotes
    · refine .inl ⟨rfl, ?_⟩
      simp [Form.worth, empty]
    · exact .inr begins
  suits := by
    rintro body value ⟨-, rfl⟩ -
    rfl

theorem Explains.worth_ended {reading : Reading} (explains : form.Explains blamed rest reading)
    (ended : ∀ found, reading ≠ .ok (some found)) (given : List Char → Value) :
    (form.worth given).Explains blamed rest reading where
  complete parted follows denotes := by
    obtain ⟨⟨inner, denotes⟩, -⟩ := denotes
    exact absurd (explains.complete parted follows denotes) (ended _)
  sound read := absurd read (ended _)
  otherwise begins := by
    have read := explains.otherwise begins
    cases empty : form.empty with
    | none => simpa [Form.worth, empty] using read
    | some one =>
      rw [empty] at read
      exact absurd read (ended _)
  faults := explains.faults

theorem Explains.worth (explains : form.Explains blamed (body ++ after) (.ok (some (value, after))))
    (denotes : form.denotes body value) (given : List Char → Value) :
    (form.worth given).Explains blamed (body ++ after) (.ok (some (some (given body), after))) where
  complete parted follows denotes := by
    obtain ⟨⟨inner, denotes⟩, rfl⟩ := denotes
    cases explains.complete parted follows denotes
    rw [List.append_cancel_right parted]
  sound read := by
    cases read
    exact ⟨body, rfl, ⟨value, denotes⟩, rfl⟩
  otherwise begins := by
    have read := explains.otherwise begins
    cases empty : form.empty with
    | none =>
      rw [empty] at read
      cases read
    | some one =>
      rw [empty] at read
      simp only [Option.map_some, Except.ok.injEq, Option.some.injEq, Prod.mk.injEq] at read
      have none : body = [] := List.append_left_eq_self.mp read.2.symm
      simp [Form.worth, empty, none]
  faults := nofun

/-- The same texts, with their values changed, as far as that succeeds. -/
def mapped (form : Form) (transform : Value → Except Fault Value) : Form where
  kind := .parser
  denotes body value := ∃ given changed, form.denotes body (some given) ∧
    transform given = .ok changed ∧ value = some changed
  empty := none
  begins := form.begins
  ends := form.ends

theorem Lawful.mapped (lawful : form.Lawful) (empty : form.empty = none)
    (transform : Value → Except Fault Value) : (form.mapped transform).Lawful where
  starts := by
    rintro body value ⟨given, changed, denotes, -, -⟩
    exact .inr (lawful.taken empty denotes)
  suits := by
    rintro body value ⟨given, changed, -, -, rfl⟩ -
    rfl

variable {transform : Value → Except Fault Value}

theorem Explains.mapped_ended {reading : Reading} (explains : form.Explains blamed rest reading)
    (ended : ∀ found, reading ≠ .ok (some found)) (empty : form.empty = none) :
    (form.mapped transform).Explains blamed rest reading where
  complete parted follows denotes := by
    obtain ⟨given, changed, denotes, -⟩ := denotes
    exact absurd (explains.complete parted follows denotes) (ended _)
  sound read := absurd read (ended _)
  otherwise begins := by
    have read := explains.otherwise begins
    rw [empty] at read
    exact read
  faults := explains.faults

theorem Explains.mapped {given : Value}
    (explains : form.Explains blamed (body ++ after) (.ok (some (some given, after))))
    (denotes : form.denotes body (some given)) (empty : form.empty = none)
    (blames : ∀ {fault}, transform given = .error fault → blamed fault) :
    (form.mapped transform).Explains blamed (body ++ after)
      ((transform given).map fun changed => some (some changed, after)) where
  complete parted follows denotes := by
    obtain ⟨other, changed, denotes, transformed, rfl⟩ := denotes
    cases explains.complete parted follows denotes
    rw [transformed]
    rfl
  sound read := by
    cases transformed : transform given with
    | error fault =>
      rw [transformed] at read
      cases read
    | ok changed =>
      rw [transformed] at read
      cases read
      exact ⟨body, rfl, given, changed, denotes, transformed, rfl⟩
  otherwise begins := by
    have read := explains.otherwise begins
    rw [empty] at read
    cases read
  faults failed := by
    cases transformed : transform given with
    | error fault =>
      rw [transformed] at failed
      cases failed
      exact blames transformed
    | ok changed =>
      rw [transformed] at failed
      cases failed

end Form

namespace Trial
variable {trial : Trial} {form : Form} {rule : Rule} {rest : List Char}

theorem Decides.captured (decides : trial.Decides form rule rest) (lawful : form.Lawful) :
    trial.Decides (form.worth fun body => .str (String.ofList body)) (.captured form.kind rule)
      rest := by
  intro inside
  obtain ⟨reading, reads, explains⟩ := decides inside
  rcases reading with fault | _ | ⟨value, after⟩
  · exact ⟨_, reads.captured_fault _, explains.worth_ended nofun _⟩
  · exact ⟨_, reads.captured_none _, explains.worth_ended nofun _⟩
  · obtain ⟨body, rfl, denotes⟩ := explains.sound rfl
    obtain ⟨before, parted⟩ := inside
    exact ⟨_, reads.captured parted.symm (lawful.suits denotes), explains.worth denotes _⟩

theorem Decides.valued (decides : trial.Decides form rule rest) (given : Value) :
    trial.Decides (form.worth fun _ => given) (.valued given rule) rest := by
  intro inside
  obtain ⟨reading, reads, explains⟩ := decides inside
  refine ⟨_, reads.valued given, ?_⟩
  rcases reading with fault | _ | ⟨value, after⟩
  · exact explains.worth_ended nofun _
  · exact explains.worth_ended nofun _
  · obtain ⟨body, rfl, denotes⟩ := explains.sound rfl
    exact explains.worth denotes _

theorem Decides.map {transform : Value → Except Fault Value} (decides : trial.Decides form rule rest)
    (lawful : form.Lawful) (kind : form.kind = .parser) (empty : form.empty = none)
    (blames : ∀ {body given fault}, body <:+: trial.text.toList → form.denotes body (some given) →
      transform given = .error fault → trial.blamed fault) :
    trial.Decides (form.mapped transform) (.map transform rule) rest := by
  intro inside
  obtain ⟨reading, reads, explains⟩ := decides inside
  rcases reading with fault | _ | ⟨value, after⟩
  · exact ⟨_, reads.map_fault _, explains.mapped_ended nofun empty⟩
  · exact ⟨_, reads.map_none _, explains.mapped_ended nofun empty⟩
  · obtain ⟨body, rfl, denotes⟩ := explains.sound rfl
    cases value with
    | none => cases lawful.suits denotes kind
    | some given =>
      have within : body <:+: trial.text.toList :=
        .trans List.infix_append_left inside.isInfix
      exact ⟨_, reads.map, explains.mapped denotes empty (blames within denotes)⟩

end Trial

end TextGrammar
