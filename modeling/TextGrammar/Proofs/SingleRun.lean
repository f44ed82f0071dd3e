import TextGrammar.Proofs.AlignedEvaluation

/-! A run beside itself. What is aligned there is kept by a single run: a property of the offsets
that it comes to, one of its trace, and what its grammars are put together from. -/

namespace TextGrammar

variable {α : Type} {parts : Parts} {text : Text} {within : Int → Prop} {kept : List Event → Prop}

namespace Alignment

/-- A run and the same run, which stay within some offsets and keep a property of the trace. -/
def solo (parts : Parts) (text : Text) (within : Int → Prop) (kept : List Event → Prop) :
    Alignment where
  parts := parts
  text := text
  other := text
  place first second := first = second ∧ within first
  halts := Eq
  givesUp _ := False
  passed _ := False
  guarded := none
  link first second := first.trace = second.trace ∧ kept first.trace

theorem solo_lawful (complete : parts.Complete)
    (leaves : ∀ {recognise start found}, parts.leaf recognise → within start →
      recognise text start = .ok (some found) → within found.stop)
    (events : ∀ {event trace}, event.Alike (fun first second => first = second ∧ within first) none event →
      kept trace → kept (event :: trace))
    (aside : ∀ {rest}, parts.goesOn rest → ∀ event {trace}, kept trace → kept (event :: trace)) :
    (solo parts text within kept).Lawful where
  complete := complete
  leaves := by
    rintro recognise known first _ ⟨rfl, inside⟩
    change Finds _ (recognise text first) (recognise text first)
    rcases result : recognise text first with fault | ⟨_ | found⟩
    · exact .fault rfl
    · exact .none
    · exact .found ⟨rfl, rfl, leaves known inside result⟩
  same := by rintro _ _ _ _ ⟨rfl, -⟩ ⟨rfl, -⟩; rfl
  finished := by rintro _ _ ⟨rfl, -⟩; rfl
  slice := by rintro _ _ _ _ ⟨rfl, -⟩ ⟨rfl, -⟩; rfl
  rounds := by rintro _ _ ⟨rfl, -⟩; rfl
  halts _ := rfl
  tooDeep := by rintro _ _ _ _ ⟨rfl, -⟩; rfl
  linkStill := by
    rintro first second next later ⟨same, holds⟩ still other
    exact ⟨by rw [still.trace, other.trace, same], still.trace ▸ holds⟩
  linkRecord := by
    rintro first second event other ⟨same, holds⟩ alike
    obtain rfl := alike.eq fun related => related.1
    exact ⟨congrArg (event :: ·) same, events alike holds⟩
  linkAside := by
    rintro rest goesOn first second event other ⟨same, holds⟩ alike
    obtain rfl := alike.eq id
    exact ⟨congrArg (event :: ·) same, aside goesOn event holds⟩
  passesOn := fun _ gaveUp => gaveUp.elim
  passed := fun gone => gone.elim

/-- What is kept from a store on. -/
theorem solo_stores {store : Store} (built : store.BuiltFrom parts) (holds : kept store.trace) :
    (solo parts text within kept).Stores store store :=
  ⟨.refl _ _, built, rfl, holds⟩

variable {answers : α → α → Prop} {action : Action α} {store : Store}

theorem solo_keeps (alone : (solo parts text within kept).Aligned answers action action)
    (built : store.BuiltFrom parts) (holds : kept store.trace) :
    (action.exec store).2.BuiltFrom parts ∧ kept (action.exec store).2.trace ∧
      ∀ answer, (action.exec store).1 = .ok answer → answers answer answer := by
  have ends := alone (solo_stores built holds)
  rcases ended : action.exec store with ⟨outcome, after⟩
  rw [ended] at ends
  cases ends with
  | answer related stores =>
    refine ⟨stores.built, stores.link.2, ?_⟩
    rintro _ ⟨⟩
    exact related
  | halt _ stores => exact ⟨stores.built, stores.link.2, by simp⟩
  | behind gaveUp _ => exact gaveUp.elim

end Alignment

end TextGrammar
