import TextGrammar.Proofs.Conduct

/-! Traces only gain events. What has happened at some moment of a run has happened at its end,
whatever the run goes on to do. -/

namespace TextGrammar
open TextGrammar.Action

namespace Conduct

/-- Nothing that has happened is forgotten. -/
def growing : Conduct where
  free _ := True
  sound _ := True
  leads before after := before.trace <:+ after.trace

theorem growing_allows {before after : Store} (grows : before.trace <:+ after.trace) :
    growing.Allows before after := ⟨trivial, grows⟩

theorem growing_lawful : growing.Lawful where
  refl _ := List.suffix_refl _
  trans := List.IsSuffix.trans
  aside _ same := growing_allows (same.trace ▸ List.suffix_refl _)
  record _ _ := growing_allows (List.suffix_cons _ _)
  refuse _ _ := growing_allows (List.suffix_cons _ _)
  assigned _ _ _ _ := trivial
  defined _ _ _ _ _ := trivial
  owned _ _ := trivial
  bound _ _ _ _ _ := trivial
  make _ _ _ _ _ _ := ⟨trivial, growing_allows (List.suffix_refl _)⟩
  assign _ _ _ _ := growing_allows (List.suffix_refl _)
  forget _ _ := growing_allows (List.suffix_refl _)
  hold _ _ := ⟨trivial, fun allowed => growing_allows allowed.leads⟩
  build _ _ _ _ _ := ⟨trivial, fun allowed => ⟨growing_allows allowed.leads, fun _ =>
    growing_allows (allowed.leads.trans (List.suffix_cons _ _))⟩⟩
  enter _ _ := ⟨trivial, fun allowed => growing_allows
    ((List.suffix_cons _ _).trans (allowed.leads.trans (List.suffix_cons _ _)))⟩

theorem Keeps.grows {α : Type} {good : α → Prop} {action : Action α} (keeps : growing.Keeps good action) :
    action.Grows := fun store => (keeps store trivial).1.leads

theorem growing_keeps {α : Type} {action : Action α} (grows : action.Grows) :
    growing.Keeps (fun _ => True) action := fun store _ => ⟨growing_allows (grows store), fun _ _ => trivial⟩

end Conduct

open Conduct

theorem Rule.run_grows (fuel : Nat) (rule : Rule) (text : Text) (start : Int) :
    (Rule.run fuel rule text start).Grows :=
  (Lawful.run growing_lawful fuel rule text start fun _ _ => trivial).grows

namespace Runner

theorem definitionRule_grows (cell : Cell) (definition : Operand) :
    (definitionRule cell definition).Grows :=
  (Lawful.assembles growing_lawful (definitionRule_assembles cell fun _ _ => trivial)).grows

section Loops
variable {attempt : Int → Action (Option Match)} (grows : ∀ start, (attempt start).Grows)
include grows

theorem repeatFrom_grows (kind : Kind) (size bound : Nat) (position : Int) (found : Array Match) :
    (repeatFrom attempt kind size bound position found).Grows :=
  (Lawful.repeatFrom growing_lawful (fun start => growing_keeps (grows start)) _ _ _ _ _).grows

theorem repeatTimes_grows (kind : Kind) (size count : Nat) (position : Int) (found : Array Match) :
    (repeatTimes attempt kind size count position found).Grows :=
  (Lawful.repeatTimes growing_lawful (fun start => growing_keeps (grows start)) _ _ _ _ _).grows

end Loops

theorem firstOf_grows {attempt : Rule → Action (Option Match)} (grows : ∀ rule, (attempt rule).Grows)
    (rules : List Rule) : (firstOf attempt rules).Grows :=
  (Lawful.firstOf growing_lawful fun rule _ => growing_keeps (grows rule)).grows

variable {runner : Runner} (grows : ∀ rule text start, (runner rule text start).Grows)
include grows

theorem perform_grows (scope : Scope) (script : Script) : (runner.perform scope script).Grows :=
  (Lawful.perform growing_lawful (fun rule text start _ => growing_keeps (grows rule text start))
    (fun _ _ => trivial) script).grows

theorem enter_grows (cell : CellId) (rule : Rule) (text : Text) (start : Int) :
    (runner.enter cell rule text start).Grows :=
  (Lawful.enters growing_lawful (fun rule text start _ => growing_keeps (grows rule text start)) trivial
    (fun _ _ => trivial) text start).grows

theorem continueWith_grows (scope : Scope) (expression : Expression) (text : Text) (start : Int) :
    (runner.continueWith scope expression text start).Grows :=
  (Lawful.continueWith growing_lawful (fun rule text start _ => growing_keeps (grows rule text start))
    (fun _ _ => trivial) expression text start).grows

end Runner

end TextGrammar
