import TextGrammar.Fault

/-!
Outcomes: a parsed value together with an end, as a caller handles them apart from any text.
-/
namespace TextGrammar

/-- A parsed value and the end of what it was parsed from. -/
structure Outcome where
  value : Value
  stop : Int

namespace Outcome

/-- The same end with the value transformed. -/
def map (outcome : Outcome) (transform : Value → Except Fault Value) : Except Fault Outcome := do
  return { outcome with value := ← transform outcome.value }

/-- The same value with another end. -/
def withStop (outcome : Outcome) (stop : Int) : Outcome :=
  { outcome with stop }

/-- An outcome as text. -/
def printed (outcome : Outcome) : String :=
  s!"ParseOutcome(value={outcome.value.printed}, end={outcome.stop})"

/-- Equality of outcomes: equal values with equal ends. -/
def same (first second : Outcome) : Bool :=
  first.value.sameObject second.value && first.stop == second.stop

end Outcome

end TextGrammar
