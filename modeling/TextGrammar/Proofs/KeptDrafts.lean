import TextGrammar.Proofs.AlikeDrafts
import TextGrammar.Proofs.KeptGrammars

/-! What is drafted in the definition of a grammar that is kept in a variable. The name of the grammar
stands for its placeholder there, and for the variable everywhere else, which comes to the same. -/

namespace TextGrammar
open Expression

variable {way : Leeway} {store : Store} {side : Side} {fuel : Nat} {name : String} {kind : Kind}
  {definition expression : Expression} {limit : Option Nat} {cell : CellId} {text : Text} {start : Int}

/-- Runs that are not told apart by the invocations of a grammar with a limit. -/
structure Leeway.Passes (way : Leeway) (cell : CellId) (limit : Option Nat) : Prop where
  counted : ∀ active counts, way.under active counts → limit = none ∨ active (.base cell) = counts (.base cell)
  enters : ∀ active counts, way.under active counts →
    way.under ((Key.base cell).enter active) ((Key.base cell).enter counts)

/-- In a definition its own name is replaced by something like the grammar. -/
theorem Names.Replaced.own {substitute : Expression} {others : Names}
    (found : (others.meaning store.globals name).isSome)
    (drafts : ∀ key (further : Names), further.meaning store.globals name = others.meaning store.globals name →
      DraftsAlike way store side fuel (Pure.pure (.grammar (.new kind (.invoke (.base cell)))))
        (substitute.draft store.globals key further)) :
    (Names.own name kind cell).Replaced way store side fuel (fun other => other = name) name substitute others where
  kept _ same apart := absurd same apart
  replaced _ := ⟨_, meaning_self, found, drafts⟩

namespace Store.Keeps
variable (keeps : store.Keeps name kind definition limit cell)
include keeps

/-- What the name stands for, where no other grammar has taken it. -/
theorem meaning : Names.meaning [] store.globals name = some (.grammar (.new kind (.invoke (.base cell)))) := by
  rw [Names.meaning, Names.draft?, keeps.globals]
  rfl

/-- What the variable comes to. -/
theorem foretold_variable (inside : text.checkOffset start = .ok ()) :
    Session.foretold store (.variable name) text start =
      Blueprint.limit store (fun _ => 0) 1 (.object (.invoke (.base cell))) text start := by
  have drafted : (Expression.variable name).drafted store.globals (.stage 0) [] =
      .ok (.grammar (.new kind (.invoke (.base cell)))) := by
    rw [Expression.drafted, draft_variable, keeps.meaning]
    rfl
  rw [Session.foretold, drafted, inside]
  rfl

variable (plain : definition.Plain fun other => other = name) (unlimited : definition.Unlimited)
  (passes : way.Passes cell limit)
include plain unlimited passes

/-- A grammar that is kept runs like itself. -/
theorem invoke_alike : (Blueprint.invoke (.base cell)).Alike way store side fuel kind (.invoke (.base cell)) := by
  refine .recursive (fun less _ near => ?_) (fun _ _ => rfl) rfl (fun active counts under => ?_) passes.enters
  · have nothing : Names.Replaced way store side less (fun _ => False) name (.variable name) [] [] := ⟨nofun, nofun⟩
    have drafts := drafts_replaced (nothing.shadowed near) definition (plain.mono fun _ => .inl) unlimited
      (.base cell) (.base cell)
    rw [replace_self] at drafts
    rw [keeps.target_definition, Expression.defined]
    exact (drafts.drafted trivial).bind fun _ _ alike => alike.definition _ kind
  · rw [keeps.target_limit]
    exact passes.counted active counts under

/-- The variable, where no other grammar has taken its name. -/
theorem variable_alike (key : Key) {names : Names}
    (meaning : names.meaning store.globals name = some (.grammar (.new kind (.invoke (.base cell))))) :
    DraftsAlike way store side fuel (Pure.pure (.grammar (.new kind (.invoke (.base cell)))))
      ((Expression.variable name).draft store.globals key names) := by
  rw [draft_variable, meaning]
  exact .pure (.grammar (.of_near (.new (keeps.invoke_alike plain unlimited passes))))

/-- An expression comes to the same with the placeholder and with the variable. -/
theorem drafted_alike (own : expression.Plain fun other => other = name) (free : expression.Unlimited) :
    Same way.cut (Draft.Alike way store side fuel)
      (expression.drafted store.globals (.base cell) (.own name kind cell))
      (expression.drafted store.globals (.stage 0) []) := by
  have replaced : (Names.own name kind cell).Replaced way store side fuel (fun other => other = name) name
      (.variable name) [] :=
    .own (by rw [keeps.meaning]; rfl) fun key _ same =>
      keeps.variable_alike plain unlimited passes key (same.trans keeps.meaning)
  have drafts := (drafts_replaced replaced expression own free (.base cell) (.stage 0)).drafted trivial
  rwa [replace_self] at drafts

end Store.Keeps

end TextGrammar
