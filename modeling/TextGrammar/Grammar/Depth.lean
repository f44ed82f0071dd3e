import TextGrammar.Fault

/-!
Limits on the nesting of recursive grammars. A limit beyond what the host could nest anyway is
lowered to what is safe, which the log warns of. How many levels the host nests is told with each
limit that is asked for, since a caller can change it.
-/
namespace TextGrammar.Depth

/-- The levels that are kept free unless a caller says otherwise. -/
def reserve : Int := 50

/-- A limit as it is asked for. -/
structure Request where
  limit : Int
  /-- The levels that the host can nest when it is asked. -/
  levels : Int := 1000
  /-- No host nests fewer than are kept free. -/
  ample : reserve ≤ levels := by decide
  deriving DecidableEq, Repr

/-- Asked of a host that nests as many levels as hosts do unless they are told otherwise. -/
instance : Coe Int Request := ⟨fun limit => { limit }⟩

instance : Coe (Option Int) (Option Request) := ⟨Option.map fun limit => { limit }⟩

instance (limit : Nat) : OfNat Request limit := ⟨{ limit }⟩

/-- The granted limit, and whether it is lower than the one asked for. -/
structure Granted where
  limit : Int
  lowered : Bool
  deriving DecidableEq, Repr

/-- The limit that is granted for a requested one. -/
def clamp (requested : Request) (reserved : Int) : Except Fault Granted :=
  if requested.limit < 0 then .error (.negativeDepth requested.limit)
  else if requested.levels - reserved < requested.limit then .ok ⟨requested.levels - reserved, true⟩
  else .ok ⟨requested.limit, false⟩

/-- The warning about a lowered limit. -/
def warning (requested : Request) (granted : Int) : String :=
  s!"Requested depth {requested.limit} exceeds Python recursion limit ({requested.levels}). " ++
    s!"Clamping to {granted} to prevent RecursionError."

end TextGrammar.Depth
