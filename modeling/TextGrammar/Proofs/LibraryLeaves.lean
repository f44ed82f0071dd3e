import TextGrammar.Proofs.SingleRun
import TextGrammar.Sample.Brackets

/-! The leaves that the library makes by itself. What is known of them needs no assumption; of the
leaves that come from elsewhere it has to be assumed. -/

namespace TextGrammar

/-- The leaves that the library makes, and those of others that are let in. -/
inductive Leaf.KnownOr (foreign : Leaf → Prop) : Leaf → Prop
  | literal (word : String) : KnownOr foreign (Leaf.literal word)
  | fixed {count : Int} : 0 ≤ count → KnownOr foreign (Leaf.fixed count)
  | finished : KnownOr foreign Leaf.finished
  | nothing : KnownOr foreign Leaf.nothing
  | failure : KnownOr foreign Leaf.failure
  | pure (value : Value) : KnownOr foreign (Leaf.pure value)
  | charactersIn (member : Char → Bool) : KnownOr foreign (Leaf.charactersIn member)
  | characterIn (member : Char → Bool) : KnownOr foreign (Leaf.characterIn member)
  /-- A function of the rest of the text, whose ends are counted in the units of a codec. -/
  | ofRecogniser (codec : Codec) (recognise : Recogniser) :
      KnownOr foreign (Leaf.ofRecogniser codec recognise)
  | failing (fault : Fault) : KnownOr foreign fun _ _ => .error fault
  | foreign {leaf : Leaf} : foreign leaf → KnownOr foreign leaf

namespace Leaf.KnownOr
variable {foreign : Leaf → Prop}

/-- An expression for bytes sees the rest of the text only. -/
theorem regexBytes (mode : RegexMode) (expression : Regex) :
    KnownOr foreign (Leaf.regexBytes mode expression) := by
  unfold Leaf.regexBytes Leaf.ofBytes
  exact .ofRecogniser _ _

theorem constant (shared : Constant) : KnownOr foreign shared.recognise := by
  cases shared with
  | finished => exact .finished
  | nothing => exact .nothing
  | failure => exact .failure
  | digits => exact .charactersIn _
  | whitespace => exact .charactersIn _
  | letters => exact .charactersIn _

theorem complete (goesOn : (Except Fault (Option Match) → Script) → Prop) :
    Parts.Complete ⟨KnownOr foreign, goesOn⟩ :=
  ⟨.literal, constant, .failing⟩

end Leaf.KnownOr

/-- A negative number of characters is refused before there is a leaf. -/
theorem Expression.fixed_builtFrom {parts : Parts}
    (fixed : ∀ {count : Int}, 0 ≤ count → parts.leaf (Leaf.fixed count)) (count : Int) :
    (Expression.fixed count).BuiltFrom parts := by
  unfold Expression.fixed Expression.strideLeaf
  generalize Numeral.isWritable count = writable
  split
  · trivial
  · split
    · trivial
    next positive => exact fixed (by simpa using positive)

/-- Brackets have no leaves but their words. -/
theorem Sample.brackets_builtFrom (parts : Parts) : Sample.brackets.BuiltFrom parts := by
  have pair : Sample.nestedPair.BuiltFrom parts :=
    fun _ => ⟨⟨⟨trivial, trivial⟩, trivial⟩, trivial⟩
  exact fun _ => ⟨pair, ⟨trivial, trivial⟩, trivial⟩

end TextGrammar
