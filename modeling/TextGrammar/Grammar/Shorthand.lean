import TextGrammar.Grammar.Expression

/-!
Shorthands for writing expressions: a text stands for itself, a sum for a sequence, and a union for
an ordered choice.
-/
namespace TextGrammar

instance : Coe String Expression := ⟨fun word => .raw (.str word)⟩

instance : Add Expression := ⟨.sum⟩

instance : OrOp Expression := ⟨.union⟩

end TextGrammar
