import TextGrammar.Character.Range

/-!
Decimal digits of all scripts. Unicode assigns them in blocks of ten in the order of their
values, so a block is known by the code point of its zero.
-/
namespace TextGrammar.Character

/-- The code points of the zeros of Unicode 14.0, ascending. -/
def decimalZeros : List Nat :=
  [0x30, 0x660, 0x6f0, 0x7c0, 0x966, 0x9e6, 0xa66, 0xae6, 0xb66, 0xbe6, 0xc66, 0xce6, 0xd66,
    0xde6, 0xe50, 0xed0, 0xf20, 0x1040, 0x1090, 0x17e0, 0x1810, 0x1946, 0x19d0, 0x1a80, 0x1a90,
    0x1b50, 0x1bb0, 0x1c40, 0x1c50, 0xa620, 0xa8d0, 0xa900, 0xa9d0, 0xa9f0, 0xaa50, 0xabf0, 0xff10,
    0x104a0, 0x10d30, 0x11066, 0x110f0, 0x11136, 0x111d0, 0x112f0, 0x11450, 0x114d0, 0x11650,
    0x116c0, 0x11730, 0x118e0, 0x11950, 0x11c50, 0x11d50, 0x11da0, 0x16a60, 0x16ac0, 0x16b50,
    0x1d7ce, 0x1d7d8, 0x1d7e2, 0x1d7ec, 0x1d7f6, 0x1e140, 0x1e2f0, 0x1e950, 0x1fbf0]

/-- The value of a decimal digit: its distance from the zero of its block. -/
def decimalValue? (character : Char) : Option Nat :=
  decimalZeros.findSome? fun first =>
    if first ≤ character.toNat ∧ character.toNat < first + 10 then some (character.toNat - first)
    else none

/-- A decimal digit of any script. -/
def isDecimal (character : Char) : Bool :=
  (decimalValue? character).isSome

/-- The value of a hexadecimal digit; beside the decimal digits of all scripts only the letters
`a` to `f` of either case count. -/
def hexValue? (character : Char) : Option Nat :=
  if 'a' ≤ character ∧ character ≤ 'f' then some (character.toNat - 'a'.toNat + 10)
  else if 'A' ≤ character ∧ character ≤ 'F' then some (character.toNat - 'A'.toNat + 10)
  else decimalValue? character

end TextGrammar.Character
