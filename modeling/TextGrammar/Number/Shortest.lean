import TextGrammar.Number.Binary64

/-!
The shortest decimal text of a number: the fewest significant digits that read back as the same
number and, among those, the digits nearest to it. Numbers from `10 ^ -4` below `10 ^ 16` are
written with a point, all others with an exponent of at least two digits.
-/
namespace TextGrammar.Binary64

/-- The least `n` with `numerator / denominator < 10 ^ n`, for a positive quotient. -/
def decimalPoint (numerator denominator : Nat) : Int :=
  if denominator ≤ numerator then (Nat.toDigits 10 (numerator / denominator)).length
  else
    let inverse := (Nat.toDigits 10 (denominator / numerator)).length
    -- the quotient is at most `10 ^ (1 - inverse)`, and above `10 ^ -inverse`
    if numerator * Nat.pow 10 (inverse - 1) < denominator then 1 - (inverse : Int)
    else 2 - (inverse : Int)

/-- The digits with `count` places nearest to the number among those that read back, with the
power of ten they are counted in. Of two that are equally near the even one comes first. -/
def digitsWith? (number : Binary64) (count : Nat) : Option (Nat × Int) :=
  let (numerator, denominator) := number.ratio
  let scale := decimalPoint numerator denominator - count
  let top := numerator * Nat.pow 10 (-scale).toNat
  let bottom := denominator * Nat.pow 10 scale.toNat
  let below := top / bottom
  let readsBack := fun digits : Nat => (ofDecimal number.isNegative digits scale) == number
  let twice := 2 * (top % bottom)
  let nearer := if twice < bottom ∨ (twice = bottom ∧ below % 2 = 0) then [below, below + 1]
    else [below + 1, below]
  (nearer.find? readsBack).map (·, scale)

/-- The fewest digits that read back; seventeen always do. -/
def shortestDigits (number : Binary64) : Nat × Int :=
  ((List.range 17).findSome? fun count => digitsWith? number (count + 1)).getD (0, 0)

/-- An exponent as it is written: always signed, and with two digits at least. -/
def exponentText (exponent : Int) : String :=
  let digits := toString exponent.natAbs
  (if exponent < 0 then "-" else "+") ++ (if digits.length < 2 then "0" else "") ++ digits

/-- Significant digits with the decimal point after the first `point` of them. -/
def positioned (digits : List Char) (point : Int) : String :=
  if point ≤ 0 then
    "0." ++ String.ofList (List.replicate (-point).toNat '0' ++ digits)
  else if point < digits.length then
    String.ofList (digits.take point.toNat ++ '.' :: digits.drop point.toNat)
  else
    String.ofList (digits ++ List.replicate (point.toNat - digits.length) '0') ++ ".0"

/-- Significant digits with the exponent of their first one. -/
def scientific (digits : List Char) (exponent : Int) : String :=
  let mantissa := match digits with
    | first :: second :: rest => first :: '.' :: second :: rest
    | short => short
  String.ofList mantissa ++ "e" ++ exponentText exponent

/-- The decimal text of a number. -/
def text (number : Binary64) : String :=
  if number.isNaN then "nan"
  else
    (if number.isNegative then "-" else "") ++
      if number.isInfinite then "inf"
      else if number.magnitudeBits = 0 then "0.0"
      else
        let (value, scale) := shortestDigits number
        let all := Nat.toDigits 10 value
        let point : Int := all.length + scale
        let digits := (all.reverse.dropWhile (· == '0')).reverse
        if -4 < point ∧ point ≤ 16 then positioned digits point
        else scientific digits (point - 1)

end TextGrammar.Binary64
