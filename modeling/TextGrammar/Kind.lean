/-!
The two kinds of grammars: a pattern only recognises a part of a text, a parser also yields a
value for it.
-/
namespace TextGrammar

/-- Whether a grammar yields values. -/
inductive Kind
  | pattern
  | parser
  deriving DecidableEq, Repr

namespace Kind

/-- The kind as a title, for messages about operands. -/
def title : Kind → String
  | .pattern => "Pattern"
  | .parser => "Parser"

/-- The kind as a plain noun. -/
def noun : Kind → String
  | .pattern => "pattern"
  | .parser => "parser"

/-- The kind described in full. An object copied from one without a name takes this for its name. -/
def description : Kind → String
  | .pattern =>
    "A combinator that recognizes a prefix of the text without producing a value.\n\n" ++
    "    Running a pattern yields the end offset of the matched prefix, or `None`.\n\n" ++
    "    Examples:\n\n    ```pycon\n    >>> ab = literal(\"a\") + literal(\"b\")\n" ++
    "    >>> ab.matches(\"ab\")\n    True\n    >>> ab.match_prefix(\"abc\")\n    2\n" ++
    "    >>> ab.match_prefix(\"xab\", 1)\n    3\n    >>> ab.match_prefix(\"ba\") is None\n" ++
    "    True\n\n    ```\n    "
  | .parser =>
    "A combinator that recognizes a prefix of the text and produces a value.\n\n" ++
    "    Type: `Parser[V]`\n\n" ++
    "    Running a parser yields a `ParseOutcome` with the parsed value and the end offset\n" ++
    "    of the matched prefix, or `None`.\n\n" ++
    "    In order to define a parser for your format:\n\n" ++
    "    1. You start with primitive patterns like `literal(s)`, `fixed(n)` or the leaves\n" ++
    "       in `textcombinators.chars`, and turn them into parsers with\n" ++
    "       `p.captured_text()` or `p.returning(value)`\n" ++
    "    2. You use combinators `p1 + p2`, `p1 | p2`, `p >> f`, `many(p)`, and others to\n" ++
    "       combine them into more complex parsers\n" ++
    "    3. You assign complex parsers to variables to name the rules of your grammar\n\n" ++
    "    !!! Note\n\n" ++
    "        The constructor `Parser.__init__()` is considered **internal**. Use\n" ++
    "        primitives and combinators to construct new parsers.\n    "

end Kind

end TextGrammar
