import TextGrammar.Proofs.Casting
import TextGrammar.Proofs.Likeness

/-! Erasure: a parser without its values is a pattern. An expression for a parser and the expression
for a pattern that has the same tree are drafted side by side, and come to blueprints that differ
only in what they do with values. -/

namespace TextGrammar

/-- What an expression stands for: a text, or a grammar of some kind. -/
inductive Role
  | word
  | grammar (kind : Kind)

namespace Role

/-- The kind of what something stands for; a text stands for the pattern of itself. -/
def kind : Role → Kind
  | .word => .pattern
  | .grammar kind => kind

end Role

/-- A match that a grammar of some kind may find, beside the one that its erasure finds. -/
inductive Match.Erases : Kind → Match → Match → Prop
  | pattern (stop : Int) : Erases .pattern (.span stop) (.span stop)
  | parser (value : Value) (stop : Int) : Erases .parser (.yielding value stop) (.span stop)

namespace Leaf

/-- A leaf that matches what a grammar of some kind does. -/
def IsOf (kind : Kind) (recognise : Leaf) : Prop :=
  ∀ text start found, recognise text start = .ok (some found) → (found.value.isSome ↔ kind = .parser)

/-- The pattern with the same ends. -/
def ends (recognise : Leaf) : Leaf :=
  fun text start => (recognise text start).map (Option.map fun found => .span found.stop)

end Leaf

/-- The kinds of the grammars that an expression may name, the innermost first. -/
abbrev Kinds := List (String × Kind)

/-- A text as an expression for a grammar. -/
def Expression.asPattern : Expression → Expression
  | .raw (.str word) => .literal word
  | other => other

section Erasures
variable (raised : FaultClass → Prop)

/-- A well-kinded expression, of which no part is a condition on values or a grammar that they lead
to, and its erasure: the same tree for patterns, in which what only concerns values is left out. The
placeholders that it may name are of these kinds, and its functions of values give up with faults of
no other classes than these. -/
inductive Expression.Erases : Kinds → Role → Expression → Expression → Prop
  | word {kinds : Kinds} (word : String) :
      Erases kinds .word (.raw (.str word)) (.raw (.str word))
  | placeholder {kinds : Kinds} {name : String} {kind : Kind} :
      kinds.lookup name = some kind → Erases kinds (.grammar kind) (.variable name) (.variable name)
  /-- What cannot be put together cannot be erased either. -/
  | invalid {kinds : Kinds} (kind : Kind) (fault : Fault) :
      Erases kinds (.grammar kind) (.invalid fault) (.invalid fault)
  | pattern {kinds : Kinds} {recognise : Leaf} (name : String) :
      recognise.IsOf .pattern →
        Erases kinds (.grammar .pattern) (.leaf .pattern name recognise) (.leaf .pattern name recognise)
  | constant {kinds : Kinds} (shared : Constant) :
      Erases kinds (.grammar .pattern) (.constant shared) (.constant shared)
  | parser {kinds : Kinds} {recognise : Leaf} (name other : String) :
      recognise.IsOf .parser →
        Erases kinds (.grammar .parser) (.leaf .parser name recognise) (.leaf .pattern other recognise.ends)
  | pure {kinds : Kinds} {value : Value} : value.isWritable = true →
      Erases kinds (.grammar .parser) (.pure value) (.constant .nothing)
  | followedBy {kinds : Kinds} {kind : Kind} {role : Role} {first second shell other : Expression} :
      Erases kinds (.grammar kind) first shell → Erases kinds role second other →
        Erases kinds (.grammar (kind.andThen role.kind)) (.followedBy first second) (.followedBy shell other)
  | sum {kinds : Kinds} {one two : Role} {first second shell other : Expression} :
      Erases kinds one first shell → Erases kinds two second other → ¬(one = .word ∧ two = .word) →
        Erases kinds (.grammar (one.kind.andThen two.kind)) (.sum first second) (.sum shell other)
  | orElse {kinds : Kinds} {role : Role} {first second shell other : Expression} :
      Erases kinds (.grammar role.kind) first shell → Erases kinds role second other →
        Erases kinds (.grammar role.kind) (.orElse first second) (.orElse shell other)
  | union {kinds : Kinds} {one two : Role} {first second shell other : Expression} :
      Erases kinds one first shell → Erases kinds two second other → ¬(one = .word ∧ two = .word) →
        one.kind = two.kind → Erases kinds (.grammar one.kind) (.union first second) (.union shell other)
  /-- The parts are alternatives beside their erasures, with what each of them stands for. -/
  | either {kinds : Kinds} {kind : Kind} {parts : List (Role × Expression × Expression)} :
      (∀ part ∈ parts, part.1.kind = kind) → (∀ part ∈ parts, Erases kinds part.1 part.2.1 part.2.2) →
        Erases kinds (.grammar kind) (.either kind (parts.map (·.2.1))) (.either .pattern (parts.map (·.2.2)))
  | optional {kinds : Kinds} {kind : Kind} {operand shell : Expression} :
      Erases kinds (.grammar kind) operand shell →
        Erases kinds (.grammar kind) (.optional operand) (.optional shell)
  | many {kinds : Kinds} {kind : Kind} {operand shell : Expression} :
      Erases kinds (.grammar kind) operand shell →
        Erases kinds (.grammar kind) (.many operand) (.many shell)
  | oneOrMore {kinds : Kinds} {kind : Kind} {operand shell : Expression} :
      Erases kinds (.grammar kind) operand shell →
        Erases kinds (.grammar kind) (.oneOrMore operand) (.oneOrMore shell)
  | times {kinds : Kinds} {kind : Kind} {operand shell : Expression} (count : Value) :
      Erases kinds (.grammar kind) operand shell →
        Erases kinds (.grammar kind) (.times operand count) (.times shell count)
  | separatedBy {kinds : Kinds} {kind : Kind} {role : Role}
      {operand separator shell other : Expression} :
      Erases kinds (.grammar kind) operand shell → Erases kinds role separator other →
        Erases kinds (.grammar kind) (.separatedBy operand separator) (.separatedBy shell other)
  | captured {kinds : Kinds} {kind : Kind} {operand shell : Expression} :
      Erases kinds (.grammar kind) operand shell → Erases kinds (.grammar .parser) (.captured operand) shell
  | capturedPattern {kinds : Kinds} {role : Role} {operand shell : Expression} :
      Erases kinds role operand shell →
        Erases kinds (.grammar .parser) (.capturedPattern operand) shell.asPattern
  | returning {kinds : Kinds} {operand shell : Expression} (value : Value) :
      Erases kinds (.grammar .pattern) operand shell →
        Erases kinds (.grammar .parser) (.returning operand value) shell
  | valueFor {kinds : Kinds} {role : Role} {operand shell : Expression} (value : Value) :
      Erases kinds role operand shell →
        Erases kinds (.grammar .parser) (.valueFor operand value) shell.asPattern
  | erased {kinds : Kinds} {operand shell : Expression} :
      Erases kinds (.grammar .parser) operand shell → Erases kinds (.grammar .pattern) (.erased operand) shell
  | negated {kinds : Kinds} {operand shell : Expression} :
      Erases kinds (.grammar .parser) operand shell → Erases kinds (.grammar .pattern) (.negated operand) shell
  | map {kinds : Kinds} {transform : Value → Except Fault Value} {operand shell : Expression} :
      (∀ value fault, transform value = .error fault → raised fault.class) →
        Erases kinds (.grammar .parser) operand shell →
          Erases kinds (.grammar .parser) (.map operand transform) shell
  | shifted {kinds : Kinds} {transform : Value → Except Fault Value} {operand shell : Expression}
      (functionType : String) : (∀ value fault, transform value = .error fault → raised fault.class) →
        Erases kinds (.grammar .parser) operand shell →
          Erases kinds (.grammar .parser) (.shifted operand transform functionType) shell
  | named {kinds : Kinds} {kind : Kind} {operand shell : Expression} (name : String) :
      Erases kinds (.grammar kind) operand shell →
        Erases kinds (.grammar kind) (.named operand name) (.named shell name)
  | copy {kinds : Kinds} {kind : Kind} {operand shell : Expression} :
      Erases kinds (.grammar kind) operand shell → Erases kinds (.grammar kind) (.copy operand) (.copy shell)
  | fix {kinds : Kinds} {role : Role} {definition shell : Expression} (binder : String)
      (limit : Option Depth.Request) : Erases ((binder, role.kind) :: kinds) role definition shell →
        Erases kinds (.grammar role.kind) (.fix role.kind binder definition limit)
          (.fix .pattern binder shell limit)

end Erasures

namespace Expression
variable {raised : FaultClass → Prop}

/-- An expression that has an erasure names nothing but placeholders, and so does the erasure. -/
theorem Erases.plain {kinds : Kinds} {role : Role} {expression shell : Expression}
    (erases : Erases raised kinds role expression shell) :
    expression.Plain (fun name => (kinds.lookup name).isSome) ∧ shell.Plain fun name => (kinds.lookup name).isSome := by
  have text {known : String → Prop} {shell : Expression} (plain : shell.Plain known) : shell.asPattern.Plain known := by
    unfold asPattern
    split
    · trivial
    · exact plain
  induction erases with
  | word | invalid | pattern | constant | parser => exact ⟨trivial, trivial⟩
  | placeholder is => exact ⟨Option.isSome_of_eq_some is, Option.isSome_of_eq_some is⟩
  | pure writable =>
    rw [Expression.pure, leafNamedAfter, if_pos writable]
    exact ⟨trivial, trivial⟩
  | followedBy _ _ before after | sum _ _ _ before after | orElse _ _ before after | union _ _ _ _ before after
  | separatedBy _ _ before after => exact ⟨⟨before.1, after.1⟩, before.2, after.2⟩
  | @either kinds kind parts _ _ ih =>
    clear * - ih
    induction parts with
    | nil => exact ⟨trivial, trivial⟩
    | cons part parts rest =>
      have others := rest fun part member => ih part (List.mem_cons_of_mem _ member)
      have here := ih part List.mem_cons_self
      exact ⟨⟨here.1, others.1⟩, here.2, others.2⟩
  | optional _ ih | many _ ih | oneOrMore _ ih | times _ _ ih | captured _ ih | returning _ _ ih | erased _ ih
  | negated _ ih | map _ _ ih | shifted _ _ _ ih | named _ _ ih | copy _ ih => exact ih
  | capturedPattern _ ih | valueFor _ _ ih => exact ⟨ih.1, text ih.2⟩
  | @fix kinds role definition shell binder limit _ ih =>
    have wider (name : String) (known : (List.lookup name ((binder, role.kind) :: kinds)).isSome) :
        name = binder ∨ (kinds.lookup name).isSome := by
      rw [List.lookup_cons] at known
      cases same : name == binder with
      | true => exact .inl (beq_iff_eq.mp same)
      | false => exact .inr (by simpa only [same] using known)
    exact ⟨⟨fun _ => rfl, fun _ => ih.1.mono wider⟩, fun _ => rfl, fun _ => ih.2.mono wider⟩

@[simp]
theorem asPattern_asPattern (expression : Expression) : expression.asPattern.asPattern = expression.asPattern := by
  unfold asPattern
  split <;> split <;> simp_all [literal]

/-- The erasure of a grammar is no text. -/
theorem Erases.asPattern {kinds : Kinds} {kind : Kind} {expression shell : Expression}
    (erases : Erases raised kinds (.grammar kind) expression shell) : shell.asPattern = shell := by
  generalize is : Role.grammar kind = role at erases
  induction erases generalizing kind with
  | word => cases is
  | capturedPattern | valueFor => exact asPattern_asPattern _
  | captured _ ih | returning _ _ ih | erased _ ih | negated _ ih | map _ _ ih | shifted _ _ _ ih => exact ih rfl
  | _ => rfl

end Expression

end TextGrammar
