import TextGrammar.Proofs.Casting

/-! Unrolled definitions: expressions in which a name is replaced by another expression, time and
again. -/

namespace TextGrammar

mutual

/-- An expression with another one in place of a name, wherever the name is not bound. What it is
replaced by must not use the names that are bound there. What functions have captured stays. -/
def Expression.replace (expression : Expression) (name : String) (substitute : Expression) : Expression :=
  match expression with
  | .raw value => .raw value
  | .variable other => if other = name then substitute else .variable other
  | .invalid fault => .invalid fault
  | .leaf kind title recognise => .leaf kind title recognise
  | .constant shared => .constant shared
  | .followedBy first second => .followedBy (first.replace name substitute) (second.replace name substitute)
  | .sum first second => .sum (first.replace name substitute) (second.replace name substitute)
  | .orElse first second => .orElse (first.replace name substitute) (second.replace name substitute)
  | .union first second => .union (first.replace name substitute) (second.replace name substitute)
  | .either kind alternatives => .either kind (Expression.replaceAll alternatives name substitute)
  | .optional operand => .optional (operand.replace name substitute)
  | .many operand => .many (operand.replace name substitute)
  | .oneOrMore operand => .oneOrMore (operand.replace name substitute)
  | .times operand count => .times (operand.replace name substitute) count
  | .separatedBy operand separator =>
    .separatedBy (operand.replace name substitute) (separator.replace name substitute)
  | .captured operand => .captured (operand.replace name substitute)
  | .capturedPattern operand => .capturedPattern (operand.replace name substitute)
  | .returning operand value => .returning (operand.replace name substitute) value
  | .valueFor operand value => .valueFor (operand.replace name substitute) value
  | .erased operand => .erased (operand.replace name substitute)
  | .negated operand => .negated (operand.replace name substitute)
  | .map operand transform => .map (operand.replace name substitute) transform
  | .shifted operand transform functionType => .shifted (operand.replace name substitute) transform functionType
  | .filter operand accept => .filter (operand.replace name substitute) accept
  | .bind operand continuation =>
    .bind (operand.replace name substitute) fun value => (continuation value).replace name substitute
  | .named operand title => .named (operand.replace name substitute) title
  | .copy operand => .copy (operand.replace name substitute)
  | .capturing names body => .capturing names (body.replace name substitute)
  | .retaining names body => .retaining names (body.replace name substitute)
  | .recursive kind binder limit script =>
    if binder = name then .recursive kind binder limit script
    else .recursive kind binder limit fun call => (script call).replace name substitute

def Expression.replaceAll (expressions : List Expression) (name : String) (substitute : Expression) :
    List Expression :=
  match expressions with
  | [] => []
  | expression :: rest =>
    expression.replace name substitute :: Expression.replaceAll rest name substitute

def Script.replace (script : Script) (name : String) (substitute : Expression) : Script :=
  match script with
  | .finish definition => .finish (definition.replace name substitute)
  | .tally label rest => .tally label (rest.replace name substitute)
  | .leak other subject rest => .leak other (subject.replace name substitute) (rest.replace name substitute)
  | .attempt subject text start rest =>
    .attempt (subject.replace name substitute) text start fun outcome => (rest outcome).replace name substitute

end

mutual

/-- An expression without a recursive grammar that has a limit. -/
def Expression.Unlimited : Expression → Prop
  | .raw _ | .variable _ | .invalid _ | .constant _ | .leaf _ _ _ => True
  | .followedBy first second | .sum first second | .orElse first second | .union first second
  | .separatedBy first second => first.Unlimited ∧ second.Unlimited
  | .either _ alternatives => Expression.AllUnlimited alternatives
  | .optional operand | .many operand | .oneOrMore operand | .times operand _ | .captured operand
  | .capturedPattern operand | .returning operand _ | .valueFor operand _ | .erased operand
  | .negated operand | .map operand _ | .shifted operand _ _ | .filter operand _ | .named operand _
  | .copy operand => operand.Unlimited
  | .bind operand continuation => operand.Unlimited ∧ ∀ value, (continuation value).Unlimited
  | .capturing _ body | .retaining _ body => body.Unlimited
  | .recursive _ _ limit script => limit = none ∧ ∀ call, (script call).Unlimited

def Expression.AllUnlimited : List Expression → Prop
  | [] => True
  | expression :: rest => expression.Unlimited ∧ Expression.AllUnlimited rest

def Script.Unlimited : Script → Prop
  | .finish definition => definition.Unlimited
  | .tally _ rest => rest.Unlimited
  | .leak _ subject rest => subject.Unlimited ∧ rest.Unlimited
  | .attempt subject _ _ rest => subject.Unlimited ∧ ∀ outcome, (rest outcome).Unlimited

end

/-- A definition in which the name of its grammar stands for the definition itself, to some depth. -/
def Expression.unrolled (name : String) (definition : Expression) : Nat → Expression
  | 0 => .variable name
  | depth + 1 => definition.replace name (definition.unrolled name depth)

section Replacing
variable (name : String)

mutual

/-- A name in its own place. -/
theorem Expression.replace_self (expression : Expression) : expression.replace name (.variable name) = expression := by
  cases expression with
  | raw | invalid | leaf | constant => rfl
  | «variable» other =>
    rw [Expression.replace]
    split
    next same => rw [same]
    next => rfl
  | followedBy first second | sum first second | orElse first second | union first second
  | separatedBy first second =>
    rw [Expression.replace, Expression.replace_self first, Expression.replace_self second]
  | either kind alternatives => rw [Expression.replace, Expression.replaceAll_self alternatives]
  | optional operand | many operand | oneOrMore operand | times operand | captured operand
  | capturedPattern operand | returning operand | valueFor operand | erased operand | negated operand
  | map operand | shifted operand | filter operand | named operand | copy operand =>
    rw [Expression.replace, Expression.replace_self operand]
  | bind operand continuation =>
    rw [Expression.replace, Expression.replace_self operand]
    congr 1
    funext value
    exact Expression.replace_self (continuation value)
  | capturing names body | retaining names body => rw [Expression.replace, Expression.replace_self body]
  | recursive kind binder limit script =>
    rw [Expression.replace]
    split
    · rfl
    · congr 1
      funext call
      exact Script.replace_self (script call)

theorem Expression.replaceAll_self (expressions : List Expression) :
    Expression.replaceAll expressions name (.variable name) = expressions := by
  cases expressions with
  | nil => rfl
  | cons first rest => rw [Expression.replaceAll, Expression.replace_self first, Expression.replaceAll_self rest]

theorem Script.replace_self (script : Script) : script.replace name (.variable name) = script := by
  cases script with
  | finish definition => rw [Script.replace, Expression.replace_self definition]
  | tally label rest => rw [Script.replace, Script.replace_self rest]
  | leak other subject rest =>
    rw [Script.replace, Expression.replace_self subject, Script.replace_self rest]
  | attempt subject text start rest =>
    rw [Script.replace, Expression.replace_self subject]
    congr 1
    funext outcome
    exact Script.replace_self (rest outcome)

end

variable {name} {substitute : Expression}

/-- What a builder answers with. -/
theorem Script.definition?_replace (script : Script) :
    (script.replace name substitute).definition? = script.definition?.map fun definition =>
      definition.replace name substitute := by
  cases script with
  | finish definition => rfl
  | tally label rest => exact Script.definition?_replace rest
  | leak other subject rest => rfl
  | attempt subject text start rest => rfl

mutual

/-- An expression stays plain if what takes the place of a name is. -/
theorem Expression.Plain.replace {known : String → Prop} {expression : Expression} (own : expression.Plain known)
    (plain : substitute.Plain fun other => other = name) (allowed : known name) :
    (expression.replace name substitute).Plain known := by
  cases expression with
  | raw | invalid | leaf | constant => trivial
  | «variable» other =>
    rw [Expression.replace]
    split
    · exact plain.mono fun _ same => same ▸ allowed
    · exact own
  | followedBy first second | sum first second | orElse first second | union first second
  | separatedBy first second => exact ⟨own.1.replace plain allowed, own.2.replace plain allowed⟩
  | either kind alternatives => exact Expression.AllPlain.replace own plain allowed
  | optional operand | many operand | oneOrMore operand | times operand | captured operand
  | capturedPattern operand | returning operand | valueFor operand | erased operand | negated operand
  | map operand | shifted operand | filter operand | named operand | copy operand =>
    exact @Expression.Plain.replace known operand own plain allowed
  | bind operand continuation =>
    exact ⟨own.1.replace plain allowed, fun value => (own.2 value).replace plain allowed⟩
  | capturing names body | retaining names body => exact ⟨own.1, own.2.replace plain allowed⟩
  | recursive kind binder limit script =>
    rw [Expression.replace]
    split
    · exact own
    · refine ⟨fun call => ?_, fun call => (own.2 call).replace plain (.inr allowed)⟩
      rw [Script.definition?_replace, Script.definition?_replace, own.1 call]

theorem Expression.AllPlain.replace {known : String → Prop} {expressions : List Expression}
    (own : Expression.AllPlain known expressions) (plain : substitute.Plain fun other => other = name)
    (allowed : known name) : Expression.AllPlain known (Expression.replaceAll expressions name substitute) := by
  cases expressions with
  | nil => trivial
  | cons first rest => exact ⟨own.1.replace plain allowed, Expression.AllPlain.replace own.2 plain allowed⟩

theorem Script.Plain.replace {known : String → Prop} {script : Script} (own : script.Plain known)
    (plain : substitute.Plain fun other => other = name) (allowed : known name) :
    (script.replace name substitute).Plain known := by
  cases script with
  | finish definition => exact @Expression.Plain.replace known definition own plain allowed
  | tally label rest => exact @Script.Plain.replace known rest own plain allowed
  | leak => exact own.elim
  | attempt => exact own.elim

end

theorem Expression.Plain.unrolled {definition : Expression} (plain : definition.Plain fun other => other = name)
    (depth : Nat) : (definition.unrolled name depth).Plain fun other => other = name := by
  induction depth with
  | zero => exact (rfl : name = name)
  | succ depth ih => exact plain.replace ih rfl

end Replacing

end TextGrammar
