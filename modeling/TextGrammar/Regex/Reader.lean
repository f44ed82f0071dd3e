import TextGrammar.Regex.Token

/-!
Reading of regular expressions: the tokens are taken one by one onto a stack of open groups. A
reference needs a group that is closed already, and inside of a condition on what comes before, one
that was closed before that condition began. Such a condition must also have a fixed width, which is
looked at when all else has been read.
-/
namespace TextGrammar.Regex

/-- The least and the greatest number of characters that a match can have. -/
abbrev Width := Nat × Option Nat

/-- The widths of an expression, given those of the groups that it may refer to. -/
def width (groups : Nat → Width) : Regex → Width
  | .empty | .ahead _ _ | .behind _ _ _ | .anchor _ => (0, some 0)
  | .literal _ | .any | .set _ _ => (1, some 1)
  | .sequence first second =>
    let (least, most) := first.width groups
    let (least₂, most₂) := second.width groups
    (least + least₂, most.bind fun most => most₂.map (most + ·))
  | .choice first second =>
    let (least, most) := first.width groups
    let (least₂, most₂) := second.width groups
    (min least least₂, most.bind fun most => most₂.map (max most))
  | .group _ body | .atomic body => body.width groups
  | .backreference number => groups number
  | .repetition least most _ body =>
    let (bodyLeast, bodyMost) := body.width groups
    let greatest := match bodyMost, most with
      | some 0, _ | _, some 0 => some 0
      | some greatest, some most => some (greatest * most)
      | _, none | none, _ => none
    (bodyLeast * least, greatest)

/-- The greatest width that a condition on what comes before can have. -/
def widthLimit : Nat := 0xffffffff

/-- Whether all matches have the same width, which must not be too large. -/
def isFixed (width : Width) : Bool :=
  width.2 == some width.1 && width.1 ≤ widthLimit

/-- An item of a sequence, and whether a quantifier may follow it. -/
structure Item where
  regex : Regex
  repeatable : Bool

/-- A group that is being read. -/
structure Frame where
  opener : Opener
  /-- The number of the group, when it captures. -/
  number : Nat
  /-- The finished alternatives, the last one first. -/
  alternatives : List Regex
  /-- The items of the current alternative, the last one first. -/
  items : List Item

/-- What is known of the groups read so far. -/
structure Groups where
  /-- How many numbers are given out. -/
  count : Nat := 0
  names : List (String × Nat) := []
  /-- The groups that are closed, with their widths. -/
  closed : List (Nat × Width) := []
  /-- How many numbers were given out when the outermost open condition on what comes before
  began. -/
  horizon : Option Nat := none
  /-- Whether all conditions on what comes before have a fixed width so far. -/
  fixed : Bool := true

/-- The state of the reader: the group being read, and those around it. -/
structure Reader where
  current : Frame
  outer : List Frame
  groups : Groups

namespace Frame

def opened (opener : Opener) (number : Nat) : Frame := ⟨opener, number, [], []⟩

/-- The sequence of the current alternative. -/
def sequence (frame : Frame) : Regex :=
  frame.items.foldl (fun rest item =>
    match rest with
    | .empty => item.regex
    | rest => .sequence item.regex rest) .empty

/-- The whole body of the group: a choice between its alternatives. -/
def body (frame : Frame) : Regex :=
  frame.alternatives.foldl (fun rest alternative => .choice alternative rest) frame.sequence

def push (frame : Frame) (item : Item) : Frame :=
  { frame with items := item :: frame.items }

end Frame

namespace Reader

def push (reader : Reader) (regex : Regex) (repeatable : Bool) : Reader :=
  { reader with current := reader.current.push ⟨regex, repeatable⟩ }

def widthOf (reader : Reader) (number : Nat) : Width :=
  (reader.groups.closed.lookup number).getD (0, some 0)

/-- Opens a group. A name can be given once only. -/
def openGroup (reader : Reader) (opener : Opener) : Reading Reader :=
  let opened := fun (groups : Groups) (number : Nat) =>
    .ok { current := .opened opener number, outer := reader.current :: reader.outer, groups }
  match opener with
  | .capture name =>
    let number := reader.groups.count + 1
    match name with
    | none => opened { reader.groups with count := number } number
    | some name =>
      if (reader.groups.names.lookup name).isSome then .error .malformed
      else
        let names := (name, number) :: reader.groups.names
        opened { reader.groups with count := number, names } number
  | .behind _ =>
    let horizon := reader.groups.horizon.getD reader.groups.count
    opened { reader.groups with horizon := some horizon } 0
  | _ => opened reader.groups 0

/-- Whether one of these groups is a condition on what comes before. -/
def looksBehind (frames : List Frame) : Bool :=
  frames.any fun frame => match frame.opener with
    | .behind _ => true
    | _ => false

/-- Closes the group being read and adds it to the one around it. -/
def closeGroup (reader : Reader) : Reading Reader :=
  match reader.outer with
  | [] => .error .malformed
  | around :: outer =>
    let body := reader.current.body
    let closed := fun (regex : Regex) (groups : Groups) =>
      .ok { current := around.push ⟨regex, true⟩, outer, groups }
    match reader.current.opener with
    | .capture _ =>
      let number := reader.current.number
      let groups := { reader.groups with
        closed := (number, body.width reader.widthOf) :: reader.groups.closed }
      closed (.group number body) groups
    | .plain => closed body reader.groups
    | .atomic => closed (.atomic body) reader.groups
    | .ahead negated => closed (.ahead negated body) reader.groups
    | .behind negated =>
      let width := body.width reader.widthOf
      let groups := { reader.groups with
        horizon := if looksBehind (around :: outer) then reader.groups.horizon else none
        fixed := reader.groups.fixed && isFixed width }
      closed (.behind negated width.1 body) groups

/-- Adds a reference to a group that is closed and may be seen from here. -/
def refer (reader : Reader) (number : Nat) : Reading Reader :=
  let closed := (reader.groups.closed.lookup number).isSome
  let visible := reader.groups.horizon.all (number ≤ ·)
  if closed && visible then .ok (reader.push (.backreference number) true)
  else .error .malformed

/-- Repeats the last item. Positions and repetitions are not repeated. -/
def repeatLast (reader : Reader) (least : Nat) (most : Option Nat) (eagerness : Eagerness) :
    Reading Reader :=
  match reader.current.items with
  | [] => .error .malformed
  | last :: items =>
    if last.repeatable then
      let repeated := match eagerness with
        | .greedy => .repetition least most true last.regex
        | .lazy => .repetition least most false last.regex
        | .possessive => .atomic (.repetition least most true last.regex)
      .ok { reader with
        current := { reader.current with items := ⟨repeated, false⟩ :: items } }
    else .error .malformed

/-- Takes one token. -/
def take (reader : Reader) : Token → Reading Reader
  | .single regex => .ok (reader.push regex true)
  | .anchor condition => .ok (reader.push (.anchor condition) false)
  | .bar =>
    let current := reader.current
    .ok { reader with
      current := { current with
        alternatives := current.sequence :: current.alternatives, items := [] } }
  | .opening opener => reader.openGroup opener
  | .closing => reader.closeGroup
  | .quantifier least most eagerness => reader.repeatLast least most eagerness
  | .reference number => reader.refer number
  | .namedReference name => do reader.refer (← demand (reader.groups.names.lookup name))

/-- Takes the tokens of some characters, each of at least one. The first defect counts. -/
def takeAll (mode : RegexMode) : Nat → Reader → List Char → Reading Reader
  | _, reader, [] => .ok reader
  | 0, _, _ :: _ => .error .malformed
  | fuel + 1, reader, first :: rest => do
    let (token, rest) ← nextToken mode first rest
    let reader ← match token with
      | some token => reader.take token
      | none => .ok reader
    takeAll mode fuel reader rest

end Reader

/-- The expression that a text denotes, if the text is well formed. -/
def read (mode : RegexMode) (source : String) : Reading Regex := do
  let characters := source.toList
  let reader ← Reader.takeAll mode characters.length ⟨.opened .plain 0, [], {}⟩ characters
  require (reader.outer.isEmpty && reader.groups.fixed)
  return reader.current.body

end TextGrammar.Regex
