import Mathlib.Data.String.Basic
import TextGrammar.Proofs.PatternExtents
import TextGrammar.Proofs.Units

/-! Encoded texts. The units of a codec are those that the standard encoding has for the characters, so an
end among the bytes of a text is at a character if and only if it can be converted to an offset. -/

namespace TextGrammar

namespace Text
variable {text : Text} {start stop : Int} (valid : 0 ≤ start)
include valid

theorem toList_suffix (inside : start ≤ text.size) : (text.suffix start).toList = text.toList.drop start.toNat := by
  rw [suffix, place_of_nonneg valid inside]
  simp

theorem size_suffix (inside : start ≤ text.size) : ((text.suffix start).size : Int) = text.size - start := by
  rw [← Array.length_toList, toList_suffix valid inside, List.length_drop, Array.length_toList]
  omega

/-- The characters between two offsets. -/
theorem toList_slice (later : start ≤ stop) (inside : stop ≤ text.size) :
    (text.slice start stop).toList = (text.toList.drop start.toNat).take (stop - start).toNat := by
  rw [slice, place_of_nonneg valid (by omega), place_of_nonneg (by omega) inside, String.toList_ofList,
    Array.toList_extract, List.extract]
  congr 1
  omega

/-- A text is cut in two at every offset behind another one. -/
theorem toString_suffix (later : start ≤ stop) (inside : stop ≤ text.size) :
    (text.suffix start).toString = text.slice start stop ++ text.slice stop text.size := by
  apply String.toList_injective
  rw [String.toList_append, toList_slice valid later inside, toList_slice (by omega) inside (Int.le_refl _),
    toString, String.toList_ofList, toList_suffix valid (by omega)]
  have rest : (text.toList.drop stop.toNat).take (text.size - stop).toNat =
      (text.toList.drop start.toNat).drop (stop - start).toNat := by
    rw [List.drop_drop, List.take_of_length_le (by simp only [List.length_drop, Array.length_toList]; omega)]
    congr 1
    omega
  rw [rest, List.take_append_drop]

end Text

/-- The 16-bit units of a character: the character itself, or a pair of surrogates. -/
def Utf16.encodeChar (character : Char) : List UInt16 :=
  if character.toNat < 0x10000 then [.ofNat character.toNat]
  else
    let above := character.toNat - 0x10000
    [.ofNat (0xd800 + above / 0x400), .ofNat (0xdc00 + above % 0x400)]

/-- The UTF-16 encoding of some characters. -/
def Utf16.encode (characters : List Char) : List UInt16 :=
  characters.flatMap encodeChar

/-- The characters that some 16-bit units stand for. -/
def Utf16.decode : List UInt16 → List Char
  | [] => []
  | [unit] => [.ofNat unit.toNat]
  | unit :: low :: rest =>
    if 0xd800 ≤ unit.toNat ∧ unit.toNat < 0xdc00 then
      .ofNat (0x10000 + (unit.toNat - 0xd800) * 0x400 + (low.toNat - 0xdc00)) :: decode rest
    else .ofNat unit.toNat :: decode (low :: rest)

/-- Nothing gets lost in UTF-16: a unit that stands for a character alone is no surrogate. -/
theorem Utf16.decode_encode (characters : List Char) : decode (encode characters) = characters := by
  induction characters with
  | nil => rfl
  | cons character rest ih =>
    have valid : character.toNat.isValidChar := character.valid
    change decode (encodeChar character ++ encode rest) = character :: rest
    by_cases below : character.toNat < 0x10000
    · have unit : (UInt16.ofNat character.toNat).toNat = character.toNat := UInt16.toNat_ofNat_of_lt' below
      have alone : ¬(0xd800 ≤ character.toNat ∧ character.toNat < 0xdc00) := by
        rcases valid with low | high <;> omega
      rw [encodeChar, if_pos below]
      cases more : encode rest with
      | nil =>
        rw [more] at ih
        cases ih
        simp [decode, unit, Char.ofNat_toNat]
      | cons low units =>
        rw [List.singleton_append, decode, unit, if_neg alone, ← more, ih, Char.ofNat_toNat]
    · have small : character.toNat < 0x110000 := by
        rcases valid with low | high <;> omega
      have first : (UInt16.ofNat (0xd800 + (character.toNat - 0x10000) / 0x400)).toNat =
          0xd800 + (character.toNat - 0x10000) / 0x400 := UInt16.toNat_ofNat_of_lt' (by change _ < 65536; omega)
      have second : (UInt16.ofNat (0xdc00 + (character.toNat - 0x10000) % 0x400)).toNat =
          0xdc00 + (character.toNat - 0x10000) % 0x400 := UInt16.toNat_ofNat_of_lt' (by change _ < 65536; omega)
      have whole : 0x10000 + (0xd800 + (character.toNat - 0x10000) / 0x400 - 0xd800) * 0x400 +
          (0xdc00 + (character.toNat - 0x10000) % 0x400 - 0xdc00) = character.toNat := by omega
      rw [encodeChar, if_neg below]
      change decode (_ :: _ :: encode rest) = _
      rw [decode, first, second, if_pos (by omega), whole, ih, Char.ofNat_toNat]

namespace Codec

theorem utf8Width_eq (character : Char) : utf8Width character = character.utf8Size := by
  have same (bound : UInt32) : (character.val ≤ bound) = (character.toNat ≤ bound.toNat) := rfl
  simp only [utf8Width, Char.utf8Size, same]
  simp only [UInt32.toNat_ofNatLT]
  repeat' split
  all_goals omega

theorem utf16Width_eq (character : Char) : utf16Width character = (Utf16.encodeChar character).length := by
  rw [utf16Width, Utf16.encodeChar]
  by_cases below : character.toNat < 0x10000
  · rw [if_neg (by omega), if_pos below]
    rfl
  · rw [if_pos (by omega), if_neg below]
    rfl

/-- Widths add up to a measure of the characters that does so as well. -/
theorem sumWidths_measure {width : Char → Int} {measure : List Char → Nat} (none : measure [] = 0)
    (more : ∀ character rest, (measure (character :: rest) : Int) = width character + measure rest) {count : Nat}
    {characters : List Char} (inside : count ≤ characters.length) :
    sumWidths width count characters = some (measure (characters.take count) : Int) := by
  induction characters generalizing count with
  | nil =>
    obtain rfl : count = 0 := by simpa using inside
    simp [sumWidths, none]
  | cons character rest ih =>
    cases count with
    | zero => simp [sumWidths, none]
    | succ count =>
      rw [sumWidths, ih (by simpa using inside), List.take_succ_cons, more]
      rfl

theorem sumWidths_utf8 {count : Nat} {characters : List Char} (inside : count ≤ characters.length) :
    sumWidths utf8Width count characters = some ((String.ofList (characters.take count)).toUTF8.size : Int) := by
  let measure (characters : List Char) : Nat := (String.ofList characters).toUTF8.size
  refine sumWidths_measure (show measure [] = 0 from rfl) (fun character rest => ?_) inside
  dsimp only [measure]
  simp only [String.toUTF8_eq_toByteArray, String.size_toByteArray, String.utf8ByteSize_ofList, String.utf8Len_cons,
    utf8Width_eq]
  omega

theorem sumWidths_utf16 {count : Nat} {characters : List Char} (inside : count ≤ characters.length) :
    sumWidths utf16Width count characters = some ((Utf16.encode (characters.take count)).length : Int) := by
  let measure (characters : List Char) : Nat := (Utf16.encode characters).length
  refine sumWidths_measure (show measure [] = 0 from rfl) (fun character rest => ?_) inside
  dsimp only [measure]
  rw [Utf16.encode, List.flatMap_cons, List.length_append, utf16Width_eq]
  rfl

section Units
variable {text : Text} {start stop : Int} (valid : 0 ≤ start)
include valid

/-- The units of UTF-8 between two offsets are the bytes of the characters there. -/
theorem units_utf8 (later : start ≤ stop) (inside : stop ≤ text.size) :
    utf8.units text start stop = .ok (text.slice start stop).toUTF8.size := by
  have enough : (stop - start).toNat ≤ (text.toList.drop start.toNat).length := by
    simp only [List.length_drop, Array.length_toList]
    omega
  rw [units_of_width valid rfl later inside, sumWidths_utf8 enough, ← Text.toList_slice valid later inside,
    String.ofList_toList]

/-- The units of UTF-16 between two offsets are those of the characters there. -/
theorem units_utf16 (later : start ≤ stop) (inside : stop ≤ text.size) :
    utf16.units text start stop = .ok (Utf16.encode (text.slice start stop).toList).length := by
  have enough : (stop - start).toNat ≤ (text.toList.drop start.toNat).length := by
    simp only [List.length_drop, Array.length_toList]
    omega
  rw [units_of_width valid rfl later inside, sumWidths_utf16 enough, ← Text.toList_slice valid later inside]

/-- So many bytes from an offset on lead to another one if they are those of the characters between. -/
theorem charactersAfter_utf8 (inside : start ≤ text.size) {count : Nat} :
    utf8.charactersAfter text start count = .ok stop ↔
      start ≤ stop ∧ stop ≤ text.size ∧ (text.slice start stop).toUTF8.size = count := by
  rw [charactersAfter_eq_ok_iff valid utf8_positive inside]
  refine and_congr_right fun later => and_congr_right fun before => ?_
  rw [units_utf8 valid later before, Except.ok.injEq, Int.natCast_inj]

/-- The places between the characters of the rest of a text are those where it is cut at an offset. -/
theorem isValid_suffix (inside : start ≤ text.size) {count : Nat} :
    String.Pos.Raw.IsValid (text.suffix start).toString ⟨count⟩ ↔
      ∃ stop, start ≤ stop ∧ stop ≤ text.size ∧ (text.slice start stop).toUTF8.size = count := by
  rw [String.Pos.Raw.isValid_iff_exists_append]
  constructor
  · intro ⟨before, after, cut, place⟩
    have characters := congrArg String.toList cut
    rw [Text.toString, String.toList_ofList, String.toList_append, Text.toList_suffix valid inside] at characters
    have length := congrArg List.length characters
    simp only [List.length_drop, Array.length_toList, List.length_append] at length
    refine ⟨start + before.toList.length, by omega, by omega, ?_⟩
    have same : text.slice start (start + before.toList.length) = before := by
      apply String.toList_injective
      rw [Text.toList_slice valid (by omega) (by omega), characters, add_sub_cancel_left, Int.toNat_natCast,
        List.take_left]
    rw [same, String.toUTF8_eq_toByteArray, String.size_toByteArray]
    exact (congrArg String.Pos.Raw.byteIdx place).symm
  · intro ⟨stop, later, before, size⟩
    refine ⟨_, _, Text.toString_suffix valid later before, ?_⟩
    rw [String.toUTF8_eq_toByteArray, String.size_toByteArray] at size
    rw [← size]
    rfl

end Units

end Codec

namespace Leaf
variable (matchBytes? : List UInt8 → Option Nat) {text : Text} {start : Int}

/-- What a leaf for bytes finds is told by what its function finds. -/
theorem ofBytes_eq (text : Text) (start : Int) :
    ofBytes matchBytes? text start = match matchBytes? (text.suffix start).toString.toUTF8.toList with
      | none => .ok none
      | some count => (fun stop => some (.span stop)) <$> Codec.utf8.charactersAfter text start count := by
  rw [ofBytes, ofRecogniser, Codec.continueAt]
  cases matchBytes? (text.suffix start).toString.toUTF8.toList with
  | none => rfl
  | some count =>
    change (do
      let stop ← Codec.utf8.charactersAfter text start count
      return some (Match.span stop)) = (fun stop => some (.span stop)) <$> Codec.utf8.charactersAfter text start count
    cases Codec.utf8.charactersAfter text start count <;> rfl

theorem ofBytes_none : ofBytes matchBytes? text start = .ok none ↔
    matchBytes? (text.suffix start).toString.toUTF8.toList = none := by
  rw [ofBytes_eq]
  cases matchBytes? (text.suffix start).toString.toUTF8.toList with
  | none => simp
  | some count =>
    dsimp only
    cases Codec.utf8.charactersAfter text start count <;> simp

variable (valid : 0 ≤ start) (inside : start ≤ text.size)
include valid inside

theorem ofBytes_span {stop : Int} : ofBytes matchBytes? text start = .ok (some (.span stop)) ↔
    start ≤ stop ∧ stop ≤ text.size ∧ matchBytes? (text.suffix start).toString.toUTF8.toList =
      some (text.slice start stop).toUTF8.size := by
  rw [ofBytes_eq]
  cases matchBytes? (text.suffix start).toString.toUTF8.toList with
  | none => simp
  | some count =>
    dsimp only
    rw [Option.some.injEq, eq_comm (a := count), ← Codec.charactersAfter_utf8 valid inside]
    cases Codec.utf8.charactersAfter text start count <;> simp [Match.span]

theorem ofBytes_refused : (∃ fault : Fault, fault.class = .value ∧ ofBytes matchBytes? text start = .error fault) ↔
    ∃ count, matchBytes? (text.suffix start).toString.toUTF8.toList = some count ∧
      ¬String.Pos.Raw.IsValid (text.suffix start).toString ⟨count⟩ := by
  rw [ofBytes_eq]
  cases matchBytes? (text.suffix start).toString.toUTF8.toList with
  | none => simp
  | some count =>
    have between : String.Pos.Raw.IsValid (text.suffix start).toString ⟨count⟩ ↔
        ∃ stop, Codec.utf8.charactersAfter text start count = .ok stop := by
      simp only [Codec.isValid_suffix valid inside, Codec.charactersAfter_utf8 valid inside]
    simp only [Option.some.injEq, exists_eq_left', between]
    cases converted : Codec.utf8.charactersAfter text start count with
    | ok stop => simp
    | error fault => simp [Codec.charactersAfter_class valid converted]

end Leaf

namespace Session
variable {text : Text} {start : Int}

/-- What a leaf comes to that is matched by itself. -/
theorem foretold_leaf (base : Store) (kind : Kind) (title : String) (recognise : Leaf)
    (valid : 0 ≤ start) (inside : start ≤ text.size) :
    foretold base (.leaf kind title recognise) text start = (recognise text start).mapError .fault := by
  have checked : text.checkOffset start = .ok () := if_pos ⟨valid, inside⟩
  rw [foretold, checked]
  exact Blueprint.limit_leaf base _ _ text start recognise

/-- The same for what a session comes to. -/
theorem comes_leaf_ok (history : List Command) {kind : Kind} {title : String} {recognise : Leaf} (valid : 0 ≤ start)
    (inside : start ≤ text.size) {found : Option Match} :
    Comes (.afterAll history) (.leaf kind title recognise) text start (.ok found) ↔ recognise text start = .ok found := by
  have plain : (Expression.leaf kind title recognise).Plain (Scene.bare (.afterAll history)).allowed := trivial
  rw [Scene.comes_ok_iff (Scene.bare_founded history) plain, foretold_leaf _ _ _ _ valid inside]
  cases recognise text start with
  | ok answer => exact ⟨fun same => congrArg Except.ok (Except.ok.inj same), fun same => congrArg Except.ok (Except.ok.inj same)⟩
  | error fault => exact ⟨fun same => (by cases same), fun same => (by cases same)⟩

theorem comes_leaf_error (history : List Command) {kind : Kind} {title : String} {recognise : Leaf} (valid : 0 ≤ start)
    (inside : start ≤ text.size) {class_ : FaultClass} :
    (∃ fault : Fault, fault.class = class_ ∧ Comes (.afterAll history) (.leaf kind title recognise) text start (.error fault)) ↔
      ∃ fault : Fault, fault.class = class_ ∧ recognise text start = .error fault := by
  have plain : (Expression.leaf kind title recognise).Plain (Scene.bare (.afterAll history)).allowed := trivial
  rw [Scene.comes_error_iff (Scene.bare_founded history) plain, foretold_leaf _ _ _ _ valid inside]
  refine exists_congr fun fault => and_congr_right fun _ => ?_
  cases recognise text start with
  | ok answer => exact ⟨fun same => (by cases same), fun same => (by cases same)⟩
  | error cause => exact ⟨fun same => (by cases same; rfl), fun same => (by cases same; rfl)⟩

/-- A pattern for bytes never ends at a wrong offset, whatever function it is made of. It ends at an offset
if and only if its function ends behind the bytes of the characters up to there, and matches nothing if and
only if its function does not. An end inside of a character, or beyond the bytes, is refused for its value.
The units that are counted on the way are those of the standard encodings. -/
theorem comes_ofBytes (history : List Command) (title : String) (matchBytes? : List UInt8 → Option Nat)
    (valid : 0 ≤ start) (inside : start ≤ text.size) :
    let rest := (text.suffix start).toString
    let comes := Comes (.afterAll history) (.leaf .pattern title (.ofBytes matchBytes?)) text start
    (∀ stop, comes (.ok (some (.span stop))) ↔ start ≤ stop ∧ stop ≤ text.size ∧
        matchBytes? rest.toUTF8.toList = some (text.slice start stop).toUTF8.size) ∧
      (comes (.ok none) ↔ matchBytes? rest.toUTF8.toList = none) ∧
      ((∃ fault : Fault, fault.class = .value ∧ comes (.error fault)) ↔
        ∃ count, matchBytes? rest.toUTF8.toList = some count ∧ ¬String.Pos.Raw.IsValid rest ⟨count⟩) ∧
      ∀ first last : Int, 0 ≤ first → first ≤ last → last ≤ text.size →
        Codec.utf8.units text first last = .ok (text.slice first last).toUTF8.size ∧
          Codec.utf16.units text first last = .ok (Utf16.encode (text.slice first last).toList).length := by
  intro rest comes
  refine ⟨fun stop => ?_, ?_, ?_, fun first last nonneg later before => ?_⟩
  · exact (comes_leaf_ok history valid inside).trans (Leaf.ofBytes_span matchBytes? valid inside)
  · exact (comes_leaf_ok history valid inside).trans (Leaf.ofBytes_none matchBytes?)
  · exact (comes_leaf_error history valid inside).trans (Leaf.ofBytes_refused matchBytes? valid inside)
  · exact ⟨Codec.units_utf8 nonneg later before, Codec.units_utf16 nonneg later before⟩

/-- Two bytes make a character here, and one of them does not. -/
theorem comes_ofBytes_two :
    let text := Text.ofString "xéy"
    let comes (count : Nat) := Comes (.afterAll []) (.leaf .pattern "bytes" (.ofBytes fun _ => some count)) text 1
    (0 : Int) ≤ 1 ∧ (1 : Int) ≤ text.size ∧ comes 2 (.ok (some (.span 2))) ∧
      ∃ fault : Fault, fault.class = .value ∧ comes 1 (.error fault) := by
  intro text comes
  have valid : (0 : Int) ≤ 1 := by decide
  have inside : (1 : Int) ≤ text.size := by decide
  obtain ⟨found, -, -, -⟩ := comes_ofBytes [] "bytes" (fun _ => some 2) valid inside
  obtain ⟨-, -, refused, -⟩ := comes_ofBytes [] "bytes" (fun _ => some 1) valid inside
  have size : (text.slice 1 2).toUTF8.size = 2 := by decide
  have apart : ¬String.Pos.Raw.IsValid (text.suffix 1).toString ⟨1⟩ := by decide
  exact ⟨valid, inside, (found 2).mpr ⟨by decide, by decide, congrArg some size.symm⟩, refused.mpr ⟨1, rfl, apart⟩⟩

end Session

end TextGrammar
