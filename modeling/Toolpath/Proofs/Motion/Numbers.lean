import Toolpath.Proofs.Motion.Chains

/-!
# The numbers a cut writes

Every number of a program line is written with two places after the point, and a number that is
not finite is written `NaN`, `inf` or `-inf`. A finite number is written with digits, a sign and
a point only, none of them a letter of `NaN` or `inf`, so text around it cannot join with it into
either word: a line built from fixed text and numbers shows `NaN` or `inf` exactly where one of
its numbers is not finite, since none of the fixed texts shows either word.

The constructors of circles, arcs and polylines let only finite fields through, and every number a
cut reads off those fields, or counts, is written finite. A cut also computes numbers from the
fields: the leftmost point of a circle, the two ends of an arc's sweep and the centre's offsets
from its start. Binary64 arithmetic on finite values can overflow, and an arc's angle can become
not-a-number, so these are written as they come out, and the lines of a cut show `NaN` or `inf`
exactly when one of them is not finite.

Main statements:
* `showsNonFinite_around_iff`: text around separating text, such as a finite number, shows `NaN`
  or `inf` only where one side does;
* `showsNonFinite_twoPlaces_iff`: a number written with two places shows `NaN` or `inf` exactly
  when it is not finite;
* `Primitive.showsNonFinite_ownLines_iff`: the lines a checked primitive's cut writes itself show
  `NaN` or `inf` exactly when a computed number is not finite;
* `Primitive.cut_writes_finite_numbers_but_computed_ones`: the same for everything a cut appends,
  the tool words apart.
-/

namespace Toolpath

open Toolpath.Number
open Float.Model (UnpackedFloat)

/-! ## Text that shows a number that is not finite -/

/-- A line shows a number that is not finite when `NaN` or `inf` (as in `-inf`) stands in it. -/
def ShowsNonFinite (line : String) : Prop :=
  "NaN".toList <:+: line.toList ∨ "inf".toList <:+: line.toList

-- The infix test is named: under the whole of Mathlib another instance would be found.
instance : DecidablePred ShowsNonFinite :=
  fun line => @instDecidableOr _ _
    (List.instDecidableIsInfixOfDecidableEq "NaN".toList line.toList)
    (List.instDecidableIsInfixOfDecidableEq "inf".toList line.toList)

/-- Text that keeps `NaN` and `inf` apart: it is not empty and holds no letter of either word. -/
def Separates (text : String) : Prop :=
  text ≠ "" ∧ ∀ character ∈ text.toList, character ∉ "NaN".toList ∧ character ∉ "inf".toList

instance : DecidablePred Separates :=
  fun text => @instDecidableAnd _ _ inferInstance (List.decidableBAll _ text.toList)

/-- The text of a finite number: not empty, and made of digits, a sign and a point. -/
def IsNumeral (text : String) : Prop :=
  text ≠ "" ∧ ∀ character ∈ text.toList, character.isDigit ∨ character = '-' ∨ character = '.'

section Separation

variable {pattern before after : List Char}

/-- A pattern that does not hold a character stands before it or after it wherever it stands
around it. -/
theorem infix_or_infix_of_infix_append_cons {separator : Char} (apart : separator ∉ pattern)
    (inside : pattern <:+: before ++ separator :: after) :
    pattern <:+: before ∨ pattern <:+: after := by
  obtain ⟨front, back, whole⟩ := inside
  rcases List.append_eq_append_iff.1 whole with ⟨middle, rfl, -⟩ | ⟨middle, split, rest⟩
  · exact .inl ⟨front, middle, rfl⟩
  · cases middle with
    | nil => exact .inl ⟨front, [], by simpa using split⟩
    | cons head tail =>
        obtain ⟨rfl, rfl⟩ := List.cons.inj rest
        -- the pattern ends inside the text before the separator, or holds the separator
        rcases List.append_eq_append_iff.1 split with ⟨middle, -, inPattern⟩ | ⟨middle, -, rest⟩
        · exfalso
          apply apart
          rw [inPattern]
          simp
        · cases middle with
          | nil =>
              exfalso
              apply apart
              rw [List.nil_append] at rest
              rw [← rest]
              exact List.mem_cons_self
          | cons head' tail' =>
              obtain ⟨-, rfl⟩ := List.cons.inj rest
              exact .inr ⟨tail', back, by simp⟩

/-- A pattern sharing no character with a text stands after it wherever it stands in the text
followed by more. -/
theorem infix_of_infix_append_of_forall_not_mem {text : List Char}
    (apart : ∀ character ∈ text, character ∉ pattern) (inside : pattern <:+: text ++ after) :
    pattern <:+: after := by
  induction text with
  | nil => simpa using inside
  | cons character rest induction =>
      rcases infix_or_infix_of_infix_append_cons (apart _ List.mem_cons_self)
          (show pattern <:+: [] ++ character :: (rest ++ after) from inside) with empty | later
      · rw [List.infix_nil.1 empty]
        exact List.nil_infix
      · exact induction (fun other member => apart other (List.mem_cons_of_mem _ member)) later

/-- A pattern sharing no character with a text that is not empty stands before the text or after
it, wherever it stands around it. -/
theorem infix_or_infix_of_infix_append_append {text : List Char}
    (apart : ∀ character ∈ text, character ∉ pattern) (nonempty : text ≠ [])
    (inside : pattern <:+: before ++ text ++ after) :
    pattern <:+: before ∨ pattern <:+: after := by
  obtain ⟨first, rest, rfl⟩ := List.exists_cons_of_ne_nil nonempty
  rw [List.append_assoc, List.cons_append] at inside
  rcases infix_or_infix_of_infix_append_cons (apart first List.mem_cons_self) inside
    with front | back
  · exact .inl front
  · exact .inr (infix_of_infix_append_of_forall_not_mem
      (fun other member => apart other (List.mem_cons_of_mem _ member)) back)

end Separation

theorem not_showsNonFinite_empty : ¬ ShowsNonFinite "" := by decide

theorem ShowsNonFinite.append_right {first : String} (shows : ShowsNonFinite first)
    (second : String) : ShowsNonFinite (first ++ second) := by
  simp only [ShowsNonFinite, String.toList_append] at shows ⊢
  exact shows.imp (·.trans List.infix_append_left) (·.trans List.infix_append_left)

theorem ShowsNonFinite.append_left (first : String) {second : String}
    (shows : ShowsNonFinite second) : ShowsNonFinite (first ++ second) := by
  simp only [ShowsNonFinite, String.toList_append] at shows ⊢
  exact shows.imp (·.trans (List.suffix_append _ _).isInfix)
    (·.trans (List.suffix_append _ _).isInfix)

/-- Text around separating text shows a number that is not finite exactly when the text before
it or the text after it does. -/
theorem showsNonFinite_around_iff {before middle after : String} (separates : Separates middle) :
    ShowsNonFinite (before ++ middle ++ after) ↔ ShowsNonFinite before ∨ ShowsNonFinite after := by
  have nonempty : middle.toList ≠ [] := by simpa using separates.1
  constructor
  · simp only [ShowsNonFinite, String.toList_append]
    rintro (nan | inf)
    · exact (infix_or_infix_of_infix_append_append (fun character member =>
        (separates.2 character member).1) nonempty nan).imp .inl .inl
    · exact (infix_or_infix_of_infix_append_append (fun character member =>
        (separates.2 character member).2) nonempty inf).imp .inr .inr
  · rintro (front | back)
    · exact (front.append_right middle).append_right after
    · exact back.append_left _

theorem Separates.not_showsNonFinite {text : String} (separates : Separates text) :
    ¬ ShowsNonFinite text := by
  have around := @showsNonFinite_around_iff "" _ "" separates
  simpa [not_showsNonFinite_empty] using around

/-- Text around a middle text that separates, or that itself shows `NaN` or `inf`, shows either
word exactly when one of the three parts does. -/
theorem showsNonFinite_around_iff_of_separates_or_shows {before middle after : String}
    (written : Separates middle ∨ ShowsNonFinite middle) :
    ShowsNonFinite (before ++ middle ++ after) ↔
      ShowsNonFinite before ∨ ShowsNonFinite middle ∨ ShowsNonFinite after := by
  rcases written with separates | shows
  · rw [showsNonFinite_around_iff separates]
    simp [separates.not_showsNonFinite]
  · exact iff_of_true ((shows.append_left before).append_right after) (.inr (.inl shows))

theorem Separates.append {first second : String} (left : Separates first)
    (right : Separates second) : Separates (first ++ second) := by
  refine ⟨fun empty => left.1 (String.append_eq_empty_iff.1 empty).1, ?_⟩
  simp only [String.toList_append, List.mem_append]
  rintro character (inFirst | inSecond)
  · exact left.2 character inFirst
  · exact right.2 character inSecond

/-- The characters of a numeral, checked one by one as a `Bool`; the bounded quantifier itself is
not decided, which would search all characters. -/
theorem numeralCharacters_of_all {text : String}
    (all : text.toList.all (fun character =>
      character.isDigit || character == '-' || character == '.') = true) :
    ∀ character ∈ text.toList, character.isDigit ∨ character = '-' ∨ character = '.' := by
  intro character member
  simpa [or_assoc] using List.all_eq_true.1 all character member

/-- Digits, a sign and a point are no letters of `NaN` or `inf`. -/
theorem IsNumeral.separates {text : String} (numeral : IsNumeral text) : Separates text := by
  refine ⟨numeral.1, fun character member => ?_⟩
  have words : "NaN".toList = ['N', 'a', 'N'] ∧ "inf".toList = ['i', 'n', 'f'] := by decide
  rw [words.1, words.2]
  rcases numeral.2 character member with digit | rfl | rfl
  · constructor <;> intro inWord <;>
      simp only [List.mem_cons, List.not_mem_nil, or_false] at inWord <;>
      rcases inWord with rfl | rfl | rfl <;> simp at digit
  · decide
  · decide

/-! ## Numbers written with two places -/

/-- Whether the parts of a binary64 value are those of a finite value. -/
def Number.Binary64.isFinite : Binary64 → Bool
  | .finite .. => true
  | _ => false

/-- A value is finite exactly when its exponent field is not all ones. -/
theorem Float.isFinite_iff_exponentField (value : Float) :
    value.isFinite = true ↔ value.toBits.toNat / Nat.pow 2 52 % 2048 ≠ 2047 := by
  have field : (@UnpackedFloat.unpackExponent .binary64
      value.toModel.toBits.toBitVec).toNat = value.toBits.toNat / Nat.pow 2 52 % 2048 := by
    simp [UnpackedFloat.unpackExponent, BitVec.extractLsb_toNat, Nat.shiftRight_eq_div_pow]
    rfl
  change (UnpackedFloat.unpack .binary64 value.toModel.toBits.toBitVec).isFinite = true ↔ _
  rw [← field]
  unfold UnpackedFloat.unpack
  simp only
  split
  · next allOnes =>
      rw [allOnes]
      split <;> simp [UnpackedFloat.isFinite]
  · next notAllOnes =>
      have notMax : (@UnpackedFloat.unpackExponent .binary64
          value.toModel.toBits.toBitVec).toNat ≠ 2047 := by
        intro max
        apply notAllOnes
        apply BitVec.eq_of_toNat_eq
        simpa using max
      split
      · split <;> simp [UnpackedFloat.isFinite, notMax]
      · simp [UnpackedFloat.isFinite, notMax]

/-- The parts read off a value's bits are finite exactly when the value is. -/
@[simp]
theorem Number.Binary64.isFinite_ofFloat (value : Float) :
    (Binary64.ofFloat value).isFinite = value.isFinite := by
  have field := Float.isFinite_iff_exponentField value
  unfold Binary64.ofFloat
  by_cases allOnes : value.toBits.toNat / Nat.pow 2 fractionBits % 2048 = 2047
  · have infinite : value.isFinite = false :=
      Bool.eq_false_iff.2 fun finite => field.1 finite allOnes
    rw [infinite, if_pos (beq_iff_eq.2 allOnes)]
    split <;> rfl
  · rw [field.2 allOnes, if_neg (by simpa using allOnes)]
    split <;> rfl

theorem isNumeral_natText (value : Nat) : IsNumeral (natText value) := by
  refine ⟨?_, fun character member => .inl ?_⟩
  · rw [natText, ne_eq, String.ofList_eq_empty_iff]
    exact Nat.toDigits_ne_nil
  · rw [natText, String.toList_ofList] at member
    exact Nat.isDigit_of_mem_toDigits (by decide) (by decide) member

/-- A finite number is written with its sign, its whole part, a point, padding zeros and its
places. -/
theorem isNumeral_twoPlaces {value : Float} (finite : value.isFinite = true) :
    IsNumeral (twoPlaces value) := by
  have parts := Binary64.isFinite_ofFloat value
  unfold twoPlaces fixedText
  split
  · next nan => simp [nan, finite, Binary64.isFinite] at parts
  · next infinite => simp [infinite, finite, Binary64.isFinite] at parts
  · next negative mantissa exponent _ =>
      have whole := isNumeral_natText (fixedDigits 2 mantissa exponent / Nat.pow 10 2)
      have places := isNumeral_natText (fixedDigits 2 mantissa exponent % Nat.pow 10 2)
      simp only [Nat.reduceBEq, Bool.false_eq_true, if_false]
      refine ⟨fun empty => whole.1 (String.append_eq_empty_iff.1
        (String.append_eq_empty_iff.1 (String.append_eq_empty_iff.1
          (String.append_eq_empty_iff.1 empty).1).1).1).2, ?_⟩
      simp only [String.toList_append, List.forall_mem_append]
      refine ⟨⟨⟨⟨?sign, whole.2⟩, numeralCharacters_of_all (by decide)⟩, ?zeros⟩, places.2⟩
      case sign => split <;> exact numeralCharacters_of_all (by decide)
      case zeros =>
        intro character member
        simp only [repeatChar, String.toList_ofList, List.mem_replicate] at member
        rw [member.2]
        decide

/-- A number written with two places shows `NaN` or `inf` exactly when it is not finite. -/
theorem showsNonFinite_twoPlaces_iff (value : Float) :
    ShowsNonFinite (twoPlaces value) ↔ value.isFinite = false := by
  cases finite : value.isFinite
  · have parts := Binary64.isFinite_ofFloat value
    simp only [iff_true]
    unfold twoPlaces fixedText
    split
    · decide
    · split <;> decide
    · next isFinite => simp [isFinite, finite, Binary64.isFinite] at parts
  · simpa using (isNumeral_twoPlaces finite).separates.not_showsNonFinite

theorem separates_or_showsNonFinite_twoPlaces (value : Float) :
    Separates (twoPlaces value) ∨ ShowsNonFinite (twoPlaces value) := by
  cases finite : value.isFinite
  · exact .inr ((showsNonFinite_twoPlaces_iff value).2 finite)
  · exact .inl (isNumeral_twoPlaces finite).separates

/-- Text around a number with two places shows `NaN` or `inf` exactly when the text before it
does, the number is not finite, or the text after it does. -/
theorem showsNonFinite_around_twoPlaces_iff (before after : String) (value : Float) :
    ShowsNonFinite (before ++ twoPlaces value ++ after) ↔
      ShowsNonFinite before ∨ value.isFinite = false ∨ ShowsNonFinite after := by
  rw [showsNonFinite_around_iff_of_separates_or_shows
    (separates_or_showsNonFinite_twoPlaces value), showsNonFinite_twoPlaces_iff]

theorem showsNonFinite_append_twoPlaces_iff (before : String) (value : Float) :
    ShowsNonFinite (before ++ twoPlaces value) ↔
      ShowsNonFinite before ∨ value.isFinite = false := by
  simpa [not_showsNonFinite_empty] using showsNonFinite_around_twoPlaces_iff before "" value

/-! ## The lines of the templates -/

section Templates

variable (machine : Machine) (point : Point) (feedrate : Float)

theorem separates_pointLabel {point : Point} (finite : point.isFinite = true) :
    Separates point.label := by
  simp only [Point.isFinite, Bool.and_eq_true] at finite
  unfold Point.label
  have brackets : Separates "[" ∧ Separates ", " ∧ Separates "]" := by simp [Separates]
  exact ((((brackets.1.append (isNumeral_twoPlaces finite.1).separates).append
    brackets.2.1).append (isNumeral_twoPlaces finite.2).separates).append brackets.2.2)

theorem showsNonFinite_pointLabel_iff :
    ShowsNonFinite point.label ↔ point.x.isFinite = false ∨ point.y.isFinite = false := by
  have fixed : ¬ ShowsNonFinite "[" ∧ ¬ ShowsNonFinite ", " ∧ ¬ ShowsNonFinite "]" := by
    simp only [ShowsNonFinite, String.reduceToList]
    decide
  unfold Point.label
  simp [showsNonFinite_around_twoPlaces_iff, fixed]

theorem separates_or_showsNonFinite_pointLabel :
    Separates point.label ∨ ShowsNonFinite point.label := by
  cases finite : point.isFinite
  · refine .inr ((showsNonFinite_pointLabel_iff point).2 ?_)
    simpa only [Point.isFinite, Bool.and_eq_false_iff] using finite
  · exact .inl (separates_pointLabel finite)

/-- Text around a point's label shows `NaN` or `inf` exactly when the text before it does, a
coordinate is not finite, or the text after it does. -/
theorem showsNonFinite_around_pointLabel_iff (before after : String) :
    ShowsNonFinite (before ++ point.label ++ after) ↔
      ShowsNonFinite before ∨ point.x.isFinite = false ∨ point.y.isFinite = false ∨
        ShowsNonFinite after := by
  rw [showsNonFinite_around_iff_of_separates_or_shows
    (separates_or_showsNonFinite_pointLabel point), showsNonFinite_pointLabel_iff, or_assoc]

theorem showsNonFinite_comment_iff (text : String) :
    ShowsNonFinite ("(" ++ text ++ ")") ↔ ShowsNonFinite text := by
  have brackets : Separates "(" ∧ Separates ")" := by simp [Separates]
  have opening := @showsNonFinite_around_iff "" "(" (text ++ ")") brackets.1
  have closing := @showsNonFinite_around_iff text ")" "" brackets.2
  simp only [String.empty_append, String.append_empty, not_showsNonFinite_empty, false_or,
    or_false] at opening closing
  rw [String.append_assoc, opening, closing]

@[simp]
theorem showsNonFinite_travelLine :
    ShowsNonFinite (Machine.travelLine point) ↔
      point.x.isFinite = false ∨ point.y.isFinite = false := by
  have fixed : ¬ ShowsNonFinite "G0 X" ∧ ¬ ShowsNonFinite " Y" := by
    simp only [ShowsNonFinite, String.reduceToList]
    decide
  unfold Machine.travelLine
  simp [showsNonFinite_append_twoPlaces_iff, showsNonFinite_around_twoPlaces_iff, fixed]

@[simp]
theorem showsNonFinite_drawLine :
    ShowsNonFinite (machine.drawLine point) ↔
      point.x.isFinite = false ∨ point.y.isFinite = false ∨ machine.feedrate.isFinite = false := by
  have fixed : ¬ ShowsNonFinite "G1 X" ∧ ¬ ShowsNonFinite " Y" ∧ ¬ ShowsNonFinite " F" := by
    simp only [ShowsNonFinite, String.reduceToList]
    decide
  unfold Machine.drawLine
  simp [showsNonFinite_append_twoPlaces_iff, showsNonFinite_around_twoPlaces_iff, fixed, or_assoc]

@[simp]
theorem showsNonFinite_circleArcLine (circle : Circle) :
    ShowsNonFinite (circle.arcLine feedrate) ↔
      circle.radius.isFinite = false ∨ feedrate.isFinite = false := by
  have fixed : ¬ ShowsNonFinite "G3 I" ∧ ¬ ShowsNonFinite " J0 F" := by
    simp only [ShowsNonFinite, String.reduceToList]
    decide
  unfold Circle.arcLine
  simp [showsNonFinite_append_twoPlaces_iff, showsNonFinite_around_twoPlaces_iff, fixed]

@[simp]
theorem showsNonFinite_arcArcLine (arc : Arc) :
    ShowsNonFinite (arc.arcLine feedrate) ↔
      (arc.findPoint 1.0).x.isFinite = false ∨ (arc.findPoint 1.0).y.isFinite = false ∨
        (arc.center.x - (arc.findPoint 0.0).x).isFinite = false ∨
        (arc.center.y - (arc.findPoint 0.0).y).isFinite = false ∨ feedrate.isFinite = false := by
  have fixed : ¬ ShowsNonFinite "G3 X" ∧ ¬ ShowsNonFinite " Y" ∧ ¬ ShowsNonFinite " I" ∧
      ¬ ShowsNonFinite " J" ∧ ¬ ShowsNonFinite " F" := by
    simp only [ShowsNonFinite, String.reduceToList]
    decide
  delta Arc.arcLine
  simp [showsNonFinite_append_twoPlaces_iff, showsNonFinite_around_twoPlaces_iff, fixed, or_assoc]

@[simp]
theorem showsNonFinite_circleLabel (circle : Circle) :
    ShowsNonFinite circle.label ↔
      circle.center.x.isFinite = false ∨ circle.center.y.isFinite = false ∨
        circle.radius.isFinite = false := by
  have fixed : ¬ ShowsNonFinite "Circle at [" ∧ ¬ ShowsNonFinite "," ∧
      ¬ ShowsNonFinite "], radius " := by
    simp only [ShowsNonFinite, String.reduceToList]
    decide
  unfold Circle.label
  simp [showsNonFinite_append_twoPlaces_iff, showsNonFinite_around_twoPlaces_iff, fixed, or_assoc]

@[simp]
theorem showsNonFinite_arcLabel (arc : Arc) :
    ShowsNonFinite arc.label ↔
      arc.center.x.isFinite = false ∨ arc.center.y.isFinite = false ∨
        arc.radius.isFinite = false ∨ arc.startAngle.isFinite = false ∨
        arc.endAngle.isFinite = false := by
  have fixed : ¬ ShowsNonFinite "Arc at " ∧ ¬ ShowsNonFinite ", radius " ∧
      ¬ ShowsNonFinite ", from " ∧ ¬ ShowsNonFinite " to " := by
    simp only [ShowsNonFinite, String.reduceToList]
    decide
  unfold Arc.label
  simp [showsNonFinite_append_twoPlaces_iff, showsNonFinite_around_twoPlaces_iff,
    showsNonFinite_around_pointLabel_iff, fixed, or_assoc]

theorem not_showsNonFinite_polylineLabel (polyline : Polyline) :
    ¬ ShowsNonFinite polyline.label := by
  unfold Polyline.label
  rw [showsNonFinite_around_iff (isNumeral_natText _).separates]
  simp only [ShowsNonFinite, String.reduceToList]
  decide

theorem not_showsNonFinite_of_mem_dwell {delay : UInt32} {line : String}
    (member : line ∈ Machine.dwell delay) : ¬ ShowsNonFinite line := by
  unfold Machine.dwell at member
  split at member
  · rw [List.mem_singleton.1 member]
    have written := @showsNonFinite_around_iff "G4 P" _ ""
      (isNumeral_natText delay.toNat).separates
    simp only [String.append_empty, not_showsNonFinite_empty, or_false] at written
    show ¬ ShowsNonFinite ("G4 P" ++ natText delay.toNat)
    rw [written]
    simp only [ShowsNonFinite, String.reduceToList]
    decide
  · simp at member

end Templates

/-! ## The lines a motion writes itself -/

namespace Motion

/-- The lines a motion writes itself, beside those of the engage and disengage routines it runs:
its move, its comment, its empty line or its raw line. -/
def ownLines (machine : Machine) : Motion → List String
  | .travel target => [Machine.travelLine target]
  | .draw target => [machine.drawLine target]
  | .comment text => ["(" ++ text ++ ")"]
  | .separator => [""]
  | .raw line => [line]
  | .engage | .disengage | .setLast _ => []

variable {machine : Machine} {engaged : Bool} {motion : Motion} {line : String}

/-- A motion writes its own lines and the lines of the routines it runs, nothing else. -/
theorem mem_ownLines_or_routine_of_mem_lines (member : line ∈ motion.lines machine engaged) :
    line ∈ motion.ownLines machine ∨ line ∈ machine.engageLines ∨
      line ∈ machine.disengageLines := by
  cases motion with
  | travel target =>
      rcases List.mem_append.1 member with routine | own
      · cases engaged
        · simp at routine
        · exact .inr (.inr routine)
      · exact .inl own
  | draw target =>
      rcases List.mem_append.1 member with routine | own
      · cases engaged
        · exact .inr (.inl routine)
        · simp at routine
      · exact .inl own
  | engage => exact .inr (.inl member)
  | disengage => exact .inr (.inr member)
  | setLast point => simp [lines] at member
  | comment text | separator | raw text => exact .inl member

theorem mem_lines_of_mem_ownLines (member : line ∈ motion.ownLines machine) :
    line ∈ motion.lines machine engaged := by
  cases motion with
  | travel target | draw target => exact List.mem_append_right _ member
  | comment text | separator | raw text => exact member
  | engage | disengage | setLast point => simp [ownLines] at member

end Motion

namespace Plotter

variable {machine : Machine} {line : String}

theorem mem_ownLines_or_routine_of_mem_linesFrom {engaged : Bool} {motions : List Motion}
    (member : line ∈ linesFrom machine engaged motions) :
    (∃ motion ∈ motions, line ∈ motion.ownLines machine) ∨
      line ∈ machine.engageLines ∨ line ∈ machine.disengageLines := by
  induction motions generalizing engaged with
  | nil => simp [linesFrom] at member
  | cons motion rest induction =>
      rcases List.mem_append.1 member with here | later
      · rcases Motion.mem_ownLines_or_routine_of_mem_lines here with own | routine
        · exact .inl ⟨motion, List.mem_cons_self, own⟩
        · exact .inr routine
      · rcases induction later with ⟨other, inRest, own⟩ | routine
        · exact .inl ⟨other, List.mem_cons_of_mem _ inRest, own⟩
        · exact .inr routine

theorem mem_linesFrom_of_mem_ownLines {engaged : Bool} {motions : List Motion} {motion : Motion}
    (inMotions : motion ∈ motions) (own : line ∈ motion.ownLines machine) :
    line ∈ linesFrom machine engaged motions := by
  induction motions generalizing engaged with
  | nil => simp at inMotions
  | cons first rest induction =>
      rw [linesFrom, List.mem_append]
      rcases List.mem_cons.1 inMotions with rfl | inRest
      · exact .inl (Motion.mem_lines_of_mem_ownLines own)
      · exact .inr (induction inRest)

end Plotter

/-- The engage and disengage routines write their tool word and a dwell line, and a dwell line
shows no number that is not finite. -/
theorem Machine.word_or_not_showsNonFinite_of_routine {machine : Machine} {line : String}
    (routine : line ∈ machine.engageLines ∨ line ∈ machine.disengageLines) :
    ¬ ShowsNonFinite line ∨ line = machine.toolOn ∨ line = machine.toolOff := by
  simp only [Machine.engageLines, Machine.disengageLines, List.mem_cons] at routine
  rcases routine with (word | dwell) | (word | dwell)
  · exact .inr (.inl word)
  · exact .inl (not_showsNonFinite_of_mem_dwell dwell)
  · exact .inr (.inr word)
  · exact .inl (not_showsNonFinite_of_mem_dwell dwell)

/-! ## Checked primitives -/

theorem isFinite_of_checkRadius {radius : Float} (checked : checkRadius radius = .ok ()) :
    radius.isFinite = true := by
  unfold checkRadius at checked
  cases finite : radius.isFinite
  · simp [finite] at checked
  · rfl

/-- The circle a constructor makes holds the centre and radius it was given, both finite. -/
theorem Circle.eq_of_make {center : Point} {radius : Float} {circle : Circle}
    (made : Circle.make? center radius = .ok circle) :
    circle = ⟨center, radius⟩ ∧ center.isFinite = true ∧ radius.isFinite = true := by
  unfold Circle.make? at made
  cases finiteCenter : center.isFinite
  · simp [finiteCenter] at made
    cases made
  · cases checked : checkRadius radius with
    | error error => simp [finiteCenter, checked] at made
    | ok _ =>
        simp [finiteCenter, checked] at made
        exact ⟨made.symm, rfl, isFinite_of_checkRadius checked⟩

/-- The constructor takes a finite centre and a finite positive radius. -/
theorem Circle.make_of_isFinite {center : Point} {radius : Float}
    (finiteCenter : center.isFinite = true) (finiteRadius : radius.isFinite = true)
    (positive : ¬ radius ≤ 0.0) : Circle.make? center radius = .ok ⟨center, radius⟩ := by
  simp [Circle.make?, checkRadius, finiteCenter, finiteRadius, positive]

/-- The arc a constructor makes holds the fields it was given, all finite. -/
theorem Arc.eq_of_make {center : Point} {radius startAngle endAngle : Float} {arc : Arc}
    (made : Arc.make? center radius startAngle endAngle = .ok arc) :
    arc = ⟨center, radius, startAngle, endAngle⟩ ∧ center.isFinite = true ∧
      radius.isFinite = true ∧ startAngle.isFinite = true ∧ endAngle.isFinite = true := by
  unfold Arc.make? at made
  cases finiteCenter : center.isFinite
  · simp [finiteCenter] at made
    cases made
  · cases checked : checkRadius radius with
    | error error =>
        simp [finiteCenter, checked] at made
        cases made
    | ok _ =>
        cases finiteStart : startAngle.isFinite
        · simp [finiteCenter, checked, finiteStart] at made
          cases made
        cases finiteEnd : endAngle.isFinite
        · simp [finiteCenter, checked, finiteStart, finiteEnd] at made
          cases made
        simp [finiteCenter, checked, finiteStart, finiteEnd] at made
        exact ⟨made.symm, rfl, isFinite_of_checkRadius checked, rfl, rfl⟩

/-- The lines the cut of a polyline of finite points writes itself show no number that is not
finite, at a finite feed rate: it computes nothing. -/
theorem Polyline.not_showsNonFinite_ownLines {machine : Machine}
    (finiteFeed : machine.feedrate.isFinite = true) {chains : List (List Point)}
    (finite : ∀ chain ∈ chains, ∀ point ∈ chain, point.isFinite = true) :
    ∀ motion ∈ (Primitive.polyline ⟨chains⟩).cutMotions machine.feedrate,
      ∀ line ∈ motion.ownLines machine, ¬ ShowsNonFinite line := by
  intro motion member line own
  simp only [Primitive.cutMotions, Primitive.motions, List.mem_flatMap] at member
  obtain ⟨chain, inChains, inChain⟩ := member
  have finitePoint : ∀ point ∈ chain, point.x.isFinite = true ∧ point.y.isFinite = true := by
    simpa [Point.isFinite] using finite chain inChains
  cases chain with
  | nil => simp at inChain
  | cons first rest =>
      simp only [chainMotions, List.mem_append, List.mem_cons, List.mem_flatMap,
        List.not_mem_nil, or_false] at inChain
      rcases inChain with ((rfl | rfl | rfl) | ⟨point, inRest, rfl | rfl⟩) | rfl | rfl <;>
        simp only [Motion.ownLines, List.mem_singleton, List.not_mem_nil] at own
      · rw [own, showsNonFinite_comment_iff]
        exact not_showsNonFinite_polylineLabel _
      · have corner := finitePoint first List.mem_cons_self
        simp [own, corner.1, corner.2]
      · have corner := finitePoint point (List.mem_cons_of_mem _ inRest)
        simp [own, corner.1, corner.2, finiteFeed]
      · rw [own]
        exact not_showsNonFinite_empty

namespace Primitive

/-- A primitive its constructor made: a circle, an arc or a polyline that passed its checks. -/
def Checked : Primitive → Prop
  | .circle shape => ∃ center radius, Circle.make? center radius = .ok shape
  | .arc shape => ∃ center radius startAngle endAngle,
      Arc.make? center radius startAngle endAngle = .ok shape
  | .polyline shape => ∃ chains, Polyline.make? chains = .ok shape
  | .line _ | .ellipse _ => False

/-- The numbers a cut computes from a primitive's fields rather than reads off them: the leftmost
point of a circle; the start and end points of an arc's sweep and the centre's offsets from its
start. -/
def computedNumbers : Primitive → List Float
  | .circle shape => [shape.startingPoint.x]
  | .arc shape =>
    let start := shape.findPoint 0.0
    let finish := shape.findPoint 1.0
    [start.x, start.y, finish.x, finish.y, shape.center.x - start.x, shape.center.y - start.y]
  | .line _ | .ellipse _ | .polyline _ => []

/-- The lines the cut of a checked primitive writes itself show `NaN` or `inf` exactly when one
of the numbers it computes is not finite, at a finite feed rate. -/
theorem showsNonFinite_ownLines_iff {machine : Machine}
    (finiteFeed : machine.feedrate.isFinite = true) {primitive : Primitive}
    (checked : primitive.Checked) :
    (∃ motion ∈ primitive.cutMotions machine.feedrate, ∃ line ∈ motion.ownLines machine,
        ShowsNonFinite line) ↔
      ∃ value ∈ primitive.computedNumbers, value.isFinite = false := by
  cases primitive with
  | line shape | ellipse shape => exact checked.elim
  | circle shape =>
      obtain ⟨center, radius, made⟩ := checked
      obtain ⟨rfl, finiteCenter, finiteRadius⟩ := Circle.eq_of_make made
      simp only [Point.isFinite, Bool.and_eq_true] at finiteCenter
      simp [cutMotions, motions, Motion.ownLines, computedNumbers, showsNonFinite_comment_iff,
        Circle.startingPoint, finiteCenter, finiteRadius, finiteFeed, not_showsNonFinite_empty]
  | arc shape =>
      obtain ⟨center, radius, startAngle, endAngle, made⟩ := checked
      obtain ⟨rfl, finiteCenter, finiteRadius, finiteStart, finiteEnd⟩ := Arc.eq_of_make made
      simp only [Point.isFinite, Bool.and_eq_true] at finiteCenter
      simp [cutMotions, motions, Motion.ownLines, computedNumbers, showsNonFinite_comment_iff,
        finiteCenter, finiteRadius, finiteStart, finiteEnd, finiteFeed, not_showsNonFinite_empty,
        or_assoc]
  | polyline shape =>
      obtain ⟨chains, made⟩ := checked
      obtain ⟨rfl, finite⟩ := Polyline.eq_of_make made
      simp only [computedNumbers, List.not_mem_nil, false_and, exists_false, iff_false,
        not_exists, not_and]
      exact fun motion inCut line own => Polyline.not_showsNonFinite_ownLines finiteFeed finite
        motion inCut line own

/-- Cutting a checked primitive at a finite feed rate appends its lines, and these show `NaN` or
`inf` only where a number the cut computes is not finite: with all of them finite every line is
free of both words or a tool word, and a computed number that is not finite shows in some line.
-/
theorem cut_writes_finite_numbers_but_computed_ones (machine : Machine)
    (finiteFeed : machine.feedrate.isFinite = true) (state : Plotter) (primitive : Primitive)
    (checked : primitive.Checked) :
    ∃ after, primitive.emit machine state = .ok after ∧
      after.codes = state.codes ++ primitive.cutLines machine state.engaged ∧
      ((∀ value ∈ primitive.computedNumbers, value.isFinite = true) →
        ∀ line ∈ primitive.cutLines machine state.engaged,
          ¬ ShowsNonFinite line ∨ line = machine.toolOn ∨ line = machine.toolOff) ∧
      ∀ value ∈ primitive.computedNumbers, value.isFinite = false →
        ∃ line ∈ primitive.cutLines machine state.engaged, ShowsNonFinite line := by
  have cuttable : primitive.kind ≠ .ellipse := by
    cases primitive <;> simp_all [Checked, kind]
  have cut : primitive.emit machine state =
      .ok (Plotter.run machine state (primitive.cutMotions machine.feedrate)) :=
    emit_eq_ok_iff.2 ⟨cuttable, rfl⟩
  have ownLines := showsNonFinite_ownLines_iff finiteFeed checked
  refine ⟨_, cut, codes_emit cut, ?finite, ?nonFinite⟩
  case finite =>
    intro allFinite line member
    rcases Plotter.mem_ownLines_or_routine_of_mem_linesFrom member
      with ⟨motion, inCut, own⟩ | routine
    · refine .inl fun shows => ?_
      obtain ⟨value, computed, infinite⟩ := ownLines.1 ⟨motion, inCut, line, own, shows⟩
      simp [allFinite value computed] at infinite
    · exact Machine.word_or_not_showsNonFinite_of_routine routine
  case nonFinite =>
    intro value computed infinite
    obtain ⟨motion, inCut, line, own, shows⟩ := ownLines.2 ⟨value, computed, infinite⟩
    exact ⟨line, Plotter.mem_linesFrom_of_mem_ownLines inCut own, shows⟩

/-- A small circle's cut at the default feed rate writes finite numbers only. -/
theorem small_circle_cut_writes_finite_numbers :
    ∃ after, (Primitive.circle ⟨⟨5, 5⟩, 2⟩).emit {} {} = .ok after ∧
      ∀ line ∈ after.codes, ¬ ShowsNonFinite line ∨ line = "M3" ∨ line = "M5" := by
  obtain ⟨after, cut, codes, finite, -⟩ := cut_writes_finite_numbers_but_computed_ones {}
    (by decide +kernel) {} (.circle ⟨⟨5, 5⟩, 2⟩) ⟨⟨5, 5⟩, 2, rfl⟩
  -- the one computed number is the leftmost abscissa `5 - 2`
  have leftmost : ∀ value ∈ (Primitive.circle ⟨⟨5, 5⟩, 2⟩).computedNumbers,
      value.isFinite = true := by
    intro value computed
    rw [List.mem_singleton.1 computed]
    decide +kernel
  refine ⟨after, cut, fun line member => ?_⟩
  rw [codes] at member
  exact finite leftmost line member

end Primitive

/-- A circle of finite centre and radius whose leftmost point lies beyond the largest finite
value: its cut travels to `-inf`. -/
theorem Circle.leftmost_point_can_overflow :
    Circle.make? ⟨-1e308, 0⟩ 1e308 = .ok ⟨⟨-1e308, 0⟩, 1e308⟩ ∧
      ∃ after, (Primitive.circle ⟨⟨-1e308, 0⟩, 1e308⟩).emit {} {} = .ok after ∧
        "G0 X-inf Y0.00" ∈ after.codes :=
  ⟨Circle.make_of_isFinite (by decide +kernel) (by decide +kernel) (by decide +kernel), _,
    Primitive.emit_eq_ok_iff.2 ⟨by decide, rfl⟩, by decide +kernel⟩

end Toolpath
