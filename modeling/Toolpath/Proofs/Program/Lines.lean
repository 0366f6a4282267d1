import Toolpath.Proofs.Program.Outcome

/-!
# Reading the program text back as lines

The text of a program is each of its lines followed by a line feed. A reader of the text cuts it
back into lines after every line feed, drops the line feed and a carriage return right before
it, and keeps what follows the last line feed as a line when it is not empty. This module states
that rule (`readLines`) and proves when the text reads back as exactly the lines it was written
from: when every line holds no line feed and does not end in a carriage return.

Every line a program writes from its templates (the preamble, the motion lines, the comments,
the dwells and the postscript) holds neither a line feed nor a carriage return. The tool words are
the only text of a configuration that reaches the program unchecked, so a compiled program reads
back as its lines exactly when each tool word it writes is one line.

Main statements:
* `readLines_join_iff`: lines joined with line feeds read back as themselves exactly when each
  is one line;
* `Program.lines_plain_or_word`: every line of a compiled program is plain or a tool word;
* `Program.text_reads_back_iff`: the text of a compiled program reads back as its lines exactly
  when each tool word among them is one line.
-/

namespace Toolpath

open Toolpath.Number

/-! ## The rule for reading lines -/

/-- A line without the carriage return it ends in, if it ends in one. -/
def withoutReturn (line : List Char) : List Char :=
  if line.getLast? = some '\r' then line.dropLast else line

/-- The lines of a text after the characters `current` of an unfinished line, which are kept
last one first. A line feed ends the line, and a carriage return before it is dropped; at the end
of the text an unfinished line is a line when it is not empty. -/
def readLinesFrom (current : List Char) : List Char → List (List Char)
  | [] => if current.isEmpty then [] else [current.reverse]
  | character :: rest =>
    if character = '\n' then withoutReturn current.reverse :: readLinesFrom [] rest
    else readLinesFrom (character :: current) rest

/-- The lines of a text. -/
def readLines (text : String) : List String :=
  (readLinesFrom [] text.toList).map String.ofList

/-- A line reads back as itself: it holds no line feed and does not end in a carriage return. -/
def IsOneLine (line : String) : Prop :=
  '\n' ∉ line.toList ∧ line.toList.getLast? ≠ some '\r'

instance : DecidablePred IsOneLine :=
  fun line => inferInstanceAs (Decidable ('\n' ∉ line.toList ∧ line.toList.getLast? ≠ some '\r'))

theorem withoutReturn_eq_self_iff (line : List Char) :
    withoutReturn line = line ↔ line.getLast? ≠ some '\r' := by
  unfold withoutReturn
  split
  · next endsInReturn =>
      simp only [endsInReturn, ne_eq, not_true_eq_false, iff_false]
      intro same
      have shorter := congrArg List.length same
      have nonempty : line ≠ [] := by
        rintro rfl
        simp at endsInReturn
      have positive := List.length_pos_of_ne_nil nonempty
      simp at shorter
      omega
  · next notReturn => simpa using notReturn

section Reading

variable {current : List Char}

/-- Characters other than a line feed join the unfinished line. -/
theorem readLinesFrom_append_of_not_mem {characters : List Char} (noFeed : '\n' ∉ characters)
    (rest : List Char) :
    readLinesFrom current (characters ++ rest) =
      readLinesFrom (characters.reverse ++ current) rest := by
  induction characters generalizing current with
  | nil => rfl
  | cons character others induction =>
      have notFeed : character ≠ '\n' := fun same => noFeed (same ▸ List.mem_cons_self)
      have othersClear : '\n' ∉ others := fun member => noFeed (List.mem_cons_of_mem _ member)
      simp [readLinesFrom, notFeed, induction othersClear]

/-- Lines without a line feed, each followed by one, read back as themselves less a final
carriage return. -/
theorem readLinesFrom_flatMap {lines : List (List Char)} (noFeed : ∀ line ∈ lines, '\n' ∉ line) :
    readLinesFrom [] (lines.flatMap (· ++ ['\n'])) = lines.map withoutReturn := by
  induction lines with
  | nil => rfl
  | cons line rest induction =>
      have lineClear := noFeed line List.mem_cons_self
      have restClear : ∀ other ∈ rest, '\n' ∉ other :=
        fun other member => noFeed other (List.mem_cons_of_mem _ member)
      rw [List.flatMap_cons, List.append_assoc, readLinesFrom_append_of_not_mem lineClear]
      simp [readLinesFrom, induction restClear]

/-- Every line feed ends one line. -/
theorem length_readLinesFrom_append_feed (characters rest : List Char) :
    (readLinesFrom current (characters ++ '\n' :: rest)).length =
      characters.count '\n' + 1 + (readLinesFrom [] rest).length := by
  induction characters generalizing current with
  | nil =>
      simp [readLinesFrom]
      omega
  | cons character others induction =>
      by_cases isFeed : character = '\n'
      · subst isFeed
        simp [readLinesFrom, induction]
        omega
      · simp [readLinesFrom, isFeed, induction]

/-- Lines each followed by a line feed read back as one line per line feed. -/
theorem length_readLinesFrom_flatMap (lines : List (List Char)) :
    (readLinesFrom [] (lines.flatMap (· ++ ['\n']))).length =
      (lines.flatMap (· ++ ['\n'])).count '\n' := by
  induction lines with
  | nil => rfl
  | cons line rest induction =>
      rw [List.flatMap_cons, List.append_assoc, List.singleton_append,
        length_readLinesFrom_append_feed, induction, List.count_append, List.count_cons_self]
      omega

end Reading

/-- Lines each followed by a line feed hold one line feed per line and those of the lines. -/
theorem count_flatMap_feed (lines : List (List Char)) :
    (lines.flatMap (· ++ ['\n'])).count '\n' = lines.length + lines.flatten.count '\n' := by
  induction lines with
  | nil => rfl
  | cons line rest induction =>
      simp only [List.flatMap_cons, List.count_append, List.count_singleton_self, induction,
        List.flatten_cons, List.length_cons]
      omega

/-- Lines each followed by a line feed read back as themselves exactly when none holds a line
feed or ends in a carriage return. -/
theorem readLinesFrom_flatMap_eq_iff (lines : List (List Char)) :
    readLinesFrom [] (lines.flatMap (· ++ ['\n'])) = lines ↔
      ∀ line ∈ lines, '\n' ∉ line ∧ line.getLast? ≠ some '\r' := by
  constructor
  · intro readBack
    -- one line per line feed: as many lines came back as went in, so the lines hold none
    have noFeed : ∀ line ∈ lines, '\n' ∉ line := by
      have counted := congrArg List.length readBack
      rw [length_readLinesFrom_flatMap, count_flatMap_feed] at counted
      intro line member feed
      have inside : 0 < lines.flatten.count '\n' :=
        List.count_pos_iff.2 (List.mem_flatten.2 ⟨line, member, feed⟩)
      omega
    rw [readLinesFrom_flatMap noFeed] at readBack
    have kept := List.map_inj_left.1 (readBack.trans (List.map_id lines).symm)
    exact fun line member =>
      ⟨noFeed line member, (withoutReturn_eq_self_iff line).1 (kept line member)⟩
  · intro oneLine
    rw [readLinesFrom_flatMap fun line member => (oneLine line member).1]
    exact (List.map_congr_left fun line member =>
      (withoutReturn_eq_self_iff line).2 (oneLine line member).2).trans (List.map_id lines)

/-- Lines joined, each followed by a line feed, read back as themselves exactly when each is one
line. -/
theorem readLines_join_iff (lines : List String) :
    readLines (String.join (lines.map (· ++ "\n"))) = lines ↔ ∀ line ∈ lines, IsOneLine line := by
  have text : (String.join (lines.map (· ++ "\n"))).toList =
      (lines.map String.toList).flatMap (· ++ ['\n']) := by
    simp [String.toList_join, List.flatMap_map]
  have characters : ∀ read : List (List Char),
      read.map String.ofList = lines ↔ read = lines.map String.toList := by
    intro read
    constructor
    · rintro rfl
      simp [Function.comp_def]
    · rintro rfl
      simp [Function.comp_def]
  rw [readLines, text, characters, readLinesFrom_flatMap_eq_iff, List.forall_mem_map]
  rfl

/-! ## Plain lines -/

/-- A line that holds neither a line feed nor a carriage return. -/
def IsPlain (line : String) : Prop :=
  ∀ character ∈ line.toList, character ≠ '\n' ∧ character ≠ '\r'

-- Decided character by character along the line: with every character's instance in scope the
-- search would otherwise range over all characters.
instance : DecidablePred IsPlain :=
  fun line => List.decidableBAll _ line.toList

theorem IsPlain.isOneLine {line : String} (plain : IsPlain line) : IsOneLine line := by
  refine ⟨fun feed => (plain '\n' feed).1 rfl, fun last => ?_⟩
  exact (plain '\r' (List.mem_of_getLast? last)).2 rfl

@[simp]
theorem isPlain_append (first second : String) :
    IsPlain (first ++ second) ↔ IsPlain first ∧ IsPlain second := by
  simp only [IsPlain, String.toList_append, List.forall_mem_append]

@[simp]
theorem isPlain_natText (value : Nat) : IsPlain (natText value) := by
  intro character member
  rw [natText, String.toList_ofList] at member
  have digit := Nat.isDigit_of_mem_toDigits (by decide) (by decide) member
  constructor <;> rintro rfl <;> simp at digit

@[simp]
theorem isPlain_repeatChar (count : Nat) : IsPlain (repeatChar count '0') := by
  intro character member
  simp only [repeatChar, String.toList_ofList, List.mem_replicate] at member
  rw [member.2]
  decide

/-- A number written with two places holds no line break. -/
@[simp]
theorem isPlain_twoPlaces (value : Float) : IsPlain (twoPlaces value) := by
  unfold twoPlaces fixedText
  split
  · decide
  · split <;> decide
  · split <;> simp +decide

section Templates

variable (machine : Machine) (point : Point) (feedrate : Float)

@[simp]
theorem isPlain_pointLabel : IsPlain point.label := by
  unfold Point.label
  simp only [isPlain_append, isPlain_twoPlaces, and_true]
  decide

@[simp]
theorem isPlain_lineLabel (line : Line) : IsPlain line.label := by
  unfold Line.label
  simp only [isPlain_append, isPlain_pointLabel, and_true]
  decide

@[simp]
theorem isPlain_circleLabel (circle : Circle) : IsPlain circle.label := by
  unfold Circle.label
  simp only [isPlain_append, isPlain_twoPlaces, and_true]
  decide

@[simp]
theorem isPlain_arcLabel (arc : Arc) : IsPlain arc.label := by
  unfold Arc.label
  simp only [isPlain_append, isPlain_pointLabel, isPlain_twoPlaces, and_true]
  decide

@[simp]
theorem isPlain_polylineLabel (polyline : Polyline) : IsPlain polyline.label := by
  unfold Polyline.label
  simp only [isPlain_append, isPlain_natText, and_true]
  exact ⟨by decide +kernel, by decide⟩

@[simp]
theorem isPlain_travelLine : IsPlain (Machine.travelLine point) := by
  unfold Machine.travelLine
  simp only [isPlain_append, isPlain_twoPlaces, and_true]
  decide

@[simp]
theorem isPlain_drawLine : IsPlain (machine.drawLine point) := by
  unfold Machine.drawLine
  simp only [isPlain_append, isPlain_twoPlaces, and_true]
  decide

@[simp]
theorem isPlain_circleArcLine (circle : Circle) : IsPlain (circle.arcLine feedrate) := by
  unfold Circle.arcLine
  simp only [isPlain_append, isPlain_twoPlaces, and_true]
  decide

@[simp]
theorem isPlain_arcArcLine (arc : Arc) : IsPlain (arc.arcLine feedrate) := by
  delta Arc.arcLine
  simp only [isPlain_append, isPlain_twoPlaces, and_true]
  decide

/-- A dwell line is `G4 P` and the digits of the delay. -/
theorem isPlain_of_mem_dwell {delay : UInt32} {line : String}
    (member : line ∈ Machine.dwell delay) : IsPlain line := by
  unfold Machine.dwell at member
  split at member
  · rw [List.mem_singleton.1 member, isPlain_append]
    exact ⟨by decide, isPlain_natText delay.toNat⟩
  · simp at member

end Templates

/-! ## The lines of a compiled program -/

/-- A motion whose own text, the text of a comment or a raw line, is plain. -/
def Motion.WritesPlain : Motion → Prop
  | .comment text => IsPlain text
  | .raw line => IsPlain line
  | _ => True

/-- An action whose written line, if it writes one, is plain; a tool call writes its tool word. -/
def Action.WritesPlain : Action → Prop
  | .write line => IsPlain line
  | _ => True

/-- An action writes plain lines and tool words only. -/
theorem Action.plain_or_word_of_mem_lines {machine : Machine} {action : Action}
    (plain : action.WritesPlain) {line : String} (member : line ∈ action.lines machine) :
    IsPlain line ∨ line = machine.toolOn ∨ line = machine.toolOff := by
  cases action with
  | tool engage =>
      rcases List.mem_cons.1 member with rfl | inDwell
      · cases engage
        · exact .inr (.inr rfl)
        · exact .inr (.inl rfl)
      · exact .inl (isPlain_of_mem_dwell inDwell)
  | write written =>
      rw [List.mem_singleton.1 member]
      exact .inl plain
  | place point => simp [Action.lines] at member

namespace Motion

/-- A motion with plain text has actions with plain lines: its moves are written from templates,
and its comment only wraps its text in brackets. -/
theorem writesPlain_actions {machine : Machine} {engaged : Bool} {motion : Motion}
    (plain : motion.WritesPlain) : ∀ action ∈ motion.actions machine engaged, action.WritesPlain := by
  cases motion <;> cases engaged <;>
    simp_all +decide [actions, WritesPlain, Action.WritesPlain]

theorem writesPlain_actionsFrom {machine : Machine} {motions : List Motion}
    (plain : ∀ motion ∈ motions, motion.WritesPlain) (engaged : Bool) :
    ∀ action ∈ actionsFrom machine engaged motions, action.WritesPlain := by
  induction motions generalizing engaged with
  | nil => simp
  | cons motion rest induction =>
      intro action member
      rcases List.mem_append.1 member with here | later
      · exact writesPlain_actions (plain motion List.mem_cons_self) action here
      · exact induction (fun other inRest => plain other (List.mem_cons_of_mem _ inRest)) _
          action later

end Motion

/-- The motions of a cut carry no text but the primitive's label and its arc line. -/
theorem Primitive.writesPlain_cutMotions (feedrate : Float) (primitive : Primitive) :
    ∀ motion ∈ primitive.cutMotions feedrate, motion.WritesPlain := by
  cases primitive with
  | line shape | circle shape | arc shape | ellipse shape =>
      simp [cutMotions, motions, Motion.WritesPlain]
  | polyline shape =>
      intro motion member
      simp only [cutMotions, motions, List.mem_flatMap] at member
      obtain ⟨chain, -, inChain⟩ := member
      cases chain with
      | nil => simp at inChain
      | cons first rest =>
          simp only [Polyline.chainMotions, List.mem_append, List.mem_cons, List.mem_flatMap,
            List.not_mem_nil, or_false] at inChain
          rcases inChain with ((rfl | rfl | rfl) | ⟨point, -, rfl | rfl⟩) | rfl | rfl <;>
            simp [Motion.WritesPlain]

namespace Program

variable {config : Config} {primitives : List Primitive} {program : Program}

/-- Every line of a compiled program is plain or one of the two tool words. -/
theorem lines_plain_or_word (compiled : compile config primitives = .ok program) :
    ∀ line ∈ program.lines,
      IsPlain line ∨ line = config.machine.toolOn ∨ line = config.machine.toolOff := by
  have actionsPlain : ∀ action ∈ config.cutActions primitives, action.WritesPlain := by
    apply Motion.writesPlain_actionsFrom
    intro motion member
    obtain ⟨primitive, -, inCut⟩ := List.mem_flatMap.1 member
    exact Primitive.writesPlain_cutMotions _ primitive motion inCut
  rw [lines_compile compiled, body_eq_cutActions compiled]
  intro line member
  rcases List.mem_append.1 member with front | post
  · rcases List.mem_append.1 front with pre | body
    · simp only [Config.preamble, List.mem_cons, List.not_mem_nil, or_false] at pre
      rcases pre with rfl | rfl | rfl | rfl
      · exact .inl (by decide +kernel)
      · left
        cases config.output.units <;> decide
      · exact .inl (by decide)
      · exact .inl (by decide)
    · obtain ⟨action, inActions, inLines⟩ := List.mem_flatMap.1 body
      exact Action.plain_or_word_of_mem_lines (actionsPlain action inActions) inLines
  · simp only [Config.postscript, List.mem_append, List.mem_cons, List.not_mem_nil,
      or_false] at post
    rcases post with ((rfl | rfl | rfl) | home) | rfl
    · exact .inl (by decide)
    · exact .inl (by decide)
    · exact .inr (.inr rfl)
    · split at home
      · rw [List.mem_singleton.1 home]
        exact .inl (isPlain_travelLine _)
      · simp at home
    · exact .inl (by decide)

/-- The text of a compiled program reads back as its lines exactly when each tool word among its
lines is one line. Every other line comes from a template and holds no line break. -/
theorem text_reads_back_iff (compiled : compile config primitives = .ok program) :
    readLines program.text = program.lines ↔
      ∀ word ∈ [config.machine.toolOn, config.machine.toolOff],
        word ∈ program.lines → IsOneLine word := by
  rw [Program.text, readLines_join_iff]
  constructor
  · intro oneLine word _ member
    exact oneLine word member
  · intro words line member
    rcases lines_plain_or_word compiled line member with plain | rfl | rfl
    · exact plain.isOneLine
    · exact words _ (by simp) member
    · exact words _ (by simp) member

/-- With the default tool words, the program that cuts one line reads back as its lines. -/
theorem line_program_reads_back :
    ∃ program, compile {} [.line ⟨⟨0, 0⟩, ⟨3, 4⟩⟩] = .ok program ∧
      readLines program.text = program.lines := by
  obtain ⟨program, compiled⟩ : ∃ program, compile {} [.line ⟨⟨0, 0⟩, ⟨3, 4⟩⟩] = .ok program :=
    ⟨_, rfl⟩
  refine ⟨program, compiled, (text_reads_back_iff compiled).2 ?_⟩
  intro word member _
  simp only [List.mem_cons, List.not_mem_nil, or_false] at member
  rcases member with rfl | rfl <;> decide

/-- A tool word with a line feed in it is written as one line of the program but reads back as
two, so the text has one line more than the program. -/
theorem tool_word_with_line_feed_reads_back_as_two_lines :
    ∃ program, compile { machine := { toolOff := "M5\nM9" } } [] = .ok program ∧
      readLines program.text ≠ program.lines ∧
      (readLines program.text).length = program.lines.length + 1 :=
  ⟨_, rfl, by decide +kernel, by decide +kernel⟩

end Program

end Toolpath
