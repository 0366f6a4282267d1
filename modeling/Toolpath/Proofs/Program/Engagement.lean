import Toolpath.Proofs.Program.Emission
import Toolpath.Proofs.Program.ToolSafety

/-!
# Engaging and disengaging in a compiled body

Building the body of a compiled program, the engage and disengage calls alternate, starting with
an engage call: every cut keeps the alternation from the tool the cuts before it left, whatever
routine lowers the tool in it (an explicit engage after the travel, or the draw that follows the
travel). Each call's word is followed by its dwell exactly when its delay is positive, since after
every call the next line is a move or an empty line, never a dwell; for the polylines this needs
every chain to have two points, as making a polyline ensures.

When the words can be told apart from the other lines, the body therefore holds as many engage
words as disengage words, or one more, and one more exactly when the last primitive in cutting
order that wrote a line is a line, which leaves the tool down for the postscript.

Main statements:
* `Primitive.toggles_cuts`: the calls of cuts in a row alternate from the tool as it was;
* `Machine.dwellsFollow_flatMap_lines`: where every call is followed by a written line that is no
  dwell, a word is followed by its dwell exactly when its delay is positive;
* `Action.Toggles.count_eq`: alternating calls hold as many disengage calls as engage calls, one
  fewer when they end with the tool down;
* `Program.engage_and_disengage_alternate`: all of it for a compiled body.
-/

namespace Toolpath

/-! ## Words and dwells of the calls -/

namespace Machine

variable (machine : Machine)

theorem word_eq_word_iff
    (apart : machine.toolOn ≠ machine.toolOff) {engage other : Bool} :
    machine.word engage = machine.word other ↔ engage = other := by
  cases engage <;> cases other <;> simp [word, apart, Ne.symm apart]

/-- A line that is neither word is no call's word. -/
theorem ne_word
    {line : String} (plain : line ≠ machine.toolOn ∧ line ≠ machine.toolOff) (engage : Bool) :
    line ≠ machine.word engage := by
  cases engage with
  | true => exact plain.1
  | false => exact plain.2

end Machine

/-- A dwell line: `G4` and its time. -/
def isDwellLine (line : String) : Bool :=
  isMoveLine "G4" line

/-! ## Alternation -/

/-- Calls that alternate from `engaged` hold as many engage calls as disengage calls, give or take
the tool before and after them. -/
theorem Action.Toggles.count_eq
    {engaged : Bool} {calls : List Bool} (toggles : Action.Toggles engaged calls) :
    calls.count true + (if engaged then 1 else 0) =
      calls.count false + (if calls.getLastD engaged then 1 else 0) := by
  induction calls generalizing engaged with
  | nil => simp
  | cons call rest induction =>
      obtain ⟨flips, following⟩ := toggles
      have counted := induction following
      subst flips
      rw [List.getLastD_cons, List.count_cons, List.count_cons]
      cases engaged <;> simp at counted ⊢ <;> omega

/-- The calls of cuts one after the other alternate from the tool as it was. -/
theorem Primitive.toggles_cuts
    (machine : Machine) (engaged : Bool) (primitives : List Primitive) :
    Action.Toggles engaged
      (Action.toolCalls (Motion.actionsFrom machine engaged
        (primitives.flatMap (Primitive.cutMotions machine.feedrate)))) := by
  -- two runs of calls alternate together when the second starts from the tool the first left
  have join : ∀ engaged first second, Action.Toggles engaged (Action.toolCalls first) →
      Action.Toggles (first.foldl Action.engagedAfter engaged) (Action.toolCalls second) →
        Action.Toggles engaged (Action.toolCalls (first ++ second)) := by
    intro engaged first second early late
    rw [Action.toolCalls_append, Action.Toggles.append_iff, ← Action.engagedAfter_foldl]
    exact ⟨early, late⟩
  exact Primitive.cuts_of_cut machine
    (fun engaged actions => Action.Toggles engaged (Action.toolCalls actions)) (fun _ => trivial)
    join (fun primitive _ => Primitive.toggles_cut machine primitive) engaged

/-- The lines of an action whose plain lines are no words hold a call's word once when the action
is that call, and not at all otherwise. -/
theorem Machine.count_lines_word
    (machine : Machine) (apart : machine.toolOn ≠ machine.toolOff) (engage : Bool)
    {action : Action}
    (plain : ∀ line ∈ action.plainLines machine, line ≠ machine.toolOn ∧ line ≠ machine.toolOff) :
    (action.lines machine).count (machine.word engage) = action.call?.toList.count engage := by
  have notWord : ∀ line ∈ action.plainLines machine, line ≠ machine.word engage :=
    fun line member => machine.ne_word (plain line member) engage
  cases action with
  | tool call =>
      have silent : (Machine.dwell (machine.delay call)).count (machine.word engage) = 0 :=
        List.count_eq_zero.2 fun member => notWord _ member rfl
      simp [Action.lines, Action.call?, List.count_cons, silent, machine.word_eq_word_iff apart]
  | write line =>
      have notLine := notWord line (List.mem_singleton_self _)
      show List.count _ [line] = 0
      exact List.count_eq_zero.2 fun member => notLine (List.mem_singleton.1 member).symm
  | place point => rfl

/-- Where no plain line is a word, the lines of actions hold a call's word once for each such
call among them. -/
theorem Machine.count_flatMap_lines
    (machine : Machine) (apart : machine.toolOn ≠ machine.toolOff) (engage : Bool)
    {actions : List Action}
    (plain : ∀ line ∈ actions.flatMap (Action.plainLines machine),
      line ≠ machine.toolOn ∧ line ≠ machine.toolOff) :
    (actions.flatMap (Action.lines machine)).count (machine.word engage) =
      (Action.toolCalls actions).count engage := by
  induction actions with
  | nil => rfl
  | cons action rest induction =>
      simp only [List.flatMap_cons, List.forall_mem_append] at plain
      rw [List.flatMap_cons, List.count_append, machine.count_lines_word apart engage plain.1,
        induction plain.2, Action.toolCalls_cons, List.count_append]

/-! ## The dwell after each word -/

/-- Every `word` line is followed, by the next of the lines or by `next` after the last of them,
with the dwell line of `delay` exactly when the delay is positive. -/
def DwellsFollowBefore (word : String) (delay : UInt32) : List String → Option String → Prop
  | [], _ => True
  | line :: rest, next =>
    (line = word → (rest.head?.or next = some ("G4 P" ++ toString delay) ↔ 0 < delay)) ∧
      DwellsFollowBefore word delay rest next

/-- Every `word` line is immediately followed by the dwell line of `delay` exactly when the delay
is positive. -/
def DwellsFollow (word : String) (delay : UInt32) (lines : List String) : Prop :=
  DwellsFollowBefore word delay lines none

section Dwells

variable {word : String} {delay : UInt32}

@[simp]
theorem dwellsFollowBefore_nil (next : Option String) : DwellsFollowBefore word delay [] next :=
  trivial

@[simp]
theorem dwellsFollowBefore_cons (line : String) (rest : List String) (next : Option String) :
    DwellsFollowBefore word delay (line :: rest) next ↔
      (line = word → (rest.head?.or next = some ("G4 P" ++ toString delay) ↔ 0 < delay)) ∧
        DwellsFollowBefore word delay rest next :=
  Iff.rfl

/-- The lines after the first list are what follows its last line. -/
theorem DwellsFollowBefore.append_iff
    {first second : List String} {next : Option String} :
    DwellsFollowBefore word delay (first ++ second) next ↔
      DwellsFollowBefore word delay first (second.head?.or next) ∧
        DwellsFollowBefore word delay second next := by
  induction first with
  | nil => simp
  | cons line rest induction =>
      simp [induction, List.head?_append, Option.or_assoc, and_assoc]

/-- Lines without the word say nothing of its dwell. -/
theorem dwellsFollowBefore_of_forall_ne
    {lines : List String} (absent : ∀ line ∈ lines, line ≠ word) (next : Option String) :
    DwellsFollowBefore word delay lines next := by
  induction lines with
  | nil => trivial
  | cons line rest induction =>
      refine ⟨fun same => absurd same (absent line (List.mem_cons_self ..)), ?_⟩
      exact induction fun other member => absent other (List.mem_cons_of_mem _ member)

end Dwells

namespace Action

/-- The line that actions write first, when they write one before any call. -/
def leadingWrite? : List Action → Option String
  | [] => none
  | .tool _ :: _ => none
  | .write line :: _ => some line
  | .place _ :: rest => leadingWrite? rest

/-- Every call is followed, past new positions only, by a written line that is no dwell. -/
def CallsThenWrite : List Action → Prop
  | [] => True
  | .tool _ :: rest =>
    (∃ line, leadingWrite? rest = some line ∧ isDwellLine line = false) ∧ CallsThenWrite rest
  | .write _ :: rest => CallsThenWrite rest
  | .place _ :: rest => CallsThenWrite rest

theorem leadingWrite?_append
    {first : List Action} {line : String} (lead : leadingWrite? first = some line)
    (second : List Action) :
    leadingWrite? (first ++ second) = some line := by
  induction first with
  | nil => cases lead
  | cons action rest induction =>
      cases action with
      | tool engage => cases lead
      | write written => exact lead
      | place point => exact induction lead

/-- The line written first is the first of the actions' lines. -/
theorem head?_flatMap_lines
    (machine : Machine) {actions : List Action} {line : String}
    (lead : leadingWrite? actions = some line) :
    (actions.flatMap (lines machine)).head? = some line := by
  induction actions with
  | nil => cases lead
  | cons action rest induction =>
      cases action with
      | tool engage => cases lead
      | write written => exact lead
      | place point => exact induction lead

theorem CallsThenWrite.tail
    {action : Action} {rest : List Action} (calls : CallsThenWrite (action :: rest)) :
    CallsThenWrite rest := by
  cases action with
  | tool engage => exact calls.2
  | write line => exact calls
  | place point => exact calls

theorem CallsThenWrite.append
    {first second : List Action} (early : CallsThenWrite first) (late : CallsThenWrite second) :
    CallsThenWrite (first ++ second) := by
  induction first with
  | nil => exact late
  | cons action rest induction =>
      cases action with
      | tool engage =>
          obtain ⟨⟨line, lead, notDwell⟩, following⟩ := early
          exact ⟨⟨line, leadingWrite?_append lead second, notDwell⟩, induction following⟩
      | write line => exact induction early
      | place point => exact induction early

end Action

/-- In the lines of actions whose calls are each followed by a written line that is no dwell, and
whose plain lines are no words, a call's word is followed by its dwell exactly when its delay is
positive. -/
theorem Machine.dwellsFollow_flatMap_lines
    (machine : Machine) (apart : machine.toolOn ≠ machine.toolOff) (engage : Bool)
    {actions : List Action}
    (plain : ∀ line ∈ actions.flatMap (Action.plainLines machine),
      line ≠ machine.toolOn ∧ line ≠ machine.toolOff)
    (calls : Action.CallsThenWrite actions) (next : Option String) :
    DwellsFollowBefore (machine.word engage) (machine.delay engage)
      (actions.flatMap (Action.lines machine)) next := by
  induction actions with
  | nil => trivial
  | cons action rest induction =>
      simp only [List.flatMap_cons, List.forall_mem_append] at plain
      have notWord : ∀ line ∈ action.plainLines machine, line ≠ machine.word engage :=
        fun line member => machine.ne_word (plain.1 line member) engage
      rw [List.flatMap_cons, DwellsFollowBefore.append_iff]
      refine ⟨?_, induction plain.2 calls.tail⟩
      cases action with
      | tool call =>
          refine ⟨fun same => ?_, dwellsFollowBefore_of_forall_ne notWord _⟩
          obtain rfl := (machine.word_eq_word_iff apart).1 same
          by_cases positive : 0 < machine.delay call
          · simp [Machine.dwell, positive]
          · -- without a dwell the word is followed by the line written next, which is no dwell
            obtain ⟨⟨line, lead, notDwell⟩, -⟩ := calls
            have written : line ≠ "G4 P" ++ toString (machine.delay call) := by
              rintro rfl
              simp [isDwellLine] at notDwell
            simp [Machine.dwell, positive, Action.head?_flatMap_lines machine lead, written]
      | write line =>
          exact dwellsFollowBefore_of_forall_ne notWord _
      | place point => trivial

/-! ## Every call of a cut is followed by a written line -/

/-- Every chain of a polyline has two points at least, as making a polyline ensures; the other
primitives have no chains. -/
def Primitive.HasLongChains : Primitive → Prop
  | .polyline shape => ∀ chain ∈ shape.chains, 2 ≤ chain.length
  | _ => True

instance (primitive : Primitive) : Decidable primitive.HasLongChains :=
  match primitive with
  | .polyline shape => inferInstanceAs (Decidable (∀ chain ∈ shape.chains, 2 ≤ chain.length))
  | .line _ | .circle _ | .arc _ | .ellipse _ => isTrue trivial

/-- A polyline as made from its chains has long chains. -/
theorem Primitive.hasLongChains_of_make
    {chains : List (List Point)} {polyline : Polyline}
    (made : Polyline.make? chains = .ok polyline) :
    (Primitive.polyline polyline).HasLongChains :=
  Polyline.two_le_length_of_make made

namespace Polyline

/-- Drawing through points with the tool down writes each draw line and sets the position twice. -/
theorem actionsFrom_drawThrough (machine : Machine) (points : List Point) :
    Motion.actionsFrom machine true (drawThrough points) =
      points.flatMap fun point =>
        [.write (machine.drawLine point), .place point, .place point] := by
  induction points with
  | nil => rfl
  | cons point rest induction =>
      simp [drawThrough, Motion.actions, Motion.engagedAfter] at induction ⊢
      exact induction

/-- Drawn points, then the disengage call and the empty line: the one call is followed by the
empty line. -/
theorem callsThenWrite_drawn (machine : Machine) (points : List Point) :
    Action.CallsThenWrite
      ((points.flatMap fun point =>
          [.write (machine.drawLine point), .place point, .place point]) ++
        [.tool false, .write ""]) := by
  induction points with
  | nil => exact ⟨⟨"", rfl, isMoveLine_empty⟩, trivial⟩
  | cons point rest induction => exact induction

/-- In a chain of two points at least, the engage call is followed by the draw line to the second
point, and a disengage call before the travel by the travel line. -/
theorem callsThenWrite_chainMotions
    (machine : Machine) (engaged : Bool) (label : String)
    {points : List Point} (long : 2 ≤ points.length) :
    Action.CallsThenWrite (Motion.actionsFrom machine engaged (chainMotions label points)) := by
  obtain ⟨first, second, more, rfl⟩ : ∃ first second more, points = first :: second :: more := by
    match points, long with
    | first :: second :: more, _ => exact ⟨first, second, more, rfl⟩
  simp only [chainMotions_cons, Motion.actionsFrom_cons, Motion.actionsFrom_append,
    engagedAfter_drawThrough, actionsFrom_drawThrough, Motion.actions, Motion.engagedAfter]
  have drawn := callsThenWrite_drawn machine (second :: more)
  cases engaged with
  | true =>
      exact ⟨⟨_, rfl, by simp [isDwellLine]⟩, ⟨_, rfl, by simp [isDwellLine]⟩, drawn⟩
  | false => exact ⟨⟨_, rfl, by simp [isDwellLine]⟩, drawn⟩

theorem callsThenWrite_chains
    (machine : Machine) (engaged : Bool) (label : String) {chains : List (List Point)}
    (long : ∀ chain ∈ chains, 2 ≤ chain.length) :
    Action.CallsThenWrite
      (Motion.actionsFrom machine engaged (chains.flatMap (chainMotions label))) := by
  induction chains generalizing engaged with
  | nil => trivial
  | cons chain rest induction =>
      rw [List.flatMap_cons, Motion.actionsFrom_append]
      have first :=
        callsThenWrite_chainMotions machine engaged label (long chain (List.mem_cons_self ..))
      exact first.append
        (induction _ fun other member => long other (List.mem_cons_of_mem _ member))

end Polyline

namespace Primitive

/-- Every call of a cut is followed by a written line that is no dwell, from either tool state,
when the chains of a polyline are long. -/
theorem callsThenWrite_cut
    (machine : Machine) (engaged : Bool) {primitive : Primitive} (long : primitive.HasLongChains) :
    Action.CallsThenWrite
      (Motion.actionsFrom machine engaged (primitive.cutMotions machine.feedrate)) := by
  cases primitive with
  | line shape | circle shape | arc shape =>
      cases engaged <;>
        simp [cutMotions, motions, Motion.actions, Motion.engagedAfter, Action.CallsThenWrite,
          Action.leadingWrite?, isDwellLine]
  | ellipse shape => trivial
  | polyline shape => exact Polyline.callsThenWrite_chains machine engaged shape.label long

theorem callsThenWrite_cuts
    (machine : Machine) (engaged : Bool) {primitives : List Primitive}
    (long : ∀ primitive ∈ primitives, primitive.HasLongChains) :
    Action.CallsThenWrite
      (Motion.actionsFrom machine engaged
        (primitives.flatMap (Primitive.cutMotions machine.feedrate))) :=
  cuts_of_cut machine (fun _ actions => Action.CallsThenWrite actions) (fun _ => trivial)
    (fun _ _ _ first second => first.append second)
    (fun primitive member engaged => callsThenWrite_cut machine engaged (long primitive member))
    engaged

end Primitive

/-! ## A compiled body -/

namespace Config

variable (config : Config) (primitives : List Primitive)

/-- The calls of a compilation alternate, starting with an engage call. -/
theorem toggles_cutActions :
    Action.Toggles false (Action.toolCalls (config.cutActions primitives)) :=
  Primitive.toggles_cuts config.machine false (config.cuttingOrder primitives)

/-- The last call of a compilation is an engage call exactly when the last primitive in cutting
order that writes a line is a line. -/
theorem lastCall_cutActions :
    (Action.toolCalls (config.cutActions primitives)).getLastD false =
      config.machine.leftDown (config.cuttingOrder primitives) := by
  have left := engagedAfter_flatMap_cutMotions config.machine [] (config.cuttingOrder primitives)
  rw [Machine.leftDown_nil, List.nil_append] at left
  rw [← Action.engagedAfter_foldl, cutActions, Motion.engagedAfter_actionsFrom, cutMotions, left]

/-- Where every polyline chain is long, every call of a compilation is followed by a written line
that is no dwell. -/
theorem callsThenWrite_cutActions
    (long : ∀ primitive ∈ primitives, primitive.HasLongChains) :
    Action.CallsThenWrite (config.cutActions primitives) :=
  Primitive.callsThenWrite_cuts config.machine false fun primitive member =>
    long primitive ((config.cuttingOrder_perm primitives).mem_iff.1 member)

end Config

namespace Program

variable {config : Config} {primitives : List Primitive} {program : Program}

/-- In a compiled body whose words stand apart from its other lines, each call's word is followed by
its dwell exactly when its delay is positive. -/
theorem dwellsFollow_body
    (compiled : compile config primitives = .ok program)
    (apart : config.machine.WordsApart
      ((config.cutActions primitives).flatMap (Action.plainLines config.machine)))
    (long : ∀ primitive ∈ primitives, primitive.HasLongChains) (engage : Bool) :
    DwellsFollow (config.machine.word engage) (config.machine.delay engage) program.body := by
  rw [body_eq_cutActions compiled]
  exact config.machine.dwellsFollow_flatMap_lines apart.1 engage apart.2
    (config.callsThenWrite_cutActions primitives long) none

/-- A compiled body whose words stand apart from its other lines holds as many engage words as
disengage words, and one more exactly when the tool is left down. -/
theorem count_toolOn_body
    (compiled : compile config primitives = .ok program)
    (apart : config.machine.WordsApart
      ((config.cutActions primitives).flatMap (Action.plainLines config.machine))) :
    program.body.count config.machine.toolOn =
      program.body.count config.machine.toolOff +
        if config.machine.leftDown (config.cuttingOrder primitives) then 1 else 0 := by
  have counted := (config.toggles_cutActions primitives).count_eq
  rw [config.lastCall_cutActions] at counted
  have engages := config.machine.count_flatMap_lines apart.1 true apart.2
  have disengages := config.machine.count_flatMap_lines apart.1 false apart.2
  simp only [Machine.word] at engages disengages
  rw [body_eq_cutActions compiled, engages, disengages]
  simpa using counted

/-- No redundant engage or disengage in a compiled body. The calls made building it alternate,
starting with an engage call. Where the words stand apart from the other lines of the body, each
word is followed by its dwell exactly when its delay is positive (every polyline chain having two
points at least), and the body holds as many engage words as disengage words, one more exactly
when the last primitive in cutting order that wrote a line is a line. -/
theorem engage_and_disengage_alternate
    (config : Config) (primitives : List Primitive) (program : Program)
    (compiled : compile config primitives = .ok program) :
    program.body = (config.cutActions primitives).flatMap (Action.lines config.machine) ∧
      Action.Toggles false (Action.toolCalls (config.cutActions primitives)) ∧
      (config.machine.WordsApart
          ((config.cutActions primitives).flatMap (Action.plainLines config.machine)) →
        ((∀ primitive ∈ primitives, primitive.HasLongChains) →
            DwellsFollow config.machine.toolOn config.machine.onDelay program.body ∧
              DwellsFollow config.machine.toolOff config.machine.offDelay program.body) ∧
          program.body.count config.machine.toolOn =
            program.body.count config.machine.toolOff +
              if config.machine.leftDown (config.cuttingOrder primitives) then 1 else 0) := by
  refine ⟨body_eq_cutActions compiled, config.toggles_cutActions primitives,
    fun apart => ⟨fun long => ?_, count_toolOn_body compiled apart⟩⟩
  exact ⟨dwellsFollow_body compiled apart long true, dwellsFollow_body compiled apart long false⟩

/-- A circle, a polyline and a line, with a dwell after engaging only: the line, cut last, leaves
one engage word more than disengage words. -/
theorem circle_polyline_line_engage_in_turn :
    ∃ program,
      compile { machine := { onDelay := 200 } }
          [.circle ⟨⟨5, 5⟩, 1⟩, .polyline ⟨[[⟨0, 0⟩, ⟨1, 0⟩, ⟨1, 1⟩]]⟩,
            .line ⟨⟨0, 0⟩, ⟨3, 4⟩⟩] = .ok program ∧
        Machine.WordsApart { onDelay := 200 }
          ((Config.cutActions { machine := { onDelay := 200 } }
              [.circle ⟨⟨5, 5⟩, 1⟩, .polyline ⟨[[⟨0, 0⟩, ⟨1, 0⟩, ⟨1, 1⟩]]⟩,
                .line ⟨⟨0, 0⟩, ⟨3, 4⟩⟩]).flatMap
            (Action.plainLines { onDelay := 200 })) ∧
        (∀ primitive ∈ [Primitive.circle ⟨⟨5, 5⟩, 1⟩, .polyline ⟨[[⟨0, 0⟩, ⟨1, 0⟩, ⟨1, 1⟩]]⟩,
            .line ⟨⟨0, 0⟩, ⟨3, 4⟩⟩], primitive.HasLongChains) ∧
        DwellsFollow "M3" 200 program.body ∧ DwellsFollow "M5" 0 program.body ∧
        program.body.count "M3" = program.body.count "M5" + 1 := by
  refine ⟨_, rfl, by decide, by decide, ?_⟩
  have alternate := engage_and_disengage_alternate { machine := { onDelay := 200 } }
    [.circle ⟨⟨5, 5⟩, 1⟩, .polyline ⟨[[⟨0, 0⟩, ⟨1, 0⟩, ⟨1, 1⟩]]⟩, .line ⟨⟨0, 0⟩, ⟨3, 4⟩⟩] _ rfl
  obtain ⟨dwells, counted⟩ := alternate.2.2 (by decide)
  exact ⟨(dwells (by decide)).1, (dwells (by decide)).2, counted⟩

end Program

end Toolpath
