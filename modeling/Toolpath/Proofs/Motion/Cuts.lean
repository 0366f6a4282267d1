import Toolpath.Proofs.Motion.Actions

/-!
# What cutting a primitive does

Every primitive that can be cut is cut by motions that start with its comment and a travel to
its first point, or by no motion at all (a polyline without chains). So the only way a cut
depends on the plotter before it is through the tool: with the tool still down the travel first
writes the disengage block, right after the comment. After the cut the tool is down exactly when
the primitive is a line, and as it was when the cut wrote nothing.

Main statements:
* `Primitive.emit_eq_error_iff`: cutting fails exactly for an ellipse, whatever the plotter;
* `Primitive.cutLines_true`: the lines of a cut with the tool down are those with the tool up,
  the disengage block inserted after the first;
* `Primitive.engagedAfter_cutMotions`: how a cut leaves the tool;
* `Primitive.toggles_cut`: the engage and disengage calls of a cut alternate from the tool as it
  was;
* `Primitive.safeFrom_cut`: every rapid line of a cut is written with the tool up and every
  cutting line with it down.
-/

namespace Toolpath

open Toolpath.Number

/-! ## Kinds of program lines -/

/-- A dwell line is no move. -/
theorem not_move_of_mem_dwell {delay : UInt32} {line : String}
    (member : line ∈ Machine.dwell delay) :
    isRapidLine line = false ∧ isCuttingLine line = false := by
  by_cases positive : delay > 0
  · simp only [Machine.dwell, positive, if_true, List.mem_singleton] at member
    subst member
    simp [isRapidLine, isCuttingLine]
  · simp [Machine.dwell, positive] at member

/-! ## Motions that switch the tool only to change it -/

namespace Motion

/-- An explicit engage is made only with the tool up and an explicit disengage only with it down;
travel and draw switch the tool only when they must. -/
def Switches (engaged : Bool) : Motion → Prop
  | .engage => engaged = false
  | .disengage => engaged = true
  | _ => True

/-- Every motion switches the tool only to change it, the tool followed from `engaged`. -/
def SwitchesFrom : Bool → List Motion → Prop
  | _, [] => True
  | engaged, motion :: rest =>
    motion.Switches engaged ∧ SwitchesFrom (motion.engagedAfter engaged) rest

@[simp]
theorem switchesFrom_nil (engaged : Bool) : SwitchesFrom engaged [] := trivial

@[simp]
theorem switchesFrom_cons (engaged : Bool) (motion : Motion) (rest : List Motion) :
    SwitchesFrom engaged (motion :: rest) ↔
      motion.Switches engaged ∧ SwitchesFrom (motion.engagedAfter engaged) rest :=
  Iff.rfl

theorem SwitchesFrom.append_iff
    {engaged : Bool} {first second : List Motion} :
    SwitchesFrom engaged (first ++ second) ↔
      SwitchesFrom engaged first ∧ SwitchesFrom (first.foldl engagedAfter engaged) second := by
  induction first generalizing engaged with
  | nil => simp
  | cons motion rest induction =>
      simp [induction, and_assoc]

/-- The calls of a motion that switches properly change the tool. -/
theorem toggles_actions
    (machine : Machine) {engaged : Bool} {motion : Motion}
    (switches : motion.Switches engaged) :
    Action.Toggles engaged (Action.toolCalls (motion.actions machine engaged)) := by
  cases motion <;> cases engaged <;> simp_all [Switches, actions, Action.call?]

/-- The calls of motions that switch properly alternate. -/
theorem toggles_actionsFrom
    (machine : Machine) {engaged : Bool} {motions : List Motion}
    (switches : SwitchesFrom engaged motions) :
    Action.Toggles engaged (Action.toolCalls (actionsFrom machine engaged motions)) := by
  induction motions generalizing engaged with
  | nil => simp
  | cons motion rest induction =>
      rw [switchesFrom_cons] at switches
      rw [actionsFrom_cons, Action.toolCalls_append, Action.Toggles.append_iff,
        ← Action.engagedAfter_foldl, engagedAfter_actions]
      exact ⟨toggles_actions machine switches.1, induction switches.2⟩

/-- A motion other than a raw line writes safely from either tool state. -/
theorem safeFrom_actions
    (machine : Machine) (engaged : Bool) (motion : Motion)
    (notRaw : ∀ line, motion ≠ .raw line) :
    Action.SafeFrom engaged (motion.actions machine engaged) := by
  cases motion with
  | raw line => exact absurd rfl (notRaw line)
  | _ =>
    cases engaged <;>
      simp [actions, Action.SafeAt, SafeLine, Action.engagedAfter, isRapidLine, isCuttingLine]

/-- Motions without a raw line write safely from either tool state. -/
theorem safeFrom_actionsFrom
    (machine : Machine) (engaged : Bool) (motions : List Motion)
    (notRaw : ∀ motion ∈ motions, ∀ line, motion ≠ .raw line) :
    Action.SafeFrom engaged (actionsFrom machine engaged motions) := by
  induction motions generalizing engaged with
  | nil => simp
  | cons motion rest induction =>
      rw [actionsFrom_cons, Action.SafeFrom.append_iff, engagedAfter_actions]
      exact ⟨safeFrom_actions machine engaged motion (notRaw motion (by simp)),
        induction _ (fun other member => notRaw other (by simp [member]))⟩

/-- Motions that open a cut: none, or a comment followed by a travel. -/
def Opening (motions : List Motion) : Prop :=
  motions = [] ∨ ∃ text target rest, motions = .comment text :: .travel target :: rest

theorem Opening.append
    {first second : List Motion}
    (opens : Opening first) (then_opens : Opening second) :
    Opening (first ++ second) := by
  rcases opens with rfl | ⟨text, target, rest, rfl⟩
  · simpa using then_opens
  · exact .inr ⟨text, target, rest ++ second, rfl⟩

end Motion

/-- Lines with the disengage block inserted after the first: what a cut writes when the tool is
still down from the one before. -/
def Machine.insertLift (machine : Machine) : List String → List String
  | [] => []
  | first :: rest => first :: (machine.disengageLines ++ rest)

namespace Plotter

/-- With the tool down, motions that open a cut write what they write with it up, the disengage
block inserted after the comment. -/
theorem linesFrom_true_of_opening
    (machine : Machine) {motions : List Motion}
    (opens : Motion.Opening motions) :
    linesFrom machine true motions = machine.insertLift (linesFrom machine false motions) := by
  rcases opens with rfl | ⟨text, target, rest, rfl⟩
  · rfl
  · simp [linesFrom, Motion.lines, Motion.engagedAfter, Machine.insertLift]

/-- The lines of two lists of motions, the second seeing the tool as the first left it. -/
theorem linesFrom_append
    (machine : Machine) (engaged : Bool) (first second : List Motion) :
    linesFrom machine engaged (first ++ second) =
      linesFrom machine engaged first ++
        linesFrom machine (first.foldl Motion.engagedAfter engaged) second := by
  induction first generalizing engaged with
  | nil => rfl
  | cons motion rest induction =>
      simp [linesFrom, induction, List.append_assoc]

/-- Motions that open a cut write nothing exactly when there are none. -/
theorem linesFrom_eq_nil_iff_of_opening
    (machine : Machine) (engaged : Bool) {motions : List Motion}
    (opens : Motion.Opening motions) :
    linesFrom machine engaged motions = [] ↔ motions = [] := by
  rcases opens with rfl | ⟨text, target, rest, rfl⟩
  · simp [linesFrom]
  · simp [linesFrom, Motion.lines]

end Plotter

/-! ## The motions of a polyline -/

namespace Polyline

/-- The motions drawing through the further points of a chain, remembering each. -/
def drawThrough (points : List Point) : List Motion :=
  points.flatMap fun point => [.draw point, .setLast point]

@[simp]
theorem chainMotions_nil (label : String) : chainMotions label [] = [] := rfl

theorem chainMotions_cons (label : String) (first : Point) (rest : List Point) :
    chainMotions label (first :: rest) =
      .comment label :: .travel first :: .engage ::
        (drawThrough rest ++ [.disengage, .separator]) := by
  simp [chainMotions, drawThrough]

/-- Drawing through points keeps the tool down. -/
theorem engagedAfter_drawThrough (points : List Point) :
    (drawThrough points).foldl Motion.engagedAfter true = true := by
  induction points with
  | nil => rfl
  | cons point rest induction =>
      simpa [drawThrough, Motion.engagedAfter] using induction

theorem switchesFrom_drawThrough (points : List Point) :
    Motion.SwitchesFrom true (drawThrough points) := by
  induction points with
  | nil => trivial
  | cons point rest induction =>
      simpa [drawThrough, Motion.Switches, Motion.engagedAfter] using induction

theorem not_raw_of_mem_drawThrough
    {points : List Point} {motion : Motion}
    (member : motion ∈ drawThrough points) (line : String) :
    motion ≠ .raw line := by
  simp only [drawThrough, List.mem_flatMap, List.mem_cons, List.not_mem_nil, or_false] at member
  obtain ⟨point, -, rfl | rfl⟩ := member <;> simp

/-- A chain leaves the tool up, whatever it found. -/
theorem engagedAfter_chainMotions
    (label : String) (first : Point) (rest : List Point) (engaged : Bool) :
    (chainMotions label (first :: rest)).foldl Motion.engagedAfter engaged = false := by
  rw [chainMotions_cons]
  simp [List.foldl_append, Motion.engagedAfter]

theorem switchesFrom_chainMotions
    (label : String) (first : Point) (rest : List Point) (engaged : Bool) :
    Motion.SwitchesFrom engaged (chainMotions label (first :: rest)) := by
  rw [chainMotions_cons]
  simp only [Motion.switchesFrom_cons, Motion.SwitchesFrom.append_iff]
  refine ⟨trivial, trivial, rfl, ?_, ?_⟩
  · exact switchesFrom_drawThrough rest
  · simp [Motion.engagedAfter, engagedAfter_drawThrough, Motion.Switches]

/-- The motions of a polyline's chains in order. -/
theorem opening_chains (label : String) (chains : List (List Point)) :
    Motion.Opening (chains.flatMap (chainMotions label)) := by
  induction chains with
  | nil => exact .inl rfl
  | cons chain rest induction =>
      rw [List.flatMap_cons]
      cases chain with
      | nil => simpa using induction
      | cons first points =>
          exact Motion.Opening.append
            (.inr ⟨label, first, _, chainMotions_cons label first points⟩) induction

theorem engagedAfter_chains
    (label : String) (chains : List (List Point)) (engaged : Bool) :
    (chains.flatMap (chainMotions label)).foldl Motion.engagedAfter engaged =
      if chains.flatMap (chainMotions label) = [] then engaged else false := by
  induction chains generalizing engaged with
  | nil => rfl
  | cons chain rest induction =>
      rw [List.flatMap_cons, List.foldl_append]
      cases chain with
      | nil =>
          rw [chainMotions_nil, List.foldl_nil, List.nil_append]
          exact induction engaged
      | cons first points =>
          rw [engagedAfter_chainMotions, induction, chainMotions_cons]
          simp

theorem switchesFrom_chains
    (label : String) (chains : List (List Point)) (engaged : Bool) :
    Motion.SwitchesFrom engaged (chains.flatMap (chainMotions label)) := by
  induction chains generalizing engaged with
  | nil => trivial
  | cons chain rest induction =>
      rw [List.flatMap_cons, Motion.SwitchesFrom.append_iff]
      cases chain with
      | nil => exact ⟨trivial, induction engaged⟩
      | cons first points =>
          exact ⟨switchesFrom_chainMotions label first points engaged, induction _⟩

theorem not_raw_of_mem_chains
    {label : String} {chains : List (List Point)} {motion : Motion}
    (member : motion ∈ chains.flatMap (chainMotions label)) (line : String) :
    motion ≠ .raw line := by
  obtain ⟨chain, -, inChain⟩ := List.mem_flatMap.1 member
  cases chain with
  | nil => simp at inChain
  | cons first points =>
      by_cases drawn : motion ∈ drawThrough points
      · exact not_raw_of_mem_drawThrough drawn line
      · rw [chainMotions_cons] at inChain
        simp only [List.mem_cons, List.mem_append, List.not_mem_nil, or_false] at inChain
        rcases inChain with rfl | rfl | rfl | inDrawn | rfl | rfl <;> simp_all

/-- A chain the constructor finds no fault in has at least two points. -/
theorem two_le_length_of_firstFault
    {index : Nat} {chains : List (List Point)}
    (clear : firstFault index chains = none) :
    ∀ chain ∈ chains, 2 ≤ chain.length := by
  induction chains generalizing index with
  | nil => simp
  | cons chain rest induction =>
      unfold firstFault at clear
      split at clear
      · cases clear
      · split at clear
        · cases clear
        · intro other member
          rcases List.mem_cons.1 member with rfl | inRest
          · omega
          · exact induction clear other inRest

/-- Every chain of a polyline its constructor accepts has at least two points. -/
theorem two_le_length_of_make
    {chains : List (List Point)} {polyline : Polyline}
    (made : make? chains = .ok polyline) :
    ∀ chain ∈ polyline.chains, 2 ≤ chain.length := by
  unfold make? at made
  split at made
  · cases made
  · next clear =>
      cases made
      exact two_le_length_of_firstFault clear

/-- A chain the constructor finds no fault in holds finite points only. -/
theorem isFinite_of_firstFault {index : Nat} {chains : List (List Point)}
    (clear : firstFault index chains = none) :
    ∀ chain ∈ chains, ∀ point ∈ chain, point.isFinite = true := by
  induction chains generalizing index with
  | nil => simp
  | cons chain rest induction =>
      unfold firstFault at clear
      split at clear
      · cases clear
      · next =>
          split at clear
          · cases clear
          · next finite =>
              intro other member
              rcases List.mem_cons.1 member with rfl | inRest
              · simpa using finite
              · exact induction clear other inRest

/-- The polyline a constructor makes holds the chains it was given, all of finite points. -/
theorem eq_of_make {chains : List (List Point)} {polyline : Polyline}
    (made : make? chains = .ok polyline) :
    polyline = ⟨chains⟩ ∧ ∀ chain ∈ chains, ∀ point ∈ chain, point.isFinite = true := by
  unfold make? at made
  split at made
  · cases made
  · next clear =>
      cases made
      exact ⟨rfl, isFinite_of_firstFault clear⟩

end Polyline

/-! ## The cut of a primitive -/

namespace Primitive

/-- The motions of a primitive's cut; none for a primitive that cannot be cut. -/
def cutMotions (feedrate : Float) (primitive : Primitive) : List Motion :=
  match primitive.motions feedrate with
  | .ok motions => motions
  | .error _ => []

/-- The lines a cut writes on a plotter with the tool down (`true`) or up (`false`). -/
def cutLines (machine : Machine) (engaged : Bool) (primitive : Primitive) : List String :=
  Plotter.linesFrom machine engaged (primitive.cutMotions machine.feedrate)

/-- The lines cutting a primitive writes on a fresh plotter; none when it cannot be cut. -/
def freshLines (machine : Machine) (primitive : Primitive) : List String :=
  match primitive.emit machine {} with
  | .ok plotter => plotter.codes
  | .error _ => []

theorem motions_eq_error_iff
    {feedrate : Float} {primitive : Primitive} {error : GeometryError} :
    primitive.motions feedrate = .error error ↔
      ∃ shape, primitive = .ellipse shape ∧ error = .notImplemented shape.label "emit" := by
  cases primitive <;> simp [motions, eq_comm]

/-- Cutting fails exactly for an ellipse, with the same error whatever the plotter. -/
theorem emit_eq_error_iff
    {machine : Machine} {state : Plotter} {primitive : Primitive} {error : GeometryError} :
    primitive.emit machine state = .error error ↔
      ∃ shape, primitive = .ellipse shape ∧ error = .notImplemented shape.label "emit" := by
  rw [← motions_eq_error_iff]
  unfold emit
  cases primitive.motions machine.feedrate <;> simp [Except.map]

/-- Cutting anything but an ellipse runs its cut motions on the plotter. -/
theorem emit_eq_ok_iff
    {machine : Machine} {state after : Plotter} {primitive : Primitive} :
    primitive.emit machine state = .ok after ↔
      primitive.kind ≠ .ellipse ∧
        after = Plotter.run machine state (primitive.cutMotions machine.feedrate) := by
  cases primitive <;>
    simp [emit, motions, cutMotions, kind, Except.map, eq_comm]

theorem codes_emit
    {machine : Machine} {state after : Plotter} {primitive : Primitive}
    (cut : primitive.emit machine state = .ok after) :
    after.codes = state.codes ++ primitive.cutLines machine state.engaged := by
  obtain ⟨-, rfl⟩ := emit_eq_ok_iff.1 cut
  exact Plotter.codes_run machine state _

theorem engaged_emit
    {machine : Machine} {state after : Plotter} {primitive : Primitive}
    (cut : primitive.emit machine state = .ok after) :
    after.engaged =
      (primitive.cutMotions machine.feedrate).foldl Motion.engagedAfter state.engaged := by
  obtain ⟨-, rfl⟩ := emit_eq_ok_iff.1 cut
  exact Plotter.engaged_run machine state _

theorem freshLines_eq_cutLines (machine : Machine) (primitive : Primitive) :
    primitive.freshLines machine = primitive.cutLines machine false := by
  unfold freshLines
  split
  · next plotter cut =>
      rw [codes_emit cut]
      rfl
  · next error cut =>
      obtain ⟨shape, rfl, -⟩ := emit_eq_error_iff.1 cut
      rfl

theorem opening_cutMotions (feedrate : Float) (primitive : Primitive) :
    Motion.Opening (primitive.cutMotions feedrate) := by
  cases primitive with
  | line shape | circle shape | arc shape => exact .inr ⟨_, _, _, rfl⟩
  | ellipse shape => exact .inl rfl
  | polyline shape => exact Polyline.opening_chains shape.label shape.chains

/-- With the tool still down, a cut writes the disengage block right after its comment and
otherwise what it writes with the tool up. -/
theorem cutLines_true (machine : Machine) (primitive : Primitive) :
    primitive.cutLines machine true = machine.insertLift (primitive.cutLines machine false) :=
  Plotter.linesFrom_true_of_opening machine (opening_cutMotions _ primitive)

theorem cutLines_eq_nil_iff (machine : Machine) (engaged : Bool) (primitive : Primitive) :
    primitive.cutLines machine engaged = [] ↔ primitive.cutMotions machine.feedrate = [] :=
  Plotter.linesFrom_eq_nil_iff_of_opening machine engaged (opening_cutMotions _ primitive)

/-- A cut that writes something leaves the tool down exactly for a line; one that writes nothing
leaves it as it was. -/
theorem engagedAfter_cutMotions (feedrate : Float) (primitive : Primitive) (engaged : Bool) :
    (primitive.cutMotions feedrate).foldl Motion.engagedAfter engaged =
      if primitive.cutMotions feedrate = [] then engaged else decide (primitive.kind = .line) := by
  cases primitive with
  | polyline shape =>
      simpa [cutMotions, motions, kind] using
        Polyline.engagedAfter_chains shape.label shape.chains engaged
  | _ => simp [cutMotions, motions, kind, Motion.engagedAfter]

theorem switchesFrom_cutMotions (feedrate : Float) (primitive : Primitive) (engaged : Bool) :
    Motion.SwitchesFrom engaged (primitive.cutMotions feedrate) := by
  cases primitive with
  | polyline shape => exact Polyline.switchesFrom_chains shape.label shape.chains engaged
  | _ => cases engaged <;> simp [cutMotions, motions, Motion.Switches, Motion.engagedAfter]

/-- The engage and disengage calls of a cut alternate from the tool as the cut found it. -/
theorem toggles_cut (machine : Machine) (primitive : Primitive) (engaged : Bool) :
    Action.Toggles engaged
      (Action.toolCalls
        (Motion.actionsFrom machine engaged (primitive.cutMotions machine.feedrate))) :=
  Motion.toggles_actionsFrom machine (switchesFrom_cutMotions _ primitive engaged)

/-- A cut writes its rapid lines with the tool up and its cutting lines with the tool down, from
either tool state: its only raw line is an arc line, written between an engage and a disengage. -/
theorem safeFrom_cut (machine : Machine) (primitive : Primitive) (engaged : Bool) :
    Action.SafeFrom engaged
      (Motion.actionsFrom machine engaged (primitive.cutMotions machine.feedrate)) := by
  cases primitive with
  | line shape =>
      apply Motion.safeFrom_actionsFrom
      simp [cutMotions, motions]
  | circle shape | arc shape =>
      cases engaged <;>
        simp [cutMotions, motions, Motion.actions, Motion.engagedAfter, Action.SafeAt, SafeLine,
          Action.engagedAfter, isRapidLine, isCuttingLine]
  | ellipse shape => trivial
  | polyline shape =>
      exact Motion.safeFrom_actionsFrom machine engaged _
        (fun _ member => Polyline.not_raw_of_mem_chains member)

/-- A property of actions from a tool state that holds of nothing, of every cut from either tool,
and of two lists together when each holds from the tool before it, holds of cuts one after the
other. -/
theorem cuts_of_cut
    (machine : Machine) (property : Bool → List Action → Prop)
    (empty : ∀ engaged, property engaged [])
    (join : ∀ engaged first second, property engaged first →
      property (first.foldl Action.engagedAfter engaged) second →
        property engaged (first ++ second))
    {primitives : List Primitive}
    (each : ∀ primitive ∈ primitives, ∀ engaged,
      property engaged (Motion.actionsFrom machine engaged (primitive.cutMotions machine.feedrate)))
    (engaged : Bool) :
    property engaged
      (Motion.actionsFrom machine engaged
        (primitives.flatMap (Primitive.cutMotions machine.feedrate))) := by
  induction primitives generalizing engaged with
  | nil => exact empty engaged
  | cons primitive rest induction =>
      rw [List.flatMap_cons, Motion.actionsFrom_append]
      apply join _ _ _ (each primitive (List.mem_cons_self ..) engaged)
      rw [Motion.engagedAfter_actionsFrom]
      exact induction (fun other member => each other (List.mem_cons_of_mem _ member)) _

end Primitive

end Toolpath
