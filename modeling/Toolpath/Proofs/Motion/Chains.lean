import Toolpath.Proofs.Program.Endpoints

/-!
# Cutting a polyline chain by chain

A polyline is cut one chain at a time, each chain in a block of its own: the polyline's comment,
a travel to the first point, the engage block, a drawing line to each further point, the
disengage block and an empty line. Only the first block can find the tool down, left so by a line
cut before; its travel then writes the disengage block right after the comment. Every later block
finds the tool up, since each block ends by disengaging, and its explicit engage makes every
drawing move find the tool down.

Main statements:
* `Polyline.linesFrom_chains`: the lines of a polyline's cut are its chain blocks;
* `Polyline.toolCalls_chains`: its engage and disengage calls are one pair per chain, after one
  disengage call when the tool was down;
* `Polyline.cut_chain_by_chain`: all of it, with the drawing lines and comments counted and the
  tool and the position the cut leaves.
-/

namespace Toolpath

/-- Whether a program line is a comment: it opens with a bracket. -/
def isCommentLine (line : String) : Bool :=
  line.toList.head? == some '('

section LineKinds

variable (text : String) (machine : Machine) (point : Point)

@[simp]
theorem isCommentLine_comment : isCommentLine ("(" ++ text ++ ")") = true := by
  simp [isCommentLine, String.toList_append]

@[simp]
theorem isCommentLine_drawLine : isCommentLine (machine.drawLine point) = false := by
  simp [Machine.drawLine, isCommentLine, String.toList_append]

@[simp]
theorem isCommentLine_travelLine : isCommentLine (Machine.travelLine point) = false := by
  simp [Machine.travelLine, isCommentLine, String.toList_append]

@[simp]
theorem isCommentLine_empty : isCommentLine "" = false := by
  decide

/-- A dwell line is neither a drawing line nor a comment. -/
theorem countP_dwell (delay : UInt32) :
    (Machine.dwell delay).countP (isMoveLine "G1") = 0 ∧
      (Machine.dwell delay).countP isCommentLine = 0 := by
  unfold Machine.dwell
  split
  · simp [isCommentLine, String.toList_append]
  · simp

end LineKinds

namespace Polyline

/-- The lines that cut one chain, `lift` telling whether the tool is down before it: the comment,
the disengage block when it is, the travel to the first point, the engage block, a drawing line to
each further point, the disengage block and an empty line. -/
def chainBlock (machine : Machine) (label : String) (lift : Bool) : List Point → List String
  | [] => []
  | first :: rest =>
    ["(" ++ label ++ ")"] ++ (if lift then machine.disengageLines else []) ++
      [Machine.travelLine first] ++ machine.engageLines ++ rest.map machine.drawLine ++
      machine.disengageLines ++ [""]

/-- The blocks of chains cut in order, the tool down before the first when `lift` holds and up
before every other. -/
def chainBlocks (machine : Machine) (label : String) (lift : Bool) :
    List (List Point) → List String
  | [] => []
  | chain :: rest => chainBlock machine label lift chain ++ chainBlocks machine label false rest

/-- The calls a polyline's cut makes on a plotter whose tool is down (`true`) or up (`false`). -/
def cutActions (polyline : Polyline) (machine : Machine) (engaged : Bool) : List Action :=
  Motion.actionsFrom machine engaged (polyline.chains.flatMap (chainMotions polyline.label))

section Blocks

variable (machine : Machine) (label : String)

/-- Drawing through points with the tool down writes one drawing line per point. -/
theorem linesFrom_drawThrough (points : List Point) :
    Plotter.linesFrom machine true (drawThrough points) = points.map machine.drawLine := by
  induction points with
  | nil => rfl
  | cons point rest induction =>
      simp only [drawThrough, List.flatMap_cons] at induction ⊢
      simp [Plotter.linesFrom, Motion.lines, Motion.engagedAfter, induction]

theorem linesFrom_chainMotions (lift : Bool) (first : Point) (rest : List Point) :
    Plotter.linesFrom machine lift (chainMotions label (first :: rest)) =
      chainBlock machine label lift (first :: rest) := by
  rw [chainMotions_cons]
  cases lift <;>
    simp [Plotter.linesFrom, Plotter.linesFrom_append, linesFrom_drawThrough, chainBlock,
      Motion.lines, Motion.engagedAfter]

/-- The lines of a polyline's chains, each with a point, are their blocks: every block but the
first finds the tool up, left so by the block before. -/
theorem linesFrom_chains {chains : List (List Point)} (filled : ∀ chain ∈ chains, chain ≠ [])
    (lift : Bool) :
    Plotter.linesFrom machine lift (chains.flatMap (chainMotions label)) =
      chainBlocks machine label lift chains := by
  induction chains generalizing lift with
  | nil => rfl
  | cons chain rest induction =>
      obtain ⟨nonempty, filledRest⟩ := List.forall_mem_cons.1 filled
      obtain ⟨first, points, rfl⟩ := List.exists_cons_of_ne_nil nonempty
      rw [List.flatMap_cons, Plotter.linesFrom_append, linesFrom_chainMotions,
        engagedAfter_chainMotions, induction filledRest]
      rfl

/-- Drawing through points with the tool down calls neither routine. -/
theorem toolCalls_drawThrough (points : List Point) :
    Action.toolCalls (Motion.actionsFrom machine true (drawThrough points)) = [] := by
  rw [actionsFrom_drawThrough]
  induction points with
  | nil => rfl
  | cons point rest induction => simpa [Action.call?] using induction

theorem toolCalls_chainMotions (lift : Bool) (first : Point) (rest : List Point) :
    Action.toolCalls (Motion.actionsFrom machine lift (chainMotions label (first :: rest))) =
      (if lift then [false] else []) ++ [true, false] := by
  rw [chainMotions_cons]
  cases lift <;>
    simp [Motion.actionsFrom_append, Motion.actions, Motion.engagedAfter, Action.call?,
      engagedAfter_drawThrough, toolCalls_drawThrough]

/-- A polyline's cut engages and disengages once per chain, after disengaging once when it found
the tool down. -/
theorem toolCalls_chains {chains : List (List Point)} (filled : ∀ chain ∈ chains, chain ≠ [])
    (lift : Bool) :
    Action.toolCalls (Motion.actionsFrom machine lift (chains.flatMap (chainMotions label))) =
      (if lift && !chains.isEmpty then [false] else []) ++
        (List.replicate chains.length [true, false]).flatten := by
  induction chains generalizing lift with
  | nil => simp
  | cons chain rest induction =>
      obtain ⟨nonempty, filledRest⟩ := List.forall_mem_cons.1 filled
      obtain ⟨first, points, rfl⟩ := List.exists_cons_of_ne_nil nonempty
      rw [List.flatMap_cons, Motion.actionsFrom_append, Action.toolCalls_append,
        toolCalls_chainMotions, engagedAfter_chainMotions, induction filledRest]
      simp [List.replicate_succ]

theorem plainLines_drawThrough (points : List Point) :
    (Motion.actionsFrom machine true (drawThrough points)).flatMap (Action.plainLines machine) =
      points.map machine.drawLine := by
  rw [actionsFrom_drawThrough]
  induction points with
  | nil => rfl
  | cons point rest induction => simpa [Action.plainLines] using induction

/-- The lines a chain's cut writes other than the tool words: the comment, the travel line, the
drawing lines, the empty line and the dwells. -/
theorem plainLines_chainMotions (lift : Bool) (first : Point) (rest : List Point) :
    (Motion.actionsFrom machine lift (chainMotions label (first :: rest))).flatMap
        (Action.plainLines machine) =
      ["(" ++ label ++ ")"] ++ (if lift then Machine.dwell machine.offDelay else []) ++
        [Machine.travelLine first] ++ Machine.dwell machine.onDelay ++
        rest.map machine.drawLine ++ Machine.dwell machine.offDelay ++ [""] := by
  rw [chainMotions_cons]
  cases lift <;>
    simp [Motion.actionsFrom_append, Motion.actions, Motion.engagedAfter, Action.plainLines,
      Machine.delay, engagedAfter_drawThrough, plainLines_drawThrough]

/-- A chain's cut writes one drawing line per point after the first, and one comment. -/
theorem countP_plainLines_chainMotions (lift : Bool) (first : Point) (rest : List Point) :
    ((Motion.actionsFrom machine lift (chainMotions label (first :: rest))).flatMap
        (Action.plainLines machine)).countP (isMoveLine "G1") = rest.length ∧
      ((Motion.actionsFrom machine lift (chainMotions label (first :: rest))).flatMap
        (Action.plainLines machine)).countP isCommentLine = 1 := by
  rw [plainLines_chainMotions]
  have onDwell := countP_dwell machine.onDelay
  have offDwell := countP_dwell machine.offDelay
  cases lift <;> simp [List.countP_append, List.countP_map, onDwell, offDwell]

/-- A polyline's cut writes one drawing line per point after the first of each chain, and one
comment per chain. -/
theorem countP_plainLines_chains {chains : List (List Point)}
    (filled : ∀ chain ∈ chains, chain ≠ []) (lift : Bool) :
    ((Motion.actionsFrom machine lift (chains.flatMap (chainMotions label))).flatMap
        (Action.plainLines machine)).countP (isMoveLine "G1") = (chains.flatMap List.tail).length ∧
      ((Motion.actionsFrom machine lift (chains.flatMap (chainMotions label))).flatMap
        (Action.plainLines machine)).countP isCommentLine = chains.length := by
  induction chains generalizing lift with
  | nil => simp
  | cons chain rest induction =>
      obtain ⟨nonempty, filledRest⟩ := List.forall_mem_cons.1 filled
      obtain ⟨first, points, rfl⟩ := List.exists_cons_of_ne_nil nonempty
      obtain ⟨drawn, comments⟩ := countP_plainLines_chainMotions machine label lift first points
      obtain ⟨drawnRest, commentsRest⟩ := induction filledRest
        ((chainMotions label (first :: points)).foldl Motion.engagedAfter lift)
      rw [List.flatMap_cons, Motion.actionsFrom_append, List.flatMap_append, List.countP_append,
        List.countP_append, drawn, comments, drawnRest, commentsRest]
      simp [Nat.add_comm]

end Blocks

/-- The last point of the last chain, the end of a polyline whose chains all have a point. -/
theorem getLast?_flatten {chains : List (List Point)} (chained : chains ≠ [])
    (filled : ∀ chain ∈ chains, chain ≠ []) :
    chains.flatten.getLast? =
      some ((chains.getLast chained).getLast (filled _ (List.getLast_mem chained))) := by
  conv_lhs => rw [← List.dropLast_append_getLast chained]
  rw [List.flatten_append, List.flatten_singleton, List.getLast?_append,
    List.getLast?_eq_some_getLast (filled _ (List.getLast_mem chained))]
  rfl

/-- Chains with a point are cut by at least one motion. -/
theorem flatMap_chainMotions_ne_nil (label : String) {chains : List (List Point)}
    (chained : chains ≠ []) (filled : ∀ chain ∈ chains, chain ≠ []) :
    chains.flatMap (chainMotions label) ≠ [] := by
  obtain ⟨chain, rest, rfl⟩ := List.exists_cons_of_ne_nil chained
  obtain ⟨first, points, rfl⟩ := List.exists_cons_of_ne_nil (filled _ List.mem_cons_self)
  simp [chainMotions_cons]

/--
PolyLine emission draws every chain as its own block. For every polyline with at least one chain,
each with a point (as every polyline made from its chains has), and every plotter: the cut
succeeds and appends the blocks of the chains in order, the first one lifting the tool when the
plotter had it down; it makes one engage and one disengage call per chain, after one disengage
call when the tool was down; among the lines it writes other than the tool words there is one
drawing line per point after the first of each chain and one comment per chain; and it leaves the
tool up and the position at the last point of the last chain.
-/
theorem cut_chain_by_chain (machine : Machine) (state : Plotter) (polyline : Polyline)
    (chained : polyline.chains ≠ []) (filled : ∀ chain ∈ polyline.chains, chain ≠ []) :
    ∃ after, (Primitive.polyline polyline).emit machine state = .ok after ∧
      after.codes =
        state.codes ++ chainBlocks machine polyline.label state.engaged polyline.chains ∧
      Action.toolCalls (polyline.cutActions machine state.engaged) =
        (if state.engaged then [false] else []) ++
          (List.replicate polyline.chains.length [true, false]).flatten ∧
      ((polyline.cutActions machine state.engaged).flatMap (Action.plainLines machine)).countP
          (isMoveLine "G1") = (polyline.chains.flatMap List.tail).length ∧
      ((polyline.cutActions machine state.engaged).flatMap (Action.plainLines machine)).countP
          isCommentLine = polyline.chains.length ∧
      after.engaged = false ∧
      after.last =
        some ((polyline.chains.getLast chained).getLast (filled _ (List.getLast_mem chained))) := by
  have cut : (Primitive.polyline polyline).emit machine state =
      .ok (Plotter.run machine state (polyline.chains.flatMap (chainMotions polyline.label))) :=
    rfl
  obtain ⟨drawn, comments⟩ := countP_plainLines_chains machine polyline.label filled state.engaged
  refine ⟨_, cut, ?codes, ?calls, drawn, comments, ?engaged, ?last⟩
  case codes => rw [Plotter.codes_run, linesFrom_chains machine _ filled]
  case calls =>
    rw [cutActions, toolCalls_chains machine _ filled]
    simp [chained]
  case engaged =>
    rw [Plotter.engaged_run, engagedAfter_chains,
      if_neg (flatMap_chainMotions_ne_nil _ chained filled)]
  case last =>
    rw [Plotter.last_run, lastAfter_chains, getLast?_flatten chained filled]
    rfl

/-- A polyline of two chains cut with the tool down: two blocks, the first lifting the tool, and
the tool up after them. -/
theorem two_chains_cut_in_two_blocks :
    [[⟨0, 0⟩, ⟨1, 0⟩], [⟨2, 2⟩, ⟨3, 2⟩, ⟨3, 3⟩]] ≠ ([] : List (List Point)) ∧
      (∀ chain ∈ [[⟨0, 0⟩, ⟨1, 0⟩], [⟨2, 2⟩, ⟨3, 2⟩, ⟨3, 3⟩]], chain ≠ ([] : List Point)) ∧
      ∃ after,
        (Primitive.polyline ⟨[[⟨0, 0⟩, ⟨1, 0⟩], [⟨2, 2⟩, ⟨3, 2⟩, ⟨3, 3⟩]]⟩).emit {}
            { engaged := true } = .ok after ∧
          after.codes =
            chainBlocks {} (Polyline.label ⟨[[⟨0, 0⟩, ⟨1, 0⟩], [⟨2, 2⟩, ⟨3, 2⟩, ⟨3, 3⟩]]⟩) true
              [[⟨0, 0⟩, ⟨1, 0⟩], [⟨2, 2⟩, ⟨3, 2⟩, ⟨3, 3⟩]] ∧
          after.engaged = false := by
  have chained : [[⟨0, 0⟩, ⟨1, 0⟩], [⟨2, 2⟩, ⟨3, 2⟩, ⟨3, 3⟩]] ≠ ([] : List (List Point)) := by
    simp
  have filled :
      ∀ chain ∈ [[⟨0, 0⟩, ⟨1, 0⟩], [⟨2, 2⟩, ⟨3, 2⟩, ⟨3, 3⟩]], chain ≠ ([] : List Point) := by
    simp
  obtain ⟨after, cut, codes, -, -, -, engaged, -⟩ :=
    cut_chain_by_chain {} { engaged := true } ⟨_⟩ chained filled
  exact ⟨chained, filled, after, cut, codes, engaged⟩

end Polyline

end Toolpath
