import SpokenArithmetic.Proofs.Descent.Evaluating

set_option autoImplicit false

namespace SpokenArithmetic.Descent

variable {A R : Type}

theorem Frame.levels_nonneg (frame : Frame A) : 0 <= frame.levels := by
  cases frame <;> simp [levels]

theorem Frame.rank_lt (frame : Frame A) : (frame.routine.rank : Int) < 6 * frame.levels + frame.awaited.rank := by
  cases frame with
  | first tier => cases tier <;> simp [routine, awaited, levels, operandRoutine, Routine.rank]
  | next tier left operator => cases tier <;> simp [routine, awaited, levels, operandRoutine, Routine.rank]
  | _ => simp [routine, awaited, levels, Routine.rank]

/-- The frames, innermost first, since the routine `outer` has started at the depth `base`, with the routine
that stands above them and its depth. -/
inductive Spine (outer : Routine) (base : Int) : List (Frame A) -> Routine -> Int -> Prop where
  | alone : Spine outer base [] outer base
  | above {frames : List (Frame A)} {depth : Int} (frame : Frame A)
      (spine : Spine outer base frames frame.routine depth) :
      Spine outer base (frame :: frames) frame.awaited (depth + frame.levels)

namespace Spine

variable {outer routine : Routine} {base depth : Int} {frame : Frame A} {frames : List (Frame A)}

theorem popped (spine : Spine outer base (frame :: frames) routine depth) :
    Spine outer base frames frame.routine (depth - frame.levels) := by
  cases spine with
  | above _ spine => simpa using spine

theorem base_le (spine : Spine outer base frames routine depth) : base <= depth := by
  induction spine with
  | alone => exact Int.le_refl base
  | above frame _ ih =>
    have nonneg := frame.levels_nonneg
    omega

theorem length_le (spine : Spine outer base frames routine depth) :
    frames.length + 6 * base + outer.rank <= 6 * depth + routine.rank := by
  induction spine with
  | alone => simp
  | above frame _ ih =>
    have higher := frame.rank_lt
    rw [List.length_cons]
    push_cast
    omega

end Spine

/-- The routine `outer` that has started at `origin` is active: whatever stands above it belongs to it, and
once a token has been read the index is beyond where it was. -/
inductive Active (outer : Routine) (origin : State A) : State A -> Prop where
  | call {index : Nat} {depth : Int} {frames inner : List (Frame A)} {routine : Routine}
      (same : frames = inner ++ origin.frames) (spine : Spine outer origin.depth inner routine depth)
      (onward : origin.index <= index) : Active outer origin ⟨index, depth, frames, .call routine⟩
  | entering {index : Nat} {depth : Int} {frames inner : List (Frame A)} {frame : Frame A}
      (same : frames = inner ++ origin.frames) (deeper : frame.levels = 1)
      (spine : Spine outer origin.depth inner frame.routine (depth - 1)) (onward : origin.index < index) :
      Active outer origin ⟨index, depth, frames, .entering frame⟩
  | left {index : Nat} {depth : Int} {frames inner : List (Frame A)} {routine : Routine} {finish : Finish A}
      (same : frames = inner ++ origin.frames) (spine : Spine outer origin.depth inner routine depth)
      (onward : origin.index < index) : Active outer origin ⟨index, depth, frames, .left finish⟩
  | returned {index : Nat} {depth : Int} {frames inner : List (Frame A)} {routine : Routine} {value : A}
      (same : frames = inner ++ origin.frames) (spine : Spine outer origin.depth inner routine depth)
      (onward : origin.index < index) : Active outer origin ⟨index, depth, frames, .returned value⟩

def Returned (origin state : State A) : Prop :=
  state.frames = origin.frames ∧ exists value, state.control = .returned value

section Steps

variable {outer : Routine} {origin state next : State A} {index : Nat} {depth : Int} {frame : Frame A}
  {frames : List (Frame A)} {value : A}

theorem Active.resumes (active : Active outer origin ⟨index, depth, frame :: frames, .returned value⟩)
    (unfinished : ¬ Returned origin ⟨index, depth, frame :: frames, .returned value⟩) :
    exists inner, frames = inner ++ origin.frames ∧
      Spine outer origin.depth inner frame.routine (depth - frame.levels) ∧ origin.index < index := by
  cases active with
  | @returned _ _ _ inner _ _ same spine onward =>
    cases inner with
    | nil => exact absurd ⟨same, value, rfl⟩ unfinished
    | cons first inner =>
      obtain ⟨rfl, rfl⟩ := List.cons.inj same
      exact ⟨inner, rfl, spine.popped, onward⟩

theorem Spine.level {inner : List (Frame A)} {base : Int} (frame : Frame A) (level : frame.levels = 0)
    (spine : Spine outer base inner frame.routine depth) :
    Spine outer base (frame :: inner) frame.awaited depth := by
  simpa [level] using Spine.above frame spine

theorem Spine.deeper {inner : List (Frame A)} {base : Int} (frame : Frame A) (deeper : frame.levels = 1)
    (spine : Spine outer base inner frame.routine (depth - 1)) :
    Spine outer base (frame :: inner) frame.awaited depth := by
  simpa [deeper] using Spine.above frame spine

theorem Active.move (active : Active outer origin state) (unfinished : ¬ Returned origin state)
    (move : Move state next) : Active outer origin next := by
  cases move with
  | descend passed frame level =>
    cases active with
    | call same spine onward =>
      exact .call (by rw [same]; rfl) (spine.level frame level) (Nat.le_add_right_of_le onward)
  | enter frame deeper =>
    cases active with
    | call same spine onward =>
      exact .entering same deeper (by simpa using spine) (Nat.lt_succ_of_le onward)
  | read value =>
    cases active with
    | call same spine onward => exact .returned same spine (Nat.lt_succ_of_le onward)
  | inside frame within =>
    cases active with
    | entering same deeper spine onward =>
      exact .call (by rw [same]; rfl) (spine.deeper frame deeper) (Nat.le_of_lt onward)
  | leave frame finish within =>
    cases active with
    | entering same deeper spine onward => exact .left same spine (Nat.lt_succ_of_lt onward)
  | again frame next value same level =>
    obtain ⟨inner, rfl, spine, onward⟩ := active.resumes unfinished
    have above := Spine.above next (same ▸ spine)
    rw [level, Int.sub_add_cancel] at above
    exact .call rfl above (Nat.le_succ_of_le (Nat.le_of_lt onward))
  | raise frame next value same level deeper =>
    obtain ⟨inner, rfl, spine, onward⟩ := active.resumes unfinished
    rw [level, Int.sub_zero, ← same] at spine
    exact .entering rfl deeper (by simpa using spine) (Nat.lt_succ_of_lt onward)
  | pass frame value result level =>
    obtain ⟨inner, rfl, spine, onward⟩ := active.resumes unfinished
    rw [level, Int.sub_zero] at spine
    exact .returned rfl spine onward
  | ascend passed frame value finish deeper =>
    obtain ⟨inner, rfl, spine, onward⟩ := active.resumes unfinished
    rw [deeper] at spine
    exact .left rfl spine (Nat.lt_add_right passed onward)
  | finish finish result =>
    cases active with
    | left same spine onward => exact .returned same spine onward

/-- The depth at which the innermost routine has started: one that is on its way deeper is still there. -/
def State.level (state : State A) : Int :=
  match state.control with
  | .entering _ => state.depth - 1
  | _ => state.depth

theorem level_move_le (move : Move state next) (limited : state.level <= Parser.maxDepth) :
    next.level <= Parser.maxDepth := by
  cases move <;> simp only [State.level] at limited ⊢ <;> omega

end Steps

section Runs

variable (meaning : Meaning A R) (tokens : List Token)

abbrev Within : State A -> State A -> Prop := fun origin =>
  Relation.ReflTransGen (fun earlier later => ¬ Returned origin earlier ∧ Next meaning tokens earlier later) origin

def Returns (origin state : State A) : Prop :=
  Within meaning tokens origin state ∧ Returned origin state

variable {meaning tokens} {origin state next : State A} {routine : Routine}

theorem active_origin (starts : origin.control = .call routine) : Active routine origin origin := by
  obtain ⟨index, depth, frames, control⟩ := origin
  obtain rfl : control = .call routine := starts
  exact .call (List.nil_append _).symm .alone (Nat.le_refl index)

theorem Returns.balanced (starts : origin.control = .call routine) (returns : Returns meaning tokens origin state) :
    state.depth = origin.depth ∧ origin.index < state.index := by
  obtain ⟨run, returned⟩ := returns
  have active : Active routine origin state := by
    clear returned
    induction run with
    | refl => exact active_origin starts
    | tail _ step ih => exact ih.move step.1 (step_moves step.2)
  obtain ⟨frames, value, control⟩ := returned
  cases active with
  | returned same spine onward =>
    obtain rfl := List.self_eq_append_left.1 (frames.symm.trans same)
    cases spine with
    | alone => exact ⟨rfl, onward⟩
  | _ => cases control

theorem Next.unfinished (steps : Next meaning tokens state next) : ¬ Returned (start A) state := by
  rintro ⟨frames, value, control⟩
  obtain ⟨index, depth, _, _⟩ := state
  obtain rfl := frames
  obtain rfl := control
  cases steps

theorem reached (reaches : Reaches meaning tokens (start A) state) :
    Active .whole (start A) state ∧ state.level <= Parser.maxDepth := by
  induction reaches with
  | refl => exact ⟨active_origin rfl, by simp [State.level, start]⟩
  | tail _ step ih =>
    have move := step_moves step
    exact ⟨ih.1.move step.unfinished move, level_move_le move ih.2⟩

theorem Active.activations_le (active : Active .whole (start A) state) :
    0 <= state.level ∧ state.activations <= 6 * state.level + 7 := by
  have spine_le {inner : List (Frame A)} {routine : Routine} {depth : Int}
      (spine : Spine .whole (start A).depth inner routine depth) : 0 <= depth ∧ inner.length <= 6 * depth + 6 := by
    have lower : 0 <= depth := spine.base_le
    have upper : inner.length + 6 * (0 : Int) + (0 : Nat) <= 6 * depth + routine.rank := spine.length_le
    have rank := routine.rank_le
    omega
  cases active with
  | call same spine _ | left same spine _ | returned same spine _ | entering same _ spine _ =>
    have bounds := spine_le spine
    rw [same]
    simp only [State.activations, State.level, start, List.append_nil]
    push_cast
    omega

theorem stops_of_deep (limited : state.level <= Parser.maxDepth) (deep : Parser.maxDepth < state.depth) :
    (exists frame, state.control = .entering frame) ∧
      step meaning tokens state = .halt (.error (.fault .tooDeep)) := by
  obtain ⟨index, depth, frames, control⟩ := state
  cases control with
  | entering frame => exact ⟨⟨frame, rfl⟩, by rw [step, if_pos deep]; rfl⟩
  | _ => exact absurd limited (Int.not_le.2 deep)

theorem depth_le_level (state : State A) : state.level <= state.depth ∧ state.depth <= state.level + 1 := by
  unfold State.level
  split <;> omega

end Runs

/-- The limit of the nesting bounds the recursion. The descent ends with the value of the tokens; on its way the
depth is between 0 and 101 and beyond 100 only where the routine that has gone too deep is stopped, and no more
than 607 routines are active; and a routine that returns leaves the depth as it was and has passed a token. -/
theorem nesting_bounds_descent (meaning : Meaning A R) (tokens : List Token) :
    Halts meaning tokens (start A) (Token.value meaning tokens) ∧
    (forall state, Reaches meaning tokens (start A) state ->
      0 <= state.depth ∧ state.depth <= 101 ∧
      (100 < state.depth -> (exists frame, state.control = .entering frame) ∧
        step meaning tokens state = .halt (.error (.fault .tooDeep))) ∧
      state.activations <= 6 * state.depth + 7 ∧ state.activations <= 607) ∧
    forall origin routine state, Reaches meaning tokens (start A) origin -> origin.control = .call routine ->
      Returns meaning tokens origin state -> state.depth = origin.depth ∧ origin.index < state.index := by
  refine ⟨halts_value meaning tokens, fun state reaches => ?_, fun origin routine state _ starts returns =>
    returns.balanced starts⟩
  obtain ⟨active, limited⟩ := reached reaches
  have stops := @stops_of_deep _ _ meaning tokens state limited
  obtain ⟨nonneg, bounded⟩ := active.activations_le
  obtain ⟨lower, upper⟩ := depth_le_level state
  have hundred : (Parser.maxDepth : Int) = 100 := rfl
  rw [hundred] at limited stops
  exact ⟨by omega, by omega, stops, by omega, by omega⟩

end SpokenArithmetic.Descent
