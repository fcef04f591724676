import Mathlib.Logic.Relation
import SpokenArithmetic.Calculation.Evaluate
import SpokenArithmetic.Proofs.Grammar.Derivation

set_option autoImplicit false

/-!
The descent into tokens as a machine, one step at a time. Each rule of the grammar has a routine; a routine
that waits for another one is a frame of the stack, and the index of the next token and the depth are shared
by all of them. Operands are evaluated as soon as they are read.
-/

namespace SpokenArithmetic.Descent

open Grammar

inductive Routine where
  | whole
  | chain (tier : Tier)
  | signed
  | power
  | primary
  | call (name : List Char) (position : Nat)

namespace Routine

abbrev sum : Routine := .chain .sum

/-- How many routines may stand below this one at the same depth. -/
def rank : Routine -> Nat
  | whole => 0
  | chain .sum => 1
  | chain .product => 2
  | signed => 3
  | power => 4
  | primary => 5
  | call .. => 6

theorem rank_le (routine : Routine) : routine.rank <= 6 := by
  cases routine with
  | chain tier => cases tier <;> decide
  | _ => simp [rank]

end Routine

def operandRoutine : Tier -> Routine
  | .sum => .chain .product
  | .product => .signed

inductive Frame (A : Type) where
  | whole
  | first (tier : Tier)
  | next (tier : Tier) (left : A) (operator : Operator)
  | unsigned
  | sign (negative : Bool)
  | base
  | exponent (base : A)
  | named (name : List Char) (position : Nat)
  | group
  | argument (callable : Callable) (name : List Char) (position : Nat) (given : List A)

namespace Frame

variable {A : Type}

def routine : Frame A -> Routine
  | whole => .whole
  | first tier | next tier _ _ => .chain tier
  | unsigned | sign _ => .signed
  | base | exponent _ => .power
  | named .. | group => .primary
  | argument _ name position _ => .call name position

def awaited : Frame A -> Routine
  | whole | group | argument .. => .sum
  | first tier | next tier _ _ => operandRoutine tier
  | unsigned => .power
  | sign _ | exponent _ => .signed
  | base => .primary
  | named name position => .call name position

/-- How much deeper the awaited routine is: signs, exponents, parentheses and argument lists lead one level down. -/
def levels : Frame A -> Int
  | sign _ | exponent _ | group | argument .. => 1
  | _ => 0

end Frame

inductive Finish (A : Type) where
  | sign (negative : Bool) (operand : A)
  | raise (base exponent : A)
  | group (inner : A)
  | call (callable : Callable) (position : Nat) (given : List A)

inductive Control (A : Type) where
  | call (routine : Routine)
  | entering (frame : Frame A)
  | left (finish : Finish A)
  | returned (value : A)

structure State (A : Type) where
  index : Nat
  depth : Int
  frames : List (Frame A)
  control : Control A

namespace State

variable {A : Type}

/-- The routines that have started and have not returned. -/
def activations (state : State A) : Nat :=
  match state.control with
  | .returned _ => state.frames.length
  | _ => state.frames.length + 1

end State

inductive Step (A R : Type) where
  | go (state : State A)
  | halt (result : Except (Failure R) A)

def start (A : Type) : State A :=
  { index := 0, depth := 0, frames := [], control := .call .whole }

section Steps

variable {A R : Type} (meaning : Meaning A R) (tokens : List Token)

def faulty (fault : SyntaxFault) : Step A R :=
  .halt (.error (.fault fault))

def finished : Finish A -> Except (Failure R) A
  | .sign negative operand => .ok (if negative then meaning.negate operand else operand)
  | .raise base exponent => .ok (meaning.operate .power base exponent)
  | .group inner => .ok inner
  | .call .power _ [base, exponent] => .ok (meaning.operate .power base exponent)
  | .call (.apply function) _ [argument] => (meaning.call function argument).mapError .refused
  | .call callable position given => .error (.fault (.arity callable given.length position))

def operator? (among : List Operator) (index : Nat) : Option Operator :=
  (Parser.operator? among (tokens.drop index)).map Prod.fst

def expect (mark : Mark) (fault : Option Nat -> SyntaxFault) (index : Nat) (passed : State A) : Step A R :=
  match Parser.expect mark fault (tokens.drop index) with
  | .ok _ => .go passed
  | .error failure => faulty failure.fault

def further (tier : Tier) (left : A) (index : Nat) (depth : Int) (frames : List (Frame A)) : State A :=
  match operator? tokens tier.operators index with
  | some operator => ⟨index + 1, depth, .next tier left operator :: frames, .call (operandRoutine tier)⟩
  | none => ⟨index, depth, frames, .returned left⟩

def furtherArgument (callable : Callable) (name : List Char) (position : Nat) (given : List A) (index : Nat)
    (depth : Int) (frames : List (Frame A)) : Step A R :=
  match tokens.drop index with
  | ⟨.mark .comma, _⟩ :: _ => .go ⟨index + 1, depth, .argument callable name position given :: frames, .call .sum⟩
  | _ => expect tokens .closing (.missingArgumentsClosing name) index
    ⟨index + 1, depth - 1, frames, .left (.call callable position given)⟩

def begin (index : Nat) (depth : Int) (frames : List (Frame A)) : Routine -> Step A R
  | .whole =>
    if tokens.isEmpty then .halt (.error (.empty .tokens))
    else .go ⟨index, depth, .whole :: frames, .call .sum⟩
  | .chain tier => .go ⟨index, depth, .first tier :: frames, .call (operandRoutine tier)⟩
  | .signed =>
    match operator? tokens [.add, .subtract] index with
    | some operator => .go ⟨index + 1, depth + 1, frames, .entering (.sign (operator = .subtract))⟩
    | none => .go ⟨index, depth, .unsigned :: frames, .call .power⟩
  | .power => .go ⟨index, depth, .base :: frames, .call .primary⟩
  | .primary =>
    match tokens.drop index with
    | [] => faulty .endOfExpression
    | ⟨.numeral text, _⟩ :: _ => .go ⟨index + 1, depth, frames, .returned (meaning.numeral text)⟩
    | ⟨.name text, position⟩ :: _ => .go ⟨index + 1, depth, .named text position :: frames, .call (.call text position)⟩
    | ⟨.mark .opening, _⟩ :: _ => .go ⟨index + 1, depth + 1, frames, .entering .group⟩
    | ⟨.mark mark, position⟩ :: _ =>
      if mark.isRelation then faulty (.relation mark position) else faulty (.unexpected (.mark mark) position)
  | .call name position =>
    match Callable.ofName? (String.ofList name) with
    | none =>
      if (Function.ofName? (String.ofList name)).isSome then faulty (.bareFunction name position)
      else faulty (.unknownName name position)
    | some callable =>
      expect tokens .opening (.missingArgumentsOpening name) index
        ⟨index + 1, depth + 1, frames, .entering (.argument callable name position [])⟩

def inside (index : Nat) (depth : Int) (frames : List (Frame A)) (frame : Frame A) : State A :=
  match frame, tokens.drop index with
  | .argument callable _ position [], ⟨.mark .closing, _⟩ :: _ =>
    ⟨index + 1, depth - 1, frames, .left (.call callable position [])⟩
  | frame, _ => ⟨index, depth, frame :: frames, .call frame.awaited⟩

def resume (index : Nat) (depth : Int) (frames : List (Frame A)) (value : A) : Frame A -> Step A R
  | .whole =>
    match tokens.drop index with
    | [] => .go ⟨index, depth, frames, .returned value⟩
    | token :: _ => faulty (Parser.excess token)
  | .first tier => .go (further tokens tier value index depth frames)
  | .next tier left operator => .go (further tokens tier (meaning.operate operator left value) index depth frames)
  | .unsigned => .go ⟨index, depth, frames, .returned value⟩
  | .sign negative => .go ⟨index, depth - 1, frames, .left (.sign negative value)⟩
  | .base =>
    match operator? tokens [.power] index with
    | some _ => .go ⟨index + 1, depth + 1, frames, .entering (.exponent value)⟩
    | none => .go ⟨index, depth, frames, .returned value⟩
  | .exponent base => .go ⟨index, depth - 1, frames, .left (.raise base value)⟩
  | .named .. => .go ⟨index, depth, frames, .returned value⟩
  | .group => expect tokens .closing .missingClosing index ⟨index + 1, depth - 1, frames, .left (.group value)⟩
  | .argument callable name position given =>
    furtherArgument tokens callable name position (given ++ [value]) index depth frames

def step : State A -> Step A R
  | ⟨index, depth, frames, .call routine⟩ => begin meaning tokens index depth frames routine
  | ⟨index, depth, frames, .entering frame⟩ =>
    if Parser.maxDepth < depth then faulty .tooDeep else .go (inside tokens index depth frames frame)
  | ⟨index, depth, frames, .left finish⟩ =>
    match finished meaning finish with
    | .ok value => .go ⟨index, depth, frames, .returned value⟩
    | .error failure => .halt (.error failure)
  | ⟨_, _, [], .returned value⟩ => .halt (.ok value)
  | ⟨index, depth, frame :: frames, .returned value⟩ => resume meaning tokens index depth frames value frame

def Next (state next : State A) : Prop :=
  step meaning tokens state = .go next

abbrev Reaches : State A -> State A -> Prop :=
  Relation.ReflTransGen (Next meaning tokens)

def Halts (state : State A) (result : Except (Failure R) A) : Prop :=
  exists last, Reaches meaning tokens state last ∧ step meaning tokens last = .halt result

end Steps

/-- All that a step can do to the index, the depth and the frames. -/
inductive Move {A : Type} : State A -> State A -> Prop where
  | descend {index : Nat} {depth : Int} {frames : List (Frame A)} (passed : Nat) (frame : Frame A)
      (level : frame.levels = 0) :
      Move ⟨index, depth, frames, .call frame.routine⟩
        ⟨index + passed, depth, frame :: frames, .call frame.awaited⟩
  | enter {index : Nat} {depth : Int} {frames : List (Frame A)} (frame : Frame A) (deeper : frame.levels = 1) :
      Move ⟨index, depth, frames, .call frame.routine⟩ ⟨index + 1, depth + 1, frames, .entering frame⟩
  | read {index : Nat} {depth : Int} {frames : List (Frame A)} (value : A) :
      Move ⟨index, depth, frames, .call .primary⟩ ⟨index + 1, depth, frames, .returned value⟩
  | inside {index : Nat} {depth : Int} {frames : List (Frame A)} (frame : Frame A)
      (within : depth <= Parser.maxDepth) :
      Move ⟨index, depth, frames, .entering frame⟩ ⟨index, depth, frame :: frames, .call frame.awaited⟩
  | leave {index : Nat} {depth : Int} {frames : List (Frame A)} (frame : Frame A) (finish : Finish A)
      (within : depth <= Parser.maxDepth) :
      Move ⟨index, depth, frames, .entering frame⟩ ⟨index + 1, depth - 1, frames, .left finish⟩
  | again {index : Nat} {depth : Int} {frames : List (Frame A)} (frame next : Frame A) (value : A)
      (same : next.routine = frame.routine) (level : next.levels = frame.levels) :
      Move ⟨index, depth, frame :: frames, .returned value⟩
        ⟨index + 1, depth, next :: frames, .call next.awaited⟩
  | raise {index : Nat} {depth : Int} {frames : List (Frame A)} (frame next : Frame A) (value : A)
      (same : next.routine = frame.routine) (level : frame.levels = 0) (deeper : next.levels = 1) :
      Move ⟨index, depth, frame :: frames, .returned value⟩ ⟨index + 1, depth + 1, frames, .entering next⟩
  | pass {index : Nat} {depth : Int} {frames : List (Frame A)} (frame : Frame A) (value result : A)
      (level : frame.levels = 0) :
      Move ⟨index, depth, frame :: frames, .returned value⟩ ⟨index, depth, frames, .returned result⟩
  | ascend {index : Nat} {depth : Int} {frames : List (Frame A)} (passed : Nat) (frame : Frame A) (value : A)
      (finish : Finish A) (deeper : frame.levels = 1) :
      Move ⟨index, depth, frame :: frames, .returned value⟩ ⟨index + passed, depth - 1, frames, .left finish⟩
  | finish {index : Nat} {depth : Int} {frames : List (Frame A)} (finish : Finish A) (result : A) :
      Move ⟨index, depth, frames, .left finish⟩ ⟨index, depth, frames, .returned result⟩

section Moves

variable {A R : Type} {meaning : Meaning A R} {tokens : List Token} {index : Nat} {depth : Int}
  {frames : List (Frame A)} {next : State A}

theorem expect_eq_go {mark : Mark} {fault : Option Nat -> SyntaxFault} {passed : State A}
    (went : expect tokens mark fault index passed = (.go next : Step A R)) : next = passed := by
  unfold expect at went
  split at went
  next => exact (Step.go.inj went).symm
  next => cases went

theorem begin_moves {routine : Routine} (went : begin meaning tokens index depth frames routine = .go next) :
    Move ⟨index, depth, frames, .call routine⟩ next := by
  cases routine with
  | whole =>
    simp only [begin] at went
    split at went
    next => cases went
    next => cases went; exact .descend 0 .whole rfl
  | chain tier => cases went; exact .descend 0 (.first tier) rfl
  | signed =>
    simp only [begin] at went
    split at went
    next => cases went; exact .enter (.sign _) rfl
    next => cases went; exact .descend 0 .unsigned rfl
  | power => cases went; exact .descend 0 .base rfl
  | primary =>
    simp only [begin] at went
    split at went
    next => cases went
    next text _ _ _ => cases went; exact .read _
    next name position _ _ => cases went; exact .descend 1 (.named name position) rfl
    next => cases went; exact .enter .group rfl
    next => split at went <;> cases went
  | call name position =>
    simp only [begin] at went
    split at went
    next => split at went <;> cases went
    next callable _ =>
      obtain rfl := expect_eq_go went
      exact .enter (.argument callable name position []) rfl

theorem inside_moves (frame : Frame A) (within : depth <= Parser.maxDepth) :
    Move ⟨index, depth, frames, .entering frame⟩ (inside tokens index depth frames frame) := by
  unfold inside
  split
  next => exact .leave _ _ within
  next => exact .inside _ within

theorem further_moves {tier : Tier} (frame : Frame A) (value left : A) (same : frame.routine = .chain tier)
    (level : frame.levels = 0) :
    Move ⟨index, depth, frame :: frames, .returned value⟩ (further tokens tier left index depth frames) := by
  unfold further
  split
  next operator _ => exact .again frame (.next tier left operator) value same.symm level.symm
  next => exact .pass frame value left level

theorem furtherArgument_moves {callable : Callable} {name : List Char} {position : Nat} {given given' : List A}
    (value : A)
    (went : furtherArgument tokens callable name position given' index depth frames = (.go next : Step A R)) :
    Move ⟨index, depth, .argument callable name position given :: frames, .returned value⟩ next := by
  unfold furtherArgument at went
  split at went
  next => cases went; exact .again _ (.argument callable name position given') value rfl rfl
  next =>
    obtain rfl := expect_eq_go went
    exact .ascend 1 _ value _ rfl

theorem resume_moves {value : A} {frame : Frame A}
    (went : resume meaning tokens index depth frames value frame = .go next) :
    Move ⟨index, depth, frame :: frames, .returned value⟩ next := by
  cases frame with
  | whole =>
    simp only [resume] at went
    split at went
    next => cases went; exact .pass .whole value value rfl
    next => cases went
  | first tier => cases went; exact further_moves _ value value rfl rfl
  | next tier left operator => cases went; exact further_moves _ value _ rfl rfl
  | unsigned => cases went; exact .pass .unsigned value value rfl
  | sign negative => cases went; exact .ascend 0 (.sign negative) value _ rfl
  | base =>
    simp only [resume] at went
    split at went
    next => cases went; exact .raise .base (.exponent value) value rfl rfl rfl
    next => cases went; exact .pass .base value value rfl
  | exponent base => cases went; exact .ascend 0 (.exponent base) value _ rfl
  | named name position => cases went; exact .pass (.named name position) value value rfl
  | group =>
    obtain rfl := expect_eq_go went
    exact .ascend 1 .group value _ rfl
  | argument callable name position given => exact furtherArgument_moves value went

theorem step_moves {state next : State A} (went : Next meaning tokens state next) : Move state next := by
  obtain ⟨index, depth, frames, control⟩ := state
  unfold Next at went
  cases control with
  | call routine => exact begin_moves went
  | entering frame =>
    rw [step] at went
    split at went
    next => cases went
    next within => cases went; exact inside_moves frame (Int.not_lt.1 within)
  | left finish =>
    rw [step] at went
    split at went
    next value _ => cases went; exact .finish finish value
    next => cases went
  | returned value =>
    cases frames with
    | nil => cases went
    | cons frame frames => exact resume_moves went

end Moves

end SpokenArithmetic.Descent
