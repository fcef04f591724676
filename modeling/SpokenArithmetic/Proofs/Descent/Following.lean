import SpokenArithmetic.Proofs.Descent.Machine
import SpokenArithmetic.Proofs.Grammar.Reading

set_option autoImplicit false

namespace SpokenArithmetic.Descent

open Grammar

variable {A R : Type} (meaning : Meaning A R) (tokens : List Token)

def reported (failure : Parser.Failure) : Failure R :=
  match Token.refusal? meaning failure.complete with
  | some reason => .refused reason
  | none => .fault failure.fault

def outcome : Except Parser.Failure (Expression × List Token) -> Except (Failure R) (A × List Token)
  | .ok (tree, rest) =>
    match tree.value meaning with
    | .ok value => .ok (value, rest)
    | .error reason => .error (.refused reason)
  | .error failure => .error (reported meaning failure)

/-- The machine evaluates what has been read: it returns at the depth, to the frames and behind what has been
read, or it ends. -/
def Leads (state : State A) (depth : Int) (frames : List (Frame A))
    (read : Except Parser.Failure (Expression × List Token)) : Prop :=
  match outcome meaning read with
  | .ok (value, rest) => exists index, state.index <= index ∧ tokens.drop index = rest ∧
      Reaches meaning tokens state ⟨index, depth, frames, .returned value⟩
  | .error failure => Halts meaning tokens state (.error failure)

def Refuses (reason : R) : Except Parser.Failure (Expression × List Token) -> Prop
  | .ok (tree, _) => tree.value meaning = .error reason
  | .error failure => Token.refusal? meaning failure.complete = some reason

def Follows (reader : Parser.Reader Expression) (routine : Routine) (depth : Int) : Prop :=
  forall index frames,
    Leads meaning tokens ⟨index, depth, frames, .call routine⟩ depth frames (reader (tokens.drop index))

variable {meaning tokens} {state next : State A} {depth : Int} {frames : List (Frame A)} {index : Nat}
  {reason : R}

theorem drop_succ {token : Token} {rest : List Token} (left : tokens.drop index = token :: rest) :
    tokens.drop (index + 1) = rest := by
  rw [← List.tail_drop, left, List.tail_cons]

theorem operator?_eq_some {among : List Operator} {operator : Operator} {rest : List Token}
    (found : Parser.operator? among (tokens.drop index) = some (operator, rest)) :
    operator? tokens among index = some operator ∧ tokens.drop (index + 1) = rest := by
  obtain ⟨_, position, left⟩ := Grammar.operator?_eq_some.1 found
  exact ⟨by rw [operator?, found]; rfl, drop_succ left⟩

theorem operator?_eq_none {among : List Operator}
    (missing : Parser.operator? among (tokens.drop index) = none) : operator? tokens among index = none := by
  rw [operator?, missing]
  rfl

theorem expect_cases (mark : Mark) (fault : Option Nat -> SyntaxFault) (index : Nat) (passed : State A) :
    (Parser.expect mark fault (tokens.drop index) = .ok (tokens.drop (index + 1)) ∧
      expect tokens mark fault index passed = (.go passed : Step A R)) ∨
    exists found, Parser.expect mark fault (tokens.drop index) = Parser.fail found ∧
      expect tokens mark fault index passed = (faulty found : Step A R) := by
  unfold expect
  cases left : tokens.drop index with
  | nil => exact .inr ⟨fault none, rfl, rfl⟩
  | cons token rest =>
    rw [drop_succ left]
    by_cases same : token.lexeme = .mark mark
    next => exact .inl (by simp [Parser.expect, same])
    next =>
      exact .inr ⟨fault (some token.position), by simp [Parser.expect, same],
        by simp [Parser.expect, same, Parser.fail]⟩

section Leading

theorem Halts.later {result : Except (Failure R) A} (reaches : Reaches meaning tokens state next)
    (halts : Halts meaning tokens next result) : Halts meaning tokens state result := by
  obtain ⟨last, run, stops⟩ := halts
  exact ⟨last, reaches.trans run, stops⟩

variable {read : Except Parser.Failure (Expression × List Token)}

theorem Leads.later (reaches : Reaches meaning tokens state next) (onward : state.index <= next.index)
    (leads : Leads meaning tokens next depth frames read) : Leads meaning tokens state depth frames read := by
  unfold Leads at leads ⊢
  split at leads
  next =>
    obtain ⟨index, beyond, left, run⟩ := leads
    exact ⟨index, Nat.le_trans onward beyond, left, reaches.trans run⟩
  next => exact leads.later reaches

theorem Leads.step (steps : Next meaning tokens state next) (onward : state.index <= next.index)
    (leads : Leads meaning tokens next depth frames read) : Leads meaning tokens state depth frames read :=
  leads.later (.single steps) onward

theorem Leads.pass {frame : Frame A} (leads : Leads meaning tokens state depth (frame :: frames) read)
    (passes : forall index value, Next meaning tokens ⟨index, depth, frame :: frames, .returned value⟩
      ⟨index, depth, frames, .returned value⟩) : Leads meaning tokens state depth frames read := by
  unfold Leads at leads ⊢
  split at leads
  next value _ _ =>
    obtain ⟨index, beyond, left, run⟩ := leads
    exact ⟨index, beyond, left, run.tail (passes index value)⟩
  next => exact leads

theorem leads_ok {tree : Expression} {value : A} (evaluated : tree.value meaning = .ok value) (index : Nat) :
    Leads meaning tokens ⟨index, depth, frames, .returned value⟩ depth frames (.ok (tree, tokens.drop index)) := by
  simp only [Leads, outcome, evaluated]
  exact ⟨index, Nat.le_refl index, rfl, .refl⟩

theorem leads_error {fault : SyntaxFault} {complete : List Expression}
    (accepted : Token.refusal? meaning complete = none) (stops : step meaning tokens state = faulty fault) :
    Leads meaning tokens state depth frames (.error ⟨fault, complete⟩) := by
  simp only [Leads, outcome, reported, accepted]
  exact ⟨state, .refl, stops⟩

theorem leads_fail {fault : SyntaxFault} (stops : step meaning tokens state = faulty fault) :
    Leads meaning tokens state depth frames (Parser.fail fault) :=
  leads_error rfl stops

theorem Refuses.leads (refuses : Refuses meaning reason read)
    (halts : Halts meaning tokens state (.error (.refused reason))) :
    Leads meaning tokens state depth frames read := by
  match read with
  | .ok (tree, rest) =>
    unfold Refuses at refuses
    simpa only [Leads, outcome, refuses] using halts
  | .error failure =>
    unfold Refuses at refuses
    simpa only [Leads, outcome, reported, refuses] using halts

theorem Leads.bind {depth' : Int} {frames' : List (Frame A)}
    {behind : Expression × List Token -> Except Parser.Failure (Expression × List Token)}
    (leads : Leads meaning tokens state depth' frames' read)
    (refused : forall {tree rest reason}, tree.value meaning = .error reason ->
      Refuses meaning reason (behind (tree, rest)))
    (accepted : forall {tree value index}, state.index <= index -> tree.value meaning = .ok value ->
      Leads meaning tokens ⟨index, depth', frames', .returned value⟩ depth frames
        (behind (tree, tokens.drop index))) :
    Leads meaning tokens state depth frames (read >>= behind) := by
  match read with
  | .error failure => exact leads
  | .ok (tree, rest) =>
    rw [ok_bind]
    cases evaluated : tree.value meaning with
    | error reason =>
      simp only [Leads, outcome, evaluated] at leads
      exact (refused evaluated).leads leads
    | ok value =>
      simp only [Leads, outcome, evaluated] at leads
      obtain ⟨index, onward, rfl, run⟩ := leads
      exact (accepted onward evaluated).later run onward

theorem refuses_following {operand : Expression} (refused : operand.value meaning = .error reason)
    (failure : Parser.Failure) : Refuses meaning reason (Parser.following operand (.error failure)) := by
  simp [Refuses, Parser.following, Except.mapError, Token.refusal?, refused]

theorem Leads.following {operand : Expression} {value : A} (evaluated : operand.value meaning = .ok value)
    (leads : Leads meaning tokens state depth frames read) :
    Leads meaning tokens state depth frames (Parser.following operand read) := by
  match read with
  | .ok _ => exact leads
  | .error failure =>
    simpa [Leads, outcome, reported, Parser.following, Except.mapError, Token.refusal?, evaluated] using leads

theorem finish_leads {finish : Finish A} {tree : Expression}
    (finishes : finished meaning finish = (tree.value meaning).mapError .refused) (index : Nat) :
    Leads meaning tokens ⟨index, depth, frames, .left finish⟩ depth frames (.ok (tree, tokens.drop index)) := by
  cases evaluated : tree.value meaning with
  | error reason =>
    have stops : step meaning tokens ⟨index, depth, frames, .left finish⟩ = .halt (.error (.refused reason)) := by
      rw [step, finishes, evaluated]
      rfl
    simp only [Leads, outcome, evaluated]
    exact ⟨_, .refl, stops⟩
  | ok value =>
    have steps : Next meaning tokens ⟨index, depth, frames, .left finish⟩ ⟨index, depth, frames, .returned value⟩ := by
      rw [Next, step, finishes, evaluated]
      rfl
    exact (leads_ok evaluated index).step steps (Nat.le_refl index)

theorem Leads.back (finish : Finish A) {tree : Expression}
    (finishes : finished meaning finish = (tree.value meaning).mapError .refused)
    (steps : Next meaning tokens state ⟨index, depth + 1 - 1, frames, .left finish⟩)
    (onward : state.index <= index) : Leads meaning tokens state depth frames (.ok (tree, tokens.drop index)) := by
  rw [Int.add_sub_cancel] at steps
  exact (finish_leads finishes index).step steps onward

end Leading

section Chains

variable {tier : Tier} {reader : Parser.Reader Expression} {left : Expression}

theorem chainFrom_refuses {among : List Operator} {rounds : Nat} {rest : List Token}
    (refused : left.value meaning = .error reason) :
    Refuses meaning reason (Parser.chainFrom among reader rounds left rest) := by
  induction rounds generalizing left rest with
  | zero => exact refused
  | succ rounds ih =>
    rw [Parser.chainFrom]
    split
    next => exact refused
    next operator behind _ =>
      cases read : reader behind with
      | error failure => exact refuses_following refused failure
      | ok pair => exact ih (by rw [Expression.value, refused]; rfl)

theorem further_leads (follows : Follows meaning tokens reader (operandRoutine tier) depth) {rounds : Nat} {value : A}
    (first : left.value meaning = .ok value) (enough : (tokens.drop index).length <= rounds) :
    Leads meaning tokens (further tokens tier value index depth frames) depth frames
      (Parser.chainFrom tier.operators reader rounds left (tokens.drop index)) := by
  induction rounds generalizing left value index with
  | zero =>
    have missing : Parser.operator? tier.operators (tokens.drop index) = none := by
      rw [List.eq_nil_of_length_eq_zero (Nat.le_zero.1 enough)]
      rfl
    rw [further, operator?_eq_none missing]
    exact leads_ok first index
  | succ rounds ih =>
    rw [further, Parser.chainFrom]
    cases found : Parser.operator? tier.operators (tokens.drop index) with
    | none =>
      rw [operator?_eq_none found]
      exact leads_ok first index
    | some pair =>
      obtain ⟨operator, rest⟩ := pair
      obtain ⟨there, rfl⟩ := operator?_eq_some found
      rw [there]
      refine ((follows (index + 1) _).following first).bind ?_ ?_
      next =>
        intro right rest reason refused
        exact chainFrom_refuses (by rw [Expression.value, first, ok_bind, refused]; rfl)
      next =>
        intro right result index' onward second
        have both : (Expression.binary operator left right).value meaning =
            .ok (meaning.operate operator value result) := by
          rw [Expression.value, first, ok_bind, second]
          rfl
        have fewer : (tokens.drop index').length <= rounds := by
          rw [List.length_drop] at enough ⊢
          change index + 1 <= index' at onward
          omega
        refine (ih both fewer).step rfl ?_
        unfold further
        split <;> simp

theorem chain_follows (follows : Follows meaning tokens reader (operandRoutine tier) depth) :
    Follows meaning tokens (Parser.chain tier.operators reader) (.chain tier) depth := by
  intro index frames
  refine Leads.step rfl (Nat.le_refl index) ((follows index (.first tier :: frames)).bind ?_ ?_)
  next =>
    intro left rest reason refused
    exact chainFrom_refuses refused
  next =>
    intro left value index' _ first
    refine (further_leads follows first (Nat.le_refl _)).step rfl ?_
    unfold further
    split <;> simp

end Chains

end SpokenArithmetic.Descent
