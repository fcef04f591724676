import Mathlib.Data.List.Forall2
import SpokenArithmetic.Proofs.Descent.Following
import SpokenArithmetic.Proofs.Exceptions.Stepwise

set_option autoImplicit false

namespace SpokenArithmetic.Descent

open Grammar

variable {A R : Type} {meaning : Meaning A R} {tokens : List Token} {state next : State A} {depth : Int}
  {frames : List (Frame A)} {index : Nat} {reason : R}

section Calls

variable {trees : List Expression} {given : List A} {callable : Callable} {name : List Char} {position : Nat}

def Valued (meaning : Meaning A R) : List Expression -> List A -> Prop :=
  List.Forall₂ fun tree value => tree.value meaning = .ok value

theorem Valued.refusal? (valued : Valued meaning trees given) (others : List Expression) :
    Token.refusal? meaning (trees ++ others) = Token.refusal? meaning others := by
  induction valued with
  | nil => rfl
  | cons first _ ih => simpa [Token.refusal?, first] using ih

theorem Valued.none (valued : Valued meaning trees given) : Token.refusal? meaning trees = none := by
  simpa [Token.refusal?] using valued.refusal? []

theorem Leads.followings {read : Except Parser.Failure (Expression × List Token)}
    (valued : Valued meaning trees given) (leads : Leads meaning tokens state depth frames read) :
    Leads meaning tokens state depth frames (trees.foldr Parser.following read) := by
  induction valued with
  | nil => exact leads
  | cons first _ ih => exact ih.following first

theorem refusal?_append (refused : Token.refusal? meaning trees = some reason) (others : List Expression) :
    Token.refusal? meaning (trees ++ others) = some reason := by
  induction trees with
  | nil => cases refused
  | cons first rest ih =>
    rw [List.cons_append, Token.refusal?]
    rw [Token.refusal?] at refused
    cases evaluated : first.value meaning with
    | error => rwa [evaluated] at refused
    | ok value =>
      rw [evaluated] at refused
      exact ih refused

theorem foldr_following_error (operands : List Expression) {C : Type} (failure : Parser.Failure) :
    operands.foldr Parser.following (.error failure : Except Parser.Failure C) =
      .error ⟨failure.fault, operands ++ failure.complete⟩ := by
  induction operands with
  | nil => rfl
  | cons operand rest ih =>
    rw [List.foldr_cons, ih]
    rfl

theorem foldr_following_ok (operands : List Expression) {C : Type} (content : C) :
    operands.foldr Parser.following (.ok content : Except Parser.Failure C) = .ok content :=
  foldr_following_eq_ok.2 rfl

theorem makeCall_arity (position : Nat) (arity : trees.length = callable.arity) :
    exists tree, Parser.makeCall callable position trees = .ok tree ∧
      (forall {reason}, Token.refusal? meaning trees = some reason -> tree.value meaning = .error reason) ∧
      forall {given}, Valued meaning trees given ->
        finished meaning (.call callable position given) = (tree.value meaning).mapError .refused := by
  cases callable with
  | power =>
    obtain ⟨base, exponent, rfl⟩ := List.length_eq_two.1 arity
    refine ⟨_, rfl, fun refused => ?_, fun valued => ?_⟩
    next =>
      rw [Expression.value]
      cases first : base.value meaning with
      | error => simpa [Token.refusal?, first] using refused
      | ok value =>
        cases second : exponent.value meaning with
        | error => simpa [Token.refusal?, first, second] using refused
        | ok => simp [Token.refusal?, first, second] at refused
    next =>
      cases valued with
      | cons first others =>
        cases others with
        | cons second others =>
          cases others
          rw [Expression.value, first, ok_bind, second]
          rfl
  | apply function =>
    obtain ⟨argument, rfl⟩ := List.length_eq_one_iff.1 arity
    refine ⟨_, rfl, fun refused => ?_, fun valued => ?_⟩
    next =>
      rw [Expression.value]
      cases first : argument.value meaning with
      | error => simpa [Token.refusal?, first] using refused
      | ok => simp [Token.refusal?, first] at refused
    next =>
      cases valued with
      | cons first others =>
        cases others
        rw [Expression.value, first]
        rfl

theorem finished_arity (position : Nat) (other : given.length ≠ callable.arity) :
    finished meaning (.call callable position given) = .error (.fault (.arity callable given.length position)) := by
  unfold finished
  split <;> simp_all [Callable.arity]

theorem readClosed_refuses (rest : List Token) (refused : Token.refusal? meaning trees = some reason) :
    Refuses meaning reason (Stepwise.readClosed callable name position trees rest) := by
  unfold Stepwise.readClosed
  cases closes : Parser.expect .closing (.missingArgumentsClosing name) rest with
  | error failure =>
    rw [foldr_following_error]
    exact refusal?_append refused failure.complete
  | ok behind =>
    rw [foldr_following_ok, ok_bind]
    by_cases arity : trees.length = callable.arity
    next =>
      obtain ⟨tree, made, value, _⟩ := makeCall_arity position arity
      rw [made]
      exact value refused
    next =>
      rw [Stepwise.makeCall_arity position arity]
      exact refused

theorem call_leads (valued : Valued meaning trees given) (index : Nat) :
    Leads meaning tokens ⟨index, depth, frames, .left (.call callable position given)⟩ depth frames
      (Parser.makeCall callable position trees >>= fun tree => .ok (tree, tokens.drop index)) := by
  by_cases arity : trees.length = callable.arity
  next =>
    obtain ⟨tree, made, _, value⟩ := makeCall_arity position arity
    rw [made]
    exact finish_leads (value valued) index
  next =>
    have other : given.length ≠ callable.arity := by rwa [← valued.length_eq]
    rw [Stepwise.makeCall_arity position arity]
    refine leads_error valued.none ?_
    rw [step, finished_arity position other, valued.length_eq]
    rfl

theorem closing_leads (valued : Valued meaning trees given)
    (steps : step meaning tokens state = expect tokens .closing (.missingArgumentsClosing name) state.index
      ⟨state.index + 1, depth, frames, .left (.call callable position given)⟩) :
    Leads meaning tokens state depth frames
      (Stepwise.readClosed callable name position trees (tokens.drop state.index)) := by
  unfold Stepwise.readClosed
  rcases expect_cases .closing (.missingArgumentsClosing name) state.index _ with ⟨read, went⟩ | ⟨fault, read, went⟩
  next =>
    rw [read, foldr_following_ok, ok_bind]
    exact (call_leads valued (state.index + 1)).step (steps.trans went) (Nat.le_succ _)
  next =>
    rw [read, Stepwise.foldr_following_fail]
    exact leads_error valued.none (steps.trans went)

section Arguments

variable {reader : Parser.Reader Expression}

def readOthers (reader : Parser.Reader Expression) (rounds : Nat) (callable : Callable) (name : List Char)
    (position : Nat) (trees : List Expression) : Parser.Reader Expression :=
  fun rest => do
    let (others, rest) <- trees.foldr Parser.following (Parser.argumentsFrom reader rounds rest)
    Stepwise.readClosed callable name position (trees ++ others) rest

theorem readOthers_refuses {rounds : Nat} (rest : List Token) (refused : Token.refusal? meaning trees = some reason) :
    Refuses meaning reason (readOthers reader rounds callable name position trees rest) := by
  unfold readOthers
  cases read : Parser.argumentsFrom reader rounds rest with
  | error failure =>
    rw [foldr_following_error]
    exact refusal?_append refused failure.complete
  | ok pair =>
    rw [foldr_following_ok]
    exact readClosed_refuses pair.2 (refusal?_append refused pair.1)

theorem readOthers_comma {rounds comma : Nat} (rest : List Token) :
    readOthers reader (rounds + 1) callable name position trees (⟨.mark .comma, comma⟩ :: rest) =
      trees.foldr Parser.following (reader rest) >>= fun (first, rest) =>
        readOthers reader rounds callable name position (trees ++ [first]) rest := by
  unfold readOthers
  rw [Parser.argumentsFrom]
  cases read : reader rest with
  | error failure =>
    rw [error_bind, foldr_following_error, foldr_following_error]
    rfl
  | ok pair =>
    rw [ok_bind, foldr_following_ok, ok_bind]
    dsimp only
    cases others : Parser.argumentsFrom reader rounds pair.2 with
    | error failure => simp [Parser.following, Except.mapError, foldr_following_error]
    | ok pair' => simp [Parser.following, Except.mapError, foldr_following_ok, pure, Except.pure]

theorem readOthers_closing {rounds : Nat} {rest : List Token}
    (other : forall comma behind, rest ≠ ⟨.mark .comma, comma⟩ :: behind) :
    readOthers reader rounds callable name position trees rest =
      Stepwise.readClosed callable name position trees rest := by
  have none : Parser.argumentsFrom reader rounds rest = .ok ([], rest) := by
    cases rounds with
    | zero => rfl
    | succ rounds =>
      unfold Parser.argumentsFrom
      split
      next comma behind => exact absurd rfl (other comma behind)
      next => rfl
  rw [readOthers, none, foldr_following_ok, ok_bind]
  dsimp only
  rw [List.append_nil]

theorem furtherArgument_leads (follows : Follows meaning tokens reader .sum depth) {rounds : Nat} {value : A}
    (valued : Valued meaning trees (given ++ [value])) (enough : (tokens.drop index).length <= rounds) :
    Leads meaning tokens ⟨index, depth, .argument callable name position given :: frames, .returned value⟩
      (depth - 1) frames (readOthers reader rounds callable name position trees (tokens.drop index)) := by
  -- Each round reads an argument and joins its value to the given ones.
  induction rounds generalizing trees given value index with
  | zero =>
    have nothing := List.eq_nil_of_length_eq_zero (Nat.le_zero.1 enough)
    rw [readOthers_closing (by simp [nothing])]
    refine closing_leads valued ?_
    rw [step, resume, furtherArgument, nothing]
  | succ rounds ih =>
    by_cases comma : exists comma rest, tokens.drop index = ⟨.mark .comma, comma⟩ :: rest
    next =>
      obtain ⟨comma, rest, here⟩ := comma
      obtain rfl := drop_succ here
      have steps : step meaning tokens
          ⟨index, depth, .argument callable name position given :: frames, .returned value⟩ =
          .go ⟨index + 1, depth, .argument callable name position (given ++ [value]) :: frames, .call .sum⟩ := by
        rw [step, resume, furtherArgument, here]
      rw [here, readOthers_comma]
      refine Leads.step steps (Nat.le_succ index) ((Leads.followings valued (follows (index + 1) _)).bind ?_ ?_)
      next =>
        intro argument rest reason refused
        refine readOthers_refuses rest ?_
        rw [valued.refusal?, Token.refusal?, refused]
      next =>
        intro argument result index' onward evaluated
        have fewer : (tokens.drop index').length <= rounds := by
          rw [List.length_drop] at enough ⊢
          change index + 1 <= index' at onward
          omega
        exact ih (List.rel_append valued (.cons evaluated .nil)) fewer
    next =>
      have other := fun place rest here => comma ⟨place, rest, here⟩
      rw [readOthers_closing other]
      refine closing_leads valued ?_
      rw [step, resume, furtherArgument]
      split
      next same => exact absurd same (other _ _)
      next => rfl

theorem readOthers_first {rounds : Nat} (first : Expression) (rest : List Token) :
    ((Parser.following first (Parser.argumentsFrom reader rounds rest) >>= fun (others, rest) =>
      Except.ok (first :: others, rest)) >>= fun (given, rest) =>
        Stepwise.readClosed callable name position given rest) =
      readOthers reader rounds callable name position [first] rest := by
  rw [readOthers, List.foldr_cons, List.foldr_nil]
  cases Parser.following first (Parser.argumentsFrom reader rounds rest) <;> rfl

theorem arguments_leads (follows : Follows meaning tokens reader .sum depth) (index : Nat) :
    Leads meaning tokens (inside tokens index depth frames (.argument callable name position [])) (depth - 1) frames
      (Parser.arguments reader (tokens.drop index) >>=
        fun (given, rest) => Stepwise.readClosed callable name position given rest) := by
  by_cases closing : exists closing rest, tokens.drop index = ⟨.mark .closing, closing⟩ :: rest
  next =>
    obtain ⟨closing, rest, here⟩ := closing
    obtain rfl := drop_succ here
    have read : Stepwise.readClosed callable name position [] (tokens.drop index) =
        Parser.makeCall callable position [] >>= fun tree => .ok (tree, tokens.drop (index + 1)) := by
      rw [Stepwise.readClosed, List.foldr_nil, expect_eq_ok.2 ⟨closing, here⟩]
      rfl
    have none : Parser.arguments reader (tokens.drop index) = .ok ([], tokens.drop index) := by
      rw [here]
      rfl
    have leaves : inside tokens index depth frames (.argument callable name position [] : Frame A) =
        ⟨index + 1, depth - 1, frames, .left (.call callable position [])⟩ := by
      simp only [inside, here]
    rw [leaves, none, ok_bind]
    dsimp only
    rw [read]
    exact call_leads .nil (index + 1)
  next =>
    have other := fun place rest here => closing ⟨place, rest, here⟩
    have awaits : inside tokens index depth frames (.argument callable name position [] : Frame A) =
        ⟨index, depth, .argument callable name position [] :: frames, .call .sum⟩ := by
      unfold inside
      split
      next here => exact absurd here (other _ _)
      next => rfl
    have read : Parser.arguments reader (tokens.drop index) = reader (tokens.drop index) >>= fun (first, rest) =>
        Parser.following first (Parser.argumentsFrom reader rest.length rest) >>= fun (others, rest) =>
          .ok (first :: others, rest) := by
      unfold Parser.arguments
      split
      next here => exact absurd here (other _ _)
      next => rfl
    rw [awaits, read, bind_assoc]
    refine (follows index _).bind ?_ ?_
    next =>
      intro first rest reason refused
      dsimp only
      rw [readOthers_first]
      exact readOthers_refuses rest (by rw [Token.refusal?, refused])
    next =>
      intro first value index' _ evaluated
      dsimp only
      rw [readOthers_first]
      exact furtherArgument_leads follows (.cons evaluated .nil) (Nat.le_refl _)

end Arguments

end Calls

section Forms

variable {levels : Nat}

theorem inside_index (frame : Frame A) : index <= (inside tokens index depth frames frame).index := by
  unfold inside
  split <;> simp

theorem too_deep {frame : Frame A} (total : depth + (0 : Nat) = Parser.maxDepth) :
    step meaning tokens ⟨index, depth + 1, frames, .entering frame⟩ = faulty .tooDeep := by
  rw [step, if_pos (by omega)]

theorem enters {frame : Frame A} (total : depth + (levels + 1 : Nat) = Parser.maxDepth) :
    step meaning tokens ⟨index, depth + 1, frames, .entering frame⟩ =
      .go (inside tokens index (depth + 1) frames frame) := by
  rw [step, if_neg (by omega)]

variable (meaning tokens)

def FollowsDeeper (levels : Nat) (depth : Int) : Prop :=
  forall {levels'}, levels = levels' + 1 ->
    Follows meaning tokens (Parser.sum (Parser.below levels')) .sum (depth + 1) ∧
    Follows meaning tokens (Parser.signed (Parser.below levels')) .signed (depth + 1)

variable {meaning tokens}

theorem call_follows (total : depth + levels = Parser.maxDepth) (deeper : FollowsDeeper meaning tokens levels depth)
    (name : List Char) (position : Nat) :
    Follows meaning tokens (Parser.call (Parser.below levels) name position) (.call name position) depth := by
  intro index frames
  have steps : step meaning tokens ⟨index, depth, frames, .call (.call name position)⟩ =
      begin meaning tokens index depth frames (.call name position) := rfl
  dsimp only [begin] at steps
  unfold Parser.call
  cases named : Callable.ofName? (String.ofList name) with
  | none =>
    rw [named] at steps
    dsimp only at steps ⊢
    split at steps
    next bare => rw [if_pos bare]; exact leads_fail steps
    next unknown => rw [if_neg unknown]; exact leads_fail steps
  | some callable =>
    rw [named] at steps
    dsimp only at steps ⊢
    rcases expect_cases .opening (.missingArgumentsOpening name) index _ with ⟨read, went⟩ | ⟨fault, read, went⟩
    next =>
      rw [read, ok_bind]
      refine Leads.step (steps.trans went) (Nat.le_succ index) ?_
      cases levels with
      | zero => exact leads_fail (too_deep total)
      | succ levels =>
        have leads := @arguments_leads _ _ meaning tokens (depth + 1) frames callable name position _ (deeper rfl).1
          (index + 1)
        rw [Int.add_sub_cancel] at leads
        exact leads.step (enters total) (inside_index ..)
    next =>
      rw [read]
      exact leads_fail (steps.trans went)

theorem primary_follows (total : depth + levels = Parser.maxDepth)
    (deeper : FollowsDeeper meaning tokens levels depth) :
    Follows meaning tokens (Parser.primary (Parser.below levels)) .primary depth := by
  intro index frames
  have steps : step meaning tokens ⟨index, depth, frames, .call .primary⟩ =
      begin meaning tokens index depth frames .primary := rfl
  dsimp only [begin] at steps
  cases here : tokens.drop index with
  | nil =>
    rw [here] at steps
    exact leads_fail steps
  | cons token rest =>
    obtain ⟨lexeme, position⟩ := token
    rw [here] at steps
    obtain rfl := drop_succ here
    cases lexeme with
    | numeral text => exact Leads.step steps (Nat.le_succ index) (leads_ok rfl (index + 1))
    | name text =>
      have called := call_follows total deeper text position (index + 1) (.named text position :: frames)
      exact Leads.step steps (Nat.le_succ index) (called.pass fun _ _ => rfl)
    | mark mark =>
      cases mark with
      | opening =>
        refine Leads.step steps (Nat.le_succ index) ?_
        cases levels with
        | zero => exact leads_fail (too_deep total)
        | succ levels =>
          refine Leads.step (enters total) (Nat.le_refl _) (((deeper rfl).1 (index + 1) (.group :: frames)).bind ?_ ?_)
          next =>
            intro inner rest reason refused
            dsimp only
            cases Parser.expect .closing .missingClosing rest with
            | error failure => exact refuses_following refused failure
            | ok behind => exact refused
          next =>
            intro inner value index' _ evaluated
            dsimp only
            rcases expect_cases .closing .missingClosing index' _ with ⟨read, went⟩ | ⟨fault, read, went⟩
            next =>
              rw [read]
              refine Leads.back (.group value) ?_ went (Nat.le_succ index')
              rw [Expression.value, evaluated]
              rfl
            next =>
              rw [read]
              exact leads_error (by rw [Token.refusal?, evaluated]; rfl) went
      | _ => exact leads_fail steps

theorem power_follows (total : depth + levels = Parser.maxDepth)
    (deeper : FollowsDeeper meaning tokens levels depth) :
    Follows meaning tokens (Parser.power (Parser.below levels)) .power depth := by
  intro index frames
  refine Leads.step rfl (Nat.le_refl index) ((primary_follows total deeper index (.base :: frames)).bind ?_ ?_)
  next =>
    intro base rest reason refused
    dsimp only
    split
    next => exact refused
    next behind _ =>
      cases levels with
      | zero => exact refuses_following refused _
      | succ levels =>
        change Refuses meaning reason
          (Parser.following base (Parser.signed (Parser.below levels) behind) >>= fun pair => _)
        cases Parser.signed (Parser.below levels) behind with
        | error failure => exact refuses_following refused failure
        | ok pair =>
          change (Expression.binary .power base pair.1).value meaning = .error reason
          rw [Expression.value, refused]
          rfl
  next =>
    intro base value index' _ first
    dsimp only
    have steps : step meaning tokens ⟨index', depth, .base :: frames, .returned value⟩ =
        resume meaning tokens index' depth frames value .base := rfl
    dsimp only [resume] at steps
    cases found : Parser.operator? [.power] (tokens.drop index') with
    | none =>
      rw [operator?_eq_none found] at steps
      exact (leads_ok first index').step steps (Nat.le_refl index')
    | some pair =>
      obtain ⟨operator, rest⟩ := pair
      obtain ⟨there, rfl⟩ := operator?_eq_some found
      rw [there] at steps
      refine Leads.step steps (Nat.le_succ index') ?_
      cases levels with
      | zero => exact leads_error (by rw [Token.refusal?, first]; rfl) (too_deep total)
      | succ levels =>
        have exponent := (deeper rfl).2 (index' + 1) (.exponent value :: frames)
        refine Leads.step (enters total) (Nat.le_refl _) ((exponent.following first).bind ?_ ?_)
        next =>
          intro exponent rest reason refused
          change (Expression.binary .power base exponent).value meaning = .error reason
          rw [Expression.value, first, ok_bind, refused]
          rfl
        next =>
          intro exponent result index _ second
          refine Leads.back (.raise value result) ?_ rfl (Nat.le_refl index)
          rw [Expression.value, first, ok_bind, second]
          rfl

theorem signed_follows (total : depth + levels = Parser.maxDepth)
    (deeper : FollowsDeeper meaning tokens levels depth) :
    Follows meaning tokens (Parser.signed (Parser.below levels)) .signed depth := by
  intro index frames
  have steps : step meaning tokens ⟨index, depth, frames, .call .signed⟩ =
      begin meaning tokens index depth frames .signed := rfl
  dsimp only [begin] at steps
  unfold Parser.signed
  cases found : Parser.operator? [.add, .subtract] (tokens.drop index) with
  | none =>
    rw [operator?_eq_none found] at steps
    exact Leads.step steps (Nat.le_refl index)
      ((power_follows total deeper index (.unsigned :: frames)).pass fun _ _ => rfl)
  | some pair =>
    obtain ⟨operator, rest⟩ := pair
    obtain ⟨there, rfl⟩ := operator?_eq_some found
    rw [there] at steps
    refine Leads.step steps (Nat.le_succ index) ?_
    cases levels with
    | zero => exact leads_fail (too_deep total)
    | succ levels =>
      refine Leads.step (enters total) (Nat.le_refl _) (((deeper rfl).2 (index + 1) (.sign _ :: frames)).bind ?_ ?_)
      next =>
        intro operand rest reason refused
        change (Expression.signed _ operand).value meaning = .error reason
        rw [Expression.value, refused]
        rfl
      next =>
        intro operand value index' _ evaluated
        refine Leads.back (.sign (operator = .subtract) value) ?_ rfl (Nat.le_refl index')
        rw [Expression.value, evaluated]
        rfl

theorem sum_follows (total : depth + levels = Parser.maxDepth)
    (deeper : FollowsDeeper meaning tokens levels depth) :
    Follows meaning tokens (Parser.sum (Parser.below levels)) .sum depth :=
  @chain_follows _ _ _ _ _ .sum _ (@chain_follows _ _ _ _ _ .product _ (signed_follows total deeper))

theorem followsDeeper (total : depth + levels = Parser.maxDepth) : FollowsDeeper meaning tokens levels depth := by
  induction levels generalizing depth with
  | zero =>
    intro _ same
    cases same
  | succ levels ih =>
    intro levels' same
    obtain rfl := Nat.succ.inj same
    have deeper := @ih (depth + 1) (by omega)
    exact ⟨sum_follows (by omega) deeper, signed_follows (by omega) deeper⟩

end Forms

def settled : Except (Failure R) (A × List Token) -> Except (Failure R) A
  | .ok (value, []) => .ok value
  | .ok (_, token :: _) => .error (.fault (Parser.excess token))
  | .error failure => .error failure

theorem value_eq_settled (present : tokens.isEmpty = false) :
    Token.value meaning tokens = settled (outcome meaning (Parser.sum (Parser.below Parser.maxDepth) tokens)) := by
  rw [Token.value, if_neg (by simp [present]), Parser.parse]
  cases Parser.sum (Parser.below Parser.maxDepth) tokens with
  | error failure =>
    simp only [error_bind, outcome, settled, reported]
    cases Token.refusal? meaning failure.complete <;> rfl
  | ok pair =>
    obtain ⟨tree, rest⟩ := pair
    cases evaluated : tree.value meaning <;> cases rest <;>
      simp [outcome, settled, Token.refusal?, evaluated, Except.mapError, pure, Except.pure]

theorem Leads.whole {read : Except Parser.Failure (Expression × List Token)}
    (leads : Leads meaning tokens state depth [.whole] read) :
    Halts meaning tokens state (settled (outcome meaning read)) := by
  unfold Leads at leads
  split at leads
  next value rest found =>
    obtain ⟨index, _, here, run⟩ := leads
    have steps : Descent.step meaning tokens ⟨index, depth, [.whole], .returned value⟩ =
        resume meaning tokens index depth [] value .whole := rfl
    rw [resume, here] at steps
    rw [found]
    cases rest with
    | nil => exact Halts.later (run.tail steps) ⟨_, .refl, rfl⟩
    | cons token rest => exact Halts.later run ⟨_, .refl, steps⟩
  next failure found =>
    rw [found]
    exact leads

theorem halts_value (meaning : Meaning A R) (tokens : List Token) :
    Halts meaning tokens (start A) (Token.value meaning tokens) := by
  have starts : step meaning tokens (start A) = begin meaning tokens 0 0 [] .whole := rfl
  cases empty : tokens.isEmpty with
  | true =>
    refine ⟨start A, .refl, ?_⟩
    rw [starts, begin, Token.value, if_pos empty, if_pos empty]
  | false =>
    rw [begin, if_neg (by simp [empty])] at starts
    have leads := @sum_follows _ _ meaning tokens 0 Parser.maxDepth (Int.zero_add _) (followsDeeper (Int.zero_add _))
      0 [.whole]
    rw [List.drop_zero] at leads
    rw [value_eq_settled empty]
    exact leads.whole.later (.single starts)

end SpokenArithmetic.Descent
