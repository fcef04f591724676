import SpokenArithmetic.Proofs.Rewriting.Functions

set_option autoImplicit false

namespace SpokenArithmetic

open Text Token

namespace CallForm

inductive Rewritten : (glued : Bool) -> List Lexeme -> List Lexeme -> Prop where
  | nil {glued : Bool} : Rewritten glued [] []
  | same {glued : Bool} (lexeme : Lexeme) {left right : List Lexeme}
    (rest : Rewritten lexeme.isNumeral left right) : Rewritten glued (lexeme :: left) (lexeme :: right)
  | power {glued : Bool} (base exponent : List Char) {left right : List Lexeme}
    (unchained : left.head? ≠ some (.mark (.operator .power))) (rest : Rewritten false left right) :
    Rewritten glued (.numeral base :: .mark (.operator .power) :: .numeral exponent :: left)
      (.name Callable.power.name.toList :: .mark .opening :: .numeral base :: .mark .comma ::
        .numeral exponent :: .mark .closing :: right)
  | kept (function : Function) {left right : List Lexeme} (rest : Rewritten false left right) :
    Rewritten true (.name function.callName.toList :: left) (.name function.name.toList :: right)

theorem resolve_head_mark {lexemes : List Lexeme} {mark : Mark} :
    (resolve lexemes).head? = some (.mark mark) ↔ lexemes.head? = some (.mark mark) := by
  cases lexemes with
  | nil => rfl
  | cons lexeme rest =>
    simp only [resolve, List.head?_cons, Option.some.injEq]
    split
    next => cases lexeme <;> simp [Lexeme.called]
    next => rfl

theorem Powers.head_opening {left right : List Lexeme} (powers : Powers left right) :
    left.head? = some (.mark .opening) ↔ right.head? = some (.mark .opening) := by
  cases powers <;> simp

theorem Resolved.cons_cases {glued : Bool} {lexeme : Lexeme} {left right : List Lexeme}
    (resolved : Resolved glued (lexeme :: left) right) :
    (exists rest, right = lexeme :: rest ∧ Resolved lexeme.isNumeral left rest) ∨
      exists function rest, glued = true ∧ lexeme = .name (Function.callName function).toList ∧
        right = .name (Function.name function).toList :: rest ∧ Resolved false left rest := by
  cases resolved with
  | same _ rest => exact .inl ⟨_, rfl, rest⟩
  | kept function rest => exact .inr ⟨function, _, rfl, rfl, rfl, rest⟩

theorem callName_ne_power (function : Function) :
    function.callName.toList ≠ Callable.power.name.toList := by
  cases function <;> decide

theorem rewritten_of_resolved {glued : Bool} {left middle right : List Lexeme} (powers : Powers left middle)
    (resolved : Resolved glued (resolve middle) right) : Rewritten glued (resolve left) right := by
  induction powers generalizing glued right with
  | nil =>
    cases resolved
    exact .nil
  | @same lexeme left middle powers ih =>
    simp only [resolve, powers.head_opening] at resolved ⊢
    rcases resolved.cons_cases with ⟨rest, rfl, others⟩ | ⟨function, rest, rfl, same, rfl, others⟩
    next => exact .same _ (ih others)
    next =>
      rw [same]
      exact .kept function (ih others)
  | power base exponent unchained _ ih =>
    have named : callNameOf Callable.power.name.toList = Callable.power.name.toList := by decide
    simp only [resolve, Lexeme.called, ite_self, named] at resolved ⊢
    have passes {glued : Bool} {lexeme : Lexeme} {left right : List Lexeme}
        (resolved : Resolved glued (lexeme :: left) right)
        (other : forall function : Function, lexeme ≠ .name function.callName.toList) :
        exists rest, right = lexeme :: rest ∧ Resolved lexeme.isNumeral left rest := by
      rcases resolved.cons_cases with same | ⟨function, _, _, same, _⟩
      next => exact same
      next => exact absurd same (other function)
    obtain ⟨_, rfl, opened⟩ := passes resolved fun function same =>
      callName_ne_power function (Lexeme.name.inj same).symm
    obtain ⟨_, rfl, first⟩ := passes opened (by simp)
    obtain ⟨_, rfl, comma⟩ := passes first (by simp)
    obtain ⟨_, rfl, second⟩ := passes comma (by simp)
    obtain ⟨_, rfl, closed⟩ := passes second (by simp)
    obtain ⟨_, rfl, others⟩ := passes closed (by simp)
    refine .power base exponent ?_ (ih others)
    rwa [Ne, resolve_head_mark]

theorem resolve_eq_nil {lexemes : List Lexeme} : resolve lexemes = [] ↔ lexemes = [] := by
  cases lexemes <;> simp [resolve]

theorem Rewritten.eq_nil {glued : Bool} {left right : List Lexeme} (rewritten : Rewritten glued left right) :
    left = [] ↔ right = [] := by
  cases rewritten <;> simp

theorem Rewritten.head_mark {glued : Bool} {left right : List Lexeme} (rewritten : Rewritten glued left right)
    (mark : Mark) : left.head? = some (.mark mark) ↔ right.head? = some (.mark mark) := by
  cases rewritten <;> simp

end CallForm

end SpokenArithmetic
