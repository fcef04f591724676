import SpokenArithmetic.Proofs.Rewriting.Composed

set_option autoImplicit false

namespace SpokenArithmetic.Evaluation

open Arithmetic CallForm Grammar Text Token

structure Unrewritten (text : List Char) : Prop where
  allowed : forall c, c ∈ text -> isAllowed c = true
  noPower : forall d, isDigit d = true -> ¬['^', d] <:+: text
  unnamed : forall c, c ∈ text -> c ∉ initials

variable {text : List Char}

theorem literalPower_needs {before : Option Char} {behind : List Char} {power : List Char × List Char}
    (matched : literalPower before text = some (power, behind)) :
    exists d, isDigit d = true ∧ ['^', d] <:+: text := by
  obtain ⟨base, exponent⟩ := power
  obtain ⟨_, rfl, _, raised, _⟩ := literalPower_eq_some.1 matched
  obtain ⟨_, starts, _⟩ := numeral?_eq_some.1 raised
  cases exponent with
  | nil => cases starts
  | cons d exponent => exact ⟨d, starts, base, exponent ++ behind, by simp⟩

theorem Unrewritten.unmatched (unrewritten : Unrewritten text) {tail : List Char} (suffix : tail <:+ text)
    (before : Option Char) : literalPower before tail = none := by
  cases matched : literalPower before tail with
  | none => rfl
  | some pair =>
    obtain ⟨d, digit, stands⟩ := literalPower_needs matched
    exact absurd (stands.trans suffix.isInfix) (unrewritten.noPower d digit)

theorem Unrewritten.powersApart (unrewritten : Unrewritten text) : PowersApart text where
  atLexemes {front rest lexeme} scanned _ {inside tail} same _ _ := by
    refine unrewritten.unmatched ⟨front ++ inside, ?_⟩ _
    rw [scanned.parts, same]
    simp
  unchained {front rest behind power} parts matched := by
    rw [unrewritten.unmatched ⟨front, parts.symm⟩] at matched
    cases matched

theorem Unrewritten.callForm_eq (unrewritten : Unrewritten text) : callForm text = text := by
  have powers : writePowers text = text :=
    Pattern.replace_of_unmatched fun before tail suffix => unrewritten.unmatched suffix before
  have needs (before : Option Char) (rest : List Char) (function : Function) (behind : List Char)
      (matched : functionCall before rest = some (function, behind)) : exists c, c ∈ rest ∧ c ∈ initials := by
    obtain ⟨c, tail, rfl, initial⟩ := functionCall_starts matched
    exact ⟨c, List.mem_cons_self, initial⟩
  have functions : writeFunctions text = text := Pattern.replace_of_needs needs unrewritten.unnamed
  rw [CallForm.callForm_eq unrewritten.allowed, powers, functions]

theorem Unrewritten.value_eq (unrewritten : Unrewritten text) {derivation : Derivation (.form .sum)}
    {tree : Expression} (lexed : lexes text = some derivation.yield)
    (shallow : derivation.depth <= Parser.maxDepth) (content : derivation.content? callable? = some tree) :
    value text = rounded ((tree.value doubles).mapError .refused) := by
  have same := unrewritten.callForm_eq
  have reads : ReadsAs Parser.maxDepth text tree :=
    readsAs_iff.2 ⟨derivation, by rw [same, lexed], shallow, content⟩
  have present : (strip text).isEmpty = false := by
    cases empty : (strip text).isEmpty with
    | false => rfl
    | true =>
      have none := (strip_isEmpty unrewritten.allowed).1 empty
      obtain ⟨lexeme, tail, starts, _⟩ := derivation.yield_form .sum rfl
      rw [lexed, starts] at none
      cases none
  have unrounded : unrounded (callForm text) = (tree.value doubles).mapError .refused :=
    reads.unrounded (Nat.le_refl _)
  rw [value_eq_rounded, unrounded, same, present]
  rfl

end SpokenArithmetic.Evaluation
