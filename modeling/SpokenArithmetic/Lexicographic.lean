set_option autoImplicit false

namespace SpokenArithmetic

/-- The first list comes at or behind the second one: the first difference decides, and a list comes
behind its beginnings. -/
def atOrBehind : List Nat -> List Nat -> Bool
  | _, [] => true
  | [], _ :: _ => false
  | a :: first, b :: second => decide (b < a) || (a == b && atOrBehind first second)

theorem atOrBehind_total (first second : List Nat) :
    atOrBehind first second = true ∨ atOrBehind second first = true := by
  induction first generalizing second with
  | nil => cases second <;> simp [atOrBehind]
  | cons a first ih =>
      cases second with
      | nil => simp [atOrBehind]
      | cons b second =>
          rcases Nat.lt_trichotomy a b with less | rfl | more
          · simp [atOrBehind, less]
          · simpa [atOrBehind] using ih second
          · simp [atOrBehind, more]

theorem atOrBehind_trans {first second third : List Nat} (high : atOrBehind first second = true)
    (low : atOrBehind second third = true) : atOrBehind first third = true := by
  induction third generalizing first second with
  | nil => cases first <;> rfl
  | cons c third ih =>
      cases second with
      | nil => simp [atOrBehind] at low
      | cons b second =>
          cases first with
          | nil => simp [atOrBehind] at high
          | cons a first =>
              simp only [atOrBehind, Bool.or_eq_true, decide_eq_true_eq, Bool.and_eq_true,
                beq_iff_eq] at high low ⊢
              rcases high with above | ⟨rfl, high⟩
              · rcases low with below | ⟨rfl, _⟩
                · exact Or.inl (Nat.lt_trans below above)
                · exact Or.inl above
              · rcases low with below | ⟨rfl, low⟩
                · exact Or.inl below
                · exact Or.inr ⟨rfl, ih high low⟩

end SpokenArithmetic
