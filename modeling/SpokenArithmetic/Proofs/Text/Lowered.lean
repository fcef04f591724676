import SpokenArithmetic.Text.Case

set_option autoImplicit false

namespace SpokenArithmetic.Text

namespace Case

def Settled (c : Char) : Prop :=
  c ≠ '\u03A3' ∧ lowerChar c = [c]

instance (c : Char) : Decidable (Settled c) :=
  inferInstanceAs (Decidable (_ ∧ _))

def Run.target (run : Run) (point : Nat) : Nat :=
  ((point : Int) + run.shift).toNat

-- Nothing that the first run writes is covered by the second one. Where they meet, one of them covers the odd
-- points only and the other one the even points.
def Run.clears (run other : Run) : Bool :=
  Nat.blt (run.target run.last) other.first || Nat.blt other.last (run.target run.first) ||
    (other.step == 2 && (run.step == 2 || run.first == run.last) &&
      (run.target run.first + other.first) % 2 == 1)

-- A run writes for its first point a point of the plane, and never the dotted capital.
def Run.isRegular (run : Run) : Bool :=
  decide (0 ≤ (run.first : Int) + run.shift) && (run.step == 1 || run.step == 2) &&
    (Nat.blt (run.target run.last) 0x130 || Nat.blt 0x130 (run.target run.first))

theorem runs_clear : runs.all (fun run => runs.all run.clears) = true := by
  decide +kernel

theorem runs_regular : runs.all Run.isRegular = true := by
  decide

variable {run other : Run} {c : Char} {point : Nat}

theorem Run.target_eq (regular : run.isRegular = true) (above : run.first ≤ point) :
    run.target point = run.target run.first + (point - run.first) := by
  simp only [isRegular, Bool.and_eq_true, decide_eq_true_eq] at regular
  have positive := regular.1.1
  simp only [target]
  omega

theorem Run.covers_iff (run : Run) (point : Nat) :
    run.covers point = true ↔ (run.first ≤ point ∧ point ≤ run.last) ∧ (point - run.first) % run.step = 0 := by
  simp only [covers, Bool.and_eq_true, decide_eq_true_eq, beq_iff_eq]

theorem Run.uncovered (regular : run.isRegular = true) (apart : run.clears other = true)
    (covered : run.covers point = true) : ¬other.covers (run.target point) = true := by
  obtain ⟨⟨above, below⟩, stepped⟩ := (run.covers_iff point).1 covered
  have written := target_eq regular above
  have last := target_eq regular (Nat.le_trans above below)
  intro again
  obtain ⟨⟨from_, upto⟩, even⟩ := (other.covers_iff _).1 again
  simp only [clears, Bool.or_eq_true, Nat.blt_eq, Bool.and_eq_true, beq_iff_eq] at apart
  rcases apart with (front | behind) | ⟨⟨two, spread⟩, odd⟩
  next => omega
  next => omega
  next =>
    rw [two] at even
    rcases spread with two | single
    next =>
      rw [two] at stepped
      omega
    next => omega

theorem settled_of_uncovered (uncovered : forall run, run ∈ runs -> ¬run.covers c.toNat = true)
    (dotless : c ≠ '\u0130') : Settled c := by
  have sigma : runs.any (Run.covers · 0x3A3) = true := by decide
  have capitals : (⟨0x41, 0x5A, 1, 32⟩ : Run) ∈ runs := List.mem_cons_self
  refine ⟨?_, ?_⟩
  next =>
    rintro rfl
    obtain ⟨run, among, covered⟩ := List.any_eq_true.1 sigma
    exact uncovered run among covered
  next =>
    unfold lowerChar
    by_cases ascii : c.toNat < 128
    next =>
      have small : forall point, point < 128 -> ¬(⟨0x41, 0x5A, 1, 32⟩ : Run).covers point = true ->
          (Char.ofNat point).toLower = Char.ofNat point := by decide
      have same := small c.toNat ascii (uncovered _ capitals)
      rw [Char.ofNat_toNat] at same
      rw [if_pos ascii, same]
    next =>
      have none : runs.find? (Run.covers · c.toNat) = none :=
        List.find?_eq_none.2 fun run member => uncovered run member
      rw [if_neg ascii, if_neg dotless, none]

theorem settled_of_clear (clear : runs.all (fun run => !run.covers c.toNat) = true) (dotless : c ≠ '\u0130') :
    Settled c :=
  settled_of_uncovered (fun run member => by simpa using List.all_eq_true.1 clear run member) dotless

theorem settled_target (member : run ∈ runs) (covered : run.covers c.toNat = true) :
    Settled (Char.ofNat (run.target c.toNat)) := by
  have regular : run.isRegular = true := List.all_eq_true.1 runs_regular run member
  have clear := List.all_eq_true.1 (List.all_eq_true.1 runs_clear run member)
  by_cases valid : (run.target c.toNat).isValidChar
  next =>
    have point : (Char.ofNat (run.target c.toNat)).toNat = run.target c.toNat :=
      congrArg Char.toNat (dif_pos valid)
    refine settled_of_uncovered (fun other among => ?_) ?_
    next =>
      rw [point]
      exact run.uncovered regular (clear other among) covered
    next =>
      intro dotted
      rw [dotted] at point
      have dot : run.target c.toNat = 0x130 := point.symm
      obtain ⟨⟨above, below⟩, _⟩ := (run.covers_iff _).1 covered
      have written := run.target_eq regular above
      have last := run.target_eq regular (Nat.le_trans above below)
      simp only [Run.isRegular, Bool.and_eq_true, Bool.or_eq_true, Nat.blt_eq] at regular
      omega
  next =>
    have zero : Char.ofNat (run.target c.toNat) = Char.ofNat 0 := dif_neg valid
    rw [zero]
    decide

theorem settled_lowerChar (c : Char) : forall written, written ∈ lowerChar c -> Settled written := by
  intro written member
  unfold lowerChar at member
  split at member
  next ascii =>
    have small : forall point, point < 128 -> Settled (Char.ofNat point).toLower := by decide
    rw [List.mem_singleton.1 member, ← Char.ofNat_toNat c]
    exact small c.toNat ascii
  next =>
    split at member
    next =>
      have letter : Settled 'i' := settled_of_clear (by decide) (by decide)
      have dot : Settled '\u0307' := settled_of_clear (by decide) (by decide)
      rcases List.mem_cons.1 member with rfl | last
      next => exact letter
      next => exact List.mem_singleton.1 last ▸ dot
    next plain =>
      split at member
      next run found =>
        have covered : (run.covers c.toNat) = true := @List.find?_some Run (Run.covers · c.toNat) run runs found
        rw [List.mem_singleton.1 member]
        exact settled_target (List.mem_of_find?_eq_some found) covered
      next none =>
        rw [List.mem_singleton.1 member]
        exact settled_of_uncovered (List.find?_eq_none.1 none) plain

end Case

theorem settled_lowerFrom (before text : List Char) :
    forall c, c ∈ lowerFrom before text -> Case.Settled c := by
  induction text generalizing before with
  | nil => intro c member; cases member
  | cons first rest ih =>
    intro c member
    rcases List.mem_append.1 member with member | member
    next =>
      split at member
      next =>
        have final : Case.Settled '\u03C2' := Case.settled_of_clear (by decide) (by decide)
        have inner : Case.Settled '\u03C3' := Case.settled_of_clear (by decide) (by decide)
        rw [List.mem_singleton.1 member]
        split
        next => exact final
        next => exact inner
      next => exact Case.settled_lowerChar first c member
    next => exact ih (first :: before) c member

theorem lowerFrom_settled {text : List Char} (settled : forall c, c ∈ text -> Case.Settled c)
    (before : List Char) : lowerFrom before text = text := by
  induction text generalizing before with
  | nil => rfl
  | cons first rest ih =>
    have settledFirst := settled first List.mem_cons_self
    have settledRest := ih fun c member => settled c (List.mem_cons_of_mem first member)
    rw [lowerFrom, if_neg settledFirst.1, settledFirst.2, settledRest, List.singleton_append]

theorem lower_lower (text : List Char) : lower (lower text) = lower text :=
  lowerFrom_settled (settled_lowerFrom [] text) []

theorem lowered_lowered (text : String) : lowered (lowered text) = lowered text := by
  rw [lowered, lowered, String.toList_ofList, lower_lower]

end SpokenArithmetic.Text
