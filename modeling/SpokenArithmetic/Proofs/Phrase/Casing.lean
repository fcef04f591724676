import SpokenArithmetic.Proofs.Phrase.Squeezed
import SpokenArithmetic.Proofs.Text.Lowered

set_option autoImplicit false

namespace SpokenArithmetic

namespace Text.Case

def Run.isSolid (run : Run) : Bool :=
  Property.space.all fun range =>
    Nat.blt (run.target run.last) range.1 || Nat.blt range.2 (run.target run.first)

theorem runs_solid : runs.all Run.isSolid = true := by
  decide

variable {run : Run} {c : Char}

theorem Run.solid_target (member : run ∈ runs) (covered : run.covers c.toNat = true) :
    isSpace (Char.ofNat (run.target c.toNat)) = false := by
  have regular : run.isRegular = true := List.all_eq_true.1 runs_regular run member
  have solid := List.all_eq_true.1 runs_solid run member
  obtain ⟨⟨above, below⟩, _⟩ := (run.covers_iff c.toNat).1 covered
  have written := run.target_eq regular above
  have last := run.target_eq regular (Nat.le_trans above below)
  by_cases valid : (run.target c.toNat).isValidChar
  next =>
    have point : (Char.ofNat (run.target c.toNat)).toNat = run.target c.toNat := congrArg Char.toNat (dif_pos valid)
    rw [isSpace, point, Property.holds, List.any_eq_false]
    intro range among
    have outside := List.all_eq_true.1 solid range among
    simp only [Bool.or_eq_true, Nat.blt_eq] at outside
    simp only [Bool.and_eq_true, decide_eq_true_eq]
    omega
  next =>
    have zero : Char.ofNat (run.target c.toNat) = Char.ofNat 0 := dif_neg valid
    rw [zero]
    decide

theorem lowerChar_solid (solid : isSpace c = false) : forall d, d ∈ lowerChar c -> isSpace d = false := by
  intro d member
  unfold lowerChar at member
  split at member
  next ascii =>
    have small : forall point, point < 128 -> isSpace (Char.ofNat point) = false ->
        isSpace (Char.ofNat point).toLower = false := by
      decide
    rw [List.mem_singleton.1 member, ← Char.ofNat_toNat c]
    exact small c.toNat ascii (by rwa [Char.ofNat_toNat])
  next =>
    split at member
    next =>
      have all : forall d, d ∈ ['i', '\u0307'] -> isSpace d = false := by decide
      exact all d member
    next =>
      split at member
      next run found =>
        have covered : (run.covers c.toNat) = true := @List.find?_some Run (Run.covers · c.toNat) run runs found
        rw [List.mem_singleton.1 member]
        exact run.solid_target (List.mem_of_find?_eq_some found) covered
      next => rwa [List.mem_singleton.1 member]

theorem lowerChar_ne_nil (c : Char) : lowerChar c ≠ [] := by
  unfold lowerChar
  split
  next => simp
  next =>
    split
    next => simp
    next => split <;> simp

theorem space_caseless (space : isSpace c = true) :
    c ≠ '\u03A3' ∧ lowerChar c = [c] ∧ isIgnorable c = false ∧ isCased c = false := by
  have all : forall c, c ∈ spaceChars ->
      c ≠ '\u03A3' ∧ lowerChar c = [c] ∧ isIgnorable c = false ∧ isCased c = false := by
    decide +kernel
  exact all c (mem_spaceChars space)

theorem casedFirst_cons (c : Char) (text : List Char) :
    casedFirst (c :: text) = if isIgnorable c then casedFirst text else isCased c := by
  cases ignorable : isIgnorable c <;> simp [casedFirst, ignorable]

theorem casedFirst_space (space : isSpace c = true) (text : List Char) : casedFirst (c :: text) = false := by
  obtain ⟨_, _, ignorable, cased⟩ := space_caseless space
  rw [casedFirst_cons, ignorable, cased]
  rfl

end Text.Case

namespace Phrase

open Text

section Lowering

variable {gap rest before before' : List Char}

theorem casedFirst_squeeze (text : List Char) : Case.casedFirst (squeeze text) = Case.casedFirst text := by
  induction text with
  | nil => rfl
  | cons c rest ih =>
    cases space : isSpace c with
    | true => rw [squeeze_space space, Case.casedFirst_space space, Case.casedFirst_space (by decide)]
    | false => rw [squeeze_other space, Case.casedFirst_cons, Case.casedFirst_cons, ih]

def loweredAt (before : List Char) (c : Char) (rest : List Char) : List Char :=
  if c = '\u03A3' then [if Case.casedFirst before && !Case.casedFirst rest then '\u03C2' else '\u03C3']
  else Case.lowerChar c

theorem lowerFrom_cons (before : List Char) (c : Char) (rest : List Char) :
    lowerFrom before (c :: rest) = loweredAt before c rest ++ lowerFrom (c :: before) rest := rfl

theorem loweredAt_solid {c : Char} (solid : isSpace c = false) :
    loweredAt before c rest ≠ [] ∧ forall d, d ∈ loweredAt before c rest -> isSpace d = false := by
  unfold loweredAt
  split
  next =>
    have sigmas : isSpace '\u03C2' = false ∧ isSpace '\u03C3' = false := by decide
    refine ⟨by simp, fun d member => ?_⟩
    rw [List.mem_singleton.1 member]
    split
    next => exact sigmas.1
    next => exact sigmas.2
  next => exact ⟨Case.lowerChar_ne_nil c, Case.lowerChar_solid solid⟩

theorem lowerFrom_gap (spaces : forall c, c ∈ gap -> isSpace c = true) (before rest : List Char) :
    lowerFrom before (gap ++ rest) = gap ++ lowerFrom (gap.reverse ++ before) rest := by
  induction gap generalizing before with
  | nil => rfl
  | cons c gap ih =>
    obtain ⟨noSigma, same, _⟩ := Case.space_caseless (spaces c List.mem_cons_self)
    rw [List.cons_append, lowerFrom_cons, loweredAt, if_neg noSigma, same,
      ih fun d member => spaces d (List.mem_cons_of_mem c member)]
    simp

theorem lowerFrom_head (stops : rest.head?.any isSpace = false) : (lowerFrom before rest).head?.any isSpace = false := by
  cases rest with
  | nil => rfl
  | cons c rest =>
    obtain ⟨present, solid⟩ := @loweredAt_solid rest before c stops
    obtain ⟨d, more, starts⟩ := List.exists_cons_of_ne_nil present
    rw [lowerFrom_cons, starts]
    exact solid d (by simp [starts])

theorem lowerFrom_squeeze (sides : Case.casedFirst before' = Case.casedFirst before) (text : List Char) :
    lowerFrom before' (squeeze text) = squeeze (lowerFrom before text) := by
  induction text using gapInduction generalizing before before' with
  | nil => rfl
  | solid c rest other ih =>
    have same : loweredAt before' c (squeeze rest) = loweredAt before c rest := by
      rw [loweredAt, loweredAt, sides, casedFirst_squeeze]
    have behind : Case.casedFirst (c :: before') = Case.casedFirst (c :: before) := by
      rw [Case.casedFirst_cons, Case.casedFirst_cons, sides]
    rw [squeeze_other other, lowerFrom_cons, lowerFrom_cons, same, ih behind, squeeze_solid (loweredAt_solid other).2]
  | gap gap rest isGap stops ih =>
    have behind : Case.casedFirst (' ' :: before') = Case.casedFirst (gap.reverse ++ before) := by
      obtain ⟨front, c, rfl⟩ := (List.eq_nil_or_concat gap).resolve_left isGap.1
      rw [List.concat_eq_append] at isGap ⊢
      rw [List.reverse_append, Case.casedFirst_space (by decide)]
      exact (Case.casedFirst_space (isGap.2 c (by simp)) _).symm
    have noSigma := Case.space_caseless (show isSpace ' ' = true by decide)
    rw [squeeze_gap isGap stops, lowerFrom_gap isGap.2, squeeze_gap isGap (lowerFrom_head stops), lowerFrom_cons,
      loweredAt, if_neg noSigma.1, noSigma.2.1, ih behind]
    rfl

theorem lower_squeeze (text : List Char) : lower (squeeze text) = squeeze (lower text) :=
  lowerFrom_squeeze rfl text

end Lowering

section Stripping

theorem squeeze_reverse (text : List Char) : squeeze text.reverse = (squeeze text).reverse := by
  induction text using gapInduction with
  | nil => rfl
  | solid c rest other ih =>
    rw [List.reverse_cons, squeeze_parted _ other, ih, squeeze_other other, List.reverse_cons]
    rfl
  | gap gap rest isGap stops ih =>
    have backwards : squeeze gap.reverse = [' '] := squeeze_of_gap ⟨by simpa using isGap.1, by simpa using isGap.2⟩
    rw [squeeze_gap isGap stops, List.reverse_append, List.reverse_cons, ← ih]
    cases rest with
    | nil => exact backwards
    | cons c rest =>
      rw [List.reverse_cons, List.append_assoc, List.singleton_append, squeeze_parted _ stops, backwards,
        squeeze_parted _ stops]
      simp [squeeze, Pattern.replace, Pattern.replaceFrom]

theorem stripStart_squeeze (text : List Char) : stripStart (squeeze text) = squeeze (stripStart text) := by
  induction text using gapInduction with
  | nil => rfl
  | solid c rest other ih =>
    rw [squeeze_other other]
    unfold stripStart at ih ⊢
    cases blank : isBlank c with
    | true => rw [List.dropWhile_cons_of_pos blank, List.dropWhile_cons_of_pos blank, ih]
    | false =>
      rw [List.dropWhile_cons_of_neg (by simp [blank]), List.dropWhile_cons_of_neg (by simp [blank]), squeeze_other other]
  | gap gap rest isGap stops ih =>
    rw [squeeze_gap isGap stops]
    unfold stripStart at ih ⊢
    have blank : forall c, c ∈ gap -> isBlank c = true := fun c member => isBlank_of_isSpace (isGap.2 c member)
    rw [List.dropWhile_cons_of_pos (by decide), List.dropWhile_append_of_pos blank, ih]

theorem strip_squeeze (text : List Char) : strip (squeeze text) = squeeze (strip text) := by
  have ends (text : List Char) : stripEnd text = (stripStart text.reverse).reverse := rfl
  rw [strip, strip, stripStart_squeeze, ends, ends, ← squeeze_reverse, stripStart_squeeze, squeeze_reverse]

end Stripping

end Phrase

end SpokenArithmetic
