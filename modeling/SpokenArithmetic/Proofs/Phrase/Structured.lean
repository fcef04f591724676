import Mathlib.Data.List.Chain
import SpokenArithmetic.Phrase.Structure
import SpokenArithmetic.Proofs.Phrase.Compounds

set_option autoImplicit false

namespace SpokenArithmetic.Phrase

open Text

section Meetings

def compact (text : List Char) : List Char :=
  text.filter (!isSpace ·)

def Meets (text : List Char) (first second : Char) : Prop :=
  [first, second] <:+: compact text

variable {text tail : List Char} {first second : Char}

theorem compact_append (front rest : List Char) : compact (front ++ rest) = compact front ++ compact rest :=
  List.filter_append front rest

theorem compact_cons {c : Char} (other : isSpace c = false) (rest : List Char) :
    compact (c :: rest) = c :: compact rest :=
  List.filter_cons_of_pos (by simp [other])

theorem compact_solid (solid : forall c, c ∈ text -> isSpace c = false) : compact text = text :=
  List.filter_eq_self.2 fun c member => by simp [solid c member]

theorem compact_skipSpace (text : List Char) : compact (skipSpace text) = compact text := by
  induction text with
  | nil => rfl
  | cons c rest ih =>
    by_cases space : isSpace c = true
    next =>
      have dropped : compact (c :: rest) = compact rest := List.filter_cons_of_neg (by simp [space])
      rw [dropped, ← ih, skipSpace, List.dropWhile_cons_of_pos space]
      rfl
    next => rw [skipSpace, List.dropWhile_cons_of_neg space]

theorem skipSpace_suffix (text : List Char) : skipSpace text <:+ text :=
  List.dropWhile_suffix isSpace

theorem Meets.of_suffix (meets : Meets tail first second) (suffix : tail <:+ text) : Meets text first second :=
  List.IsInfix.trans meets (suffix.filter _).isInfix

theorem meets_skipped {rest behind : List Char} (one : isSpace first = false) (two : isSpace second = false)
    (next : skipSpace rest = second :: behind) : Meets (first :: rest) first second := by
  refine ⟨[], compact behind, ?_⟩
  rw [compact_cons one, ← compact_skipSpace rest, next, compact_cons two]
  rfl

theorem Meets.related {related : Char -> Char -> Prop} (meets : Meets text first second)
    (chain : List.IsChain related (compact text)) : related first second := by
  have pair := chain.infix meets
  simpa using pair

end Meetings

section Needs

variable {before : Option Char} {text behind : List Char}

theorem raisedTo_needs {exponent : Char} {base : List Char}
    (matched : raisedTo exponent before text = some (base, behind)) : ['^', exponent] <:+: text := by
  unfold raisedTo Pattern.unlessBehind at matched
  split at matched
  next => cases matched
  next =>
    obtain ⟨⟨numeral, rest⟩, read, matched⟩ := Option.bind_eq_some_iff.1 matched
    obtain ⟨last, power, _⟩ := Option.bind_eq_some_iff.1 matched
    obtain ⟨rfl, _⟩ := Token.numeral?_eq_some.1 read
    have start : ['^', exponent] <+: skipSpace rest := ⟨last, (after?_eq_some.1 power).symm⟩
    exact start.isInfix.trans ((skipSpace_suffix rest).trans (List.suffix_append numeral rest)).isInfix

theorem barePower_needs {power : List Char × List Char}
    (matched : barePower before text = some (power, behind)) :
    exists d, isDigit d = true ∧ Meets text '^' d := by
  unfold barePower Pattern.unlessBehind at matched
  split at matched
  next => cases matched
  next =>
    obtain ⟨⟨numeral, rest⟩, read, matched⟩ := Option.bind_eq_some_iff.1 matched
    obtain ⟨last, caret, matched⟩ := Option.bind_eq_some_iff.1 matched
    obtain ⟨⟨exponent, left⟩, raised, _⟩ := Option.bind_eq_some_iff.1 matched
    obtain ⟨rfl, _⟩ := Token.numeral?_eq_some.1 read
    have power : skipSpace rest = '^' :: last := after?_eq_some.1 caret
    obtain ⟨parts, starts, _⟩ := Token.numeral?_eq_some.1 raised
    cases exponent with
    | nil => cases starts
    | cons d exponent =>
      have digit : isDigit d = true := starts
      have meets : Meets ('^' :: last) '^' d := meets_skipped (by decide) (not_space_of_isDigit digit) parts
      rw [← power] at meets
      exact ⟨d, digit, meets.of_suffix ((skipSpace_suffix rest).trans (List.suffix_append numeral rest))⟩

def initials : List Char :=
  ['s', 'c', 'a', 't', 'l', 'f', 'r']

theorem name_needs (function : Function) (rest : List Char) :
    exists c, c ∈ function.name.toList ++ rest ∧ c ∈ initials := by
  cases function <;> exact ⟨_, List.mem_append_left _ List.mem_cons_self, by decide⟩

theorem functionName_needs {function : Function} {found : Unit}
    (matched : functionName function before text = some (found, behind)) :
    exists c, c ∈ text ∧ c ∈ initials := by
  unfold functionName Pattern.unlessBehind literally at matched
  split at matched
  next => cases matched
  next =>
    obtain ⟨rest, named, _⟩ := Option.map_eq_some_iff.1 matched
    rw [after?_eq_some.1 named]
    exact name_needs function rest

theorem parenthesizedCall_needs {function : Function} {argument : List Char}
    (matched : parenthesizedCall function before text = some (argument, behind)) :
    exists c, c ∈ text ∧ c ∈ initials := by
  obtain ⟨⟨found, rest⟩, named, _⟩ := Option.bind_eq_some_iff.1 matched
  exact functionName_needs named

theorem bareCall_needs {function : Function} {argument : List Char}
    (matched : bareCall function before text = some (argument, behind)) :
    exists c, c ∈ text ∧ c ∈ initials := by
  obtain ⟨⟨found, rest⟩, named, _⟩ := Option.bind_eq_some_iff.1 matched
  exact functionName_needs named

theorem factorBeforeFunction_needs {found : Char × Function}
    (matched : factorBeforeFunction before text = some (found, behind)) :
    exists c, c ∈ text ∧ c ∈ initials := by
  cases text with
  | nil => cases matched
  | cons factor rest =>
    obtain ⟨⟨function, last⟩, named, _⟩ := Option.bind_eq_some_iff.1 matched
    obtain ⟨other, _, found⟩ := List.exists_of_findSome?_eq_some named
    obtain ⟨tail, named, _⟩ := Option.bind_eq_some_iff.1 found
    obtain ⟨c, member, needed⟩ := name_needs other tail
    rw [← after?_eq_some.1 named] at member
    exact ⟨c, List.mem_cons_of_mem _ ((skipSpace_suffix rest).subset member), needed⟩

theorem factorBeforeOpen_needs {found : Char}
    (matched : factorBeforeOpen before text = some (found, behind)) :
    exists c, isDigitOrClose c = true ∧ Meets text c '(' := by
  cases text with
  | nil => cases matched
  | cons factor rest =>
    obtain ⟨last, opened, matched⟩ := Option.bind_eq_some_iff.1 matched
    split at matched
    next kind =>
      have noSpace : isSpace factor = false := by
        simp only [isDigitOrClose, Bool.or_eq_true, beq_iff_eq] at kind
        rcases kind with digit | rfl
        next => exact not_space_of_isDigit digit
        next => decide
      exact ⟨factor, kind, meets_skipped noSpace (by decide) (after?_eq_some.1 opened)⟩
    next => cases matched

theorem closeBeforeDigit_needs {found : Char}
    (matched : closeBeforeDigit before text = some (found, behind)) :
    exists d, isDigit d = true ∧ Meets text ')' d := by
  unfold closeBeforeDigit at matched
  split at matched
  next rest =>
    split at matched
    next digit last parts =>
      split at matched
      next kind => exact ⟨digit, kind, meets_skipped (by decide) (not_space_of_isDigit kind) parts⟩
      next => cases matched
    next => cases matched
  next => cases matched

end Needs

section Unstructured

variable {text : List Char}

theorem raisedTo_unchanged {exponent : Char} (absent : ¬['^', exponent] <:+: text) :
    (raisedTo exponent).replace (parenthesizePower · [exponent]) text = text := by
  apply Pattern.replace_of_unmatched
  intro before tail suffix
  cases matched : raisedTo exponent before tail with
  | none => rfl
  | some pair => exact absurd ((raisedTo_needs matched).trans suffix.isInfix) absent

theorem parenthesizePowers_bare (squares : ¬['^', '2'] <:+: text) (cubes : ¬['^', '3'] <:+: text) :
    parenthesizePowers text = barePower.replace (fun power => parenthesizePower power.1 power.2) text := by
  unfold parenthesizePowers
  rw [raisedTo_unchanged squares]
  dsimp only
  rw [raisedTo_unchanged cubes]

theorem barePower_unchanged (powers : forall d, isDigit d = true -> ¬Meets text '^' d) :
    barePower.replace (fun power => parenthesizePower power.1 power.2) text = text := by
  apply Pattern.replace_of_unmatched
  intro before tail suffix
  cases matched : barePower before tail with
  | none => rfl
  | some pair =>
    obtain ⟨d, digit, meets⟩ := barePower_needs matched
    exact absurd (meets.of_suffix suffix) (powers d digit)

theorem writeCalls_unchanged (unnamed : forall c, c ∈ text -> c ∉ initials) (functions : List Function) :
    functions.foldl writeCalls text = text := by
  induction functions with
  | nil => rfl
  | cons function functions ih =>
    have parenthesized := @Pattern.replace_of_needs _ (parenthesizedCall function) (writtenCall function) _ text
      (fun _ _ _ _ matched => parenthesizedCall_needs matched) unnamed
    have bare := @Pattern.replace_of_needs _ (bareCall function) (writtenCall function) _ text
      (fun _ _ _ _ matched => bareCall_needs matched) unnamed
    rw [List.foldl_cons, writeCalls, parenthesized, bare, ih]

theorem writeProducts_unchanged (unnamed : forall c, c ∈ text -> c ∉ initials)
    (openings : forall c, isDigitOrClose c = true -> ¬Meets text c '(')
    (closings : forall d, isDigit d = true -> ¬Meets text ')' d) : writeProducts text = text := by
  have functions := @Pattern.replace_of_needs _ factorBeforeFunction
    (fun found => found.1 :: '*' :: found.2.name.toList) _ text
    (fun _ _ _ _ matched => factorBeforeFunction_needs matched) unnamed
  have opened : factorBeforeOpen.replace (fun factor => [factor, '*', '(']) text = text := by
    apply Pattern.replace_of_unmatched
    intro before tail suffix
    cases matched : factorBeforeOpen before tail with
    | none => rfl
    | some pair =>
      obtain ⟨c, kind, meets⟩ := factorBeforeOpen_needs matched
      exact absurd (meets.of_suffix suffix) (openings c kind)
  have closed : closeBeforeDigit.replace (fun digit => [')', '*', digit]) text = text := by
    apply Pattern.replace_of_unmatched
    intro before tail suffix
    cases matched : closeBeforeDigit before tail with
    | none => rfl
    | some pair =>
      obtain ⟨d, digit, meets⟩ := closeBeforeDigit_needs matched
      exact absurd (meets.of_suffix suffix) (closings d digit)
  unfold writeProducts
  rw [functions]
  dsimp only
  rw [opened]
  exact closed

structure Unstructured (text : List Char) : Prop where
  noPower : forall d, isDigit d = true -> ¬Meets text '^' d
  noParenthesis : forall c, c ∈ text -> c ∉ ['(', ')']
  unnamed : forall c, c ∈ text -> c ∉ initials

theorem mem_of_meets {first second : Char} (meets : Meets text first second) : first ∈ text ∧ second ∈ text := by
  have inText {c : Char} (member : c ∈ [first, second]) : c ∈ text :=
    (List.mem_filter.1 (meets.subset member)).1
  exact ⟨inText (by simp), inText (by simp)⟩

theorem explicit_unstructured (unstructured : Unstructured text) : explicit text = text := by
  have raised (exponent : Char) (digit : isDigit exponent = true) : ¬['^', exponent] <:+: text := by
    intro stands
    have meets : Meets text '^' exponent := by
      have filtered := stands.filter (!isSpace ·)
      rwa [List.filter_eq_self.2] at filtered
      simp [not_space_of_isDigit digit, show isSpace '^' = false by decide]
    exact unstructured.noPower exponent digit meets
  have powers := parenthesizePowers_bare (raised '2' (by decide)) (raised '3' (by decide))
  have openings (c : Char) (_ : isDigitOrClose c = true) : ¬Meets text c '(' := fun meets =>
    unstructured.noParenthesis '(' (mem_of_meets meets).2 (by simp)
  have closings (d : Char) (_ : isDigit d = true) : ¬Meets text ')' d := fun meets =>
    unstructured.noParenthesis ')' (mem_of_meets meets).1 (by simp)
  rw [explicit, powers, barePower_unchanged unstructured.noPower, writeCalls_unchanged unstructured.unnamed,
    writeProducts_unchanged unstructured.unnamed openings closings]

end Unstructured

section Points

variable {text : List Char}

def TightPoint (c d : Char) : Prop :=
  (c = '.' -> isSpace d = false) ∧ (d = '.' -> isSpace c = false)

def PointsTight (text : List Char) : Prop :=
  text.IsChain TightPoint

theorem skipSpace_point {rest behind : List Char} (tight : PointsTight rest)
    (point : skipSpace rest = '.' :: behind) : rest = '.' :: behind := by
  induction rest with
  | nil => cases point
  | cons c rest ih =>
    by_cases space : isSpace c = true
    next =>
      rw [skipSpace, List.dropWhile_cons_of_pos space] at point
      have next := ih tight.tail point
      rw [next] at tight
      have related := tight.rel
      rw [related.2 rfl] at space
      cases space
    next => rwa [skipSpace, List.dropWhile_cons_of_neg space] at point

theorem joinPoints_tight (tight : PointsTight text) : joinPoints text = text := by
  apply Pattern.replace_of_same
  intro before first rest found behind suffix matched
  have chain : PointsTight (first :: rest) := tight.suffix suffix
  unfold spacedPoint at matched
  dsimp only at matched
  split at matched
  next fraction point =>
    have parts := skipSpace_point chain.tail point
    subst parts
    split at matched
    next last left digit =>
      split at matched
      next ends =>
        have stops : fraction.head?.any isSpace = false := by
          cases fraction with
          | nil => rfl
          | cons d fraction => exact chain.tail.rel.1 rfl
        rw [skipSpace, dropWhile_of_head stops] at digit
        subst digit
        obtain ⟨rfl, rfl⟩ := Prod.mk.inj (Option.some.inj matched)
        refine ⟨?_, rfl⟩
        simp only [List.length_cons]
        omega
      next => cases matched
    next => cases matched
  next => cases matched

end Points

end SpokenArithmetic.Phrase
