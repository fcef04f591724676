import SpokenArithmetic.Proofs.Lexing.Lexemes
import SpokenArithmetic.Proofs.Lexing.Replacing
import SpokenArithmetic.Proofs.Results
import SpokenArithmetic.Settings.Document

set_option autoImplicit false

namespace SpokenArithmetic.Settings

open Text

def Unmarked (value : String) : Prop :=
  '%' ∉ value.toList

instance (value : String) : Decidable (Unmarked value) :=
  inferInstanceAs (Decidable ('%' ∉ value.toList))

namespace Reference

variable {value? : String -> Option String} {text filled : List Char} {levels : Nat}

/-- What a text stands for, when references may lead down so many levels. -/
inductive Reads (value? : String -> Option String) : (levels : Nat) -> List Char -> List Char -> Prop
  | nil {levels : Nat} : Reads value? levels [] []
  | char {levels : Nat} {c : Char} {rest filled : List Char} (plain : c ≠ '%')
    (others : Reads value? levels rest filled) : Reads value? levels (c :: rest) (c :: filled)
  | percent {levels : Nat} {rest filled : List Char} (others : Reads value? (levels + 1) rest filled) :
    Reads value? (levels + 1) ('%' :: '%' :: rest) ('%' :: filled)
  | reference {levels : Nat} {key rest inner filled : List Char} {value : String} (named : key ≠ [])
    (closed : ')' ∉ key) (held : value? (String.ofList (lower key)) = some value)
    (within : Reads value? levels value.toList inner) (others : Reads value? (levels + 1) rest filled) :
    Reads value? (levels + 1) ('%' :: '(' :: (key ++ ')' :: 's' :: rest)) (inner ++ filled)

theorem pattern_eq_some {before : Option Char} {key rest : List Char} :
    pattern before text = some (key, rest) ↔
      key ≠ [] ∧ ')' ∉ key ∧ text = '%' :: '(' :: (key ++ ')' :: 's' :: rest) := by
  constructor
  next =>
    intro found
    obtain ⟨behind, opened, found⟩ := Option.bind_eq_some_iff.1 found
    obtain ⟨others, closes, found⟩ := Option.bind_eq_some_iff.1 found
    obtain ⟨parts, inside, _⟩ :=
      span_iff.1 (And.intro (rfl : behind.takeWhile (· != ')') = _) (after?_eq_some.1 closes))
    by_cases empty : (behind.takeWhile (· != ')')).isEmpty = true
    next =>
      rw [if_pos empty] at found
      cases found
    next =>
      rw [if_neg empty] at found
      obtain ⟨rfl, rfl⟩ := Prod.mk.inj (Option.some.inj found)
      refine ⟨by simpa using empty, fun closed => by simpa using inside _ closed, ?_⟩
      rw [after?_eq_some.1 opened]
      exact congrArg (fun rest => '%' :: '(' :: rest) parts
  next =>
    rintro ⟨named, closed, rfl⟩
    have inside : forall c, c ∈ key -> (c != ')') = true := fun c member => by
      simpa using fun same : c = ')' => closed (same ▸ member)
    obtain ⟨taken, left⟩ := span_iff.2 (And.intro (rfl : key ++ ')' :: 's' :: rest = _) ⟨inside, rfl⟩)
    have nonempty : key.isEmpty = false := by simpa using named
    unfold pattern
    simp only [after?, if_true, Option.bind_eq_bind, Option.bind_some, taken, left, nonempty]
    rfl

section Shapes

theorem reads_nil : Reads value? levels [] filled ↔ filled = [] := by
  constructor
  next =>
    rintro ⟨⟩
    rfl
  next =>
    rintro rfl
    exact .nil

theorem reads_char {c : Char} {rest : List Char} (plain : c ≠ '%') :
    Reads value? levels (c :: rest) filled ↔ exists others, Reads value? levels rest others ∧ c :: others = filled := by
  constructor
  next =>
    intro reads
    cases reads with
    | char _ others => exact ⟨_, others, rfl⟩
    | percent => exact absurd rfl plain
    | reference => exact absurd rfl plain
  next =>
    rintro ⟨others, reads, rfl⟩
    exact .char plain reads

theorem reads_percent {rest : List Char} :
    Reads value? (levels + 1) ('%' :: '%' :: rest) filled ↔
      exists others, Reads value? (levels + 1) rest others ∧ '%' :: others = filled := by
  constructor
  next =>
    intro reads
    cases reads with
    | char plain => exact absurd rfl plain
    | percent others => exact ⟨_, others, rfl⟩
  next =>
    rintro ⟨others, reads, rfl⟩
    exact .percent reads

theorem reads_reference {key rest : List Char} (named : key ≠ []) (closed : ')' ∉ key) :
    Reads value? (levels + 1) ('%' :: '(' :: (key ++ ')' :: 's' :: rest)) filled ↔
      exists value inner others, value? (String.ofList (lower key)) = some value ∧
        Reads value? levels value.toList inner ∧ Reads value? (levels + 1) rest others ∧ inner ++ others = filled := by
  constructor
  next =>
    intro reads
    generalize same : '%' :: '(' :: (key ++ ')' :: 's' :: rest) = text at reads
    have matched : pattern none text = some (key, rest) := pattern_eq_some.2 ⟨named, closed, same.symm⟩
    cases reads with
    | nil => cases same
    | char plain => exact absurd (List.cons.inj same).1.symm plain
    | percent => cases same
    | @reference _ again behind inner others value namedAgain closedAgain held within reads =>
      rw [pattern_eq_some.2 ⟨namedAgain, closedAgain, rfl⟩] at matched
      obtain ⟨rfl, rfl⟩ := Prod.mk.inj (Option.some.inj matched)
      exact ⟨value, inner, others, held, within, reads, rfl⟩
  next =>
    rintro ⟨value, inner, others, held, within, reads, rfl⟩
    exact .reference named closed held within reads

theorem not_reads_stray {rest : List Char} (single : rest.head? ≠ some '%')
    (unmatched : pattern none ('%' :: rest) = none) : ¬Reads value? levels ('%' :: rest) filled := by
  intro reads
  generalize same : '%' :: rest = text at reads
  cases reads with
  | nil => cases same
  | char plain => exact plain (List.cons.inj same).1.symm
  | percent =>
    obtain ⟨_, rfl⟩ := List.cons.inj same
    exact single rfl
  | reference named closed =>
    rw [same, pattern_eq_some.2 ⟨named, closed, rfl⟩] at unmatched
    cases unmatched

theorem not_reads_zero (marked : '%' ∈ text) : ¬Reads value? 0 text filled := by
  intro reads
  generalize none : 0 = levels at reads
  induction reads with
  | nil => cases marked
  | char plain _ ih => exact ih ((List.mem_cons.1 marked).resolve_left plain.symm) none
  | percent => cases none
  | reference => cases none

end Shapes

theorem reads_unmarked (unmarked : '%' ∉ text) : Reads value? levels text filled ↔ filled = text := by
  induction text generalizing filled with
  | nil => exact reads_nil
  | cons c rest ih =>
    have plain : c ≠ '%' := fun same => unmarked (same ▸ List.mem_cons_self)
    have others (others : List Char) : Reads value? levels rest others ↔ others = rest :=
      ih fun member => unmarked (List.mem_cons_of_mem c member)
    rw [reads_char plain]
    simp only [others, exists_eq_left]
    exact eq_comm

section Filling

variable {malformed : List Char -> LookupFault} {unknown : String -> LookupFault}
  {expand : List Char -> Except LookupFault (List Char)} {rounds : Nat}

theorem pattern_unopened {rest : List Char} (unopened : forall behind, rest ≠ '(' :: behind) :
    pattern none ('%' :: rest) = none := by
  refine Option.eq_none_iff_forall_ne_some.2 fun pair found => ?_
  obtain ⟨_, _, same⟩ := pattern_eq_some.1 found
  exact unopened _ (List.cons.inj same).2

theorem fillFrom_reference
    (expands : forall value inner, '%' ∈ value -> (expand value = .ok inner ↔ Reads value? levels value inner))
    {key rest : List Char} (named : key ≠ []) (closed : ')' ∉ key)
    (fills : forall others,
      fillFrom malformed unknown value? expand rounds rest = .ok others ↔ Reads value? (levels + 1) rest others) :
    fillFrom malformed unknown value? expand (rounds + 1) ('%' :: '(' :: (key ++ ')' :: 's' :: rest)) = .ok filled ↔
      Reads value? (levels + 1) ('%' :: '(' :: (key ++ ')' :: 's' :: rest)) filled := by
  have matched : pattern none ('%' :: '(' :: (key ++ ')' :: 's' :: rest)) = some (key, rest) :=
    pattern_eq_some.2 ⟨named, closed, rfl⟩
  rw [reads_reference named closed, fillFrom, matched]
  dsimp only
  cases held : value? (String.ofList (lower key)) with
  | none => simp
  | some value =>
    have joined {start : Except LookupFault (List Char)}
        (starts : forall inner, start = .ok inner ↔ Reads value? levels value.toList inner) :
        (do
          let inner <- start
          (inner ++ ·) <$> fillFrom malformed unknown value? expand rounds rest) = .ok filled ↔
          exists again inner others, some value = some again ∧ Reads value? levels again.toList inner ∧
            Reads value? (levels + 1) rest others ∧ inner ++ others = filled := by
      simp only [bind_eq_ok, map_eq_ok, starts, fills, Option.some.injEq, exists_eq_left', exists_and_left]
    by_cases marked : '%' ∈ value.toList
    next =>
      simp only [List.contains_iff_mem.2 marked, if_true]
      exact joined fun inner => expands _ _ marked
    next =>
      simp only [mt List.contains_iff_mem.1 marked, Bool.false_eq_true, if_false]
      refine joined fun inner => ?_
      rw [reads_unmarked marked, Except.ok.injEq, eq_comm]

theorem fillFrom_iff
    (expands : forall value inner, '%' ∈ value -> (expand value = .ok inner ↔ Reads value? levels value inner))
    (enough : text.length ≤ rounds) :
    fillFrom malformed unknown value? expand rounds text = .ok filled ↔ Reads value? (levels + 1) text filled := by
  -- Every round takes a character at least, so the rounds carry the induction.
  induction rounds generalizing text filled with
  | zero =>
    have empty : text = [] := List.length_eq_zero_iff.1 (Nat.le_zero.1 enough)
    rw [empty, reads_nil, fillFrom, Except.ok.injEq, eq_comm]
  | succ rounds ih =>
    unfold fillFrom
    split
    next => rw [reads_nil, Except.ok.injEq, eq_comm]
    next rest =>
      have shorter : rest.length ≤ rounds := by
        simp only [List.length_cons] at enough
        omega
      simp only [reads_percent, map_eq_ok, ih shorter]
    next behind =>
      cases matched : pattern none ('%' :: '(' :: behind) with
      | none => exact iff_of_false nofun (not_reads_stray (by simp) matched)
      | some pair =>
        obtain ⟨key, rest⟩ := pair
        obtain ⟨named, closed, same⟩ := pattern_eq_some.1 matched
        have shorter : rest.length ≤ rounds := by
          have lengths := congrArg List.length same
          simp only [List.length_cons, List.length_append] at enough lengths
          omega
        have reference := @fillFrom_reference _ filled _ malformed unknown _ _ expands _ _ named closed
          fun others => @ih rest others shorter
        rw [← same, fillFrom, matched] at reference
        exact reference
    next rest single opened =>
      refine iff_of_false nofun (not_reads_stray (fun again => ?_) (pattern_unopened opened))
      obtain ⟨tail, same⟩ := List.head?_eq_some_iff.1 again
      exact single tail same
    next c rest _ _ plain =>
      rw [reads_char plain, map_eq_ok]
      simp only [ih (Nat.le_of_succ_le_succ enough)]

theorem fill_iff {tooDeep : LookupFault} {unknown : String -> LookupFault} :
    fill tooDeep unknown value? (levels + 1) text = .ok filled ↔ Reads value? (levels + 1) text filled := by
  induction levels generalizing text filled with
  | zero =>
    refine fillFrom_iff (fun value inner marked => ?_) (Nat.le_refl _)
    exact iff_of_false (by simp [fill]) (not_reads_zero marked)
  | succ levels ih => exact fillFrom_iff (fun _ _ _ => ih) (Nat.le_refl _)

end Filling

section Refusing

theorem replace_unmarked (unmarked : '%' ∉ text) : pattern.replace (fun _ => []) text = text := by
  have absent : forall c, c ∈ text -> ¬(· = '%') c := fun c member same => unmarked (same ▸ member)
  refine Pattern.replace_of_needs (fun before rest found behind matched => ?_) absent
  obtain ⟨_, _, same⟩ := pattern_eq_some.1 matched
  exact ⟨'%', same ▸ List.mem_cons_self, rfl⟩

theorem strayPercent?_unmarked (unmarked : '%' ∉ text) : strayPercent? text = none := by
  have absent : forall c, c ∈ text -> ¬(· = '%') c := fun c member same => unmarked (same ▸ member)
  have single : (literally ['%', '%']).replace (fun _ => []) text = text := by
    refine Pattern.replace_of_needs (fun before rest found behind matched => ?_) absent
    obtain ⟨left, after, _⟩ := Option.map_eq_some_iff.1 matched
    exact ⟨'%', by rw [after?_eq_some.1 after]; exact List.mem_cons_self, rfl⟩
  unfold strayPercent?
  simp only [single, replace_unmarked unmarked]
  exact if_neg (by simpa using unmarked)

def escape (text : List Char) : List Char :=
  text.flatMap fun c => if c = '%' then ['%', '%'] else [c]

theorem escape_percent (rest : List Char) : escape ('%' :: rest) = '%' :: '%' :: escape rest :=
  rfl

theorem escape_cons {c : Char} (plain : c ≠ '%') (rest : List Char) : escape (c :: rest) = c :: escape rest := by
  rw [escape, List.flatMap_cons, if_neg plain]
  rfl

theorem reads_escape (text : List Char) : Reads value? (levels + 1) (escape text) text := by
  induction text with
  | nil => exact .nil
  | cons c rest ih =>
    by_cases percent : c = '%'
    next =>
      rw [percent, escape_percent]
      exact .percent ih
    next =>
      rw [escape_cons percent]
      exact .char percent ih

theorem replace_pairs_escape (before : Option Char) (text : List Char) :
    Pattern.replaceFrom (literally ['%', '%']) (fun _ => []) before 0 (escape text) = text.filter (· ≠ '%') := by
  induction text generalizing before with
  | nil => rfl
  | cons c rest ih =>
    by_cases percent : c = '%'
    next =>
      subst percent
      have matched : literally ['%', '%'] before (['%', '%'] ++ escape rest) = some ((), escape rest) := by
        rw [literally, after?_eq_some.2 rfl]
        rfl
      have replaced : Pattern.replaceFrom (literally ['%', '%']) (fun _ => []) before 0
          (['%', '%'] ++ escape rest) = _ := Pattern.replaceFrom_matched (by simp) matched
      exact replaced.trans (ih _)
    next =>
      have unmatched : literally ['%', '%'] before (c :: escape rest) = none := by
        rw [literally, Option.map_eq_none_iff, after?, if_neg (Ne.symm percent)]
      rw [escape_cons percent, Pattern.replaceFrom, unmatched, List.filter_cons_of_pos (by simpa using percent)]
      exact congrArg (c :: ·) (ih _)

theorem strayPercent?_escape (text : List Char) : strayPercent? (escape text) = none := by
  have unmarked : '%' ∉ text.filter (· ≠ '%') := by simp
  unfold strayPercent? Pattern.replace
  rw [replace_pairs_escape]
  dsimp only
  rw [← Pattern.replace, replace_unmarked unmarked]
  exact if_neg (by simp)

def escaped (text : String) : String :=
  String.ofList (escape text.toList)

end Refusing

end Reference

end SpokenArithmetic.Settings
