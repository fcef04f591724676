import SpokenArithmetic.Proofs.Exceptions.Stepwise
import SpokenArithmetic.Proofs.Rewriting.Transparent

set_option autoImplicit false

namespace SpokenArithmetic

open Arithmetic Text Token

namespace Stepwise

section Tokens

variable (text : List Char)

def tokenizeFrom : (rounds : Nat) -> (position : Nat) -> Except Abort (List Token)
  | 0, _ => .ok []
  | rounds + 1, position =>
    if position < text.length then
      let spaces := ((text.drop position).takeWhile isSpace).length
      match lexeme? (skipSpace (text.drop position)) with
      | none =>
        match text[position + spaces]? with
        | some c => reported (.stray ⟨c, position + spaces⟩)
        | none => .error .index
      | some (lexeme, behind) => do
        let others <- tokenizeFrom rounds (text.length - behind.length)
        return ⟨lexeme, position + spaces⟩ :: others
    else .ok []

def tokenize : Except Abort (List Token) :=
  tokenizeFrom (stripEnd text) (stripEnd text).length 0

end Tokens

section Scanning

variable {text : List Char}

theorem scanFrom_spaces {spaces : List Char} (all : forall c, c ∈ spaces -> isSpace c = true) (position : Nat)
    (rest : List Char) : scanFrom position 0 (spaces ++ rest) = scanFrom (position + spaces.length) 0 rest := by
  induction spaces generalizing position with
  | nil => rfl
  | cons c spaces ih =>
    have first := ih (fun c member => all c (List.mem_cons_of_mem _ member)) (position + 1)
    rw [List.cons_append, scanFrom, if_pos (all c (List.mem_cons_self ..)), first, List.length_cons]
    congr 1
    omega

theorem scanFrom_skip (skipped rest : List Char) (position : Nat) :
    scanFrom position skipped.length (skipped ++ rest) = scanFrom (position + skipped.length) 0 rest := by
  induction skipped generalizing position with
  | nil => rfl
  | cons c skipped ih =>
    have first := ih (position + 1)
    rw [List.cons_append, List.length_cons, scanFrom, first]
    congr 1
    omega

theorem decimals_scanFrom {position skip : Nat} {tokens : List Token}
    (scanned : scanFrom position skip text = .ok tokens) : Decimals tokens := by
  induction text generalizing position skip tokens with
  | nil =>
    obtain rfl : [] = tokens := Except.ok.inj (by cases skip <;> exact scanned)
    intro literal position member
    cases member
  | cons c rest ih =>
    cases skip with
    | succ skip => exact ih scanned
    | zero =>
      unfold scanFrom at scanned
      split at scanned
      next => exact ih scanned
      next =>
        split at scanned
        next => cases scanned
        next lexeme behind found =>
          obtain ⟨others, scannedOthers, same⟩ := bind_eq_ok.1 scanned
          obtain rfl := Except.ok.inj same
          intro literal place member
          rcases List.mem_cons.1 member with first | later
          next =>
            obtain ⟨rfl, _⟩ := Token.mk.inj first
            exact Number.unsignedDecimal?_of_fits (lexeme?_eq_some.1 found).2
          next => exact ih scannedOthers literal place later

theorem spaces_cases {rest : List Char} (some : rest ≠ []) (ends : forall front c, rest = front ++ [c] -> isSpace c = false) :
    exists spaces c tail, rest = spaces ++ c :: tail ∧ (forall c, c ∈ spaces -> isSpace c = true) ∧ isSpace c = false := by
  obtain ⟨parts, all, first⟩ := span_iff.1 (And.intro (rfl : rest.takeWhile isSpace = _) (rfl : rest.dropWhile isSpace = _))
  cases tail : rest.dropWhile isSpace with
  | nil =>
    rw [tail, List.append_nil] at parts
    have last := List.dropLast_concat_getLast some
    have space : isSpace (rest.getLast some) = true := all _ (parts ▸ List.getLast_mem some)
    cases space.symm.trans (ends _ _ last.symm)
  | cons c tail' =>
    rw [tail] at parts first
    exact ⟨_, c, tail', parts, all, by simpa using first⟩

theorem tokenizeFrom_eq (ends : forall front c, text = front ++ [c] -> isSpace c = false) {rounds : Nat}
    {rest : List Char} (suffix : rest <:+ text) (enough : rest.length <= rounds) :
    tokenizeFrom text rounds (text.length - rest.length) =
      (scanFrom (text.length - rest.length) 0 rest).mapError fun stray => .report ⟨.stray stray, none⟩ := by
  induction rounds generalizing rest with
  | zero =>
    obtain rfl := List.eq_nil_of_length_eq_zero (Nat.le_zero.1 enough)
    rfl
  | succ rounds ih =>
    obtain ⟨front, rfl⟩ := suffix
    have index : (front ++ rest).length - rest.length = front.length := by simp
    have left : (front ++ rest).drop front.length = rest := List.drop_left
    rw [index, tokenizeFrom, left]
    by_cases done : rest = []
    next =>
      subst done
      rw [if_neg (by simp)]
      rfl
    next =>
      have some : front.length < (front ++ rest).length := by
        rw [List.length_append]
        have present := List.length_pos_iff.2 done
        omega
      obtain ⟨spaces, c, tail, rfl, all, inside⟩ := spaces_cases done fun front' c same =>
        ends (front ++ front') c (by rw [same, List.append_assoc])
      obtain ⟨taken, skipped⟩ := (@span_iff isSpace _ spaces (c :: tail)).2 ⟨rfl, all, by simpa using inside⟩
      rw [if_pos some, taken, skipSpace, skipped, scanFrom_spaces all, scanFrom, if_neg (by simp [inside])]
      cases found : lexeme? (c :: tail) with
      | none => simp [reported, Except.mapError]
      | some pair =>
        obtain ⟨lexeme, behind⟩ := pair
        obtain ⟨same, fits⟩ := lexeme?_eq_some.1 found
        obtain ⟨_, tail', starts, _⟩ := fits.starts
        rw [starts, List.cons_append] at same
        obtain ⟨rfl, rfl⟩ := List.cons.inj same
        have behindSuffix : behind <:+ front ++ (spaces ++ c :: (tail' ++ behind)) :=
          ⟨front ++ (spaces ++ c :: tail'), by simp⟩
        have others := ih behindSuffix (by simp only [List.length_append, List.length_cons] at enough; omega)
        have next : (front ++ (spaces ++ c :: (tail' ++ behind))).length - behind.length =
            front.length + spaces.length + 1 + tail'.length := by
          simp only [List.length_append, List.length_cons]
          omega
        have skip : (tail' ++ behind).length - behind.length = tail'.length := by simp
        dsimp only
        rw [others, next, skip, scanFrom_skip]
        cases scanFrom (front.length + spaces.length + 1 + tail'.length) 0 behind <;> rfl

end Scanning

theorem tokenize_eq (text : List Char) :
    tokenize text = (Token.scan text).mapError fun stray => .report ⟨.stray stray, none⟩ := by
  have ends (front : List Char) (c : Char) (same : stripEnd text = front ++ [c]) : isSpace c = false := by
    have first : text.reverse.dropWhile isBlank = c :: front.reverse := by
      rw [← List.reverse_reverse (text.reverse.dropWhile isBlank)]
      change (stripEnd text).reverse = _
      rw [same, List.reverse_append]
      rfl
    have other : isBlank c = false := by
      have head := (span_iff.1 (And.intro rfl first)).2.2
      simpa using head
    cases space : isSpace c with
    | false => rfl
    | true => cases (isBlank_of_isSpace space).symm.trans other
  have scanned := @tokenizeFrom_eq (stripEnd text) ends (stripEnd text).length _ (List.suffix_refl _) (Nat.le_refl _)
  rwa [Nat.sub_self] at scanned

def naming {A : Type} (text : String) (evaluation : Except Abort A) : Except Abort A :=
  evaluation.mapError fun
    | .report report => .report { report with expression? := some text }
    | other => other

def failed {A : Type} (text : String) (failure : Failure Refusal) : Except Abort A :=
  .error (.report ⟨failure, some text⟩)

def evaluate (library : Elementary) (stack : Nat) (text : String) : Except Abort Float :=
  if (strip text.toList).isEmpty then failed text (.empty .expression)
  else if (strip (callForm text.toList)).isEmpty then failed text (.empty .afterSanitizing)
  else do
    let result <- naming text do
      let tokens <- tokenize (callForm text.toList)
      parse library stack tokens
    if Number.isFinite result then attempted (Attempt.roundAnswer result)
    else failed text (.notFinite result)

section Empty

open CallForm

theorem rewritten_cases (text : List Char) :
    '(' ∈ writeFunctions (writePowers text) ∨ writeFunctions (writePowers text) = text := by
  have powers : '(' ∈ writePowers text ∨ writePowers text = text :=
    Pattern.replaceFrom_marked (fun power => by simp [writePower]) 0 text
  have functions : '(' ∈ writeFunctions (writePowers text) ∨ writeFunctions (writePowers text) = writePowers text :=
    Pattern.replaceFrom_marked (fun function => by simp) 0 (writePowers text)
  rcases functions with marked | same
  next => exact .inl marked
  next =>
    rw [same]
    exact powers

theorem callForm_unmarked {text : List Char} (absent : '^' ∉ text ∧ '(' ∉ text) : callForm text = sanitize text := by
  have powers : writePowers text = text := by
    apply @Pattern.replace_of_needs _ _ _ (· = '^')
    next =>
      rintro before rest ⟨base, exponent⟩ behind matched
      obtain ⟨_, rfl, _⟩ := literalPower_eq_some.1 matched
      exact ⟨'^', by simp, rfl⟩
    next =>
      rintro c member rfl
      exact absent.1 member
  have functions : writeFunctions text = text := by
    apply @Pattern.replace_of_needs _ _ _ (· = '(')
    next =>
      intro before rest function behind matched
      obtain ⟨spaces, _, _, rfl⟩ := functionCall_eq_some matched
      exact ⟨'(', by simp, rfl⟩
    next =>
      rintro c member rfl
      exact absent.2 member
  rw [callForm, powers, functions]

theorem blank_callForm (text : List Char) :
    (forall c, c ∈ callForm text -> isBlank c = true) ↔ forall c, c ∈ sanitize text -> isBlank c = true := by
  have marks : forall c, c ∈ ['(', '^'] -> isAllowed c = true ∧ isBlank c = false := by decide
  constructor
  next =>
    intro blanks
    rcases rewritten_cases text with marked | same
    next =>
      have kept : '(' ∈ callForm text := List.mem_filter.2 ⟨marked, (marks '(' (by simp)).1⟩
      cases (blanks _ kept).symm.trans (marks '(' (by simp)).2
    next =>
      rw [callForm, same] at blanks
      exact blanks
  next =>
    intro blanks
    have absent {c : Char} (mark : c ∈ ['(', '^']) : c ∉ text := by
      intro member
      have kept : c ∈ sanitize text := List.mem_filter.2 ⟨member, (marks c mark).1⟩
      cases (blanks c kept).symm.trans (marks c mark).2
    rw [callForm_unmarked ⟨absent (by simp), absent (by simp)⟩]
    exact blanks

variable {library : Elementary} {text : List Char}

theorem unroundedWith_ne_empty (present : (strip (callForm text)).isEmpty ≠ true) (what : Emptiness) :
    Evaluation.unroundedWith library (callForm text) ≠ .error (.empty what) := by
  intro failed
  unfold Evaluation.unroundedWith at failed
  split at failed
  next => cases failed
  next tokens scanned =>
    obtain ⟨rfl, _⟩ := (Grammar.value_eq_empty_iff _).1 failed
    have lexemes := lexemes?_scan (allowed_callForm text)
    rw [scanned] at lexemes
    exact present ((strip_isEmpty (allowed_callForm text)).2 lexemes.symm)

theorem valueWith_eq_empty :
    (exists what, Evaluation.valueWith library text = .error (.empty what)) ↔
      forall c, c ∈ sanitize text -> isBlank c = true := by
  unfold Evaluation.valueWith
  split
  next blank =>
    have blanks := strip_isEmpty_iff.1 blank
    exact ⟨fun _ c member => blanks c (List.mem_filter.1 member).1, fun _ => ⟨_, rfl⟩⟩
  next =>
    rw [← blank_callForm, ← strip_isEmpty_iff]
    split
    next blank => exact ⟨fun _ => blank, fun _ => ⟨_, rfl⟩⟩
    next present =>
      constructor
      next =>
        rintro ⟨what, failed⟩
        split at failed
        next failure evaluated =>
          obtain rfl := Except.error.inj failed
          exact absurd evaluated (unroundedWith_ne_empty present what)
        next => split at failed <;> cases failed
      next => exact fun blank => absurd blank present

end Empty

section Evaluated

variable {library : Elementary} {stack : Nat}

theorem valueWith_eq_ok {text : List Char} {answer : Float} (evaluated : Evaluation.valueWith library text = .ok answer) :
    Number.isFinite answer = true := by
  unfold Evaluation.valueWith at evaluated
  split at evaluated
  next => cases evaluated
  next =>
    split at evaluated
    next => cases evaluated
    next =>
      split at evaluated
      next => cases evaluated
      next result _ =>
        split at evaluated
        next answer' found =>
          obtain rfl := Except.ok.inj evaluated
          split at found
          next finite =>
            obtain ⟨rounded, _, same, finiteAnswer⟩ := roundAnswer_eq finite
            obtain rfl := Option.some.inj (found.symm.trans same)
            exact finiteAnswer
          next => cases found
        next => cases evaluated

theorem evaluate_eq (roots : FiniteRoots library) (enough : 6 * Parser.maxDepth + 6 <= stack) (text : String) :
    evaluate library stack text =
      (Evaluation.valueWith library text.toList).mapError fun failure => .report ⟨failure, some text⟩ := by
  unfold evaluate Evaluation.valueWith
  split
  next => rfl
  next =>
    split
    next => rfl
    next =>
      rw [tokenize_eq]
      unfold Evaluation.unroundedWith Token.scan
      cases scanned : scanFrom 0 0 (stripEnd (callForm text.toList)) with
      | error stray => rfl
      | ok tokens =>
        simp only [Except.mapError, ok_bind]
        rw [parse_eq roots (decimals_scanFrom scanned) enough]
        cases Token.value (meaning library) tokens with
        | error failure => rfl
        | ok result =>
          simp only [Except.mapError, naming, ok_bind]
          by_cases finite : Number.isFinite result = true
          next =>
            obtain ⟨answer, attempt, rounded, _⟩ := roundAnswer_eq finite
            rw [if_pos finite, if_pos finite, attempt, rounded]
            rfl
          next =>
            rw [if_neg finite, if_neg finite]
            rfl

theorem category_cases (failure : Failure Refusal) : failure.category ∈ [Category.empty, .malformed, .invalid] := by
  cases failure <;> simp [Failure.category]

theorem category_eq_empty {failure : Failure Refusal} : failure.category = .empty ↔ exists what, failure = .empty what := by
  cases failure <;> simp [Failure.category]

/-- An evaluation ends with a finite answer, or it is reported as empty, malformed or invalid, and the report
carries the text. The text is reported as empty exactly when nothing but blanks is left of it. -/
structure Disciplined (text : String) (evaluation : Except Abort Float) : Prop where
  ends : (exists answer, evaluation = .ok answer ∧ Number.isFinite answer = true) ∨
    exists failure, evaluation = .error (.report ⟨failure, some text⟩) ∧
      failure.category ∈ [.empty, .malformed, .invalid]
  empty : (exists failure, evaluation = .error (.report ⟨failure, some text⟩) ∧ failure.category = .empty) ↔
    forall c, c ∈ CallForm.sanitize text.toList -> isBlank c = true

/-- Where cube roots are finite and the stack has frames for the deepest nesting, no step of an evaluation fails
in another way than by a report, and the evaluation has the answer or the failure of the calculator. -/
theorem evaluate_disciplined (library : Elementary) (roots : FiniteRoots library) (stack : Nat)
    (enough : 6 * Parser.maxDepth + 6 <= stack) (text : String) :
    Disciplined text (evaluate library stack text) ∧
      evaluate library stack text =
        (Evaluation.valueWith library text.toList).mapError fun failure => .report ⟨failure, some text⟩ := by
  have same := evaluate_eq roots enough text
  refine ⟨{ ends := ?ends, empty := ?empty }, same⟩
  case ends =>
    cases evaluated : Evaluation.valueWith library text.toList with
    | ok answer =>
      rw [evaluated] at same
      exact .inl ⟨answer, same, valueWith_eq_ok evaluated⟩
    | error failure =>
      rw [evaluated] at same
      exact .inr ⟨failure, same, category_cases failure⟩
  case empty =>
    rw [← @valueWith_eq_empty library text.toList, same]
    cases Evaluation.valueWith library text.toList with
    | ok answer => simp [Except.mapError]
    | error failure => simp [Except.mapError, category_eq_empty]

-- A library with the cube roots of 27 and of the three integers that are their own.
def cubeOf27 : Elementary :=
  { elementary with cbrt := fun x => .ok (if x == 27.0 then 3.0 else x) }

theorem evaluate_disciplined_pole :
    FiniteRoots cubeOf27 ∧ 6 * Parser.maxDepth + 6 <= 1000 ∧
      Disciplined "cbrt(27)/0" (evaluate cubeOf27 1000 "cbrt(27)/0") ∧
      exists failure, evaluate cubeOf27 1000 "cbrt(27)/0" = .error (.report ⟨failure, some "cbrt(27)/0"⟩) ∧
        failure.category = .invalid := by
  have roots : FiniteRoots cubeOf27 := by
    intro x finite
    refine ⟨_, rfl, ?_⟩
    split
    next => decide +kernel
    next => exact finite
  have enough : 6 * Parser.maxDepth + 6 <= 1000 := by decide
  obtain ⟨disciplined, same⟩ := evaluate_disciplined cubeOf27 roots 1000 enough "cbrt(27)/0"
  have pole : CallForm.outcome (Evaluation.valueWith cubeOf27 "cbrt(27)/0".toList) = .error .invalid := by
    decide +kernel
  cases failed : Evaluation.valueWith cubeOf27 "cbrt(27)/0".toList with
  | ok answer =>
    rw [failed] at pole
    cases pole
  | error failure =>
    rw [failed] at pole same
    exact ⟨roots, enough, disciplined, failure, same, Except.error.inj pole⟩

end Evaluated

end Stepwise

end SpokenArithmetic
