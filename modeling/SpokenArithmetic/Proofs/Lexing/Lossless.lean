import SpokenArithmetic.Calculation.Failure
import SpokenArithmetic.Proofs.Lexing.Longest

set_option autoImplicit false

namespace SpokenArithmetic

open Text

namespace Token

/-- The tokens stand one behind the other in a text that starts at a position: each is the next lexeme
behind white space, and what is left follows the last one. -/
inductive Covers : (position : Nat) -> (text : List Char) -> List Token -> (left : List Char) -> Prop where
  | nil {position : Nat} {left : List Char} : Covers position left [] left
  | cons {position : Nat} {spaces rest left : List Char} {lexeme : Lexeme} {tokens : List Token}
    (space : forall c, c ∈ spaces -> isSpace c = true) (next : Next lexeme (lexeme.text ++ rest))
    (others : Covers (position + spaces.length + lexeme.text.length) rest tokens left) :
    Covers position (spaces ++ (lexeme.text ++ rest)) (⟨lexeme, position + spaces.length⟩ :: tokens) left

/-- What scanning a text that starts at a position comes to: all its tokens, or the first character
behind white space with which none starts. -/
inductive Scans (position : Nat) (text : List Char) : Except Stray (List Token) -> Prop where
  | tokens {tokens : List Token} {spaces : List Char} (covers : Covers position text tokens spaces)
    (space : forall c, c ∈ spaces -> isSpace c = true) : Scans position text (.ok tokens)
  | stray {tokens : List Token} {spaces rest : List Char} {stray : Stray}
    (covers : Covers position text tokens (spaces ++ stray.char :: rest))
    (space : forall c, c ∈ spaces -> isSpace c = true) (inside : isSpace stray.char = false)
    (startless : Startless (stray.char :: rest))
    (place : position + text.length = stray.position + (stray.char :: rest).length) :
    Scans position text (.error stray)

section Scanning

variable {position : Nat} {text rest left : List Char} {lexeme : Lexeme} {tokens : List Token}

theorem Next.fits (next : Next lexeme (lexeme.text ++ rest)) : Fits lexeme rest :=
  (lexeme?_eq_some.1 (lexeme?_eq_some_iff.2 ⟨rfl, next⟩)).2

theorem scanFrom_skip (position : Nat) (skipped rest : List Char) :
    scanFrom position skipped.length (skipped ++ rest) = scanFrom (position + skipped.length) 0 rest := by
  induction skipped generalizing position with
  | nil => rfl
  | cons c skipped ih =>
    rw [List.length_cons, List.cons_append, scanFrom, ih, Nat.add_right_comm, Nat.add_assoc]

theorem scanFrom_spaces (position : Nat) {spaces : List Char} (space : forall c, c ∈ spaces -> isSpace c = true)
    (rest : List Char) : scanFrom position 0 (spaces ++ rest) = scanFrom (position + spaces.length) 0 rest := by
  induction spaces generalizing position with
  | nil => rfl
  | cons c spaces ih =>
    rw [List.cons_append, scanFrom, if_pos (space c (by simp)),
      ih _ fun d member => space d (List.mem_cons_of_mem c member), List.length_cons, Nat.add_right_comm,
      Nat.add_assoc]

theorem scanFrom_lexeme (position : Nat) (fits : Fits lexeme rest) :
    scanFrom position 0 (lexeme.text ++ rest) = (do
      let tokens <- scanFrom (position + lexeme.text.length) 0 rest
      return ⟨lexeme, position⟩ :: tokens) := by
  have found := lexeme?_eq_some.2 ⟨rfl, fits⟩
  obtain ⟨c, tail, same, inside⟩ := fits.starts
  rw [same, List.cons_append] at found ⊢
  have skipped : (tail ++ rest).length - rest.length = tail.length := by simp
  rw [scanFrom]
  simp only [inside, Bool.false_eq_true, if_false, found, skipped, scanFrom_skip, List.length_cons,
    Nat.add_assoc, Nat.add_comm 1]

theorem Scans.cons {spaces : List Char} {scanned : Except Stray (List Token)}
    (space : forall c, c ∈ spaces -> isSpace c = true) (next : Next lexeme (lexeme.text ++ rest))
    (scans : Scans (position + spaces.length + lexeme.text.length) rest scanned) :
    Scans position (spaces ++ (lexeme.text ++ rest)) (do
      let tokens <- scanned
      return ⟨lexeme, position + spaces.length⟩ :: tokens) := by
  cases scans with
  | tokens covers blank => exact .tokens (.cons space next covers) blank
  | stray covers blank inside startless place =>
    refine .stray (.cons space next covers) blank inside startless ?_
    simp only [List.length_append]
    omega

theorem scans_scanFrom (position : Nat) (text : List Char) : Scans position text (scanFrom position 0 text) := by
  generalize size : text.length = length
  -- Each lexeme has a character, so that less of the text is left behind it.
  induction length using Nat.strongRecOn generalizing position text with
  | ind length ih =>
    subst size
    obtain ⟨parts, space, stops⟩ := (@span_iff isSpace text _ _).1 ⟨rfl, rfl⟩
    generalize text.takeWhile isSpace = spaces at parts space
    generalize text.dropWhile isSpace = rest at parts stops
    subst parts
    rw [scanFrom_spaces position space]
    rcases starts_cases rest with rfl | ⟨c, rest, rfl, another⟩ | ⟨c, rest, rfl, inside, stray⟩ |
      ⟨lexeme, rest, rfl, fits⟩
    next =>
      rw [List.append_nil]
      exact .tokens .nil space
    next =>
      have other : isSpace c = false := stops
      rw [other] at another
      cases another
    next =>
      have found : scanFrom (position + spaces.length) 0 (c :: rest) = .error ⟨c, position + spaces.length⟩ := by
        rw [scanFrom]
        simp [inside, stray]
      rw [found]
      refine .stray .nil space inside (lexeme?_eq_none_iff.1 stray) ?_
      simp only [List.length_append]
      omega
    next =>
      rw [scanFrom_lexeme _ fits]
      have shorter : rest.length < (spaces ++ (lexeme.text ++ rest)).length := by
        have less := fits.shorter
        rw [List.length_append]
        omega
      exact .cons space fits.next (ih rest.length shorter _ rest rfl)

theorem Covers.append {tail : List Char} (covers : Covers position text tokens left) (bars : Bars tail) :
    Covers position (text ++ tail) tokens (left ++ tail) := by
  induction covers with
  | nil => exact .nil
  | @cons position spaces rest left lexeme tokens space next _ ih =>
    rw [List.append_assoc, List.append_assoc]
    exact .cons space (next.fits.weaken (bars.weaker rest)).next ih

theorem bars_blank {blanks : List Char} (all : forall c, c ∈ blanks -> isBlank c = true) : Bars blanks := by
  cases blanks with
  | nil => exact ⟨rfl, rfl, by simp⟩
  | cons c blanks =>
    rcases blank_cases (all c (by simp)) with space | separator
    next =>
      have bars := @bars_space [c] (by simpa using space)
      exact ⟨bars.namePart, bars.digit, bars.symbol⟩
    next =>
      have others : forall c, c ∈ separators -> isNamePart c = false ∧ isDigit c = false ∧ c ∉ ['.', '+', '-'] := by
        decide
      obtain ⟨noPart, noDigit, noSymbol⟩ := others c separator
      refine ⟨noPart, noDigit, fun d same => ?_⟩
      obtain rfl := Option.some.inj same
      exact noSymbol

end Scanning

section Places

variable {position : Nat} {text left : List Char} {tokens : List Token}

theorem Next.present {lexeme : Lexeme} {rest : List Char} (next : Next lexeme (lexeme.text ++ rest)) :
    0 < lexeme.text.length := by
  obtain ⟨c, tail, same, _⟩ := next.fits.starts
  simp [same]

theorem Covers.placed (covers : Covers position text tokens left) :
    forall token, token ∈ tokens -> position <= token.position ∧
      Next token.lexeme (text.drop (token.position - position)) := by
  induction covers with
  | nil => simp
  | @cons position spaces rest left lexeme tokens space next _ ih =>
    intro token member
    rcases List.mem_cons.1 member with rfl | member
    next =>
      refine ⟨Nat.le_add_right _ _, ?_⟩
      rw [Nat.add_sub_cancel_left, List.drop_left]
      exact next
    next =>
      obtain ⟨behind, placed⟩ := ih token member
      refine ⟨by omega, ?_⟩
      have skipped : token.position - position =
          (spaces ++ lexeme.text).length + (token.position - (position + spaces.length + lexeme.text.length)) := by
        rw [List.length_append]
        omega
      rw [skipped, ← List.append_assoc, List.drop_length_add_append]
      exact placed

theorem Covers.increasing (covers : Covers position text tokens left) :
    tokens.Pairwise fun first second => first.position < second.position := by
  induction covers with
  | nil => exact .nil
  | cons _ next others ih =>
    refine .cons (fun token member => ?_) ih
    have behind := (others.placed token member).1
    have present := next.present
    dsimp only
    omega

theorem Covers.suffix (covers : Covers position text tokens left) : left <:+ text := by
  induction covers with
  | nil => exact List.suffix_refl _
  | cons _ _ _ ih => exact ih.trans ((List.suffix_append _ _).trans (List.suffix_append _ _))

theorem Covers.longest {spaces behind others : List Char} {fewer : List Token}
    (covers : Covers position text tokens (spaces ++ behind)) (space : forall c, c ∈ spaces -> isSpace c = true)
    (stops : behind.head?.any isSpace = false) (startless : Startless behind)
    (other : Covers position text fewer others) : fewer <+: tokens := by
  induction other generalizing tokens with
  | nil => exact List.nil_prefix
  | @cons position gap rest others lexeme fewer isGap next _ ih =>
    have starts : (lexeme.text ++ rest).head?.any isSpace = false := by
      obtain ⟨c, tail, same, inside⟩ := next.fits.starts
      rw [same]
      exact inside
    generalize whole : gap ++ (lexeme.text ++ rest) = text at covers
    cases covers with
    | nil =>
      obtain ⟨_, rfl⟩ := span_unique whole isGap space starts stops
      exact absurd next.starts (startless lexeme next.spelled)
    | @cons _ front tail _ found tokens isFront found_next rest_covers =>
      have foundStarts : (found.text ++ tail).head?.any isSpace = false := by
        obtain ⟨c, more, same, inside⟩ := found_next.fits.starts
        rw [same]
        exact inside
      obtain ⟨rfl, same⟩ := span_unique whole isGap isFront starts foundStarts
      obtain rfl : lexeme = found := next.unique (same ▸ found_next)
      obtain rfl := List.append_cancel_left same
      exact List.cons_prefix_cons.2 ⟨rfl, ih rest_covers⟩

end Places

section Joining

def joined (lexemes : List Lexeme) : List Char :=
  [' '].intercalate (lexemes.map Lexeme.text)

theorem digit_not_blank {c : Char} (digit : isDigit c = true) : isBlank c = false := by
  cases blank : isBlank c with
  | false => rfl
  | true =>
    have noDigit := (@bars_blank [c] (by simpa using blank)).digit
    exact absurd digit (by simpa using noDigit)

theorem namePart_not_blank {c : Char} (part : isNamePart c = true) : isBlank c = false := by
  cases blank : isBlank c with
  | false => rfl
  | true =>
    have noPart := (@bars_blank [c] (by simpa using blank)).namePart
    exact absurd part (by simpa using noPart)

variable {lexeme : Lexeme} {lexemes : List Lexeme}

theorem Spelled.solid (spelled : Spelled lexeme) : forall c, c ∈ lexeme.text -> isBlank c = false := by
  intro c member
  have point : isBlank '.' = false := by decide
  cases lexeme with
  | numeral number =>
    obtain ⟨pointed, mantissa, power, rfl, isMantissa, isPower⟩ := spelled
    rcases List.mem_append.1 member with inside | inside
    next =>
      rcases isMantissa.chars c inside with digit | rfl
      next => exact digit_not_blank digit
      next => exact point
    next =>
      rcases isPower with rfl | isPower
      next => cases inside
      next =>
        have marks : forall c, c ∈ ['e', 'E', '+', '-'] -> isBlank c = false := by decide
        have others : forall c, c ∈ ['e', 'E'] -> c ∈ ['e', 'E', '+', '-'] := by decide
        have signs : forall c, c ∈ ['+', '-'] -> c ∈ ['e', 'E', '+', '-'] := by decide
        cases isPower with
        | unsigned isMark isDigits =>
          rcases List.mem_cons.1 inside with rfl | digit
          next => exact marks c (others c isMark)
          next => exact digit_not_blank (isDigits.2 c digit)
        | signed isMark isSign isDigits =>
          rcases List.mem_cons.1 inside with rfl | inside
          next => exact marks c (others c isMark)
          rcases List.mem_cons.1 inside with rfl | digit
          next => exact marks c (signs c isSign)
          next => exact digit_not_blank (isDigits.2 c digit)
  | name name =>
    obtain ⟨start, part, rfl, starts, all⟩ := spelled
    rcases List.mem_cons.1 member with rfl | inside
    next => exact namePart_not_blank (namePart_of_nameStart starts)
    next => exact namePart_not_blank (all c inside)
  | mark mark =>
    obtain rfl := List.mem_singleton.1 member
    cases mark with
    | operator operator => cases operator <;> decide
    | _ => decide

theorem Spelled.fits (spelled : Spelled lexeme) {rest : List Char} (ends : rest = [] ∨ exists tail, rest = ' ' :: tail) :
    Fits lexeme rest := by
  have noDigit : rest.head?.any isDigit = false := by
    rcases ends with rfl | ⟨tail, rfl⟩
    next => rfl
    next => exact (by decide : isDigit ' ' = false)
  cases lexeme with
  | numeral number =>
    obtain ⟨pointed, mantissa, power, rfl, isMantissa, isPower⟩ := spelled
    rcases isPower with rfl | isPower
    next =>
      rw [List.append_nil]
      refine .plain isMantissa ?_ ?_
      next =>
        rintro (digit | ⟨_, point⟩)
        next => exact absurd digit (by simp [noDigit])
        next => rcases ends with rfl | ⟨tail, rfl⟩ <;> cases point
      next => rcases ends with rfl | ⟨tail, rfl⟩ <;> rfl
    next => exact .scaled isMantissa isPower noDigit
  | name name =>
    obtain ⟨start, part, rfl, starts, all⟩ := spelled
    refine .name starts all ?_
    rcases ends with rfl | ⟨tail, rfl⟩
    next => rfl
    next => exact (by decide : isNamePart ' ' = false)
  | mark mark => exact .mark

theorem lexes_joined (spelled : forall lexeme, lexeme ∈ lexemes -> Spelled lexeme) :
    lexes (joined lexemes) = some lexemes := by
  induction lexemes with
  | nil => rfl
  | cons lexeme rest ih =>
    have first := spelled lexeme (by simp)
    have others := ih fun other member => spelled other (List.mem_cons_of_mem lexeme member)
    cases rest with
    | nil =>
      have alone := lexes_lexeme (first.fits (.inl rfl))
      simpa [joined] using alone
    | cons second rest =>
      have parts : joined (lexeme :: second :: rest) = lexeme.text ++ ' ' :: joined (second :: rest) := by
        simp [joined, List.intercalate_cons_cons]
      rw [parts, lexes_lexeme (first.fits (.inr ⟨_, rfl⟩)), lexes_space (by decide), others]
      rfl

theorem stripEnd_joined (spelled : forall lexeme, lexeme ∈ lexemes -> Spelled lexeme) :
    stripEnd (joined lexemes) = joined lexemes := by
  have last : (joined lexemes).reverse.head?.any isBlank = false := by
    induction lexemes with
    | nil => rfl
    | cons lexeme rest ih =>
      have first := spelled lexeme (by simp)
      have others := ih fun other member => spelled other (List.mem_cons_of_mem lexeme member)
      obtain ⟨c, tail, same, _⟩ := (first.fits (.inl rfl)).starts
      cases rest with
      | nil =>
        have solid := first.solid (lexeme.text.getLast (by simp [same])) (List.getLast_mem _)
        have alone : joined [lexeme] = lexeme.text := by simp [joined]
        rw [alone, List.head?_reverse, List.getLast?_eq_some_getLast (by simp [same])]
        exact solid
      | cons second rest =>
        obtain ⟨d, more, starts, _⟩ := ((spelled second (by simp)).fits (.inl rfl)).starts
        have present : joined (second :: rest) ≠ [] := by
          cases rest <;> simp [joined, starts, List.intercalate_cons_cons]
        have parts : joined (lexeme :: second :: rest) = lexeme.text ++ ' ' :: joined (second :: rest) := by
          simp [joined, List.intercalate_cons_cons]
        rw [List.head?_reverse] at others ⊢
        rw [parts, List.getLast?_append, List.getLast?_cons_of_ne_nil present]
        simpa [List.getLast?_eq_some_getLast present] using others
  rw [stripEnd, dropWhile_of_head last, List.reverse_reverse]

theorem scan_joined (spelled : forall lexeme, lexeme ∈ lexemes -> Spelled lexeme) :
    lexemes? (scan (joined lexemes)) = some lexemes := by
  rw [scan, stripEnd_joined spelled]
  exact lexes_joined spelled

end Joining

theorem stray_allowed {c : Char} {rest : List Char} (allowed : CallForm.isAllowed c = true)
    (inside : isSpace c = false) (startless : Startless (c :: rest)) :
    c = '.' ∧ rest.head?.any isDigit = false := by
  obtain ⟨noDigit, noFraction, noName, noMark⟩ := lexeme?_eq_none.1 (lexeme?_eq_none_iff.2 startless)
  have others : forall c, c ∈ CallForm.alphabet -> isSpace c = false -> isDigit c = false ->
      isNameStart c = false -> Mark.ofChar? c = none -> c = '.' := by decide +kernel
  have point := others c (CallForm.mem_alphabet allowed) inside noDigit noName noMark
  exact ⟨point, noFraction point⟩

/-- Scanning a text gives the tokens that cover it: each is the longest number, else name, else symbol
at its position, white space stands between them and blanks stand behind them, and joined by single
spaces the same lexemes are scanned. Else the text is malformed at the first character behind the
longest such sequence of tokens that is no white space: no token starts there, and if the text is a
sanitized one the character is a point that no digit follows. -/
theorem scan_lossless (text : List Char) :
    match scan text with
    | .ok tokens =>
      (exists left, Covers 0 text tokens left ∧ forall c, c ∈ left -> isBlank c = true) ∧
        tokens.Pairwise (fun first second => first.position < second.position) ∧
        (forall token, token ∈ tokens -> Next token.lexeme (text.drop token.position)) ∧
        lexemes? (scan (joined (tokens.map lexeme))) = some (tokens.map lexeme)
    | .error stray =>
      (Failure.stray stray : Failure Arithmetic.Refusal).category = .malformed ∧
        (Failure.stray stray : Failure Arithmetic.Refusal).position? = some stray.position ∧
        exists tokens spaces rest, Covers 0 text tokens (spaces ++ stray.char :: rest) ∧
          (forall fewer left, Covers 0 text fewer left -> fewer <+: tokens) ∧
          (forall c, c ∈ spaces -> isSpace c = true) ∧ isSpace stray.char = false ∧
          Startless (stray.char :: rest) ∧ text.drop stray.position = stray.char :: rest ∧
          forall raw, text = CallForm.sanitize raw -> stray.char = '.' ∧ rest.head?.any isDigit = false := by
  obtain ⟨blanks, parts, blank⟩ := stripEnd_parts text
  have bars := bars_blank blank
  have scans := scans_scanFrom 0 (stripEnd text)
  rw [scan]
  generalize scanFrom 0 0 (stripEnd text) = scanned at scans
  cases scans with
  | @tokens tokens spaces covers space =>
    have whole := covers.append bars
    rw [← parts] at whole
    have placed := fun token member => (whole.placed token member).2
    refine ⟨⟨spaces ++ blanks, whole, ?_⟩, whole.increasing, placed, ?_⟩
    next =>
      intro c member
      rcases List.mem_append.1 member with inside | behind
      next => exact isBlank_of_isSpace (space c inside)
      next => exact blank c behind
    next =>
      apply scan_joined
      intro lexeme member
      obtain ⟨token, inTokens, rfl⟩ := List.mem_map.1 member
      exact (placed token inTokens).spelled
  | @stray tokens spaces rest stray covers space inside startless place =>
    have whole := covers.append bars
    rw [← parts, List.append_assoc, List.cons_append] at whole
    have startless : Startless (stray.char :: (rest ++ blanks)) :=
      lexeme?_eq_none_iff.1 (lexeme?_weaken (lexeme?_eq_none_iff.2 startless) (bars.weaker rest))
    have dropped : text.drop stray.position = stray.char :: (rest ++ blanks) := by
      obtain ⟨front, same⟩ := (List.suffix_append spaces _).trans covers.suffix
      have place : stray.position = front.length := by
        rw [← same, List.length_append] at place
        omega
      rw [parts, ← same, place, List.append_assoc, List.drop_left]
      rfl
    refine ⟨rfl, rfl, tokens, spaces, rest ++ blanks, whole,
      fun fewer left => whole.longest space inside startless, space, inside, startless, dropped,
      fun raw sanitized => ?_⟩
    have member : stray.char ∈ text := List.mem_of_mem_drop (dropped ▸ List.mem_cons_self)
    rw [sanitized] at member
    exact stray_allowed (List.mem_filter.1 member).2 inside startless

theorem scan_lossless_point :
    scan "2 + .".toList = .error ⟨'.', 4⟩ ∧ exists tokens spaces rest,
      Covers 0 "2 + .".toList tokens (spaces ++ '.' :: rest) ∧ Startless ('.' :: rest) ∧
        rest.head?.any isDigit = false := by
  have scanned : scan "2 + .".toList = .error ⟨'.', 4⟩ := by decide +kernel
  have lossless := scan_lossless "2 + .".toList
  rw [scanned] at lossless
  obtain ⟨_, _, tokens, spaces, rest, covers, _, _, _, startless, _, point⟩ := lossless
  exact ⟨scanned, tokens, spaces, rest, covers, startless, (point "2 + .".toList (by decide +kernel)).2⟩

end Token

end SpokenArithmetic
