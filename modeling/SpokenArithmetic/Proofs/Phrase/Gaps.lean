import SpokenArithmetic.Proofs.Lexing.Replaced
import SpokenArithmetic.Proofs.Phrase.Squeezed
import SpokenArithmetic.Proofs.Phrase.Vocabulary

set_option autoImplicit false

namespace SpokenArithmetic.Phrase

open Text

section Worded

abbrev BesideWord (c d : Char) : Prop :=
  isWord c = true ∨ isWord d = true

structure Worded (phrase : List Char) : Prop where
  starts : phrase.head?.any isWord = true
  ends : phrase.getLast?.any isWord = true
  parted : phrase.IsChain BesideWord
  squeezed : squeeze phrase = phrase

instance (phrase : List Char) : Decidable (Worded phrase) :=
  decidable_of_iff (phrase.head?.any isWord = true ∧ phrase.getLast?.any isWord = true ∧
    phrase.IsChain BesideWord ∧ squeeze phrase = phrase)
    ⟨fun ⟨starts, ends, parted, squeezed⟩ => ⟨starts, ends, parted, squeezed⟩,
    fun ⟨starts, ends, parted, squeezed⟩ => ⟨starts, ends, parted, squeezed⟩⟩

theorem worded_of_mem {entry : Lexicon.Entry} (member : entry ∈ Lexicon.cleanupPhrases ++ spokenOperators) :
    Worded entry.1.toList := by
  have all : forall entry, entry ∈ Lexicon.cleanupPhrases ++ spokenOperators -> Worded entry.1.toList := by
    decide +kernel
  exact all entry member

variable {phrase first second gap : List Char}

theorem Worded.ne_nil (worded : Worded phrase) : phrase ≠ [] := by
  rintro rfl
  cases worded.starts

theorem squeeze_spaces (text : List Char) : forall c, c ∈ squeeze text -> isSpace c = true -> c = ' ' := by
  induction text using gapInduction with
  | nil => simp [squeeze, Pattern.replace, Pattern.replaceFrom]
  | solid d rest other ih =>
    rw [squeeze_other other]
    intro c member space
    rcases List.mem_cons.1 member with rfl | member
    next => cases other.symm.trans space
    next => exact ih c member space
  | gap gap rest isGap stops ih =>
    rw [squeeze_gap isGap stops]
    intro c member space
    exact (List.mem_cons.1 member).elim id fun member => ih c member space

theorem Worded.gap_single (worded : Worded phrase) (parts : phrase = first ++ (gap ++ second)) (isGap : IsGap gap) :
    gap = [' '] := by
  obtain ⟨c, gap, rfl⟩ := List.exists_cons_of_ne_nil isGap.1
  have space : isSpace c = true := isGap.2 c List.mem_cons_self
  have member : c ∈ squeeze phrase := by
    rw [worded.squeezed, parts]
    simp
  have single : c = ' ' := squeeze_spaces phrase c member space
  cases gap with
  | nil => rw [single]
  | cons d gap =>
    have next : isSpace d = true := isGap.2 d (by simp)
    have chain : (c :: d :: (gap ++ second)).IsChain BesideWord :=
      (parts ▸ worded.parted).right_of_append
    rcases (List.isChain_cons_cons.1 chain).1 with word | word
    next => cases (space_not_word space).symm.trans word
    next => cases (space_not_word next).symm.trans word

theorem Worded.sides (worded : Worded phrase) (parts : phrase = first ++ ' ' :: second) :
    (first.head?.any isWord = true ∧ first.getLast?.any isWord = true) ∧
      second.head?.any isWord = true ∧ second.getLast?.any isWord = true := by
  have noWord : isWord ' ' = false := by decide
  have starts := worded.starts
  have ends := worded.ends
  have chain := worded.parted
  rw [parts] at starts ends chain
  rcases List.eq_nil_or_concat first with rfl | ⟨front, c, rfl⟩
  next => cases noWord.symm.trans starts
  next =>
    cases second with
    | nil =>
      rw [List.getLast?_concat] at ends
      cases noWord.symm.trans ends
    | cons d behind =>
      rw [List.concat_eq_append] at *
      rw [List.append_assoc, List.singleton_append] at chain
      have inner : (c :: ' ' :: d :: behind).IsChain BesideWord :=
        chain.right_of_append
      have left := (List.isChain_cons_cons.1 inner).1
      have right := (List.isChain_cons_cons.1 (List.isChain_cons_cons.1 inner).2).1
      simp only [BesideWord, noWord, Bool.false_eq_true, or_false, false_or] at left right
      rw [List.getLast?_append_of_ne_nil _ (by simp), List.getLast?_cons_cons] at ends
      refine ⟨⟨?_, by simpa using left⟩, right, ends⟩
      cases front with
      | nil => exact left
      | cons e front => exact starts

end Worded

section Finding

variable {whole : Bool} {phrase rendering front first second behind gap : List Char} {before : Option Char}

def finder (whole : Bool) : List Char -> Pattern Unit :=
  if whole then asWords else literally

theorem finder_eq_some {text : List Char} {found : Unit} :
    finder whole phrase before text = some (found, behind) ↔
      text = phrase ++ behind ∧ (whole = true -> before.any isWord = false ∧ behind.head?.any isWord = false) := by
  cases whole with
  | true =>
    refine asWords_eq_some.trans ⟨?_, ?_⟩
    next => exact fun ⟨free, same, ends⟩ => ⟨same, fun _ => ⟨free, ends⟩⟩
    next => exact fun ⟨same, sides⟩ => ⟨(sides rfl).1, same, (sides rfl).2⟩
  | false =>
    constructor
    next => exact fun matched => ⟨(finds_literally phrase).sound before text found behind matched, by simp⟩
    next =>
      rintro ⟨same, _⟩
      simp [finder, literally, after?_eq_some.2 same]

theorem finder_free {text : List Char} (free : before.any isWord = false) :
    finder whole phrase before text = finder whole phrase none text := by
  cases whole with
  | true => simp [finder, asWords, Pattern.unlessBehind, free]
  | false => rfl

/-- The words of a phrase end one text and start another one. -/
def Spans (whole : Bool) (phrase left right : List Char) : Prop :=
  exists front first second behind,
    phrase = first ++ ' ' :: second ∧ left = front ++ first ∧ right = second ++ behind ∧
    (whole = true -> front.getLast?.any isWord = false ∧ behind.head?.any isWord = false)

variable {left right : List Char}

theorem finder_gap (worded : Worded phrase) (isGap : IsGap gap) (rest : List Char) :
    (finder whole phrase).Passes before gap rest := by
  apply Pattern.passes_of_unmatched
  intro before c tail member
  cases matched : finder whole phrase before (c :: tail) with
  | none => rfl
  | some pair =>
    obtain ⟨same, _⟩ := finder_eq_some.1 matched
    obtain ⟨d, phrase, rfl⟩ := List.exists_cons_of_ne_nil worded.ne_nil
    obtain ⟨rfl, _⟩ := List.cons.inj same
    cases (space_not_word (isGap.2 c member)).symm.trans worded.starts

theorem spans_of_found (worded : Worded phrase) (isGap : IsGap gap)
    (matched : finder whole phrase (lastBehind none front) (first ++ (gap ++ right)) = some ((), behind))
    (unmatched : finder whole phrase (lastBehind none front) first = none) :
    Spans whole phrase (front ++ first) right := by
  obtain ⟨same, sides⟩ := finder_eq_some.1 matched
  have further (rest : List Char) (parts : first = phrase ++ rest)
      (others : behind = rest ++ (gap ++ right)) : False := by
    have found : finder whole phrase (lastBehind none front) first = some ((), rest) := by
      refine finder_eq_some.2 ⟨parts, fun isWhole => ⟨(sides isWhole).1, ?_⟩⟩
      have ends := (sides isWhole).2
      cases rest with
      | nil => rfl
      | cons c rest => rwa [others] at ends
    cases unmatched.symm.trans found
  rcases List.append_eq_append_iff.1 same with ⟨more, parts, others⟩ | ⟨rest, parts, others⟩
  next =>
    rcases List.append_eq_append_iff.1 others with ⟨second, rfl, rfl⟩ | ⟨rest, inGap, others⟩
    next =>
      obtain rfl := worded.gap_single parts isGap
      rw [lastBehind_none] at sides
      exact ⟨front, first, second, behind, parts, rfl, rfl, sides⟩
    next =>
      -- A phrase does not end with white space.
      rcases List.eq_nil_or_concat more with rfl | ⟨more, c, rfl⟩
      next =>
        rw [List.append_nil] at parts
        exact (further [] (by simp [parts]) (by simpa [inGap] using others.symm)).elim
      next =>
        have ends := worded.ends
        rw [parts, List.concat_eq_append, ← List.append_assoc, List.getLast?_concat] at ends
        have space : isSpace c = true := isGap.2 c (by simp [inGap])
        cases (space_not_word space).symm.trans ends
  next => exact (further rest parts others).elim

theorem replace_gap {render : Unit -> List Char} (worded : Worded phrase) (isGap : IsGap gap)
    (apart : ¬Spans whole phrase left right) :
    (finder whole phrase).replace render (left ++ (gap ++ right)) =
      (finder whole phrase).replace render left ++ (gap ++ (finder whole phrase).replace render right) := by
  have sides : forall front c rest, left = front ++ c :: rest ->
      finder whole phrase (lastBehind none front) (c :: rest ++ (gap ++ right)) =
        (finder whole phrase (lastBehind none front) (c :: rest)).map
          fun found => (found.1, found.2 ++ (gap ++ right)) := by
    intro front c rest same
    cases inside : finder whole phrase (lastBehind none front) (c :: rest) with
    | some pair =>
      obtain ⟨parts, free⟩ := finder_eq_some.1 inside
      refine finder_eq_some.2 ⟨by rw [parts, List.append_assoc], fun isWhole => ⟨(free isWhole).1, ?_⟩⟩
      cases ends : pair.2 with
      | nil => exact isGap.head (fun c => space_not_word) right
      | cons d behind =>
        have other := (free isWhole).2
        rwa [ends] at other
    | none =>
      cases across : finder whole phrase (lastBehind none front) (c :: rest ++ (gap ++ right)) with
      | none => rfl
      | some pair => exact absurd (same ▸ spans_of_found worded isGap across inside) apart
  have behindGap : (lastBehind (lastBehind none left) gap).any isWord = false := by
    rw [lastBehind_eq_getLast? isGap.1, List.getLast?_eq_some_getLast isGap.1]
    exact space_not_word (isGap.2 _ (List.getLast_mem isGap.1))
  rw [Pattern.replace, Pattern.replaceFrom_apart sides (Nat.zero_le _),
    Pattern.replaceFrom_passed (finder_gap worded isGap right), Pattern.replaceFrom_before (finder_free behindGap)]
  rfl

end Finding

section Tracing

open Pattern

variable {phrase rendering other words text out after : List Char} {before : Option Char}

theorem found_ends (worded : Worded phrase) {stretch behind : List Char} {found : Unit}
    (matched : asWords phrase before (stretch ++ behind) = some (found, behind)) :
    before.any isWord = false ∧ (lastBehind before stretch).any isWord = true ∧ behind.head?.any isWord = false := by
  obtain ⟨free, same, ends⟩ := asWords_eq_some.1 matched
  obtain rfl := List.append_cancel_right same
  refine ⟨free, ?_, ends⟩
  rw [lastBehind_eq_getLast? worded.ne_nil]
  exact worded.ends

/-- Words in the result that start between two blocks have been copied: no rendering starts with a word, and
behind one that is empty no word goes on. -/
theorem copied_words (worded : Worded phrase) (opens : rendering.head?.any isWord = false)
    (parted : words.IsChain BesideWord)
    (starts : before.any isWord = true ∨ words.head?.all isWord = true)
    (replaced : Replaced (asWords phrase) (fun _ => rendering) before text (words ++ out) after) :
    exists rest, text = words ++ rest ∧
      Replaced (asWords phrase) (fun _ => rendering) (lastBehind before words) rest out after := by
  induction words generalizing before text with
  | nil => exact ⟨text, rfl, replaced⟩
  | cons c words ih =>
    rcases replaced.cons_cases with ⟨rest, rfl, _, blocks⟩ |
      ⟨stretch, rest, found, shown, rfl, same, _, matched, blocks⟩
    next =>
      have onward : (some c).any isWord = true ∨ words.head?.all isWord = true := by
        cases words with
        | nil => exact .inr rfl
        | cons d words => exact (List.isChain_cons_cons.1 parted).1
      obtain ⟨tail, rfl, others⟩ := ih parted.tail onward blocks
      exact ⟨tail, rfl, others⟩
    next =>
      obtain ⟨free, wordBehind, ends⟩ := found_ends worded matched
      have word : isWord c = true := by
        rcases starts with word | word
        next => cases free.symm.trans word
        next => exact word
      cases rendering with
      | cons d rendering =>
        obtain ⟨rfl, _⟩ := List.cons.inj same
        cases opens.symm.trans word
      | nil =>
        rw [List.nil_append] at same
        subst same
        rcases blocks.cons_cases with ⟨rest, rfl, _, _⟩ | ⟨_, _, _, _, rfl, _, _, next, _⟩
        next => cases ends.symm.trans word
        next => cases (found_ends worded next).1.symm.trans wordBehind

theorem consumes_asWords (worded : Worded phrase) : (asWords phrase).Consumes := by
  intro before text found behind matched
  exact ⟨phrase, worded.ne_nil, (asWords_eq_some.1 matched).2.1⟩

structure Foreign (rendering other : List Char) : Prop where
  opens : rendering.head?.any isWord = false
  closes : rendering.getLast?.any isWord = false
  absent : ¬other.takeWhile isWord <:+: rendering

instance (rendering other : List Char) : Decidable (Foreign rendering other) :=
  decidable_of_iff (rendering.head?.any isWord = false ∧ rendering.getLast?.any isWord = false ∧
    ¬other.takeWhile isWord <:+: rendering)
    ⟨fun ⟨opens, closes, absent⟩ => ⟨opens, closes, absent⟩,
    fun ⟨opens, closes, absent⟩ => ⟨opens, closes, absent⟩⟩

variable {front first second behind left right : List Char}

theorem head_kept (worded : Worded phrase) (word : before.any isWord = true)
    (replaced : Replaced (asWords phrase) (fun _ => rendering) before text out after) : text.head? = out.head? := by
  cases replaced with
  | nil => rfl
  | copied => rfl
  | found _ matched _ => cases (found_ends worded matched).1.symm.trans word

theorem last_kept (worded : Worded phrase) (word : after.head?.any isWord = true)
    (replaced : Replaced (asWords phrase) (fun _ => rendering) before text out after) : text.getLast? = out.getLast? := by
  rcases replaced.snoc_cases with ⟨rfl, rfl⟩ | ⟨front, shown, c, rfl, rfl, _, _⟩ |
    ⟨_, _, _, _, rfl, rfl, _, matched, _⟩
  next => rfl
  next => rw [List.getLast?_concat, List.getLast?_concat]
  next => cases (found_ends worded matched).2.2.symm.trans word

theorem replaced_asWords (worded : Worded phrase) (text : List Char) :
    Replaced (asWords phrase) (fun _ => rendering) none text ((asWords phrase).replace (fun _ => rendering) text) [] :=
  replaced_replace (consumes_asWords worded) text

theorem takeWhile_front {two shown : List Char} (present : two ≠ []) (closes : two.getLast?.any isWord = false) :
    (two ++ shown).takeWhile isWord = two.takeWhile isWord := by
  rw [List.takeWhile_append, if_neg]
  intro whole
  have all : two.takeWhile isWord = two := (List.takeWhile_prefix isWord).eq_of_length whole
  obtain ⟨_, words, _⟩ := (@span_iff isWord two _ _).1 ⟨rfl, rfl⟩
  rw [all] at words
  rw [List.getLast?_eq_some_getLast present] at closes
  cases closes.symm.trans (words _ (List.getLast_mem present))

theorem lastBehind_words {words : List Char} (before : Option Char) (ends : words.getLast?.any isWord = true) :
    (lastBehind before words).any isWord = true := by
  have present : words ≠ [] := by
    rintro rfl
    cases ends
  rw [lastBehind_eq_getLast? present]
  exact ends

theorem head_all {words : List Char} (starts : words.head?.any isWord = true) : words.head?.all isWord = true := by
  cases words with
  | nil => rfl
  | cons c words => exact starts

theorem traced_left (worded : Worded phrase) (foreign : Foreign rendering first)
    (starts : first.head?.any isWord = true) (ends : first.getLast?.any isWord = true)
    (parted : first.IsChain BesideWord)
    (same : (asWords phrase).replace (fun _ => rendering) left = front ++ first)
    (free : front.getLast?.any isWord = false) :
    exists shown, left = shown ++ first ∧ shown.getLast?.any isWord = false := by
  have replaced := @replaced_asWords phrase rendering worded left
  rw [same] at replaced
  rcases replaced.cut with ⟨shown, rest, rfl, fronts, blocks⟩ |
    ⟨_, _, _, _, _, one, two, shown, rfl, rfl, rfl, parts, some, more, _, _⟩
  next =>
    rw [← List.append_nil first] at blocks
    obtain ⟨rest, rfl, nothing⟩ := copied_words worded foreign.opens parted (.inr (head_all starts)) blocks
    obtain rfl : rest = [] := List.head?_eq_none_iff.1 (head_kept worded (lastBehind_words _ ends) nothing)
    rw [List.append_nil] at fronts ⊢
    rw [List.append_nil] at fronts
    refine ⟨shown, rfl, ?_⟩
    rw [last_kept worded starts fronts]
    exact free
  next =>
    -- The first word would be one of the rendering.
    have closes := foreign.closes
    rw [parts, List.getLast?_append_of_ne_nil _ more] at closes
    refine absurd ?_ foreign.absent
    rw [takeWhile_front more closes, parts]
    exact (List.takeWhile_prefix isWord).isInfix.trans (List.suffix_append one two).isInfix

theorem traced_right (worded : Worded phrase) (opens : rendering.head?.any isWord = false)
    (starts : second.head?.any isWord = true) (ends : second.getLast?.any isWord = true)
    (parted : second.IsChain BesideWord)
    (same : (asWords phrase).replace (fun _ => rendering) right = second ++ behind)
    (free : behind.head?.any isWord = false) :
    exists shown, right = second ++ shown ∧ shown.head?.any isWord = false := by
  have replaced := @replaced_asWords phrase rendering worded right
  rw [same] at replaced
  obtain ⟨rest, rfl, blocks⟩ := copied_words worded opens parted (.inr (head_all starts)) replaced
  refine ⟨rest, rfl, ?_⟩
  rw [head_kept worded (lastBehind_words _ ends) blocks]
  exact free

theorem spans_traced (worded : Worded phrase) (otherWorded : Worded other)
    (foreign : ' ' ∈ other -> Foreign rendering other)
    (spans : Spans true other ((asWords phrase).replace (fun _ => rendering) left)
      ((asWords phrase).replace (fun _ => rendering) right)) : Spans true other left right := by
  obtain ⟨front, first, second, behind, parts, inLeft, inRight, free⟩ := spans
  obtain ⟨⟨starts, ends⟩, opens, closes⟩ := otherWorded.sides parts
  have chain := otherWorded.parted
  have strange := foreign (by simp [parts])
  rw [parts] at chain
  have alone : (first ++ ' ' :: second).takeWhile isWord = first.takeWhile isWord := by
    rw [List.takeWhile_append]
    split
    next whole => simp [(List.takeWhile_prefix isWord).eq_of_length whole, show isWord ' ' = false by decide]
    next => rfl
  have firstForeign : Foreign rendering first :=
    ⟨strange.opens, strange.closes, by rw [← alone, ← parts]; exact strange.absent⟩
  obtain ⟨before, rfl, freeLeft⟩ :=
    traced_left worded firstForeign starts ends chain.left_of_append inLeft (free rfl).1
  obtain ⟨after, rfl, freeRight⟩ := traced_right worded strange.opens opens closes
    (List.isChain_cons.1 chain.right_of_append).2 inRight (free rfl).2
  exact ⟨before, first, second, after, parts, rfl, rfl, fun _ => ⟨freeLeft, freeRight⟩⟩

end Tracing

section Tables

variable {whole : Bool} {left right gap : List Char} {table : List Lexicon.Entry}

def Unspanned (whole : Bool) (table : List Lexicon.Entry) (left right : List Char) : Prop :=
  forall entry, entry ∈ table -> ¬Spans whole entry.1.toList left right

def Keeps (whole : Bool) (entry other : Lexicon.Entry) : Prop :=
  forall left right, Spans whole other.1.toList (replacePhrase (finder whole) left entry)
    (replacePhrase (finder whole) right entry) -> Spans whole other.1.toList left right

theorem keeps_of_single {entry other : Lexicon.Entry} (single : ' ' ∉ other.1.toList) : Keeps whole entry other := by
  rintro left right ⟨_, _, _, _, parts, _⟩
  exact absurd (by simp [parts]) single

theorem replaceAll_gap (worded : forall entry, entry ∈ table -> Worded entry.1.toList) (isGap : IsGap gap)
    (keeps : table.Pairwise (Keeps whole)) (apart : Unspanned whole table left right) :
    table.foldl (replacePhrase (finder whole)) (left ++ (gap ++ right)) =
      table.foldl (replacePhrase (finder whole)) left ++ (gap ++ table.foldl (replacePhrase (finder whole)) right) := by
  induction table generalizing left right with
  | nil => rfl
  | cons entry table ih =>
    obtain ⟨first, others⟩ := List.pairwise_cons.1 keeps
    have apartHere := apart entry List.mem_cons_self
    simp only [List.foldl_cons]
    rw [replacePhrase, replace_gap (worded entry List.mem_cons_self) isGap apartHere]
    refine ih (fun other member => worded other (List.mem_cons_of_mem entry member)) others ?_
    intro other member spans
    exact apart other (List.mem_cons_of_mem entry member) (first other member left right spans)

-- The first phrase that is stripped has two words, and every other one has one.
theorem keeps_cleanup : Lexicon.cleanupPhrases.Pairwise (Keeps false) := by
  have single : Lexicon.cleanupPhrases.Pairwise fun _ other => ' ' ∉ other.1.toList := by decide +kernel
  exact single.imp keeps_of_single

theorem keeps_words : (Lexicon.cleanupPhrases ++ spokenOperators).Pairwise (Keeps true) := by
  have foreign : (Lexicon.cleanupPhrases ++ spokenOperators).Pairwise fun entry other =>
      ' ' ∈ other.1.toList -> Foreign entry.2.toList other.1.toList := by
    decide +kernel
  refine foreign.imp_of_mem fun entryMember otherMember foreign left right spans => ?_
  exact spans_traced (worded_of_mem entryMember) (worded_of_mem otherMember) foreign spans

end Tables

end SpokenArithmetic.Phrase
