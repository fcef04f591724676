import SpokenArithmetic.Proofs.Phrase.Casing
import SpokenArithmetic.Proofs.Phrase.Gaps
import SpokenArithmetic.Proofs.Phrase.Spacing

set_option autoImplicit false

namespace SpokenArithmetic.Phrase

open Text

/-- Wherever a phrase of the table stands but for the width of white space, single spaces part its words. With
`whole`, only places that no word character touches count. -/
def SinglySpaced (whole : Bool) (table : List Lexicon.Entry) (text : List Char) : Prop :=
  forall entry, entry ∈ table -> forall front stretch behind, text = front ++ (stretch ++ behind) ->
    squeeze stretch = entry.1.toList ->
    (whole = true -> front.getLast?.any isWord = false ∧ behind.head?.any isWord = false) -> stretch = entry.1.toList

section Places

variable {whole : Bool} {table : List Lexicon.Entry} {text : List Char}

def stretchAt (text : List Char) (start size : Nat) : List Char :=
  (text.drop start).take size

def WideAt (whole : Bool) (table : List Lexicon.Entry) (text : List Char) (start size : Nat) : Prop :=
  squeeze (stretchAt text start size) ≠ stretchAt text start size ∧
    (whole = true ->
      (text.take start).getLast?.any isWord = false ∧ (text.drop (start + size)).head?.any isWord = false) ∧
    squeeze (stretchAt text start size) ∈ table.map (·.1.toList)

instance (whole : Bool) (table : List Lexicon.Entry) (text : List Char) (start size : Nat) :
    Decidable (WideAt whole table text start size) :=
  inferInstanceAs (Decidable (_ ∧ _))

theorem singlySpaced_iff :
    SinglySpaced whole table text ↔
      forall start, start < text.length + 1 -> forall size, size < text.length + 1 ->
        ¬WideAt whole table text start size := by
  constructor
  next =>
    rintro spaced start _ size _ ⟨changed, free, among⟩
    obtain ⟨entry, member, same⟩ := List.mem_map.1 among
    have parts : text = text.take start ++ (stretchAt text start size ++ text.drop (start + size)) := by
      rw [stretchAt, ← List.drop_drop, List.take_append_drop, List.take_append_drop]
    exact changed (same.symm.trans (spaced entry member _ _ _ parts same.symm free).symm)
  next =>
    rintro narrow entry member front stretch behind rfl same free
    by_contra changed
    have here : stretchAt (front ++ (stretch ++ behind)) front.length stretch.length = stretch := by simp [stretchAt]
    have whole := @List.length_append _ front (stretch ++ behind)
    have part := @List.length_append _ stretch behind
    refine narrow front.length (by omega) stretch.length (by omega) ⟨?_, ?_, ?_⟩
    next =>
      rw [here, same]
      exact Ne.symm changed
    next => simpa [List.drop_append] using free
    next =>
      rw [here, same]
      exact List.mem_map_of_mem member

instance (whole : Bool) (table : List Lexicon.Entry) (text : List Char) : Decidable (SinglySpaced whole table text) :=
  decidable_of_iff _ singlySpaced_iff.symm

end Places

section Narrowing

variable {whole : Bool} {table : List Lexicon.Entry} {text left right gap : List Char}

theorem alike_gap (left : List Char) (isGap : IsGap gap) (right : List Char) :
    Alike (left ++ (gap ++ right)) (left ++ ' ' :: right) := by
  have single : squeeze gap = squeeze [' '] := squeeze_of_gap isGap
  exact squeeze_congr rfl (squeeze_congr single rfl)

theorem SinglySpaced.unspanned (spaced : SinglySpaced whole table (left ++ (gap ++ right)))
    (worded : forall entry, entry ∈ table -> Worded entry.1.toList) (isGap : IsGap gap) (wide : gap ≠ [' ']) :
    Unspanned whole table left right := by
  rintro entry member ⟨front, first, second, behind, parts, rfl, rfl, free⟩
  have squeezed : squeeze (first ++ (gap ++ second)) = entry.1.toList := by
    rw [alike_gap first isGap second, ← parts, (worded entry member).squeezed]
  have same := spaced entry member front (first ++ (gap ++ second)) behind (by simp) squeezed free
  exact wide ((worded entry member).gap_single same.symm isGap)

theorem head_behind_gap {rest : List Char} (isGap : IsGap gap) (more : List Char)
    (free : (more ++ ' ' :: rest).head?.any isWord = false) : (more ++ (gap ++ rest)).head?.any isWord = false := by
  cases more with
  | nil => exact isGap.head (fun c => space_not_word) rest
  | cons c more => exact free

theorem last_before_gap {front : List Char} (isGap : IsGap gap) (more : List Char)
    (free : (front ++ ' ' :: more).getLast?.any isWord = false) :
    (front ++ (gap ++ more)).getLast?.any isWord = false := by
  cases more with
  | nil =>
    rw [List.append_nil, List.getLast?_append_of_ne_nil _ isGap.1, List.getLast?_eq_some_getLast isGap.1]
    exact space_not_word (isGap.2 _ (List.getLast_mem isGap.1))
  | cons c more =>
    rw [List.getLast?_append_of_ne_nil _ (by simp), List.getLast?_cons_cons] at free
    rw [← List.append_assoc, List.getLast?_append_of_ne_nil _ (by simp)]
    exact free

theorem SinglySpaced.narrowed (spaced : SinglySpaced whole table (left ++ (gap ++ right)))
    (worded : forall entry, entry ∈ table -> Worded entry.1.toList) (isGap : IsGap gap) (wide : gap ≠ [' ']) :
    SinglySpaced whole table (left ++ ' ' :: right) := by
  intro entry member front stretch behind same squeezed free
  -- A phrase over the narrow gap would have had the wide one inside.
  have nowhere (first second : List Char) (inner : stretch = first ++ ' ' :: second)
      (before : left = front ++ first) (after : right = second ++ behind) : False := by
    have widened : squeeze (first ++ (gap ++ second)) = entry.1.toList := by
      rw [alike_gap first isGap second, ← inner, squeezed]
    have whole := spaced entry member front (first ++ (gap ++ second)) behind (by simp [before, after]) widened free
    exact wide ((worded entry member).gap_single whole.symm isGap)
  rcases List.append_eq_append_iff.1 same with ⟨inFront, rfl, others⟩ | ⟨inLeft, rfl, others⟩
  next =>
    cases inFront with
    | nil =>
      cases stretch with
      | nil =>
        exact absurd squeezed.symm (worded entry member).ne_nil
      | cons c second =>
        obtain ⟨rfl, rfl⟩ := List.cons.inj others
        exact (nowhere [] second rfl (by simp) rfl).elim
    | cons c more =>
      obtain ⟨rfl, rfl⟩ := List.cons.inj others
      refine spaced entry member (left ++ (gap ++ more)) stretch behind (by simp) squeezed fun isWhole => ?_
      exact ⟨last_before_gap isGap more (free isWhole).1, (free isWhole).2⟩
  next =>
    have inside (more : List Char) (before : inLeft = stretch ++ more) (after : behind = more ++ ' ' :: right) :
        stretch = entry.1.toList := by
      subst before after
      refine spaced entry member front stretch (more ++ (gap ++ right)) (by simp) squeezed fun isWhole => ?_
      exact ⟨(free isWhole).1, head_behind_gap isGap more (free isWhole).2⟩
    rcases List.append_eq_append_iff.1 others with ⟨more, before, after⟩ | ⟨rest, parts, after⟩
    next => exact inside more before after
    next =>
      cases rest with
      | nil => exact inside [] (by simpa using parts.symm) (by simpa using after.symm)
      | cons c second =>
        obtain ⟨rfl, rfl⟩ := List.cons.inj after
        exact (nowhere inLeft second parts rfl rfl).elim

end Narrowing

section Squeezing

variable {holds : List Char -> Prop} {pass : List Char -> List Char}

theorem alike_squeeze
    (step : forall left gap right, IsGap gap -> gap ≠ [' '] -> holds (left ++ (gap ++ right)) ->
      holds (left ++ ' ' :: right) ∧ Alike (pass (left ++ (gap ++ right))) (pass (left ++ ' ' :: right)))
    {text : List Char} (held : holds text) : Alike (pass text) (pass (squeeze text)) := by
  -- The gaps are narrowed from left to right.
  have onward (rest : List Char) : forall front, holds (front ++ rest) ->
      Alike (pass (front ++ rest)) (pass (front ++ squeeze rest)) := by
    induction rest using gapInduction with
    | nil => exact fun _ _ => rfl
    | solid c rest other ih =>
      intro front held
      rw [squeeze_other other, List.append_cons front c rest, List.append_cons front c (squeeze rest)]
      exact ih (front ++ [c]) (by simpa using held)
    | gap gap rest isGap stops ih =>
      intro front held
      rw [squeeze_gap isGap stops, List.append_cons front ' ' (squeeze rest)]
      by_cases single : gap = [' ']
      next =>
        subst single
        have later := ih (front ++ [' ']) (by simpa using held)
        simpa using later
      next =>
        obtain ⟨narrowed, alike⟩ := step front gap rest isGap single held
        have later := ih (front ++ [' ']) (by simpa using narrowed)
        rw [List.append_assoc front [' '] rest] at later
        exact Eq.trans alike later
  exact onward text [] held

end Squeezing

section Words

variable {whole : Bool} {table others : List Lexicon.Entry} {text left right gap : List Char}

theorem SinglySpaced.replaceAll (spaced : SinglySpaced whole table (left ++ (gap ++ right)))
    (worded : forall entry, entry ∈ table -> Worded entry.1.toList) (keeps : table.Pairwise (Keeps whole))
    (isGap : IsGap gap) (wide : gap ≠ [' ']) :
    exists left' right',
      table.foldl (replacePhrase (finder whole)) (left ++ (gap ++ right)) = left' ++ (gap ++ right') ∧
        table.foldl (replacePhrase (finder whole)) (left ++ ' ' :: right) = left' ++ ' ' :: right' := by
  have unspanned := spaced.unspanned worded isGap wide
  have narrow : IsGap [' '] := ⟨by simp, by decide⟩
  exact ⟨_, _, replaceAll_gap worded isGap keeps unspanned, replaceAll_gap worded narrow keeps unspanned⟩

theorem SinglySpaced.among (spaced : SinglySpaced whole table text)
    (among : forall entry, entry ∈ others -> exists other, other ∈ table ∧ other.1 = entry.1) :
    SinglySpaced whole others text := by
  intro entry member
  obtain ⟨other, found, same⟩ := among entry member
  rw [← same]
  exact spaced other found

theorem operatorWords_among (entry : Lexicon.Entry) (member : entry ∈ spokenOperators) :
    exists other, other ∈ Lexicon.operatorWords ∧ other.1 = entry.1 := by
  obtain ⟨other, found, rfl⟩ := List.mem_map.1 member
  exact ⟨other, (Lexicon.longestFirst_perm Lexicon.operatorWords).mem_iff.1 found, rfl⟩

/-- Wherever filler words, spoken punctuation or operators are looked for, single spaces part the words of each.
Inside words the filler may be stripped first, so there the operators are looked for in what is left. -/
def SinglySpoken : (wholeWords : Bool) -> (spoken : List Char) -> Prop
  | true, spoken => SinglySpaced true (Lexicon.cleanupPhrases ++ Lexicon.operatorWords) spoken
  | false, spoken =>
    SinglySpaced false Lexicon.cleanupPhrases spoken ∧ SinglySpaced true Lexicon.operatorWords (cleanup false spoken)

instance (wholeWords : Bool) (spoken : List Char) : Decidable (SinglySpoken wholeWords spoken) :=
  match wholeWords with
  | true => inferInstanceAs (Decidable (SinglySpaced _ _ _))
  | false => inferInstanceAs (Decidable (_ ∧ _))

theorem wholeWords_squeeze (spoken : SinglySpoken true text) :
    Alike (replaceOperators (cleanup true text)) (replaceOperators (cleanup true (squeeze text))) := by
  have words (text : List Char) : replaceOperators (cleanup true text) =
      (Lexicon.cleanupPhrases ++ spokenOperators).foldl (replacePhrase (finder true)) text := by
    simp only [replaceOperators, cleanup, spokenOperators, List.foldl_append, finder, if_true]
  have worded : forall entry, entry ∈ Lexicon.cleanupPhrases ++ spokenOperators -> Worded entry.1.toList :=
    fun entry => worded_of_mem
  have keeps := keeps_words
  have spaced : SinglySpaced true (Lexicon.cleanupPhrases ++ spokenOperators) text := by
    refine SinglySpaced.among spoken fun entry member => ?_
    rcases List.mem_append.1 member with filler | operator
    next => exact ⟨entry, List.mem_append_left _ filler, rfl⟩
    next => exact (operatorWords_among entry operator).imp fun _ => And.imp_left (List.mem_append_right _)
  rw [words, words]
  generalize Lexicon.cleanupPhrases ++ spokenOperators = table at worded keeps spaced
  refine @alike_squeeze (SinglySpaced true table) (fun text => table.foldl (replacePhrase (finder true)) text)
    (fun left gap right isGap wide spaced => ?_) text spaced
  obtain ⟨left', right', wideReplaced, narrowReplaced⟩ := spaced.replaceAll worded keeps isGap wide
  rw [wideReplaced, narrowReplaced]
  exact ⟨spaced.narrowed worded isGap wide, alike_gap left' isGap right'⟩

theorem insideWords_squeeze (spoken : SinglySpoken false text) :
    Alike (replaceOperators (cleanup false text)) (replaceOperators (cleanup false (squeeze text))) := by
  have filler (text : List Char) :
      cleanup false text = Lexicon.cleanupPhrases.foldl (replacePhrase (finder false)) text := by
    simp only [cleanup, finder]
  have operators (text : List Char) :
      replaceOperators text = spokenOperators.foldl (replacePhrase (finder true)) text := by
    simp only [replaceOperators, spokenOperators, finder, if_true]
  have worded : forall entry, entry ∈ Lexicon.cleanupPhrases ++ spokenOperators -> Worded entry.1.toList :=
    fun entry => worded_of_mem
  have fillerWorded : forall entry, entry ∈ Lexicon.cleanupPhrases -> Worded entry.1.toList :=
    fun entry member => worded entry (List.mem_append_left _ member)
  have operatorWorded : forall entry, entry ∈ spokenOperators -> Worded entry.1.toList :=
    fun entry member => worded entry (List.mem_append_right _ member)
  have keeps := List.pairwise_append.1 keeps_words
  refine @alike_squeeze
    (fun text =>
      SinglySpaced false Lexicon.cleanupPhrases text ∧ SinglySpaced true spokenOperators (cleanup false text))
    (fun text => replaceOperators (cleanup false text)) (fun left gap right isGap wide spaced => ?_) text
    ⟨spoken.1, spoken.2.among operatorWords_among⟩
  obtain ⟨spaced, left_spaced⟩ := spaced
  obtain ⟨left', right', wideFiller, narrowFiller⟩ := spaced.replaceAll fillerWorded keeps_cleanup isGap wide
  rw [← filler] at wideFiller narrowFiller
  rw [wideFiller] at left_spaced
  obtain ⟨left'', right'', wideOperators, narrowOperators⟩ :=
    left_spaced.replaceAll operatorWorded keeps.2.1 isGap wide
  rw [← operators] at wideOperators narrowOperators
  refine ⟨⟨spaced.narrowed fillerWorded isGap wide, ?_⟩, ?_⟩
  next =>
    rw [narrowFiller]
    exact left_spaced.narrowed operatorWorded isGap wide
  next =>
    rw [wideFiller, narrowFiller, wideOperators, narrowOperators]
    exact alike_gap left'' isGap right''

theorem words_squeeze (wholeWords : Bool) (spoken : SinglySpoken wholeWords text) :
    Alike (replaceOperators (cleanup wholeWords text)) (replaceOperators (cleanup wholeWords (squeeze text))) := by
  cases wholeWords with
  | true => exact wholeWords_squeeze spoken
  | false => exact insideWords_squeeze spoken

end Words

/-- Narrowing each run of white space to one space does not change what a phrase means, nor which number in it
is refused, as long as its phrases of several words are spoken with single spaces. -/
theorem normalize_squeezed (wholeWords : Bool) (phrase : String)
    (spoken : SinglySpoken wholeWords (strip (lower phrase.toList))) :
    normalize (String.ofList (squeeze phrase.toList)) wholeWords = normalize phrase wholeWords := by
  refine normalize_of_alike ?_
  rw [String.toList_ofList, symbols, symbols, lower_squeeze, strip_squeeze]
  exact (words_squeeze wholeWords spoken).symm

theorem normalize_squeezed_power :
    SinglySpoken true (strip (lower "Two  to the power of\tthree".toList)) ∧
      normalize "Two to the power of three" true = normalize "Two  to the power of\tthree" true := by
  have spoken : SinglySpoken true (strip (lower "Two  to the power of\tthree".toList)) := by decide +kernel
  have same := normalize_squeezed true "Two  to the power of\tthree" spoken
  have narrow : squeeze "Two  to the power of\tthree".toList = "Two to the power of three".toList := by decide +kernel
  rw [narrow] at same
  exact ⟨spoken, same⟩

theorem normalize_wide_phrase :
    squeeze "what  is 5".toList = "what is 5".toList ∧
      normalize "what  is 5" true = .ok "what=5" ∧ normalize "what is 5" true = .ok "5" := by
  decide +kernel

end SpokenArithmetic.Phrase
