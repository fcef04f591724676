import Mathlib.Data.List.Infix
import SpokenArithmetic.Phrase.Words
import SpokenArithmetic.Proofs.Lexing.Lexemes
import SpokenArithmetic.Proofs.Lexing.Replacing

set_option autoImplicit false

namespace SpokenArithmetic.Phrase

open Text

def following (items : List (List Char)) : List Char :=
  items.flatMap (' ' :: ·)

def spaced : List (List Char) -> List Char
  | [] => []
  | item :: rest => item ++ following rest

theorem spaced_append {front back : List (List Char)} (first : front ≠ []) (second : back ≠ []) :
    spaced (front ++ back) = spaced front ++ ' ' :: spaced back := by
  obtain ⟨item, front, rfl⟩ := List.exists_cons_of_ne_nil first
  obtain ⟨other, back, rfl⟩ := List.exists_cons_of_ne_nil second
  simp [spaced, following]

theorem following_cases (items : List (List Char)) :
    following items = [] ∨ exists rest, following items = ' ' :: rest := by
  cases items with
  | nil => exact .inl rfl
  | cons item rest => exact .inr ⟨item ++ following rest, rfl⟩

theorem following_head {holds : Char -> Bool} (space : holds ' ' = false) (items : List (List Char)) :
    (following items).head?.any holds = false := by
  rcases following_cases items with empty | ⟨rest, starts⟩
  next => simp [empty]
  next => simp [starts, space]

theorem length_following {items : List (List Char)} {most : Nat}
    (short : forall item, item ∈ items -> item.length <= most) :
    (following items).length <= items.length * (most + 1) := by
  induction items with
  | nil => simp [following]
  | cons item rest ih =>
    have first := short item List.mem_cons_self
    have others := ih fun other member => short other (List.mem_cons_of_mem _ member)
    have parts : following (item :: rest) = ' ' :: (item ++ following rest) := rfl
    have product : (rest.length + 1) * (most + 1) = rest.length * (most + 1) + (most + 1) := Nat.succ_mul _ _
    rw [parts, List.length_cons, List.length_append, List.length_cons, product]
    omega

theorem length_spaced {items : List (List Char)} {most : Nat}
    (short : forall item, item ∈ items -> item.length <= most) :
    (spaced items).length <= items.length * (most + 1) := by
  cases items with
  | nil => simp [spaced]
  | cons item rest =>
    have all := length_following short
    have parts : following (item :: rest) = ' ' :: spaced (item :: rest) := rfl
    rw [parts, List.length_cons] at all
    omega

theorem space_isSpace : isSpace ' ' = true := by decide

theorem space_noWord : isWord ' ' = false := by decide

section Words

def wordsOf (text : List Char) : List (List Char) :=
  text.splitOnP (!isWord ·)

theorem takeWhile_mem_wordsOf (text : List Char) : text.takeWhile isWord ∈ wordsOf text := by
  obtain ⟨word, taken⟩ : exists word, text.takeWhile isWord = word := ⟨_, rfl⟩
  obtain ⟨rest, left⟩ : exists rest, text.dropWhile isWord = rest := ⟨_, rfl⟩
  obtain ⟨rfl, all, ends⟩ := span_iff.1 ⟨taken, left⟩
  have inside : forall c, c ∈ word -> (!isWord c) = false := by
    intro c member
    simp [all c member]
  rw [taken, wordsOf]
  cases rest with
  | nil =>
    rw [List.append_nil, List.splitOnP_eq_singleton inside]
    exact List.mem_singleton.2 rfl
  | cons c behind =>
    rw [List.splitOnP_append_cons_of_forall_mem inside c (by simpa using ends) behind]
    exact List.mem_cons_self

theorem takeWhile_mem_wordsOf_append {front : List Char} (rest : List Char)
    (free : front.getLast?.any isWord = false) : rest.takeWhile isWord ∈ wordsOf (front ++ rest) := by
  rcases List.eq_nil_or_concat front with rfl | ⟨front, c, rfl⟩
  next => exact takeWhile_mem_wordsOf rest
  next =>
    have stop : (!isWord c) = true := by simpa using free
    have split := List.splitOnP_append_cons (p := (!isWord ·)) front rest stop
    rw [List.concat_eq_append, List.append_assoc, List.singleton_append, wordsOf, split]
    exact List.mem_append_right _ (takeWhile_mem_wordsOf rest)

theorem mem_of_mem_wordsOf {text word : List Char} {c : Char} (inText : word ∈ wordsOf text) (inWord : c ∈ word) :
    c ∈ text := by
  induction text generalizing word with
  | nil =>
    obtain rfl : word = [] := by simpa [wordsOf, List.splitOnP_nil] using inText
    cases inWord
  | cons d text ih =>
    rw [wordsOf, List.splitOnP_cons_eq_if_modifyHead] at inText
    split at inText
    next =>
      rcases List.mem_cons.1 inText with rfl | later
      next => cases inWord
      next => exact List.mem_cons_of_mem d (ih later inWord)
    next =>
      obtain ⟨first, others, split⟩ := List.exists_cons_of_ne_nil (List.splitOnP_ne_nil (!isWord ·) text)
      rw [split, List.modifyHead_cons] at inText
      rcases List.mem_cons.1 inText with rfl | later
      next =>
        rcases List.mem_cons.1 inWord with rfl | further
        next => exact List.mem_cons_self
        next =>
          have inFirst : first ∈ wordsOf text := by
            rw [wordsOf, split]
            exact List.mem_cons_self
          exact List.mem_cons_of_mem d (ih inFirst further)
      next =>
        have inOthers : word ∈ wordsOf text := by
          rw [wordsOf, split]
          exact List.mem_cons_of_mem first later
        exact List.mem_cons_of_mem d (ih inOthers inWord)

end Words

section Entries

variable {pattern : Pattern Unit} {phrase item : List Char} {render : Unit -> List Char}

theorem asWords_eq_some {before : Option Char} {text behind : List Char} {found : Unit} :
    asWords phrase before text = some (found, behind) ↔
      before.any isWord = false ∧ text = phrase ++ behind ∧ behind.head?.any isWord = false := by
  unfold asWords Pattern.unlessBehind
  constructor
  next =>
    intro matched
    split at matched
    next => cases matched
    next free =>
      obtain ⟨rest, same, ended⟩ := Option.bind_eq_some_iff.1 matched
      split at ended
      next => cases ended
      next ends =>
        obtain ⟨_, rfl⟩ := Prod.mk.inj (Option.some.inj ended)
        exact ⟨by simpa using free, after?_eq_some.1 same, by simpa using ends⟩
  next =>
    rintro ⟨free, rfl, ends⟩
    have same : after? phrase (phrase ++ behind) = some behind := after?_eq_some.2 rfl
    simp [free, same, ends]

structure Finds (pattern : Pattern Unit) (phrase : List Char) : Prop where
  sound : forall before text found behind,
    pattern before text = some (found, behind) -> text = phrase ++ behind
  complete : forall before rest, before.any isWord = false -> rest.head?.any isWord = false ->
    pattern before (phrase ++ rest) = some ((), rest)

theorem finds_asWords (phrase : List Char) : Finds (asWords phrase) phrase where
  sound _ _ _ _ matched := (asWords_eq_some.1 matched).2.1
  complete _ _ free ends := asWords_eq_some.2 ⟨free, rfl, ends⟩

theorem finds_literally (phrase : List Char) : Finds (literally phrase) phrase where
  sound _ _ _ _ matched := by
    obtain ⟨rest, same, pair⟩ := Option.map_eq_some_iff.1 matched
    obtain ⟨_, rfl⟩ := Prod.mk.inj pair
    exact after?_eq_some.1 same
  complete _ rest _ _ := by
    have same : after? phrase (phrase ++ rest) = some rest := after?_eq_some.2 rfl
    simp [literally, same]

def Single (pattern : Pattern Unit) (phrase item : List Char) : Prop :=
  item = phrase ∨ forall before rest, pattern.Passes before item (following rest)

theorem replaceFrom_item (finds : Finds pattern phrase) (starts : phrase.head?.any isWord = true)
    (single : Single pattern phrase item) {before : Option Char} (free : before.any isWord = false)
    (rest : List (List Char)) :
    pattern.replaceFrom render before 0 (item ++ following rest) =
      (if item = phrase then render () else item) ++
        pattern.replaceFrom render (lastBehind before item) 0 (following rest) := by
  split
  next same =>
    subst same
    have present : item ≠ [] := by
      intro empty
      simp [empty] at starts
    exact Pattern.replaceFrom_matched present (finds.complete _ _ free (following_head space_noWord rest))
  next other => exact Pattern.replaceFrom_passed (single.resolve_left other before rest)

theorem replaceFrom_following (finds : Finds pattern phrase) (starts : phrase.head?.any isWord = true)
    {items : List (List Char)} (single : forall item, item ∈ items -> Single pattern phrase item)
    (before : Option Char) :
    pattern.replaceFrom render before 0 (following items) =
      following (items.map fun item => if item = phrase then render () else item) := by
  induction items generalizing before with
  | nil => rfl
  | cons item rest ih =>
    have passed : pattern before (' ' :: (item ++ following rest)) = none := by
      cases matched : pattern before (' ' :: (item ++ following rest)) with
      | none => rfl
      | some pair =>
        have parts := finds.sound _ _ _ _ matched
        cases phrase with
        | nil => simp at starts
        | cons c phrase =>
          obtain ⟨rfl, _⟩ := List.cons.inj parts
          simp [space_noWord] at starts
    have others := ih (fun other member => single other (List.mem_cons_of_mem _ member))
      (lastBehind (some ' ') item)
    have inside := @replaceFrom_item _ _ _ render finds starts (single item List.mem_cons_self)
      (some ' ') (by simp [space_noWord]) rest
    change Pattern.replaceFrom _ _ before 0 (' ' :: (item ++ following rest)) = _
    rw [Pattern.replaceFrom, passed]
    dsimp only
    rw [inside, others]
    rfl

theorem replace_spaced (finds : Finds pattern phrase) (starts : phrase.head?.any isWord = true)
    {items : List (List Char)} (single : forall item, item ∈ items -> Single pattern phrase item) :
    pattern.replace render (spaced items) =
      spaced (items.map fun item => if item = phrase then render () else item) := by
  cases items with
  | nil => rfl
  | cons item rest =>
    have inside := @replaceFrom_item _ _ _ render finds starts (single item List.mem_cons_self) none rfl rest
    have others := @replaceFrom_following _ _ render finds starts rest
      (fun other member => single other (List.mem_cons_of_mem _ member)) (lastBehind none item)
    rw [spaced, Pattern.replace, inside, others]
    rfl

end Entries

section Standing

variable {phrase item : List Char}

structure Whole (phrase item : List Char) : Prop where
  starts : phrase.head?.any isWord = true
  whole : item = phrase ∨ phrase.takeWhile isWord ∉ wordsOf item

instance (phrase item : List Char) : Decidable (Whole phrase item) :=
  decidable_of_iff (phrase.head?.any isWord = true ∧
    (item = phrase ∨ phrase.takeWhile isWord ∉ wordsOf item))
    ⟨fun parts => ⟨parts.1, parts.2⟩, fun whole => ⟨whole.starts, whole.whole⟩⟩

theorem passes_item (absent : phrase.takeWhile isWord ∉ wordsOf item)
    (before : Option Char) (rest : List (List Char)) :
    (asWords phrase).Passes before item (following rest) := by
  refine Pattern.passes_of_places fun front tail same present => ?_
  cases matched : asWords phrase (lastBehind before front) (tail ++ following rest) with
  | none => rfl
  | some pair =>
    obtain ⟨free, parts, ends⟩ := asWords_eq_some.1 matched
    have leads : tail.takeWhile isWord = phrase.takeWhile isWord := by
      rw [← (span_append _ (following_head space_noWord rest)).1, parts, (span_append _ ends).1]
    have stands : front.getLast?.any isWord = false := by
      cases front with
      | nil => rfl
      | cons c front => rwa [lastBehind_eq_getLast? (by simp)] at free
    have member := takeWhile_mem_wordsOf_append tail stands
    rw [leads, ← same] at member
    exact absurd member absent

theorem Whole.single (whole : Whole phrase item) : Single (asWords phrase) phrase item :=
  whole.whole.imp_right passes_item

def Clear (phrase item : List Char) : Prop :=
  forall tail, tail ∈ item.tails -> tail ≠ [] -> ¬phrase <+: tail ++ [' '] ∧ ¬tail ++ [' '] <+: phrase

instance (phrase item : List Char) : Decidable (Clear phrase item) :=
  inferInstanceAs (Decidable (forall tail, tail ∈ item.tails -> _))

theorem Clear.passes {pattern : Pattern Unit} (clear : Clear phrase item) (finds : Finds pattern phrase)
    (before : Option Char) (rest : List (List Char)) : pattern.Passes before item (following rest) := by
  refine Pattern.passes_of_places fun front tail same present => ?_
  cases matched : pattern (lastBehind before front) (tail ++ following rest) with
  | none => rfl
  | some pair =>
    have parts := finds.sound _ _ _ _ matched
    obtain ⟨noStart, noPart⟩ := clear tail ((List.mem_tails _ _).2 ⟨front, same.symm⟩) present
    rcases following_cases rest with none | ⟨more, starts⟩
    next =>
      rw [none, List.append_nil] at parts
      exact absurd ⟨pair.2 ++ [' '], by rw [parts, List.append_assoc]⟩ noStart
    next =>
      have phraseFirst : phrase <+: tail ++ following rest := ⟨pair.2, parts.symm⟩
      have tailFirst : tail ++ [' '] <+: tail ++ following rest := ⟨more, by simp [starts]⟩
      rcases List.prefix_or_prefix_of_prefix phraseFirst tailFirst with stands | begins
      next => exact absurd stands noStart
      next => exact absurd begins noPart

theorem clear_of_absent (absent : ¬phrase.takeWhile isWord <:+: item) : Clear phrase item := by
  have noSpace : ' ' ∉ phrase.takeWhile isWord := by
    intro member
    have word : isWord ' ' = true := List.all_eq_true.1 List.all_takeWhile ' ' member
    rw [space_noWord] at word
    cases word
  intro tail member present
  have inItem : tail <:+: item := ((List.mem_tails _ _).1 member).isInfix
  constructor
  next =>
    intro stands
    have first : phrase.takeWhile isWord <+: tail ++ [' '] := (List.takeWhile_prefix _).trans stands
    rcases List.prefix_concat_iff.1 first with same | inside
    next =>
      rw [same] at noSpace
      exact noSpace (by simp)
    next => exact absent (inside.isInfix.trans inItem)
  next =>
    rintro ⟨more, rfl⟩
    rw [List.append_assoc, (span_append _ (by simp [space_noWord])).1] at absent
    exact absent ((List.takeWhile_prefix _).isInfix.trans inItem)

end Standing

section Tables

def replaceItem (item : List Char) (entry : Lexicon.Entry) : List Char :=
  if item = entry.1.toList then entry.2.toList else item

def translate (table : List Lexicon.Entry) (item : List Char) : List Char :=
  table.foldl replaceItem item

def Translates : List Lexicon.Entry -> List Char -> Prop
  | [], _ => True
  | entry :: table, item => Whole entry.1.toList item ∧ Translates table (replaceItem item entry)

instance decidableTranslates : (table : List Lexicon.Entry) -> (item : List Char) ->
    Decidable (Translates table item)
  | [], _ => inferInstanceAs (Decidable True)
  | entry :: table, item =>
    have := decidableTranslates table (replaceItem item entry)
    inferInstanceAs (Decidable (_ ∧ _))

theorem foldl_replacePhrase {table : List Lexicon.Entry} {items : List (List Char)}
    (translates : forall item, item ∈ items -> Translates table item) :
    table.foldl (replacePhrase asWords) (spaced items) = spaced (items.map (translate table)) := by
  induction table generalizing items with
  | nil => exact congrArg spaced (List.map_id items).symm
  | cons entry table ih =>
    have first : replacePhrase asWords (spaced items) entry =
        spaced (items.map (replaceItem · entry)) := by
      cases items with
      | nil => rfl
      | cons item items =>
        exact replace_spaced (finds_asWords _) (translates item List.mem_cons_self).1.starts
          fun other member => (translates other member).1.single
    have rest : forall item, item ∈ items.map (replaceItem · entry) -> Translates table item := by
      intro item member
      obtain ⟨other, inItems, rfl⟩ := List.mem_map.1 member
      exact (translates other inItems).2
    rw [List.foldl_cons, first, ih rest, List.map_map]
    rfl

end Tables

section Fillers

def Cleans : List Lexicon.Entry -> List Char -> Prop
  | [], _ => True
  | entry :: table, item =>
    (item = entry.1.toList ∨ Clear entry.1.toList item) ∧ Cleans table (replaceItem item entry)

instance decidableCleans : (table : List Lexicon.Entry) -> (item : List Char) -> Decidable (Cleans table item)
  | [], _ => inferInstanceAs (Decidable True)
  | entry :: table, item =>
    have := decidableCleans table (replaceItem item entry)
    inferInstanceAs (Decidable (_ ∧ _))

theorem cleans_of_clear {table : List Lexicon.Entry} {item : List Char}
    (clear : forall entry, entry ∈ table -> Clear entry.1.toList item)
    (other : forall entry, entry ∈ table -> item ≠ entry.1.toList) :
    Cleans table item ∧ translate table item = item := by
  induction table with
  | nil => exact ⟨trivial, rfl⟩
  | cons entry table ih =>
    have kept : replaceItem item entry = item := if_neg (other entry List.mem_cons_self)
    have rest := ih (fun entry member => clear entry (List.mem_cons_of_mem _ member))
      fun entry member => other entry (List.mem_cons_of_mem _ member)
    constructor
    next =>
      refine ⟨.inr (clear entry List.mem_cons_self), ?_⟩
      rw [kept]
      exact rest.1
    next =>
      rw [translate, List.foldl_cons, kept]
      exact rest.2

theorem fillers_start : forall entry, entry ∈ Lexicon.cleanupPhrases ->
    entry.1.toList.head?.any isWord = true := by
  decide

theorem cleanup_items {items : List (List Char)} (wholeWords : Bool)
    (cleans : forall item, item ∈ items -> Cleans Lexicon.cleanupPhrases item) :
    cleanup wholeWords (spaced items) = spaced (items.map (translate Lexicon.cleanupPhrases)) := by
  have finds (phrase : List Char) : Finds ((if wholeWords then asWords else literally) phrase) phrase := by
    cases wholeWords with
    | true => exact finds_asWords phrase
    | false => exact finds_literally phrase
  have all (table : List Lexicon.Entry) (items : List (List Char))
      (starts : forall entry, entry ∈ table -> entry.1.toList.head?.any isWord = true)
      (cleans : forall item, item ∈ items -> Cleans table item) :
      table.foldl (replacePhrase (if wholeWords then asWords else literally)) (spaced items) =
        spaced (items.map (translate table)) := by
    induction table generalizing items with
    | nil => exact congrArg spaced (List.map_id items).symm
    | cons entry table ih =>
      have first : replacePhrase (if wholeWords then asWords else literally) (spaced items) entry =
          spaced (items.map (replaceItem · entry)) :=
        replace_spaced (finds _) (starts entry List.mem_cons_self) fun item member =>
          (cleans item member).1.imp_right fun clear => clear.passes (finds _)
      have rest : forall item, item ∈ items.map (replaceItem · entry) -> Cleans table item := by
        intro item member
        obtain ⟨other, inItems, rfl⟩ := List.mem_map.1 member
        exact (cleans other inItems).2
      rw [List.foldl_cons, first, ih _ (fun entry member => starts entry (List.mem_cons_of_mem _ member)) rest,
        List.map_map]
      rfl
  exact all _ items fillers_start cleans

end Fillers

section Letters

def Lettered (table : List Lexicon.Entry) : Prop :=
  forall entry, entry ∈ table -> entry.1.toList.head?.any (fun c => c.isAlpha && isWord c) = true

instance (table : List Lexicon.Entry) : Decidable (Lettered table) :=
  inferInstanceAs (Decidable (forall entry, entry ∈ table -> _))

variable {table : List Lexicon.Entry} {item : List Char}

theorem letter_of_lettered (lettered : Lettered table) {entry : Lexicon.Entry} (inTable : entry ∈ table) :
    entry.1.toList.head?.any isWord = true ∧ exists c, c.isAlpha = true ∧ c ∈ entry.1.toList.takeWhile isWord := by
  have starts := lettered entry inTable
  cases phrase : entry.1.toList with
  | nil => simp [phrase] at starts
  | cons c rest =>
    simp only [phrase, List.head?_cons, Option.any_some, Bool.and_eq_true] at starts
    refine ⟨starts.2, c, starts.1, ?_⟩
    rw [List.takeWhile_cons_of_pos starts.2]
    exact List.mem_cons_self

theorem translates_unlettered (lettered : Lettered table) (noLetter : forall c, c ∈ item -> c.isAlpha = false) :
    Translates table item ∧ translate table item = item := by
  induction table with
  | nil => exact ⟨trivial, rfl⟩
  | cons entry table ih =>
    have rest := ih fun other member => lettered other (List.mem_cons_of_mem _ member)
    obtain ⟨starts, c, letter, inWord⟩ := letter_of_lettered lettered List.mem_cons_self
    have absent {text : List Char} (inText : c ∈ text) (inside : forall d, d ∈ text -> d ∈ item) : False := by
      rw [noLetter c (inside c inText)] at letter
      cases letter
    have kept : replaceItem item entry = item := by
      apply if_neg
      rintro rfl
      exact absent inWord fun d member => (List.takeWhile_prefix _).subset member
    constructor
    next =>
      refine ⟨⟨starts, .inr fun member => absent inWord fun d inside => mem_of_mem_wordsOf member inside⟩, ?_⟩
      rw [kept]
      exact rest.1
    next =>
      rw [translate, List.foldl_cons, kept]
      exact rest.2

theorem cleans_unlettered (lettered : Lettered table) (noLetter : forall c, c ∈ item -> c.isAlpha = false) :
    Cleans table item ∧ translate table item = item := by
  have absent {entry : Lexicon.Entry} (inTable : entry ∈ table) : ¬entry.1.toList.takeWhile isWord <:+: item := by
    intro inside
    obtain ⟨_, c, letter, inWord⟩ := letter_of_lettered lettered inTable
    rw [noLetter c (inside.subset inWord)] at letter
    cases letter
  apply cleans_of_clear
  next => exact fun entry inTable => clear_of_absent (absent inTable)
  next => exact fun entry inTable same => absent inTable (same ▸ (List.takeWhile_prefix _).isInfix)

end Letters

-- The tables of words are closed lists, which are not to be gone through where an item is looked up.
attribute [irreducible] Translates Cleans translate

end SpokenArithmetic.Phrase
