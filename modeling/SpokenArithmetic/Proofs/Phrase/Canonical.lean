import Mathlib.Data.List.Destutter
import Mathlib.Data.List.DropRight
import SpokenArithmetic.Proofs.Phrase.Tidied

set_option autoImplicit false

namespace SpokenArithmetic.Phrase

open Text

def Spacing (c d : Char) : Prop :=
  (isSpace c = true -> isSpace d = false ∧ isTight d = false) ∧ (isSpace d = true -> isTight c = false)

structure Canonical (text : List Char) : Prop where
  spacing : text.IsChain Spacing
  spaces : forall c, c ∈ text -> isSpace c = true -> c = ' '
  operators : text.IsChain Unrepeated
  starts : text.head?.any isBlank = false
  ends : text.getLast?.any isBlank = false
  unequal : text.getLast? ≠ some '='

section Trimmed

variable {before : Option Char} {text : List Char}

theorem compact_space {c : Char} (space : isSpace c = true) (rest : List Char) : compact (c :: rest) = compact rest :=
  List.filter_cons_of_neg (by simp [space])

theorem compact_trim (before : Option Char) (text : List Char) : compact (trim before text) = compact text := by
  induction text generalizing before with
  | nil => rfl
  | cons c rest ih =>
    by_cases space : isSpace c = true
    next =>
      rw [trim, if_pos space, compact_space space]
      split
      next => exact ih before
      next => rw [compact_space (by decide), ih before]
    next =>
      have other : isSpace c = false := by simpa using space
      rw [trim_other other, compact_cons other, compact_cons other, ih]

theorem trim_spaces (before : Option Char) (text : List Char) :
    forall c, c ∈ trim before text -> isSpace c = true -> c = ' ' := by
  induction text generalizing before with
  | nil => simp [trim]
  | cons d rest ih =>
    intro c member space
    rw [trim] at member
    split at member
    next =>
      split at member
      next => exact ih before c member space
      next =>
        rcases List.mem_cons.1 member with rfl | member
        next => rfl
        next => exact ih before c member space
    next other =>
      rcases List.mem_cons.1 member with rfl | member
      next => exact absurd space other
      next => exact ih _ c member space

theorem trim_head (text : List Char) (tight : before.any isTight = true) :
    (trim before text).head?.any isSpace = false := by
  induction text with
  | nil => rfl
  | cons c rest ih =>
    by_cases space : isSpace c = true
    next =>
      rw [trim, if_pos space, if_pos (by simp [tight])]
      exact ih
    next =>
      rw [trim_other (by simpa using space)]
      simpa using space

theorem trim_spacing (before : Option Char) (text : List Char) : (trim before text).IsChain Spacing := by
  induction text generalizing before with
  | nil => exact .nil
  | cons c rest ih =>
    by_cases space : isSpace c = true
    next =>
      rw [trim, if_pos space]
      split
      next => exact ih before
      next loose =>
        cases rest with
        | nil => exact .singleton ' '
        | cons d rest =>
          simp only [Bool.or_eq_true, List.head?_cons, Option.any_some, not_or, Bool.not_eq_true] at loose
          obtain ⟨_, other, slack⟩ := loose
          have rest := ih before
          rw [trim_other other] at rest ⊢
          exact .cons_cons ⟨fun _ => ⟨other, slack⟩, fun again => absurd again (by simp [other])⟩ rest
    next =>
      have other : isSpace c = false := by simpa using space
      rw [trim_other other]
      have chain := ih (some c)
      have head := @trim_head (some c) rest
      generalize trim (some c) rest = written at chain head
      cases written with
      | nil => exact .singleton c
      | cons d tail =>
        refine .cons_cons ⟨fun again => absurd again space, fun next => ?_⟩ chain
        cases tight : isTight c with
        | false => rfl
        | true =>
          have head := head tight
          exact absurd next (by simpa using head)

theorem trim_spaced (spacing : text.IsChain Spacing) (spaces : forall c, c ∈ text -> isSpace c = true -> c = ' ')
    (starts : before.any isTight = true -> text.head?.any isSpace = false)
    (ends : text.getLast?.any isSpace = false) : trim before text = text := by
  induction text generalizing before with
  | nil => rfl
  | cons c rest ih =>
    have spacesRest := fun d member => spaces d (List.mem_cons_of_mem c member)
    by_cases space : isSpace c = true
    next =>
      cases rest with
      | nil => exact absurd space (by simpa using ends)
      | cons d rest =>
        obtain ⟨other, slack⟩ := spacing.rel.1 space
        have loose : before.any isTight = false := by
          cases tight : before.any isTight with
          | false => rfl
          | true => exact absurd space (by simpa using starts tight)
        have behind := @ih before spacing.tail spacesRest (fun _ => other) (by simpa using ends)
        rw [trim, if_pos space, if_neg (by simp [loose, other, slack]), behind, spaces c (by simp) space]
    next =>
      rw [trim_other (by simpa using space)]
      cases rest with
      | nil => rfl
      | cons d rest =>
        refine congrArg (c :: ·) (ih spacing.tail spacesRest (fun tight => ?_) (by simpa using ends))
        cases next : isSpace d with
        | false => simpa using next
        | true => exact absurd tight (by simp [spacing.rel.2 next])

end Trimmed

section Collapsed

variable {text : List Char}

instance : DecidableRel Unrepeated := fun c d =>
  inferInstanceAs (Decidable (isArithmetic d = true -> c ≠ d))

theorem collapse_eq_destutter (text : List Char) : collapse none text = text.destutter Unrepeated := by
  have behind (before : Char) (text : List Char) :
      before :: collapse (some before) text = text.destutter' Unrepeated before := by
    induction text generalizing before with
    | nil => rfl
    | cons c rest ih =>
      by_cases apart : Unrepeated before c
      next =>
        have new : isArithmetic c = false ∨ some before ≠ some c := by
          cases operator : isArithmetic c with
          | false => exact .inl rfl
          | true => exact .inr fun same => apart operator (Option.some.inj same)
        rw [collapse_new new, List.destutter'_cons_pos rest apart, ih c]
      next =>
        obtain ⟨operator, same⟩ : isArithmetic c = true ∧ before = c := by simpa [Unrepeated] using apart
        rw [List.destutter'_cons_neg rest apart, ← ih before, same, collapse_again operator]
  cases text with
  | nil => rfl
  | cons c rest =>
    rw [collapse_new (.inr (by simp)), List.destutter_cons']
    exact behind c rest

theorem collapse_sublist (text : List Char) : (collapse none text).Sublist text := by
  rw [collapse_eq_destutter]
  exact List.destutter_sublist Unrepeated text

theorem collapse_chain {related : Char -> Char -> Prop} (chain : text.IsChain related) :
    (collapse none text).IsChain related := by
  have behind (before : Char) (text : List Char) (chain : (before :: text).IsChain related) :
      (before :: collapse (some before) text).IsChain related := by
    induction text generalizing before with
    | nil => exact .singleton before
    | cons c rest ih =>
      rw [collapse]
      split
      next again =>
        obtain ⟨_, same⟩ : isArithmetic c = true ∧ before = c := by simpa using again
        exact ih before (same ▸ chain.tail)
      next => exact .cons_cons chain.rel (ih c chain.tail)
  cases text with
  | nil => exact .nil
  | cons c rest =>
    rw [collapse_new (.inr (by simp))]
    exact behind c rest chain

theorem compact_collapse_behind {before : Char} {seen : Option Char} (spacing : (before :: text).IsChain Spacing)
    (last : isSpace before = false -> seen = some before) :
    compact (collapse (some before) text) = collapse seen (compact text) := by
  -- White space in front goes, so what follows sees only a character that stays.
  induction text generalizing before seen with
  | nil => rfl
  | cons c rest ih =>
    by_cases space : isSpace c = true
    next =>
      have solid : isSpace before = false := by
        cases again : isSpace before with
        | false => rfl
        | true => exact absurd space (by simp [(spacing.rel.1 again).1])
      have free : isArithmetic c = false := by
        cases operator : isArithmetic c with
        | false => rfl
        | true => exact absurd space (by simp [(arithmetic_cases operator).1])
      rw [collapse_new (.inl free), compact_space space, compact_space space, last solid]
      exact ih spacing.tail fun other => absurd space (by simp [other])
    next =>
      have other : isSpace c = false := by simpa using space
      rw [compact_cons other]
      cases operator : isArithmetic c with
      | false =>
        rw [collapse_new (.inl operator), collapse_new (.inl operator), compact_cons other,
          ih spacing.tail fun _ => rfl]
      | true =>
        have solid : isSpace before = false := by
          cases again : isSpace before with
          | false => rfl
          | true => exact absurd (arithmetic_cases operator).2.2 (by simp [(spacing.rel.1 again).2])
        rw [last solid]
        by_cases same : before = c
        next =>
          subst same
          rw [collapse_again operator, collapse_again operator, ih spacing.tail fun _ => rfl]
        next =>
          have new : some before ≠ some c := fun equal => same (Option.some.inj equal)
          rw [collapse_new (.inr new), collapse_new (.inr new), compact_cons other,
            ih spacing.tail fun _ => rfl]

-- No white space parts two operators, so that it makes no difference when it goes.
theorem compact_collapse (spacing : text.IsChain Spacing) :
    compact (collapse none text) = collapse none (compact text) := by
  cases text with
  | nil => rfl
  | cons c rest =>
    rw [collapse_new (.inr (by simp))]
    by_cases space : isSpace c = true
    next =>
      rw [compact_space space, compact_space space]
      exact compact_collapse_behind spacing fun other => absurd space (by simp [other])
    next =>
      have other : isSpace c = false := by simpa using space
      rw [compact_cons other, compact_cons other, collapse_new (.inr (by simp)),
        compact_collapse_behind spacing fun _ => rfl]

theorem collapse_head (text : List Char) : (collapse none text).head? = text.head? := by
  cases text with
  | nil => rfl
  | cons c rest => rw [collapse_new (.inr (by simp))]; rfl

theorem collapse_last (text : List Char) : (collapse none text).getLast? = text.getLast? := by
  have behind (before : Char) (text : List Char) :
      (before :: collapse (some before) text).getLast? = (before :: text).getLast? := by
    induction text generalizing before with
    | nil => rfl
    | cons c rest ih =>
      rw [collapse, List.getLast?_cons_cons]
      split
      next again =>
        obtain ⟨_, rfl⟩ : isArithmetic c = true ∧ before = c := by simpa using again
        exact ih before
      next => rw [List.getLast?_cons_cons, ih c]
  cases text with
  | nil => rfl
  | cons c rest =>
    rw [collapse_new (.inr (by simp))]
    exact behind c rest

end Collapsed

section Ends

variable {text : List Char}

theorem strip_parts (text : List Char) :
    exists front behind, text = front ++ (strip text ++ behind) ∧ (forall c, c ∈ front ++ behind -> isBlank c = true) ∧
      (strip text).head?.any isBlank = false ∧ (strip text).getLast?.any isBlank = false := by
  obtain ⟨parts, frontBlank, starts⟩ := (@span_iff isBlank text _ _).1 ⟨rfl, rfl⟩
  obtain ⟨behind, rest, behindBlank⟩ := stripEnd_parts (stripStart text)
  have ends : (strip text).getLast?.any isBlank = false := by
    rw [strip, stripEnd, List.getLast?_reverse]
    have stops := List.head?_dropWhile_not isBlank (stripStart text).reverse
    cases found : ((stripStart text).reverse.dropWhile isBlank).head? with
    | none => rfl
    | some c => simpa [found] using stops
  refine ⟨text.takeWhile isBlank, behind, ?_, ?_, ?_, ends⟩
  next =>
    rw [strip, ← rest]
    exact parts
  next =>
    intro c member
    rcases List.mem_append.1 member with inFront | inBehind
    next => exact frontBlank c inFront
    next => exact behindBlank c inBehind
  next =>
    have whole : stripStart text = strip text ++ behind := rest
    cases shown : strip text with
    | nil => rfl
    | cons c tail =>
      have head : (stripStart text).head?.any isBlank = false := starts
      rw [whole, shown] at head
      exact head

theorem dropTrailingEquals_eq (text : List Char) : dropTrailingEquals text = text.rdropWhile (· == '=') := rfl

theorem compact_dropTrailingEquals (spacing : text.IsChain Spacing) (ends : text.getLast?.any isSpace = false) :
    (dropTrailingEquals text).getLast?.any isSpace = false ∧
      compact (dropTrailingEquals text) = dropTrailingEquals (compact text) := by
  have equalsTight : isSpace '=' = false ∧ isTight '=' = true := by decide
  induction text using List.reverseRecOn with
  | nil => exact ⟨rfl, rfl⟩
  | append_singleton text c ih =>
    by_cases equals : c = '='
    next =>
      subst equals
      have dropped (text : List Char) : dropTrailingEquals (text ++ ['=']) = dropTrailingEquals text := by
        rw [dropTrailingEquals_eq, List.rdropWhile_concat_pos _ _ _ (by simp)]
        rfl
      have inner : text.getLast?.any isSpace = false := by
        cases last : text.getLast? with
        | none => rfl
        | some d =>
          obtain ⟨front, rfl⟩ := List.getLast?_eq_some_iff.1 last
          have related : Spacing d '=' := by
            have pair : [d, '='].IsChain Spacing := spacing.suffix ⟨front, by simp⟩
            exact pair.rel
          cases space : isSpace d with
          | false => simpa using space
          | true => exact absurd equalsTight.2 (by simp [(related.1 space).2])
      have front := spacing.prefix (List.prefix_append _ _)
      have rest := ih front inner
      rw [dropped, compact_append, compact_cons equalsTight.1, show compact [] = [] from rfl, dropped]
      exact rest
    next =>
      have other : isSpace c = false := by simpa using ends
      have kept (text : List Char) : dropTrailingEquals (text ++ [c]) = text ++ [c] := by
        rw [dropTrailingEquals_eq, List.rdropWhile_concat_neg _ _ _ (by simpa using equals)]
      rw [kept, compact_append, compact_cons other, show compact [] = [] from rfl, kept]
      exact ⟨ends, rfl⟩

end Ends

theorem clean_of_canonical {text : List Char} (canonical : Canonical text) : clean text = text := by
  have spaceEnds : text.getLast?.any isSpace = false := by
    cases last : text.getLast? with
    | none => rfl
    | some c =>
      have ends := canonical.ends
      rw [last] at ends
      cases space : isSpace c with
      | false => simpa using space
      | true => exact absurd (isBlank_of_isSpace space) (by simpa using ends)
  have stripped := strip_of_ends canonical.starts canonical.ends
  have kept : dropTrailingEquals text = text := by
    rw [dropTrailingEquals_eq, List.rdropWhile_eq_self_iff]
    intro present
    have last := canonical.unequal
    rw [List.getLast?_eq_some_getLast present] at last
    simpa using fun same => last (congrArg some same)
  have trimmed : trim none text = text :=
    trim_spaced canonical.spacing canonical.spaces (by simp) spaceEnds
  rw [clean_eq, trimmed, stripped, collapse_unrepeated canonical.operators, kept, stripped]

section Plain

variable {text : List Char}

def Plain (text : List Char) : Prop :=
  forall c, c ∈ text -> isBlank c = true -> isSpace c = true

theorem plain_trim (plain : Plain text) (before : Option Char) : Plain (trim before text) := by
  intro c member blank
  by_contra other
  have inCompact : c ∈ compact (trim before text) := List.mem_filter.2 ⟨member, by simpa using other⟩
  rw [compact_trim] at inCompact
  exact other (plain c (List.mem_filter.1 inCompact).1 blank)

theorem Plain.strip_infix (plain : Plain text) : strip text <:+: text ∧ compact (strip text) = compact text := by
  obtain ⟨front, behind, parts, blank, _⟩ := strip_parts text
  have gone {edge : List Char} (inText : edge ⊆ text) (inBlank : edge ⊆ front ++ behind) : compact edge = [] :=
    List.filter_eq_nil_iff.2 fun c member => by simp [plain c (inText member) (blank c (inBlank member))]
  refine ⟨⟨front, behind, by rw [List.append_assoc]; exact parts.symm⟩, ?_⟩
  have noFront : compact front = [] := by
    refine gone ?_ (List.subset_append_left _ _)
    rw [parts]
    exact List.subset_append_left _ _
  have noBehind : compact behind = [] := by
    refine gone ?_ (List.subset_append_right _ _)
    rw [parts, ← List.append_assoc]
    exact List.subset_append_right _ _
  have whole := congrArg compact parts
  rw [compact_append, compact_append, noFront, noBehind, List.nil_append, List.append_nil] at whole
  exact whole.symm

theorem dropTrailingEquals_starts (text : List Char) : dropTrailingEquals text <+: text := by
  rw [dropTrailingEquals_eq]
  exact List.rdropWhile_prefix _ _

theorem dropTrailingEquals_last (text : List Char) : (dropTrailingEquals text).getLast? ≠ some '=' := by
  intro last
  have present : dropTrailingEquals text ≠ [] := by
    intro empty
    rw [empty] at last
    cases last
  have other := List.rdropWhile_last_not (· == '=') text present
  rw [List.getLast?_eq_some_getLast present] at last
  exact other (beq_iff_eq.2 (Option.some.inj last))

theorem canonical_dropped {text : List Char} (plain : Plain text) (spacing : text.IsChain Spacing)
    (spaces : forall c, c ∈ text -> isSpace c = true -> c = ' ') (operators : text.IsChain Unrepeated)
    (starts : text.head?.any isBlank = false) (ends : text.getLast?.any isSpace = false) :
    Canonical (dropTrailingEquals text) where
  spacing := spacing.prefix (dropTrailingEquals_starts text)
  spaces := fun c member => spaces c ((dropTrailingEquals_starts text).subset member)
  operators := operators.prefix (dropTrailingEquals_starts text)
  starts := by
    obtain ⟨behind, whole⟩ := dropTrailingEquals_starts text
    generalize dropTrailingEquals text = kept at whole
    cases kept with
    | nil => rfl
    | cons c kept => rwa [← whole] at starts
  ends := by
    have last := (compact_dropTrailingEquals spacing ends).1
    cases same : (dropTrailingEquals text).getLast? with
    | none => rfl
    | some c =>
      rw [same] at last
      have inText := (dropTrailingEquals_starts text).subset (List.mem_of_getLast? same)
      cases blank : isBlank c with
      | false => simpa using blank
      | true => exact absurd (plain c inText blank) (by simpa using last)
  unequal := dropTrailingEquals_last text

end Plain

/-- Cleaning brings a text into canonical form. Of its characters other than white space it leaves out
all but the first of each run of an operator, and then the equals signs at the end. Cleaning again
changes nothing. -/
theorem clean_canonical {text : List Char} (plain : forall c, c ∈ separators -> c ∉ text) :
    Canonical (clean text) ∧
      compact (clean text) = ((compact text).destutter Unrepeated).rdropWhile (· == '=') ∧
      clean (clean text) = clean text := by
  have plain : Plain text := fun c member blank =>
    (blank_cases blank).resolve_right fun separator => plain c separator member
  have trimmed := plain_trim plain none
  obtain ⟨inside, shown⟩ := trimmed.strip_infix
  obtain ⟨_, _, _, _, starts, ends⟩ := strip_parts (trim none text)
  rw [compact_trim] at shown
  have spaces := fun c member => trim_spaces none text c (inside.subset member)
  have stripped : Plain (strip (trim none text)) := fun c member => trimmed c (inside.subset member)
  have spacing := List.IsChain.infix (trim_spacing none text) inside
  rw [clean_eq]
  generalize strip (trim none text) = shownText at *
  have sublist := collapse_sublist shownText
  have collapsed := compact_collapse spacing
  have operators : (collapse none shownText).IsChain Unrepeated := by
    rw [collapse_eq_destutter]
    exact List.isChain_destutter Unrepeated shownText
  have last : (collapse none shownText).getLast?.any isSpace = false := by
    rw [collapse_last]
    cases same : shownText.getLast? with
    | none => rfl
    | some c =>
      rw [same] at ends
      cases space : isSpace c with
      | false => simpa using space
      | true => exact absurd (isBlank_of_isSpace space) (by simpa using ends)
  have canonical := canonical_dropped (fun c member => stripped c (sublist.subset member)) (collapse_chain spacing)
    (fun c member => spaces c (sublist.subset member)) operators (by rwa [collapse_head]) last
  rw [strip_of_ends canonical.starts canonical.ends]
  refine ⟨canonical, ?_, clean_of_canonical canonical⟩
  rw [(compact_dropTrailingEquals (collapse_chain spacing) last).2, collapsed, shown, collapse_eq_destutter]
  rfl

theorem clean_canonical_stray :
    (forall c, c ∈ separators -> c ∉ " 5  +  + 3 = ".toList) ∧ Canonical (clean " 5  +  + 3 = ".toList) ∧
      compact (clean " 5  +  + 3 = ".toList) = "5+3".toList := by
  have plain : forall c, c ∈ separators -> c ∉ " 5  +  + 3 = ".toList := by decide
  obtain ⟨canonical, same, _⟩ := clean_canonical plain
  exact ⟨plain, canonical, same.trans (by decide +kernel)⟩

end SpokenArithmetic.Phrase
