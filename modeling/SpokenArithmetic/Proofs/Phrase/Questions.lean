import SpokenArithmetic.Proofs.Phrase.Answered
import SpokenArithmetic.Proofs.Phrase.Normalized

set_option autoImplicit false

namespace SpokenArithmetic.Phrase

open Number Text

section Questions

/-- An operand of a question: a numeral as it is typed, or a number below a thousand in words. -/
inductive Operand where
  | typed (text : String) (numeral : TypedNumeral text.toList)
  | spoken (value : Nat) (small : value < 1000)

namespace Operand

def phrase : Operand -> String
  | typed text _ => text
  | spoken value _ => cardinal value

def written : Operand -> String
  | typed text _ => text
  | spoken value _ => toString value

def items : Operand -> List (List Char)
  | typed text _ => [text.toList]
  | spoken value _ => (cardinalWords value).map numberWord

def results : Operand -> List (List Char)
  | typed text _ => [text.toList]
  | spoken value _ => (cardinalWords value).map toDigits

end Operand

def openings : List String :=
  ["what is", "what's", "calculate", "compute"]

structure Question where
  opening : Option String
  first : Operand
  others : List (Lexicon.Entry × Operand)
  equals : Bool
  opens : forall filler, opening = some filler -> filler ∈ openings
  signs : forall other, other ∈ others -> other.1 ∈ signPhrases

namespace Question

def words (question : Question) : List String :=
  question.opening.toList ++
    (question.first.phrase :: question.others.flatMap fun other => [other.1.1, other.2.phrase]) ++
    if question.equals then ["equals"] else []

def phrase (question : Question) : String :=
  " ".intercalate question.words

def expression (question : Question) : String :=
  question.first.written ++ String.join (question.others.map fun other => other.1.2 ++ other.2.written)

end Question

end Questions

section Operands

namespace Operand

variable (operand : Operand)

theorem items_ne_nil : operand.items ≠ [] := by
  cases operand with
  | typed text numeral => simp [items]
  | spoken value small => simp [items, cardinalWords_ne_nil]

theorem results_ne_nil : operand.results ≠ [] := by
  cases operand with
  | typed text numeral => simp [results]
  | spoken value small => simp [results, cardinalWords_ne_nil]

theorem phrase_items : operand.phrase.toList = spaced operand.items := by
  cases operand with
  | typed text numeral => simp [phrase, items, spaced, following]
  | spoken value small => simp [phrase, items, cardinal]

theorem heard : List.Forall₂ Heard operand.items operand.results := by
  cases operand with
  | typed text numeral => exact .cons numeral.heard .nil
  | spoken value small =>
    rw [items, results, List.forall₂_map_left_iff, List.forall₂_map_right_iff, List.forall₂_same]
    exact fun word member => heard_numberWord (mem_cardinalWords (by omega) member)

theorem numeric : Numeric operand.written.toList := by
  cases operand with
  | typed text numeral => exact numeral.numeric
  | spoken value small =>
    rw [written, shown_toDigits]
    exact numeric_digits (isDigits_toDigits value)

theorem compound_results : compound (spaced operand.results) = operand.written.toList := by
  cases operand with
  | typed text numeral =>
    have one : spaced [text.toList] = text.toList := by simp [spaced, following]
    rw [results, one]
    exact compound_solid numeral.numeric.solid
  | spoken value small =>
    have round : RoundThousands value := .inl (by omega)
    rw [results, compound_spaced (allDigits_map _), compound_round (by omega) round, written, shown_toDigits]
    simp [spaced, following]

theorem quiet_results : Quiet (spaced operand.results) := by
  cases operand with
  | typed text numeral =>
    have one : spaced [text.toList] = text.toList := by simp [spaced, following]
    rw [results, one]
    exact quiet_solid numeral.numeric.solid
  | spoken value small =>
    apply quiet_short
    exact Nat.le_trans (length_cardinalDigits (by omega)) (by decide)

end Operand

end Operands

section Meaning

theorem spaced_flatten {groups : List (List (List Char))} (present : forall group, group ∈ groups -> group ≠ []) :
    spaced (groups.map spaced) = spaced groups.flatten := by
  induction groups with
  | nil => rfl
  | cons group groups ih =>
    have rest := ih fun other member => present other (List.mem_cons_of_mem _ member)
    cases groups with
    | nil => simp [spaced, following]
    | cons next groups =>
      have some : next ≠ [] := present next (by simp)
      have front : group ≠ [] := present group List.mem_cons_self
      have split : spaced ((group :: next :: groups).map spaced) =
          spaced group ++ ' ' :: spaced ((next :: groups).map spaced) := by
        simp [spaced, following]
      have flattened : (group :: next :: groups).flatten = group ++ (next :: groups).flatten := List.flatten_cons
      rw [split, rest, flattened, spaced_append front (by simp [some])]

theorem spaced_eq_intercalate (items : List (List Char)) : spaced items = [' '].intercalate items := by
  induction items with
  | nil => rfl
  | cons item rest ih =>
    cases rest with
    | nil => simp [spaced, following]
    | cons next rest =>
      rw [List.intercalate_cons_cons, ← ih]
      simp [spaced, following]

namespace Question

variable (question : Question)

def items : List (List Char) :=
  question.opening.toList.map String.toList ++
    (question.first.items ++ question.others.flatMap fun other => other.1.1.toList :: other.2.items) ++
    if question.equals then ["equals".toList] else []

def operands : List (Char × Operand) :=
  question.others.map fun other => (signOf other.1, other.2)

def results : List (List Char) :=
  (question.opening.toList.map fun _ => []) ++
    (question.first.results ++ question.operands.flatMap fun other => [' ', other.1, ' '] :: other.2.results) ++
    if question.equals then [['=']] else []

def lead : List Char :=
  if question.opening.isSome then [' '] else []

def tail : List Char :=
  if question.equals then [' ', '='] else []

theorem frame : Frame question.lead question.tail := by
  constructor
  next => unfold lead; split <;> simp
  next => unfold tail; split <;> simp

def groups : List (List (List Char)) :=
  question.opening.toList.map (fun filler => [filler.toList]) ++
    (question.first.items :: question.others.flatMap fun other => [[other.1.1.toList], other.2.items]) ++
    if question.equals then [["equals".toList]] else []

theorem group_ne_nil : forall group, group ∈ question.groups -> group ≠ [] := by
  intro group member
  simp only [groups, List.mem_append, List.mem_map, List.mem_cons, List.mem_flatMap] at member
  rcases member with (⟨_, _, rfl⟩ | rfl | ⟨other, _, rfl | rfl | absurd⟩) | closing
  next => simp
  next => exact question.first.items_ne_nil
  next => simp
  next => exact other.2.items_ne_nil
  next => cases absurd
  next =>
    split at closing
    next =>
      obtain rfl := List.mem_singleton.1 closing
      simp
    next => cases closing

theorem groups_flatten : question.groups.flatten = question.items := by
  have opening : (question.opening.toList.map fun filler => [filler.toList]).flatten =
      question.opening.toList.map String.toList := by
    cases question.opening <;> rfl
  have closing : (if question.equals then [["equals".toList]] else []).flatten =
      if question.equals then ["equals".toList] else [] := by
    split <;> rfl
  have operands (others : List (Lexicon.Entry × Operand)) :
      (others.flatMap fun other => [[other.1.1.toList], other.2.items]).flatten =
        others.flatMap fun other => other.1.1.toList :: other.2.items := by
    induction others with
    | nil => rfl
    | cons other others ih => simp [ih]
  simp only [groups, items, List.flatten_append, List.flatten_cons, opening, closing, operands]

theorem words_groups : question.words.map String.toList = question.groups.map spaced := by
  have opening : question.opening.toList.map String.toList =
      (question.opening.toList.map fun filler => [filler.toList]).map spaced := by
    simp [spaced, following]
  have closing : (if question.equals then ["equals"] else []).map String.toList =
      (if question.equals then [["equals".toList]] else []).map spaced := by
    split <;> simp [spaced, following]
  have operands (others : List (Lexicon.Entry × Operand)) :
      (others.flatMap fun other => [other.1.1, other.2.phrase]).map String.toList =
        (others.flatMap fun other => [[other.1.1.toList], other.2.items]).map spaced := by
    rw [List.map_flatMap, List.map_flatMap]
    simp only [List.flatMap_def]
    refine congrArg List.flatten (List.map_congr_left fun other _ => ?_)
    simp [other.2.phrase_items, spaced, following]
  simp only [words, groups, List.map_append, List.map_cons, opening, operands, closing, question.first.phrase_items]

theorem phrase_items : question.phrase.toList = spaced question.items := by
  rw [phrase, String.toList_intercalate, question.words_groups, ← question.groups_flatten,
    ← spaced_flatten question.group_ne_nil, spaced_eq_intercalate]
  rfl

theorem heard : List.Forall₂ Heard question.items question.results := by
  have fillers : forall filler, filler ∈ openings -> Heard filler.toList [] := by decide +kernel
  have equals : Heard "equals".toList ['='] := by decide +kernel
  apply List.rel_append
  next =>
    apply List.rel_append
    next =>
      cases opening : question.opening with
      | none => exact .nil
      | some filler => exact .cons (fillers filler (question.opens filler opening)) .nil
    next =>
      apply List.rel_append question.first.heard
      have signs := question.signs
      rw [operands]
      generalize question.others = others at signs ⊢
      induction others with
      | nil => exact .nil
      | cons other others ih =>
        have sign := signs other List.mem_cons_self
        have heard := heard_sign sign
        rw [(signs_of_phrase sign).1] at heard
        exact .cons heard
          (List.rel_append other.2.heard (ih fun other member => signs other (List.mem_cons_of_mem _ member)))
  next =>
    split
    next => exact .cons equals .nil
    next => exact .nil

theorem spaced_results : spaced question.results =
    question.lead ++ (operation divider (spaced question.first.results)
      (spacedOperands (question.operands.map fun other => (other.1, other.2.results))) ++ question.tail) := by
  have middle := @spaced_operation question.first.results
    (question.operands.map fun other => (other.1, other.2.results)) question.first.results_ne_nil (by
      intro other member
      obtain ⟨given, _, rfl⟩ := List.mem_map.1 member
      exact given.2.results_ne_nil)
  rw [List.flatMap_map] at middle
  rw [← middle, results, lead, tail]
  generalize body : question.first.results ++ _ = rest
  have present : rest ≠ [] := by simp [← body, question.first.results_ne_nil]
  have closing : spaced (rest ++ if question.equals then [['=']] else []) =
      spaced rest ++ if question.equals then [' ', '='] else [] := by
    split
    next =>
      rw [spaced_append present (by simp)]
      simp [spaced, following]
    next => simp
  cases question.opening with
  | none => simpa using closing
  | some filler =>
    have split := @spaced_append [[]] (rest ++ if question.equals then [['=']] else []) (by simp) (by simp [present])
    rw [closing] at split
    simpa [spaced, following] using split

theorem operand_signs : forall other, other ∈ question.operands -> Signs other.1 := by
  intro other member
  obtain ⟨entry, inOthers, rfl⟩ := List.mem_map.1 member
  exact (signs_of_phrase (question.signs entry inOthers)).2

theorem arithmetic : Arithmetic question.first.written.toList
    (question.operands.map fun other => (other.1, other.2.written.toList)) where
  numeric := question.first.numeric
  operators other member := by
    obtain ⟨given, inOperands, rfl⟩ := List.mem_map.1 member
    exact (question.operand_signs given inOperands).operator
  othersNumeric other member := by
    obtain ⟨given, _, rfl⟩ := List.mem_map.1 member
    exact given.2.numeric

theorem expression_eq : question.expression = String.ofList (operation (fun symbol => [symbol])
    question.first.written.toList (question.operands.map fun other => (other.1, other.2.written.toList))) := by
  rw [← String.toList_inj, String.toList_ofList, expression, String.toList_append, operation, String.toList_join,
    List.flatMap_map, List.flatMap_map, operands, List.flatMap_map]
  simp only [List.flatMap_def]
  refine congrArg (_ ++ ·) (congrArg List.flatten (List.map_congr_left fun other member => ?_))
  rw [String.toList_append, (signs_of_phrase (question.signs other member)).1]

/-- A question, in letters of any case, comes to its operands with the signs between them, and its
answer is the answer to that. -/
theorem calculatesAs_expression (question : Question) {phrase : String}
    (same : lower phrase.toList = question.phrase.toList) : CalculatesAs phrase question.expression := by
  have arithmetic := question.arithmetic
  have frame := question.frame
  have compounded : compound (spaced question.results) =
      question.lead ++ (operation divider question.first.written.toList
        (question.operands.map fun other => (other.1, other.2.written.toList)) ++ question.tail) := by
    rw [question.spaced_results, compound_framed frame, compound_operation, question.first.compound_results]
    next =>
      simp only [spacedOperands, List.map_map, Function.comp_def, Operand.compound_results]
    next =>
      intro other member
      simp only [spacedOperands, List.map_map, List.mem_map, Function.comp_def] at member
      obtain ⟨given, inOperands, rfl⟩ := member
      exact divides_of_arithmetic (question.operand_signs given inOperands).operator
  have quiet : Quiet (spaced question.results) := by
    rw [question.spaced_results]
    apply Quiet.framed _ frame
    apply quiet_operation question.first.quiet_results
    next =>
      intro other member
      simp only [spacedOperands, List.map_map, List.mem_map, Function.comp_def] at member
      obtain ⟨given, _, rfl⟩ := member
      exact given.2.quiet_results
    next =>
      intro other member
      simp only [spacedOperands, List.map_map, List.mem_map, Function.comp_def] at member
      obtain ⟨given, inOperands, rfl⟩ := member
      exact divides_of_arithmetic (question.operand_signs given inOperands).operator
  rw [question.expression_eq]
  apply calculatesAs_of_passes question.heard (same.trans question.phrase_items) quiet
  next => rw [compounded, joinPoints_tight (arithmetic.pointsTight frame)]
  next =>
    apply explicit_unstructured
    apply unstructured_flat
    apply arithmetic.flat frame
    intro other member
    obtain ⟨given, inOperands, rfl⟩ := List.mem_map.1 member
    exact question.operand_signs given inOperands
  next => exact arithmetic.formula.quiet frame
  next => rw [arithmetic.formula.compound_eq frame, arithmetic.formula.clean_eq frame]

def everyPart : Question where
  opening := some "what's"
  first := .spoken 12 (by decide)
  others := [(("times", "*"), .typed "2.5" (@TypedNumeral.pointed ['2'] ['5'] (by decide) (by decide) (by decide))),
    (("take away", "-"), .spoken 999 (by decide))]
  equals := true
  opens := by decide
  signs := by decide +kernel

theorem calculatesAs_everyPart :
    everyPart.phrase = "what's twelve times 2.5 take away nine hundred ninety nine equals" ∧
      lower "What's TWELVE times 2.5 Take Away nine hundred ninety nine equals".toList = everyPart.phrase.toList ∧
      CalculatesAs "What's TWELVE times 2.5 Take Away nine hundred ninety nine equals" "12*2.5-999" := by
  have phrase : everyPart.phrase = "what's twelve times 2.5 take away nine hundred ninety nine equals" := by
    decide +kernel
  have same : lower "What's TWELVE times 2.5 Take Away nine hundred ninety nine equals".toList =
      everyPart.phrase.toList := by
    rw [phrase]
    decide +kernel
  have expression : everyPart.expression = "12*2.5-999" := by decide +kernel
  refine ⟨phrase, same, ?_⟩
  rw [← expression]
  exact everyPart.calculatesAs_expression same

end Question

end Meaning

end SpokenArithmetic.Phrase
