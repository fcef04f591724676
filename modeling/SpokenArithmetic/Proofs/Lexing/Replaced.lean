import SpokenArithmetic.Proofs.Lexing.Replacing

set_option autoImplicit false

namespace SpokenArithmetic.Text.Pattern

variable {A : Type}

def Consumes (pattern : Pattern A) : Prop :=
  forall (before : Option Char) (text : List Char) (found : A) (behind : List Char),
    pattern before text = some (found, behind) -> exists stretch, stretch ≠ [] ∧ text = stretch ++ behind

/-- Blocks of a text and what they become, between the character `before` and the text `after`. -/
inductive Replaced (pattern : Pattern A) (render : A -> List Char) :
    (before : Option Char) -> (text out after : List Char) -> Prop where
  | nil {before : Option Char} {after : List Char} : Replaced pattern render before [] [] after
  | copied {before : Option Char} {c : Char} {text out after : List Char}
    (unmatched : pattern before (c :: (text ++ after)) = none)
    (rest : Replaced pattern render (some c) text out after) :
    Replaced pattern render before (c :: text) (c :: out) after
  | found {before : Option Char} {stretch text out after : List Char} {result : A} (present : stretch ≠ [])
    (matched : pattern before (stretch ++ (text ++ after)) = some (result, text ++ after))
    (rest : Replaced pattern render (lastBehind before stretch) text out after) :
    Replaced pattern render before (stretch ++ text) (render result ++ out) after

variable {pattern : Pattern A} {render : A -> List Char} {before : Option Char} {text out after : List Char}

theorem replaced_replaceFrom (consumes : pattern.Consumes) (before : Option Char) (text : List Char) :
    Replaced pattern render before text (replaceFrom pattern render before 0 text) [] := by
  generalize size : text.length = count
  induction count using Nat.strongRecOn generalizing before text with
  | ind count ih =>
    cases text with
    | nil => exact .nil
    | cons c rest =>
      cases matched : pattern before (c :: rest) with
      | none =>
        rw [replaceFrom, matched]
        refine .copied (by rwa [List.append_nil]) (ih _ ?_ _ _ rfl)
        rw [← size]
        exact Nat.lt_succ_self _
      | some pair =>
        obtain ⟨stretch, present, same⟩ := consumes _ _ _ _ matched
        rw [same] at matched size ⊢
        rw [replaceFrom_matched present matched]
        refine .found present (by rwa [List.append_nil]) (ih _ ?_ _ _ rfl)
        have some := List.length_pos_iff.2 present
        rw [List.length_append] at size
        omega

theorem replaced_replace (consumes : pattern.Consumes) (text : List Char) :
    Replaced pattern render none text (replace pattern render text) [] :=
  replaced_replaceFrom consumes none text

namespace Replaced

theorem cons_cases {c : Char} (replaced : Replaced pattern render before text (c :: out) after) :
    (exists rest, text = c :: rest ∧ pattern before (c :: (rest ++ after)) = none ∧
        Replaced pattern render (some c) rest out after) ∨
      exists stretch rest result shown, text = stretch ++ rest ∧ c :: out = render result ++ shown ∧
        stretch ≠ [] ∧ pattern before (stretch ++ (rest ++ after)) = some (result, rest ++ after) ∧
        Replaced pattern render (lastBehind before stretch) rest shown after := by
  generalize same : c :: out = whole at replaced
  cases replaced with
  | nil => cases same
  | copied unmatched rest =>
    obtain ⟨rfl, rfl⟩ := List.cons.inj same
    exact .inl ⟨_, rfl, unmatched, rest⟩
  | found present matched rest => exact .inr ⟨_, _, _, _, rfl, rfl, present, matched, rest⟩

theorem snoc_cases (replaced : Replaced pattern render before text out after) :
    (text = [] ∧ out = []) ∨
      (exists front shown c, text = front ++ [c] ∧ out = shown ++ [c] ∧
        pattern (lastBehind before front) (c :: after) = none ∧
        Replaced pattern render before front shown (c :: after)) ∨
      exists front stretch shown result, text = front ++ stretch ∧ out = shown ++ render result ∧
        stretch ≠ [] ∧ pattern (lastBehind before front) (stretch ++ after) = some (result, after) ∧
        Replaced pattern render before front shown (stretch ++ after) := by
  induction replaced with
  | nil => exact .inl ⟨rfl, rfl⟩
  | @copied before c text out after unmatched rest ih =>
    rcases ih with ⟨rfl, rfl⟩ | ⟨front, shown, d, rfl, rfl, none, blocks⟩ |
      ⟨front, stretch, shown, result, rfl, rfl, present, matched, blocks⟩
    next => exact .inr (.inl ⟨[], [], c, rfl, rfl, unmatched, .nil⟩)
    next =>
      refine .inr (.inl ⟨c :: front, c :: shown, d, rfl, rfl, none, .copied ?_ blocks⟩)
      rwa [List.append_assoc] at unmatched
    next =>
      refine .inr (.inr ⟨c :: front, stretch, c :: shown, result, rfl, rfl, present, matched, .copied ?_ blocks⟩)
      rwa [List.append_assoc] at unmatched
  | @found before stretch text out after result present matched rest ih =>
    rcases ih with ⟨rfl, rfl⟩ | ⟨front, shown, d, rfl, rfl, none, blocks⟩ |
      ⟨front, more, shown, last, rfl, rfl, some, lastMatched, blocks⟩
    next => exact .inr (.inr ⟨[], stretch, [], result, by simp, by simp, present, matched, .nil⟩)
    next =>
      refine .inr (.inl ⟨stretch ++ front, render result ++ shown, d, by simp, by simp, ?_, .found present ?_ blocks⟩)
      next => rwa [lastBehind_append]
      next => simpa using matched
    next =>
      refine .inr (.inr ⟨stretch ++ front, more, render result ++ shown, last, by simp, by simp, some, ?_,
        .found present ?_ blocks⟩)
      next => rwa [lastBehind_append]
      next => simpa using matched

theorem cut {front' rest' : List Char} (replaced : Replaced pattern render before text (front' ++ rest') after) :
    (exists front rest, text = front ++ rest ∧ Replaced pattern render before front front' (rest ++ after) ∧
        Replaced pattern render (lastBehind before front) rest rest' after) ∨
      exists front stretch rest result shown one two shownBehind, text = front ++ (stretch ++ rest) ∧
        front' = shown ++ one ∧ rest' = two ++ shownBehind ∧ render result = one ++ two ∧ one ≠ [] ∧ two ≠ [] ∧
        pattern (lastBehind before front) (stretch ++ (rest ++ after)) = some (result, rest ++ after) ∧
        Replaced pattern render (lastBehind before (front ++ stretch)) rest shownBehind after := by
  generalize whole : front' ++ rest' = out at replaced
  induction replaced generalizing front' with
  | nil =>
    obtain ⟨rfl, rfl⟩ := List.append_eq_nil_iff.1 whole
    exact .inl ⟨[], [], rfl, .nil, .nil⟩
  | @copied before c text out after unmatched rest ih =>
    cases front' with
    | nil =>
      obtain rfl := whole
      exact .inl ⟨[], c :: text, rfl, .nil, .copied unmatched rest⟩
    | cons d front' =>
      obtain ⟨rfl, same⟩ := List.cons.inj whole
      rcases ih same with ⟨front, tail, rfl, blocks, others⟩ |
        ⟨front, stretch, tail, result, shown, one, two, behind, rfl, rfl, rfl, parts, some, more, matched, others⟩
      next =>
        refine .inl ⟨d :: front, tail, rfl, .copied ?_ blocks, others⟩
        rwa [List.append_assoc] at unmatched
      next =>
        exact .inr ⟨d :: front, stretch, tail, result, d :: shown, one, two, behind, rfl, rfl, rfl, parts, some, more,
          matched, others⟩
  | @found before stretch text out after result present matched rest ih =>
    rcases List.append_eq_append_iff.1 whole with ⟨two, parts, rfl⟩ | ⟨shown, rfl, same⟩
    next =>
      -- The cut does not lie behind the rendering.
      cases front' with
      | nil =>
        rw [List.nil_append] at parts
        subst parts
        exact .inl ⟨[], stretch ++ text, rfl, .nil, .found present matched rest⟩
      | cons d front' =>
        cases two with
        | nil =>
          rw [List.append_nil] at parts
          refine .inl ⟨stretch, text, rfl, ?_, rest⟩
          have blocks : Replaced pattern render before (stretch ++ []) (render result ++ []) (text ++ after) :=
            .found present matched .nil
          rw [List.append_nil, List.append_nil, parts] at blocks
          exact blocks
        | cons e two =>
          exact .inr ⟨[], stretch, text, result, [], d :: front', e :: two, out, rfl, rfl, rfl, parts, by simp, by simp,
            matched, rest⟩
    next =>
      rcases ih same.symm with ⟨front, tail, rfl, blocks, others⟩ |
        ⟨front, inner, tail, last, others, one, two, behind, rfl, rfl, rfl, parts, some, more, lastMatched, blocks⟩
      next =>
        refine .inl ⟨stretch ++ front, tail, by simp, .found present ?_ blocks, ?_⟩
        next => simpa using matched
        next => rwa [lastBehind_append]
      next =>
        refine .inr ⟨stretch ++ front, inner, tail, last, render result ++ others, one, two, behind, by simp, by simp, rfl,
          parts, some, more, ?_, ?_⟩
        next => rwa [lastBehind_append]
        next => rwa [List.append_assoc, lastBehind_append]

theorem copied_stretch {starts : Char -> Prop}
    (heads : forall {before : Option Char} {text behind : List Char} {result : A},
      pattern before text = some (result, behind) -> exists c rest, starts c ∧ render result = c :: rest)
    {stretch : List Char} (others : forall c, c ∈ stretch -> ¬starts c)
    (replaced : Replaced pattern render before text (stretch ++ out) after) :
    exists rest, text = stretch ++ rest ∧ Replaced pattern render (lastBehind before stretch) rest out after := by
  induction stretch generalizing before text with
  | nil => exact ⟨text, rfl, replaced⟩
  | cons c stretch ih =>
    rcases replaced.cons_cases with ⟨rest, rfl, _, blocks⟩ | ⟨_, _, result, shown, _, same, _, matched, _⟩
    next =>
      obtain ⟨tail, rfl, later⟩ := ih (fun d member => others d (List.mem_cons_of_mem c member)) blocks
      exact ⟨tail, rfl, later⟩
    next =>
      obtain ⟨d, rest, start, rendered⟩ := heads matched
      rw [rendered] at same
      obtain ⟨rfl, _⟩ := List.cons.inj same
      exact absurd start (others _ List.mem_cons_self)

end Replaced

end SpokenArithmetic.Text.Pattern
