import SpokenArithmetic.Text.Pattern

set_option autoImplicit false

namespace SpokenArithmetic.Text

def lastBehind : (before : Option Char) -> (text : List Char) -> Option Char
  | before, [] => before
  | _, c :: rest => lastBehind (some c) rest

theorem lastBehind_append (before : Option Char) (front rest : List Char) :
    lastBehind before (front ++ rest) = lastBehind (lastBehind before front) rest := by
  induction front generalizing before with
  | nil => rfl
  | cons c front ih => exact ih (some c)

theorem lastBehind_concat (before : Option Char) (front : List Char) (c : Char) :
    lastBehind before (front ++ [c]) = some c := by
  rw [lastBehind_append]
  rfl

theorem lastBehind_eq_getLast? {before : Option Char} {text : List Char} (present : text ≠ []) :
    lastBehind before text = text.getLast? := by
  induction text generalizing before with
  | nil => exact absurd rfl present
  | cons c rest ih =>
    cases rest with
    | nil => rfl
    | cons d rest =>
      rw [List.getLast?_cons_cons]
      exact @ih (some c) (by simp)

theorem lastBehind_none (text : List Char) : lastBehind none text = text.getLast? := by
  cases text with
  | nil => rfl
  | cons => exact lastBehind_eq_getLast? (by simp)

namespace Pattern

variable {A : Type}

/-- Nothing is found at any place of a stretch that stands between a character and a text. -/
def Passes (pattern : Pattern A) : (before : Option Char) -> (stretch rest : List Char) -> Prop
  | _, [], _ => True
  | before, c :: stretch, rest =>
    pattern before (c :: stretch ++ rest) = none ∧ Passes pattern (some c) stretch rest

def StartsWith (pattern : Pattern A) (render : A -> List Char) (starts : List Char) : Prop :=
  forall (before : Option Char) (text : List Char) (found : A) (behind : List Char),
    pattern before text = some (found, behind) -> exists c rest, c ∈ starts ∧ render found = c :: rest

section Replacement

variable {pattern : Pattern A} {render : A -> List Char} {before : Option Char}

theorem passes_of_places {stretch rest : List Char}
    (places : forall front tail, stretch = front ++ tail -> tail ≠ [] ->
      pattern (lastBehind before front) (tail ++ rest) = none) :
    pattern.Passes before stretch rest := by
  induction stretch generalizing before with
  | nil => trivial
  | cons c stretch ih =>
    constructor
    next => exact places [] (c :: stretch) rfl (by simp)
    next => exact ih fun front tail same => places (c :: front) tail (by rw [same]; rfl)

theorem passes_barred {isBarred : Char -> Bool} {stretch rest : List Char} {c : Char}
    (barred : isBarred c = true) (all : forall d, d ∈ stretch -> isBarred d = true) :
    (unlessBehind isBarred pattern).Passes (some c) stretch rest := by
  induction stretch generalizing c with
  | nil => trivial
  | cons d stretch ih =>
    constructor
    next => simp [unlessBehind, barred]
    next => exact ih (all d (by simp)) fun e member => all e (by simp [member])

theorem passes_of_unmatched {stretch rest : List Char}
    (unmatched : forall before c tail, c ∈ stretch -> pattern before (c :: tail) = none) :
    pattern.Passes before stretch rest := by
  induction stretch generalizing before with
  | nil => trivial
  | cons c stretch ih =>
    constructor
    next => exact unmatched before c (stretch ++ rest) (by simp)
    next => exact ih fun before d tail member => unmatched before d tail (by simp [member])

theorem replaceFrom_passed {stretch rest : List Char} (passes : pattern.Passes before stretch rest) :
    replaceFrom pattern render before 0 (stretch ++ rest) =
      stretch ++ replaceFrom pattern render (lastBehind before stretch) 0 rest := by
  induction stretch generalizing before with
  | nil => rfl
  | cons c stretch ih =>
    obtain ⟨none, passes⟩ := passes
    simp only [List.cons_append, lastBehind] at none ⊢
    rw [replaceFrom, none]
    exact congrArg (c :: ·) (ih passes)

theorem replaceFrom_skipped (skipped rest : List Char) :
    replaceFrom pattern render before skipped.length (skipped ++ rest) =
      replaceFrom pattern render (lastBehind before skipped) 0 rest := by
  induction skipped generalizing before with
  | nil => rfl
  | cons c skipped ih => exact ih

theorem replaceFrom_matched {stretch behind : List Char} {found : A} (present : stretch ≠ [])
    (matched : pattern before (stretch ++ behind) = some (found, behind)) :
    replaceFrom pattern render before 0 (stretch ++ behind) =
      render found ++ replaceFrom pattern render (lastBehind before stretch) 0 behind := by
  cases stretch with
  | nil => exact absurd rfl present
  | cons c stretch =>
    have skipped : (stretch ++ behind).length - behind.length = stretch.length := by simp
    rw [List.cons_append] at matched ⊢
    rw [replaceFrom, matched]
    simp only [skipped, replaceFrom_skipped, lastBehind]

theorem replaceFrom_eq_cons {starts text out : List Char} {c : Char}
    (renders : pattern.StartsWith render starts) (other : c ∉ starts)
    (same : replaceFrom pattern render before 0 text = c :: out) :
    exists rest, text = c :: rest ∧ out = replaceFrom pattern render (some c) 0 rest := by
  cases text with
  | nil => cases same
  | cons d rest =>
    rw [replaceFrom] at same
    split at same
    next found behind matched =>
      obtain ⟨start, tail, member, rendered⟩ := renders _ _ _ _ matched
      rw [rendered] at same
      obtain ⟨rfl, _⟩ := List.cons.inj same
      exact absurd member other
    next =>
      obtain ⟨rfl, rfl⟩ := List.cons.inj same
      exact ⟨rest, rfl, rfl⟩

theorem replaceFrom_all {holds : Char -> Prop} {skip : Nat} {text : List Char}
    (rendered : forall {before : Option Char} {text : List Char} {found : A} {behind : List Char},
      pattern before text = some (found, behind) -> (forall c, c ∈ text -> holds c) ->
        forall c, c ∈ render found -> holds c)
    (all : forall c, c ∈ text -> holds c) :
    forall c, c ∈ replaceFrom pattern render before skip text -> holds c := by
  induction text generalizing before skip with
  | nil => simp [replaceFrom]
  | cons d rest ih =>
    have others : forall c, c ∈ rest -> holds c := fun c member => all c (by simp [member])
    intro c member
    cases skip with
    | succ skip => exact ih others c member
    | zero =>
      rw [replaceFrom] at member
      split at member
      next found behind matched =>
        rcases List.mem_append.1 member with inside | behindIt
        next => exact rendered matched all c inside
        next => exact ih others c behindIt
      next =>
        rcases List.mem_cons.1 member with rfl | later
        next => exact all c (by simp)
        next => exact ih others c later

theorem replaceFrom_before {before' : Option Char} {text : List Char}
    (same : pattern before text = pattern before' text) :
    replaceFrom pattern render before 0 text = replaceFrom pattern render before' 0 text := by
  cases text with
  | nil => rfl
  | cons c rest => rw [replaceFrom, replaceFrom, same]

theorem replaceFrom_everywhere {text : List Char}
    (unseen : forall before text, pattern before text = pattern none text) :
    replaceFrom pattern render before 0 text = replace pattern render text :=
  replaceFrom_before (unseen before text)

theorem replace_of_unmatched {text : List Char}
    (unmatched : forall before tail, tail <:+ text -> pattern before tail = none) :
    replace pattern render text = text := by
  have passes : pattern.Passes none text [] := by
    apply passes_of_places
    intro front tail same _
    rw [List.append_nil]
    exact unmatched _ tail ⟨front, same.symm⟩
  have copied := @replaceFrom_passed _ _ render _ _ _ passes
  simpa [replace, replaceFrom] using copied

theorem replaceFrom_marked {mark : Char} (marks : forall found, mark ∈ render found) (skip : Nat)
    (text : List Char) :
    mark ∈ replaceFrom pattern render before skip text ∨
      replaceFrom pattern render before skip text = text.drop skip := by
  induction text generalizing before skip with
  | nil => exact .inr (by cases skip <;> rfl)
  | cons c rest ih =>
    cases skip with
    | succ skip => exact ih skip
    | zero =>
      rw [replaceFrom]
      split
      next found behind _ => exact .inl (List.mem_append_left _ (marks found))
      next =>
        rcases @ih (some c) 0 with marked | same
        next => exact .inl (List.mem_cons_of_mem c marked)
        next => exact .inr (congrArg (c :: ·) same)

theorem replace_of_needs {needed : Char -> Prop} {text : List Char}
    (needs : forall before rest found behind, pattern before rest = some (found, behind) ->
      exists c, c ∈ rest ∧ needed c)
    (absent : forall c, c ∈ text -> ¬needed c) : replace pattern render text = text := by
  apply replace_of_unmatched
  intro before tail suffix
  cases matched : pattern before tail with
  | none => rfl
  | some pair =>
    obtain ⟨c, member, need⟩ := needs _ _ _ _ matched
    exact absurd need (absent c (suffix.subset member))

theorem drop_behind {shown behind rest : List Char} {c : Char} (same : shown ++ behind = c :: rest)
    (consumed : behind.length <= rest.length) : rest.drop (rest.length - behind.length) = behind := by
  have lengths := congrArg List.length same
  rw [List.length_append, List.length_cons] at lengths
  have suffix := congrArg (List.drop shown.length) same
  rw [List.drop_left] at suffix
  obtain ⟨places, count⟩ : exists places, shown.length = places + 1 := ⟨shown.length - 1, by omega⟩
  have skipped : rest.length - behind.length = places := by omega
  rw [count, List.drop_succ_cons] at suffix
  rw [skipped, suffix]

theorem replace_of_same {text : List Char}
    (same : forall before c rest found behind, c :: rest <:+ text ->
      pattern before (c :: rest) = some (found, behind) ->
        behind.length <= rest.length ∧ render found ++ behind = c :: rest) :
    replace pattern render text = text := by
  have copied (tail : List Char) (suffix : tail <:+ text) (before : Option Char) (skip : Nat) :
      replaceFrom pattern render before skip tail = tail.drop skip := by
    induction tail generalizing before skip with
    | nil => simp [replaceFrom]
    | cons c rest ih =>
      have rest := ih ((List.suffix_cons c rest).trans suffix)
      cases skip with
      | succ skip => exact rest (some c) skip
      | zero =>
        rw [replaceFrom]
        cases matched : pattern before (c :: _) with
        | none => exact congrArg (c :: ·) (rest (some c) 0)
        | some pair =>
          obtain ⟨consumed, whole⟩ := same _ _ _ _ _ suffix matched
          dsimp only
          rw [rest, drop_behind whole consumed]
          exact whole
  exact copied text (List.suffix_refl text) none 0

theorem complaint?_of_needs {B : Type} {complain : A -> Option B} {needed : Char -> Prop} {text : List Char}
    (needs : forall before rest found behind, pattern before rest = some (found, behind) ->
      exists c, c ∈ rest ∧ needed c)
    (absent : forall c, c ∈ text -> ¬needed c) : complaint? pattern complain text = none := by
  have quiet (before : Option Char) (skip : Nat) : complaintFrom pattern complain before skip text = none := by
    induction text generalizing before skip with
    | nil => rw [complaintFrom]
    | cons c text ih =>
      have rest := ih fun d member => absent d (List.mem_cons_of_mem c member)
      cases skip with
      | succ skip => exact rest _ _
      | zero =>
        rw [complaintFrom]
        cases matched : pattern before (c :: text) with
        | none => exact rest _ _
        | some pair =>
          obtain ⟨d, member, need⟩ := needs _ _ _ _ matched
          exact absurd need (absent d member)
  exact quiet none 0

def Local (pattern : Pattern A) (tail : List Char) : Prop :=
  forall (before : Option Char) (c : Char) (rest : List Char),
    pattern before (c :: rest ++ tail) =
      (pattern before (c :: rest)).map fun found => (found.1, found.2 ++ tail)

theorem unlessBehind_local {isBarred : Char -> Bool} {tail : List Char} (locally : pattern.Local tail) :
    (unlessBehind isBarred pattern).Local tail := by
  intro before c rest
  unfold unlessBehind
  split
  next => rfl
  next => exact locally before c rest

theorem replaceFrom_apart {tail text : List Char}
    (apart : forall front c rest, text = front ++ c :: rest ->
      pattern (lastBehind before front) (c :: rest ++ tail) =
        (pattern (lastBehind before front) (c :: rest)).map fun found => (found.1, found.2 ++ tail))
    {skip : Nat} (inside : skip <= text.length) :
    replaceFrom pattern render before skip (text ++ tail) =
      replaceFrom pattern render before skip text ++ replaceFrom pattern render (lastBehind before text) 0 tail := by
  induction text generalizing before skip with
  | nil =>
    obtain rfl : skip = 0 := Nat.le_zero.1 inside
    rfl
  | cons c text ih =>
    have others := @ih (some c) fun front d rest same => apart (c :: front) d rest (congrArg (c :: ·) same)
    cases skip with
    | succ skip => exact others (Nat.le_of_succ_le_succ inside)
    | zero =>
      have found := apart [] c text rfl
      rw [lastBehind, List.cons_append] at found
      rw [List.cons_append, replaceFrom, replaceFrom, found]
      cases pattern before (c :: text) with
      | none => exact congrArg (c :: ·) (others (Nat.zero_le _))
      | some pair =>
        have skipped : (text ++ tail).length - (pair.2 ++ tail).length = text.length - pair.2.length := by
          rw [List.length_append, List.length_append]
          omega
        simp only [Option.map_some, skipped, others (Nat.sub_le _ _), List.append_assoc, lastBehind]

theorem replaceFrom_local {tail text : List Char} (locally : pattern.Local tail) {skip : Nat}
    (inside : skip <= text.length) :
    replaceFrom pattern render before skip (text ++ tail) =
      replaceFrom pattern render before skip text ++
        replaceFrom pattern render (lastBehind before text) 0 tail :=
  replaceFrom_apart (fun front c rest _ => locally (lastBehind before front) c rest) inside

section Complaints

variable {B : Type} {complain : A -> Option B}

theorem complaintFrom_passed {stretch rest : List Char} (passes : pattern.Passes before stretch rest) :
    complaintFrom pattern complain before 0 (stretch ++ rest) =
      complaintFrom pattern complain (lastBehind before stretch) 0 rest := by
  induction stretch generalizing before with
  | nil => rfl
  | cons c stretch ih =>
    obtain ⟨none, passes⟩ := passes
    simp only [List.cons_append, lastBehind] at none ⊢
    rw [complaintFrom, none]
    exact ih passes

theorem complaintFrom_local {tail text : List Char} (locally : pattern.Local tail) {skip : Nat}
    (inside : skip <= text.length) :
    complaintFrom pattern complain before skip (text ++ tail) =
      (complaintFrom pattern complain before skip text <|>
        complaintFrom pattern complain (lastBehind before text) 0 tail) := by
  induction text generalizing before skip with
  | nil =>
    obtain rfl : skip = 0 := Nat.le_zero.1 inside
    rw [complaintFrom]
    rfl
  | cons c text ih =>
    cases skip with
    | succ skip => exact ih (Nat.le_of_succ_le_succ inside)
    | zero =>
      have found := locally before c text
      rw [List.cons_append] at found ⊢
      rw [complaintFrom, complaintFrom, found]
      cases pattern before (c :: text) with
      | none => exact ih (Nat.zero_le _)
      | some pair =>
        have skipped : (text ++ tail).length - (pair.2 ++ tail).length = text.length - pair.2.length := by
          rw [List.length_append, List.length_append]
          omega
        simp only [Option.map_some, skipped, ih (Nat.sub_le _ _), lastBehind]
        cases complain pair.1 with
        | none => rfl
        | some => rfl

end Complaints

def Shortens (pattern : Pattern A) (render : A -> List Char) : Prop :=
  forall (before : Option Char) (c : Char) (rest : List Char) (found : A) (behind : List Char),
    pattern before (c :: rest) = some (found, behind) -> behind.length <= rest.length ∧
      (render found ++ behind = c :: rest ∨ (render found).length + behind.length <= rest.length)

theorem replaceFrom_shortens (shortens : pattern.Shortens render) {text : List Char} {skip : Nat}
    (inside : skip <= text.length) :
    replaceFrom pattern render before skip text = text.drop skip ∨
      (replaceFrom pattern render before skip text).length + skip < text.length := by
  induction text generalizing before skip with
  | nil => exact .inl (by simp [replaceFrom])
  | cons c text ih =>
    cases skip with
    | succ skip =>
      rcases @ih (some c) skip (Nat.le_of_succ_le_succ inside) with same | shorter
      next => exact .inl same
      next => exact .inr (Nat.succ_lt_succ shorter)
    | zero =>
      rw [replaceFrom]
      cases matched : pattern before (c :: text) with
      | none =>
        rcases @ih (some c) 0 (Nat.zero_le _) with same | shorter
        next => exact .inl (congrArg (c :: ·) same)
        next => exact .inr (Nat.succ_lt_succ shorter)
      | some pair =>
        obtain ⟨consumed, parts⟩ := shortens _ _ _ _ _ matched
        have rest := @ih (some c) (text.length - pair.2.length) (Nat.sub_le _ _)
        simp only [List.length_append, List.length_cons, Nat.add_zero]
        rcases parts with same | shorter
        next =>
          -- The match stays, so what is skipped is the match without its first character.
          have dropped := drop_behind same consumed
          rcases rest with unchanged | less
          next =>
            refine .inl ?_
            rw [unchanged, dropped]
            exact same
          next =>
            have lengths := congrArg List.length same
            rw [List.length_append, List.length_cons] at lengths
            exact .inr (by omega)
        next =>
          refine .inr ?_
          rcases rest with unchanged | less
          next =>
            rw [unchanged, List.length_drop]
            omega
          next => omega

theorem replace_shortens (shortens : pattern.Shortens render) (text : List Char) :
    replace pattern render text = text ∨ (replace pattern render text).length < text.length :=
  replaceFrom_shortens shortens (Nat.zero_le _)

def matchesFrom (pattern : Pattern A) : (before : Option Char) -> (skip : Nat) -> List Char -> List A
  | _, _, [] => []
  | _, skip + 1, c :: rest => matchesFrom pattern (some c) skip rest
  | before, 0, c :: rest =>
    match pattern before (c :: rest) with
    | some (found, behind) => found :: matchesFrom pattern (some c) (rest.length - behind.length) rest
    | none => matchesFrom pattern (some c) 0 rest

def matchesOf (pattern : Pattern A) (text : List Char) : List A :=
  matchesFrom pattern none 0 text

theorem matchesFrom_passed {stretch rest : List Char} (passes : pattern.Passes before stretch rest) :
    matchesFrom pattern before 0 (stretch ++ rest) = matchesFrom pattern (lastBehind before stretch) 0 rest := by
  induction stretch generalizing before with
  | nil => rfl
  | cons c stretch ih =>
    obtain ⟨none, passes⟩ := passes
    simp only [List.cons_append, lastBehind] at none ⊢
    rw [matchesFrom, none]
    exact ih passes

theorem matchesFrom_skipped (skipped rest : List Char) :
    matchesFrom pattern before skipped.length (skipped ++ rest) =
      matchesFrom pattern (lastBehind before skipped) 0 rest := by
  induction skipped generalizing before with
  | nil => rfl
  | cons c skipped ih => exact ih

theorem matchesFrom_matched {stretch behind : List Char} {found : A} (present : stretch ≠ [])
    (matched : pattern before (stretch ++ behind) = some (found, behind)) :
    matchesFrom pattern before 0 (stretch ++ behind) =
      found :: matchesFrom pattern (lastBehind before stretch) 0 behind := by
  cases stretch with
  | nil => exact absurd rfl present
  | cons c stretch =>
    have skipped : (stretch ++ behind).length - behind.length = stretch.length := by simp
    rw [List.cons_append] at matched ⊢
    rw [matchesFrom, matched]
    simp only [skipped, matchesFrom_skipped, lastBehind]

theorem complaintFrom_eq {B : Type} {complain : A -> Option B} (skip : Nat) (text : List Char) :
    complaintFrom pattern complain before skip text =
      (matchesFrom pattern before skip text).findSome? complain := by
  induction text generalizing before skip with
  | nil => rw [complaintFrom, matchesFrom, List.findSome?_nil]
  | cons c text ih =>
    cases skip with
    | succ skip => exact ih skip
    | zero =>
      rw [complaintFrom, matchesFrom]
      cases pattern before (c :: text) with
      | none => exact ih 0
      | some pair =>
        simp only [ih, List.findSome?_cons]
        cases complain pair.1 <;> rfl

theorem complaint?_eq {B : Type} (complain : A -> Option B) (text : List Char) :
    complaint? pattern complain text = (matchesOf pattern text).findSome? complain :=
  complaintFrom_eq 0 text

theorem mem_matchesFrom {skip : Nat} {text : List Char} {found : A}
    (member : found ∈ matchesFrom pattern before skip text) :
    exists before rest behind, rest <:+ text ∧ pattern before rest = some (found, behind) := by
  induction text generalizing before skip with
  | nil => cases member
  | cons c text ih =>
    have later {before : Option Char} {skip : Nat} (member : found ∈ matchesFrom pattern before skip text) :
        exists before rest behind, rest <:+ c :: text ∧ pattern before rest = some (found, behind) := by
      obtain ⟨before, rest, behind, suffix, matched⟩ := ih member
      exact ⟨before, rest, behind, suffix.trans (List.suffix_cons c text), matched⟩
    cases skip with
    | succ skip => exact later member
    | zero =>
      rw [matchesFrom] at member
      split at member
      next first behind matched =>
        rcases List.mem_cons.1 member with rfl | member
        next => exact ⟨before, c :: text, behind, List.suffix_refl _, matched⟩
        next => exact later member
      next => exact later member

theorem mem_matchesOf {text : List Char} {found : A} (member : found ∈ matchesOf pattern text) :
    exists before rest behind, rest <:+ text ∧ pattern before rest = some (found, behind) :=
  mem_matchesFrom member

def Spares (pattern : Pattern A) (render : A -> List Char) (counted : Char -> Bool) : Prop :=
  forall (before : Option Char) (text : List Char) (found : A) (behind : List Char),
    pattern before text = some (found, behind) ->
      exists stretch, stretch ≠ [] ∧ text = stretch ++ behind ∧
        (render found).countP counted <= stretch.countP counted

theorem replaceFrom_spares {counted : Char -> Bool} (spares : pattern.Spares render counted) (skip : Nat)
    (text : List Char) :
    (replaceFrom pattern render before skip text).countP counted <= (text.drop skip).countP counted := by
  induction text generalizing before skip with
  | nil => simp [replaceFrom]
  | cons c text ih =>
    cases skip with
    | succ skip => exact ih skip
    | zero =>
      rw [replaceFrom, List.drop_zero]
      split
      next found behind matched =>
        obtain ⟨stretch, present, same, fewer⟩ := spares _ _ _ _ matched
        obtain ⟨d, stretch, rfl⟩ := List.exists_cons_of_ne_nil present
        have starts : c = d := (List.cons.inj same).1
        have parts : text = stretch ++ behind := (List.cons.inj same).2
        subst starts parts
        have skipped : (stretch ++ behind).length - behind.length = stretch.length := by simp
        have rest := @ih (some c) stretch.length
        rw [List.drop_left] at rest
        rw [skipped, List.countP_append, ← List.cons_append, List.countP_append]
        exact Nat.add_le_add fewer rest
      next =>
        have rest := @ih (some c) 0
        rw [List.countP_cons, List.countP_cons]
        exact Nat.add_le_add_right rest _

theorem replace_spares {counted : Char -> Bool} (spares : pattern.Spares render counted) (text : List Char) :
    (replace pattern render text).countP counted <= text.countP counted :=
  replaceFrom_spares spares 0 text

end Replacement

end Pattern

end SpokenArithmetic.Text
