import SpokenArithmetic.Proofs.Lexing.Replaced
import SpokenArithmetic.Proofs.Phrase.Structured

set_option autoImplicit false

namespace SpokenArithmetic.Phrase

open Text

/-- What can stand at the start of a text: a stretch, and a character behind it or the end. -/
structure Shape where
  stretch : List Char -> Prop
  next : Option Char -> Prop

namespace Shape

def Starts (shape : Shape) (text : List Char) : Prop :=
  exists stretch rest, text = stretch ++ rest ∧ shape.stretch stretch ∧ shape.next rest.head?

def Behind (shape : Shape) (front : List Char -> Prop) (text : List Char) : Prop :=
  exists left right, text = left ++ right ∧ front left ∧ shape.Starts right

variable {A : Type} {pattern : Pattern A} {render : A -> List Char} {shape : Shape} {text out : List Char}

def Kept (shape : Shape) (pattern : Pattern A) (render : A -> List Char) : Prop :=
  forall (before : Option Char) (text out : List Char),
    pattern.Replaced render before text out [] -> shape.Starts out -> shape.Starts text

/-- A place of the result lies between two blocks and goes back to a place of the text, or it lies
inside the rendering of a match. -/
theorem behind_of_replaced {front earlier : List Char -> Prop}
    (replaced : pattern.Replaced render none text out []) (kept : shape.Kept pattern render)
    (fronts : forall {left shown right rest : List Char}, pattern.Replaced render none left shown right ->
      front shown -> shape.Starts right -> pattern.Replaced render (lastBehind none left) right rest [] ->
        shape.Starts rest -> earlier left)
    (insides : forall {left stretch right shown one two behind : List Char} {before : Option Char} {result : A},
      text = left ++ (stretch ++ right) -> pattern (lastBehind none left) (stretch ++ right) = some (result, right) ->
        render result = one ++ two -> one ≠ [] -> two ≠ [] -> pattern.Replaced render before right behind [] ->
          front (shown ++ one) -> shape.Starts (two ++ behind) -> shape.Behind earlier text)
    (stands : shape.Behind front out) : shape.Behind earlier text := by
  obtain ⟨shown, right, rfl, infront, starts⟩ := stands
  rcases replaced.cut with ⟨left, rest, rfl, blocks, others⟩ |
    ⟨left, stretch, rest, result, shown, one, two, behind, parts, rfl, rfl, rendered, some, more, matched, others⟩
  next =>
    have back := kept _ _ _ others starts
    rw [List.append_nil] at blocks
    exact ⟨left, rest, rfl, fronts blocks infront back others starts, back⟩
  next =>
    rw [List.append_nil] at matched
    exact insides parts matched rendered some more others infront starts

end Shape

def SameKind (first second : Option Char) : Prop :=
  first = second ∨ (first.any isDigit = true ∧ second.any isDigit = true)

section Kinds

variable {first second : Option Char}

theorem SameKind.any {holds : Char -> Bool} (digits : forall c, isDigit c = true -> holds c = true)
    (kind : SameKind first second) : first.any holds = second.any holds := by
  rcases kind with rfl | ⟨one, two⟩
  next => rfl
  next =>
    have held {side : Option Char} (digit : side.any isDigit = true) : side.any holds = true := by
      obtain ⟨c, rfl, isDigit⟩ := (Option.any_eq_true _ _).1 digit
      exact digits c isDigit
    rw [held one, held two]

theorem SameKind.word (kind : SameKind first second) : first.any isWord = second.any isWord :=
  kind.any fun _ => isWord_of_isDigit

theorem SameKind.digit (kind : SameKind first second) : first.any isDigit = second.any isDigit :=
  kind.any fun _ digit => digit

theorem SameKind.factor (kind : SameKind first second) :
    first.any isDigitOrClose = second.any isDigitOrClose :=
  kind.any fun c digit => by simp [isDigitOrClose, digit]

theorem SameKind.eq_of_other {c : Char} (other : isDigit c = false) (kind : SameKind first second)
    (same : second = some c) : first = some c := by
  rcases kind with equal | ⟨_, digit⟩
  next => exact equal.trans same
  next => simp [same, other] at digit

end Kinds

section Splices

-- What may stand around a seam: a sign of a product, a digit that no parenthesis touches, or a
-- parenthesis behind such a sign.
def Seam (last next : Option Char) : Prop :=
  next = some '*' ∨ (next.any isDigit = true ∧ last ≠ some ')') ∨ (next = some '(' ∧ last = some '*')

structure Spliced (stretch shown : List Char) : Prop where
  head : SameKind stretch.head? shown.head?
  starts : shown.head?.any isDigitOrClose = true
  last : SameKind stretch.getLast? shown.getLast?
  ends : shown.getLast?.any (fun c => isDigit c || c == '(') = true
  inner : forall one two, shown = one ++ two -> one ≠ [] -> two ≠ [] ->
    Seam one.getLast? (skipSpace two).head?

variable {A : Type} {pattern : Pattern A} {render : A -> List Char} {shape : Shape} {before : Option Char}
  {text out after : List Char}

def BeginsAlike (pattern : Pattern A) (render : A -> List Char) : Prop :=
  forall (before : Option Char) (text : List Char) (result : A) (behind : List Char),
    pattern before text = some (result, behind) ->
      exists stretch, text = stretch ++ behind ∧ SameKind stretch.head? (render result).head? ∧
        (render result).head?.any isDigitOrClose = true

def Splices (pattern : Pattern A) (render : A -> List Char) : Prop :=
  forall (before : Option Char) (text : List Char) (result : A) (behind : List Char),
    pattern before text = some (result, behind) ->
      exists stretch, text = stretch ++ behind ∧ Spliced stretch (render result)

theorem Splices.beginsAlike (splices : Splices pattern render) : BeginsAlike pattern render := by
  intro before text result behind matched
  obtain ⟨stretch, same, spliced⟩ := splices _ _ _ _ matched
  exact ⟨stretch, same, spliced.head, spliced.starts⟩

theorem BeginsAlike.consumes (alike : BeginsAlike pattern render) : pattern.Consumes := by
  intro before text result behind matched
  obtain ⟨stretch, same, kind, starts⟩ := alike _ _ _ _ matched
  refine ⟨stretch, ?_, same⟩
  rintro rfl
  rw [← kind.factor] at starts
  cases starts

theorem BeginsAlike.head (alike : BeginsAlike pattern render)
    (replaced : pattern.Replaced render before text out after) : SameKind text.head? out.head? := by
  cases replaced with
  | nil => exact .inl rfl
  | copied => exact .inl rfl
  | @found _ stretch text out _ result present matched rest =>
    obtain ⟨other, same, kind, starts⟩ := alike _ _ _ _ matched
    obtain rfl := List.append_cancel_right same
    obtain ⟨c, first, _⟩ := (Option.any_eq_true _ _).1 starts
    rw [List.head?_append_of_ne_nil _ present, List.head?_append, first]
    rwa [first] at kind

theorem BeginsAlike.kept (alike : BeginsAlike pattern render)
    (solid : forall stretch, shape.stretch stretch -> forall c, c ∈ stretch -> isDigitOrClose c = false)
    (kinds : forall first second, SameKind first second -> shape.next second -> shape.next first) :
    shape.Kept pattern render := by
  rintro before text _ replaced ⟨stretch, rest, rfl, isStretch, ends⟩
  have heads {before : Option Char} {text behind : List Char} {result : A}
      (matched : pattern before text = some (result, behind)) :
      exists c rest, isDigitOrClose c = true ∧ render result = c :: rest := by
    obtain ⟨_, _, _, starts⟩ := alike _ _ _ _ matched
    obtain ⟨c, first, factor⟩ := (Option.any_eq_true _ _).1 starts
    obtain ⟨rest, same⟩ := List.head?_eq_some_iff.1 first
    exact ⟨c, rest, factor, same⟩
  obtain ⟨tail, rfl, blocks⟩ := replaced.copied_stretch heads
    (fun c member => by simp [solid stretch isStretch c member])
  exact ⟨stretch, tail, rfl, isStretch, kinds _ _ (alike.head blocks) ends⟩

theorem Splices.last (splices : Splices pattern render)
    (replaced : pattern.Replaced render before text out after) : SameKind text.getLast? out.getLast? := by
  rcases replaced.snoc_cases with ⟨rfl, rfl⟩ | ⟨front, shown, c, rfl, rfl, _⟩ |
    ⟨front, stretch, shown, result, rfl, rfl, present, matched, _⟩
  next => exact .inl rfl
  next => exact .inl (by simp)
  next =>
    obtain ⟨other, same, spliced⟩ := splices _ _ _ _ matched
    obtain rfl := List.append_cancel_right same
    obtain ⟨c, last, _⟩ := (Option.any_eq_true _ _).1 spliced.ends
    have kind := spliced.last
    rw [last] at kind
    rw [List.getLast?_append, List.getLast?_append, last]
    rwa [List.getLast?_eq_some_getLast present] at kind ⊢

theorem head?_skipSpace_append {front : List Char} {c : Char} (rest : List Char)
    (first : (skipSpace front).head? = some c) : (skipSpace (front ++ rest)).head? = some c := by
  obtain ⟨tail, skipped⟩ := List.head?_eq_some_iff.1 first
  unfold skipSpace at skipped ⊢
  rw [List.dropWhile_append, skipped]
  rfl

theorem Splices.seam (splices : Splices pattern render) {result : A} {behind one two : List Char}
    (matched : pattern before text = some (result, behind)) (rendered : render result = one ++ two)
    (present : one ≠ []) (more : two ≠ []) (rest : List Char) :
    Seam one.getLast? (skipSpace (two ++ rest)).head? := by
  obtain ⟨_, _, spliced⟩ := splices _ _ _ _ matched
  have seam := spliced.inner one two rendered present more
  obtain ⟨c, first⟩ : exists c, (skipSpace two).head? = some c := by
    rcases seam with star | ⟨digit, _⟩ | ⟨opening, _⟩
    next => exact ⟨_, star⟩
    next =>
      obtain ⟨c, first, _⟩ := (Option.any_eq_true _ _).1 digit
      exact ⟨c, first⟩
    next => exact ⟨_, opening⟩
  rw [head?_skipSpace_append rest first]
  rwa [first] at seam

theorem Splices.behind (splices : Splices pattern render) {front earlier : List Char -> Prop}
    (kept : shape.Kept pattern render)
    (fronts : forall {left shown right : List Char}, pattern.Replaced render none left shown right ->
      front shown -> shape.Starts right -> earlier left)
    (bars : forall {left right : List Char}, front left -> shape.Starts right ->
      ¬Seam left.getLast? (skipSpace right).head?)
    (stands : shape.Behind front (pattern.replace render text)) : shape.Behind earlier text := by
  refine Shape.behind_of_replaced (Pattern.replaced_replace splices.beginsAlike.consumes text) kept
    (fun replaced infront starts _ _ => fronts replaced infront starts) ?_ stands
  intro left stretch right shown one two behind before result _ matched rendered present more _ infront starts
  refine absurd ?_ (bars infront starts)
  rw [List.getLast?_append_of_ne_nil _ present]
  exact splices.seam matched rendered present more behind

end Splices

end SpokenArithmetic.Phrase
