import SpokenArithmetic.Proofs.Lexing.Scanning

set_option autoImplicit false

namespace SpokenArithmetic

open Text

namespace Token

def IsNumber (text : List Char) : Prop :=
  exists pointed mantissa power, text = mantissa ++ power ∧ IsMantissa pointed mantissa ∧
    (power = [] ∨ IsPowerOfTen power)

def IsName (text : List Char) : Prop :=
  exists start part, text = start :: part ∧ isNameStart start = true ∧
    forall c, c ∈ part -> isNamePart c = true

structure Longest (form : List Char -> Prop) (found text : List Char) : Prop where
  starts : found <+: text
  formed : form found
  longest : forall other, other <+: text -> form other -> other.length <= found.length

theorem Longest.unique {form : List Char -> Prop} {first second text : List Char}
    (one : Longest form first text) (two : Longest form second text) : first = second :=
  (List.prefix_of_prefix_length_le one.starts two.starts (two.longest first one.starts one.formed)).eq_of_length
    (Nat.le_antisymm (two.longest first one.starts one.formed) (one.longest second two.starts two.formed))

section Runs

variable {holds : Char -> Bool} {run other rest : List Char}

theorem run_longest (all : forall c, c ∈ other -> holds c = true) (ends : rest.head?.any holds = false)
    (starts : other <+: run ++ rest) : other <+: run := by
  rcases List.prefix_or_prefix_of_prefix starts (List.prefix_append run rest) with inside | ⟨more, rfl⟩
  next => exact inside
  next =>
    cases more with
    | nil => simp
    | cons c more =>
      obtain ⟨tail, rfl⟩ := (List.prefix_append_right_inj run).1 starts
      have other : holds c = false := ends
      exact absurd (all c (by simp)) (by simp [other])

theorem IsMantissa.points {pointed : Bool} {mantissa : List Char} (isMantissa : IsMantissa pointed mantissa) :
    mantissa.count '.' = pointed.toNat := by
  have noPoint : isDigit '.' = false := by decide
  have absent {digits : List Char} (all : forall c, c ∈ digits -> isDigit c = true) : digits.count '.' = 0 :=
    List.count_eq_zero.2 fun member => absurd (all '.' member) (by simp [noPoint])
  cases isMantissa with
  | whole isDigits => exact absent isDigits.2
  | pointed _ all =>
    rw [List.count_append, List.count_cons_self, absent fun c member => all c (List.mem_append_left _ member),
      absent fun c member => all c (List.mem_append_right _ member)]
    rfl

theorem IsMantissa.longest {pointed otherPointed : Bool} {mantissa : List Char}
    (isMantissa : IsMantissa pointed mantissa) (stops : ¬Lengthens pointed rest)
    (isOther : IsMantissa otherPointed other) (starts : other <+: mantissa ++ rest) : other <+: mantissa := by
  rcases List.prefix_or_prefix_of_prefix starts (List.prefix_append mantissa rest) with inside | ⟨more, rfl⟩
  next => exact inside
  next =>
    cases more with
    | nil => simp
    | cons c more =>
      obtain ⟨tail, rfl⟩ := (List.prefix_append_right_inj mantissa).1 starts
      rcases isOther.chars c (by simp) with digit | rfl
      next => exact absurd (.inl digit) stops
      next =>
        cases pointed with
        | false => exact absurd (.inr ⟨rfl, rfl⟩) stops
        | true =>
          -- The longer text would have two points.
          have points := isOther.points
          rw [List.count_append, isMantissa.points, List.count_cons_self] at points
          cases otherPointed <;> simp at points

theorem IsPowerOfTen.starts {power : List Char} (isPower : IsPowerOfTen power) (starts : power <+: rest) :
    StartsPower rest := by
  obtain ⟨tail, rfl⟩ := starts
  cases isPower with
  | unsigned isMark isDigits => exact .unsigned isMark (isDigits.head tail)
  | signed isMark isSign isDigits => exact .signed isMark isSign (isDigits.head tail)

theorem IsPowerOfTen.longest {power : List Char} (isPower : IsPowerOfTen power)
    (ends : rest.head?.any isDigit = false) (isOther : IsPowerOfTen other) (starts : other <+: power ++ rest) :
    other <+: power := by
  have noSign : forall c, c ∈ ['+', '-'] -> isDigit c = false := by decide
  have unsigned {sign : Char} {digits : List Char} (isSign : sign ∈ ['+', '-'])
      (isDigits : IsDigits (sign :: digits)) : False := by
    have digit := isDigits.2 sign (by simp)
    rw [noSign sign isSign] at digit
    cases digit
  cases isPower with
  | unsigned _ isDigits =>
    cases isOther with
    | unsigned _ isOtherDigits =>
      obtain ⟨rfl, inside⟩ := List.cons_prefix_cons.1 starts
      exact List.cons_prefix_cons.2 ⟨rfl, run_longest isOtherDigits.2 ends inside⟩
    | signed _ isSign _ =>
      obtain ⟨d, digits, rfl⟩ := List.exists_cons_of_ne_nil isDigits.1
      obtain ⟨_, inside⟩ := List.cons_prefix_cons.1 starts
      obtain ⟨rfl, _⟩ := List.cons_prefix_cons.1 inside
      exact (unsigned isSign isDigits).elim
  | signed _ isSign isDigits =>
    cases isOther with
    | unsigned _ isOtherDigits =>
      obtain ⟨d, digits, rfl⟩ := List.exists_cons_of_ne_nil isOtherDigits.1
      obtain ⟨_, inside⟩ := List.cons_prefix_cons.1 starts
      obtain ⟨rfl, _⟩ := List.cons_prefix_cons.1 inside
      exact (unsigned isSign isOtherDigits).elim
    | signed _ _ isOtherDigits =>
      obtain ⟨rfl, behindMark⟩ := List.cons_prefix_cons.1 starts
      obtain ⟨rfl, inside⟩ := List.cons_prefix_cons.1 behindMark
      exact List.cons_prefix_cons.2 ⟨rfl, List.cons_prefix_cons.2 ⟨rfl, run_longest isOtherDigits.2 ends inside⟩⟩

end Runs

section Numbers

variable {text rest number : List Char}

theorem IsNumber.starts (isNumber : IsNumber number) :
    exists c tail, number = c :: tail ∧ (isDigit c = true ∨ (c = '.' ∧ tail.head?.any isDigit = true)) := by
  obtain ⟨pointed, mantissa, power, rfl, isMantissa, _⟩ := isNumber
  cases isMantissa with
  | whole isDigits =>
    obtain ⟨c, digits, rfl⟩ := List.exists_cons_of_ne_nil isDigits.1
    exact ⟨c, digits ++ power, rfl, .inl (isDigits.2 c (by simp))⟩
  | @pointed whole fraction present all =>
    cases whole with
    | nil => exact ⟨'.', fraction ++ power, rfl, .inr ⟨rfl, IsDigits.head ⟨present, all⟩ power⟩⟩
    | cons c whole => exact ⟨c, _, rfl, .inl (all c (by simp))⟩

theorem Fits.isNumber (fits : Fits (.numeral number) rest) : IsNumber number := by
  cases fits with
  | plain isMantissa => exact ⟨_, _, [], by simp, isMantissa, .inl rfl⟩
  | scaled isMantissa isPower => exact ⟨_, _, _, rfl, isMantissa, .inr isPower⟩

-- Behind a mantissa that is cut short no power of ten starts.
theorem power_behind_mantissa {pointed : Bool} {mantissa front power text : List Char}
    (isMantissa : IsMantissa pointed mantissa) (inside : front <+: mantissa) (isPower : IsPowerOfTen power)
    (starts : front ++ power <+: mantissa ++ text) : front = mantissa ∧ power <+: text := by
  have noMark : forall c, c ∈ ['e', 'E'] -> isDigit c = false ∧ c ≠ '.' := by decide
  obtain ⟨more, rfl⟩ := inside
  rw [List.append_assoc, List.prefix_append_right_inj] at starts
  cases more with
  | nil => exact ⟨by simp, starts⟩
  | cons c more =>
    obtain ⟨mark, tail, rfl, isMark⟩ : exists mark tail, power = mark :: tail ∧ mark ∈ ['e', 'E'] := by
      cases isPower with
      | unsigned isMark _ => exact ⟨_, _, rfl, isMark⟩
      | signed isMark _ _ => exact ⟨_, _, rfl, isMark⟩
    obtain ⟨rfl, _⟩ := List.cons_prefix_cons.1 starts
    rcases isMantissa.chars mark (by simp) with digit | point
    next => exact absurd digit (by simp [(noMark mark isMark).1])
    next => exact absurd point (noMark mark isMark).2

theorem Fits.longest_number (fits : Fits (.numeral number) rest) : Longest IsNumber number (number ++ rest) := by
  refine ⟨List.prefix_append number rest, fits.isNumber, ?_⟩
  rintro other starts ⟨otherPointed, front, power, rfl, isFront, isPower⟩
  have frontStarts : front <+: number ++ rest := (List.prefix_append front power).trans starts
  cases fits with
  | plain isMantissa stops noPower =>
    have inside := isMantissa.longest stops isFront frontStarts
    rcases isPower with rfl | isPower
    next => simpa using inside.length_le
    next =>
      obtain ⟨_, behind⟩ := power_behind_mantissa isMantissa inside isPower starts
      exact absurd (isPower.starts behind) (powerOfTen?_eq_none.1 noPower)
  | @scaled pointed mantissa scale _ isMantissa isScale ends =>
    rw [List.append_assoc] at starts frontStarts
    have inside := isMantissa.longest (isScale.not_lengthens pointed rest) isFront frontStarts
    rcases isPower with rfl | isPower
    next => simpa using Nat.le_add_right_of_le inside.length_le
    next =>
      obtain ⟨rfl, behind⟩ := power_behind_mantissa isMantissa inside isPower starts
      simpa using (isScale.longest ends isPower behind).length_le

end Numbers

def Spelled : Lexeme -> Prop
  | .numeral number => IsNumber number
  | .name name => IsName name
  | .mark _ => True

/-- The lexeme that stands next in a text: its longest number, else its longest name, else one symbol. -/
def Next (lexeme : Lexeme) (text : List Char) : Prop :=
  match lexeme with
  | .numeral number => Longest IsNumber number text
  | .name name => (forall other, other <+: text -> ¬IsNumber other) ∧ Longest IsName name text
  | .mark mark => (forall other, other <+: text -> ¬IsNumber other ∧ ¬IsName other) ∧ [mark.char] <+: text

def Startless (text : List Char) : Prop :=
  forall lexeme, Spelled lexeme -> ¬lexeme.text <+: text

section Lexemes

variable {lexeme other : Lexeme} {text rest : List Char} {c : Char}

theorem no_number (noDigit : isDigit c = false) (noPoint : c ≠ '.') :
    forall other, other <+: c :: rest -> ¬IsNumber other := by
  intro other starts isNumber
  obtain ⟨d, tail, rfl, first⟩ := isNumber.starts
  obtain ⟨rfl, _⟩ := List.cons_prefix_cons.1 starts
  rcases first with digit | ⟨point, _⟩
  next => exact absurd digit (by simp [noDigit])
  next => exact noPoint point

theorem no_name (noName : isNameStart c = false) : forall other, other <+: c :: rest -> ¬IsName other := by
  rintro other starts ⟨start, part, rfl, isStart, _⟩
  obtain ⟨rfl, _⟩ := List.cons_prefix_cons.1 starts
  exact absurd isStart (by simp [noName])

theorem Fits.next (fits : Fits lexeme rest) : Next lexeme (lexeme.text ++ rest) := by
  cases lexeme with
  | numeral number => exact fits.longest_number
  | name name =>
    cases fits with
    | @name start part _ starts all ends =>
      obtain ⟨noDigit, _, noPoint, _⟩ := isNameStart_cases starts
      refine ⟨no_number noDigit noPoint, List.prefix_append _ rest, ⟨start, part, rfl, starts, all⟩, ?_⟩
      rintro other inside ⟨first, others, rfl, _, allOthers⟩
      obtain ⟨_, inside⟩ := List.cons_prefix_cons.1 inside
      exact Nat.succ_le_succ (run_longest allOthers ends inside).length_le
  | mark mark =>
    obtain ⟨noDigit, _, noPoint, noName⟩ := mark_char_cases mark
    exact ⟨fun other starts => ⟨no_number noDigit noPoint other starts, no_name noName other starts⟩,
      List.prefix_append _ rest⟩

theorem Fits.spelled (fits : Fits lexeme rest) : Spelled lexeme := by
  cases lexeme with
  | numeral number => exact fits.isNumber
  | name name =>
    cases fits with
    | name starts all _ => exact ⟨_, _, rfl, starts, all⟩
  | mark mark => trivial

theorem Next.starts (next : Next lexeme text) : lexeme.text <+: text := by
  cases lexeme with
  | numeral number => exact Longest.starts next
  | name name => exact next.2.starts
  | mark mark => exact next.2

theorem Next.spelled (next : Next lexeme text) : Spelled lexeme := by
  cases lexeme with
  | numeral number => exact Longest.formed next
  | name name => exact next.2.formed
  | mark mark => trivial

theorem Next.unique (one : Next lexeme text) (two : Next other text) : lexeme = other := by
  cases lexeme with
  | numeral number =>
    have isNumber : IsNumber number := one.spelled
    cases other with
    | numeral second => exact congrArg Lexeme.numeral (Longest.unique one two)
    | name name => exact absurd isNumber (two.1 number one.starts)
    | mark mark => exact absurd isNumber (two.1 number one.starts).1
  | name name =>
    have isName : IsName name := one.spelled
    cases other with
    | numeral number => exact absurd two.spelled (one.1 number two.starts)
    | name second => exact congrArg Lexeme.name (one.2.unique two.2)
    | mark mark => exact absurd isName (two.1 name one.starts).2
  | mark mark =>
    cases other with
    | numeral number => exact absurd two.spelled (one.1 number two.starts).1
    | name name => exact absurd two.spelled (one.1 name two.starts).2
    | mark second =>
      obtain ⟨tail, rfl⟩ := one.2
      obtain ⟨same, _⟩ := List.cons_prefix_cons.1 two.2
      have marks := congrArg Mark.ofChar? same
      rw [Mark.ofChar?_char, Mark.ofChar?_char] at marks
      exact congrArg Lexeme.mark (Option.some.inj marks).symm

theorem lexeme?_eq_none_iff : lexeme? text = none ↔ Startless text := by
  cases text with
  | nil =>
    refine ⟨fun _ lexeme spelled starts => ?_, fun _ => rfl⟩
    have empty := List.prefix_nil.1 starts
    cases lexeme with
    | numeral number =>
      obtain ⟨c, tail, rfl, _⟩ := IsNumber.starts spelled
      cases empty
    | name name =>
      obtain ⟨start, part, rfl, _⟩ := spelled
      cases empty
    | mark mark => cases empty
  | cons c rest =>
    constructor
    next =>
      rw [lexeme?_eq_none]
      rintro ⟨noDigit, noFraction, noName, noMark⟩ lexeme spelled starts
      cases lexeme with
      | numeral number =>
        obtain ⟨d, tail, rfl, first⟩ := IsNumber.starts spelled
        obtain ⟨rfl, inside⟩ := List.cons_prefix_cons.1 starts
        rcases first with digit | ⟨point, digit⟩
        next => exact absurd digit (by simp [noDigit])
        next =>
          obtain ⟨behind, rfl⟩ := inside
          cases tail with
          | nil => cases digit
          | cons e tail => exact absurd digit (by simpa using noFraction point)
      | name name => exact no_name noName name starts spelled
      | mark mark =>
        obtain ⟨rfl, _⟩ := List.cons_prefix_cons.1 starts
        rw [Mark.ofChar?_char] at noMark
        cases noMark
    next =>
      intro startless
      cases found : lexeme? (c :: rest) with
      | none => rfl
      | some pair =>
        obtain ⟨same, fits⟩ := lexeme?_eq_some.1 found
        exact absurd (same ▸ List.prefix_append _ _) (startless pair.1 fits.spelled)

theorem lexeme?_eq_some_iff : lexeme? text = some (lexeme, rest) ↔ text = lexeme.text ++ rest ∧ Next lexeme text := by
  constructor
  next =>
    intro found
    obtain ⟨rfl, fits⟩ := lexeme?_eq_some.1 found
    exact ⟨rfl, fits.next⟩
  next =>
    rintro ⟨same, next⟩
    cases found : lexeme? text with
    | none => exact absurd next.starts (lexeme?_eq_none_iff.1 found lexeme next.spelled)
    | some pair =>
      obtain ⟨read, behind⟩ := pair
      obtain ⟨parts, fits⟩ := lexeme?_eq_some.1 found
      obtain rfl : lexeme = read := next.unique (parts ▸ fits.next)
      rw [List.append_cancel_left (parts.symm.trans same)]

end Lexemes

end Token

end SpokenArithmetic
