import SpokenArithmetic.Proofs.Grammar.Unambiguous

set_option autoImplicit false

namespace SpokenArithmetic.Grammar

def callable? (name : List Char) : Option Callable :=
  Callable.ofName? (String.ofList name)

/-- The derivation derives the tokens within so many levels and stands for the content. -/
structure Derives (levels : Nat) {nonterminal : Nonterminal} (derivation : Derivation nonterminal)
    (tokens : List Token) (content : nonterminal.Content) : Prop where
  yield : derivation.yield = tokens.map Token.lexeme
  depth : derivation.depth <= levels
  content : derivation.content? callable? = some content

variable {levels : Nat} {tokens : List Token}

theorem map_lexeme_eq_cons {lexeme : Lexeme} {rest : List Lexeme} :
    lexeme :: rest = tokens.map Token.lexeme ↔
      exists position behind, tokens = ⟨lexeme, position⟩ :: behind ∧ rest = behind.map Token.lexeme := by
  constructor
  next =>
    intro same
    obtain ⟨⟨_, position⟩, behind, rfl, rfl, rfl⟩ := List.map_eq_cons_iff.1 same.symm
    exact ⟨position, behind, rfl, rfl⟩
  next =>
    rintro ⟨position, behind, rfl, rfl⟩
    rfl

theorem map_lexeme_eq_append {first second : List Lexeme} :
    first ++ second = tokens.map Token.lexeme ↔
      exists front back, tokens = front ++ back ∧ first = front.map Token.lexeme ∧
        second = back.map Token.lexeme := by
  rw [eq_comm, List.map_eq_append_iff]
  simp only [eq_comm]

theorem derives_numeral {text : List Char} {tree : Expression} :
    Derives levels (.numeral text) tokens tree ↔
      exists position, tokens = [⟨.numeral text, position⟩] ∧ tree = .numeral text := by
  constructor
  next =>
    rintro ⟨yield, _, content⟩
    obtain ⟨position, behind, rfl, none⟩ := map_lexeme_eq_cons.1 yield
    obtain rfl := List.map_eq_nil_iff.1 none.symm
    exact ⟨position, rfl, (Option.some.inj content).symm⟩
  next =>
    rintro ⟨position, rfl, rfl⟩
    exact ⟨rfl, Nat.zero_le _, rfl⟩

theorem derives_call {name : List Char} {given : Derivation .arguments} {tree : Expression} :
    Derives levels (.call name given) tokens tree ↔
      exists levels' callable operands position opening closing middle,
        levels = levels' + 1 ∧ callable? name = some callable ∧
          tokens = ⟨.name name, position⟩ :: ⟨.mark .opening, opening⟩ ::
            (middle ++ [⟨.mark .closing, closing⟩]) ∧
          Derives levels' given middle operands ∧ applied? callable operands = some tree := by
  constructor
  next =>
    rintro ⟨yield, depth, content⟩
    obtain ⟨position, behind, rfl, next⟩ := map_lexeme_eq_cons.1 yield
    obtain ⟨opening, behind, rfl, inside⟩ := map_lexeme_eq_cons.1 next
    obtain ⟨middle, back, rfl, middleYield, last⟩ := map_lexeme_eq_append.1 inside
    obtain ⟨closing, behind, rfl, none⟩ := map_lexeme_eq_cons.1 last
    obtain rfl := List.map_eq_nil_iff.1 none.symm
    simp only [Derivation.content?, Option.bind_eq_bind, Option.bind_eq_some_iff] at content
    obtain ⟨callable, named, operands, given, applied⟩ := content
    obtain ⟨levels, rfl⟩ := Nat.exists_eq_add_of_lt (Nat.lt_of_lt_of_le (Nat.succ_pos _) depth)
    exact ⟨levels, callable, operands, position, opening, closing, middle, by omega, named, rfl,
      ⟨middleYield, by simp only [Derivation.depth] at depth; omega, given⟩, applied⟩
  next =>
    rintro ⟨levels, callable, operands, position, opening, closing, middle, rfl, named, rfl, derives,
      applied⟩
    refine ⟨by simp [Derivation.yield, derives.yield], Nat.succ_le_succ derives.depth, ?_⟩
    simp [Derivation.content?, named, derives.content, applied]

theorem derives_group {inner : Derivation (.form .sum)} {tree : Expression} :
    Derives levels (.group inner) tokens tree ↔
      exists levels' opening closing middle tree',
        levels = levels' + 1 ∧ tree = .group tree' ∧
          tokens = ⟨.mark .opening, opening⟩ :: (middle ++ [⟨.mark .closing, closing⟩]) ∧
          Derives levels' inner middle tree' := by
  constructor
  next =>
    rintro ⟨yield, depth, content⟩
    obtain ⟨opening, behind, rfl, inside⟩ := map_lexeme_eq_cons.1 yield
    obtain ⟨middle, back, rfl, middleYield, last⟩ := map_lexeme_eq_append.1 inside
    obtain ⟨closing, behind, rfl, none⟩ := map_lexeme_eq_cons.1 last
    obtain rfl := List.map_eq_nil_iff.1 none.symm
    obtain ⟨tree', innerContent, rfl⟩ := Option.map_eq_some_iff.1 content
    obtain ⟨levels, rfl⟩ := Nat.exists_eq_add_of_lt (Nat.lt_of_lt_of_le (Nat.succ_pos _) depth)
    exact ⟨levels, opening, closing, middle, tree', by omega, rfl, rfl,
      middleYield, by simp only [Derivation.depth] at depth; omega, innerContent⟩
  next =>
    rintro ⟨levels, opening, closing, middle, tree', rfl, rfl, rfl, derives⟩
    exact ⟨by simp [Derivation.yield, derives.yield], Nat.succ_le_succ derives.depth,
      by simp [Derivation.content?, derives.content]⟩

theorem derives_bare {base : Derivation (.form .primary)} {tree : Expression} :
    Derives levels (.bare base) tokens tree ↔ Derives levels base tokens tree :=
  ⟨fun ⟨yield, depth, content⟩ => ⟨yield, depth, content⟩,
    fun ⟨yield, depth, content⟩ => ⟨yield, depth, content⟩⟩

theorem derives_raised {base : Derivation (.form .primary)} {exponent : Derivation (.form .signed)}
    {tree : Expression} :
    Derives levels (.raised base exponent) tokens tree ↔
      exists levels' front position back first second,
        levels = levels' + 1 ∧ tree = .binary .power first second ∧
          tokens = front ++ ⟨.mark (.operator .power), position⟩ :: back ∧
          Derives levels base front first ∧ Derives levels' exponent back second := by
  constructor
  next =>
    rintro ⟨yield, depth, content⟩
    obtain ⟨front, behind, rfl, frontYield, next⟩ := map_lexeme_eq_append.1 yield
    obtain ⟨position, back, rfl, backYield⟩ := map_lexeme_eq_cons.1 next
    simp only [Derivation.content?, Option.bind_eq_bind, Option.bind_eq_some_iff, Option.pure_def,
      Option.some.injEq] at content
    obtain ⟨first, baseContent, second, exponentContent, rfl⟩ := content
    have bounds := Nat.max_le.1 depth
    obtain ⟨levels, rfl⟩ := Nat.exists_eq_add_of_lt (Nat.lt_of_lt_of_le (Nat.succ_pos _) bounds.2)
    exact ⟨levels, front, position, back, first, second, by omega, rfl, rfl,
      ⟨frontYield, bounds.1, baseContent⟩, ⟨backYield, by omega, exponentContent⟩⟩
  next =>
    rintro ⟨levels, front, position, back, first, second, rfl, rfl, rfl, base, exponent⟩
    exact ⟨by simp [Derivation.yield, base.yield, exponent.yield],
      Nat.max_le.2 ⟨base.depth, Nat.succ_le_succ exponent.depth⟩,
      by simp [Derivation.content?, base.content, exponent.content]⟩

theorem derives_unsigned {operand : Derivation (.form .power)} {tree : Expression} :
    Derives levels (.unsigned operand) tokens tree ↔ Derives levels operand tokens tree :=
  ⟨fun ⟨yield, depth, content⟩ => ⟨yield, depth, content⟩,
    fun ⟨yield, depth, content⟩ => ⟨yield, depth, content⟩⟩

theorem derives_signed {negative : Bool} {operand : Derivation (.form .signed)} {tree : Expression} :
    Derives levels (.signed negative operand) tokens tree ↔
      exists levels' position behind tree',
        levels = levels' + 1 ∧ tree = .signed negative tree' ∧
          tokens = ⟨.mark (.operator (signOperator negative)), position⟩ :: behind ∧
          Derives levels' operand behind tree' := by
  constructor
  next =>
    rintro ⟨yield, depth, content⟩
    obtain ⟨position, behind, rfl, next⟩ := map_lexeme_eq_cons.1 yield
    obtain ⟨tree', innerContent, rfl⟩ := Option.map_eq_some_iff.1 content
    obtain ⟨levels, rfl⟩ := Nat.exists_eq_add_of_lt (Nat.lt_of_lt_of_le (Nat.succ_pos _) depth)
    exact ⟨levels, position, behind, tree', by omega, rfl, rfl,
      next, by simp only [Derivation.depth] at depth; omega, innerContent⟩
  next =>
    rintro ⟨levels, position, behind, tree', rfl, rfl, rfl, derives⟩
    exact ⟨by simp [Derivation.yield, derives.yield], Nat.succ_le_succ derives.depth,
      by simp [Derivation.content?, derives.content]⟩

theorem derives_chain {tier : Tier} {first : Derivation (.form tier.operand)}
    {others : Derivation (.further tier)} {tree : Expression} :
    Derives levels (.chain tier first others) tokens tree ↔
      exists front back left pairs, tree = foldChain left pairs ∧ tokens = front ++ back ∧
        Derives levels first front left ∧ Derives levels others back pairs := by
  constructor
  next =>
    rintro ⟨yield, depth, content⟩
    obtain ⟨front, back, rfl, frontYield, backYield⟩ := map_lexeme_eq_append.1 yield
    simp only [Derivation.content?, Option.bind_eq_bind, Option.bind_eq_some_iff, Option.pure_def,
      Option.some.injEq] at content
    obtain ⟨left, firstContent, pairs, othersContent, rfl⟩ := content
    have bounds := Nat.max_le.1 depth
    exact ⟨front, back, left, pairs, rfl, rfl, ⟨frontYield, bounds.1, firstContent⟩,
      ⟨backYield, bounds.2, othersContent⟩⟩
  next =>
    rintro ⟨front, back, left, pairs, rfl, rfl, first, others⟩
    exact ⟨by simp [Derivation.yield, first.yield, others.yield],
      Nat.max_le.2 ⟨first.depth, others.depth⟩,
      by simp [Derivation.content?, first.content, others.content]⟩

theorem derives_noFurther {tier : Tier} {pairs : List (Operator × Expression)} :
    Derives levels (.noFurther tier) tokens pairs ↔ tokens = [] ∧ pairs = [] := by
  constructor
  next =>
    rintro ⟨yield, _, content⟩
    exact ⟨List.map_eq_nil_iff.1 yield.symm, (Option.some.inj content).symm⟩
  next =>
    rintro ⟨rfl, rfl⟩
    exact ⟨rfl, Nat.zero_le _, rfl⟩

theorem derives_further {tier : Tier} {operator : Operator} {member : operator ∈ tier.operators}
    {operand : Derivation (.form tier.operand)} {others : Derivation (.further tier)}
    {pairs : List (Operator × Expression)} :
    Derives levels (.further tier operator member operand others) tokens pairs ↔
      exists position front back right pairs', pairs = (operator, right) :: pairs' ∧
        tokens = ⟨.mark (.operator operator), position⟩ :: (front ++ back) ∧
          Derives levels operand front right ∧ Derives levels others back pairs' := by
  constructor
  next =>
    rintro ⟨yield, depth, content⟩
    obtain ⟨position, behind, rfl, next⟩ := map_lexeme_eq_cons.1 yield
    obtain ⟨front, back, rfl, frontYield, backYield⟩ := map_lexeme_eq_append.1 next
    simp only [Derivation.content?, Option.bind_eq_bind, Option.bind_eq_some_iff, Option.pure_def,
      Option.some.injEq] at content
    obtain ⟨right, operandContent, pairs', othersContent, rfl⟩ := content
    have bounds := Nat.max_le.1 depth
    exact ⟨position, front, back, right, pairs', rfl, rfl, ⟨frontYield, bounds.1, operandContent⟩,
      ⟨backYield, bounds.2, othersContent⟩⟩
  next =>
    rintro ⟨position, front, back, right, pairs', rfl, rfl, operand, others⟩
    exact ⟨by simp [Derivation.yield, operand.yield, others.yield],
      Nat.max_le.2 ⟨operand.depth, others.depth⟩,
      by simp [Derivation.content?, operand.content, others.content]⟩

theorem derives_noArguments {operands : List Expression} :
    Derives levels .noArguments tokens operands ↔ tokens = [] ∧ operands = [] := by
  constructor
  next =>
    rintro ⟨yield, _, content⟩
    exact ⟨List.map_eq_nil_iff.1 yield.symm, (Option.some.inj content).symm⟩
  next =>
    rintro ⟨rfl, rfl⟩
    exact ⟨rfl, Nat.zero_le _, rfl⟩

theorem derives_arguments {first : Derivation (.form .sum)} {others : Derivation .furtherArguments}
    {operands : List Expression} :
    Derives levels (.arguments first others) tokens operands ↔
      exists front back head tail, operands = head :: tail ∧ tokens = front ++ back ∧
        Derives levels first front head ∧ Derives levels others back tail := by
  constructor
  next =>
    rintro ⟨yield, depth, content⟩
    obtain ⟨front, back, rfl, frontYield, backYield⟩ := map_lexeme_eq_append.1 yield
    simp only [Derivation.content?, Option.bind_eq_bind, Option.bind_eq_some_iff, Option.pure_def,
      Option.some.injEq] at content
    obtain ⟨head, firstContent, tail, othersContent, rfl⟩ := content
    have bounds := Nat.max_le.1 depth
    exact ⟨front, back, head, tail, rfl, rfl, ⟨frontYield, bounds.1, firstContent⟩,
      ⟨backYield, bounds.2, othersContent⟩⟩
  next =>
    rintro ⟨front, back, head, tail, rfl, rfl, first, others⟩
    exact ⟨by simp [Derivation.yield, first.yield, others.yield],
      Nat.max_le.2 ⟨first.depth, others.depth⟩,
      by simp [Derivation.content?, first.content, others.content]⟩

theorem derives_noFurtherArguments {operands : List Expression} :
    Derives levels .noFurtherArguments tokens operands ↔ tokens = [] ∧ operands = [] := by
  constructor
  next =>
    rintro ⟨yield, _, content⟩
    exact ⟨List.map_eq_nil_iff.1 yield.symm, (Option.some.inj content).symm⟩
  next =>
    rintro ⟨rfl, rfl⟩
    exact ⟨rfl, Nat.zero_le _, rfl⟩

theorem derives_furtherArguments {first : Derivation (.form .sum)}
    {others : Derivation .furtherArguments} {operands : List Expression} :
    Derives levels (.furtherArguments first others) tokens operands ↔
      exists position front back head tail, operands = head :: tail ∧
        tokens = ⟨.mark .comma, position⟩ :: (front ++ back) ∧
          Derives levels first front head ∧ Derives levels others back tail := by
  constructor
  next =>
    rintro ⟨yield, depth, content⟩
    obtain ⟨position, behind, rfl, next⟩ := map_lexeme_eq_cons.1 yield
    obtain ⟨front, back, rfl, frontYield, backYield⟩ := map_lexeme_eq_append.1 next
    simp only [Derivation.content?, Option.bind_eq_bind, Option.bind_eq_some_iff, Option.pure_def,
      Option.some.injEq] at content
    obtain ⟨head, firstContent, tail, othersContent, rfl⟩ := content
    have bounds := Nat.max_le.1 depth
    exact ⟨position, front, back, head, tail, rfl, rfl, ⟨frontYield, bounds.1, firstContent⟩,
      ⟨backYield, bounds.2, othersContent⟩⟩
  next =>
    rintro ⟨position, front, back, head, tail, rfl, rfl, first, others⟩
    exact ⟨by simp [Derivation.yield, first.yield, others.yield],
      Nat.max_le.2 ⟨first.depth, others.depth⟩,
      by simp [Derivation.content?, first.content, others.content]⟩

end SpokenArithmetic.Grammar
