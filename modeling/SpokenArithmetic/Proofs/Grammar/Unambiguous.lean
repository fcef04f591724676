import SpokenArithmetic.Proofs.Grammar.Derivation

set_option autoImplicit false

namespace SpokenArithmetic.Grammar

def Form.continuing : Form -> List Operator
  | primary => []
  | power | signed => [.power]
  | chain .product => .power :: Tier.product.operators
  | chain .sum => .power :: (Tier.product.operators ++ Tier.sum.operators)

theorem Form.continuing_chain (tier : Tier) (operator : Operator) :
    operator ∈ (Form.chain tier).continuing ↔
      operator ∈ tier.operand.continuing ∨ operator ∈ tier.operators := by
  cases tier <;> grind [continuing, Tier.operand, Tier.operators]

theorem Tier.operators_disjoint (tier : Tier) {operator : Operator}
    (member : operator ∈ tier.operators) : operator ∉ tier.operand.continuing := by
  cases tier <;> cases operator <;> simp_all [Form.continuing, operand, operators]

def Form.Stops (form : Form) (rest : List Lexeme) : Prop :=
  forall operator, operator ∈ form.continuing -> rest.head? ≠ some (.mark (.operator operator))

def Nonterminal.Stops : Nonterminal -> List Lexeme -> Prop
  | form kind => kind.Stops
  | further tier => (Form.chain tier).Stops
  | arguments | furtherArguments => fun rest => rest.head? = some (.mark .closing)

theorem Form.stops_primary (rest : List Lexeme) : Form.primary.Stops rest := by
  simp [Stops, continuing]

theorem Form.stops_nil (form : Form) : form.Stops [] := by
  simp [Stops]

theorem Form.stops_mark (form : Form) {mark : Mark} (rest : List Lexeme)
    (other : forall operator, mark ≠ .operator operator) : form.Stops (.mark mark :: rest) := by
  intro operator _ same
  simp only [List.head?_cons, Option.some.injEq, Lexeme.mark.injEq] at same
  exact other operator same

theorem Form.not_stops {form : Form} {operator : Operator} {rest : List Lexeme}
    (member : operator ∈ form.continuing) : ¬ form.Stops (.mark (.operator operator) :: rest) :=
  fun stops => stops operator member rfl

theorem Form.Stops.operand {tier : Tier} {rest : List Lexeme} (stops : (Form.chain tier).Stops rest) :
    tier.operand.Stops rest :=
  fun operator member => stops operator ((continuing_chain tier operator).2 (.inl member))

namespace Derivation

theorem stops_further {tier : Tier} (others : Derivation (.further tier)) {rest : List Lexeme}
    (stops : (Form.chain tier).Stops rest) : tier.operand.Stops (others.yield ++ rest) := by
  cases others with
  | noFurther => simpa [yield] using stops.operand
  | further _ operator member operand others =>
    intro other continuing same
    simp only [yield, List.cons_append, List.head?_cons, Option.some.injEq, Lexeme.mark.injEq,
      Mark.operator.injEq] at same
    subst same
    exact tier.operators_disjoint member continuing

theorem stops_furtherArguments (others : Derivation .furtherArguments) {rest : List Lexeme}
    (stops : rest.head? = some (.mark .closing)) : Form.sum.Stops (others.yield ++ rest) := by
  cases others with
  | noFurtherArguments =>
    intro operator _ same
    simp [yield, stops] at same
  | furtherArguments first others =>
    have comma := @Form.stops_mark .sum .comma (first.yield ++ others.yield ++ rest) (by simp)
    simpa [yield] using comma

theorem yield_primary_ne (derivation : Derivation (.form .primary)) (operator : Operator)
    (rest tail : List Lexeme) : derivation.yield ++ rest ≠ .mark (.operator operator) :: tail := by
  cases derivation <;> simp [yield]

theorem yield_power_ne (derivation : Derivation (.form .power)) (operator : Operator)
    (rest tail : List Lexeme) : derivation.yield ++ rest ≠ .mark (.operator operator) :: tail := by
  cases derivation with
  | bare base => exact base.yield_primary_ne operator rest tail
  | raised base exponent =>
    rw [yield, List.append_assoc]
    exact base.yield_primary_ne operator _ tail

def Starts : Lexeme -> Prop
  | .numeral _ | .name _ => True
  | .mark mark => mark ≠ .closing ∧ mark ≠ .comma

theorem yield_form {nonterminal : Nonterminal} (derivation : Derivation nonterminal) :
    forall form, nonterminal = .form form ->
      exists lexeme tail, derivation.yield = lexeme :: tail ∧ Starts lexeme := by
  induction derivation with
  | numeral text => exact fun _ _ => ⟨.numeral text, [], rfl, trivial⟩
  | call name given => exact fun _ _ => ⟨.name name, _, rfl, trivial⟩
  | group inner => exact fun _ _ => ⟨.mark .opening, _, rfl, by simp [Starts]⟩
  | bare base ih => exact fun _ _ => ih .primary rfl
  | raised base exponent ih =>
    obtain ⟨lexeme, tail, same, starts⟩ := ih .primary rfl
    exact fun _ _ => ⟨lexeme, _, by rw [yield, same]; rfl, starts⟩
  | unsigned operand ih => exact fun _ _ => ih .power rfl
  | signed negative operand => exact fun _ _ => ⟨_, _, rfl, by simp [Starts]⟩
  | chain tier first others ih =>
    obtain ⟨lexeme, tail, same, starts⟩ := ih tier.operand rfl
    exact fun _ _ => ⟨lexeme, _, by rw [yield, same]; rfl, starts⟩
  | noFurther | further | noArguments | arguments | noFurtherArguments | furtherArguments =>
    intro form other
    cases other

theorem yield_form_ne_closing {form : Form} (derivation : Derivation (.form form))
    {rest : List Lexeme} (closing : rest.head? = some (.mark .closing)) (tail : List Lexeme) :
    rest ≠ derivation.yield ++ tail := by
  obtain ⟨lexeme, front, same, starts⟩ := derivation.yield_form form rfl
  rintro rfl
  rw [same, List.cons_append, List.head?_cons, Option.some.injEq] at closing
  subst closing
  exact starts.1 rfl

/-- No other derivation of the nonterminal fits at the front of the same lexemes. -/
def Determined {nonterminal : Nonterminal} (derivation : Derivation nonterminal) : Prop :=
  forall (other : Derivation nonterminal) (rest rest' : List Lexeme),
    nonterminal.Stops rest -> nonterminal.Stops rest' ->
      derivation.yield ++ rest = other.yield ++ rest' -> derivation = other ∧ rest = rest'

theorem determined_call (name : List Char) {given : Derivation .arguments}
    (arguments : given.Determined) : (call name given).Determined := by
  intro other rest rest' _ _ same
  cases other with
  | call name' given' =>
    simp only [yield, List.cons_append, List.append_assoc, List.cons.injEq, Lexeme.name.injEq,
      true_and] at same
    -- The closing parenthesis is where both argument lists end.
    have closes (rest : List Lexeme) : Nonterminal.arguments.Stops ([.mark .closing] ++ rest) := rfl
    obtain ⟨rfl, next⟩ := arguments given' _ _ (closes rest) (closes rest') same.2
    exact ⟨by rw [same.1], by simpa using next⟩
  | numeral | group => simp [yield] at same

theorem determined_group {inner : Derivation (.form .sum)} (determined : inner.Determined) :
    (group inner).Determined := by
  intro other rest rest' _ _ same
  cases other with
  | group inner' =>
    simp only [yield, List.cons_append, List.append_assoc, List.cons.injEq, true_and] at same
    have closes (rest : List Lexeme) : Form.sum.Stops ([.mark .closing] ++ rest) :=
      Form.stops_mark .sum rest (by simp)
    obtain ⟨rfl, next⟩ := determined inner' _ _ (closes rest) (closes rest') same
    exact ⟨rfl, by simpa using next⟩
  | numeral | call => simp [yield] at same

theorem determined_bare {base : Derivation (.form .primary)} (determined : base.Determined) :
    (bare base).Determined := by
  intro other rest rest' stops _ same
  cases other with
  | bare base' =>
    obtain ⟨rfl, next⟩ := determined base' _ _ (Form.stops_primary _) (Form.stops_primary _) same
    exact ⟨rfl, next⟩
  | raised base' exponent' =>
    rw [yield, yield, List.append_assoc] at same
    -- Behind the same base a power would have to be both absent and next.
    have next := (determined base' _ _ (Form.stops_primary _) (Form.stops_primary _) same).2
    exact absurd (next ▸ stops) (Form.not_stops (by simp [Form.continuing]))

theorem determined_raised {base : Derivation (.form .primary)} {exponent : Derivation (.form .signed)}
    (left : base.Determined) (right : exponent.Determined) : (raised base exponent).Determined := by
  intro other rest rest' stops stops' same
  cases other with
  | bare base' =>
    rw [yield, yield, List.append_assoc] at same
    -- The other way round: what follows the bare one must not be a power.
    have next := (left base' _ _ (Form.stops_primary _) (Form.stops_primary _) same).2
    exact absurd (next ▸ stops') (Form.not_stops (by simp [Form.continuing]))
  | raised base' exponent' =>
    rw [yield, yield, List.append_assoc, List.append_assoc] at same
    obtain ⟨rfl, next⟩ := left base' _ _ (Form.stops_primary _) (Form.stops_primary _) same
    simp only [List.cons_append, List.cons.injEq, true_and] at next
    obtain ⟨rfl, last⟩ := right exponent' _ _ stops stops' next
    exact ⟨rfl, last⟩

theorem determined_unsigned {operand : Derivation (.form .power)} (determined : operand.Determined) :
    (unsigned operand).Determined := by
  intro other rest rest' stops stops' same
  cases other with
  | unsigned operand' =>
    obtain ⟨rfl, next⟩ := determined operand' _ _ stops stops' same
    exact ⟨rfl, next⟩
  | signed negative operand' => exact absurd same (operand.yield_power_ne _ _ _)

theorem determined_signed (negative : Bool) {operand : Derivation (.form .signed)}
    (determined : operand.Determined) : (signed negative operand).Determined := by
  intro other rest rest' stops stops' same
  cases other with
  | unsigned operand' => exact absurd same.symm (operand'.yield_power_ne _ _ _)
  | signed negative' operand' =>
    simp only [yield, List.cons_append, List.cons.injEq, Lexeme.mark.injEq,
      Mark.operator.injEq] at same
    obtain ⟨rfl, next⟩ := determined operand' _ _ stops stops' same.2
    have sign : negative = negative' := by
      cases negative <;> cases negative' <;> simp_all [signOperator]
    exact ⟨by rw [sign], next⟩

theorem determined_chain (tier : Tier) {first : Derivation (.form tier.operand)}
    {others : Derivation (.further tier)} (left : first.Determined) (right : others.Determined) :
    (chain tier first others).Determined := by
  intro other rest rest' stops stops' same
  cases other with
  | chain _ first' others' =>
    rw [yield, yield, List.append_assoc, List.append_assoc] at same
    obtain ⟨rfl, next⟩ := left first' _ _ (others.stops_further stops) (others'.stops_further stops') same
    obtain ⟨rfl, last⟩ := right others' _ _ stops stops' next
    exact ⟨rfl, last⟩

theorem not_stops_further {tier : Tier} {operator : Operator} (member : operator ∈ tier.operators)
    (rest : List Lexeme) : ¬ (Form.chain tier).Stops (.mark (.operator operator) :: rest) :=
  Form.not_stops ((Form.continuing_chain tier operator).2 (.inr member))

theorem determined_noFurther (tier : Tier) : (noFurther tier).Determined := by
  intro other rest rest' stops _ same
  cases other with
  | noFurther => exact ⟨rfl, same⟩
  | further _ operator member operand others =>
    simp only [yield, List.nil_append, List.cons_append] at same
    exact absurd (same ▸ stops) (not_stops_further member _)

theorem determined_further (tier : Tier) {operator : Operator} (member : operator ∈ tier.operators)
    {operand : Derivation (.form tier.operand)} {others : Derivation (.further tier)}
    (left : operand.Determined) (right : others.Determined) :
    (further tier operator member operand others).Determined := by
  intro other rest rest' stops stops' same
  cases other with
  | noFurther =>
    simp only [yield, List.nil_append, List.cons_append] at same
    exact absurd (same ▸ stops') (not_stops_further member _)
  | further _ operator' _ operand' others' =>
    simp only [yield, List.cons_append, List.append_assoc, List.cons.injEq, Lexeme.mark.injEq,
      Mark.operator.injEq] at same
    obtain ⟨rfl, same⟩ := same
    obtain ⟨rfl, next⟩ :=
      left operand' _ _ (others.stops_further stops) (others'.stops_further stops') same
    obtain ⟨rfl, last⟩ := right others' _ _ stops stops' next
    exact ⟨rfl, last⟩

theorem determined_noArguments : noArguments.Determined := by
  intro other rest rest' stops _ same
  cases other with
  | noArguments => exact ⟨rfl, same⟩
  | arguments first others =>
    rw [yield, yield, List.nil_append, List.append_assoc] at same
    -- No expression starts with the parenthesis that closes the empty list.
    exact absurd same (first.yield_form_ne_closing stops _)

theorem determined_arguments {first : Derivation (.form .sum)} {others : Derivation .furtherArguments}
    (left : first.Determined) (right : others.Determined) : (arguments first others).Determined := by
  intro other rest rest' stops stops' same
  cases other with
  | noArguments =>
    rw [yield, yield, List.nil_append, List.append_assoc] at same
    exact absurd same.symm (first.yield_form_ne_closing stops' _)
  | arguments first' others' =>
    rw [yield, yield, List.append_assoc, List.append_assoc] at same
    obtain ⟨rfl, next⟩ := left first' _ _ (others.stops_furtherArguments stops)
      (others'.stops_furtherArguments stops') same
    obtain ⟨rfl, last⟩ := right others' _ _ stops stops' next
    exact ⟨rfl, last⟩

theorem determined_noFurtherArguments : noFurtherArguments.Determined := by
  intro other rest rest' stops _ same
  cases other with
  | noFurtherArguments => exact ⟨rfl, same⟩
  | furtherArguments first others =>
    simp only [yield, List.nil_append, List.cons_append] at same
    simp [Nonterminal.Stops, same] at stops

theorem determined_furtherArguments {first : Derivation (.form .sum)}
    {others : Derivation .furtherArguments} (left : first.Determined) (right : others.Determined) :
    (furtherArguments first others).Determined := by
  intro other rest rest' stops stops' same
  cases other with
  | noFurtherArguments =>
    simp only [yield, List.nil_append, List.cons_append] at same
    simp [Nonterminal.Stops, ← same] at stops'
  | furtherArguments first' others' =>
    simp only [yield, List.cons_append, List.append_assoc, List.cons.injEq, true_and] at same
    obtain ⟨rfl, next⟩ := left first' _ _ (others.stops_furtherArguments stops)
      (others'.stops_furtherArguments stops') same
    obtain ⟨rfl, last⟩ := right others' _ _ stops stops' next
    exact ⟨rfl, last⟩

theorem determined {nonterminal : Nonterminal} (derivation : Derivation nonterminal) :
    derivation.Determined := by
  -- Induction on the first derivation; each rule has its lemma, and the second is taken apart there.
  induction derivation with
  | numeral text =>
    intro other rest rest' _ _ same
    cases other <;> simp_all [yield]
  | call name _ given => exact determined_call name given
  | group _ inner => exact determined_group inner
  | bare _ base => exact determined_bare base
  | raised _ _ base exponent => exact determined_raised base exponent
  | unsigned _ operand => exact determined_unsigned operand
  | signed negative _ operand => exact determined_signed negative operand
  | chain tier _ _ first others => exact determined_chain tier first others
  | noFurther tier => exact determined_noFurther tier
  | further tier _ member _ _ operand others => exact determined_further tier member operand others
  | noArguments => exact determined_noArguments
  | arguments _ _ first others => exact determined_arguments first others
  | noFurtherArguments => exact determined_noFurtherArguments
  | furtherArguments _ _ first others => exact determined_furtherArguments first others

theorem yield_injective {form : Form} {first second : Derivation (.form form)}
    (same : first.yield = second.yield) : first = second :=
  (first.determined second [] [] form.stops_nil form.stops_nil (by simpa using same)).1

end Derivation

end SpokenArithmetic.Grammar
