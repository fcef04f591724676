import SpokenArithmetic.Calculation.Failure
import SpokenArithmetic.Proofs.Grammar.Reading

set_option autoImplicit false

namespace SpokenArithmetic.Grammar

open SpokenArithmetic.Parser

@[simp] def Derivation.Named : {nonterminal : Nonterminal} -> Derivation nonterminal -> Prop
  | _, numeral _ => True
  | _, call name given => (callable? name).isSome ∧ given.Named
  | _, group inner => inner.Named
  | _, bare base => base.Named
  | _, raised base exponent => base.Named ∧ exponent.Named
  | _, unsigned operand => operand.Named
  | _, signed _ operand => operand.Named
  | _, chain _ first others => first.Named ∧ others.Named
  | _, noFurther _ => True
  | _, further _ _ _ operand others => operand.Named ∧ others.Named
  | _, noArguments => True
  | _, arguments first others => first.Named ∧ others.Named
  | _, noFurtherArguments => True
  | _, furtherArguments first others => first.Named ∧ others.Named

def Sentence (lexemes : List Lexeme) : Prop :=
  exists derivation : Derivation (.form .sum), derivation.Named ∧ derivation.yield = lexemes

def Viable (lexemes : List Lexeme) : Prop :=
  exists rest, Sentence (lexemes ++ rest)

theorem named_of_content {nonterminal : Nonterminal} {derivation : Derivation nonterminal}
    {content : nonterminal.Content} (stands : derivation.content? callable? = some content) :
    derivation.Named := by
  induction derivation with
  | numeral | noFurther | noArguments | noFurtherArguments => trivial
  | call name given ih =>
    simp only [Derivation.content?, Option.bind_eq_bind, Option.bind_eq_some_iff] at stands
    obtain ⟨callable, named, operands, givenStands, _⟩ := stands
    exact ⟨by rw [named]; rfl, ih givenStands⟩
  | group inner ih | signed _ inner ih =>
    obtain ⟨_, innerStands, _⟩ := Option.map_eq_some_iff.1 stands
    exact ih innerStands
  | bare base ih | unsigned base ih => exact ih stands
  | raised first second firstIh secondIh | chain _ first second firstIh secondIh
  | further _ _ _ first second firstIh secondIh | arguments first second firstIh secondIh
  | furtherArguments first second firstIh secondIh =>
    simp only [Derivation.content?, Option.bind_eq_bind, Option.bind_eq_some_iff] at stands
    obtain ⟨_, firstStands, _, secondStands, _⟩ := stands
    exact ⟨firstIh firstStands, secondIh secondStands⟩

theorem Derives.named {levels : Nat} {nonterminal : Nonterminal} {derivation : Derivation nonterminal}
    {tokens : List Token} {content : nonterminal.Content} (derives : Derives levels derivation tokens content) :
    derivation.Named :=
  named_of_content derives.content

theorem Form.Stops.of_head {form : Form} {rest rest' : List Lexeme} (stops : form.Stops rest)
    (same : rest'.head? = rest.head?) : form.Stops rest' := by
  intro operator member
  rw [same]
  exact stops operator member

def Begins (nonterminal : Nonterminal) (front : List Lexeme) : Prop :=
  exists derivation : Derivation nonterminal, derivation.Named ∧ front <+: derivation.yield

/-- The derivation and what may follow it start with `front` and go on with `tail`. -/
structure Derivation.Passes {nonterminal : Nonterminal} (derivation : Derivation nonterminal)
    (front tail : List Lexeme) : Prop where
  named : derivation.Named
  context : exists behind, nonterminal.Stops behind ∧ derivation.yield ++ behind = front ++ tail

theorem Derivation.Passes.shift {nonterminal : Nonterminal} {derivation : Derivation nonterminal}
    {before front tail : List Lexeme} :
    derivation.Passes (before ++ front) tail ↔ derivation.Passes before (front ++ tail) := by
  constructor
  next =>
    rintro ⟨named, behind, stops, same⟩
    exact ⟨named, behind, stops, by rw [same, List.append_assoc]⟩
  next =>
    rintro ⟨named, behind, stops, same⟩
    exact ⟨named, behind, stops, by rw [same, List.append_assoc]⟩

theorem Derivation.Passes.whole {nonterminal : Nonterminal} {derivation : Derivation nonterminal}
    {front tail : List Lexeme} (passes : derivation.Passes front tail) : derivation.Passes [] (front ++ tail) :=
  ⟨passes.named, passes.context⟩

/-- Where reading tokens as a nonterminal fails, when so many levels are left. -/
inductive Fails (levels : Nat) (nonterminal : Nonterminal) : List Token -> SyntaxFault -> Prop
  | stuck {front back : List Token} {fault : SyntaxFault} (position : fault.position? = position? back)
      (begins : Begins nonterminal (front.map Token.lexeme))
      (dead : forall (derivation : Derivation nonterminal) (tail : List Lexeme),
        derivation.Passes (front.map Token.lexeme) tail -> tail.head? ≠ (back.map Token.lexeme).head?) :
      Fails levels nonterminal (front ++ back) fault
  | arity {front back : List Token} {name : List Char} {callable : Callable} {count position : Nat}
      (named : callable? name = some callable) (other : count ≠ callable.arity)
      (begins : Begins nonterminal ((front ++ [(⟨.name name, position⟩ : Token)]).map Token.lexeme)) :
      Fails levels nonterminal (front ++ ⟨.name name, position⟩ :: back) (.arity callable count position)
  | deep {front back : List Token} (some : front ≠ [])
      (begins : Begins nonterminal (front.map Token.lexeme))
      (deep : forall (derivation : Derivation nonterminal) (tail : List Lexeme),
        derivation.Passes (front.map Token.lexeme) tail -> levels < derivation.depth) :
      Fails levels nonterminal (front ++ back) .tooDeep

/-- A part that fails behind `before` makes the whole fail, if the whole can be built around the part and
whoever reads the whole so far has come to the part. -/
theorem Fails.within {levels levels' : Nat} {part whole : Nonterminal} {before tokens : List Token}
    {fault : SyntaxFault} (fails : Fails levels part tokens fault)
    (build : forall inner : Derivation part, inner.Named ->
      exists outer : Derivation whole, outer.Named ∧ before.map Token.lexeme ++ inner.yield <+: outer.yield)
    (find : forall (outer : Derivation whole) (tail : List Lexeme),
      outer.Passes (before.map Token.lexeme) tail -> tail.head? = (tokens.map Token.lexeme).head? ->
        exists inner : Derivation part, inner.Passes [] tail ∧ (levels < inner.depth -> levels' < outer.depth)) :
    Fails levels' whole (before ++ tokens) fault := by
  have builds {front : List Token} (begins : Begins part (front.map Token.lexeme)) :
      Begins whole ((before ++ front).map Token.lexeme) := by
    obtain ⟨inner, named, starts⟩ := begins
    obtain ⟨outer, outerNamed, outerStarts⟩ := build inner named
    rw [List.map_append]
    exact ⟨outer, outerNamed, ((List.prefix_append_right_inj _).2 starts).trans outerStarts⟩
  have finds {front : List Token} (outer : Derivation whole) (tail : List Lexeme)
      (passes : outer.Passes ((before ++ front).map Token.lexeme) tail)
      (same : (front.map Token.lexeme ++ tail).head? = (tokens.map Token.lexeme).head?) :
      exists inner : Derivation part,
        inner.Passes (front.map Token.lexeme) tail ∧ (levels < inner.depth -> levels' < outer.depth) := by
    rw [List.map_append, Derivation.Passes.shift] at passes
    obtain ⟨inner, innerPasses, deeper⟩ := find outer _ passes same
    rw [← Derivation.Passes.shift, List.nil_append] at innerPasses
    exact ⟨inner, innerPasses, deeper⟩
  cases fails with
  | @stuck front back fault position begins dead =>
    rw [← List.append_assoc]
    refine .stuck position (builds begins) fun outer tail passes same => ?_
    obtain ⟨inner, innerPasses, _⟩ := finds outer tail passes (by
      rw [List.map_append, List.head?_append, List.head?_append, same])
    exact dead inner tail innerPasses same
  | @arity front back name callable count position named other begins =>
    have starts := builds begins
    rw [← List.append_assoc] at starts ⊢
    exact .arity named other starts
  | @deep front back some begins deep =>
    rw [← List.append_assoc]
    refine .deep (by simp [some]) (builds begins) fun outer tail passes => ?_
    obtain ⟨inner, innerPasses, deeper⟩ := finds outer tail passes (by
      obtain ⟨token, rest, rfl⟩ := List.exists_cons_of_ne_nil some
      rfl)
    exact deeper (deep inner tail innerPasses)

end SpokenArithmetic.Grammar
