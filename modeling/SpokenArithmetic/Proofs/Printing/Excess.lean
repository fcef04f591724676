import SpokenArithmetic.Proofs.Printing.Evaluated

set_option autoImplicit false

namespace SpokenArithmetic.Grammar

open Arithmetic CallForm Evaluation Number Text

theorem Form.stops_numeral (form : Form) (literal : List Char) (rest : List Lexeme) :
    form.Stops (.numeral literal :: rest) := by
  intro operator _ same
  cases same

theorem parse_excess {derivation : Derivation (.form .sum)} {front rest : List Token} {next : Token}
    {literal : List Char} {tree : Expression} (derives : Derives Parser.maxDepth derivation front tree)
    (numeral : next.lexeme = .numeral literal) :
    Parser.parse (front ++ next :: rest) = .error ⟨.unexpected (.numeral literal) next.position, [tree]⟩ := by
  have stops : Form.sum.Stops ((next :: rest).map Token.lexeme) := by
    rw [List.map_cons, numeral]
    exact Form.stops_numeral .sum literal _
  have read := (sum_reads (below_reads Parser.maxDepth)).complete derives stops
  unfold Parser.parse
  rw [read]
  simp [Bind.bind, Except.bind, Parser.excess, numeral]

theorem value_excess {derivation : Derivation (.form .sum)} {front rest : List Token} {next : Token}
    {literal : List Char} {tree : Expression} {result : Float}
    (derives : Derives Parser.maxDepth derivation front tree) (numeral : next.lexeme = .numeral literal)
    (valued : tree.value doubles = .ok result) :
    Token.value doubles (front ++ next :: rest) =
      .error (.fault (.unexpected (.numeral literal) next.position)) := by
  have some : (front ++ next :: rest).isEmpty = false := by simp
  have accepted : Token.refusal? doubles [tree] = none := by simp [Token.refusal?, valued]
  rw [Token.value, some, parse_excess derives numeral]
  simp [accepted]

namespace Derivation

variable {derivation : Derivation (.form .sum)} {tree : Expression}

theorem outcome_excess {text literal : List Char} {behind : List Lexeme} {result : Float}
    (allowed : forall c, c ∈ text -> isAllowed c = true) (apart : PowersApart text)
    (lexed : Token.lexes text = some (derivation.yield ++ .numeral literal :: behind))
    (content : derivation.content? surface? = some tree) (shallow : derivation.depth <= Parser.maxDepth)
    (valued : tree.value doubles = .ok result) : outcome (Evaluation.value text) = .error .malformed := by
  have scanned := Token.lexemes?_scan allowed
  rw [lexed] at scanned
  have plain : outcome (plainUnrounded text) = .error .malformed := by
    unfold plainUnrounded
    cases found : Token.scan text with
    | error stray => rfl
    | ok tokens =>
      rw [found] at scanned
      have same : tokens.map Token.lexeme = derivation.yield ++ .numeral literal :: behind :=
        Option.some.inj scanned
      have resolves : (Token.resolved tokens).map Token.lexeme =
          derivation.called.yield ++ .numeral literal :: resolve behind := by
        rw [Token.map_resolved, same, derivation.resolve_yield]
        simp [resolve, Lexeme.called]
      obtain ⟨front, others, parts, frontLexemes, othersLexemes⟩ := List.map_eq_append_iff.1 resolves
      obtain ⟨next, rest, rfl, numeral, _⟩ := List.map_eq_cons_iff.1 othersLexemes
      have derives : Derives Parser.maxDepth derivation.called front tree :=
        ⟨frontLexemes.symm, by rwa [depth_called], derivation.content?_called content⟩
      dsimp only
      rw [parts, value_excess derives numeral valued]
      rfl
  obtain ⟨failure, failed, category⟩ := outcome_eq_error ((unrounded_outcome allowed apart).trans plain)
  have present : (strip text).isEmpty = false := by
    cases empty : (strip text).isEmpty with
    | false => rfl
    | true =>
      have none := (Token.strip_isEmpty allowed).1 empty
      rw [lexed] at none
      simp at none
  rw [value_eq_rounded, strip_callForm allowed apart, present, failed]
  exact congrArg Except.error category

end Derivation

end SpokenArithmetic.Grammar
