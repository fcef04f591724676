import SpokenArithmetic.Answer.Calculate

set_option autoImplicit false

namespace SpokenArithmetic.Template

section Pieces

inductive Piece where
  | char (c : Char)
  | result

namespace Piece

def slot : List Char :=
  "\x7bresult\x7d".toList

def written : Piece -> List Char
  | char c => if c = '{' ∨ c = '}' then [c, c] else [c]
  | result => slot

def filled (result : List Char) : Piece -> List Char
  | char c => [c]
  | .result => result

end Piece

def OnlyResult (template : String) : Prop :=
  exists pieces : List Piece, template.toList = pieces.flatMap Piece.written

end Pieces

section Filling

variable {expand : List Char -> Except Fault (List Char)} {rounds : Nat}

theorem column_plain (result : List Char) : column [] (.text result) = .ok result := by
  have unpadded : ({} : Format).pad result = result := by simp [Format.pad]
  have plain : column [] (.text result) = .ok (({} : Format).pad result) := rfl
  rw [plain, unpadded]

theorem readField_result (rest : List Char) :
    readField ("result\x7d".toList ++ rest) = .ok (⟨"result".toList, none, []⟩, rest) := rfl

theorem lookUp_result (result : List Char) : lookUp result "result".toList = .ok (.text result) := rfl

theorem fillFrom_result (result rest : List Char) :
    fillFrom expand result (rounds + 1) (Piece.result.written ++ rest) =
      (result ++ ·) <$> fillFrom expand result rounds rest := by
  have split : Piece.result.written ++ rest = '{' :: ("result\x7d".toList ++ rest) := rfl
  rw [split, fillFrom]
  next =>
    rw [readField_result]
    dsimp only [bind, Except.bind]
    rw [lookUp_result]
    dsimp only [convert, bind, Except.bind]
    rw [if_neg (by simp), column_plain]
  next =>
    intro behind same
    cases same
  next =>
    intro same
    cases same

theorem fillFrom_char (result : List Char) (c : Char) (rest : List Char) :
    fillFrom expand result (rounds + 1) ((Piece.char c).written ++ rest) =
      (c :: ·) <$> fillFrom expand result rounds rest := by
  by_cases opening : c = '{'
  next =>
    subst opening
    rfl
  by_cases closing : c = '}'
  next =>
    subst closing
    rfl
  have plain : (Piece.char c).written = [c] := if_neg (not_or.2 ⟨opening, closing⟩)
  rw [plain, List.singleton_append, fillFrom]
  all_goals simp [opening, closing]

theorem fillFrom_piece (result : List Char) (piece : Piece) (rest : List Char) :
    fillFrom expand result (rounds + 1) (piece.written ++ rest) =
      (piece.filled result ++ ·) <$> fillFrom expand result rounds rest := by
  cases piece with
  | char c => exact fillFrom_char result c rest
  | result => exact fillFrom_result result rest

theorem length_written (piece : Piece) : 0 < piece.written.length := by
  cases piece with
  | char c =>
    rw [Piece.written]
    split
    next => exact Nat.succ_pos _
    next => exact Nat.succ_pos _
  | result => decide

theorem fillFrom_pieces (result : List Char) (pieces : List Piece)
    (enough : (pieces.flatMap Piece.written).length <= rounds) :
    fillFrom expand result rounds (pieces.flatMap Piece.written) =
      .ok (pieces.flatMap (Piece.filled result)) := by
  induction pieces generalizing rounds with
  | nil => cases rounds <;> rfl
  | cons piece pieces ih =>
    rw [List.flatMap_cons, List.length_append] at enough
    have some := length_written piece
    obtain ⟨rounds, rfl⟩ : exists fewer, rounds = fewer + 1 := ⟨rounds - 1, by omega⟩
    rw [List.flatMap_cons, fillFrom_piece, ih (by omega), List.flatMap_cons]
    rfl

theorem fill_pieces {template : String} {pieces : List Piece}
    (written : template.toList = pieces.flatMap Piece.written) (result : String) :
    fill template result = .ok (String.ofList (pieces.flatMap (Piece.filled result.toList))) := by
  rw [fill, written, fillLevels, fillFrom_pieces _ _ (Nat.le_refl _)]
  rfl

theorem OnlyResult.fills {template : String} (plain : OnlyResult template) (result : String) :
    exists sentence, fill template result = .ok sentence := by
  obtain ⟨pieces, written⟩ := plain
  exact ⟨_, fill_pieces written result⟩

theorem onlyResult_standard : OnlyResult standard :=
  ⟨"The answer is ".toList.map .char ++ [.result], by decide⟩

end Filling

end SpokenArithmetic.Template
