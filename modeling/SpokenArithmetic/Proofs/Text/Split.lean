import Mathlib.Data.String.Basic
import SpokenArithmetic.Environment

set_option autoImplicit false

namespace SpokenArithmetic

open String

section Splitting

variable (mark : Char)

theorem splitOnAux_single (front piece rest : List Char) (pieces : List String) :
    splitOnAux (ofList (front ++ piece ++ rest)) (ofList [mark]) ⟨utf8Len front⟩
        ⟨utf8Len front + utf8Len piece⟩ 0
        pieces =
      pieces.reverse ++ (List.splitOnPPrepend (· == mark) rest piece.reverse).map ofList := by
  have start : Pos.Raw.get (ofList [mark]) 0 = mark := get_of_valid [] [mark]
  have behind : Pos.Raw.next (ofList [mark]) 0 = ⟨mark.utf8Size⟩ := by simpa using next_of_valid [] mark []
  have markEnds : Pos.Raw.atEnd (ofList [mark]) ⟨mark.utf8Size⟩ = true := by
    simpa using (atEnd_of_valid [mark] []).2 rfl
  induction rest generalizing front piece pieces with
  | nil =>
    have ends : Pos.Raw.atEnd (ofList (front ++ piece ++ [])) ⟨utf8Len front + utf8Len piece⟩ = true := by
      simpa using (atEnd_of_valid (front ++ piece) []).2 rfl
    have last := extract_of_valid front piece []
    unfold splitOnAux
    rw [if_pos ends, last]
    simp
  | cons c rest ih =>
    have goesOn :
        ¬Pos.Raw.atEnd (ofList (front ++ piece ++ c :: rest)) ⟨utf8Len front + utf8Len piece⟩ = true := by
      simpa using atEnd_of_valid (front ++ piece) (c :: rest)
    have here : Pos.Raw.get (ofList (front ++ piece ++ c :: rest)) ⟨utf8Len front + utf8Len piece⟩ = c := by
      simpa [-ofList_append] using get_of_valid (front ++ piece) (c :: rest)
    have next : Pos.Raw.next (ofList (front ++ piece ++ c :: rest)) ⟨utf8Len front + utf8Len piece⟩ =
        ⟨utf8Len front + utf8Len piece + c.utf8Size⟩ := by
      simpa [-ofList_append] using next_of_valid (front ++ piece) c rest
    unfold splitOnAux
    rw [if_neg goesOn, here, start, next, behind, List.splitOnPPrepend_cons_eq_if]
    by_cases hit : (c == mark) = true
    next =>
      have same : c = mark := by simpa using hit
      have back : Pos.Raw.unoffsetBy ⟨utf8Len front + utf8Len piece + c.utf8Size⟩ ⟨mark.utf8Size⟩ =
          ⟨utf8Len front + utf8Len piece⟩ := by
        rw [same]
        exact congrArg Pos.Raw.mk (by simp)
      have later := ih (front ++ piece ++ [c]) [] (ofList piece :: pieces)
      have length : utf8Len (front ++ piece ++ [c]) = utf8Len front + utf8Len piece + c.utf8Size := by
        simp [Nat.add_assoc]
      rw [length] at later
      simp only [if_pos hit, if_pos markEnds, back, extract_of_valid front piece (c :: rest)]
      simpa [-ofList_append] using later
    next =>
      have stays : Pos.Raw.unoffsetBy ⟨utf8Len front + utf8Len piece⟩ 0 = ⟨utf8Len front + utf8Len piece⟩ := rfl
      have later := ih front (piece ++ [c]) pieces
      have length : utf8Len front + utf8Len (piece ++ [c]) = utf8Len front + utf8Len piece + c.utf8Size := by
        simp [Nat.add_assoc]
      rw [length] at later
      simp only [if_neg hit, stays, next]
      simpa [-ofList_append] using later

theorem splitOn_single (text : String) :
    text.splitOn (ofList [mark]) = (text.toList.splitOnP (· == mark)).map ofList := by
  have pieces := splitOnAux_single mark [] [] text.toList []
  unfold splitOn
  rw [if_neg (by simp)]
  simpa using pieces

end Splitting

theorem Path.parts_chars (path : String) :
    Path.parts path =
      ((((path.toList.splitOnP (· == '/')).map ofList).filter fun part => part != "" && part != ".").foldl
        (fun before part => if part = ".." then before.tail else part :: before) []).reverse := by
  unfold Path.parts
  rw [← splitOn_single '/']

example : Path.parts "/home/../conf/./log" = ["conf", "log"] := by
  rw [Path.parts_chars]
  decide

end SpokenArithmetic
