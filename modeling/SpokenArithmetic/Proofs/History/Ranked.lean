import Mathlib.Tactic.Tauto
import SpokenArithmetic.History.Table

set_option autoImplicit false

namespace SpokenArithmetic

section Order

theorem atOrBehind_append {first second : List Nat} (same : first.length = second.length) (a b : Nat) :
    atOrBehind (first ++ [a]) (second ++ [b]) = true ↔
      List.Lex (· < ·) second first ∨ second = first ∧ b ≤ a := by
  induction first generalizing second with
  | nil =>
    have empty : second = [] := List.eq_nil_of_length_eq_zero same.symm
    subst empty
    simp [atOrBehind, Nat.le_iff_lt_or_eq, @eq_comm Nat a b]
  | cons x first ih =>
    cases second with
    | nil => cases same
    | cons y second =>
      have rest := ih (Nat.succ.inj same)
      simp only [List.cons_append, atOrBehind, Bool.or_eq_true, decide_eq_true_eq, Bool.and_eq_true, beq_iff_eq,
        rest, List.cons_lex_cons_iff, List.cons.injEq, eq_comm (a := x)]
      tauto

namespace Moment

instance : LT Moment :=
  ⟨fun earlier later => List.Lex (· < ·) earlier.key later.key⟩

instance : LE Moment :=
  ⟨fun earlier later => earlier < later ∨ earlier = later⟩

theorem eq_of_key {first second : Moment} (same : first.key = second.key) : first = second := by
  cases first
  cases second
  simpa [key] using same

theorem not_lt_self (moment : Moment) : ¬moment < moment :=
  List.lex_irrefl Nat.lt_irrefl moment.key

theorem lt_asymm {first second : Moment} (before : first < second) : ¬second < first :=
  List.lex_asymm Nat.lt_asymm before

end Moment

end Order

namespace Entry

def Newer (first second : Entry) : Prop :=
  second.createdAt < first.createdAt ∨ second.createdAt = first.createdAt ∧ second.id < first.id

theorem isNewer_iff (first second : Entry) :
    first.isNewer second = true ↔
      second.createdAt < first.createdAt ∨ second.createdAt = first.createdAt ∧ second.id ≤ first.id := by
  have lengths : first.createdAt.key.length = second.createdAt.key.length := rfl
  rw [isNewer, key, key, atOrBehind_append lengths]
  constructor
  next => exact Or.imp_right (And.imp_left Moment.eq_of_key)
  next => exact Or.imp_right (And.imp_left (congrArg Moment.key))

theorem isNewer_total (first second : Entry) : (first.isNewer second || second.isNewer first) = true := by
  simpa [isNewer] using atOrBehind_total first.key second.key

theorem isNewer_trans (first second third : Entry) (high : first.isNewer second = true)
    (low : second.isNewer third = true) : first.isNewer third = true :=
  atOrBehind_trans high low

theorem Newer.asymm {first second : Entry} (newer : first.Newer second) : ¬second.Newer first := by
  rcases newer with later | ⟨same, larger⟩
  next =>
    rintro (earlier | ⟨same, _⟩)
    next => exact Moment.lt_asymm later earlier
    next => exact Moment.not_lt_self _ (same ▸ later)
  next =>
    rintro (earlier | ⟨_, smaller⟩)
    next => exact Moment.not_lt_self _ (same ▸ earlier)
    next => omega

end Entry

structure Ranks (ranked entries : List Entry) : Prop where
  perm : ranked.Perm entries
  newestFirst : ranked.Pairwise Entry.Newer

theorem Ranks.unique {first second entries : List Entry} (one : Ranks first entries)
    (other : Ranks second entries) : first = second :=
  List.Perm.eq_of_pairwise (fun _ _ _ _ newer older => absurd older newer.asymm) one.newestFirst
    other.newestFirst (one.perm.trans other.perm.symm)

theorem Table.newestFirst_ranks {table : Table} (distinct : (table.entries.map Entry.id).Nodup) :
    Ranks table.newestFirst table.entries := by
  have perm : table.newestFirst.Perm table.entries := List.mergeSort_perm _ _
  have sorted := List.pairwise_mergeSort Entry.isNewer_trans Entry.isNewer_total table.entries
  have numbers : table.newestFirst.Pairwise fun first second => first.id ≠ second.id :=
    List.pairwise_map.1 ((perm.map Entry.id).nodup_iff.2 distinct)
  refine ⟨perm, (sorted.and numbers).imp ?_⟩
  intro first second ⟨newer, differ⟩
  rcases (Entry.isNewer_iff first second).1 newer with later | ⟨same, larger⟩
  next => exact .inl later
  next => exact .inr ⟨same, by omega⟩

section Numbering

structure Row where
  createdAt : Moment
  transcript : String
  expression : String
  result : String
  deriving DecidableEq, Repr

def Row.entry (id : Nat) (row : Row) : Entry :=
  { id, transcript := row.transcript, expression := row.expression, result := row.result
    createdAt := row.createdAt }

def numberedFrom : Nat -> List Row -> List Entry
  | _, [] => []
  | id, row :: rest => row.entry id :: numberedFrom (id + 1) rest

variable {id : Nat} {rows : List Row}

theorem numberedFrom_append (id : Nat) (rows more : List Row) :
    numberedFrom id (rows ++ more) = numberedFrom id rows ++ numberedFrom (id + rows.length) more := by
  induction rows generalizing id with
  | nil => rfl
  | cons row rest ih =>
    have shift : id + 1 + rest.length = id + (rest.length + 1) := by omega
    rw [List.cons_append, numberedFrom, numberedFrom, ih, List.length_cons, shift, List.cons_append]

theorem ids_numberedFrom (id : Nat) (rows : List Row) :
    (numberedFrom id rows).map Entry.id = List.range' id rows.length := by
  induction rows generalizing id with
  | nil => rfl
  | cons row rest ih => simp [numberedFrom, ih, Row.entry, List.range'_succ]

theorem length_numberedFrom (id : Nat) (rows : List Row) : (numberedFrom id rows).length = rows.length := by
  induction rows generalizing id with
  | nil => rfl
  | cons row rest ih => simp [numberedFrom, ih]

theorem nodup_numberedFrom (id : Nat) (rows : List Row) : ((numberedFrom id rows).map Entry.id).Nodup := by
  rw [ids_numberedFrom]
  exact List.nodup_range'

theorem mem_numberedFrom {entry : Entry} (member : entry ∈ numberedFrom id rows) :
    id ≤ entry.id ∧ exists row, row ∈ rows ∧ row.createdAt = entry.createdAt := by
  induction rows generalizing id with
  | nil => cases member
  | cons row rest ih =>
    rcases List.mem_cons.1 member with rfl | member
    next => exact ⟨Nat.le_refl id, row, List.mem_cons_self, rfl⟩
    next =>
      obtain ⟨above, found, among, same⟩ := ih member
      exact ⟨by omega, found, List.mem_cons_of_mem _ among, same⟩

theorem ranks_reverse (clock : rows.Pairwise fun earlier later => earlier.createdAt ≤ later.createdAt) :
    Ranks (numberedFrom id rows).reverse (numberedFrom id rows) := by
  refine ⟨List.reverse_perm _, List.pairwise_reverse.2 ?_⟩
  induction rows generalizing id with
  | nil => exact .nil
  | cons row rest ih =>
    obtain ⟨behind, clock⟩ := List.pairwise_cons.1 clock
    refine List.pairwise_cons.2 ⟨?_, ih clock⟩
    intro entry member
    obtain ⟨above, found, among, same⟩ := mem_numberedFrom member
    rcases behind found among with later | equal
    next => exact .inl (same ▸ later)
    next => exact .inr ⟨equal.trans same, above⟩

end Numbering

end SpokenArithmetic
