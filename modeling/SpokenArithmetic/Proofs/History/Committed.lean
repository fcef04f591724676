import SpokenArithmetic.History.Store
import SpokenArithmetic.Proofs.History.Ranked

set_option autoImplicit false

namespace SpokenArithmetic

namespace Table

def enter (rows : List Row) (table : Table) : Table :=
  rows.foldl (fun table row => (table.add row.createdAt row.transcript row.expression row.result).2) table

variable {rows : List Row} {table : Table}

theorem nextId_numbered (numbered : table.entries = numberedFrom 1 rows) : table.nextId = rows.length + 1 := by
  have largest (count first : Nat) : (List.range' 1 count).foldl max first = max first count := by
    induction count with
    | zero => simp
    | succ count ih =>
      rw [List.range'_concat, List.foldl_append, ih]
      simp only [List.foldl_cons, List.foldl_nil]
      omega
  rw [nextId, numbered, ids_numberedFrom, largest]
  omega

theorem add_numbered (numbered : table.entries = numberedFrom 1 rows) (row : Row) :
    (table.add row.createdAt row.transcript row.expression row.result).1 = rows.length + 1 ∧
      (table.add row.createdAt row.transcript row.expression row.result).2.entries =
        numberedFrom 1 (rows ++ [row]) := by
  have next := nextId_numbered numbered
  refine ⟨next, ?_⟩
  rw [numberedFrom_append, ← numbered, Nat.add_comm 1, ← next]
  rfl

theorem enter_numbered (numbered : table.entries = numberedFrom 1 rows) (more : List Row) :
    (table.enter more).entries = numberedFrom 1 (rows ++ more) := by
  induction more generalizing rows table with
  | nil => rw [List.append_nil]; exact numbered
  | cons row rest ih =>
    have later := ih (add_numbered numbered row).2
    rw [List.append_assoc] at later
    exact later

end Table

namespace History

open Settings (Value)

section Operations

inductive Operation where
  | save (now : Moment) (transcript expression result : Datum)
  | commit (rows : List Row)
  | abandon (rows : List Row)
  | clear
  | list (limit : Value)
  | count

def creating (rows : List Row) (fails : Bool) (table : Table) : Except Unit (Unit × Table) :=
  let entered := table.enter rows
  if fails then .error () else .ok ((), entered)

def perform (history : History) : Operation -> History
  | .save now transcript expression result => (history.save now transcript expression result).result.2
  | .commit rows => { history with table := (history.table.transact (creating rows false)).2 }
  | .abandon rows => { history with table := (history.table.transact (creating rows true)).2 }
  | .clear => history.clear.result.2
  | .list _ => history
  | .count => history

def after (history : History) (operations : List Operation) : History :=
  operations.foldl perform history

def Operation.commits (rows : List Row) : Operation -> List Row
  | save now transcript expression result =>
    rows ++ [⟨now, kept transcript, kept expression, kept result⟩]
  | commit more => rows ++ more
  | abandon _ => rows
  | clear => []
  | list _ => rows
  | count => rows

def committed (operations : List Operation) : List Row :=
  operations.foldl Operation.commits []

variable {history : History} {rows : List Row}

theorem perform_numbered (numbered : history.table.entries = numberedFrom 1 rows) (operation : Operation) :
    (history.perform operation).table.entries = numberedFrom 1 (operation.commits rows) := by
  cases operation with
  | save now transcript expression result =>
    exact (Table.add_numbered numbered ⟨now, kept transcript, kept expression, kept result⟩).2
  | commit more => exact Table.enter_numbered numbered more
  | clear => rfl
  | abandon | list | count => exact numbered

theorem perform_limit (history : History) (operation : Operation) :
    (history.perform operation).limit = history.limit := by
  cases operation <;> rfl

theorem after_numbered (numbered : history.table.entries = numberedFrom 1 rows) (operations : List Operation) :
    (history.after operations).table.entries = numberedFrom 1 (operations.foldl Operation.commits rows) ∧
      (history.after operations).limit = history.limit := by
  induction operations generalizing history rows with
  | nil => exact ⟨numbered, rfl⟩
  | cons operation rest ih =>
    have later := ih (perform_numbered numbered operation)
    rw [perform_limit] at later
    exact later

end Operations

section Listing

theorem askable_natural (count : Nat) :
    askable count = if (count : Int) ≤ largestLimit then .ok (count : Int) else .error .tooLarge := by
  have largest : largestLimit = 9223372036854775807 := rfl
  unfold askable
  simp only [Bool.or_eq_true, decide_eq_true_eq]
  by_cases small : (count : Int) ≤ largestLimit
  next => rw [if_neg (by omega), if_pos small]
  next => rw [if_pos (by omega), if_neg small]

theorem readLimit_whole (limit : Int) :
    readLimit (.whole limit) = if limit ≤ largestLimit then .ok limit.toNat else .error .tooLarge := by
  have largest : largestLimit = 9223372036854775807 := rfl
  show Int.toNat <$> askable limit.toNat = _
  rw [askable_natural]
  by_cases small : limit ≤ largestLimit
  next =>
    rw [if_pos small, if_pos (by omega)]
    rfl
  next =>
    rw [if_neg small, if_neg (by omega)]
    rfl

theorem recent_whole (history : History) (limit : Int) :
    history.recent (.whole limit) =
      if limit ≤ largestLimit then .ok (history.table.newestFirst.take limit.toNat) else .error .tooLarge := by
  show (readLimit (.whole limit)).bind (fun count => .ok (history.table.recent count)) = _
  rw [readLimit_whole]
  by_cases small : limit ≤ largestLimit
  next =>
    rw [if_pos small, if_pos small]
    rfl
  next =>
    rw [if_neg small, if_neg small]
    rfl

theorem recent_null {history : History} {standard : Int} (limited : history.limit = .whole standard) :
    history.recent .null = history.recent (.whole standard) := by
  unfold recent
  rw [limited]

end Listing

/-- What a history answers when these rows are committed and its own limit is a given number. -/
structure Serves (history : History) (standard : Int) (rows : List Row) : Prop where
  entries : history.table.entries = numberedFrom 1 rows
  ids : history.table.entries.map Entry.id = List.range' 1 rows.length
  distinct : (history.table.entries.map Entry.id).Nodup
  counted : history.table.count = rows.length
  saved : forall now transcript expression result,
    (history.save now transcript expression result).result.1 = rows.length + 1
  cleared : history.clear.result.1 = rows.length ∧ history.clear.result.2.table = .empty
  abandoned : forall given, history.perform (.abandon given) = history
  listed : exists ranked, Ranks ranked history.table.entries ∧
    (forall limit : Int, history.recent (.whole limit) =
      if limit ≤ largestLimit then .ok (ranked.take limit.toNat) else .error .tooLarge) ∧
    ((rows.Pairwise fun earlier later => earlier.createdAt ≤ later.createdAt) ->
      ranked = history.table.entries.reverse)
  standard : history.recent .null = history.recent (.whole standard)
  shorter : forall fewer more : Int, fewer ≤ more -> more ≤ largestLimit ->
    exists first second, history.recent (.whole fewer) = .ok first ∧ history.recent (.whole more) = .ok second ∧
      first <+: second

theorem serves_numbered {history : History} {rows : List Row} {standard : Int}
    (numbered : history.table.entries = numberedFrom 1 rows) (limited : history.limit = .whole standard) :
    history.Serves standard rows := by
  have distinct : (history.table.entries.map Entry.id).Nodup := numbered ▸ nodup_numberedFrom 1 rows
  have count : history.table.count = rows.length := by
    rw [Table.count, numbered, length_numberedFrom]
  have ranks := Table.newestFirst_ranks distinct
  refine {
    entries := numbered
    ids := numbered ▸ ids_numberedFrom 1 rows
    distinct := distinct
    counted := count
    saved := fun _ _ _ _ => Table.nextId_numbered numbered
    cleared := ⟨count, rfl⟩
    abandoned := fun _ => rfl
    listed := ⟨history.table.newestFirst, ranks, recent_whole history, fun clock => ?_⟩
    standard := recent_null limited
    shorter := fun fewer more ordered small => ?_ }
  next =>
    have reversed : Ranks history.table.entries.reverse history.table.entries := numbered ▸ ranks_reverse clock
    exact ranks.unique reversed
  next =>
    have smaller : fewer ≤ largestLimit := Int.le_trans ordered small
    refine ⟨_, _, (recent_whole history fewer).trans (if_pos smaller), (recent_whole history more).trans (if_pos small),
      List.take_prefix_take_left (by omega)⟩

/-- Whatever is done with a history that starts empty, it serves the rows that are committed. -/
theorem after_serves (operations : List Operation) (start : History) (empty : start.table = .empty)
    (standard : Int) (limited : start.limit = .whole standard) :
    (start.after operations).Serves standard (committed operations) := by
  have none : start.table.entries = numberedFrom 1 [] := congrArg Table.entries empty
  obtain ⟨numbered, same⟩ := after_numbered none operations
  exact serves_numbered numbered (same.trans limited)

section Sessions

def ledger : History :=
  { address := "sqlite://", place := .memory, limit := .whole 2, trace := false, table := .empty }

def morning : Moment := { year := 2026, month := 1, day := 1 }

def noon : Moment := { morning with hour := 12 }

def workday : List Operation :=
  [.save noon (.text "two squared") (.text "(2^2)") (.text "4"), .clear,
    .save noon (.text "five plus three") (.text "5+3") (.text "8"), .abandon [⟨noon, "lost", "0", "0"⟩],
    .commit [⟨morning, "one", "1", "1"⟩], .list (.whole 7)]

theorem after_serves_workday :
    ledger.table = .empty ∧ ledger.limit = .whole 2 ∧
      (ledger.after workday).Serves 2 [⟨noon, "five plus three", "5+3", "8"⟩, ⟨morning, "one", "1", "1"⟩] :=
  ⟨rfl, rfl, after_serves workday ledger rfl 2 rfl⟩

theorem recent_refused :
    ¬forall limit : Int, exists listed, (ledger.after workday).recent (.whole limit) = .ok listed := by
  intro listed
  obtain ⟨entries, given⟩ := listed 9223372036854775808
  rw [recent_whole, if_neg (by decide)] at given
  cases given

end Sessions

end History

end SpokenArithmetic
