import SpokenArithmetic.Proofs.CommandLine.Recorded

set_option autoImplicit false

namespace SpokenArithmetic

section Showing

variable {quiet : Prop} {events front shown : List Event}

def Shows (quiet : Prop) (events shown : List Event) : Prop :=
  exists chatter, events = chatter ++ shown ∧ Chatter quiet chatter

theorem shows_behind (told : Chatter quiet front) (behind : Shows quiet events shown) :
    Shows quiet (front ++ events) shown := by
  obtain ⟨chatter, rfl, more⟩ := behind
  exact ⟨front ++ chatter, (List.append_assoc ..).symm, told.append more⟩

theorem shows_bind {A B : Type} {told : Told A} {next : A -> Told B} (first : Chatter quiet told.events)
    (rest : Shows quiet (next told.result).events shown) : Shows quiet (told >>= next).events shown :=
  shows_behind first rest

theorem shows_self (shown : List Event) : Shows quiet shown shown :=
  ⟨[], rfl, chatter_nil⟩

theorem outputOf_append (events more : List Event) : outputOf (events ++ more) = outputOf events ++ outputOf more := by
  simp [outputOf, String.join_append]

theorem errorOutputOf_append (events more : List Event) :
    errorOutputOf (events ++ more) = errorOutputOf events ++ errorOutputOf more := by
  simp [errorOutputOf, String.join_append]

theorem chatter_output (told : Chatter quiet events) (silent : quiet) : outputOf events = "" := by
  induction events with
  | nil => rfl
  | cons event rest ih =>
    have first := (told event List.mem_cons_self).2.2 silent
    have later := ih fun other member => told other (List.mem_cons_of_mem _ member)
    rw [outputOf, List.map_cons, String.join_cons, first, String.empty_append]
    exact later

theorem chatter_errorOutput (told : Chatter quiet events) : errorOutputOf events = "" := by
  induction events with
  | nil => rfl
  | cons event rest ih =>
    have first := (told event List.mem_cons_self).1
    have later := ih fun other member => told other (List.mem_cons_of_mem _ member)
    rw [errorOutputOf, List.map_cons, String.join_cons, first, String.empty_append]
    exact later

end Showing

theorem map_numberedFrom {A : Type} {ofEntry : Entry -> A} {ofRow : Row -> A}
    (same : forall id row, ofEntry (row.entry id) = ofRow row) (id : Nat) (rows : List Row) :
    (numberedFrom id rows).map ofEntry = rows.map ofRow := by
  induction rows generalizing id with
  | nil => rfl
  | cons row rest ih => rw [numberedFrom, List.map_cons, List.map_cons, same, ih]

namespace CommandLine

open Settings (Shared)

variable {rows : List Row} {history : History} {standard : Int} {quiet : Prop} {parts : List String}

section Listing

def cut (text : String) : String :=
  if text.length ≤ 64 then text else String.ofList (text.toList.take 64) ++ "..."

theorem truncated_cut (text : String) : truncated text phraseWidth = cut text := by
  unfold truncated cut
  have width : phraseWidth = 64 := rfl
  rw [width]
  by_cases short : text.length ≤ 64
  next => rw [if_pos short, if_neg (by omega)]
  next =>
    rw [if_neg short, if_pos (by omega)]
    rfl

def rowLine (row : Row) : Event :=
  .line ("\"" ++ cut row.transcript ++ "\"  " ++ row.expression ++ " = " ++ row.result)

def listed (rows : List Row) (count : Nat) : List Event :=
  if (rows.reverse.take count).isEmpty then [.line "No calculations yet. Start by speaking a calculation!"]
  else (rows.reverse.take count).map rowLine

def listingLimit (standard count : Int) : Int :=
  if count < 0 then standard else count

theorem listing_rows (numbered : history.table.entries = numberedFrom 1 rows)
    (limited : history.limit = .whole standard)
    (clock : rows.Pairwise fun earlier later => earlier.createdAt ≤ later.createdAt) (count : Int) :
    listing history count =
      if listingLimit standard count ≤ History.largestLimit then .ok (listed rows (listingLimit standard count).toNat)
      else .error .tooLarge := by
  have recent : history.recent (if count < 0 then .null else .whole count) =
      history.recent (.whole (listingLimit standard count)) := by
    unfold listingLimit
    split
    next => exact History.recent_null limited
    next => rfl
  have newest : history.table.newestFirst = (numberedFrom 1 rows).reverse := by
    have ranked : Ranks history.table.newestFirst history.table.entries :=
      Table.newestFirst_ranks (numbered ▸ nodup_numberedFrom 1 rows)
    exact ranked.unique (numbered ▸ ranks_reverse clock)
  have lines (limit : Nat) : ((numberedFrom 1 rows).reverse.take limit).map entryLine =
      (rows.reverse.take limit).map rowLine := by
    have same (id : Nat) (row : Row) : entryLine (row.entry id) = rowLine row := by
      rw [rowLine, ← truncated_cut]
      rfl
    rw [List.map_take, List.map_reverse, map_numberedFrom same, ← List.map_reverse, ← List.map_take]
  have empty (limit : Nat) : ((numberedFrom 1 rows).reverse.take limit).isEmpty =
      (rows.reverse.take limit).isEmpty := by
    rw [← List.isEmpty_map (f := entryLine), lines, List.isEmpty_map]
  unfold listing
  rw [recent, History.recent_whole, newest]
  split
  next =>
    rw [listed, ← empty, ← lines]
    show (if _ then _ else _) = _
    split <;> rfl
  next => rfl

end Listing

section Commanding

variable {told : Told Outcome} {asked : Asked}

structure Ends (quiet : Prop) (parts : List String) (told : Told Outcome)
    (answer : Except Fault Nat × List Event) (rows : List Row) : Prop where
  exit : told.result.1 = answer.1
  shows : Shows quiet told.events answer.2
  leaves : exists history, told.result.2 = some history ∧ history.place = .file parts ∧
    history.table.entries = numberedFrom 1 rows

theorem Ends.behind {A : Type} {first : Told A} {next : A -> Told Outcome} {answer : Except Fault Nat × List Event}
    (chatter : Chatter quiet first.events) (ends : Ends quiet parts (next first.result) answer rows) :
    Ends quiet parts (first >>= next) answer rows :=
  ⟨ends.exit, shows_bind chatter ends.shows, ends.leaves⟩

def answerListing (history : Option Int) (standard : Int) (rows : List Row) : Except Fault Nat × List Event :=
  match history with
  | none => (.ok 0, [])
  | some count =>
    if listingLimit standard count ≤ History.largestLimit then
      (.ok 0, listed rows (listingLimit standard count).toNat)
    else (.error (.limit .tooLarge), [])

def Asked.leaves (asked : Asked) (rows : List Row) : List Row :=
  if asked.clearHistory then [] else rows

def answerTending (asked : Asked) (standard : Int) (rows : List Row) : Except Fault Nat × List Event :=
  let cleared := if asked.clearHistory then [.line s!"History cleared ({rows.length} entries)"] else []
  let answer := answerListing asked.history standard (asked.leaves rows)
  (answer.1, cleared ++ answer.2)

def tendListing (asked : Asked) (history : History) : Told Outcome :=
  match asked.history.map (listing history) with
  | none => pure (.ok 0, some history)
  | some (.error fault) => pure (.error (.limit fault), some history)
  | some (.ok events) => do
    Told.tell events
    return (.ok 0, some history)

theorem tendHistory_some (asked : Asked) (history : History) :
    tendHistory asked (some history) =
      if asked.clearHistory then do
        let (count, history) <- history.clear
        Told.tell [.line s!"History cleared ({count} entries)"]
        tendListing asked history
      else tendListing asked history := by
  unfold tendHistory
  cases asked.clearHistory <;> rfl

theorem tendListing_rows (numbered : history.table.entries = numberedFrom 1 rows)
    (limited : history.limit = .whole standard)
    (clock : rows.Pairwise fun earlier later => earlier.createdAt ≤ later.createdAt) :
    tendListing asked history =
      ⟨((answerListing asked.history standard rows).1, some history),
       (answerListing asked.history standard rows).2⟩ := by
  unfold tendListing answerListing
  cases asked.history with
  | none => rfl
  | some count =>
    rw [Option.map_some, listing_rows numbered limited clock]
    by_cases small : listingLimit standard count ≤ History.largestLimit
    next =>
      simp only [if_pos small]
      exact congrArg _ (List.append_nil _)
    next =>
      simp only [if_neg small]
      rfl

theorem tendHistory_ends (placed : history.place = .file parts)
    (numbered : history.table.entries = numberedFrom 1 rows) (limited : history.limit = .whole standard)
    (clock : rows.Pairwise fun earlier later => earlier.createdAt ≤ later.createdAt) :
    Ends quiet parts (tendHistory asked (some history)) (answerTending asked standard rows) (asked.leaves rows) := by
  rw [tendHistory_some]
  unfold answerTending Asked.leaves
  split
  next =>
    have cleared : history.clear.result = (rows.length, { history with table := .empty }) := by
      rw [← length_numberedFrom 1 rows, ← numbered]
      rfl
    have none : ({ history with table := .empty } : History).table.entries = numberedFrom 1 [] := rfl
    refine .behind (chatter_noted _ _) ?_
    rw [cleared]
    dsimp only
    rw [tendListing_rows none limited .nil]
    exact ⟨rfl, shows_self _, _, rfl, placed, rfl⟩
  next =>
    rw [tendListing_rows numbered limited clock]
    exact ⟨rfl, shows_self _, history, rfl, placed, numbered⟩

end Commanding

end CommandLine

end SpokenArithmetic
