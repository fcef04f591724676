import SpokenArithmetic.Proofs.Phrase.Merging

set_option autoImplicit false

namespace SpokenArithmetic.Phrase

open Number Text Token

section Parting

structure Stretch where
  group : List Char
  outside : List Char

def Stretch.written (stretch : Stretch) : List Char :=
  stretch.group ++ stretch.outside

def writtenAll (stretches : List Stretch) : List Char :=
  stretches.flatMap Stretch.written

structure Parted where
  lead : List Char
  stretches : List Stretch

def Parted.written (parts : Parted) : List Char :=
  parts.lead ++ writtenAll parts.stretches

def Parted.digit (c : Char) : Parted -> Parted
  | ⟨[], stretch :: rest⟩ => ⟨[], ⟨c :: stretch.group, stretch.outside⟩ :: rest⟩
  | ⟨lead, stretches⟩ => ⟨[], ⟨[c], lead⟩ :: stretches⟩

def parted : List Char -> Parted
  | [] => ⟨[], []⟩
  | c :: text =>
    if isDigit c then (parted text).digit c else ⟨c :: (parted text).lead, (parted text).stretches⟩

def groupCount (text : List Char) : Nat :=
  (parted text).stretches.length

inductive Separate : List Stretch -> Prop where
  | nil : Separate []
  | cons {stretch : Stretch} {rest : List Stretch} (isDigits : IsDigits stretch.group)
    (noDigit : forall c, c ∈ stretch.outside -> isDigit c = false) (between : rest ≠ [] -> stretch.outside ≠ [])
    (separate : Separate rest) : Separate (stretch :: rest)

variable {text lead outside group : List Char} {stretches : List Stretch}

theorem writtenAll_cons (stretch : Stretch) (rest : List Stretch) :
    writtenAll (stretch :: rest) = stretch.group ++ (stretch.outside ++ writtenAll rest) := by
  simp [writtenAll, Stretch.written]

theorem Parted.digit_written (c : Char) (parts : Parted) : (parts.digit c).written = c :: parts.written := by
  obtain ⟨_ | ⟨d, lead⟩, _ | ⟨stretch, rest⟩⟩ := parts <;>
    simp [Parted.digit, Parted.written, writtenAll, Stretch.written]

theorem parted_written (text : List Char) : (parted text).written = text := by
  induction text with
  | nil => rfl
  | cons c text ih =>
    unfold parted
    split
    next => rw [Parted.digit_written, ih]
    next => exact congrArg (c :: ·) ih

structure Parted.Sound (parts : Parted) : Prop where
  lead : forall c, c ∈ parts.lead -> isDigit c = false
  separate : Separate parts.stretches

theorem Parted.Sound.digit {parts : Parted} (sound : parts.Sound) {c : Char} (isDigit : isDigit c = true) :
    (parts.digit c).Sound := by
  obtain ⟨lead, separate⟩ := sound
  obtain ⟨_ | ⟨d, lead⟩, _ | ⟨stretch, rest⟩⟩ := parts
  next => exact ⟨nofun, .cons ⟨by simp, by simpa using isDigit⟩ nofun nofun .nil⟩
  next =>
    obtain _ | ⟨isDigits, noDigit, between, separate⟩ := separate
    exact ⟨nofun, .cons ⟨by simp, List.forall_mem_cons.2 ⟨isDigit, isDigits.2⟩⟩ noDigit between separate⟩
  next => exact ⟨nofun, .cons ⟨by simp, by simpa using isDigit⟩ lead nofun separate⟩
  next => exact ⟨nofun, .cons ⟨by simp, by simpa using isDigit⟩ lead (by simp) separate⟩

theorem parted_sound (text : List Char) : (parted text).Sound := by
  induction text with
  | nil => exact ⟨nofun, .nil⟩
  | cons c text ih =>
    unfold parted
    by_cases isDigit : isDigit c = true
    next =>
      rw [if_pos isDigit]
      exact ih.digit isDigit
    next =>
      rw [if_neg isDigit]
      exact ⟨List.forall_mem_cons.2 ⟨by simpa using isDigit, ih.lead⟩, ih.separate⟩

theorem parted_lead (noDigit : forall c, c ∈ lead -> isDigit c = false) (text : List Char) :
    parted (lead ++ text) = ⟨lead ++ (parted text).lead, (parted text).stretches⟩ := by
  induction lead with
  | nil => rfl
  | cons c lead ih =>
    obtain ⟨here, others⟩ := List.forall_mem_cons.1 noDigit
    rw [List.cons_append, parted, here, ih others]
    rfl

theorem parted_group (isDigits : IsDigits group) {parts : Parted} (apart : parts.lead = [] -> parts.stretches = [])
    (parting : parted text = parts) :
    parted (group ++ text) = ⟨[], ⟨group, parts.lead⟩ :: parts.stretches⟩ := by
  obtain ⟨present, all⟩ := isDigits
  induction group with
  | nil => exact absurd rfl present
  | cons c group ih =>
    obtain ⟨here, others⟩ := List.forall_mem_cons.1 all
    rw [List.cons_append, parted, if_pos here]
    by_cases single : group = []
    next =>
      subst single
      rw [List.nil_append, parting]
      obtain ⟨_ | ⟨d, lead⟩, stretches⟩ := parts
      next =>
        obtain rfl : stretches = [] := apart rfl
        rfl
      next => rfl
    next =>
      rw [ih single others]
      rfl

theorem parted_stretches (separate : Separate stretches) : parted (writtenAll stretches) = ⟨[], stretches⟩ := by
  induction separate with
  | nil => rfl
  | @cons stretch rest isDigits noDigit between _ ih =>
    have parting : parted (stretch.outside ++ writtenAll rest) = ⟨stretch.outside, rest⟩ := by
      rw [parted_lead noDigit, ih, List.append_nil]
    have apart : stretch.outside = [] -> rest = [] := fun none => by
      by_contra present
      exact between present none
    rw [writtenAll_cons, parted_group isDigits apart parting]

theorem Parted.Sound.unique {parts : Parted} (sound : parts.Sound) : parted parts.written = parts := by
  rw [Parted.written, parted_lead sound.lead, parted_stretches sound.separate, List.append_nil]

theorem groupCount_le_length (text : List Char) : groupCount text ≤ text.length := by
  have counted (stretches : List Stretch) (separate : Separate stretches) :
      stretches.length ≤ (writtenAll stretches).length := by
    induction separate with
    | nil => exact Nat.le_refl _
    | cons isDigits _ _ _ ih =>
      have present := List.length_pos_iff.2 isDigits.1
      rw [writtenAll_cons, List.length_cons, List.length_append, List.length_append]
      omega
  have whole := congrArg List.length (parted_written text)
  rw [Parted.written, List.length_append] at whole
  have stretches := counted _ (parted_sound text).separate
  rw [groupCount]
  omega

end Parting

section Merging

variable {stretches next : List Stretch}

/-- What one round makes of the groups of a text: each stays as it is with what stands behind it, or two that belong
together become one and the white space between them goes. -/
inductive Merges : List Stretch -> List Stretch -> Prop where
  | nil : Merges [] []
  | keep {stretches next : List Stretch} (stretch : Stretch) (rest : Merges stretches next) :
    Merges (stretch :: stretches) (stretch :: next)
  | merge {pair : Neighbours} {outside : List Char} {stretches next : List Stretch} (isGap : IsGap pair.gap)
    (long : 2 ≤ pair.high.length) (belong : pair.Belong) (rest : Merges stretches next) :
    Merges (⟨pair.high, pair.gap⟩ :: ⟨pair.low, outside⟩ :: stretches) (⟨pair.merged, outside⟩ :: next)

theorem Merges.shortens (merges : Merges stretches next) : next = stretches ∨ next.length < stretches.length := by
  induction merges with
  | nil => exact .inl rfl
  | keep stretch _ ih => exact ih.imp (congrArg (stretch :: ·)) Nat.succ_lt_succ
  | merge _ _ _ _ ih =>
    right
    rcases ih with rfl | shorter
    next => exact Nat.lt_succ_self _
    next => exact Nat.lt_succ_of_lt (Nat.succ_lt_succ shorter)

theorem Merges.nil_iff (merges : Merges stretches next) : next = [] ↔ stretches = [] := by
  cases merges <;> simp

theorem Neighbours.merged_digits {pair : Neighbours} (isHigh : IsDigits pair.high) (isLow : IsDigits pair.low)
    (belong : pair.Belong) : IsDigits pair.merged := by
  unfold Neighbours.merged
  split
  next => exact isDigits_toDigits _
  next full =>
    have short : pair.low.length ≤ 2 := belong.resolve_right (by simpa [Neighbours.fills] using full)
    rw [if_pos short]
    refine ⟨by simp [isHigh.1], fun c member => ?_⟩
    exact (List.mem_append.1 member).elim (isHigh.2 c) (isLow.2 c)

theorem Neighbours.merged_apart {pair : Neighbours} (apart : ¬pair.Belong) : pair.merged = pair.written := by
  obtain ⟨long, full⟩ := not_or.1 apart
  unfold Neighbours.merged
  rw [if_neg (by simpa [Neighbours.fills] using full), if_neg long, Neighbours.written]
  exact List.append_assoc _ _ _

theorem writtenAll_head (separate : Separate stretches) :
    (writtenAll stretches).head?.any (fun c => !isDigit c) = false := by
  cases separate with
  | nil => rfl
  | @cons stretch rest isDigits _ _ _ =>
    obtain ⟨present, all⟩ := isDigits
    rw [writtenAll_cons]
    cases group : stretch.group with
    | nil => exact absurd group present
    | cons c others => simp [all c (by simp [group])]

theorem outside_head {outside : List Char} (noDigit : forall c, c ∈ outside -> isDigit c = false)
    (between : stretches ≠ [] -> outside ≠ []) :
    (outside ++ writtenAll stretches).head?.any isDigit = false := by
  cases outside with
  | nil =>
    obtain rfl : stretches = [] := by
      by_contra present
      exact between present rfl
    rfl
  | cons c outside => exact noDigit c List.mem_cons_self

theorem neighbours_stretches {before : Option Char} {stretch : Stretch} {rest : List Stretch} {pair : Neighbours}
    {behind : List Char} (separate : Separate (stretch :: rest))
    (matched : neighbours before (writtenAll (stretch :: rest)) = some (pair, behind)) :
    exists following more, rest = following :: more ∧ stretch = ⟨pair.high, pair.gap⟩ ∧
      following.group = pair.low ∧ behind = following.outside ++ writtenAll more := by
  obtain ⟨same, ⟨_, isHigh, isGap, isLow, _, _⟩, ends⟩ := neighbours_eq_some_written.1 matched
  obtain _ | ⟨isDigits, noDigit, between, separateRest⟩ := separate
  rw [writtenAll_cons, Neighbours.written, List.append_assoc, List.append_assoc] at same
  obtain ⟨high, same⟩ := span_unique same isDigits.2 isHigh.2 (outside_head noDigit between)
    (isGap.head (fun c space => (space_cases space).1) _)
  have others : forall c, c ∈ stretch.outside -> (!isDigit c) = true := fun c member => by simp [noDigit c member]
  have spaces : forall c, c ∈ pair.gap -> (!isDigit c) = true := fun c member => by
    simp [(space_cases (isGap.2 c member)).1]
  have lowHead : (pair.low ++ behind).head?.any (fun c => !isDigit c) = false := by
    obtain ⟨present, all⟩ := isLow
    cases low : pair.low with
    | nil => exact absurd low present
    | cons c low' => simp [all c (by simp [low])]
  obtain ⟨gap, same⟩ := span_unique same others spaces (writtenAll_head separateRest) lowHead
  cases separateRest with
  | nil =>
    have none : pair.low = [] := (List.append_eq_nil_iff.1 same.symm).1
    exact absurd none isLow.1
  | @cons following more isNext noDigitNext betweenNext _ =>
    rw [writtenAll_cons] at same
    obtain ⟨low, same⟩ := span_unique same isNext.2 isLow.2 (outside_head noDigitNext betweenNext)
      (digit_of_point ends)
    exact ⟨following, more, rfl, by rw [← high, ← gap], low, same.symm⟩

theorem passes_group {before : Option Char} {group rest : List Char} (isDigits : IsDigits group)
    (none : neighbours before (group ++ rest) = none) : neighbours.Passes before group rest := by
  obtain ⟨present, all⟩ := isDigits
  cases group with
  | nil => exact absurd rfl present
  | cons c group =>
    have barred : forall d, d ∈ c :: group -> isDigitOrPoint d = true := fun d member => by
      simp [isDigitOrPoint, all d member]
    exact ⟨none, Pattern.passes_barred (barred c List.mem_cons_self) fun d member =>
      barred d (List.mem_cons_of_mem c member)⟩

theorem replaceFrom_outside {before : Option Char} {outside : List Char}
    (noDigit : forall c, c ∈ outside -> isDigit c = false) (rest : List Char) :
    neighbours.replaceFrom Neighbours.merged before 0 (outside ++ rest) =
      outside ++ neighbours.replaceFrom Neighbours.merged (lastBehind before outside) 0 rest :=
  Pattern.replaceFrom_passed (Pattern.passes_of_unmatched fun _ _ _ member => neighbours_other (noDigit _ member))

theorem replaceFrom_merges (separate : Separate stretches) (before : Option Char) :
    exists next, Merges stretches next ∧ Separate next ∧
      neighbours.replaceFrom Neighbours.merged before 0 (writtenAll stretches) = writtenAll next := by
  generalize count : stretches.length = size
  induction size using Nat.strongRecOn generalizing stretches before with
  | ind size ih =>
    subst count
    cases separate with
    | nil => exact ⟨[], .nil, .nil, rfl⟩
    | @cons stretch rest isDigits noDigit between separateRest =>
      cases matched : neighbours before (writtenAll (stretch :: rest)) with
      | none =>
        rw [writtenAll_cons] at matched ⊢
        rw [Pattern.replaceFrom_passed (passes_group isDigits matched), replaceFrom_outside noDigit]
        obtain ⟨next, merges, separateNext, same⟩ := ih rest.length (Nat.lt_succ_self _) separateRest
          (lastBehind (lastBehind before stretch.group) stretch.outside) rfl
        refine ⟨stretch :: next, .keep stretch merges, .cons isDigits noDigit ?_ separateNext, ?_⟩
        next => exact fun present => between fun none => present (merges.nil_iff.2 none)
        next => rw [same, writtenAll_cons]
      | some found =>
        obtain ⟨pair, behind⟩ := found
        obtain ⟨following, more, rfl, rfl, low, rfl⟩ :=
          neighbours_stretches (.cons isDigits noDigit between separateRest) matched
        obtain ⟨group, outside⟩ := following
        obtain rfl : group = pair.low := low
        obtain ⟨whole, ⟨_, isHigh, isGap, isLow, long, _⟩, _⟩ := neighbours_eq_some_written.1 matched
        obtain _ | ⟨_, noDigitNext, betweenNext, separateMore⟩ := separateRest
        have present : pair.written ≠ [] := by simp [Neighbours.written, isHigh.1]
        rw [whole] at matched ⊢
        rw [Pattern.replaceFrom_matched present matched, replaceFrom_outside noDigitNext]
        obtain ⟨next, merges, separateNext, same⟩ := ih more.length (by simp only [List.length_cons]; omega)
          separateMore (lastBehind (lastBehind before pair.written) outside) rfl
        have betweenMerged : next ≠ [] -> outside ≠ [] :=
          fun present => betweenNext fun none => present (merges.nil_iff.2 none)
        rw [same]
        by_cases belong : pair.Belong
        next =>
          have isMerged := Neighbours.merged_digits isHigh isLow belong
          exact ⟨_, .merge isGap long belong merges, .cons isMerged noDigitNext betweenMerged separateNext,
            (writtenAll_cons ⟨pair.merged, outside⟩ next).symm⟩
        next =>
          refine ⟨_ :: _ :: next, .keep _ (.keep _ merges), ?_, ?_⟩
          next =>
            exact .cons isHigh noDigit (fun _ => isGap.1) (.cons isLow noDigitNext betweenMerged separateNext)
          next =>
            rw [Neighbours.merged_apart belong, writtenAll_cons, writtenAll_cons, Neighbours.written]
            simp

theorem mergeOnce_merges (text : List Char) :
    (parted (mergeOnce text)).lead = (parted text).lead ∧
      Merges (parted text).stretches (parted (mergeOnce text)).stretches := by
  obtain ⟨lead, separate⟩ := parted_sound text
  obtain ⟨next, merges, separateNext, same⟩ :=
    replaceFrom_merges separate (lastBehind none (parted text).lead)
  have merged : mergeOnce text = Parted.written ⟨(parted text).lead, next⟩ := by
    calc
      mergeOnce text = mergeOnce (parted text).written := by rw [parted_written]
      _ = _ := by
        unfold mergeOnce Parted.written Pattern.replace
        rw [replaceFrom_outside lead, same]
  have sound : Parted.Sound ⟨(parted text).lead, next⟩ := ⟨lead, separateNext⟩
  rw [merged, sound.unique]
  exact ⟨rfl, merges⟩

theorem mergeOnce_fewer {text : List Char} (changed : mergeOnce text ≠ text) :
    groupCount (mergeOnce text) < groupCount text := by
  obtain ⟨lead, merges⟩ := mergeOnce_merges text
  rcases merges.shortens with same | shorter
  next =>
    refine absurd ?_ changed
    rw [← parted_written (mergeOnce text), Parted.written, lead, same]
    exact parted_written text
  next => exact shorter

end Merging

section Running

variable {stretches middle next : List Stretch}

/-- What the rounds together make of the groups of a text: each stays as it is with what stands behind it, or several
with white space between them become one, and what stands behind the last of these stays. -/
inductive Joins : List Stretch -> List Stretch -> Prop where
  | nil : Joins [] []
  | keep {stretches next : List Stretch} (stretch : Stretch) (rest : Joins stretches next) :
    Joins (stretch :: stretches) (stretch :: next)
  | join {high gap group outside joined : List Char} {stretches next : List Stretch} (isGap : IsGap gap)
    (isDigits : IsDigits joined) (rest : Joins stretches (⟨group, outside⟩ :: next)) :
    Joins (⟨high, gap⟩ :: stretches) (⟨joined, outside⟩ :: next)

theorem joins_refl (stretches : List Stretch) : Joins stretches stretches := by
  induction stretches with
  | nil => exact .nil
  | cons stretch rest ih => exact .keep stretch ih

theorem Merges.joins (merges : Merges stretches next) (separate : Separate stretches) : Joins stretches next := by
  induction merges with
  | nil => exact .nil
  | keep stretch _ ih =>
    obtain _ | ⟨_, _, _, separateRest⟩ := separate
    exact .keep stretch (ih separateRest)
  | merge isGap _ belong _ ih =>
    obtain _ | ⟨isHigh, _, _, _ | ⟨isLow, _, _, separateRest⟩⟩ := separate
    exact .join isGap (Neighbours.merged_digits isHigh isLow belong) (.keep _ (ih separateRest))

theorem Joins.onward {stretch : Stretch} (joins : Joins stretches (stretch :: middle))
    (further : forall others, Joins others middle -> Joins others next) : Joins stretches (stretch :: next) := by
  generalize whole : stretch :: middle = all at joins
  induction joins generalizing stretch with
  | nil => cases whole
  | keep _ rest _ =>
    cases whole
    exact .keep _ (further _ rest)
  | join isGap isDigits _ ih =>
    cases whole
    exact .join isGap isDigits (ih rfl)

theorem Joins.absorb {high gap group outside joined : List Char} (isGap : IsGap gap) (isDigits : IsDigits joined)
    (joins : Joins stretches (⟨high, gap⟩ :: middle))
    (further : forall others, Joins others middle -> Joins others (⟨group, outside⟩ :: next)) :
    Joins stretches (⟨joined, outside⟩ :: next) := by
  generalize whole : Stretch.mk high gap :: middle = all at joins
  induction joins generalizing high with
  | nil => cases whole
  | keep _ rest _ =>
    cases whole
    exact .join isGap isDigits (further _ rest)
  | join isGapFirst _ _ ih =>
    cases whole
    exact .join isGapFirst isDigits (ih rfl)

theorem Joins.trans (first : Joins stretches middle) (second : Joins middle next) : Joins stretches next := by
  induction second generalizing stretches with
  | nil => exact first
  | keep _ _ ih => exact first.onward fun _ => ih
  | join isGap isDigits _ ih => exact first.absorb isGap isDigits fun _ => ih

theorem Joins.solid (joins : Joins stretches next) :
    (next.flatMap Stretch.outside).filter (!isSpace ·) = (stretches.flatMap Stretch.outside).filter (!isSpace ·) := by
  induction joins with
  | nil => rfl
  | keep stretch _ ih => rw [List.flatMap_cons, List.flatMap_cons, List.filter_append, List.filter_append, ih]
  | @join high gap _ _ _ stretches _ isGap _ _ ih =>
    have none : gap.filter (!isSpace ·) = [] := List.filter_eq_nil_iff.2 fun c member => by simp [isGap.2 c member]
    calc
      _ = gap.filter (!isSpace ·) ++ (stretches.flatMap Stretch.outside).filter (!isSpace ·) := by rw [none, ← ih]; rfl
      _ = _ := by rw [List.flatMap_cons, List.filter_append]

def Parted.outside (parts : Parted) : List Char :=
  parts.lead ++ parts.stretches.flatMap Stretch.outside

theorem mergeOnce_joins (rounds : Nat) (text : List Char) :
    (parted (mergeOnce^[rounds] text)).lead = (parted text).lead ∧
      Joins (parted text).stretches (parted (mergeOnce^[rounds] text)).stretches := by
  induction rounds generalizing text with
  | zero => exact ⟨rfl, joins_refl _⟩
  | succ rounds ih =>
    obtain ⟨lead, merges⟩ := mergeOnce_merges text
    obtain ⟨leadLater, joins⟩ := ih (mergeOnce text)
    exact ⟨leadLater.trans lead, (merges.joins (parted_sound text).separate).trans joins⟩

theorem mergeOnce_settles (text : List Char) :
    exists rounds, rounds ≤ groupCount text ∧
      (forall earlier, earlier < rounds -> mergeOnce (mergeOnce^[earlier] text) ≠ mergeOnce^[earlier] text) ∧
      mergeOnce (mergeOnce^[rounds] text) = mergeOnce^[rounds] text := by
  generalize count : groupCount text = size
  induction size using Nat.strongRecOn generalizing text with
  | ind size ih =>
    subst count
    by_cases same : mergeOnce text = text
    next => exact ⟨0, Nat.zero_le _, nofun, same⟩
    next =>
      have fewer := mergeOnce_fewer same
      obtain ⟨rounds, few, change, settled⟩ := ih _ fewer (mergeOnce text) rfl
      refine ⟨rounds + 1, by omega, fun earlier early => ?_, settled⟩
      cases earlier with
      | zero => exact same
      | succ earlier => exact change earlier (Nat.lt_of_succ_lt_succ early)

theorem mergeAll_settled {rounds more : Nat} {text : List Char}
    (settled : mergeOnce (mergeOnce^[rounds] text) = mergeOnce^[rounds] text) (enough : rounds ≤ more) :
    mergeAll more text = mergeOnce^[rounds] text := by
  obtain ⟨others, rfl⟩ := Nat.exists_eq_add_of_le' enough
  rw [mergeAll_eq_iterate, Function.iterate_add_apply, Function.iterate_fixed settled]

/-- Merging comes to an end. A round leaves the lead and the groups of a text with what stands behind them, except that
pairs that belong together are merged, and has fewer groups left if it changes the text at all. So no more rounds change
a text than it has groups, what they come to is what merging gives, and outside of the groups nothing but white space
between groups that were joined has gone. -/
theorem merging_ends (text : List Char) :
    (forall current, (parted (mergeOnce current)).lead = (parted current).lead ∧
      Merges (parted current).stretches (parted (mergeOnce current)).stretches ∧
      (mergeOnce current ≠ current -> groupCount (mergeOnce current) < groupCount current)) ∧
    exists rounds, rounds ≤ groupCount text ∧
      (forall earlier, earlier < rounds -> mergeOnce (mergeOnce^[earlier] text) ≠ mergeOnce^[earlier] text) ∧
      mergeOnce (mergeOnce^[rounds] text) = mergeOnce^[rounds] text ∧
      (forall more, rounds ≤ more -> mergeAll more text = mergeOnce^[rounds] text) ∧
      mergeAll text.length text = mergeOnce^[rounds] text ∧
      (parted (mergeOnce^[rounds] text)).lead = (parted text).lead ∧
      Joins (parted text).stretches (parted (mergeOnce^[rounds] text)).stretches ∧
      (parted (mergeOnce^[rounds] text)).outside.filter (!isSpace ·) = (parted text).outside.filter (!isSpace ·) := by
  constructor
  next =>
    intro current
    obtain ⟨lead, merges⟩ := mergeOnce_merges current
    exact ⟨lead, merges, mergeOnce_fewer⟩
  next =>
    obtain ⟨rounds, few, change, settled⟩ := mergeOnce_settles text
    have enough : rounds ≤ text.length := Nat.le_trans few (groupCount_le_length text)
    obtain ⟨lead, joins⟩ := mergeOnce_joins rounds text
    refine ⟨rounds, few, change, settled, fun more => mergeAll_settled settled, mergeAll_settled settled enough, lead,
      joins, ?_⟩
    rw [Parted.outside, Parted.outside, lead, List.filter_append, List.filter_append, joins.solid]

end Running

end SpokenArithmetic.Phrase
