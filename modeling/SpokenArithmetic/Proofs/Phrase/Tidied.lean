import SpokenArithmetic.Phrase.Normalize
import SpokenArithmetic.Proofs.Phrase.Cleaned
import SpokenArithmetic.Proofs.Phrase.Groups
import SpokenArithmetic.Proofs.Phrase.Structured

set_option autoImplicit false

namespace SpokenArithmetic.Phrase

open Number Text

section Operations

def operation (between : Char -> List Char) (first : List Char) (others : List (Char × List Char)) :
    List Char :=
  first ++ others.flatMap fun other => between other.1 ++ other.2

variable {between : Char -> List Char} {first second : List Char} {symbol : Char}
  {others : List (Char × List Char)}

theorem operation_cons (between : Char -> List Char) (first second : List Char) (symbol : Char)
    (others : List (Char × List Char)) :
    operation between first ((symbol, second) :: others) =
      first ++ (between symbol ++ operation between second others) := by
  simp [operation]

theorem compound_operation (divides : forall other, other ∈ others -> Divides other.1) :
    compound (operation divider first others) =
      operation divider (compound first) (others.map fun other => (other.1, compound other.2)) := by
  induction others generalizing first with
  | nil => simp [operation]
  | cons other others ih =>
    obtain ⟨symbol, second⟩ := other
    have rest := @ih second fun other member => divides other (List.mem_cons_of_mem _ member)
    rw [operation_cons, compound_divided (divides _ List.mem_cons_self), rest, List.map_cons, operation_cons]

theorem quiet_operation (quiet : Quiet first) (others_quiet : forall other, other ∈ others -> Quiet other.2)
    (divides : forall other, other ∈ others -> Divides other.1) : Quiet (operation divider first others) := by
  induction others generalizing first with
  | nil => simpa [operation] using quiet
  | cons other others ih =>
    obtain ⟨symbol, second⟩ := other
    have rest := @ih second (others_quiet _ List.mem_cons_self)
      (fun other member => others_quiet other (List.mem_cons_of_mem _ member))
      fun other member => divides other (List.mem_cons_of_mem _ member)
    rw [operation_cons]
    exact quiet.wall rest (divides _ List.mem_cons_self).wall

structure Frame (lead tail : List Char) : Prop where
  blank : lead = [] ∨ lead = [' ']
  closing : tail = [] ∨ tail = [' ', '=']

theorem wall_equals : Wall [' ', '='] := by
  constructor
  case noDigit => decide
  case solid => exact ⟨'=', by decide, by decide⟩
  case starts => decide
  case ends => decide

variable {lead tail text : List Char}

theorem Frame.lead_free (frame : Frame lead tail) :
    (forall c, c ∈ lead -> isDigit c = false) ∧ lead.getLast?.any isDigitOrPoint = false := by
  rcases frame.blank with rfl | rfl
  next => simp
  next => decide

theorem compound_framed (frame : Frame lead tail) : compound (lead ++ (text ++ tail)) = lead ++ (compound text ++ tail) := by
  obtain ⟨noDigit, ends⟩ := frame.lead_free
  rw [compound_lead noDigit ends]
  rcases frame.closing with rfl | rfl
  next => simp
  next =>
    have split := compound_wall wall_equals text []
    rw [List.append_nil, @compound_solid [] (by simp), List.append_nil] at split
    rw [split]

theorem Quiet.framed (quiet : Quiet text) (frame : Frame lead tail) : Quiet (lead ++ (text ++ tail)) := by
  obtain ⟨noDigit, ends⟩ := frame.lead_free
  apply Quiet.lead _ noDigit ends
  rcases frame.closing with rfl | rfl
  next => simpa using quiet
  next =>
    have split := quiet.wall (@quiet_solid [] (by simp)) wall_equals
    rwa [List.append_nil] at split

theorem forall_operation {holds : Char -> Prop} (inFirst : forall c, c ∈ first -> holds c)
    (inOthers : forall other, other ∈ others ->
      (forall c, c ∈ between other.1 -> holds c) ∧ forall c, c ∈ other.2 -> holds c) :
    forall c, c ∈ operation between first others -> holds c := by
  intro c member
  rcases List.mem_append.1 member with front | behind
  next => exact inFirst c front
  next =>
    obtain ⟨other, among, inText⟩ := List.mem_flatMap.1 behind
    rcases List.mem_append.1 inText with inSign | inOperand
    next => exact (inOthers other among).1 c inSign
    next => exact (inOthers other among).2 c inOperand

structure Links (related : Char -> Char -> Prop) (isFirst isLast : Char -> Bool) (text : List Char) : Prop where
  chain : text.IsChain related
  starts : text.head?.any isFirst = true
  ends : text.getLast?.any isLast = true

theorem Links.append {related : Char -> Char -> Prop} {isFirst isLast isStart isEnd : Char -> Bool}
    {front back : List Char} (links : Links related isFirst isLast front)
    (next : Links related isStart isEnd back)
    (meet : forall c d, isLast c = true -> isStart d = true -> related c d) :
    Links related isFirst isEnd (front ++ back) where
  chain := by
    refine List.isChain_append.2 ⟨links.chain, next.chain, fun c last d head => meet c d ?_ ?_⟩
    next => simpa [Option.mem_def.1 last] using links.ends
    next => simpa [Option.mem_def.1 head] using next.starts
  starts := by
    cases front with
    | nil =>
      have present := links.starts
      simp at present
    | cons c front => exact links.starts
  ends := by
    have last := next.ends
    cases same : back.getLast? with
    | none => simp [same] at last
    | some c => simpa [List.getLast?_append, same] using last

theorem links_operation {related : Char -> Char -> Prop} {isFirst isLast isStart isEnd : Char -> Bool}
    (links : Links related isFirst isLast first)
    (otherLinks : forall other, other ∈ others ->
      Links related isStart isEnd (between other.1) ∧ Links related isFirst isLast other.2)
    (enter : forall c d, isLast c = true -> isStart d = true -> related c d)
    (leave : forall c d, isEnd c = true -> isFirst d = true -> related c d) :
    Links related isFirst isLast (operation between first others) := by
  induction others generalizing first with
  | nil => simpa [operation] using links
  | cons other others ih =>
    obtain ⟨symbol, second⟩ := other
    obtain ⟨sign, operand⟩ := otherLinks _ List.mem_cons_self
    have rest := ih operand fun other member => otherLinks other (List.mem_cons_of_mem _ member)
    rw [operation_cons]
    exact links.append (sign.append rest leave) enter

end Operations

section Ends

def isInner (c : Char) : Bool :=
  !(isBlank c || isArithmetic c || c == '=')

variable {text : List Char}

theorem head_not {isHead holds : Char -> Bool} (starts : text.head?.any isHead = true)
    (other : forall c, isHead c = true -> holds c = false) : text.head?.any holds = false := by
  cases text with
  | nil => rfl
  | cons c rest => exact other c starts

theorem inner_not_blank {c : Char} (inner : isInner c = true) : isBlank c = false := by
  cases blank : isBlank c with
  | false => rfl
  | true => simp [isInner, blank] at inner

theorem strip_of_ends (starts : text.head?.any isBlank = false) (ends : text.getLast?.any isBlank = false) :
    strip text = text := by
  have last : text.reverse.head?.any isBlank = false := by rwa [List.head?_reverse]
  rw [strip, stripStart, dropWhile_of_head starts, stripEnd, dropWhile_of_head last, List.reverse_reverse]

theorem strip_lead {lead : List Char} (blank : forall c, c ∈ lead -> isBlank c = true) (text : List Char) :
    strip (lead ++ text) = strip text := by
  rw [strip, stripStart, List.dropWhile_append_of_pos blank]
  rfl

theorem dropTrailingEquals_append {equals : List Char} (all : forall c, c ∈ equals -> c = '=')
    (ends : text.getLast?.any isInner = true) : dropTrailingEquals (text ++ equals) = text := by
  have reversed : forall c, c ∈ equals.reverse -> (c == '=') = true := by
    intro c member
    simpa using all c (List.mem_reverse.1 member)
  have last : text.reverse.head?.any (· == '=') = false := by
    rw [List.head?_reverse]
    cases same : text.getLast? with
    | none => rfl
    | some c =>
      rw [same] at ends
      have inner : isInner c = true := ends
      cases other : (c == '=') with
      | false => exact other
      | true => simp [isInner, other] at inner
  rw [dropTrailingEquals, List.reverse_append, List.dropWhile_append_of_pos reversed, dropWhile_of_head last,
    List.reverse_reverse]

theorem clean_of_parts {lead shown equals out : List Char} (trimmed : trim none text = lead ++ (shown ++ equals))
    (blank : forall c, c ∈ lead -> isBlank c = true) (all : forall c, c ∈ equals -> c = '=')
    (starts : shown.head?.any isInner = true) (ends : shown.getLast?.any isInner = true)
    (collapsed : collapse none (shown ++ equals) = out ++ equals) (outStarts : out.head?.any isInner = true)
    (outEnds : out.getLast?.any isInner = true) : clean text = out := by
  have inside (text : List Char) (ends : text.getLast?.any isInner = true) : text.getLast?.any isBlank = false := by
    cases last : text.getLast? with
    | none => rfl
    | some c =>
      rw [last] at ends
      exact inner_not_blank ends
  have stripped : strip (shown ++ equals) = shown ++ equals := by
    apply strip_of_ends
    next =>
      cases shown with
      | nil => cases starts
      | cons c shown => exact inner_not_blank starts
    next =>
      cases last : equals.getLast? with
      | none =>
        obtain rfl := List.getLast?_eq_none_iff.1 last
        rw [List.append_nil]
        exact inside shown ends
      | some c =>
        obtain rfl := all c (List.mem_of_getLast? last)
        rw [List.getLast?_append, last]
        exact (by decide : isBlank '=' = false)
  rw [clean_eq, trimmed, strip_lead blank, stripped, collapsed, dropTrailingEquals_append all outEnds]
  exact strip_of_ends (head_not outStarts fun _ => inner_not_blank) (inside out outEnds)

end Ends

section Cleaning

def Unrepeated (c d : Char) : Prop :=
  isArithmetic d = true -> c ≠ d

theorem collapse_unrepeated {text : List Char} (apart : text.IsChain Unrepeated) : collapse none text = text := by
  have from_ (before : Char) (text : List Char) (apart : (before :: text).IsChain Unrepeated) :
      collapse (some before) text = text := by
    induction text generalizing before with
    | nil => rfl
    | cons c rest ih =>
      have related : Unrepeated before c := apart.rel
      have new : isArithmetic c = false ∨ some before ≠ some c := by
        cases operator : isArithmetic c with
        | false => exact .inl rfl
        | true => exact .inr fun same => related operator (Option.some.inj same)
      rw [collapse_new new, ih c apart.tail]
  cases text with
  | nil => rfl
  | cons c rest => rw [collapse_new (.inr (by simp)), from_ c rest apart]

theorem arithmetic_cases {c : Char} (operator : isArithmetic c = true) :
    isSpace c = false ∧ isDigit c = false ∧ isTight c = true := by
  have all : forall c, c ∈ ['+', '-', '*', '/', '^', '%'] ->
      isSpace c = false ∧ isDigit c = false ∧ isTight c = true := by
    decide
  exact all c (by simpa [isArithmetic] using operator)

theorem divides_of_arithmetic {symbol : Char} (operator : isArithmetic symbol = true) : Divides symbol where
  noDigit := (arithmetic_cases operator).2.1
  noSpace := (arithmetic_cases operator).1

structure Tidy (operand : List Char) : Prop where
  trimmed : forall before rest, trim before (operand ++ rest) = operand ++ trim (lastBehind before operand) rest
  links : Links Unrepeated isInner isInner operand

variable {first : List Char} {others : List (Char × List Char)}

theorem trim_operation (tidy : Tidy first) (operators : forall other, other ∈ others -> isArithmetic other.1 = true)
    (othersTidy : forall other, other ∈ others -> Tidy other.2) (before : Option Char) (rest : List Char) :
    exists last, trim before (operation divider first others ++ rest) =
      operation (fun symbol => [symbol]) first others ++ trim last rest := by
  induction others generalizing first before with
  | nil =>
    refine ⟨lastBehind before first, ?_⟩
    simpa [operation] using tidy.trimmed before rest
  | cons other others ih =>
    obtain ⟨symbol, second⟩ := other
    have operator : isArithmetic symbol = true := operators _ List.mem_cons_self
    have secondTidy : Tidy second := othersTidy _ List.mem_cons_self
    obtain ⟨noSpace, _, tight⟩ := arithmetic_cases operator
    have gap : IsGap [' ', ' '] := ⟨by simp, by simp [space_isSpace]⟩
    obtain ⟨last, same⟩ := ih secondTidy (fun other member => operators other (List.mem_cons_of_mem _ member))
      (fun other member => othersTidy other (List.mem_cons_of_mem _ member)) (some symbol)
    refine ⟨last, ?_⟩
    have stops : (operation divider second others ++ rest).head?.any isSpace = false := by
      have starts := secondTidy.links.starts
      cases second with
      | nil => cases starts
      | cons c second =>
        have noBlank := inner_not_blank starts
        exact (Bool.or_eq_false_iff.1 noBlank).1
    have parts : operation divider first ((symbol, second) :: others) ++ rest =
        first ++ ([' ', ' '] ++ (symbol :: ([' ', ' '] ++ (operation divider second others ++ rest)))) := by
      simp [operation_cons, divider]
    have front (before : Option Char) (behind : List Char) :
        trim before ([' ', ' '] ++ (symbol :: behind)) = trim before (symbol :: behind) :=
      @trim_dropped before [' ', ' '] (symbol :: behind) gap noSpace (.inr tight)
    have back := @trim_dropped (some symbol) _ _ gap stops (.inl tight)
    rw [parts, tidy.trimmed, front, trim_other noSpace, back, same, operation_cons]
    simp

theorem inner_not_arithmetic {c : Char} (inner : isInner c = true) : isArithmetic c = false := by
  cases operator : isArithmetic c with
  | false => rfl
  | true => simp [isInner, operator] at inner

theorem unrepeated_before {c d : Char} (inner : isInner d = true) : Unrepeated c d := by
  intro operator
  rw [inner_not_arithmetic inner] at operator
  cases operator

theorem unrepeated_behind {c d : Char} (inner : isInner c = true) : Unrepeated c d := by
  rintro operator rfl
  rw [inner_not_arithmetic inner] at operator
  cases operator

theorem links_tidy (tidy : Tidy first) (operators : forall other, other ∈ others -> isArithmetic other.1 = true)
    (othersTidy : forall other, other ∈ others -> Tidy other.2) :
    Links Unrepeated isInner isInner (operation (fun symbol => [symbol]) first others) := by
  apply @links_operation _ _ _ Unrepeated isInner isInner isArithmetic isArithmetic tidy.links
  case otherLinks =>
    intro other member
    have operator := operators other member
    exact ⟨⟨List.isChain_singleton _, operator, operator⟩, (othersTidy other member).links⟩
  case enter => exact fun c d inner _ => unrepeated_behind inner
  case leave => exact fun c d _ inner => unrepeated_before inner

theorem clean_operation (tidy : Tidy first) (operators : forall other, other ∈ others -> isArithmetic other.1 = true)
    (othersTidy : forall other, other ∈ others -> Tidy other.2) {lead tail : List Char} (frame : Frame lead tail) :
    clean (lead ++ (operation divider first others ++ tail)) =
      operation (fun symbol => [symbol]) first others := by
  have links := links_tidy tidy operators othersTidy
  obtain ⟨equals, all, cut⟩ : exists equals, (forall c, c ∈ equals -> c = '=') ∧
      forall last, trim last tail = equals := by
    rcases frame.closing with rfl | rfl
    next => exact ⟨[], by simp, fun _ => rfl⟩
    next =>
      have equals : isSpace '=' = false ∧ isTight '=' = true := by decide
      exact ⟨['='], by simp, fun last => by simp [trim, space_isSpace, equals]⟩
  have trimmed (before : Option Char) : trim before (operation divider first others ++ tail) =
      operation (fun symbol => [symbol]) first others ++ equals := by
    obtain ⟨last, same⟩ := trim_operation tidy operators othersTidy before tail
    rw [same, cut]
  obtain ⟨shown, kept, same⟩ : exists shown, (forall c, c ∈ shown -> isBlank c = true) ∧
      trim none (lead ++ (operation divider first others ++ tail)) =
        shown ++ (operation (fun symbol => [symbol]) first others ++ equals) := by
    rcases frame.blank with rfl | rfl
    next => exact ⟨[], by simp, trimmed none⟩
    next =>
      have starts : (operation divider first others ++ tail).head?.any isSpace = false := by
        have head := tidy.links.starts
        cases first with
        | nil => cases head
        | cons c first => exact (Bool.or_eq_false_iff.1 (inner_not_blank head)).1
      have gap : IsGap [' '] := ⟨by simp, by simp [space_isSpace]⟩
      rw [trim_gap gap starts, trimmed none]
      split
      next => exact ⟨[], by simp, rfl⟩
      next => exact ⟨[' '], by simp [isBlank, space_isSpace], rfl⟩
  have chain : (operation (fun symbol => [symbol]) first others ++ equals).IsChain Unrepeated := by
    refine List.isChain_append.2 ⟨links.chain, ?_, ?_⟩
    next =>
      apply List.Pairwise.isChain
      apply List.pairwise_of_forall_mem_list
      rintro c _ d inEquals operator
      obtain rfl := all d inEquals
      cases operator
    next =>
      rintro c _ d head operator
      obtain rfl := all d (List.mem_of_mem_head? head)
      cases operator
  exact clean_of_parts same kept all links.starts links.ends (collapse_unrepeated chain) links.starts links.ends

end Cleaning

section Digits

variable {c : Char}

theorem digit_ne {d : Char} (digit : isDigit c = true) (other : isDigit d = false) : c ≠ d := by
  rintro rfl
  rw [digit] at other
  cases other

theorem digit_not_tight (digit : isDigit c = true) : isTight c = false := by
  have all : forall d, d ∈ ['+', '-', '*', '/', '^', '%', '(', ')', '=', '.'] -> isDigit d = false := by decide
  have different : c ∉ ['+', '-', '*', '/', '^', '%', '(', ')', '=', '.'] :=
    fun member => digit_ne digit (all c member) rfl
  simp only [List.mem_cons, List.not_mem_nil, or_false, not_or] at different
  simp [isTight, isArithmetic, different]

theorem digit_not_blank (digit : isDigit c = true) : isBlank c = false := by
  have noSpace := not_space_of_isDigit digit
  unfold isBlank
  rw [noSpace, Bool.false_or]
  cases separator : decide (0x1C <= c.toNat) && decide (c.toNat <= 0x1F) with
  | false => rfl
  | true =>
    simp only [Bool.and_eq_true, decide_eq_true_eq] at separator
    have point : c.toNat = c.val.toNat := rfl
    have ascii : c.toNat < 128 := by omega
    simp only [isDigit, digitValue?, ascii, if_true] at digit
    split at digit
    next value =>
      simp only [Char.isDigit, Bool.and_eq_true, decide_eq_true_eq, ge_iff_le, UInt32.le_iff_toNat_le,
        Char.reduceVal, UInt32.reduceToNat] at value
      omega
    next => cases digit

theorem digit_inner (digit : isDigit c = true) : isInner c = true := by
  have loose := digit_not_tight digit
  simp only [isTight, Bool.or_eq_false_iff] at loose
  have noEquals : (c == '=') = false := beq_eq_false_iff_ne.2 (digit_ne digit (by decide))
  simp [isInner, digit_not_blank digit, loose.1, noEquals]

structure Numeric (text : List Char) : Prop where
  chars : forall c, c ∈ text -> isDigitOrPoint c = true
  starts : text.head?.any isDigit = true
  ends : text.getLast?.any isDigit = true

theorem digitOrPoint_cases (kind : isDigitOrPoint c = true) : isSpace c = false ∧ isArithmetic c = false := by
  simp only [isDigitOrPoint, Bool.or_eq_true, beq_iff_eq] at kind
  rcases kind with digit | rfl
  next =>
    have loose := digit_not_tight digit
    simp only [isTight, Bool.or_eq_false_iff] at loose
    exact ⟨not_space_of_isDigit digit, loose.1⟩
  next => decide

variable {text : List Char}

theorem any_imp {holds other : Char -> Bool} (imp : forall c, holds c = true -> other c = true)
    {c? : Option Char} (any : c?.any holds = true) : c?.any other = true := by
  cases c? with
  | none => cases any
  | some c => exact imp c any

theorem numeric_digits (isDigits : IsDigits text) : Numeric text where
  chars c member := by simp [isDigitOrPoint, isDigits.2 c member]
  starts := by
    have head := isDigits.head []
    rwa [List.append_nil] at head
  ends := @getLast?_append_digits [] text isDigits

theorem Numeric.solid (numeric : Numeric text) : forall c, c ∈ text -> isSpace c = false :=
  fun c member => (digitOrPoint_cases (numeric.chars c member)).1

theorem chain_of_forall {related : Char -> Char -> Prop}
    (all : forall c d, c ∈ text -> d ∈ text -> related c d) : text.IsChain related :=
  (List.pairwise_of_forall_mem_list fun c first d second => all c d first second).isChain

structure Closed (text : List Char) : Prop where
  solid : forall c, c ∈ text -> isSpace c = false
  links : Links Unrepeated isInner isInner text

theorem Closed.tidy (closed : Closed text) : Tidy text where
  trimmed _ _ := trim_word closed.solid
  links := closed.links

theorem Numeric.closed (numeric : Numeric text) : Closed text where
  solid := numeric.solid
  links := by
    refine ⟨chain_of_forall fun c d _ member operator => ?_, any_imp (fun _ => digit_inner) numeric.starts,
      any_imp (fun _ => digit_inner) numeric.ends⟩
    rw [(digitOrPoint_cases (numeric.chars d member)).2] at operator
    cases operator

theorem chars_spaced {groups : List (List Char)} (all : AllDigits groups) :
    forall c, c ∈ spaced groups -> isDigit c = true ∨ c = ' ' := by
  have behind : forall c, c ∈ following groups -> isDigit c = true ∨ c = ' ' := by
    intro c member
    obtain ⟨group, inGroups, inText⟩ := List.mem_flatMap.1 member
    rcases List.mem_cons.1 inText with space | inGroup
    next => exact .inr space
    next => exact .inl ((all group inGroups).2 c inGroup)
  cases groups with
  | nil => simp [spaced]
  | cons group groups => exact fun c member => behind c (List.mem_cons_of_mem _ member)

theorem trim_following {groups : List (List Char)} (all : AllDigits groups) {before : Option Char}
    (loose : before.any isTight = false) (rest : List Char) :
    trim before (following groups ++ rest) = following groups ++ trim (lastBehind before (following groups)) rest := by
  induction groups generalizing before with
  | nil => rfl
  | cons group groups ih =>
    have isDigits : IsDigits group := all.head
    have solid : forall c, c ∈ group -> isSpace c = false := (numeric_digits isDigits).solid
    have starts : (group ++ (following groups ++ rest)).head?.any isDigit = true := isDigits.head _
    have gap : IsGap [' '] := ⟨by simp, by simp [space_isSpace]⟩
    have kept := @trim_gap before _ _ gap (head_not starts fun _ => not_space_of_isDigit)
    rw [loose, head_not starts fun _ => digit_not_tight] at kept
    -- The last digit of a group is what stands in front of the next gap.
    have last (before : Option Char) : lastBehind before group = group.getLast? := lastBehind_eq_getLast? isDigits.1
    have ends : group.getLast?.any isTight = false := by
      rw [List.getLast?_eq_some_getLast isDigits.1]
      exact digit_not_tight (isDigits.2 _ (List.getLast_mem _))
    have parts : following (group :: groups) ++ rest = [' '] ++ (group ++ (following groups ++ rest)) := by
      simp [following]
    have behind : lastBehind before (following (group :: groups)) = lastBehind group.getLast? (following groups) := by
      have split : following (group :: groups) = [' '] ++ (group ++ following groups) := by simp [following]
      rw [split, lastBehind_append, lastBehind_append, last]
    rw [parts, kept, behind, trim_word solid, last, ih all.tail ends]
    simp [following]

theorem spaced_tidy {groups : List (List Char)} (all : AllDigits groups) (present : groups ≠ []) :
    Tidy (spaced groups) where
  trimmed before rest := by
    obtain ⟨group, groups, rfl⟩ := List.exists_cons_of_ne_nil present
    have isDigits : IsDigits group := all.head
    have ends : (lastBehind before group).any isTight = false := by
      rw [lastBehind_eq_getLast? isDigits.1, List.getLast?_eq_some_getLast isDigits.1]
      exact digit_not_tight (isDigits.2 _ (List.getLast_mem _))
    rw [spaced, List.append_assoc, trim_word (numeric_digits isDigits).solid, trim_following all.tail ends,
      lastBehind_append, List.append_assoc]
  links := by
    refine ⟨chain_of_forall fun c d _ member operator => ?_, ?_, ?_⟩
    next =>
      rcases chars_spaced all d member with digit | rfl
      next =>
        rw [inner_not_arithmetic (digit_inner digit)] at operator
        cases operator
      next => cases operator
    next =>
      obtain ⟨group, groups, rfl⟩ := List.exists_cons_of_ne_nil present
      exact any_imp (fun _ => digit_inner) (all.head.head (following groups))
    next =>
      obtain ⟨front, last, rfl⟩ : exists front last, groups = front ++ [last] :=
        ⟨groups.dropLast, groups.getLast present, (List.dropLast_concat_getLast present).symm⟩
      obtain ⟨before, parts⟩ : exists before, spaced (front ++ [last]) = before ++ last := by
        cases front with
        | nil => exact ⟨[], by simp [spaced, following]⟩
        | cons group front => exact ⟨spaced (group :: front) ++ [' '], by simp [spaced, following]⟩
      rw [parts]
      exact any_imp (fun _ => digit_inner) (getLast?_append_digits (all last (by simp)))

end Digits

section Operands

def isFlat (c : Char) : Bool :=
  isDigitOrPoint c || isSpace c || ['+', '-', '*', '/', '%', '='].contains c

theorem unstructured_flat {text : List Char} (flat : forall c, c ∈ text -> isFlat c = true) : Unstructured text := by
  have absent {c : Char} (other : isFlat c = false) : c ∉ text := by
    intro member
    rw [flat c member] at other
    cases other
  have parentheses : forall c, c ∈ ['(', ')'] -> isFlat c = false := by decide
  have letters : forall c, c ∈ initials -> isFlat c = false := by decide
  constructor
  case noPower => exact fun _ _ meets => absent (by decide) (mem_of_meets meets).1
  case noParenthesis => exact fun c member parenthesis => absent (parentheses c parenthesis) member
  case unnamed => exact fun c member letter => absent (letters c letter) member

structure Signs (symbol : Char) : Prop where
  operator : isArithmetic symbol = true
  flat : isFlat symbol = true

theorem signs_of_mem {symbol : Char} (member : symbol ∈ ['+', '-', '*', '/', '%']) : Signs symbol := by
  have all : forall symbol, symbol ∈ ['+', '-', '*', '/', '%'] ->
      isArithmetic symbol = true ∧ isFlat symbol = true := by
    decide
  obtain ⟨operator, flat⟩ := all symbol member
  exact ⟨operator, flat⟩

theorem Signs.tight {symbol : Char} (signs : Signs symbol) : isTight symbol = true :=
  (arithmetic_cases signs.operator).2.2

theorem flat_divider {symbol : Char} (signs : Signs symbol) : forall c, c ∈ divider symbol -> isFlat c = true := by
  have space : isFlat ' ' = true := by decide
  simp [divider, space, signs.flat]

structure Operands (first : List (List Char)) (others : List (Char × List (List Char))) : Prop where
  present : first ≠ []
  digits : AllDigits first
  signs : forall other, other ∈ others -> Signs other.1
  othersPresent : forall other, other ∈ others -> other.2 ≠ []
  othersDigits : forall other, other ∈ others -> AllDigits other.2

def spacedOperands (others : List (Char × List (List Char))) : List (Char × List Char) :=
  others.map fun other => (other.1, spaced other.2)

variable {first : List (List Char)} {others : List (Char × List (List Char))}

theorem spaced_operation (present : first ≠ []) (othersPresent : forall other, other ∈ others -> other.2 ≠ []) :
    spaced (first ++ others.flatMap fun other => [' ', other.1, ' '] :: other.2) =
      operation divider (spaced first) (spacedOperands others) := by
  -- The second operand becomes the first one of what is left.
  induction others generalizing first with
  | nil => simp [operation, spacedOperands]
  | cons other others ih =>
    obtain ⟨symbol, second⟩ := other
    have secondPresent : second ≠ [] := othersPresent _ List.mem_cons_self
    have rest := ih secondPresent fun other member => othersPresent other (List.mem_cons_of_mem _ member)
    have parts : (first ++ ((symbol, second) :: others).flatMap fun other => [' ', other.1, ' '] :: other.2) =
        first ++ ([[' ', symbol, ' ']] ++
          (second ++ others.flatMap fun other => [' ', other.1, ' '] :: other.2)) := by
      simp
    rw [parts, spaced_append present (by simp), spaced_append (by simp) (by simp [secondPresent]), rest]
    simp only [spacedOperands, List.map_cons, operation_cons]
    simp [spaced, following, divider]

theorem Operands.chars (operands : Operands first others) :
    forall c, c ∈ operation divider (spaced first) (spacedOperands others) -> isFlat c = true ∧ c ≠ '.' := by
  have operand {groups : List (List Char)} (all : AllDigits groups) :
      forall c, c ∈ spaced groups -> isFlat c = true ∧ c ≠ '.' := by
    intro c member
    rcases chars_spaced all c member with digit | rfl
    next => exact ⟨by simp [isFlat, isDigitOrPoint, digit], digit_ne digit (by decide)⟩
    next => decide
  apply forall_operation
  case inFirst => exact operand operands.digits
  case inOthers =>
    intro other member
    obtain ⟨given, inOthers, rfl⟩ := List.mem_map.1 member
    refine ⟨fun c inDivider => ⟨flat_divider (operands.signs given inOthers) c inDivider, ?_⟩,
      operand (operands.othersDigits given inOthers)⟩
    rintro rfl
    have point : '.' = given.1 := by simpa [divider] using inDivider
    have operator := (operands.signs given inOthers).operator
    rw [← point] at operator
    cases operator

theorem clean_operands (operands : Operands first others) :
    clean (operation divider (spaced first) (spacedOperands others)) =
      operation (fun symbol => [symbol]) (spaced first) (spacedOperands others) := by
  have cleaned := @clean_operation (spaced first) (spacedOperands others)
    (spaced_tidy operands.digits operands.present)
    (by
      intro other member
      obtain ⟨given, inOthers, rfl⟩ := List.mem_map.1 member
      exact (operands.signs given inOthers).operator)
    (by
      intro other member
      obtain ⟨given, inOthers, rfl⟩ := List.mem_map.1 member
      exact spaced_tidy (operands.othersDigits given inOthers) (operands.othersPresent given inOthers))
    [] [] ⟨.inl rfl, .inl rfl⟩
  simpa using cleaned

end Operands

section Formulas

variable {first lead tail : List Char} {others : List (Char × List Char)}

structure Formula (first : List Char) (others : List (Char × List Char)) : Prop where
  closed : Closed first
  operators : forall other, other ∈ others -> isArithmetic other.1 = true
  othersClosed : forall other, other ∈ others -> Closed other.2

theorem Formula.divides (formula : Formula first others) : forall other, other ∈ others -> Divides other.1 :=
  fun other member => divides_of_arithmetic (formula.operators other member)

theorem Formula.compact_eq (formula : Formula first others) :
    compact (operation divider first others) = operation (fun symbol => [symbol]) first others := by
  induction others generalizing first with
  | nil => simpa [operation] using compact_solid formula.closed.solid
  | cons other others ih =>
    obtain ⟨symbol, second⟩ := other
    have rest := @ih second ⟨formula.othersClosed _ List.mem_cons_self,
      fun other member => formula.operators other (List.mem_cons_of_mem _ member),
      fun other member => formula.othersClosed other (List.mem_cons_of_mem _ member)⟩
    have between : compact (divider symbol) = [symbol] := by
      simp [compact, divider, space_isSpace, (formula.divides _ List.mem_cons_self).noSpace]
    rw [operation_cons, operation_cons, compact_append, compact_append, compact_solid formula.closed.solid, between, rest]

theorem Formula.compound_eq (formula : Formula first others) (frame : Frame lead tail) :
    compound (lead ++ (operation divider first others ++ tail)) = lead ++ (operation divider first others ++ tail) := by
  have same : others.map (fun other => (other.1, compound other.2)) = others.map id := by
    apply List.map_congr_left
    intro other member
    rw [compound_solid (formula.othersClosed other member).solid]
    rfl
  rw [compound_framed frame, compound_operation formula.divides, compound_solid formula.closed.solid, same, List.map_id]

theorem Formula.quiet (formula : Formula first others) (frame : Frame lead tail) :
    Quiet (lead ++ (operation divider first others ++ tail)) := by
  apply Quiet.framed _ frame
  apply quiet_operation (quiet_solid formula.closed.solid) _ formula.divides
  exact fun other member => quiet_solid (formula.othersClosed other member).solid

theorem Formula.clean_eq (formula : Formula first others) (frame : Frame lead tail) :
    clean (lead ++ (operation divider first others ++ tail)) = operation (fun symbol => [symbol]) first others :=
  clean_operation formula.closed.tidy formula.operators
    (fun other member => (formula.othersClosed other member).tidy) frame

end Formulas

section Typed

variable {text first lead tail : List Char} {others : List (Char × List Char)}

theorem tight_of_absent (absent : '.' ∉ text) : PointsTight text :=
  chain_of_forall fun _ _ inFirst inSecond =>
    ⟨fun same => absurd (same ▸ inFirst) absent, fun same => absurd (same ▸ inSecond) absent⟩

theorem tight_enter (c d : Char) (digit : isDigit c = true) (_ : isSpace d = true) : TightPoint c d := by
  refine ⟨?_, fun _ => not_space_of_isDigit digit⟩
  rintro rfl
  cases digit

theorem tight_leave (c d : Char) (_ : isSpace c = true) (digit : isDigit d = true) : TightPoint c d := by
  refine ⟨fun _ => not_space_of_isDigit digit, ?_⟩
  rintro rfl
  cases digit

theorem Numeric.tightPoints (numeric : Numeric text) : Links TightPoint isDigit isDigit text :=
  ⟨chain_of_forall fun c d inFirst inSecond => ⟨fun _ => numeric.solid d inSecond, fun _ => numeric.solid c inFirst⟩,
    numeric.starts, numeric.ends⟩

theorem Numeric.flat (numeric : Numeric text) : forall c, c ∈ text -> isFlat c = true := by
  intro c member
  simp [isFlat, numeric.chars c member]

theorem point_ne {symbol : Char} (operator : isArithmetic symbol = true) : '.' ≠ symbol := by
  rintro rfl
  cases operator

structure Arithmetic (first : List Char) (others : List (Char × List Char)) : Prop where
  numeric : Numeric first
  operators : forall other, other ∈ others -> isArithmetic other.1 = true
  othersNumeric : forall other, other ∈ others -> Numeric other.2

theorem Arithmetic.formula (arithmetic : Arithmetic first others) : Formula first others where
  closed := arithmetic.numeric.closed
  operators := arithmetic.operators
  othersClosed other member := (arithmetic.othersNumeric other member).closed

theorem Arithmetic.pointsTight (arithmetic : Arithmetic first others) (frame : Frame lead tail) :
    PointsTight (lead ++ (operation divider first others ++ tail)) := by
  have text : Links TightPoint isDigit isDigit (operation divider first others) := by
    apply @links_operation _ _ _ TightPoint isDigit isDigit isSpace isSpace arithmetic.numeric.tightPoints
    case otherLinks =>
      intro other member
      have noPoint := point_ne (arithmetic.operators other member)
      refine ⟨⟨tight_of_absent ?_, space_isSpace, space_isSpace⟩, (arithmetic.othersNumeric other member).tightPoints⟩
      simp [divider, noPoint]
    case enter => exact tight_enter
    case leave => exact tight_leave
  have behind : Links TightPoint isDigit (fun _ => true) (operation divider first others ++ tail) := by
    rcases frame.closing with rfl | rfl
    next =>
      rw [List.append_nil]
      exact ⟨text.chain, text.starts, any_imp (fun _ _ => rfl) text.ends⟩
    next =>
      have closing : Links TightPoint isSpace (fun _ => true) [' ', '='] :=
        ⟨tight_of_absent (by decide), space_isSpace, rfl⟩
      exact text.append closing tight_enter
  rcases frame.blank with rfl | rfl
  next => exact behind.chain
  next =>
    have opening : Links TightPoint isSpace isSpace [' '] := ⟨tight_of_absent (by decide), space_isSpace, space_isSpace⟩
    exact (opening.append behind tight_leave).chain

theorem Arithmetic.flat (arithmetic : Arithmetic first others) (frame : Frame lead tail)
    (signs : forall other, other ∈ others -> Signs other.1) :
    forall c, c ∈ lead ++ (operation divider first others ++ tail) -> isFlat c = true := by
  have text := @forall_operation divider first others (isFlat · = true) arithmetic.numeric.flat fun other member =>
    ⟨flat_divider (signs other member), (arithmetic.othersNumeric other member).flat⟩
  intro c member
  rcases List.mem_append.1 member with inLead | inRest
  next =>
    rcases frame.blank with rfl | rfl
    next => cases inLead
    next =>
      obtain rfl := List.mem_singleton.1 inLead
      decide
  next =>
    rcases List.mem_append.1 inRest with inText | inTail
    next => exact text c inText
    next =>
      have all : forall c, c ∈ [' ', '='] -> isFlat c = true := by decide
      rcases frame.closing with rfl | rfl
      next => cases inTail
      next => exact all c inTail

end Typed

end SpokenArithmetic.Phrase
