import Mathlib.Data.List.TakeWhile
import Mathlib.Data.String.Basic
import SpokenArithmetic.CommandLine.Arguments

set_option autoImplicit false

namespace SpokenArithmetic.CommandLine

section Marking

def Bare (word : String) : Prop :=
  word.startsWith "-" = false

variable {word name value : String} {words : List String} {choice : Choice}

theorem ofText_bare (bare : Bare word) : Mark.ofText word = .ok .word := by
  rw [Mark.ofText, bare]
  rfl

theorem markAll_bare (bare : forall word, word ∈ words -> Bare word) :
    markAll words = .ok (words.map fun word => (word, .word)) := by
  induction words with
  | nil => rfl
  | cons word rest ih =>
    have plain := bare word List.mem_cons_self
    have undivided : word ≠ "--" := by
      rintro rfl
      unfold Bare at plain
      revert plain
      decide +kernel
    rw [markAll, if_neg undivided, ofText_bare plain, ih fun other later => bare other (List.mem_cons_of_mem _ later)]
    rfl

theorem names_unvalued (known : (name, choice) ∈ Choice.names) :
    name.startsWith "-" = true ∧ '=' ∉ name.toList ∧ Choice.ofName? name = some choice := by
  have all : forall entry, entry ∈ Choice.names -> entry.1.startsWith "-" = true ∧ '=' ∉ entry.1.toList ∧
      Choice.ofName? entry.1 = some entry.2 := by decide +kernel
  exact all (name, choice) known

theorem ofText_valued (known : (name, choice) ∈ Choice.names) (value : String) :
    Mark.ofText (name ++ "=" ++ value) = .ok (.option choice (some value)) := by
  obtain ⟨starts, unvalued, named⟩ := names_unvalued known
  have marked : (name ++ "=" ++ value).startsWith "-" = true := by
    rw [String.startsWith_string_iff] at starts ⊢
    simp only [String.toList_append, List.append_assoc]
    exact starts.trans (List.prefix_append ..)
  have chars : (name ++ "=" ++ value).toList = name.toList ++ '=' :: value.toList := by simp
  have nameless : Choice.ofName? (name ++ "=" ++ value) = none := by
    refine List.lookup_eq_none_iff.2 fun entry member => bne_iff_ne.2 fun same => ?_
    have equals : '=' ∈ (name ++ "=" ++ value).toList := by simp [chars]
    exact (names_unvalued member).2.1 (same ▸ equals)
  have split : Mark.splitValue (name ++ "=" ++ value) = (name, some value) := by
    have before : forall c, c ∈ name.toList -> (c != '=') = true := by
      intro c member
      exact bne_iff_ne.2 fun same => unvalued (same ▸ member)
    unfold Mark.splitValue
    rw [chars, List.dropWhile_append_of_pos before, List.takeWhile_append_of_pos before]
    simp
  simp [Mark.ofText, marked, nameless, split, named]

theorem markAll_valued (known : (name, choice) ∈ Choice.names) (value : String) {marks : List Argument}
    (marked : markAll words = .ok marks) :
    markAll ((name ++ "=" ++ value) :: words) = .ok ((name ++ "=" ++ value, .option choice (some value)) :: marks) := by
  have undivided : name ++ "=" ++ value ≠ "--" := by
    intro same
    have equals : '=' ∈ (name ++ "=" ++ value).toList := by simp
    rw [same] at equals
    revert equals
    decide
  rw [markAll, if_neg undivided, ofText_valued known, marked]
  rfl

end Marking

section Taking

variable {words : List String} {choice : Choice}

theorem takeAll_nil (rounds : Nat) (taking : Taking) : takeAll rounds [] taking = .ok (some taking) := by
  cases rounds <;> rfl

theorem takeAll_words (rounds : Nat) (words : List String) (taking : Taking) :
    takeAll (rounds + 1) (words.map fun word => (word, .word)) taking = .ok (some (taking.words words)) := by
  cases words with
  | nil => rfl
  | cons word rest =>
    have all : forall argument, argument ∈ (word :: rest).map (fun word => ((word, .word) : Argument)) ->
        (!argument.2.isOption) = true := by
      intro argument member
      obtain ⟨other, _, rfl⟩ := List.mem_map.1 member
      rfl
    have texts : (((word :: rest).map fun word => ((word, .word) : Argument)).map (·.1)) = word :: rest := by
      simp [Function.comp_def]
    show takeAll rounds (((word :: rest).map fun word => ((word, .word) : Argument)).dropWhile (!·.2.isOption))
      (taking.words
      ((((word :: rest).map fun word => ((word, .word) : Argument)).takeWhile (!·.2.isOption)).map (·.1))) = _
    rw [List.dropWhile_eq_nil_iff.2 all, List.takeWhile_eq_self_iff.2 all, texts, takeAll_nil]

theorem words_bare (asked : Asked) (strays : List String) (bare : forall word, word ∈ words -> Bare word)
    (unspoken : asked.phrase = []) :
    ((⟨asked, true, strays⟩ : Taking).words words).asked = { asked with phrase := words } ∧
      ((⟨asked, true, strays⟩ : Taking).words words).strays = strays := by
  unfold Taking.words
  cases words with
  | nil =>
    cases asked
    cases unspoken
    exact ⟨rfl, rfl⟩
  | cons word rest =>
    have undivided : "--" ∉ word :: rest := fun divided => absurd (bare "--" divided) (by unfold Bare; decide +kernel)
    rw [if_neg (by simp), if_pos rfl, List.erase_of_not_mem undivided]
    exact ⟨rfl, rfl⟩

theorem takeAll_valued {taken : Asked} {value : String} (takes : choice.takesValue = true) (rounds : Nat)
    (text : String) (rest : List Argument) (taking : Taking)
    (given : taking.asked.take choice (some value) = .ok taken) :
    takeAll (rounds + 1) ((text, .option choice (some value)) :: rest) taking =
      takeAll rounds rest { taking with asked := taken } := by
  have own : Asked.valueOf choice (some value) rest = .ok (some value, rest) := by
    rw [Asked.valueOf, takes]
    rfl
  have steps : takeAll (rounds + 1) ((text, .option choice (some value)) :: rest) taking =
      (Asked.valueOf choice (some value) rest).bind fun found =>
        (taking.asked.take choice found.1).bind fun taken => takeAll rounds found.2 { taking with asked := taken } := by
    cases choice with
    | expression | history | block => rfl
    | help | interpret | clearHistory | interactive | speak | trace => cases takes
  rw [steps, own, Except.bind, given, Except.bind]

end Taking

section Reading

variable {words arguments : List String} {name value : String} {choice : Choice} {asked : Asked}

theorem read_marked {marks : List Argument} {taking : Taking} (marked : markAll arguments = .ok marks)
    (taken : takeAll (2 * marks.length + 1) marks Taking.start = .ok (some taking)) (clear : taking.strays = []) :
    read arguments = .ok (some taking.asked) := by
  unfold read
  rw [marked]
  show (takeAll (2 * marks.length + 1) marks Taking.start).bind _ = _
  rw [taken]
  show (if _ then _ else _) = _
  rw [clear]
  rfl

theorem read_words (bare : forall word, word ∈ words -> Bare word) : read words = .ok (some { phrase := words }) := by
  obtain ⟨asked, strays⟩ := words_bare {} [] bare rfl
  rw [read_marked (markAll_bare bare) (takeAll_words _ words Taking.start) strays]
  exact congrArg _ (congrArg _ asked)

theorem read_valued (known : (name, choice) ∈ Choice.names) (takes : choice.takesValue = true)
    (given : Asked.take {} choice (some value) = .ok asked) (unspoken : asked.phrase = [])
    (bare : forall word, word ∈ words -> Bare word) :
    read ((name ++ "=" ++ value) :: words) = .ok (some { asked with phrase := words }) := by
  have marked := markAll_valued known value (markAll_bare bare)
  obtain ⟨spoken, strays⟩ := words_bare asked [] bare unspoken
  rw [read_marked marked ((takeAll_valued takes _ _ _ Taking.start given).trans (takeAll_words _ words _)) strays]
  exact congrArg _ (congrArg _ spoken)

theorem read_expression (expression : String) (bare : forall word, word ∈ words -> Bare word) :
    read (("--expression" ++ "=" ++ expression) :: words) =
      .ok (some { phrase := words, expression := some expression }) :=
  read_valued (show ("--expression", .expression) ∈ Choice.names by decide) rfl rfl rfl bare

theorem read_clear : read ["--clear-history"] = .ok (some { clearHistory := true }) := by
  decide +kernel

theorem read_list : read ["--history"] = .ok (some { history := some settingsLimit }) := by
  decide +kernel

theorem read_listing {count : Int} (number : Number.readInteger value.toList = .ok count) :
    read ["--history" ++ "=" ++ value] = .ok (some { history := some count }) := by
  have given : Asked.take {} .history (some value) = .ok { history := some count } := by
    rw [Asked.take, number]
  exact read_valued (show ("--history", .history) ∈ Choice.names by decide) rfl given rfl nofun

theorem read_clearing {count : Int} (number : Number.readInteger value.toList = .ok count) :
    read ["--clear-history", "--history" ++ "=" ++ value] =
      .ok (some { history := some count, clearHistory := true }) := by
  have clears : Mark.ofText "--clear-history" = .ok (.option .clearHistory none) := by decide +kernel
  have lists := markAll_valued (show ("--history", .history) ∈ Choice.names by decide) value
    (show markAll [] = .ok [] from rfl)
  have marked : markAll ["--clear-history", "--history" ++ "=" ++ value] =
      .ok [("--clear-history", .option .clearHistory none),
        ("--history" ++ "=" ++ value, .option .history (some value))] := by
    rw [markAll, if_neg (by decide), clears]
    show (markAll _).bind _ = _
    rw [lists]
    rfl
  have given : Asked.take { clearHistory := true } .history (some value) =
      .ok { history := some count, clearHistory := true } := by
    rw [Asked.take, number]
  have last := (takeAll_valued rfl 3 ("--history" ++ "=" ++ value) []
    ⟨{ clearHistory := true }, true, []⟩ given).trans
    (takeAll_nil 3 _)
  have taken : takeAll 5 [("--clear-history", .option .clearHistory none),
      ("--history" ++ "=" ++ value, .option .history (some value))] Taking.start =
        .ok (some ⟨{ history := some count, clearHistory := true }, true, []⟩) := last
  exact read_marked marked taken rfl

end Reading

end SpokenArithmetic.CommandLine
