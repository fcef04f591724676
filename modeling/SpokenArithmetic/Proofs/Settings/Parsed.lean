import SpokenArithmetic.Proofs.Settings.Standing
import SpokenArithmetic.Settings.Reader

set_option autoImplicit false

namespace SpokenArithmetic.Settings

open Text

namespace Reading

variable {reading next : Reading} {file name key line : String}

structure Ordinary (reading : Reading) : Prop where
  named : forall name entries, (name, entries) ∈ reading.sections -> name ≠ ""
  lowerKeys : forall name entries, (name, entries) ∈ reading.sections ->
    forall entry, entry ∈ entries -> lowered entry.1 = entry.1

theorem ordinary_start : start.Ordinary :=
  ⟨nofun, nofun⟩

theorem Ordinary.same_sections (ordinary : reading.Ordinary) (same : next.sections = reading.sections) :
    next.Ordinary :=
  ⟨same ▸ ordinary.named, same ▸ ordinary.lowerKeys⟩

theorem Ordinary.change {edit : OpenEntries -> OpenEntries} (ordinary : reading.Ordinary)
    (lower : forall entries, (forall entry, entry ∈ entries -> lowered entry.1 = entry.1) ->
      forall entry, entry ∈ edit entries -> lowered entry.1 = entry.1) :
    (reading.change name edit).Ordinary := by
  have origin {other : String} {entries : OpenEntries}
      (member : (other, entries) ∈ (reading.change name edit).sections) :
      exists before, (other, before) ∈ reading.sections ∧ (entries = before ∨ entries = edit before) := by
    obtain ⟨⟨first, before⟩, among, same⟩ := List.mem_map.1 member
    dsimp only at same
    by_cases here : first = name
    next =>
      rw [if_pos here] at same
      obtain ⟨rfl, rfl⟩ := Prod.mk.inj same
      exact ⟨before, among, .inr rfl⟩
    next =>
      rw [if_neg here] at same
      obtain ⟨rfl, rfl⟩ := Prod.mk.inj same
      exact ⟨before, among, .inl rfl⟩
  constructor
  next =>
    intro other entries member
    obtain ⟨before, among, _⟩ := origin member
    exact ordinary.named other before among
  next =>
    intro other entries member
    obtain ⟨before, among, rfl | rfl⟩ := origin member
    next => exact ordinary.lowerKeys other _ among
    next => exact lower before (ordinary.lowerKeys other before among)

theorem lower_relined {key : String} (relined : List String -> List String) (entries : OpenEntries)
    (lower : forall entry, entry ∈ entries -> lowered entry.1 = entry.1) :
    forall entry, entry ∈ entries.map (fun (other, lines) =>
      if other = key then (other, relined lines) else (other, lines)) -> lowered entry.1 = entry.1 := by
  intro entry member
  obtain ⟨⟨other, lines⟩, among, rfl⟩ := List.mem_map.1 member
  have kept : lowered other = other := lower _ among
  dsimp only
  by_cases here : other = key
  next => rw [if_pos here]; exact kept
  next => rw [if_neg here]; exact kept

theorem Ordinary.extend (ordinary : reading.Ordinary) (line : String) : (reading.extend line).Ordinary := by
  unfold Reading.extend
  split
  next => exact ordinary.change (lower_relined (· ++ [line]))
  next => exact ordinary

theorem Ordinary.put (ordinary : reading.Ordinary) (lower : lowered key = key) :
    (reading.put name key line).Ordinary := by
  refine ordinary.change fun entries held => ?_
  by_cases known : (entries.lookup key).isSome = true
  next =>
    rw [if_pos known]
    exact lower_relined (fun _ => [line]) entries held
  next =>
    rw [if_neg known]
    intro entry member
    rcases List.mem_append.1 member with old | new
    next => exact held entry old
    next =>
      rw [List.mem_singleton.1 new]
      exact lower

theorem Ordinary.openSection (ordinary : reading.Ordinary) (present : name ≠ "") {number : Nat}
    (opened : reading.openSection file name number = .ok next) : next.Ordinary := by
  unfold Reading.openSection at opened
  by_cases seen : reading.seenSections.contains name = true
  next =>
    rw [if_pos seen] at opened
    cases opened
  next =>
    rw [if_neg seen] at opened
    cases opened
    by_cases known : (reading.sections.lookup name).isSome = true
    next => exact ordinary.same_sections (if_pos known)
    next =>
      have sections {other : String} {entries : OpenEntries} (member : (other, entries) ∈
          if (reading.sections.lookup name).isSome then reading.sections else reading.sections ++ [(name, [])]) :
          (other, entries) ∈ reading.sections ∨ (other = name ∧ entries = []) := by
        rw [if_neg known] at member
        exact (List.mem_append.1 member).imp_right fun new => Prod.mk.inj (List.mem_singleton.1 new)
      constructor
      next =>
        intro other entries member
        rcases sections member with old | ⟨rfl, _⟩
        next => exact ordinary.named other entries old
        next => exact present
      next =>
        intro other entries member
        rcases sections member with old | ⟨_, rfl⟩
        next => exact ordinary.lowerKeys other entries old
        next => exact nofun

theorem header?_present {content : List Char} (header : header? content = some name) : name ≠ "" := by
  unfold header? at header
  split at header
  next =>
    split at header
    next first rest _ =>
      cases header
      intro blank
      have none : ((_ :: rest).reverse : List Char) = [] := String.ofList_eq_empty_iff.1 blank
      simp at none
    next => cases header
  next => cases header

theorem Ordinary.readEntry (ordinary : reading.Ordinary) {number : Nat} {line content : List Char}
    (read : reading.readEntry file number line content = .ok next) : next.Ordinary := by
  unfold Reading.readEntry at read
  split at read
  next name header => exact ordinary.openSection (header?_present header) read
  next =>
    split at read
    next => cases read
    next name _ =>
      dsimp only at read
      split at read
      next =>
        cases read
        exact ordinary.same_sections rfl
      next key value _ =>
        split at read
        next => cases read
        next =>
          cases read
          have lower : lowered (String.ofList (Text.lower key)) = String.ofList (Text.lower key) := by
            rw [lowered, String.toList_ofList, lower_lower]
          exact (ordinary.put lower).same_sections rfl

theorem Ordinary.readLine (ordinary : reading.Ordinary) {number : Nat} {line : List Char}
    (read : reading.readLine file number line = .ok next) : next.Ordinary := by
  unfold Reading.readLine at read
  dsimp only at read
  split at read
  next =>
    cases read
    split
    next => exact ordinary.extend ""
    next => exact ordinary
  next =>
    split at read
    next =>
      cases read
      exact ordinary
    next =>
      split at read
      next =>
        cases read
        exact ordinary.extend _
      next =>
        have indented : Ordinary { reading with indent := (line.takeWhile isBlank).length } :=
          ordinary.same_sections rfl
        exact indented.readEntry read

theorem Ordinary.readLines {lines : List (List Char)} {number : Nat} (ordinary : reading.Ordinary) :
    (readLines file number lines reading).1.Ordinary := by
  induction lines generalizing reading number with
  | nil => exact ordinary
  | cons line rest ih =>
    unfold Reading.readLines
    cases first : reading.readLine file number line with
    | error fault => exact ordinary
    | ok further => exact ih (ordinary.readLine first)

theorem lower_close {entries : OpenEntries} (lower : forall entry, entry ∈ entries -> lowered entry.1 = entry.1) :
    forall entry, entry ∈ close entries -> lowered entry.1 = entry.1 := by
  intro entry member
  obtain ⟨open_, among, rfl⟩ := List.mem_map.1 member
  exact lower open_ among

end Reading

namespace Document

variable {document : Document} {file text : String}

theorem reading_of_parse (parsed : parse file text = .ok document) :
    exists reading, Reading.Ordinary reading ∧ document = reading.document := by
  have whole := congrArg Prod.fst (read_of_parse parsed)
  exact ⟨_, Reading.ordinary_start.readLines, whole.symm⟩

theorem mem_document {reading : Reading} (ordinary : reading.Ordinary) {name : String} {entries : Entries}
    (member : (name, entries) ∈ reading.document.sections) :
    (name ≠ "" ∧ name ≠ fallbackName) ∧ forall entry, entry ∈ entries -> lowered entry.1 = entry.1 := by
  obtain ⟨⟨first, before⟩, among, same⟩ := List.mem_map.1 member
  obtain ⟨among, kept⟩ := List.mem_filter.1 among
  obtain ⟨rfl, rfl⟩ := Prod.mk.inj same
  exact ⟨⟨ordinary.named first before among, by simpa using kept⟩,
    Reading.lower_close (ordinary.lowerKeys first before among)⟩

theorem named_of_parse (parsed : parse file text = .ok document) {name : String}
    (listed : name ∈ document.sectionNames) : name ≠ "" ∧ name ≠ fallbackName := by
  obtain ⟨reading, ordinary, rfl⟩ := reading_of_parse parsed
  obtain ⟨⟨_, entries⟩, member, rfl⟩ := List.mem_map.1 listed
  exact (mem_document ordinary member).1

theorem standing_of_parse (parsed : parse file text = .ok document) (alone : document.fallback = []) :
    document.Standing := by
  refine ⟨alone, fun name => named_of_parse parsed, fun name entries member => ?_⟩
  obtain ⟨reading, ordinary, rfl⟩ := reading_of_parse parsed
  exact (mem_document ordinary member).2

end Document

end SpokenArithmetic.Settings
