import SpokenArithmetic.Proofs.Settings.References
import SpokenArithmetic.Proofs.Text.Lowered
import SpokenArithmetic.Settings.Inheritance

set_option autoImplicit false

/-!
Documents without a fallback. Each section has its own keys and nothing to fall back to, a key is found in any letter
case, and setting a key changes this key of this section and nothing else.
-/

namespace SpokenArithmetic.Settings

open Text

namespace Entries

variable {entries : Entries} {key other value : String}

theorem mem_of_find? (found : entries.find? key = some value) : (key, value) ∈ entries := by
  obtain ⟨front, back, same, _⟩ := List.lookup_eq_some_iff.1 found
  rw [same]
  exact List.mem_append_right front List.mem_cons_self

theorem mem_keys_iff : key ∈ entries.keys ↔ (entries.find? key).isSome = true := by
  simp [keys, find?]

theorem mem_put {entry : String × String} (member : entry ∈ entries.put key value) :
    entry = (key, value) ∨ entry ∈ entries := by
  induction entries with
  | nil => exact .inl (List.mem_singleton.1 member)
  | cons first rest ih =>
    obtain ⟨other, old⟩ := first
    unfold put at member
    by_cases same : other = key
    next =>
      rw [if_pos same] at member
      exact (List.mem_cons.1 member).imp_right (List.mem_cons_of_mem _)
    next =>
      rw [if_neg same] at member
      rcases List.mem_cons.1 member with here | later
      next => exact .inr (List.mem_cons.2 (.inl here))
      next => exact (ih later).imp_right (List.mem_cons_of_mem _)

theorem find?_put (entries : Entries) (key value other : String) :
    (entries.put key value).find? other = if other = key then some value else entries.find? other := by
  by_cases same : other = key
  next => rw [if_pos same, same, find?_put_self]
  next => rw [if_neg same, find?_put_of_ne same]

def named? (key : String) (entries : Entries) : Option String :=
  (List.find? (fun entry => lowered entry.1 = lowered key) entries).map (·.2)

end Entries

namespace Document

variable {document changed middle : Document} {name block key value : String} {value? : String -> Option String}

def own? (document : Document) (name key : String) : Option String :=
  (document.section? name).bind (Entries.find? (lowered key))

def shown? (document : Document) (name key : String) : Option String :=
  (document.get name key).toOption

/-- A document whose sections stand for themselves: nothing falls back, no section has a name that stands for
something else, and keys are in lower case. -/
structure Standing (document : Document) : Prop where
  alone : document.fallback = []
  named : forall name, name ∈ document.sectionNames -> name ≠ "" ∧ name ≠ fallbackName
  lowerKeys : forall name entries, (name, entries) ∈ document.sections ->
    forall entry, entry ∈ entries -> lowered entry.1 = entry.1

theorem section?_isSome_iff : (document.section? name).isSome = true ↔ name ∈ document.sectionNames := by
  simp [section?, sectionNames]

theorem section?_of_mem (member : name ∈ document.sectionNames) :
    exists entries, document.section? name = some entries :=
  Option.isSome_iff_exists.1 (section?_isSome_iff.2 member)

theorem mem_of_section? {entries : Entries} (found : document.section? name = some entries) :
    (name, entries) ∈ document.sections := by
  obtain ⟨front, back, same, _⟩ := List.lookup_eq_some_iff.1 found
  rw [same]
  exact List.mem_append_right front List.mem_cons_self

theorem hasSection_iff : document.hasSection name = true ↔ name ∈ document.sectionNames :=
  List.contains_iff_mem

theorem checkBlock_ok (member : name ∈ document.sectionNames) : document.checkBlock name = .ok () :=
  if_pos (hasSection_iff.2 member)

theorem checkBlock_error (absent : name ∉ document.sectionNames) :
    document.checkBlock name = .error (.missingBlock name) :=
  if_neg fun held => absent (hasSection_iff.1 held)

theorem own?_lowered (document : Document) (name key : String) :
    document.own? name (lowered key) = document.own? name key := by
  unfold own?
  rw [lowered_lowered]

theorem own?_section {entries : Entries} (found : document.section? name = some entries) (key : String) :
    document.own? name key = entries.find? (lowered key) := by
  rw [own?, found, Option.bind_some]

theorem get_lowered (document : Document) (name key : String) :
    document.get name (lowered key) = document.get name key := by
  unfold get
  rw [lowered_lowered]

theorem shown?_lowered (document : Document) (name key : String) :
    document.shown? name (lowered key) = document.shown? name key :=
  congrArg Except.toOption (get_lowered document name key)

theorem get_ok_iff {entries : Entries} (found : document.section? name = some entries) {raw text : String}
    (held : document.raw? entries (lowered key) = some raw) :
    document.get name key = .ok text ↔
      Reference.Reads (document.raw? entries) maxReferences raw.toList text.toList := by
  unfold get
  simp only [found, held, map_eq_ok]
  constructor
  next =>
    rintro ⟨filled, fills, rfl⟩
    rw [String.toList_ofList]
    exact Reference.fill_iff.1 fills
  next => exact fun reads => ⟨text.toList, Reference.fill_iff.2 reads, String.ofList_toList⟩

section Reading

theorem Standing.raw? (standing : document.Standing) (entries : Entries) (key : String) :
    document.raw? entries key = entries.find? key := by
  unfold Document.raw?
  rw [standing.alone]
  cases entries.find? key <;> rfl

theorem Standing.hasKey_iff (standing : document.Standing) :
    document.hasKey name key = true ↔ exists value, document.own? name key = some value := by
  unfold hasKey own?
  cases found : document.section? name with
  | none => simp
  | some entries => simp [standing.raw?, Option.isSome_iff_exists]

theorem Standing.own?_of_get (standing : document.Standing) (shown : document.get name key = .ok value) :
    exists raw, document.own? name key = some raw := by
  unfold get at shown
  unfold own?
  cases found : document.section? name with
  | none =>
    rw [found] at shown
    cases shown
  | some entries =>
    simp only [found, standing.raw?] at shown
    cases held : entries.find? (lowered key) with
    | none =>
      rw [held] at shown
      cases shown
    | some raw => exact ⟨raw, held⟩

theorem Standing.get_unmarked (standing : document.Standing) (own : document.own? name key = some value)
    (unmarked : Unmarked value) : document.get name key = .ok value := by
  obtain ⟨entries, found, held⟩ := Option.bind_eq_some_iff.1 own
  refine (get_ok_iff found ((standing.raw? entries _).trans held)).2 ?_
  exact (Reference.reads_unmarked unmarked).2 rfl

theorem Standing.keys_own (standing : document.Standing) (member : name ∈ document.sectionNames) :
    exists keys, document.keys name = .ok keys ∧
      forall key, key ∈ keys ↔ lowered key = key ∧ (document.own? name key).isSome = true := by
  obtain ⟨entries, found⟩ := section?_of_mem member
  have listed : document.keys name = .ok entries.keys := by
    unfold keys
    simp only [found, standing.alone]
    exact congrArg Except.ok (List.append_nil _)
  refine ⟨entries.keys, listed, fun key => ?_⟩
  rw [own?_section found]
  constructor
  next =>
    intro listed
    obtain ⟨entry, among, same⟩ := List.mem_map.1 listed
    have lower : lowered key = key := same ▸ standing.lowerKeys name entries (mem_of_section? found) entry among
    exact ⟨lower, by rw [lower]; exact Entries.mem_keys_iff.1 listed⟩
  next =>
    rintro ⟨lower, held⟩
    rw [lower] at held
    exact Entries.mem_keys_iff.2 held

theorem get_congr (fallback : changed.fallback = document.fallback)
    (same : changed.section? name = document.section? name) (key : String) :
    changed.get name key = document.get name key := by
  unfold get Document.raw?
  rw [fallback, same]

end Reading

section Setting

variable {change : Entries -> Entries}

theorem changeSection_names (name : String) (change : Entries -> Entries) (sections : List (String × Entries)) :
    (changeSection name change sections).map (·.1) = sections.map (·.1) := by
  induction sections with
  | nil => rfl
  | cons entry rest ih =>
    obtain ⟨other, entries⟩ := entry
    unfold changeSection
    by_cases same : other = name
    next => rw [if_pos same]; rfl
    next => rw [if_neg same, List.map_cons, ih, List.map_cons]

theorem lookup_changeSection (name other : String) (change : Entries -> Entries)
    (sections : List (String × Entries)) :
    (changeSection name change sections).lookup other =
      if other = name then (sections.lookup name).map change else sections.lookup other := by
  induction sections with
  | nil => by_cases same : other = name <;> simp [changeSection, same]
  | cons entry rest ih =>
    obtain ⟨first, entries⟩ := entry
    by_cases here : first = name
    next =>
      subst here
      by_cases same : other = first
      next => simp [changeSection, same]
      next =>
        have differs : (other == first) = false := by simpa using same
        simp [changeSection, same, List.lookup_cons, differs]
    next =>
      have apart : (name == first) = false := by simpa using fun same => here same.symm
      by_cases hit : other == first
      next =>
        have same : other = first := by simpa using hit
        subst same
        simp [changeSection, here]
      next =>
        simp only [Bool.not_eq_true] at hit
        simp only [changeSection, here, if_false, List.lookup_cons, hit, apart, ih]

theorem mem_changeSection {entry : String × Entries} {sections : List (String × Entries)}
    (member : entry ∈ changeSection name change sections) :
    entry ∈ sections ∨ exists entries, (name, entries) ∈ sections ∧ entry = (name, change entries) := by
  induction sections with
  | nil => cases member
  | cons first rest ih =>
    obtain ⟨other, entries⟩ := first
    unfold changeSection at member
    by_cases same : other = name
    next =>
      subst same
      rw [if_pos rfl] at member
      rcases List.mem_cons.1 member with here | later
      next => exact .inr ⟨entries, List.mem_cons_self, here⟩
      next => exact .inl (List.mem_cons_of_mem _ later)
    next =>
      rw [if_neg same] at member
      rcases List.mem_cons.1 member with here | later
      next => exact .inl (List.mem_cons.2 (.inl here))
      next =>
        rcases ih later with kept | ⟨entries, among, changed⟩
        next => exact .inl (List.mem_cons_of_mem _ kept)
        next => exact .inr ⟨entries, List.mem_cons_of_mem _ among, changed⟩

def assign (document : Document) (name key value : String) : Document :=
  { document with sections := changeSection name (Entries.put (lowered key) value) document.sections }

theorem set_ok_iff (ordinary : name ≠ "" ∧ name ≠ fallbackName) :
    document.set name key value = .ok changed ↔ name ∈ document.sectionNames ∧
      Reference.strayPercent? value.toList = none ∧ document.assign name key value = changed := by
  have special : ¬((name = "" || name = fallbackName) = true) := by simp [ordinary]
  unfold set
  cases Reference.strayPercent? value.toList with
  | some position => simp
  | none =>
    dsimp only
    rw [if_neg special]
    by_cases member : name ∈ document.sectionNames
    next =>
      rw [if_pos (hasSection_iff.2 member), Except.ok.injEq]
      simp only [member, true_and, assign]
    next =>
      rw [if_neg fun held => member (hasSection_iff.1 held)]
      exact iff_of_false nofun fun both => member both.1

/-- A document in which one section has come to have certain values, while the others are as they were. -/
structure Alters (document : Document) (block : String) (value? : String -> Option String) (changed : Document) :
    Prop where
  fallback : changed.fallback = document.fallback
  names : changed.sectionNames = document.sectionNames
  others : forall name, name ≠ block -> changed.section? name = document.section? name
  own : forall key, changed.own? block key = value? key
  standing : document.Standing -> changed.Standing

theorem alters_self (document : Document) (block : String) :
    document.Alters block (document.own? block) document where
  fallback := rfl
  names := rfl
  others _ _ := rfl
  own _ := rfl
  standing standing := standing

theorem Alters.trans {further? : String -> Option String} (first : document.Alters block value? middle)
    (second : middle.Alters block further? changed) : document.Alters block further? changed where
  fallback := second.fallback.trans first.fallback
  names := second.names.trans first.names
  others name other := (second.others name other).trans (first.others name other)
  own := second.own
  standing standing := second.standing (first.standing standing)

theorem Alters.get (alters : document.Alters block value? changed) (other : name ≠ block) (key : String) :
    changed.get name key = document.get name key :=
  get_congr alters.fallback (alters.others name other) key

theorem Alters.shown (alters : document.Alters block value? changed) (other : name ≠ block) (key : String) :
    changed.shown? name key = document.shown? name key :=
  congrArg Except.toOption (alters.get other key)

theorem Alters.own_other (alters : document.Alters block value? changed) (other : name ≠ block) (key : String) :
    changed.own? name key = document.own? name key := by
  rw [own?, alters.others name other]
  rfl

theorem section?_assign (document : Document) (name key value other : String) :
    (document.assign name key value).section? other =
      if other = name then (document.section? name).map (Entries.put (lowered key) value)
      else document.section? other :=
  lookup_changeSection name other _ document.sections

theorem sectionNames_assign (document : Document) (name key value : String) :
    (document.assign name key value).sectionNames = document.sectionNames :=
  changeSection_names name _ document.sections

theorem Standing.assign (standing : document.Standing) (name key value : String) :
    (document.assign name key value).Standing where
  alone := standing.alone
  named other listed := standing.named other (sectionNames_assign document name key value ▸ listed)
  lowerKeys other entries held entry among := by
    rcases mem_changeSection held with kept | ⟨before, here, same⟩
    next => exact standing.lowerKeys other entries kept entry among
    next =>
      obtain ⟨rfl, rfl⟩ := Prod.mk.inj same
      rcases Entries.mem_put among with rfl | old
      next => exact lowered_lowered key
      next => exact standing.lowerKeys other before here entry old

theorem assign_alters (member : name ∈ document.sectionNames) (key value : String) :
    document.Alters name (fun asked => if lowered asked = lowered key then some value else document.own? name asked)
      (document.assign name key value) where
  fallback := rfl
  names := sectionNames_assign document name key value
  others other differs := by rw [section?_assign, if_neg differs]
  own asked := by
    obtain ⟨entries, found⟩ := section?_of_mem member
    have looked := section?_assign document name key value name
    rw [if_pos rfl, found, Option.map_some] at looked
    rw [own?_section looked, own?_section found, Entries.find?_put]
  standing standing := standing.assign name key value

end Setting

section Plain

structure Plain (document : Document) : Prop extends document.Standing where
  unmarked : forall name entries, (name, entries) ∈ document.sections ->
    forall entry, entry ∈ entries -> Unmarked entry.2

theorem Plain.unmarked_own? (plain : document.Plain) (own : document.own? name key = some value) :
    Unmarked value := by
  obtain ⟨entries, found, held⟩ := Option.bind_eq_some_iff.1 own
  exact plain.unmarked name entries (mem_of_section? found) _ (Entries.mem_of_find? held)

theorem Plain.get_own (plain : document.Plain) (own : document.own? name key = some value) :
    document.get name key = .ok value :=
  plain.get_unmarked own (plain.unmarked_own? own)

theorem Plain.shown?_own (plain : document.Plain) (name key : String) :
    document.shown? name key = document.own? name key := by
  unfold shown?
  cases own : document.own? name key with
  | some value => rw [plain.get_own own]; rfl
  | none =>
    cases shown : document.get name key with
    | error fault => rfl
    | ok value =>
      obtain ⟨raw, held⟩ := plain.own?_of_get shown
      rw [own] at held
      cases held

end Plain

end Document

end SpokenArithmetic.Settings
