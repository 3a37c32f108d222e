import CrateDocs.Proofs.Path

namespace CrateDocs

/-!
# The paths of the pages

Each of the four pages finds its pieces in exactly the paths of its layout.

* `Url.IsSegment` and `Url.IsName` are the two classes of steps that a layout is built from;
* `Page.itemCaptures?_eq_some_iff`, `Page.moduleCaptures?_eq_some_iff`,
  `Page.versionCaptures?_eq_some_iff` and `Page.packageCaptures?_eq_some_iff` give for each page the
  paths and the pieces;
* `Page.captures?_unique` — no two pages share an address.
-/

namespace Url

/-- A step of an address: not empty, and cut at every `/` and `#`. -/
def IsSegment (t : Text) : Prop := t ≠ [] ∧ '/' ∉ t ∧ '#' ∉ t
  deriving Decidable

/-- The name of a crate, a module or an item: a step without dots. -/
def IsName (t : Text) : Prop := IsSegment t ∧ '.' ∉ t
  deriving Decidable

end Url

/-- The name of an item's file. -/
def Item.file (i : Item) : Text := i.kind.word ++ '.' :: i.name ++ Page.fileEnd

/-- The last step for an index, in its spelling if there is one. -/
def IndexSpelling.steps (s : Option IndexSpelling) : List Text := (s.map step).toList

namespace Page

open Url

variable {path : Text} {fragment : Option Text} {c : Captures}

/-! ### Steps of a path without a fragment -/

/-- Steps that can stand in a path. -/
def AreSteps (steps : List Text) : Prop := ∀ step ∈ steps, '/' ∉ step ∧ '#' ∉ step

@[simp] theorem areSteps_cons {step : Text} {steps : List Text} :
    AreSteps (step :: steps) ↔ ('/' ∉ step ∧ '#' ∉ step) ∧ AreSteps steps :=
  List.forall_mem_cons

@[simp] theorem areSteps_append {steps others : List Text} :
    AreSteps (steps ++ others) ↔ AreSteps steps ∧ AreSteps others :=
  List.forall_mem_append

theorem areSteps_of_isName {names : List Text} (h : ∀ name ∈ names, IsName name) :
    AreSteps names := fun name hname => (h name hname).1.2

theorem areSteps_index (s : Option IndexSpelling) : AreSteps (IndexSpelling.steps s) := by
  rcases s with _ | _ | _ <;> unfold AreSteps <;> decide

theorem steps?_eq_some_iff_of_notMem {steps : List Text} (hpath : '#' ∉ path) :
    steps? path = some steps ↔ steps ≠ [] ∧ AreSteps steps ∧ path = pathOf steps := by
  rw [steps?_eq_some_iff]
  refine and_congr_right fun _ => ⟨?_, ?_⟩
  · rintro ⟨hslash, rfl⟩
    exact ⟨fun step hstep => ⟨hslash step hstep,
      fun hmark => hpath ((mem_pathOf (by decide)).2 ⟨step, hstep, hmark⟩)⟩, rfl⟩
  · rintro ⟨hsteps, rfl⟩
    exact ⟨fun step hstep => (hsteps step hstep).1, rfl⟩

/-- Steps that can stand in a path are names if they pass for them. -/
theorem all_isName_iff {names : List Text} (h : AreSteps names) :
    names.all isName = true ↔ ∀ name ∈ names, IsName name := by
  rw [List.all_eq_true]
  refine forall₂_congr fun name hname => ?_
  obtain ⟨hslash, hmark⟩ := h name hname
  simp [isName, IsName, IsSegment, hslash, hmark]

/-! ### Indexes and files -/

/-- What is found before an index, and the index itself, are the steps again. -/
theorem exists_of_splitIndex {steps names : List Text} {index : Option Text}
    (h : splitIndex steps = (names, index)) :
    ∃ s : Option IndexSpelling,
      steps = names ++ IndexSpelling.steps s ∧ index = s.map IndexSpelling.raw := by
  rcases splitIndex_cases steps with ⟨before, s, rfl⟩ | hnone
  · rw [splitIndex_concat] at h
    obtain ⟨rfl, rfl⟩ := Prod.mk.inj h
    exact ⟨some s, rfl, rfl⟩
  · rw [hnone] at h
    obtain ⟨rfl, rfl⟩ := Prod.mk.inj h
    exact ⟨none, by simp [IndexSpelling.steps], rfl⟩

/-- An index is found after names. -/
theorem splitIndex_append {names : List Text} (hnames : ∀ name ∈ names, IsName name)
    (s : Option IndexSpelling) :
    splitIndex (names ++ IndexSpelling.steps s) = (names, s.map IndexSpelling.raw) := by
  cases s with
  | some s => exact splitIndex_concat names s
  | none =>
    rw [IndexSpelling.steps, Option.map_none, Option.toList_none, List.append_nil]
    refine splitIndex_of_ne fun last hlast s => ?_
    obtain ⟨⟨hne, -⟩, hdot⟩ := hnames last (List.mem_of_getLast? hlast)
    rintro rfl
    cases s with
    | slash => exact hne rfl
    | file => exact hdot (by decide)

/-- The name of an item's file is no name of a module. -/
theorem dot_mem_file (i : Item) : '.' ∈ i.file := by
  simp [Item.file]

theorem areSteps_file {i : Item} (hname : IsName i.name) : AreSteps [i.file] := by
  obtain ⟨⟨-, hslash, hmark⟩, -⟩ := hname
  have hkind : '/' ∉ i.kind.word ∧ '#' ∉ i.kind.word := by cases i.kind <;> decide
  have hend : '/' ∉ fileEnd ∧ '#' ∉ fileEnd := by decide
  simp [AreSteps, Item.file, *]

/-- The kind and the name are found in the name of an item's file. -/
theorem itemFile?_file {i : Item} (hname : IsName i.name) :
    itemFile? i.file = some (i.kind.word, i.name) :=
  itemFile?_eq_some_iff.2 ⟨by cases i.kind <;> decide, hname.2, rfl⟩

/-- No index is found in the place of an item's file. -/
theorem splitIndex_concat_file {i : Item} (hname : IsName i.name) (names : List Text) :
    splitIndex (names ++ [i.file]) = (names ++ [i.file], none) := by
  refine splitIndex_of_ne fun last hlast s hstep => ?_
  rw [List.getLast?_concat, Option.mem_some_iff] at hlast
  have hnone : itemFile? s.step = none := by cases s <;> rfl
  rw [← hstep, ← hlast, itemFile?_file hname] at hnone
  cases hnone

/-! ### The pieces of each page -/

/-- A package's page has no step, or only that of an index. -/
theorem packageCaptures?_eq_some_iff :
    packageCaptures? path fragment = some c ↔
      ∃ s : Option IndexSpelling, s ≠ some .file ∧ path = pathOf (IndexSpelling.steps s) ∧
        c = { index := s.map IndexSpelling.raw, fragment } := by
  constructor
  · intro h
    unfold packageCaptures? at h
    split at h
    case isTrue hpath =>
      exact ⟨none, by simp, hpath, (Option.some.inj h).symm⟩
    case isFalse =>
      split at h
      case isFalse => cases h
      case isTrue hpath =>
        subst hpath
        exact ⟨some .slash, by simp, rfl, (Option.some.inj h).symm⟩
  · rintro ⟨_ | _ | _, hs, rfl, rfl⟩
    · rfl
    · rfl
    · exact absurd rfl hs

/-- A version's page is a version, perhaps as an index. -/
theorem versionCaptures?_eq_some_iff (hpath : '#' ∉ path) :
    versionCaptures? path fragment = some c ↔
      ∃ version, ∃ s : Option IndexSpelling,
        IsSegment version ∧ path = pathOf (version :: IndexSpelling.steps s) ∧
        c = { version, index := s.map IndexSpelling.raw, fragment } := by
  constructor
  · intro h
    unfold versionCaptures? at h
    split at h
    case h_2 => cases h
    case h_1 version rest hsteps =>
      obtain ⟨-, hall, rfl⟩ := (steps?_eq_some_iff_of_notMem hpath).1 hsteps
      split at h
      case h_2 => cases h
      case h_1 index hindex =>
        obtain ⟨s, rfl, rfl⟩ := exists_of_splitIndex hindex
        split at h
        case isFalse => cases h
        case isTrue hversion =>
          exact ⟨version, s, ⟨hversion, (areSteps_cons.1 hall).1⟩, rfl, (Option.some.inj h).symm⟩
  · rintro ⟨version, s, hversion, rfl, rfl⟩
    have hsteps : AreSteps (version :: IndexSpelling.steps s) :=
      areSteps_cons.2 ⟨hversion.2, areSteps_index s⟩
    have hindex : splitIndex (IndexSpelling.steps s) = ([], s.map IndexSpelling.raw) :=
      splitIndex_append (List.forall_mem_nil _) s
    rw [versionCaptures?, (steps?_eq_some_iff_of_notMem hpath).2 ⟨by simp, hsteps, rfl⟩]
    simp only [hindex]
    exact if_pos hversion.1

/-- A module's page is a version, a crate and modules, perhaps as an index. -/
theorem moduleCaptures?_eq_some_iff (hpath : '#' ∉ path) :
    moduleCaptures? path fragment = some c ↔
      ∃ version crate modules, ∃ s : Option IndexSpelling,
        IsSegment version ∧ (∀ name ∈ crate :: modules, IsName name) ∧
        path = pathOf (version :: crate :: modules ++ IndexSpelling.steps s) ∧
        c = { version, crate, modules := pathOf modules, index := s.map IndexSpelling.raw,
              fragment } := by
  constructor
  · intro h
    unfold moduleCaptures? at h
    split at h
    case h_2 => cases h
    case h_1 version rest hsteps =>
      obtain ⟨-, hall, rfl⟩ := (steps?_eq_some_iff_of_notMem hpath).1 hsteps
      obtain ⟨hversion, hrest⟩ := areSteps_cons.1 hall
      split at h
      case h_2 => cases h
      case h_1 crate modules index hindex =>
        obtain ⟨s, rfl, rfl⟩ := exists_of_splitIndex hindex
        split at h
        case isFalse => cases h
        case isTrue hrule =>
          have hnames := (all_isName_iff (areSteps_append.1 hrest).1).1 hrule.2
          exact ⟨version, crate, modules, s, ⟨hrule.1, hversion⟩, hnames, rfl,
            (Option.some.inj h).symm⟩
  · rintro ⟨version, crate, modules, s, hversion, hnames, rfl, rfl⟩
    have hnameSteps := areSteps_of_isName hnames
    have hsteps : AreSteps (version :: crate :: modules ++ IndexSpelling.steps s) :=
      areSteps_cons.2 ⟨hversion.2, areSteps_append.2 ⟨hnameSteps, areSteps_index s⟩⟩
    have hindex := splitIndex_append hnames s
    have hrule := (all_isName_iff hnameSteps).2 hnames
    rw [moduleCaptures?, (steps?_eq_some_iff_of_notMem hpath).2 ⟨by simp, hsteps, rfl⟩]
    simp only [List.cons_append] at hindex ⊢
    simp only [hindex]
    exact if_pos ⟨hversion.1, hrule⟩

/-- An item's page is a version, a crate, modules and the item's file. -/
theorem itemCaptures?_eq_some_iff (hpath : '#' ∉ path) :
    itemCaptures? path fragment = some c ↔
      ∃ version crate modules, ∃ i : Item,
        IsSegment version ∧ (∀ name ∈ crate :: modules, IsName name) ∧ IsName i.name ∧
        path = pathOf (version :: crate :: modules ++ [i.file]) ∧
        c = { version, crate, modules := pathOf modules, kind := i.kind.word, name := i.name,
              fragment } := by
  constructor
  · intro h
    unfold itemCaptures? at h
    split at h
    case h_2 => cases h
    case h_1 version crate rest hsteps =>
      obtain ⟨-, hall, rfl⟩ := (steps?_eq_some_iff_of_notMem hpath).1 hsteps
      simp only [Option.bind_eq_bind, Option.bind_eq_some_iff] at h
      obtain ⟨file, hlast, ⟨word, name⟩, hfile, h⟩ := h
      -- The last step is the file, and what is before it the names.
      obtain ⟨modules, rfl⟩ := List.getLast?_eq_some_iff.1 hlast
      obtain ⟨-, hdot, rfl⟩ := itemFile?_eq_some_iff.1 hfile
      rw [List.dropLast_concat] at h
      split at h
      case isFalse => cases h
      case isTrue hrule =>
        obtain ⟨hversion, hnames, hword, hne⟩ := hrule
        obtain ⟨kind, hkind⟩ := Option.isSome_iff_exists.1 hword
        have hword : kind.word = word := ItemKind.word_of_ofWord? hkind
        subst hword
        simp only [areSteps_cons, areSteps_append] at hall
        obtain ⟨hversionStep, hcrate, hmodules, ⟨hslash, hmark⟩, -⟩ := hall
        simp only [List.mem_append, List.mem_cons, not_or] at hslash hmark
        exact ⟨version, crate, modules, ⟨kind, name⟩, ⟨hversion, hversionStep⟩,
          (all_isName_iff (areSteps_cons.2 ⟨hcrate, hmodules⟩)).1 hnames,
          ⟨⟨hne, hslash.1.2.2, hmark.1.2.2⟩, hdot⟩, rfl, (Option.some.inj h).symm⟩
  · rintro ⟨version, crate, modules, i, hversion, hnames, hname, rfl, rfl⟩
    have hnameSteps := areSteps_of_isName hnames
    have hsteps : AreSteps (version :: crate :: modules ++ [i.file]) :=
      areSteps_cons.2 ⟨hversion.2, areSteps_append.2 ⟨hnameSteps, areSteps_file hname⟩⟩
    have hrule := (all_isName_iff hnameSteps).2 hnames
    rw [itemCaptures?, (steps?_eq_some_iff_of_notMem hpath).2 ⟨by simp, hsteps, rfl⟩]
    simp only [List.cons_append, List.getLast?_concat, List.dropLast_concat, Option.bind_eq_bind,
      Option.bind_some, itemFile?_file hname, ItemKind.ofWord?_word]
    exact if_pos ⟨hversion.1, hrule, rfl, hname.1.1⟩

/-! ### The page of a path -/

/-- The page that a path can belong to. -/
def ofPath (path : Text) : Shape :=
  match steps? path with
  | some (version :: rest) =>
    if version = [] then package
    else
      match (splitIndex rest).1 with
      | [] => Page.version
      | name :: names => if (name :: names).all isName then modules else item
  | _ => package

/-- A shape of a page looks at the path and the fragment. -/
theorem captures?_shape_eq_some_iff {name description : String}
    {captures? : Text → Option Text → Option Captures} {remainder : Text} :
    (shape name description captures?).captures? remainder = some c ↔
      ∃ path fragment, splitFragment? remainder = some (path, fragment) ∧
        captures? path fragment = some c := by
  simp [shape, Option.bind_eq_some_iff]

theorem ofPath_of_steps? {version : Text} {rest : List Text}
    (hsteps : steps? path = some (version :: rest)) (hversion : version ≠ []) :
    ofPath path = match (splitIndex rest).1 with
      | [] => Page.version
      | name :: names => if (name :: names).all isName then modules else item := by
  rw [ofPath, hsteps]
  exact if_neg hversion

theorem ofPath_of_packageCaptures? (h : packageCaptures? path fragment = some c) :
    ofPath path = package := by
  obtain ⟨_ | _ | _, hs, rfl, -⟩ := packageCaptures?_eq_some_iff.1 h
  · rfl
  · rfl
  · exact absurd rfl hs

theorem ofPath_of_versionCaptures? (hpath : '#' ∉ path)
    (h : versionCaptures? path fragment = some c) : ofPath path = version := by
  obtain ⟨version, s, hversion, hsteps, -⟩ := (versionCaptures?_eq_some_iff hpath).1 h
  have hall : AreSteps (version :: IndexSpelling.steps s) :=
    areSteps_cons.2 ⟨hversion.2, areSteps_index s⟩
  have hindex := splitIndex_append (List.forall_mem_nil IsName) s
  rw [List.nil_append] at hindex
  have hread : steps? path = some (version :: IndexSpelling.steps s) :=
    (steps?_eq_some_iff_of_notMem hpath).2 ⟨by simp, hall, hsteps⟩
  rw [ofPath_of_steps? hread hversion.1, hindex]

theorem ofPath_of_moduleCaptures? (hpath : '#' ∉ path)
    (h : moduleCaptures? path fragment = some c) : ofPath path = modules := by
  obtain ⟨version, crate, names, s, hversion, hnames, hsteps, -⟩ :=
    (moduleCaptures?_eq_some_iff hpath).1 h
  have hnameSteps := areSteps_of_isName hnames
  have hall : AreSteps (version :: crate :: names ++ IndexSpelling.steps s) :=
    areSteps_cons.2 ⟨hversion.2, areSteps_append.2 ⟨hnameSteps, areSteps_index s⟩⟩
  have hread : steps? path = some (version :: (crate :: names ++ IndexSpelling.steps s)) :=
    (steps?_eq_some_iff_of_notMem hpath).2 ⟨by simp, hall, hsteps⟩
  rw [ofPath_of_steps? hread hversion.1, splitIndex_append hnames s]
  exact if_pos ((all_isName_iff hnameSteps).2 hnames)

theorem ofPath_of_itemCaptures? (hpath : '#' ∉ path)
    (h : itemCaptures? path fragment = some c) : ofPath path = item := by
  obtain ⟨version, crate, names, i, hversion, hnames, hname, hsteps, -⟩ :=
    (itemCaptures?_eq_some_iff hpath).1 h
  have hall : AreSteps (version :: crate :: names ++ [i.file]) :=
    areSteps_cons.2 ⟨hversion.2, areSteps_append.2 ⟨areSteps_of_isName hnames, areSteps_file hname⟩⟩
  -- The dot of the file tells it from the page of a module.
  have hdot : ¬ (crate :: names ++ [i.file]).all isName := by
    intro hrule
    have hfile := List.all_eq_true.1 hrule i.file (by simp)
    simp [isName, dot_mem_file] at hfile
  have hread : steps? path = some (version :: (crate :: names ++ [i.file])) :=
    (steps?_eq_some_iff_of_notMem hpath).2 ⟨by simp, hall, hsteps⟩
  rw [ofPath_of_steps? hread hversion.1, splitIndex_concat_file hname]
  exact if_neg hdot

/-- A page finds its pieces only in the paths that belong to it. -/
theorem eq_ofPath_of_captures? {s : Shape} (hs : s ∈ all) {remainder : Text}
    (hsplit : splitFragment? remainder = some (path, fragment))
    (h : s.captures? remainder = some c) : s = ofPath path := by
  have hmark : '#' ∉ path := (splitFragment?_eq_some_iff.1 hsplit).2.1
  have hpieces : ∀ {name description : String} {captures? : Text → Option Text → Option Captures},
      (shape name description captures?).captures? remainder = some c →
        captures? path fragment = some c := by
    intro _ _ _ h
    obtain ⟨path', fragment', hsplit', hpieces⟩ := captures?_shape_eq_some_iff.1 h
    obtain ⟨rfl, rfl⟩ := Prod.mk.inj (Option.some.inj (hsplit.symm.trans hsplit'))
    exact hpieces
  simp only [all, List.mem_cons, List.not_mem_nil, or_false] at hs
  rcases hs with rfl | rfl | rfl | rfl
  · exact (ofPath_of_itemCaptures? hmark (hpieces h)).symm
  · exact (ofPath_of_moduleCaptures? hmark (hpieces h)).symm
  · exact (ofPath_of_versionCaptures? hmark (hpieces h)).symm
  · exact (ofPath_of_packageCaptures? (hpieces h)).symm

/-- A page finds pieces only where there is a path and a fragment. -/
theorem exists_split_of_captures? {s : Shape} (hs : s ∈ all) {remainder : Text}
    (h : s.captures? remainder = some c) :
    ∃ path fragment, splitFragment? remainder = some (path, fragment) := by
  simp only [all, List.mem_cons, List.not_mem_nil, or_false] at hs
  rcases hs with rfl | rfl | rfl | rfl <;>
    obtain ⟨path, fragment, hsplit, -⟩ := captures?_shape_eq_some_iff.1 h <;>
    exact ⟨path, fragment, hsplit⟩

/-- **No two pages share an address.** -/
theorem captures?_unique {s s' : Shape} (hs : s ∈ all) (hs' : s' ∈ all) {remainder : Text}
    {c c' : Captures} (h : s.captures? remainder = some c)
    (h' : s'.captures? remainder = some c') : s = s' := by
  obtain ⟨path, fragment, hsplit⟩ := exists_split_of_captures? hs h
  rw [eq_ofPath_of_captures? hs hsplit h, eq_ofPath_of_captures? hs' hsplit h']

end Page

end CrateDocs
