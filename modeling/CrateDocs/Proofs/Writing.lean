import CrateDocs.Data.Sequence
import CrateDocs.Sandbox
import Mathlib.Data.List.Infix

namespace CrateDocs

/-!
# Writing a file

A path is followed through the tree of directories to a place. A file that is written there is the
only thing that differs afterwards, and all paths lead where they led before.

* `Sandbox.LeadsTo` says where a path leads, and `Sandbox.read_eq_ok_iff` and
  `Sandbox.write_eq_ok_iff` say what reading and writing do there;
* `Sandbox.Reaches` says that everything on the way to a place is there, which is so wherever a
  path is followed to;
* `Sandbox.entry?_put` is what is found anywhere after a file is put at a place;
* `Sandbox.leadsTo_put_iff` — paths lead where they led before;
* `Sandbox.writes_of_write` — a write changes the file at its path and nothing else.
-/

/-! ### Places -/

namespace Location

variable {l m : Location} {name : Bytes}

theorem holds_iff : l.holds m = true ↔ l.anchor = m.anchor ∧ l.names <+: m.names := by
  simp [holds]

/-- What holds a place right below another one is that place or holds the other. -/
theorem holds_child_iff : m.holds (l.child name) = true ↔ m = l.child name ∨ m.holds l = true := by
  obtain ⟨anchor, names⟩ := m
  rw [holds_iff, holds_iff, child, List.prefix_concat_iff]
  grind

/-- What holds the directory above a place is where a path starts or holds the place. -/
theorem names_eq_nil_or_holds_of_parent (h : m.holds l.parent = true) :
    m.names = [] ∨ m.holds l = true := by
  rw [holds_iff] at h
  by_cases hnames : l.names = []
  · left
    have hparent : l.parent.names = [] := by
      rw [parent, if_neg (not_not.2 hnames)]
      split <;> exact hnames
    exact List.prefix_nil.1 (hparent ▸ h.2)
  · right
    have hparent : l.parent = { l with names := l.names.dropLast } := if_pos hnames
    rw [hparent] at h
    exact holds_iff.2 ⟨h.1, h.2.trans (List.dropLast_prefix l.names)⟩

/-- Where a path starts. -/
def start (path : Bytes) : Location := if path.head? = some slash then ⟨.root, []⟩ else working

theorem names_start (path : Bytes) : (start path).names = [] := by
  rw [start]
  split <;> rfl

end Location

namespace Sandbox

variable {s s' : Sandbox} {l m d d' : Location} {name : Bytes} {names : List Bytes}
  {path : Spelling} {content : Bytes} {aim : Aim}

/-! ### Where paths lead -/

/-- Whether an aim is that of a file. -/
structure Aim.IsFile (aim : Aim) : Prop where
  name_ne_here : aim.name ≠ here
  name_ne_above : aim.name ≠ above
  length_le : aim.name.length ≤ nameLimit
  slash : aim.slash = false

/-- Whether `path` leads to a file at the place `l`, or to one that could be there. -/
def LeadsTo (s : Sandbox) (path : Spelling) (l : Location) : Prop :=
  ∃ aim, s.follow path = .ok aim ∧ aim.IsFile ∧ aim.directory.child aim.name = l

/-- A path is followed from directory to directory, name by name. -/
theorem follow_eq_ok_iff :
    s.follow path = .ok aim ↔ ∃ bytes, pathBytes? path = some bytes ∧ 0 ∉ bytes ∧ bytes ≠ [] ∧
      bytes.length ≤ pathLimit ∧ ∃ directory,
      (Location.namesOf bytes).dropLast.foldlM s.enter (Location.start bytes) = .ok directory ∧
      aim = ⟨directory, (Location.namesOf bytes).getLast?.getD here,
        bytes.getLast? = some Location.slash⟩ := by
  have hbytes : ∀ bytes : Bytes,
      (pathBytes? path).elim (Except.error FileFault.notEncodable) Except.ok = .ok bytes ↔
        pathBytes? path = some bytes := by
    intro bytes
    cases pathBytes? path <;> simp
  simp only [follow, bind_eq_ok_iff, check_eq_ok_iff, hbytes, Nat.not_lt, Location.start]
  simp only [pure, Except.pure, Except.ok.injEq, @eq_comm _ _ aim, ne_eq]

/-- What is read is the content of the file that the path leads to. -/
theorem read_eq_ok_iff :
    s.read path = .ok content ↔ ∃ l, s.LeadsTo path l ∧ s.entry? l = some (.file content) := by
  simp only [read, bind_eq_ok_iff, check_eq_ok_iff]
  constructor
  · rintro ⟨aim, haim, hname, hlength, h⟩
    rw [not_or] at hname
    split at h
    case h_1 | h_2 => cases h
    case h_3 found hentry =>
      split at h
      case isTrue => cases h
      case isFalse hslash =>
        cases h
        exact ⟨_, ⟨aim, haim, ⟨hname.1, hname.2, Nat.not_lt.1 hlength, by simpa using hslash⟩, rfl⟩,
          hentry⟩
  · rintro ⟨_, ⟨aim, haim, hfile, rfl⟩, hentry⟩
    refine ⟨aim, haim, not_or.2 ⟨hfile.name_ne_here, hfile.name_ne_above⟩,
      Nat.not_lt.2 hfile.length_le, ?_⟩
    simp only [hentry, hfile.slash]
    rfl

/-- What is written is put at the place that the path leads to, unless there is a directory. -/
theorem write_eq_ok_iff :
    s.write path content = .ok s' ↔
      ∃ l, s.LeadsTo path l ∧ s.entry? l ≠ some .directory ∧ s' = s.put l content := by
  simp only [write, bind_eq_ok_iff, check_eq_ok_iff]
  constructor
  · rintro ⟨aim, haim, hname, hlength, h⟩
    rw [not_or, not_or] at hname
    split at h
    case h_1 => cases h
    case h_2 hentry =>
      cases h
      exact ⟨_, ⟨aim, haim, ⟨hname.1, hname.2.1, Nat.not_lt.1 hlength, by simpa using hname.2.2⟩,
        rfl⟩, hentry, rfl⟩
  · rintro ⟨_, ⟨aim, haim, hfile, rfl⟩, hentry, rfl⟩
    refine ⟨aim, haim, ?_, Nat.not_lt.2 hfile.length_le, ?_⟩
    · simp [hfile.name_ne_here, hfile.name_ne_above, hfile.slash]
    · split
      case h_1 hdirectory => exact absurd hdirectory hentry
      case h_2 => rfl

/-- A name other than those of a directory in itself leads to a directory right below. -/
theorem enter_eq_ok_iff (hhere : name ≠ here) (habove : name ≠ above) :
    s.enter d name = .ok d' ↔ name.length ≤ nameLimit ∧ s.entry? (d.child name) = some .directory ∧
      d.child name = d' := by
  rw [enter, if_neg hhere, if_neg habove]
  split
  case isTrue hlong => exact ⟨nofun, fun h => absurd h.1 (Nat.not_le.2 hlong)⟩
  case isFalse hshort =>
    rw [and_iff_right (Nat.not_lt.1 hshort)]
    cases hentry : s.entry? (d.child name) with
    | none => simp
    | some entry => cases entry <;> simp

/-! ### What is found at a place -/

/-- Whether there has to be a directory at `m`: where paths start, and where something that is
there is at `m` or below it. -/
def Needs (s : Sandbox) (m : Location) : Prop :=
  m.names = [] ∨ (∃ d ∈ s.directories, m.holds d = true) ∨ ∃ file ∈ s.files, m.holds file.1 = true

theorem entry?_of_lookup_eq_some (h : s.files.lookup m = some content) :
    s.entry? m = some (.file content) := by
  rw [ entry?, h]

/-- Where there is no file, there is a directory if there has to be one. -/
theorem entry?_of_lookup_eq_none (h : s.files.lookup m = none) :
    (s.Needs m → s.entry? m = some .directory) ∧ (¬ s.Needs m → s.entry? m = none) := by
  have hneeds : s.Needs m ↔ (decide (m.names = []) || s.directories.any m.holds ||
      s.files.any fun file => m.holds file.1) = true := by
    simp only [Needs, Bool.or_eq_true, decide_eq_true_eq, List.any_eq_true, or_assoc]
  rw [ entry?, h, hneeds]
  exact ⟨fun hcond => if_pos hcond, fun hcond => if_neg hcond⟩

/-- There is something where paths start. -/
theorem entry?_ne_none_of_names (h : m.names = []) : s.entry? m ≠ none := by
  cases hfound : s.files.lookup m with
  | some found =>
    rw [entry?_of_lookup_eq_some hfound]
    exact Option.some_ne_none _
  | none =>
    rw [(entry?_of_lookup_eq_none hfound).1 (.inl h)]
    exact Option.some_ne_none _

/-! ### The way to a place -/

/-- Whether there is something at each place on the way to `l`, and at `l` itself. -/
def Reaches (s : Sandbox) (l : Location) : Prop :=
  ∀ m : Location, m.holds l = true → s.entry? m ≠ none

theorem reaches_of_names (h : l.names = []) : s.Reaches l := by
  intro m hm
  have hnames : m.names <+: [] := h ▸ (Location.holds_iff.1 hm).2
  exact entry?_ne_none_of_names (List.prefix_nil.1 hnames)

/-- **The step.** From a place with all of its way there, a path goes on to such a place. -/
theorem Reaches.enter (h : s.Reaches d) (henter : s.enter d name = .ok d') : s.Reaches d' := by
  by_cases hhere : name = here
  · rw [Sandbox.enter, if_pos hhere] at henter
    cases henter
    exact h
  by_cases habove : name = above
  · rw [Sandbox.enter, if_neg hhere, if_pos habove] at henter
    cases henter
    intro m hm
    rcases Location.names_eq_nil_or_holds_of_parent hm with hnames | hm
    · exact entry?_ne_none_of_names hnames
    · exact h m hm
  · obtain ⟨-, hentry, rfl⟩ := (enter_eq_ok_iff hhere habove).1 henter
    intro m hm
    rcases Location.holds_child_iff.1 hm with rfl | hm
    · rw [hentry]
      exact Option.some_ne_none _
    · exact h m hm

/-- **The run.** -/
theorem Reaches.foldlM (h : s.Reaches d) (hfold : names.foldlM s.enter d = .ok d') :
    s.Reaches d' := by
  induction names generalizing d with
  | nil =>
    cases hfold
    exact h
  | cons name rest ih =>
    rw [List.foldlM_cons, bind_eq_ok_iff] at hfold
    obtain ⟨next, hnext, hfold⟩ := hfold
    exact ih (h.enter hnext) hfold

/-- A path is followed to a place only if everything on the way is there. -/
theorem LeadsTo.entry?_ne_none (h : s.LeadsTo path l) (hm : m.holds l = true) (hne : m ≠ l) :
    s.entry? m ≠ none := by
  obtain ⟨aim, haim, -, rfl⟩ := h
  obtain ⟨bytes, -, -, -, -, directory, hfold, rfl⟩ := follow_eq_ok_iff.1 haim
  have hreaches : s.Reaches directory :=
    (reaches_of_names (Location.names_start bytes)).foldlM hfold
  exact hreaches m ((Location.holds_child_iff.1 hm).resolve_left hne)

/-! ### What is found after a write -/

theorem lookup_put_of_ne (hne : m ≠ l) :
    (s.put l content).files.lookup m = s.files.lookup m := by
  rw [put, List.lookup_cons, beq_false_of_ne hne]
  exact lookup_filter_ne hne s.files

/-- A file needs the directories that hold its place. -/
theorem needs_put_iff : (s.put l content).Needs m ↔ s.Needs m ∨ m.holds l = true := by
  rw [Needs, Needs, put]
  constructor
  · rintro (hnames | hdirectory | ⟨file, hfile, hholds⟩)
    · exact .inl (.inl hnames)
    · exact .inl (.inr (.inl hdirectory))
    · rcases List.mem_cons.1 hfile with rfl | hfile
      · exact .inr hholds
      · exact .inl (.inr (.inr ⟨file, (List.mem_filter.1 hfile).1, hholds⟩))
  · have hnew : m.holds l = true → ∃ file ∈ (l, content) :: s.files.filter (·.1 ≠ l),
        m.holds file.1 = true := fun hholds => ⟨_, List.mem_cons_self, hholds⟩
    rintro ((hnames | hdirectory | ⟨file, hfile, hholds⟩) | hholds)
    · exact .inl hnames
    · exact .inr (.inl hdirectory)
    · by_cases hplace : file.1 = l
      · exact .inr (.inr (hnew (hplace ▸ hholds)))
      · have hkept : file ∈ s.files.filter (·.1 ≠ l) := List.mem_filter.2 ⟨hfile, by simpa⟩
        exact .inr (.inr ⟨file, List.mem_cons_of_mem _ hkept, hholds⟩)
    · exact .inr (.inr (hnew hholds))

/-- There is the file at its place, and everywhere else what was there before, if the way to the
place was there. -/
theorem entry?_put (hway : ∀ m : Location, m.holds l = true → m ≠ l → s.entry? m ≠ none)
    (m : Location) :
    entry? (s.put l content) m = if m = l then some (.file content) else s.entry? m := by
  by_cases hm : m = l
  · rw [if_pos hm, hm]
    exact entry?_of_lookup_eq_some (by simp [put])
  rw [if_neg hm]
  have hlookup : (s.put l content).files.lookup m = s.files.lookup m := lookup_put_of_ne hm
  cases hfound : s.files.lookup m with
  | some found =>
    rw [entry?_of_lookup_eq_some hfound, entry?_of_lookup_eq_some (hlookup.trans hfound)]
  | none =>
    -- A directory that the new file needs is on the way, so it was there before.
    have hbefore : m.holds l = true → s.Needs m := by
      intro hholds
      by_contra hnone
      exact hway m hholds hm ((entry?_of_lookup_eq_none hfound).2 hnone)
    have hneeds : (s.put l content).Needs m ↔ s.Needs m :=
      needs_put_iff.trans (or_iff_left_of_imp hbefore)
    by_cases h : s.Needs m
    · rw [(entry?_of_lookup_eq_none hfound).1 h,
        (entry?_of_lookup_eq_none (hlookup.trans hfound)).1 (hneeds.2 h)]
    · rw [(entry?_of_lookup_eq_none hfound).2 h,
        (entry?_of_lookup_eq_none (hlookup.trans hfound)).2 (mt hneeds.1 h)]

section Put

variable (hway : ∀ m : Location, m.holds l = true → m ≠ l → s.entry? m ≠ none)
  (hl : s.entry? l ≠ some .directory)

include hway hl

/-- The directories are those that were there before. -/
theorem enter_put_eq_ok_iff :
    (s.put l content).enter d name = .ok d' ↔ s.enter d name = .ok d' := by
  by_cases hhere : name = here
  · rw [enter, enter, if_pos hhere, if_pos hhere]
  by_cases habove : name = above
  · rw [enter, enter, if_neg hhere, if_neg hhere, if_pos habove, if_pos habove]
  · rw [enter_eq_ok_iff hhere habove, enter_eq_ok_iff hhere habove, entry?_put hway]
    by_cases hchild : d.child name = l
    · simp [hchild, hl]
    · rw [if_neg hchild]

theorem foldlM_enter_put_eq_ok_iff :
    names.foldlM (s.put l content).enter d = .ok d' ↔ names.foldlM s.enter d = .ok d' := by
  induction names generalizing d with
  | nil => rfl
  | cons name rest ih =>
    simp only [List.foldlM_cons, bind_eq_ok_iff, enter_put_eq_ok_iff hway hl, ih]

/-- Paths lead where they led before. -/
theorem leadsTo_put_iff : (s.put l content).LeadsTo path m ↔ s.LeadsTo path m := by
  simp only [LeadsTo, follow_eq_ok_iff, foldlM_enter_put_eq_ok_iff hway hl]

end Put

/-! ### Writing -/

/-- Whether `s'` is `s` with `content` in the file at `path`, and the same in all else. -/
structure Writes (s : Sandbox) (path : Spelling) (content : Bytes) (s' : Sandbox) : Prop where
  /-- The file at the path holds the content. -/
  read_eq : s'.read path = .ok content
  /-- What is found at any place but that of the file is what was there before. -/
  entry?_eq : ∃ l, s.LeadsTo path l ∧ s'.entry? l = some (.file content) ∧
    ∀ m, m ≠ l → s'.entry? m = s.entry? m
  /-- What can be read by a path that leads to another place is what could be read before. -/
  read_iff : ∀ other found, (∀ l, s.LeadsTo path l → ¬ s.LeadsTo other l) →
    (s'.read other = .ok found ↔ s.read other = .ok found)
  environment_eq : s'.environment = s.environment

/-- **A write changes the file at its path and nothing else.** -/
theorem writes_of_write (h : s.write path content = .ok s') : s.Writes path content s' := by
  obtain ⟨l, hpath, hl, rfl⟩ := write_eq_ok_iff.1 h
  have hway : ∀ m : Location, m.holds l = true → m ≠ l → s.entry? m ≠ none :=
    fun m => hpath.entry?_ne_none
  have hplace : entry? (s.put l content) l = some (.file content) := by
    rw [entry?_put hway, if_pos rfl]
  have hother : ∀ m, m ≠ l → entry? (s.put l content) m = s.entry? m := fun m hm => by
    rw [entry?_put hway, if_neg hm]
  refine ⟨?_, ⟨l, hpath, hplace, hother⟩, ?_, rfl⟩
  · exact read_eq_ok_iff.2 ⟨l, (leadsTo_put_iff hway hl).2 hpath, hplace⟩
  · intro other found hne
    simp only [read_eq_ok_iff, leadsTo_put_iff hway hl]
    -- The other path leads to a place where nothing changed.
    refine exists_congr fun m => and_congr_right fun hm => ?_
    rw [hother m fun heq => hne l hpath (heq ▸ hm)]

end Sandbox

end CrateDocs
