import CrateDocs.Command.Invocation
import CrateDocs.Data.Sequence

namespace CrateDocs

/-!
# Arguments of both commands

The command that writes has one option more than the one that only looks. Arguments that the latter
understands mean the same to both.

* `Arguments.read_append` — what is read with some options is read alike when there are more;
* `Arguments.mem_names_of_read` — only options that there are are read;
* `Invocation.ofTask_convert` — arguments to check a document are arguments to convert it, without
  a path for the result.
-/

namespace Arguments

variable {α : Type} {specs more : List (OptionSpec α)} {mixed : Bool}
  {argument letters : Text} {arguments : List Text} {cluster : Cluster α} {given : Given α}

/-! ### More options -/

/-- An option that is found is found among more options. -/
theorem find?_append_of_eq_some {test : OptionSpec α → Bool} {spec : OptionSpec α}
    (h : specs.find? test = some spec) : (specs ++ more).find? test = some spec := by
  rw [List.find?_append, h]
  rfl

theorem readLong_append (h : readLong specs argument = .ok cluster) :
    readLong (specs ++ more) argument = .ok cluster := by
  rw [readLong] at h ⊢
  cases hfind : specs.find? (·.long.toList = argument.takeWhile (· ≠ '=')) with
  | none =>
    simp only [hfind] at h
    cases h
  | some spec =>
    simp only [hfind] at h
    simp only [find?_append_of_eq_some hfind]
    exact h

theorem readLetters_append (h : readLetters specs letters = .ok cluster) :
    readLetters (specs ++ more) letters = .ok cluster := by
  induction letters generalizing cluster with
  | nil => exact h
  | cons letter rest ih =>
    rw [readLetters] at h ⊢
    cases hfind : specs.find? (·.letter = some letter) with
    | none =>
      simp only [hfind] at h
      cases h
    | some spec =>
      simp only [hfind] at h
      simp only [find?_append_of_eq_some hfind]
      by_cases hvalue : spec.takesValue = true
      · rw [if_pos hvalue] at h ⊢
        exact h
      · rw [if_neg hvalue] at h ⊢
        obtain ⟨others, hothers, h⟩ := bind_eq_ok_iff.1 h
        rw [ih hothers]
        exact h

theorem readOption_append (h : readOption specs argument = .ok cluster) :
    readOption (specs ++ more) argument = .ok cluster := by
  unfold readOption at h ⊢
  split at h
  case isTrue hlong =>
    rw [if_pos hlong]
    exact readLong_append h
  case isFalse hshort =>
    rw [if_neg hshort]
    exact readLetters_append h

/-- What is read with some options is read alike when there are more. -/
theorem read_append (h : read specs mixed arguments = .ok given) :
    read (specs ++ more) mixed arguments = .ok given := by
  -- The cases follow the first argument: two dashes, an option that is wrong, one that is complete,
  -- one that waits for a value that is missing or follows, and an argument that is no option.
  fun_induction read specs mixed arguments generalizing given with
  | case1 => exact h
  | case2 rest =>
    rw [read, if_pos rfl]
    exact h
  | case3 | case5 => cases h
  | case4 argument hdashes hoption cluster hcluster rest hwaiting ih =>
    obtain ⟨others, hothers, h⟩ := bind_eq_ok_iff.1 h
    rw [read, if_neg hdashes, if_pos hoption, readOption_append hcluster]
    simp only [hwaiting, ih hothers]
    exact h
  | case6 argument hdashes hoption cluster hcluster option name value rest hwaiting ih =>
    obtain ⟨others, hothers, h⟩ := bind_eq_ok_iff.1 h
    rw [read, if_neg hdashes, if_pos hoption, readOption_append hcluster]
    simp only [hwaiting, ih hothers]
    exact h
  | case7 argument rest hdashes hoption hmixed ih =>
    obtain ⟨others, hothers, h⟩ := bind_eq_ok_iff.1 h
    rw [read, if_neg hdashes, if_neg hoption, if_pos hmixed, ih hothers]
    exact h
  | case8 argument rest hdashes hoption hmixed =>
    rw [read, if_neg hdashes, if_neg hoption, if_neg hmixed]
    exact h

/-! ### Options that are read -/

/-- The names of options. -/
def names (specs : List (OptionSpec α)) : List α := specs.map (·.name)

theorem name_mem_names_of_find? {test : OptionSpec α → Bool} {spec : OptionSpec α}
    (h : specs.find? test = some spec) : spec.name ∈ names specs :=
  List.mem_map_of_mem (List.mem_of_find?_eq_some h)

/-- Whether a cluster holds only options of the given names. -/
structure Cluster.Within (c : Cluster α) (names : List α) : Prop where
  options : ∀ option ∈ c.options, option.1 ∈ names
  waiting : ∀ option ∈ c.waiting, option.1 ∈ names

theorem within_readLong (h : readLong specs argument = .ok cluster) :
    cluster.Within (names specs) := by
  rw [readLong] at h
  cases hfind : specs.find? (·.long.toList = argument.takeWhile (· ≠ '=')) with
  | none =>
    simp only [hfind] at h
    cases h
  | some spec =>
    have hname : spec.name ∈ names specs := name_mem_names_of_find? hfind
    simp only [hfind] at h
    split at h <;> cases h <;> constructor <;> simp [hname]

theorem within_readLetters (h : readLetters specs letters = .ok cluster) :
    cluster.Within (names specs) := by
  induction letters generalizing cluster with
  | nil =>
    cases h
    constructor <;> simp
  | cons letter rest ih =>
    rw [readLetters] at h
    cases hfind : specs.find? (·.letter = some letter) with
    | none =>
      simp only [hfind] at h
      cases h
    | some spec =>
      have hname : spec.name ∈ names specs := name_mem_names_of_find? hfind
      simp only [hfind] at h
      by_cases hvalue : spec.takesValue = true
      · rw [if_pos hvalue] at h
        split at h <;> cases h <;> constructor <;> simp [hname]
      · rw [if_neg hvalue] at h
        obtain ⟨others, hothers, h⟩ := bind_eq_ok_iff.1 h
        cases h
        exact ⟨List.forall_mem_cons.2 ⟨hname, (ih hothers).options⟩, (ih hothers).waiting⟩

theorem within_readOption (h : readOption specs argument = .ok cluster) :
    cluster.Within (names specs) := by
  unfold readOption at h
  split at h
  case isTrue hlong => exact within_readLong h
  case isFalse hshort => exact within_readLetters h

/-- Only options that there are are read. -/
theorem mem_names_of_read (h : read specs mixed arguments = .ok given) :
    ∀ option ∈ given.options, option.1 ∈ names specs := by
  -- The same cases as in `read_append`; those without an option leave nothing to show.
  fun_induction read specs mixed arguments generalizing given with
  | case1 | case2 | case8 =>
    cases h
    exact List.forall_mem_nil _
  | case3 | case5 => cases h
  | case4 argument hdashes hoption cluster hcluster rest hwaiting ih =>
    obtain ⟨others, hothers, h⟩ := bind_eq_ok_iff.1 h
    cases h
    exact List.forall_mem_append.2 ⟨(within_readOption hcluster).options, ih hothers⟩
  | case6 argument hdashes hoption cluster hcluster option name value rest hwaiting ih =>
    obtain ⟨others, hothers, h⟩ := bind_eq_ok_iff.1 h
    cases h
    have hname : option ∈ names specs := (within_readOption hcluster).waiting _ hwaiting
    exact List.forall_mem_append.2 ⟨(within_readOption hcluster).options,
      List.forall_mem_cons.2 ⟨hname, ih hothers⟩⟩
  | case7 argument rest hdashes hoption hmixed ih =>
    obtain ⟨others, hothers, h⟩ := bind_eq_ok_iff.1 h
    cases h
    have hmem : ∀ option ∈ others.options, option.1 ∈ names specs := ih hothers
    exact hmem

/-- An option that there is not has no value. -/
theorem value?_eq_none_of_read [DecidableEq α] {name : α} (hname : name ∉ names specs)
    (h : read specs mixed arguments = .ok given) : given.value? name = none := by
  rw [Given.value?, Option.map_eq_none_iff, List.find?_eq_none]
  intro option hoption heq
  have hmem : option.1 ∈ names specs := mem_names_of_read h option (List.mem_reverse.1 hoption)
  rw [of_decide_eq_true heq] at hmem
  exact hname hmem

end Arguments

namespace Invocation

variable {arguments : List Text} {t : Task}

/-- The name of a command is followed by the arguments of the command. -/
theorem ofArguments_word (v : Verb) (arguments : List Text) :
    ofArguments (v.word.toList :: arguments) = ofTask v arguments := by
  cases v <;> rfl

/-- A command is run on at most one document, with the options read, unless its help is asked
for. -/
theorem ofTask_eq_run_iff {v : Verb} :
    ofTask v arguments = .run t ↔
      ∃ given, Arguments.read (taskSpecs v) true arguments = .ok given ∧
        given.has .help = false ∧ given.others.length ≤ 1 ∧ task v given = t := by
  rw [ofTask]
  cases hread : Arguments.read (taskSpecs v) true arguments with
  | error fault => simp [taskFault]
  | ok given =>
    cases hhelp : given.has .help with
    | true => simp [hhelp]
    | false =>
      rcases hothers : given.others with _ | ⟨input, _ | ⟨extra, more⟩⟩ <;>
        simp [hhelp, hothers, taskFault]

/-- **Arguments to check a document are arguments to convert it.** They name no path for the
result. -/
theorem ofTask_convert (h : ofTask .check arguments = .run t) :
    t.verb = .check ∧ t.output = none ∧
      ofTask .convert arguments = .run { t with verb := .convert } := by
  obtain ⟨given, hread, hhelp, hothers, rfl⟩ := ofTask_eq_run_iff.1 h
  -- A check has no such option, so none was read.
  have houtput : given.value? .output = none :=
    Arguments.value?_eq_none_of_read (by decide) hread
  have hconvert : Arguments.read (taskSpecs .convert) true arguments = .ok given :=
    Arguments.read_append hread
  exact ⟨rfl, houtput, ofTask_eq_run_iff.2 ⟨given, hconvert, hhelp, hothers, rfl⟩⟩

end Invocation

end CrateDocs
