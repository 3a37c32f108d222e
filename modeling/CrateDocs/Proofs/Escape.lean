import CrateDocs.Proofs.Ending
import CrateDocs.Proofs.Refusal

namespace CrateDocs

/-!
# Failures that are not reported

A run tells about most failures in a line of its own. Some are left to whoever started the run.

* `Outcome.TellsError` says that a line of the error channel starts with the word for an error;
* `NoPath` says why the disk cannot know a path, and `Sandbox.exists_read_iff_noPath` and
  `Sandbox.exists_write_iff_noPath` that no other fault of a file is left unreported;
* `Command.Succeeds` is how a command succeeds, `Command.Escapes` how a task fails without a report,
  and `Command.GivesUp` how it fails in general;
* `Command.run_exit` — the exit code says how a run ended, and a failure is reported unless it is
  one of these.
-/

/-! ### Lines about errors -/

/-- A sequence that is left out starts with an escape, so what stands before all escapes stays. -/
theorem Style.strip_append {t : Text} {s : Spelling} (h : escape ∉ t) :
    strip (Text.spelling t ++ s) = Text.spelling t ++ strip s := by
  obtain ⟨first, others, hsplit⟩ :=
    List.exists_cons_of_ne_nil (List.splitOn_ne_nil (.char escape) s)
  have hpieces : (Text.spelling t ++ s).splitOn (.char escape) =
      (Text.spelling t ++ first) :: others := by
    induction t with
    | nil => exact hsplit
    | cons c t ih =>
      obtain ⟨hc, ht⟩ := not_or.1 (mt List.mem_cons.2 h)
      have hne : (CodePoint.char c == .char escape) = false := by simpa using Ne.symm hc
      show (CodePoint.char c :: (Text.spelling t ++ s)).splitOn (.char escape) = _
      rw [List.splitOn_cons_eq_if_modifyHead, hne, ih ht]
      rfl
  rw [strip, strip, hpieces, hsplit]
  exact List.append_assoc _ _ _

theorem Spelling.exposed_append_spelling (t : Text) (s : Spelling) :
    exposed (Text.spelling t ++ s) = t ++ exposed s := by
  simp [exposed, Text.spelling, List.flatMap_map, CodePoint.exposed]

/-- A log is made of lines. -/
theorem LogLevel.log_eq_nil_or (least : Nat) (events : List Event) :
    (log least events).toList = [] ∨ (log least events).toList.getLast? = some '\n' := by
  have hline : ∀ e, ∃ t, (line e).toList = t ++ ['\n'] := fun e => ⟨_, String.toList_append⟩
  rw [log, String.toList_join]
  rcases List.eq_nil_or_concat ((events.filter fun e => least ≤ e.level.rank).map line) with
    h | ⟨before, last, h⟩
  · left
    rw [h]
    rfl
  · right
    -- The last line of the log is that of an event.
    have hlast : last ∈ (events.filter fun e => least ≤ e.level.rank).map line := by
      rw [h]
      simp
    obtain ⟨e, -, rfl⟩ := List.mem_map.1 hlast
    obtain ⟨t, ht⟩ := hline e
    rw [h, List.concat_eq_append, List.flatMap_append, List.flatMap_singleton, ht,
      ← List.append_assoc, List.getLast?_concat]

namespace Outcome

/-- Whether a line that is printed to the error channel starts with the word for an error. -/
def TellsError (o : Outcome) : Prop :=
  ∃ before rest, o.stderr = before ++ "Error".toList ++ rest ∧
    (before = [] ∨ before.getLast? = some '\n')

theorem tellsError_failing {message : Spelling} {exit : Nat}
    (h : Text.spelling "Error".toList <+: message) : (failing message exit).TellsError := by
  obtain ⟨rest, rfl⟩ := h
  have hescape : Style.escape ∉ "Error".toList := by decide
  refine ⟨[], (Style.strip rest).exposed, ?_, .inl rfl⟩
  rw [failing, Style.strip_append hescape, Spelling.exposed_append_spelling]
  rfl

/-- A log before the line leaves it a line. -/
theorem TellsError.logging {o : Outcome} (h : o.TellsError) (least : Nat) (events : List Event) :
    (o.logging (LogLevel.log least events)).TellsError := by
  obtain ⟨before, rest, hstderr, hbefore⟩ := h
  refine ⟨(LogLevel.log least events).toList ++ before, rest, ?_, ?_⟩
  · rw [Outcome.logging, hstderr]
    simp only [List.append_assoc]
  · rcases hbefore with rfl | hbefore
    · rw [List.append_nil]
      exact LogLevel.log_eq_nil_or least events
    · right
      rw [List.getLast?_append, hbefore]
      rfl

end Outcome

/-! ### Paths that are none -/

/-- Why the disk cannot know a path. -/
inductive NoPath (path : Spelling) : Escape → Prop
  | notEncodable (h : pathBytes? path = none) : NoPath path .notEncodable
  | nulInPath {bytes : Bytes} (h : pathBytes? path = some bytes) (hnul : 0 ∈ bytes) :
      NoPath path .nulInPath

/-- The failure that a fault of a file ends in if it is not reported. -/
def FileFault.escape? : FileFault → Option Escape
  | nulInPath => some .nulInPath
  | notEncodable => some .notEncodable
  | notFound | notDirectory | isDirectory | nameTooLong | other .. => none

namespace Sandbox

variable {α β : Type} {s : Sandbox} {path : Spelling} {content : Bytes} {e : Escape}

/-- Whether all faults of an attempt are reported. -/
def Reports (x : Except FileFault α) : Prop := ∀ fault, x = .error fault → fault.escape? = none

theorem reports_ok (a : α) : Reports (.ok a) := nofun

theorem reports_error {fault : FileFault} (h : fault.escape? = none) :
    Reports (.error fault : Except FileFault α) := by
  rintro _ ⟨⟩
  exact h

theorem Reports.bind {x : Except FileFault α} {f : α → Except FileFault β} (hx : Reports x)
    (hf : ∀ a, Reports (f a)) : Reports (x >>= f) := by
  cases x with
  | error fault => exact reports_error (hx fault rfl)
  | ok a => exact hf a

theorem Reports.check {p : Prop} [Decidable p] {fault : FileFault} {x : Except FileFault α}
    (hfault : fault.escape? = none) (hx : Reports x) :
    Reports (if p then (throw fault >>= fun _ : PUnit => x) else x) := by
  split
  case isTrue => exact reports_error hfault
  case isFalse => exact hx

theorem reports_enter (d : Location) (name : Bytes) : Reports (s.enter d name) := by
  unfold enter
  split
  case isTrue => exact reports_ok _
  split
  case isTrue => exact reports_ok _
  split
  case isTrue => exact reports_error rfl
  split
  case h_1 | h_2 => exact reports_error rfl
  case h_3 => exact reports_ok _

theorem reports_foldlM_enter (names : List Bytes) (d : Location) :
    Reports (names.foldlM s.enter d) := by
  induction names generalizing d with
  | nil => exact reports_ok _
  | cons name rest ih =>
    rw [List.foldlM_cons]
    exact (reports_enter d name).bind ih

/-- A path that the disk can know is followed, or it is reported why not. -/
theorem reports_follow (h : ∀ e, ¬ NoPath path e) : Reports (s.follow path) := by
  unfold follow
  cases hbytes : pathBytes? path with
  | none => exact absurd (.notEncodable hbytes) (h _)
  | some bytes =>
    -- The next check is the one whose fault is not reported, and it is passed.
    have hnul : 0 ∉ bytes := fun hnul => h _ (.nulInPath hbytes hnul)
    show Reports (if 0 ∈ bytes then _ else _)
    rw [if_neg hnul]
    exact .check rfl (.check rfl ((reports_foldlM_enter _ _).bind fun _ => reports_ok _))

/-- What is no path is not followed. -/
theorem follow_of_noPath (h : NoPath path e) :
    ∃ fault, s.follow path = .error fault ∧ fault.escape? = some e := by
  cases h with
  | notEncodable h =>
    rw [follow, h]
    exact ⟨_, rfl, rfl⟩
  | nulInPath h hnul =>
    have hfollow : s.follow path = .error .nulInPath := by
      rw [follow, h]
      show (if 0 ∈ _ then _ else _) = _
      rw [if_pos hnul]
      rfl
    exact ⟨_, hfollow, rfl⟩

/-- An attempt at a path that reports all faults of its own leaves none but those of the path. -/
theorem exists_follow_bind_iff_noPath {f : Aim → Except FileFault β} (hf : ∀ aim, Reports (f aim)) :
    (∃ fault, (s.follow path >>= f) = .error fault ∧ fault.escape? = some e) ↔ NoPath path e := by
  constructor
  · rintro ⟨fault, hfault, he⟩
    -- The path is followed first, so a fault of the path comes before all others.
    by_cases hpath : ∃ e', NoPath path e'
    · obtain ⟨e', hpath⟩ := hpath
      obtain ⟨fault', hfollow, he'⟩ := follow_of_noPath (s := s) hpath
      rw [hfollow] at hfault
      cases hfault
      obtain rfl := Option.some.inj (he.symm.trans he')
      exact hpath
    · have hnone := ((reports_follow (not_exists.1 hpath)).bind hf) fault hfault
      rw [hnone] at he
      cases he
  · intro h
    obtain ⟨fault, hfollow, he⟩ := follow_of_noPath (s := s) h
    refine ⟨fault, ?_, he⟩
    rw [hfollow]
    rfl

/-- Reading leaves the faults of the path unreported, and no others. -/
theorem exists_read_iff_noPath :
    (∃ fault, s.read path = .error fault ∧ fault.escape? = some e) ↔ NoPath path e := by
  refine exists_follow_bind_iff_noPath fun aim => ?_
  refine .check rfl (.check rfl ?_)
  split
  case h_1 | h_2 => exact reports_error rfl
  case h_3 =>
    split
    case isTrue => exact reports_error rfl
    case isFalse => exact reports_ok _

/-- Writing leaves the faults of the path unreported, and no others. -/
theorem exists_write_iff_noPath :
    (∃ fault, s.write path content = .error fault ∧ fault.escape? = some e) ↔ NoPath path e := by
  refine exists_follow_bind_iff_noPath fun aim => ?_
  refine .check rfl (.check rfl ?_)
  dsimp only
  split
  case h_1 => exact reports_error rfl
  case h_2 => exact reports_ok _

end Sandbox

namespace Command

variable {s s' : Sandbox} {t : Task} {o : Outcome} {v : Verb} {arguments : List Text} {e : Escape}

/-! ### Reports -/

theorem escape_fileError (doing : String) (path : Spelling) (fault : FileFault) :
    (fileError doing path fault).escape = fault.escape? := by
  cases fault <;> rfl

theorem prefix_remark {intro : String} (h : "Error".toList <+: intro.toList) (path : Spelling)
    (rest : String) : Text.spelling "Error".toList <+: remark intro path rest := by
  have hintro : Text.spelling "Error".toList <+: Text.spelling intro.toList := h.map _
  rw [remark, List.append_assoc]
  exact hintro.trans (List.prefix_append _ _)

theorem tellsError_fileError {doing : String} {path : Spelling} {fault : FileFault}
    (h : (fileError doing path fault).escape = none) : (fileError doing path fault).TellsError := by
  have hintro : "Error".toList <+: s!"Error {doing} ".toList := by
    simp only [String.toList_append, List.append_assoc]
    exact List.prefix_append_of_prefix (by decide)
  cases fault with
  | nulInPath | notEncodable => cases h
  | _ => exact Outcome.tellsError_failing (prefix_remark hintro _ _)

theorem prefix_loadError (failure : LoadFailure) :
    "Error".toList <+: (loadError failure).toList := by
  have hintro : "Error".toList <+: "Error loading config: ".toList := by decide
  unfold loadError
  dsimp only
  split <;>
    simp only [String.toList_append, List.append_assoc] <;>
    exact hintro.trans (List.prefix_append _ _)

/-! ### Success -/

/-- How a command succeeds: it shows its help, it tells that the document can be converted, or it
prints or writes the result. -/
inductive Succeeds (s : Sandbox) (v : Verb) (arguments : List Text) : Prop
  | shown {text : String} (htask : Invocation.ofTask v arguments = .show text)
  | checked {t : Task} {d : Draft} (htask : Invocation.ofTask v arguments = .run t)
      (hdrafts : Drafts s t d) (hverb : v = .check) (hinput : d.settings.input.text? ≠ none)
  | printed {t : Task} {d : Draft} (htask : Invocation.ofTask v arguments = .run t)
      (hdrafts : Drafts s t d) (hverb : v = .convert) (houtput : d.settings.output = none)
  | written {t : Task} {d : Draft} {path : Spelling} {s' : Sandbox}
      (htask : Invocation.ofTask v arguments = .run t) (hdrafts : Drafts s t d)
      (hverb : v = .convert) (houtput : d.settings.output = some path)
      (hwrite : s.write path (Utf8.encode d.result) = .ok s')

/-- How a task fails without a report. -/
inductive Escapes (s : Sandbox) (t : Task) : Escape → Prop
  /-- the level of the log is the name of something else -/
  | level {settings : Settings} {what : LogLevel.Misnomer}
      (hload : ((Settings.load Sandbox.host t.config t.overrides).run s).1 = .ok settings)
      (hleast : Command.least t settings = .error what) : Escapes s t (.misnamedLevel what)
  /-- the path of the document is none -/
  | input {settings : Settings} {least : Nat} {e : Escape}
      (hload : ((Settings.load Sandbox.host t.config t.overrides).run s).1 = .ok settings)
      (hleast : Command.least t settings = .ok least) (hpath : NoPath settings.input e) :
      Escapes s t e
  /-- the document is not UTF-8 -/
  | undecodable {settings : Settings} {least : Nat} {bytes : Bytes} {fault : Utf8.Fault}
      (hload : ((Settings.load Sandbox.host t.config t.overrides).run s).1 = .ok settings)
      (hleast : Command.least t settings = .ok least)
      (hread : s.read settings.input = .ok bytes) (hdecode : Utf8.decode bytes = .error fault) :
      Escapes s t (.undecodable fault)
  /-- the path of the document is no text that can be printed -/
  | verdict {d : Draft} (hdrafts : Drafts s t d) (hverb : t.verb = .check)
      (hinput : d.settings.input.text? = none) : Escapes s t .notEncodable
  /-- the path of the result is none -/
  | output {d : Draft} {path : Spelling} {e : Escape} (hdrafts : Drafts s t d)
      (hverb : t.verb = .convert) (houtput : d.settings.output = some path)
      (hpath : NoPath path e) : Escapes s t e

/-- Whether a task fails with the outcome `o`: it tells about an error, or it escapes. -/
structure GivesUp (s : Sandbox) (t : Task) (o : Outcome) : Prop where
  exit : o.exit = 1
  escapes : ∀ e, o.escape = some e → Escapes s t e
  tells : o.escape = none → o.TellsError

theorem givesUp_escaping (h : Escapes s t e) : GivesUp s t (.escaping e) where
  exit := rfl
  escapes := by
    rintro _ ⟨⟩
    exact h
  tells := nofun

/-- A fault of a file is told, or the path of the file is none. -/
theorem givesUp_fileError {doing : String} {path : Spelling} {fault : FileFault}
    (h : ∀ e, fault.escape? = some e → Escapes s t e) :
    GivesUp s t (fileError doing path fault) where
  exit := (fails_fileError doing path fault).exit
  escapes e he := h e ((escape_fileError doing path fault).symm.trans he)
  tells := tellsError_fileError

/-- A failure of the conversion is told, because the kinds that links name are known. -/
theorem givesUp_conversionError {settings : Settings} {content : Text} {failure : Failure}
    (input : Spelling) (h : (settings.policy.convert content).result = .error failure) :
    GivesUp s t (conversionError input failure) := by
  rw [Policy.result_convert] at h
  obtain ⟨i, l, o, -, -, rfl, -⟩ := (Policy.joinParts_parts_eq_error_iff rfl).1 h
  exact ⟨rfl, nofun, fun _ => Outcome.tellsError_failing (prefix_remark (by decide) _ _)⟩

theorem GivesUp.logging (h : GivesUp s t o) (least : Nat) (events : List Event) :
    GivesUp s t (o.logging (LogLevel.log least events)) :=
  ⟨h.exit, h.escapes, fun hescape => (h.tells hescape).logging least events⟩

/-- What stops a task is told, or escapes. -/
theorem Stops.givesUp (h : Stops s t o) : GivesUp s t o := by
  cases h with
  | settings hload =>
    exact ⟨rfl, nofun, fun _ => Outcome.tellsError_failing ((prefix_loadError _).map _)⟩
  | level hload hleast => exact givesUp_escaping (.level hload hleast)
  | unreadable hload hleast hread =>
    refine givesUp_fileError fun e he => .input hload hleast ?_
    exact Sandbox.exists_read_iff_noPath.1 ⟨_, hread, he⟩
  | undecodable hload hleast hread hdecode =>
    exact givesUp_escaping (.undecodable hload hleast hread hdecode)
  | refused hload hleast hread hdecode hconvert =>
    exact (givesUp_conversionError _ hconvert).logging _ _

/-- A command succeeds, or its arguments are wrong, or its task fails. -/
theorem Ends.succeeds_or (h : Ends s v arguments o s') :
    (o.exit = 0 ∧ o.escape = none ∧ Succeeds s v arguments) ∨
      (o.exit = 2 ∧ o.escape = none ∧
        ∃ fault usage helper, Invocation.ofTask v arguments = .wrong fault usage helper) ∨
      ∃ t, Invocation.ofTask v arguments = .run t ∧ GivesUp s t o := by
  cases h with
  | shown htask => exact .inl ⟨rfl, rfl, .shown htask⟩
  | wrong htask => exact .inr (.inl ⟨rfl, rfl, _, _, _, htask⟩)
  | stopped htask hstops => exact .inr (.inr ⟨_, htask, hstops.givesUp⟩)
  | @checked t d htask hdrafts hverb =>
    cases hinput : d.settings.input.text? with
    | some path =>
      have hprinted := run_finish_check_of_text (s := s) (Spelling.eq_spelling_of_text? hinput)
      obtain ⟨ho, -⟩ := Prod.mk.inj hprinted
      rw [ho]
      exact .inl ⟨rfl, rfl, .checked htask hdrafts hverb (by simp [hinput])⟩
    | none =>
      -- All is well with the document, but its path cannot be printed.
      obtain ⟨ho, -⟩ := Prod.mk.inj (run_finish_check_of_no_text (s := s) hinput)
      have hescapes : Escapes s t .notEncodable :=
        .verdict hdrafts ((verb_of_ofTask htask).trans hverb) hinput
      rw [ho]
      exact .inr (.inr ⟨t, htask, rfl, fun _ he => Option.some.inj he ▸ hescapes, nofun⟩)
  | printed htask hdrafts hverb houtput =>
    exact .inl ⟨rfl, rfl, .printed htask hdrafts hverb houtput⟩
  | unwritable htask hdrafts hverb houtput hwrite =>
    refine .inr (.inr ⟨_, htask, (givesUp_fileError fun e he => ?_).logging _ _⟩)
    have hpath := Sandbox.exists_write_iff_noPath.1 ⟨_, hwrite, he⟩
    exact .output hdrafts ((verb_of_ofTask htask).trans hverb) houtput hpath
  | written htask hdrafts hverb houtput hwrite =>
    exact .inl ⟨rfl, rfl, .written htask hdrafts hverb houtput hwrite⟩

/-! ### The way back -/

theorem exit_of_wrong {fault : UsageFault} {usage helper : String}
    (htask : Invocation.ofTask v arguments = .wrong fault usage helper) :
    ((runVerb v arguments).run s).1.exit = 2 := by
  rw [run_runVerb_of_wrong htask]
  rfl

/-- What succeeds exits with zero. -/
theorem exit_of_succeeds (h : Succeeds s v arguments) :
    ((runVerb v arguments).run s).1.exit = 0 := by
  cases h with
  | shown htask => rw [run_eq_iff.2 (.shown htask)]
  | checked htask hdrafts hverb hinput =>
    rw [run_runVerb_of_drafts htask hdrafts, hverb]
    exact exit_finish_check_eq_zero_iff.2 (Option.isSome_iff_ne_none.2 hinput)
  | printed htask hdrafts hverb houtput =>
    rw [run_eq_iff.2 (.printed htask hdrafts hverb houtput)]
  | written htask hdrafts hverb houtput hwrite =>
    rw [run_eq_iff.2 (.written htask hdrafts hverb houtput hwrite)]

/-- What fails without a report escapes. -/
theorem escape_of_escapes (htask : Invocation.ofTask v arguments = .run t) (h : Escapes s t e) :
    ((runVerb v arguments).run s).1.escape = some e := by
  have hverb : t.verb = v := verb_of_ofTask htask
  cases h with
  | level hload hleast =>
    rw [run_eq_iff.2 (.stopped htask (.level hload hleast))]
    rfl
  | input hload hleast hpath =>
    obtain ⟨fault, hread, hfault⟩ := (Sandbox.exists_read_iff_noPath (s := s)).2 hpath
    rw [run_eq_iff.2 (.stopped htask (.unreadable hload hleast hread))]
    exact (escape_fileError _ _ _).trans hfault
  | undecodable hload hleast hread hdecode =>
    rw [run_eq_iff.2 (.stopped htask (.undecodable hload hleast hread hdecode))]
    rfl
  | verdict hdrafts hcheck hinput =>
    rw [run_runVerb_of_drafts htask hdrafts, ← hverb, hcheck, run_finish_check_of_no_text hinput]
  | output hdrafts hconvert houtput hpath =>
    obtain ⟨fault, hwrite, hfault⟩ := Sandbox.exists_write_iff_noPath.2 hpath
    rw [run_eq_iff.2 (.unwritable htask hdrafts (hverb.symm.trans hconvert) houtput hwrite)]
    exact (escape_fileError _ _ _).trans hfault

/-- **The exit code says how a run ended.** It is 0 if the command succeeds, 2 if its arguments are
wrong, and otherwise 1. Only the failures of `Escapes` are not reported, and none of them is one of
loading the settings or of the conversion; all others are told in a line that starts with the word
for an error. -/
theorem run_exit (s : Sandbox) (v : Verb) (arguments : List Text) :
    let o := ((runVerb v arguments).run s).1
    (o.exit = 0 ↔ Succeeds s v arguments) ∧
    (o.exit = 2 ↔
      ∃ fault usage helper, Invocation.ofTask v arguments = .wrong fault usage helper) ∧
    (o.exit = 0 ∨ o.exit = 1 ∨ o.exit = 2) ∧
    (∀ e, o.escape = some e ↔ ∃ t, Invocation.ofTask v arguments = .run t ∧ Escapes s t e) ∧
    (o.escape ≠ none → o.exit = 1) ∧ (o.exit = 1 → o.escape = none → o.TellsError) := by
  intro o
  have hsucceeds : Succeeds s v arguments → o.exit = 0 := exit_of_succeeds
  have hwrong : (∃ fault usage helper,
      Invocation.ofTask v arguments = .wrong fault usage helper) → o.exit = 2 := by
    rintro ⟨_, _, _, htask⟩
    exact exit_of_wrong htask
  have hescapes : ∀ e, (∃ t, Invocation.ofTask v arguments = .run t ∧ Escapes s t e) →
      o.escape = some e := by
    rintro e ⟨t, htask, hescapes⟩
    exact escape_of_escapes htask hescapes
  -- Each way to end has its own exit code, so the code tells them apart.
  have hends : Ends s v arguments o ((runVerb v arguments).run s).2 := ends_runVerb s v arguments
  rcases hends.succeeds_or with ⟨hexit, hescape, h⟩ | ⟨hexit, hescape, h⟩ | ⟨t, htask, hfails⟩
  · exact ⟨iff_of_true hexit h, ⟨fun htwo => by omega, hwrong⟩, .inl hexit,
      fun e => ⟨fun he => absurd (hescape.symm.trans he) nofun, hescapes e⟩,
      fun hne => absurd hescape hne, fun hone => by omega⟩
  · exact ⟨⟨fun hzero => by omega, hsucceeds⟩, iff_of_true hexit h, .inr (.inr hexit),
      fun e => ⟨fun he => absurd (hescape.symm.trans he) nofun, hescapes e⟩,
      fun hne => absurd hescape hne, fun hone => by omega⟩
  · have hexit : o.exit = 1 := hfails.exit
    exact ⟨⟨fun hzero => by omega, hsucceeds⟩, ⟨fun htwo => by omega, hwrong⟩, .inr (.inl hexit),
      fun e => ⟨fun he => ⟨t, htask, hfails.escapes e he⟩, hescapes e⟩,
      fun _ => hexit, fun _ => hfails.tells⟩

/-- A document that is not UTF-8. -/
theorem run_convert_undecodable :
    let s : Sandbox := { files := [(.below "README.md".toList, [0xff])] }
    ((runVerb .convert ["-pfoo".toList]).run s).1 =
      { exit := 1, escape := some (.undecodable ⟨0xff, 0, 1, .start⟩) } := by
  decide +kernel

end Command

end CrateDocs
