import CrateDocs.Proofs.Agreement

namespace CrateDocs

/-!
# How a run ends

* `Command.Stops` is how a task is stopped before it has a result, and `Command.Ends` how a command
  ends;
* `Command.draft_eq_error_iff` and `Command.run_eq_iff` — these are all the ways there are.
-/

namespace Sandbox

variable {s s' : Sandbox} {path : Spelling} {content : Bytes}

theorem run_write_of_error {fault : FileFault} (h : s.write path content = .error fault) :
    (host.write path content).run s = (.error fault, s) := by
  simp only [host, StateT.run_bind, StateT.run_get, pure_bind, h]
  rfl

theorem run_write_of_ok (h : s.write path content = .ok s') :
    (host.write path content).run s = (.ok (), s') := by
  simp only [host, StateT.run_bind, StateT.run_get, pure_bind, h]
  rfl

end Sandbox

namespace Command

variable {s s' : Sandbox} {t : Task} {d : Draft} {o : Outcome} {v : Verb} {arguments : List Text}

/-- How a task is stopped before it has a result. -/
inductive Stops (s : Sandbox) (t : Task) : Outcome → Prop
  | settings {failure : LoadFailure}
      (hload : ((Settings.load Sandbox.host t.config t.overrides).run s).1 = .error failure) :
      Stops s t (.failing (Text.spelling (loadError failure).toList))
  | level {settings : Settings} {what : LogLevel.Misnomer}
      (hload : ((Settings.load Sandbox.host t.config t.overrides).run s).1 = .ok settings)
      (hleast : Command.least t settings = .error what) :
      Stops s t (.escaping (.misnamedLevel what))
  | unreadable {settings : Settings} {least : Nat} {fault : FileFault}
      (hload : ((Settings.load Sandbox.host t.config t.overrides).run s).1 = .ok settings)
      (hleast : Command.least t settings = .ok least)
      (hread : s.read settings.input = .error fault) :
      Stops s t (fileError "reading" settings.input fault)
  | undecodable {settings : Settings} {least : Nat} {bytes : Bytes} {fault : Utf8.Fault}
      (hload : ((Settings.load Sandbox.host t.config t.overrides).run s).1 = .ok settings)
      (hleast : Command.least t settings = .ok least)
      (hread : s.read settings.input = .ok bytes) (hdecode : Utf8.decode bytes = .error fault) :
      Stops s t (.escaping (.undecodable fault))
  | refused {settings : Settings} {least : Nat} {bytes : Bytes} {content : Text} {failure : Failure}
      (hload : ((Settings.load Sandbox.host t.config t.overrides).run s).1 = .ok settings)
      (hleast : Command.least t settings = .ok least)
      (hread : s.read settings.input = .ok bytes) (hdecode : Utf8.decode bytes = .ok content)
      (hconvert : (settings.policy.convert content).result = .error failure) :
      Stops s t ((conversionError settings.input failure).logging
        (LogLevel.log least (settings.policy.convert content).events))

theorem draft_eq_error_iff : draft s t = .error o ↔ Stops s t o := by
  constructor
  · intro h
    rcases mapError_bind_eq_error_iff.1 h with ⟨failure, hload, rfl⟩ | ⟨settings, hload, h⟩
    · exact .settings hload
    rcases mapError_bind_eq_error_iff.1 h with ⟨what, hleast, rfl⟩ | ⟨least, hleast, h⟩
    · exact .level hload hleast
    rcases mapError_bind_eq_error_iff.1 h with ⟨fault, hread, rfl⟩ | ⟨bytes, hread, h⟩
    · exact .unreadable hload hleast hread
    rcases mapError_bind_eq_error_iff.1 h with ⟨fault, hdecode, rfl⟩ | ⟨content, hdecode, h⟩
    · exact .undecodable hload hleast hread hdecode
    rcases mapError_bind_eq_error_iff.1 h with ⟨failure, hconvert, rfl⟩ | ⟨result, -, h⟩
    · exact .refused hload hleast hread hdecode hconvert
    · cases h
  · intro h
    cases h with
    | settings hload =>
      rw [draft, hload]
      rfl
    | level hload hleast =>
      rw [draft, hload, mapError_bind_ok, hleast]
      rfl
    | unreadable hload hleast hread =>
      rw [draft, hload, mapError_bind_ok, hleast, mapError_bind_ok, hread]
      rfl
    | undecodable hload hleast hread hdecode =>
      rw [draft, hload, mapError_bind_ok, hleast, mapError_bind_ok, hread, mapError_bind_ok,
        hdecode]
      rfl
    | refused hload hleast hread hdecode hconvert =>
      rw [draft, hload, mapError_bind_ok, hleast, mapError_bind_ok, hread, mapError_bind_ok,
        hdecode, mapError_bind_ok]
      dsimp only
      rw [hconvert]
      rfl

/-- How a command ends: with what outcome, and with what files. -/
inductive Ends (s : Sandbox) (v : Verb) (arguments : List Text) : Outcome → Sandbox → Prop
  | shown {text : String} (htask : Invocation.ofTask v arguments = .show text) :
      Ends s v arguments { stdout := Style.plain text.toList } s
  | wrong {fault : UsageFault} {usage helper : String}
      (htask : Invocation.ofTask v arguments = .wrong fault usage helper) :
      Ends s v arguments (.failing (Text.spelling (usageError fault usage helper).toList) 2) s
  | stopped {t : Task} {o : Outcome} (htask : Invocation.ofTask v arguments = .run t)
      (hstops : Stops s t o) : Ends s v arguments o s
  | checked {t : Task} {d : Draft} (htask : Invocation.ofTask v arguments = .run t)
      (hdrafts : Drafts s t d) (hverb : v = .check) :
      Ends s v arguments ((Outcome.printing (verdict d.settings.input)).logging d.log) s
  | printed {t : Task} {d : Draft} (htask : Invocation.ofTask v arguments = .run t)
      (hdrafts : Drafts s t d) (hverb : v = .convert) (houtput : d.settings.output = none) :
      Ends s v arguments { stdout := Style.plain d.result, stderr := d.log.toList } s
  | unwritable {t : Task} {d : Draft} {path : Spelling} {fault : FileFault}
      (htask : Invocation.ofTask v arguments = .run t) (hdrafts : Drafts s t d)
      (hverb : v = .convert) (houtput : d.settings.output = some path)
      (hwrite : s.write path (Utf8.encode d.result) = .error fault) :
      Ends s v arguments ((fileError "writing" path fault).logging d.log) s
  | written {t : Task} {d : Draft} {path : Spelling} {s' : Sandbox}
      (htask : Invocation.ofTask v arguments = .run t) (hdrafts : Drafts s t d)
      (hverb : v = .convert) (houtput : d.settings.output = some path)
      (hwrite : s.write path (Utf8.encode d.result) = .ok s') :
      Ends s v arguments
        { stderr := d.log.toList ++ (LogLevel.log d.least [.wrote path]).toList } s'

/-- A task is one of the command that its arguments are for. -/
theorem verb_of_ofTask (h : Invocation.ofTask v arguments = .run t) : t.verb = v := by
  obtain ⟨given, -, -, -, rfl⟩ := Invocation.ofTask_eq_run_iff.1 h
  rfl

/-- The arguments of a command do not ask for the help about the program. -/
theorem ofTask_ne_bare : Invocation.ofTask v arguments ≠ .bare := by
  intro h
  rw [Invocation.ofTask] at h
  split at h
  case h_1 => cases h
  case h_2 given _ =>
    split at h
    case isTrue => cases h
    case isFalse => split at h <;> cases h

/-! ### Runs -/

theorem run_runVerb_of_show {text : String} (htask : Invocation.ofTask v arguments = .show text) :
    (runVerb v arguments).run s = ({ stdout := Style.plain text.toList }, s) := by
  rw [runVerb, run, Invocation.ofArguments_word, htask, ← Outcome.printing_spelling]
  rfl

theorem run_runVerb_of_wrong {fault : UsageFault} {usage helper : String}
    (htask : Invocation.ofTask v arguments = .wrong fault usage helper) :
    (runVerb v arguments).run s =
      (.failing (Text.spelling (usageError fault usage helper).toList) 2, s) := by
  rw [runVerb, run, Invocation.ofArguments_word, htask]
  rfl

theorem run_runVerb_of_drafts (htask : Invocation.ofTask v arguments = .run t)
    (hdrafts : Drafts s t d) : (runVerb v arguments).run s = (finish v d).run s := by
  rw [run_runVerb_of_ok htask (draft_eq_ok_iff.2 hdrafts), verb_of_ofTask htask]

theorem run_finish_convert_of_write_eq_error {path : Spelling} {fault : FileFault}
    (houtput : d.settings.output = some path)
    (hwrite : s.write path (Utf8.encode d.result) = .error fault) :
    (finish .convert d).run s = ((fileError "writing" path fault).logging d.log, s) := by
  simp only [finish, deliver, houtput, StateT.run_bind, Sandbox.run_write_of_error hwrite]
  rfl

theorem run_finish_convert_of_write_eq_ok {path : Spelling}
    (houtput : d.settings.output = some path)
    (hwrite : s.write path (Utf8.encode d.result) = .ok s') :
    (finish .convert d).run s =
      ({ stderr := d.log.toList ++ (LogLevel.log d.least [.wrote path]).toList }, s') := by
  have hlog : (LogLevel.log d.least [.wrote path]).toList =
      (Outcome.logging (LogLevel.log d.least [.wrote path]) {}).stderr := by
    simp [Outcome.logging]
  rw [hlog]
  simp only [finish, deliver, houtput, StateT.run_bind, Sandbox.run_write_of_ok hwrite]
  rfl

/-- A run ends in one of the ways. -/
theorem ends_runVerb (s : Sandbox) (v : Verb) (arguments : List Text) :
    Ends s v arguments ((runVerb v arguments).run s).1 ((runVerb v arguments).run s).2 := by
  cases htask : Invocation.ofTask v arguments with
  | «show» text =>
    rw [run_runVerb_of_show htask]
    exact .shown htask
  | bare => exact absurd htask ofTask_ne_bare
  | wrong fault usage helper =>
    rw [run_runVerb_of_wrong htask]
    exact .wrong htask
  | run t =>
    cases hdraft : draft s t with
    | error o =>
      rw [run_runVerb_of_error htask hdraft]
      exact .stopped htask (draft_eq_error_iff.1 hdraft)
    | ok d =>
      have hdrafts : Drafts s t d := draft_eq_ok_iff.1 hdraft
      rw [run_runVerb_of_drafts htask hdrafts]
      cases v with
      | check => exact .checked htask hdrafts rfl
      | convert =>
        cases houtput : d.settings.output with
        | none =>
          rw [run_finish_convert_of_output_eq_none houtput]
          exact .printed htask hdrafts rfl houtput
        | some path =>
          cases hwrite : s.write path (Utf8.encode d.result) with
          | error fault =>
            rw [run_finish_convert_of_write_eq_error houtput hwrite]
            exact .unwritable htask hdrafts rfl houtput hwrite
          | ok s' =>
            rw [run_finish_convert_of_write_eq_ok houtput hwrite]
            exact .written htask hdrafts rfl houtput hwrite

/-- **The ways in which a run ends** are all there are, and each of them is one. -/
theorem run_eq_iff : (runVerb v arguments).run s = (o, s') ↔ Ends s v arguments o s' := by
  constructor
  · intro h
    have hends := ends_runVerb s v arguments
    rwa [h] at hends
  · intro h
    cases h with
    | shown htask => exact run_runVerb_of_show htask
    | wrong htask => exact run_runVerb_of_wrong htask
    | stopped htask hstops => exact run_runVerb_of_error htask (draft_eq_error_iff.2 hstops)
    | checked htask hdrafts hverb =>
      rw [run_runVerb_of_drafts htask hdrafts, hverb]
      rfl
    | printed htask hdrafts hverb houtput =>
      rw [run_runVerb_of_drafts htask hdrafts, hverb, run_finish_convert_of_output_eq_none houtput]
    | unwritable htask hdrafts hverb houtput hwrite =>
      rw [run_runVerb_of_drafts htask hdrafts, hverb,
        run_finish_convert_of_write_eq_error houtput hwrite]
    | written htask hdrafts hverb houtput hwrite =>
      rw [run_runVerb_of_drafts htask hdrafts, hverb,
        run_finish_convert_of_write_eq_ok houtput hwrite]

end Command

end CrateDocs
