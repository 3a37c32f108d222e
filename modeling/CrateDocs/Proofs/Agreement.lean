import CrateDocs.Proofs.Arguments
import CrateDocs.Proofs.Draft
import CrateDocs.Proofs.Style

namespace CrateDocs

/-!
# The two commands agree

Both commands come to a result in the same way, and differ in what they do with it.

* `Settings.load_convert` — a path for the result that is not given makes no difference to the
  settings;
* `Command.runVerb` is a command with its arguments;
* `Command.run_check_convert` — the two commands come to the same result or are stopped by the same.
-/

/-! ### Settings of both commands -/

/-- A null at the end of the overrides makes no difference. -/
theorem Settings.load_append_null {m : Type → Type} [Monad m] (h : Host m) (path : Option Text)
    (overrides : List (Text × Value)) (key : Text) :
    load h path (overrides ++ [(key, .null)]) = load h path overrides := by
  have hgather : ∀ file env, gather file env (overrides ++ [(key, .null)]) =
      gather file env overrides := by
    intro file env
    rw [gather, gather, withOverrides, withOverrides, List.foldl_append]
    rfl
  have hassemble : ∀ entries env, assemble entries env (overrides ++ [(key, .null)]) =
      assemble entries env overrides := by
    intro entries env
    rw [assemble, assemble, hgather]
  simp only [load, hassemble]

/-- A path for the result that is not given makes no difference to the settings. -/
theorem Settings.load_convert {m : Type → Type} [Monad m] (h : Host m) {t : Task}
    (hverb : t.verb = .check) (houtput : t.output = none) :
    load h t.config { t with verb := .convert }.overrides = load h t.config t.overrides := by
  have hoverrides : { t with verb := .convert }.overrides =
      t.overrides ++ [("output".toList, .null)] := by
    simp [Task.overrides, hverb, houtput, Task.orNull]
  rw [hoverrides, load_append_null]

namespace Command

variable {s : Sandbox} {t : Task} {d : Draft} {o : Outcome} {v : Verb} {arguments : List Text}

/-! ### Both commands -/

/-- A command with its arguments. -/
def runVerb (v : Verb) (arguments : List Text) : StateM Sandbox Outcome :=
  run Sandbox.host (v.word.toList :: arguments)

theorem run_runVerb (h : Invocation.ofTask v arguments = .run t) :
    (runVerb v arguments).run s =
      match draft s t with
      | .error o => (o, s)
      | .ok d => (finish t.verb d).run s := by
  rw [runVerb, run, Invocation.ofArguments_word, h]
  exact run_runTask s t

theorem run_runVerb_of_error (h : Invocation.ofTask v arguments = .run t)
    (hdraft : draft s t = .error o) : (runVerb v arguments).run s = (o, s) := by
  rw [run_runVerb h, hdraft]

theorem run_runVerb_of_ok (h : Invocation.ofTask v arguments = .run t)
    (hdraft : draft s t = .ok d) : (runVerb v arguments).run s = (finish t.verb d).run s := by
  rw [run_runVerb h, hdraft]

/-- Checking a document changes no file, whatever the arguments are. -/
theorem leaves_runVerb_check (arguments : List Text) :
    Sandbox.Leaves (runVerb .check arguments) := by
  intro s
  cases htask : Invocation.ofTask .check arguments with
  | run t =>
    -- With a draft or without one, a check only prints.
    obtain ⟨hverb, -, -⟩ := Invocation.ofTask_convert htask
    rw [run_runVerb htask, hverb]
    split <;> rfl
  | _ =>
    rw [runVerb, run, Invocation.ofArguments_word, htask]
    rfl

/-- The result of a task without a path for it is the same for both commands. -/
theorem draft_convert (hverb : t.verb = .check) (houtput : t.output = none) :
    draft s { t with verb := .convert } = draft s t := by
  unfold draft
  rw [Settings.load_convert _ hverb houtput]
  rfl

/-! ### What the commands do with a result -/

/-- A check tells the path of the document if it can be printed. -/
theorem run_finish_check_of_text {path : Text} (h : d.settings.input = Text.spelling path) :
    (finish .check d).run s =
      ({ stdout := Style.plain ("OK: ".toList ++ path ++ ['\n']), stderr := d.log.toList }, s) := by
  have hverdict : verdict d.settings.input = Text.spelling ("OK: ".toList ++ path ++ ['\n']) := by
    simp [h, verdict, Text.spelling]
  show ((Outcome.printing (verdict d.settings.input)).logging d.log, s) = _
  rw [hverdict, Outcome.printing_spelling]
  simp [Outcome.logging]

/-- A check escapes with a path that holds halves of surrogate pairs. -/
theorem run_finish_check_of_no_text (h : d.settings.input.text? = none) :
    (finish .check d).run s =
      ({ exit := 1, stderr := d.log.toList, escape := some .notEncodable }, s) := by
  obtain ⟨x, hx⟩ := Spelling.text?_eq_none_iff.1 h
  have hverdict : (verdict d.settings.input).text? = none :=
    Spelling.text?_eq_none_iff.2 ⟨x, by simp [verdict, hx]⟩
  show ((Outcome.printing (verdict d.settings.input)).logging d.log, s) = _
  rw [Outcome.printing_of_text?_eq_none hverdict]
  simp [Outcome.logging, Outcome.escaping]

theorem exit_finish_check_eq_zero_iff :
    ((finish .check d).run s).1.exit = 0 ↔ d.settings.input.text?.isSome := by
  cases hpath : d.settings.input.text? with
  | none => simp [run_finish_check_of_no_text hpath]
  | some path => simp [run_finish_check_of_text (Spelling.eq_spelling_of_text? hpath)]

/-- A result without a path is printed. -/
theorem run_finish_convert_of_output_eq_none (h : d.settings.output = none) :
    (finish .convert d).run s =
      ({ stdout := Style.plain d.result, stderr := d.log.toList }, s) := by
  have hdeliver : deliver Sandbox.host d.least d.settings d.result =
      pure { stdout := Style.plain d.result } := by
    rw [deliver, h, ← Outcome.printing_spelling]
  rw [finish, hdeliver]
  show (Outcome.logging d.log { stdout := Style.plain d.result }, s) = _
  simp [Outcome.logging]

/-- **The two commands agree.** Checking a document changes no file. Arguments to check a document
are arguments to convert it, and checking it succeeds exactly if converting it comes to a result, as
long as the path of the document can be printed. Otherwise both commands fail in the same way. With
a result converting goes on to deliver it; without a path for it both commands succeed with the same
log, and print the result and the path of the document, but for sequences that control a
terminal. -/
theorem run_check_convert (s : Sandbox) :
    (∀ arguments, ((runVerb .check arguments).run s).2 = s) ∧
    (∀ arguments t, Invocation.ofTask .check arguments = .run t →
      ∃ u, Invocation.ofTask .convert arguments = .run u ∧
        (((runVerb .check arguments).run s).1.exit = 0 ↔
          ∃ d, Drafts s u d ∧ d.settings.input.text?.isSome) ∧
        ((∀ d, ¬ Drafts s u d) → ∃ o, Fails o ∧
          (runVerb .check arguments).run s = (o, s) ∧
          (runVerb .convert arguments).run s = (o, s)) ∧
        ∀ d, Drafts s u d →
          (runVerb .convert arguments).run s =
            ((·.logging d.log) <$> deliver Sandbox.host d.least d.settings d.result).run s ∧
          (d.settings.output = none → (runVerb .convert arguments).run s =
            ({ stdout := Style.plain d.result, stderr := d.log.toList }, s)) ∧
          (∀ path, d.settings.input = Text.spelling path → (runVerb .check arguments).run s =
            ({ stdout := Style.plain ("OK: ".toList ++ path ++ ['\n']),
               stderr := d.log.toList }, s)) ∧
          (d.settings.input.text? = none → (runVerb .check arguments).run s =
            ({ exit := 1, stderr := d.log.toList, escape := some .notEncodable }, s))) ∧
    ∀ t, Style.escape ∉ t → Style.plain t = t := by
  refine ⟨fun arguments => leaves_runVerb_check arguments s, ?agree,
    fun t => Style.plain_eq_self⟩
  intro arguments t htask
  obtain ⟨hverb, houtput, hconvert⟩ := Invocation.ofTask_convert htask
  have hdraft : draft s { t with verb := .convert } = draft s t := draft_convert hverb houtput
  refine ⟨{ t with verb := .convert }, hconvert, ?_⟩
  -- Both commands come to the same draft, so it is enough to look at that of the check.
  simp only [← draft_eq_ok_iff, hdraft]
  cases hd : draft s t with
  | error o =>
    -- Both commands are stopped before they differ.
    have hcheck : (runVerb .check arguments).run s = (o, s) := run_runVerb_of_error htask hd
    have hfails : Fails o := fails_of_draft_eq_error hd
    refine ⟨?_, fun _ => ⟨o, hfails, hcheck, run_runVerb_of_error hconvert (hdraft.trans hd)⟩,
      nofun⟩
    simp [hcheck, hfails.exit]
  | ok d =>
    have hcheck : (runVerb .check arguments).run s = (finish .check d).run s := by
      rw [run_runVerb_of_ok htask hd, hverb]
    have hconverted : (runVerb .convert arguments).run s = (finish .convert d).run s :=
      run_runVerb_of_ok hconvert (hdraft.trans hd)
    rw [hcheck, hconverted]
    refine ⟨?_, fun hno => absurd rfl (hno d), ?_⟩
    · simp [exit_finish_check_eq_zero_iff]
    · intro d' hd'
      obtain rfl := Except.ok.inj hd'
      exact ⟨rfl, run_finish_convert_of_output_eq_none, fun path => run_finish_check_of_text,
        run_finish_check_of_no_text⟩

/-- A document with a sequence that sets a style is converted, and printed without it. -/
theorem run_convert_style :
    let s : Sandbox := { files := [(.below "README.md".toList, Utf8.encode "\x1b[1mx\n".toList)] }
    let t : Task := { verb := .convert, package := some "foo".toList }
    Invocation.ofTask .convert ["-pfoo".toList] = .run t ∧
      (∃ d, Drafts s t d ∧ d.settings.output = none ∧ d.result = "\x1b[1mx\n".toList) ∧
      ((runVerb .convert ["-pfoo".toList]).run s).1 = { stdout := "x\n".toList } := by
  intro s t
  have hresult : (draft s t).map (fun d => (d.settings.output, d.result)) =
      .ok (none, "\x1b[1mx\n".toList) := by
    decide +kernel
  have hdraft : ∃ d, Drafts s t d ∧ d.settings.output = none ∧
      d.result = "\x1b[1mx\n".toList := by
    cases hd : draft s t with
    | error o =>
      rw [hd] at hresult
      cases hresult
    | ok d =>
      rw [hd] at hresult
      obtain ⟨houtput, hconverted⟩ := Prod.mk.inj (Except.ok.inj hresult)
      exact ⟨d, draft_eq_ok_iff.1 hd, houtput, hconverted⟩
  exact ⟨rfl, hdraft, by decide +kernel⟩

end Command

end CrateDocs
