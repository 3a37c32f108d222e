import CrateDocs.Proofs.Ending
import CrateDocs.Proofs.Writing

namespace CrateDocs

/-!
# What a run does to files

Writing the result is the last thing that a run does, so a run that fails has changed nothing.

* `Command.Ends.succeeded_of_ne` — only a run that succeeds changes files;
* `Command.run_writes` — a run that fails leaves all files as they are, and one that succeeds writes
  its result and nothing else.
-/

namespace Command

variable {s s' : Sandbox} {t : Task} {d : Draft} {o : Outcome} {v : Verb} {arguments : List Text}

/-- Only a run that converts a document and succeeds changes files. -/
theorem Ends.succeeded_of_ne (h : Ends s v arguments o s') (hne : s' ≠ s) :
    v = .convert ∧ o.exit = 0 ∧ o.escape = none ∧ ∃ t, Invocation.ofTask v arguments = .run t := by
  cases h with
  | shown | wrong | stopped | checked | printed | unwritable => exact absurd rfl hne
  | written htask _ hverb => exact ⟨hverb, rfl, rfl, _, htask⟩

/-- Only a run with a result succeeds. -/
theorem exists_drafts_of_exit (h : (runVerb v arguments).run s = (o, s'))
    (htask : Invocation.ofTask v arguments = .run t) (hexit : o.exit = 0) : ∃ d, Drafts s t d := by
  cases hdraft : draft s t with
  | ok d => exact ⟨d, draft_eq_ok_iff.1 hdraft⟩
  | error o' =>
    rw [run_runVerb_of_error htask hdraft] at h
    obtain ⟨rfl, -⟩ := Prod.mk.inj h
    rw [(fails_of_draft_eq_error hdraft).exit] at hexit
    cases hexit

/-- **A run that fails leaves all files as they are, and one that succeeds writes its result and
nothing else.** A run without a document to convert, or without a path for the result, leaves them
as they are, too. -/
theorem run_writes (h : (runVerb v arguments).run s = (o, s')) :
    (o.exit ≠ 0 ∨ o.escape ≠ none ∨ v = .check ∨ (∀ t, Invocation.ofTask v arguments ≠ .run t) →
      s' = s) ∧
      ∀ t, Invocation.ofTask v arguments = .run t → o.exit = 0 → ∃ d, Drafts s t d ∧
        (d.settings.output = none → s' = s) ∧
        ∀ path, v = .convert → d.settings.output = some path →
          s.Writes path (Utf8.encode d.result) s' := by
  constructor
  · intro hfails
    by_contra hne
    obtain ⟨hverb, hexit, hescape, t, htask⟩ := (run_eq_iff.1 h).succeeded_of_ne hne
    rcases hfails with hfails | hfails | hcheck | hnone
    · exact hfails hexit
    · exact hfails hescape
    · exact absurd (hverb.symm.trans hcheck) nofun
    · exact hnone t htask
  · intro t htask hexit
    obtain ⟨d, hdrafts⟩ := exists_drafts_of_exit h htask hexit
    have hfinish : (finish v d).run s = (o, s') :=
      (run_runVerb_of_drafts htask hdrafts).symm.trans h
    refine ⟨d, hdrafts, fun houtput => ?_, fun path hverb houtput => ?_⟩
    · cases v with
      | check => exact (congrArg Prod.snd hfinish).symm
      | convert =>
        rw [run_finish_convert_of_output_eq_none houtput] at hfinish
        exact (congrArg Prod.snd hfinish).symm
    · subst hverb
      cases hwrite : s.write path (Utf8.encode d.result) with
      | error fault =>
        -- The run would have failed.
        rw [run_finish_convert_of_write_eq_error houtput hwrite] at hfinish
        obtain ⟨rfl, -⟩ := Prod.mk.inj hfinish
        rw [Outcome.logging, (fails_fileError _ _ _).exit] at hexit
        cases hexit
      | ok after =>
        rw [run_finish_convert_of_write_eq_ok houtput hwrite] at hfinish
        obtain ⟨-, rfl⟩ := Prod.mk.inj hfinish
        exact Sandbox.writes_of_write hwrite

/-- A document that is converted in its place, with carriage returns. -/
theorem run_writes_inPlace :
    let s : Sandbox :=
      { files := [(.below "README.md".toList, Utf8.encode "# A\r\n\r\n## B\r\n".toList)] }
    ∃ o s', (runVerb .convert ["-pfoo".toList, "-oREADME.md".toList]).run s = (o, s') ∧
      o.exit = 0 ∧
      s.Writes (Text.spelling "README.md".toList) (Utf8.encode "# B\r\n".toList) s' := by
  intro s
  let t : Task :=
    { verb := .convert, package := some "foo".toList, output := some "README.md".toList }
  have htask : Invocation.ofTask .convert ["-pfoo".toList, "-oREADME.md".toList] = .run t := rfl
  have hexit : ((runVerb .convert ["-pfoo".toList, "-oREADME.md".toList]).run s).1.exit = 0 := by
    decide +kernel
  have hresult : (draft s t).map (fun d => (d.settings.output, d.result)) =
      .ok (some (Text.spelling "README.md".toList), "# B\r\n".toList) := by
    decide +kernel
  generalize hrun : (runVerb .convert ["-pfoo".toList, "-oREADME.md".toList]).run s = after at hexit
  obtain ⟨o, s'⟩ := after
  obtain ⟨d, hdrafts, -, hwrites⟩ := (run_writes hrun).2 t htask hexit
  rw [draft_eq_ok_iff.2 hdrafts] at hresult
  obtain ⟨houtput, hconverted⟩ := Prod.mk.inj (Except.ok.inj hresult)
  rw [hconverted] at hwrites
  exact ⟨o, s', rfl, hexit, hwrites _ rfl houtput⟩

end Command

end CrateDocs
