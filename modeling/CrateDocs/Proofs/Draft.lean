import CrateDocs.Command.Run
import CrateDocs.Data.Sequence
import CrateDocs.Sandbox

namespace CrateDocs

/-!
# Results of a task

A task loads its settings, reads its document and converts it before it prints or writes anything.

* `Sandbox.Leaves` says that an action changes no file, and `Sandbox.leaves_load` that loading the
  settings is one;
* `Command.Drafts` says that a task comes to a result, and `Command.draft` gives the result or the
  outcome of what stops the task before;
* `Command.draft_eq_ok_iff` and `Command.fails_of_draft_eq_error` — a task comes to its result or
  fails without printing anything;
* `Command.run_runTask` — a task that is not stopped goes on with its result.
-/

namespace Sandbox

variable {α β : Type}

/-! ### Actions that change no file -/

theorem run_bind (x : StateM Sandbox α) (f : α → StateM Sandbox β) (s : Sandbox) :
    (x >>= f).run s = (f (x.run s).1).run (x.run s).2 := rfl

/-- Whether an action changes no file. -/
def Leaves (x : StateM Sandbox α) : Prop := ∀ s, (x.run s).2 = s

theorem leaves_pure (a : α) : Leaves (pure a) := fun _ => rfl

theorem Leaves.bind {x : StateM Sandbox α} {f : α → StateM Sandbox β} (hx : Leaves x)
    (hf : ∀ a, Leaves (f a)) : Leaves (x >>= f) := by
  intro s
  rw [run_bind, hf, hx]

theorem leaves_read (path : Spelling) : Leaves (host.read path) := fun _ => rfl

theorem leaves_lookUp (name : Text) : Leaves (host.lookUp name) := fun _ => rfl

theorem leaves_home (user : Option Text) : Leaves (host.home user) := fun _ => rfl

theorem leaves_document (t : Text) : Leaves (host.document t) := fun _ => rfl

/-- After an action that changes no file, the next one starts where it did. -/
theorem Leaves.run_bind {x : StateM Sandbox α} (hx : Leaves x) (f : α → StateM Sandbox β)
    (s : Sandbox) : (x >>= f).run s = (f (x.run s).1).run s := by
  rw [Sandbox.run_bind, hx]

theorem leaves_homeOf (user : Option Text) : Leaves (Settings.homeOf host user) := by
  cases user with
  | some name => exact leaves_home _
  | none =>
    refine (leaves_lookUp _).bind fun home => ?_
    cases home with
    | some home => exact leaves_pure _
    | none => exact leaves_home _

theorem leaves_filePath (path : Option Text) : Leaves (Settings.filePath host path) := by
  rw [Settings.filePath]
  split
  · exact leaves_pure _
  · refine (leaves_homeOf _).bind fun home => ?_
    split
    · exact leaves_pure _
    · split <;> exact leaves_pure _

theorem leaves_readAt (given : Bool) (path : Text) :
    Leaves (Settings.readAt host given path) := by
  refine (leaves_read _).bind fun content => ?_
  split
  · exact leaves_pure _
  · split
    · exact leaves_pure _
    · exact (leaves_document _).bind fun value => leaves_pure _

theorem leaves_readFile (path : Option Text) : Leaves (Settings.readFile host path) := by
  refine (leaves_filePath path).bind fun file => ?_
  split
  · exact leaves_pure _
  · exact leaves_readAt _ _

theorem leaves_readEnvironment (names : List String) :
    Leaves (Settings.readEnvironment host names) := by
  induction names with
  | nil => exact leaves_pure _
  | cons name rest ih =>
    exact (leaves_lookUp _).bind fun value => ih.bind fun others => leaves_pure _

/-- Loading the settings changes no file. -/
theorem leaves_load (path : Option Text) (overrides : List (Text × Value)) :
    Leaves (Settings.load host path overrides) := by
  refine (leaves_readFile path).bind fun entries => ?_
  split
  · exact leaves_pure _
  · exact (leaves_readEnvironment _).bind fun env => leaves_pure _

end Sandbox

namespace Command

/-! ### Results -/

/-- What a task has worked out before it prints or writes anything. -/
structure Draft where
  settings : Settings
  /-- the rank from which on events are logged -/
  least : Nat
  content : Text
  /-- the converted document -/
  result : Text

/-- The log of the conversion. -/
def Draft.log (d : Draft) : String :=
  LogLevel.log d.least (d.settings.policy.convert d.content).events

/-- The rank from which on a task logs events. -/
def least (t : Task) (settings : Settings) : Except LogLevel.Misnomer Nat :=
  if t.verbose then .ok Level.debug.rank else LogLevel.threshold settings.logLevel

/-- Whether a task comes to a result: its settings load, the document is read and decoded, and its
conversion succeeds. -/
structure Drafts (s : Sandbox) (t : Task) (d : Draft) : Prop where
  loads : ((Settings.load Sandbox.host t.config t.overrides).run s).1 = .ok d.settings
  logs : least t d.settings = .ok d.least
  reads : ∃ bytes, s.read d.settings.input = .ok bytes ∧ Utf8.decode bytes = .ok d.content
  converts : (d.settings.policy.convert d.content).result = .ok d.result

/-- The result that a task comes to, or the outcome of what stops it before. -/
def draft (s : Sandbox) (t : Task) : Except Outcome Draft := do
  let settings ← ((Settings.load Sandbox.host t.config t.overrides).run s).1.mapError
    fun failure => .failing (Text.spelling (loadError failure).toList)
  let least ← (least t settings).mapError fun what => .escaping (.misnamedLevel what)
  let bytes ← (s.read settings.input).mapError (fileError "reading" settings.input)
  let content ← (Utf8.decode bytes).mapError fun fault => .escaping (.undecodable fault)
  let report := settings.policy.convert content
  let result ← report.result.mapError fun failure =>
    (conversionError settings.input failure).logging (LogLevel.log least report.events)
  return ⟨settings, least, content, result⟩

/-- What is printed about a document that can be converted. -/
def verdict (input : Spelling) : Spelling := Text.spelling "OK: ".toList ++ input ++ [.char '\n']

/-- Does with a result what the command is for. -/
def finish (v : Verb) (d : Draft) : StateM Sandbox Outcome :=
  match v with
  | .check => return (Outcome.printing (verdict d.settings.input)).logging d.log
  | .convert => return (← deliver Sandbox.host d.least d.settings d.result).logging d.log

/-- Whether a run prints nothing and fails. -/
structure Fails (o : Outcome) : Prop where
  exit : o.exit = 1
  stdout : o.stdout = []

variable {s : Sandbox} {t : Task} {d : Draft} {o : Outcome}

/-- A sequence fails if its first step does, or what comes after it. -/
theorem Fails.of_mapError_bind {ε α β : Type} {x : Except ε α} {stopped : ε → Outcome}
    {f : α → Except Outcome β} (h : (x.mapError stopped >>= f) = .error o)
    (hstopped : ∀ e, Fails (stopped e)) (hf : ∀ a, f a = .error o → Fails o) : Fails o := by
  rcases mapError_bind_eq_error_iff.1 h with ⟨e, -, rfl⟩ | ⟨a, -, h⟩
  · exact hstopped e
  · exact hf a h

theorem draft_eq_ok_iff : draft s t = .ok d ↔ Drafts s t d := by
  constructor
  · intro h
    obtain ⟨settings, hload, h⟩ := mapError_bind_eq_ok_iff.1 h
    obtain ⟨least, hleast, h⟩ := mapError_bind_eq_ok_iff.1 h
    obtain ⟨bytes, hbytes, h⟩ := mapError_bind_eq_ok_iff.1 h
    obtain ⟨content, hcontent, h⟩ := mapError_bind_eq_ok_iff.1 h
    obtain ⟨result, hresult, h⟩ := mapError_bind_eq_ok_iff.1 h
    cases h
    exact ⟨hload, hleast, ⟨bytes, hbytes, hcontent⟩, hresult⟩
  · rintro ⟨hload, hleast, ⟨bytes, hbytes, hcontent⟩, hresult⟩
    rw [draft, hload, mapError_bind_ok, hleast, mapError_bind_ok, hbytes, mapError_bind_ok,
      hcontent, mapError_bind_ok]
    dsimp only
    rw [hresult, mapError_bind_ok]
    rfl

theorem fails_fileError (doing : String) (path : Spelling) (fault : FileFault) :
    Fails (fileError doing path fault) := by
  cases fault <;> exact ⟨rfl, rfl⟩

theorem fails_conversionError (input : Spelling) (failure : Failure) (log : String) :
    Fails ((conversionError input failure).logging log) := by
  cases failure <;> exact ⟨rfl, rfl⟩

/-- A task that is stopped prints nothing and fails. -/
theorem fails_of_draft_eq_error (h : draft s t = .error o) : Fails o := by
  -- One step after the other: either it stops the task, or the next one may.
  refine Fails.of_mapError_bind h (fun failure => ⟨rfl, rfl⟩) fun settings h => ?_
  refine Fails.of_mapError_bind h (fun what => ⟨rfl, rfl⟩) fun least h => ?_
  refine Fails.of_mapError_bind h (fails_fileError _ _) fun bytes h => ?_
  refine Fails.of_mapError_bind h (fun fault => ⟨rfl, rfl⟩) fun content h => ?_
  refine Fails.of_mapError_bind h (fun failure => fails_conversionError _ _ _) fun result h => ?_
  cases h

/-- A task that is not stopped goes on with its result. -/
theorem run_runTask (s : Sandbox) (t : Task) :
    (runTask Sandbox.host t).run s =
      match draft s t with
      | .error o => (o, s)
      | .ok d => (finish t.verb d).run s := by
  rw [runTask, (Sandbox.leaves_load _ _).run_bind, draft]
  -- Step by step, the task and its draft look at the same value, and stop together.
  cases ((Settings.load Sandbox.host t.config t.overrides).run s).1 with
  | error failure => rfl
  | ok settings =>
    have hleast : (if t.verbose then .ok Level.debug.rank
        else LogLevel.threshold settings.logLevel) = least t settings := rfl
    have hread : ((Sandbox.host.read settings.input).run s).1 = s.read settings.input := rfl
    rw [mapError_bind_ok]
    dsimp only
    rw [perform, hleast]
    cases least t settings with
    | error what => rfl
    | ok least =>
      rw [mapError_bind_ok]
      dsimp only
      rw [(Sandbox.leaves_read _).run_bind, hread]
      cases s.read settings.input with
      | error fault => rfl
      | ok bytes =>
        rw [mapError_bind_ok]
        dsimp only
        cases Utf8.decode bytes with
        | error fault => rfl
        | ok content =>
          rw [mapError_bind_ok]
          dsimp only
          rw [process]
          cases (settings.policy.convert content).result with
          | error failure => rfl
          | ok result => cases t.verb <;> rfl

end Command

end CrateDocs
