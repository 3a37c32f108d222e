import CrateDocs.Proofs.Draft

namespace CrateDocs

/-!
# Settings that cannot be loaded

Most of what stops the loading of settings is a fault of the settings. The rest breaks it off on the
way, before the file has given its entries. How documents are read plays no part in this: the
sandbox says what each of them gives.

* `Settings.Locates` says where the file of settings is, `Settings.Misses` why it is nowhere, and
  `Settings.Holds` what text it holds;
* `Settings.Rejects` are the faults of the settings, and `Settings.Breaks` is the rest;
* `Settings.breaks_or_rejects` and `Settings.assemble_eq_error_iff` say what can happen to the file
  and to its fields;
* `Settings.load_eq_error_iff` — the loading is stopped by one of these, and by nothing else.
-/

namespace Settings

variable {s : Sandbox} {path : Option Text} {overrides : List (Text × Value)}
  {failure : LoadFailure}

/-! ### The place of the file -/

/-- The home directory of a user, if it is known. For the user who runs the program a variable comes
before what is listed. -/
def home? (s : Sandbox) (user : Option Text) : Option Text :=
  if user = none then (s.environment.lookup "HOME".toList).or (s.homes.lookup none)
  else s.homes.lookup user

/-- The path of the file of settings, or why there is none. -/
def file (s : Sandbox) (path : Option Text) : Except LoadFailure Text :=
  ((filePath Sandbox.host path).run s).1

/-- Where the file of settings is: at the path as it is named, or below a home directory. -/
inductive Locates (s : Sandbox) (path : Option Text) : Text → Prop
  | plain (huser : (namedPath path).user? = none) : Locates s path (namedPath path).toText
  | below {user : Option Text} {home : Text} {p : Path} (huser : (namedPath path).user? = some user)
      (hname : '\x00' ∉ user.getD []) (hhome : home? s user = some home)
      (hunder : (namedPath path).under? home = some p) : Locates s path p.toText

/-- Why the file of settings is nowhere. -/
inductive Misses (s : Sandbox) (path : Option Text) : LoadFailure → Prop
  /-- the path starts at a home directory that is not known, or that starts with a `~` itself -/
  | noHome {user : Option Text} (huser : (namedPath path).user? = some user)
      (hname : '\x00' ∉ user.getD [])
      (hhome : ∀ home, home? s user = some home → (Path.trimHome home).head? = some '~') :
      Misses s path .noHome
  /-- the path starts at the home directory of a user whose name holds a NUL -/
  | nulInUser {name : Text} (huser : (namedPath path).user? = some (some name))
      (hname : '\x00' ∈ name) :
      Misses s path (.unreachable (namedPath path).toText .nulInPath)

/-- A home directory is looked up unless the name of the user holds a NUL. -/
theorem run_homeOf (s : Sandbox) (user : Option Text) :
    ((homeOf Sandbox.host user).run s).1 =
      if '\x00' ∈ user.getD [] then .error .nulInPath else .ok (home? s user) := by
  cases user with
  | some name => rfl
  | none =>
    have hlookUp : ((Sandbox.host.lookUp "HOME".toList).run s).1 =
        s.environment.lookup "HOME".toList := rfl
    rw [homeOf, (Sandbox.leaves_lookUp _).run_bind, hlookUp, home?, if_pos rfl]
    cases s.environment.lookup "HOME".toList <;> rfl

/-- The path of a file that is looked for below the home directory of a user. -/
theorem file_of_user {user : Option Text} {below : Option Path}
    (huser : (namedPath path).user? = some user) (hname : '\x00' ∉ user.getD [])
    (hbelow : (home? s user).bind (namedPath path).under? = below) :
    file s path = below.elim (.error .noHome) fun p => .ok p.toText := by
  rw [file, filePath, huser]
  dsimp only
  rw [(Sandbox.leaves_homeOf _).run_bind, run_homeOf, if_neg hname]
  dsimp only
  rw [hbelow]
  cases below <;> rfl

theorem Locates.file_eq {p : Text} (h : Locates s path p) : file s path = .ok p := by
  cases h with
  | plain huser =>
    rw [file, filePath, huser]
    rfl
  | below huser hname hhome hunder =>
    exact file_of_user huser hname (Option.bind_eq_some_iff.2 ⟨_, hhome, hunder⟩)

theorem Misses.file_eq (h : Misses s path failure) : file s path = .error failure := by
  cases h with
  | noHome huser hname hhome =>
    refine file_of_user huser hname (Option.bind_eq_none_iff.2 fun home h => ?_)
    exact Path.under?_eq_none_iff.2 (hhome home h)
  | nulInUser huser hname =>
    have hnul : '\x00' ∈ (some _).getD [] := hname
    rw [file, filePath, huser]
    dsimp only
    rw [(Sandbox.leaves_homeOf _).run_bind, run_homeOf, if_pos hnul]
    rfl

/-- The home of a user with a name is the one that is listed, whatever the variable says. -/
example :
    file { environment := [("HOME".toList, "/home/a".toList)]
           homes := [(some "root".toList, "/root/".toList)] } (some "~root/c.yaml".toList) =
      .ok "/root/c.yaml".toList := rfl

/-! ### Faults -/

/-- Whether the file of settings is there and holds the text `t`. -/
def Holds (s : Sandbox) (path : Option Text) (t : Text) : Prop :=
  ∃ p bytes, Locates s path p ∧ s.read (Text.spelling p) = .ok bytes ∧ Utf8.decode bytes = .ok t

/-- The entries of the file of settings. -/
def entries (s : Sandbox) (path : Option Text) : Except LoadFailure (List (Value × Value)) :=
  ((readFile Sandbox.host path).run s).1

/-- The variables that have a value. -/
def environment (s : Sandbox) : Environment :=
  ((readEnvironment Sandbox.host variableNames).run s).1

/-- What breaks off the loading without being a fault of the settings. -/
inductive Breaks (s : Sandbox) (path : Option Text) : LoadFailure → Prop
  /-- the file is nowhere -/
  | nowhere {failure : LoadFailure} (hmisses : Misses s path failure) : Breaks s path failure
  /-- a name in the path is too long, or all of it -/
  | unreachable {p : Text} (hfile : Locates s path p)
      (hread : s.read (Text.spelling p) = .error .nameTooLong) :
      Breaks s path (.unreachable p .nameTooLong)
  /-- the file is not UTF-8 -/
  | undecodable {p : Text} {bytes : Bytes} {fault : Utf8.Fault} (hfile : Locates s path p)
      (hread : s.read (Text.spelling p) = .ok bytes) (hdecode : Utf8.decode bytes = .error fault) :
      Breaks s path (.undecodable fault)
  /-- the file names a value that there is not -/
  | impossible {t : Text} {what : Yaml.Impossible} (hholds : Holds s path t)
      (hyaml : s.document (unifyLineEnds t) = .error (.impossible what)) :
      Breaks s path (.impossible what)

/-! ### Entries of the file -/

theorem entries_of_misses (h : Misses s path failure) : entries s path = .error failure := by
  have hfile : ((filePath Sandbox.host path).run s).1 = .error failure := h.file_eq
  rw [entries, readFile, (Sandbox.leaves_filePath path).run_bind, hfile]
  rfl

theorem entries_of_locates {p : Text} (h : Locates s path p) :
    entries s path = ((readAt Sandbox.host path.isSome p).run s).1 := by
  have hfile : ((filePath Sandbox.host path).run s).1 = .ok p := h.file_eq
  rw [entries, readFile, (Sandbox.leaves_filePath path).run_bind, hfile]

theorem entries_of_read_eq_error {p : Text} {fault : FileFault} (h : Locates s path p)
    (hread : s.read (Text.spelling p) = .error fault) :
    entries s path = entriesWithout path.isSome p fault := by
  have hhost : ((Sandbox.host.read (Text.spelling p)).run s).1 = .error fault := hread
  rw [entries_of_locates h, readAt, (Sandbox.leaves_read _).run_bind, hhost]
  rfl

theorem entries_of_read_eq_ok {p : Text} {bytes : Bytes} (h : Locates s path p)
    (hread : s.read (Text.spelling p) = .ok bytes) :
    entries s path = (Utf8.decode bytes).mapError LoadFailure.undecodable >>= fun t =>
      documentEntries (s.document (unifyLineEnds t)) := by
  have hhost : ((Sandbox.host.read (Text.spelling p)).run s).1 = .ok bytes := hread
  rw [entries_of_locates h, readAt, (Sandbox.leaves_read _).run_bind, hhost]
  dsimp only
  cases Utf8.decode bytes <;> rfl

/-- The settings come from the entries of the file and the variables. -/
theorem run_load : ((load Sandbox.host path overrides).run s).1 =
    entries s path >>= fun es => assemble es (environment s) overrides := by
  rw [load, (Sandbox.leaves_readFile path).run_bind, entries]
  cases ((readFile Sandbox.host path).run s).1 with
  | error failure => rfl
  | ok es => rfl

/-! ### Faults of the file -/

/-- A file that holds a text gives what its document says. -/
theorem Holds.entries_eq {t : Text} (h : Holds s path t) :
    entries s path = documentEntries (s.document (unifyLineEnds t)) := by
  obtain ⟨p, bytes, hfile, hread, hdecode⟩ := h
  rw [entries_of_read_eq_ok hfile hread, hdecode]
  rfl

theorem Breaks.entries_eq (h : Breaks s path failure) : entries s path = .error failure := by
  cases h with
  | nowhere hmisses => exact entries_of_misses hmisses
  | unreachable hfile hread =>
    rw [entries_of_read_eq_error hfile hread]
    rfl
  | undecodable hfile hread hdecode =>
    rw [entries_of_read_eq_ok hfile hread, hdecode]
    rfl
  | impossible hholds hyaml =>
    rw [hholds.entries_eq, hyaml]
    rfl

end Settings

end CrateDocs
