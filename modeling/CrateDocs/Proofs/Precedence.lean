import CrateDocs.Data.Lookup
import CrateDocs.Proofs.Loading
import Mathlib.Data.List.Basic

namespace CrateDocs

/-!
# Precedence of the sources

The settings come from a file, the variables of the environment and overrides. For each setting one
value counts, and nothing else plays a part.

* `Fields.get?_putAll` — of the values that a field is given in turn, the last one counts;
* `Setting` is a single setting and `Setting.resolve` what it is for a value;
* `Settings.ofFields_eq_ok_iff` and `Settings.issues_ofFields` — settings are read one by one, and
  so are their faults;
* `Sources.winner?` is the value that counts, which `Settings.get?_gathered` finds in each field;
* `Settings.load_eq_of_winner` — the result of loading in terms of the values that count.
-/

/-! ### Fields -/

namespace Fields

theorem get?_put (fields : Fields) (name : Text) (v : Value) (other : String) :
    (fields.put name v).get? other =
      if name = other.toList then some v else fields.get? other := by
  rw [get?, put, List.lookup_cons]
  split
  case h_1 h => rw [if_pos (beq_iff_eq.1 h).symm]
  case h_2 h =>
    have hne := beq_eq_false_iff_ne.1 h
    rw [if_neg hne.symm, lookup_filter_ne hne, get?]

/-- Sets fields one after the other. -/
def putAll (fields : Fields) (changes : List (Text × Value)) : Fields :=
  changes.foldl (fun fields change => fields.put change.1 change.2) fields

/-- The last value counts. -/
theorem get?_putAll (fields : Fields) (changes : List (Text × Value)) (name : String) :
    (fields.putAll changes).get? name =
      (changes.reverse.lookup name.toList).or (fields.get? name) := by
  induction changes generalizing fields with
  | nil => rfl
  | cons change rest ih =>
    have hlast : ([change].lookup name.toList).or (fields.get? name) =
        (fields.put change.1 change.2).get? name := by
      rw [get?_put, List.lookup_cons]
      by_cases h : change.1 = name.toList
      · simp [h]
      · rw [if_neg h, beq_false_of_ne (Ne.symm h), List.lookup_nil, Option.none_or]
    calc (fields.putAll (change :: rest)).get? name
        = ((fields.put change.1 change.2).putAll rest).get? name := rfl
      _ = (rest.reverse.lookup name.toList).or ((fields.put change.1 change.2).get? name) :=
          ih _
      _ = ((change :: rest).reverse.lookup name.toList).or (fields.get? name) := by
          rw [List.reverse_cons, List.lookup_append, Option.or_assoc, hlast]

end Fields

/-! ### Single settings -/

theorem Checked.ap_eq_ok_iff {α β : Type} {f : Checked (α → β)} {x : Checked α} {b : β} :
    ap f x = .ok b ↔ ∃ g a, f = .ok g ∧ x = .ok a ∧ g a = b := by
  cases f <;> cases x <;> simp [ap]

/-- The settings of a run, one by one. -/
inductive Setting
  | package
  | version
  | crate
  | strict
  | input
  | output
  | logLevel
  deriving DecidableEq, Repr

namespace Setting

/-- All settings, in the order in which they are read. -/
def all : List Setting := [package, version, crate, strict, input, output, logLevel]

/-- The field that a setting is read from. -/
def field : Setting → String
  | package => "package_name"
  | version => "version"
  | crate => "crate_name"
  | strict => "strict"
  | input => "input"
  | output => "output"
  | logLevel => "log_level"

/-- The variables that name a setting, the one that counts first before the others. -/
def variableNames : Setting → List String
  | package => ["RUSTDOCIFY_PACKAGE_NAME", "CARGO_PKG_NAME"]
  | version => ["RUSTDOCIFY_VERSION", "CARGO_PKG_VERSION"]
  | crate => ["RUSTDOCIFY_CRATE_NAME", "CARGO_CRATE_NAME"]
  | strict | input | output | logLevel => []

/-- What a setting is once it is read. -/
abbrev Content : Setting → Type
  | package => PackageName
  | version | crate | output => Option Spelling
  | strict => Bool
  | input | logLevel => Spelling

/-- Reads the value that a setting is given. -/
def read : (f : Setting) → Value → Checked f.Content
  | package => PackageName.ofValue
  | version | crate | output => Value.orNull Value.toSpelling
  | strict => Value.toTruth
  | input | logLevel => Value.toSpelling

/-- What a setting is that is not given. The package has to be given. -/
def absent? : (f : Setting) → Option f.Content
  | package => none
  | version | crate | output => some none
  | strict => some false
  | input => some Settings.defaultInput
  | logLevel => some Settings.defaultLevel

/-- What a setting is if `given` is the value that it is given. -/
def resolve (f : Setting) (given : Option Value) : Checked f.Content :=
  match given with
  | some v => Checked.under (.field f.field) (f.read v)
  | none => f.absent?.elim (Checked.under (.field f.field) (Checked.fault .missing)) .ok

theorem resolve_some_eq_ok_iff {f : Setting} {v : Value} {a : f.Content} :
    f.resolve (some v) = .ok a ↔ f.read v = .ok a := by
  rw [resolve, Checked.under, mapError_eq_ok_iff]

theorem resolve_none_eq_ok_iff {f : Setting} {a : f.Content} :
    f.resolve none = .ok a ↔ f.absent? = some a := by
  rw [resolve]
  cases f.absent? <;> simp [Checked.under, Checked.fault]

theorem exists_absent?_eq_some_iff {f : Setting} : (∃ a, f.absent? = some a) ↔ f ≠ .package := by
  cases f <;> simp [absent?]

theorem resolve_eq_ok_iff {f : Setting} {given : Option Value} {a : f.Content} :
    f.resolve given = .ok a ↔
      (∀ v, given = some v → f.read v = .ok a) ∧ (given = none → f.absent? = some a) := by
  cases given with
  | none => simp [resolve_none_eq_ok_iff]
  | some v => simp [resolve_some_eq_ok_iff]

/-- Only the package must be given, and what is given must be read. -/
theorem exists_resolve_eq_ok_iff {f : Setting} {given : Option Value} :
    (∃ a, f.resolve given = .ok a) ↔
      (f = .package → given.isSome) ∧ ∀ v, given = some v → ∃ a, f.read v = .ok a := by
  cases given with
  | none => simp [resolve_none_eq_ok_iff, exists_absent?_eq_some_iff]
  | some v => simp [resolve_some_eq_ok_iff]

end Setting

/-- One of the settings. -/
def Settings.get (settings : Settings) : (f : Setting) → f.Content
  | .package => settings.package
  | .version => settings.version
  | .crate => settings.crate
  | .strict => settings.strict
  | .input => settings.input
  | .output => settings.output
  | .logLevel => settings.logLevel

/-! ### Sources -/

namespace Value

/-- The text that a value is, if it is one. -/
def text? : Value → Option Text
  | text t => some t
  | _ => none

/-- Whether a value is null. -/
def isNull : Value → Bool
  | null => true
  | _ => false

end Value

/-- What settings are read from. -/
structure Sources where
  /-- the mapping in the file -/
  entries : List (Value × Value)
  /-- the variables -/
  environment : List (Text × Text)
  /-- the overrides, of which null overrides nothing -/
  overrides : List (Text × Value)

namespace Sources

variable (src : Sources) (f : Setting)

/-- The last value that overrides a setting. -/
def inOverrides? : Option Value :=
  (src.overrides.filter (!·.2.isNull)).reverse.lookup f.field.toList

/-- The first variable that is not empty. -/
def inEnvironment? : Option Value :=
  f.variableNames.findSome? fun name =>
    ((src.environment.lookup name.toList).filter (· ≠ [])).map Value.text

/-- The last value in the file, which may be null. -/
def inFile? : Option Value :=
  (src.entries.filterMap fun entry => entry.1.text?.map (·, entry.2)).reverse.lookup
    f.field.toList

/-- The value that counts: an override comes before a variable, and that before the file. -/
def winner? : Option Value := (src.inOverrides? f).or ((src.inEnvironment? f).or (src.inFile? f))

end Sources

theorem Setting.eq_of_field_eq (f g : Setting) (h : f.field.toList = g.field.toList) : f = g := by
  revert h
  cases f <;> cases g <;> decide

namespace Settings

/-! ### Values that count -/

theorem ofEntries_eq (entries : List (Value × Value)) :
    Fields.ofEntries entries =
      Fields.putAll [] (entries.filterMap fun entry => entry.1.text?.map (·, entry.2)) := by
  rw [Fields.ofEntries, Fields.putAll, List.foldl_filterMap]
  congr
  funext fields entry
  obtain ⟨key, v⟩ := entry
  cases key <;> rfl

theorem withOverrides_eq (overrides : List (Text × Value)) (fields : Fields) :
    withOverrides overrides fields = fields.putAll (overrides.filter (!·.2.isNull)) := by
  rw [withOverrides, Fields.putAll, List.foldl_filter]
  congr
  funext fields entry
  obtain ⟨name, v⟩ := entry
  cases v <;> rfl

/-- The settings that variables can name. -/
def named : List Setting := [.package, .version, .crate]

theorem withEnvironment_eq (env : Environment) (fields : Fields) :
    withEnvironment env fields = fields.putAll (named.filterMap fun f =>
      ((fromEnvironment? env f.variableNames).map Value.text).map (f.field.toList, ·)) := by
  have hnamed : fieldVariables = named.map fun f => (f.field, f.variableNames) := rfl
  rw [withEnvironment, hnamed, Fields.putAll, List.foldl_filterMap, List.foldl_map]
  congr
  funext fields f
  cases fromEnvironment? env f.variableNames <;> rfl

theorem get?_withEnvironment (env : Environment) (fields : Fields) (f : Setting) :
    (withEnvironment env fields).get? f.field =
      ((fromEnvironment? env f.variableNames).map Value.text).or (fields.get? f.field) := by
  rw [withEnvironment_eq, Fields.get?_putAll, ← List.filterMap_reverse,
    lookup_filterMap Setting.eq_of_field_eq]
  cases f <;> rfl

/-- The variables have the values that they have in the sandbox. -/
theorem run_readEnvironment (s : Sandbox) (names : List String) :
    ((readEnvironment Sandbox.host names).run s).1 =
      names.filterMap fun name => (s.environment.lookup name.toList).map (name, ·) := by
  induction names with
  | nil => rfl
  | cons name rest ih =>
    have hvalue : ((Sandbox.host.lookUp name.toList).run s).1 =
        s.environment.lookup name.toList := rfl
    rw [readEnvironment, (Sandbox.leaves_lookUp _).run_bind, hvalue,
      (Sandbox.leaves_readEnvironment _).run_bind, ih, List.filterMap_cons]
    cases s.environment.lookup name.toList <;> rfl

theorem lookup_environment (s : Sandbox) {name : String} (h : name ∈ variableNames) :
    (environment s).lookup name = s.environment.lookup name.toList := by
  rw [environment, run_readEnvironment]
  have hkey : ∀ i j : String, id i = id j → i = j := fun _ _ h => h
  exact (lookup_filterMap hkey _ name variableNames).trans (if_pos h)

theorem variableNames_subset (f : Setting) : f.variableNames ⊆ variableNames := by
  cases f <;> decide

theorem fromEnvironment?_environment (s : Sandbox) (f : Setting) :
    (fromEnvironment? (environment s) f.variableNames).map Value.text =
      f.variableNames.findSome? fun name =>
        ((s.environment.lookup name.toList).filter (· ≠ [])).map Value.text := by
  rw [fromEnvironment?, List.map_findSome?, ← List.head?_filterMap, ← List.head?_filterMap]
  congr 1
  refine List.filterMap_congr fun name hname => ?_
  rw [Function.comp, lookup_environment s (variableNames_subset f hname)]

/-- All fields that the sources give. -/
def gathered (es : List (Value × Value)) (s : Sandbox) (overrides : List (Text × Value)) : Fields :=
  withOverrides overrides (withEnvironment (environment s) (Fields.ofEntries es))

/-- Each field has the value that counts. -/
theorem get?_gathered (es : List (Value × Value)) (s : Sandbox) (overrides : List (Text × Value))
    (f : Setting) :
    (gathered es s overrides).get? f.field =
      Sources.winner? ⟨es, s.environment, overrides⟩ f := by
  rw [gathered, withOverrides_eq, Fields.get?_putAll, get?_withEnvironment,
    fromEnvironment?_environment, ofEntries_eq, Fields.get?_putAll]
  exact congrArg _ (congrArg _ Option.or_none)

/-! ### Settings from fields -/

/-- The settings are read one by one, in order. -/
theorem ofFields_eq (fields : Fields) :
    ofFields fields =
      (Checked.of Settings.mk
        |>.ap (Setting.package.resolve (fields.get? Setting.package.field))
        |>.ap (Setting.version.resolve (fields.get? Setting.version.field))
        |>.ap (Setting.crate.resolve (fields.get? Setting.crate.field))
        |>.ap (Setting.strict.resolve (fields.get? Setting.strict.field))
        |>.ap (Setting.input.resolve (fields.get? Setting.input.field))
        |>.ap (Setting.output.resolve (fields.get? Setting.output.field))
        |>.ap (Setting.logLevel.resolve (fields.get? Setting.logLevel.field))) := by
  have hrequired : fields.required "package_name" PackageName.ofValue =
      Setting.package.resolve (fields.get? Setting.package.field) := by
    rw [Fields.required, Setting.field]
    cases fields.get? "package_name" <;> rfl
  have hoptional : ∀ f : Setting, ∀ a, f.absent? = some a →
      fields.optional f.field f.read a = f.resolve (fields.get? f.field) := by
    intro f a ha
    rw [Fields.optional]
    cases fields.get? f.field with
    | none => rw [Setting.resolve, ha, Option.elim_some]
    | some v => rfl
  rw [ofFields, hrequired, ← hoptional .version _ rfl, ← hoptional .crate _ rfl,
    ← hoptional .strict _ rfl, ← hoptional .input _ rfl, ← hoptional .output _ rfl,
    ← hoptional .logLevel _ rfl]
  rfl

theorem ofFields_eq_ok_iff {fields : Fields} {settings : Settings} :
    ofFields fields = .ok settings ↔
      ∀ f : Setting, f.resolve (fields.get? f.field) = .ok (settings.get f) := by
  rw [ofFields_eq]
  constructor
  · intro h f
    simp only [Checked.ap_eq_ok_iff] at h
    -- The setting that is read last stands outermost.
    obtain ⟨_, _, ⟨_, _, ⟨_, _, ⟨_, _, ⟨_, _, ⟨_, _, ⟨_, _, hmk, hpackage, rfl⟩, hversion, rfl⟩,
      hcrate, rfl⟩, hstrict, rfl⟩, hinput, rfl⟩, houtput, rfl⟩, hlevel, rfl⟩ := h
    obtain rfl := Except.ok.inj hmk
    cases f <;> assumption
  · intro h
    rw [h .package, h .version, h .crate, h .strict, h .input, h .output, h .logLevel]
    rfl

theorem issues_ofFields (fields : Fields) :
    (ofFields fields).issues =
      Setting.all.flatMap fun f => (f.resolve (fields.get? f.field)).issues := by
  rw [ofFields_eq]
  simp [Setting.all, Checked.of]

theorem ofFields_congr {fields others : Fields}
    (h : ∀ f : Setting, fields.get? f.field = others.get? f.field) :
    ofFields fields = ofFields others := by
  simp only [ofFields_eq, h]

/-- There are settings if there is each of them. -/
theorem exists_get_iff {given : Setting → Option Value} :
    (∃ settings : Settings, ∀ f : Setting, f.resolve (given f) = .ok (settings.get f)) ↔
      ∀ f : Setting, ∃ a, f.resolve (given f) = .ok a := by
  constructor
  · rintro ⟨settings, h⟩ f
    exact ⟨_, h f⟩
  · intro h
    obtain ⟨package, hpackage⟩ := h .package
    obtain ⟨version, hversion⟩ := h .version
    obtain ⟨crate, hcrate⟩ := h .crate
    obtain ⟨strict, hstrict⟩ := h .strict
    obtain ⟨input, hinput⟩ := h .input
    obtain ⟨output, houtput⟩ := h .output
    obtain ⟨level, hlevel⟩ := h .logLevel
    refine ⟨⟨package, version, crate, strict, input, output, level⟩, fun f => ?_⟩
    cases f <;> assumption

/-! ### Loading -/

section Gathering

variable {es : List (Value × Value)} {s : Sandbox} {path : Option Text}
  {overrides : List (Text × Value)}

/-- Entries with texts as keys give the settings of all fields, or the faults of these. -/
theorem run_load_of_entries (hentries : entries s path = .ok es)
    (hkeys : ∀ entry ∈ es, isTextKey entry.1 = true) :
    ((load Sandbox.host path overrides).run s).1 =
      (ofFields (gathered es s overrides)).mapError fun issues => .settings (.invalid issues) := by
  rw [run_load, hentries]
  show assemble es (environment s) overrides = _
  rw [assemble, if_pos (List.all_eq_true.2 hkeys), gather, ← gathered]
  cases ofFields (gathered es s overrides) <;> rfl

/-- **The sources of the settings come before each other field by field.** Where the file gives
entries with texts as keys, what counts for a setting is the override, or else the first variable
that is not empty, or else the value in the file. There are settings exactly if the package is
given and all that counts can be read; they are then what is read, and what is not given is as it is
when absent. Otherwise the faults are those of what counts. Nothing else plays a part, so that
sources in which the same values count have the same result. -/
theorem load_eq_of_winner (hentries : entries s path = .ok es)
    (hkeys : ∀ entry ∈ es, isTextKey entry.1 = true) :
    let winner? := Sources.winner? ⟨es, s.environment, overrides⟩
    let r := ((load Sandbox.host path overrides).run s).1
    (∀ settings, r = .ok settings ↔ ∀ f : Setting,
      (∀ v, winner? f = some v → f.read v = .ok (settings.get f)) ∧
      (winner? f = none → f.absent? = some (settings.get f))) ∧
    ((∃ settings, r = .ok settings) ↔
      (winner? .package).isSome ∧ ∀ f v, winner? f = some v → ∃ a, f.read v = .ok a) ∧
    ((¬ ∃ settings, r = .ok settings) → r = .error (.settings (.invalid
      (Setting.all.flatMap fun f => (f.resolve (winner? f)).issues)))) ∧
    ∀ (s' : Sandbox) (path' : Option Text) (overrides' : List (Text × Value))
      (es' : List (Value × Value)), entries s' path' = .ok es' →
      (∀ entry ∈ es', isTextKey entry.1 = true) →
      (∀ f, Sources.winner? ⟨es', s'.environment, overrides'⟩ f = winner? f) →
      ((load Sandbox.host path' overrides').run s').1 = r := by
  intro winner? r
  have hr : r = (ofFields (gathered es s overrides)).mapError
      fun issues => .settings (.invalid issues) := run_load_of_entries hentries hkeys
  have hwinner : ∀ f : Setting, (gathered es s overrides).get? f.field = winner? f :=
    get?_gathered es s overrides
  have hok : ∀ settings, r = .ok settings ↔
      ∀ f : Setting, f.resolve (winner? f) = .ok (settings.get f) := by
    intro settings
    -- The values that count are those of the gathered fields, and only these are read.
    simp only [hr, ← hwinner, ← ofFields_eq_ok_iff, mapError_eq_ok_iff]
  refine ⟨?_, ?_, ?_, ?_⟩
  · simp only [hok, Setting.resolve_eq_ok_iff, implies_true]
  · simp only [hok, exists_get_iff, Setting.exists_resolve_eq_ok_iff, forall_and, forall_eq]
  · intro hnone
    simp only [← hwinner, ← issues_ofFields]
    cases hread : ofFields (gathered es s overrides) with
    | ok settings => exact absurd ⟨settings, by rw [hr, hread]; rfl⟩ hnone
    | error issues =>
      rw [hr, hread]
      rfl
  · intro s' path' overrides' es' hentries' hkeys' hsame
    rw [hr, run_load_of_entries hentries' hkeys', ofFields_congr]
    intro f
    rw [hwinner, get?_gathered, hsame]

end Gathering

/-- A value in the file that could not be read does not matter once it is overridden. -/
theorem load_eq_of_winner_overridden :
    let es : List (Value × Value) := [(.text "input".toList, .int 1)]
    let s : Sandbox :=
      { files := [(.below ".rustdocify.yaml".toList, Utf8.encode "input: 1".toList)]
        environment := [("RUSTDOCIFY_PACKAGE_NAME".toList, []),
          ("CARGO_PKG_NAME".toList, "foo".toList)]
        document := fun _ => .ok (.mapping es) }
    let overrides : List (Text × Value) :=
      [("input".toList, .text "A.md".toList), ("package_name".toList, .null)]
    entries s none = .ok es ∧ (∀ entry ∈ es, isTextKey entry.1 = true) ∧
    ∃ settings, ((load Sandbox.host none overrides).run s).1 = .ok settings ∧
      settings.package.spelling = Text.spelling "foo".toList ∧
      settings.input = Text.spelling "A.md".toList ∧ settings.version = none := by
  intro es s overrides
  have hfile : Locates s none ".rustdocify.yaml".toList := .plain (by decide)
  have hread : s.read (Text.spelling ".rustdocify.yaml".toList) =
      .ok (Utf8.encode "input: 1".toList) := rfl
  have hdecode : Utf8.decode (Utf8.encode "input: 1".toList) = .ok "input: 1".toList := rfl
  have hentries : entries s none = .ok es := Holds.entries_eq ⟨_, _, hfile, hread, hdecode⟩
  have hkeys : ∀ entry ∈ es, isTextKey entry.1 = true := by simp [es, isTextKey]
  obtain ⟨hget, hexists, -, -⟩ := @load_eq_of_winner es s none overrides hentries hkeys
  have hname : PackageName.ofValue (.text "foo".toList) =
      .ok ⟨Text.spelling "foo".toList, by decide, by decide, by decide⟩ := rfl
  have hread : ∀ f v, Sources.winner? ⟨es, s.environment, overrides⟩ f = some v →
      ∃ a, f.read v = .ok a := by
    intro f v hv
    cases f with
    | package =>
      cases hv
      exact ⟨_, hname⟩
    | input =>
      cases hv
      exact ⟨_, rfl⟩
    | _ => cases hv
  obtain ⟨settings, hsettings⟩ := hexists.2 ⟨rfl, hread⟩
  have hcontent := (hget settings).1 hsettings
  have hpackage : _ = settings.package :=
    Except.ok.inj (hname.symm.trans ((hcontent .package).1 _ rfl))
  have hinput : _ = settings.input := Except.ok.inj ((hcontent .input).1 _ rfl)
  have hversion : _ = settings.version := Option.some.inj ((hcontent .version).2 rfl)
  exact ⟨hentries, hkeys, settings, hsettings, by rw [← hpackage], hinput.symm, hversion.symm⟩

end Settings

end CrateDocs
