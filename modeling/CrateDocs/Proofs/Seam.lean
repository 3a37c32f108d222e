import CrateDocs.Proofs.Lines
import CrateDocs.Proofs.UnknownKind
import Mathlib.Data.List.Induction

namespace CrateDocs

/-!
# Documents one after the other

A document can be cut where no code block is open and the line before is no top-level header. What
comes after such a seam is converted as a document of its own, only that its lines have higher
numbers there.

* `Context.IsSeam` says where lines can be cut;
* `Failure.later` is a failure some lines further on;
* `Policy.part_append` — after a seam, a line gives what it gives without the lines before it;
* `Policy.convert_append` — a document is converted to what its two sides are, one after the other.
-/

/-! ### Lines after a seam -/

namespace Context

variable {first before : List Line} {body : Text}

/-- Whether lines can be cut after the lines `before`: no code block is open there, and no blank
line will be left out. -/
structure IsSeam (before : List Line) : Prop where
  closed : fences before % 2 = 0
  untitled : endsInTitle before = false

theorem fences_append : fences (first ++ before) = fences first + fences before := by
  rw [fences, List.countP_append]
  rfl

namespace IsSeam

variable (h : IsSeam first)

include h

/-- The fences before a seam are as good as none. -/
theorem isCode_append : isCode (first ++ before) body = isCode before body := by
  have hclosed := h.closed
  have hparity : (fences first + fences before) % 2 = fences before % 2 := by omega
  rw [isCode, isCode, fences_append, hparity]

theorem level?_append : level? (first ++ before) body = level? before body := by
  rw [level?, level?, h.isCode_append]

theorem levels_append : levels (first ++ before) = levels first ++ levels before := by
  -- The lines after the seam grow at their end, as `levels_concat` needs it.
  induction before using List.reverseRecOn with
  | nil => simp [levels]
  | append_singleton before l ih =>
    rw [← List.append_assoc, levels_concat, levels_concat, ih, h.level?_append, List.append_assoc]

theorem endsInTitle_append : endsInTitle (first ++ before) = endsInTitle before := by
  have huntitled : decide ((levels first).getLast? = some (some 1)) = false := h.untitled
  rw [endsInTitle, endsInTitle, h.levels_append, List.getLast?_append]
  cases (levels before).getLast? with
  | none => exact huntitled
  | some level => rfl

theorem hasHeader_append : hasHeader (first ++ before) = (hasHeader first || hasHeader before) := by
  rw [hasHeader, h.levels_append, List.any_append]
  rfl

end IsSeam

end Context

/-! ### Failures further on -/

namespace Failure

/-- The failure, if there were `n` more lines before it. -/
def later (n : Nat) : Failure → Failure
  | refused e => refused { e with number := e.number + n }
  | unknownKind word => unknownKind word

end Failure

namespace Policy

open Context

variable (p : Policy)

/-- The number of a line has no part in what becomes of it, and is told if it is refused. -/
theorem result_relink_later (number : Int) (n : Nat) (line : Text) :
    (p.relink (number + n) line).result
      = (p.relink number line).result.mapError (Failure.later n) := by
  unfold relink
  cases LinkDefinition.ofLine? line with
  | none => rfl
  | some d =>
    show (p.relinkDefinition (number + n) line d).result
      = (p.relinkDefinition number line d).result.mapError (Failure.later n)
    unfold relinkDefinition
    cases hfind : (p.registry.find p.package d.url).result with
    | error reason =>
      obtain ⟨word, -, rfl⟩ := Registry.result_find_eq_error_iff.1 hfind
      rw [Report.result_bind_of_error hfind, Report.result_bind_of_error hfind]
      rfl
    | ok found =>
      rw [Report.result_bind_of_ok hfind, Report.result_bind_of_ok hfind]
      cases found with
      | some t =>
        cases hoffence : p.offence? d.url t with
        | some o => simp only [hoffence]; rfl
        | none => simp only [hoffence]; rfl
      | none => cases Url.isOfPackage p.package d.url <;> cases p.strict <;> rfl

/-! ### Parts after a seam -/

section Seam

variable {first : List Line} (h : IsSeam first)
  (hstrict : p.strict = true → hasHeader first = false)

include h hstrict

/-- **After a seam, a line gives what it gives without the lines before the seam.** A strict
policy must not know of a header there. -/
theorem part_append (before : List Line) (l : Line) :
    p.part (first ++ before) l = (p.part before l).mapError (Failure.later first.length) := by
  have hnumber :
      ((first ++ before).length + 1 : Int) = (before.length + 1 : Int) + first.length := by
    rw [List.length_append]
    omega
  have hrepeated : (p.strict && hasHeader (first ++ before)) = (p.strict && hasHeader before) := by
    rw [h.hasHeader_append]
    cases hp : p.strict with
    | false => rfl
    | true => simp [hstrict hp]
  rw [part, part, h.isCode_append, h.endsInTitle_append, hrepeated, hnumber]
  by_cases hcode : isCode before l.body = true
  · rw [if_pos hcode, if_pos hcode]
    rfl
  rw [if_neg hcode, if_neg hcode]
  cases hdepth : Header.depth? l.body with
  | none =>
    by_cases hgap : (Text.isAllBlank l.body && endsInTitle before) = true
    · simp only [hgap, if_true]
      rfl
    · simp only [hgap, result_relink_later]
      cases (p.relink (before.length + 1) l.body).result <;> rfl
  | some depth =>
    rcases depth with _ | _ | depth
    · rfl
    · cases p.strict && hasHeader before <;> rfl
    · rfl

theorem parts_later (before lines : List Line) :
    p.parts (first ++ before) lines
      = (p.parts before lines).map (·.mapError (Failure.later first.length)) := by
  induction lines generalizing before with
  | nil => rfl
  | cons l rest ih =>
    rw [parts_cons, parts_cons, p.part_append h hstrict, List.append_assoc, ih]
    rfl

end Seam

/-- The parts of lines are those of the first of them and then those of the others after them. -/
theorem parts_append (before first lines : List Line) :
    p.parts before (first ++ lines) = p.parts before first ++ p.parts (before ++ first) lines := by
  induction first generalizing before with
  | nil => simp
  | cons l rest ih =>
    rw [List.cons_append, parts_cons, parts_cons, ih, List.append_assoc]
    rfl

end Policy

/-! ### Parts one after the other -/

/-- Parts are joined to what those of the two sides are, one after the other. -/
theorem joinParts_append (first second : List (Except Failure Text)) :
    joinParts (first ++ second)
      = (joinParts first).bind fun out => (joinParts second).map (out ++ ·) := by
  induction first with
  | nil =>
    show joinParts second = (joinParts second).map ([] ++ ·)
    cases joinParts second <;> rfl
  | cons part rest ih =>
    cases part with
    | error reason => rfl
    | ok text =>
      simp only [List.cons_append, joinParts, ih]
      cases joinParts rest with
      | error reason => rfl
      | ok out => cases joinParts second <;> simp [Except.bind, Except.map]

theorem joinParts_mapError (f : Failure → Failure) (parts : List (Except Failure Text)) :
    joinParts (parts.map (·.mapError f)) = (joinParts parts).mapError f := by
  induction parts with
  | nil => rfl
  | cons part rest ih =>
    cases part with
    | error reason => rfl
    | ok text =>
      show (joinParts (rest.map (·.mapError f))).map (text ++ ·)
        = ((joinParts rest).map (text ++ ·)).mapError f
      rw [ih]
      cases joinParts rest <;> rfl

namespace Policy

open Context

/-- **Conversion goes on at a seam.** If a document ends with a line feed at a seam, and a strict
policy has not seen a header in it, then it and what follows it are converted each on its own. A
failure of the first document is the failure of both; and a failure of the second one is told for a
line that is as many lines further on as the first has. -/
theorem convert_append (p : Policy) {first : Text}
    (hend : first = [] ∨ first.getLast? = some '\n') (hseam : IsSeam (Line.ofText first))
    (hstrict : p.strict = true → hasHeader (Line.ofText first) = false) (second : Text) :
    (∀ reason, (p.convert first).result = .error reason →
      (p.convert (first ++ second)).result = .error reason) ∧
    ∀ out, (p.convert first).result = .ok out →
      (∀ reason, (p.convert second).result = .error reason →
        (p.convert (first ++ second)).result
          = .error (reason.later (Line.ofText first).length)) ∧
      ∀ out', (p.convert second).result = .ok out' →
        (p.convert (first ++ second)).result = .ok (out ++ out') := by
  have hsecond : joinParts (p.parts (Line.ofText first) (Line.ofText second))
      = (p.convert second).result.mapError (Failure.later (Line.ofText first).length) := by
    have hparts := p.parts_later hseam hstrict [] (Line.ofText second)
    rw [List.append_nil] at hparts
    rw [hparts, joinParts_mapError, result_convert]
  have hboth : (p.convert (first ++ second)).result = (p.convert first).result.bind fun out =>
      ((p.convert second).result.mapError (Failure.later (Line.ofText first).length)).map
        (out ++ ·) := by
    rw [result_convert, Line.ofText_append hend, parts_append, joinParts_append, List.nil_append,
      hsecond, ← result_convert]
  rw [hboth]
  refine ⟨?_, fun out hout => ⟨?_, ?_⟩⟩
  · intro reason hreason
    rw [hreason]
    rfl
  · intro reason hreason
    rw [hout, hreason]
    rfl
  · intro out' hout'
    rw [hout, hout']
    rfl

/-- After a code block of three lines, the second title of what follows is refused on line five. -/
theorem convert_append_block :
    (convert ⟨"serde".toList, by decide, none, none, true, .default⟩
        ("```\n# code\n```\n".toList ++ "# Title\n# Other\n".toList)).result
      = .error (.refused ⟨5, "# Other".toList, .repeatedTitle⟩) := by
  have hseam : IsSeam (Line.ofText "```\n# code\n```\n".toList) := ⟨by decide, by decide⟩
  have hfirst : (convert ⟨"serde".toList, by decide, none, none, true, .default⟩
      "```\n# code\n```\n".toList).result = .ok "```\n# code\n```\n".toList := by
    decide +kernel
  have hsecond : (convert ⟨"serde".toList, by decide, none, none, true, .default⟩
      "# Title\n# Other\n".toList).result
        = .error (.refused ⟨2, "# Other".toList, .repeatedTitle⟩) := by
    decide +kernel
  exact ((convert_append _ (.inr (by decide)) hseam (fun _ => by decide) _).2 _ hfirst).1 _ hsecond

end Policy

end CrateDocs
