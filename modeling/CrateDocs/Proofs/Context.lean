import CrateDocs.Conversion

namespace CrateDocs

/-!
# The context of a line

A conversion goes through a document with a position that each line passes on. This file says the
same without it: what a line gives depends on the lines before it alone.

* `Context.isCode` and `Context.level?` say what a line is after the lines before it: code by the
  number of fences, and else perhaps a header;
* `Position.after` computes a position from the lines before it, and `Position.next_after` is the
  step: the next position is computed from one line more;
* `Policy.part` is what a line gives, and `Policy.result_convert` joins the parts of a document.
-/

namespace Context

/-- The number of fences among the lines `before`. -/
def fences (before : List Line) : Nat := before.countP fun l => Fence.isFence l.body

/-- Whether the line `body` after the lines `before` is code: a fence, or a line after an odd
number of fences. -/
def isCode (before : List Line) (body : Text) : Bool :=
  Fence.isFence body || fences before % 2 = 1

/-- The depth of the header that the line `body` after the lines `before` is. Code is none. -/
def level? (before : List Line) (body : Text) : Option Nat :=
  if isCode before body then none else Header.depth? body

/-- The depth of the header that each line is. -/
def levels (lines : List Line) : List (Option Nat) :=
  lines.mapIdx fun i l => level? (lines.take i) l.body

/-- Whether the last of the lines `before` is a top-level header. -/
def endsInTitle (before : List Line) : Bool := (levels before).getLast? = some (some 1)

/-- Whether one of the lines `before` is a header. -/
def hasHeader (before : List Line) : Bool := (levels before).any Option.isSome

variable {before : List Line} {body : Text} {l : Line}

theorem fences_concat :
    fences (before ++ [l]) = fences before + if Fence.isFence l.body then 1 else 0 := by
  simp [fences, List.countP_append, List.countP_singleton]

/-- A line more leaves the depths of the lines before it as they are. -/
theorem levels_concat :
    levels (before ++ [l]) = levels before ++ [level? before l.body] := by
  rw [levels, List.mapIdx_concat, List.take_left' rfl]
  congr 1
  refine List.mapIdx_eq_mapIdx_iff.2 fun i hi => ?_
  rw [List.take_append_of_le_length (Nat.le_of_lt hi)]

theorem endsInTitle_concat :
    endsInTitle (before ++ [l]) = decide (level? before l.body = some 1) := by
  simp [endsInTitle, levels_concat]

theorem hasHeader_concat :
    hasHeader (before ++ [l]) = (hasHeader before || (level? before l.body).isSome) := by
  simp [hasHeader, levels_concat]

end Context

/-! ### Headers and blank lines -/

namespace Header

/-- White space and `#` are different characters. -/
theorem not_isBlank_mark : Text.isBlank '#' = false := by decide

/-- A header starts with `#`. -/
theorem exists_cons_of_depth? {line : Text} {depth : Nat} (h : depth? line = some depth) :
    ∃ rest, line = '#' :: rest := by
  cases line with
  | nil => simp [depth?] at h
  | cons c rest =>
    by_cases hc : c = '#'
    · exact ⟨rest, by rw [hc]⟩
    · simp [depth?, hc] at h

/-- A blank line is no header. -/
theorem depth?_of_isAllBlank {line : Text} (h : Text.isAllBlank line) : depth? line = none := by
  cases hdepth : depth? line with
  | none => rfl
  | some depth =>
    obtain ⟨rest, rfl⟩ := exists_cons_of_depth? hdepth
    simp [Text.isAllBlank, not_isBlank_mark] at h

end Header

/-! ### The position after some lines -/

namespace Position

open Context

/-- The position after the lines `before`. -/
def after (before : List Line) : Position where
  number := before.length + 1
  inBlock := fences before % 2 = 1
  afterTitle := endsInTitle before
  seenHeader := hasHeader before

variable (before : List Line) (l : Line)

theorem after_nil : after [] = {} := rfl

theorem isVerbatim_after (body : Text) :
    Fence.isVerbatim (after before).inBlock body = isCode before body := rfl

/-- Outside code, a line is a gap only where it is blank, and then no header. -/
theorem role_after (body : Text) : (after before).role body =
    if isCode before body then .verbatim
    else
      match Header.depth? body with
      | some 1 => .title
      | some _ => .header
      | none => if endsInTitle before && Text.isAllBlank body then .gap else .text := by
  rw [role, isVerbatim_after, show (after before).afterTitle = endsInTitle before from rfl]
  split
  · rfl
  · -- A blank line is no header, so it does not matter which of the two is asked first.
    cases hblank : Text.isAllBlank body with
    | true => rw [Header.depth?_of_isAllBlank hblank]
    | false =>
      simp only [Bool.and_false, Bool.false_eq_true, if_false]
      rcases Header.depth? body with _ | _ | _ | depth <;> rfl

theorem role_after_eq_title_iff (body : Text) :
    (after before).role body = .title ↔ level? before body = some 1 := by
  rw [role_after, level?]
  grind

theorem role_after_eq_header_iff (body : Text) :
    (after before).role body = .title ∨ (after before).role body = .header ↔
      (level? before body).isSome := by
  rw [role_after, level?]
  grind

/-- **The step.** The position after a line more is the next one. -/
theorem next_after : (after before).next l.body = after (before ++ [l]) := by
  have hblock : Fence.opensAfter (after before).inBlock l.body
      = decide (fences (before ++ [l]) % 2 = 1) := by
    simp only [Fence.opensAfter, after, fences_concat]
    grind
  have htitle : decide ((after before).role l.body = .title) = endsInTitle (before ++ [l]) := by
    rw [endsInTitle_concat, decide_eq_decide]
    exact role_after_eq_title_iff before l.body
  have hseen : ((after before).seenHeader || (after before).role l.body = .title
      || (after before).role l.body = .header) = hasHeader (before ++ [l]) := by
    rw [hasHeader_concat, Bool.or_assoc, ← Bool.decide_or,
      Bool.eq_iff_iff.2 (decide_eq_true_iff.trans (role_after_eq_header_iff before l.body))]
    rfl
  rw [next, hblock, hseen, htitle]
  simp [after]

end Position

/-! ### The parts of a document -/

namespace Policy

open Context

/-- What the line `l` after the lines `before` gives: code as it stands, nothing for a top-level
header and the blank line after it, any other header without its first `#`, and a line of text
with its link. -/
def part (p : Policy) (before : List Line) (l : Line) : Except Failure Text :=
  if isCode before l.body then .ok l.raw
  else
    match Header.depth? l.body with
    | some 1 =>
      if p.strict && hasHeader before then
        .error (.refused ⟨before.length + 1, l.body, .repeatedTitle⟩)
      else .ok []
    | some _ => .ok (l.body.erase '#' ++ l.ending.raw)
    | none =>
      if Text.isAllBlank l.body && endsInTitle before then .ok []
      else (p.relink (before.length + 1) l.body).result.map (· ++ l.ending.raw)

/-- What each of the lines after the lines `before` gives. -/
def parts (p : Policy) (before lines : List Line) : List (Except Failure Text) :=
  lines.mapIdx fun i l => p.part (before ++ lines.take i) l

variable (p : Policy) (before lines : List Line) (l : Line)

@[simp] theorem parts_nil : p.parts before [] = [] := rfl

@[simp] theorem parts_cons :
    p.parts before (l :: lines) = p.part before l :: p.parts (before ++ [l]) lines := by
  simp [parts, List.mapIdx_cons]

@[simp] theorem getElem?_parts (i : Nat) :
    (p.parts before lines)[i]? = lines[i]?.map (p.part (before ++ lines.take i)) := by
  simp [parts]

theorem result_convertLine :
    (p.convertLine (Position.after before) l).result = p.part before l := by
  rw [convertLine, part, Position.role_after]
  by_cases hcode : isCode before l.body
  · simp [hcode]
  rw [if_neg hcode, if_neg hcode]
  cases hdepth : Header.depth? l.body with
  | none =>
    rw [Bool.and_comm (endsInTitle before)]
    by_cases hgap : Text.isAllBlank l.body && endsInTitle before
    · simp [hgap]
    · simp only [hgap, Bool.false_eq_true, if_false, Position.after, Report.result_bind]
      rfl
  | some depth =>
    obtain ⟨rest, hbody⟩ := Header.exists_cons_of_depth? hdepth
    rcases depth with _ | _ | depth
    · exact absurd hdepth (Header.depth?_ne_zero l.body)
    · rw [show (Position.after before).seenHeader = hasHeader before from rfl,
        Bool.and_comm (hasHeader before)]
      by_cases hrepeated : p.strict && hasHeader before
      · simp [hrepeated, Position.after]
      · simp only [hrepeated, Bool.false_eq_true, if_false]
        rfl
    · have hdemote : Header.demote l.body = some rest := by
        rw [Header.demote_of_depth? hdepth, hbody, List.tail_cons]
      simp only [hdemote]
      simp [hbody]

end Policy

/-! ### Joining parts -/

/-- Joins parts up to the first that is missing. -/
def joinParts : List (Except Failure Text) → Except Failure Text
  | [] => .ok []
  | .error reason :: _ => .error reason
  | .ok first :: rest => (joinParts rest).map (first ++ ·)

theorem joinParts_ok_cons_eq_ok_iff {first out : Text} {rest : List (Except Failure Text)} :
    joinParts (.ok first :: rest) = .ok out ↔
      ∃ others, joinParts rest = .ok others ∧ out = first ++ others := by
  rw [joinParts]
  cases joinParts rest <;> simp [Except.map, eq_comm]

theorem joinParts_ok_cons_eq_error_iff {first : Text} {rest : List (Except Failure Text)}
    {reason : Failure} :
    joinParts (.ok first :: rest) = .error reason ↔ joinParts rest = .error reason := by
  rw [joinParts]
  cases joinParts rest <;> simp [Except.map]

/-- Parts are joined if all of them are there. -/
theorem joinParts_eq_ok_iff {parts : List (Except Failure Text)} {out : Text} :
    joinParts parts = .ok out ↔
      ∃ texts : List Text, parts = texts.map .ok ∧ out = texts.flatten := by
  induction parts generalizing out with
  | nil => simp [joinParts, eq_comm]
  | cons part rest ih =>
    cases part with
    | error reason =>
      have hne : ∀ texts : List Text, .error reason :: rest ≠ texts.map .ok := by
        intro texts h
        cases texts <;> simp at h
      simp [joinParts, hne]
    | ok first =>
      rw [joinParts_ok_cons_eq_ok_iff]
      constructor
      · rintro ⟨others, hothers, rfl⟩
        obtain ⟨texts, rfl, rfl⟩ := ih.1 hothers
        exact ⟨first :: texts, rfl, rfl⟩
      · rintro ⟨_ | ⟨text, texts⟩, hparts, rfl⟩
        · simp at hparts
        · simp only [List.map_cons, List.cons.injEq, Except.ok.injEq] at hparts
          obtain ⟨rfl, hrest⟩ := hparts
          exact ⟨texts.flatten, ih.2 ⟨texts, hrest, rfl⟩, rfl⟩

/-- Parts are not joined if one is missing, and the first that is says why. -/
theorem joinParts_eq_error_iff {parts : List (Except Failure Text)} {reason : Failure} :
    joinParts parts = .error reason ↔
      ∃ i : Nat, parts[i]? = some (.error reason) ∧
        ∀ j < i, ∃ text, parts[j]? = some (.ok text) := by
  induction parts with
  | nil => simp [joinParts]
  | cons part rest ih =>
    cases part with
    | error found =>
      constructor
      · rintro ⟨⟩
        exact ⟨0, rfl, by simp⟩
      · rintro ⟨_ | i, hi, hbefore⟩
        · simpa [joinParts] using hi
        · obtain ⟨text, htext⟩ := hbefore 0 (by omega)
          simp at htext
    | ok first =>
      -- The missing part is one of the rest, and its index one less there.
      rw [joinParts_ok_cons_eq_error_iff, ih]
      constructor
      · rintro ⟨i, hi, hbefore⟩
        refine ⟨i + 1, hi, fun j hj => ?_⟩
        cases j with
        | zero => exact ⟨first, rfl⟩
        | succ j => exact hbefore j (by omega)
      · rintro ⟨_ | i, hi, hbefore⟩
        · simp at hi
        · exact ⟨i, hi, fun j hj => hbefore (j + 1) (by omega)⟩

namespace Policy

open Context

variable (p : Policy)

/-- The parts of lines are not joined if a line gives none, and the first such line says why. -/
theorem joinParts_eq_error_iff_part {lines : List Line} {reason : Failure} :
    joinParts (p.parts [] lines) = .error reason ↔
      ∃ (i : Nat) (l : Line), lines[i]? = some l ∧ p.part (lines.take i) l = .error reason ∧
        ∀ j < i, ∀ l', lines[j]? = some l' → ∃ text, p.part (lines.take j) l' = .ok text := by
  rw [joinParts_eq_error_iff]
  simp only [getElem?_parts, List.nil_append, Option.map_eq_some_iff]
  constructor
  · rintro ⟨i, ⟨l, hl, herror⟩, hok⟩
    refine ⟨i, l, hl, herror, fun j hj l' hl' => ?_⟩
    obtain ⟨text, l'', hl'', htext⟩ := hok j hj
    obtain rfl := Option.some.inj (hl'.symm.trans hl'')
    exact ⟨text, htext⟩
  · rintro ⟨i, l, hl, herror, hok⟩
    refine ⟨i, ⟨l, hl, herror⟩, fun j hj => ?_⟩
    -- Before a line that is there, all lines are.
    obtain ⟨hi, -⟩ := List.getElem?_eq_some_iff.1 hl
    have hl' : lines[j]? = some lines[j] := List.getElem?_eq_getElem (by omega)
    obtain ⟨text, htext⟩ := hok j hj _ hl'
    exact ⟨text, _, hl', htext⟩

/-- A run over lines joins what each of them gives after those before it. -/
theorem result_convertLines (before lines : List Line) :
    (p.convertLines (Position.after before) lines).result = joinParts (p.parts before lines) := by
  -- The lines before grow along the run, and the position with them.
  induction lines generalizing before with
  | nil => rfl
  | cons l rest ih =>
    rw [convertLines, Report.result_bind, result_convertLine, parts_cons, Position.next_after]
    cases p.part before l with
    | error reason => rfl
    | ok first =>
      simp only [Report.result_bind, ih, joinParts]
      cases joinParts (p.parts (before ++ [l]) rest) <;> rfl

/-- A document is converted to its parts, joined. -/
theorem result_convert (content : Text) :
    (p.convert content).result = joinParts (p.parts [] (Line.ofText content)) := by
  rw [convert, ← Position.after_nil, result_convertLines]

/-- **A conversion without a position.** A document is converted exactly if each line gives a part
after the lines before it, and then to the parts in order. -/
theorem convert_eq_ok_iff (content out : Text) :
    (p.convert content).result = .ok out ↔
      ∃ texts : List Text,
        (Line.ofText content).mapIdx (fun i l => p.part ((Line.ofText content).take i) l)
          = texts.map .ok ∧ out = texts.flatten := by
  rw [result_convert, joinParts_eq_ok_iff]
  rfl

end Policy

end CrateDocs
