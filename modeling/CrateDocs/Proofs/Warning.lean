import CrateDocs.Proofs.Opacity
import CrateDocs.Proofs.Strictness

namespace CrateDocs

/-!
# Warnings and refusals

A lenient conversion warns of the links to the package that are not recognised, and a strict one
refuses the first of them, unless a repeated title comes before it.

* `Report.warnings` are the warnings among what is told, and `Report.IsQuiet` says that there are
  none;
* `Policy.doubt?` is the address of the package on a line that is not recognised;
* `Policy.warnings_convertLine` is the step: a line is warned of for its doubt, and for nothing
  else;
* `Policy.warnings_convertLines` is the run;
* `Policy.offends_insistent_iff` — the strict policy is offended by doubts and repeated titles, and
  `Policy.offends_insistent_iff_warned` says it of the lines that the lenient conversion warns of;
* `Policy.warnings_of_convert` — the warnings of the lenient conversion, and the error of the strict
  one from them.
-/

/-! ### The warnings of a report -/

namespace Report

variable {α β : Type} {x : Report α} {f : α → Report β}

/-- The warnings among the events, in order. -/
def warnings (x : Report α) : List Event := x.events.filter (·.level = .warning)

/-- Whether there is no warning. -/
def IsQuiet (x : Report α) : Prop := x.warnings = []

theorem isQuiet_pure (a : α) : (pure a : Report α).IsQuiet := rfl

/-- The warnings of a sequence that comes to its second part are those of both parts. -/
theorem warnings_bind_of_ok {a : α} (h : x.result = .ok a) :
    (x >>= f).warnings = x.warnings ++ (f a).warnings := by
  rw [warnings, events_bind, h, List.filter_append, warnings, warnings]

theorem warnings_bind_of_error {reason : Failure} (h : x.result = .error reason) :
    (x >>= f).warnings = x.warnings := by
  rw [warnings, events_bind, h, List.append_nil, warnings]

theorem IsQuiet.warnings_bind (hx : x.IsQuiet) {a : α} (h : x.result = .ok a) :
    (x >>= f).warnings = (f a).warnings := by
  rw [warnings_bind_of_ok h, hx, List.nil_append]

/-- A quiet second part adds no warning. -/
theorem warnings_bind_of_isQuiet (hf : ∀ a, (f a).IsQuiet) : (x >>= f).warnings = x.warnings := by
  cases hresult : x.result with
  | error reason => exact warnings_bind_of_error hresult
  | ok a => rw [warnings_bind_of_ok hresult, hf a, List.append_nil]

/-- A sequence of quiet reports is quiet. -/
theorem IsQuiet.bind (hx : x.IsQuiet) (hf : ∀ a, (f a).IsQuiet) : (x >>= f).IsQuiet :=
  (warnings_bind_of_isQuiet hf).trans hx

end Report

open Report

/-! ### Reading an address -/

theorem Shape.isQuiet_itemKind (c : Captures) : (itemKind c).IsQuiet := by
  unfold itemKind
  split
  case h_1 => rfl
  case h_2 => rfl
  case h_3 word hne _ => cases ItemKind.ofWord? word <;> rfl

theorem Shape.isQuiet_parse (s : Shape) (package remainder : Text) :
    (s.parse package remainder).IsQuiet := by
  unfold parse
  cases s.captures? remainder with
  | none => rfl
  | some c =>
    apply (isQuiet_itemKind c).bind
    intro kind
    cases c.target package kind <;> rfl

theorem Registry.isQuiet_findIn (package url remainder : Text) (shapes : List Shape) :
    (findIn package url remainder shapes).IsQuiet := by
  induction shapes with
  | nil => rfl
  | cons s rest ih =>
    apply (s.isQuiet_parse package remainder).bind
    intro found
    cases found with
    | some t => rfl
    | none => exact ih

/-- An address is read without a warning. -/
theorem Registry.isQuiet_find (r : Registry) (package url : Text) :
    (r.find package url).IsQuiet := by
  unfold find
  cases Url.remainder? package url with
  | none => rfl
  | some remainder => exact isQuiet_findIn package url remainder r.shapes

namespace Context

/-- Whether the line with the index `i` is a top-level header after another header. -/
def RepeatsTitle (lines : List Line) (i : Nat) : Prop :=
  ∃ l, lines[i]? = some l ∧ level? (lines.take i) l.body = some 1 ∧ hasHeader (lines.take i) = true

end Context

namespace Policy

open Context Line

variable {p : Policy} {before lines : List Line} {l : Line} {body url content : Text}
  {o : Offence}

/-! ### Doubts -/

/-- The address that the line `body` after the lines `before` links to, if it is one of the package
that is not recognised. -/
def doubt? (p : Policy) (before : List Line) (body : Text) : Option Text :=
  if isCode before body then none
  else
    match LinkDefinition.ofLine? body with
    | none => none
    | some d =>
      if Url.isOfPackage p.package d.url ∧ p.target? d.url = none then some d.url else none

theorem doubt?_eq_some_iff :
    p.doubt? before body = some url ↔
      p.LinksTo before body url ∧ ∀ t, ¬ p.Recognises url t := by
  rw [← target?_eq_none_iff, doubt?, LinksTo]
  by_cases hcode : isCode before body = true
  · simp [hcode]
  rw [if_neg hcode]
  rw [Bool.not_eq_true] at hcode
  cases hline : LinkDefinition.ofLine? body with
  | none => simp
  | some d =>
    -- A link definition is no header, so that need not be asked.
    have hdepth := LinkDefinition.depth?_of_ofLine? hline
    by_cases hdoubt : Url.isOfPackage p.package d.url = true ∧ p.target? d.url = none
    · simp only [if_pos hdoubt, Option.some.injEq, exists_eq_left']
      constructor
      · rintro rfl
        exact ⟨⟨hcode, hdepth, hdoubt.1, rfl⟩, hdoubt.2⟩
      · rintro ⟨⟨-, -, -, rfl⟩, -⟩
        rfl
    · simp only [if_neg hdoubt, Option.some.injEq, exists_eq_left', reduceCtorEq, false_iff]
      rintro ⟨⟨-, -, hpackage, rfl⟩, hnone⟩
      exact hdoubt ⟨hpackage, hnone⟩

/-- A line that defines no link is not in doubt. -/
theorem doubt?_of_ofLine?_eq_none (h : LinkDefinition.ofLine? body = none) :
    p.doubt? before body = none := by
  rw [doubt?, h]
  split <;> rfl

theorem doubt?_of_ofLine?_eq_some {d : LinkDefinition} (hcode : isCode before body = false)
    (h : LinkDefinition.ofLine? body = some d) : p.doubt? before body =
      if Url.isOfPackage p.package d.url ∧ p.target? d.url = none then some d.url else none := by
  rw [doubt?, h, hcode]
  rfl

/-! ### The warnings of a lenient conversion -/

section Relinking

variable {number : Int} {line : Text} {d : LinkDefinition} {t : Target}

theorem isQuiet_relinkDefinition (ht : p.Recognises d.url t)
    (hoffence : p.offence? d.url t = none) : (p.relinkDefinition number line d).IsQuiet := by
  rw [relinkDefinition, IsQuiet, (Registry.isQuiet_find _ _ _).warnings_bind ht]
  simp only [hoffence]
  rfl

/-- A link to the package that is not recognised is warned of, unless it is refused. -/
theorem warnings_relinkDefinition_of_none
    (hfind : (p.registry.find p.package d.url).result = .ok none) (hstrict : p.strict = false) :
    (p.relinkDefinition number line d).warnings
      = if Url.isOfPackage p.package d.url then [.urlKept number d.url] else [] := by
  rw [relinkDefinition, (Registry.isQuiet_find _ _ _).warnings_bind hfind]
  cases hpackage : Url.isOfPackage p.package d.url with
  | false => rfl
  | true =>
    simp only [hstrict]
    rfl

end Relinking

theorem offence?_unchecked {t : Target} : p.unchecked.offence? url t = none :=
  offence?_of_eq_none rfl rfl

section Default

variable (hp : p.registry = Registry.default)

include hp

/-- A line of text is warned of for its doubt. -/
theorem warnings_relink_unchecked (hcode : isCode before body = false) (number : Int) :
    (p.unchecked.relink number body).warnings
      = ((p.doubt? before body).map (Event.urlKept number)).toList := by
  cases hline : LinkDefinition.ofLine? body with
  | none =>
    rw [relink, hline, doubt?_of_ofLine?_eq_none hline]
    rfl
  | some d =>
    have hrelink : p.unchecked.relink number body = p.unchecked.relinkDefinition number body d := by
      rw [relink, hline]
    rw [hrelink, doubt?_of_ofLine?_eq_some hcode hline]
    cases htarget : p.target? d.url with
    | some t =>
      have ht : p.unchecked.Recognises d.url t := target?_eq_some_iff.1 htarget
      rw [isQuiet_relinkDefinition ht offence?_unchecked]
      simp
    | none =>
      have hfind : (p.unchecked.registry.find p.unchecked.package d.url).result = .ok none :=
        result_find_of_not_recognises hp (target?_eq_none_iff.1 htarget)
      have hpackage : p.unchecked.package = p.package := rfl
      rw [warnings_relinkDefinition_of_none hfind rfl, hpackage]
      cases Url.isOfPackage p.package d.url <;> simp

/-- **The step.** A line is warned of for its doubt, and for nothing else. -/
theorem warnings_convertLine (before : List Line) (l : Line) :
    (p.unchecked.convertLine (Position.after before) l).warnings
      = ((p.doubt? before l.body).map (Event.urlKept (before.length + 1))).toList := by
  rw [convertLine, Position.role_after]
  by_cases hcode : isCode before l.body = true
  · have hdoubt : p.doubt? before l.body = none := if_pos hcode
    rw [if_pos hcode, hdoubt]
    rfl
  rw [if_neg hcode]
  rw [Bool.not_eq_true] at hcode
  cases hdepth : Header.depth? l.body with
  | some depth =>
    -- A header is dropped or raised, and defines no link.
    rw [doubt?_of_ofLine?_eq_none (Header.ofLine?_of_depth? hdepth)]
    rcases depth with _ | _ | depth
    · rfl
    · simp only [unchecked, Bool.and_false, Bool.false_eq_true, if_false]
      rfl
    · rfl
  | none =>
    by_cases hgap : (endsInTitle before && Text.isAllBlank l.body) = true
    · have hblank : Text.isAllBlank l.body = true := (Bool.and_eq_true_iff.1 hgap).2
      simp only [hgap, if_true]
      rw [doubt?_of_ofLine?_eq_none (LinkDefinition.ofLine?_of_isAllBlank hblank)]
      rfl
    · simp only [hgap, Bool.false_eq_true, if_false]
      rw [warnings_bind_of_isQuiet fun body => isQuiet_pure _, warnings_relink_unchecked hp hcode]
      rfl

/-- Nothing stops a lenient conversion. -/
theorem exists_convertLine_unchecked (before : List Line) (l : Line) :
    ∃ text, (p.unchecked.convertLine (Position.after before) l).result = .ok text := by
  simp only [result_convertLine]
  exact (exists_part_eq_ok_iff (p := p.unchecked) hp).2 fun _ => p.not_offends_unchecked

/-- **The run.** Lines are warned of for their doubts, in order. -/
theorem warnings_convertLines (before lines : List Line) :
    (p.unchecked.convertLines (Position.after before) lines).warnings =
      (lines.mapIdx fun i l => (p.doubt? (before ++ lines.take i) l.body).map
        (Event.urlKept (before.length + i + 1))).reduceOption := by
  -- The lines before grow along the run.
  induction lines generalizing before with
  | nil => rfl
  | cons l rest ih =>
    obtain ⟨text, htext⟩ := exists_convertLine_unchecked hp before l
    have hevents := (convertLines_cons_of_ok htext rest).1
    have hfirst := warnings_convertLine hp before l
    have hrest := ih (before ++ [l])
    have hlater : ∀ i, before ++ [l] ++ rest.take i = before ++ (l :: rest).take (i + 1) := by
      intro i
      rw [List.take_succ_cons, List.append_assoc, List.singleton_append]
    have hnumber : ∀ i : Nat,
        ((before ++ [l]).length + i + 1 : Int) = before.length + (i + 1 : Nat) + 1 := by
      intro i
      rw [List.length_append, List.length_singleton]
      omega
    simp only [hlater, hnumber] at hrest
    rw [warnings] at hfirst hrest
    have hcons : ∀ (e : Option Event) (es : List (Option Event)),
        (e :: es).reduceOption = e.toList ++ es.reduceOption := by
      intro e es
      cases e <;> simp
    rw [warnings, hevents, List.filter_append, Position.next_after, hfirst, hrest,
      List.mapIdx_cons, hcons, List.take_zero, List.append_nil]
    rfl

theorem warnings_convert_unchecked (content : Text) :
    (p.unchecked.convert content).warnings =
      ((ofText content).mapIdx fun i l => (p.doubt? ((ofText content).take i) l.body).map
        (Event.urlKept (i + 1))).reduceOption := by
  rw [convert, ← Position.after_nil, warnings_convertLines hp []]
  simp only [List.nil_append, List.length_nil, Int.natCast_zero, Int.zero_add]

/-- What is warned of are the lines in doubt. -/
theorem mem_warnings_iff {e : Event} : e ∈ (p.unchecked.convert content).warnings ↔
    ∃ (i : Nat) (l : Line) (url : Text), (ofText content)[i]? = some l ∧
      p.doubt? ((ofText content).take i) l.body = some url ∧ e = .urlKept (i + 1) url := by
  rw [warnings_convert_unchecked hp, List.reduceOption_mem_iff, List.mem_iff_getElem?]
  simp only [List.getElem?_mapIdx, Option.map_eq_some_iff, eq_comm (a := e)]
  constructor
  · rintro ⟨i, l, hl, url, hdoubt, he⟩
    exact ⟨i, l, url, hl, hdoubt, he⟩
  · rintro ⟨i, l, url, hl, hdoubt, he⟩
    exact ⟨i, l, hl, url, hdoubt, he⟩

/-! ### The refusal of a strict conversion -/

/-- The strict policy for the same package that expects nothing. -/
def insistent (p : Policy) : Policy := { p.unchecked with strict := true }

omit hp in
/-- The strict policy that expects nothing is offended by doubts and repeated titles. -/
theorem offends_insistent_iff : p.insistent.Offends before body o ↔
    (o = .repeatedTitle ∧ level? before body = some 1 ∧ hasHeader before = true) ∨
      ∃ url, o = .unrecognized url ∧ p.doubt? before body = some url := by
  constructor
  · intro h
    cases h with
    | repeatedTitle _ hlevel hheader => exact .inl ⟨rfl, hlevel, hheader⟩
    | unrecognized hlink _ hnone => exact .inr ⟨_, rfl, doubt?_eq_some_iff.2 ⟨hlink, hnone⟩⟩
    | version _ _ hexpected _ _ => cases hexpected
    | noVersion _ _ hexpected _ _ => cases hexpected
    | crate _ _ hexpected _ _ => cases hexpected
  · rintro (⟨rfl, hlevel, hheader⟩ | ⟨url, rfl, hdoubt⟩)
    · exact .repeatedTitle rfl hlevel hheader
    · obtain ⟨hlink, hnone⟩ := doubt?_eq_some_iff.1 hdoubt
      exact .unrecognized hlink rfl hnone

/-- The line with the index `i` offends the strict policy if it repeats a title, or if the lenient
conversion warns of it. -/
theorem offends_insistent_iff_warned (i : Nat) :
    (∃ l, (ofText content)[i]? = some l ∧
      p.insistent.Offends ((ofText content).take i) l.body o) ↔
      (o = .repeatedTitle ∧ RepeatsTitle (ofText content) i) ∨
        ∃ url, o = .unrecognized url ∧
          Event.urlKept (i + 1) url ∈ (p.unchecked.convert content).warnings := by
  constructor
  · rintro ⟨l, hl, ho⟩
    rcases offends_insistent_iff.1 ho with ⟨rfl, hlevel, hheader⟩ | ⟨url, rfl, hdoubt⟩
    · exact .inl ⟨rfl, l, hl, hlevel, hheader⟩
    · exact .inr ⟨url, rfl, (mem_warnings_iff hp).2 ⟨i, l, url, hl, hdoubt, rfl⟩⟩
  · rintro (⟨rfl, l, hl, hlevel, hheader⟩ | ⟨url, rfl, hwarned⟩)
    · exact ⟨l, hl, offends_insistent_iff.2 (.inl ⟨rfl, hlevel, hheader⟩)⟩
    · obtain ⟨j, l, url', hl, hdoubt, he⟩ := (mem_warnings_iff hp).1 hwarned
      -- The number of a warning says which line it is about.
      obtain ⟨hnumber, rfl⟩ := Event.urlKept.inj he
      obtain rfl : i = j := by omega
      exact ⟨l, hl, offends_insistent_iff.2 (.inr ⟨url, rfl, hdoubt⟩)⟩

/-- **The strict policy refuses what the lenient one warns of.** The lenient conversion warns once
of each link to the package that is not recognised, in order and with the number of its line. The
strict conversion is refused if there is a warning or a repeated title, and then at the first line
of either kind, for what is wrong with that line. -/
theorem warnings_of_convert (content : Text) :
    (p.unchecked.convert content).warnings =
      ((ofText content).mapIdx fun i l => (p.doubt? ((ofText content).take i) l.body).map
        (Event.urlKept (i + 1))).reduceOption ∧
    ((∃ reason, (p.insistent.convert content).result = .error reason) ↔
      (p.unchecked.convert content).warnings ≠ [] ∨ ∃ i, RepeatsTitle (ofText content) i) ∧
    ∀ reason, (p.insistent.convert content).result = .error reason → ∃ e, reason = .refused e ∧
      ((∃ url, Event.urlKept e.number url ∈ (p.unchecked.convert content).warnings ∧
          e.offence = .unrecognized url) ∨
        ∃ i : Nat, RepeatsTitle (ofText content) i ∧ e.number = i + 1 ∧
          e.offence = .repeatedTitle) ∧
      (∀ number url, Event.urlKept number url ∈ (p.unchecked.convert content).warnings →
        e.number ≤ number) ∧
      ∀ i : Nat, RepeatsTitle (ofText content) i → e.number ≤ i + 1 := by
  have hstrict : p.insistent.registry = .default := hp
  refine ⟨warnings_convert_unchecked hp content, ?refused, ?first⟩
  case refused =>
    rw [result_convert, exists_joinParts_parts_eq_error_iff hstrict]
    constructor
    · rintro ⟨i, l, hl, o, ho⟩
      rcases (offends_insistent_iff_warned hp i).1 ⟨l, hl, ho⟩ with
        ⟨-, hrepeats⟩ | ⟨url, -, hwarned⟩
      · exact .inr ⟨i, hrepeats⟩
      · exact .inl (List.ne_nil_of_mem hwarned)
    · rintro (hwarned | ⟨i, hrepeats⟩)
      · obtain ⟨e, he⟩ := List.exists_mem_of_ne_nil _ hwarned
        obtain ⟨i, -, url, -, -, rfl⟩ := (mem_warnings_iff hp).1 he
        obtain ⟨l, hl, ho⟩ := (offends_insistent_iff_warned hp i).2 (.inr ⟨url, rfl, he⟩)
        exact ⟨i, l, hl, _, ho⟩
      · obtain ⟨l, hl, ho⟩ := (offends_insistent_iff_warned hp i).2 (.inl ⟨rfl, hrepeats⟩)
        exact ⟨i, l, hl, _, ho⟩
  case first =>
    intro reason hreason
    rw [result_convert] at hreason
    obtain ⟨i, l, o, hl, ho, rfl, hfirst⟩ := (joinParts_parts_eq_error_iff hstrict).1 hreason
    -- A line that offends the strict policy is not before the refused one.
    have hle : ∀ (j : Nat) (other : Offence), (∃ l', (ofText content)[j]? = some l' ∧
        p.insistent.Offends ((ofText content).take j) l'.body other) → (i : Int) + 1 ≤ j + 1 := by
      rintro j other ⟨l', hl', hother⟩
      by_contra hlt
      exact hfirst j (by omega) l' hl' other hother
    refine ⟨_, rfl, ?_, ?_, ?_⟩
    · rcases (offends_insistent_iff_warned hp i).1 ⟨l, hl, ho.1⟩ with
        ⟨rfl, hrepeats⟩ | ⟨url, rfl, hwarned⟩
      · exact .inr ⟨i, hrepeats, rfl, rfl⟩
      · exact .inl ⟨url, hwarned, rfl⟩
    · intro number url hwarned
      obtain ⟨j, -, url', -, -, he⟩ := (mem_warnings_iff hp).1 hwarned
      obtain ⟨rfl, rfl⟩ := Event.urlKept.inj he
      exact hle j _ ((offends_insistent_iff_warned hp j).2 (.inr ⟨url, rfl, hwarned⟩))
    · intro j hrepeats
      exact hle j _ ((offends_insistent_iff_warned hp j).2 (.inl ⟨rfl, hrepeats⟩))

end Default

/-- A link in a block, one that is not recognised, and a second title after it. -/
theorem warnings_of_convert_block :
    let p : Policy := ⟨"serde".toList, by decide, none, none, true, .default⟩
    let content := ("# A\n\n```\n[x]: https://docs.rs/serde/1.0/x.html\n```\n" ++
      "[y]: https://docs.rs/serde/1.0/y.html\n# B").toList
    (p.unchecked.convert content).warnings
        = [.urlKept 6 "https://docs.rs/serde/1.0/y.html".toList] ∧
      ∃ e, (p.insistent.convert content).result = .error (.refused e) ∧ e.number ≤ 6 := by
  intro p content
  obtain ⟨hwarnings, hrefused, hfirst⟩ := warnings_of_convert (p := p) rfl content
  have hone : (p.unchecked.convert content).warnings
      = [.urlKept 6 "https://docs.rs/serde/1.0/y.html".toList] := by
    rw [hwarnings]
    decide +kernel
  rw [hone] at hrefused hfirst
  obtain ⟨reason, hreason⟩ := hrefused.2 (.inl (List.cons_ne_nil _ _))
  obtain ⟨e, rfl, -, hle, -⟩ := hfirst reason hreason
  exact ⟨hone, e, hreason, hle 6 _ (List.mem_singleton_self _)⟩

end Policy

end CrateDocs
