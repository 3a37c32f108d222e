import CrateDocs.Proofs.Output
import CrateDocs.Proofs.Strictness

namespace CrateDocs

/-!
# Documents that stay as they are

A conversion moves each header one level up and replaces the links that are recognised. So a
document stays as it is just if it has neither, and after as many conversions as a header has levels
it has neither any more.

* `Policy.IsSettled` says that a document has no headers and no links that are recognised;
* `Policy.rendering_of_isSettled` — such a document stays as it is;
* `Policy.depth_of_convert` is the step: each header of the output was one level further down;
* `Policy.depth_of_convertTimes` is the run, for conversions one after the other;
* `Policy.convert_eq_self_iff` — the documents that stay as they are, and that six conversions make
  one of every document.
-/

/-! ### Depths of headers -/

theorem Header.depth?_le_six {line : Text} {n : Nat} (h : depth? line = some n) : n ≤ 6 := by
  simp only [depth?] at h
  split at h
  case isTrue hmarks =>
    have hdepth := Option.some.inj h
    omega
  case isFalse => cases h

namespace Context

variable {before lines : List Line} {l : Line}

/-- A header is read as its depth and the text after its `#`. -/
theorem header?_eq_map (before : List Line) (l : Line) :
    header? before l = (level? before l.body).map fun depth => (depth, Header.title l.body) := by
  rw [header?, level?, Fence.onText]
  split <;> rfl

/-- Lines without headers do not end in a title. -/
theorem endsInTitle_of_scan
    (h : Fence.scan (Fence.onText Header.read?) false lines = []) : endsInTitle lines = false := by
  rcases List.eq_nil_or_concat lines with rfl | ⟨before, l, rfl⟩
  · rfl
  · rw [List.concat_eq_append] at h ⊢
    rw [Fence.scan_concat] at h
    have hlast : header? before l = none := by
      simpa [header?] using (List.append_eq_nil_iff.1 h).2
    rw [header?_eq_map, Option.map_eq_none_iff] at hlast
    rw [endsInTitle_concat, hlast]
    rfl

end Context

/-- The headers of a document have one to six levels. -/
theorem Document.depth_of_mem_headers {content : Text} {header : Nat × Text}
    (h : header ∈ headers content) : 1 ≤ header.1 ∧ header.1 ≤ 6 := by
  obtain ⟨i, l, -, hread⟩ := Fence.exists_of_mem_scan h
  change Context.header? _ l = some header at hread
  rw [Context.header?_eq_map, Option.map_eq_some_iff] at hread
  obtain ⟨depth, hlevel, rfl⟩ := hread
  rw [Context.level?] at hlevel
  split at hlevel
  case isTrue => cases hlevel
  case isFalse =>
    have hne : depth ≠ 0 := by
      rintro rfl
      exact Header.depth?_ne_zero l.body hlevel
    exact ⟨Nat.one_le_iff_ne_zero.2 hne, Header.depth?_le_six hlevel⟩

namespace Policy

open Context Fence Line

variable {p : Policy} {before lines : List Line} {l : Line} {content out : Text}

/-! ### Documents without headers and links -/

/-- Whether a document has no headers, and no links that are recognised. -/
def IsSettled (p : Policy) (content : Text) : Prop :=
  Document.headers content = [] ∧ ∀ d ∈ Document.definitions content, ∀ t, ¬ p.Recognises d.url t

/-- A line that is no header, after lines that do not end in a title, stays as it is unless its
link is recognised. -/
theorem rendered_eq_self (htitle : endsInTitle before = false)
    (hheader : header? before l = none)
    (hlink : isCode before l.body = false → ∀ d, LinkDefinition.ofLine? l.body = some d →
      ∀ t, ¬ p.Recognises d.url t) : p.rendered before l = some l := by
  by_cases hcode : isCode before l.body = true
  · exact rendered_of_isCode hcode
  rw [Bool.not_eq_true] at hcode
  have hdepth : Header.depth? l.body = none := by
    rw [header?_eq_map, Option.map_eq_none_iff, level?, hcode] at hheader
    exact hheader
  have hrole : (Position.after before).role l.body = .text := by
    rw [Position.role_after, hcode, hdepth, htitle]
    rfl
  have hsame : p.relinked l.body = l.body := by
    rcases p.relinked_cases l.body with ⟨hsame, -⟩ | ⟨d, t, hd, ht, -, -⟩
    · exact hsame
    · exact absurd ht (hlink hcode d hd t)
  rw [rendered, hrole]
  simp only [hsame]

/-- Lines without headers and links that are recognised stay as they are. -/
theorem rendering_eq_self (hheaders : scan (onText Header.read?) false lines = [])
    (hlinks : ∀ d ∈ scan (onText fun l => LinkDefinition.ofLine? l.body) false lines,
      ∀ t, ¬ p.Recognises d.url t) : p.rendering lines = lines := by
  -- What a line becomes depends on the lines before it, so the induction goes from the end.
  induction lines using List.reverseRecOn with
  | nil => rfl
  | append_singleton before l ih =>
    rw [scan_concat, List.append_eq_nil_iff] at hheaders
    rw [scan_concat, List.forall_mem_append] at hlinks
    have hheader : header? before l = none := by
      simpa [header?] using hheaders.2
    have hself : p.rendered before l = some l := by
      apply rendered_eq_self (endsInTitle_of_scan hheaders.1) hheader
      intro hcode d hd
      apply hlinks.2 d
      rw [hcode, Option.mem_toList]
      exact hd
    rw [rendering_concat, ih hheaders.1 hlinks.1, hself, Option.toList_some]

theorem rendering_of_isSettled (h : p.IsSettled content) :
    join (p.rendering (ofText content)) = content := by
  rw [rendering_eq_self h.1 h.2, join_ofText]

/-! ### One conversion -/

/-- **The step.** Each header of the output was one level further down in the input. -/
theorem depth_of_convert (hr : p.registry.Cuts) (h : (p.convert content).result = .ok out)
    {header : Nat × Text} (hheader : header ∈ Document.headers out) :
    (header.1 + 1, header.2) ∈ Document.headers content := by
  rw [Document.headers,
    scan_of_convert hr h fun before l hl => header_rendered hr before hl] at hheader
  obtain ⟨⟨depth, title⟩, hmem, hraise⟩ := List.mem_filterMap.1 hheader
  have hpositive : 1 ≤ depth := (Document.depth_of_mem_headers hmem).1
  rw [raise?] at hraise
  split at hraise
  case isTrue => cases hraise
  case isFalse =>
    obtain rfl := Option.some.inj hraise
    show (depth - 1 + 1, title) ∈ Document.headers content
    rw [Nat.sub_add_cancel hpositive]
    exact hmem

/-- No link of the output is recognised. -/
theorem not_recognises_of_convert (hr : p.registry.Cuts)
    (h : (p.convert content).result = .ok out) :
    ∀ d ∈ Document.definitions out, ∀ t, ¬ p.Recognises d.url t := by
  intro d hd
  rw [Document.definitions,
    scan_of_convert hr h fun before l hl => definition_rendered hr before hl] at hd
  obtain ⟨d', -, hinner⟩ := List.mem_filterMap.1 hd
  obtain rfl := Option.some.inj hinner
  exact (p.not_recognises_inner d').1

/-! ### Conversions one after the other -/

/-- Converts a document so many times, each time what came of it before. -/
def convertTimes (p : Policy) : Nat → Text → Except Failure Text
  | 0, content => .ok content
  | n + 1, content => p.convertTimes n content >>= fun text => (p.convert text).result

theorem convertTimes_succ {n : Nat} {text : Text} (h : p.convertTimes n content = .ok text) :
    p.convertTimes (n + 1) content = (p.convert text).result := by
  rw [convertTimes, h]
  rfl

theorem exists_of_convertTimes_succ {n : Nat} (h : p.convertTimes (n + 1) content = .ok out) :
    ∃ text, p.convertTimes n content = .ok text ∧ (p.convert text).result = .ok out := by
  cases htimes : p.convertTimes n content with
  | error reason =>
    rw [convertTimes, htimes] at h
    cases h
  | ok text =>
    rw [convertTimes_succ htimes] at h
    exact ⟨text, rfl, h⟩

/-- **The run.** Each header of the output was further down in the input, by as many levels as there
were conversions. -/
theorem depth_of_convertTimes (hr : p.registry.Cuts) {n : Nat}
    (h : p.convertTimes n content = .ok out) {header : Nat × Text}
    (hheader : header ∈ Document.headers out) :
    (header.1 + n, header.2) ∈ Document.headers content := by
  induction n generalizing out header with
  | zero =>
    obtain rfl := Except.ok.inj h
    exact hheader
  | succ n ih =>
    obtain ⟨text, htext, hout⟩ := exists_of_convertTimes_succ h
    have hmem := ih htext (depth_of_convert hr hout hheader)
    rwa [show header.1 + 1 + n = header.1 + (n + 1) by omega] at hmem

/-- After six conversions no header is left. -/
theorem headers_of_convertTimes_six (hr : p.registry.Cuts)
    (h : p.convertTimes 6 content = .ok out) : Document.headers out = [] := by
  apply List.eq_nil_iff_forall_not_mem.2
  intro header hheader
  -- It would be the rest of a header of seven levels, and there are none.
  have hpositive := (Document.depth_of_mem_headers hheader).1
  have hdepth : header.1 + 6 ≤ 6 :=
    (Document.depth_of_mem_headers (depth_of_convertTimes hr h hheader)).2
  omega

theorem isSettled_of_convertTimes_six (hr : p.registry.Cuts)
    (h : p.convertTimes 6 content = .ok out) : p.IsSettled out := by
  obtain ⟨text, -, hout⟩ := exists_of_convertTimes_succ h
  exact ⟨headers_of_convertTimes_six hr h, not_recognises_of_convert hr hout⟩

/-- A document that stays as it is stays so. -/
theorem convertTimes_of_convert_eq_self (h : (p.convert content).result = .ok content) (n : Nat) :
    p.convertTimes n content = .ok content := by
  induction n with
  | zero => rfl
  | succ n ih => rw [convertTimes_succ ih, h]

section Default

variable (hp : p.registry = Registry.default)

include hp

theorem exists_convert_unchecked (content : Text) :
    ∃ out, (p.unchecked.convert content).result = .ok out :=
  exists_convert_eq_ok (p := p.unchecked) hp fun _ _ _ _ => p.not_offends_unchecked

/-- Nothing stops conversions one after the other that hold documents to nothing. -/
theorem exists_convertTimes_unchecked (n : Nat) (content : Text) :
    ∃ out, p.unchecked.convertTimes n content = .ok out := by
  induction n with
  | zero => exact ⟨content, rfl⟩
  | succ n ih =>
    obtain ⟨text, htext⟩ := ih
    obtain ⟨out, hout⟩ := exists_convert_unchecked hp text
    exact ⟨out, (convertTimes_succ htext).trans hout⟩

/-- A document without headers and links that are recognised is converted to itself. -/
theorem convert_of_isSettled (h : p.unchecked.IsSettled content) :
    (p.unchecked.convert content).result = .ok content := by
  obtain ⟨out, hout⟩ := exists_convert_unchecked hp content
  have hjoin : joinParts (p.unchecked.parts [] (ofText content)) = .ok out := by
    rw [← result_convert, hout]
  rw [hout, eq_join_of_joinParts_eq_ok hjoin, rendering_of_isSettled h]

/-- **The documents that stay as they are.** A document is converted to itself just if it has no
headers and no link definitions whose addresses are recognised. Every document becomes one of these
after six conversions, and the seventh changes nothing any more. -/
theorem convert_eq_self_iff (content : Text) :
    ((p.unchecked.convert content).result = .ok content ↔ Document.headers content = [] ∧
      ∀ d ∈ Document.definitions content, ∀ t, ¬ p.Recognises d.url t) ∧
    ∃ out, p.unchecked.convertTimes 6 content = .ok out ∧
      (p.unchecked.convert out).result = .ok out ∧
      p.unchecked.convertTimes 7 content = .ok out := by
  have hr : p.unchecked.registry.Cuts := by
    rw [show p.unchecked.registry = .default from hp]
    exact Registry.cuts_default
  refine ⟨⟨fun h => ?_, convert_of_isSettled hp⟩, ?_⟩
  · -- After six conversions it is still the same document.
    have hsettled : p.unchecked.IsSettled content :=
      isSettled_of_convertTimes_six hr (convertTimes_of_convert_eq_self h 6)
    exact hsettled
  · obtain ⟨out, hout⟩ := exists_convertTimes_unchecked hp 6 content
    have hself := convert_of_isSettled hp (isSettled_of_convertTimes_six hr hout)
    exact ⟨out, hout, hself, (convertTimes_succ hout).trans hself⟩

end Default

/-- A header of six levels with a blank line after it, and a link that is recognised. -/
theorem convert_eq_self_iff_six :
    let p := unchecked ⟨"serde".toList, by decide, none, none, true, .default⟩
    let content := "###### A\n\n[de]: https://docs.rs/serde/1.0/serde/de/\n".toList
    p.convertTimes 6 content = .ok "[de]: crate::de\n".toList ∧
      p.convertTimes 7 content = .ok "[de]: crate::de\n".toList := by
  intro p content
  have hsix : p.convertTimes 6 content = .ok "[de]: crate::de\n".toList := by decide +kernel
  obtain ⟨out, hout, -, hseven⟩ := (convert_eq_self_iff
    (p := ⟨"serde".toList, by decide, none, none, true, .default⟩) rfl content).2
  have hsame : (.ok "[de]: crate::de\n".toList : Except Failure Text) = .ok out :=
    hsix.symm.trans hout
  rw [Except.ok.inj hsame] at hsix ⊢
  exact ⟨hsix, hseven⟩

end Policy

end CrateDocs
