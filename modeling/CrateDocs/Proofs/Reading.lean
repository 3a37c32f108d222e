import CrateDocs.Proofs.Rendering
import Mathlib.Data.List.Induction

namespace CrateDocs

/-!
# Reading a document that was converted

A reader follows the fences of a document from its start, and so tells the code in it from the
text. What it reads in a document that was converted comes line by line from what it reads in the
document, since no fence comes or goes.

* `Fence.scan` reads lines with a block open or not, and `Fence.endsOpen` says whether one is open
  after them;
* `Document.code`, `Document.headers` and `Document.definitions` are what is read;
* `Policy.endsOpen_rendering` and `Policy.isCode_rendering` — the fences of the output open and
  close the same blocks;
* `Policy.scan_rendering` — what is read in the output is what is read in the input, put through a
  function, if that is so of every line.
-/

/-! ### Following the fences -/

namespace Fence

open Context

variable {α : Type}

/-- Whether a block is open after `lines`, where one is open before them or not. -/
def endsOpen (isOpen : Bool) (lines : List Line) : Bool :=
  lines.foldl (fun isOpen l => opensAfter isOpen l.body) isOpen

/-- Reads each line by `f`, which is told whether the line is code. -/
def scan (f : Bool → Line → Option α) : Bool → List Line → List α
  | _, [] => []
  | isOpen, l :: rest =>
    (f (isVerbatim isOpen l.body) l).toList ++ scan f (opensAfter isOpen l.body) rest

/-- Reads a line by `f` unless it is code. -/
def onText (f : Line → Option α) (isCode : Bool) (l : Line) : Option α :=
  if isCode then none else f l

variable {f : Bool → Line → Option α} {isOpen : Bool} {lines before : List Line} {l : Line}

@[simp] theorem endsOpen_concat :
    endsOpen isOpen (lines ++ [l]) = opensAfter (endsOpen isOpen lines) l.body := by
  simp [endsOpen]

theorem scan_append (rest : List Line) :
    scan f isOpen (lines ++ rest) = scan f isOpen lines ++ scan f (endsOpen isOpen lines) rest := by
  induction lines generalizing isOpen with
  | nil => rfl
  | cons l lines ih =>
    rw [List.cons_append, scan, ih, scan, List.append_assoc]
    rfl

theorem scan_singleton : scan f isOpen [l] = (f (isVerbatim isOpen l.body) l).toList :=
  List.append_nil _

/-- A block is open after an odd number of fences. -/
theorem endsOpen_false (before : List Line) :
    endsOpen false before = (Position.after before).inBlock := by
  induction before using List.reverseRecOn with
  | nil => rfl
  | append_singleton before l ih =>
    rw [endsOpen_concat, ih, ← Position.next_after]
    rfl

/-- Following the fences and counting them is the same. -/
theorem isVerbatim_endsOpen (before : List Line) (body : Text) :
    isVerbatim (endsOpen false before) body = isCode before body := by
  rw [endsOpen_false]
  exact Position.isVerbatim_after before body

theorem scan_concat : scan f false (lines ++ [l])
    = scan f false lines ++ (f (isCode lines l.body) l).toList := by
  rw [scan_append, scan_singleton, isVerbatim_endsOpen]

/-- What is read is read on some line after the lines before it. -/
theorem exists_of_mem_scan {a : α} (h : a ∈ scan f false lines) :
    ∃ i l, lines[i]? = some l ∧ f (isCode (lines.take i) l.body) l = some a := by
  induction lines using List.reverseRecOn with
  | nil => cases h
  | append_singleton lines l ih =>
    rw [scan_concat, List.mem_append] at h
    rcases h with h | h
    · obtain ⟨i, l', hl', ha⟩ := ih h
      obtain ⟨hi, -⟩ := List.getElem?_eq_some_iff.1 hl'
      refine ⟨i, l', ?_, ?_⟩
      · rw [List.getElem?_append_left hi, hl']
      · rwa [List.take_append_of_le_length (Nat.le_of_lt hi)]
    · refine ⟨lines.length, l, List.getElem?_concat_length, ?_⟩
      rw [List.take_left' rfl]
      exact Option.mem_toList.1 h

end Fence

/-! ### What is read -/

/-- The depth of a header and the text after its `#`. -/
def Header.read? (l : Line) : Option (Nat × Text) :=
  (depth? l.body).map fun depth => (depth, title l.body)

/-- The header that the line `l` after the lines `before` is. Code is none. -/
def Context.header? (before : List Line) (l : Line) : Option (Nat × Text) :=
  Fence.onText Header.read? (isCode before l.body) l

namespace Document

open Fence

/-- The lines of a document that are code. -/
def code (t : Text) : List Line :=
  scan (fun isCode l => if isCode then some l else none) false (Line.ofText t)

/-- The headers of a document, each as its depth and the text after its `#`. -/
def headers (t : Text) : List (Nat × Text) := scan (onText Header.read?) false (Line.ofText t)

/-- The depths of the headers of a document, its outline. -/
def outline (t : Text) : List Nat := (headers t).map Prod.fst

/-- The link definitions of a document. -/
def definitions (t : Text) : List LinkDefinition :=
  scan (onText fun l => LinkDefinition.ofLine? l.body) false (Line.ofText t)

end Document

namespace Policy

open Context Fence

variable {p : Policy} {before lines : List Line} {l l' : Line} {β : Type}

/-! ### Fences of the output -/

/-- The line that a line becomes is a fence if the line is. -/
theorem isFence_of_rendered (hr : p.registry.Cuts) (hl : l.Fits)
    (h : p.rendered before l = some l') : isFence l'.body = isFence l.body := by
  have hrenders := p.renders_rendered before l
  rw [h] at hrenders
  cases hrenders with
  | code _ => rfl
  | header _ _ hdepth hraised =>
    rw [Header.isFence_of_depth? hdepth, Header.isFence_of_depth? hraised]
  | text _ _ => exact isFence_relinked hr hl.lf_notMem

/-- A line that is left out is no fence. -/
theorem isFence_of_rendered_eq_none (h : p.rendered before l = none) :
    isFence l.body = false := by
  have hrenders := p.renders_rendered before l
  rw [h] at hrenders
  cases hrenders with
  | gap _ hblank => exact isFence_of_isAllBlank hblank
  | title _ hdepth => exact Header.isFence_of_depth? hdepth

/-- A block is open after the output if one is open after the input. -/
theorem endsOpen_rendering (hr : p.registry.Cuts) (hlines : ∀ l ∈ lines, l.Fits) :
    endsOpen false (p.rendering lines) = endsOpen false lines := by
  -- What a line becomes depends on the lines before it, so the induction goes from the end.
  induction lines using List.reverseRecOn with
  | nil => rfl
  | append_singleton lines l ih =>
    obtain ⟨hbefore, hl⟩ := List.forall_mem_append.1 hlines
    rw [rendering_concat, endsOpen_concat, ← ih hbefore]
    cases h : p.rendered lines l with
    | some l' =>
      have hfence := isFence_of_rendered hr (List.forall_mem_singleton.1 hl) h
      rw [Option.toList_some, endsOpen_concat, opensAfter, opensAfter, hfence]
    | none =>
      have hfence := isFence_of_rendered_eq_none h
      rw [Option.toList_none, List.append_nil, opensAfter, hfence]
      rfl

/-- The line that a line becomes is code if the line is. -/
theorem isCode_rendering (hr : p.registry.Cuts) (hbefore : ∀ l ∈ before, l.Fits) (hl : l.Fits)
    (h : p.rendered before l = some l') :
    isCode (p.rendering before) l'.body = isCode before l.body := by
  rw [← isVerbatim_endsOpen, ← isVerbatim_endsOpen, endsOpen_rendering hr hbefore, isVerbatim,
    isVerbatim, isFence_of_rendered hr hl h]

/-- **Reading the output.** What is read in the lines that lines become is what is read in the
lines, put through `g`, if that is so of every line. -/
theorem scan_rendering {f : Bool → Line → Option β} {g : β → Option β}
    (hr : p.registry.Cuts) (hlines : ∀ l ∈ lines, l.Fits)
    (hstep : ∀ before l, l.Fits →
      (p.rendered before l).bind (f (isCode before l.body)) = (f (isCode before l.body) l).bind g) :
    scan f false (p.rendering lines) = (scan f false lines).filterMap g := by
  have htoList : ∀ o : Option β, o.toList.filterMap g = (o.bind g).toList := by
    intro o
    cases o with
    | none => rfl
    | some b => cases h : g b <;> simp [h]
  induction lines using List.reverseRecOn with
  | nil => rfl
  | append_singleton lines l ih =>
    obtain ⟨hbefore, hl⟩ := List.forall_mem_append.1 hlines
    rw [List.forall_mem_singleton] at hl
    rw [rendering_concat, scan_concat, List.filterMap_append, ← ih hbefore, htoList,
      ← hstep lines l hl]
    cases h : p.rendered lines l with
    | some l' =>
      -- The reader stands in a block before the one line just if it does before the other.
      rw [Option.toList_some, scan_concat, isCode_rendering hr hbefore hl h, Option.bind_some]
    | none => rw [Option.toList_none, List.append_nil, Option.bind_none, Option.toList_none,
        List.append_nil]

/-- What is read in a document that was converted is what is read in the document, put through
`g`, if that is so of every line. -/
theorem scan_of_convert {f : Bool → Line → Option β} {g : β → Option β} {content out : Text}
    (hr : p.registry.Cuts) (h : (p.convert content).result = .ok out)
    (hstep : ∀ before l, l.Fits →
      (p.rendered before l).bind (f (isCode before l.body)) = (f (isCode before l.body) l).bind g) :
    scan f false (Line.ofText out) = (scan f false (Line.ofText content)).filterMap g := by
  rw [ofText_of_convert hr h, scan_rendering hr (Line.areLines_ofText content).fits hstep]

/-- What is read of the text is read so of every line if it is of headers and of lines of text, and
if `g` keeps nothing of the lines that are left out. -/
theorem onText_rendered {f : Line → Option β} {g : β → Option β}
    (hgap : ∀ l, Text.isAllBlank l.body = true → (f l).bind g = none)
    (htitle : ∀ l, Header.depth? l.body = some 1 → (f l).bind g = none)
    (hheader : ∀ l rest n, l.body = '#' :: '#' :: rest → Header.depth? l.body = some (n + 2) →
      Header.depth? ('#' :: rest) = some (n + 1) →
      f { l with body := '#' :: rest } = (f l).bind g)
    (htext : ∀ l, l.Fits → Header.depth? l.body = none →
      f { l with body := p.relinked l.body } = (f l).bind g)
    (before : List Line) (hl : l.Fits) :
    (p.rendered before l).bind (onText f (isCode before l.body))
      = (onText f (isCode before l.body) l).bind g := by
  have hrenders := p.renders_rendered before l
  generalize p.rendered before l = o at hrenders ⊢
  cases hrenders with
  | code hcode => simp [onText, hcode]
  | gap hcode hblank => simp [onText, hcode, hgap l hblank]
  | title hcode hdepth => simp [onText, hcode, htitle l hdepth]
  | header hcode hbody hdepth hraised =>
    simp [onText, hcode, hheader l _ _ hbody hdepth hraised]
  | text hcode hdepth => simp [onText, hcode, htext l hl hdepth]

end Policy

end CrateDocs
