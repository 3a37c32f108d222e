import CrateDocs.ConversionError
import CrateDocs.Issue

namespace CrateDocs

/-!
# Reports

A conversion says on the way what it does. A report is the events that were told, in order, and
then the result or the reason why there is none.

* `Event` is one thing told, with its `level`, its `source` and its `text`;
* `Failure` is a reason to stop;
* `Report` collects events around a result. It is a monad, and `result_bind` and `events_bind`
  say how a sequence of two reports reads.
-/

/-- How much an event matters. -/
inductive Level
  | debug
  | info
  | warning
  deriving DecidableEq, Repr

namespace Level

/-- Levels are ordered by their rank. -/
def rank : Level → Nat
  | debug => 10
  | info => 20
  | warning => 30

/-- The level as it is written in front of an event. -/
def word : Level → String
  | debug => "DEBUG"
  | info => "INFO"
  | warning => "WARNING"

end Level

/-- One thing told on the way. -/
inductive Event
  /-- a shape fits an address whose parts break a rule -/
  | shapeRejected (shape : String) (remainder : Text) (issues : List Issue)
  /-- a shape fits an address -/
  | shapeMatched (url : Text) (shape : String)
  /-- an address of the package fits no shape and stays as it is -/
  | urlKept (number : Int) (url : Text)
  /-- an address is replaced by a link -/
  | urlReplaced (number : Int) (url link : Text)
  /-- a top-level header is left out -/
  | titleDropped (number : Int) (line : Text)
  /-- the result is in its file -/
  | wrote (path : Spelling)
  deriving DecidableEq, Repr

namespace Event

/-- How much the event matters. -/
def level : Event → Level
  | shapeRejected .. | shapeMatched .. | urlReplaced .. | titleDropped .. => .debug
  | wrote .. => .info
  | urlKept .. => .warning

/-- The part of the program that tells the event. -/
def source : Event → String
  | shapeRejected .. | shapeMatched .. => "rustdocify.shapes.registry"
  | urlKept .. | urlReplaced .. => "rustdocify.markdown.links"
  | titleDropped .. => "rustdocify.converter"
  | wrote .. => "rustdocify.cli"

/-- The event in words. -/
def text : Event → String
  | shapeRejected shape remainder issues =>
    s!"Shape {shape} rejected {remainder.quoted.asString}: {issueSummary issues}"
  | shapeMatched url shape => s!"URL {url.asString} matched shape {shape}"
  | urlKept number url =>
    s!"Line {number}: leaving unrecognized docs.rs URL as is: {url.asString}"
  | urlReplaced number url link => s!"Line {number}: {url.asString} -> {link.asString}"
  | titleDropped number line =>
    s!"Line {number}: dropping top-level header {line.quoted.asString}"
  | wrote path => s!"Wrote {path.exposed.asString}"

end Event

/-- A reason to stop. -/
inductive Failure
  /-- a line of the document breaks a rule -/
  | refused (error : ConversionError)
  /-- a shape found a kind of item that there is not -/
  | unknownKind (word : Text)
  deriving DecidableEq, Repr

/-- The reason in words. -/
def Failure.message : Failure → String
  | refused error => error.message
  | unknownKind word => s!"{word.quoted.asString} is not a valid ItemKind"

/-- The events told, in order, and the result or the reason why there is none. -/
structure Report (α : Type) where
  events : List Event
  result : Except Failure α
  deriving Repr

namespace Report

variable {α β : Type}

/-- A result without a word. -/
def done (a : α) : Report α := ⟨[], .ok a⟩

/-- Goes on after a result, and keeps what was told when there is none. -/
def andThen (x : Report α) (f : α → Report β) : Report β :=
  match x.result with
  | .error reason => ⟨x.events, .error reason⟩
  | .ok a =>
    let y := f a
    ⟨x.events ++ y.events, y.result⟩

instance : Monad Report where
  pure := done
  bind := andThen

/-- Tells an event. -/
def tell (e : Event) : Report Unit := ⟨[e], .ok ()⟩

/-- Stops. -/
def stop (reason : Failure) : Report α := ⟨[], .error reason⟩

/-- Refuses a line. -/
def refuse (number : Int) (line : Text) (offence : Offence) : Report α :=
  stop (.refused ⟨number, line, offence⟩)

/-! ### Reading a report -/

@[simp] theorem result_pure (a : α) : (pure a : Report α).result = .ok a := rfl

@[simp] theorem events_pure (a : α) : (pure a : Report α).events = [] := rfl

@[simp] theorem result_tell (e : Event) : (tell e).result = .ok () := rfl

@[simp] theorem events_tell (e : Event) : (tell e).events = [e] := rfl

@[simp] theorem result_stop (reason : Failure) :
    (stop reason : Report α).result = .error reason := rfl

@[simp] theorem events_stop (reason : Failure) : (stop reason : Report α).events = [] := rfl

@[simp] theorem result_refuse (number : Int) (line : Text) (offence : Offence) :
    (refuse number line offence : Report α).result =
      .error (.refused ⟨number, line, offence⟩) := rfl

@[simp] theorem events_refuse (number : Int) (line : Text) (offence : Offence) :
    (refuse number line offence : Report α).events = [] := rfl

/-- The result of a sequence is the sequence of the results. -/
@[simp] theorem result_bind (x : Report α) (f : α → Report β) :
    (x >>= f).result = x.result >>= fun a => (f a).result := by
  show (andThen x f).result = _
  unfold andThen
  cases x.result <;> rfl

/-- A sequence whose first part has a result ends like its second part. -/
theorem result_bind_of_ok {x : Report α} {a : α} (h : x.result = .ok a) (f : α → Report β) :
    (x >>= f).result = (f a).result := by
  rw [result_bind, h]
  rfl

/-- A sequence whose first part has no result has none either. -/
theorem result_bind_of_error {x : Report α} {reason : Failure} (h : x.result = .error reason)
    (f : α → Report β) : (x >>= f).result = .error reason := by
  rw [result_bind, h]
  rfl

/-- What is told has no part in the result. -/
theorem result_tell_bind (e : Event) (f : Unit → Report β) :
    (tell e >>= f).result = (f ()).result := result_bind_of_ok (result_tell e) f

/-- The events of a sequence are those of its first part, and those of its second if it comes
to that. -/
theorem events_bind (x : Report α) (f : α → Report β) :
    (x >>= f).events = x.events ++
      match x.result with
      | .ok a => (f a).events
      | .error _ => [] := by
  show (andThen x f).events = _
  unfold andThen
  cases x.result <;> simp

/-! ### Laws of sequences -/

/-- What follows a report matters for its result only. -/
theorem bind_congr {x : Report α} {k k' : α → Report β}
    (h : ∀ a, x.result = .ok a → k a = k' a) : x >>= k = x >>= k' := by
  obtain ⟨events, result⟩ := x
  cases result with
  | error reason => rfl
  | ok a =>
    show andThen ⟨events, .ok a⟩ k = andThen ⟨events, .ok a⟩ k'
    simp only [andThen, h a rfl]

theorem pure_bind (a : α) (k : α → Report β) : pure a >>= k = k a := rfl

theorem bind_pure (x : Report α) : x >>= pure = x := by
  obtain ⟨events, reason | a⟩ := x
  · rfl
  · show Report.mk (events ++ []) (.ok a) = ⟨events, .ok a⟩
    rw [List.append_nil]

end Report

end CrateDocs
