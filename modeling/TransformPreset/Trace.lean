import TransformPreset.Failure

/-!
# Computations that are watched

Resolving a preset calls out: it writes a log, asks a release resolver, and prints a report. A
`Traced` computation is its outcome together with the events on the way, in order; a failure keeps
the events before it. The lemmas say what sequencing does to both, so that a theorem about the
events of a computation follows its steps.
-/

namespace TransformPreset

/-- How urgent a log entry is. -/
inductive LogLevel
  /-- For whoever looks for a fault. -/
  | debug
  /-- For whoever follows the progress. -/
  | info
  /-- Something was ignored. -/
  | warning
  /-- Something failed. -/
  | error
deriving DecidableEq

namespace LogLevel

/-- The rank of a level: a higher one is more urgent. -/
def rank : LogLevel → Nat
  | .debug => 0
  | .info => 1
  | .warning => 2
  | .error => 3

/-- The name of a level in a log. -/
def label : LogLevel → String
  | .debug => "DEBUG"
  | .info => "INFO"
  | .warning => "WARNING"
  | .error => "ERROR"

end LogLevel

/-- The part of the program that writes a log entry. -/
inductive LogSource
  /-- Browser releases and the running runtime. -/
  | releases
  /-- Canonical targets. -/
  | normalize
  /-- The composition of names. -/
  | compose
  /-- The building of a preset. -/
  | builder
  /-- The command line. -/
  | cli
deriving DecidableEq

/-- The name of a source in a log. -/
def LogSource.label : LogSource → String
  | .releases => "envpreset.targeting.releases"
  | .normalize => "envpreset.targeting.normalize"
  | .compose => "envpreset.selection.compose"
  | .builder => "envpreset.preset.builder"
  | .cli => "envpreset.cli"

/-- One thing that an onlooker sees. -/
inductive Event
  /-- A log entry. -/
  | log (level : LogLevel) (source : LogSource) (message : String)
  /-- A call of the release resolver with these queries. -/
  | query (queries : List String)
  /-- A text that is printed, with a line break after it. -/
  | line (text : String)
deriving DecidableEq

namespace Event

/-- The text that an event prints. -/
def line? : Event → Option String
  | .line text => some text
  | _ => none

/-- The queries that an event asks. -/
def query? : Event → Option (List String)
  | .query queries => some queries
  | _ => none

/-- The message of an event that is a log entry at a level or above. -/
def message? (least : LogLevel) : Event → Option String
  | .log level _ message => if least.rank ≤ level.rank then some message else none
  | _ => none

end Event

/-- The outcome of a computation and the events on the way to it. -/
structure Traced (α : Type) where
  /-- The events, in order. -/
  events : List Event
  /-- The outcome. -/
  result : Except Failure α

namespace Traced

variable {α β : Type}

/-- The computation that only answers. -/
def pure (a : α) : Traced α :=
  ⟨[], .ok a⟩

/-- Goes on with a further computation unless the first one failed. -/
def bind (x : Traced α) (f : α → Traced β) : Traced β :=
  match x.result with
  | .ok a => ⟨x.events ++ (f a).events, (f a).result⟩
  | .error failure => ⟨x.events, .error failure⟩

instance : Monad Traced where
  pure := Traced.pure
  bind := Traced.bind

/-- Fails. -/
def fail (failure : Failure) : Traced α :=
  ⟨[], .error failure⟩

/-- An outcome without events. -/
def of (result : Except Failure α) : Traced α :=
  ⟨[], result⟩

/-- Lets one event happen. -/
def emit (event : Event) : Traced Unit :=
  ⟨[event], .ok ()⟩

/-- Writes a log entry. -/
def log (level : LogLevel) (source : LogSource) (message : String) : Traced Unit :=
  emit (.log level source message)

@[simp] theorem pure_events (a : α) : (Pure.pure a : Traced α).events = [] := rfl

@[simp] theorem pure_result (a : α) : (Pure.pure a : Traced α).result = .ok a := rfl

@[simp] theorem fail_events (failure : Failure) : (fail failure : Traced α).events = [] := rfl

@[simp] theorem fail_result (failure : Failure) :
    (fail failure : Traced α).result = .error failure := rfl

@[simp] theorem of_events (result : Except Failure α) : (of result).events = [] := rfl

@[simp] theorem of_result (result : Except Failure α) : (of result).result = result := rfl

@[simp] theorem emit_events (event : Event) : (emit event).events = [event] := rfl

@[simp] theorem log_events (level : LogLevel) (source : LogSource) (message : String) :
    (log level source message).events = [.log level source message] := rfl

@[simp] theorem log_result (level : LogLevel) (source : LogSource) (message : String) :
    (log level source message).result = .ok () := rfl

theorem bind_ok {x : Traced α} {f : α → Traced β} {a : α} (h : x.result = .ok a) :
    x >>= f = ⟨x.events ++ (f a).events, (f a).result⟩ := by
  simp [Bind.bind, Traced.bind, h]

theorem bind_error {x : Traced α} {f : α → Traced β} {failure : Failure}
    (h : x.result = .error failure) : x >>= f = ⟨x.events, .error failure⟩ := by
  simp [Bind.bind, Traced.bind, h]

theorem bind_result_ok_iff {x : Traced α} {f : α → Traced β} {b : β} :
    (x >>= f).result = .ok b ↔ ∃ a, x.result = .ok a ∧ (f a).result = .ok b := by
  cases h : x.result with
  | ok a => simp [bind_ok h]
  | error failure => simp [bind_error h]

theorem bind_result_error_iff {x : Traced α} {f : α → Traced β} {failure : Failure} :
    (x >>= f).result = .error failure ↔
      x.result = .error failure ∨ ∃ a, x.result = .ok a ∧ (f a).result = .error failure := by
  cases h : x.result with
  | ok a => simp [bind_ok h]
  | error failure => simp [bind_error h]

instance : LawfulMonad Traced :=
  LawfulMonad.mk' Traced
    (by
      intro α x
      cases x with
      | mk events result => cases result <;> simp [Functor.map, Traced.bind, Traced.pure])
    (by
      intro α β a f
      simp [Bind.bind, Pure.pure, Traced.bind, Traced.pure])
    (by
      intro α β γ x f g
      cases hx : x.result with
      | error failure => simp [Bind.bind, Traced.bind, hx]
      | ok a =>
        cases hf : (f a).result <;> simp [Bind.bind, Traced.bind, hx, hf])

end Traced

end TransformPreset
