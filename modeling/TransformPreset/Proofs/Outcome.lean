import TransformPreset.Trace

/-!
# Outcomes and events

What a computation that succeeded went through, step by step, and what it printed and asked on the
way. A computation is silent if it prints nothing, and asks nothing if it does not call the release
resolver; what only writes log entries does neither. Sequencing keeps all of that, so a computation
that is put together from such steps is one itself. A computation that calls out prints at most what
the outside world does (`Traced.PrintsAmong`). Two computations may be the same but for the lines
that they print (`Traced.SameButLines`).
-/

namespace TransformPreset

variable {α β : Type}

/-! ## Outcomes -/

/-- A sequence succeeds exactly if both of its steps do. -/
theorem except_bind_ok_iff {x : Except Failure α} {f : α → Except Failure β} {b : β} :
    (x >>= f) = .ok b ↔ ∃ a, x = .ok a ∧ f a = .ok b := by
  cases x <;> simp [Bind.bind, Except.bind]

/-- A sequence fails exactly if its first step fails, or its second one after the first. -/
theorem except_bind_error_iff {x : Except Failure α} {f : α → Except Failure β}
    {failure : Failure} :
    (x >>= f) = .error failure ↔
      x = .error failure ∨ ∃ a, x = .ok a ∧ f a = .error failure := by
  cases x <;> simp [Bind.bind, Except.bind]

/-- Mapping the answer does not touch success. -/
theorem except_map_ok_iff {x : Except Failure α} {f : α → β} {b : β} :
    x.map f = .ok b ↔ ∃ a, x = .ok a ∧ f a = b := by
  cases x <;> simp [Except.map]

/-- An answer that is mapped is there exactly if one is there to map. -/
theorem except_exists_map_ok_iff {x : Except Failure α} {f : α → β} :
    (∃ b, x.map f = .ok b) ↔ ∃ a, x = .ok a := by
  cases x <;> simp [Except.map]

/-- An outcome with an answer is a success. -/
theorem exists_ok_of_isSome {x : Except Failure α} (h : x.toOption.isSome = true) :
    ∃ a, x = .ok a := by
  cases x with
  | ok a => exact ⟨a, rfl⟩
  | error failure => cases h

/-- An outcome whose answer is known is a success with that answer. -/
theorem ok_of_toOption {ε : Type} {x : Except ε α} {a : α} (h : x.toOption = some a) :
    x = .ok a := by
  cases x with
  | ok b => rw [Option.some.inj h]
  | error failure => cases h

/-! ## Failures -/

/-- Whether a failure is of one of the given kinds. -/
def Failure.OfKind (kinds : List Failure.Kind) (failure : Failure) : Prop :=
  failure.kind ∈ kinds

instance (kinds : List Failure.Kind) (failure : Failure) : Decidable (failure.OfKind kinds) :=
  inferInstanceAs (Decidable (failure.kind ∈ kinds))

/-- A failure whose kind is known is of the kinds of every list that has it. -/
theorem Failure.ofKind_of_eq {kinds : List Failure.Kind} {failure : Failure} (kind : Failure.Kind)
    (heq : failure.kind = kind) (hmem : kind ∈ kinds) : failure.OfKind kinds := by
  rw [← heq] at hmem
  exact hmem

/-- No failure is of kinds of two lists that have none in common. -/
theorem Failure.not_ofKind {kinds others : List Failure.Kind} {failure : Failure}
    (h : failure.OfKind kinds) (hdisjoint : ∀ kind ∈ kinds, kind ∉ others) :
    ¬failure.OfKind others :=
  hdisjoint failure.kind h

/-- Whether every failure of an outcome is an expected one. -/
def FailsWith (expected : Failure → Prop) (x : Except Failure α) : Prop :=
  ∀ failure, x = .error failure → expected failure

variable {expected : Failure → Prop}

/-- A success fails in no way, so in every expected one. -/
theorem failsWith_ok (a : α) : FailsWith expected (.ok a) := by
  intro failure h
  cases h

/-- An expected failure is an expected way to fail. -/
theorem failsWith_error {failure : Failure} (h : expected failure) :
    FailsWith expected (.error failure : Except Failure α) := by
  intro other hother
  rw [← Except.error.inj hother]
  exact h

/-- A failure of a given kind is an expected one. -/
theorem failsWith_ofKind {kinds : List Failure.Kind} {failure : Failure} (kind : Failure.Kind)
    (heq : failure.kind = kind) (hmem : kind ∈ kinds) :
    FailsWith (Failure.OfKind kinds) (.error failure : Except Failure α) :=
  failsWith_error (Failure.ofKind_of_eq kind heq hmem)

/-- A computation that fails in few ways fails in no others than more of them. -/
theorem FailsWith.widen {kinds others : List Failure.Kind} {x : Except Failure α}
    (hx : FailsWith (Failure.OfKind kinds) x) (h : ∀ kind ∈ kinds, kind ∈ others) :
    FailsWith (Failure.OfKind others) x := by
  intro failure hfailure
  exact h failure.kind (hx failure hfailure)

/-- What fails as expected fails as is expected more widely. -/
theorem FailsWith.mono {others : Failure → Prop} {x : Except Failure α}
    (hx : FailsWith expected x) (h : ∀ failure, expected failure → others failure) :
    FailsWith others x :=
  fun failure hfailure => h failure (hx failure hfailure)

/-- A sequence fails as expected if both of its steps do. -/
theorem FailsWith.bind {x : Except Failure α} {f : α → Except Failure β}
    (hx : FailsWith expected x) (hf : ∀ a, x = .ok a → FailsWith expected (f a)) :
    FailsWith expected (x >>= f) := by
  intro failure h
  rcases except_bind_error_iff.1 h with h | ⟨a, ha, h⟩
  · exact hx failure h
  · exact hf a ha failure h

/-- Mapping the answer does not touch failure. -/
theorem FailsWith.map {x : Except Failure α} (hx : FailsWith expected x) (f : α → β) :
    FailsWith expected (x.map f) := by
  cases x with
  | ok a => exact failsWith_ok _
  | error failure => exact failsWith_error (hx failure rfl)

/-- The outcome of a sequence of computations is the sequence of their outcomes. -/
theorem Traced.bind_result (x : Traced α) (f : α → Traced β) :
    (x >>= f).result = x.result >>= fun a => (f a).result := by
  cases h : x.result with
  | ok a =>
    rw [bind_ok h]
    rfl
  | error failure =>
    rw [bind_error h]
    rfl

/-- A sequence of computations fails as expected if both of its steps do. -/
theorem Traced.failsWith_bind {x : Traced α} {f : α → Traced β}
    (hx : FailsWith expected x.result)
    (hf : ∀ a, x.result = .ok a → FailsWith expected (f a).result) :
    FailsWith expected (x >>= f).result := by
  rw [bind_result]
  exact hx.bind hf

namespace Traced

/-! ## Events of sequences -/

/-- What holds of the events of both steps holds of the events of a sequence. -/
theorem forall_mem_bind_events {p : Event → Prop} {x : Traced α} {f : α → Traced β}
    (hx : ∀ event ∈ x.events, p event)
    (hf : ∀ a, x.result = .ok a → ∀ event ∈ (f a).events, p event) :
    ∀ event ∈ (x >>= f).events, p event := by
  intro event he
  -- The second step leaves events only if the first one has an answer.
  cases h : x.result with
  | error failure =>
    rw [bind_error h] at he
    exact hx event he
  | ok a =>
    rw [bind_ok h] at he
    exact (List.mem_append.1 he).elim (hx event) (hf a h event)

section

variable {γ : Type} {p : Event → Option γ} {x : Traced α} {f : α → Traced β}

/-- What goes on without events of a kind adds none of them. -/
theorem filterMap_bind_events_left
    (hf : ∀ a, x.result = .ok a → ∀ event ∈ (f a).events, p event = none) :
    (x >>= f).events.filterMap p = x.events.filterMap p := by
  cases h : x.result with
  | error failure => rw [bind_error h]
  | ok a =>
    rw [bind_ok h, List.filterMap_append, List.filterMap_eq_nil_iff.2 (hf a h), List.append_nil]

/-- What came before without events of a kind adds none of them either. -/
theorem filterMap_bind_events_right {a : α} (hx : ∀ event ∈ x.events, p event = none)
    (h : x.result = .ok a) : (x >>= f).events.filterMap p = (f a).events.filterMap p := by
  rw [bind_ok h, List.filterMap_append, List.filterMap_eq_nil_iff.2 hx, List.nil_append]

end

/-! ## Printed lines -/

/-- The lines that a computation prints. -/
def lines (x : Traced α) : List String :=
  x.events.filterMap Event.line?

/-- Whether a computation prints nothing. -/
def Silent (x : Traced α) : Prop :=
  ∀ event ∈ x.events, event.line? = none

/-- A silent computation prints no lines. -/
theorem Silent.lines_eq_nil {x : Traced α} (h : x.Silent) : x.lines = [] :=
  List.filterMap_eq_nil_iff.2 h

theorem silent_query (queries : List String) : (emit (.query queries)).Silent := by
  intro event he
  rw [emit_events, List.mem_singleton] at he
  rw [he]
  rfl

/-- A sequence of silent steps is silent. -/
theorem Silent.bind {x : Traced α} {f : α → Traced β} (hx : x.Silent)
    (hf : ∀ a, x.result = .ok a → (f a).Silent) : (x >>= f).Silent :=
  forall_mem_bind_events hx hf

/-- What goes on silently adds no lines. -/
theorem lines_bind_of_silent {x : Traced α} {f : α → Traced β}
    (hf : ∀ a, x.result = .ok a → (f a).Silent) : (x >>= f).lines = x.lines :=
  filterMap_bind_events_left hf

/-- What came before silently adds no lines either. -/
theorem Silent.lines_bind {x : Traced α} {f : α → Traced β} {a : α} (hx : x.Silent)
    (h : x.result = .ok a) : (x >>= f).lines = (f a).lines :=
  filterMap_bind_events_right hx h

/-- Whether a computation prints nothing but given lines. -/
def PrintsAmong (x : Traced α) (lines : List String) : Prop :=
  x.lines ⊆ lines

/-- A silent computation prints nothing but any lines. -/
theorem Silent.printsAmong {x : Traced α} (h : x.Silent) (lines : List String) :
    x.PrintsAmong lines := by
  unfold PrintsAmong
  rw [h.lines_eq_nil]
  exact List.nil_subset _

/-- A sequence of steps that print nothing but given lines prints nothing else either. -/
theorem PrintsAmong.bind {x : Traced α} {f : α → Traced β} {lines : List String}
    (hx : x.PrintsAmong lines) (hf : ∀ a, x.result = .ok a → (f a).PrintsAmong lines) :
    (x >>= f).PrintsAmong lines := by
  unfold PrintsAmong Traced.lines at hx hf ⊢
  cases h : x.result with
  | error failure =>
    rw [bind_error h]
    exact hx
  | ok a =>
    rw [bind_ok h, List.filterMap_append]
    exact List.append_subset.2 ⟨hx, hf a h⟩

/-! ## Asked queries -/

/-- The lists of queries that a computation asks the release resolver for, in order. -/
def queries (x : Traced α) : List (List String) :=
  x.events.filterMap Event.query?

/-- Whether a computation does not call the release resolver. -/
def AsksNothing (x : Traced α) : Prop :=
  ∀ event ∈ x.events, event.query? = none

/-- A computation that asks nothing has no queries. -/
theorem AsksNothing.queries_eq_nil {x : Traced α} (h : x.AsksNothing) : x.queries = [] :=
  List.filterMap_eq_nil_iff.2 h

/-- A sequence of steps that ask nothing asks nothing. -/
theorem AsksNothing.bind {x : Traced α} {f : α → Traced β} (hx : x.AsksNothing)
    (hf : ∀ a, x.result = .ok a → (f a).AsksNothing) : (x >>= f).AsksNothing :=
  forall_mem_bind_events hx hf

/-- What goes on without asking adds no queries. -/
theorem queries_bind_of_asksNothing {x : Traced α} {f : α → Traced β}
    (hf : ∀ a, x.result = .ok a → (f a).AsksNothing) : (x >>= f).queries = x.queries :=
  filterMap_bind_events_left hf

/-- What came before without asking adds no queries either. -/
theorem AsksNothing.queries_bind {x : Traced α} {f : α → Traced β} {a : α} (hx : x.AsksNothing)
    (h : x.result = .ok a) : (x >>= f).queries = (f a).queries :=
  filterMap_bind_events_right hx h

/-! ## Computations that only write log entries -/

/-- Whether a computation does nothing that is seen but write log entries: it prints and asks
nothing. -/
def OnlyLogs (x : Traced α) : Prop :=
  ∀ event ∈ x.events, event.line? = none ∧ event.query? = none

/-- What only writes log entries is silent. -/
theorem OnlyLogs.silent {x : Traced α} (h : x.OnlyLogs) : x.Silent :=
  fun event he => (h event he).1

/-- What only writes log entries asks nothing. -/
theorem OnlyLogs.asksNothing {x : Traced α} (h : x.OnlyLogs) : x.AsksNothing :=
  fun event he => (h event he).2

theorem onlyLogs_pure (a : α) : (Pure.pure a : Traced α).OnlyLogs := by
  intro event he
  simp at he

theorem onlyLogs_fail (failure : Failure) : (fail failure : Traced α).OnlyLogs := by
  intro event he
  simp at he

theorem onlyLogs_of (result : Except Failure α) : (of result).OnlyLogs := by
  intro event he
  simp at he

theorem onlyLogs_log (level : LogLevel) (source : LogSource) (message : String) :
    (log level source message).OnlyLogs := by
  intro event he
  rw [log_events, List.mem_singleton] at he
  rw [he]
  exact ⟨rfl, rfl⟩

/-- A sequence of steps that only write log entries does nothing else either. -/
theorem OnlyLogs.bind {x : Traced α} {f : α → Traced β} (hx : x.OnlyLogs)
    (hf : ∀ a, x.result = .ok a → (f a).OnlyLogs) : (x >>= f).OnlyLogs :=
  forall_mem_bind_events hx hf

/-! ## Computations that only print -/

/-- Whether a computation prints lines and does nothing else that is seen. -/
def OnlyPrints (x : Traced α) : Prop :=
  ∀ event ∈ x.events, event.line?.isSome

theorem onlyPrints_pure (a : α) : (Pure.pure a : Traced α).OnlyPrints := by
  intro event he
  simp at he

theorem onlyPrints_of (result : Except Failure α) : (of result).OnlyPrints := by
  intro event he
  simp at he

theorem onlyPrints_line (text : String) : (emit (.line text)).OnlyPrints := by
  intro event he
  rw [emit_events, List.mem_singleton] at he
  rw [he]
  rfl

/-- What only prints asks nothing. -/
theorem OnlyPrints.asksNothing {x : Traced α} (h : x.OnlyPrints) : x.AsksNothing := by
  intro event he
  have hline := h event he
  cases event with
  | line text => rfl
  | log level source message => cases hline
  | query queries => cases hline

/-- A sequence of steps that only print does nothing else either. -/
theorem OnlyPrints.bind {x : Traced α} {f : α → Traced β} (hx : x.OnlyPrints)
    (hf : ∀ a, (f a).OnlyPrints) : (x >>= f).OnlyPrints :=
  forall_mem_bind_events hx fun a _ => hf a

/-- Whether two computations have the same outcome, and the same events but for printed lines. -/
structure SameButLines (x y : Traced α) : Prop where
  /-- The outcomes are the same. -/
  result : x.result = y.result
  /-- So are the events that are no lines, in order. -/
  events : x.events.filter (fun event => event.line?.isNone) =
    y.events.filter fun event => event.line?.isNone

theorem SameButLines.refl (x : Traced α) : x.SameButLines x :=
  ⟨rfl, rfl⟩

theorem SameButLines.symm {x y : Traced α} (h : x.SameButLines y) : y.SameButLines x :=
  ⟨h.result.symm, h.events.symm⟩

theorem SameButLines.trans {x y z : Traced α} (h : x.SameButLines y) (h' : y.SameButLines z) :
    x.SameButLines z :=
  ⟨h.result.trans h'.result, h.events.trans h'.events⟩

/-- What only prints, and does not fail, does nothing but print. -/
theorem OnlyPrints.sameButLines {x : Traced Unit} (h : x.OnlyPrints) (hok : x.result = .ok ()) :
    x.SameButLines (Pure.pure ()) where
  result := hok
  events := by
    rw [pure_events, List.filter_nil, List.filter_eq_nil_iff]
    intro event he
    rw [Option.isNone_eq_false_iff.2 (h event he)]
    exact Bool.false_ne_true

/-- Sequences whose steps are the same but for lines are the same but for lines. -/
theorem SameButLines.bind {x y : Traced α} {f g : α → Traced β} (hxy : x.SameButLines y)
    (hfg : ∀ a, y.result = .ok a → (f a).SameButLines (g a)) :
    (x >>= f).SameButLines (y >>= g) := by
  cases h : x.result with
  | error failure =>
    rw [bind_error h, bind_error (hxy.result.symm.trans h)]
    exact ⟨rfl, hxy.events⟩
  | ok a =>
    have hy : y.result = .ok a := hxy.result.symm.trans h
    rw [bind_ok h, bind_ok hy]
    refine ⟨(hfg a hy).result, ?_⟩
    rw [List.filter_append, List.filter_append, hxy.events, (hfg a hy).events]

end Traced

end TransformPreset
