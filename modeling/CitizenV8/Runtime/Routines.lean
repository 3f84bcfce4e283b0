import CitizenV8.Environment.Dispatch

/-!
# The routine slots of a runtime

A `V8ScriptRuntime` keeps one routine per `Routine`: the `std::function` that
`Citizen.setTickFunction` and the six other registration functions build around a
`UniquePersistent` of the guest function they are given. The setters store a routine only
in an empty slot, so each slot keeps the first registration of its kind for as long as
nothing empties it (`run_routine`). `Destroy` empties `m_eventRoutine`, `m_tickRoutine`,
`m_callRefRoutine`, `m_deleteRefRoutine` and `m_duplicateRefRoutine` and resets
`m_context`, but leaves `m_stackTraceRoutine` and `m_unhandledPromiseRejectionRoutine`
(`destroy_routine`). These two keep their persistent handles into the released context
(`destroy_keeps_two_routines`). They no longer run their guest functions: after `Destroy`,
`WalkStack` finds its routine set and opens a `V8PushEnvironment`, whose `Context::Scope` is
built over the empty handle `GetContext()` now gives, and the process crashes there; so does
`LoadFile`, and every other dispatch operation skips its guest code (`entry_after_destroy`).
-/

namespace CitizenV8

/-- The routine slots of a runtime, each holding the guest function of the routine stored in
it (guest functions are named by numbers), and whether `m_context` still holds the
context. -/
structure RoutineSlots where
  routine : Routine → Option ℕ
  hasContext : Bool

/-- What happens to a runtime's routines: guest code calls the registration function of
`kind` with the guest function `fn`, the host runs a dispatch operation, or `Destroy`. -/
inductive RoutineEvent
  | register (kind : Routine) (fn : ℕ)
  | dispatch (op : Dispatch)
  | destroy
  deriving DecidableEq, Repr

namespace RoutineSlots

/-- A runtime as `Create` leaves it: no routine set, and a context. -/
def init : RoutineSlots := ⟨fun _ => none, true⟩

/-- The setters `SetTickRoutine` and the six others: store the routine of `fn` in the slot
`kind` if that slot is empty. -/
def setRoutine (kind : Routine) (fn : ℕ) (s : RoutineSlots) : RoutineSlots :=
  if (s.routine kind).isSome then s else { s with routine := Function.update s.routine kind fn }

/-- `V8ScriptRuntime::SetTickRoutine`. -/
def setTickRoutine (fn : ℕ) (s : RoutineSlots) : RoutineSlots := setRoutine .tick fn s

/-- `V8ScriptRuntime::SetEventRoutine`. -/
def setEventRoutine (fn : ℕ) (s : RoutineSlots) : RoutineSlots := setRoutine .event fn s

/-- `V8ScriptRuntime::SetCallRefRoutine`. -/
def setCallRefRoutine (fn : ℕ) (s : RoutineSlots) : RoutineSlots := setRoutine .callRef fn s

/-- `V8ScriptRuntime::SetDuplicateRefRoutine`. -/
def setDuplicateRefRoutine (fn : ℕ) (s : RoutineSlots) : RoutineSlots :=
  setRoutine .duplicateRef fn s

/-- `V8ScriptRuntime::SetDeleteRefRoutine`. -/
def setDeleteRefRoutine (fn : ℕ) (s : RoutineSlots) : RoutineSlots :=
  setRoutine .deleteRef fn s

/-- `V8ScriptRuntime::SetStackTraceRoutine`. -/
def setStackTraceRoutine (fn : ℕ) (s : RoutineSlots) : RoutineSlots :=
  setRoutine .stackTrace fn s

/-- `V8ScriptRuntime::SetUnhandledPromiseRejectionRoutine`. -/
def setUnhandledPromiseRejectionRoutine (fn : ℕ) (s : RoutineSlots) : RoutineSlots :=
  setRoutine .unhandledPromiseRejection fn s

/-- The setter each registration function calls: `V8_SetTickFunction` calls
`SetTickRoutine`, and so on. -/
def register : Routine → ℕ → RoutineSlots → RoutineSlots
  | .tick => setTickRoutine
  | .event => setEventRoutine
  | .callRef => setCallRefRoutine
  | .duplicateRef => setDuplicateRefRoutine
  | .deleteRef => setDeleteRefRoutine
  | .stackTrace => setStackTraceRoutine
  | .unhandledPromiseRejection => setUnhandledPromiseRejectionRoutine

/-- `V8ScriptRuntime::Destroy`: it empties `m_eventRoutine`, `m_tickRoutine`,
`m_callRefRoutine`, `m_deleteRefRoutine` and `m_duplicateRefRoutine`, in this order, and
resets `m_context`. -/
def destroy (s : RoutineSlots) : RoutineSlots where
  routine :=
    Function.update (Function.update (Function.update (Function.update (Function.update
      s.routine Routine.event none) Routine.tick none) Routine.callRef none) Routine.deleteRef
      none) Routine.duplicateRef none
  hasContext := false

/-- One event. A dispatch operation reads the slots and changes none. -/
def step (s : RoutineSlots) : RoutineEvent → RoutineSlots
  | .register kind fn => register kind fn s
  | .dispatch _ => s
  | .destroy => s.destroy

/-- The slots after the events `es`, in order. -/
def run (s : RoutineSlots) (es : List RoutineEvent) : RoutineSlots := es.foldl step s

/-- The guest function held by the routine a dispatch operation looks up: `Tick` the tick
routine's, `RemoveRef` the delete-ref routine's, `WalkStack` the stack-trace routine's;
`LoadFile` runs a script and `EmitWarning` calls `console.warn`, neither through a
routine. Whether the operation gets to call it depends on the context too
(`routineEntry`). -/
def calls (s : RoutineSlots) : Dispatch → Option ℕ
  | .tick => s.routine .tick
  | .triggerEvent => s.routine .event
  | .callRef => s.routine .callRef
  | .duplicateRef => s.routine .duplicateRef
  | .removeRef => s.routine .deleteRef
  | .walkStack => s.routine .stackTrace
  | .loadFile _ | .emitWarning => none

/-- `V8ScriptRuntime::HandlePromiseRejection`, which the isolate's promise-reject callback
of a build without `V8_NODE` calls on the runtime in the embedder data 16 of the promise's
context: the guest function of the rejection routine it runs, if one is set. -/
def handlePromiseRejection (s : RoutineSlots) : Option ℕ :=
  s.routine .unhandledPromiseRejection

/-- The `Host` the dispatch model reads, for runtimes in the states `slots`: a runtime has a
routine when its slot holds one, and a context while `m_context` holds it; `hasWarn` is
whether the global `console` of its context has a `warn`. -/
def host (server : Bool) (slots : RuntimeId → RoutineSlots) (hasWarn : RuntimeId → Bool) :
    Host :=
  ⟨server, fun r k => ((slots r).routine k).isSome, fun r => (slots r).hasContext, hasWarn⟩

end RoutineSlots

/-- The guest function of the first registration of kind `kind` among some events. -/
def firstRegistration (kind : Routine) : List RoutineEvent → Option ℕ
  | [] => none
  | .register k fn :: es => if k = kind then some fn else firstRegistration kind es
  | _ :: es => firstRegistration kind es

namespace RoutineSlots

theorem register_eq (kind : Routine) : register kind = setRoutine kind := by
  cases kind <;> rfl

theorem setRoutine_routine (kind k : Routine) (fn : ℕ) (s : RoutineSlots) :
    (setRoutine kind fn s).routine k = (s.routine k).or (if kind = k then some fn else none) := by
  unfold setRoutine
  by_cases hk : kind = k
  · subst hk
    cases h : s.routine kind <;> simp [h]
  · split_ifs <;> simp [Function.update_noteq (Ne.symm hk), hk]

/-- `Destroy` empties every slot but the stack-trace and rejection routines'. -/
theorem destroy_routine (s : RoutineSlots) (k : Routine) :
    s.destroy.routine k =
      if k = .stackTrace ∨ k = .unhandledPromiseRejection then s.routine k else none := by
  cases k <;> rfl

/-- Along events with no `Destroy`, each slot keeps what it held, or else gets the first
registration of its kind. -/
theorem run_routine (s : RoutineSlots) :
    ∀ (es : List RoutineEvent), RoutineEvent.destroy ∉ es → ∀ k,
      (s.run es).routine k = (s.routine k).or (firstRegistration k es)
  | [], _, k => by simp [run, firstRegistration, Option.or_none]
  | e :: es, hes, k => by
    simp only [List.mem_cons, not_or] at hes
    rw [run, List.foldl_cons, ← run, run_routine _ es hes.2]
    cases e with
    | register kind fn =>
      rw [step, register_eq, setRoutine_routine, Option.or_assoc, firstRegistration]
      split_ifs <;> rfl
    | dispatch op => rfl
    | destroy => exact absurd rfl hes.1

theorem run_dispatches (s : RoutineSlots) :
    ∀ (es : List RoutineEvent), (∀ e ∈ es, ∃ op, e = .dispatch op) → s.run es = s
  | [], _ => rfl
  | e :: es, hes => by
    obtain ⟨op, rfl⟩ := hes e (List.mem_cons_self _ _)
    exact run_dispatches s es fun e he => hes e (List.mem_cons_of_mem _ he)

theorem run_append (s : RoutineSlots) (es es' : List RoutineEvent) :
    s.run (es ++ es') = (s.run es).run es' :=
  List.foldl_append _ _ _ _

/-- For every history of registrations and dispatch operations before `Destroy`, and
dispatch operations after it: before `Destroy` each slot holds the first registration of
its kind; after it the context is released, and every slot is empty but the two that
`WalkStack` and `HandlePromiseRejection` look up, which still hold the first registered
stack-trace and rejection functions. -/
theorem destroy_keeps_two_routines (before after : List RoutineEvent)
    (hbefore : RoutineEvent.destroy ∉ before) (hafter : ∀ e ∈ after, ∃ op, e = .dispatch op) :
    (∀ k, (init.run before).routine k = firstRegistration k before) ∧
    (∀ op, (init.run (before ++ .destroy :: after)).calls op =
      if op = .walkStack then firstRegistration .stackTrace before else none) ∧
    (init.run (before ++ .destroy :: after)).handlePromiseRejection =
      firstRegistration .unhandledPromiseRejection before ∧
    (init.run (before ++ .destroy :: after)).hasContext = false := by
  have hrun : ∀ k, (init.run before).routine k = firstRegistration k before := fun k => by
    rw [run_routine init before hbefore k]
    rfl
  have hend : init.run (before ++ .destroy :: after) = (init.run before).destroy := by
    rw [run_append, run, List.foldl_cons, ← run, run_dispatches _ after hafter]
    rfl
  refine ⟨hrun, fun op => ?_, ?_, by rw [hend]; rfl⟩
  · rw [hend]
    cases op <;> simp [calls, destroy_routine, hrun]
  · rw [hend, handlePromiseRejection, destroy_routine, hrun]
    simp

theorem destroy_keeps_two_routines_stackTrace :
    RoutineEvent.destroy ∉ [RoutineEvent.register .stackTrace 7] ∧
      (∀ e ∈ [RoutineEvent.dispatch .walkStack], ∃ op, e = .dispatch op) ∧
      (init.run ([.register .stackTrace 7] ++ .destroy :: [.dispatch .walkStack])).calls
        .walkStack = some 7 :=
  ⟨by decide, by simp,
    ((destroy_keeps_two_routines _ _ (by decide) (by simp)).2.1 .walkStack).trans rfl⟩

end RoutineSlots

end CitizenV8
