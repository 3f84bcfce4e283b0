import CitizenV8.Runtime.Routines
import CitizenV8.Trace.Boundary
import CitizenV8.Trace.WalkStack

/-!
# What the routines pass to guest code and hand back

Each registration function wraps the guest function it is given in a routine that builds the
guest's arguments, calls the function under a `TryCatch` with `Null` as receiver, and turns
its value into what the host asked for. A routine whose function threw traces one line
naming the routine and the resource (`routineError`), and hands back what it hands back when
there is no value: `CallRef` no buffer, `DuplicateRef` `-1`, `WalkStack` no blob. Byte
payloads reach the guest as a `Uint8Array` over a fresh array buffer holding a copy of
them, and a view the guest returns is copied out with `CopyContents`.

`World` is what these routines read and change: the backing stores of the isolate's array
buffers and what `ScriptTrace` wrote. The dispatch operations of `V8ScriptRuntime` call the
guest function a routine slot holds inside a frame over `GetContext()` (`framedCall`), so
`V8ScriptRuntime.callRef` and the others are the state machine of `RoutineSlots` read at one
moment; they give `none` where the process crashes on a reset context. They agree with the
frame-level model of `Dispatch`, which reads the same slots through `RoutineSlots.host`: an
operation runs guest code there exactly when it calls its guest function here, and aborts
there exactly when it gives nothing here (`framedCall_routineEntry`,
`emitWarning_abort_iff`).
-/

namespace CitizenV8

/-- What the routines read and change: the bytes of the backing store of every array buffer,
by id, the id the next `ArrayBuffer::New` takes, and the lines `ScriptTrace` wrote. -/
structure World where
  stores : ℕ → List UInt8
  next : ℕ
  trace : List String

namespace World

/-- `ArrayBuffer::New` of `data.size()` bytes, the `memcpy` of `data` into its backing
store, and `Uint8Array::New(buffer, 0, data.size())`: a fresh store holding `data` and the
view over all of it. -/
def newUint8Array (w : World) (data : List UInt8) : World × BufferView :=
  ({ w with stores := Function.update w.stores w.next data, next := w.next + 1 },
    ⟨w.next, data.length, 0, data.length, by simp⟩)

/-- `CopyContents(dest, ByteLength())`: the `ByteLength()` bytes of a view from its
`ByteOffset()`. -/
def contents (w : World) (v : BufferView) : List UInt8 :=
  ((w.stores v.store).drop v.byteOffset).take v.byteLength

/-- `ScriptTrace` of one line. -/
def scriptTrace (w : World) (line : String) : World := { w with trace := w.trace ++ [line] }

@[simp] theorem contents_newUint8Array (w : World) (data : List UInt8) :
    (w.newUint8Array data).1.contents (w.newUint8Array data).2 = data := by
  simp [newUint8Array, contents]

@[simp] theorem trace_newUint8Array (w : World) (data : List UInt8) :
    (w.newUint8Array data).1.trace = w.trace := rfl

@[simp] theorem trace_scriptTrace (w : World) (line : String) :
    (w.scriptTrace line).trace = w.trace ++ [line] := rfl

end World

/-- What a `TryCatch` caught: the `String::Utf8Value` of `eh.Exception()`, and the stack trace
`eh.StackTrace` gives, `none` when it is empty. -/
structure Thrown where
  text : String
  stack : Option String
  deriving DecidableEq, Repr

/-- `GetStackTrace`: the caught stack trace, or `<empty stack trace>`. -/
def Thrown.stackText (e : Thrown) : String := e.stack.getD "<empty stack trace>"

/-- A guest function: what calling it with some arguments does to the world, and the value it
returns or what it throws. -/
abbrev GuestFn := World → List JsValue → World × Except Thrown JsValue

/-- The line a routine traces when its guest function threw:
`Error calling system %s function in resource %s: %s\nstack:\n%s\n`, `what` naming the
routine. -/
def routineError (what resource : String) (e : Thrown) : String :=
  "Error calling system " ++ what ++ " function in resource " ++ resource ++ ": " ++ e.text ++
    "\nstack:\n" ++ e.stackText ++ "\n"

/-- A routine's call of its guest function under a `TryCatch`: the value, or nothing once a
caught exception is traced as `what`'s error. -/
def callTraced (what resource : String) (f : GuestFn) (w : World) (args : List JsValue) :
    World × Option JsValue :=
  match f w args with
  | (w', .ok v) => (w', some v)
  | (w', .error e) => (w'.scriptTrace (routineError what resource e), none)

/-- `IsInt32()` and `Int32Value()`: the value of a number that is an `int32_t`; the negative
zero and every other value are not one. -/
def JsValue.int32? : JsValue → Option ℤ
  | .number (.num x) => if x.den = 1 ∧ -2 ^ 31 ≤ x.num ∧ x.num < 2 ^ 31 then some x.num else none
  | _ => none

/-! ## The routines of the seven registration functions -/

/-- The routine of `V8_SetTickFunction`: the function gets the time in milliseconds. -/
def tickRoutine (resource : String) (f : GuestFn) (w : World) (now : ℕ) : World :=
  (callTraced "tick" resource f w [.number (.num now)]).1

/-- The routine of `V8_SetEventFunction`: the function gets the event name, a `Uint8Array`
over a copy of the payload, and the event source. -/
def eventRoutine (resource : String) (f : GuestFn) (w : World) (eventName : String)
    (payload : List UInt8) (eventSource : String) : World :=
  let (w, view) := w.newUint8Array payload
  (callTraced "event handling" resource f w [.string eventName, .view view, .string eventSource]).1

/-- The routine of `V8_SetCallRefFunction`: the function gets the reference index and a
`Uint8Array` over a copy of the arguments; the routine hands back a buffer holding the bytes
of the view it returned, and no buffer when it threw or returned anything else. -/
def callRefRoutine (resource : String) (f : GuestFn) (w : World) (refId : ℤ)
    (args : List UInt8) : World × Option (List UInt8) :=
  let (w, view) := w.newUint8Array args
  match callTraced "call ref" resource f w [.number (.num refId), .view view] with
  | (w, some (.view v)) => (w, some (w.contents v))
  | (w, _) => (w, none)

/-- The routine of `V8_SetDeleteRefFunction`: the function gets the reference index. -/
def deleteRefRoutine (resource : String) (f : GuestFn) (w : World) (refId : ℤ) : World :=
  (callTraced "delete ref" resource f w [.number (.num refId)]).1

/-- The routine of `V8_SetDuplicateRefFunction`: the function gets the reference index; the
routine hands back the `int32_t` it returned, and `-1` when it threw or returned anything
else. -/
def duplicateRefRoutine (resource : String) (f : GuestFn) (w : World) (refId : ℤ) :
    World × ℤ :=
  match callTraced "duplicate ref" resource f w [.number (.num refId)] with
  | (w, some v) => (w, v.int32?.getD (-1))
  | (w, none) => (w, -1)

/-- The routine of `V8_SetStackTraceRoutine`: the function gets the hints of the boundary
blobs, or `Null` for an absent one; the routine hands back what `stackTraceOut` reads from
the value it returned. `none` when a blob is not a `V8Boundary` the cast can read. -/
def stackTraceRoutine (resource : String) (f : GuestFn) (w : World)
    (boundaryStart boundaryEnd : Option (List UInt8)) : Option (World × Option (List UInt8)) :=
  (stackTraceArguments boundaryStart boundaryEnd).map fun args =>
    let (w, value) := callTraced "stack trace" resource f w args
    (w, stackTraceOut w.contents value)

/-- The routine of `V8_SetUnhandledPromiseRejectionRoutine`: the function gets the
rejection's event, the promise and its value (`undefined` when it has none); an exception is
traced with a text of its own. -/
def unhandledPromiseRejectionRoutine (resource : String) (f : GuestFn) (w : World)
    (event : ℤ) (promise : JsValue) (value : Option JsValue) : World :=
  match f w [.number (.num event), promise, value.getD .undefined] with
  | (w, .ok _) => w
  | (w, .error e) =>
      w.scriptTrace ("Unhandled error during handling of unhandled promise rejection in resource " ++
        resource ++ ": " ++ e.text ++ "\nstack:\n" ++ e.stackText ++ "\n")

/-! ## The dispatch operations -/

/-- What the dispatch operations of a runtime read: its routine slots and whether `m_context`
holds the context, the name `GetResourceName` gives, and what each guest function does. -/
structure V8ScriptRuntime where
  slots : RoutineSlots
  resourceName : String
  guest : ℕ → GuestFn

namespace V8ScriptRuntime

/-- The guest function the routine slot `k` calls, if one is set. -/
def routine (rt : V8ScriptRuntime) (k : Routine) : Option GuestFn :=
  (rt.slots.routine k).map rt.guest

/-- A dispatch operation that calls the guest function of the routine `k` over
`GetContext()`: what the operation hands back without a routine is `otherwise`, and with one
it is what `call` makes of the guest function; `none`, the process crashing, when the routine
is set but `m_context` no longer holds the context, whose empty handle the frame's
`Context::Scope` (for the rejection routine, `Function::Call`) dereferences. -/
def framedCall {α : Type} (rt : V8ScriptRuntime) (k : Routine) (otherwise : α) (call : GuestFn → α) :
    Option α :=
  match rt.routine k with
  | none => some otherwise
  | some f => if rt.slots.hasContext then some (call f) else none

/-- `V8ScriptRuntime::Tick`. -/
def tick (rt : V8ScriptRuntime) (w : World) (now : ℕ) : Option World :=
  rt.framedCall .tick w fun f => tickRoutine rt.resourceName f w now

/-- `V8ScriptRuntime::TriggerEvent`. -/
def triggerEvent (rt : V8ScriptRuntime) (w : World) (eventName : String) (payload : List UInt8)
    (eventSource : String) : Option World :=
  rt.framedCall .event w fun f => eventRoutine rt.resourceName f w eventName payload eventSource

/-- `V8ScriptRuntime::CallRef`: `*retval = nullptr`, then the buffer of the call-ref
routine. -/
def callRef (rt : V8ScriptRuntime) (w : World) (refIdx : ℤ) (args : List UInt8) :
    Option (World × Option (List UInt8)) :=
  rt.framedCall .callRef (w, none) fun f => callRefRoutine rt.resourceName f w refIdx args

/-- `V8ScriptRuntime::DuplicateRef`: `*outRefIdx = -1`, then what the duplicate-ref routine
hands back. -/
def duplicateRef (rt : V8ScriptRuntime) (w : World) (refIdx : ℤ) : Option (World × ℤ) :=
  rt.framedCall .duplicateRef (w, -1) fun f => duplicateRefRoutine rt.resourceName f w refIdx

/-- `V8ScriptRuntime::RemoveRef`. -/
def removeRef (rt : V8ScriptRuntime) (w : World) (refIdx : ℤ) : Option World :=
  rt.framedCall .deleteRef w fun f => deleteRefRoutine rt.resourceName f w refIdx

/-- `V8ScriptRuntime::WalkStack`: the frames submitted to the visitor, or the msgpack-c
exception that leaves it; `none` when the process crashes or the routine reads a blob that is
not a `V8Boundary`. -/
def walkStack (rt : V8ScriptRuntime) (w : World) (boundaryStart boundaryEnd : Option (List UInt8)) :
    Option (World × Except MsgpackError (List (List UInt8))) :=
  (rt.framedCall .stackTrace (some (w, .ok [])) fun f =>
    (stackTraceRoutine rt.resourceName f w boundaryStart boundaryEnd).map
      fun (w, out) => (w, walkStackFrames out)).join

/-- `V8ScriptRuntime::HandlePromiseRejection`. -/
def handlePromiseRejection (rt : V8ScriptRuntime) (w : World) (event : ℤ) (promise : JsValue)
    (value : Option JsValue) : Option World :=
  rt.framedCall .unhandledPromiseRejection w fun f =>
    unhandledPromiseRejectionRoutine rt.resourceName f w event promise value

/-- The promise-reject callback of a build without `V8_NODE`: the runtime stored in embedder
data 16 of the promise's creation context, `none` when there is none, handles the
rejection. -/
def promiseRejectCallback (runtimeOf : Option V8ScriptRuntime) (w : World) (event : ℤ)
    (promise : JsValue) (value : Option JsValue) : Option World :=
  match runtimeOf with
  | none => some w
  | some rt => rt.handlePromiseRejection w event promise value

/-- The text `V8ScriptRuntime::EmitWarning` passes to `console.warn`: `[%s] %s` of the
channel and the message, less one trailing newline, which `console.warn` adds itself. -/
def warningText (channel message : String) : String :=
  let text := "[" ++ channel ++ "] " ++ message
  if text.back = '\n' then text.dropRight 1 else text

/-- `V8ScriptRuntime::EmitWarning`, given what reading `console.warn` from the global of the
context gives (`none` when a read fails) and whether a `HandleScope` is open on the thread:
nothing once `m_context` is empty; `none`, V8 aborting the process, when `m_context.Get` makes
its handle with no `HandleScope` open; and otherwise the call of `warn` with the warning text.
No `TryCatch` surrounds the call, so what `warn` throws is left pending, the second
component. -/
def emitWarning (rt : V8ScriptRuntime) (warn : Option GuestFn) (handleScope : Bool) (w : World)
    (channel message : String) : Option (World × Option Thrown) :=
  if !rt.slots.hasContext then some (w, none)
  else if !handleScope then none
  else match warn with
    | some f =>
        match f w [.string (warningText channel message)] with
        | (w, .ok _) => some (w, none)
        | (w, .error e) => some (w, some e)
    | none => some (w, none)

end V8ScriptRuntime

/-! ## Values handed back to the host -/

theorem int32?_range {v : JsValue} {r : ℤ} (h : v.int32? = some r) : -2 ^ 31 ≤ r ∧ r < 2 ^ 31 := by
  unfold JsValue.int32? at h
  split at h
  · split_ifs at h with hx
    cases h
    exact hx.2
  · cases h

namespace V8ScriptRuntime

/-- When `DuplicateRef` returns, it hands the host an `int32_t` whatever its guest function
does, and anything but `-1` only when its routine is set and its function returned, without
throwing, a number that is that `int32_t`. -/
theorem duplicateRef_int32 (rt : V8ScriptRuntime) (w : World) (refIdx : ℤ) {w' : World} {r : ℤ}
    (h : rt.duplicateRef w refIdx = some (w', r)) :
    -2 ^ 31 ≤ r ∧ r < 2 ^ 31 ∧
      (r ≠ -1 → ∃ f, rt.routine .duplicateRef = some f ∧
        ∃ w'' v, f w [.number (.num refIdx)] = (w'', .ok v) ∧ v.int32? = some r) := by
  by_cases hr : r = -1
  · subst hr
    exact ⟨by norm_num, by norm_num, fun h => absurd rfl h⟩
  unfold duplicateRef framedCall at h
  rcases hf : rt.routine .duplicateRef with _ | f <;> simp only [hf] at h
  · exact absurd (Prod.mk.inj (Option.some.inj h)).2.symm hr
  · split_ifs at h
    simp only [duplicateRefRoutine, callTraced, Option.some.injEq] at h
    rcases hc : f w [.number (.num refIdx)] with ⟨w₁, _ | v⟩ <;> simp only [hc] at h
    · exact absurd (Prod.mk.inj h).2.symm hr
    · rcases hv : v.int32? with _ | r' <;>
        simp only [hv, Option.getD_none, Option.getD_some, Prod.mk.injEq] at h
      · exact absurd h.2.symm hr
      · obtain ⟨-, rfl⟩ := h
        exact ⟨(int32?_range hv).1, (int32?_range hv).2, fun _ => ⟨f, rfl, w₁, v, hc, hv⟩⟩

/-! ## The frame-level model and the world functions -/

/-- A routine dispatch as the frame-level model sees it (`routineEntry`, over the `Host` that
`RoutineSlots.host` reads from the runtime's slots) and what it does to the world agree: it
skips exactly when it hands back what it hands back without a routine, aborts exactly when
the world function gives nothing, and runs guest code in its frame exactly when it calls the
guest function its slot holds. -/
theorem framedCall_routineEntry {α : Type} (rt : V8ScriptRuntime) (server : Bool)
    {slots : RuntimeId → RoutineSlots} (hasWarn : RuntimeId → Bool) {r : RuntimeId}
    (hr : slots r = rt.slots) (k : Routine) (locker : Bool) (otherwise : α) (call : GuestFn → α) :
    match routineEntry (RoutineSlots.host server slots hasWarn) r k locker with
    | .skip => rt.framedCall k otherwise call = some otherwise
    | .abort => rt.framedCall k otherwise call = none
    | .framed _ => ∃ f, rt.routine k = some f ∧ rt.framedCall k otherwise call = some (call f)
    | _ => False := by
  unfold routineEntry framedCall routine
  simp only [RoutineSlots.host, hr]
  rcases rt.slots.routine k with _ | n <;> cases rt.slots.hasContext <;> simp

theorem emitWarning_eq_none_iff (rt : V8ScriptRuntime) (warn : Option GuestFn) (handleScope : Bool)
    (w : World) (channel message : String) :
    rt.emitWarning warn handleScope w channel message = none ↔
      rt.slots.hasContext ∧ handleScope = false := by
  unfold emitWarning
  cases rt.slots.hasContext <;> cases handleScope <;> simp only [Bool.not_true, Bool.not_false,
    if_true, if_false, Bool.false_eq_true, and_true, and_false, iff_true, iff_false,
    reduceCtorEq, not_false_eq_true]
  rcases warn with _ | f
  · simp
  · dsimp only
    split <;> simp

/-- `EmitWarning` as the frame-level model sees it on a thread and what it does to the world
agree: it aborts exactly when the world function gives nothing, on a thread with no frame
open and so no `HandleScope`. -/
theorem emitWarning_abort_iff (rt : V8ScriptRuntime) (server : Bool)
    {slots : RuntimeId → RoutineSlots} (hasWarn : RuntimeId → Bool) {r : RuntimeId}
    (hr : slots r = rt.slots) (warn : Option GuestFn) (t : Thread) (w : World)
    (channel message : String) :
    CitizenV8.emitWarning (RoutineSlots.host server slots hasWarn) r t.frames = .abort ↔
      rt.emitWarning warn (decide (t.frames ≠ [])) w channel message = none := by
  rw [emitWarning_eq_abort_iff, emitWarning_eq_none_iff]
  simp [RoutineSlots.host, hr]

end V8ScriptRuntime

end CitizenV8
