import CitizenV8.Environment.Bracket

/-!
# Dispatch operations and the guest code they run

The host enters a runtime through the `IScriptRuntime` methods of `V8ScriptRuntime`:
`Tick`, `TriggerEvent`, `CallRef`, `DuplicateRef`, `RemoveRef` and `WalkStack` run the
routine the guest code registered, `LoadFile` and `LoadSystemFile` run a script through
`RunFileInternal`, and `EmitWarning` calls the guest's `console.warn`. `Script` is what the
guest code they run does, as far as the frames see it: it calls `Citizen` entry points,
calls `read` or `readbuffer`, makes a native call through which the host dispatches again,
and node runs callbacks of an environment around it. `Script.trace` lowers a script to the
frame operations it performs, so `Thread.run` of the trace is what it does to a thread.

A `V8PushEnvironment` builds its `Context::Scope` over `GetContext()`, which is the empty
handle once `Destroy` has reset `m_context`, and `EmitWarning` makes its first handle
without opening a `HandleScope`: in both cases V8 aborts the process before any guest code
runs (`Entry.abort`, `emitWarning_aborts`).

Every trace is well-bracketed (`Script.trace_bracketed`), so what `Bracketed` proves holds
of every dispatch. Every dispatch operation but `EmitWarning` runs its guest code inside a
`V8PushEnvironment` for its runtime, so every entry point that guest code calls sees its
own runtime as `GetCurrent()`, and so do the entry points called back by node, except under
the frame node's scope handler pushes without a runtime (`scopeEnter_noRuntime_iff`), where
they see the runtime that was current when node called back; `GetCurrent()` is never null
(`dispatch_entry_current`). `EmitWarning` opens no frame, so inside a frame of another
runtime the entry points `console.warn` calls see that runtime (`emitWarning_entry_current`).
A `V8PushEnvironment` checkpoints its runtime's microtasks at its exit whatever frames are
still open, so `read` called from a tick routine checkpoints the runtime's microtasks while
the tick's frame is open (`tick_read_checkpoint`); node's callbacks avoid that with the noop
frame (`nodeCallback_current_silent`).
-/

namespace CitizenV8

/-- The routines a runtime's guest code registers (`m_tickRoutine`, `m_eventRoutine`,
`m_callRefRoutine`, `m_duplicateRefRoutine`, `m_deleteRefRoutine`, `m_stackTraceRoutine`,
`m_unhandledPromiseRejectionRoutine`). -/
inductive Routine
  | tick | event | callRef | duplicateRef | deleteRef | stackTrace | unhandledPromiseRejection
  deriving DecidableEq, Repr

/-- What decides how a dispatch operation runs: whether the build is `IS_FXSERVER`, which
routines each runtime has set, whether its `m_context` still holds its context, and whether
the global `console` of that context has a `warn` to read. -/
structure Host where
  server : Bool
  hasRoutine : RuntimeId → Routine → Bool
  hasContext : RuntimeId → Bool
  hasWarn : RuntimeId → Bool

/-- How a dispatch operation runs its runtime's guest code: not at all, inside a
`V8PushEnvironment` with a `v8::Locker` or with `FakeScope`, inside one without running
any (a script that fails to load), with no frame at all, or not at all because V8 aborts the
process first. -/
inductive Entry
  | skip
  | framed (locker : Bool)
  | frameOnly
  | bare
  | abort
  deriving DecidableEq, Repr

/-- A dispatch operation that calls its routine inside a `V8PushEnvironment`, with a
`v8::Locker` when `locker`: nothing when the routine is not set, and an abort when the
frame's `Context::Scope` is built over the empty handle of a reset `m_context`. -/
def routineEntry (host : Host) (r : RuntimeId) (routine : Routine) (locker : Bool) : Entry :=
  if host.hasRoutine r routine then (if host.hasContext r then .framed locker else .abort)
  else .skip

/-- `V8ScriptRuntime::TriggerEvent`. -/
def triggerEvent (host : Host) (r : RuntimeId) : Entry := routineEntry host r .event true

/-- `V8ScriptRuntime::CallRef`. -/
def callRef (host : Host) (r : RuntimeId) : Entry := routineEntry host r .callRef true

/-- `V8ScriptRuntime::DuplicateRef`. -/
def duplicateRef (host : Host) (r : RuntimeId) : Entry := routineEntry host r .duplicateRef true

/-- `V8ScriptRuntime::RemoveRef`. -/
def removeRef (host : Host) (r : RuntimeId) : Entry := routineEntry host r .deleteRef true

/-- `V8ScriptRuntime::WalkStack`. -/
def walkStack (host : Host) (r : RuntimeId) : Entry := routineEntry host r .stackTrace true

/-- `V8ScriptRuntime::Tick`: the server takes a `v8::Locker` unless the thread already
holds one (`v8::Locker::IsLocked`); otherwise the frame is built with `FakeScope`. -/
def tick (host : Host) (r : RuntimeId) (lockers : ℕ) : Entry :=
  routineEntry host r .tick (host.server && lockers == 0)

/-- `V8ScriptRuntime::RunFileInternal`, which `LoadFile` and `LoadSystemFile` call: the
frame is opened before the load function runs, and the script runs only if it loaded. -/
def runFileInternal (host : Host) (r : RuntimeId) (loaded : Bool) : Entry :=
  if host.hasContext r then (if loaded then .framed true else .frameOnly) else .abort

/-- `V8ScriptRuntime::EmitWarning` on a thread whose open frames are `frames`: nothing once
`m_context` is empty. Otherwise `m_context.Get` makes a handle, which needs a `HandleScope`
on the thread: a `V8PushEnvironment` holds one, and a frame of node's scope handler is open
only inside node's callback scope or the native call around the host's call, which hold
one; with no frame open V8 aborts. Then it calls `console.warn` when it finds it, opening no
frame. -/
def emitWarning (host : Host) (r : RuntimeId) (frames : List Frame) : Entry :=
  if host.hasContext r then
    (if frames = [] then .abort else if host.hasWarn r then .bare else .skip)
  else .skip

theorem emitWarning_eq_abort_iff (host : Host) (r : RuntimeId) (frames : List Frame) :
    emitWarning host r frames = .abort ↔ host.hasContext r ∧ frames = [] := by
  unfold emitWarning
  split_ifs <;> simp_all

/-- The `IScriptRuntime` methods through which the host runs guest code; `loadFile loaded`
is `LoadFile` or `LoadSystemFile`, whose load function succeeds when `loaded`. -/
inductive Dispatch
  | tick | triggerEvent | callRef | duplicateRef | removeRef | walkStack
  | loadFile (loaded : Bool)
  | emitWarning
  deriving DecidableEq, Repr

/-- How a dispatch operation of runtime `r` runs guest code on the thread `t`. -/
def Dispatch.entry (host : Host) (r : RuntimeId) (t : Thread) : Dispatch → Entry
  | .tick => CitizenV8.tick host r t.lockers
  | .triggerEvent => CitizenV8.triggerEvent host r
  | .callRef => CitizenV8.callRef host r
  | .duplicateRef => CitizenV8.duplicateRef host r
  | .removeRef => CitizenV8.removeRef host r
  | .walkStack => CitizenV8.walkStack host r
  | .loadFile loaded => runFileInternal host r loaded
  | .emitWarning => CitizenV8.emitWarning host r t.frames

theorem Dispatch.eq_emitWarning_of_entry_bare {host : Host} {r : RuntimeId} {t : Thread}
    {op : Dispatch} (h : op.entry host r t = .bare) : op = .emitWarning := by
  cases op <;> simp only [Dispatch.entry, CitizenV8.tick, CitizenV8.triggerEvent, CitizenV8.callRef,
    CitizenV8.duplicateRef, CitizenV8.removeRef, CitizenV8.walkStack, routineEntry,
    runFileInternal] at h ⊢ <;> split_ifs at h

/-- `GetEnvRuntime` of a node environment of `runtime`: the runtime while `g_envRuntimes`
maps the environment to it (`Destroy` erases it before `node::FreeEnvironment`). -/
def envRuntime (runtime : RuntimeId) (registered : Bool) : Option RuntimeId :=
  if registered then some runtime else none

/-- What guest code does that the environment frames see. -/
inductive Script
  /-- Calls a `Citizen` entry point of its own runtime. -/
  | callEntry
  /-- Calls `read` or `readbuffer`, which read the file through `ReadFileData`. -/
  | readFile
  /-- The host runs a dispatch operation of `runtime`, whose guest code does `body`: from
  the host's own loop, or from a native the guest code calls. -/
  | dispatch (op : Dispatch) (runtime : RuntimeId) (body : List Script)
  /-- node runs a callback of `runtime`'s node environment, whose guest code does `body`,
  between its scope handler's enter and exit callbacks; `registered` when `GetEnvRuntime`
  finds the runtime, and `tryPush` what `PushEnvironment::TryPush` returns if it is asked. -/
  | nodeCallback (runtime : RuntimeId) (registered : Bool) (tryPush : Bool) (body : List Script)

mutual

/-- The frame operations a script performs from the thread state `t`, as code of `self`;
`guest` when it is guest code, which the host started through a dispatch operation or node
through a callback. -/
def Script.trace (host : Host) (self : RuntimeId) (guest : Bool) (t : Thread) :
    Script → List Op
  | .callEntry => [.callEntry self guest]
  | .readFile => [.enterV8 self true, .exitV8]
  | .dispatch op r body =>
      match op.entry host r t with
      | .skip => []
      | .framed locker =>
          .enterV8 r locker ::
            Script.traceList host r true (t.step (.enterV8 r locker)).1 body ++ [.exitV8]
      | .frameOnly => [.enterV8 r true, .exitV8]
      | .bare => Script.traceList host r true t body
      | .abort => [.fatal]
  | .nodeCallback owner registered tryPush body =>
      .scopeEnter (envRuntime owner registered) tryPush ::
        Script.traceList host owner true
          (t.step (.scopeEnter (envRuntime owner registered) tryPush)).1 body ++ [.scopeExit]

/-- The frame operations of code that does one script after another. -/
def Script.traceList (host : Host) (self : RuntimeId) (guest : Bool) (t : Thread) :
    List Script → List Op
  | [] => []
  | s :: ss =>
      s.trace host self guest t ++
        Script.traceList host self guest (t.run (s.trace host self guest t)).1 ss

end

mutual

theorem Script.trace_bracketed (host : Host) (self : RuntimeId) (guest : Bool) :
    ∀ (s : Script) (t : Thread), Bracketed (s.trace host self guest t)
  | .callEntry, _ => .plain rfl .nil
  | .readFile, _ => .frame (.v8 self true) .nil .nil
  | .dispatch op r body, t => by
      simp only [Script.trace]
      split
      · exact .nil
      · exact .frame (.v8 r _) (Script.traceList_bracketed host r true body _) .nil
      · exact .frame (.v8 r true) .nil .nil
      · exact Script.traceList_bracketed host r true body t
      · exact .plain rfl .nil
  | .nodeCallback owner registered tryPush body, _ =>
      .frame (.scope _ tryPush) (Script.traceList_bracketed host owner true body _) .nil

theorem Script.traceList_bracketed (host : Host) (self : RuntimeId) (guest : Bool) :
    ∀ (ss : List Script) (t : Thread), Bracketed (Script.traceList host self guest t ss)
  | [], _ => .nil
  | s :: ss, t =>
      (Script.trace_bracketed host self guest s t).append
        (Script.traceList_bracketed host self guest ss _)

end

/-! ## Entry points see their own runtime -/

namespace Thread

theorem entry_not_mem_exitFrame (t : Thread) (f : Frame) {b : RuntimeId} {c : Option RuntimeId}
    {g : Bool} {i : Option Frame} : .entry b c g i ∉ (t.exitFrame f).2 := by
  cases f <;> simp [exitFrame, runMicrotasks]

theorem entry_not_mem_exitFirst (t : Thread) (p : Frame → Bool) {b : RuntimeId}
    {c : Option RuntimeId} {g : Bool} {i : Option Frame} : .entry b c g i ∉ (t.exitFirst p).2 := by
  unfold exitFirst
  split
  · exact entry_not_mem_exitFrame _ _
  · simp

/-- The only operation that observes an entry point call is the call itself. -/
theorem eq_callEntry_of_entry_mem_step {t : Thread} {op : Op} {b : RuntimeId}
    {c : Option RuntimeId} {g : Bool} {i : Option Frame} (h : .entry b c g i ∈ (t.step op).2) :
    op = .callEntry b g ∧ c = t.current ∧ i = t.frames.head? := by
  cases op with
  | exitV8 => exact absurd h (entry_not_mem_exitFirst _ _)
  | scopeExit => exact absurd h (entry_not_mem_exitFirst _ _)
  | callEntry => simp_all [step]
  | _ => simp [step] at h

theorem callEntry_mem_of_entry_mem_run {t : Thread} {ops : List Op} {b : RuntimeId}
    {c : Option RuntimeId} {g : Bool} {i : Option Frame} (h : .entry b c g i ∈ (t.run ops).2) :
    Op.callEntry b g ∈ ops := by
  induction ops generalizing t with
  | nil => simp at h
  | cons op ops ih =>
      rw [run_cons, List.mem_append] at h
      rcases h with h | h
      · exact (eq_callEntry_of_entry_mem_step h).1 ▸ List.mem_cons_self _ _
      · exact List.mem_cons_of_mem _ (ih h)

/-- An entry point call observed in a frame is observed in the frame's body. -/
theorem entry_mem_body_of_mem_frame {t : Thread} {enter exit : Op} (hp : enter.Pairs exit)
    {body : List Op} {b : RuntimeId} {c : Option RuntimeId} {g : Bool} {i : Option Frame}
    (h : .entry b c g i ∈ (t.run (enter :: body ++ [exit])).2) :
    .entry b c g i ∈ ((t.step enter).1.run body).2 := by
  obtain ⟨f, p, -, henter, -, hexit⟩ := step_pairs t hp
  simp only [run_frame, henter, hexit, run_nil, List.nil_append, List.append_nil,
    List.mem_append] at h
  exact h.resolve_right (entry_not_mem_exitFirst _ _)

/-- Guest code of `self` runs on `t`: `self` is current, or the innermost frame is the one
node's scope handler pushes without a runtime, under some runtime that is current. -/
def RunsAs (self : RuntimeId) (t : Thread) : Prop :=
  t.current = some self ∨ (t.frames.head? = some .liteNoRuntime ∧ t.current.isSome)

theorem RunsAs.isSome {self : RuntimeId} {t : Thread} (h : t.RunsAs self) : t.current.isSome :=
  h.elim (fun h => by simp [h]) And.right

theorem RunsAs.of_env {self : RuntimeId} {t t' : Thread} (h : t'.env = t.env) (hs : t.RunsAs self) :
    t'.RunsAs self := by
  simp only [env, Prod.mk.injEq] at h
  simpa only [RunsAs, h.1, h.2.1] using hs

/-- node's scope handler pushes the frame without a runtime exactly when the environment's
runtime is not registered, or when the thread holds a locker, another runtime or none is
current and `TryPush` fails. -/
theorem scopeEnter_noRuntime_iff (t : Thread) (owner : RuntimeId) (registered tryPush : Bool) :
    (t.step (.scopeEnter (envRuntime owner registered) tryPush)).1.frames.head? = some .liteNoRuntime ↔
      registered = false ∨ (t.current ≠ some owner ∧ 0 < t.lockers ∧ tryPush = false) := by
  cases registered
  · simp [envRuntime, step, scopeEnter, enterLiteNoRuntime]
  · simp only [envRuntime, if_true, step, scopeEnter]
    by_cases hc : t.current = some owner
    · simp [hc]
    · cases tryPush <;> by_cases hl : 0 < t.lockers <;>
        simp [hc, hl, enterLite, enterLiteNoRuntime]

/-- node's callbacks run guest code of the environment's runtime: under the noop frame or a
`V8LitePushEnvironment` that made it current, or under the frame without a runtime. -/
theorem runsAs_scopeEnter {t : Thread} (hcur : t.current.isSome) (owner : RuntimeId)
    (registered tryPush : Bool) :
    (t.step (.scopeEnter (envRuntime owner registered) tryPush)).1.RunsAs owner := by
  cases registered
  · exact .inr ⟨rfl, hcur⟩
  · simp only [envRuntime, if_true, step, scopeEnter]
    split_ifs with h₁
    · exact .inl h₁
    · exact .inl rfl
    · exact .inr ⟨rfl, hcur⟩
    · exact .inl rfl

end Thread

open Thread

mutual

/-- Guest code that makes no `EmitWarning` dispatch. -/
def Script.warningFree : Script → Bool
  | .callEntry | .readFile => true
  | .dispatch op _ body => op != .emitWarning && Script.warningFreeList body
  | .nodeCallback _ _ _ body => Script.warningFreeList body

/-- Guest code none of whose scripts makes an `EmitWarning` dispatch. -/
def Script.warningFreeList : List Script → Bool
  | [] => true
  | s :: ss => s.warningFree && Script.warningFreeList ss

end

/-- A dispatch operation other than `EmitWarning` calls entry points only from the guest code
it runs inside its own `V8PushEnvironment`, with its runtime current. -/
theorem Script.dispatch_entry_of_body (host : Host) (self : RuntimeId) (guest : Bool)
    {op : Dispatch} (hop : op ≠ .emitWarning) (r : RuntimeId) (body : List Script) (t : Thread)
    {P : RuntimeId → Option RuntimeId → Option Frame → Prop}
    (hbody : ∀ t' : Thread, t'.current = some r → ∀ b c i,
      .entry b c true i ∈ (t'.run (Script.traceList host r true t' body)).2 → P b c i)
    {b : RuntimeId} {c : Option RuntimeId} {i : Option Frame}
    (h : .entry b c true i ∈ (t.run ((Script.dispatch op r body).trace host self guest t)).2) :
    P b c i := by
  simp only [Script.trace] at h
  split at h
  · simp at h
  · exact hbody _ rfl b c i (entry_mem_body_of_mem_frame (.v8 r _) h)
  · simpa using callEntry_mem_of_entry_mem_run h
  · exact absurd (Dispatch.eq_emitWarning_of_entry_bare ‹_›) hop
  · simpa using callEntry_mem_of_entry_mem_run h

mutual

/-- Every entry point that warning-free guest code of `self` calls sees some runtime as
`GetCurrent()`, and its own unless it is called under node's frame without a runtime. -/
theorem Script.entry_current (host : Host) (self : RuntimeId) (guest : Bool) :
    ∀ (s : Script) (t : Thread), s.warningFree → t.RunsAs self →
      ∀ {b : RuntimeId} {c : Option RuntimeId} {i : Option Frame},
        .entry b c true i ∈ (t.run (s.trace host self guest t)).2 →
          c.isSome ∧ (i ≠ some .liteNoRuntime → c = some b)
  | .callEntry, t, _, hself, b, c, i, h => by
      simp only [Script.trace, run_cons, step, run_nil, List.append_nil, List.mem_singleton,
        Observation.entry.injEq] at h
      obtain ⟨rfl, rfl, -, rfl⟩ := h
      exact ⟨hself.isSome, fun hi => hself.resolve_right fun h => hi h.1⟩
  | .readFile, t, _, _, b, c, i, h => by
      simpa [Script.trace] using callEntry_mem_of_entry_mem_run h
  | .dispatch op r body, t, hfree, _, b, c, i, h => by
      simp only [Script.warningFree, Bool.and_eq_true, bne_iff_ne] at hfree
      exact Script.dispatch_entry_of_body host self guest hfree.1 r body t
        (fun t' ht' _ _ _ h' => Script.entryList_current host r true body t' hfree.2 (.inl ht') h') h
  | .nodeCallback owner registered tryPush body, t, hfree, hself, b, c, i, h =>
      Script.entryList_current host owner true body _ hfree
        (runsAs_scopeEnter hself.isSome owner registered tryPush)
        (entry_mem_body_of_mem_frame (.scope _ tryPush) h)

theorem Script.entryList_current (host : Host) (self : RuntimeId) (guest : Bool) :
    ∀ (ss : List Script) (t : Thread), Script.warningFreeList ss → t.RunsAs self →
      ∀ {b : RuntimeId} {c : Option RuntimeId} {i : Option Frame},
        .entry b c true i ∈ (t.run (Script.traceList host self guest t ss)).2 →
          c.isSome ∧ (i ≠ some .liteNoRuntime → c = some b)
  | [], _, _, _, _, _, _, h => by simp [Script.traceList] at h
  | s :: ss, t, hfree, hself, b, c, i, h => by
      simp only [Script.warningFreeList, Bool.and_eq_true] at hfree
      simp only [Script.traceList, run_append, List.mem_append] at h
      rcases h with h | h
      · exact Script.entry_current host self guest s t hfree.1 hself h
      · exact Script.entryList_current host self guest ss _ hfree.2
          (hself.of_env ((Script.trace_bracketed host self guest s t).env_run t)) h

end

/-- With no frame open on the thread, `EmitWarning` of a runtime that holds its context
makes its first handle with no `HandleScope`: V8 aborts before `console.warn` runs. -/
theorem emitWarning_aborts (host : Host) (r self : RuntimeId) (guest : Bool)
    (hctx : host.hasContext r) (body : List Script) (t : Thread) (hframes : t.frames = []) :
    (Script.dispatch .emitWarning r body).trace host self guest t = [.fatal] := by
  simp [Script.trace, Dispatch.entry, CitizenV8.emitWarning, hctx, hframes]

/-- `EmitWarning` runs `console.warn` with no frame of its own: on a thread where a frame of
another runtime is open, an entry point that `console.warn` calls sees that runtime as
`GetCurrent()`, whatever runtime it is bound to. -/
theorem emitWarning_entry_current (host : Host) (r : RuntimeId) (hctx : host.hasContext r)
    (hwarn : host.hasWarn r) (t : Thread) (hframes : t.frames ≠ []) :
    (t.run ((Script.dispatch .emitWarning r [.callEntry]).trace host r false t)).2 =
      [.entry r t.current true t.frames.head?] := by
  simp [Script.trace, Script.traceList, Dispatch.entry, CitizenV8.emitWarning, hctx, hwarn,
    hframes, run_cons, step]

/-- The host emits a warning for runtime `0` while a `V8PushEnvironment` of runtime `1` is
open: `console.warn`'s entry point, bound to `0`, sees `1`. -/
theorem emitWarning_entry_current_foreign :
    (⟨false, fun _ _ => false, fun _ => true, fun _ => true⟩ : Host).hasContext 0 ∧
      (⟨false, fun _ _ => false, fun _ => true, fun _ => true⟩ : Host).hasWarn 0 ∧
      (⟨some 1, [.v8Push 1 none true], 1, 0, []⟩ : Thread).frames ≠ [] ∧
      (Thread.run ⟨some 1, [.v8Push 1 none true], 1, 0, []⟩
        ((Script.dispatch .emitWarning 0 [.callEntry]).trace
          ⟨false, fun _ _ => false, fun _ => true, fun _ => true⟩ 0 false
          ⟨some 1, [.v8Push 1 none true], 1, 0, []⟩)).2 =
        [.entry 0 (some 1) true (some (.v8Push 1 none true))] :=
  ⟨rfl, rfl, List.cons_ne_nil _ _,
    emitWarning_entry_current ⟨false, fun _ _ => false, fun _ => true, fun _ => true⟩ 0 rfl rfl
      ⟨some 1, [.v8Push 1 none true], 1, 0, []⟩ (List.cons_ne_nil _ _)⟩

/-! ## Checkpoints inside a runtime's own frame -/

/-- A tick routine that calls `read`: `ReadFileData` opens a second `V8PushEnvironment`
for the runtime, whose exit checkpoints the runtime's microtasks while the tick's frame
for the same runtime is still open. -/
theorem tick_read_checkpoint (host : Host) (r : RuntimeId) (htick : host.hasRoutine r .tick)
    (hctx : host.hasContext r) (t : Thread) (hqueue : r ∈ t.taskQueues) (hgc : t.inGc = 0) :
    .checkpoint r (some r) (.v8Push r t.current (host.server && t.lockers == 0) :: t.frames) ∈
      (t.run ((Script.dispatch .tick r [.readFile]).trace host r false t)).2 := by
  simp [Script.trace, Script.traceList, Dispatch.entry, CitizenV8.tick, routineEntry, htick, hctx,
    run_cons, step, enterV8, exitFirst, takeFirst, Frame.onEnvStack, exitFrame, runMicrotasks,
    hqueue, hgc]

theorem tick_read_checkpoint_first :
    (⟨false, fun _ _ => true, fun _ => true, fun _ => false⟩ : Host).hasRoutine 0 .tick ∧
      (⟨false, fun _ _ => true, fun _ => true, fun _ => false⟩ : Host).hasContext 0 ∧
      0 ∈ (⟨none, [], 0, 0, [0]⟩ : Thread).taskQueues ∧ (⟨none, [], 0, 0, [0]⟩ : Thread).inGc = 0 ∧
      .checkpoint 0 (some 0) [.v8Push 0 none false] ∈
        (Thread.run ⟨none, [], 0, 0, [0]⟩ ((Script.dispatch .tick 0 [.readFile]).trace
          ⟨false, fun _ _ => true, fun _ => true, fun _ => false⟩ 0 false ⟨none, [], 0, 0, [0]⟩)).2 :=
  ⟨rfl, rfl, List.mem_singleton_self 0, rfl,
    tick_read_checkpoint ⟨false, fun _ _ => true, fun _ => true, fun _ => false⟩ 0 rfl rfl
      ⟨none, [], 0, 0, [0]⟩ (List.mem_singleton_self 0) rfl⟩

/-- A node callback of the runtime that is already current runs inside the noop frame:
its enter and exit callbacks observe nothing, so it makes no microtask checkpoint of its
own. -/
theorem nodeCallback_current_silent (t : Thread) {r : RuntimeId} (hcur : t.current = some r)
    (tryPush : Bool) {body : List Op} (hb : Bracketed body) :
    (t.run (.scopeEnter (some r) tryPush :: body ++ [.scopeExit])).2 =
      ((t.step (.scopeEnter (some r) tryPush)).1.run body).2 := by
  have hframes : (t.step (.scopeEnter (some r) tryPush)).1.frames = .noop :: t.frames := by
    simp [step, scopeEnter, hcur]
  have hexit : (((t.step (.scopeEnter (some r) tryPush)).1.run body).1.step .scopeExit).2 = [] := by
    show (exitFirst _ Frame.onEnvStack).2 = []
    simp only [exitFirst, hb.frames_run, hframes, takeFirst_cons_of (show Frame.onEnvStack .noop from rfl)]
    rfl
  rw [run_frame, hexit]
  simp only [run_nil, List.append_nil]
  rfl

/-- A node callback of the current runtime `0` that reads a file: the only checkpoint is the
one the inner `V8PushEnvironment` makes, under the noop frame. -/
theorem nodeCallback_current_silent_read :
    (⟨some 0, [], 0, 0, [0]⟩ : Thread).current = some 0 ∧ Bracketed [.enterV8 0 true, .exitV8] ∧
      (Thread.run ⟨some 0, [], 0, 0, [0]⟩
          (.scopeEnter (some 0) true :: [.enterV8 0 true, .exitV8] ++ [.scopeExit])).2 =
        ((Thread.step ⟨some 0, [], 0, 0, [0]⟩ (.scopeEnter (some 0) true)).1.run
          [.enterV8 0 true, .exitV8]).2 ∧
      ((Thread.step ⟨some 0, [], 0, 0, [0]⟩ (.scopeEnter (some 0) true)).1.run
          [.enterV8 0 true, .exitV8]).2 = [.checkpoint 0 (some 0) [.noop]] :=
  ⟨rfl, .frame (.v8 0 true) .nil .nil,
    nodeCallback_current_silent ⟨some 0, [], 0, 0, [0]⟩ rfl true (.frame (.v8 0 true) .nil .nil),
    by decide⟩

end CitizenV8
