import CitizenV8.Environment.Thread

/-!
# Well-bracketed frames

A thread enters and leaves the engine through frames that are strictly paired:
`V8PushEnvironment` objects live on the C++ stack, and node calls its scope handler's exit
callback once for each enter callback, innermost first. `Bracketed` is that discipline on
a sequence of operations, stated on the operations alone.

Every frame constructor, in each of its branches, `Opens` exactly one frame: it is
innermost, makes its runtime current, holds its lockers and will restore the runtime that
was current (`opens_enterV8`, `opens_scopeEnter`). Its destructor undoes exactly that
(`exitFirst_of_opens`). By induction over the brackets:

* a well-bracketed sequence leaves `g_currentV8Runtime`, the frames and the lockers as it
  found them (`Bracketed.env_run`), so every exit restores the value the runtime had
  before the matching entry;
* along every prefix of one, `g_currentV8Runtime` is the runtime of the innermost frame
  that carries one (`Bracketed.coherent_run_prefix`);
* every microtask checkpoint is made while its own runtime is current
  (`Bracketed.checkpoint_current`), and the exit of a frame that carries a runtime makes
  exactly one, before it restores the runtime, when that runtime has a task queue and no GC
  pass is open (`exitFirst_checkpoint_of_opens`).

`envFrames_discipline` puts the four parts together.
-/

namespace CitizenV8

/-- An entry and the exit that closes it: the constructor and destructor of a
`V8PushEnvironment`, or node's scope handler enter and exit callbacks. -/
inductive Op.Pairs : Op → Op → Prop
  | v8 (r : RuntimeId) (locker : Bool) : Op.Pairs (.enterV8 r locker) .exitV8
  | scope (r : Option RuntimeId) (tryPush : Bool) : Op.Pairs (.scopeEnter r tryPush) .scopeExit

/-- A well-bracketed sequence of operations: every frame entered is exited by the exit of
its own kind, innermost first; operations that open no frame may stand anywhere. -/
inductive Bracketed : List Op → Prop
  | nil : Bracketed []
  | plain {op : Op} {ops : List Op} : op.isPlain → Bracketed ops → Bracketed (op :: ops)
  | frame {enter exit : Op} {body ops : List Op} :
      enter.Pairs exit → Bracketed body → Bracketed ops → Bracketed (enter :: body ++ exit :: ops)

theorem Bracketed.append {xs ys : List Op} (hx : Bracketed xs) (hy : Bracketed ys) :
    Bracketed (xs ++ ys) := by
  induction hx with
  | nil => exact hy
  | plain hp _ ih => exact .plain hp ih
  | frame hp hb _ _ ih => simpa using Bracketed.frame hp hb ih

/-- The lockers a frame holds. -/
def Frame.lockers : Frame → ℕ
  | .v8Push _ _ locker => if locker then 1 else 0
  | .lite .. => 1
  | .liteNoRuntime => 1
  | .noop => 0

theorem Frame.runtime?_eq_none_of_last? {f : Frame} (h : f.last? = none) : f.runtime? = none := by
  cases f <;> simp_all [Frame.last?, Frame.runtime?]

theorem takeFirst_cons_of {p : Frame → Bool} {f : Frame} (hf : p f) (fs : List Frame) :
    takeFirst p (f :: fs) = some (f, fs) := by
  simp [takeFirst, hf]

namespace Thread

/-- What the frames decide of a thread: `g_currentV8Runtime`, the open frames and the
number of lockers. -/
def env (t : Thread) : Option RuntimeId × List Frame × ℕ := (t.current, t.frames, t.lockers)

/-- `t'` is `t` with the frame `f` opened: `f` is innermost, makes its runtime current and
holds its lockers, and it will restore the runtime current in `t`. -/
def Opens (t : Thread) (f : Frame) (t' : Thread) : Prop :=
  t'.env = (f.runtime?.or t.current, f :: t.frames, t.lockers + f.lockers) ∧
    f.last?.getD t.current = t.current

theorem Opens.frames_eq {t t' : Thread} {f : Frame} (ho : t.Opens f t') :
    t'.frames = f :: t.frames :=
  congrArg (fun e => e.2.1) ho.1

theorem opens_enterV8 (t : Thread) (r : RuntimeId) (locker : Bool) :
    t.Opens (.v8Push r t.current locker) (t.step (.enterV8 r locker)).1 := by
  cases locker <;> simp [Opens, env, step, enterV8, Frame.lockers, Frame.runtime?, Frame.last?]

theorem opens_enterLite (t : Thread) (r : RuntimeId) :
    t.Opens (.lite r t.current) (t.enterLite r) := by
  simp [Opens, env, enterLite, Frame.lockers, Frame.runtime?, Frame.last?]

theorem opens_enterLiteNoRuntime (t : Thread) : t.Opens .liteNoRuntime t.enterLiteNoRuntime := by
  simp [Opens, env, enterLiteNoRuntime, Frame.lockers, Frame.runtime?, Frame.last?]

/-- Every branch of node's scope handler enter callback opens exactly one frame, a frame
kept on `g_envStack`; it opens the noop frame only when the environment's runtime is
already current. -/
theorem opens_scopeEnter (t : Thread) (r : Option RuntimeId) (tryPush : Bool) :
    ∃ f, f.onEnvStack ∧ t.Opens f (t.step (.scopeEnter r tryPush)).1 ∧
      (f = .noop → t.current = r) := by
  simp only [step, scopeEnter]
  rcases r with _ | r
  · exact ⟨.liteNoRuntime, rfl, opens_enterLiteNoRuntime t, by simp⟩
  by_cases hc : t.current = some r
  · refine ⟨.noop, rfl, ?_, fun _ => hc⟩
    simp [hc, Opens, env, Frame.lockers, Frame.runtime?, Frame.last?]
  simp only [hc, if_false]
  split_ifs
  · exact ⟨.lite r t.current, rfl, opens_enterLite t r, by simp⟩
  · exact ⟨.liteNoRuntime, rfl, opens_enterLiteNoRuntime t, by simp⟩
  · exact ⟨.lite r t.current, rfl, opens_enterLite t r, by simp⟩

/-- An entry opens one frame, observing nothing, and its exit destroys the innermost frame
of that frame's kind. -/
theorem step_pairs (t : Thread) {enter exit : Op} (h : enter.Pairs exit) :
    ∃ f p, p f ∧ (t.step enter).2 = [] ∧ t.Opens f (t.step enter).1 ∧
      ∀ t' : Thread, t'.step exit = t'.exitFirst p := by
  cases h with
  | v8 r locker =>
      exact ⟨.v8Push r t.current locker, _, rfl, rfl, opens_enterV8 t r locker, fun _ => rfl⟩
  | scope r tryPush =>
      obtain ⟨f, hf, ho, -⟩ := opens_scopeEnter t r tryPush
      exact ⟨f, _, hf, rfl, ho, fun _ => rfl⟩

theorem exitFrame_env (t : Thread) (f : Frame) :
    (t.exitFrame f).1.env = (f.last?.getD t.current, t.frames, t.lockers - f.lockers) := by
  cases f with
  | v8Push r last locker => cases locker <;> simp [exitFrame, env, Frame.last?, Frame.lockers]
  | _ => simp [exitFrame, env, Frame.last?, Frame.lockers]

theorem Opens.of_env_eq {t t' t'' : Thread} {f : Frame} (ho : t.Opens f t') (h : t''.env = t'.env) :
    t''.current = f.runtime?.or t.current ∧ t''.frames = f :: t.frames ∧
      t''.lockers = t.lockers + f.lockers := by
  rw [ho.1] at h
  simpa [env] using h

theorem exitFrame_checkpoint {t : Thread} {f : Frame} {r : RuntimeId} {c : Option RuntimeId}
    {others : List Frame} (h : .checkpoint r c others ∈ (t.exitFrame f).2) :
    f.runtime? = some r ∧ c = t.current ∧ others = t.frames := by
  cases f <;> simp_all [exitFrame, runMicrotasks, Frame.runtime?]

/-- The exit of a frame, once the frames inside it are closed, destroys that frame: it
restores the thread to what it was before the entry, and a checkpoint it makes is made
while the frame's runtime is current. -/
theorem exitFirst_of_opens {t t' t'' : Thread} {f : Frame} {p : Frame → Bool}
    (ho : t.Opens f t') (hf : p f) (h : t''.env = t'.env) :
    (t''.exitFirst p).1.env = t.env ∧
      ∀ r c others, .checkpoint r c others ∈ (t''.exitFirst p).2 → c = some r := by
  obtain ⟨hcur, hframes, hlock⟩ := ho.of_env_eq h
  simp only [exitFirst, hframes, takeFirst_cons_of hf]
  refine ⟨?_, fun r c others hmem => ?_⟩
  · rw [exitFrame_env]
    have hlast := ho.2
    rcases hl : f.last? with _ | last
    · simp [env, hcur, hlock, Frame.runtime?_eq_none_of_last? hl]
    · rw [hl, Option.getD_some] at hlast
      simp [env, hlock, hlast]
  · obtain ⟨hr, hc, -⟩ := exitFrame_checkpoint hmem
    simp [hc, hcur, hr]

/-- The exit of a frame that carries the runtime `r`, once the frames inside it are closed,
makes exactly one checkpoint, of `r`'s queue, when `r` has a task queue and no GC pass is
open: while `r` is still current and only the frames outside it are open. -/
theorem exitFirst_checkpoint_of_opens {t t' t'' : Thread} {f : Frame} {p : Frame → Bool}
    {r : RuntimeId} (ho : t.Opens f t') (hf : p f) (h : t''.env = t'.env)
    (hr : f.runtime? = some r) (hq : r ∈ t''.taskQueues) (hgc : t''.inGc = 0) :
    (t''.exitFirst p).2 = [.checkpoint r (some r) t.frames] := by
  obtain ⟨hcur, hframes, -⟩ := ho.of_env_eq h
  simp only [exitFirst, hframes, takeFirst_cons_of hf]
  cases f <;> simp_all [exitFrame, runMicrotasks, Frame.runtime?]

theorem env_step_of_isPlain {op : Op} (h : op.isPlain) (t : Thread) : (t.step op).1.env = t.env := by
  cases op <;> simp_all [Op.isPlain, step, env]

theorem checkpoint_step_of_isPlain {op : Op} (h : op.isPlain) (t : Thread) {r : RuntimeId}
    {c : Option RuntimeId} {others : List Frame} : .checkpoint r c others ∉ (t.step op).2 := by
  cases op <;> simp_all [Op.isPlain, step]

/-- Running a frame: its entry, the operations inside it, its exit, and what follows. -/
theorem run_frame (t : Thread) (enter exit : Op) (body ops : List Op) :
    t.run (enter :: body ++ exit :: ops) =
      (((((t.step enter).1.run body).1.step exit).1.run ops).1,
        (t.step enter).2 ++ ((t.step enter).1.run body).2 ++
          (((t.step enter).1.run body).1.step exit).2 ++
            ((((t.step enter).1.run body).1.step exit).1.run ops).2) := by
  simp [run_cons, run_append, List.append_assoc]

end Thread

open Thread

/-- A well-bracketed sequence leaves `g_currentV8Runtime`, the open frames and the lockers
as it found them. -/
theorem Bracketed.env_run {ops : List Op} (h : Bracketed ops) (t : Thread) :
    (t.run ops).1.env = t.env := by
  induction h generalizing t with
  | nil => rfl
  | plain hp _ ih => rw [run_cons, ih, env_step_of_isPlain hp]
  | frame hp _ _ ihb iho =>
      obtain ⟨f, p, hf, -, ho, hexit⟩ := step_pairs t hp
      rw [run_frame, iho, hexit, (exitFirst_of_opens ho hf (ihb _)).1]

theorem Bracketed.frames_run {ops : List Op} (h : Bracketed ops) (t : Thread) :
    (t.run ops).1.frames = t.frames :=
  congrArg (fun e => e.2.1) (h.env_run t)

/-- Every microtask checkpoint a well-bracketed sequence makes is made while the runtime
whose queue it checkpoints is current. -/
theorem Bracketed.checkpoint_current {ops : List Op} (h : Bracketed ops) (t : Thread)
    {r : RuntimeId} {c : Option RuntimeId} {others : List Frame}
    (hmem : .checkpoint r c others ∈ (t.run ops).2) : c = some r := by
  induction h generalizing t with
  | nil => simp at hmem
  | plain hp _ ih =>
      rw [run_cons, List.mem_append] at hmem
      exact hmem.elim (fun h => absurd h (checkpoint_step_of_isPlain hp t)) (ih _)
  | frame hp hb _ ihb iho =>
      obtain ⟨f, p, hf, henter, ho, hexit⟩ := step_pairs t hp
      simp only [run_frame, List.mem_append, henter, hexit] at hmem
      rcases hmem with ((h | h) | h) | h
      · simp at h
      · exact ihb _ h
      · exact (exitFirst_of_opens ho hf (hb.env_run _)).2 r c others h
      · exact iho _ h

/-! ## The current runtime along a run -/

/-- The value of `g_currentV8Runtime` that open frames determine over the value `base` it
had before any of them: the runtime of the innermost frame that carries one. -/
def currentOf : List Frame → Option RuntimeId → Option RuntimeId
  | [], base => base
  | f :: fs, base => f.runtime?.or (currentOf fs base)

theorem currentOf_of_findSome {fs : List Frame} {r : RuntimeId}
    (h : fs.findSome? Frame.runtime? = some r) (base : Option RuntimeId) :
    currentOf fs base = some r := by
  induction fs with
  | nil => simp at h
  | cons f fs ih =>
      rcases hf : f.runtime? with _ | r'
      · simp only [List.findSome?_cons, hf] at h
        simp [currentOf, hf, ih h]
      · simp only [List.findSome?_cons, hf, Option.some.injEq] at h
        simp [currentOf, hf, h]

/-- Every open frame that carries a runtime saved the value its outer frames determine. -/
def SavedLast : List Frame → Option RuntimeId → Prop
  | [], _ => True
  | f :: fs, base => f.last?.getD (currentOf fs base) = currentOf fs base ∧ SavedLast fs base

/-- A thread whose current runtime is the one its open frames determine over `base`, and
whose frames saved what they will restore. -/
def Coherent (base : Option RuntimeId) (t : Thread) : Prop :=
  t.current = currentOf t.frames base ∧ SavedLast t.frames base

theorem Coherent.of_env {base : Option RuntimeId} {t t' : Thread} (h : t'.env = t.env)
    (hc : Coherent base t) : Coherent base t' := by
  simp only [env, Prod.mk.injEq] at h
  simpa [Coherent, h.1, h.2.1] using hc

theorem Coherent.opens {base : Option RuntimeId} {t t' : Thread} {f : Frame}
    (hc : Coherent base t) (ho : t.Opens f t') : Coherent base t' := by
  obtain ⟨h, hlast⟩ := ho
  simp only [env, Prod.mk.injEq] at h
  refine ⟨by simp [h.1, h.2.1, currentOf, hc.1], ?_⟩
  rw [h.2.1]
  exact ⟨by rw [← hc.1]; exact hlast, hc.2⟩

theorem prefix_append_cases {α : Type} {p xs ys : List α} (h : p <+: xs ++ ys) :
    p <+: xs ∨ ∃ q, p = xs ++ q ∧ q <+: ys := by
  rcases List.prefix_or_prefix_of_prefix h (List.prefix_append xs ys) with h' | ⟨q, rfl⟩
  · exact .inl h'
  · exact .inr ⟨q, rfl, (List.prefix_append_right_inj xs).1 h⟩

/-- Along every prefix of a well-bracketed sequence, the current runtime is the one the
open frames determine. -/
theorem Bracketed.coherent_run_prefix {ops : List Op} (h : Bracketed ops) {base : Option RuntimeId}
    {t : Thread} (hc : Coherent base t) {pre : List Op} (hpre : pre <+: ops) :
    Coherent base (t.run pre).1 := by
  induction h generalizing t pre with
  | nil => rw [List.prefix_nil.1 hpre]; exact hc
  | plain hp _ ih =>
      rcases List.prefix_cons_iff.1 hpre with rfl | ⟨q, rfl, hq⟩
      · exact hc
      · exact ih (hc.of_env (env_step_of_isPlain hp t)) hq
  | @frame enter exit body ops hp hb _ ihb iho =>
      obtain ⟨f, p, hf, -, ho, hexit⟩ := step_pairs t hp
      rcases List.prefix_cons_iff.1 hpre with rfl | ⟨q, rfl, hq⟩
      · exact hc
      rcases prefix_append_cases hq with hbody | ⟨q', rfl, hrest⟩
      · exact ihb (hc.opens ho) hbody
      rcases List.prefix_cons_iff.1 hrest with rfl | ⟨q'', rfl, hops⟩
      · rw [List.append_nil, run_cons]
        exact ihb (hc.opens ho) (List.prefix_refl body)
      · rw [← List.cons_append, run_frame, hexit]
        exact iho (hc.of_env (exitFirst_of_opens ho hf (hb.env_run _)).1) hops

/-- The exit callback of node's scope handler pops the frame its matching enter callback
pushed, whichever branch pushed it. -/
theorem scopeExit_pops_own_frame (t : Thread) (r : Option RuntimeId) (tryPush : Bool)
    {body : List Op} (hb : Bracketed body) :
    ∃ f, f.onEnvStack ∧ (t.step (.scopeEnter r tryPush)).1.frames = f :: t.frames ∧
      takeFirst Frame.onEnvStack ((t.step (.scopeEnter r tryPush)).1.run body).1.frames =
        some (f, t.frames) := by
  obtain ⟨f, hf, ho, -⟩ := opens_scopeEnter t r tryPush
  refine ⟨f, hf, ho.frames_eq, ?_⟩
  rw [hb.frames_run, ho.frames_eq, takeFirst_cons_of hf]

/-- The environment frames of a thread, entered and exited in a well-bracketed sequence:
each exit restores the runtime that was current before its entry; the innermost open frame
that carries a runtime has it current, and the noop frame is opened only when the runtime
already is; every scope handler exit pops the frame its enter pushed; and every microtask
checkpoint is made while its runtime is still current, the exit of a frame that carries a
runtime with a task queue, outside a GC pass, making exactly one before it restores the
runtime. -/
theorem envFrames_discipline :
    (∀ (t : Thread) (enter exit : Op) (body : List Op), enter.Pairs exit → Bracketed body →
        (t.run (enter :: body ++ [exit])).1.current = t.current) ∧
    ((∀ (t : Thread) (ops pre : List Op) (r : RuntimeId), t.frames = [] → Bracketed ops →
        pre <+: ops → (t.run pre).1.frames.findSome? Frame.runtime? = some r →
          (t.run pre).1.current = some r) ∧
      ∀ (t : Thread) (r : Option RuntimeId) (tryPush : Bool),
        (t.step (.scopeEnter r tryPush)).1.frames.head? = some .noop → t.current = r) ∧
    (∀ (t : Thread) (r : Option RuntimeId) (tryPush : Bool) (body : List Op), Bracketed body →
        ∃ f, f.onEnvStack ∧ (t.step (.scopeEnter r tryPush)).1.frames = f :: t.frames ∧
          takeFirst Frame.onEnvStack ((t.step (.scopeEnter r tryPush)).1.run body).1.frames =
            some (f, t.frames)) ∧
    ((∀ (t : Thread) (ops : List Op) (r : RuntimeId) (c : Option RuntimeId) (others : List Frame),
        Bracketed ops → .checkpoint r c others ∈ (t.run ops).2 → c = some r) ∧
      ∀ (t : Thread) (enter exit : Op) (body : List Op) (r : RuntimeId), enter.Pairs exit →
        Bracketed body → (t.step enter).1.frames.head?.bind Frame.runtime? = some r →
        r ∈ t.taskQueues → ((t.step enter).1.run body).1.inGc = 0 →
          (((t.step enter).1.run body).1.step exit).2 = [.checkpoint r (some r) t.frames] ∧
          (((t.step enter).1.run body).1.step exit).1.current = t.current) := by
  refine ⟨fun t enter exit body hp hb => ?_, ⟨fun t ops pre r ht hops hpre hr => ?_,
    fun t r tryPush hnoop => ?_⟩, fun t r tryPush body hb => scopeExit_pops_own_frame t r tryPush hb,
    fun t ops r c others hops hmem => hops.checkpoint_current t hmem,
    fun t enter exit body r hp hb hr hq hgc => ?_⟩
  · exact congrArg (·.1) ((Bracketed.frame hp hb .nil).env_run t)
  · have hc : Coherent t.current t := by simp [Coherent, ht, currentOf, SavedLast]
    rw [(hops.coherent_run_prefix hc hpre).1, currentOf_of_findSome hr]
  · obtain ⟨f, -, ho, hf⟩ := opens_scopeEnter t r tryPush
    rw [ho.frames_eq] at hnoop
    exact hf (Option.some.inj hnoop)
  · obtain ⟨f, p, hf, -, ho, hexit⟩ := step_pairs t hp
    rw [ho.frames_eq] at hr
    have hq' : r ∈ ((t.step enter).1.run body).1.taskQueues := by
      rwa [run_taskQueues, step_taskQueues]
    rw [hexit]
    exact ⟨exitFirst_checkpoint_of_opens ho hf (hb.env_run _) hr hq' hgc,
      congrArg (·.1) (exitFirst_of_opens ho hf (hb.env_run _)).1⟩

/-- `Tick` on the server with the locker already held, whose routine runs a node callback of
the runtime: the callback's noop frame leaves the tick's frame to checkpoint the runtime's
queue once, with the runtime current, and then restore the null runtime. -/
theorem envFrames_discipline_tick_scope :
    (Thread.run ⟨none, [], 0, 0, [0]⟩
      [.enterV8 0 false, .scopeEnter (some 0) true, .scopeExit, .exitV8]).1.current = none ∧
    ((((Thread.step ⟨none, [], 0, 0, [0]⟩ (.enterV8 0 false)).1.run
        [.scopeEnter (some 0) true, .scopeExit]).1.step .exitV8).2 = [.checkpoint 0 (some 0) []] ∧
      (((Thread.step ⟨none, [], 0, 0, [0]⟩ (.enterV8 0 false)).1.run
        [.scopeEnter (some 0) true, .scopeExit]).1.step .exitV8).1.current = none) :=
  ⟨envFrames_discipline.1 _ (.enterV8 0 false) .exitV8 [.scopeEnter (some 0) true, .scopeExit]
      (.v8 0 false) (.frame (.scope (some 0) true) .nil .nil),
    envFrames_discipline.2.2.2.2 _ (.enterV8 0 false) .exitV8 [.scopeEnter (some 0) true, .scopeExit] 0
      (.v8 0 false) (.frame (.scope (some 0) true) .nil .nil) rfl (List.mem_singleton_self 0) rfl⟩

end CitizenV8
