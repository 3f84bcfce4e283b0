import Mathlib.Data.List.Infix

/-!
# Function references and their cleanup queue

`V8_MakeFunctionReference` allocates a `RefAndPersistent` and wraps it in a function made
by `Function::New`: when that succeeds the entry's `handle` holds the wrapper, made weak
with `FnRefWeakCallback`; when it fails the entry is deleted at once. Calling the wrapper
runs `V8_InvokeFunctionReference`, which reads the entry. When the wrapper is no longer
reachable the garbage collector runs `FnRefWeakCallback`, which resets the handle and
pushes the entry on `g_cleanUpFuncRefs`; `OnTick` drains that queue with
`while (try_pop(deleteRef)) delete deleteRef`. `FnRefs.step` is one of these actions,
`none` when the code reads an entry already deleted; `Enabled` is what the garbage collector
and guest code guarantee (a wrapper is called or dropped only while reachable, a weak
callback fires once, only for an unreachable wrapper).

Every entry is at every moment in exactly one `Phase` of its life, and its record and its
count on the queue are functions of that phase (`Inv`). Each action moves each entry by one
step of its life or leaves it (`fits_step`, `effect_next`), so no run reads or deletes a
deleted entry, every entry is pushed and deleted at most once, and a drain deletes every
entry queued when it started (`fnRefs_lifecycle`).
-/

namespace CitizenV8

/-- What the code and V8 keep of one `RefAndPersistent`: whether `handle` holds the
wrapper `Function::New` made, whether guest code can still reach the wrapper, whether the
weak handle is armed, and how many times the entry was pushed on `g_cleanUpFuncRefs` and
deleted. -/
structure RefState where
  wrapped : Bool
  reachable : Bool
  weak : Bool
  pushes : ℕ
  deletes : ℕ
  deriving DecidableEq, Repr

/-- The function references of a process: how many `RefAndPersistent`s were allocated
(the `n`-th has id `n`), their records, `g_cleanUpFuncRefs` front first, and whether
`OnTick`'s drain loop runs; `pending` is what the running drain found on the queue when it
started and has not popped yet. -/
structure FnRefs where
  next : ℕ
  refs : ℕ → RefState
  queue : List ℕ
  draining : Bool
  pending : List ℕ

/-- What happens to the function references. -/
inductive FnRefAct
  /-- `V8_MakeFunctionReference`, where `Function::New` succeeds when `ok`. -/
  | make (ok : Bool)
  /-- Guest code calls the wrapper of entry `i`: `V8_InvokeFunctionReference`. -/
  | invoke (i : ℕ)
  /-- Guest code drops the last reference to the wrapper of entry `i`. -/
  | drop (i : ℕ)
  /-- The garbage collector runs `FnRefWeakCallback` for entry `i`. -/
  | weakCallback (i : ℕ)
  /-- `OnTick` enters its drain loop. -/
  | drainStart
  /-- One `g_cleanUpFuncRefs.try_pop` of the drain loop, and the `delete` when it pops. -/
  | drainStep
  deriving DecidableEq, Repr

namespace FnRefs

def init : FnRefs := ⟨0, fun _ => ⟨false, false, false, 0, 0⟩, [], false, []⟩

/-- One action; `none` when it reads an entry that was deleted. -/
def step (s : FnRefs) : FnRefAct → Option FnRefs
  | .make true =>
      some { s with next := s.next + 1, refs := Function.update s.refs s.next ⟨true, true, true, 0, 0⟩ }
  | .make false =>
      some { s with next := s.next + 1, refs := Function.update s.refs s.next ⟨false, false, false, 0, 1⟩ }
  | .invoke i => if 0 < (s.refs i).deletes then none else some s
  | .drop i => some { s with refs := Function.update s.refs i { s.refs i with reachable := false } }
  | .weakCallback i =>
      if 0 < (s.refs i).deletes then none
      else some { s with
        refs := Function.update s.refs i { s.refs i with weak := false, pushes := (s.refs i).pushes + 1 },
        queue := s.queue ++ [i] }
  | .drainStart => some { s with draining := true, pending := s.queue }
  | .drainStep =>
      match s.queue with
      | [] => some { s with draining := false }
      | i :: q => some { s with
          refs := Function.update s.refs i { s.refs i with deletes := (s.refs i).deletes + 1 },
          queue := q,
          pending := s.pending.tail }

/-- What guest code and the garbage collector guarantee of an action. -/
def Enabled (s : FnRefs) : FnRefAct → Prop
  | .make _ => True
  | .invoke i | .drop i => (s.refs i).reachable
  | .weakCallback i => (s.refs i).weak ∧ (s.refs i).reachable = false
  | .drainStart => s.draining = false
  | .drainStep => s.draining

instance (s : FnRefs) : (a : FnRefAct) → Decidable (s.Enabled a)
  | .make _ => isTrue trivial
  | .invoke i | .drop i => inferInstanceAs (Decidable ((s.refs i).reachable = true))
  | .weakCallback i =>
      inferInstanceAs (Decidable ((s.refs i).weak = true ∧ (s.refs i).reachable = false))
  | .drainStart => inferInstanceAs (Decidable (s.draining = false))
  | .drainStep => inferInstanceAs (Decidable (s.draining = true))

/-- A run: every action enabled where it happens, and none reading a deleted entry. -/
inductive Steps : FnRefs → List FnRefAct → FnRefs → Prop
  | nil (s : FnRefs) : Steps s [] s
  | cons {s s₁ s' : FnRefs} {a : FnRefAct} {acts : List FnRefAct} :
      s.Enabled a → s.step a = some s₁ → Steps s₁ acts s' → Steps s (a :: acts) s'

/-- The states some run from the start reaches. -/
def Reachable (s : FnRefs) : Prop := ∃ acts, Steps init acts s

end FnRefs

/-! ## The life of an entry -/

/-- The life of one `RefAndPersistent`: not allocated yet; deleted at once because
`Function::New` failed; alive with its weak handle armed, its wrapper reachable or not;
on `g_cleanUpFuncRefs`; deleted by a drain. -/
inductive Phase
  | fresh
  | failed
  | live (reachable : Bool)
  | queued
  | deleted
  deriving DecidableEq, Repr

namespace Phase

/-- The record of an entry in each phase. -/
def state : Phase → RefState
  | fresh => ⟨false, false, false, 0, 0⟩
  | failed => ⟨false, false, false, 0, 1⟩
  | live r => ⟨true, r, true, 0, 0⟩
  | queued => ⟨true, false, false, 1, 0⟩
  | deleted => ⟨true, false, false, 1, 1⟩

/-- How many times an entry in each phase stands on `g_cleanUpFuncRefs`. -/
def inQueue : Phase → ℕ
  | queued => 1
  | _ => 0

/-- The moves of an entry's life. -/
inductive Next : Phase → Phase → Prop
  | fail : Next fresh failed
  | make : Next fresh (live true)
  | drop : Next (live true) (live false)
  | fire : Next (live false) queued
  | delete : Next queued deleted

theorem eq_live_true_of_reachable {p : Phase} (h : p.state.reachable) : p = live true := by
  cases p <;> simp_all [state]

theorem eq_live_of_weak {p : Phase} (h : p.state.weak) : p = live p.state.reachable := by
  cases p <;> simp_all [state]

theorem eq_queued_of_inQueue {p : Phase} (h : 0 < p.inQueue) : p = queued := by
  cases p <;> simp_all [inQueue]

end Phase

namespace FnRefs

/-- Entry `i` of `s` is in phase `p`: allocated unless fresh, with the record of that phase
and as many places on the queue. -/
def Fits (s : FnRefs) (i : ℕ) (p : Phase) : Prop :=
  (p = .fresh ↔ s.next ≤ i) ∧ s.refs i = p.state ∧ s.queue.count i = p.inQueue

/-- Every entry is in one phase of its life, and the running drain's `pending` is the front
of the queue. -/
structure Inv (s : FnRefs) : Prop where
  fits : ∀ i, ∃ p, s.Fits i p
  pending_prefix : s.pending <+: s.queue
  pending_idle : s.draining = false → s.pending = []

theorem inv_init : init.Inv where
  fits _ := ⟨.fresh, by simp [Fits, init, Phase.state, Phase.inQueue]⟩
  pending_prefix := List.nil_prefix
  pending_idle _ := rfl

/-- What an action does to the phase of entry `i`, which is in phase `p` in `s`. -/
def effect (s : FnRefs) (i : ℕ) (p : Phase) : FnRefAct → Phase
  | .make ok => if i = s.next then (if ok then .live true else .failed) else p
  | .invoke _ | .drainStart => p
  | .drop j => if i = j then .live false else p
  | .weakCallback j => if i = j then .queued else p
  | .drainStep => if s.queue.head? = some i then .deleted else p

theorem Fits.of_eq {s s' : FnRefs} {i : ℕ} {p : Phase} (h : s.Fits i p)
    (hn : s'.next ≤ i ↔ s.next ≤ i) (hr : s'.refs i = s.refs i)
    (hq : s'.queue.count i = s.queue.count i) : s'.Fits i p :=
  ⟨h.1.trans hn.symm, hr.trans h.2.1, hq.trans h.2.2⟩

theorem Fits.eq_live_true {s : FnRefs} {i : ℕ} {p : Phase} (h : s.Fits i p)
    (hr : (s.refs i).reachable) : p = .live true :=
  Phase.eq_live_true_of_reachable (h.2.1 ▸ hr)

theorem Fits.eq_live_false {s : FnRefs} {i : ℕ} {p : Phase} (h : s.Fits i p)
    (hw : (s.refs i).weak ∧ (s.refs i).reachable = false) : p = .live false := by
  have hp := Phase.eq_live_of_weak (h.2.1 ▸ hw.1)
  rwa [← h.2.1, hw.2] at hp

theorem Fits.eq_queued {s : FnRefs} {i : ℕ} {p : Phase} (h : s.Fits i p) (hi : i ∈ s.queue) :
    p = .queued :=
  Phase.eq_queued_of_inQueue (h.2.2 ▸ List.count_pos_iff.2 hi)

/-- Everything one action can do. -/
theorem step_cases {s s' : FnRefs} {a : FnRefAct} (h : s.step a = some s') :
    (∃ ok, a = .make ok ∧ s' = { s with
      next := s.next + 1,
      refs := Function.update s.refs s.next
        (if ok then ⟨true, true, true, 0, 0⟩ else ⟨false, false, false, 0, 1⟩) }) ∨
    (∃ j, a = .invoke j ∧ (s.refs j).deletes = 0 ∧ s' = s) ∨
    (∃ j, a = .drop j ∧
      s' = { s with refs := Function.update s.refs j { s.refs j with reachable := false } }) ∨
    (∃ j, a = .weakCallback j ∧ (s.refs j).deletes = 0 ∧ s' = { s with
      refs := Function.update s.refs j { s.refs j with weak := false, pushes := (s.refs j).pushes + 1 },
      queue := s.queue ++ [j] }) ∨
    (a = .drainStart ∧ s' = { s with draining := true, pending := s.queue }) ∨
    (a = .drainStep ∧ s.queue = [] ∧ s' = { s with draining := false }) ∨
    (∃ j q, a = .drainStep ∧ s.queue = j :: q ∧ s' = { s with
      refs := Function.update s.refs j { s.refs j with deletes := (s.refs j).deletes + 1 },
      queue := q, pending := s.pending.tail }) := by
  cases a with
  | make ok => cases ok <;> exact .inl ⟨_, rfl, (Option.some.inj h).symm⟩
  | invoke j =>
      simp only [step] at h
      split_ifs at h with hd
      exact .inr <| .inl ⟨j, rfl, by omega, (Option.some.inj h).symm⟩
  | drop j => exact .inr <| .inr <| .inl ⟨j, rfl, (Option.some.inj h).symm⟩
  | weakCallback j =>
      simp only [step] at h
      split_ifs at h with hd
      exact .inr <| .inr <| .inr <| .inl ⟨j, rfl, by omega, (Option.some.inj h).symm⟩
  | drainStart => exact .inr <| .inr <| .inr <| .inr <| .inl ⟨rfl, (Option.some.inj h).symm⟩
  | drainStep =>
      obtain hq | ⟨j, q, hq⟩ : s.queue = [] ∨ ∃ j q, s.queue = j :: q := by
        cases s.queue <;> simp
      all_goals simp only [step, hq, Option.some.injEq] at h
      · exact .inr <| .inr <| .inr <| .inr <| .inr <| .inl ⟨rfl, hq, by rw [hq]; exact h.symm⟩
      · exact .inr <| .inr <| .inr <| .inr <| .inr <| .inr ⟨j, q, rfl, hq, h.symm⟩

/-- An enabled action that does not fault moves every entry as `effect` says. -/
theorem fits_step {s s' : FnRefs} {a : FnRefAct} (he : s.Enabled a) (hs : s.step a = some s')
    {i : ℕ} {p : Phase} (h : s.Fits i p) : s'.Fits i (s.effect i p a) := by
  have ⟨hfresh, hrefs, hcount⟩ := h
  rcases step_cases hs with ⟨ok, rfl, rfl⟩ | ⟨j, rfl, -, rfl⟩ | ⟨j, rfl, rfl⟩ | ⟨j, rfl, -, rfl⟩ |
    ⟨rfl, rfl⟩ | ⟨rfl, hq, rfl⟩ | ⟨j, q, rfl, hq, rfl⟩
  · by_cases hi : i = s.next
    · subst hi
      obtain rfl : p = .fresh := hfresh.2 le_rfl
      cases ok <;> simp [Fits, effect, Phase.state, Phase.inQueue, hcount]
    · simp only [effect, hi, if_false]
      exact h.of_eq (show s.next + 1 ≤ i ↔ s.next ≤ i by omega) (Function.update_noteq hi _ _) rfl
  · exact h
  · by_cases hi : i = j
    · subst hi
      obtain rfl := h.eq_live_true he
      simp_all [Fits, effect, Phase.state, Phase.inQueue]
    · simp only [effect, hi, if_false]
      exact h.of_eq Iff.rfl (Function.update_noteq hi _ _) rfl
  · by_cases hi : i = j
    · subst hi
      obtain rfl := h.eq_live_false he
      simp_all [Fits, effect, Phase.state, Phase.inQueue]
    · simp only [effect, hi, if_false]
      refine h.of_eq Iff.rfl (Function.update_noteq hi _ _) ?_
      simp [List.count_append, List.count_singleton, hi]
  · exact h
  · rw [show s.effect i p .drainStep = p by simp [effect, hq]]
    exact h
  · by_cases hi : i = j
    · subst hi
      obtain rfl := h.eq_queued (by simp [hq])
      rw [show s.effect i .queued .drainStep = .deleted by simp [effect, hq]]
      refine ⟨by simpa using hfresh, by simp [hrefs, Phase.state], ?_⟩
      simpa [hq, Phase.inQueue] using hcount
    · rw [show s.effect i p .drainStep = p by simp [effect, hq, Ne.symm hi]]
      refine h.of_eq Iff.rfl (Function.update_noteq hi _ _) ?_
      simp [hq, List.count_cons, Ne.symm hi]

/-- The effect of an enabled action is a move of the entry's life, or none. -/
theorem effect_next {s : FnRefs} {a : FnRefAct} (he : s.Enabled a) {i : ℕ} {p : Phase}
    (h : s.Fits i p) : s.effect i p a = p ∨ p.Next (s.effect i p a) := by
  cases a with
  | make ok =>
      by_cases hi : i = s.next
      · obtain rfl : p = .fresh := h.1.2 hi.ge
        cases ok <;> simp [effect, hi, Phase.Next.fail, Phase.Next.make]
      · simp [effect, hi]
  | drop j =>
      by_cases hi : i = j
      · subst hi
        obtain rfl := h.eq_live_true he
        simp [effect, Phase.Next.drop]
      · simp [effect, hi]
  | weakCallback j =>
      by_cases hi : i = j
      · subst hi
        obtain rfl := h.eq_live_false he
        simp [effect, Phase.Next.fire]
      · simp [effect, hi]
  | drainStep =>
      by_cases hi : s.queue.head? = some i
      · obtain rfl := h.eq_queued (List.mem_of_mem_head? hi)
        simp [effect, hi, Phase.Next.delete]
      · simp [effect, hi]
  | invoke _ | drainStart => simp [effect]

/-- No enabled action faults from a state where every entry is in a phase: a reachable
wrapper's entry and an armed weak handle's entry are not deleted. -/
theorem step_isSome {s : FnRefs} (hs : s.Inv) {a : FnRefAct} (he : s.Enabled a) :
    (s.step a).isSome := by
  cases a with
  | invoke i =>
      obtain ⟨p, hp⟩ := hs.fits i
      obtain rfl := hp.eq_live_true he
      simp [step, hp.2.1, Phase.state]
  | weakCallback i =>
      obtain ⟨p, hp⟩ := hs.fits i
      obtain rfl := hp.eq_live_false he
      simp [step, hp.2.1, Phase.state]
  | make ok => cases ok <;> rfl
  | drop _ | drainStart => rfl
  | drainStep => simp only [step]; split <;> rfl

theorem Inv.of_step {s s' : FnRefs} (hs : s.Inv) {a : FnRefAct} (he : s.Enabled a)
    (hstep : s.step a = some s') : s'.Inv := by
  refine ⟨fun i => (hs.fits i).elim fun p hp => ⟨_, fits_step he hstep hp⟩, ?_, ?_⟩ <;>
    rcases step_cases hstep with ⟨ok, rfl, rfl⟩ | ⟨j, rfl, -, rfl⟩ | ⟨j, rfl, rfl⟩ |
      ⟨j, rfl, -, rfl⟩ | ⟨rfl, rfl⟩ | ⟨rfl, hq, rfl⟩ | ⟨j, q, rfl, hq, rfl⟩
  all_goals first
    | exact hs.pending_prefix
    | exact hs.pending_idle
    | skip
  · exact hs.pending_prefix.trans (List.prefix_append _ _)
  · exact List.prefix_refl _
  · have hpre := hs.pending_prefix
    rw [hq] at hpre
    rcases List.prefix_cons_iff.1 hpre with h | ⟨t, h, ht⟩
    · simp [h]
    · simp [h, ht]
  · simp
  · have hpre := hs.pending_prefix
    rw [hq] at hpre
    exact fun _ => List.prefix_nil.1 hpre
  · intro h
    simp only at h
    simp [Enabled, h] at he

theorem Steps.inv {s s' : FnRefs} {acts : List FnRefAct} (h : Steps s acts s') (hs : s.Inv) :
    s'.Inv := by
  induction h with
  | nil => exact hs
  | cons he hstep _ ih => exact ih (hs.of_step he hstep)

theorem Reachable.inv {s : FnRefs} (h : s.Reachable) : s.Inv :=
  h.elim fun _ hrun => hrun.inv inv_init

/-- A deleted entry stays deleted. -/
theorem fits_deleted_step {s s' : FnRefs} {a : FnRefAct} (he : s.Enabled a)
    (hs : s.step a = some s') {i : ℕ} (hi : s.Fits i .deleted) : s'.Fits i .deleted := by
  rcases effect_next he hi with heq | hnext
  · exact heq ▸ fits_step he hs hi
  · cases hnext

/-! ## The drain -/

/-- Along a run, an entry pending for the drain stays pending until the drain pops it, and
then it is deleted. -/
theorem Steps.pending_or_deleted {s s' : FnRefs} {acts : List FnRefAct}
    (h : Steps s acts s') (hs : s.Inv) {i : ℕ} (hi : i ∈ s.pending ∨ s.Fits i .deleted) :
    i ∈ s'.pending ∨ s'.Fits i .deleted := by
  induction h with
  | nil => exact hi
  | @cons s s₁ _ a _ he hstep _ ih =>
      refine ih (hs.of_step he hstep) (hi.elim (fun hi => ?_) (fun hi => .inr (fits_deleted_step he hstep hi)))
      obtain ⟨p, hp⟩ := hs.fits i
      have hpost := fits_step he hstep hp
      rcases step_cases hstep with ⟨ok, rfl, rfl⟩ | ⟨j, rfl, -, rfl⟩ | ⟨j, rfl, rfl⟩ |
        ⟨j, rfl, -, rfl⟩ | ⟨rfl, rfl⟩ | ⟨rfl, hq, rfl⟩ | ⟨j, q, rfl, hq, rfl⟩
      · exact .inl hi
      · exact .inl hi
      · exact .inl hi
      · exact .inl hi
      · exact absurd (hs.pending_idle he) (List.ne_nil_of_mem hi)
      · exact .inl hi
      · have hpre := hs.pending_prefix
        rw [hq] at hpre
        rcases List.prefix_cons_iff.1 hpre with hnil | ⟨t, ht, -⟩
        · simp [hnil] at hi
        · rw [ht, List.mem_cons] at hi
          rcases hi with rfl | hi
          · exact .inr (by simpa [effect, hq] using hpost)
          · exact .inl (by simpa [ht] using hi)

theorem Fits.deletes_of_deleted {s : FnRefs} {i : ℕ} (h : s.Fits i .deleted) :
    (s.refs i).deletes = 1 := by
  simp [h.2.1, Phase.state]

/-- A drain that runs with no weak callback during it pops the whole queue and ends. -/
theorem drain_ends {s : FnRefs} (hs : s.Inv) (hd : s.draining) :
    ∃ s', Steps s (List.replicate (s.queue.length + 1) .drainStep) s' ∧
      s'.draining = false ∧ s'.queue = [] := by
  obtain ⟨next, refs, queue, draining, pending⟩ := s
  simp only at hd
  subst hd
  induction queue generalizing refs pending with
  | nil => exact ⟨_, .cons rfl rfl (.nil _), rfl, rfl⟩
  | cons j q ih =>
      have hstep : (FnRefs.mk next refs (j :: q) true pending).step .drainStep =
          some ⟨next, Function.update refs j { refs j with deletes := (refs j).deletes + 1 }, q,
            true, pending.tail⟩ := rfl
      obtain ⟨s', hrun, hend⟩ := ih _ _ (hs.of_step (show Enabled _ .drainStep from rfl) hstep)
      exact ⟨s', .cons rfl hstep hrun, hend⟩

/-- What the phase of an entry says of its record. -/
theorem Fits.counts {s : FnRefs} {i : ℕ} {p : Phase} (h : s.Fits i p) :
    (s.refs i).deletes ≤ 1 ∧ (s.refs i).pushes ≤ 1 ∧
      ((s.refs i).reachable → (s.refs i).deletes = 0) ∧
      (i < s.next → (s.refs i).wrapped = false →
        (s.refs i).deletes = 1 ∧ (s.refs i).pushes = 0 ∧ i ∉ s.queue) := by
  obtain ⟨hfresh, hrefs, hcount⟩ := h
  rw [hrefs, ← List.count_eq_zero, hcount]
  cases p <;> simp_all [Phase.state, Phase.inQueue]

/-- Only an entry's own weak callback pushes it, and only the `delete` of the make call
that failed or a drain popping it after its push deletes it. -/
theorem step_counts_grow {s s' : FnRefs} {a : FnRefAct} (he : s.Enabled a)
    (hstep : s.step a = some s') {i : ℕ} {p : Phase} (hp : s.Fits i p) :
    ((s.refs i).pushes < (s'.refs i).pushes → a = .weakCallback i) ∧
    ((s.refs i).deletes < (s'.refs i).deletes →
      (a = .make false ∧ i = s.next) ∨
        (a = .drainStep ∧ s.queue.head? = some i ∧ (s.refs i).pushes = 1)) := by
  rw [hp.2.1, (fits_step he hstep hp).2.1]
  cases a with
  | make ok =>
      by_cases hi : i = s.next
      · obtain rfl : p = .fresh := hp.1.2 hi.ge
        cases ok <;> simp [effect, hi, Phase.state]
      · simp [effect, hi]
  | drop j | weakCallback j =>
      by_cases hi : i = j
      · cases p <;> simp [effect, hi, Phase.state]
      · simp [effect, hi]
  | drainStep =>
      by_cases hi : s.queue.head? = some i
      · obtain rfl := hp.eq_queued (List.mem_of_mem_head? hi)
        simp [effect, hi, Phase.state]
      · simp [effect, hi]
  | invoke _ | drainStart => simp [effect]

/-- A drain, once it ends, has deleted every entry that was queued when it started. -/
theorem drain_deletes_queued {s s' : FnRefs} {acts : List FnRefAct} (hs : s.Inv)
    (hrun : Steps s (.drainStart :: acts) s') (hend : s'.draining = false) {i : ℕ}
    (hi : i ∈ s.queue) : (s'.refs i).deletes = 1 := by
  cases hrun with
  | cons he hstep hrun =>
      cases hstep
      have hs₁ := hs.of_step he rfl
      rcases hrun.pending_or_deleted hs₁ (.inl hi) with hp | hp
      · exact absurd ((hrun.inv hs₁).pending_idle hend ▸ hp) (List.not_mem_nil i)
      · exact hp.deletes_of_deleted

end FnRefs

open FnRefs

/-- Over every run of `V8_MakeFunctionReference`, wrapper calls and drops, weak callbacks and
drains: no enabled action reads a deleted entry; every entry is pushed and deleted at most
once, an entry whose wrapper is reachable is not deleted, and an entry whose wrapper
creation failed was deleted and is never queued; only its own weak callback pushes an
entry, and only the `delete` of the make call that failed or a drain popping it after its
push deletes it; every entry queued when a drain starts is deleted when the drain ends, and
a drain during which no weak callback runs ends with the queue empty. -/
theorem fnRefs_lifecycle :
    (∀ (s : FnRefs) (a : FnRefAct), s.Reachable → s.Enabled a → (s.step a).isSome) ∧
    (∀ (s : FnRefs), s.Reachable → ∀ i,
      (s.refs i).deletes ≤ 1 ∧ (s.refs i).pushes ≤ 1 ∧
      ((s.refs i).reachable → (s.refs i).deletes = 0) ∧
      (i < s.next → (s.refs i).wrapped = false →
        (s.refs i).deletes = 1 ∧ (s.refs i).pushes = 0 ∧ i ∉ s.queue)) ∧
    (∀ (s s' : FnRefs) (a : FnRefAct) (i : ℕ), s.Reachable → s.Enabled a → s.step a = some s' →
      ((s.refs i).pushes < (s'.refs i).pushes → a = .weakCallback i) ∧
      ((s.refs i).deletes < (s'.refs i).deletes →
        (a = .make false ∧ i = s.next) ∨
          (a = .drainStep ∧ s.queue.head? = some i ∧ (s.refs i).pushes = 1))) ∧
    (∀ (s s' : FnRefs) (acts : List FnRefAct), s.Reachable → s.draining = false →
      Steps s (.drainStart :: acts) s' → s'.draining = false →
        ∀ i ∈ s.queue, (s'.refs i).deletes = 1) ∧
    (∀ (s : FnRefs), s.Reachable → s.draining →
      ∃ s', Steps s (List.replicate (s.queue.length + 1) .drainStep) s' ∧
        s'.draining = false ∧ s'.queue = []) :=
  ⟨fun _ _ hr he => step_isSome hr.inv he,
    fun _ hr i => (hr.inv.fits i).elim fun _ hp => hp.counts,
    fun _ _ _ i hr he hstep => (hr.inv.fits i).elim fun _ hp => step_counts_grow he hstep hp,
    fun _ _ _ hr _ hrun hend _ hi => drain_deletes_queued hr.inv hrun hend hi,
    fun _ hr hd => drain_ends hr.inv hd⟩

/-- The registry refines the life of its entries: from every reachable state, an enabled
action moves each entry by at most one step of `Phase.Next`. -/
theorem fnRefs_refines_phases (s s' : FnRefs) (a : FnRefAct) (hr : s.Reachable)
    (he : s.Enabled a) (hstep : s.step a = some s') (i : ℕ) :
    ∃ p p', s.Fits i p ∧ s'.Fits i p' ∧ (p' = p ∨ p.Next p') := by
  obtain ⟨p, hp⟩ := hr.inv.fits i
  exact ⟨p, _, hp, fits_step he hstep hp, effect_next he hp⟩

theorem fnRefs_refines_phases_make :
    FnRefs.init.Reachable ∧ FnRefs.init.Enabled (.make true) ∧
      FnRefs.init.step (.make true) =
        some ⟨1, Function.update FnRefs.init.refs 0 ⟨true, true, true, 0, 0⟩, [], false, []⟩ ∧
      ∃ p p', FnRefs.init.Fits 0 p ∧
        FnRefs.Fits ⟨1, Function.update FnRefs.init.refs 0 ⟨true, true, true, 0, 0⟩, [], false, []⟩ 0 p' ∧
        (p' = p ∨ p.Next p') :=
  ⟨⟨[], .nil _⟩, trivial, rfl, fnRefs_refines_phases _ _ (.make true) ⟨[], .nil _⟩ trivial rfl 0⟩

end CitizenV8
