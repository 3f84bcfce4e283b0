import CitizenV8.Marshal.StringArena

/-!
# `V8ScriptNativeContext::PushArgument`

`pushArgument` classifies one argument in the order of the source (number, boolean,
string, null or undefined, external, array, array buffer view, object, anything else) and
pushes its slots. Only the string branch touches the runtime's string arena, so the arena
is threaded through and returned also when the argument throws. `pushArguments` is the
loop of `V8_InvokeNative` over the arguments after the hash.

Three branches are read closely below. The number branch pushes an integer a `double` holds
exactly as an `int64_t` (`pushNumber_int`), but evaluates `static_cast<int64_t>(value)`
before any range test (`pushNumber_undefined_iff`). The vector branch
tests its components with `x == NAN`, which is false for every `x`, so a component that is
not a Number is pushed as NaN (`pushVector_of_length`). The view branch pushes the length of
the backing store, not of the view (`pushArgument_view_span`).
-/

namespace CitizenV8

/-- The number branch of `PushArgument`: `intValue = static_cast<int64_t>(value)`, then
the integer when `intValue == value` and the number otherwise. The conversion is
evaluated for every number; where C++ leaves it undefined the branch has no defined
result. -/
def pushNumber (value : Ieee) : Except Fault NativeArg :=
  match Ieee.staticCastInt64 value with
  | none => .error (.undefinedBehaviour "static_cast<int64_t> of a double outside int64_t")
  | some intValue => if (Ieee.ofInt intValue).beq value then .ok (.int64 intValue) else .ok (.double value)

/-- `getNumber` of the vector branch: the element when it reads as a Number, `NAN` when
its `Get` throws or it is not a Number. The `float` it returns is kept as the double it
narrows (`NativeArg.float`). -/
def getNumber (elements : List (Option JsValue)) (idx : ℕ) : Ieee :=
  match elements[idx]? with
  | some (some (.number v)) => v
  | _ => .nan

/-- One `if (array->Length() >= k)` block after the first two components: push the
component at `idx`, or raise when it compares equal to `NAN`. -/
def pushComponent (elements : List (Option JsValue)) (idx : ℕ) : Except Fault (List NativeArg) :=
  if idx < elements.length then
    if (getNumber elements idx).beq .nan then scriptError "invalid vector array value"
    else .ok [.float (getNumber elements idx)]
  else .ok []

/-- The array branch of `PushArgument`: a vector of two to four `float` components. -/
def pushVector (elements : List (Option JsValue)) : Except Fault (List NativeArg) :=
  if elements.length < 2 ∨ 4 < elements.length then
    scriptError "arrays should be vectors (wrong number of values)"
  else if (getNumber elements 0).beq .nan || (getNumber elements 1).beq .nan then
    scriptError "invalid vector array value"
  else do
    let z ← pushComponent elements 2
    let w ← pushComponent elements 3
    pure ([.float (getNumber elements 0), .float (getNumber elements 1)] ++ z ++ w)

/-- The object branch of `PushArgument`: the `__data` field, pushed as `Int32Value`
when it is a Number. -/
def pushData : Option JsValue → Except Fault (List NativeArg)
  | some (.number v) => .ok [.int32 v.toInt32]
  | _ => scriptError "__data field does not contain a number"

/-- `V8ScriptNativeContext::PushArgument`, with the runtime's string arena. -/
def pushArgument (arena : StringArena) : JsValue → StringArena × Except Fault (List NativeArg)
  | .number v => (arena, (pushNumber v).map fun a => [a])
  | .boolean b => (arena, .ok [.bool b])
  | .booleanObject _ => (arena, .ok [.bool true])
  | .string s =>
      let (k, arena') := arena.assignStringValue
      (arena', .ok [.pointer (.utf8Value k) 0 s.utf8ByteSize])
  | .null => (arena, .ok [.int32 0])
  | .undefined => (arena, .ok [.int32 0])
  | .external ptr => (arena, .ok [.metaPointer ptr])
  | .array elements => (arena, pushVector elements)
  | .view v => (arena, .ok [.pointer (.backingStore v.store) v.byteOffset v.storeLength])
  | .object data => (arena, pushData data)
  | .other text => (arena, scriptError ("invalid V8 value: " ++ text))

/-- The loop of `V8_InvokeNative` over the arguments after the hash: `PushArgument` on
each in order, stopping at the first that throws. -/
def pushArguments (arena : StringArena) : List JsValue → StringArena × Except Fault (List NativeArg)
  | [] => (arena, .ok [])
  | arg :: args =>
      match pushArgument arena arg with
      | (arena', .error e) => (arena', .error e)
      | (arena', .ok pushed) =>
          let rest := pushArguments arena' args
          (rest.1, rest.2.map (pushed ++ ·))

/-! ## The number branch -/

/-- The number branch has no defined result exactly on the numbers that are NaN or an
infinity or truncate outside `int64_t`: the conversion runs before anything tests the
range. -/
theorem pushNumber_undefined_iff (v : Ieee) :
    (∃ what, pushNumber v = .error (.undefinedBehaviour what)) ↔
      ∀ i, v.trunc? = some i → ¬Ieee.InInt64 i := by
  rcases hcast : Ieee.staticCastInt64 v with _ | i
  · simp only [pushNumber, hcast, Except.error.injEq, Fault.undefinedBehaviour.injEq,
      exists_eq', true_iff]
    intro i hi hin
    simp [Ieee.staticCastInt64_eq_some.2 ⟨hi, hin⟩] at hcast
  · have ⟨hi, hin⟩ := Ieee.staticCastInt64_eq_some.1 hcast
    simp only [pushNumber, hcast]
    constructor
    · rintro ⟨what, h⟩
      split at h <;> cases h
    · intro h
      exact absurd hin (h i hi)

/-- `Citizen.invokeNative(hash, NaN)`: the loop of `V8_InvokeNative` evaluates
`static_cast<int64_t>(NaN)`. -/
theorem pushArguments_nan_undefined :
    pushArguments .empty [.number .nan] =
      (.empty, .error (.undefinedBehaviour "static_cast<int64_t> of a double outside int64_t")) :=
  rfl

/-- A Number whose value is an integer `i` of `int64_t` that a `double` holds exactly is
pushed as the 64-bit integer `i`. -/
theorem pushNumber_int {i : ℤ} (hi : Ieee.InInt64 i) (hexact : Ieee.ofInt i = .num i) :
    pushNumber (.num i) = .ok (.int64 i) := by
  have hcast : Ieee.staticCastInt64 (.num i) = some i :=
    Ieee.staticCastInt64_eq_some.2 ⟨by simp, hi⟩
  simp [pushNumber, hcast, hexact]

/-- The negative zero truncates to `0` and compares equal to it: it is pushed as the
integer `0`. -/
theorem pushNumber_negZero : pushNumber .negZero = .ok (.int64 0) := by
  simp [pushNumber, Ieee.staticCastInt64, Ieee.trunc?, Option.filter, Ieee.InInt64,
    Ieee.ofInt, Ieee.roundSignificand_of_lt, Ieee.beq]

/-- A finite number that is not an integer, inside the `int64_t` range, is pushed as the
double itself. -/
theorem pushNumber_frac {x : ℚ} (hx : ∀ i : ℤ, (i : ℚ) ≠ x) {i : ℤ}
    (hcast : Ieee.staticCastInt64 (.num x) = some i) (hi : i.natAbs < 2 ^ 53) :
    pushNumber (.num x) = .ok (.double (.num x)) := by
  simp [pushNumber, hcast, Ieee.ofInt_of_natAbs_lt hi, hx i]

/-! ## The vector branch -/

/-- `Citizen.invokeNative(hash, [1, "a"])`: no error is raised, and the native is invoked
with a NaN `float` slot for the string. -/
theorem pushArguments_vector_string :
    pushArguments .empty [.array [some (.number (.num 1)), some (.string "a")]] =
      (.empty, .ok [.float (.num 1), .float .nan]) :=
  rfl

/-- The span the view branch pushes starts at the view's byte offset and runs for the
byte length of the whole backing store. It stays inside the store exactly when the view
starts at the store's first byte, and it is the view's own span exactly when the view
covers the whole store. -/
theorem pushArgument_view_span (arena : StringArena) (v : BufferView) :
    pushArgument arena (.view v) =
        (arena, .ok [.pointer (.backingStore v.store) v.byteOffset v.storeLength]) ∧
      (v.byteOffset + v.storeLength ≤ v.storeLength ↔ v.byteOffset = 0) ∧
      (v.storeLength = v.byteLength ↔ v.byteOffset = 0 ∧ v.byteLength = v.storeLength) := by
  have := v.inBounds
  refine ⟨rfl, by omega, by omega⟩

/-- `Citizen.invokeNative(hash, new Uint8Array(new ArrayBuffer(2), 1, 1))`: the native is
invoked with the span `[1, 3)` of a two-byte backing store, for a view of one byte. -/
theorem pushArguments_subarray_overrun :
    pushArguments .empty [.view ⟨0, 2, 1, 1, by decide⟩] =
        (.empty, .ok [.pointer (.backingStore 0) 1 2]) ∧
      ¬(1 + 2 ≤ 2) :=
  ⟨rfl, by decide⟩

/-! ## What the arguments do to the string arena -/

/-- A string argument makes exactly one value in the arena, any other argument none. -/
theorem pushArgument_arena (arena : StringArena) (arg : JsValue) :
    (pushArgument arena arg).1 = arena.assignN (if arg.isString then 1 else 0) := by
  cases arg <;> rfl

/-- The number of string arguments in a list. -/
def stringCount (args : List JsValue) : ℕ := (args.filter JsValue.isString).length

@[simp] theorem stringCount_nil : stringCount [] = 0 := rfl

theorem stringCount_cons (arg : JsValue) (args : List JsValue) :
    stringCount (arg :: args) = (if arg.isString then 1 else 0) + stringCount args := by
  by_cases h : arg.isString <;> simp [stringCount, List.filter_cons, h, Nat.add_comm]

/-- The loop makes one value per string argument it reaches, and it reaches them all
when no argument throws. -/
theorem pushArguments_arena (arena : StringArena) (args : List JsValue) :
    ∃ k ≤ stringCount args, (pushArguments arena args).1 = arena.assignN k ∧
      ((pushArguments arena args).2.isOk → k = stringCount args) := by
  induction args generalizing arena with
  | nil => exact ⟨0, le_rfl, rfl, fun _ => rfl⟩
  | cons arg args ih =>
      have harena := pushArgument_arena arena arg
      rw [stringCount_cons]
      set m := if arg.isString then 1 else 0
      rcases hpush : pushArgument arena arg with ⟨arena', _ | pushed⟩
      · simp only [hpush] at harena
        refine ⟨m, by omega, by simp [pushArguments, hpush, harena], ?_⟩
        simp [pushArguments, hpush, Except.isOk, Except.toBool]
      · simp only [hpush] at harena
        obtain ⟨k, hk, hrest, hok⟩ := ih arena'
        refine ⟨m + k, by omega, ?_, fun h => ?_⟩
        · simp only [pushArguments, hpush]
          rw [hrest, harena, StringArena.assignN_add]
        · have hrestOk : (pushArguments arena' args).2.isOk := by
            simp only [pushArguments, hpush] at h
            revert h
            cases (pushArguments arena' args).2 <;> simp [Except.map, Except.isOk, Except.toBool]
          rw [hok hrestOk]

end CitizenV8
