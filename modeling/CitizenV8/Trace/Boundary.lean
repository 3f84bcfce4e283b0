import CitizenV8.Value.JsValue

/-!
# Stack boundaries

`Citizen.submitBoundaryStart` and `Citizen.submitBoundaryEnd` (`V8_SubmitBoundaryStart`,
`V8_SubmitBoundaryEnd`) store the guest's boundary number, read with `IntegerValue`, in a
`V8Boundary` and hand the host its bytes; `WalkStack` hands such blobs back, and the
stack-trace routine passes each one to the guest's stack-trace function as
`Int32::New(hint)`, or `Null` when there is none. The blob itself round-trips
(`V8Boundary.ofBlob?_toBlob`), but `hint` is an `int`, so the routine receives the boundary
number reduced to a signed 32-bit integer (`stackTraceArgument_submitBoundary`), which is
the number itself only inside the range of `int`.
-/

namespace CitizenV8

/-- V8's `Value::IntegerValue` on a Number, which is not in the sources: the truncation
towards zero, saturated at the bounds of `int64_t`, with NaN read as 0. -/
def integerValue : Ieee → ℤ
  | .inf negative => if negative then -2 ^ 63 else 2 ^ 63 - 1
  | v => max (-2 ^ 63) (min ((Ieee.trunc? v).getD 0) (2 ^ 63 - 1))

theorem integerValue_intCast {n : ℤ} (hn : |n| ≤ 2 ^ 53) : integerValue (.num n) = n := by
  have h := abs_le.1 hn
  simp only [integerValue, Ieee.trunc?_intCast, Option.getD_some]
  omega

/-- A `V8Boundary`, whose one field `hint` is an `int`. -/
structure V8Boundary where
  hint : BitVec 32
  deriving DecidableEq, Repr

namespace V8Boundary

/-- The blob `(char*)&b` of `sizeof(b)` bytes, lowest byte first. -/
def toBlob (b : V8Boundary) : List UInt8 :=
  (List.range 4).map fun k => UInt8.ofNat (b.hint.toNat / 256 ^ k % 256)

/-- A blob read as a `V8Boundary`; `none` when it does not have `sizeof(V8Boundary)` bytes,
where the cast would read past it. -/
def ofBlob? : List UInt8 → Option V8Boundary
  | [b0, b1, b2, b3] =>
      some ⟨BitVec.ofNat 32 (b0.toNat + 256 * b1.toNat + 256 ^ 2 * b2.toNat + 256 ^ 3 * b3.toNat)⟩
  | _ => none

theorem ofBlob?_toBlob (b : V8Boundary) : ofBlob? b.toBlob = some b := by
  obtain ⟨hint⟩ := b
  have hlt := hint.isLt
  simp only [toBlob, List.range_succ, List.range_zero, List.nil_append, List.map_append,
    List.map_cons, List.map_nil, List.cons_append, ofBlob?, Option.some.injEq, mk.injEq]
  apply BitVec.eq_of_toNat_eq
  simp only [BitVec.toNat_ofNat, UInt8.toNat_ofNat_of_lt (Nat.mod_lt _ (by norm_num) :
    _ % 256 < UInt8.size)]
  omega

end V8Boundary

/-- `V8_SubmitBoundaryStart` and `V8_SubmitBoundaryEnd`: the blob handed to the host for a
Number argument, after `b.hint = val.ToChecked()` narrows the `int64_t` to `int`. -/
def submitBoundary (v : Ieee) : List UInt8 :=
  (V8Boundary.mk (BitVec.ofInt 32 (integerValue v))).toBlob

/-- `V8_SubmitBoundaryStart`. -/
def v8SubmitBoundaryStart (v : Ieee) : List UInt8 := submitBoundary v

/-- `V8_SubmitBoundaryEnd`. -/
def v8SubmitBoundaryEnd (v : Ieee) : List UInt8 := submitBoundary v

/-- One argument the stack-trace routine passes to the guest's stack-trace function:
`Int32::New` of the hint of the blob `WalkStack` was given, or `Null` without one. -/
def stackTraceArgument : Option (List UInt8) → Option JsValue
  | none => some .null
  | some blob => (V8Boundary.ofBlob? blob).map fun b => .number (.num b.hint.toInt)

/-- The two arguments of the guest's stack-trace function, for the blobs `boundaryStart`
and `boundaryEnd` of `WalkStack`. -/
def stackTraceArguments (boundaryStart boundaryEnd : Option (List UInt8)) : Option (List JsValue) := do
  pure [← stackTraceArgument boundaryStart, ← stackTraceArgument boundaryEnd]

/-- The stack-trace routine receives a submitted boundary as the guest's number reduced to
a signed 32-bit integer. -/
theorem stackTraceArgument_submitBoundary (v : Ieee) :
    stackTraceArgument (some (submitBoundary v)) =
      some (.number (.num ((integerValue v).bmod (2 ^ 32) : ℤ))) := by
  simp [stackTraceArgument, submitBoundary, V8Boundary.ofBlob?_toBlob]

theorem bmod_int32_eq_self_iff (k : ℤ) : k.bmod (2 ^ 32) = k ↔ -2 ^ 31 ≤ k ∧ k < 2 ^ 31 := by
  rw [Int.bmod_def]
  norm_num
  split_ifs <;> omega

/-- For a boundary number `n` with `|n| ≤ 2^53`, submitted as the start (resp. end) boundary,
the stack-trace function receives as its first (resp. second) argument `n` reduced to a
signed 32-bit integer, whatever the other blob is: absent (`Null`), another boundary, or
one the routine cannot read, when there is no call at all. The reduced number is `n` exactly
when `n` lies in the range of `int`. -/
theorem stackTraceArguments_boundaries (n : ℤ) (hn : |n| ≤ 2 ^ 53) (other : Option (List UInt8)) :
    stackTraceArguments (some (v8SubmitBoundaryStart (.num n))) other =
      (stackTraceArgument other).map (fun a => [.number (.num (n.bmod (2 ^ 32) : ℤ)), a]) ∧
    stackTraceArguments other (some (v8SubmitBoundaryEnd (.num n))) =
      (stackTraceArgument other).map (fun a => [a, .number (.num (n.bmod (2 ^ 32) : ℤ))]) ∧
    (n.bmod (2 ^ 32) = n ↔ -2 ^ 31 ≤ n ∧ n < 2 ^ 31) := by
  have hn' : stackTraceArgument (some (submitBoundary (.num n))) =
      some (.number (.num (n.bmod (2 ^ 32) : ℤ))) := by
    rw [stackTraceArgument_submitBoundary, integerValue_intCast hn]
  refine ⟨?_, ?_, bmod_int32_eq_self_iff n⟩ <;>
    rcases h : stackTraceArgument other with _ | a <;>
    simp [stackTraceArguments, v8SubmitBoundaryStart, v8SubmitBoundaryEnd, hn', h]

/-- The boundary `7` as the start, with no end boundary: the function receives `7` and
`Null`. -/
theorem stackTraceArguments_boundaries_small :
    |(7 : ℤ)| ≤ 2 ^ 53 ∧
      stackTraceArguments (some (v8SubmitBoundaryStart (.num ((7 : ℤ) : ℚ)))) none =
        some [.number (.num ((7 : ℤ) : ℚ)), .null] :=
  ⟨by norm_num, (stackTraceArguments_boundaries 7 (by norm_num) none).1.trans rfl⟩

/-- The boundary `2^31`, one past the largest `int`: the stack-trace function receives
`-2^31`. -/
theorem stackTraceArgument_boundary_wraps :
    |(2 ^ 31 : ℤ)| ≤ 2 ^ 53 ∧
      stackTraceArgument (some (v8SubmitBoundaryStart (.num (2 ^ 31 : ℤ)))) =
        some (.number (.num (-2 ^ 31))) ∧
      (-2 ^ 31 : ℚ) ≠ (2 ^ 31 : ℤ) := by
  refine ⟨by norm_num, ?_, by norm_num⟩
  rw [v8SubmitBoundaryStart, stackTraceArgument_submitBoundary, integerValue_intCast (by norm_num)]
  rfl

end CitizenV8
