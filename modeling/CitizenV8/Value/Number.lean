import Mathlib.Data.Rat.Floor

/-!
# Numbers as the bridge reads them

A JS number, a C++ `double` and a C++ `float` are IEEE 754 binary values. The bridge does
no arithmetic on them: `V8ScriptNativeContext::PushArgument` truncates a number to
`int64_t` and compares it back, `getNumber` narrows to `float` and compares with `NAN`,
`Int32Value` converts a `__data` field, and `ProcessResult` widens native integers to
`double`. `Ieee` keeps what these operations read: NaN, the infinities, the negative zero,
and a finite value as its exact rational (`num 0` is the positive zero). Every finite
binary64 value is such a rational, so a statement over every `Ieee` covers every double.
-/

namespace CitizenV8

/-- A binary floating-point value: NaN, an infinity, the negative zero, or a finite value
given exactly (`num 0` is the positive zero). -/
inductive Ieee
  | nan
  | inf (negative : Bool)
  | negZero
  | num (x : ℚ)
  deriving DecidableEq, Repr

namespace Ieee

/-- The C++ `==` on `double` and `float` (IEEE 754 equality): NaN equals nothing, itself
included, and the two zeros are equal. -/
def beq : Ieee → Ieee → Bool
  | num x, num y => decide (x = y)
  | num x, negZero => decide (x = 0)
  | negZero, num y => decide (y = 0)
  | negZero, negZero => true
  | inf a, inf b => a == b
  | _, _ => false

@[simp] theorem num_beq_num (x y : ℚ) : beq (num x) (num y) = decide (x = y) := rfl

@[simp] theorem num_beq_negZero (x : ℚ) : beq (num x) negZero = decide (x = 0) := rfl

/-- Truncation toward zero of a finite value, the rounding of every C++ and JS
floating-integral conversion; `none` for NaN and the infinities. -/
def trunc? : Ieee → Option ℤ
  | num x => some (if 0 ≤ x then ⌊x⌋ else ⌈x⌉)
  | negZero => some 0
  | _ => none

@[simp] theorem trunc?_intCast (i : ℤ) : trunc? (num i) = some i := by
  by_cases h : (0 : ℚ) ≤ i <;> simp [trunc?, h]

/-- `int64_t` holds exactly the integers of `[-2^63, 2^63)`. -/
def InInt64 (i : ℤ) : Prop := -2 ^ 63 ≤ i ∧ i < 2 ^ 63

instance : DecidablePred InInt64 := fun i =>
  inferInstanceAs (Decidable (-2 ^ 63 ≤ i ∧ i < 2 ^ 63))

/-- `static_cast<int64_t>(value)` on a `double`: the truncation when it fits in
`int64_t`. C++ leaves the conversion undefined otherwise, and on NaN and the infinities
([conv.fpint]): `none` marks those values. -/
def staticCastInt64 (v : Ieee) : Option ℤ :=
  (trunc? v).filter fun i => decide (InInt64 i)

theorem staticCastInt64_eq_some {v : Ieee} {i : ℤ} :
    staticCastInt64 v = some i ↔ trunc? v = some i ∧ InInt64 i := by
  unfold staticCastInt64
  cases trunc? v with
  | none => simp
  | some j =>
    constructor
    · intro h
      by_cases hj : InInt64 j <;> simp_all [Option.filter]
    · rintro ⟨h, hi⟩
      simp_all [Option.filter]

/-- Rounds a natural number to the nearest value with a 53-bit significand, ties to even:
the magnitude of the C++ conversion of an integer to `double`. -/
def roundSignificand (n : ℕ) : ℕ :=
  let s := Nat.log2 n + 1 - 53
  let q := n / 2 ^ s
  let r := n % 2 ^ s
  (if 2 ^ s < 2 * r ∨ (2 * r = 2 ^ s ∧ q % 2 = 1) then q + 1 else q) * 2 ^ s

theorem roundSignificand_of_lt {n : ℕ} (hn : n < 2 ^ 53) : roundSignificand n = n := by
  have hs : Nat.log2 n + 1 - 53 = 0 := by
    rcases Nat.eq_zero_or_pos n with rfl | hpos
    · simp [Nat.log2_zero]
    · have := (Nat.log2_lt hpos.ne').2 hn
      omega
  simp [roundSignificand, hs, Nat.mod_one]

/-- The C++ conversion of an integer to `double` (round to nearest, ties to even). -/
def ofInt (i : ℤ) : Ieee :=
  if 0 ≤ i then num (roundSignificand i.natAbs) else num (-(roundSignificand i.natAbs : ℚ))

/-- Integers of magnitude below `2^53` convert to `double` exactly. -/
theorem ofInt_of_natAbs_lt {i : ℤ} (hi : i.natAbs < 2 ^ 53) : ofInt i = num i := by
  rw [ofInt, roundSignificand_of_lt hi]
  obtain ⟨n, rfl | rfl⟩ := Int.eq_nat_or_neg i
  · simp
  · rcases Nat.eq_zero_or_pos n with rfl | hn
    · simp
    · simp [hn.ne']

/-- `Int32Value` of a number (ECMAScript ToInt32): the truncation taken modulo `2^32`
into `[-2^31, 2^31)`, and `0` for NaN and the infinities. -/
def toInt32 (v : Ieee) : ℤ :=
  ((trunc? v).getD 0).bmod (2 ^ 32)

end Ieee

end CitizenV8
