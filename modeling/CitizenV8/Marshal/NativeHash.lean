import CitizenV8.Marshal.InvokeNative
import CitizenV8.Trace.Boundary

/-!
# Native hashes and pointer fields

A native is named by a 64-bit hash. `Citizen.invokeNative` reads it from a hex string with
`strtoull(*hashString, nullptr, 16)`; `Citizen.invokeNativeByHash` from two numbers, the high
and the low half, as `args[1]->Uint32Value() | (uint64_t)args[0]->Uint32Value() << 32`
(`nativeHash`). `strtoull` and `Uint32Value` are the C library's and V8's, not in the
sources, and are modelled here from the C standard and ECMAScript's `ToUint32`: the string
form skips blanks, reads a sign and an optional `0x`, and saturates at `2^64 - 1`; the halves
form wraps each half modulo `2^32`. Each 64-bit hash `h` is then reached by its hex digits and
by its halves `h / 2^32` and `h % 2^32`, and by no other pair of numbers' 32-bit halves
(`nativeHash_forms`).

`Citizen.pointerValueIntInitialized` and `Citizen.pointerValueFloatInitialized` make a
pointer field holding a value. The integer one holds the `IntegerValue` of the number as
`uint64_t` (`pointerFieldValue_readBack`). The float one converts the number to `float` and
then reads `value`, a `uintptr_t`, not the `float`, through a `uint32_t*`: on the 64-bit
targets `uintptr_t` is not `uint32_t`, so that read breaks the aliasing rule of
[basic.lval] and is undefined behaviour whatever the number.
-/

namespace CitizenV8

/-! ## The hash of a native -/

/-- `isspace` in the C locale. -/
def isSpace (c : Char) : Bool :=
  c = ' ' || c = '\t' || c = '\n' || c = '\x0b' || c = '\x0c' || c = '\r'

/-- The value of a hex digit, in either case. -/
def hexDigitValue (c : Char) : Option ℕ :=
  if 48 ≤ c.toNat ∧ c.toNat ≤ 57 then some (c.toNat - 48)
  else if 97 ≤ c.toNat ∧ c.toNat ≤ 102 then some (c.toNat - 87)
  else if 65 ≤ c.toNat ∧ c.toNat ≤ 70 then some (c.toNat - 55)
  else none

/-- The value of the hex digits at the start of `cs`, read after `acc`. -/
def hexPrefixValue (acc : ℕ) : List Char → ℕ
  | [] => acc
  | c :: cs =>
      match hexDigitValue c with
      | some d => hexPrefixValue (16 * acc + d) cs
      | none => acc

/-- The optional sign `strtoull` reads: whether it is a minus, and what follows it. -/
def strtoullSign : List Char → Bool × List Char
  | '-' :: cs => (true, cs)
  | '+' :: cs => (false, cs)
  | cs => (false, cs)

/-- The optional `0x` or `0X` `strtoull` skips in base 16. -/
def strtoullPrefix : List Char → List Char
  | '0' :: 'x' :: cs => cs
  | '0' :: 'X' :: cs => cs
  | cs => cs

/-- `strtoull(s, nullptr, 16)`, from the C library: blanks, an optional sign, an optional
`0x` or `0X`, and the hex digits after them; `ULLONG_MAX` when their value does not fit,
and the value negated modulo `2^64` after a minus sign. -/
def strtoull (s : String) : ℕ :=
  let (negative, cs) := strtoullSign (s.toList.dropWhile isSpace)
  let magnitude := hexPrefixValue 0 (strtoullPrefix cs)
  if 2 ^ 64 ≤ magnitude then 2 ^ 64 - 1
  else if negative then (2 ^ 64 - magnitude) % 2 ^ 64 else magnitude

/-- ECMAScript `ToUint32` of a number: the truncation modulo `2^32`, and `0` for NaN and the
infinities. -/
def Ieee.toUint32 (v : Ieee) : ℕ := (((Ieee.trunc? v).getD 0) % 2 ^ 32).toNat

/-- `Uint32Value` of a value whose `ToNumber` runs no guest code; `none` for strings, objects
and the other kinds, whose conversion is not modelled. -/
def JsValue.uint32Value? : JsValue → Option ℕ
  | .number v => some v.toUint32
  | .boolean b => some (if b then 1 else 0)
  | .null | .undefined => some 0
  | _ => none

/-- The hash `V8_InvokeNativeString` and `V8_InvokeNativeHash` pass to `V8_InvokeNative`
once the argument count check passed: `strtoull` of the hash string, or the two halves put
together; `none` where a conversion is not modelled. -/
def nativeHash : HashForm → List JsValue → Option ℕ
  | .string, .string s :: _ => some (strtoull s)
  | .halves, hi :: lo :: _ => do
      let hi ← hi.uint32Value?
      let lo ← lo.uint32Value?
      pure (lo ||| hi <<< 32)
  | _, _ => none

theorem toUint32_lt (v : Ieee) : v.toUint32 < 2 ^ 32 := by
  unfold Ieee.toUint32
  have h₀ := Int.emod_nonneg ((Ieee.trunc? v).getD 0) (by norm_num : (2 : ℤ) ^ 32 ≠ 0)
  have h₁ := Int.emod_lt_of_pos ((Ieee.trunc? v).getD 0) (by norm_num : (0 : ℤ) < 2 ^ 32)
  omega

theorem toUint32_natCast {n : ℕ} (hn : n < 2 ^ 32) : (Ieee.num n).toUint32 = n := by
  have h := Ieee.trunc?_intCast n
  simp only [Int.cast_natCast] at h
  simp only [Ieee.toUint32, h, Option.getD_some]
  omega

/-- Putting two halves together is `2^32 * hi + lo` when the low half has 32 bits. -/
theorem or_shiftLeft_eq {lo : ℕ} (hi : ℕ) (hlo : lo < 2 ^ 32) : lo ||| hi <<< 32 = 2 ^ 32 * hi + lo := by
  apply Nat.eq_of_testBit_eq
  intro j
  rw [Nat.testBit_or, Nat.testBit_shiftLeft, Nat.testBit_mul_pow_two_add hi hlo]
  by_cases hj : j < 32
  · simp [hj]
  · have hlow : lo.testBit j = false :=
      Nat.testBit_lt_two_pow (lt_of_lt_of_le hlo (Nat.pow_le_pow_right (by norm_num) (by omega)))
    simp [hj, hlow, show j ≥ 32 by omega]

/-- Both entry points name natives by every 64-bit hash `h`: the hash string `0x` followed by
hex digits of value `h`, and the halves `h / 2^32` and `h % 2^32`, each followed by
anything; a digit string whose value does not fit names `2^64 - 1`. Any two numbers name
`2^32 * hi + lo` for their `ToUint32` halves, so two numbers name `h` only when their
`ToUint32` halves are those of `h`. -/
theorem nativeHash_forms (rest : List JsValue) :
    (∀ ds : List Char, nativeHash .string (.string ⟨'0' :: 'x' :: ds⟩ :: rest) =
        some (min (hexPrefixValue 0 ds) (2 ^ 64 - 1))) ∧
    (∀ hi lo : Ieee, nativeHash .halves (.number hi :: .number lo :: rest) =
      some (2 ^ 32 * hi.toUint32 + lo.toUint32)) ∧
    (∀ h < 2 ^ 64, nativeHash .halves
      (.number (.num (h / 2 ^ 32 : ℕ)) :: .number (.num (h % 2 ^ 32 : ℕ)) :: rest) = some h) ∧
    (∀ (hi lo : Ieee) (h : ℕ), nativeHash .halves (.number hi :: .number lo :: rest) = some h →
      hi.toUint32 = h / 2 ^ 32 ∧ lo.toUint32 = h % 2 ^ 32) := by
  have hhalves : ∀ hi lo : Ieee, nativeHash .halves (.number hi :: .number lo :: rest) =
      some (2 ^ 32 * hi.toUint32 + lo.toUint32) := fun hi lo => by
    simp only [nativeHash, JsValue.uint32Value?, Option.bind_eq_bind, Option.some_bind]
    rw [or_shiftLeft_eq _ (toUint32_lt lo)]
    rfl
  refine ⟨fun ds => ?_, hhalves, fun h hh => ?_, fun hi lo h hsome => ?_⟩
  · have hdrop : ('0' :: 'x' :: ds).dropWhile isSpace = '0' :: 'x' :: ds :=
      List.dropWhile_cons_of_neg (by decide)
    have hsign : strtoullSign ('0' :: 'x' :: ds) = (false, '0' :: 'x' :: ds) := rfl
    simp only [nativeHash, strtoull, String.toList, hdrop, hsign, strtoullPrefix,
      Bool.false_eq_true, if_false, Option.some.injEq]
    split_ifs <;> omega
  · simp only [nativeHash, JsValue.uint32Value?, Option.bind_eq_bind, Option.some_bind,
      toUint32_natCast (Nat.mod_lt h (by norm_num)),
      toUint32_natCast (Nat.div_lt_of_lt_mul (by omega : h < 2 ^ 32 * 2 ^ 32)),
      or_shiftLeft_eq _ (Nat.mod_lt h (by norm_num))]
    congr 1
    omega
  · rw [hhalves, Option.some.injEq] at hsome
    have hlo := toUint32_lt lo
    omega

/-! ## Pointer fields -/

/-- The `MetaField`s `V8_GetPointerField` is instantiated with. -/
inductive PointerField
  | pointerValueInteger
  | pointerValueFloat
  deriving DecidableEq, Repr

/-- The value `V8_GetPointerField` hands `ScriptNativeContext::GetPointerField` for a number
argument: for the integer field, its `IntegerValue` as `uint64_t`; for the float field,
`*reinterpret_cast<uint32_t*>(&value)` reads the `uintptr_t` `value` through a `uint32_t`
glvalue, which is undefined behaviour (the `float` conversion is computed and dropped). -/
def pointerFieldValue : PointerField → Ieee → Except Fault ℕ
  | .pointerValueInteger, v => .ok ((integerValue v) % 2 ^ 64).toNat
  | .pointerValueFloat, _ =>
      .error (.undefinedBehaviour "uintptr_t object read through a uint32_t glvalue")

theorem integerValue_range (v : Ieee) : -2 ^ 63 ≤ integerValue v ∧ integerValue v < 2 ^ 63 := by
  unfold integerValue
  split
  · split_ifs <;> norm_num
  · omega

/-- The integer pointer field holds the two's complement of the number's `IntegerValue`,
which reads back as that `int64_t`; the float pointer field is undefined behaviour whatever
the number. -/
theorem pointerFieldValue_readBack (v : Ieee) :
    (∃ n, pointerFieldValue .pointerValueInteger v = .ok n ∧ (n : ℤ).bmod (2 ^ 64) = integerValue v) ∧
      ∃ what, pointerFieldValue .pointerValueFloat v = .error (.undefinedBehaviour what) := by
  refine ⟨⟨_, rfl, ?_⟩, ⟨_, rfl⟩⟩
  have h := integerValue_range v
  have h₀ := Int.emod_nonneg (integerValue v) (by norm_num : (2 : ℤ) ^ 64 ≠ 0)
  rw [Int.toNat_of_nonneg h₀, Int.bmod_def]
  split_ifs <;> omega

end CitizenV8
