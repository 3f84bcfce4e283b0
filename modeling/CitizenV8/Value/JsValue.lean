import CitizenV8.Value.Number

/-!
# Script values and native argument slots

`JsValue` is a `v8::Value` as `V8ScriptNativeContext::PushArgument` classifies it and as
`ProcessResult` builds it; `NativeArg` is one slot pushed on the `ScriptNativeContext`, by
the overload of `Push` the code calls; `NativeResult` is one result the native reports,
by its static type. A pointer argument is kept as the block it points into and an offset,
so that "which bytes does the native see" is a statement about numbers.

`ScriptError` and `ScriptErrorf` come from `ScriptInvoker.h`, which is not part of the
sources; `scriptError` models them from the spec.
-/

namespace CitizenV8

/-- A `v8::ArrayBufferView` (a typed array or a `DataView`): `ByteOffset()` and
`ByteLength()` of the view over the backing store `store` of `storeLength` bytes. V8
keeps a view inside its buffer; the structure carries that as a field. -/
structure BufferView where
  store : ℕ
  storeLength : ℕ
  byteOffset : ℕ
  byteLength : ℕ
  inBounds : byteOffset + byteLength ≤ storeLength
  deriving DecidableEq, Repr

/-- A script value, by the classification `PushArgument` makes. An array element is
`none` when reading it (`array->Get`) throws; an object's `__data` is `none` when its
`Get` throws; `other` is a value of no other kind (a symbol, a BigInt) with its
`String::Utf8Value` text. Holes of an array read as `undefined`. -/
inductive JsValue
  | number (v : Ieee)
  | boolean (b : Bool)
  | booleanObject (b : Bool)
  | string (s : String)
  | null
  | undefined
  | external (ptr : ℕ)
  | array (elements : List (Option JsValue))
  | view (v : BufferView)
  | object (data : Option JsValue)
  | other (text : String)
  deriving Repr

/-- `IsString()`: a primitive string. -/
def JsValue.isString : JsValue → Bool
  | .string _ => true
  | _ => false

/-- A block of memory a pointer argument points into: the buffer of the `k`-th
`String::Utf8Value` a runtime made, or a backing store. -/
inductive Block
  | utf8Value (k : ℕ)
  | backingStore (id : ℕ)
  deriving DecidableEq, Repr

/-- One argument slot pushed on a `ScriptNativeContext`. `float v` is
`Push(static_cast<float>(v))`; `pointer b o n` is `Push(ptr, n)` with `ptr` at offset `o`
of the block `b`. -/
inductive NativeArg
  | int64 (v : ℤ)
  | double (v : Ieee)
  | float (v : Ieee)
  | bool (b : Bool)
  | int32 (v : ℤ)
  | metaPointer (ptr : ℕ)
  | pointer (block : Block) (offset length : ℕ)
  deriving DecidableEq, Repr

/-- One result a native reports, by its static type: `bool`, `int32_t`, `int64_t`,
`float`, `ScrVector`, `const char*` (`none` for a null pointer), `ScrString` and the bytes
of a `ScrObject`. -/
inductive NativeResult
  | bool (b : Bool)
  | int32 (v : ℤ)
  | int64 (v : ℤ)
  | float (v : Ieee)
  | vector (x y z : Ieee)
  | cString (s : Option String)
  | scrString (s : String)
  | scrObject (bytes : List UInt8)
  deriving DecidableEq, Repr

/-- How marshaling stops without pushing: a thrown `std::runtime_error` with its
message, or an evaluation C++ leaves undefined. -/
inductive Fault
  | scriptError (message : String)
  | undefinedBehaviour (what : String)
  deriving DecidableEq, Repr

/-- Modelled from the spec: `ScriptError` and `ScriptErrorf` of `ScriptInvoker.h`, which
is not in the sources. A marshaling error is a hard error raised as a script-level
exception (spec §7): it throws a `std::runtime_error` carrying the message, which
`V8_TryCatch` turns into a thrown `Error`. -/
def scriptError {α : Type} (message : String) : Except Fault α :=
  .error (.scriptError message)

end CitizenV8
