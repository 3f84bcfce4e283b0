import CitizenV8.Runtime.RoutineCalls

/-!
# Loading scripts

`Create` picks the natives file and loads it, then each of `g_platformScripts`, with
`LoadSystemFile`, returning the result code of the first that fails; `LoadFile` does the same
for one file of the resource. Each goes through `RunFileInternal`, which loads a script with
`LoadSystemFileInternal` or `LoadHostFileInternal` (opening the file and naming its origin)
and `LoadFileInternal` (reading and compiling it), then runs it. A failed host call hands its
own `result_t` up; a script that does not compile or throws while it runs is traced and gives
`FX_E_INVALIDARG`. `RunFileInternal` opens its `V8PushEnvironment` first, which crashes once
`Destroy` has reset `m_context`.

`LoadFileInternal` reads the file into a zeroed buffer one byte longer than the length the
stream announces and makes the script text with `String::NewFromUtf8` and no length, which
stops at the first NUL: the text compiled is what the stream delivered up to its first NUL
byte (`loadFileInternal_text`), so a file with a NUL byte is compiled only up to it, and a
short read is cut where the delivered bytes end. `Create` either loads every system script or
stops at the first that fails or crashes, with what that script's `LoadSystemFile` gives and
nothing after it loaded (`loadSystemFiles_first_failure`).

`HandlesFile` claims every file whose name contains `.js` anywhere, for the build that
`UseThis()` selects and whose V8 matches the resource's `node_version` (`16`, the default,
selects the legacy one), so of the four builds exactly one claims such a file in every
process (`handlesFile_one_build`).
-/

namespace CitizenV8

/-- `FX_FAILED` of a `result_t`, from `fxcore`, which is not in the sources: its top bit. -/
def fxFailed (hr : UInt32) : Bool := decide (0x80000000 ≤ hr.toNat)

/-- `FX_S_OK`. -/
def fxSOk : UInt32 := 0

/-- `FX_E_INVALIDARG`. -/
def fxEInvalidArg : UInt32 := 0x80070057

/-- An `fxIStream`, which is not in the sources: the result and the length of `GetLength`,
and for a byte count the result of `Read` and the bytes it writes at the start of the buffer
(at most that many). -/
structure Stream where
  getLength : UInt32 × ℕ
  read : ℕ → UInt32 × List UInt8

/-- The `IScriptHost` calls that open a file, which are not in the sources: the result of
`OpenHostFile` and `OpenSystemFile` and the stream they open. -/
structure ScriptHost where
  openHostFile : String → UInt32 × Stream
  openSystemFile : String → UInt32 × Stream

/-- What V8 does with script text, which is not in the sources: `Script::Compile` of the
bytes under an origin name gives a script or the text of the exception it threw, and
`Script::Run` of a script returns or throws. -/
structure ScriptEngine where
  compile : String → List UInt8 → Except String ℕ
  run : World → ℕ → World × Except Thrown Unit

/-- A zeroed buffer of `size` bytes into whose start `Read` wrote `delivered`. -/
def readInto (size : ℕ) (delivered : List UInt8) : List UInt8 :=
  (delivered ++ List.replicate size 0).take size

/-- `String::NewFromUtf8` with no length: the bytes up to the first NUL. -/
def cString (bytes : List UInt8) : List UInt8 := bytes.takeWhile (· ≠ 0)

/-- The origin name `LoadHostFileInternal` gives a resource file: `@resource/file`, unless
the name already starts with `@`. -/
def hostFileOrigin (resourceName scriptFile : String) : String :=
  if scriptFile.front ≠ '@' then "@" ++ resourceName ++ "/" ++ scriptFile else scriptFile

namespace V8ScriptRuntime

/-- The `TryCatch` around `Script::Compile` in `LoadFileInternal`. -/
def compileScript (rt : V8ScriptRuntime) (engine : ScriptEngine) (w : World) (scriptFile : String)
    (text : List UInt8) : World × Except UInt32 ℕ :=
  match engine.compile scriptFile text with
  | .ok script => (w, .ok script)
  | .error str =>
      (w.scriptTrace ("Error parsing script " ++ scriptFile ++ " in resource " ++ rt.resourceName ++
        ": " ++ str ++ "\n"), .error fxEInvalidArg)

/-- `V8ScriptRuntime::LoadFileInternal`: the compiled script, or the failed result. -/
def loadFileInternal (rt : V8ScriptRuntime) (engine : ScriptEngine) (w : World) (stream : Stream)
    (scriptFile : String) : World × Except UInt32 ℕ :=
  let (hr, length) := stream.getLength
  if fxFailed hr then (w, .error hr) else
  let (hr, delivered) := stream.read length
  if fxFailed hr then (w, .error hr) else
  rt.compileScript engine w scriptFile (cString (readInto length delivered ++ [0]))

/-- `V8ScriptRuntime::LoadHostFileInternal`. -/
def loadHostFileInternal (rt : V8ScriptRuntime) (host : ScriptHost) (engine : ScriptEngine)
    (w : World) (scriptFile : String) : World × Except UInt32 ℕ :=
  let (hr, stream) := host.openHostFile scriptFile
  if fxFailed hr then (w, .error hr) else
  rt.loadFileInternal engine w stream (hostFileOrigin rt.resourceName scriptFile)

/-- `V8ScriptRuntime::LoadSystemFileInternal`. -/
def loadSystemFileInternal (rt : V8ScriptRuntime) (host : ScriptHost) (engine : ScriptEngine)
    (w : World) (scriptFile : String) : World × Except UInt32 ℕ :=
  let (hr, stream) := host.openSystemFile scriptFile
  if fxFailed hr then (w, .error hr) else
  rt.loadFileInternal engine w stream scriptFile

/-- `V8ScriptRuntime::RunFileInternal` with the load function `load`: the result code, or
`none` when the process crashes in its frame's `Context::Scope` because `m_context` no
longer holds the context. -/
def runFileInternal (rt : V8ScriptRuntime) (engine : ScriptEngine) (w : World) (scriptName : String)
    (load : World → String → World × Except UInt32 ℕ) : Option (World × UInt32) :=
  if !rt.slots.hasContext then none else
  some (match load w scriptName with
    | (w, .error hr) => (w, hr)
    | (w, .ok script) =>
        match engine.run w script with
        | (w, .ok ()) => (w, fxSOk)
        | (w, .error e) =>
            (w.scriptTrace ("Error loading script " ++ scriptName ++ " in resource " ++
              rt.resourceName ++ ": " ++ e.text ++ "\nstack:\n" ++ e.stackText ++ "\n"), fxEInvalidArg))

/-- `V8ScriptRuntime::LoadFile`. -/
def loadFile (rt : V8ScriptRuntime) (host : ScriptHost) (engine : ScriptEngine) (w : World)
    (scriptName : String) : Option (World × UInt32) :=
  rt.runFileInternal engine w scriptName (rt.loadHostFileInternal host engine)

/-- `V8ScriptRuntime::LoadSystemFile`. -/
def loadSystemFile (rt : V8ScriptRuntime) (host : ScriptHost) (engine : ScriptEngine) (w : World)
    (scriptName : String) : Option (World × UInt32) :=
  rt.runFileInternal engine w scriptName (rt.loadSystemFileInternal host engine)

/-- `Create`'s loading of system scripts, in order: the result code of the first failed
`LoadSystemFile`, and `FX_S_OK` when none fails; `none` when one crashes. -/
def loadSystemFiles (rt : V8ScriptRuntime) (host : ScriptHost) (engine : ScriptEngine) :
    World → List String → Option (World × UInt32)
  | w, [] => some (w, fxSOk)
  | w, scriptName :: rest =>
      (rt.loadSystemFile host engine w scriptName).bind fun (w, hr) =>
        if fxFailed hr then some (w, hr) else rt.loadSystemFiles host engine w rest

end V8ScriptRuntime

/-- `g_platformScripts`. -/
def platformScripts : List String :=
  ["citizen:/scripting/v8/console.js", "citizen:/scripting/v8/timer.js",
    "citizen:/scripting/v8/msgpack.js", "citizen:/scripting/v8/eventemitter2.js",
    "citizen:/scripting/v8/main.js"]

/-- The natives file `Create` loads: `natives_universal.js`, or the file of the last pair of
`g_scriptVersionPairs` for which `IsManifestVersionBetween(guid, 0)` succeeds and sets
`isGreater`; `between` is that call, which is not in the sources, on each pair's version. -/
def nativesBuild (versionPairs : List (String × ℕ)) (between : ℕ → UInt32 × Bool) : String :=
  versionPairs.foldl (fun build pair =>
    if !fxFailed (between pair.2).1 && (between pair.2).2 then pair.1 else build)
    "natives_universal.js"

/-- The system scripts `Create` loads, in order. -/
def systemScripts (nativesBuild : String) : List String :=
  ("citizen:/scripting/v8/" ++ nativesBuild) :: platformScripts

/-- `V8ScriptRuntime::Create` after the context is made: the result code of loading the
system scripts. -/
def V8ScriptRuntime.create (rt : V8ScriptRuntime) (host : ScriptHost) (engine : ScriptEngine)
    (versionPairs : List (String × ℕ)) (between : ℕ → UInt32 × Bool) (w : World) :
    Option (World × UInt32) :=
  rt.loadSystemFiles host engine w (systemScripts (nativesBuild versionPairs between))

/-- `ReadFileData`, which `read` and `readbuffer` call on the file named by their argument:
the bytes of the file, all of which `read` decodes into a string and `readbuffer` copies into
an `ArrayBuffer`, or the string `Error loading file` thrown (not an `Error`) when
`OpenHostFile` fails. The results of `GetLength` and `Read` are not checked: the buffer is as
long as `GetLength` says, zeroed past what `Read` delivered. -/
def readFileData (host : ScriptHost) (filename : String) : Except JsValue (List UInt8) :=
  let (hr, stream) := host.openHostFile filename
  if fxFailed hr then .error (.string "Error loading file") else
  let (_, length) := stream.getLength
  let (_, delivered) := stream.read length
  .ok (readInto length delivered)

/-- `strstr(fileName, ".js")`: the name contains `.js` somewhere. -/
def isJS (fileName : String) : Bool := decide (".js".toList <:+: fileName.toList)

/-- `UseNode()`: always on the server, and on the client only in SDK mode. -/
def useNode (server isSDK : Bool) : Bool := if server then true else isSDK

/-- `UseThis()` of a build, `node` when it is a `V8_NODE` build: such a build runs when node
is used, the others when it is not. -/
def useThis (node server isSDK : Bool) : Bool :=
  if node then useNode server isSDK else !useNode server isSDK

/-- `V8ScriptRuntime::HandlesFile` of a build, `legacy` when it is not `V8_12_2`, with what
`UseThis()` gives and the resource's `node_version` metadata, `16` when it has none. -/
def handlesFile (legacy useThis : Bool) (fileName : String) (nodeVersion : Option String) : Bool :=
  useThis && isJS fileName && ((nodeVersion.getD "16" == "16") == legacy)

/-- In every process, of the four builds (with or without `V8_NODE`, V8 12.2 or legacy)
exactly one handles a file whose name contains `.js` anywhere, and none handles any other:
the build whose `V8_NODE` matches `UseNode()` and whose V8 is the legacy one exactly when the
resource's `node_version` is `16` or absent. -/
theorem handlesFile_one_build (server isSDK node v8_12_2 : Bool) (fileName : String)
    (nodeVersion : Option String) :
    handlesFile (!v8_12_2) (useThis node server isSDK) fileName nodeVersion = true ↔
      isJS fileName ∧ node = useNode server isSDK ∧ (v8_12_2 = true ↔ nodeVersion.getD "16" ≠ "16") := by
  unfold handlesFile useThis
  generalize useNode server isSDK = u
  cases node <;> cases v8_12_2 <;> cases u <;> by_cases hv : nodeVersion.getD "16" = "16" <;>
    simp [hv]

/-! ## The text a script is compiled from -/

theorem cString_append_zero (l r : List UInt8) : cString (l ++ 0 :: r) = cString l := by
  induction l with
  | nil => simp [cString]
  | cons b l ih => by_cases hb : b = 0 <;> simp_all [cString]

theorem readInto_eq (size : ℕ) (delivered : List UInt8) :
    readInto size delivered = delivered.take size ++ List.replicate (size - delivered.length) 0 := by
  simp only [readInto, List.take_append_eq_append_take, List.take_replicate]
  congr 2
  omega

theorem cString_readInto (size : ℕ) (delivered : List UInt8) :
    cString (readInto size delivered ++ [0]) = cString (delivered.take size) := by
  rw [readInto_eq, List.append_assoc]
  cases size - delivered.length with
  | zero => rw [List.replicate_zero, List.nil_append, cString_append_zero]
  | succ k => rw [List.replicate_succ, List.cons_append, cString_append_zero]

namespace V8ScriptRuntime

/-- When the stream's `GetLength` and `Read` succeed, `LoadFileInternal` compiles the bytes
the stream delivered, within the length it announced, up to the first NUL byte: a file with
a NUL byte is compiled only up to it, and a short read up to where it ends. -/
theorem loadFileInternal_text (rt : V8ScriptRuntime) (engine : ScriptEngine) (w : World)
    (stream : Stream) (scriptFile : String) {hr₁ hr₂ : UInt32} {length : ℕ}
    {delivered : List UInt8} (hlength : stream.getLength = (hr₁, length)) (h₁ : fxFailed hr₁ = false)
    (hread : stream.read length = (hr₂, delivered)) (h₂ : fxFailed hr₂ = false) :
    rt.loadFileInternal engine w stream scriptFile =
      rt.compileScript engine w scriptFile ((delivered.take length).takeWhile (· ≠ 0)) := by
  simp only [loadFileInternal, hlength, h₁, hread, h₂, Bool.false_eq_true, if_false,
    cString_readInto]
  rfl

theorem loadFileInternal_text_nul :
    (⟨(0, 4), fun _ => (0, [0x61, 0, 0x62, 0x63])⟩ : Stream).getLength = (0, 4) ∧
      fxFailed 0 = false ∧
      (⟨(0, 4), fun _ => (0, [0x61, 0, 0x62, 0x63])⟩ : Stream).read 4 = (0, [0x61, 0, 0x62, 0x63]) ∧
      (⟨RoutineSlots.init, "res", fun _ w _ => (w, .ok .null)⟩ : V8ScriptRuntime).loadFileInternal
          ⟨fun _ _ => .ok 0, fun w _ => (w, .ok ())⟩ ⟨fun _ => [], 0, []⟩
          ⟨(0, 4), fun _ => (0, [0x61, 0, 0x62, 0x63])⟩ "a.js" =
        (⟨RoutineSlots.init, "res", fun _ w _ => (w, .ok .null)⟩ : V8ScriptRuntime).compileScript
          ⟨fun _ _ => .ok 0, fun w _ => (w, .ok ())⟩ ⟨fun _ => [], 0, []⟩ "a.js" [0x61] :=
  ⟨rfl, rfl, rfl, (loadFileInternal_text _ _ _ _ _ (by rfl) (by rfl) (by rfl) (by rfl)).trans rfl⟩

/-! ## `Create` stops at the first failure -/

variable (rt : V8ScriptRuntime) (host : ScriptHost) (engine : ScriptEngine)

theorem loadSystemFiles_cons_of_ok {w w₁ : World} {name : String} {hr : UInt32} (rest : List String)
    (h : rt.loadSystemFile host engine w name = some (w₁, hr)) (hok : fxFailed hr = false) :
    rt.loadSystemFiles host engine w (name :: rest) = rt.loadSystemFiles host engine w₁ rest := by
  simp only [loadSystemFiles, h, Option.some_bind, hok, Bool.false_eq_true, if_false]

/-- Loading system scripts either loads every one, each `LoadSystemFile` returning and
succeeding, and gives `FX_S_OK`, or stops at the first that crashes or fails: the scripts
before it all loaded, and what it gives is that script's `LoadSystemFile`, no script after it
having been touched. -/
theorem loadSystemFiles_first_failure (w : World) (names : List String) :
    ((∃ w', rt.loadSystemFiles host engine w names = some (w', fxSOk)) ∧
      ∀ pre name post, names = pre ++ name :: post → ∃ w₁ x,
        rt.loadSystemFiles host engine w pre = some (w₁, fxSOk) ∧
        rt.loadSystemFile host engine w₁ name = some x ∧ fxFailed x.2 = false) ∨
    ∃ pre name post w₁, names = pre ++ name :: post ∧
      rt.loadSystemFiles host engine w pre = some (w₁, fxSOk) ∧
      (rt.loadSystemFile host engine w₁ name).all (fun x => fxFailed x.2) ∧
      rt.loadSystemFiles host engine w names = rt.loadSystemFile host engine w₁ name := by
  induction names generalizing w with
  | nil => exact .inl ⟨⟨w, rfl⟩, fun pre _ _ h => absurd h (by simp)⟩
  | cons name rest ih =>
    rcases h : rt.loadSystemFile host engine w name with _ | ⟨w₁, hr⟩
    · exact .inr ⟨[], name, rest, w, rfl, rfl, by simp [h], by simp [loadSystemFiles, h]⟩
    cases hfail : fxFailed hr
    case true =>
      exact .inr ⟨[], name, rest, w, rfl, rfl, by simp [h, hfail],
        by simp [loadSystemFiles, h, hfail]⟩
    case false =>
      rw [loadSystemFiles_cons_of_ok rt host engine rest h hfail]
      rcases ih w₁ with ⟨hok, hall⟩ | ⟨pre, n, post, w₂, rfl, hpre, hn, heq⟩
      · refine .inl ⟨hok, fun pre n post hp => ?_⟩
        cases pre with
        | nil => cases hp; exact ⟨w, (w₁, hr), rfl, h, hfail⟩
        | cons m pre =>
          cases hp
          rw [loadSystemFiles_cons_of_ok rt host engine pre h hfail]
          exact hall pre n post rfl
      · refine .inr ⟨name :: pre, n, post, w₂, rfl, ?_, hn, heq⟩
        rwa [loadSystemFiles_cons_of_ok rt host engine pre h hfail]

end V8ScriptRuntime

end CitizenV8
