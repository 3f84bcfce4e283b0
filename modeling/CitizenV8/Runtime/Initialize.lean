import CitizenV8.Runtime.Load

/-!
# Starting V8

`V8ScriptGlobals::Initialize` runs from the `InitFunction` (and on Windows from
`Component_RunPreInit`) of a build for which `UseThis()` holds. A `V8_NODE` build started with
`--fork-node22` among its arguments does nothing. Otherwise the first call marks the globals
initialised, and a build that is not the one to use stops there. A `V8_NODE` build that uses
node and was started with `--start-node` as its second argument, or as `FXNode.exe`, runs
`node::Start` and exits the process; every other first call sets up the platform and the
isolate, and with node gives node the process's dash arguments (`nodeArgs`).

`isStartNode` is false when `--fork-node22` follows `--start-node`, but a `V8_NODE` build has
already returned when `--fork-node22` is anywhere among its arguments, so that test decides
nothing; `node::Start` always gets `--start-node` right after the program's path, followed by
the arguments the process got after `--start-node`, or after its path
(`initialize_startNode`).
-/

namespace CitizenV8

/-- What `V8ScriptGlobals::Initialize` does. -/
inductive InitializeOutcome
  /-- A `V8_NODE` build started with `--fork-node22`: nothing. -/
  | forked
  /-- A call after the first: nothing. -/
  | alreadyInited
  /-- The build is not the one to use: `m_inited` only. -/
  | notThis
  /-- `node::Start` with these arguments, then the process exits with its code. -/
  | startNode (argv : List String)
  /-- The platform and the isolate are set up. -/
  | platform
  deriving DecidableEq, Repr

/-- `isStartNode`: the second argument is `--start-node`, unless the third is
`--fork-node22`. -/
def isStartNode (argv : List String) : Bool :=
  let startNode := decide (2 ≤ argv.length) && argv.getD 1 "" == "--start-node"
  if startNode && decide (2 < argv.length) && argv.getD 2 "" == "--fork-node22" then false
  else startNode

/-- `isFxNode`: the program's path contains `FXNode.exe`. -/
def isFxNode (argv : List String) : Bool :=
  decide (1 ≤ argv.length) && decide ("FXNode.exe".toList <:+: (argv.getD 0 "").toList)

/-- The arguments `node::Start` gets: the process's, the path replaced by `selfPath` on
Windows, with `--start-node` moved in after the path unless the process was started so. -/
def nodeStartArgv (win32 : Bool) (selfPath : String) (argv : List String) (startNode : Bool) :
    List String :=
  let argv := if win32 then argv.set 0 selfPath else argv
  if startNode then argv else argv.take 1 ++ "--start-node" :: argv.drop 1

/-- `V8ScriptGlobals::Initialize` in a build, `node` for `V8_NODE` and `win32` for `_WIN32`,
with `m_inited` as given: `m_inited` after the call, and what the call does. -/
def initializeGlobals (node win32 server isSDK inited : Bool) (selfPath : String) (argv : List String) :
    Bool × InitializeOutcome :=
  if node && argv.contains "--fork-node22" then (inited, .forked)
  else if inited then (true, .alreadyInited)
  else if !useThis node server isSDK then (true, .notThis)
  else if node && useNode server isSDK && (isStartNode argv || isFxNode argv) then
    (true, .startNode (nodeStartArgv win32 selfPath argv (isStartNode argv)))
  else (true, .platform)

/-- The arguments node is initialised with: the program's path (empty on the server),
`--expose-internals`, `--unhandled-rejections=warn`, and the later process arguments that
start with `-`, but `-fxdk` and those starting with `-b`. -/
def nodeArgs (server : Bool) (selfPath : String) (argv : List String) : List String :=
  [if server then "" else selfPath, "--expose-internals", "--unhandled-rejections=warn"] ++
    (argv.drop 1).filter fun a => a.front == '-' && a != "-fxdk" && !"-b".isPrefixOf a

theorem getD_mem {argv : List String} {i : ℕ} (hi : i < argv.length) (d : String) :
    argv.getD i d ∈ argv := by
  rw [List.getD_eq_getElem _ _ hi]
  exact List.getElem_mem hi

/-- Without `--fork-node22` among the arguments, `isStartNode` is just "the second argument
is `--start-node`". -/
theorem isStartNode_of_not_mem {argv : List String} (h : "--fork-node22" ∉ argv) :
    isStartNode argv = (decide (2 ≤ argv.length) && argv.getD 1 "" == "--start-node") := by
  unfold isStartNode
  by_cases h2 : 2 < argv.length
  · have hne : (argv.getD 2 "" == "--fork-node22") = false :=
      beq_eq_false_iff_ne.mpr fun heq => h (heq ▸ getD_mem h2 "")
    simp only [hne, Bool.and_false, Bool.false_eq_true, if_false]
  · simp [h2]

/-- Whenever `Initialize` starts node, `--fork-node22` is not among the process's arguments,
so the `--fork-node22` test of `isStartNode` decided nothing; and `node::Start` gets the
program's path (replaced on Windows), then `--start-node`, then the arguments the process got
after `--start-node` when that was its second argument, or after its path otherwise. -/
theorem initialize_startNode {node win32 server isSDK inited : Bool} {selfPath : String}
    {argv args : List String}
    (h : (initializeGlobals node win32 server isSDK inited selfPath argv).2 = .startNode args) :
    "--fork-node22" ∉ argv ∧
      isStartNode argv = (decide (2 ≤ argv.length) && argv.getD 1 "" == "--start-node") ∧
      args = (if win32 then selfPath else argv.getD 0 "") :: "--start-node" ::
        argv.drop (if argv.getD 1 "" = "--start-node" then 2 else 1) := by
  unfold initializeGlobals at h
  split_ifs at h with h₁ h₂ h₃ h₄
  cases h
  have hnode : node = true := by simp_all
  have hfork : "--fork-node22" ∉ argv := by simpa [hnode] using h₁
  refine ⟨hfork, isStartNode_of_not_mem hfork, ?_⟩
  rw [isStartNode_of_not_mem hfork] at h₄ ⊢
  rcases argv with _ | ⟨a, _ | ⟨b, rest⟩⟩
  · simp [isFxNode] at h₄
  · cases win32 <;> simp [nodeStartArgv]
  · by_cases hb : b = "--start-node" <;> cases win32 <;> simp [nodeStartArgv, hb]

/-- A server process run as `FXNode.exe`: node starts with `--start-node` moved in. -/
theorem initialize_startNode_fxNode :
    (initializeGlobals true false true false false "FXServer" ["FXNode.exe", "+exec", "a.cfg"]).2 =
        .startNode ["FXNode.exe", "--start-node", "+exec", "a.cfg"] ∧
      "--fork-node22" ∉ ["FXNode.exe", "+exec", "a.cfg"] ∧
      isStartNode ["FXNode.exe", "+exec", "a.cfg"] =
        (decide (2 ≤ ["FXNode.exe", "+exec", "a.cfg"].length) &&
          ["FXNode.exe", "+exec", "a.cfg"].getD 1 "" == "--start-node") ∧
      ["FXNode.exe", "--start-node", "+exec", "a.cfg"] =
        (if false then "FXServer" else ["FXNode.exe", "+exec", "a.cfg"].getD 0 "") :: "--start-node" ::
          ["FXNode.exe", "+exec", "a.cfg"].drop
            (if ["FXNode.exe", "+exec", "a.cfg"].getD 1 "" = "--start-node" then 2 else 1) :=
  ⟨by decide, @initialize_startNode true false true false false "FXServer" _ _ (by decide)⟩

end CitizenV8
