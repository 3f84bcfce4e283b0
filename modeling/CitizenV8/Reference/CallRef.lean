import CitizenV8.Runtime.RoutineCalls

/-!
# Calling a reference of another runtime

Guest code calls the wrapper `V8_MakeFunctionReference` made for a reference string with a
view of argument bytes; the wrapper runs `V8_InvokeFunctionReference`, which copies the
view's bytes and hands them with the reference to `IScriptHost::InvokeFunctionReference`.
The host, which is not in the sources, finds the runtime owning the reference and calls its
`CallRef` (`RoutesTo`), whose call-ref routine passes a copy of the bytes to that runtime's
guest function and copies out the view it returns. Back in the caller, a failure of the host
throws an `Error` with the host's last error text, and any buffer the host hands back, or
none, becomes a fresh `Uint8Array`.

So across a routed call no exception of the callee reaches the caller: the callee's function
gets exactly the caller's bytes, and the caller gets exactly the bytes of the view the
callee's function returned, or an empty `Uint8Array` when the callee has no call-ref routine
or its function threw (traced in the callee's resource) or returned anything else
(`invokeFunctionReference_routed`), as long as the callee still holds its context.
-/

namespace CitizenV8

/-- `IScriptHost::InvokeFunctionReference`, which is not in the sources: for a reference and
the argument bytes, the buffer the host hands back (`none` for a null buffer), or a failure
with the text `GetLastErrorText` gives (`none` when it gives none). It may run guest code. -/
abbrev HostInvoke :=
  World → String → List UInt8 → World × Except (Option String) (Option (List UInt8))

/-- `V8_InvokeFunctionReference`, the function of the wrapper of the reference `ref`. Its
first argument is cast to an `ArrayBufferView` unchecked. -/
def v8InvokeFunctionReference (host : HostInvoke) (ref : String) (w : World)
    (args : List JsValue) : World × Except Fault JsValue :=
  match args with
  | .view abv :: _ =>
      match host w ref (w.contents abv) with
      | (w, .error error) => (w, scriptError (error.getD "Unknown"))
      | (w, .ok retval) =>
          let (w, outArray) := w.newUint8Array (retval.getD [])
          (w, .ok (.view outArray))
  | _ => (w, .error (.undefinedBehaviour "Local<ArrayBufferView>::Cast of a value that is not a view"))

/-- `IScriptHost::CanonicalizeRef`, which is not in the sources: for a reference index and an
instance id, its result and the reference string it sets, `none` when it sets none. -/
abbrev HostCanonicalize := ℤ → ℤ → UInt32 × Option String

/-- `V8_CanonicalizeRef` on a number: the string of the reference `Int32Value` of it names
in the runtime's instance. The result of `CanonicalizeRef` is not checked, so a host that sets
no string leaves `refString` read uninitialised. -/
def v8CanonicalizeRef (host : HostCanonicalize) (instanceId : ℤ) (arg : Ieee) : Except Fault JsValue :=
  match (host arg.toInt32 instanceId).2 with
  | some refString => .ok (.string refString)
  | none => .error (.undefinedBehaviour "refString read uninitialised")

/-- The host routes the reference `ref` to the reference `refIdx` of the runtime `owner`: it
hands back what `owner`'s `CallRef` hands back whenever that returns. -/
def RoutesTo (host : HostInvoke) (ref : String) (owner : V8ScriptRuntime) (refIdx : ℤ) : Prop :=
  ∀ w args w' out, owner.callRef w refIdx args = some (w', out) → host w ref args = (w', .ok out)

/-- A call of a reference wrapper that the host routes to a reference of another runtime,
which still holds its context, returns a fresh `Uint8Array` and throws nothing. The callee's
function is called with the reference index and a fresh `Uint8Array` over a copy of the
caller's bytes, and the caller's array holds exactly the bytes of the view that function
returned; it is empty when the callee has no call-ref routine, or its function threw or
returned anything but a view. -/
theorem invokeFunctionReference_routed {host : HostInvoke} {ref : String}
    {owner : V8ScriptRuntime} {refIdx : ℤ} (hroute : RoutesTo host ref owner refIdx)
    (hctx : owner.slots.hasContext) (w : World) (abv : BufferView) (rest : List JsValue) :
    ∃ w' out, v8InvokeFunctionReference host ref w (.view abv :: rest) = (w', .ok (.view out)) ∧
      w'.contents out =
        match owner.routine .callRef with
        | none => []
        | some f =>
            match f (w.newUint8Array (w.contents abv)).1
                [.number (.num refIdx), .view (w.newUint8Array (w.contents abv)).2] with
            | (w₂, .ok (.view x)) => w₂.contents x
            | _ => [] := by
  have hcall : owner.callRef w refIdx (w.contents abv) =
      some (match owner.routine .callRef with
        | none => (w, none)
        | some f => callRefRoutine owner.resourceName f w refIdx (w.contents abv)) := by
    unfold V8ScriptRuntime.callRef V8ScriptRuntime.framedCall
    rcases owner.routine .callRef with _ | f
    · rfl
    · simp [hctx]
  refine ⟨_, _, by simp only [v8InvokeFunctionReference, hroute _ _ _ _ hcall]; rfl, ?_⟩
  rw [World.contents_newUint8Array]
  rcases owner.routine .callRef with _ | f
  · rfl
  · simp only [callRefRoutine, callTraced]
    rcases f (w.newUint8Array (w.contents abv)).1
      [.number (.num refIdx), .view (w.newUint8Array (w.contents abv)).2] with ⟨w₂, e | v⟩
    · rfl
    · cases v <;> rfl

end CitizenV8
