import CitizenV8.Trace.MsgPack
import CitizenV8.Value.JsValue

/-!
# Stack walks

`V8ScriptRuntime::WalkStack` calls the stack-trace routine, which calls the guest's
stack-trace function and hands back through `out` and `outLen` a copy of the bytes of the
`ArrayBufferView` the function returned (`stackTraceOut`); `out` stays null when the
function threw or returned anything else. When `out` is set, `WalkStack` unpacks the bytes,
converts the object with `as<std::vector<msgpack::object>>` and submits each element,
packed again, to `visitor->SubmitStackFrame` (`walkStackFrames`).

No `try` surrounds the unpacking, unlike the `ScrObject` results of a native, so every blob
that does not start with a complete msgpack array makes a msgpack-c exception leave
`WalkStack`, before any frame is submitted; every other blob has each element of its array
submitted in order, as bytes that decode to exactly that element
(`walkStackFrames_unpack`).
-/

namespace CitizenV8

/-- What the stack-trace routine hands back through `out`: the bytes `CopyContents` copies
of the view the guest's function returned, `contents v` being the `ByteLength()` bytes of
`v`; nothing, leaving `out` null, when the function threw (`none`) or returned anything but
a view. -/
def stackTraceOut (contents : BufferView → List UInt8) : Option JsValue → Option (List UInt8)
  | some (.view v) => some (contents v)
  | _ => none

/-- The frames `V8ScriptRuntime::WalkStack` submits to `visitor->SubmitStackFrame`, in order,
after its routine handed back `out`; an error is the msgpack-c exception that leaves
`WalkStack`, which catches nothing. -/
def walkStackFrames : Option (List UInt8) → Except MsgpackError (List (List UInt8))
  | none => .ok []
  | some out => do
      let (o, _) ← unpack out
      let elements ← o.asVector
      pure (elements.map MsgObject.pack)

theorem MsgObject.isValid_of_mem {xs : List MsgObject} (h : MsgObject.allValid xs) {x : MsgObject}
    (hx : x ∈ xs) : x.isValid := by
  induction xs with
  | nil => cases hx
  | cons y ys ih =>
    simp only [MsgObject.allValid, Bool.and_eq_true] at h
    rcases List.mem_cons.1 hx with rfl | hx
    exacts [h.1, ih h.2 hx]

/-- For every blob the stack-trace routine hands back, `WalkStack` submits, in order, the
elements of the msgpack array the blob starts with, each packed again into bytes that
decode to exactly that element; on every other blob (cut short, malformed, or holding
anything but an array) a msgpack-c exception leaves `WalkStack` and no frame is
submitted. -/
theorem walkStackFrames_unpack (out : List UInt8) :
    (∀ xs rest, unpack out = .ok (.array xs, rest) →
      walkStackFrames (some out) = .ok (xs.map MsgObject.pack) ∧
        ∀ x ∈ xs, unpack x.pack = .ok (x, [])) ∧
    ((∀ xs rest, unpack out ≠ .ok (.array xs, rest)) →
      ∃ e, walkStackFrames (some out) = .error e) := by
  refine ⟨fun xs rest h => ⟨?_, fun x hx => ?_⟩, fun h => ?_⟩
  · simp only [walkStackFrames, h]
    rfl
  · have hv := (MsgPack.parse_isValid _ _ _ _ h).1
    simp only [MsgObject.isValid, Bool.and_eq_true] at hv
    have := MsgPack.parse_pack _ x [] (MsgObject.isValid_of_mem hv.2 hx) (Nat.lt_succ_self _)
    rwa [List.append_nil] at this
  · rcases hu : unpack out with e | ⟨o, rest⟩
    · exact ⟨e, by simp only [walkStackFrames, hu]; rfl⟩
    · cases o
      case array xs => exact absurd hu (h xs rest)
      all_goals exact ⟨.typeError, by simp only [walkStackFrames, hu]; rfl⟩

/-- A blob cut short: `0x91` announces an array of one element, and none follows. -/
theorem walkStackFrames_truncated :
    unpack [0x91] = .error .insufficientBytes ∧ ∃ e, walkStackFrames (some [0x91]) = .error e :=
  ⟨rfl, (walkStackFrames_unpack [0x91]).2 fun _ _ h => nomatch h⟩

/-- The frames are the elements packed again, not the bytes they came in: `0xcc 0x05` is
submitted as the fixint `0x05`. -/
example : walkStackFrames (some [0x92, 0xcc, 0x05, 0xc0]) = .ok [[0x05], [0xc0]] := rfl

end CitizenV8
