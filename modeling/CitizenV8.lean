import CitizenV8.Value.Number
import CitizenV8.Value.JsValue
import CitizenV8.Marshal.StringArena
import CitizenV8.Marshal.PushArgument
import CitizenV8.Marshal.InvokeNative
import CitizenV8.Marshal.Reentry
import CitizenV8.Marshal.NativeHash
import CitizenV8.Environment.Thread
import CitizenV8.Environment.Bracket
import CitizenV8.Environment.Dispatch
import CitizenV8.Reference.FunctionRef
import CitizenV8.Reference.CallRef
import CitizenV8.Runtime.Routines
import CitizenV8.Runtime.RoutineCalls
import CitizenV8.Runtime.Load
import CitizenV8.Runtime.Initialize
import CitizenV8.Trace.Boundary
import CitizenV8.Trace.MsgPack
import CitizenV8.Trace.WalkStack
