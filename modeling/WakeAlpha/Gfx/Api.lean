import WakeAlpha.Gfx.Buffer

set_option autoImplicit false

namespace WakeAlpha.Gfx

-- One call of a program into the library, with what the validation layer and the backend answer.
inductive SgCall where
  | alloc (k : Kind)
  | dealloc (k : Kind) (id : UInt32)
  | init (k : Kind) (id : UInt32) (desc : Desc k) (reply : InitReply)
  | uninit (k : Kind) (id : UInt32)
  | fail (k : Kind) (id : UInt32)
  | make (k : Kind) (desc : Desc k) (reply : InitReply)
  | destroy (k : Kind) (id : UInt32)
  | updateBuffer (id : UInt32) (data : SgRange) (reply : MapReply)
  | appendBuffer (id : UInt32) (data : SgRange) (reply : MapReply)
  | beginPass (pass : SgPass) (validated : Bool)
  | applyViewport (x y width height : Int) (originTopLeft : Bool)
  | applyScissorRect (x y width height : Int) (originTopLeft : Bool)
  | applyPipeline (id : UInt32) (formats : Bool)
  | applyBindings (bindings : SgBindings) (validated : Bool)
  | applyUniforms (stage : SgShaderStage) (ubIndex : Nat) (data : SgRange)
  | draw (baseElement numElements numInstances : Int)
  | endPass
  | commit
  | resetStateCache
  | addCommitListener (listener : SgCommitListener)
  | removeCommitListener (listener : SgCommitListener)
  | enableFrameStats
  | disableFrameStats

def sgStep (s : SgState) : SgCall → Checked SgState
  | .alloc k => do return (← sgAlloc k s).2
  | .dealloc k id => sgDealloc k id s
  | .init k id desc reply => sgInit k id desc reply s
  | .uninit k id => sgUninit k id s
  | .fail k id => sgFail k id s
  | .make k desc reply => do return (← sgMake k desc reply s).2
  | .destroy k id => sgDestroy k id s
  | .updateBuffer id data reply => sgUpdateBuffer id data reply s
  | .appendBuffer id data reply => do return (← sgAppendBuffer id data reply s).2
  | .beginPass pass validated => sgBeginPass pass validated s
  | .applyViewport x y width height originTopLeft => sgApplyViewport x y width height originTopLeft s
  | .applyScissorRect x y width height originTopLeft => sgApplyScissorRect x y width height originTopLeft s
  | .applyPipeline id formats => sgApplyPipeline id formats s
  | .applyBindings bindings validated => sgApplyBindings bindings validated s
  | .applyUniforms stage ubIndex data => sgApplyUniforms stage ubIndex data s
  | .draw baseElement numElements numInstances => sgDraw baseElement numElements numInstances s
  | .endPass => sgEndPass s
  | .commit => sgCommit s
  | .resetStateCache => sgResetStateCache s
  | .addCommitListener listener => do return (← sgAddCommitListener listener s).2
  | .removeCommitListener listener => do return (← sgRemoveCommitListener listener s).2
  | .enableFrameStats => sgEnableFrameStats s
  | .disableFrameStats => sgDisableFrameStats s

def sgRun (s : SgState) (calls : List SgCall) : Checked SgState := calls.foldlM sgStep s

theorem make_step {s next : SgState} {k : Kind} {id : UInt32} {desc : Desc k} {reply : InitReply}
    (done : sgMake k desc reply s = some (id, next)) : sgStep s (.make k desc reply) = some next := by
  rw [sgStep, done]
  rfl

theorem run_next {s next : SgState} {call : SgCall} (rest : List SgCall) (step : sgStep s call = some next) :
    sgRun s (call :: rest) = sgRun next rest := by
  rw [sgRun, List.foldlM_cons, step]
  rfl

theorem run_then {s next : SgState} {first : List SgCall} (second : List SgCall) (reached : sgRun s first = some next) :
    sgRun s (first ++ second) = sgRun next second := by
  have split : sgRun s (first ++ second) = (sgRun s first >>= fun middle => sgRun middle second) :=
    List.foldlM_append
  rw [split, reached]
  rfl

end WakeAlpha.Gfx
