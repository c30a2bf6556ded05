import RtsynEngine.Command

/-! The operations that a host and its clients perform on an engine whose threads do not run
beside them, and the engine's end. -/

namespace RtsynEngine

/-- An API call, or a command that is dispatched. -/
inductive Operation (L : Limits)
  | loadNode (modulePath : CString)
  | loadNodeAs (modulePath : CString) (nodeType : NodeType)
  | addNode (nodeName : CString)
  | addNodeAs (nodeName : CString) (nodeType : NodeType)
  | command (message : CommandMessage L)

namespace World

variable {D : Deps}

def perform (w : World D) : Operation D.limits → World D
  | .loadNode modulePath => (w.loadNode modulePath).2
  | .loadNodeAs modulePath nodeType => (w.loadNodeAs modulePath nodeType).2
  | .addNode nodeName => (w.addNode nodeName).2
  | .addNodeAs nodeName nodeType => (w.addNodeAs nodeName nodeType).2
  | .command message => (w.dispatchCommand message).2

def performAll (w : World D) (ops : List (Operation D.limits)) : World D := ops.foldl perform w

/-- `rtsyn_collection_destroy` on `loaded_nodes`. -/
def collectionDestroy (w : World D) : World D :=
  (w.destroyElements w.engine.loadedNodes).setLoadedNodes []

/-- `rtsyn_engine_destroy`, after the threads have been joined. -/
def destroy (w : World D) : World D := w.requestStop.collectionDestroy

end World

end RtsynEngine
