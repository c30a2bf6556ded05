import RtsynEngine.World

/-! Loaded nodes: loading a module, replacing the one of the same name, and adding runtime nodes
from the loaded descriptors (`engine.c`).  `loaded_nodes` is a linked list whose elements are found
by `rtsyn_engine_loaded_node_cmp_by_name`. -/

namespace RtsynEngine

/-- `rtsyn_engine_loaded_node_cmp_by_name` -/
def cmpByName (e : LoadedNode) (name : Option CString) : Bool :=
  match e.name, name with
  | some a, some b => a == b
  | _, _ => false

/-- `rtsyn_collection_get` on `loaded_nodes`. -/
def collectionGet (es : List LoadedNode) (name : Option CString) : Option LoadedNode :=
  es.find? (cmpByName · name)

/-- `rtsyn_collection_contains` on `loaded_nodes`. -/
def collectionContains (es : List LoadedNode) (name : Option CString) : Bool :=
  es.any (cmpByName · name)

namespace World

variable {D : Deps}

/-- `rtsyn_module_loader_destroy` on a loader that is, or is not, in `loaded_nodes`. -/
def moduleLoaderDestroy (w : World D) (loader : ModuleLoader) (registered : Bool) : World D :=
  w.emit (.loaderDestroy loader registered (D.nodes w.runtime))

def loadedNodeDestroy (w : World D) (e : LoadedNode) (registered : Bool) : World D :=
  w.moduleLoaderDestroy e.loader registered

/-- The element destructor on each of `es`, in order. -/
def destroyElements (w : World D) (es : List LoadedNode) : World D :=
  es.foldl (fun w e => w.loadedNodeDestroy e true) w

def setLoadedNodes (w : World D) (es : List LoadedNode) : World D :=
  { w with engine := { w.engine with loadedNodes := es } }

/-- `rtsyn_collection_remove` on `loaded_nodes`: no element of that key is left. -/
def collectionRemove (w : World D) (name : Option CString) : World D :=
  (w.destroyElements (w.engine.loadedNodes.filter (cmpByName · name))).setLoadedNodes
    (w.engine.loadedNodes.filter fun e => !cmpByName e name)

/-- The end of `rtsyn_engine_load_node_descriptor_as`, once `loaded_node` is filled in: the runtime
loses the nodes of that name, then `loaded_nodes` its element of that name, and last the new one
is added. -/
def replaceLoadedNode (w : World D) (loadedNode : LoadedNode) (name : CString) :
    Option (Pointer NodeDescriptor) × World D :=
  let w := { w with runtime := D.removeNodesByName w.runtime name }
  let w :=
    if collectionContains w.engine.loadedNodes name then w.collectionRemove name else w
  match D.collectionAdd w.env with
  | (false, env) => (none, { w with env }.loadedNodeDestroy loadedNode false)
  | (true, env) =>
    (some loadedNode.descriptor,
      { w with env }.setLoadedNodes (w.engine.loadedNodes ++ [loadedNode]))

def loadNodeDescriptorAs (w : World D) (modulePath : CString) (nodeType : NodeType) :
    Option (Pointer NodeDescriptor) × World D :=
  match D.moduleLoaderCreate w.env modulePath with
  | (none, env) => (none, { w with env })
  | (some loader, env) =>
    let w := { w with env }
    match exported : loader.descriptor with
    | none => (none, w.moduleLoaderDestroy loader false)
    | some descriptor =>
      match descriptor.target.name with
      | none => (none, w.moduleLoaderDestroy loader false)
      | some name =>
        if nodeType != .invalid && descriptor.target.nodeType != nodeType then
          (none, w.moduleLoaderDestroy loader false)
        else
          match D.mallocLoadedNode w.env with
          | (false, env) => (none, { w with env }.moduleLoaderDestroy loader false)
          | (true, env) => { w with env }.replaceLoadedNode ⟨loader, descriptor, exported⟩ name

def loadNodeAs (w : World D) (modulePath : CString) (nodeType : NodeType) : Bool × World D :=
  let (descriptor, w) := w.loadNodeDescriptorAs modulePath nodeType
  (descriptor.isSome, w)

def loadNode (w : World D) (modulePath : CString) : Bool × World D :=
  w.loadNodeAs modulePath .invalid

def createNodeFromDescriptor (w : World D) (descriptor : Pointer NodeDescriptor) :
    Option (Node D.limits) × World D :=
  match descriptor.target.nodeType with
  | .plugin =>
    let (node, env) := D.nodeCreatePlugin w.env descriptor
    (node, { w with env })
  | .device =>
    let (node, env) := D.nodeCreateDevice w.env descriptor
    (node, { w with env })
  | _ => (none, w)

def addNode (w : World D) (nodeName : CString) : Option (Node D.limits) × World D :=
  match collectionGet w.engine.loadedNodes nodeName with
  | none => (none, w)
  | some loadedNode =>
    match w.createNodeFromDescriptor loadedNode.descriptor with
    | (none, w) => (none, w)
    | (some node, w) =>
      match D.addNode w.runtime node with
      | none => (none, { w with env := D.nodeDestroy w.env node })
      | some runtime => (some node, { w with runtime })

def addNodeAs (w : World D) (nodeName : CString) (nodeType : NodeType) :
    Option (Node D.limits) × World D :=
  if !D.nodeTypeIsValid nodeType then (none, w)
  else
    match collectionGet w.engine.loadedNodes nodeName with
    | none => (none, w)
    | some loadedNode =>
      if loadedNode.descriptor.target.nodeType != nodeType then (none, w)
      else w.addNode nodeName

end World

end RtsynEngine
