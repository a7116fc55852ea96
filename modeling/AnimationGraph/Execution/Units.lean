import AnimationGraph.Code.Program
import AnimationGraph.Script.Eval

/-! # Execution units

A loop input lists its elements and parameters between two control sockets. Generators, breaks and
reassignments belong to the loop whose network they are in. Every main network and every subprogram has a unit: its
scripts, and while it is set up the variables that the scripts run in.
-/

namespace AnimationGraph

namespace NodeId

variable (n : NodeId)

def outputPlace (name : String) : Run Nat := do (<- n.outputNamed name).place

def iteratorSockets : Run (List SocketId) := do
 let stop <- n.outputPlace "New Iterator"
 return ((<- n.outputs).take stop).drop 2

def parameterSockets : Run (List SocketId) := do
 let start <- n.outputPlace "New Iterator"
 let stop <- n.outputPlace "New Parameter"
 return ((<- n.outputs).take stop).drop (start + 1)

def insertByNumber {α : Type} (pre : Value -> Value -> Ask) (key : Value) (a : α) :
  List (Value × α) -> Run (List (Value × α))
 | [] => pure [(key, a)]
 | (k, b) :: rest => do
  if <- pre key k then return (key, a) :: (k, b) :: rest
  return (k, b) :: (<- insertByNumber pre key a rest)

/-- The generators of a loop in their order; they are numbered anew. -/
def sortedGenerators : Run (List NodeId) := do
 let mut sorted : List (Value × NodeId) := []
 for k in (<- n.network).generators do
  let g <- nodeAt k
  sorted <- insertByNumber less (<- g "sortIndex") g sorted
 for ((_, g), i) in sorted.zipIdx do g.set "sortIndex" i
 return sorted.map (·.2)

/-- The parameter that a node gives a new value, if it exists. -/
def linkedParameter? : Run (Option SocketId) := do
 let .socket s <- n "linkedParameterSocket" | pure none
 return some s

def reassignNodes : Run (List NodeId) := do
 let ns <- (<- n.network).reassigns.mapM nodeAt
 ns.filterM fun m => return (<- m.linkedParameter?).isSome

end NodeId

/-! ## Views of nodes for code generation

Collects from the session what code generation needs to know of nodes and sockets. -/

namespace Code

def typeOf (s : SocketId) : Run DataType := do
 let kind <- s.kind
 need .attr (socketTypes.types.find? (·.idName == kind))

def socketView (s : SocketId) (place : Nat) : Run SocketView := do
 let isOutput <- s.isOutput
 let targets <- if isOutput then (<- s.linkedSockets).mapM fun t => return ⟨t, <- t.is "dataIsModified"⟩
  else pure []
 return {
  id := s
  identifier := <- s.identifier
  shownName := <- text (<- s.displayedName)
  place
  isOutput
  type := <- typeOf s
  isLinked := <- s.isLinked
  originType := <- if isOutput then pure none else do pure (<- s.typesOfLinks).head?
  modified := <- s.is "dataIsModified"
  copyAlways := <- if isOutput then s.is "loop.copyAlways" else pure false
  targets }

def nodeView (n : NodeId) : Run NodeView := do
 let inputs <- (<- n.inputs).zipIdx.mapM fun (s, i) => socketView s i
 let outputs <- (<- n.outputs).zipIdx.mapM fun (s, i) => socketView s i
 let modules <- textsOf (<- n.call "getUsedModules")
 return {
  id := n
  kind := <- n.kind
  tree := (<- n.key).tree
  name := <- n.name
  identifier := <- n.identifier
  inputs
  outputs
  modules }

variable (views : List NodeView) (n : Network) (v : NodeView) (mode : CodeMode)

def noteCopies : Act := do
 for s in v.linkedOutputs do setPath s.id "execution.neededCopies" ((copiedTargets s).length)

/-- Add the code of a node. A node that fails to give its code is a problem. -/
def withCode (v : NodeView) : Run NodeView :=
 tryCatch
  (do
   let code <- v.id.localCode (sortedSet (<- v.linkedOutputs.mapM (·.id.identifiers)).flatten) (mode == .baked)
   return { v with
    code
    inputVariables := <- v.id.inputVariables
    outputVariables := <- v.id.outputVariables })
  (fun _ => do
   report (.nodeCode v.identifier)
   failWith "Node failed to create execution code")

/-- Add the code of the nodes one after the other, and note the copies that each of them needs. -/
def withCodes (inBody : NodeView -> Bool) (views : List NodeView) : Run (List NodeView) :=
 views.mapM fun v => do
  if inBody v then
   let v <- withCode mode v
   noteCopies v
   return v
  pure v

/-- The members of a network in the order of execution; `none` when links run in a circle, which is
a problem. -/
def sortedMembers : Run (Option (List NodeId)) := do
 match n.sorted? (<- look (·.survey.tables)) with
 | some keys => keys.mapM nodeAt
 | none =>
  report .linkRecursion
  pure none

def codeMode : Run CodeMode := do need .type (CodeMode.ofName? (<- text (<- executionCodeType)))

/-- Views of the members; a network without members has no code. -/
def memberViews (ns : List NodeId) : Run (List NodeView) := do
 let views <- ns.mapM nodeView
 if views.isEmpty then fail .index
 pure views

def mainNetworkScripts : Run (String × String) := do
 let some nodes <- sortedMembers n | pure ("", "")
 let mode <- codeMode
 return mainScripts mode (<- withCodes mode (fun _ => true) (<- memberViews nodes))

def viewOf (k : NodeKey) : Option NodeView := views.find? fun v => v.tree == k.tree && v.name == k.name
def partOf (k : Option NodeKey) : Run NodeView := need .attr (k.bind (viewOf views))

def groupScript : Run String := do
 let some nodes <- sortedMembers n | pure ""
 let mode <- codeMode
 let views <- memberViews nodes
 noteCopies (<- partOf views n.groupInputs.head?)
 let views <- withCodes mode (fun v => v.kind != "an_GroupInputNode" && v.kind != "an_GroupOutputNode") views
 let g : GroupView :=
  { nodes := views, input := <- partOf views n.groupInputs.head?,
    output := n.groupOutputs.head?.bind (viewOf views) }
 return g.script mode

def inputAt (i : Nat) : Run SocketView := need .index v.inputs[i]?

def generatorView (n : NodeId) : Run GeneratorView := do
 let v <- partOf views (some (<- n.key))
 let cond <- inputAt v 1
 return {
  node := v
  listType := <- textAt n "listDataType"
  operation := <- textAt n "generatorType"
  condition := cond.id
  element := <- inputAt v 0 }

def reassignView (n : NodeId) : Run ReassignView := do
 let v <- partOf views (some (<- n.key))
 let some p <- n.linkedParameter? | fail .key
 return {
   node := v
   condition := <- look fun w => (w.forest.node n).inputs.find? fun s => (w.forest.socket s).name == "Condition"
   value := <- inputAt v 0
   parameter := p }

def loopScript : Run String := do
 let some nodes <- sortedMembers n | pure ""
 let mode <- codeMode
 let views <- memberViews nodes
 let input <- partOf views n.loopInputs.head?
 let owner := input.id
 let find (s : SocketId) : Run SocketView := need .key (input.outputs.find? (·.id == s))
 let iterators <- (<- owner.iteratorSockets).mapM fun s => return (<- find s, <- s.is "loop.useAsOutput")
 let params <- (<- owner.parameterSockets).mapM fun s => do
  return ⟨<- find s, <- s.is "loop.useAsInput", <- s.is "loop.useAsOutput"⟩
 noteCopies input
 let views <- withCodes mode (!LoopView.frameKinds.contains ·.kind) views
 let gens <- (<- owner.sortedGenerators).mapM (generatorView views)
 let viewers <- (<- nodesOfKind "an_LoopViewerNode").filterMapM fun v => do
  let k <- v.key
  if n.members.contains k then return some (<- v.identifier) else pure none
 let breaks <- (<- (<- owner.network).breaks.mapM nodeAt).mapM (·.input 0)
 let reassigns <- (<- owner.reassignNodes).mapM (reassignView views)
 let l : LoopView :=
  { nodes := views
    input
    index := <- owner.outputNamed "Index"
    iterations := <- find (<- owner.outputNamed "Iterations")
    iterators
    parameters := params
    generators := gens
    reassigns
    breaks
    viewers }
 return l.script mode

def verdictOn (code : String) : Verdict :=
 if Names.importsAll code then .importsAll
 else match Script.parse code with
  | .ok _ => .valid
  | .error line => .invalid line

def userScript : Run String := do
 let node <- nodeAt (<- need .index n.scripts.head?)
 let v <- nodeView node
 let code <- textAt node "executionCode"
 let params <- v.inputs.dropLast.mapM fun s => do text (<- s.id "text")
 let results <- v.outputs.dropLast.mapM fun s => return (<- text (<- s.id "text"), valueExpression v.identifier s)
 let s : ScriptView :=
  { node := v
    parameters := params
    results
    code
    verdict := verdictOn code
    initialize? := <- node.is "initializeMissingOutputs"
    correct? := <- node.is "correctOutputTypes"
    debug? := <- node.is "debugMode" }
 pure s.script

end Code

/-- Read a script; one that is not well formed is a problem. -/
def readScript (script : String) : Run (Option (List Script.Stmt)) := do
 match Script.compile? script with
 | some body => return some body
 | none =>
  report .malformedScript
  pure none

/-- The scripts of a network: one that sets it up, and for main networks one that executes it. -/
def newScripts (n : Network) : Run (String × String) := do
 match n.type with
 | .main => Code.mainNetworkScripts n
 | .group => return (<- Code.groupScript n, "")
 | .loop => return (<- Code.loopScript n, "")
 | _ => return (<- Code.userScript n, "")

def newUnit (n : Network) : Run ExecutionUnit := do
 let (setup, execute) <- newScripts n
 return { network := n, analysis := <- look (·.analyses), setupScript := setup, executeScript := execute
          setupCode := <- readScript setup, executeCode := <- readScript execute }

def ExecutionUnit.scripts (u : ExecutionUnit) : Texts :=
 if u.network.isSubprogram then [u.setupScript] else [u.setupScript, u.executeScript]

def forgetUnits : Act := do
 change ({ · with units := [] })
 for n in <- animatedNodes do for s in <- n.outputs do setPath s "execution.neededCopies" 0

def makeUnits (nets : List Network) : Act :=
 nets.forM fun n => do
  let u <- newUnit n
  change fun w => { w with units := w.units ++ [u] }

/-- Make all units anew. When code cannot be generated, the units made before stay. -/
def createUnits : Act := do
 forgetUnits
 tryCatch (do makeUnits (<- get).survey.programs) (fun _ => report .codeCreation)

/-- Make the subprograms anew, in place of those with the same identifiers. -/
def renewSubprograms : Act := do
 let nets <- look (·.survey.subprograms)
 let isOld (n : Network) : Bool := n.isSubprogram && nets.any (·.identifier == n.identifier)
 change fun w => { w with units := w.units.filter (!isOld ·.network) }
 makeUnits nets

/-- The place of a unit in the list of all units. -/
abbrev UnitKey := Nat

namespace UnitKey

variable (k : UnitKey)

def read : Run ExecutionUnit := do need .key (<- look (·.units[k]?))
def write (u : ExecutionUnit) : Act := change fun w => { w with units := w.units.set k u }

end UnitKey

variable (n : Network)

/-- The identifier that scripts call a network by. -/
def Network.subprogram? : Option String := if n.isSubprogram then n.identifier else none

/-- The units, and what tells which of them trees need. -/
structure Setting where
 units : List ExecutionUnit
 survey : Survey
 nameOf : TreeId -> String

def World.setting (w : World) : Setting := ⟨w.units, w.survey, fun t => (w.forest.tree t).name⟩

namespace Setting

variable (s : Setting)

def programs : List Network := s.units.map (·.network)
def unitsWhere (p : Network -> Bool) : List UnitKey := (List.range s.programs.length).filter (s.programs[·]?.any p)
def mainUnits (tree : String) : List UnitKey := s.unitsWhere fun n => !n.isSubprogram && n.nameOfTree == tree
def subprogramUnit? (id : String) : Option UnitKey := s.programs.findIdx? (·.subprogram? == some id)
def networksOf (t : TreeId) : List Network := s.survey.networks.filter (·.nameOfTree == s.nameOf t)

/-- Why units that a network needs cannot be told: calls are without end, or there is no unit. -/
def obstacle? : Option Cause :=
 match s.survey.needed? n with
 | none => some .recursion
 | some ids => if ids.all fun id => (s.subprogramUnit? id).isSome then none else some .key

def neededUnits : List UnitKey := ((s.survey.needed? n).getD []).filterMap s.subprogramUnit?

def unitsOf (trees : List TreeId) : List UnitKey :=
 trees.flatMap fun t => s.mainUnits (s.nameOf t) ++ (s.networksOf t).flatMap s.neededUnits

end Setting

def mainUnitsOf (t : TreeId) : Run (List UnitKey) := look fun w => w.setting.mainUnits (w.setting.nameOf t)
def subprogramUnit? (id : String) : Run (Option UnitKey) := look (·.setting.subprogramUnit? id)

/-- Identifiers of the subprograms that a network needs; calls without end are a failure. -/
def neededSubprograms : Run Texts := do need .recursion (<- look (·.survey.needed? n))

variable (trees : List TreeId)

/-- All units that trees need: their main units, and the subprograms that their networks call. -/
def unitsOf : Run (List UnitKey) := do
 let s <- look (·.setting)
 match (trees.flatMap s.networksOf).findSome? s.obstacle? with
 | some cause => fail cause
 | none => return s.unitsOf trees

variable (u : ExecutionUnit)

/-- Run the setup script of a unit; gives the function that a subprogram is called by. -/
def ExecutionUnit.runSetup (t : CellId) : Eval := do
 let some body := u.setupCode | fail .type
 Script.run t body
 if u.network.isSubprogram then need .key (<- Script.held? t "main") else pure .none

variable (k : UnitKey) (t : TreeId) (keys : List UnitKey) (fs : Fields)

/-- Set up a unit in a new table of variables. -/
def setUpUnit : Act := do
 let u <- k.read
 let .cell table <- newDict [] | fail .type
 k.write { u with data := some table }
 let e <- u.runSetup table
 k.write { u with data := some table, state := .ready e }

def unitEntry : Value :=
 match u.state with
 | .ready e => e
 | .idle => .operation "notSetUp" []

/-- Add a subprogram under the name that scripts call. -/
def addFunction (u : ExecutionUnit) : Fields :=
 match u.network.subprogram? with
 | some id => fs.set ("_subprogram" ++ id) (unitEntry u)
 | none => fs

def setUpAll : Run Fields :=
 keys.foldlM (fun fs k => do
  setUpUnit k
  return addFunction fs (<- k.read)) []

def insertFunctions : Act := do
 let some table := (<- k.read).data | pure ()
 Script.setVariables table fs

/-- Set up the units of trees, and make the subprograms known in all of them. -/
def linkUnits : Act := do
 let keys <- unitsOf trees
 let fs <- setUpAll keys
 keys.forM (insertFunctions · fs)

def setUpUnits : Act :=
 tryCatch
  (do
   if trees.isEmpty then return
   unless <- mayRun do return
   linkUnits trees)
  (fun _ => report .unitSetup)

def ExecutionUnit.finished : ExecutionUnit := { u with data := none, state := .idle }
def finishUnit : Act := change fun w => { w with units := w.units.modify k .finished }

def finishUnits : Act := do
 (<- unitsOf trees).forM finishUnit
 setRegister "curveCache" .none

/-- Run the execute script of a unit; says whether it went well. -/
def ExecutionUnit.runExecute (t : CellId) : Ask :=
 tryCatch
  (do
   Script.run t (<- need .type u.executeCode)
   pure true)
  (fun _ => do
   report .execution
   pure false)

def executeMainUnit : Ask := do
 let u <- k.read
 match u.state, u.data with
 | .ready _, some t => u.runExecute t
 | _, _ => fail .notSetUp

def UnitKey.toValue : Eval := do
 let kind := match (<- k.read).network.type with
  | .group => "GroupExecutionUnit"
  | .loop => "LoopExecutionUnit"
  | .script => "ScriptExecutionUnit"
  | _ => "MainExecutionUnit"
 newRecord kind [("place", k)]

def unitKey (c : CellId) : Run UnitKey := return (<- toInt (<- c "place")).toNat

def unitKinds : List RecordKind :=
 ["MainExecutionUnit", "GroupExecutionUnit", "LoopExecutionUnit", "ScriptExecutionUnit"].map fun name =>
  { name
    members :=
     [prop "network" fun c => do
      let u <- (<- unitKey c).read
      u.network.toValue u.analysis,
     fn0 "getCodes" fun c => do textList (<- (<- unitKey c).read).scripts,
     act0 "setup" fun c => do setUpUnit (<- unitKey c),
     act0 "finish" fun c => do finishUnit (<- unitKey c),
     act1 "insertSubprogramFunctions data" fun c fs => do
      (Value.cell (<- need .attr ((<- (<- unitKey c).read).data))).tell "update" [fs],
     ("execute", .free fun c args => do
      let k <- unitKey c
      let u <- k.read
      if u.network.isSubprogram then (unitEntry u).apply args.pos args.named
      else executeMainUnit k)] }

/-- The unit of a network, as long as the network comes from the same analysis. -/
def unitOfNetwork? (net : Value) : Run (Option UnitKey) := do
 let keys := keysOf (<- net "nodeIDs")
 let analysis <- net "analysis"
 let .tree t <- net "nodeTree" | fail .attr
 (<- unitsOf [t]).findM? fun k => do
  let u <- k.read
  if u.network.members == keys then equal analysis u.analysis else pure false

/-- Execute units; says whether all went well. -/
def executeUnits : Ask := keys.foldlM (fun well k => return (<- executeMainUnit k) && well) true

/-- Keep what there is to know of an execution of so many units. -/
def noteExecution (k : Nat) (well : Bool) : Act := do
 unless well do return
 let info <- (Value.tree t) "lastExecutionInfo"
 if k == 0 then info.set "executionTime" 0
 else
  info.set "executionTime" 0.0
  info.tell "updateVersions"

def runTree : Act := do
 let keys <- mainUnitsOf t
 noteExecution t keys.length (<- executeUnits keys)

/-- A step between the set-up of the units of trees and their end. -/
def withUnits (x : Act) : Act := do
 setUpUnits trees
 x
 finishUnits trees

/-- A script node has got other code: its unit is made anew. -/
def refreshScriptUnit : Act := do
 let u <- k.read
 let script <- Code.userScript u.network
 k.write { u with setupScript := script, setupCode := <- readScript script, state := .idle }

end AnimationGraph
