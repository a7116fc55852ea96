import AnimationGraph.Code.Effect
import AnimationGraph.DataType

/-! # Scripts of networks

Code is generated from views of nodes and sockets. A view holds what the lines depend on, so that the
lines are a function of the views and of the variables that were given out before.

A main network has a script that sets it up and a script that runs it. A subprogram has one script,
which defines a function: a group takes its inputs and returns its outputs, a loop runs its nodes once
for each round, and a script node runs what the user wrote.
-/

namespace AnimationGraph

/-- A socket that takes the value of another one. -/
structure TargetView where
 id : SocketId
 /-- The node changes the value in place. -/
 modified : Bool
 deriving DecidableEq

/-- A socket as code generation sees it. -/
structure SocketView where
 id : SocketId
 identifier : String
 /-- The name that the user sees. -/
 shownName : String := ""
 place : Nat
 isOutput : Bool
 type : DataType
 isLinked : Bool
 /-- The type of what comes in, for linked inputs. -/
 originType : Option String := none
 /-- The node changes the value in place. -/
 modified : Bool := false
 /-- Every target that changes the value gets a copy. -/
 copyAlways : Bool := false
 /-- The sockets that an output is linked with. -/
 targets : List TargetView := []
 deriving Inhabited

/-- A node as code generation sees it. -/
structure NodeView where
 id : NodeId
 (kind tree name identifier : String)
 (inputs outputs : List SocketView)
 modules : Texts := []
 /-- The code in terms of the node's own variables. -/
 code : String := ""
 /-- The own variables by identifier of the socket. -/
 inputVariables : Pairs := []
 outputVariables : Pairs := []
 deriving Inhabited

/-- The names of all sockets in a script, by the indices of the sockets. -/
abbrev Variables := Std.TreeMap Nat String

/-- How the lines of a node are wrapped. -/
inductive CodeMode where
 | plain
 /-- Failures and missing results are traced back to the node. -/
 | monitored
 /-- The time that each node takes is recorded. -/
 | measured
 /-- Results are stored for playback. -/
 | baked
 deriving DecidableEq

def CodeMode.ofName? : String -> Option CodeMode
 | "DEFAULT" => some .plain
 | "MONITOR" => some .monitored
 | "MEASURE" => some .measured
 | "BAKE" => some .baked
 | _ => none

namespace Variables

def of (vs : Variables) (s : SocketId) : String := vs.getD s.index ""

/-- The first name of a socket: its identifier, made unique by the node and the position. -/
def firstName (node : String) (i : Nat) (s : SocketView) : String :=
 let part := .ofList (node.toList.take 4)
 if Letters.isName s.identifier then "_" ++ s.identifier ++ part ++ toString i
 else "__socket_" ++ (if s.isOutput then "True" else "False") ++ "_" ++ toString i ++ part

def rename (vs : Variables) (ns : List (SocketId × String)) : Variables :=
 ns.foldl (fun vs (s, name) => vs.insert s.index name) vs

def firstNames (n : NodeView) : List (SocketId × String) :=
 (n.inputs ++ n.outputs).zipIdx.map fun (s, i) => (s.id, firstName n.identifier i s)

def initial (ns : List NodeView) : Variables := rename {} (ns.flatMap firstNames)

end Variables

namespace NodeView

variable (n : NodeView) (id : String)

def input? : Option SocketView := n.inputs.find? (·.identifier == id)
def output? : Option SocketView := n.outputs.find? (·.identifier == id)

def linkedOutputs : List SocketView := n.outputs.filter (·.isLinked)
def freeInputs : List SocketView := n.inputs.filter (!·.isLinked)

/-- Inputs and outputs that share a variable: the output gets the name of the input. -/
def innerLinks : Pairs :=
 n.outputVariables.filterMap fun (out, name) =>
  ((n.inputVariables.filter (·.2 == name)).getLast?).map fun i => (i.1, out)

def passes : List (SocketView × SocketView) :=
 n.innerLinks.filterMap fun (inner, outer) => (n.input? inner).bind fun i => (n.output? outer).map fun o => (i, o)

end NodeView

/-! ## Lines of code for networks

The lines that set a network up, and the lines that run its nodes one after the other. -/

namespace Code

def indented (levels : Nat) (ls : Texts) : Texts := ls.map (indentation levels ++ ·)

variable (n : NodeView) (nodes : List NodeView) (vs : Variables) (node : String) (s : SocketView)

/-- Modules that every script needs, with those that the nodes ask for. -/
def importLine : String := "import " ++ ", ".intercalate (sortedSet (["bpy", "sys"] ++ nodes.flatMap (·.modules)))

def importLines : Texts := [
 importLine nodes, "import itertools", "from time import perf_counter as getCurrentTime",
 "from mathutils import Vector, Matrix, Quaternion, Euler",
 "AN = animation_nodes = sys.modules.get('animation_nodes')", "from animation_nodes.data_structures import *",
 "from animation_nodes import algorithms"]

def valueExpression : String :=
 let k := node ++ (if s.isOutput then ".outputs[" else ".inputs[") ++ toString s.place ++ "]"
 if s.type.valued then k ++ ".getValue()"
 else match s.type.defaultCode with
  | some code => code
  | none => k ++ ".getDefaultValue()"

def loadLine (vs : Variables) : String := vs.of s.id ++ " = " ++ valueExpression node s

/-- Lines that load what the nodes of a network need. -/
def setupLines : Texts :=
 let tree := (nodes.head?.map (·.tree)).getD ""
 importLines nodes
  ++ ["_node_execution_times = animation_nodes.execution.measurements.getMeasurementsDict()",
   "nodes = bpy.data.node_groups[" ++ Quoted.literal tree ++ "].nodes"]
  ++ nodes.map (fun n => n.identifier ++ " = nodes[" ++ Quoted.literal n.name ++ "]")
  ++ nodes.flatMap fun n => n.freeInputs.map (loadLine n.identifier · vs)

/-- The statement that makes the values of unlinked inputs known inside a function. -/
def globalLine : String :=
 let ss := (nodes.flatMap NodeView.freeInputs).filter (·.type.name != "Node Control")
 if ss.isEmpty then "" else "global " ++ ", ".intercalate (ss.map (vs.of ·.id))

/-- Where an assignment takes its value from. -/
inductive Source where
 /-- The value of a variable, converted by code that speaks of `value`. -/
 | converted (code name : String)
 | copied (type : DataType) (name : String)
 | expression (text : String)

def Source.text : Source -> String
 | .converted code name => Names.rename code "value" name
 | .copied type name => .replace (type.copy.getD "") "value" name
 | .expression text => text

structure Assignment where
 target : String
 source : Source

def Assignment.line (a : Assignment) : String := a.target ++ " = " ++ a.source.text

/-- The code that converts what comes in, where the types differ and a conversion needs code. -/
def conversionCode? (s : SocketView) : Option String :=
 s.originType.bind fun o => if o == s.type.name then none else socketTypes.conversionCode? o s.type.name

def converted : List SocketView := n.inputs.filter fun s => (conversionCode? s).isSome

variable (s : SocketView) (mode : CodeMode)

def copiesOwn : Bool := s.modified && s.type.copy.isSome && !s.isLinked

/-- Inputs that get new values before the code of their node. -/
def renewed : List SocketView := converted n ++ n.inputs.filter copiesOwn

/-- The name of an input in the code of its node. -/
def preparedName : String :=
 if (conversionCode? s).isSome then vs.of s.id ++ "_converted"
 else if copiesOwn s then vs.of s.id ++ "_copy"
 else vs.of s.id

/-- The assignment that gives an input a new value before the code of its node. -/
def renewal : Assignment where
 target := preparedName vs s
 source := match conversionCode? s, s.type.defaultCode with
  | some code, _ => .converted code (vs.of s.id)
  | none, some code => .expression code
  | none, none => .copied s.type (vs.of s.id)

/-- The targets of an output that get a copy. The last reader may change the value itself, if all
others got copies. -/
def copiedTargets : List TargetView :=
 if s.type.copy.isNone then []
 else
  let modifying := s.targets.filter (·.modified)
  if s.copyAlways then modifying
  else if s.targets.length == 1 then []
  else if s.targets.length > modifying.length then modifying
  else modifying.drop 1

def handovers : List (SocketView × TargetView) := n.linkedOutputs.flatMap fun s => s.targets.map (s, ·)
def getsCopy (h : SocketView × TargetView) : Bool := (copiedTargets h.1).contains h.2

/-- Hand the values of outputs to their targets: by a copy, or by sharing the variable. -/
def delivery : List Assignment × Variables :=
 (((handovers n).filter getsCopy).map fun h => ⟨vs.of h.2.id, .copied h.1.type (vs.of h.1.id)⟩,
  vs.rename (((handovers n).filter (!getsCopy ·)).map fun h => (h.2.id, vs.of h.1.id)))

def commentLines : Texts := ["", "# Node: " ++ Quoted.literal n.tree ++ " - " ++ Quoted.literal n.name]

/-- Conversions and copies before the code of a node, and the names that hold in it. Outputs that share
a variable with an input go by its name. -/
def preparation : List Assignment × Variables :=
 ((renewed n).map (renewal vs),
  vs.rename ((n.inputs.map fun s => (s.id, preparedName vs s))
   ++ n.passes.map fun p => (p.2.id, preparedName vs p.1)))

/-- The own names in the code of a node, with those that they stand for. -/
def localNames : Pairs :=
 let named (find : String -> Option SocketView) (t : Pairs) :=
  t.filterMap fun (ident, name) => (find ident).map fun s => (name, vs.of s.id)
 ("self", n.identifier) :: named n.input? n.inputVariables ++ named n.output? n.outputVariables

/-- The code of a node in terms of the variables of the script. -/
def globalText : String := Names.renameAll n.code (localNames n vs)

def globalCode : Texts := Letters.lines (globalText n vs)

def presenceLine (vs : Variables) : String :=
 let name := Quoted.literal (vs.of s.id)
 let complaint := Quoted.literal ("Socket output has not been calculated: " ++ Quoted.literal s.shownName)
 "if not (" ++ name ++ " in globals() or " ++ name ++ " in locals()): raise Exception(" ++ complaint ++ ")"

inductive Statement where
 | start (n : NodeView)
 | assign (a : Assignment)
 | run (n : NodeView) (names : Variables)

def Statement.lines : Statement -> Texts
 | .start n => commentLines n ++ if mode = .measured then ["_execution_start_time = getCurrentTime()"] else []
 | .assign a => [a.line]
 | .run n ns => match mode with
  | .plain | .baked => globalCode n ns
  | .monitored =>
   ["try:"] ++ indented 1 (globalCode n ns ++ n.linkedOutputs.map (presenceLine · ns))
    ++ ["    pass", "except Exception as e:", "    animation_nodes.problems.NodeRaisesExceptionDuringExecution("
      ++ Quoted.literal n.identifier ++ ").report()",
     "    raise"]
  | .measured =>
   globalCode n ns
    ++ ["_execution_end_time = getCurrentTime()", "_node_execution_times[" ++ Quoted.literal n.identifier
       ++ "].registerTime(_execution_end_time - _execution_start_time)"]

/-- Run a node and hand its results on. -/
def nodeStatements : List Statement × Variables :=
 let (pre, ns) := preparation n vs
 let (links, vs) := delivery n ns
 (.start n :: pre.map .assign ++ .run n ns :: links.map .assign, vs)

def statements : List NodeView -> Variables -> List Statement × Variables
 | [], vs => ([], vs)
 | n :: rest, vs =>
  let (first, vs) := nodeStatements n vs
  let (more, vs) := statements rest vs
  (first ++ more, vs)

def bodyLines (ns : List NodeView) (vs : Variables) : Texts × Variables :=
 let (steps, vs) := statements ns vs
 (steps.flatMap (Statement.lines mode), vs)

end Code

end AnimationGraph

namespace AnimationGraph.Code

/-- The two scripts of a main network: set up, and run. -/
def mainScripts (mode : CodeMode) (ns : List NodeView) : String × String :=
 let vs := Variables.initial ns
 (joinLines (setupLines ns vs), joinLines (bodyLines mode ns vs).1)

structure GroupView where
 nodes : List NodeView
 input : NodeView
 output : Option NodeView

variable (g : GroupView)

def GroupView.inner : List NodeView :=
 g.nodes.filter fun n => n.kind != "an_GroupInputNode" && n.kind != "an_GroupOutputNode"

/-- The names that hold when a group is called: the outputs of the input node are the parameters. -/
def GroupView.names : Variables :=
 (Variables.initial g.nodes).rename (g.input.outputs.zipIdx.map fun (s, i) => (s.id, "group_input_" ++ toString i))

/-- A script that defines the function of a group, with the lines of its body. -/
def GroupView.defining (ps : List SocketView) (body : Texts) (r : String) :
  String :=
 let header := "def main(" ++ ", ".intercalate (ps.map (g.names.of ·.id)) ++ "):"
 joinLines (setupLines g.nodes (Variables.initial g.nodes)
  ++ ["\n\n", header, "    " ++ globalLine g.nodes g.names] ++ indented 1 body ++ ["\n", "    " ++ r])

def GroupView.script (mode : CodeMode) (g : GroupView) : String :=
 let (links, vs) := delivery g.input g.names
 let (body, vs) := bodyLines mode g.inner vs
 g.defining (g.input.inputs ++ g.input.outputs).dropLast (links.map (·.line) ++ body) <| match g.output with
  | none => "return"
  | some o => "return " ++ ", ".intercalate (o.inputs.dropLast.map (vs.of ·.id))

/-- A value that is handed from round to round. -/
structure ParameterView where
 socket : SocketView
 (asInput asOutput : Bool)

structure GeneratorView where
 node : NodeView
 listType : String
 /-- Whether single elements or lists are added: `append` or `extend`. -/
 operation : String
 condition : SocketId
 element : SocketView

/-- A new value for a parameter of a loop. -/
structure ReassignView where
 node : NodeView
 condition : Option SocketId
 value : SocketView
 parameter : SocketId

structure LoopView where
 nodes : List NodeView
 input : NodeView
 index : SocketId
 iterations : SocketView
 /-- Elements of lists, and whether the list is handed out again. -/
 iterators : List (SocketView × Bool)
 parameters : List ParameterView
 generators : List GeneratorView
 reassigns : List ReassignView
 /-- Inputs of break nodes: the loop goes on while they are true. -/
 breaks : List SocketId
 /-- Identifiers of nodes that show values after the loop. -/
 viewers : Texts
 deriving Inhabited

namespace LoopView

def numbered (text : String) (k : Nat) : Texts := (List.range k).map (text ++ toString ·)

variable (l : LoopView)

def inputParameters : List (String × SocketId) :=
 l.parameters.zipIdx.filterMap fun (p, i) =>
  if p.asInput then some ("loop_parameter_" ++ toString i, p.socket.id) else none

def generatorName (i : Nat) : String := "loop_generator_output_" ++ toString i

def generatorLines : Texts :=
 l.generators.zipIdx.flatMap fun (g, i) =>
  let name := generatorName i
  [name ++ " = AN.sockets.info.getDefaultValue(" ++ Quoted.literal g.listType ++ ")",
  g.operation ++ "_" ++ name ++ " = " ++ name ++ "." ++ g.operation]

variable (vs : Variables) (mode : CodeMode)

def parameterLines : Texts := (l.parameters.filter (!·.asInput)).map (loadLine l.input.identifier ·.socket vs)

def keptExpression (s : SocketView) (name : String) : String :=
 if !s.isLinked && s.type.copy.isSome then (Source.copied s.type name).text else name

/-- The names that hold when the inputs of a reassign node are converted. -/
def reassignNames (r : ReassignView) : Variables :=
 vs.rename ((converted r.node).map fun s => (s.id, preparedName vs s))

/-- A step of a round when its nodes have run. -/
inductive Turn where
 | leave (condition : String)
 | add (g : GeneratorView) (index : Nat) (vs : Variables)
 | reassign (r : ReassignView) (vs : Variables)

def Turn.lines : Turn -> Texts
 | leave cond => ["if not " ++ cond ++ ": break"]
 | add g i vs => commentLines g.node ++
   ["if " ++ vs.of g.condition ++ ":",
   "    " ++ g.operation ++ "_" ++ generatorName i ++ "(" ++ keptExpression g.element (vs.of g.element.id) ++ ")"]
 | reassign r vs =>
  let ns := reassignNames vs r
  let cond := (r.condition.map fun c => "if " ++ ns.of c ++ ": ").getD ""
  commentLines r.node ++ (converted r.node).map (fun s => (renewal vs s).line)
   ++ [cond ++ ns.of r.parameter ++ " = " ++ keptExpression r.value (ns.of r.value.id)]

def reassignTurns : List ReassignView -> Variables -> List Turn
 | [], _ => []
 | r :: rest, vs => .reassign r vs :: reassignTurns rest (reassignNames vs r)

def turns : List Turn :=
 l.breaks.map (fun s => .leave (vs.of s)) ++ l.generators.zipIdx.map (fun (g, i) => .add g i vs)
  ++ reassignTurns l.reassigns vs

def frameKinds : Texts :=
 ["an_LoopInputNode", "an_LoopGeneratorOutputNode", "an_ReassignLoopParameterNode", "an_LoopBreakNode"]

def body : List NodeView := l.nodes.filter (!frameKinds.contains ·.kind)

def roundLines (l : LoopView) (vs : Variables) : Texts × Variables :=
 let (links, vs) := delivery l.input vs
 let (body, vs) := bodyLines mode l.body vs
 (links.map (·.line) ++ body ++ (l.turns vs).flatMap Turn.lines ++ ["pass"], l.reassigns.foldl reassignNames vs)

/-- Names of what a loop returns: lists it ran through, lists it built, and last values. -/
def results : Texts :=
 ((l.iterators.zipIdx.filter (·.1.2)).map fun (_, i) => "loop_iterator_" ++ toString i)
  ++ (List.range l.generators.length).map generatorName
  ++ (l.parameters.filter (·.asOutput)).map (vs.of ·.socket.id)

/-- The head of the rounds, with the names that hold in each of them. -/
def headLines : Texts × Variables :=
 if l.iterators.isEmpty then
  (["for current_loop_index in range(loop_iterations):"], vs.rename [(l.index, "current_loop_index")])
 else
  let ls := ", ".intercalate (numbered "loop_iterator_" l.iterators.length)
  let zipped := if l.iterations.isLinked then
    ["zipped_iterators = list(zip(" ++ ls ++ "))", "loop_iterations = len(zipped_iterators)"]
   else ["zipped_iterators = zip(" ++ ls ++ ")"]
  let ns := numbered "loop_iterator_element_" l.iterators.length
  (zipped ++ ["for current_loop_index, (" ++ ", ".intercalate ns ++ ", ) in enumerate(zipped_iterators):"],
   vs.rename ((l.iterators.zip ns).map (fun (s, name) => (s.1.id, name))
    ++ [(l.index, "current_loop_index"), (l.iterations.id, "loop_iterations")]))

/-- The names that hold when a loop is called. -/
def names : Variables :=
 (Variables.initial l.nodes).rename ((if l.iterators.isEmpty then [(l.iterations.id, "loop_iterations")] else [])
  ++ l.inputParameters.map fun (name, s) => (s, name))

/-- Names of what a loop takes: the number of rounds or the lists that it runs through, and first values. -/
def arguments : Texts :=
 (if l.iterators.isEmpty then ["loop_iterations"] else numbered "loop_iterator_" l.iterators.length)
  ++ l.inputParameters.map (·.1)

/-- A script that defines the function of a loop, with the lines of a round and the names at its end. -/
def defining (round : Texts) (vs : Variables) : String :=
 let header := "def main(" ++ ", ".intercalate l.arguments ++ "):"
 let pre := l.generatorLines ++ l.parameterLines l.names ++ (l.headLines l.names).1
 let shown := l.viewers.flatMap fun v => [v ++ ".updateTextBlock()", v ++ ".clearOutputLines()"]
 joinLines (setupLines l.nodes (Variables.initial l.nodes)
  ++ ["\n\n", header, "    " ++ globalLine l.nodes l.names] ++ indented 1 pre ++ indented 2 round
  ++ indented 1 shown ++ ["    return " ++ ", ".intercalate (l.results vs)])

def script (l : LoopView) : String :=
 let (round, vs) := l.roundLines mode (l.headLines l.names).2
 l.defining round vs

end LoopView

/-- What can be said of the code that a user wrote. -/
inductive Verdict where
 | valid | importsAll
 | invalid (line : Nat)
 deriving DecidableEq

/-- What the lines of a function say.  Lines up to the next end are taken together: how they nest is the business of
the one who wrote them. -/
inductive Block where
 | nothing
 | after (lines : Texts) (rest : Block)
 | handBack (expressions : Texts)
 | guarded (body handler : Block)

def Block.lines : Block -> Texts
 | nothing => []
 | after ls rest => ls ++ rest.lines
 | handBack es => ["return " ++ ", ".intercalate es]
 | guarded body handler => ["try:"] ++ indented 1 body.lines ++ ["except Exception as e:"] ++ indented 1 handler.lines

structure ScriptView where
 node : NodeView
 /-- Names that the user sees as variables. -/
 parameters : Texts
 /-- Names of the results, with expressions for their default values. -/
 results : Pairs
 code : String
 verdict : Verdict
 (initialize? correct? debug? : Bool)

namespace ScriptView

def userCodeStart : String := "# User Code"

/-- The number of the first line that holds a text, counted from one. -/
def lineWith (ls : Texts) (c : String) : Nat :=
 match ls.findIdx? fun line => (Edit.find? c line).isSome with
 | some i => i + 1
 | none => 0

variable (s : ScriptView)

def missingLines : Texts :=
 ["", "# initialize missing outputs", "localVariables = locals()"]
  ++ s.results.zipIdx.flatMap fun ((name, _), i) =>
   ["__socket = " ++ s.node.identifier ++ ".outputs[" ++ toString i ++ "]",
   "__socket['variableInitialized'] = " ++ Quoted.literal name ++ " in localVariables",
   "if not __socket['variableInitialized']:", "    " ++ name ++ " = __socket.getDefaultValue()"]

def correctionLines : Texts :=
 ["", "# correct output types"]
  ++ s.results.zipIdx.flatMap fun ((name, _), i) =>
   ["__socket = " ++ s.node.identifier ++ ".outputs[" ++ toString i ++ "]",
   name ++ ", __socket['correctionType'] = __socket.correctValue(" ++ name ++ ")"]

/-- The code of the user, and what is added behind it. -/
def body : Block :=
 .after (["\n", userCodeStart] ++ splitLines s.code ++ ["\n"]
  ++ (if s.initialize? then s.missingLines else [])
  ++ (if s.correct? then s.correctionLines else [])) (.handBack (s.results.map (·.1)))

/-- The function.  Failures become a message for the user. -/
def main : Block :=
 let defaults := Block.handBack (s.results.map (·.2))
 let message (text : String) := s.node.identifier ++ ".errorMessage = '" ++ text
 match s.verdict with
 | .importsAll => .after [message "Star import is not allowed'"] .nothing
 | .invalid line => .after [message ("Line: " ++ toString line ++ " - Invalid Syntax'")] defaults
 | .valid =>
  if s.debug? then
   .guarded (.after [message "'"] s.body) (.after ["__exceptionType, __exception, __tb = sys.exc_info()",
    "__lineNumber = __tb.tb_lineno - USER_CODE_START_LINE",
    message "Line: \x7b\x7d - \x7b\x7d (\x7b\x7d)'.format(__lineNumber, __exception, type(e).__name__)"] defaults)
  else s.body

def lines : Texts :=
 setupLines [s.node] (Variables.initial [s.node]) ++ ["def main(" ++ ", ".intercalate s.parameters ++ "):"]
  ++ indented 1 s.main.lines

/-- The number of the line in front of the code of the user.  It is found by its mark, behind a line that breaks. -/
def startLine : Nat := lineWith s.lines userCodeStart + 1

def script : String :=
 joinLines (s.lines ++ if s.verdict = .valid then ["USER_CODE_START_LINE = " ++ toString s.startLine] else [])

end ScriptView

end AnimationGraph.Code
