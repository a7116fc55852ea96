import AnimationGraph.Script.Eval

/-! # Keys, and operators that ask for something

Keys on data blocks are read and written, and panels draw them. A list to search in, a file browser or a dialog asks the
user.
-/

namespace AnimationGraph

def propertyPath (prop : String) : String := s!"[\"{prop}\"]"

variable (block : Value)

def propertyOr (prop : String) (d : Value) : Eval := return (<- block.attr? (propertyPath prop)).getD d

structure SimpleKeyType where
 name : String
 initial : Value
 /-- The kernel class for lists of such values; without one it is a plain list. -/
 list : Option String := none

namespace SimpleKeyType

def integer : SimpleKeyType := { name := "Integer", initial := 0, list := some "LongList" }
def float : SimpleKeyType := { name := "Float", initial := 0.0, list := some "DoubleList" }
def text : SimpleKeyType := { name := "Text", initial := "" }

def property (t : SimpleKeyType) (name : Value) : Run String := do
 return IdKey.property ⟨t.name, <- AnimationGraph.text name⟩

variable (t : SimpleKeyType) (block name : Value)

def set (data : Value) : Act := do setItem block (<- t.property name) data
def get : Eval := do propertyOr block (<- t.property name) t.initial
def exists? : Ask := do block.hasAttr (propertyPath (<- t.property name))

def getAll (bs name : Value) : Eval := do
 let vs <- mapList bs (t.get · name)
 let some cls := t.list | pure vs
 kernel s!"{cls}.fromValues" [vs]

end SimpleKeyType

def existsAll (test : Value -> Ask) (bs : Value) : Eval := do
 let found <- (<- iter bs).mapM fun b => return .bool (<- test b)
 kernel "BooleanList.fromValues" [<- list found]

def aimAtKey (button : LayoutId) (type name : Value) : Act := do
 button.set "dataType" type
 button.set "propertyName" name

def drawCopyToAttribute (l name : Value) (label type path : String) : Act := do
 let button <- (<- layoutOf l).operator "an.copy_id_key_to_attribute" [("text", label)]
 aimAtKey button type name
 button.set "attribute" path

def drawKeyButton (l name : Value) (oper field : String) (opts : Fields) : Act := do
 (<- (<- layoutOf l).operator oper opts).set field name

def SimpleKeyType.members (t : SimpleKeyType) : Members Unit := [
 constant "identifier" t.name, constant "default" t.initial,
 act2 "create object name" fun _ b name => t.set b name t.initial,
 act2 "remove object name" fun _ b name => attempt do delItem b (<- t.property name),
 fn2 "exists object name" fun _ b name => t.exists? b name,
 fn2 "existsList objects name" fun _ bs name => existsAll (t.exists? · name) bs,
 act3 "set object name data" fun _ => t.set, fn2 "get object name" fun _ => t.get,
 fn2 "getList objects name" fun _ => t.getAll,
 act3 "drawProperty layout object name" fun _ l b name => do
  (<- layoutOf l).put "prop" [b, propertyPath (<- t.property name)] bare,
 fn1 "getKey name" fun _ name => t.property name,
 fn1 "getPath name" fun _ name => return (propertyPath (<- t.property name))]

def keyDrawing (extras menu : Value -> Value -> Act := fun _ _ => pure ()) : Members Unit := [
 act3 "drawExtras layout object name" fun _ l _ name => extras l name,
 act3 "drawCopyMenu layout object name" fun _ l _ name => menu l name]

def integerKeyKind : RecordKind where
 name := "IntegerDataType"
 statics := SimpleKeyType.integer.members ++ keyDrawing
  (drawKeyButton · · "an.id_keys_from_sorted_objects" "idKeyName" (badge "Sort Objects" "SORTSIZE"))
  (drawCopyToAttribute · · "to Pass Index" "Integer" "pass_index")

def textKeyKind : RecordKind where
 name := "TextDataType"
 statics := SimpleKeyType.text.members ++ keyDrawing
  (drawKeyButton · · "an.id_keys_from_text_body" "name" [("icon", "OUTLINER_DATA_FONT")])
  (drawCopyToAttribute · · "to Text Body" "Text" "data.body")

def transformParts : Fields :=
 [("Location", .tuple [0.0, 0.0, 0.0]), ("Rotation", .tuple [0.0, 0.0, 0.0]), ("Scale", .tuple [1.0, 1.0, 1.0])]

variable (name : Value) (part : String)

def transformProperty (name : Value) : Run String := return s!"AN*Transforms*{part}*{<- text name}"

def transformPart (b name : Value) : Eval := do
 propertyOr b (<- transformProperty part name) ((transformParts.lookup part).getD .none)

def rotationOrder : Eval := do propertyOr block (<- transformProperty "Rotation Order" name) "XYZ"

def setTransform (data : Value) : Act := do
 (transformParts.zip (<- iter data)).forM fun ((part, _), value) => do
  setItem block (<- transformProperty part name) value
 setItem block (<- transformProperty "Rotation Order" name) (<- (<- item data 1) "order")

def transformRotation : Eval := do
 newEuler (<- iter (<- transformPart "Rotation" block name)) (<- text (<- rotationOrder block name))

def getTransform : Eval := do
 let loc <- vector (<- iter (<- transformPart "Location" block name))
 tuple [loc, <- transformRotation block name, <- vector (<- iter (<- transformPart "Scale" block name))]

def hasTransform : Ask := do
 (transformParts.map (·.1) ++ ["Rotation Order"]).allM fun part => do
  block.hasAttr (propertyPath (<- transformProperty part name))

def removeTransform : Act := do
 transformParts.forM fun (part, _) => do
  let prop <- transformProperty part name
  if <- has block prop then delItem block prop
 attempt do delItem block (<- transformProperty "Rotation Order" name)

def transformPartOfAll (bs name : Value) : Eval := do
 let vs <- (<- iter bs).mapM (transformPart part · name)
 kernel "Vector3DList.fromValues" [<- list vs]

def transformKeyKind : RecordKind where
 name := "TransformDataType"
 statics := [constant "identifier" "Transforms",
  act2 "create object name" fun _ b name => do
   setTransform b name (.tuple [.tuple [0.0, 0.0, 0.0], (<- newEuler [0.0, 0.0, 0.0]), .tuple [1.0, 1.0, 1.0]]),
  act2 "remove object name" fun _ => removeTransform,
  fn2 "exists object name" fun _ b name => hasTransform b name,
  fn2 "existsList objects name" fun _ bs name => existsAll (hasTransform · name) bs,
  act3 "set object name data" fun _ => setTransform, fn2 "get object name" fun _ => getTransform,
  fn2 "getList objects name" fun _ bs name => mapList bs (getTransform · name),
  fn2 "getLocation object name" fun _ _ _ => fail .name,
  fn2 "getRotation object name" fun _ _ _ => fail .name,
  fn2 "getScale object name" fun _ _ _ => fail .name,
  fn2 "getLocations objects name" fun _ => transformPartOfAll "Location",
  fn2 "getScales objects name" fun _ => transformPartOfAll "Scale",
  fn2 "getRotations objects name" fun _ bs name => do
   let rots <- kernel "EulerList" [] [("capacity", <- length bs)]
   for b in <- iter bs do rots.tell "append" [<- transformRotation b name]
   pure rots,
  fn2 "getRotationOrder object name" fun _ => rotationOrder,
  fn1 "iterSubpropertyKeys name" fun _ name => do
   list (<- transformParts.mapM fun (part, _) => transformProperty part name),
  fn1 "iterSubpropertyPaths name" fun _ name => do
   list (<- transformParts.mapM fun (part, _) => return (propertyPath (<- transformProperty part name))),
  fn1 "getRotationOrderKey name" fun _ name => transformProperty "Rotation Order" name,
  fn1 "getRotationOrderPath name" fun _ name => return propertyPath (<- transformProperty "Rotation Order" name),
  act3 "drawProperty layout object name" fun _ l b name => do
   let row <- (<- layoutOf l).row
   for (part, _) in transformParts do
    let col <- row.stack
    if part == "Rotation" then col.write s!"{part} ({(<- text (<- rotationOrder b name))})"
    else col.write part
    col.put "prop" [b, propertyPath (<- transformProperty part name)] bare] ++ keyDrawing
  (drawKeyButton · · "an.id_key_from_current_transforms" "name" [("icon", "PIVOT_ACTIVE")])
  (drawKeyButton · · "an.id_key_to_current_transforms" "name" "to Transforms")

def abstractKeyKind : RecordKind where
 name := "IDKeyDataType"
 statics := [
  unanswered "create object name", unanswered "remove object name", unanswered "exists object name",
  unanswered "set object name data", unanswered "get object name",
  fn2 "existsList objects name" fun _ bs _ => existsAll (fun _ => fail .notImplemented) bs,
  fn2 "getList objects name" fun _ bs _ => mapList bs fun _ => fail .notImplemented,
  act3 "drawProperty layout object name" fun _ _ _ _ => pure ()] ++ keyDrawing

def keyKinds : List (String × RecordKind) :=
 [("Text", textKeyKind), ("Float", { name := "FloatDataType", statics := SimpleKeyType.float.members ++ keyDrawing }), ("Integer", integerKeyKind), ("Transforms", transformKeyKind)]

def keyType : Eval := do
 let .str s := name | fail .key
 return .kind (<- need .key (keyKinds.lookup s)).name

def IdKey.toValue (key : IdKey) : Value := .tuple [key.type, key.name]

def keysOnObjects : Run (List IdKey) := do
 let os <- iter (<- blocks "objects")
 return (<- os.mapM fun o => return (<- customProperties o).map (·.1)).flatten.filterMap IdKey.ofProperty?

def keysOfNodes : Run (List IdKey) := do
 let ns <- iter (<- nodesByKind "an_ObjectIDKeyNode")
 let keys <- ns.mapM fun node => return (⟨<- textAt node "keyDataType", <- textAt node "keyName"⟩ : IdKey)
 return keys.filter (!·.name.isEmpty)

def refreshKeys : Act := do
 let objects <- keysOnObjects
 let ofNodes <- keysOfNodes
 change fun w => { w with keys := w.keys.refresh objects ofNodes }

def onKey (m : String) (more : String := "") : Feature CellId := method s!"{m} dataType propertyName{more}" fun r b => do
 (<- keyType (b 0)).call m ((<- r "id_data") :: b.toList.tail)

def drawsKey (m : String) : Feature CellId := act3 s!"{m} layout dataType propertyName" fun r l type name => do
 (<- keyType type).tell m [l, <- r "id_data", name]

def blockKeysKind : RecordKind where
 name := "IDKeyProperties"
 members := [
 onKey "get", onKey "set" " data", onKey "exists", onKey "remove", drawsKey "drawProperty", drawsKey "drawExtras",
 act2 "create dataType propertyName" fun r type name => do
  if let some fault := IdKey.nameFault? (<- textArg name) then throw { cause := .value, message := some fault }
  (<- keyType type).tell "create" [<- r "id_data", name]]

def codeTextName : String := "Execution Code"

def codeEditorCallback : Run String := do
 let state <- look (·.random)
 change ({ · with random := 1 })
 let name <- randomLetters 10
 change ({ · with random := state })
 pure name

def openCodeEditor (area : Value) : Act := do
 area.set "type" "TEXT_EDITOR"
 let texts <- (Value.space "bpy.data") "texts"
 (<- area.at "spaces.active").set "text" (<- texts.call "get" [codeTextName])

def nodeOfKey (key : Value) : Eval := do
 let tree <- item (<- (Value.space "bpy.data") "node_groups") (<- item key 0)
 item (<- tree "nodes") (<- item key 1)

def socketOfKey (key : Value) : Eval := do
 let node <- nodeOfKey (<- item key 0)
 let id <- item key 2
 let ss <- node.attr (if <- truthy (<- item key 1) then "outputs" else "inputs")
 return (<- (<- iter ss).findM? (fits · "identifier" id)).getD .none

def callAtKey (find : Value -> Eval) (key m : Value) (args : Values) (named : Fields) : Act := do
 let t <- tryCatch (find key) fun _ => pure .none
 unless t.isNone do discard <| t.call (<- textArg m) args named

def runCallback (callback : Value) (args : Values) (named : Fields := []) : Act := do
 let name <- textArg callback
 if name.isEmpty then return
 if name.startsWith "#" then
  let (kind, ps) <- unpack2 (<- Script.valueOfExpression (name.drop 1).toString [])
  match kind, <- iter ps with
  | .str "executeNodeCallback", [key, m] => callAtKey nodeOfKey key m args named
  | .str "executeSocketCallback", [key, m] => callAtKey socketOfKey key m args named
  | kind, ps =>
   if kind.is "executeNodeCallback" || kind.is "executeSocketCallback" then fail .type
   let keywords <- newDict (named.map fun (k, v) => (k, v))
   discard <| (<- item (<- table "callbacks") kind).apply (ps ++ [.tuple args, keywords])
 else if name == (<- codeEditorCallback) then
  match args, named with
  | [area], [] => openCodeEditor area
  | _, _ => fail .type
 else discard <| (<- item (<- table "callbacks") callback).apply args named

def takeCallback (args : Args) : Eval := do
 match args.pos with
 | callback :: rest =>
  runCallback callback rest args.named
  pure .none
 | [] => fail .type

def control (id name label : String) (poll : Option (Value -> Eval)) (props : List (Property CellId))
  (members : Members CellId) : RecordKind where
 name
 statics := constant "bl_idname" id :: constant "bl_label" label
  :: (poll.map fun f => fn1 "poll context" fun _ ctx => f ctx).toList
 props
 members := constant "bl_idname" id :: constant "bl_label" label :: ("an_executeCallback", .free fun _ args => do
  unless <- hostIsExtended do fail .attr
  takeCallback args) :: members

def idOfLabel (label : String) : String := "an." ++ label.toLower.replace " " "_"

/-- A control with the id and the name that its label gives. -/
def titled (label : String) : Option (Value -> Eval) -> List (Property CellId) -> Members CellId -> RecordKind :=
 control (idOfLabel label) (camelCase label) label

def RecordKind.controlId? (k : RecordKind) : Option String :=
 match k.members.lookup? "bl_idname" with
 | some (.constant (.str id)) => some id
 | _ => none

def surface (c : CellId) : Run LayoutId := do layoutOf (<- c "layout")
def executing (body : CellId -> Value -> Eval) : Feature CellId := fn1 "execute context" body

def finishing (body : CellId -> Value -> Act) : Feature CellId :=
 executing fun c ctx => do
  body c ctx
  finished

def invoking (body : CellId -> Value -> Value -> Eval) : Feature CellId := fn2 "invoke context event" body
def drawn (body : CellId -> LayoutId -> Act) : Feature CellId := act1 "draw context" fun c _ => do body c (<- surface c)
def checking : Feature CellId := fn1 "check context" fun _ _ => pure true
def editedTree : Eval := do here "space_data.edit_tree"

variable (ctx : Value) (c : CellId) (i : SearchItem)

def inTree : Eval := tryCatch (return (<- ctx.at "space_data.node_tree.bl_idname").is treeKind) fun _ => pure false

def editingTree : Ask := do
 match <- editedTree with
 | .none => pure false
 | tree => return (<- tree "bl_idname").is treeKind

def withActiveNode : Eval := do
 match <- ctx.call "getActiveAnimationNodeTree" with
 | .none => pure false
 | tree => return !(<- tree.at "nodes.active").isNone

def onActiveNode : Eval := do
 let some n <- ctx.attr? "active_node" | pure false
 n.attrD "isAnimationNode" false

def onNode : Eval := tryCatch (ctx.at "active_node.isAnimationNode") fun _ => pure false
def activeNodeOrNone : Eval := do (<- context).attrD "active_node" .none

def answerCallback (args : Values) : Act := do
 unless <- hostIsExtended do fail .attr
 runCallback (<- c "callback") args

def windowManager (ctx : Value) : Eval := ctx "window_manager"

def searching : Feature CellId :=
 invoking fun c ctx _ => do
  (<- windowManager ctx).tell "invoke_search_popup" [c]
  cancelled

def openDialog (ctx w : Value) : Eval := do
 (<- windowManager ctx).call "invoke_props_dialog" [c] [("width", <- toInt (<- mul w (<- dpiFactor)))]

def enumerated (ns : Texts) : Evals := do
 if ns.isEmpty then return [.tuple ["NONE", "NONE", ""]]
 ns.mapM fun name => return .tuple [.str name, .str name, "", "NONE", <- kernel "strToEnumItemID" [.str name]]

def firstIdentifier : Values -> Eval
 | i :: _ => item i 0
 | [] => pure .none

def dataTypeItems (g : Value) : Run (Option Values) := do
 let groups := [("ALL", socketTypes.names.filter (· != "Node Control")), ("LIST", socketTypes.listNames),
  ("DRAWABLE", socketTypes.drawnNames)]
 (groups.lookup g.word).mapM enumerated

def keyItems : Evals := do
 (<- get).keys.inFile.mapM fun key => do
  tuple [Quoted.bytesLiteral s!"{key.type} * {key.name}".toUTF8.toList, key.name, ""]

structure SearchItem where
 (kind tag : String)
 settings : Pairs := []

def SearchItem.identifier : String := "single node - " ++ i.tag

def SearchItem.insert : Act := do
 let node <- addNodeAtCursor i.kind
 for (path, code) in i.settings do setPath node path (<- Script.valueOfExpression code [])
 dragSelected

def renamedBlock : Eval := do
 let path <- textAt c "path"
 let name <- literal (<- c "oldName")
 tryCatch (Script.valueOfExpression s!"{path}[{name}]" [("bpy", .space "bpy")]) fun _ => pure .none

def dialogNode : Run NodeId := do nodeIdentifiedBy (<- textAt c "nodeIdentifier")
def dialogNode? : Run (Option NodeId) := tryCatch (return some (<- dialogNode c)) fun _ => pure none

def choosers : List RecordKind :=
 [control "an.choose_id_key" "IDKeySearch" "ID Key Search" none
  [openChoice "item" fun _ => do firstIdentifier (<- keyItems), words "callback"]
  [fn1 "getSearchItems context" fun _ _ => do list (<- keyItems),
  invoking fun c ctx _ => do
   hostOperator "an.update_id_keys_list"
   (<- windowManager ctx).tell "invoke_search_popup" [c]
   cancelled,
  executing fun c _ => do
   let chosen <- textOfBytes (<- textArg (<- c "item"))
   if chosen == "NONE" then return <- cancelled
   let [type, name] := chosen.splitOn " * " | fail .value
   answerCallback c [type, name]
   finished],
 titled "Choose Path" none [words "filepath", words "callback"]
  [invoking fun c ctx _ => do
   (<- windowManager ctx).tell "fileselect_add" [c]
   runningModal,
  finishing fun c _ => do answerCallback c [<- c "filepath"]],
 titled "Choose Socket Type" none
  [openChoice "selectedDataType" fun c => do firstIdentifier ((<- dataTypeItems (<- c "socketGroup")).getD []),
  choice "socketGroup" "ALL", words "callback"]
  [fn1 "getItems context" fun c _ => do
   match <- dataTypeItems (<- c "socketGroup") with
   | some xs => list xs
   | none => pure .none,
  searching,
  finishing fun c _ => do answerCallback c [<- c "selectedDataType"]],
 titled "Node Search" (some inTree)
  [openChoice "item" fun _ => do firstIdentifier (<- iter (<- (Value.operation "listSearchItems" []).apply))]
  [fn1 "getSearchItems context" fun _ _ => (Value.operation "listSearchItems" []).apply,
  searching,
  finishing fun c _ => do discard <| (Value.operation "insertSearchItem" [<- c "item"]).apply],
 control "an.rename_datablock_popup" "RenameDatablockPopupOperator" "Rename Datablock" none
  [words "oldName", words "newName", words "icon" "NONE", words "path" "bpy.data.objects"]
  [invoking fun c ctx _ => do
   c.set "newName" (<- c "oldName")
   openDialog c ctx 200, checking,
  drawn fun c l => do
   if (<- renamedBlock c).isNone then l.sign "The datablock does not exist." "INFO"
   else l.prop c "newName" (badge "" (<- c "icon")),
  finishing fun c _ => do
   let b <- renamedBlock c
   unless b.isNone do b.set "name" (<- c "newName"),
  fn0 "getDatablock" renamedBlock],
 titled "Node Popup" none
  [words "nodeIdentifier", whole "width" 250, words "drawFunctionName", words "executeFunctionName"]
  [invoking fun c ctx _ => do openDialog c ctx (<- c "width"),
  drawn fun c l => do
   let node <- tryCatch (dialogNode c) fun _ => do
    l.sign "Node not found" "INFO"
    fail (.host "UnboundLocalError")
   node.tell (<- textAt c "drawFunctionName") [l],
  checking,
  executing fun c _ => do
   let m <- textAt c "executeFunctionName"
   unless m.isEmpty do
    let some node <- dialogNode? c | return <- cancelled
    node.tell m
   finished]]

end AnimationGraph
