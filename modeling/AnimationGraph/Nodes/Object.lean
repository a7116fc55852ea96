import AnimationGraph.Data.Motion
import AnimationGraph.Control.Choosers

/-! # Nodes for objects

Objects of a scene: read, changed, copied and found.
-/

namespace AnimationGraph

def indexLists (kind : String) (xs : List (List Nat)) : Value :=
 .kernel s!"{kind}IndicesList.fromValues" [.tuple (xs.map fun x => .tuple (x.map fun (i : Nat) => i))] []

def boxEdges : Value := indexLists "Edge" [[0, 1], [1, 2], [2, 3], [0, 3], [4, 5], [5, 6], [6, 7], [4, 7], [0, 4], [1, 5],
 [2, 6], [3, 7]]

def boxFaces : Value := indexLists "Polygon" [[0, 1, 2, 3], [7, 6, 5, 4], [0, 3, 7, 4], [4, 5, 1, 0], [5, 6, 2, 1],
 [6, 7, 3, 2]]

/-- One way to show or hide an object: the label and identifier of its socket. -/
structure VisibilityProperty where
 label : String
 identifier : String := SocketNames.identifier label

namespace VisibilityProperty

variable (p : VisibilityProperty)

def property : String := (Letters.lowered p.label).replace " " "_"
def list : String := "use" ++ camelCase p.label ++ "List"

end VisibilityProperty

def visibilityProperties : List VisibilityProperty := { label := "Hide Viewport", identifier := "hide" } ::
 ["Hide Render", "Hide Select", "Show Name", "Show Axis", "Show In Front"].map ({ label := · })

def linkedObjectGroup : RecordKind where
 name := "ObjectPropertyGroup"
 props := [block "object"]

def sweepLinks {α : Type} : List (Option α) -> List α × List (Option α)
 | [] => ([], [])
 | some o :: rest =>
  let (found, kept) := sweepLinks rest
  (o :: found, some o :: kept)
 | [none] => ([], [])
 | none :: next :: rest =>
  let (found, kept) := sweepLinks rest
  (found, next :: kept)

def droppedLinks {α : Type} (pos : Nat) : List (Option α) -> List Nat
 | [] => []
 | some _ :: rest => droppedLinks (pos + 1) rest
 | [none] => [pos]
 | none :: _ :: rest => pos :: droppedLinks (pos + 1) rest

variable (n : NodeId)

def fromOneToAnother : Act := do
 n.takesMany "Object" ["useFromList", "useToList"] ("From", "fromObject") ("From", "fromObjects")
 n.takesSome "Object" ("To", "toObject") ("To", "toObjects") [] false
 n.givesSome "Object" ("To", "outObject") ("To", "outObjects")

def NodeId.attributeOf (src : String) : Run String := do
 return (if <- truthy (<- n.use "attribute.startswith" ["["]) then src else src ++ ".") ++ (<- n.textOf "attribute")

def NodeId.startAnewUnless (last : String) (src : Value) : Act := do
 let known <- table last
 let key <- n "identifier"
 if <- has known key then if <- notEqual (<- item known key) src then n.tell "removeAllObjects"
 setItem known key src

def linkToAll (o cs : Value) (os : Value -> Eval) : Act := do
 for box in <- iter cs do if box.isSome then (<- os box).tell "link" [o]

def resets : NodeId -> Act := calling "resetInstancesEvent"

def outputTransforms : List (String × String × String × String) := [
 ("useLocation", "EXPORT", "location", "locationPath"), ("useRotation", "FILE_REFRESH", "rotation", "rotationPath"),
 ("useScale", "FULLSCREEN_ENTER", "scale", "scalePath")]

def deltaPath (name path : String) : Feature :=
 prop name fun n => return if <- n.is "deltaTransforms" then "delta_" ++ path else path

def objectNodes : List NodeKind := [
.of "Armature Info" [choice "state" "POSE" rebuilds] (do
 takes "Object" "Armature" [unnamed]
 bool "Use World Space" [val true]
 gives "Matrix List" "Matrices"
 givesEach "Vector List" ["Centers", "Directions"]
 gives "Float List" "Lengths"
 givesEach "Vector List" ["Heads", "Tails"] [hide]
 gives "Text List" "Names" [hide]) [
 shows "state",
 writes fun n req => ifWanted req do
  let both <- ["directions", "lengths", "centers"].anyM fun out => has req (.str out)
  let ms <- has req "matrices"
  let heads := (<- has req "heads") || both
  let tails := (<- has req "tails") || both
  let (bones, matrixName) := if (<- n "state").is "REST" then ("data", "matrix_local") else ("pose", "matrix")
  emits #["evaluatedArmature = AN.utils.depsgraph.getEvaluatedID(armature)",
   "if getattr(evaluatedArmature, 'type', '') == 'ARMATURE':",
   s!"    bones = evaluatedArmature.{bones}.bones"]
  let load (name type prop : String) : Writing Unit :=
   emits #[s!"    {name} = {type}List(length = len(bones))",
    s!"    bones.foreach_get('{prop}', {name}.asMemoryView())"]
  if ms then
   load "matrices" "Matrix4x4" matrixName
   emit "    matrices.transpose()"
  if heads then load "heads" "Vector3D" "head"
  if tails then load "tails" "Vector3D" "tail"
  emits #["    if useWorldSpace:", "        worldMatrix = evaluatedArmature.matrix_world"]
  for (used, name) in [(ms, "matrices"), (heads, "heads"), (tails, "tails")] do
   if used then emit s!"        {name}.transform(worldMatrix)"
  emitWanted req [("directions", "self.calcDirections(heads, tails)"),
   ("lengths", "self.calcLengths(heads, tails)"), ("centers", "self.calcCenters(heads, tails)"),
   ("names", "[bone.name for bone in bones]")] "    "
  emits #["else:", "    matrices = Matrix4x4List()", "    centers = Vector3DList()",
   "    directions = Vector3DList()", "    lengths = DoubleList()", "    heads = Vector3DList()",
   "    tails = Vector3DList()", "    names = []"],
 fn2 "calcDirections heads tails" fun _ heads tails => kernel "operationByName[Subtract].execute_vA_vB" [tails, heads],
 delegates "calcLengths heads tails" "calculateVectorDistances",
 delegates "calcCenters heads tails" "calculateVectorCenters"],
.of "Collection Info" [] (do
 takes "Collection" "Collection" [unnamed]
 givesEach "Object List" ["Objects", "All Objects"]
 gives "Collection List" "Children") [
 fn1 "execute collection" fun _ col => do
  let ls <- ["objects", "all_objects", "children"].mapM fun name => do list (<- iter (<- col.attrD name (<- list [])))
  tuple ls],
.lifted "Collection Operations" [flag "useObjectList"] (do
 takes "Collection" "Collection" [unnamed]
 takesSome "Object" (named "Object" [unnamed]) (named "Objects" [unnamed])
 bool "Linked"
 gives "Collection") [
 runs "collection = self.executeSingleObject(collection, object, linked)",
 fn3 "executeSingleObject collection object linked" fun _ col o linked => do
  if col.isNone then return col
  if o.isNone then return col
  if <- has (<- col "objects") (<- o "name") then unless <- truthy linked do col.bid "objects.unlink" [o]
  else if <- truthy linked then col.bid "objects.link" [o]
  pure col],
.lifted "Copy Object Data" (flag "deepCopy" false reruns :: listFlags ["From", "To"]) fromOneToAnother [
 shows "deepCopy",
 runs "outObject = self.copyObjectData(fromObject, toObject)",
 fn2 "copyObjectData fromObject toObject" fun n src obj => do
  if src.isNone || obj.isNone then return obj
  let deep <- n.is "deepCopy"
  if <- (pure !deep) <&&> (do fits obj "data" (<- src "data")) then return obj
  if <- fits obj "type" (<- src "type") then
   let oldData <- obj "data"
   if deep then
    obj.set "data" (<- src.use "data.copy")
    (<- obj.at "data.an_data").set "removeOnZeroUsers" true
   else obj.set "data" (<- src "data")
   if <- (fits oldData "users" 0) <&&> (do truthy (<- oldData.at "an_data.removeOnZeroUsers")) then
    removeUnusedBlock oldData (<- textAt obj "type")
  pure obj],
.lifted "Copy Object Modifiers" (listFlags ["From", "To"]) fromOneToAnother [
 runs "outObject = self.copyObjectModifiers(fromObject, toObject)",
 fn2 "copyObjectModifiers fromObject toObject" fun _ src obj => do
  if src.isNone || obj.isNone then return obj
  let mods <- obj "modifiers"
  mods.tell "clear"
  for md in <- each src "modifiers" do
   let new <- mods.call "new" (<- md.attrs ["name", "type"])
   for prop in <- iter (<- md.at "bl_rna.properties") do
    unless <- holds prop "is_readonly" do
     let name <- textAt prop "identifier"
     new.set name (<- md.attr name)
  pure obj],
.of "Evaluate Object" [flag "useObjectList"] (do
 takesObjects
 givesSome "Object") [runsLines #["AN.utils.depsgraph.getActiveDepsgraph().update()"]],
.of "Lamp Input" [flag "useObjectList"] (do
 takesObjects
 givesMany "Color" ["useObjectList"]
 givesMany "Float" ["useObjectList"] "Energy" "Energies") [
 runsBy (.ifSet "useObjectList" "execute_List" "execute_Single"),
 fn1 "execute_Single object" fun _ o => do
  if <- (pure o.isNone) <||> (do notEqual (<- o "type") "LIGHT") then
   return .tuple [<- rgba [0, 0, 0, 0], 0]
  let c <- o.at "data.color"
  tuple [<- rgba [<- item c 0, <- item c 1, <- item c 2, 0], <- o.at "data.energy"],
 fn1 "execute_List objects" fun n os => do
  let k <- length os
  let colors <- sized "ColorList" k
  let energies <- sized "DoubleList" k
  for (o, i) in (<- iter os).zipIdx do
   let (c, energy) <- unpack2 (<- n.call "execute_Single" [o])
   setItem colors i c
   setItem energies i energy
  tuple [colors, energies]],
.lifted "Lamp Output" (listFlags ["Object", "Color", "Float"]) (do
 takesObjects [] false
 takesSome "Color"
 takesMany "Float" ["useFloatList"] "Energy" "Energies"
 givesSome "Object" (named "Object" [unnamed])
 switchable) [
 writes fun n _ => do
  let ls := [(1, "        object.data.color = color[:3]"), (2, "        object.data.energy = energy")]
  let used <- ls.filterM fun (i, _) => n.usesInputAt i
  unless used.isEmpty do emit "if object is not None and object.type == 'LIGHT':"
  for (_, line) in used do emit line],
.telling <| .of "Object Attribute Input" [words "attribute" "" rebuilds,
 flag "evaluateObject" true rebuilds] (do
 takesObject
 gives "Generic" "Value") [
 shows "attribute" bare,
 drawsMore fun n l => do
  l.prop n "evaluateObject"
  n.button l "createAutoExecutionTrigger" { text := "Create Execution Trigger" },
 writes fun n _ => do
  let line <- n.textOf "evaluationExpression"
  unless <- isValidCode line do
   emits #["self.setErrorMessage('Invalid Syntax', show = len(self.attribute.strip()) > 0)", "value = None"]
   return
  emit "try:"
  if <- n.is "evaluateObject" then emit "    evaluatedObject = AN.utils.depsgraph.getEvaluatedID(object)"
  emits #["    " ++ line, "except:", "    if object: self.setErrorMessage('Attribute not found')",
   "    value = None"],
 prop "evaluationExpression" fun n => do
  return "value = " ++ (<- n.attributeOf (<- text (<- n.call "getAttributeSource"))),
 fn0 "getAttributeSource" fun n => return if <- n.is "evaluateObject" then "evaluatedObject" else "object",
 act0 "createAutoExecutionTrigger" fun n => do n.watch (<- n "attribute")],
.telling <| .of "Object Attribute Output" [words "attribute" "" rebuilds, flag "useObjectList", toggle "useValueList"]
  (fun n => do
 n.takesObjects
 if (<- n.is "useValueList") && (<- n.is "useObjectList") then n.takes "Generic List" "Values"
 else n.takes "Generic" "Value"
 n.givesSome "Object" (named "Object" [unnamed])
 (<- n.input 1).configure (optional true)) [
 drawsColumn fun n col => do
  col.prop n "attribute" bare
  if <- n.is "useObjectList" then col.prop n "useValueList" "Multiple Values",
 writes fun n _ => do
  let line <- n.textOf "evaluationExpression"
  unless <- isValidCode line do
   emit "self.setErrorMessage('Invalid Syntax', show = len(self.attribute.strip()) > 0)"
   return
  unless <- n.usesInputAt 1 do return
  emit "try:"
  if <- n.is "useObjectList" then
   if <- n.is "useValueList" then
    emits #["    _values = [None] if len(values) == 0 else values", "    _values = itertools.cycle(_values)",
     "    for object, value in zip(objects, _values):"]
   else emit "    for object in objects:"
   emit s!"        {line}"
  else emit s!"    {line}"
  for (problem, text) in [("AttributeError", "Attribute not found"), ("KeyError", "Key not found"),
    ("IndexError", "Index not found"), ("(ValueError, TypeError)", "Value has a wrong type")] do
   emits #[s!"except {problem}:", s!"    if object: self.setErrorMessage('{text}')"]
  emits #["except:", "    if object:", "        self.setErrorMessage('Unknown error')"],
 prop "evaluationExpression" fun n => return (<- n.attributeOf "object") ++ " = value",
 writes0 "getBakeCode" fun n => do
  unless <- isValidCode (<- n.textOf "attribute") do return
  if <- n.is "useObjectList" then emits #["for object in objects:", "    if object is None: continue"]
  else emit "if object is not None:"
  emits #["    try: object.keyframe_insert(" ++ (<- literal (<- n "attribute")) ++ ")", "    except: pass"]],
.of "Object Bounding Box" [flag "useWorldSpace" true reruns] (do
 takesObject
 gives "Vector List" "Vertices"
 gives "Edge Indices List" "Edges"
 gives "Polygon Indices List" "Polygons"
 gives "Vector" "Center") [
 showsMore "useWorldSpace",
 fn1 "execute object" fun n o => do
  if o.isNone then
   let empty <- ["Vector3DList", "EdgeIndicesList", "PolygonIndicesList"].mapM (kernel · [])
   return .tuple (empty ++ [<- vector [0, 0, 0]])
  let object <- evaluated o
  let vs <- kernel "Vector3DList.fromValues" [<- object "bound_box"]
  if <- n.is "useWorldSpace" then vs.tell "transform" [<- object "matrix_world"]
  let center <- div (<- add (<- item vs 0) (<- item vs 6)) 2
  tuple [vs, <- boxEdges.call "copy", <- boxFaces.call "copy", center]],
.lifted "Object Color Output" (listFlags ["Object", "Color"]) (do
 takesObjects [] false
 takesSome "Color"
 givesSome "Object" (named "Object" [unnamed])) [runs "if object is not None: object.color = color"],
.telling <| .of "Object Data Path Output" [] (do
 takesObject
 str "Path"
 int "Array Index" [val (-1)]
 takes "Generic" "Value"
 gives "Object") [
 drawsMore fun n l => n.button l "clearCache" { text := "Clear Cache" },
 fn4 "execute object path arrayIndex value" fun n o path k v => do
  if o.isNone then return o
  let setter <- setterFor o path
  if setter.isNone then
   n.showError "Cannot set attribute"
   return o
  try discard <| setter.apply [o, k, v]
  catch _ => n.showError "Error"
  pure o,
 fn2 "getPropertyPath object path" fun _ o path => do
  unless <- has path "." do return .tuple [o, path]
  let (owner, name) <- unpack2 (<- path.call "rsplit" [".", 1])
  tuple [<- (try o.call "path_resolve" [owner] catch _ => return o), name],
 code0 "getBakeCode" fun _ => do
  return #["if object is not None:",
   "    try: object.keyframe_insert(path, index = arrayIndex)", "    except:",
   "        dataPath, propName = self.getPropertyPath(object, path)",
   "        try: dataPath.keyframe_insert(propName, index = arrayIndex)", "        except: pass"],
 act0 "clearCache" fun _ => do (<- table "setters").tell "clear"],
.found [("Object Initial Transforms", [("keyDataType", "'Transforms'"), ("keyName", "'Initial Transforms'")])] <|
 .of "Object ID Key"
  [choice "keyDataType" "Transforms" (calling "keyChanged"), words "keyName" "" (calling "keyChanged"),
  flag "useList"] (fun n => do
 n.takesAny "Object" (named "Object" [unnamed])
 if (<- n "keyName").is "" then return
 match <- n.word "keyDataType" with
 | "Transforms" =>
  n.givesAny "Vector" "Location"
  n.givesAny "Euler" "Rotation"
  n.givesAny "Vector" "Scale"
  n.givesAny "Matrix" "Matrix" "Matrices"
 | "Text" => n.givesAny "Text"
 | "Integer" => n.givesAny "Integer" "Number"
 | "Float" => n.givesAny "Float" "Number"
 | _ => pure ()
 n.givesAny "Boolean" (named "Exists" [hide]) (named "Exists" [hide])) [
 act1 "keyChanged context" fun n _ => do
  refreshKeys
  n.refresh,
 drawsMore fun n l => do
  let col <- l.column
  col.prop n "keyDataType" "Type"
  col.prop n "keyName" "Name",
 drawsColumn fun n col => do
  col.set "scale_y" 1.5
  let name <- n "keyName"
  let c <- if name.is "" then pure "Choose ID Key" else literal name
  n.selector col "ID_KEY" "assignIDKey" { text := c, icon := "VIEWZOOM" },
 act2 "assignIDKey dataType name" fun n ty name => do
  n.set "keyDataType" ty
  n.set "keyName" name,
 writes fun n req => do
  if (<- isEmpty req) || (<- n "keyName").is "" then return
  let keyName <- literal (<- n "keyName")
  emit ("_key = AN.id_keys.IDKeyTypes[" ++ (<- literal (<- n "keyDataType")) ++ "]")
  let m := if <- n.is "useList" then "getExecutionCode_List" else "getExecutionCode_Base"
  emits (<- linesOf (<- n.call m [keyName, req])),
 writes2 "getExecutionCode_Base keyName required" fun n keyName req => do
  let keyName <- text keyName
  if <- has req "exists" then emit s!"exists = _key.exists(object, {keyName})"
  emit s!"data = _key.get(object, {keyName})"
  match <- n.word "keyDataType" with
  | "Transforms" =>
   emit "location, rotation, scale = data"
   emitWanted req [("matrix", "AN.utils.math.composeMatrix(location, rotation, scale)")]
  | "Text" => emit "text = data"
  | "Integer" | "Float" => emit "number = data"
  | _ => pure (),
 writes2 "getExecutionCode_List keyName required" fun n keyName req => do
  let keyName <- text keyName
  let read (reader : String) := s!"_key.{reader}(objects, {keyName})"
  emitWanted req [("exists", read "existsList")]
  match <- n.word "keyDataType" with
  | "Transforms" =>
   let ms <- has req "matrices"
   for (out, reader) in
     [("locations", "getLocations"), ("rotations", "getRotations"), ("scales", "getScales")] do
    if (<- has req out) || ms then emit (out ++ " = " ++ read reader)
   if ms then emit "matrices = AN.math.composeMatrixList(locations, rotations, scales)"
  | "Text" => emitWanted req [("texts", read "getList")]
  | "Integer" | "Float" => emitWanted req [("numbers", read "getList")]
  | _ => pure (),
 fn1 "getList_Exists objects" fun n os => do
  mapList os fun o => do kernel "doesIDKeyExist" [o, <- n "keyDataType", <- n "keyName"],
 act0 "delete" fun n => do
  n.set "keyName" ""
  hostOperator "an.update_id_keys_list"],
{ NodeKind.of "Object Instancer" [groupsOf "linkedObjects" "ObjectPropertyGroup", flag "resetInstances" false reruns,
  flag "copyFromSource" true (calling "copyFromSourceChanged"),
  flag "deepCopy" false resets, choice "objectType" "MESH" resets, flag "copyObjectProperties" false resets,
  flag "removeAnimationData" true resets,
  choice "containerType" "MAIN_CONTAINER" (calling "resetInstancesEventAndRefresh"),
  choice "emptyDisplayType" "PLAIN_AXES" resets] (do
   int ("Instances", "instancesAmount") [atLeast 0]
   if <- is "copyFromSource" then takes "Object" ("Source", "sourceObject") [unnamed, ("showHideToggle", true)]
   match <- word "containerType" with
   | "SCENES" | "MAIN_CONTAINER" => takes "Scene List" "Scenes" [hide]
   | "COLLECTIONS" => takes "Collection List" "Collections" [hide]
   | _ => pure ()
   gives "an_ObjectListSocket" "Objects") [
  act1 "copyFromSourceChanged context" fun n ctx => do
   n.refresh
   n.tell "resetInstancesEvent" [ctx],
  act1 "resetInstancesEvent context" fun n _ => do
   n.set "resetInstances" true
   valueChanged,
  act1 "resetInstancesEventAndRefresh context" fun n ctx => do
   n.tell "resetInstancesEvent" [ctx]
   n.refresh,
  draws fun n l => do
   l.prop n "copyFromSource"
   if <- n.is "copyFromSource" then
    l.prop n "copyObjectProperties" "Copy Full Object"
    l.prop n "deepCopy"
   else
    l.prop n "objectType" bare
    if (<- n "objectType").is "Empty" then l.prop n "emptyDisplayType" bare,
  drawsMore fun n l => do
   l.prop n "containerType"
   l.prop n "removeAnimationData"
   n.button l "resetObjectDataOnAllInstances"
     { text := "Reset Source Data", description := "Reset the source data on all instances" }
   n.button l "unlinkInstancesFromNode"
     { confirm := true, text := "Unlink Instances from Node", description :=
       "This will make sure that the objects won't be removed if you remove the Instancer Node" },
  writes fun n _ => do
   match <- n.word "containerType" with
   | "SCENES" | "MAIN_CONTAINER" => emit "containers = set(scenes)"
   | "COLLECTIONS" => emit "containers = set(collections)"
   | _ => pure ()
   if <- n.is "copyFromSource" then
    emit "objects = self.getInstances_WithSource(instancesAmount, sourceObject, containers)"
   else emit "objects = self.getInstances_WithoutSource(instancesAmount, containers)",
  fn3 "getInstances_WithSource instancesAmount sourceObject containers"
    fun n count source cs => do
   if source.isNone then
    n.tell "removeAllObjects"
    return <- list []
   n.startAnewUnless "lastSourceHashes" source
   n.call "getInstances_Base" [count, source, cs],
  fn2 "getInstances_WithoutSource instancesAmount containers" fun n count cs => do
   n.call "getInstances_Base" [count, .none, cs],
  fn3 "getInstances_Base instancesAmount sourceObject containers"
    fun n count source cs => do
   let count <- maxOf count 0
   unless <- anyOf (<- iter cs) do
    n.tell "removeAllObjects"
    return <- list []
   n.startAnewUnless "lastContainerHashes" (<- newSet (<- distinctValues (<- iter cs)))
   if <- n.is "resetInstances" then
    n.tell "removeAllObjects"
    n.set "resetInstances" false
   n.tell "removeObjectsInRange" [count, <- length (<- n "linkedObjects")]
   n.call "getOutputObjects" [count, source, cs],
  fn3 "getOutputObjects instancesAmount sourceObject containers"
     fun n count source cs => do
    let known := (<- (<- each n "linkedObjects").mapM (· "object")).map fun o => if o.isNone then none else some o
    for i in droppedLinks 0 known do n.bid "linkedObjects.remove" [i]
    let os <- list (sweepLinks known).1
    let amount <- sub count (<- length os)
    if <- equal amount 0 then return os
    os.tell "extend" [<- n.call "createNewObjects" [amount, source, cs]]
    pure os,
  act0 "removeAllObjects" fun n => do
   for g in <- each n "linkedObjects" do
    let o <- g "object"
    if o.isSome then n.tell "removeObject" [o]
   n.bid "linkedObjects.clear",
  act2 "removeObjectsInRange start end" fun n start stop => do
   for i in (<- span start stop).reverse do n.tell "removeObjectAtIndex" [i],
  act1 "removeObjectAtIndex index" fun n j => do
   let o <- (<- item (<- n "linkedObjects") j) "object"
   if o.isSome then n.tell "removeObject" [o]
   n.bid "linkedObjects.remove" [j],
  act1 "removeObject object" fun n o => do
   let data <- o "data"
   let type <- o "type"
   n.tell "removeShapeKeys" [o]
   (<- blocks "objects").tell "remove" [o]
   n.tell "removeObjectData" [data, type],
  act2 "removeObjectData data type" fun _ data type => do
   if data.isNone then return
   if <- (do truthy (<- data.at "an_data.removeOnZeroUsers")) <&&> (fits data "users" 0) then
    removeUnusedBlock data (<- text type),
  act1 "removeShapeKeys object" fun _ o => do
   unless <- among (<- o "type") ["MESH", "CURVE", "LATTICE"] do return
   if (<- o.at "data.shape_keys").isNone then return
   if <- greater (<- o.at "data.shape_keys.user.users") 1 then return
   o.set "active_shape_key_index" 0
   for _ in List.range 10000 do
    let key <- o "active_shape_key"
    if key.isNone then break
    o.tell "shape_key_remove" [key],
  fn3 "createNewObjects amount sourceObject containers" fun n k source cs => do
   let start := s!"instance_{(<- text (<- randomText 5))}_"
   mapSpan k fun i => do n.call "appendNewObject" [start ++ (<- text i), source, cs],
  fn3 "appendNewObject name sourceObject containers" fun n name source cs => do
   let o <- n.call "newInstance" [name, source]
   n.tell "linkObject" [o, cs]
   (<- n.use "linkedObjects.add").set "object" o
   pure o,
  act2 "linkObject object containers" fun n o cs => do
   match <- n.word "containerType" with
   | "MAIN_CONTAINER" => n.tell "linkObjectToMainContainer" [o, cs]
   | "SCENES" => n.tell "linkObjectToScenes" [o, cs]
   | _ => n.tell "linkObjectToCollections" [o, cs],
  act2 "linkObjectToMainContainer object scenes" fun _ o scenes =>
   linkToAll o scenes fun sc => do (<- objectContainer sc) "objects",
  act2 "linkObjectToScenes object scenes" fun _ o scenes => linkToAll o scenes (·.at "collection.objects"),
  act2 "linkObjectToCollections object collections" fun _ o cols => linkToAll o cols (· "objects"),
  fn2 "newInstance name sourceObject" fun n name source => do
   let instances <- n.call "getSourceObjectData" [source]
   let full := (<- n.is "copyObjectProperties") && (<- n.is "copyFromSource")
   let object <- if full then source.call "copy" else do (<- blocks "objects").call "new" [name, instances]
   if full then object.set "data" instances
   if <- (n.is "removeAnimationData") <&&> (return (<- object "animation_data").isSome) then
    (<- object "animation_data").set "action" .none
   if !(<- n.is "copyFromSource") && (<- n "objectType").is "Empty" then
    object.set "empty_display_type" (<- n "emptyDisplayType")
   pure object,
  fn1 "getSourceObjectData sourceObject" fun n source => do
   let new (col base : String) (named : Fields := []) : Eval := do
    let all <- blocks col
    all.call "new" [(<- possibleName all s!"instance {base}")] named
   let data : Value <- do
    if <- n.is "copyFromSource" then
     let data <- source "data"
     unless (<- n.is "deepCopy") && data.isSome do return data
     data.call "copy"
    else
     match <- n.word "objectType" with
     | "MESH" => new "meshes" "mesh"
     | "TEXT" => new "curves" "text" [("type", "FONT")]
     | "CAMERA" => new "cameras" "camera"
     | "POINT_LAMP" => new "lights" "lamp" [("type", "POINT")]
     | "GREASE_PENCIL" => new "grease_pencils" "grease pencil"
     | type =>
      if type.startsWith "CURVE" then
       let data <- new "curves" "curve" [("type", "CURVE")]
       data.set "dimensions" ((type.drop (type.length - 2)).toString)
       pure data
      else pure .none
   if data.isNone then return .none
   (<- data "an_data").set "removeOnZeroUsers" true
   pure data,
  act0 "resetObjectDataOnAllInstances" fun n => n.set "resetInstances" true,
  act0 "unlinkInstancesFromNode" fun n => do
   n.bid "linkedObjects.clear"
   (<- (Value.sockets n .input).call "get" ["Instances"]).set "number" 0,
  act0 "delete" fun n => n.tell "removeAllObjects",
  act1 "duplicate sourceNode" fun n _ => do n.bid "linkedObjects.clear"] with
  options := ["NOT_IN_SUBPROGRAM"] },
.lifted "Object Matrix Input" [flag "useObjectList"] (do
 takesObjects
 givesMany "Matrix" ["useObjectList"] "World"
 for (one, many) in [("Basis", "Bases"), ("Local", "Locals"), ("Parent Inverse", "Parent Inverses")] do
  givesMany "Matrix" ["useObjectList"] (named one [hide]) (named many [hide])) [
 writes fun _ req => ifWanted req do
  let outs := [("world", "world"), ("basis", "basis"), ("local", "local"), ("parentInverse", "parent_inverse")]
  emit "if object is None:"
  emitWanted req (outs.map fun (out, _) => (out, "Matrix.Identity(4)")) "    "
  emits #["else:", "    evaluatedObject = AN.utils.depsgraph.getEvaluatedID(object)"]
  emitWanted req (outs.map fun (out, attr) => (out, "evaluatedObject.matrix_" ++ attr)) "    "],
.lifted "Object Transforms Input" [flag "useObjectList"] (do
 takesObjects
 for (type, name) in [("Vector", "Location"), ("Euler", "Rotation"), ("Vector", "Scale")] do
  givesMany type ["useObjectList"] name
 givesMany "Quaternion" ["useObjectList"] (named "Quaternion" [hide]) (named "Quaternions" [hide])) [
 offersTrigger,
 writes fun _ req => ifWanted req do
  emits #["if object is not None:", "    evaluatedObject = AN.utils.depsgraph.getEvaluatedID(object)"]
  emitWanted req [("location", "evaluatedObject.location"),
   ("rotation", "evaluatedObject.rotation_euler"), ("scale", "evaluatedObject.scale"),
   ("quaternion", "evaluatedObject.rotation_quaternion")] "    "
  emits #["else:", "    location = Vector((0, 0, 0))", "    rotation = Euler((0, 0, 0))",
   "    scale = Vector((1, 1, 1))", "    quaternion = Quaternion((1, 0, 0, 0))"],
 act0 "createAutoExecutionTrigger" fun n => do
  let isLinked <- n.call "getLinkedOutputsDict"
  let outs := [("scale", "scale"), ("location", "location"), ("rotation", "rotation_euler"),
   ("quaternion", "rotation_quaternion")]
  let linked <- outs.filterM fun (out, _) => do truthy (<- item isLinked out)
  unless linked.isEmpty do n.watch (",".intercalate (linked.map (·.2)))],
.lifted "Object Transforms Output"
  (outputTransforms.map (fun (name, _) => flags name [false, false, false] checked) ++
  [flag "deltaTransforms" false rebuilds] ++ listFlags ["Object", "Location", "Rotation", "Scale"]) (fun n => do
 n.takesObjects [] false
 n.takesMany "Vector" ["useLocationList", "useObjectList"] "Location"
 n.takesMany "Euler" ["useRotationList", "useObjectList"] "Rotation"
 n.takesMany "Vector" ["useScaleList", "useObjectList"] (named "Scale" [val one3]) "Scales" []
   true "(1, 1, 1)"
 n.givesSome "Object"
 n.tell "updateSocketVisibility") [
 checks,
 drawsColumn fun n col => do
  for (flags, icon, _, _) in outputTransforms do
   let row <- col.row
   row.sign "" icon
   let subrow <- row.line
   for (axis, i) in ["X", "Y", "Z"].zipIdx do subrow.prop n flags [("index", i), ("text", axis), ("toggle", true)]
  if <- n.is "deltaTransforms" then col.sign "Delta Transforms" "INFO",
 showsMore "deltaTransforms",
 act0 "updateSocketVisibility" fun n => do
  for ((flags, _), i) in outputTransforms.zipIdx do
   (<- n.input (i + 1)).set "hide" (!(<- anyOf (<- iter (<- n.attr flags)))),
 writes fun n _ => do
  let used <- outputTransforms.mapM fun (flags, _) => do (<- iter (<- n.attr flags)).mapM (truthy ·)
  unless used.any (·.any id) do return
  emit "if object is not None:"
  for ((_, _, name, path), flags) in outputTransforms.zip used do
   let t := "    object." ++ (<- n.textOf path)
   if flags.all id then emit s!"{t} = {name}"
   else
    for (used, i) in flags.zipIdx do
     let j := s!"[{i}]"
     if used then emit s!"{t}{j} = {name}{j}",
 writes0 "getBakeCode" fun n => do
  emits #["if object is not None:", "    pass"]
  for (flags, _, _, path) in outputTransforms do
   for (used, i) in (<- iter (<- n.attr flags)).zipIdx do
    if <- truthy used then
     emit (s!"    object.keyframe_insert('{(<- n.textOf path)}', index = {i})"),
 deltaPath "locationPath" "location", deltaPath "rotationPath" "rotation_euler", deltaPath "scalePath" "scale"],
.lifted "Object Visibility Input" [flag "useObjectList"] (fun n => do
 n.takesObjects [] false
 for p in visibilityProperties do n.givesMany "Boolean" ["useObjectList"] p.label p.label
 hideAll ((<- n.outputs).drop 2)) [
 writes fun _ req => ifWanted req do
  emit "if object is not None:"
  emitWanted req [("hideViewport", "object.hide_viewport"), ("hideSelect", "object.hide_select"),
   ("hideRender", "object.hide_render"), ("showName", "object.show_name"), ("showAxis", "object.show_axis"),
   ("showInFront", "object.show_in_front")] "    "
  emits #["else:", "    hideViewport = hideSelect = hideRender = showName = showAxis = showInFront = False"]],
.lifted "Object Visibility Output" (flag "useObjectList" :: visibilityProperties.map (flag ·.list))
  (fun n => do
 n.takesObjects [] false
 for p in visibilityProperties do
  n.takesMany "Boolean" [p.list, "useObjectList"] (p.label, p.identifier) (p.label, p.identifier)
 n.givesSome "Object"
 n.switchable
 for s in ((<- n.inputs).drop 1) do s.set "value" false
 hideAll ((<- n.inputs).drop 3)) [
 code fun n _ => do
  let ls := (<- visibilityProperties.filterM (n.usesInput ·.label)).map fun p =>
   let t := "object." ++ p.property
   s!"    if {t} != {p.identifier}: {t} = {p.identifier}"
  return (["if object is not None:"] ++ ls ++ ["    pass"]).toArray,
 code0 "getBakeCode" fun n => do
  let used <- visibilityProperties.filterM (n.usesInput ·.label)
  let ls := used.map fun p => s!"    object.keyframe_insert('{p.property}')"
  return (["if object is not None:"] ++ ls ++ ["    pass"]).toArray],
.of "Copy Transforms"
  [flag "useCurrentTransforms" true (calling "useCurrentTransformsChanged"), choice "frameType" "OFFSET" rebuilds]
  (do
 takesEach "Object" [("From", "fromObject"), ("To", "toObject")]
 float "Frame" [hide]
 gives "Object" ("To", "toObject")) [
 act1 "useCurrentTransformsChanged context" fun n _ => do
  (<- n.inputNamed "Frame").set "hide" (<- n "useCurrentTransforms")
  codeChanged,
 draws fun n l => unless <- n.is "useCurrentTransforms" do l.prop n "frameType",
 drawsMore fun n l => do
  l.prop n "useCurrentTransforms"
  let col <- l.column
  col.set "active" (!(<- n.is "useCurrentTransforms"))
  col.prop n "frameType",
 writes fun n _ => do
  emit "if fromObject and toObject:"
  if <- n.is "useCurrentTransforms" then
   emits #["    evaluatedFromObject = AN.utils.depsgraph.getEvaluatedID(fromObject)",
    "    toObject.location = evaluatedFromObject.location",
    "    toObject.rotation_euler = evaluatedFromObject.rotation_euler",
    "    toObject.scale = evaluatedFromObject.scale"]
  else
   emit (if (<- n "frameType").is "OFFSET" then
     "    evaluationFrame = frame + self.nodeTree.scene.frame_current_final"
    else "    evaluationFrame = frame")
   for path in ["location", "rotation_euler", "scale"] do
    emit ("    toObject." ++ path ++ " = animation_nodes.utils.fcurve.getArrayValueAtFrame(fromObject, '" ++
     path ++ "', evaluationFrame)")],
.of "Get Active Camera" [] (do
 takes "Scene" "Scene" [hide]
 gives "Object" "Active Camera") [fn1 "execute scene" fun _ sc => sc.attrD "camera" .none],
.found [("Get Active Object", [])] <| .of "Get Selected Objects" [] (do
 gives "Object List" "Selected Objects"
 gives "Object" "Active Object") [
 fn0 "execute" fun _ => do
  if <- look (·.raised.rendering) then return .tuple [<- list [], .none]
  let layer <- (<- activeDepsgraph) "view_layer"
  tuple [<- selectedObjects layer, <- activeObjectOf layer],
 draws fun _ l => l.sign "Disabled During Rendering" "INFO"],
.of "Move Object" [] (do
 takesObject
 takes "Vector" "Translation" [unnamed]
 gives "Object") [
 runs "if object: object.location = AN.utils.depsgraph.getEvaluatedID(object).location + translation"],
.of "Reset Object Transforms" [] (do
 takesObject
 gives "Object") [
 runs "if object: object.matrix_world = mathutils.Matrix.Identity(4)",
 usesModules ["mathutils"]],
.of "Transform Object" [flag "useCenter" true reruns] (do
 takesObject
 takes "Matrix"
 gives "Object") [
 shows "useCenter",
 fn2 "execute object matrix" fun n o m => do
  if o.isNone then return .none
  let object <- evaluated o
  let mut moved := m
  if <- n.is "useCenter" then
   let off <- kernel "Matrix.Translation" [<- object "location"]
   moved := <- matMul (<- matMul off m) (<- off.call "inverted")
  o.set "matrix_world" (<- matMul moved (<- object "matrix_world"))
  pure o]]

end AnimationGraph
