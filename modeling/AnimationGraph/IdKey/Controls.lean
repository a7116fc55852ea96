import AnimationGraph.Catalogue.Basic
import AnimationGraph.Control.Choosers

/-! # Controls for keys

A panel lists the keys of the file and shows those of the active object.
-/

namespace AnimationGraph

def actionControl (id label : String) (props : Texts) (body : Bound -> Act) (confirm redraw : Bool := false) :
  RecordKind :=
 control id id label none (props.map (words ·))
  [invoking fun c ctx ev => do
   if confirm then (<- windowManager ctx).call "invoke_confirm" [c, ev] else c.call "execute" [ctx],
  finishing fun c _ => do
   body ⟨<- props.mapM c.attr⟩
   if redraw then redrawEverything]

def forKey (id label : String) (body : Value -> Value -> Act) (confirm redraw : Bool := false) : RecordKind :=
 actionControl id label ["dataType", "propertyName"] (fun b => body (b 0) (b 1)) confirm redraw

def chosenObjects : Evals := do iter (<- here "selected_objects")
def tellKeys (m : String) (args : Values) : Act := do for o in <- chosenObjects do (<- o "id_keys").tell m args

variable (l : LayoutId) (c : CellId) (type name : Value)

def removeKey : Act := do
 let kind <- keyType type
 for o in <- iter (<- (Value.space "bpy.data") "objects") do kind.tell "remove" [o, name]
 let key : IdKey := ⟨<- text type, <- text name⟩
 change fun w => { w with keys := w.keys.forget key }
 refreshKeys

def toggleKey : Act := do
 let key : IdKey := ⟨<- text type, <- text name⟩
 change fun w => { w with keys := w.keys.toggle key }

def copyKeyToSelected : Act := do
 let active <- activeObject
 unless active.isNone do tellKeys "set" [type, name, <- active.use "id_keys.get" [type, name]]

def copyKeyToAttribute (path : Value) : Act := do
 for o in <- chosenObjects do setPath o (<- text path) (<- o.use "id_keys.get" [type, name])

def keysFromTexts : Act := do
 for o in <- chosenObjects do
  let c : Value <- if (<- o "type").is "FONT" then o.at "data.body" else pure ("")
  o.bid "id_keys.set" ["Text", name, c]

def keysFromTransforms : Act := do
 for o in <- chosenObjects do
  o.bid "id_keys.set" ["Transforms", name, .tuple [<- o "location", <- o "rotation_euler", <- o "scale"]]

def transformsFromKeys : Act := do
 for o in <- chosenObjects do
  let (loc, rot, scale) <- unpack3 (<- o.use "id_keys.get" ["Transforms", name])
  o.set "location" loc
  o.set "rotation_euler" rot
  o.set "scale" scale

variable (object : Value)

def objectPlace : Eval := do
 let mode <- c "locationMode"
 if <- equal mode "ORIGIN" then return <- object "location"
 if <- equal mode "BOUDING_BOX_CENTER" then
  let box <- object "bound_box"
  let low <- vector (<- iter (<- item box 0))
  let high <- vector (<- iter (<- item box 6))
  return <- matMul (<- object "matrix_world") (<- div (<- add low high) 2)
 pure .none

variable (measure : Value -> Eval) (os : Values) (key : IdKey)

def groupedInOrder : Run (List Values) := do
 let limit <- c "threshold"
 (<- sortBy measure false (<- chosenObjects)).foldlM (fun gs o => do
  match gs.getLast? with
  | some (first :: rest) =>
   let dist <- absolute (<- sub (<- measure first) (<- measure o))
   if <- less dist limit then return gs.dropLast ++ [first :: rest ++ [o]] else return gs ++ [[o]]
  | _ => return gs ++ [[o]]) []

def shuffled (is : Values) : Evals := do
 let mut xs := is.toArray
 for k in List.range (is.length - 1) do
  let i := is.length - 1 - k
  xs := xs.swapIfInBounds i ((<- nextRandom) % (i + 1))
 pure xs.toList

def sortedByName : Evals := do
 let keyed <- os.mapM fun o => return (o, Names.naturalKey (<- textAt o "name"))
 return (keyed.mergeSort fun a b => !(b.2 < a.2)).map (·.1)

def numberedObjects : Run (List Values) := do
 let mode <- c "sortMode"
 if <- equal mode "SELECTION_ORDER" then
  let os <- iter (<- sortedSelection)
  if os.isEmpty then c.tell "report" [<- newSet ["WARNING"], "No selection recorded. Please record selection first."]
  return os.map ([·])
 else if <- equal mode "AXIS" then
  let some i := ["X", "Y", "Z"].idxOf? (<- textAt c "axis") | fail .value
  groupedInOrder c fun o => do item (<- objectPlace c o) i
 else if <- equal mode "DISTANCE" then
  let ref <- activeObject
  if ref.isNone then return []
  let place <- objectPlace c ref
  groupedInOrder c fun o => do (<- sub (<- objectPlace c o) place) "length"
 else if <- equal mode "RANDOM" then return (<- shuffled (<- chosenObjects)).map ([·])
 else if <- equal mode "NAME" then return (<- sortedByName (<- chosenObjects)).map ([·])
 else fail (.host "UnboundLocalError")

def numberObjects : Act := do
 let gs <- numberedObjects c
 let reverse <- holds c "reverse"
 for (os, i) in gs.zipIdx do
  for o in os do
   let num <- add (.int (if reverse then gs.length - i - 1 else i)) (<- c "offset")
   (<- o "id_keys").tell "set" ["Integer", <- c "idKeyName", num]
 redrawEverything

def drawNumbering (l : LayoutId) (ctx : Value) : Act := do
 (<- l.column).prop c "sortMode" [("text", "Method"), ("expand", true)]
 l.separator
 let mode <- c "sortMode"
 if <- equal mode "SELECTION_ORDER" then l.press "an.record_selection_order" "Record Selection Order"
 else if <- equal mode "AXIS" then
  l.prop c "axis"
  l.prop c "locationMode" "Location"
  l.prop c "threshold"
 else if <- equal mode "DISTANCE" then
  if (<- ctx "active_object").isNone then l.sign "No active object." "INFO"
  else
   l.prop c "locationMode" "Location"
   l.prop c "threshold"
 l.prop c "reverse"
 l.prop c "offset"

def drawKeyAction (oper icon : String) (key : IdKey) : Act := do
 aimAtKey (<- l.operator oper [("text", ""), ("icon", icon), ("emboss", false)]) key.type key.name

def drawKeyList : Act := do
 let col <- (<- l.box).stack
 let keys <- look (·.keys)
 for key in keys.inFile do
  let row <- col.line
  drawKeyAction row "an.toggle_id_key_visibility"
   (if keys.hidden.contains key then "RESTRICT_VIEW_ON" else "RESTRICT_VIEW_OFF") key
  row.write key.name
  unless keys.fixed.contains key do drawKeyAction row "an.remove_id_key" "X" key

def drawKeyHeader (present : Bool) : Act := do
 let (left, right) <- l.splitToSides
 left.write key.name
 if present then
  let copy <- right.operator "an.open_copy_id_key_menu" [("text", ""), ("icon", "COPYDOWN"), ("emboss", false)]
  copy.set "keyDataType" key.type
  copy.set "keyName" key.name
  drawKeyAction right "an.remove_id_key_on_selected_objects" "X" key
 else drawKeyAction right "an.create_id_key_on_selected_objects" "PLUS" key

def drawKeyOf : Act := do
 let box <- l.box
 let keys <- object "id_keys"
 let present <- ask keys "exists" [key.type, key.name]
 drawKeyHeader box key present
 if present then keys.tell "drawProperty" [box, key.type, key.name]
 keys.tell "drawExtras" [box, key.type, key.name]

def drawKeyPanel : Act := do
 let col <- l.stack
 let row <- col.line
 row.press "an.new_id_key" (badge "New" "FILE_NEW")
 row.press "an.update_id_keys_list" (badge "Update" "FILE_REFRESH")
 drawKeyList col
 unless object.isNone do
  let keys <- look (·.keys)
  for key in keys.inFile.filter (!keys.hidden.contains ·) do drawKeyOf l object key

def keyControls : List RecordKind :=
 [control "AN_PT_id_keys_panel" "IDKeyPanel" "ID Keys" none []
  [act1 "draw context" fun c ctx => do drawKeyPanel (<- surface c) (<- ctx "active_object")],
 control "an.open_copy_id_key_menu" "CopyIDKeyMenuOpener" "Open Copy ID Key Menu"
  (some fun ctx => return !(<- ctx "active_object").isNone) [words "keyDataType", words "keyName"]
  [invoking fun c ctx _ => do
   (<- windowManager ctx).tell "popup_menu" [.member c "drawMenu"] [("title", "Copy ID Key"), ("icon", "COPYDOWN")]
   finished,
  act2 "drawMenu menu context" fun c menu ctx => do
   let l <- (<- layoutOf (<- menu "layout")).column
   let type <- c "keyDataType"
   let name <- c "keyName"
   aimAtKey (<- l.operator "an.copy_id_key_to_selected_objects" "to Selected Objects") type name
   (<- keyType type).tell "drawCopyMenu" [l, <- ctx "active_object", name]],
 titled "New ID Key" none [words "keyName", choice "keyDataType" "Transforms"]
  [invoking fun c ctx _ => openDialog c ctx 250,
  drawn fun c l => do
   l.prop c "keyName" "Name"
   l.prop c "keyDataType" "Data Type",
  checking,
  executing fun c _ => do
   let name <- c "keyName"
   if <- equal name "" then
    c.tell "report" [<- newSet ["ERROR"], "Cannot create Id Key with empty name"]
    return <- cancelled
   let key : IdKey := ⟨<- textAt c "keyDataType", <- text name⟩
   change fun w => { w with keys := w.keys.create key }
   refreshKeys
   redrawEverything
   finished],
 titled "ID Keys from Sorted Objects" none
  [words "idKeyName", choice "sortMode" "SELECTION_ORDER", whole "offset", flag "reverse", choice "axis" "X",
  fraction "threshold" 0.01, choice "locationMode" "ORIGIN"]
  [invoking fun c ctx _ => openDialog c ctx 250,
  act1 "draw context" fun c ctx => do drawNumbering c (<- surface c) ctx,
  checking,
  finishing fun c _ => numberObjects c],
 forKey "an.copy_id_key_to_selected_objects" "Copy ID Key" copyKeyToSelected,
 actionControl "an.copy_id_key_to_attribute" "Copy ID Key to Attribute" ["dataType", "propertyName", "attribute"]
  fun b => copyKeyToAttribute (b 0) (b 1) (b 2),
 forKey "an.create_id_key_on_selected_objects" "Create ID Key" (tellKeys "create" [·, ·]),
 forKey "an.remove_id_key_on_selected_objects" "Remove ID Key" (tellKeys "remove" [·, ·]) true,
 forKey "an.toggle_id_key_visibility" "Toogle ID Key Visibility" toggleKey,
 forKey "an.remove_id_key" "Remove ID Key" removeKey true true,
 actionControl "an.update_id_keys_list" "Update ID Key List" [] (fun _ => refreshKeys) false true,
 actionControl "an.id_keys_from_text_body" "From Text Body" ["name"] fun b => keysFromTexts (b 0),
 actionControl "an.id_key_from_current_transforms" "From Current Transforms" ["name"] fun b => keysFromTransforms (b 0),
 actionControl "an.id_key_to_current_transforms" "To Current Transforms" ["name"] fun b => transformsFromKeys (b 0)]

def keyOperations : Operations :=
 let listed (keys : List IdKey) : Values := keys.map (·.toValue)
 [asking "getAllIDKeys" do list (listed (<- get).keys.inFile),
 asking "getUnremovableIDKeys" do newSet (listed (<- get).keys.fixed),
 doing "updateIdKeysList" refreshKeys,
 asking "getIDKeysOfNodes" do newSet (listed (IdKey.inOrder (<- keysOfNodes))),
 asking "getIDKeysOnObjects" do newSet (listed (IdKey.inOrder (<- keysOnObjects))),
 asking "getCreatedIDKeys" do newSet (listed (<- get).keys.created),
 proc2 "id_keys.existing_keys.removeIDKey dataType propertyName" removeKey,
 proc2 "copyIDKeyToSelectedObjects dataType propertyName" copyKeyToSelected,
 proc "copyIntegerIDKeyToAttribute dataType propertyName attribute" fun b => copyKeyToAttribute (b 0) (b 1) (b 2),
 proc2 "createIDKeyOnSelectedObjects dataType propertyName" fun v w => tellKeys "remove" [v, w],
 proc2 "toggleIDKeyVisibility dataType propertyName" toggleKey, proc1 "idKeyFromTextBody name" keysFromTexts,
 proc1 "idKeyFromCurrentTransforms name" keysFromTransforms,
 proc1 "idKeyToCurrentTransforms name" transformsFromKeys,
 proc1 "checkIDKeyName name" fun v => do
  if let some fault := IdKey.nameFault? (<- textArg v) then throw { cause := .value, message := some fault },
 doing "id_keys.object_extension.register" <| change fun w => { w with keys := { w.keys with onBlocks := true } },
 doing "id_keys.object_extension.unregister" do
  unless <- look (·.keys.onBlocks) do fail .attr
  change fun w => { w with keys := { w.keys with onBlocks := false } }]

end AnimationGraph
