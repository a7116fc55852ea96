import AnimationGraph.Graphics.Drawing

/-! # Nodes that show data

Viewers show what reaches them below the node, in a loop or in the scene.
-/

namespace AnimationGraph

def textBlockNamed (name : Value) : Eval := do (<- blocks "texts").call "get" [name]

variable (n : NodeId)

def showIn (shown : Shown) : Act := do
 let s <- n.input 0
 unless (<- s.name) == shown.title do s.set "name" shown.title
 setItem (<- table "viewerTexts") (<- n "identifier") shown.body
 let width <- n "width"
 let preferred <- match shown.width? with
  | some w => maxOf width w
  | none => pure width
 if <- notEqual width preferred then n.set "width" preferred

def writeTextBlock (c : String) : Act := do
 let b <- n.call "getTextBlock"
 if b.isSome then
  b.tell "clear"
  b.tell "write" [c]

def keepDrawn (data : Value) (m : String) : Act := do
 setItem (<- table "drawnInScene") (<- n "identifier") (.tuple [data, .member n m])

def drawn? (n : Value) : Run (Option (Value × Value)) := do
 let .tuple [data, draw] <- (<- table "drawnInScene").call "get" [<- n "identifier"] | pure none
 return some (data, draw)

def drawPositions (kind : String) (vs : Value) (state : String) : Act := do
 let s <- shader "3D_UNIFORM_COLOR"
 let ps <- (<- vs.call "asNumpyArray").call "reshape" [-1, 3]
 let b <- shade s kind (<- newDict [("pos", ps)]) (.tuple ((<- each n "drawColor") ++ [1]))
 drawingState state [<- n "width"]
 b.tell "draw" [s]

/-- The text block that a node writes to, with buttons to make it or to show it. -/
def NodeId.offerTextBlock (l : LayoutId) (b : Value) : Act := do
 let row <- l.line
 row.put "prop_search" [n, "textBlockName", .space "bpy.data", "texts"] bare
 if b.isNone then n.button row "createNewTextBlock" { icon := "ADD" }
 else n.selector row "AREA" "viewTextBlockInArea" { icon := "ZOOM_SELECTED" }

def textBlockMembers (title : String) (get : NodeId -> Eval) : Members := [
 act0 "createNewTextBlock" fun n => do
  let b <- (<- blocks "texts").call "new" [] [("name", title)]
  n.set "textBlockName" (<- b "name"),
 act1 "viewTextBlockInArea area" fun n area => do
  area.set "type" "TEXT_EDITOR"
  (<- area.at "spaces.active").set "text" (<- get n)]

def NodeId.forgetIn (name : String) : Act := do
 let kept <- table name
 let id <- n "identifier"
 if <- has kept id then delItem kept id

def NodeId.outputLines : Eval := do (<- table "loopViewerLines").call "setdefault" [<- n "identifier", <- list []]

def viewerNodes : List NodeKind := [
.of "Interpolation Viewer" [whole "resolution" 100] (takes "Interpolation" "Interpolation" [unnamed]) [
 showsMore "resolution",
 act1 "execute interpolation" fun n interp => do setItem (<- table "viewedInterpolations") (<- n "identifier") interp,
 fn0 "getUIExtensions" fun n => do
  if <- n.is "hide" then return <- list []
  let interp <- (<- table "viewedInterpolations").call "get" [<- n "identifier", .none]
  if interp.isNone then return <- list []
  list [<- make "InterpolationUIExtension" [interp, <- n "resolution"]]],
.edited "Loop Viewer" [words "textBlockName"] <| .append (textBlockMembers "Loop Viewer" (· "textBlock")) [
 act0 "setup" fun n => do
  n.takes "Node Control" ("...", "control")
  n.tell "newInputSocket",
 act0 "edit" fun n => do
  let socket <- n.input (-1)
  let origin <- socket "directOrigin"
  if origin.isNone then return
  (<- n.call "newInputSocket").tell "linkWith" [origin]
  socket.tell "removeLinks",
 fn0 "newInputSocket" fun n => do
  let s <- n.newInput "an_GenericSocket" "Data" "data"
  s.set "removeable" true
  s.set "moveable" true
  setItem s "dataWidth" 0
  s.tell "moveUp"
  pure s,
 draws fun n l => do
  if (<- n.at "network.type").is "Loop" then n.offerTextBlock l (<- n "textBlock")
  else l.sign "Has to be in a loop" "INFO",
 drawsMore fun n l => do
  let col <- l.stack
  for (s, i) in ((<- n.inputs).dropLast).zipIdx do
   col.prop s "[\"dataWidth\"]" [("text", s!"Width {i + 1}")],
 numbersInputs "data_",
 runsCode fun n => do
  if (<- n.at "network.type").is "Loop" then
   let ns := (List.range ((<- n.inputs).dropLast).length).map fun i => s!"data_{i}"
   return "self.newOutputLine(" ++ commaList ns ++ ")"
  else pure "",
 rest0 "newOutputLine" fun n data => do
  let texts <- (data.zip (<- n.inputs)).mapM fun (v, s) => do
   let c <- match v with
    | .float x => pure (Decimal.text (Decimal.roundTo 5 x))
    | v => text v
   return Edit.padLeft (<- natArg (<- item s "dataWidth")) c
  (<- n.outputLines).tell "append" [" ".intercalate texts]
  pure .none,
 act0 "updateTextBlock" fun n => do
  let b <- n "textBlock"
  if b.isNone then return
  b.tell "clear"
  b.tell "write" ["\n".intercalate (<- textsOf (<- n.outputLines))],
 act0 "clearOutputLines" fun n => do attempt (delItem (<- table "loopViewerLines") (<- n "identifier")),
 prop "textBlock" fun n => do textBlockNamed (<- n "textBlockName"),
 act0 "delete" fun n => n.tell "clearOutputLines"],
.of "Viewer" [whole "maxRows" 150, whole "fontSize" 12, whole "maxListStartElements" 15, whole "maxListEndElements",
 flag "outputConsole", flag "outputTextBlock", words "textBlockName"]
  (takes "Generic" ("None", "data")) <| .append (textBlockMembers "Viewer" (·.call "getTextBlock")) [
 draws fun n l => do if <- n.is "outputTextBlock" then n.offerTextBlock l (<- n.call "getTextBlock"),
 drawsMore fun n l => do
  let col <- l.stack
  col.write "Display Settings:"
  col.prop n "fontSize"
  col.prop n "maxRows"
  let col <- l.stack
  col.write "List Settings:"
  col.prop n "maxListStartElements" "Start"
  col.prop n "maxListEndElements" "End"
  let col <- l.stack
  col.write "Output Settings:"
  col.prop n "outputConsole" "Console"
  col.prop n "outputTextBlock" "Text Block",
 fn0 "getUIExtensions" fun n => do
  if <- n.is "hide" then return .none
  let c <- (<- table "viewerTexts").call "get" [<- n "identifier", ""]
  if <- isEmpty c then return .none
  list [<- make "TextUIExtension" [c, <- n "fontSize", <- n "maxRows"]],
 act1 "execute data" fun n data => do
  change fun w => { w with shown := w.shown.push ((w.forest.node n).name, w.json data) }
  if <- isShownAsList data then n.tell "handleListData" [data]
  else n.tell "handleNonListData" [data],
 act1 "handleNonListData data" fun n data => do
  let shown <- shownValue data
  showIn n shown
  if <- n.is "outputTextBlock" then writeTextBlock n s!"{shown.title}\n{shown.body}",
 act1 "handleListData data" fun n data => do
  let first <- indexOf (<- n "maxListStartElements")
  let last <- indexOf (<- n "maxListEndElements")
  showIn n (<- shownList data first last)
  if <- n.is "outputTextBlock" then do
   let size : Int := <- length data
   writeTextBlock n ("\n".intercalate (<- elementLines data 0 size (positionWidth (size - 1)))),
 act3 "setViewData nodeText drawText minWidth?" fun n title body width => do
  showIn n ⟨<- text title, <- text body, <- if width.isNone then pure none else some <$> natArg width⟩,
 act1 "setTextBlockData text" fun n c => do writeTextBlock n (<- text c),
 act0 "delete" (·.forgetIn "viewerTexts"),
 fn0 "getTextBlock" fun n => do textBlockNamed (<- n "textBlockName")],
.called "Viewer3D" <|
 .of "3D Viewer" [flag "enabled" true (calling "redrawViewport"), whole "width" 2 (calling "drawPropertyChanged"),
 fraction "matrixScale" 1.0 (calling "drawPropertyChanged"),
 fractions "drawColor" [0.9, 0.9, 0.9] (calling "drawPropertyChanged"),
 whole "pointAmount" 50 (calling "drawPropertyChanged")] (takes "Generic" "Data") [
 act1 "drawPropertyChanged context" fun n ctx => do
  n.tell "execute" [<- n.call "getCurrentData"]
  n.tell "redrawViewport" [ctx],
 act1 "redrawViewport context" fun _ _ => redrawEverything,
 draws fun n l => do
  let data <- n.call "getCurrentData"
  if data.isNone then return
  let col <- l.column
  let row <- col.line
  row.prop n "width" "Width"
  row.prop n "enabled" (badge "" (if <- n.is "enabled" then "LAYER_ACTIVE" else "LAYER_USED"))
  if <- isAnyOf data ["Vector", "Vector3DList"] then col.prop n "drawColor" bare
  else if <- isAnyOf data ["Matrix", "Matrix4x4List"] then col.prop n "matrixScale" "Scale"
  else if <- isA data "Spline" then
   if <- isA data "BezierSpline" then col.prop n "pointAmount"
   col.prop n "drawColor" bare,
 act1 "execute data" fun n data => do
  n.tell "freeDrawingData"
  unless <- isAnyOf data ["Vector3DList", "Vector2DList", "Matrix4x4List", "Vector", "Matrix", "Spline"] do return
  if <- isA data "Vector3DList" then keepDrawn n data "drawVectors"
  if <- isA data "Vector2DList" then
   keepDrawn n (<- kernel "convert_Vector2DList_to_Vector3DList" [data]) "drawVectors"
  else if (<- isA data "Vector") && [2, 3].contains (<- length data) then
   let v <- data.call "to_3d"
   keepDrawn n (<- kernel "Vector3DList.fromValues" [<- list [v]]) "drawVectors"
  else if <- isA data "Matrix4x4List" then keepDrawn n data "drawMatrices"
  else if <- isA data "Matrix" then
   keepDrawn n (<- kernel "Matrix4x4List.fromValues" [<- list [data]]) "drawMatrices"
  else if <- isA data "Spline" then keepDrawn n data "drawSpline",
 act1 "drawVectors vectors" fun n vectors => drawPositions n "POINTS" vectors "glPointSize",
 act1 "drawMatrices matrices" fun n ms => do
  let s <- shader "custom"
  let (vs, ix) <- unpack2 (<- kernel "getMatricesVBOandIBO" [ms, <- n "matrixScale"])
  let ps <- (<- vs.call "asNumpyArray").call "reshape" [-1, 3]
  let es <- (<- ix.call "asNumpyArray").call "reshape" [-1, 2]
  let b <- batch "LINES" (<- newDict [("pos", ps)]) es
  s.tell "bind"
  s.tell "uniform_float" ["u_ViewProjectionMatrix", <- here "region_data.perspective_matrix"]
  s.tell "uniform_int" ["u_Count", <- length ms]
  drawingState "glLineWidth" [<- n "width"]
  b.tell "draw" [s],
 act1 "drawSpline spline" fun n sp => do
  let mut vectors <- sp "points"
  if (<- ask sp "isEvaluable") && (<- isA sp "BezierSpline") then
   vectors := <- sp.call "getDistributedPoints" [<- n "pointAmount", 0, 1, "RESOLUTION"]
  drawPositions n (if <- holds sp "cyclic" then "LINE_LOOP" else "LINE_STRIP") vectors "glLineWidth",
 act0 "delete" fun n => n.tell "freeDrawingData",
 act0 "freeDrawingData" (·.forgetIn "drawnInScene"),
 fn0 "getCurrentData" fun n => do
  let some (data, _) <- drawn? n | pure .none
  pure data],
.of "Action Viewer" [] (takes "Action") [
 act1 "execute action" fun _ act => setRegister "viewedAction" act,
 fn0 "getUIExtensions" fun _ => do
  let act <- register "viewedAction"
  if act.isNone then return <- list []
  list [<- make "ActionUIExtension" [act]]]]

end AnimationGraph
