import AnimationGraph.Control.Choosers
import AnimationGraph.Graphics.Drawing

/-! # Choosing an area

The user points at an area.
-/

namespace AnimationGraph

variable (area : Value)

def splitInOrder (dir : String) (k : Value) : Run (Value × Value) := do
 let type <- textAt area "type"
 let pre <- areasOfType type
 let ctx <- context
 let overwrite <- newDict
  [("area", area), ("region", <- item (<- area "regions") 0), ("window", <- ctx "window"),
  ("screen", <- ctx "screen")]
 hostOperator "screen.area_split" [overwrite] [("direction", dir), ("factor", k)]
 let some new <- (<- areasOfType type).findM? fun v => return !(<- pre.anyM (equal v ·)) | fail .key
 if <- less k 0.5 then pure (new, area) else pure (area, new)

structure AreaBounds where
 (x y width height : Value)

def AreaBounds.of : Run AreaBounds := return ⟨<- area "x", <- area "y", <- area "width", <- area "height"⟩

def isInArea (p : Value) : Ask := do
 let within (axis size : String) : Ask := do
  let low <- area.attr axis
  let v <- p.attr axis
  less low v <&&> do less v (<- add (<- area.attr axis) (<- area.attr size))
 within "x" "width" <&&> within "y" "height"

def centerRadius : Value := 0.1
def nearMiddle (k : Value) : Ask := do less (<- absolute (<- sub 0.5 k)) centerRadius

def placeInArea (p : Value) : Run (String × Value) := do
 unless <- isInArea area p do return ("NONE", 0.0)
 let a <- AreaBounds.of area
 let x <- div (<- sub (<- p "x") a.x) a.width
 let y <- div (<- sub (<- p "y") a.y) a.height
 if (<- nearMiddle x) && (<- nearMiddle y) then return ("CENTER", 0.0)
 let upper <- greater y x
 if <- greater (<- sub 1 y) x then return if upper then ("LEFT", x) else ("BOTTOM", y)
 return if upper then ("TOP", y) else ("RIGHT", x)

def newAreaAt (border : String) (k : Value) : Eval := do
 match border with
 | "LEFT" => return (<- splitInOrder area "VERTICAL" k).1
 | "RIGHT" => return (<- splitInOrder area "VERTICAL" k).2
 | "BOTTOM" => return (<- splitInOrder area "HORIZONTAL" k).1
 | "TOP" => return (<- splitInOrder area "HORIZONTAL" k).2
 | _ => fail (.host "UnboundLocalError")

def middlePart (off size part : Value) : Run (Value × Value) := do
 let middle <- add off (<- mul size 0.5)
 let half <- div part 2
 return (<- sub middle half, <- add middle half)

def drawPlace (x y : Value) (border : String) (k : Value) : Act := do
 let a <- AreaBounds.of area
 let w <- mul (<- mul a.width centerRadius) 2
 let height <- mul (<- mul a.height centerRadius) 2
 let right <- add x a.width
 let top <- add y a.height
 let (left, innerRight) <- middlePart x a.width w
 let (bottom, innerTop) <- middlePart y a.height height
 drawingState "glEnable" ["GL_LINE_SMOOTH"]
 drawingState "glLineWidth" [<- mul 1 (<- lineWidth)]
 let shapes : List (String × List (Value × Value)) :=
  [("LEFT", [(x, y), (x, top), (left, innerTop), (left, bottom)]),
  ("RIGHT", [(right, y), (innerRight, bottom), (innerRight, innerTop), (right, top)]),
  ("BOTTOM", [(x, y), (left, bottom), (innerRight, bottom), (right, y)]),
  ("TOP", [(x, top), (right, top), (innerRight, innerTop), (left, innerTop)]),
  ("CENTER", [(left, bottom), (left, innerTop), (innerRight, innerTop), (innerRight, bottom)])]
 if let some corners := shapes.lookup border then
  drawPolygon (<- list (corners.map fun (x, y) => .tuple [x, y])) (.tuple [0.4, 0.4, 0.4, 0.3])
 let rest <- sub 0.5 k
 let markX <- add x (<- mul a.width k)
 let markY <- add y (<- mul a.height k)
 let c := .tuple [0, 0, 0, 0.5]
 if border == "LEFT" || border == "RIGHT" then drawVerticalLine markX markY (<- mul (<- mul a.height rest) 2) c .none
 if border == "BOTTOM" || border == "TOP" then drawHorizontalLine markX markY (<- mul (<- mul a.width rest) 2) c .none
 for y in [bottom, innerTop] do drawHorizontalLine left y w c .none
 for x in [left, innerRight] do drawVerticalLine x bottom height c .none
 for (x, y, u, v) in [(x, y, left, bottom), (innerRight, innerTop, right, top), (x, top, left, innerTop),
   (innerRight, bottom, right, y)] do
  drawLine x y u v c .none
 drawingState "glDisable" ["GL_LINE_SMOOTH"]
 drawingState "glLineWidth" [1]

variable (c : CellId)

def addAreaHandlers : Act := do
 let handlers <- list []
 c.set "drawHandlers" handlers
 for area in <- areas do
  let space <- area.at "spaces.active"
  let types <- (<- each area "regions").mapM fun r => do textAt r "type"
  for type in sortedSet (types.filter (!·.isEmpty)) do
   let handler <- space.call "draw_handler_add" [.member c "drawCallback", .tuple [], type, "POST_PIXEL"]
   handlers.tell "append" [.tuple [space, handler, type]]

def removeAreaHandlers : Act := do
 for e in <- each c "drawHandlers" do
  let (space, handler, type) <- unpack3 e
  space.tell "draw_handler_remove" [handler, type]

def pointedArea? : Run (Option (Value × String × Value)) := do
 for area in <- iter (<- here "screen.areas") do
  let (border, k) <- placeInArea area (<- c "mousePosition")
  if border != "NONE" then return some (area, border, k)
 pure none

def chooseArea : Eval := do
 match <- pointedArea? c with
 | none => c.call "finish"
 | some (area, border, k) =>
  let chosen <-
   if border == "CENTER" then pure (some area)
   else tryCatch (newAreaAt area border k) fun _ => return none
  c.tell "finish"
  let some chosen := chosen
   | c.tell "report" [<- newSet ["INFO"], "Cannot create new area"]
     cancelled
  answerCallback c [chosen]
  finished

def drawRecordingHint : Act := do
 fontState "position" [0, 15, 30, 0]
 fontState "size" [0, 20]
 fontState "draw" [0, "Recording selection order. Press Esc to end."]

def areaControls : List RecordKind :=
 [titled "Select Area" none [words "callback"] [invoking fun c ctx _ => do
   addAreaHandlers c
   c.set "window" (<- ctx "window")
   (<- windowManager ctx).tell "modal_handler_add" [c]
   runningModal, act0 "registerDrawHandlers" addAreaHandlers,
  act0 "unregisterDrawHandlers" removeAreaHandlers,
  fn2 "modal context event" fun c _ ev => do
   redrawEverything
   c.set "mousePosition" (<- vector [<- ev "mouse_x", <- ev "mouse_y"])
   let type <- ev "type"
   if <- equal type "LEFTMOUSE" then return <- chooseArea c
   if <- among type ["RIGHTMOUSE", "ESC"] then return <- c.call "finish"
   runningModal,
  fn0 "finish" fun c => do
   removeAreaHandlers c
   finished,
  fn3 "createNewArea area border factor" fun _ area border k => newAreaAt area border.word k,
  fn0 "getSelection" fun c => do
   let some (area, border, k) <- pointedArea? c | return .tuple [.none, .none, .none]
   tuple [area, border, k],
  act0 "drawCallback" fun c => do
   let some point <- (Value.cell c).attr? "mousePosition" | return
   let ctx <- context
   if <- notEqual (<- ctx "window") (<- c "window") then return
   let area <- ctx "area"
   let region <- ctx "region"
   let x <- add (<- negate (<- region "x")) (<- area "x")
   let y <- add (<- negate (<- region "y")) (<- area "y")
   let (border, k) <- placeInArea area point
   if border != "NONE" then drawPlace area x y border k],
 titled "Record Selection Order" none [] [constant "timer" .none, constant "drawHandler" .none,
  fn2 "modal context event" fun c ctx ev => do
   let type <- ev "type"
   if <- equal type "ESC" then
    c.tell "cancel" [ctx]
    return <- cancelled
   if <- equal type "TIMER" then updateSelectionOrder (<- ctx "view_layer")
   passedThrough,
  invoking fun c ctx _ => do
   let manager <- windowManager ctx
   c.set "timer" (<- manager.call "event_timer_add" [0.001] [("window", <- ctx "window")])
   manager.tell "modal_handler_add" [c]
   c.set "drawHandler" (<- changeHostKind "SpaceView3D" "draw_handler_add"
    [.operation "drawCallback" [], .tuple [], "WINDOW", "POST_PIXEL"])
   ctx.bid "area.tag_redraw"
   runningModal,
  act1 "cancel context" fun c ctx => do
   (<- windowManager ctx).tell "event_timer_remove" [<- c "timer"]
   discard <| changeHostKind "SpaceView3D" "draw_handler_remove" [<- c "drawHandler", "WINDOW"]
   ctx.bid "area.tag_redraw"]]

abbrev Tally := List (String × Nat)

namespace Tally

variable (t : Tally) (name : String)

def count (amount : Nat := 1) : Tally :=
 if t.any (·.1 == name) then t.map fun (n, k) => if n == name then (n, k + amount) else (n, k)
 else t ++ [(name, amount)]

def amount : Nat := (t.lookup name).getD 0
def merge (u : Tally) : Tally := u.foldl (fun t (name, k) => t.count name k) t
def most (limit : Nat) : Tally := (t.mergeSort fun a b => a.2 ≥ b.2).take limit

end Tally

structure TreeCounts where
 name : String := ""
 (nodes links subprograms : Nat := 0)
 labels : Tally := []

namespace TreeCounts

def working (s : TreeCounts) : Int := s.nodes - s.labels.amount "Reroute" - s.labels.amount "Frame"

def merge (s t : TreeCounts) : TreeCounts :=
 { s with nodes := s.nodes + t.nodes, links := s.links + t.links, subprograms := s.subprograms + t.subprograms,
          labels := s.labels.merge t.labels }

def ofTree (tree : TreeId) : Run TreeCounts := do
 let nodes <- treeNodes tree
 let labels <- nodes.mapM fun n : NodeId => do textAt n "bl_label"
 let count (name : String) : Run Nat := do length (<- (Value.tree tree).attr name)
 return {
  name := <- literal (<- (Value.tree tree) "name")
  nodes := nodes.length
  links := <- count "links"
  subprograms := <- count "subprogramNetworks"
  labels := ((labels.foldl (fun (t : Tally) l => t.count l) []).count "Reroute" 0).count "Frame" 0 }

def row (s : TreeCounts) : Fields := [
 ("Tree", s.name), ("Nodes", s!"{s.working} / {s.nodes}"), ("Links", s.links),
 ("Subprograms", s.subprograms)]

end TreeCounts

def statisticsTable (scale : Float) (columns : List Column) (rows : List Fields) : Table where
 columns
 rows
 rowHeight := .float (22 * scale)
 headerHeight := .float (30 * scale)
 lineThickness := .float (1 * scale)
 cellPadding := .float (5 * scale)
 dataSize := 11
 headerSize := 14

def drawStatistics (x y : Value) : Act := do
 let scale <- toFloat (<- dpiFactor)
 let column (name : String) (w : Float) (align : String) : Column := ⟨name, w * scale, align⟩
 let trees <- (<- get).ownTrees.mapM TreeCounts.ofTree
 let sum := { trees.foldl TreeCounts.merge {} with name := "Sum:" }
 (statisticsTable scale
  [column "Tree" 200 "CENTER", column "Nodes" 80 "RIGHT", column "Links" 80 "RIGHT", column "Subprograms" 110 "RIGHT"]
  ((trees ++ [sum]).map (·.row))).draw x y
 let most := (sum.labels.most 10).zipIdx.map fun ((name, amount), i) =>
  [("#", toString (i + 1)), ("Node", name), ("Amount", amount)]
 (statisticsTable scale [column "#" 30 "RIGHT", column "Node" 170 "LEFT", column "Amount" 80 "RIGHT"] most).draw
  (<- add x (.float (500 * scale))) y

def statisticsShown : Ask := do truthy (<- register "statisticsShown")

def statisticsControl : RecordKind :=
 titled "Statistics Drawer"
  (some fun ctx => return (<- ctx.at "area.type").is "NODE_EDITOR" && !(<- statisticsShown)) []
  [invoking fun c ctx ev => do
   setRegister "statisticsShown" true
   c.set "drawHandler" (<- changeHostKind "SpaceNodeEditor" "draw_handler_add"
    [.member c "drawCallback", .tuple [], "WINDOW", "POST_PIXEL"])
   (<- windowManager ctx).tell "modal_handler_add" [c]
   let scale <- dpiFactor
   let top <- sub (<- ctx.at "region.height") (<- mul 40 scale)
   c.set "drawOffset" (<- vector [<- mul 20 scale, top])
   c.set "lastMousePosition" (<- vector [<- ev "mouse_region_x", <- ev "mouse_region_y"])
   c.set "enableViewDrag" false
   runningModal,
  idle "updateStatistics",
  fn2 "modal context event" fun c ctx ev => do
   let area <- ctx "area"
   unless area.isNone do area.tell "tag_redraw"
   let type <- ev "type"
   if <- among type ["RIGHTMOUSE", "ESC"] then return <- c.call "finish"
   let mouse <- vector [<- ev "mouse_region_x", <- ev "mouse_region_y"]
   if <- has type "CTRL" then
    let v <- ev "value"
    if <- equal v "PRESS" then c.set "enableViewDrag" true
    if <- equal v "RELEASE" then c.set "enableViewDrag" false
   let dragged <- holds c "enableViewDrag"
   if dragged then c.set "drawOffset" (<- add (<- c "drawOffset") (<- sub mouse (<- c "lastMousePosition")))
   c.set "lastMousePosition" mouse
   if dragged then runningModal else passedThrough,
  fn0 "finish" fun c => do
   discard <| changeHostKind "SpaceNodeEditor" "draw_handler_remove" [<- c "drawHandler", "WINDOW"]
   setRegister "statisticsShown" false
   finished,
  act0 "drawCallback" fun c => do
   let region <- here "region"
   let scale <- dpiFactor
   let height <- region "height"
   (<- Rectangle.ofValues 0 0 (<- region "width") height).draw
   drawText "Hold CTRL to drag the statistics - Press ESC or RMB to exit this view" (<- mul 10 scale)
    (<- sub height (<- mul 20 scale)) { color := .tuple [0, 0, 0, 0.5], size := 11 }
   let off <- c "drawOffset"
   drawStatistics (<- off "x") (<- off "y")]

end AnimationGraph
