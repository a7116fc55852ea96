import AnimationGraph.Catalogue.Basic
import AnimationGraph.Node.Vocabulary

/-! # Lines and texts in the editor

Sizes of texts and distances grow with the resolution of the screen.
-/

namespace AnimationGraph

structure Shown where
 title : String
 body : String := ""
 width? : Option Nat := none

namespace Shown

def isShort (s : String) : Bool := s.length < 20 && !s.contains '\n'
def ofText (s : String) : Shown := if isShort s then ⟨s, "", none⟩ else ⟨s!"Text Length: {s.length}", s, none⟩
def toValue (s : Shown) : Value := .tuple ([.str s.title, .str s.body] ++ (s.width?.map (.int ·)).toList)

end Shown

def angleText (w : Chars) (rot : Value) (i : Nat) : Run String := do
 fixedField w 2 (<- mul (<- item rot i) (180.0 / 3.141592653589793 : Float))

variable (v : Value)

def shownFraction : Run Shown := do
 let rounded <- match v.number? with
  | some (.real x) => pure (Value.float (Decimal.roundTo 5 x))
  | some (.whole i) => pure i
  | none => fail .type
 return ⟨<- text rounded, "", none⟩

def shownWhole : Run Shown := return ⟨<- text v, "", none⟩
def shownVector : Run Shown := return ⟨<- text v, "", some 260⟩

def shownEuler : Run Shown := do
 let x <- angleText [] v 0
 let y <- angleText [] v 1
 let z <- angleText [] v 2
 let order <- textAt v "order"
 pure ⟨s!"<Euler (x={x}°, y={y}°, z={z}°), order={order}>", "", some 340⟩

def shownMatrix : Run Shown := do
 return ⟨"Type: " ++ toString (<- count v "row") ++ "x" ++ toString (<- count v "col") ++ " Matrix", <- text v, some 330⟩

def shownText : Value -> Run Shown
 | .str s => return .ofText s
 | v => do
  let size <- length v
  if size < 20 then return ⟨<- text v, "", none⟩
  return ⟨s!"Text Length: {size}", <- text v, none⟩

def shownOther : Run Shown := do
 let c <- text v
 let kind <- text (<- (<- kindOf v) "__name__")
 return if Shown.isShort c then ⟨c, "", none⟩ else ⟨"Type: " ++ kind, c, none⟩

def shownValue : Run Shown := do
 match v with
 | .str s => return .ofText s
 | .float _ => shownFraction v
 | .int _ => shownWhole v
 | v => shownOther v

def isShownAsList : Value -> Ask
 | .tuple _ | .bytes _ | .sockets .. | .nodesOf _ | .linksOf _ | .kernel .. => pure true
 | .cell id => do
  match <- readCell id with
  | .list _ | .sequence _ | .numeric _ => pure true
  | .numbers shape _ => return shape != .color
  | _ => pure false
 | _ => pure false

def numberFields (mark : String) (k : Nat) (v : Value) : Run String := do
 let ps <- iter v
 let fs <- (List.range k).mapM fun i => do
  fixedField ['7'] 3 (<- need .index ps[i]?)
 return mark ++ "(" ++ commaList fs ++ ")"

def vectorLine : Run String := numberFields "V" 3 v
def quaternionLine : Run String := numberFields "Q" 4 v

def eulerLine : Run String := do
 let x <- angleText ['7'] v 0
 let y <- angleText ['7'] v 1
 return "E(" ++ x ++ "°, " ++ y ++ "°, " ++ (<- angleText ['7'] v 2) ++ "°, order = " ++ (<- textAt v "order") ++ ")"

variable (data : Value)

def elementLines (start k : Int) (w : Nat) : Run Texts := do
 if k == 0 then return []
 let part <- iter (<- item data (sliceValue start (start + k) .none))
 part.zipIdx.mapM fun (x, (i : Nat)) => return Edit.padLeft w (toString (start + i)) ++ ": " ++ (<- text x)

def positionWidth (i : Int) : Nat := (toString i).length

def shownList (first last : Int) : Run Shown := do
 let size : Int := <- length data
 let ls <-
  if size ≤ first + last then elementLines data 0 size (positionWidth (size - 1))
  else do
   let w := if last > 0 then positionWidth (size - 1) else positionWidth (first - 1)
   pure ((<- elementLines data 0 first w) ++ ["..."] ++ (<- elementLines data (size - last) last w))
 return ⟨(<- text (<- (<- kindOf data) "__name__")) ++ " - Length: " ++ toString size, "\n".intercalate ls, none⟩

def durationText (seconds : Value) : Eval := do
 if <- greater seconds 1.5 then return (<- fixedField [] 2 seconds) ++ " s"
 return (<- fixedField [] 4 (<- mul seconds 1000)) ++ " ms"

def drawBlended (s b : Value) (prepare : Act := pure ()) : Act := do
 drawingState "glEnable" ["GL_BLEND"]
 prepare
 b.tell "draw" [s]
 drawingState "glDisable" ["GL_BLEND"]

def shade (s : Value) (shape : String) (places c : Value) : Eval := do
 let b <- batch shape places
 s.tell "bind"
 s.tell "uniform_float" ["color", c]
 pure b

def positions (ps : List (Value × Value)) : Eval := newDict [("pos", .tuple (ps.map fun (x, y) => .tuple [x, y]))]
def lineWidth : Eval := do here "preferences.system.pixel_size"

def drawLine (x1 y1 x2 y2 c thickness : Value) : Act := do
 let s <- shader "2D_UNIFORM_COLOR"
 let b <- batch "LINES" (<- positions [(x1, y1), (x2, y2)])
 s.tell "bind"
 if <- truthy c then s.tell "uniform_float" ["color", c]
 let thick <- truthy thickness
 if thick then drawingState "glLineWidth" [<- absolute thickness]
 drawBlended s b
 if thick then drawingState "glLineWidth" [1]

def drawHorizontalLine (x y len c thick : Value) : Act := do drawLine x y (<- add x len) y c thick
def drawVerticalLine (x y len c thick : Value) : Act := do drawLine x y x (<- add y len) c thick

def drawPolygon (corners c : Value) : Act := do
 let s <- shader "2D_UNIFORM_COLOR"
 let first <- item corners (sliceValue .none 2 .none)
 let rest <- item (<- item corners (sliceValue 2 .none .none)) (sliceValue .none .none (-1))
 drawBlended s (<- shade s "TRI_STRIP" (<- newDict [("pos", <- add first rest)]) c)

structure TextStyle where
 font : Value := 0
 align : Value := "LEFT"
 vertical : Value := "BASELINE"
 size : Value := 12
 color : Value := .tuple [1, 1, 1, 1]

def drawText (c x y : Value) (style : TextStyle := {}) : Act := do
 let shown <- text c
 fontState "size" [style.font, <- mul style.size (<- dpiFactor)]
 fontState "color" (style.font :: (<- iter style.color))
 if style.align.is "LEFT" && style.vertical.is "BASELINE" then fontState "position" [style.font, x, y, 0]
 else
  let w := textWidth shown
  let left <-
   if style.align.is "RIGHT" then sub x w
   else if style.align.is "CENTER" then sub x (.float (w / 2))
   else pure x
  let bottom <- if style.vertical.is "CENTER" then sub y (.float (textHeight * 0.75)) else pure y
  fontState "position" [style.font, left, bottom, 0]
 fontState "draw" [style.font, shown]

def drawingOperations : Operations :=
 [proc "drawHorizontalLine x y length color? thickness?" fun b => drawHorizontalLine (b 0) (b 1) (b 2) (b 3) (b 4),
 proc "drawVerticalLine x y length color? thickness?" fun b => drawVerticalLine (b 0) (b 1) (b 2) (b 3) (b 4),
 proc "drawLine x1 y1 x2 y2 color? thickness?" fun b => drawLine (b 0) (b 1) (b 2) (b 3) (b 4) (b 5),
 proc2 "drawPolygon vertices color" drawPolygon,
 proc ⟨"drawText", ["text", "x", "y", opt "font" 0, opt "align" "LEFT", opt "verticalAlignment" "BASELINE", opt "size" 12, opt "color" (.tuple [1, 1, 1, 1])]⟩ fun b =>
  drawText (b 0) (b 1) (b 2) ⟨b 3, b 4, b 5, b 6, b 7⟩,
 asking "getDpiFactor" dpiFactor, asking "getLineWidth" lineWidth]

structure Rectangle where
 (x1 y1 x2 y2 : Float := 0)

namespace Rectangle

variable (r : Rectangle)

def width : Float := (r.x1 - r.x2).abs
def height : Float := (r.y1 - r.y2).abs
def left : Float := if r.x2 < r.x1 then r.x2 else r.x1
def right : Float := if r.x2 > r.x1 then r.x2 else r.x1
def top : Float := if r.y2 > r.y1 then r.y2 else r.y1
def bottom : Float := if r.y2 < r.y1 then r.y2 else r.y1
def centerX : Float := (r.x1 + r.x2) / 2
def centerY : Float := (r.y1 + r.y2) / 2

def inset (k : Float) : Rectangle := ⟨r.left + k, r.top - k, r.right - k, r.bottom + k⟩
def corners : List (Value × Value) := [(r.x1, r.y1), (r.x2, r.y1), (r.x1, r.y2), (r.x2, r.y2)]

def border (off reach : Float) : List (Value × Value) := [
 (r.x1 - reach, r.y1 + off), (r.x2 + reach, r.y1 + off), (r.x2 + off, r.y1 + reach),
 (r.x2 + off, r.y2 - reach), (r.x2 + reach, r.y2 - off), (r.x1 - reach, r.y2 - off),
 (r.x1 - off, r.y2 - reach), (r.x1 - off, r.y1 + reach)].map fun (x, y) => ((x : Value), (y : Value))

def usualColor : Value := .tuple [0.8, 0.8, 0.8, 1.0]
def usualBorderColor : Value := .tuple [0.1, 0.1, 0.1, 1.0]

def draw (c color : Value := usualColor) (thick : Value := 0) : Act := do
 let s <- shader "2D_UNIFORM_COLOR"
 drawBlended s (<- shade s "TRI_STRIP" (<- positions r.corners) c)
 if <- equal thick 0 then return
 let off <- floorDiv thick 2
 let reach <- if <- greater thick 0 then mul off 2 else pure 0
 let b <- shade s "LINES" (<- positions (r.border (<- toFloat off) (<- toFloat reach))) color
 drawBlended s b (do drawingState "glLineWidth" [<- absolute thick])

def ofValues (x1 y1 x2 y2 : Value) : Run Rectangle := return ⟨<- toFloat x1, <- toFloat y1, <- toFloat x2, <- toFloat y2⟩
def fields : Fields := [("x1", r.x1), ("y1", r.y1), ("x2", r.x2), ("y2", r.y2)]
def toValue : Eval := newRecord "Rectangle" r.fields
def ofRecord (c : CellId) : Run Rectangle := do ofValues (<- c "x1") (<- c "y1") (<- c "x2") (<- c "y2")

end Rectangle

def cornerParams : List Parameter := [opt "x1" 0, opt "y1" 0, opt "x2" 0, opt "y2" 0]

def rectangleMembers : Members CellId :=
 let measure (name : String) (f : Rectangle -> Float) : Feature CellId :=
  prop name fun c => return f (<- Rectangle.ofRecord c)
 [measure "width" (·.width), measure "height" (·.height), measure "left" (·.left), measure "right" (·.right),
 measure "top" (·.top), measure "bottom" (·.bottom), measure "centerX" (·.centerX), measure "centerY" (·.centerY),
 prop "center" fun c => do
  let r <- Rectangle.ofRecord c
  vector [r.centerX, r.centerY],
 action ⟨"resetPosition", cornerParams⟩ fun c b => do
  for (name, v) in (<- Rectangle.ofValues (b 0) (b 1) (b 2) (b 3)).fields do c.set name v,
 fn0 "copy" fun c => do (<- Rectangle.ofRecord c).toValue,
 fn1 "getInsetRectangle amount" fun c k => do ((<- Rectangle.ofRecord c).inset (<- toFloat k)).toValue,
 fn1 "contains point" fun c p => do
  let r <- Rectangle.ofRecord c
  let within (low high v : Value) : Ask := lessEqual low v <&&> lessEqual v high
  return <- (do within r.left r.right (<- item p 0)) <&&> (do within r.bottom r.top (<- item p 1)),
 action ⟨"draw", [opt "color" Rectangle.usualColor, opt "borderColor" Rectangle.usualBorderColor, opt "borderThickness" 0]⟩ fun c b => do
  (<- Rectangle.ofRecord c).draw (b 0) (b 1) (b 2),
 fn0 "__repr__" fun c => do
  let r <- Rectangle.ofRecord c
  let p (x y : Float) : String := "(" ++ Decimal.text x ++ ", " ++ Decimal.text y ++ ")"
  pure (p r.x1 r.y1 ++ " - " ++ p r.x2 r.y2)]

def newFrameRange (r : Rectangle) (first last : Value) : Eval := do
 unless <- lessEqual first last do fail .assertion
 newRecord "FrameRangeRectangle" (r.fields ++ [("startFrame", first), ("endFrame", last)])

variable (c : CellId) (fr : Value)

def frameX : Eval := do
 let k <- c "frameAmount"
 unless <- greater k 0 do fail .assertion
 let r <- Rectangle.ofRecord c
 add (<- mul (<- div (<- sub fr (<- c "startFrame")) k) r.width) r.left

def clampedFrame : Eval := do minOf (<- maxOf fr (<- c "startFrame")) (<- c "endFrame")

def subRange (first last : Value) : Eval := do
 let r <- Rectangle.ofRecord c
 newFrameRange (<- Rectangle.ofValues (<- frameX c first) r.top (<- frameX c last) r.bottom) first last

structure TextBox where
 content : String
 (x y width : Value)
 fontSize : Int
 maxRows : Value := 1e5
 borderColor : Value := .tuple [0.9, 0.76, 0.4, 1.0]
 borderThickness : Value := -1

namespace TextBox

def font : Value := 1
def padding : Float := 5
def columns (b : TextBox) : Run Int := do toInt (<- div (<- sub b.width 10) (.float (textWidth "abcde" / 5)))

def wrapped (cols : Int) (paragraph : String) : Texts :=
 if .ofNat paragraph.length ≤ cols then [paragraph]
 else
  match Wrap.lines paragraph (max cols 1).toNat with
  | [] => [""]
  | ls => ls

def linesFrom (cols : Int) (maxRows : Value) : Texts -> Texts -> Run Texts
 | done, [] => pure done
 | done, paragraph :: rest => do
  let done := done ++ wrapped cols paragraph
  unless <- greater done.length maxRows do return <- linesFrom cols maxRows done rest
  let kept <- item (.tuple (done.map .str)) (sliceValue .none (<- sub maxRows 1) .none)
  if cols ≤ 0 then fail .value
  return (<- textsOf kept) ++ Wrap.lines "Some rows don't fit" cols.toNat

def lines (b : TextBox) : Run Texts := do linesFrom (<- b.columns) b.maxRows [] (Letters.lines b.content)

def draw (b : TextBox) : Run Float := do
 fontState "size" [font, <- mul b.fontSize (<- dpiFactor)]
 let ls <- b.lines
 let height <- toFloat (<- mul (<- mul b.fontSize (<- dpiFactor)) 1.2)
 let below <- sub (<- sub b.y (.float (ls.length.toFloat * height))) (.float (2 * padding))
 let boundary <- Rectangle.ofValues b.x b.y (<- add b.x b.width) below
 boundary.draw (.tuple [0.9, 0.9, 0.9, 0.6]) b.borderColor b.borderThickness
 let inner := boundary.inset padding
 fontState "color" [font, 0, 0, 0, 1]
 for (line, i) in ls.zipIdx do
  fontState "position" [font, inner.left, inner.top - i.toFloat * height - textHeight, 0]
  fontState "draw" [font, line]
 pure boundary.height

end TextBox

structure Column where
 name : String
 width : Value
 align : String

structure Table where
 columns : List Column
 rows : List Fields
 (rowHeight headerHeight lineThickness cellPadding dataSize headerSize : Value)

namespace Table

def lineColor : Value := .tuple [0, 0, 0, 0.3]
def width (t : Table) : Eval := t.columns.foldlM (fun w c => add w c.width) 0

variable (t : Table)

def height : Eval := do add (<- mul t.rowHeight t.rows.length) t.headerHeight

def placed (start : Value) : Run (List (Column × Value) × Value) := do
 let mut off := start
 let mut found : Array (Column × Value) := #[]
 for c in t.columns do
  found := found.push (c, off)
  off <- add off c.width
 pure (found.toList, off)

def drawCell (c x y : Value) (align : String) (size : Value) : Act :=
 drawText c x y { align, size, color := .tuple [0.1, 0.1, 0.1, 0.9], vertical := "CENTER" }

def rowAt (y part : Value) : Eval := do sub (<- sub y t.headerHeight) (<- mul part t.rowHeight)

def drawLines (x y : Value) : Act := do
 let down <- negate (<- t.height)
 let (cols, right) <- t.placed 0
 for off in cols.map (·.2) ++ [right] do drawVerticalLine (<- add x off) y down lineColor t.lineThickness
 let w <- t.width
 drawHorizontalLine x y w lineColor t.lineThickness
 drawHorizontalLine x (<- sub y t.headerHeight) w lineColor t.lineThickness
 for i in List.range t.rows.length do drawHorizontalLine x (<- t.rowAt y (.int (i + 1))) w lineColor t.lineThickness

def drawHeader (x y : Value) : Act := do
 for (c, left) in (<- t.placed x).1 do
  drawCell c.name (<- add left (<- div c.width 2)) (<- sub y (<- div t.headerHeight 2)) "CENTER" t.headerSize

def cellAt (c : Column) (left : Value) : Eval := do
 match c.align with
 | "LEFT" => add left t.cellPadding
 | "CENTER" => add left (<- div c.width 2)
 | "RIGHT" => add left (<- sub c.width t.cellPadding)
 | _ => pure left

def drawRows (x y : Value) : Act := do
 for (row, i) in t.rows.zipIdx do
  let middle <- t.rowAt y (.float (i.toFloat + 0.5))
  for (c, off) in (<- t.placed 0).1 do
   drawCell ((row.lookup c.name).getD "-") (<- t.cellAt c (<- add x off)) middle c.align t.dataSize

def draw (t : Table) (x y : Value) : Act := do
 (<- Rectangle.ofValues x y (<- add x (<- t.width)) (<- sub y (<- t.height))).draw
 t.drawLines x y
 t.drawHeader x y
 t.drawRows x y

end Table

def evenlySpaced (first last : Float) (k : Nat) : List Float :=
 let step := (last - first) / (k - 1).toFloat
 (List.range k).map fun i =>
  if 0 < i && i + 1 == k then last else i.toFloat * (if k ≤ 1 then last - first else step) + first

def singlePrecision (x : Float) : Float := x.toFloat32.toFloat

def measurePreview : Act := do
 let xs <- c "samples"
 let lowest <- xs.call "getMinValue"
 let highest <- xs.call "getMaxValue"
 let height <- c "normalHeight"
 let padding <- c "padding"
 let below <- absolute (<- mul (<- minOf 0 lowest) height)
 let above <- absolute (<- mul (<- maxOf 0 (<- sub highest 1)) height)
 let x1 <- getPath c "position.x"
 let x2 <- add x1 (<- c "width")
 let y1 <- getPath c "position.y"
 let y2 <- sub (<- sub (<- sub y1 height) below) above
 (<- c "boundary").tell "resetPosition" [x1, y1, x2, y2]
 c.set "interpolationLeft" x1
 c.set "interpolationRight" x2
 c.set "interpolationTop" (<- sub (<- sub y1 above) padding)
 c.set "interpolationBottom" (<- add (<- add y2 below) padding)

def drawCurve : Act := do
 let xs := evenlySpaced (<- toFloat (<- c "interpolationLeft")) (<- toFloat (<- c "interpolationRight"))
  (<- natArg (<- c "resolution"))
 let top <- toFloat (<- c "interpolationTop")
 let bottom <- toFloat (<- c "interpolationBottom")
 let samples <- (<- iter (<- (<- c "samples").call "asNumpyArray")).mapM toFloat
 if samples.length != xs.length then fail .value
 let ps := (xs.zip samples).map fun (x, v) =>
  .tuple [singlePrecision x, singlePrecision (top + (v - 1) * (top - bottom))]
 let s <- shader "2D_UNIFORM_COLOR"
 let b <- shade s "LINE_STRIP" (<- newDict [("pos", <- newCell (.numeric ps.toArray))]) (.tuple [0.2, 0.2, 0.2, 0.8])
 drawingState "glLineWidth" [2]
 drawingState "glEnable" ["GL_BLEND"]
 drawingState "glEnable" ["GL_LINE_SMOOTH"]
 b.tell "draw" [s]
 drawingState "glDisable" ["GL_LINE_SMOOTH"]
 drawingState "glDisable" ["GL_BLEND"]
 drawingState "glLineWidth" [1]

def drawRange : Act := do
 let boundary <- c "boundary"
 let left <- boundary "left"
 let right <- boundary "right"
 let top <- c "interpolationTop"
 let bottom <- c "interpolationBottom"
 let s <- shader "2D_UNIFORM_COLOR"
 let ends <- positions [(left, top), (right, top), (left, bottom), (right, bottom)]
 let b <- shade s "LINES" ends (.tuple [0.2, 0.2, 0.2, 0.5])
 drawingState "glLineWidth" [1]
 drawBlended s b

def extensionKind (name : String) (ps : List Parameter)
  (draw : CellId -> Value -> Value -> Value -> Eval) : RecordKind where
 name
 construct := some fun args => do
  let b <- bindArgs ps args
  newRecord name (ps.zipIdx.map fun (p, i) => (p.name, b i))
 members := [fn3 "draw node position width" draw]

def boxAt (c : CellId) (fontSize node pos width : Value) : Run TextBox := do
 let size <- mul (<- div fontSize (<- node.at "dimensions.x")) width
 let content <- textArg (<- c "text")
 let x <- pos "x"
 let y <- pos "y"
 return { content, x, y, width, fontSize := <- toInt size }

def drawAction (c : CellId) (pos w : Value) : Act := do
 let act <- c "action"
 let (x, y) <- unpack2 pos
 let height : Value := 35
 let eval <- act.call "getEvaluator" [<- act.call "getChannels"]
 for i in List.range 5 do
  let top <- sub (<- sub y (<- mul i height)) 2
  let bottom <- add (<- sub y (<- mul (.int (i + 1)) height)) 2
  let range <- newFrameRange (<- Rectangle.ofValues x top (<- add x w) bottom) 0 250
  range.tell "draw" [] [("color", .tuple [0.3, 0.3, 0.3, 1])]
  eval.tell "drawPreview" [i, range]

def extensionKinds : List RecordKind := [
 extensionKind "NodeUIExtension" [] fun _ _ _ _ => fail .notImplemented,
 extensionKind "InterpolationUIExtension" ["interpolation", "resolution"] fun c _ pos w => do
  let preview <- make "InterpolationPreview" [<- c "interpolation", pos, w, <- c "resolution"]
  preview.tell "calculateBoundaries"
  preview.tell "draw"
  preview.call "getHeight",
 extensionKind "TextUIExtension" ["text", opt "fontSize" 12, opt "maxRows" 150] fun c node pos w => do
  TextBox.draw { (<- boxAt c (<- c "fontSize") node pos w) with maxRows := <- c "maxRows" },
 extensionKind "ErrorUIExtension" ["text"] fun c node pos w => do
  TextBox.draw { (<- boxAt c 12 node pos w) with borderColor := .tuple [0.8, 0.2, 0.2, 1], borderThickness := 2 },
 extensionKind "ActionUIExtension" ["action"] fun c _ pos w => do
  drawAction c pos w
  pure 0]

def lowerCorners (node region scale : Value) : Run (Value × Value) := do
 let loc <- mul (<- node "viewLocation") scale
 let size <- node "dimensions"
 let x <- loc "x"
 let y <- sub (<- loc "y") (<- size "y")
 let toRegion <- region.at "view2d.view_to_region"
 let corner (x : Value) : Eval := do vector (<- iter (<- toRegion.apply [x, y] [("clip", false)]))
 return (<- corner x, <- corner (<- add x (<- size "x")))

def drawExtensionsOf (node extensions pos w : Value) : Act := do
 for ext in <- iter extensions do
  let height <- ext.call "draw" [node, pos, w]
  pos.set "y" (<- sub (<- pos "y") height)

def drawExtensions : Act := do
 let tree <- (<- context).call "getActiveAnimationNodeTree"
 if tree.isNone then return
 let region <- here "region"
 let scale <- dpiFactor
 for node in <- each tree "nodes" do
  if <- holds node "isAnimationNode" then
   let extensions <- node.call "getAllUIExtensions"
   if 0 < (<- length extensions) then
    let (pos, right) <- lowerCorners node region scale
    drawExtensionsOf node extensions pos (<- sub (<- right "x") (<- pos "x"))

def drawExecutionTime : Act := do
 let tree <- (<- context).call "getActiveAnimationNodeTree"
 if tree.isNone then return
 let scale <- dpiFactor
 let top <- here "region.height"
 let time <- durationText (<- tree.at "lastExecutionInfo.executionTime")
 drawText time (<- mul 10 scale) (<- sub top (<- mul 20 scale)) { size := 11, color := .tuple [1, 1, 1, 0.5] }

def drawMeshIndices : Act := do
 let prefs <- getPath (.cell (<- get).preferences) "drawHandlers.meshIndices"
 let ps := [("drawVertices", "drawVertexIndices_ObjectMode", "verticesColor"),
  ("drawEdges", "drawEdgeIndices_ObjectMode", "edgesColor"),
  ("drawPolygons", "drawPolygonIndices_ObjectMode", "polygonsColor")]
 let isShown <- ps.anyM fun (shown, _) => do truthy (<- prefs.attr shown)
 unless isShown do return
 for o in <- iter (<- here "selected_objects") do
  if <- (fits o "type" "MESH") <&&> (fits o "mode" "OBJECT") then
   for (shown, name, c) in ps do
    if <- truthy (<- prefs.attr shown) then
     affect name [o] [("color", <- prefs.attr c), ("fontSize", <- prefs "fontSize")]

def graphicsKinds : List RecordKind := [
{ name := "Rectangle"
  construct := some fun args => do
   let b <- bindArgs cornerParams args
   (<- Rectangle.ofValues (b 0) (b 1) (b 2) (b 3)).toValue
  statics := [
   fn1 "fromRegionDimensions region" fun _ region => do
    (<- Rectangle.ofValues 0 0 (<- region "width") (<- region "height")).toValue]
  members := rectangleMembers },
{ name := "FrameRangeRectangle"
  construct := some fun args => do
   let b <- bindArgs ["x1", "y1", "x2", "y2", "startFrame", "endFrame"] args
   unless <- lessEqual (b 4) (b 5) do fail .assertion
   newFrameRange (<- Rectangle.ofValues (b 0) (b 1) (b 2) (b 3)) (b 4) (b 5)
  members := [
  fn0 "copy" fun c => do newFrameRange (<- Rectangle.ofRecord c) (<- c "startFrame") (<- c "endFrame"),
  prop "frameAmount" fun c => do sub (<- c "endFrame") (<- c "startFrame"),
  fn1 "getFrameX frame" frameX, fn1 "clampFrame frame" clampedFrame,
  fn2 "getFrameRange start end" subRange,
  fn2 "getClampedSubFrameRange start end" fun c first last => do
   subRange c (<- clampedFrame c first) (<- clampedFrame c last),
  act1 "shiftFrameRange offset" fun c off => do
   c.set "startFrame" (<- add (<- c "startFrame") off)
   c.set "endFrame" (<- add (<- c "endFrame") off),
  act2 "setFrameRange startFrame endFrame" fun c first last => do
   unless <- lessEqual first last do fail .assertion
   c.set "startFrame" first
   c.set "endFrame" last] ++ rectangleMembers },
{ name := "InterpolationPreview"
  construct := some fun args => do
   let b <- bindArgs ["interpolation", "position", "width", "resolution"] args
   let boundary <- Rectangle.toValue {}
   let xs <- (b 0).call "sample" [] [("amount", b 3)]
   newRecord "InterpolationPreview"
    [("interpolation", b 0), ("position", b 1), ("width", b 2), ("normalHeight", b 2),
    ("resolution", b 3), ("padding", 5), ("boundary", boundary), ("samples", xs)]
  members := [
  act0 "calculateBoundaries" measurePreview,
  fn0 "getHeight" fun c => getPath c "boundary.height",
  action ⟨"draw", [opt "backgroundColor" (.tuple [0.9, 0.9, 0.9, 0.6]), opt "borderColor" (.tuple [0.9, 0.76, 0.4,
   1.0]), opt "borderThickness" (-1)]⟩ fun c b => do
   (<- c "boundary").tell "draw" [] [("color", b 0), ("borderColor", b 1), ("borderThickness", b 2)]
   c.tell "drawInterpolationCurve"
   c.tell "drawRangeLines",
  act0 "drawInterpolationCurve" drawCurve, act0 "drawRangeLines" drawRange] }] ++ extensionKinds

def graphicsOperations : Operations :=
 let corner (name : String) (pick : Value × Value -> Value) : Service :=
  op s!"{name} node region" fun b => return pick (<- lowerCorners (b 0) (b 1) (<- dpiFactor))
 drawingOperations ++
 [doing "drawNodeUIExtensions" drawExtensions, doing "drawNodeEditorHud" drawExecutionTime,
 doing "drawIndicesOfSelectedObjects" drawMeshIndices,
 corner "getNodeCornerLocation_BottomLeft" (·.1), corner "getNodeCornerLocation_BottomRight" (·.2),
 op "getNodeBottomCornerLocations node region dpiFactor" fun b => do
  let (left, right) <- lowerCorners (b 0) (b 1) (b 2)
  tuple [left, right]]

end AnimationGraph
