import AnimationGraph.Node.Vocabulary

/-! # Transformations

Matrices that place, turn and scale, mixtures of two rotations, and the curves that hold the values of properties over
time.
-/

namespace AnimationGraph

def scalingMatrix (size : Nat) (scale : Value) : Eval := do
 let m <- kernel "Matrix.Identity" [size]
 for i in List.range 3 do setItem (<- item m i) i (<- item scale i)
 pure m

def composedMatrix (loc rot scale : Value) : Eval := do
 let scaling <- scalingMatrix 3 scale
 let m <- (<- matMul (<- rot.call "to_matrix") scaling).call "to_4x4"
 for i in List.range 3 do setItem (<- item m i) 3 (<- item loc i)
 pure m

def turningMatrix (rot : Value) : Eval := do
 let z <- kernel "Matrix.Rotation" [<- item rot 2, 4, "Z"]
 let zy <- matMul z (<- kernel "Matrix.Rotation" [<- item rot 1, 4, "Y"])
 matMul zy (<- kernel "Matrix.Rotation" [<- item rot 0, 4, "X"])

def mixMatrices (first second factors k : Value) : Eval := do
 let results <- sized "Matrix4x4List" k
 for i in <- span k do setItem results i (<- (<- item first i).call "lerp" [<- item second i, <- item factors i])
 pure results

variable (a b factor : Value)

def mixed : Eval := do add (<- mul a (<- sub 1 factor)) (<- mul b factor)

def blendEulers : Eval := do
 newEuler (<- ["x", "y", "z"].mapM fun axis => do mixed (<- a.attr axis) (<- b.attr axis) factor) (<- textAt a "order")

def blendQuaternions : Eval := do
 let read (v : Value) (name : String) : Run Float := do toFloat (<- v.attr name)
 let ns := ["x", "y", "z", "w"]
 let as <- ns.mapM (read a)
 let bs <- ns.mapM (read b)
 let products := (as.zip bs).map fun (x, y) => x * y
 let dot : Float := (products.drop 1).foldl (· + ·) (products.headD 0.0)
 let t <- toFloat factor
 if dot.abs < 0.999 then
  let angle := dot.abs.acos
  let inverse := 1.0 / angle.sin
  let p := ((1.0 - t) * angle).sin * inverse
  let q := inverse * (t * angle).sin
  let q := if dot < 0.0 then -q else q
  newQuaternion <| ["w", "x", "y", "z"].map fun name =>
   let at_ (vs : List Float) := ((ns.zip vs).lookup name).getD 0.0
   .float (at_ as * p + at_ bs * q)
 else newQuaternion (<- ["w", "x", "y", "z"].mapM fun name => do mixed (<- a.attr name) (<- b.attr name) factor)

def pairNumber : Eval := do
 let sum <- add a b
 let half <- div (<- mul sum (<- add sum 1)) 2
 toInt (<- add half b)

abbrev UsualFields := List (String × Eval)
def usual (name : String) (v : Value) : String × Eval := (name, pure v)

def recordOf (kind : String) (fs : UsualFields) (args : Args) : Eval := do
 let b <- bindArgs (fs.map fun (name, _) => opt name .none) args
 let vs <- (fs.zipIdx).mapM fun ((name, standIn), i) => do
  return (name, <- if (b i).isNone then standIn else pure (b i))
 newRecord kind vs

def fieldValues (r : CellId) (ns : Texts) : Evals := ns.mapM r.attr
def copies (v : Value) : Eval := mapList v (·.call "copy")
def blackColor : Eval := newColor [0, 0, 0, 0]

def strokePointFields : UsualFields := [
 ("vertices", kernel "Vector3DList"), ("strengths", kernel "FloatList"), ("pressures", kernel "FloatList"),
 ("uvRotations", kernel "FloatList"), ("vertexColors", kernel "ColorList")]

def strokeFields : UsualFields :=
 strokePointFields ++
  [usual "lineWidth" 250, usual "hardness" 1, usual "useCyclic" false, usual "startCapMode" "ROUND",
  usual "endCapMode" "ROUND", ("vertexColorFill", blackColor), usual "materialIndex" 0,
  usual "displayMode" "3DSPACE"]

def newStroke (vs : Values) (named : Fields := []) : Eval := recordOf "GPStroke" strokeFields { pos := vs, named }

def layerFields : UsualFields := [
 usual "layerName" "AN-Layer", ("frames", list []), usual "blendMode" "REGULAR", usual "opacity" 1,
 usual "useLights" true, ("tintColor", blackColor), usual "tintFactor" 0, usual "lineChange" 0,
 usual "passIndex" 0, usual "invertAsMask" false, ("maskLayers", list [])]

def pencilKind (name : String) (fs : UsualFields) (copy : CellId -> Evals) (more : Members CellId := []) :
  RecordKind where
 name
 construct := recordOf name fs
 members := (fn0 "copy" fun r => do recordOf name fs { pos := <- copy r }) :: more ++ [fn0 "__repr__" fun r : CellId => literal r]

def pencilKinds : List RecordKind := [
 pencilKind "GPStroke" strokeFields fun r => do
  let ps <- (<- fieldValues r (strokePointFields.map (·.1))).mapM (·.call "copy")
  return ps ++ (<- fieldValues r ((strokeFields.drop strokePointFields.length).map (·.1))),
 pencilKind "GPFrame" [("strokes", list []), usual "frameNumber" 0] fun r => return [<- copies (<- r "strokes"), <- r "frameNumber"],
 pencilKind "GPLayer" layerFields
  (fun r => do
   let fs <- copies (<- r "frames")
   layerFields.mapM fun (name, _) => if name == "frames" then pure fs else r.attr name)
  [fn0 "isEmptyLayer" fun r => do
   return !(<- (<- each r "frames").anyM fun fr => return (<- count fr "strokes") > 0)]]

/-! ## Animation curves -/

variable (object : Value)

def allCurves : Evals := tryCatch (do iter (<- object.at "animation_data.action.fcurves")) fun _ => pure []

def isAnimated (b : Value) : Ask := do
 unless <- truthy b do return false
 let data <- b "animation_data"
 unless <- truthy data do return false
 let act <- data "action"
 if <- truthy act then if (<- count act "fcurves") != 0 then return true
 if (<- count data "drivers") != 0 then return true
 return (<- count data "nla_tracks") != 0

variable (path : Value) (curves : Values) (name : String) (fr : Value)

def curvesOf : Evals := do
 let cache <- table "curveCache"
 let key : Value := .tuple [<- object "type", <- object "name", path]
 if <- has cache key then return <- iter (<- item cache key)
 let found <- (<- allCurves object).filterM (fits · "data_path" path)
 setItem cache key (<- list found)
 pure found

def curveAt? (i : Value) : Run (Option Value) := do
 for c in curves do if <- fits c "array_index" i then return some c
 pure none

def componentAtFrame (i fr : Value) : Eval := do
 match <- curveAt? curves i with
 | some c => c.call "evaluate" [fr]
 | none => item (<- object.attr (<- text path)) i

def arrayAtFrame (size : Value := 3) : Eval := do
 let curves <- curvesOf object path
 list (<- (<- span size).mapM (componentAtFrame object path curves · fr))

def singleAtFrame : Eval := do
 match <- curvesOf object path with
 | [] => object.attr (<- text path)
 | c :: _ => c.call "evaluate" [fr]

def arraysAtFrames (fs : Value) (size : Value := 3) : Eval := do
 let fs <- iter fs
 let curves <- curvesOf object path
 let mut columns : List Values := []
 for j in <- span size do
  let column <- match <- curveAt? curves j with
   | some c => fs.mapM (c.call "evaluate" [·])
   | none => do
    let v <- item (<- object.attr (<- text path)) j
    pure (fs.map fun _ => v)
  columns := columns ++ [column]
 list (<- (List.range fs.length).mapM fun i => list (columns.map (·[i]?.getD .none)))

def forgetCurves : Act := setRegister "curveCache" .none

def firstCurve : Eval := do
 let cache <- table "curveCache"
 let key : Value := .tuple [<- object "type", <- object "name", path, "first"]
 if <- has cache key then return <- item cache key
 for c in <- allCurves object do
  if <- fits c "data_path" path then
   setItem cache key c
   return c
 pure .none

def removeCurve : Act := do
 let c <- firstCurve object path
 attempt do object.bid "animation_data.action.fcurves.remove" [c]

def dropCustomProperty : Act := do
 if <- has object name then delItem object name
 removeCurve object (<- dataPath name)

def newCustomCurve (d : Value) : Act := do
 dropCustomProperty object name
 setItem object name d
 object.tell "keyframe_insert" [] [("frame", 0), ("data_path", <- dataPath name)]

def objectContainer (sc : Value) : Eval := do
 let name := "Animation Nodes Object Container"
 let all := Value.cell (<- dataCollection "collections")
 let mut box <- all.call "get" [name]
 if box.isNone then box <- all.call "new" [name]
 let cs <- sc.at "collection.children"
 unless <- has cs (<- box "name") do cs.tell "link" [box]
 pure box

def helperMaterialName : Value := "Helper Material for Animation Nodes"

def makeHelperMaterial : Eval := do
 let mat <- (<- blocks "materials").call "new" [helperMaterialName]
 mat.set "use_nodes" true
 mat.set "use_fake_user" true
 pure mat

def helperMaterial : Eval := do
 let found <- (<- blocks "materials").call "get" [helperMaterialName]
 if found.isSome then pure found else makeHelperMaterial

def hitsOnRay (tree dir off : Value) : Nat -> Value -> Nat -> Run Nat
 | 0, _, hits => pure hits
 | fuel + 1, start, hits => do
  let loc <- item (<- tree.call "ray_cast" [start, dir]) 0
  if loc.isNone then return hits
  hitsOnRay tree dir off fuel (<- add loc off) (hits + 1)

def liesInVolume (tree p : Value) : Eval := do
 let hits (axis : Values) : Run Nat := do
  let dir <- vector axis
  hitsOnRay tree dir (<- mul dir 0.0001) 10000 p 0
 let first <- hits [1, 0, 0]
 if first == 0 then return false
 if first == 1 then return true
 if first % 2 == (<- hits [0, 1, 0]) % 2 then return first % 2 == 1
 return (<- hits [0, 0, 1]) % 2 == 1

end AnimationGraph
