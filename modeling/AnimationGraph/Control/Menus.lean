import AnimationGraph.Control.Choosers

/-! # Menus that add nodes

Every menu is a list of entries.
-/

namespace AnimationGraph

inductive MenuEntry where
 | node (text : String) (kind : String := camelCase text) (settings : Fields := [])
 | line
 | submenu (id text : String)

open MenuEntry

abbrev MenuEntries := List MenuEntry
instance : Coe MenuEntry MenuEntries := ⟨([·])⟩
instance : Coe String MenuEntries := ⟨([node ·])⟩
instance : Coe (String × String) MenuEntries := ⟨fun (text, kind) => [node text kind]⟩

def drawAddNode (l : LayoutId) (kind text : String) (opts : Fields) : Act := do
 let button <- l.operator "node.add_node" (badge text "NONE")
 button.set "type" kind
 button.set "use_transform" true
 for (name, v) in opts do
  let setting <- button.call "settings.add"
  setting.set "name" name
  setting.set "value" (<- literal v)

namespace MenuEntry

def draw (l : LayoutId) : MenuEntry -> Act
 | node text kind opts => drawAddNode l s!"an_{kind}Node" text opts
 | line => l.separator
 | submenu id text => l.menu s!"AN_MT_{id}" [("text", text)]

end MenuEntry

structure Menu where
 label : String
 id : String := (Letters.lowered label).replace " " "_"
 kind : String := label.replace " " ""
 entries : MenuEntries := []
 draw : LayoutId -> Act := fun l => entries.forM (·.draw l)

def Menu.of (name : String) (groups : List (List MenuEntries)) : Menu :=
 { label := name ++ " Menu", entries := [line].intercalate (groups.map .flatten) }

def Menu.toControl (m : Menu) : RecordKind :=
 control s!"AN_MT_{m.id}" m.kind m.label none [] [drawn fun _ l => m.draw l]

def assigned (type : String) : Fields := [("assignedType", type)]
def dealing (type : String) : Fields := [("dataType", type)]

/-- Nodes whose names start or end like each other. -/
def starting (lead : String) (texts : Texts) : MenuEntries := texts.map fun t => node t (lead ++ camelCase t)

def ending (rest : String) (texts : Texts) : MenuEntries := texts.map fun t => node t (camelCase t ++ rest)

variable (type : String)

def MenuEntry.lists (text : String := "List") : MenuEntry := node text "CreateList" (assigned type)
def MenuEntry.input (text : String := type) : MenuEntry := node text "DataInput" (assigned type)
def MenuEntry.mix (text : String := "Mix") : MenuEntry := node text "MixData" (dealing type)
def MenuEntry.filter : MenuEntry := node s!"Filter {type} List" "FilterBlendDataListByName" (dealing type)
def MenuEntry.byName : MenuEntry := node s!"{type} By Name" "BlendDataByName" (dealing type)
def mainTypes : Texts := ["Object", "Integer", "Float", "Vector", "Text"]

def typeEntries (kind setting : String) (types : Texts) (text : String -> String := id) : MenuEntries :=
 types.map fun t => node (text t) kind [(setting, t)]

/-- The main types, and all others in a menu of their own. -/
def typeMenus (verb kind : String) : List Menu :=
 let entries := typeEntries kind "assignedType"
 [{ label := verb ++ " List Menu"
    entries := entries mainTypes ++ [line, submenu (verb.toLower ++ "_list_menu_extended") "More"] },
 { label := verb ++ " List Menu Extended", entries := entries (socketTypes.baseNames.filter (!mainTypes.contains ·)) }]

def animatedTypes : Texts := ["Matrix", "Vector", "Float", "Color", "Euler", "Quaternion"]

def drawSubprograms (l : LayoutId) : Act := do
 let call := (node · "InvokeSubprogram" ·)
 (call "Invoke Subprogram" []).draw l
 match sortByKey (Letters.lowered ·.name) (<- get).survey.subprograms with
 | [] => l.write "   There are no subprograms yet"
 | nets => for n in nets do (call s!"-  {n.name}" [("subprogramIdentifier", n.identifier.getD "")]).draw l
 let es := [line, node "Group" "GroupInput", node "Loop" "LoopInput", node "Script", line,
  node "Expression", line, node "Viewport Input", node "Data Interface"]
 es.forM (·.draw l)

def mainMenuEntries : List Pairs :=
 [[("Number", "LINENUMBERS_ON"), ("Vector", "EXPORT"), ("Rotation", "FILE_REFRESH"), ("Matrix", "GRID"),
  ("Text", "SORTALPHA"), ("Boolean", "CHECKBOX_HLT"), ("Color", "COLOR"), ("List", "WORDWRAP_ON")],
 [("Object", "OBJECT_DATAMODE"), ("Mesh", "MESH_DATA"), ("Spline", "CURVE_DATA"),
 ("Grease Pencil", "OUTLINER_OB_GREASEPENCIL"), ("Particle System", "PARTICLE_DATA")],
 [("Animation", "RENDER_ANIMATION"), ("Interpolation", "IPO_BEZIER"), ("Falloff", "SMOOTHCURVE"),
 ("Action", "ANIM_DATA"), ("FCurves", "FCURVE"), ("Material", "NODE_MATERIAL"), ("Sound", "SPEAKER"),
 ("Sequence", "SEQUENCE")],
 [("Geometry", "ORIENTATION_NORMAL"), ("KD & BVH Tree", "STICKY_UVS_LOC")],
 [("Viewer", "INFO"), ("Subprograms", "FILE_SCRIPT"), ("Layout", "IMGDISPLAY")]]

def mainMenuId (text : String) : String :=
 ([("Grease Pencil", "gpencil"), ("FCurves", "fcurve"), ("KD & BVH Tree", "kdtree_bvhtree")].lookup text).getD
  ((Letters.lowered text).replace " " "_")

def drawMainMenu (menu ctx : Value) : Act := do
 unless (<- ctx.at "space_data.tree_type").is treeKind do return
 let l <- layoutOf (<- menu "layout")
 l.set "operator_context" "INVOKE_DEFAULT"
 if (<- get).ownTrees.isEmpty then
  let col <- l.column
  col.set "scale_y" 1.6
  col.press "an.create_node_tree" (badge "New Node Tree" "PLUS")
  return
 l.press "an.node_search" (badge "Search" "VIEWZOOM")
 for es in mainMenuEntries do
  l.separator
  for (text, icon) in es do l.menu ("AN_MT_" ++ mainMenuId text ++ "_menu") (badge text icon)

def menus : List Menu := [
 .of "Number" [[input "Integer", input "Float", lists "Integer" "Integer List", lists "Float" "Float List",
 node "Integer Range" "NumberRange" (dealing "Integer"), node "Float Range" "NumberRange" (dealing "Float"),
 "Parse Number", ("Constants", "NumberConstants")], [("Random", "RandomNumber"), ("Wiggle", "FloatWiggle"),
 mix "Float", "Map Range"], [("Math", "FloatMath"), ("List Math", "NumberListMath"), "Sort Numbers",
 ("Clamp", "FloatClamp"), ("Round", "RoundNumber"), "Convert Angle", "Float to Integer", "Float to Text"]],
 .of "Vector" [[ending "Vector" ["Separate", "Combine"], ("From Value", "VectorFromValue"), lists "Vector"],
 [("Random", "RandomVector"), starting "Vector" ["Wiggle", "Noise"], mix "Vector"], [("Distance", "VectorDistance"),
 ("Distance to Line", "ProjectPointOnLine"), ("Distance to Plane", "ProjectPointOnPlane")],
 [starting "Vector" ["Angle", "Length", "Dot Product"]], [starting "Vector" ["Math", "List Math"],
 ("Transform", "TransformVector"), node "Offset" "OffsetVector" [("useVectorList", true)]]],
 .of "Rotation" [["Direction to Rotation", "Rotation to Direction",
 ("Euler to/from Vector", "ConvertVectorAndEuler"),
 node "Convert Rotation Types" "ConvertRotations" [("conversionType", "MATRIX_TO_EULER")]], ["Separate Euler",
 "Combine Euler", lists "Euler"], ["Euler Math", mix "Euler" "Euler Mix", "Random Euler", "Euler Wiggle"],
 ["Separate Quaternion", "Combine Quaternion", lists "Quaternion"], ["Quaternion Math",
 mix "Quaternion" "Quaternion Mix", "Random Quaternion", "Quaternion Wiggle"],
 [("Combine Quaternion Rotations", "QuaternionListCombine")]],
 .of "Matrix" [[ending "Matrix" ["Compose", "Decompose"], lists "Matrix"], [("Distribute", "DistributeMatrices"),
 ending "Matrix" ["Replicate", "Transform", "Invert"], mix "Matrix"], [ending "Matrix" ["Shear", "Axis Rotation"],
 "Extract Matrix Basis"], [starting "Matrix" ["Math", "Combine"],
 node "Offset" "OffsetMatrix" [("useMatrixList", true)]]],
 .of "Text" [[input "Text" "Input", lists "Text", ("Random", "RandomText"), "Characters", "Convert To Text",
 "Timecode Generator"], [("Split", "SplitText"), ("Join", "JoinTexts"), ("Trim", "TrimText"), "Change Text Case"],
 [ending "Text" ["Reverse", "Replace", "Repeat"], ("Length", "TextLength")], ["LSystem", "Decompose Text"],
 [starting "Text" ["Block Reader", "Block Writer"], filter "Text Block", ("File Reader", "TextFileReader")],
 [("Sequence Output", "TextSequenceOutput"), ("Character Property", "CharacterPropertiesOutput"),
 ("Object Separate", "SeparateTextObject"), ("Object Output", "TextObjectOutput")]],
 .of "Boolean" [[input "Boolean", ("Invert", "InvertBoolean"), "Compare", "Compare Numbers", "Switch",
 ("Logic", "LogicOperators"), ("List Logic", "BooleanListLogic"), "Random Boolean"]],
 .of "Color" [["Choose Color", "Combine Color", "Separate Color", mix "Color", "Random Color"], ["Set Vertex Color"]],
 .of "List" [[submenu "create_list_menu" "Create", submenu "combine_list_menu" "Combine", ("Append", "AppendList"),
 ("Insert", "InsertListElement")], [("Get Element", "GetListElement"),
 ("Get Random Elements", "GetRandomListElements"), ("Search Element", "SearchListElement"),
 ("Set Element", "SetListElement"), ("Remove Element", "RemoveListElement")], [("Get Length", "GetListLength")],
 [ending "List" ["Shuffle", "Reverse", "Slice", "Shift", "Mask"]], [ending "List" ["Fill", "Repeat"],
 ("Repeat Elements", "RepeatListElements"), ("Random", "RandomList"), "List Boolean Operations"],
 ["Set Struct Elements", "Get Struct Elements", "Get Struct List Elements"]],
 .of "Object" [[input "Object", lists "Object", filter "Object", submenu "collection_menu" "Collection"],
 [starting "Object" ["Transforms Input", "Transforms Output", "Matrix Input", "Matrix Output", "Attribute Input",
 "Attribute Output", "Color Output", "Data Path Output"]], [starting "Object" ["Visibility Input",
 "Visibility Output"]], ["Lamp Input", "Lamp Output"], ["Shape Keys from Object", "Shape Key Output"],
 ["Evaluate Object"], [("ID Key", "ObjectIDKey"), ("Copy Data", "CopyObjectData"),
 ("Copy Modifiers", "CopyObjectModifiers"), "Set Keyframes", "Armature Info", submenu "object_utils_menu" "Utils"],
 [("Instancer", "ObjectInstancer")], [" Set Custom Attribute"]],
 .of "Object Utils" [[ending "Object" ["Move", "Transform"], ("Reset Transformations", "ResetObjectTransforms"),
 ("Copy Transformations", "CopyTransforms"), "Get Selected Objects", "Get Active Camera"]],
 .of "Collection" [[input "Collection", "Collection Info", "Collection Operations", byName "Collection",
 lists "Collection" "Create Collection List", node "Combine Collection Lists" "CombineLists" (assigned "Collection"),
 filter "Collection"]],
 .of "Mesh" [[("Mesh Input", "MeshObjectInput"), "Mesh Info", ("Get Bounding Box", "ObjectBoundingBox"),
 "Combine Mesh", "Mesh From Spline"], [submenu "mesh_data_menu" "Mesh Data"], ["Offset Polygons",
 "Separate Polygons", "Extract Polygon Transforms", "Offset Vertices", "Transform Mesh", "Triangulate Mesh",
 submenu "mesh_generators_menu" "Generators", submenu "mesh_operators_menu" "Operators"], [lists "Mesh" "Mesh List",
 "Join Mesh List", "BMesh Mesh", ("BMesh from Mesh", "CreateBMeshFromMesh"), "BMesh from Object",
 submenu "mesh_finalizing_menu" "Tools"], [("Object Output", "MeshObjectOutput")]],
 .of "Mesh Data" [["Vertex Group Input", "Get Vertex Group", "Insert Vertex Group", "Set Vertex Weight",
 "Get Vertex Color Layer", "Insert Vertex Color Layer", "Set Vertex Color", "Set Bevel Vertex Weight",
 "Set Bevel Edge Weight", "Set Edge Crease", "Get UV Map", "Insert UV Map", "Set UV Map",
 "Set Polygon Material Index"], [" Get Custom Attribute", " Insert Custom Attribute", " Set Custom Attribute"]],
 .of "Mesh Generators" [[ending "Mesh" ["Line", "Grid", "Circle", "Cylinder", "Unity Triangle"],
 submenu "regular_polygon_mesh_generators_menu" "Regular Polygons"]],
 .of "Mesh Operators" [["Find Close Points", "Find Shortest Path", "Edge to Tube",
 ("Scatter Points", "MeshPointsScatter")], ["Create Edges", "Create Edge Indices", "Create Polygon Indices",
 "Edges of Polygons"], ["Edge Info", "Get Linked Vertices"]],
 .of "Mesh Finalizing" [[starting "BMesh" ["Remove Doubles", "Limited Dissolve"],
 ("Recalculate Normals", "BMeshRecalculateFaceNormals"), ("Invert Normals", "BMeshInvertNormals"),
 "Shade Object Smooth"]],
 .of "Spline" [[("Get from Object", "SplinesFromObject"), ("Create from Points", "SplineFromPoints"),
 ("Create from Edges", "SplinesFromEdges"), ("Create from Stroke", "SplineFromGPStroke"), lists "Spline",
 ("Append Point", "AppendPointToSpline")], [("Transform", "TransformSpline"), ("Connect", "ConnectSplines"),
 ending "Spline" ["Trim", "Bevel"], ("Set Radius", "SetSplineRadius"), ("Make Cyclic", "MakeSplineCyclic"),
 ("Smooth Bezier", "SmoothBezierSpline"), "Tilt Spline", ("Change Type", "ChangeSplineType"),
 ("Change Direction", "ChangeSplineDirection"), ("Replicate", "ReplicateSpline"), "Offset Spline"],
 [("Info", "SplineInfo"), ("Evaluate", "EvaluateSpline"), ("Project", "ProjectOnSpline"),
 ("Get Length", "GetSplineLength")], [("Object Output", "CurveObjectOutput")], [("Loft", "LoftSplines"),
 ("Revolve", "RevolveSpline")]],
 .of "GPencil" [[starting "GP" ["Object Input", "Layer Info", "Frame Info", "Stroke Info"]],
 [("Set Layer Attributes", "SetGPLayerAttributes"), ("Replicate Layer", "ReplicateGPLayer"),
 ("Transform Layer", "TransformGPLayer"), ("Offset Layer Frames", "OffsetGPLayerFrames")],
 [("Set Stroke Attributes", "SetGPStrokeAttributes"), ("Replicate Stroke", "ReplicateGPStroke"),
 ("Transform Stroke", "TransformGPStroke"), ("Offset Stroke", "OffsetGPStroke"),
 ("Change Stroke Direction", "ChangeGPStrokeDirection")], [starting "GP" ["Stroke From Points", "Stroke From Spline",
 "Frame From Strokes", "Layer From Frames", "Object Output"]], ["GP Material Output", "Object Material Output"]],
 .of "Action" [["Action From Object"], ["Chain Actions", "Delay Action", "Overlay Action", "Wiggle Action",
 "Follow Spline Action"], ["Object Action Output"]],
 .of "Interpolation" [[("Construct", "ConstructInterpolation"), starting "Interpolation" ["From Curve",
 "From FCurve"], ("Mix", "MixInterpolation"), "Mirror Interpolation"], [("Evaluate", "EvaluateInterpolation"),
 node "Map Range" "MapRange" [("useInterpolation", true)]]],
 .of "Falloff" [[ending "Falloff" ["Fade", "Delay", "Wiggle", "Random"], "Noise Falloff",
 ending "Falloff" ["Index Mask", "Object Controller", "Sound", "Spline"], "Mesh Falloff"],
 [ending "Falloff" ["Constant", "Custom"]], [ending "Falloff" ["Directional", "Point Distance", "Radial"]],
 [ending "Falloff" ["Clamp", "Interpolate", "Remap", "Invert"], ("Mix", "MixFalloffs")],
 [("Evaluate", "EvaluateFalloff")]],
 .of "Material" [[input "Material" "Material Input", "Object Material Input", byName "Material",
 "Object Material Output", "Material Output", "Cycles Material Output", "GP Material Output",
 "Set Polygon Material Index"]],
 .of "Particle System" [[("From Object", "ParticleSystemsFromObject"), starting "ParticleSystem" ["Particles Data",
 "Hair Data"]]],
 .of "FCurve" [[("From Object", "FCurvesFromObject"), ("Evaluate", "EvaluateFCurve"),
 ("Evaluate Transforms", "EvaluateFCurvesTransforms"), starting "FCurve" ["Info", "Keyframes"]]],
 .of "Sound" [["Sound From Sequence", "Sound Spectrum"], ["Read MIDI File", "MIDI Track Info", "MIDI Note Info",
 "Evaluate MIDI Track"]],
 .of "Sequence" [["Sequences from Channel", "Get All Sequences", "Text Sequence Output", "Sequence Info"]],
 .of "Geometry" [["Convert Plane Type", "Point List Normal"], ["Project Point on Line", "Project Point on Plane",
 "Point in Camera Frustrum"], ["Intersect Line Line", "Intersect Line Plane", "Intersect Line Sphere",
 "Intersect Plane Plane", "Intersect Sphere Plane", "Intersect Sphere Sphere"],
 [("Triangulate BMesh", "BMeshTriangulate")]],
{ Menu.of "KDTree and BVHTree" [["Construct KDTree", ("Find Nearest", "FindNearestPointInKDTree"),
  ("Find Amount", "FindNearestNPointsInKDTree"), ("Find in Radius", "FindPointsInRadiusInKDTree")],
  ["Construct BVHTree", ("Ray Cast", "RayCastBVHTree"), ("Find Nearest", "FindNearestSurfacePoint"),
  ("Is Inside Volume", "IsInsideVolumeBVHTree")]] with
 id := "kdtree_bvhtree_menu"
 kind := "KDTreeAndBVHTreeMenu" },
 .of "Viewer" [["Viewer", ("3D Viewer", "Viewer3D"), "Loop Viewer", "Interpolation Viewer", "Action Viewer"]]] ++ typeMenus "Create" "CreateList" ++ typeMenus "Combine" "CombineLists" ++ [
{ label := "Regular Polygon Mesh Generators Menu"
  entries := [("Pentagon", 5), ("Hexagon", 6), ("Heptagon", 7), ("Octagon", 8)].map fun (name, n) =>
   node s!"Regular {name}" "CircleMesh" [("inputs[\"Radial Loops\"].value", n)] },
{ label := "Animation Menu"
  entries := [node "Time Info", node "Delay" "DelayTime", node "Repeat" "RepeatTime", line]
   ++ typeEntries "AnimateData" "dataType" animatedTypes ("Animate " ++ ·)
   ++ [line] ++ typeEntries "MixDataList" "dataType" animatedTypes ("Mix " ++ · ++ " List") },
{ label := "Subprograms Menu"
  draw := drawSubprograms },
{ label := "Layout Menu"
  draw := fun l => do
   for name in ["Frame", "Reroute"] do
    let button <- l.operator "node.add_node" [("text", name)]
    button.set "use_transform" true
    button.set "type" s!"Node{name}" }]

end AnimationGraph
