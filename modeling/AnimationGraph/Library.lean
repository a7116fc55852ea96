import AnimationGraph.Build.Steps
import AnimationGraph.Control.Functions
import AnimationGraph.Nodes.Color
import AnimationGraph.Nodes.List
import AnimationGraph.Nodes.Geometry
import AnimationGraph.Nodes.MeshLayers
import AnimationGraph.Nodes.Number
import AnimationGraph.Nodes.Object
import AnimationGraph.Nodes.Pencil
import AnimationGraph.Nodes.Rotation
import AnimationGraph.Nodes.Time
import AnimationGraph.Nodes.Spline
import AnimationGraph.Nodes.Subprogram
import AnimationGraph.Nodes.Text
import AnimationGraph.Session.Functions

/-! # The library

All kinds and operations in one catalogue.
-/

namespace AnimationGraph

def libraryNodes : List NodeKind :=
 numberNodes ++ vectorNodes ++ rotationNodes ++ matrixNodes ++ colorNodes ++ dataNodes ++ listNodes
  ++ subprogramNodes ++ viewerNodes ++ textNodes ++ geometryNodes ++ pencilNodes ++ sceneNodes ++ spatialNodes
  ++ timeNodes ++ splineNodes ++ meshDataNodes ++ meshLayerNodes ++ meshShapeNodes ++ objectNodes ++ soundNodes

def libraryRecords : List RecordKind :=
 numberKinds ++ plainKinds ++ familyKinds ++ [structKind, networkKind] ++ unitKinds ++ socketGroups ++ treeGroups ++ preferenceKinds ++ hostKinds
  ++ blockKinds ++ problemKinds ++ pencilKinds ++ timeGroups
  ++ midiKinds ++ soundKinds ++ abstractKeyKind :: blockKeysKind :: keyKinds.map (·.2) ++ controls ++ graphicsKinds ++ [linkedObjectGroup,
   { name := "NodeMeasurements", members := [fn1 "registerTime time" fun _ _ => pure .none] },
   Session.numberedStroke, Build.taskKind]

def libraryOperations : Operations :=
 builtinOperations ++ Session.documentedFunctions ++ mathOperations ++ ColorModel.operations ++ spaceOperations ++ namedOperations ++ graphicsOperations
  ++ keyOperations ++ interfaceOperations libraryNodes ++ registryOperations libraryRecords

def library : Catalogue :=
 ((({} : Catalogue).addNodes libraryNodes).addRecords libraryRecords).addOperations libraryOperations
  |>.addSpaces (scriptSpaces ++ [("animation_nodes.sockets.implicit_conversion",
   [("conversionFunctions", .operation "computed" ["conversionFunctions"])])])

end AnimationGraph
