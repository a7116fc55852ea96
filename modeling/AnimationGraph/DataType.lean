import AnimationGraph.Value.Basic
import AnimationGraph.Forest.Network

/-! # Data types of sockets

Every socket has a data type. Some types are lists of another type, and values of some types are
accepted where another type is expected, possibly after a conversion. A family of types holds all
types and conversions that are known; the tables below are computed from it.
-/

namespace AnimationGraph

structure DataType where
 name : String
 /-- Name of the kind of sockets that carry this type. -/
 idName : String := "an_" ++ .ofList (name.toList.filter (· != ' ')) ++ "Socket"
 element : Option String := if name.endsWith " List" then some (name.dropEnd 5).copy else none
 color : Values := []
 storable : Bool := true
 comparable : Bool := false
 /-- The types that an input takes beside those that can be converted, where this is not its own type. `All` stands
 for every type. -/
 accepts : Option Texts := none
 (copy defaultCode : Option String := none)
 /-- The socket shows a property to edit. -/
 drawn : Bool := false
 /-- The socket has a value of its own while it is not linked. -/
 valued : Bool := drawn
 listClass : Option String := none
 deriving Inhabited

namespace DataType

variable (t : DataType)

/-- Expression that makes a list of this type from the values `value`. -/
def fromValuesCode : String := t.listClass.elim "value" (· ++ ".fromValues(value)")

/-- The names by which a type is found. -/
def keys : Texts := [t.name, t.idName]

def takesAll : Bool := t.accepts.any (·.contains "All")

end DataType

/-- A conversion from one type to another; some need no code. -/
structure Conversion where
 (source target : String)
 code : Option String

structure TypeFamily where
 types : List DataType
 conversions : List Conversion

/-- What inputs take, and the inputs that take a type. Names of types and of kinds of sockets are the keys. -/
structure TypeTables where
 /-- One set for all inputs that take every type; these have none of their own. -/
 every : Texts := []
 inputs : List (String × Option Texts) := []
 targets : List (String × String) := []

namespace TypeTables

variable (tables : TypeTables) (input : String)

/-- The types that an input of this type takes, ascending. -/
def inputTypes? : Option Texts := (tables.inputs.lookup input).map (·.getD tables.every)

/-- The types of the inputs that take a value of this type, ascending. -/
def targetTypes : Texts := sortedSet ((tables.targets.filter (·.1 == input)).map (·.2))

end TypeTables

namespace TypeFamily

def find? (f : TypeFamily) (input : String) : Option DataType :=
 f.types.find? (·.keys.contains input)

variable (f : TypeFamily) (input : String)

def namesSockets : Bool := f.types.any (·.idName == input)

def idNameOf? : Option String :=
 if f.namesSockets input then some input else (f.types.find? (·.name == input)).map (·.idName)

/-- The type of a socket kind; anything else stands for itself. -/
def dataTypeOf : String := ((f.types.find? (·.idName == input)).map (·.name)).getD input

def listOf? : Option DataType := do
 let t <- f.find? input
 f.types.find? (·.element == some t.name)

def elementOf? : Option DataType := do
 let t <- f.find? input
 f.find? (<- t.element)

def isList : Bool := (f.elementOf? input).isSome
def isBase : Bool := (f.listOf? input).isSome

def names : Texts := sortedSet (f.types.map (·.name))
def listNames : Texts := sortedSet ((f.types.filter (·.element.isSome)).map (·.name))
def baseNames : Texts := sortedSet (f.types.filterMap (·.element))
def drawnNames : Texts := sortedSet ((f.types.filter (·.drawn)).map (·.name))

def convertible (t : String) : Texts := (f.conversions.filter (·.target == t)).map (·.source)

/-- The code that converts `value` from one type to another, if a conversion needs code. -/
def conversionCode? (src t : String) : Option String :=
 (f.conversions.find? fun c => c.source == src && c.target == t).bind (·.code)

/-- What inputs of a type take: what they list or their own type, and what can be converted to it. -/
def acceptedBy (t : DataType) : Texts :=
 let direct := if t.takesAll then f.types.map (·.name) else t.accepts.getD [t.name]
 sortedSet (direct ++ f.convertible t.name)

/-- Enters what the inputs of one more type take; all names among it must be known. -/
def enter (tables : TypeTables) (t : DataType) : Option TypeTables := do
 let every := if t.takesAll then sortedSet (tables.every ++ f.convertible t.name) else tables.every
 let own := if t.takesAll then none else some (f.acceptedBy t)
 let taken := own.getD every
 guard (taken.all fun x => (f.find? x).isSome)
 return {
  every, inputs := t.keys.map (·, own) ++ tables.inputs
  targets := (taken.filterMap f.find?).flatMap (fun s => s.keys.map (·, t.name)) ++ tables.targets }

def tables? : Option TypeTables := f.types.foldlM f.enter { every := f.names }

end TypeFamily

/-! ## The data types of this library

The types of all sockets, and the conversions between them. -/

def cloned : Option String := "value.copy()"
def sliced : Option String := "value[:]"

namespace DataType

def each : Option String := "[element.copy() for element in value]"

/-- Blocks of the file: names stand for them, and the user picks one. -/
def block (name : String) (color : Values) : DataType :=
 { name, color, storable := false, comparable := true, drawn := true }

def shown (name : String) (color : Values) (copy : Option String := none) : DataType :=
 { name, color, comparable := true, copy, drawn := true }

/-- A type with the type of its lists, shown in the same color. -/
def listed (t : DataType) (copy : Option String := sliced) (listClass : Option String := none) : List DataType :=
 [t, { name := t.name ++ " List", color := t.color.dropLast ++ [0.5], storable := t.storable, copy, listClass }]

def packed (t : DataType) (listClass : String) : List DataType := listed t cloned listClass

end DataType

open DataType in
def dataTypes : List DataType :=
 .flatten [
  [{ name := "Action", color := [1, 0.32, 0.18, 1], storable := false, valued := true },
  { name := "Action List", color := [1, 0.5, 0.2, 0.5], storable := false, copy := sliced },
  { name := "BMesh", color := [0.1, 0.4, 0.1, 1], storable := false, comparable := true, copy := cloned }],
  packed (shown "Boolean" [0.7, 0.7, 0.4, 1]) "BooleanList", [shown "BVHTree" [0.18, 0.32, 0.32, 1]],
  listed (block "Collection" [0.3, 0.1, 0.1, 1.0]), packed (shown "Color" [0.8, 0.8, 0.2, 1] cloned) "ColorList",
  packed { name := "Edge Indices", color := [0.4, 0.6, 0.6, 1], comparable := true, defaultCode := "(0, 1)" }
   "EdgeIndicesList",
  packed (shown "Euler" [0.1, 0.0, 0.4, 1.0] cloned) "EulerList",
  listed { name := "Falloff", color := [0.32, 1, 0.18, 1], storable := false, drawn := true },
  listed { name := "FCurve", color := [0.2, 0.26, 0.19, 1], comparable := true, defaultCode := "None" },
  packed (shown "Float" [0.4, 0.4, 0.7, 1]) "DoubleList", listed (block "Font" [0.444, 0.444, 0, 1]),
  listed { name := "GPFrame", color := [0.69, 0.001, 0.01, 1], copy := cloned } each,
  [{ name := "Generic", color := [0.6, 0.3, 0.3, 1.0], accepts := ["All"], defaultCode := "None" },
  { name := "Generic List", color := [0.6, 0.3, 0.3, 0.5], accepts := ["All"] }],
  packed (shown "Integer" [0.3, 0.4, 1.0, 1.0]) "LongList", [shown "Interpolation" [0.7, 0.4, 0.3, 1],
   { name := "Interpolation List", color := [0.7, 0.4, 0.3, 0.5], storable := false, copy := sliced },
   { name := "KDTree", color := [0.32, 0.32, 0.18, 1], comparable := true },
   { name := "GPLayer", color := [0.85, 0.1, 0.35, 1], copy := cloned },
   { name := "GPLayer List", color := [0.7, 0.1, 0.35, 0.5], copy := each }],
  listed (block "Material" [0.75, 0.5, 0.4, 1]),
  packed { name := "Matrix", color := [1, 0.56, 0.3, 1], copy := cloned } "Matrix4x4List",
  [{ name := "Mesh", color := [0.2, 0.7, 1, 1], copy := cloned },
  { name := "Mesh List", color := [0.18, 0.32, 1, 0.5], copy := each }],
  listed { name := "MIDI Note", color := [0.45, 0.6, 0.75, 1], copy := cloned }
   "[note.copy() for note in value]",
  listed { name := "MIDI Track", color := [0.75, 0.6, 0.45, 1], copy := cloned }
   "[track.copy() for track in value]",
  [{ name := "Node Control", color := [0.0, 0.0, 0.0, 0.0], storable := false, accepts := some [],
     defaultCode := "None" }],
  listed (block "Object" [0, 0, 0, 1]),
  listed { name := "Particle System", color := [1.0, 0.8, 0.6, 1], storable := false, comparable := true,
           defaultCode := "None" },
  [{ name := "Polygon Indices", color := [0.6, 0.3, 0.8, 1], comparable := true, defaultCode := "(0, 1, 2)" },
  { name := "Polygon Indices List", color := [0.6, 0.3, 0.8, 0.5], copy := cloned,
    defaultCode := "PolygonIndicesList()", listClass := "PolygonIndicesList" }],
  packed (shown "Quaternion" [0.8, 0.6, 0.3, 1.0] cloned) "QuaternionList", [block "Scene" [0.2, 0.3, 0.4, 1],
   { name := "Scene List", color := [0.2, 0.3, 0.4, 0.5], storable := false, copy := sliced, drawn := true }],
  listed { name := "Sequence", color := [0, 0.644, 0, 1], defaultCode := "None", storable := false,
           comparable := true, drawn := true },
  [block "Shape Key" [1.0, 0.6, 0.5, 1],
  { name := "Shape Key List", color := [1.0, 0.6, 0.5, 0.5], storable := false },
  { name := "Sound", color := [0.9, 0.7, 0.4, 1], storable := false, drawn := true },
  { name := "Spline", color := [0.8, 0.4, 1.0, 1.0], copy := cloned, drawn := true },
  { name := "Spline List", color := [0.8, 0.4, 1.0, 0.7], copy := each, drawn := true }],
  listed { name := "GPStroke", color := [0.85, 0.35, 0.0, 1], copy := cloned } each,
  listed { name := "Struct", color := [0.3, 0.3, 0.3, 1], copy := "value.copyValues()",
           defaultCode := "ANStruct()" } "[element.copyValues() for element in value]",
  listed (shown "Text" [1, 1, 1, 1]), listed (block "Text Block" [0.5, 0.5, 0.5, 1]),
  packed (shown "Vector" [0.15, 0.15, 0.8, 1.0] cloned) "Vector3DList",
  packed (shown "Vector 2D" [0.15, 0.45, 0.7, 1.0] cloned) "Vector2DList"]

/-- The code of a conversion between lists that a kernel does; they are known by number. -/
def listConversion (i : Nat) : String := s!"AN.sockets.implicit_conversion.conversionFunctions[{i}](value)"

/-- Every conversion, in the order in which an input looks for them. -/
def conversions : List Conversion := [
 ⟨"Float", "Boolean", "bool(value)"⟩, ⟨"Integer", "Boolean", "bool(value)"⟩,
 ⟨"Integer List", "Boolean List", listConversion 0⟩,
 ⟨"Float List", "Boolean List", listConversion 1⟩, ⟨"Boolean", "Float", "float(value)"⟩,
 ⟨"Integer", "Float", none⟩, ⟨"Boolean List", "Float List", listConversion 2⟩,
 ⟨"Integer List", "Float List", "DoubleList.fromValues(value)"⟩,
 ⟨"Edge Indices", "Float List", "DoubleList.fromValues(value)"⟩,
 ⟨"Polygon Indices", "Float List", "DoubleList.fromValues(value)"⟩, ⟨"Float", "Integer", "int(value)"⟩,
 ⟨"Boolean", "Integer", "int(value)"⟩, ⟨"Boolean List", "Integer List", listConversion 3⟩,
 ⟨"Float List", "Integer List", "LongList.fromValues(value)"⟩,
 ⟨"Edge Indices", "Integer List", "LongList.fromValues(value)"⟩,
 ⟨"Polygon Indices", "Integer List", "LongList.fromValues(value)"⟩,
 ⟨"Polygon Indices List", "Integer List", "LongList.fromValues(value.indices)"⟩,
 ⟨"Vector", "Vector 2D", "Vector((value.x, value.y))"⟩,
 ⟨"Vector 2D", "Vector", "Vector((value.x, value.y, 0))"⟩,
 ⟨"Vector List", "Vector 2D List", listConversion 4⟩,
 ⟨"Vector 2D List", "Vector List", listConversion 5⟩]

def socketTypes : TypeFamily := ⟨dataTypes, conversions⟩
def typeTables : TypeTables := socketTypes.tables?.getD {}

end AnimationGraph
