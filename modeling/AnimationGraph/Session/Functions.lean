import AnimationGraph.Catalogue.Access
import AnimationGraph.Script.Builtins
import AnimationGraph.Graphics.Drawing
import AnimationGraph.Nodes.Data
import AnimationGraph.Nodes.Sound

/-! # Functions by name

Parts of the library that a session can call by their paths, each with the state of a new session.
-/

namespace AnimationGraph.Session

variable (v : Value) (s : Json)


def numberedStroke : RecordKind where
 name := "NumberedStroke"
 members := [fn0 "copy" fun r => do newRecord "NumberedStroke" [("number", <- add (<- r "number") 100)]]

variable (name : String)

def textFunction (sig : Signature) (f : String -> Value) : Service := op sig fun b => return f (<- textArg (b 0))

def freeName (taken base : Value) : Eval := do
 let start := (<- textArg base) ++ (<- randomLetters 3)
 let ns <- iter taken
 let candidates := (List.range (ns.length + 1)).map fun i => start ++ toString (i + 1)
 need .exhausted (<- candidates.findM? fun name => return !(<- ns.anyM (equal (.str name))))

def freeNameIn (col d : String) : Service :=
 op ⟨name, [opt "name" d]⟩ fun b => do possibleName (<- blocks col) (<- textArg (b 0))

def freeSocketName (node : Value) (base : String) : Eval := do
 let outs <- node "outputs"
 let longer (name : Value) : Eval := do possibleName (<- node "inputs") (<- textArg name)
 let mut name <- longer base
 for _ in <- iter outs do
  unless <- has outs name do return name
  name <- longer name
 pure name

def nameFunctions : Operations := within "names." [
 op1 "toDataPath name" fun v => do dataPath (<- text v),
 freeNameIn "getPossibleObjectName" "objects" "object", freeNameIn "getPossibleCurveName" "curves" "curve",
 freeNameIn "getPossibleMeshName" "meshes" "mesh", freeNameIn "getPossibleCameraName" "cameras" "camera",
 freeNameIn "getPossibleLightName" "lights" "lamp",
 freeNameIn "getPossibleGreasePencilName" "grease_pencils" "grease_pencil",
 op2 ⟨"getPossibleNodeName", ["nodeTree", opt "name" "node"]⟩ fun v w => do possibleName (<- v "nodes") (<- textArg w),
 op2 ⟨"getPossibleSocketName", ["node", opt "name" "socket"]⟩ fun v w => do freeSocketName v (<- textArg w),
 op2 ⟨"getPossibleName", ["field", opt "name" "element"]⟩ freeName,
 op1 "getRandomString length" fun v => do randomLetters (<- indexOf v).toNat,
 op "replaceVariableName code oldName newName" fun b => do
  match Names.renameAny (<- textArg (b 0)) (<- text (b 1)) (<- text (b 2)) with
  | .ok code => pure code
  | .error fault => fail fault.cause,
 textFunction "toVariableName name" (Names.ofText ·),
 textFunction "toInterfaceName sourceName" (Names.title ·)]

def textFunctions : Operations :=
 within "unicode." [
 textFunction "toValidString text" fun s => Quoted.bytesLiteral s.toUTF8.toList,
 op1 "fromValidString text" fun v => do textOfBytes (<- textArg v)] ++
 within "code." [
 op1 "isCodeValid code" fun v => do isValidCode (<- textArg v),
 op1 "getSyntaxError code" fun v => do
  if <- isValidCode (<- textArg v) then return .none
  newRecord "SyntaxError" [],
 textFunction "containsStarImport code" fun s => .bool (Names.importsAll s)] ++
 within "path." [
 op1 "parsePath expression" fun v => do textList (<- outcome (Script.pathBlocks (<- textArg v))),
 textFunction "toIDPropertyPath name" fun s => s!"[\"{s}\"]",
 op "toAbsolutePath path start? library?" fun b => do return Path.normal (<- textArg (b 0)),
 op1 "getAbsolutePathOfSound sound" fun v => do
  let path <- v "filepath"
  discard <| v "library"
  return Path.normal (<- textArg path),
 op2 "getResolvedNestedPath id_block path" fun v w => do
  let (block, path) <- nestedProperty v w
  tuple [block, path]]

def callbackFunction : Service :=
 ("operators.callbacks.newParameterizedCallback", fun args => do
  match args.pos, args.named with
  | name :: ps, [] => return "#" ++ (<- literal (.tuple [name, .tuple ps]))
  | _, _ => fail .type)

def setterLines (o prop v : String) : Texts :=
 let path := codePath o prop
 [s!"try: {path} = type({path})({v})", s!"except: {path} = {v}", o ++ ".update_tag()"]

def numberFunctions : Operations := within "pretty_strings." [
 op1 "formatVector vector" (vectorLine ·),
 op1 "formatEuler euler" fun v => numberFields "E" 3 v,
 op1 "formatQuaternion quaternion" (quaternionLine ·),
 op1 "formatFloat number" fun v => fixedField ['8'] 3 v] ++ within "math." [op2 "cantorPair a b" pairNumber,
 op3 "mixEulers a b factor" blendEulers,
 op3 "mixQuaternions x y factor" blendQuaternions]

def attributeFunctions : Operations := within "attributes." [
 proc "setattrRecursive owner propName value" fun b => do setValueAt (b 0) (<- textArg (b 1)) (b 2),
 op2 "getattrRecursive owner propName" fun v w => do valueAt v (<- textArg w),
 op1 "getAttributeSetter propName" fun v => do
  let path := codePath "owner" (<- textArg v)
  Script.resultOf s!"def attrSetter(owner, value): {path} = value" [] "attrSetter",
 op1 "getAttributeGetter propName" fun v => do
  Script.valueOfExpression ("lambda owner: " ++ codePath "owner" (<- textArg v)) [],
 op1 "getMultiAttibuteSetter propNames" fun v => do
  if <- isA v "list" then fail .type
  let ls <- (<- iter v).zipIdx.mapM fun (p, i) => return setterLines "owner" (<- textArg p) s!"values[{i}]"
  let body := (ls.flatten ++ ["pass"]).map ("    " ++ ·)
  Script.resultOf (joinLines ("def setter(owner, values):" :: body)) [] "setter",
 op "getAttributeSetterLines objectName propName valueName" fun b => do
  textList (setterLines (<- text (b 0)) (<- textArg (b 1)) (<- text (b 2))),
 op2 "getPropertyPath objectName propName" fun v w => do return codePath (<- text v) (<- textArg w),
 op1 "hasEvaluableRepr value" (hasReadableLiteral ·),
 op2 "pathBelongsToArray object dataPath" fun v w => do return ((<- belongsToArray? v w).map .bool).getD .none,
 op2 "_pathBelongsToArray object dataPath" fun v w => do
  return ((<- leadsToArray? v (<- textArg w)).map .bool).getD .none]

def ofType (f : TypeFamily -> String -> Option Value) : Service :=
 op1 s!"{name} input" fun v => do need .key (f socketTypes (<- textArg v))

def socketKind (v : Value) : Eval := return .kind (<- need .key (socketTypes.find? (<- textArg v))).idName

def typeFunctions : Operations := within "info." [
 ofType "isList" fun t s => some (t.isList s),
 ofType "isBase" fun t s => some (t.isBase s),
 ofType "toBaseIdName" fun t s => (t.elementOf? s).map (.str ·.idName),
 ofType "toBaseDataType" fun t s => (t.elementOf? s).map (.str ·.name),
 ofType "toListIdName" fun t s => (t.listOf? s).map (.str ·.idName),
 ofType "toListDataType" fun t s => (t.listOf? s).map (.str ·.name),
 ofType "toIdName" fun t s => (t.idNameOf? s).map .str,
 ofType "toDataType" fun t s => some (t.dataTypeOf s),
 ofType "isIdName" fun t s => some (t.namesSockets s),
 ofType "isComparable" fun t s => (t.find? s).map (.bool ·.comparable),
 ofType "isCopyable" fun t s => (t.find? s).map (.bool ·.copy.isSome),
 op1 "getCopyExpression input" fun v => do (<- socketKind v).call "getCopyExpression",
 ofType "hasAllowedInputDataTypes" fun _ s => (typeTables.inputTypes? s).map (.bool !·.isEmpty),
 op1 "getAllowedInputDataTypes input" fun v => do textSet (<- need .key (typeTables.inputTypes? (<- textArg v))),
 op1 "getAllowedTargetDataTypes input" fun v => do textSet (typeTables.targetTypes (<- textArg v)),
 op1 "getSocketClass input" socketKind,
 op1 "getDefaultValue input" fun v => do (<- socketKind v).call "getDefaultValue",
 op1 "getBaseDefaultValue input" fun v => do (<- (<- socketKind v) "baseType").call "getDefaultValue",
 ofType "getCopyFunction" fun t s => (t.find? s).map fun _ => .operation "<lambda>" [],
 asking "getListDataTypes" (textList socketTypes.listNames),
 asking "getBaseDataTypes" (textList socketTypes.baseNames),
 asking "getDrawableDataTypes" (textList socketTypes.drawnNames),
 op1 ⟨"getDataTypes", [opt "skipInternalTypes" false]⟩ fun v => do
  let skip <- truthy v
  textList (socketTypes.names.filter fun name => !(skip && name == "Node Control"))] ++ within "implicit_conversion." [
 op2 "getConversionCode fromType toType" fun v w => do
  match v, w with
  | .str src, .str dest => return ((socketTypes.conversionCode? src dest).map .str).getD .none
  | _, _ => pure .none,
 op1 "iterTypesThatCanConvertTo toType" fun v => do
  match v with
  | .str dest => textList (socketTypes.convertible dest)
  | _ => list []]

def indentedBy (ls k : Value) : Eval := do
 let margin := indentation (<- indexOf k).toNat
 textList (<- (<- iter ls).mapM fun line => return margin ++ (<- textArg line))

def codeFunctions : Operations :=
 within "execution.loop_execution_unit." [op1 "joinLines lines" fun v => do return joinLines (<- textArgs v),
 op2 ⟨"indent", ["lines", opt "amount" 1]⟩ indentedBy, op2 ⟨"iterIndented", ["lines", opt "amount" 1]⟩ indentedBy] ++
 within "nodes.sound.sound_spectrum." [
 op2 "isValidRange low high" fun v w => do Sound.isRange (m := Run) v w,
 op1 "isValidCustomList pins" fun v => do Sound.arePins (m := Run) (<- iter v)] ++ [
 op1 "algorithms.lists.sort.naturalSortKey text" fun v => do textList (Names.naturalKey (<- textArg v)),
 textFunction "operators.output_execution_code.insertLineNumbers code" (Edit.numberLines ·),
 op1 "utils.timing.prettyTime seconds" durationText,
 op2 "execution.script_execution_unit.findFirstLineIndexWithContent lines content" fun v w => do
  return Code.ScriptView.lineWith (<- textArgs v) (<- textArg w),
 op "nodes.generic.expression.iterExpressionFunctionLines expression variables modules" fun b => do
  textList (expressionLines (<- textArg (b 0)) (<- textArgs (b 1)) (<- textArgs (b 2))),
 op ⟨"nodes.generic.mix_data.getMixCode", ["dataType", opt "mix1" "a", opt "mix2" "b", opt "factor" "f", opt "result" "result"]⟩ fun b => do
  match b 0, (<- ([1, 2, 3, 4].map b).mapM text) with
  | .str type, [first, second, k, r] => return ((mixLine? type first second k r).map .str).getD .none
  | _, _ => pure .none]

def viewerFunction (f : Value -> Eval) : Service := op1 s!"nodes.viewer.viewer.{name} data" f

def viewerFunctions : Operations :=
 let single (name : String) (f : Value -> Run Shown) :=
  viewerFunction s!"handleNonList_{name}" fun v => return (<- f v).toValue
 let element (name : String) (f : Value -> Run String) := viewerFunction s!"handleListElement_{name}" (f ·)
 let width (n : Option Int) : Value := (n.map .int).getD .none
 [viewerFunction "getHandleNonListFunction" fun cls => do
  let kind := match cls with
   | .kind k => ([("str", "String"), ("float", "Float"), ("int", "Integer"), ("Vector", "Vector"), ("Euler", "Euler"),
    ("Matrix", "Matrix")].lookup k).getD "Generic"
   | _ => "Generic"
  return .operation s!"handleNonList_{kind}" [],
 viewerFunction "getHandleListInfo" fun cls => do
  let (kind, minimum) : String × Option Int := match cls with
   | .kind "Vector3DList" => ("Vector", some 260)
   | .kind "Matrix4x4List" => ("Generic", some 380)
   | .kind "EulerList" => ("Euler", some 320)
   | .kind "QuaternionList" => ("Quaternion", some 320)
   | .kind "DoubleList" => ("Float", none)
   | _ => ("Generic", none)
  tuple [.operation s!"handleListElement_{kind}" [], width minimum],
 viewerFunction "handleDataAsList" (isShownAsList ·),
 single "Generic" shownOther, single "String" shownText, single "Float" shownFraction, single "Integer" shownWhole,
 single "Vector" shownVector, single "Euler" shownEuler, single "Matrix" shownMatrix,
 element "Generic" text, element "Vector" vectorLine, element "Euler" eulerLine,
 element "Quaternion" quaternionLine, element "Float" (fixedField ['1', '0'] 5 ·)]

def documentedFunctions : Operations :=
 callbackFunction :: within "utils." (nameFunctions ++ textFunctions ++ numberFunctions ++ attributeFunctions)
  ++ within "sockets." typeFunctions ++ codeFunctions ++ viewerFunctions

end AnimationGraph.Session
