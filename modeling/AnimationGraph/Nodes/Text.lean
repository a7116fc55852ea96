import AnimationGraph.Data.Motion

/-! # Nodes for texts

Texts are cut, joined, replaced, converted and read from files and text blocks.
-/

namespace AnimationGraph

variable (object : Value)

def selectOnly (os : Values) : Act := do
 hostOperator "object.select_all" [] [("action", "DESELECT")]
 (<- here "view_layer.objects").set "active" (os.headD .none)
 for o in os do o.tell "select_set" [true]

def removeWithData : Act := do
 if <- notEqual (<- object "mode") "OBJECT" then hostOperator "object.mode_set" [] [("mode", "OBJECT")]
 let type <- object "type"
 let data <- object "data"
 (<- blocks "objects").tell "remove" [object]
 if <- among type ["CURVE", "FONT"] then (<- blocks "curves").tell "remove" [data]
 else if <- equal type "MESH" then (<- blocks "meshes").tell "remove" [data]

def outlineStarts : Evals := do
 selectOnly [object]
 hostOperator "object.convert" [] [("target", "CURVE"), ("keep_original", true)]
 let c <- here "view_layer.objects.active"
 let starts <- (<- iter (<- c.at "data.splines")).mapM fun sp => do
  vector (<- iter (<- (<- item (<- sp "bezier_points") 0) "co"))
 removeWithData c
 pure starts

def characterObject (name : String) (data : Value) (i : Nat) : Eval := do
 let own <- data.call "copy"
 own.set "body" (<- item (<- data "body") i)
 let src <- item (<- data "body_format") i
 let t <- item (<- own "body_format") 0
 for style in ["use_bold", "use_italic", "use_underline", "use_small_caps", "material_index"] do
  t.set style (<- src.attr style)
 let o <- (<- blocks "objects").call "new" [name, own]
 (<- here "scene.collection.objects").tell "link" [o]
 pure o

def inAreaOfType {α : Type} (type : String) (x : Run α) : Run α := do
 let area <- here "area"
 let old <- area "type"
 area.set "type" type
 let r <- x
 area.set "type" old
 pure r

def splitIntoCharacters : Evals := inAreaOfType "VIEW_3D" do
 leaveEditMode
 let starts <- list (<- outlineStarts object)
 let mut objects : Values := []
 let mut outline : Nat := 0
 for (c, i) in (<- iter (<- object.at "data.body")).zipIdx do
  if <- ask c "isspace" then continue
  let name := (<- textAt object "name") ++ " part " ++ Edit.padLeft 3 (toString i) '0'
  let part <- characterObject name (<- object "data") i
  let own <- outlineStarts part
  let off <- sub (<- item starts outline) (<- item (<- list own) 0)
  part.set "matrix_world" (<- matMul (<- object "matrix_world") (<- kernel "Matrix.Translation" [off]))
  outline := outline + own.length
  objects := objects ++ [part]
 pure objects

def separationOwner : String := "text separation node id"
def separationIndex : String := "text separation node index"

structure PartLooks where
 (fonts ratios sizes charSpacings wordSpacings lineSpacings alignments : Value)

def PartLooks.ofArguments (b : Bound) : PartLooks := ⟨b 1, b 2, b 3, b 4, b 5, b 6, b 7⟩
def plainBlanks : Values := [" ", "\t", "\n", "\r", "\x0b", "\x0c"]

def characterWidth (char ratio spacing wordSpacing : Value) : Eval := do
 let mut width <- mul (textWidth (<- text char)) ratio
 if char.is " " then width := <- mul width wordSpacing
 sub (<- add width (<- div spacing 2)) 0.5

variable (l : PartLooks)

def PartLooks.width (part : Value) (i space : Nat) : Eval := do
 discard <| item l.fonts i
 let ratio <- item l.ratios i
 let spacing <- item l.charSpacings i
 let wordSpacing <- item l.wordSpacings space
 let widths <- (<- iter part).mapM (characterWidth · ratio spacing wordSpacing)
 mul (<- total widths) (<- item l.sizes i)

def PartLooks.place (line i : Nat) (x : Value) : Eval := do
 let scale <- kernel "Matrix.Scale" [<- item l.sizes i, 4]
 let y <- mul (.int (-.ofNat line)) (<- item l.lineSpacings line)
 matMul (<- kernel "Matrix.Translation" [.tuple [x, y, 0]]) scale

def PartLooks.align (line i : Nat) (w : Value) (ps : Values) : Eval := do
 let ts <- kernel "Matrix4x4List.fromValues" [<- list ps]
 let alignment <- item l.alignments line
 if <- notEqual alignment "LEFT" then
  let last : Value := .int (.ofNat i - 1)
  let spacing <- item l.charSpacings last
  let size <- item l.sizes last
  let mut offset <- add (<- negate w) (<- mul (<- sub (<- div spacing 2) 0.5) size)
  if <- equal alignment "CENTER" then offset := <- div offset 2
  ts.tell "transform" [<- kernel "Matrix.Translation" [.tuple [offset, 0, 0]]]
 pure ts

/-- Transformations of the parts of a text.  Each part counts as shown or not, and as so many looks and spaces. -/
def PartLooks.transforms (src : Value) (ps : Value -> Evals)
  (counts : Value -> Run (Bool × Nat × Nat)) : Eval := do
 let mut all : Values := []
 let mut index : Nat := 0
 let mut space : Nat := 0
 let ts <- kernel "Matrix4x4List"
 for (line, i) in (<- iter (<- src.call "splitlines")).zipIdx do
  let mut places : Values := []
  let mut x : Value := 0
  for part in <- ps line do
   let (isShown, looks, spaces) <- counts part
   if isShown then
    places := places ++ [<- l.place i index x]
    all := all ++ [part]
   x := <- add x (<- l.width part index space)
   index := index + looks
   space := space + spaces
  ts.tell "extend" [<- l.align i index x places]
 tuple [ts, <- list all, all.length]

def fontRatio (font id : Value) : Eval := do
 let known <- table "fontRatios"
 let key : Value := .tuple [font, id]
 if <- has known key then return <- item known key
 let data <- (<- blocks "curves").call "new" ["an_helper_font_curve"] [("type", "FONT")]
 let o <- (<- blocks "objects").call "new" ["an_helper_text_object", data]
 data.set "font" font
 data.set "body" "W"
 (<- item (<- data "body_format") 0).set "use_underline" true
 let actual <- item (<- o "dimensions") 0
 (<- blocks "curves").tell "remove" [data]
 let ratio <- div actual (textWidth "W")
 setItem known key ratio
 pure ratio

def textAttributes : List (String × String × Fields × String) := [
 ("Text", "Text", [], "body"), ("Float", "Size", [val 1], "size"), ("Float", "Extrude", [], "extrude"),
 ("Float", "Shear", [], "shear"), ("Float", "Bevel Depth", [], "bevel_depth"),
 ("Integer", "Bevel Resolution", [], "bevel_resolution"),
 ("Float", "Letter Spacing", [val 1], "space_character"), ("Float", "Word Spacing", [val 1], "space_word"),
 ("Float", "Line Spacing", [val 1], "space_line"), ("Float", "X Offset", [], "offset_x"),
 ("Float", "Y Offset", [], "offset_y"), ("Text", "Horizontal Align", [val "CENTER"], "align_x"),
 ("Text", "Vertical Align", [val "CENTER"], "align_y"), ("Font", "Font", [], "font"),
 ("Font", "Bold Font", [], "font_bold"), ("Font", "Italic Font", [], "font_italic"),
 ("Font", "Bold Italic Font", [], "font_bold_italic")]

def alignsBy (m name : String) (types : Values) : Feature :=
 act2 s!"{m} textObject align" fun n obj align => do
  if <- has (.tuple types) align then obj.set name align
  else n.showError ("Invalid align type. \n" ++ (<- text (.tuple types)))

def aligning (axis : String) (xs : Values) : Feature :=
 act2 s!"set{axis}Alignment sequence align" fun n seq align => do
  if <- has (.tuple xs) align then seq.set s!"align_{axis.toLower}" align
  else n.showError (s!"{axis} Align must be in {(<- text (.tuple xs))}")

def textNodes : List NodeKind := [
.of "Change Text Case" [choice "caseType" "CAPITALIZE" (calling "caseTypeChanges")] (do
 str ("Text", "inText")
 gives "Text" ("Text", "outText")) [
 act1 "caseTypeChanges context" fun _ _ => codeChanged,
 shows "caseType" bare,
 runsCode fun n => do
  let caseType <- n.word "caseType"
  if caseType == "CAPWORDS" then return "outText = string.capwords(inText)"
  unless ["UPPER", "LOWER", "CAPITALIZE", "TITLE"].contains caseType do fail .key
  return s!"outText = inText.{caseType.toLower}()",
 usesModules ["string"]],
.of "Character Properties Output" [flag "allowNegativeIndex" true] (fun n => do
 n.takes "Object" ("Text Object", "object") [unnamed]
 n.int "Start" [val 0]
 n.int "End" [val (-1)]
 n.int "Material Index" [val 0]
 n.takesEach "Boolean" ["Bold", "Italic", "Underline", "Small Caps"] [val false]
 n.switchable 3
 hideAll ((<- n.inputs).drop 4)
 n.gives "Object") [
 showsMore "allowNegativeIndex",
 code fun n _ => do
  let start <- if <- anyOf (<- ((<- n.inputs).drop 3).mapM (· "isUsed")) then pure #[
    "if getattr(object, 'type', '') == 'FONT':", "    textObject = object.data",
    if <- n.is "allowNegativeIndex" then "    s, e = start, end" else "    s, e = max(0, start), max(0, end)",
    "    for char in textObject.body_format[s:e]:"]
   else pure #[]
  return start ++ (<- n.linesOfUsed [("Material Index", "char.material_index = materialIndex"),
   ("Bold", "char.use_bold = bold"), ("Italic", "char.use_italic = italic"),
   ("Underline", "char.use_underline = underline"), ("Small Caps", "char.use_small_caps = smallCaps")] "        ")],
.of "Characters" [] (do
 givesEach "Text" [("Lower Case", "lower"), ("Upper Case", "upper"), "Digits", "Special", "Line Break", "Tab"]) [
 writes fun _ req => emitWanted req [("lower", "'abcdefghijklmnopqrstuvwxyz'"),
  ("upper", "'ABCDEFGHIJKLMNOPQRSTUVWXYZ'"), ("digits", "'0123456789'"),
  ("special", "'!$%&/\\()=?*+#\\'-_.:,;\"'"), ("lineBreak", "'\\n'"), ("tab", "'\\t'")]],
.of "Convert to Text" [] (do
 takes "Generic" "Data"
 gives "Text") [runs "text = str(data)"],
.risky "Decompose Text" (listFlags ["Font", "Size", "CharSpacing", "WordSpacing", "LineSpacing",
 "Alignment"] ++
   [menu "decomposeType" "CHARACTER"]) (fun n => do
 n.takes "Text"
 n.takesSome "Font"
 n.takesSome "Float" (named "Size" [val 1, hide])
 n.takesMany "Float" ["useCharSpacingList"]
   (named ("Character Spacing", "charSpacing") [val 1, hide])
   ("Characters Spacing", "charsSpacing")
 n.takesSome "Float" (named "Word Spacing" [val 1, hide]) "Words Spacing"
 n.takesSome "Float" (named "Line Spacing" [val 1, hide]) "Lines Spacing"
 n.takesSome "Text" (named "Alignment" [val "LEFT", hide])
 n.bool "Include Whitespaces" [val true, hide]
 n.gives "Matrix List" "Transforms"
 if (<- n "decomposeType").is "CHARACTER" then n.gives "Text List" "Characters"
 else n.gives "Text List" "Words"
 n.gives "Integer" "Length") [
 shows "decomposeType" bare,
 method "execute text fonts sizes charsSpacing wordsSpacing linesSpacing alignments includeWhitespaces" fun n b => do
   n.tell "validateAlignments" [b 6]
   let fonts <- if <- n.is "useFontList" then iter (b 1) else pure [b 1]
   let ids <- fonts.mapM (n.call "getFontID" [·])
   let ratios <- (fonts.zip ids).mapM fun (font, id) => fontRatio font id
   let [sizes, chars, words, ls] <- exactly 4 (<- kernel "VirtualDoubleList.createMultiple"
    [.tuple [b 2, 1], .tuple [b 3, 1], .tuple [b 4, 1], .tuple [b 5, 1]]) | fail .value
   let (ids, ratios, aligns) <- unpack3 (<- kernel "VirtualPyList.createMultiple"
    [.tuple [<- list ids, 0], .tuple [<- list ratios, 1], .tuple [b 6, "LEFT"]])
   let looks := [b 0, ids, ratios, sizes, chars, words, ls, aligns]
   if (<- n "decomposeType").is "CHARACTER" then n.call "getCharTransforms" (looks ++ [b 7])
   else n.call "getWordTransforms" looks,
 method "getCharTransforms text fontIDs fontRatios sizes charsSpacing wordsSpacing linesSpacing alignments includeWhitespaces" fun _ b =>
   (PartLooks.ofArguments b).transforms (b 0) iter fun char => do
    return ((<- truthy (b 8)) || !(<- occursIn char plainBlanks), 1, if char.is " " then 1 else 0),
 method "getWordTransforms text fontIDs fontRatios sizes charsSpacing wordsSpacing linesSpacing alignments" fun _ b =>
   let parts line := return ((Pattern.splitText? "(\\s+)" (<- text line)).getD []).map (.str <| ·.getD "")
   (PartLooks.ofArguments b).transforms (b 0) parts fun part => do
    match (<- text part).toList with
    | c :: _ => if <- occursIn (String.singleton c) plainBlanks then pure (false, 0, 1) else pure (true, 1, 0)
    | [] => pure (false, 0, 1),
 fn1 "getFontID font" fun n font => do
  if font.isNone then n.halt "BFont is not supported!"
  let path <- font "filepath"
  if path.is "<builtin>" then n.halt "BFont is not supported!"
  discard <| font "library"
  fontState "load" [path]
  fontState "size" [1, 50]
  pure 1,
 act1 "validateAlignments alignments" fun n aligns => do
  for align in <- if <- n.is "useAlignmentList" then iter aligns else pure [aligns] do
   unless <- among align ["LEFT", "RIGHT", "CENTER"] do
    n.halt "Invalid alignment. Possible values are 'LEFT', 'CENTER', and 'RIGHT'."],
.lifted "Replace Text" [flag "useTextList"] (do
 takesSome "Text"
 takesEach "Text" ["Old", "New"]
 givesSome "Text" ("Text", "newText")) [runs "newText = text.replace(old, new)"],
.of "Join Texts" [] (do
 takes "Text List" "Texts"
 str "Separator"
 gives "Text") [runs "text = separator.join(texts)"],
.of "Random Text" [whole "nodeSeed" 0 reruns] (do
 int "Seed"
 int "Length" [val 5]
 str "Characters" [val "abcdefghijklmnopqrstuvwxyz"]
 gives "Text") (withSeed [
 shows "nodeSeed",
 fn3 "execute seed length characters" fun n seed k cs => do
  discard <| add seed (<- mul 12334 (<- n "nodeSeed"))
  let cs <- iter cs
  return textOfItems (<- (<- span k).mapM fun _ => do
   need .zeroDivision cs[(<- nextRandom) % cs.length]?)]),
.of "Repeat Text" [choice "mode" "END" reruns] (do
 int "Repeats" [atLeast 0]
 takesEach "Text" [("Text", "inText"), "Fill"]
 gives "Text" ("Text", "outText")) [
 shows "mode" bare,
 fn3 "execute repeats inText fill" fun n repeats inText fill => do
  match <- n.word "mode" with
  | "START" => add (<- mul fill repeats) inText
  | "END" => add inText (<- mul fill repeats)
  | _ => pure .none],
.of "Reverse Text" [flag "useList"] (do
 takesAny "Text" ("Text", "inText")
 givesAny "Text" ("Text", "outText")) [
 runsEither "useList" #["outTexts = [text[::-1] for text in inTexts]"] #["outText = inText[::-1]"]],
.of "Separate Text Object" [words "sourceObjectName", whole "currentID", whole "objectCount", words "materialName",
 choice "outputType" "MESH", choice "curveDimensions" "2D", choice "originType" "ORIGIN_CENTER_OF_MASS"]
  (gives "Object List" "Text Objects") [
 draws fun n l => do
  let row <- l.line
  row.prop n "sourceObjectName" "Source"
  n.button row "assignActiveObject" { icon := "EYEDROPPER" }
  let src <- n.call "getSourceObject"
  if src.isSome then row.prop src "hide_viewport" bare
  l.put "prop_search" [n, "materialName", .space "bpy.data", "materials"] (badge "Material" "MATERIAL_DATA")
  l.prop n "originType" "Origin"
  l.prop n "outputType" [("expand", true)]
  if (<- n "outputType").is "CURVE" then l.prop n "curveDimensions" [("expand", true)]
  n.button l "updateSeparation"
    { text := "Update", description := "Recreate the individual characters from the source object", icon :=
      "FILE_REFRESH" },
 act0 "assignActiveObject" fun n => do n.set "sourceObjectName" (<- (<- here "active_object").attrD "name" ""),
 fn0 "execute" fun n => do
  let k <- n "objectCount"
  let found <- mul (<- list [.none]) k
  for sc in <- iter (<- blocks "scenes") do
   for o in <- each sc "objects" do
    if <- ask n "isObjectPartOfThisNode" [o] then
     let j <- o.attrD (<- dataPath separationIndex) (-1)
     if (<- lessEqual 0 j) && (<- less j k) then setItem found j o
  pure found,
 act0 "updateSeparation" fun n => do
  n.tell "removeExistingObjects"
  n.tell "createNewNodeID"
  let src <- n.call "getSourceObject"
  if src.isNone then return
  if (<- src "data").isNone then return
  src.set "hide_viewport" false
  let os <- splitIntoCharacters src
  let texts <- os.mapM (·.at "data.body")
  selectOnly os
  let type <- n "outputType"
  if type.isOneOf ["MESH", "CURVE"] then hostOperator "object.convert" [] [("target", type)]
  let origin <- n "originType"
  unless origin.is "DEFAULT" do hostOperator "object.origin_set" [] [("type", origin)]
  let sc <- here "scene"
  for ((o, content), i) in (os.zip texts).zipIdx do
   o.set "hide_select" true
   setItem o separationOwner (<- n "currentID")
   setItem o separationIndex i
   let keys <- o "id_keys"
   keys.tell "set" ["Text", "Initial Text", content]
   keys.tell "set" ["Integer", "Index", i]
   let ts <- ["location", "rotation_euler", "scale"].mapM (o.attr ·)
   keys.tell "set" ["Transforms", "Initial Transforms", .tuple ts]
   sc.bid "collection.objects.unlink" [o]
   (<- (<- objectContainer sc) "objects").tell "link" [o]
  hostOperator "an.update_id_keys_list"
  n.set "objectCount" os.length
  if type.is "CURVE" then for o in os do (<- o "data").set "dimensions" (<- n "curveDimensions")
  let mat <- (<- blocks "materials").call "get" [<- n "materialName"]
  if <- truthy mat then for o in os do o.set "active_material" mat
  src.set "hide_viewport" true
  src.set "hide_render" true,
 act0 "removeExistingObjects" fun n => do
  let own <- (<- iter (<- here "scene.objects")).filterM fun o => do ask n "isObjectPartOfThisNode" [o]
  for o in own do removeWithData o,
 act0 "createNewNodeID" fun n => do n.set "currentID" (<- rounded (<- mul (<- randomFraction) 100000)),
 fn1 "isObjectPartOfThisNode object" fun n o => do
  equal (<- o.attrD (<- dataPath separationOwner) (-1)) (<- n "currentID"),
 fn0 "getSourceObject" fun n => do
  let src <- (<- blocks "objects").call "get" [<- n "sourceObjectName"]
  if <- equal (<- src.attrD "type" "") "FONT" then return src
  pure .none,
 act1 "duplicate sourceNode" fun n _ => n.tell "createNewNodeID"],
.telling <| .of "Split Text" [menu "splitType" "LINES", flag "keepDelimiters" false reruns] (fun n => do
 n.takes "Text"
 if (<- n "splitType").isOneOf ["REGULAR_EXPRESSION", "SEPARATOR"] then n.str "Split By"
 if (<- n "splitType").is "N_CHARACTERS" then n.int "N" (dial 5 1)
 n.gives "Text List"
 n.gives "Integer" "Length") [
 draws fun n l => do
  l.prop n "splitType" bare
  if (<- n "splitType").is "REGULAR_EXPRESSION" then l.prop n "keepDelimiters" "Keep Delimiters",
 writes fun n _ => do
  n.emitBy "splitType" [("CHARACTERS", "textList = list(text)"), ("WORDS", "textList = text.split()"),
   ("LINES", "textList = text.splitlines()"),
   ("REGULAR_EXPRESSION", "textList = self.splitWithRegularExpression(text, splitBy)"),
   ("N_CHARACTERS", "textList = self.splitEveryNCharacters(text, n)"),
   ("SEPARATOR", "textList = [text] if splitBy == '' else text.split(splitBy)")]
  emit "length = len(textList)",
 fn2 "splitWithRegularExpression text splitBy" fun n c splitBy => do
  if <- equal splitBy "" then return <- list [c]
  let ps <- match c, splitBy with
   | .str s, .str by_ => do pure (Pattern.splitText? (if <- n.is "keepDelimiters" then s!"({by_})" else by_) s)
   | _, _ => pure none
  match ps with
  | some ps => list (ps.map (·.elim .none .str))
  | none =>
   n.showError "Invalid Regular Expression"
   list [c],
 fn2 "splitEveryNCharacters text n" fun _ c k => do
  if <- lessEqual k 0 then return <- list []
  let size <- natArg k
  let chars := (<- iter c).toArray
  let starts := (List.range ((chars.size + size - 1) / size)).map (· * size)
  list (starts.map fun i => (textOfItems (chars.extract i (i + size)).toList))],
.of "Text Block Reader" [] (do
 takes "Text Block" "Text Block" [unnamed]
 gives "Text") [
 fn1 "execute textBlock" fun _ block => do if block.isNone then pure "" else block.call "as_string"],
.of "Text Block Writer" [] (do
 takes "Text Block" "Text Block" [unnamed]
 takes "Text"
 bool "Enabled" [hide]
 gives "Text Block") [
 fn3 "execute textBlock text enabled" fun _ block c enabled => do
  if !(<- truthy enabled) || block.isNone then return block
  block.tell "from_string" [c]
  pure block],
.risky "Text File Reader" [] (do
 str "Path" [("showFileChooser", true)]
 str "Encoding" [val "ascii"]
 gives "Text") ((remembersFiles "textFiles").append [
 fn2 "execute path encoding" fun n path encoding => do
  let place <- textArg path
  unless <- pathExists place do n.halt "Path does not exist"
  let known <- table "textFiles"
  let key : Value := .tuple [path, encoding]
  let file <- fileAt? place
  let time : Value := (file.map (·.2)).getD 1000
  let stale <- match <- known.call "get" [key] with
   | .tuple [old, _] => greater time old
   | _ => pure true
  if stale then
   match Encoding.named? (<- textArg encoding) with
   | none => n.halt "Invalid Encoding"
   | some e =>
    match file.bind fun f => e.read? f.1 with
    | some c => setItem known key (.tuple [time, c])
    | none => n.halt "Encoding Error"
  item (<- known.call "get" [key, .tuple [0, ""]]) 1]),
.lifted "Text Length" [flag "useTextList"] (do
 takesSome "Text"
 givesMany "Integer" ["useTextList"] "Length") [runs "length = len(text)"],
.telling <| .lifted "Text Object Output" (listFlags ("Object" :: textAttributes.map (camelCase ·.2.1)))
  (fun n => do
 n.takesObjects [] false
 for (type, name, opts, t) in textAttributes do
  let d := if t.startsWith "align" then some "'CENTER'" else none
  n.takesMany type (ownFlag name ++ ["useObjectList"]) (named name opts) (.plural name) [] true d
 n.switchable
 hideAll ((<- n.inputs).drop 4)
 n.givesSome "Object") [
 writes fun n _ => do
  emitWhen "object" "FONT" "textObject = object.data"
  for ((_, name, _, t), i) in textAttributes.zipIdx do
   if <- n.usesInputAt (i + 1) then
    emit ("    " ++ match t with
     | "body" => "if str(textObject.body) != text: textObject.body = text"
     | "align_x" => "self.setAlignmentX(textObject, horizontalAlign)"
     | "align_y" => "self.setAlignmentY(textObject, verticalAlign)"
     | t => "textObject." ++ t ++ " = " ++ SocketNames.identifier name),
 alignsBy "setAlignmentX" "align_x" ["LEFT", "CENTER", "RIGHT", "JUSTIFY", "FLUSH"],
 alignsBy "setAlignmentY" "align_y" ["TOP_BASELINE", "TOP", "CENTER", "BOTTOM", "BOTTOM_BASELINE"],
 writes0 "getBakeCode" fun n => do
  emitWhen "object" "FONT" "textObject = object.data"
  for (type, name, _, t) in textAttributes do
   if type == "Font" || t == "body" then continue
   if <- n.usesInput name then emit s!"    textObject.keyframe_insert('{t}')"],
.telling <| .of "Text Sequence Output" [] (fun n => do
 n.takes "Sequence" "Sequence" [unnamed]
 n.takes "Text"
 n.int "Size" [val 200]
 n.bool "Shadow" [val false]
 n.str "X Align" [val "CENTER"]
 n.str "Y Align" [val "BOTTOM"]
 n.float "X Location" [val 0.5]
 n.takesEach "Float" ["Y Location", "Wrap Width"] [val 0.0]
 n.gives "Sequence"
 n.switchable
 hideAll ((<- n.inputs).drop 4)) [
 writes fun n _ => do
  emitWhen "sequence" "TEXT" "pass"
  emits (<- n.linesOfUsed [("Text", "sequence.text = text"), ("Size", "sequence.font_size = size"),
   ("Shadow", "sequence.use_shadow = shadow"), ("X Align", "self.setXAlignment(sequence, xAlign)"),
   ("Y Align", "self.setYAlignment(sequence, yAlign)"), ("X Location", "sequence.location[0] = xLocation"),
   ("Y Location", "sequence.location[1] = yLocation"), ("Wrap Width", "sequence.wrap_width = wrapWidth")]),
 aligning "X" ["LEFT", "CENTER", "RIGHT"], aligning "Y" ["TOP", "CENTER", "BOTTOM"],
 writes0 "getBakeCode" fun n => do
  emitWhen "sequence" "TEXT" "pass"
  let paths := [("Size", "'font_size'"), ("Shadow", "'use_shadow'"), ("X Align", "'align_x'"), ("Y Align", "'align_y'"),
   ("X Location", "'location', index = 0"), ("Y Location", "'location', index = 1"), ("Wrap Width", "'wrap_width'")]
  emits (<- n.linesOfUsed (paths.map fun (input, path) => (input, s!"sequence.keyframe_insert({path})")))],
.of "Timecode Generator" [] (fun n => do
 n.float "Frame"
 (<- n.newInput "Float" "Frame Rate" "frameRate" [atLeast 0]).set "value"
   (<- div (<- here "scene.render.fps") (<- here "scene.render.fps_base"))
 n.gives "Text" "Timecode") [
 fn2 "execute frame frameRate" fun _ fr rate => do
  if <- greater rate 0 then return <- kernel "smpte_from_frame" [fr] [("fps", rate), ("fps_base", 1)]
  pure "00:00:00:00"],
.of "Trim Text" [toggle "trimStart", toggle "trimEnd" true, flag "allowNegativeIndex" false rebuilds] (do
 takes "Text"
 if <- is "trimStart" then int "Start" [val 0]
 if <- is "trimEnd" then int "End" [val 5]
 gives "Text" ("Text", "outText")) [
 drawsRow fun n row => do
  row.prop n "trimStart" (badge "Start" "TRIA_RIGHT")
  row.prop n "trimEnd" (badge "End" "TRIA_LEFT"),
 showsMore "allowNegativeIndex" "Negative Indices",
 writes fun n _ => do
  unless <- n.is "trimStart" do emit "start = 0"
  unless <- n.is "trimEnd" do emit "end = len(text)"
  if <- n.is "allowNegativeIndex" then emit "outText = text[start:end]"
  else emit "outText = text[max(start, 0):max(end, 0)]"]]

end AnimationGraph
