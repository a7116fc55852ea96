import AnimationGraph.Catalogue.Basic
import AnimationGraph.Script.Eval

/-! # Scripts that take part in a build

Lists of numbers, vectors and other things have the same code for each type of their elements. Folders of the add-on can
hold scripts that say what has to be generated there, which libraries have to be compiled, and what the compiler has to
know.
-/

namespace AnimationGraph.Build

open Path (join key)

variable (folder path : String)

def located : String :=
 if path == filesHome then "."
 else if path.startsWith s!"{filesHome}/" then (path.drop (filesHome.length + 1)).toString
 else path

def withStore {α : Type} (f : FileStore -> Except FileProblem (α × FileStore)) : Run α := do
 match f (<- get).files with
 | .ok (x, s) =>
  change ({ · with files := s })
  pure x
 | .error problem => fail problem.cause

def isFile (path : String) : Ask := look (·.files.isFile (located path))
def readText : Run String := withStore fun s => return (withPlainBreaks (<- s.read (located path)), s)
def putText (c : String) : Act := withStore fun s => return ((), <- s.write (located path) c)
def removeFile : Act := change fun w => { w with files := w.files.remove path }

def copyFile (src t : String) : Act := do
 let (r, left) := (<- get).files.copy src t
 change ({ · with files := r.toOption.getD left })
 if let .error problem := r then fail problem.cause

def overwriteFile (src t : String) : Act := do
 removeFile t
 copyFile src t

/-- Brings the files of one folder to another one. What was done before a failure stays. -/
def sync (src t : String) : Run SyncReport := do
 unless <- look (·.files.isFolder t) do withStore fun s => return ((), <- s.makeFolder t)
 let wanted <- look (Selection.addonFiles ·.files src)
 let there <- look (Selection.addonFiles ·.files t)
 let removed := there.filter (!wanted.contains ·)
 removed.forM fun p => removeFile (join t p)
 let created := wanted.filter (!there.contains ·)
 created.forM fun p => copyFile (join src p) (join t p)
 let updated <- (wanted.filter there.contains).filterM fun p => do
  let newer <- look (·.files.changedSince (join t p) [join src p])
  if newer then overwriteFile (join src p) (join t p)
  pure newer
 let within := List.map (join t)
 return ⟨within removed, within created, within updated⟩

def readDocument : Reply := do need (.host "JSONDecodeError") (Json.ofText? (<- readText path))
def readJson : Eval := do plainValue (<- readDocument path)

variable (target : String)

def hasChanged (ps : Texts) : Ask := look (·.files.changedSince (located target) (ps.map located))

structure Task where
 target : String
 dependencies : Texts
 make : Act

def Task.execute (t : Task) : Act := do
 for p in t.dependencies do if !(<- isFile p) then failWith s!"file not found: {p}"
 if <- hasChanged t.target t.dependencies then t.make
 if !(<- isFile t.target) then failWith s!"target has not been generated: {t.target}"

def fillIn (tmpl : String) (words : Fields) : Run String :=
 (Pattern.ofTexts (words.map (·.1))).replaced tmpl fun g => do
  match words.find? (some ·.1 == g 0) with
  | some (_, .str s) => pure s
  | some _ => fail .type
  | none => fail .key

def fullLines (s : String) : Texts :=
 let rec go (cur : Chars) : Chars -> List Chars
  | [] => if cur.isEmpty then [] else [cur.reverse]
  | '\r' :: '\n' :: rest => ('\n' :: '\r' :: cur).reverse :: go [] rest
  | c :: rest =>
   if (Letters.lines (String.ofList [c, 'x'])).length == 2 then (c :: cur).reverse :: go [] rest
   else go (c :: cur) rest
 (go [] s.toList).map String.ofList

def indentText (blanks : Nat) (v : Value) : Run String := do
 let .str s := v | fail .attr
 return String.join <| (fullLines s).map fun l =>
   if (Letters.trimmed l).isEmpty then l else String.ofList (List.replicate blanks ' ') ++ l

def joined (divider : String) (ps : Values) : Run String := return divider.intercalate (<- ps.mapM textArg)

structure ListType where
 (name element buffer equals fromValue toValue methods : Value)
 declarations : Values

def numberLists : Run (List (Value × Value)) := do
 (<- iter (<- readJson (join folder "numeric_list_types.json"))).mapM unpack2

def methodsFile (v : Value) : Run String := return join folder (<- textArg v)

def listTypes : Run (List ListType) := do
 let ns <- readJson (join folder "numeric_list_types.json")
 let methods <- readText (join folder "__numeric_list_functions.src")
 let plain <- (<- iter ns).mapM fun e => do
  let (name, elem) <- unpack2 e
  return ({ name, element := elem, buffer := elem, equals := "\\1 == \\2",
            fromValue := "target[0] = value", toValue := "return value[0]", methods,
            declarations := [] } : ListType)
 let special <- readJson (join folder "special_list_types.json")
 let others <- (<- iter (<- special.call "items")).mapM fun e => do
  let (name, info) <- unpack2 e
  let src <- item info "Additional Methods"
  let methods <- if <- equal src "" then pure "" else readText (<- methodsFile folder src)
  return ({ name, methods, element := <- item info "Type", buffer := <- item info "Buffer Type",
            equals := <- item info "Equals", fromValue := <- item info "Try Conversion",
            toValue := <- add "return " (<- item info "To PyObject"),
            declarations := <- iter (<- item info "Declarations") } : ListType)
 return plain ++ others

def listImplementations : Act := do
 let tmpl <- readText (join folder "__list_implementation.src")
 let ps <- (<- listTypes folder).mapM fun t => do
  let code := Edit.replace tmpl "MORE_METHODS" (<- indentText 4 t.methods)
  let .ok code := replacedBy "EQUALS\\((.*), (.*)\\)" (s!"({(<- text t.equals)})") code | fail (.host "error")
  let v <- indentText 8 t.fromValue
  let toValue <- indentText 8 t.toValue
  fillIn code
   [("LISTNAME", t.name), ("TYPE", t.element), ("MEMVIEW", t.buffer), ("TRY_CONVERSION_CODE", v),
   ("TO_PYOBJECT_CODE", toValue)]
 putText target ("\n\n".intercalate ("cdef struct NotExistentType:\n    char tmp" :: ps))

def listDeclarations : Act := do
 let tmpl <- readText (join folder "__list_declaration.src")
 let mut fused := "ctypedef fused NumericList:\n"
 for (name, _) in <- numberLists folder do
  let .str s := name | fail .type
  fused := s!"{fused}    {s}\n"
 let mut parts : Array Value := #["ctypedef fused list_or_tuple:\n    list\n    tuple", fused]
 for t in <- listTypes folder do
  let code <- fillIn tmpl [("LISTNAME", t.name), ("TYPE", t.element), ("MEMVIEW", t.buffer)]
  parts := parts ++ t.declarations.toArray ++ #[.str code]
 putText target (<- joined "\n\n" parts.toList)

def listConversions : Act := do
 let tmpl <- readText (join folder "__convert.src")
 let nums <- numberLists folder
 let ns <- joined ", " (nums.map (·.1))
 let ps <- nums.mapM fun (name, x) => fillIn tmpl [("TARGETLIST", name), ("TYPE", x)]
 putText target <| "\n".intercalate <|
  "from . base_lists cimport NumericList" :: s!"from . base_lists cimport {ns}" :: "" :: ps

def virtualTypes : Run (List (Value × Value)) := do
 (<- iter (<- (<- readJson (join folder "virtual_clist_types.json")).call "items")).mapM unpack2

def byReturn (info : Value) (pointer other : String) : Eval := do
 return if <- equal (<- item info "Return") "Pointer" then pointer else other

def virtualImplementations : Act := do
 let tmpl <- readText (join folder "__virtual_clist_implementation.src")
 let ps <- (<- virtualTypes folder).mapM fun (name, info) => do
  fillIn tmpl
   [("LISTNAME", name), ("TYPE", <- item info "Type"), ("OPTIONAL_STAR", <- byReturn info "*" ""),
   ("OPTIONAL_DEREF", <- byReturn info "" "[0]"), ("OPTIONAL_INV_DEREF", <- byReturn info "[0]" "")]
 putText target ("\n\n".intercalate ("cimport cython" :: ps))

def virtualDeclarations : Act := do
 let tmpl <- readText (join folder "__virtual_clist_declaration.src")
 let mut parts : Array Value := #["from . virtual_list cimport VirtualList"]
 for (name, info) in <- virtualTypes folder do
  parts := parts.push (<- add "from .. lists.base_lists cimport " name)
  parts := parts.push (<- item info "Import")
  let code <- fillIn tmpl
   [("LISTNAME", name), ("TYPE", <- item info "Type"), ("OPTIONAL_STAR", <- byReturn info "*" "")]
  parts := parts.push code
 putText target (<- joined "\n\n" parts.toList)

def actionCode (tmpl bound : String) : Run String := do
 let mut leftOut := false
 let mut kept : Array String := #[]
 for line in Letters.lines (replacedAtOnce [("BOUNDTYPE", bound)] tmpl) do
  if line.startsWith "#ENDIF" then leftOut := false
  else if line.startsWith "#IF" then leftOut := !(<- truthy (<- Script.valueOfExpression (line.drop 3).toString []))
  else if !leftOut then kept := kept.push line
 return "\n".intercalate kept.toList

def actionTypes (imports tmpl dir t : String) : Act := do
 let imports <- readText (join dir imports)
 let tmpl <- readText (join dir tmpl)
 putText t ("\n\n".intercalate [imports, <- actionCode tmpl "Bounded", <- actionCode tmpl "Unbounded"])

inductive Generator where
 | lists | convert | virtual | actions
 deriving DecidableEq

namespace Generator

def script : Generator -> String
 | .lists => "_generate_list_code.py"
 | .convert => "_generate_convert_code.py"
 | .virtual => "_generate_virtual_clist_code.py"
 | .actions => "_generate_action_types.py"

def sources : Generator -> Texts
 | .lists =>
  ["__list_implementation.src", "__list_declaration.src", "numeric_list_types.json", "special_list_types.json",
  "__numeric_list_functions.src"]
 | .convert => ["__convert.src", "numeric_list_types.json"]
 | .virtual => ["__virtual_clist_implementation.src", "__virtual_clist_declaration.src", "virtual_clist_types.json"]
 | .actions => ["__types_implementation.src", "__pyx_imports.src", "__pxd_imports.src"]

def targets (dir : String) : Generator -> List (String × (String -> Act))
 | .lists => [("base_lists.pyx", listImplementations dir), ("base_lists.pxd", listDeclarations dir)]
 | .convert => [("convert.pyx", listConversions dir)]
 | .virtual => [("virtual_clists.pyx", virtualImplementations dir), ("virtual_clists.pxd", virtualDeclarations dir)]
 | .actions =>
  [("action_types.pyx", actionTypes "__pyx_imports.src" "__types_implementation.src" dir),
  ("action_types.pxd", actionTypes "__pxd_imports.src" "__types_declaration.src" dir)]

def methodSources (dir : String) : Run Texts := do
 let special <- readJson (join dir "special_list_types.json")
 let sources <- (<- iter (<- special.call "values")).mapM (item · "Additional Methods")
 (<- sources.filterM (notEqual · "")).mapM (methodsFile dir)

def tasks (g : Generator) (dir : String) : Run (List Task) := do
 let further <- if g == .lists then methodSources dir else pure []
 return (g.targets dir).map fun (name, make) =>
  let target := join dir name
  { target, dependencies := (g.script :: g.sources).map (join dir) ++ further, make := make target }

end Generator

def lineMatches (pattern s : String) : List Texts :=
 match Pattern.read pattern with
 | .error _ => []
 | .ok e =>
  let text := s.toList.toArray
  (List.range (text.size + 1)).filterMap fun i =>
   if Place.lineStart.isAt text i then
    (e.pattern.matchAt? text i).map fun (_, gs) =>
     (List.range e.groups).map fun g => ((gs.span? (g + 1)).map (Pattern.part text)).getD ""
   else none

def versionIn : Eval := do
 let s <- readText path
 match Pattern.read "\"version\"\\s*:\\s*(\\(\\s*[0-9]+\\s*,\\s*[0-9]+\\s*,\\s*[0-9]+\\s*\\))" with
 | .error _ => fail .value
 | .ok e =>
  let text := s.toList.toArray
  let some (_, _, gs) := e.pattern.search? text 0 false | failWith "cannot determine addon version"
  Script.valueOfExpression (Pattern.part text ((gs.span? 1).getD (0, 0))) []

def languageOf : Run String := do
 return if (lineMatches "#\\s*distutils\\s*:\\s*language\\s*=\\s*c\\+\\+" (<- readText path)).isEmpty then "c" else "c++"

def withExtension (ext : String) : String := Path.withoutExtension path ++ ext

def filesToCompile : Run Texts := do
 let srcs <- look fun w => (w.files.listing (located folder)).paths.map fun p => join folder ("/".intercalate p)
 (srcs.filter (Path.extension · == ".pyx")).mapM fun p => do
  return withExtension p (if (<- languageOf p) == "c++" then ".cpp" else ".c")

def optionsOf : Run Texts := do
 let path := withExtension path ".pyx"
 if !(<- isFile path) then return []
 let found := lineMatches "#\\s*setup\\s*:\\s*options\\s*=(.*)(?=\\n|$)" (<- readText path)
 return (found.flatMap (·.flatMap Letters.words)).eraseDups

def compilerArguments (opts : Texts) : List (String × Texts) :=
 if opts.contains "c++11" then [("extra_compile_args", ["-std=c++11"])] else []

def moduleName (base : String) : String :=
 ".".intercalate (Path.parts (Path.relative (Path.withoutExtension path) (Path.folder base)))

def linesBetween (start stop : String) : Run String := do
 let ls := fullLinesOf (<- readText path)
 let holds (needle line : String) := (Edit.find? needle line).isSome
 let behind := ls.dropWhile (!holds start ·)
 if behind.isEmpty then failWith s!"Line containing '{start}' not found in {path}"
 let rest := behind.drop 1
 let between := rest.takeWhile (!holds stop ·)
 if between.length == rest.length then failWith s!"Line containing '{stop}' not found in  {path}"
 return String.join between
where
 fullLinesOf (s : String) : Texts :=
  let ps := s.splitOn "\n"
  ps.dropLast.map (· ++ "\n") ++ (if ps.getLast? == some "" then [] else ps.getLast?.toList)

/-- How the things are done that a script of the build stands for. -/
inductive ScriptKind where
 | generator (g : Generator)
 | noiseLibrary
 | custom (names : CellId)

structure BuildScript where
 path : String
 kind : ScriptKind

def taskKind : RecordKind where
 name := "PyPreprocessTask"
 construct := some fun args => do
  let b <- bindArgs ["target", "dependencies", "function"] args
  newRecord "PyPreprocessTask" [("target", b 0), ("dependencies", b 1), ("function", b 2)]

def utilities : Value := .kind "Utils"

def noteCall (name : String) (args : List Json) (named : JsonFields := []) : Act :=
 change fun w => { w with log := w.log.push (.call name args named) }

def runCommand (words : Texts) (named : JsonFields) : Act := noteCall "run" [.arr (words.map .str)] named
def noiseSources (script : String) : String := join (Path.folder script) "source"

def compileNoise (script : String) : Act := do
 say "Compile FastNoiseSIMD\n"
 let dir := noiseSources script
 let srcs <- look (·.files.withExtension (located dir) [".cpp", ".h"])
 if <- hasChanged (join dir "libFastNoiseSIMD_linux.a") srcs then
  runCommand ["sh", join dir "compile_linux.sh"] [("cwd", dir)]
 else say "Nothing changed. Skipping."

namespace BuildScript

def ofFile (path : String) : Run BuildScript := do
 let code <- readText path
 if let some g := [.lists, .convert, .virtual, .actions].find? fun g : Generator => g.script == Path.name path then
  return ⟨path, .generator g⟩
 if Path.name path == "wrapper_setup_info.py" then return ⟨path, .noiseLibrary⟩
 match Script.compile? code, (<- newDict [("__file__", path)]) with
 | some body, .cell t =>
  Script.run t body
  pure ⟨path, .custom t⟩
 | _, _ => fail .malformed

variable (s : BuildScript)

def function? (name : String) : Run (Option Value) := do
 let .custom names := s.kind | pure none
 Script.held? names name

def filesNamedBy (function : String) (s : BuildScript) : Run Texts := do
 let some f <- s.function? function | pure []
 (<- iter (<- f.apply [])).mapM fun v => return Path.sibling s.path (<- textArg v)

def taskOf (v : Value) : Run Task := do
 let target <- v "target"
 return { target := <- textArg target
          dependencies := <- textArgs (<- v "dependencies")
          make := do let _ <- (<- v "function").apply [target, utilities] }

def tasks (s : BuildScript) : Run (List Task) := do
 match s.kind with
 | .generator g => g.tasks (Path.folder s.path)
 | _ =>
  if let some f <- s.function? "setup" then
   let _ <- f.apply [utilities]
  let some f <- s.function? "getPyPreprocessTasks"
   | failWith s!"expected 'getPyPreprocessTasks' function in {s.path}"
  let made <- iter (<- f.apply [.kind taskKind.name, utilities])
  if !(<- made.allM (isAnyOf · [taskKind.name])) then failWith s!"no list of {taskKind.name} objects returned"
  made.mapM taskOf

def compileLibraries : Act := do
 match s.kind with
 | .noiseLibrary => compileNoise s.path
 | _ =>
  let some f <- s.function? "getCompileLibraryTasks"
   | throw { cause := .attr, message := some "'str' object has no attribute 'formaT'" }
  for task in <- iter (<- f.apply [utilities]) do
   let _ <- task.apply [utilities]

def compilerSettings : Run (List (String × List Json)) := do
 match s.kind with
 | .noiseLibrary => return [("libraries", ["FastNoiseSIMD_linux"]), ("library_dirs", [noiseSources s.path])]
 | _ =>
  let some f <- s.function? "getExtensionArgs" | pure []
  (<- iter (<- (<- f.apply [utilities]).call "items")).mapM fun e => do
   let (key, vs) <- unpack2 e
   return (key.word, <- (<- iter vs).mapM plainJson)
where
 plainJson (v : Value) : Reply := do
  match v with
  | .tuple xs => look fun w => .arr (xs.map w.json)
  | v => look (·.json v)

end BuildScript

def addonName : String := "animation_nodes"

variable (path : String)

def inProject : String := join filesHome path
def addonFolder : String := inProject addonName
def header (title : String) : Act := ["", "", title, String.ofList (List.replicate 50 '-'), ""].forM say

def numbered {α : Type} (tasks : List α) (title : α -> String) (execute : α -> Act) : Act :=
 tasks.zipIdx.forM fun (task, i) => do
  say (toString (i + 1) ++ "/" ++ toString tasks.length ++ ":" ++ title task)
  execute task

def folderScripts : Run (List BuildScript) := do
 (<- look (·.files.withName addonName "__setup_info.py")).mapM fun p => BuildScript.ofFile (inProject p)

variable (scripts : List BuildScript) (input : CompilerInput)

def generateSources : Act := do
 header "Run PyPreprocessor"
 let givers := (<- scripts.mapM (·.filesNamedBy "getPyPreprocessorProviders")).flatten
 let tasks := (<- givers.mapM fun p => do (<- BuildScript.ofFile p).tasks).flatten
 numbered tasks (" " ++ Path.relative ·.target addonFolder) Task.execute

def includePaths : Json -> Run (List Json)
 | .obj fs =>
  match fs.lookup "Cython Include Paths" with
  | some (.arr ps) => return ps ++ [.str "."]
  | some _ => fail .attr
  | none => pure ["."]
 | _ => fail .attr

def lowerSources (opts : Json) : Act := do
 header "Run Cythonize"
 let ps <- includePaths opts
 numbered (<- look fun w => (w.files.withExtension addonName [".pyx"]).map inProject) (fun _ => "") fun path =>
  noteCall "cythonize" [path]
   [("compiler_directives", .obj [("language_level", "3")]), ("include_path", .arr ps)]

def compileLibraries (scripts : List BuildScript) : Act := do
 header "Compile Libraries"
 for s in scripts do
  for provider in <- s.filesNamedBy "getLibraryCompilationProviders" do
   (<- BuildScript.ofFile provider).compileLibraries

abbrev CompilerInput := List (String × List Json)

def CompilerInput.start (src : String) (includes : List Json) : CompilerInput := [
 ("sources", [src]), ("include_dirs", includes), ("define_macros", []), ("undef_macros", []),
 ("library_dirs", []), ("libraries", []), ("runtime_library_dirs", []), ("extra_objects", []),
 ("extra_compile_args", ["-g0"]), ("extra_link_args", []), ("export_symbols", []), ("depends", [])]

def CompilerInput.extend (more : String × List Json) : Run CompilerInput := do
 if !input.any (·.1 == more.1) then fail .key
 return input.map fun (k, vs) => (k, if k == more.1 then vs ++ more.2 else vs)

def CompilerInput.values (name : String) : List Json := (input.lookup name).getD []

def compileModule (includes : List Json) (path : String) : Run (List Json) := do
 let opts := (compilerArguments (<- optionsOf path)).map fun (k, v) => (k, v.map Json.str)
 let script := withExtension path "_setup_info.py"
 let input <- opts.foldlM CompilerInput.extend (.start path includes)
 let further <- if <- isFile script then do (<- BuildScript.ofFile script).compilerSettings else pure []
 let input <- further.foldlM CompilerInput.extend input
 noteCall "setup" <| .str (moduleName path addonFolder) ::
  ["sources", "include_dirs", "define_macros", "library_dirs", "libraries", "extra_compile_args",
  "extra_link_args"].map fun k => .arr (input.values k)
 return input.values "include_dirs"

def compileModules : Act := do
 header "Compile"
 let includes := (<- scripts.mapM (·.filesNamedBy "getIncludeDirs")).flatten.map Json.str
 let fs <- filesToCompile addonFolder
 let mut known := includes
 for (path, i) in fs.zipIdx do
  say (s!"{i + 1}/{fs.length}:")
  known <- compileModule known path
 putText (join addonFolder "compilation_info.json") (Json.obj [("sys.platform", "linux")]).write

def copyAddon (t : String) : Act := do
 let t := join t addonName
 header "Copy Addon"
 let report <- sync addonName t
 let tell (word : String) (ps : Texts) := (ps.mergeSort (· ≤ ·)).forM fun p => say (word ++ ": " ++ Path.relative p t)
 tell "Removed" report.removed
 tell "Updated" report.updated
 tell "Created" report.created
 let k := report.removed.length + report.created.length + report.updated.length
 say s!"\nModified {k} files."

def writeArchive (ns : Texts) : Act := do
 removeFile (located path)
 putText path ("\n".intercalate (ns.mergeSort (· ≤ ·)))

def tellExport (title path : String) : Act := do
 say s!"{title}:"
 say s!"    {path}"

def exportAddon : Act := do
 writeArchive path (<- look fun w => (Selection.addonFiles w.files addonName).map (join addonName))
 tellExport "Exported Addon" path

def buildScripts : Texts := [
 "__init__", "addon_files", "compilation", "compile_libraries", "copy_addon", "cythonize", "export", "generic",
 "pypreprocess", "setup_info_files"].map (· ++ ".py")

def exportForCompiler (program : String) : Act := do
 let top := addonName ++ "_c"
 let files <- look fun w => (Selection.exportFiles w.files addonName).map fun p => join top (join addonName p)
 let ns := files ++ (buildScripts.map fun p => join top (join "_setuputils" p)) ++ [join top "setup_info.json"]
 let interim := inProject "tmp.json"
 putText interim ""
 removeFile (located interim)
 if !(<- isFile program) then
  writeArchive path ns
  fail .missingFile
 writeArchive path (ns ++ [join top "setup.py"])
 tellExport "Exported C Build" path

def outerFolders : Texts :=
 let steps := (path.splitOn "/").dropLast
 (List.range steps.length).reverse.map fun n => "/".intercalate (steps.take (n + 1))

def exportHeaders : Act := do
 let within (p : String) := join (join s!"{addonName}_headers" addonName) p
 let headers <- look (Selection.headerFiles ·.files addonName)
 let dirs := (headers.flatMap outerFolders).eraseDups
 writeArchive path <| headers.map within ++ ("" :: dirs).map fun f => within (join f "__init__.py")
 tellExport "Exported Headers" path

end AnimationGraph.Build
