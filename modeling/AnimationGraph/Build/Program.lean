import AnimationGraph.Build.Steps

/-! # Files of the project

What a build reads in the files that belong to the project.
-/

namespace AnimationGraph.Build

def namingScript (function : String) (fs : Texts) : String :=
 "def " ++ function ++ "():\n    return [" ++ commaList (fs.map fun f => s!"\"{f}\"") ++ "]\n"

def specialListTypes : Json :=
 .obj <| ["boolean", "vector", "euler", "matrix", "indices", "color"].map fun name =>
  let file := s!"__{name}_list_functions.src"
  (file, .obj
   [("Type", ""), ("Buffer Type", ""), ("Equals", ""), ("Try Conversion", ""),
   ("To PyObject", ""), ("Additional Methods", file), ("Declarations", .arr [])])

def otherLanguageHead : String := "# distutils: language = c++\n# setup: options = c++11\n"

def projectTexts : Pairs :=
 let data := "animation_nodes/data_structures/"
 let noise := "animation_nodes/libs/FastNoiseSIMD/"
 let givers := "getPyPreprocessorProviders"
 [("conf.default.json", (Json.obj [("Copy Target", .str
  "C:\\Users\\USERNAME\\AppData\\Roaming\\Blender Foundation\\Blender\\2.79\\scripts\\addons")]).layOut 0),
 ("animation_nodes/__init__.py", "\"version\": (2, 3, 0)"),
 (data ++ "lists/__setup_info.py", namingScript givers ["_generate_list_code.py", "_generate_convert_code.py"]),
 (data ++ "action/__setup_info.py", namingScript givers ["_generate_action_types.py"]),
 (data ++ "virtual_list/__setup_info.py", namingScript givers ["_generate_virtual_clist_code.py"]),
 (data ++ "lists/numeric_list_types.json", "[]"),
 (data ++ "lists/special_list_types.json", specialListTypes.layOut 0),
 (data ++ "virtual_list/virtual_clist_types.json", (Json.obj []).layOut 0),
 (noise ++ "__setup_info.py", namingScript "getLibraryCompilationProviders" ["wrapper_setup_info.py"]
  ++ namingScript "getIncludeDirs" ["source"]),
 (noise ++ "wrapper.pyx", otherLanguageHead),
 ("animation_nodes/nodes/falloff/noise_falloff.pyx", otherLanguageHead)]

structure Installation where
 folder : String
 neighbours : Texts := []
 compiledFor : Option Json := none
 hostVersion : List Int := [2, 93, 0]
 missing : Texts := []

namespace Installation

def version : List Nat := [2, 3, 0]

def looksAlike (name : String) : Bool :=
 let holds (part : String) := (Edit.find? part (Letters.lowered name)).isSome
 holds "animation" && holds "nodes" && !holds "test"

variable (i : Installation)

def lacks (module : String) : Bool := i.missing.any fun m => (m.splitOn ".").getLast? == some module
def refuse (ls : Texts) : Act := failWith ("\n\n" ++ "\n".intercalate ls)

def checkFolders : Act := do
 if i.folder != addonName then
  refuse ["The name of the folder containing this addon has to be 'animation_nodes'.", "Please rename it."]
 if ((i.folder :: i.neighbours).eraseDups.filter looksAlike).length > 1 then
  refuse
   ["There are multiple versions of the Animation Nodes addon installed.",
   "Please uninstall/remove all older versions of the addon.", "",
   "Animation Nodes has been found more than once in this folder:", "  " ++ filesHome]

def checkModules : Act := do
 if i.lacks "auto_load" then
  refuse
   ["The Animation Nodes addon cannot be registered correctly.", "Please try to remove and install it again.",
   "If it still does not work, report it.", ""]
 if i.lacks "numpy" then
  refuse
   ["The Animation Nodes addon depends on the numpy library.",
   "Unfortunately the Blender built you are using does not have this library.",
   "You can either install numpy manually or use another Blender version",
   "that comes with numpy (e.g. the newest official Blender release)."]
 if i.lacks "preferences" then fail .missingModule
 if i.hostVersion < [2, 93, 0] then
  refuse
   ["The Animation Nodes addon requires at least Blender 2.93.", "Your are using an older version.",
   "Please download the latest official release."]

def interpreterVersion : List Json := [.int 3, .int 11]
def platform : String := "linux"

def statedPlatform (info : Json) : Run (Value × List Json) := do
 let name <- match <- need .key (info.field? "sys.platform") with
  | .str "this" => pure (.str platform)
  | j => plainValue j
 if !(<- equal name platform) then return (name, [])
 match info.field? "sys.version_info" with
 | some (.str "this") => return (name, interpreterVersion)
 | some (.arr ns) => return (name, ns.take 3)
 | some (.str s) => return (name, (s.toList.take 3).map fun c => .str (.singleton c))
 | some _ => fail .type
 | none => fail .key

def checkBuild : Act := do
 let some info := i.compiledFor
  | refuse ["This is just the source code of Animation Nodes, not a compiled build.",
    "Please download a build for your operating system instead.",
    "Don't forget to remove this version at first."]
 let (name, version) <- statedPlatform info
 if !(<- equal name platform) then
  refuse
   ["This Animation Nodes build is for another OS.", "", "You are using: " ++ platform,
   "This build is for: " ++ (<- text name), "", "Please download a build for your operating system."]
 let ns <- version.mapM plainValue
 if !(<- equal (.tuple (ns.take 2)) (.tuple (<- interpreterVersion.mapM plainValue))) then
  refuse
   ["There is a Python version mismatch.", "", "Your Blender build uses: PYTHON",
   "Animation Nodes has been compiled for: " ++ (<- text (.tuple ns)), "", "You have three options:",
   "  1. Try to make Blender use another Python version.", "     (Blender 2.93 officially uses Python 3.9.x)",
   "  2. Compile Animation Nodes yourself using the correct Python version.",
   "     (Look in the developer manual for more information)",
   "  3. Create an issue on Github and ask if someone can create a build for you."]
 if i.lacks "test_compile" then
  refuse
   ["This build does not work at the moment.",
   "  1. Check if the build you downloaded has been compiled for the OS",
   "     you are using. If not, download another one.",
   "  2. If you are on windows you can try to install a library called",
   "     'vc_redist.x64'. Should be easy to find using your search engine", "     of choice.",
   "  3. Try to use an official Blender release downloaded from blender.org.",
   "  4. It is possible that you have a build for the correct platform",
   "     but it still does not work. We experienced this mainly on linux.",
   "     Try to find another build for your platform.",
   "     If it still does not work, you have to compile AN yourself.",
   "  5. Make a bug report on Github and give as much information",
   "     as you can. Specifically the full error message, your OS, version, ..."]

def check : Act := do
 i.checkFolders
 i.checkModules
 i.checkBuild

def switch : String -> Act
 | "register" => say "Registered Animation Nodes"
 | "unregister" => say "Unregistered Animation Nodes"
 | _ => fail .key

end Installation

structure Surroundings where
 (folder reply : String := "")
 hasCython : Bool := false

def ended : Cause := .host "SystemExit"

def leave {α : Type} (ls : Texts) : Run α := do
 ls.forM say
 fail ended

variable (s : Surroundings)

def checkFolder : Act := do
 if Path.key s.folder != "" then
  leave ["You are not in the correct directory.", "Expected: " ++ filesHome, "Got:      " ++ inProject s.folder]

def settingsFile : String := inProject "conf.json"
def defaultSettingsFile : String := inProject "conf.default.json"

def readSettings : Reply := do
 if !(<- isFile defaultSettingsFile) then leave ["Expected conf.default.json file to exist."]
 if !(<- isFile settingsFile) then
  putText settingsFile (<- withStore fun s => return (<- s.read (located defaultSettingsFile), s))
  ["Copied the conf.default.json file to conf.json.", "Please change it manually if needed.",
  "Note: git ignores it, so depending on the settings of your editor", "      it might not be shown inside it.",
  ""].forM say
 readDocument settingsFile

def optionTexts : Pairs := [
 ("--copy", "Copy build to location specified in the conf.json file"),
 ("--export", "Create installable .zip file"), ("--exportc", "Create build that can be compiled without cython"),
 ("--exportheaders", "Create a .zip file containing pxd definition files"),
 ("--nocompile", "Don't compile the extension modules"),
 ("--noversioncheck", "Don't check the used Python version")]

def helpNote : String := "Use 'python setup.py help' to see the possible commands."

def showHelp : Act := do
 ["usage: python setup.py <command> [options]", "", "Possible commands:",
 "    help                Show this help", "    build               Build the addon from sources",
 "    clean               Remove all untracked files except conf.py", "",
 "The 'build' command has multiple options:"].forM say
 for (option, description) in optionTexts do
  say ("    " ++ option ++ .ofList (.replicate (20 - option.length) ' ') ++ description)

def withChanges (x : Act) : Run FileStore.Changes := do
 let pre <- look (·.files.times ".")
 x
 return FileStore.changes pre (<- look (·.files.times "."))

def clean : Act := do
 say ""
 if Letters.lowered s.reply != "y" then leave ["Operation canceled."]
 let changes <- withChanges do
  let kept <- look (·.files.file? (located settingsFile))
  runCommand ["git", "clean", "-fdx"] [("stderr", .int (-1)), ("stdout", .int (-1))]
  if let some f := kept then putText settingsFile f.content
 say "Cleanup Finished."
 say s!"Removed {changes.removed.length} files."

def versionMark : String := "VERSION"

def checkSurroundings (version : Bool) : Act := do
 if !s.hasCython then leave ["Cython is not installed for this Python version.", versionMark]
 if version then
  leave
   ["Blender 2.93 officially uses Python 3.9.x.", "You are using: " ++ versionMark, "",
   "Use the --noversioncheck option to disable this check." ++ .ofList (.replicate 12 ' ')]

def checkOptions (opts : Texts) : Act := do
 let unknown := (opts.filter fun o => !optionTexts.any (·.1 == o)).eraseDups
 if !unknown.isEmpty then
  let shown <- (unknown.mergeSort (· ≤ ·)).mapM fun o => literal (.str o)
  leave ["Invalid build options: \x7b" ++ commaList shown ++ "\x7d\n", helpNote]
 if opts.contains "--nocompile" then
  for other in ["--copy", "--export"] do
   if opts.contains other then leave [s!"The options --nocompile and {other} don't work together."]

def showChanges (changes : FileStore.Changes) : Act := do
 header "File System Changes"
 let tell (title : String) (ps : Texts) : Act := do
  say title
  if ps.isEmpty then say "  <none>"
  else (ps.mergeSort (· ≤ ·)).forM fun p => say ("  " ++ Path.key p)
 tell "New Files:" changes.new
 tell "\nRemoved Files:" changes.removed
 tell "\nModified Files:" changes.changed

def copyToTarget (opts : Json) : Act := do
 let .obj fields := opts | fail .type
 match fields.lookup "Copy Target" with
 | none => fail .key
 | some (.str t) =>
  if Path.isAbsolute t || !(<- look (·.files.isFolder t)) then
   say "Copy Target not found. Please correct the conf.json file."
  else
   copyAddon t
   say ""
 | some _ => fail .type

def build (file : String) (opts : Texts) (settings : Json) : Act := do
 let compiles := !opts.contains "--nocompile"
 checkSurroundings s (!opts.contains "--noversioncheck" && compiles)
 checkOptions opts
 let changes <- withChanges do
  let scripts <- folderScripts
  generateSources scripts
  lowerSources settings
  if compiles then
   compileLibraries scripts
   compileModules scripts
 showChanges changes
 if opts.contains "--copy" then copyToTarget settings
 if opts.contains "--export" then exportAddon file
 if opts.contains "--exportc" then
  exportForCompiler (inProject s!"{addonName}_c.zip") (inProject "_export_c_setup.py")
 if opts.contains "--exportheaders" then exportHeaders (inProject s!"{addonName}_headers.zip")

def buildProgram (args : Texts) : Act := do
 checkFolder s
 let version <- textsOf (<- versionIn (Path.join addonFolder "__init__.py"))
 let file := inProject (addonName ++ "_v" ++ "_".intercalate (version.take 2) ++ "_linux_pyXY.zip")
 let opts <- readSettings
 match args with
 | [] | "help" :: _ => showHelp
 | "build" :: options => build s file options opts
 | "clean" :: _ => clean s
 | cmd :: _ => leave [s!"Invalid command: '{cmd}'\n", helpNote]

def compileProgram : Act := do
 checkFolder s
 let scripts <- folderScripts
 compileLibraries scripts
 compileModules scripts
 exportAddon (inProject s!"{addonName}.zip")
 say "\nDone."

end AnimationGraph.Build
