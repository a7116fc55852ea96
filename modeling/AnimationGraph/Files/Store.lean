import AnimationGraph.Value.Basic

/-! # Paths

Paths are texts whose parts are divided by `/`.
-/

namespace AnimationGraph.Path

variable (p : String)

def folder : String :=
 let head := p.toList.reverse.dropWhile (· != '/')
 if head.all (· == '/') then String.ofList head.reverse
 else String.ofList (head.dropWhile (· == '/')).reverse

def name : String := String.ofList (p.toList.reverse.takeWhile (· != '/')).reverse

def splitExtension : String × String :=
 let cs := p.toList
 let inner := (name p).toList.dropWhile (· == '.')
 if inner.contains '.' then
  let size := (inner.reverse.takeWhile (· != '.')).length + 1
  (String.ofList (cs.take (cs.length - size)), String.ofList (cs.drop (cs.length - size)))
 else (p, "")

def withoutExtension : String := (splitExtension p).1
def extension : String := (splitExtension p).2

def join (a b : String) : String :=
 if b.startsWith "/" then b else if a.isEmpty || a.endsWith "/" then a ++ b else s!"{a}/{b}"

def sibling (new : String) : String := join (folder p) new
def isAbsolute : Bool := p.startsWith "/"
def steps : Texts := (p.splitOn "/").filter fun s => s != "" && s != "."

def resolved : Texts :=
 (steps p).foldl
  (fun done s => if s == ".." && !done.isEmpty && done.getLast? != some ".." then done.dropLast else done ++ [s])
  []

def normal : String :=
 let start := if p.startsWith "//" && !p.startsWith "///" then "//" else if isAbsolute p then "/" else ""
 let way := if start.isEmpty then resolved p else (resolved p).dropWhile (· == "..")
 if start.isEmpty && way.isEmpty then "." else start ++ "/".intercalate way

def parts : Texts := if isAbsolute p then "/" :: steps p else steps p

def dropCommon : Texts -> Texts -> Texts × Texts
 | a :: as, b :: bs => if a == b then dropCommon as bs else (a :: as, b :: bs)
 | as, bs => (as, bs)

def relative (start : String) : String :=
 let (forth, back) := dropCommon (resolved p) (resolved start)
 match back.map (fun _ => "..") ++ forth with
 | [] => "."
 | way => "/".intercalate way

def key : String := "/".intercalate (resolved p)

end AnimationGraph.Path

namespace AnimationGraph

open Path (join key resolved)

structure StoredFile where
 content : String
 changed : Nat

/-- Why something cannot be done with a path. -/
inductive FileProblem where
 | missing | isFolder | notFolder | taken | same

def FileProblem.cause : FileProblem -> Cause
 | .missing => .missingFile
 | .isFolder => .host "IsADirectoryError"
 | .notFolder => .host "NotADirectoryError"
 | .taken => .host "FileExistsError"
 | .same => .host "SameFileError"

structure FileStore where
 files : List (String × StoredFile) := []
 folders : Texts := []
 now : Nat := 1750000000

namespace FileStore

variable (s : FileStore) (p : String)

def foldersAround : Texts :=
 let steps := resolved p
 (List.range steps.length).drop 1 |>.map fun n => "/".intercalate (steps.take n)

def file? : Option StoredFile := s.files.lookup (key p)
def isFile : Bool := (s.file? p).isSome
def isFolder : Bool := p != "" && (key p == "" || s.folders.contains (key p))
def changedAt : Nat := ((s.file? p).map (·.changed)).getD 0
def addFolders (new : Texts) : FileStore := { s with folders := s.folders ++ new.filter (!s.folders.contains ·) }

def put (f : StoredFile) : FileStore :=
 let k := key p
 let files := if s.files.any (·.1 == k) then s.files.map fun (q, old) => (q, if q == k then f else old)
  else s.files ++ [(k, f)]
 { s.addFolders (foldersAround p) with files }

def ofList (fs : List (String × String × Nat)) : FileStore := fs.foldl (fun s (p, c, time) => s.put p ⟨c, time⟩) {}

def read : Except FileProblem String :=
 match s.file? p with
 | some f => .ok f.content
 | none =>
  if s.isFolder p then .error .isFolder
  else if (foldersAround p).any s.isFile then .error .notFolder
  else .error .missing

def checkPlace : Except FileProblem Unit :=
 let around := foldersAround p
 if p == "" then .error .missing
 else if around.any s.isFile then .error .notFolder
 else if around.all s.isFolder then .ok () else .error .missing

def write (c : String) : Except FileProblem FileStore := do
 if s.isFolder p then throw .isFolder
 s.checkPlace p
 return { s.put p ⟨c, s.now⟩ with now := s.now + 1 }

def remove : FileStore := { s with files := s.files.filter (·.1 != key p) }

def makeFolder : Except FileProblem FileStore := do
 if s.isFolder p || s.isFile p then throw .taken
 s.checkPlace p
 return s.addFolders [key p]

def makeFolders : Except FileProblem FileStore :=
 if p == "" then .error .missing
 else if s.isFolder p || s.isFile p then .error .taken
 else if (foldersAround p).any s.isFile then .error .notFolder
 else .ok (s.addFolders (foldersAround p ++ [key p]))

def removeFolder : Except FileProblem FileStore :=
 if s.isFile p then .error .notFolder
 else
  let k := key p
  let inside (q : String) := q == k || q.startsWith s!"{k}/"
  .ok { s with files := s.files.filter (!inside ·.1), folders := s.folders.filter (!inside ·) }

def copy (src t : String) : Except FileProblem FileStore × FileStore :=
 match if s.isFolder (Path.folder t) then .ok s else s.makeFolders (Path.folder t) with
 | .error problem => (.error problem, s)
 | .ok s =>
  match s.read src with
  | .error problem => (.error problem, s)
  | .ok c => (if key src == key t then .error .same else s.write t c, s)

def changedSince (t : String) (ps : Texts) : Bool := ps.any (s.changedAt · > s.changedAt t)

def newest? : Texts -> Option String
 | [] => none
 | p :: ps => some (ps.foldl (fun best q => if s.changedAt q > s.changedAt best then q else best) p)

structure Changes where
 (new removed changed : Texts)

def changes (pre after : List (String × Nat)) : Changes :=
 let has (fs : List (String × Nat)) (p : String) := fs.any (·.1 == p)
 { new := (after.filter (!has pre ·.1)).map (·.1)
   removed := (pre.filter (!has after ·.1)).map (·.1)
   changed := (after.filter fun f => (pre.lookup f.1).any (· < f.2)).map (·.1) }

end FileStore

inductive Folder where
 | mk (files : Texts) (folders : List (String × Folder))

namespace Folder

def empty : Folder := mk [] []

def folders : Folder -> List (String × Folder)
 | mk _ folders => folders

def paths : Folder -> List Texts
 | mk files folders => files.map ([·]) ++ pathsIn folders
where
 pathsIn : List (String × Folder) -> List Texts
 | [] => []
 | (name, f) :: rest => f.paths.map (name :: ·) ++ pathsIn rest

def select (keeps out : String -> Bool) : Folder -> List Texts
 | mk files folders => (files.filter keeps).map ([·]) ++ selectIn keeps out false folders
where
 selectIn (keeps out : String -> Bool) : Bool -> List (String × Folder) -> List Texts
 | _, [] => []
 | moved, (name, f) :: rest =>
  if !moved && out name then selectIn keeps out true rest
  else (select keeps out f).map (name :: ·) ++ selectIn keeps out false rest

def insert : Texts -> Folder -> Folder
 | [], f => f
 | [name], mk files folders => mk (files ++ [name]) folders
 | name :: rest, mk files folders =>
  mk files <|
   if folders.any (·.1 == name) then folders.map fun (n, f) => (n, if n == name then insert rest f else f)
   else folders ++ [(name, insert rest empty)]

def find? : Texts -> Folder -> Option Folder
 | [], f => some f
 | name :: rest, f => (f.folders.lookup name).bind (find? rest)

end Folder

namespace FileStore

variable (s : FileStore)

def tree : Folder :=
 ((s.files.map fun (p, _) => p.splitOn "/").mergeSort fun p q => !(q < p)).foldl (fun f p => f.insert p) .empty

variable (base : String)

def listing : Folder := if s.isFolder base then ((s.tree.find? (resolved base)).getD .empty) else .empty
def allFiles : Texts := (s.listing base).paths.map fun p => join base ("/".intercalate p)

def withExtension (extensions : Texts) : Texts :=
 (s.allFiles base).filter fun p => extensions.contains (Path.extension p)

def withName (name : String) : Texts := (s.allFiles base).filter (Path.name · == name)
def times : List (String × Nat) := (s.allFiles base).map fun p => (p, s.changedAt p)

end FileStore

namespace Selection

variable (name : String)

def isFolderLeftOut : Bool := [".git", "__pycache__"].contains name

def isAddonFileLeftOut : Bool :=
 [".src", ".pxd", ".pyx", ".html", ".c", ".cpp", ".h", ".lib", ".a", ".o", ".obj", ".sh", ".bat"].any (name.endsWith ·)
  || [".gitignore", "__setup_info.py"].contains name

def isExportFileLeftOut : Bool :=
 [".src", ".html", ".so", ".pyd", ".lib", ".a", ".obj"].any (name.endsWith ·)
  || [".gitignore", "compilation_info.json"].contains name

def selected (keeps : String -> Bool) (s : FileStore) (base : String) : Texts :=
 ((s.listing base).select keeps isFolderLeftOut).map ("/".intercalate ·)

def addonFiles : FileStore -> String -> Texts := selected (!isAddonFileLeftOut ·)
def exportFiles : FileStore -> String -> Texts := selected (!isExportFileLeftOut ·)
def headerFiles : FileStore -> String -> Texts := selected (·.endsWith ".pxd")

end Selection

structure SyncReport where
 (removed created updated : Texts)

end AnimationGraph
