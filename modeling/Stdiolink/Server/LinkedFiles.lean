/-
  Stdiolink.Server.LinkedFiles — requests that open files in a tree with symbolic links:
  `http/service_file_handler.cpp`, the file handlers of `http/api_router.cpp`, and
  `http/static_file_server.cpp` with the handler that falls back on it.

  Both servers check a path by its text and by what the file system says of it, and then hand the
  text to the file system, which follows every link on the way.  The service handler looks at each
  segment of the request, cut at `/` and at `\`; the static server looks at the whole path once.

  `links` is the number of links that the system follows in one path, and `resources` tells whether
  any of these segments, looked up among the resources that are linked into the program, is found
  there.  A request carries whether its change goes through: the body is accepted, and the file
  system has room and the rights.  It is one step: nothing else happens to the files between a look
  and what follows it.
-/
import Stdiolink.Lib.LinkedTree
import Stdiolink.Server.ServiceFiles

namespace Stdiolink.Server.LinkedFiles

open Stdiolink.Lib
open Stdiolink.Server.ServiceFileHandler (segments cleanSegments isAbsolutePath)

/-! ## §1. The file system -/

structure FileData where
  content : List UInt8
  readable : Bool
  deriving DecidableEq, Repr

abbrev FileTree := LinkTree String FileData

/-- A directory by its cleaned path: from the root, or from the working directory. -/
structure RootDir where
  start : List String
  comps : List (Comp String)
  deriving DecidableEq, Repr

/-- A part of a path between slashes, as the file system takes it. -/
def comp (seg : String) : Comp String :=
  if seg = "." then .here
  else if seg = ".." then .up
  else .name seg

namespace RootDir

/-- The directory with this absolute path, cleaned. -/
def absolute (names : List String) : RootDir where
  start := []
  comps := names.map .name

/-- The components of a path below the directory. -/
def path (root : RootDir) (segs : List String) : List (Comp String) :=
  root.comps ++ segs.map comp

end RootDir

section System

variable (links : Nat) (tree : FileTree)

/-- The location of the directory itself. -/
def RootDir.location (root : RootDir) : Option (List String) :=
  tree.walk links root.start root.comps

/-- The location that a path below the directory denotes. -/
def RootDir.denotes (root : RootDir) (segs : List String) : Option (List String) :=
  tree.walk links root.start (root.path segs)

/-- `QFileInfo::exists`, `isFile`, `isDir` and `size` read what a path leads to. -/
def RootDir.stat (root : RootDir) (segs : List String) : Option (Entry String FileData) :=
  tree.stat links root.start (root.path segs)

/-- `QFileInfo::isSymLink`. -/
def RootDir.isSymLink (root : RootDir) (segs : List String) : Bool :=
  tree.isSymLink links root.start (root.path segs)

/-- `QFileInfo::canonicalFilePath`; empty where nothing lies. -/
def RootDir.canonicalFilePath (root : RootDir) (segs : List String) : Option (List String) :=
  if (root.stat links tree segs).isSome then root.denotes links tree segs else none

/-- `QFile::readAll` of a file that can be opened. -/
def RootDir.readAll (root : RootDir) (segs : List String) : Option (List UInt8) :=
  match root.stat links tree segs with
  | some (.file data) => if data.readable then some data.content else none
  | _ => none

end System

/-! ## §2. Service files -/

namespace ServiceFileHandler

section

variable (links : Nat) (resources : List String → Bool) (tree : FileTree)

/-- `canonicalBasePath`. -/
def canonicalBasePath (serviceDir : List String) : List String :=
  ((RootDir.absolute serviceDir).canonicalFilePath links tree []).getD serviceDir

/-- The comparison of `canonicalStepPath` with the base; nothing begins with `//`. -/
def withinBase (base loc : List String) : Bool :=
  loc = base || (base ≠ [] && base.isPrefixOf loc)

/-- The loop of `isPathSafe` over the segments, from a directory on; `last` is the last of all
segments. -/
def stepsSafe (serviceDir : List String) (last : String) (dir : List String) :
    List String → Bool
  | [] => true
  | seg :: rest =>
    if seg = "" || seg = "." then stepsSafe serviceDir last dir rest
    -- the colon leads the steps away to the resources
    else if isAbsolutePath seg then !resources (seg :: rest)
    else if (RootDir.absolute serviceDir).isSymLink links tree (dir ++ [seg]) then false
    else
      match (RootDir.absolute serviceDir).stat links tree (dir ++ [seg]) with
      | none => stepsSafe serviceDir last (dir ++ [seg]) rest
      | some entry =>
        if ((RootDir.absolute serviceDir).canonicalFilePath links tree (dir ++ [seg])).any
            fun loc => !withinBase (canonicalBasePath links tree serviceDir) loc then false
        else if !entry.isDir && seg ≠ last then false
        else stepsSafe serviceDir last (dir ++ [seg]) rest

/-- `isPathSafe`. -/
def isPathSafe (serviceDir : List String) (relativePath : String) : Bool :=
  if relativePath = "" then false
  else if isAbsolutePath relativePath then false
  else if (segments relativePath).contains ".." then false
  -- the cleaned path does not begin with the service directory and a separator
  else if serviceDir = [] || cleanSegments relativePath = [] then false
  else if (RootDir.absolute serviceDir).isSymLink links tree (cleanSegments relativePath) then false
  else
    stepsSafe links resources tree serviceDir ((segments relativePath).getLastD "") []
      (segments relativePath)

/-- `resolveSafePath`; the resolved path as its names below the service directory. -/
def resolveSafePath (serviceDir : List String) (relativePath : String) :
    Except String (List String) :=
  if !isPathSafe links resources tree serviceDir relativePath then
    .error "path rejected: unsafe or invalid"
  else .ok (cleanSegments relativePath)

end

end ServiceFileHandler

/-! ## §3. Static files -/

/-- `StaticFileServer`. -/
structure StaticFileServer where
  m_rootDir : RootDir
  m_valid : Bool
  deriving DecidableEq, Repr

namespace StaticFileServer

/-- `kMaxFileSize`. -/
def kMaxFileSize : Nat := 10 * 1024 * 1024

section

variable (links : Nat) (tree : FileTree)

/-- The constructor. -/
def ofRootDir (rootDir : RootDir) : StaticFileServer where
  m_rootDir := rootDir
  m_valid := (rootDir.stat links tree ["index.html"]).any Entry.isFile

/-- `resolveSafePath`; the full path as its names below the root. -/
def resolveSafePath (server : StaticFileServer) (urlPath : String) : Option (List String) :=
  if ['.', '.'] <:+: urlPath.toList then none
  -- nothing below `/` begins with `//`, and nothing below `.` with `./`
  else if server.m_rootDir.comps = [] ∧ cleanSegments urlPath ≠ [] then none
  else if server.m_rootDir.isSymLink links tree (cleanSegments urlPath) then none
  else
    match server.m_rootDir.stat links tree (cleanSegments urlPath) with
    | some (.file data) =>
      if data.content.length > kMaxFileSize then none else some (cleanSegments urlPath)
    | _ => none

/-- `serveRaw`: the body, if the file is found. -/
def serveRaw (server : StaticFileServer) (path : String) : Option (List UInt8) :=
  if !server.m_valid then none
  else
    match server.resolveSafePath links tree path with
    | none => none
    | some names => server.m_rootDir.readAll links tree names

/-- `serveIndexRaw`. -/
def serveIndexRaw (server : StaticFileServer) : Option (List UInt8) :=
  server.m_rootDir.readAll links tree ["index.html"]

/-- The path has a dot behind its last slash. -/
def hasExtension (path : String) : Bool :=
  (path.toList.reverse.takeWhile (· ≠ '/')).contains '.'

/-- The missing handler of `registerRoutes` on a GET or HEAD: the body of the answer, unless it
is 404. -/
def missing (server : StaticFileServer) (path : String) : Option (List UInt8) :=
  if !server.m_valid then none
  else if path = "/api" || "/api/".toList.isPrefixOf path.toList then none
  else
    match server.serveRaw links tree path with
    | some body => some body
    | none => if hasExtension path then none else server.serveIndexRaw links tree

end

end StaticFileServer

/-! ## §4. Requests -/

/-- A request for a file: of a service, by the service's directory, or of the web interface. -/
inductive FileRequest where
  | read (serviceDir : List String) (path : String)
  | write (serviceDir : List String) (path : String) (content : List UInt8) (passes : Bool)
  | create (serviceDir : List String) (path : String) (content : List UInt8) (passes : Bool)
  | delete (serviceDir : List String) (path : String) (passes : Bool)
  | get (path : String)

section Handlers

variable (links : Nat) (resources : List String → Bool)

/-- `handleServiceFileRead`: the content, if it is answered. -/
def handleServiceFileRead (tree : FileTree) (serviceDir : List String) (path : String) :
    Option (List UInt8) :=
  match ServiceFileHandler.resolveSafePath links resources tree serviceDir path with
  | .error _ => none
  | .ok names =>
    match (RootDir.absolute serviceDir).stat links tree names with
    | some (.file data) =>
      if data.content.length > Server.ServiceFileHandler.kMaxFileSize then none
      else (RootDir.absolute serviceDir).readAll links tree names
    | _ => none

/-- `handleServiceFileWrite`: a file that is there gets another content. -/
def handleServiceFileWrite (tree : FileTree) (serviceDir : List String) (path : String)
    (content : List UInt8) (passes : Bool) : FileTree :=
  match ServiceFileHandler.resolveSafePath links resources tree serviceDir path with
  | .error _ => tree
  | .ok names =>
    match (RootDir.absolute serviceDir).denotes links tree names with
    | none => tree
    | some loc =>
      match tree.node loc with
      | some (.file data) => if passes then tree.put loc { data with content := content } else tree
      | _ => tree

/-- `QDir::mkpath` of the directory of a file: no directory is made where a link leads to
nothing. -/
def mkpath (tree : FileTree) (serviceDir names : List String) : Bool :=
  match tree.lastLink links [] [] (serviceDir ++ names.dropLast) with
  | none => true
  | some (through, _) => (tree.stat links [] through).isSome

/-- `handleServiceFileCreate`: a file that is not there, with the directories above it. -/
def handleServiceFileCreate (tree : FileTree) (serviceDir : List String) (path : String)
    (content : List UInt8) (passes : Bool) : FileTree :=
  match ServiceFileHandler.resolveSafePath links resources tree serviceDir path with
  | .error _ => tree
  | .ok names =>
    match (RootDir.absolute serviceDir).denotes links tree names with
    | none => tree
    | some loc =>
      if (tree.node loc).isSome then tree
      else if passes && mkpath links tree serviceDir names then
        tree.put loc { content := content, readable := true }
      else tree

/-- `handleServiceFileDelete`. -/
def handleServiceFileDelete (tree : FileTree) (serviceDir : List String) (path : String)
    (passes : Bool) : FileTree :=
  if Server.ServiceFileHandler.coreFiles.contains path then tree
  else
    match ServiceFileHandler.resolveSafePath links resources tree serviceDir path with
    | .error _ => tree
    | .ok names =>
      match (RootDir.absolute serviceDir).denotes links tree names with
      | none => tree
      | some loc => if passes then tree.remove loc else tree

/-- What a request leaves of the tree, and the contents that it answers. -/
def serve (server : StaticFileServer) (tree : FileTree) :
    FileRequest → FileTree × List (List UInt8)
  | .read serviceDir path =>
    (tree, (handleServiceFileRead links resources tree serviceDir path).toList)
  | .write serviceDir path content passes =>
    (handleServiceFileWrite links resources tree serviceDir path content passes, [])
  | .create serviceDir path content passes =>
    (handleServiceFileCreate links resources tree serviceDir path content passes, [])
  | .delete serviceDir path passes =>
    (handleServiceFileDelete links resources tree serviceDir path passes, [])
  | .get path => (tree, (server.missing links tree path).toList)

/-- A request, or anything else that happens to the tree. -/
inductive Step where
  | request (r : FileRequest)
  | others (tree : FileTree)

/-- The server and its files: the tree changes, and contents are answered. -/
def machine (server : StaticFileServer) : Machine FileTree Step (List UInt8) where
  step tree
    | .request r => serve links resources server tree r
    | .others after => (after, [])

end Handlers

end Stdiolink.Server.LinkedFiles
