import StaticStyles.Build.Path

/-!
The files and folders below a working folder. A place is the list of names that lead to it, the working
folder itself being the empty list.
-/
namespace StaticStyles

/-- The names that lead to a file or folder. -/
abbrev Place := List String

/-- Whether a place comes before another or is the same: the first names that differ decide. -/
def Place.precedes : Place → Place → Bool
  | [], _ => true
  | _ :: _, [] => false
  | a :: place, b :: other => a < b || (a = b && Place.precedes place other)

inductive Node where
  | folder
  | file (bytes : ByteArray)

/-- Files and folders by their places; the working folder is always there. -/
structure FileTree where
  nodes : List (Place × Node)

namespace FileTree

def empty : FileTree := ⟨[]⟩

instance : Inhabited FileTree := ⟨empty⟩

def node? (tree : FileTree) (place : Place) : Option Node :=
  if place = [] then some .folder
  else (tree.nodes.find? fun node => node.1 = place).map (·.2)

def isFolder (tree : FileTree) (place : Place) : Bool :=
  match tree.node? place with
  | some .folder => true
  | _ => false

def put (tree : FileTree) (place : Place) (node : Node) : FileTree :=
  ⟨(tree.nodes.filter fun other => other.1 ≠ place) ++ [(place, node)]⟩

/-! ## Following paths -/

/-- Why a path leads nowhere: a folder on the way is not there, or something else is in the way. -/
inductive Obstacle where
  | absent
  | blocked
deriving DecidableEq, Repr

/-- The place of a folder that is there. -/
def folder? (tree : FileTree) (place : Place) : Except Obstacle Place :=
  match tree.node? place with
  | some .folder => .ok place
  | some (.file _) => .error .blocked
  | none => .error .absent

/-- The place that parts lead to from another place. Every part is looked up in a folder; the last name
need not be there. Nothing is known above the working folder. -/
def follow (tree : FileTree) : Place → List (List Char) → Except Obstacle Place
  | place, [] => .ok place
  | place, part :: rest => do
    let place ← tree.folder? place
    if part = [] || part = ['.'] then follow tree place rest
    else if part = ['.', '.'] then
      if place = [] then .error .blocked else follow tree place.dropLast rest
    else follow tree (place ++ [String.ofList part]) rest

/-- The place of a path in the working folder. -/
def place? (tree : FileTree) (path : String) : Option Place :=
  if path.toList.head?.all (· = '/') then none
  else (tree.follow [] (Path.rawParts path.toList)).toOption

def isThere (tree : FileTree) (path : String) : Bool := ((tree.place? path).bind tree.node?).isSome

def isFolderAt (tree : FileTree) (path : String) : Bool := (tree.place? path).any tree.isFolder

/-! ## Reading and writing -/

/-- The text of the file at a path, if it is UTF-8. -/
def readText? (tree : FileTree) (path : String) : Option String :=
  match (tree.place? path).bind tree.node? with
  | some (.file bytes) => String.fromUTF8? bytes
  | _ => none

/-- The tree with a file written at a path, in a folder that is there. -/
def write? (tree : FileTree) (path : String) (bytes : ByteArray) : Option FileTree :=
  (tree.place? path).bind fun place => if tree.isFolder place then none else some (tree.put place (.file bytes))

/-- The tree with a new folder at a path whose other parts are there. A dot, single or double, names no
new folder. -/
def makeFolder (tree : FileTree) (path : String) : Except Obstacle FileTree := do
  let parts := (Path.rawParts path.toList).reverse.dropWhile (· = [])
  match parts with
  | [] => .error .blocked
  | last :: outer =>
    if last = ['.'] || last = ['.', '.'] then
      let place ← tree.follow [] parts.reverse
      let _ ← tree.folder? place
      .error .blocked
    else
      let place ← tree.follow [] outer.reverse
      let place ← tree.folder? place
      let new := place ++ [String.ofList last]
      if (tree.node? new).isSome then .error .blocked else .ok (tree.put new .folder)

/-- The tree with the folder of a path and, if it cannot be made without them, the folders above it; and
whether the folder is there then. `depth` bounds the folders above. -/
def createFolders : (depth : Nat) → (tree : FileTree) → (path : String) → Bool × FileTree
  | 0, tree, _ => (false, tree)
  | depth + 1, tree, path =>
    if path = "" then (true, tree)
    else match tree.makeFolder path with
      | .ok tree => (true, tree)
      | .error .blocked => (tree.isFolderAt path, tree)
      | .error .absent =>
        match Path.parent? path.toList with
        | none => (false, tree)
        | some above =>
          match createFolders depth tree (String.ofList above) with
          | (false, tree) => (false, tree)
          | (true, tree) =>
            match tree.makeFolder path with
            | .ok tree => (true, tree)
            | .error _ => (tree.isFolderAt path, tree)

/-- The tree with the folder of a path and the folders above it that are missing, and whether the folder
is there then. -/
def createFolder (tree : FileTree) (path : String) : Bool × FileTree :=
  createFolders ((Path.rawParts path.toList).length + 1) tree path

/-- The tree with a file at a path and all folders above it; the same tree if there is no room. -/
def addFile (tree : FileTree) (path : String) (bytes : ByteArray) : FileTree :=
  let folder := String.ofList ((Path.parent? path.toList).getD [])
  ((tree.createFolder folder).2.write? path bytes).getD tree

/-- What leads from a folder to the files below it, in the order of the names. -/
def filesBelow (tree : FileTree) (folder : Place) : List Place :=
  let below := tree.nodes.filterMap fun (place, node) =>
    match node with
    | .file _ => if folder.isPrefixOf place then some (place.drop folder.length) else none
    | .folder => none
  below.mergeSort Place.precedes

end FileTree
end StaticStyles
