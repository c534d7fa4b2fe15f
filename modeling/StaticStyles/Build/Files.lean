import StaticStyles.Build.Compiler

/-!
Builds over files: sources and settings are read from a file tree, and artifacts written to it. What has
been done before a failure stays done.
-/
namespace StaticStyles

/-- What could not be done with a file or folder. -/
inductive FileFailure where
  | readSource (path : String)
  | createOutput (path : String)
  | writeMap (path : String)
  | createFolder (path : String)
  | writeSheet (path : String)
  | writeManifest (path : String)
  | readManifest (path : String)
  | parseManifest (path : String) (error : MapError)
  | readConfig (path : String)
  | parseConfig (path : String) (error : ConfigError)
deriving DecidableEq, Repr

def FileFailure.message : FileFailure → String
  | .readSource path => "Failed to read source file " ++ path
  | .createOutput path => "Failed to create output directory " ++ path
  | .writeMap path => "Failed to write source map " ++ path
  | .createFolder path => "Failed to create directory " ++ path
  | .writeSheet path => "Failed to write stylesheet " ++ path
  | .writeManifest path => "Failed to write resolver manifest " ++ path
  | .readManifest path => "Failed to read resolver manifest " ++ path
  | .parseManifest path _ => "Failed to parse resolver manifest " ++ path
  | .readConfig path => "Failed to read config " ++ path
  | .parseConfig path _ => "Failed to parse config " ++ path

/-! ## Compiling files -/

namespace Compiler

/-- Compiles the file at a path, whatever the filter says. -/
def compileFile (tree : FileTree) (compiler : Compiler) (path : String) :
    Except FileFailure Module × Compiler :=
  match tree.readText? path with
  | none => (.error (.readSource path), compiler)
  | some source =>
    let (output, compiler) := compiler.compileSource path source
    (.ok output, compiler)

/-- Compiles files in the order given, up to the first that cannot be read. -/
def compileAll (tree : FileTree) : Compiler → List String → Except FileFailure (List Module) × Compiler
  | compiler, [] => (.ok [], compiler)
  | compiler, path :: rest =>
    match compiler.compileFile tree path with
    | (.error failure, compiler) => (.error failure, compiler)
    | (.ok output, compiler) =>
      let (modules, compiler) := compileAll tree compiler rest
      (modules.map (output :: ·), compiler)

/-- Compiles the files that the filter accepts, in the order given. -/
def compileFiles (tree : FileTree) (compiler : Compiler) (paths : List String) :
    Except FileFailure (List Module) × Compiler :=
  compileAll tree compiler (paths.filter compiler.filter.accepts)

/-- The parts of a folder's path as they show in the paths of its files: dots at the beginning do
not. -/
def shownParts (root : String) : List String :=
  (((Path.rawParts root.toList).filter (· ≠ [])).dropWhile (· = ['.'])).map String.ofList

/-- The files of a folder, in the order of their names: each path as it shows, and as the filter sees
it. The filter sees what is below the folder, unless the folder's path begins with a dot. -/
def folderFiles (tree : FileTree) (root : String) : List (String × String) :=
  match tree.place? root with
  | none => []
  | some place =>
    if !tree.isFolder place then []
    else
      let begun := (Path.parts root.toList).head? = some ['.']
      (tree.filesBelow place).map fun below =>
        let shown := "/".intercalate (shownParts root ++ below)
        (shown, if begun then shown else "/".intercalate below)

/-- Compiles the files of a folder that the filter accepts. -/
def compileFolder (tree : FileTree) (compiler : Compiler) (root : String) :
    Except FileFailure (List Module) × Compiler :=
  let files := (folderFiles tree root).filter fun (_, seen) => compiler.filter.accepts seen
  compileAll tree compiler (files.map (·.1))

end Compiler

/-! ## Writing artifacts -/

/-- Where the files of an artifact are. -/
structure ArtifactPaths where
  stylesheet : String
  sourceMap : Option String
  manifest : String
deriving DecidableEq, Repr

def stylesheetFile : String := "styles.css"

def sourceMapFile : String := "styles.css.map"

def manifestFile : String := "resolver.json"

namespace FileTree

def writeText (tree : FileTree) (path text : String) (failure : FileFailure) :
    Except FileFailure Unit × FileTree :=
  match tree.write? path text.toUTF8 with
  | some tree => (.ok (), tree)
  | none => (.error failure, tree)

/-- Writes a stylesheet to a path, with the folders above it. -/
def writeSheet (tree : FileTree) (path css : String) : Except FileFailure Unit × FileTree :=
  let folder := String.ofList ((Path.parent? path.toList).getD [])
  match tree.createFolder folder with
  | (false, tree) => (.error (.createFolder folder), tree)
  | (true, tree) => tree.writeText path css (.writeSheet path)

end FileTree

namespace Artifact

/-- The text of the stylesheet's file; it names the source map if there is one. -/
def fileText (artifact : Artifact) : String :=
  match artifact.stylesheet.map with
  | some _ => artifact.stylesheet.code ++ "\n/*# sourceMappingURL=" ++ sourceMapFile ++ " */\n"
  | none => artifact.stylesheet.code

/-- Where the artifact goes in a folder. -/
def paths (artifact : Artifact) (folder : String) : ArtifactPaths where
  stylesheet := Path.join folder stylesheetFile
  sourceMap := artifact.stylesheet.map.map fun _ => Path.join folder sourceMapFile
  manifest := Path.join folder manifestFile

/-- Writes the source map of the artifact, if it has one. -/
def writeMap (artifact : Artifact) (tree : FileTree) (paths : ArtifactPaths) :
    Except FileFailure Unit × FileTree :=
  match paths.sourceMap, artifact.stylesheet.map with
  | some path, some map => tree.writeText path map (.writeMap path)
  | _, _ => (.ok (), tree)

/-- Writes the artifact to a folder: the source map, the stylesheet and the manifest, in this order. -/
def writeTo (artifact : Artifact) (tree : FileTree) (folder : String) :
    Except FileFailure ArtifactPaths × FileTree :=
  match tree.createFolder folder with
  | (false, tree) => (.error (.createOutput folder), tree)
  | (true, tree) =>
    let paths := artifact.paths folder
    match artifact.writeMap tree paths with
    | (.error failure, tree) => (.error failure, tree)
    | (.ok (), tree) =>
      match tree.writeSheet paths.stylesheet artifact.fileText with
      | (.error failure, tree) => (.error failure, tree)
      | (.ok (), tree) =>
        match tree.writeText paths.manifest artifact.manifest (.writeManifest paths.manifest) with
        | (.error failure, tree) => (.error failure, tree)
        | (.ok (), tree) => (.ok paths, tree)

end Artifact

/-! ## Reading what was written -/

/-- The class maps of the manifest at a path. -/
def ClassMaps.load (tree : FileTree) (path : String) : Except FileFailure ClassMaps :=
  match tree.readText? path with
  | none => .error (.readManifest path)
  | some text => (ClassMaps.ofJson text).mapError (.parseManifest path)

/-- The settings at a path; if nothing is there, the defaults. -/
def BuildConfig.load (tree : FileTree) (path : String) : Except FileFailure BuildConfig :=
  if !tree.isThere path then .ok .default
  else match tree.readText? path with
    | none => .error (.readConfig path)
    | some text => (BuildConfig.ofJson text).mapError (.parseConfig path)

end StaticStyles
