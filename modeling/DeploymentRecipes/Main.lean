import DeploymentRecipes.Catalog.Shipped
import DeploymentRecipes.Command.Report

/-!
# The command

Takes a picture of the files that a run may read, runs, and prints the report.  All decisions are
made by the library on that picture.
-/

namespace DeploymentRecipes.Command

/-- The contents of a file of the given name, as far as a run may read them. -/
def contentsOf (name : String) (read : IO ByteArray) : IO (List UInt8) := do
  if (DocumentFormat.ofPath? name).isSome || Text.endsWith name ".env" then
    return (← read).data.toList
  else return []

/-- The tree with the given entries of a directory, and on request all those below them. -/
partial def addEntries (deep : Bool) (above : Names) (tree : FileTree)
    (entries : List IO.FS.DirEntry) : IO FileTree :=
  entries.foldlM (fun tree e => do
    let names := above ++ [e.fileName]
    if ← e.path.isDir then
      let tree := tree.addDirectory names
      if deep then addEntries deep names tree (← e.path.readDir).toList else return tree
    else
      return tree.write names ⟨← contentsOf e.fileName (IO.FS.readBinFile e.path), 0⟩) tree

/-- The tree with what is at an absolute path: a file, or a directory and its entries. -/
def addPath (deep : Bool) (tree : FileTree) (path : String) : IO FileTree := do
  let names := Path.parts (Path.normalize path)
  let at_ := (← IO.currentDir) / path
  if ← at_.isDir then
    addEntries deep names (tree.addDirectory names) (← at_.readDir).toList
  else if ← at_.pathExists then
    let bytes ← IO.FS.readBinFile at_
    return tree.write names ⟨bytes.data.toList, 0⟩
  else return tree

/-- The variables that the process has, of those with the given names. -/
def environmentOf (names : List String) : IO Environment :=
  names.eraseDups.filterMapM fun name => return (← IO.getEnv name).map fun text => (name, text)

/-- The names of the variables that configure a run. -/
def settingVariables : List String := [
  "HOME", Config.envFileVariable, Config.recipePathsVariable, Config.logLevelVariable,
  Config.recursiveVariable, Config.sizeLimitVariable, Config.strictVariable]

/-- The names of the variables that the files of a tree mention. -/
def mentioned (tree : FileTree) : List String :=
  tree.files.flatMap fun f =>
    match Text.decodeUtf8 f.2.bytes with
    | .ok text => (EnvFile.references text.toList).map (·.name)
    | .error _ => []

/-- The surroundings of a run with the given arguments. -/
def look (a : Arguments) : IO Surroundings := do
  let cwd := (← IO.currentDir).toString
  let installation := (← IO.appDir).toString
  let environment ← environmentOf settingVariables
  let home := (environment.get? "HOME").getD ""
  let tree := FileTree.empty.addDirectory (Path.parts cwd)
  let around (tree : FileTree) (environment : Environment) : Surroundings :=
    ⟨{ tree := tree, cwd := Path.parts cwd, home := home }, environment, installation⟩
  let listed := Surroundings.listed ((environment.get? Config.envFileVariable).getD "")
  let envPaths := listed.filterMap fun entry => ((around tree environment).fromHome entry).toOption
  let defaults := [".env", ".env.local"].map (Path.join installation)
  let withEnv ← (envPaths.map (Path.absolute cwd) ++ defaults).foldlM (addPath false) tree
  let environment ← environmentOf (settingVariables ++ mentioned withEnv)
  match (ConfigStore.empty.get (around withEnv environment)).1 with
  | .error _ => return around withEnv environment
  | .ok config =>
    let o := a.request.options cwd config
    let full ← o.paths.foldlM (fun tree path => do
      let (start, patterns) := Place.splitPatterns path
      let tree ← addPath o.recursive tree path
      if patterns.isEmpty then return tree else addPath true tree start) withEnv
    let shipped := Path.parts (Config.shippedRecipes installation)
    let full := Shipped.files.foldl (fun tree f =>
      tree.write (shipped ++ [f.1]) ⟨f.2.toUTF8.data.toList, 0⟩) full
    return around full environment

/-- How the command is used. -/
def usage : String :=
  "usage: [-h] [--path PATH] [--recursive] [--strict] [--format {text,json}]\n" ++
    "       [--fail-on {none,warning,error}] [--log-level LOG_LEVEL]"

/-- Runs a command line and gives its exit code. -/
def execute (words : List String) : IO UInt32 := do
  match Arguments.ofWords words with
  | .error .usage =>
    IO.eprintln usage
    return 2
  | .error .helpRequested =>
    IO.println usage
    return 0
  | .ok arguments =>
    match run (← look arguments) arguments with
    | .error e =>
      IO.eprintln e.message
      return 1
    | .ok finished =>
      for line in finished.logLines do IO.eprintln line
      IO.print finished.output
      return finished.exitCode.toUInt32

end DeploymentRecipes.Command

def main (words : List String) : IO UInt32 := DeploymentRecipes.Command.execute words
