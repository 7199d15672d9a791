/-
The files that a new project starts with, in the order in which they are
written. A manifest of packages is among them only if the directory was empty.
-/
import Fingerprint.Json.Printer
import Fingerprint.Scaffold.Loader

namespace Fingerprint.Scaffold

/-- Lines as a text, each ended. -/
def unlines (ls : List String) : String := String.join (ls.map (· ++ "\n"))

/-- What is ignored in every project. -/
def ignoredAlways : List String :=
  [ "# PhantomKit", "phantom.lock", "phantom.cache", "",
    "# Environment variables", ".env", ".env.local", "",
    "# IDE", ".vscode/", ".idea/", "*.swp", "*.swo", "",
    "# OS", ".DS_Store", "Thumbs.db" ]

/-- What is ignored in a project that runs on Node. -/
def ignoredForNode : List String :=
  [ "", "# Node.js", "node_modules/", "npm-debug.log*", "yarn-debug.log*", "yarn-error.log*", ".npm",
    ".yarn-integrity", "", "# Build outputs", "dist/", "build/", "*.tsbuildinfo" ]

/-- What is ignored in a Python project. -/
def ignoredForPython : List String :=
  [ "", "# Python", "__pycache__/", "*.py[cod]", "*$py.class", "*.so", ".Python", "env/", "venv/",
    "ENV/", "env.bak/", "venv.bak/", ".pytest_cache/", ".coverage" ]

/-- The list of ignored files. -/
def ignoreFile (l : Language) : String :=
  unlines (ignoredAlways
    ++ (if l.isNode then ignoredForNode else if l = .python then ignoredForPython else []))

/-- The description of a project. -/
def readme (project description : String) (l : Language) : String :=
  unlines [
    "# " ++ project, "", description, "", "## Getting Started", "", "### Installation", "",
    "1. Install dependencies:", "   ```bash", "   " ++ installCommand l, "   ```", "",
    "2. Set your PhantomKit API key:", "   ```bash", "   export PKIT_KEY=\"your-api-key-here\"",
    "   ```", "", "3. Run the project:", "   ```bash", "   " ++ runCommand l, "   ```", "",
    "### Project Structure", "",
    "- `" ++ loaderFile l ++ "` - Entry point generated by PhantomKit",
    "- `phantom.toml` - PhantomKit manifest",
    "- `phantom-lock` - Environment snapshot",
    "- `README.md` - This file" ]

/-- The package manifest of a project that runs on Node. -/
def packageManifest (project description author : String) (l : Language) : Json.Value :=
  let loader := if l = .ts then "loader.ts" else "loader.js"
  .object [
    ("name", .string project),
    ("version", .string "1.0.0"),
    ("description", .string description),
    ("main", .string loader),
    ("type", .string "module"),
    ("scripts", .object [("start", .string ("node --loader ts-node/esm " ++ loader))]),
    ("dependencies", .object [("phantomkit", .string "^0.1.0")]),
    ("devDependencies", .object [("ts-node", .string "^10.9.2"), ("@types/node", .string "^20.0.0")]),
    ("keywords", .array [.string "phantomkit"]),
    ("author", .string author),
    ("license", .string "MIT")]

/-- The manifest of packages that a new project starts with. -/
def starterManifest (project description author : String) (l : Language) : List (String × String) :=
  if l.isNode then
    [("package.json", (packageManifest project description author l).pretty ++ "\n")]
  else if l = .python then [("requirements.txt", "phantomkit>=0.1.0\n")]
  else []

/-- What a project is described as unless it is said. -/
def defaultDescription : String := "A PhantomKit project"

/-- The files of a new project with their names. -/
def files (project : String) (l : Language) (description author : String) (wasEmpty : Bool) :
    List (String × String) :=
  (loaderFile l, loader l project)
    :: ((if wasEmpty then starterManifest project description author l else [])
      ++ [("README.md", readme project description l), (".gitignore", ignoreFile l)])

end Fingerprint.Scaffold
