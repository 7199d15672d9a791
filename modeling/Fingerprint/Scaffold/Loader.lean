/-
The loader of a project: the file that loads it by name, in the language of
the project where there is a loader for that language, and the commands that
install and run it.
-/
import Fingerprint.Language

namespace Fingerprint.Scaffold

/-- A loader as text before and after the project's name, if it names the project. -/
inductive Template where
  | named (before after : String)
  | unnamed (text : String)

/-- The loader that runs on Node. -/
def nodeTemplate : Template :=
  .named
    ("import \x7b PhantomKit \x7d from 'phantomkit'\n"
      ++ "const phantom = new PhantomKit(process.env.PKIT_KEY)\n"
      ++ "await phantom.load('")
    "')\n"

/-- The loader for the language. -/
def template : Language → Template
  | .python =>
    .named
      ("import os\n" ++ "from phantomkit import PhantomKit\n\n"
        ++ "phantom = PhantomKit(os.environ.get('PKIT_KEY'))\n" ++ "phantom.load('")
      "')\n"
  | .rust =>
    .unnamed
      ("// Rust runtime bindings are not available yet.\n"
        ++ "// Use the JS/TS loader to interact with PhantomKit.\n")
  | _ => nodeTemplate

/-- The name of the loader file. -/
def loaderFile : Language → String
  | .ts => "loader.ts"
  | .python => "loader.py"
  | .rust => "loader.rs"
  | _ => "loader.js"

/-- The loader of a project; its name is put in as it is. -/
def loader (l : Language) (project : String) : String :=
  match template l with
  | .named before after => before ++ project ++ after
  | .unnamed text => text

/-- The command that installs what a project depends on. -/
def installCommand : Language → String
  | .js | .ts => "npm install"
  | .python => "pip install -r requirements.txt"
  | _ => "# install dependencies for your runtime"

/-- The command that runs a project. -/
def runCommand : Language → String
  | .js => "node loader.js"
  | .ts => "node --loader ts-node/esm loader.ts"
  | .python => "python loader.py"
  | _ => "# run your project"

end Fingerprint.Scaffold
