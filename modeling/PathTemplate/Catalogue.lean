import PathTemplate.Text.Quoted

/-!
# Catalogue of public names

The names under which the parts of the package are offered, and the modules that hold them.
-/

namespace PathTemplate.Catalogue

/-- The public names, each with the module that holds it. -/
def entries : List (String × String) :=
  [("InvalidPatternError", "perch.errors"),
   ("PathBuildError", "perch.errors"),
   ("PathMismatchError", "perch.errors"),
   ("PathPattern", "perch.routing.pattern"),
   ("PerchConfig", "perch.config"),
   ("PerchError", "perch.errors")]

def module? (name : String) : Option String :=
  entries.lookup name

def message (name : String) : String :=
  "module 'perch' has no attribute " ++ Text.quote name

end PathTemplate.Catalogue
