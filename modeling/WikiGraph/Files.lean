/-!
# Files

What a program sees of a file system: the text of each file, or the reason why it cannot be read.
-/
namespace WikiGraph

abbrev Files := String → Except String String

namespace Files

/-- The reason why a file that does not exist cannot be read. -/
def missing : String := "No such file or directory (os error 2)"

def ofReadings (readings : List (String × Except String String)) : Files := fun name =>
  (readings.lookup name).getD (.error missing)

def ofList (files : List (String × String)) : Files :=
  ofReadings (files.map fun f => (f.1, .ok f.2))

def text? (files : Files) (name : String) : Option String := (files name).toOption

end Files
end WikiGraph
