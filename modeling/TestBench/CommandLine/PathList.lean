import TestBench.Path
import TestBench.Text.Blank

/-!
Lists of paths as one argument: the paths stand between colons or commas, and blank ones do not
count.
-/
namespace TestBench.CommandLine
set_option autoImplicit false

def parsePathList (value : String) : List Path :=
  let unified := value.toList.map fun c => if c = ',' then ':' else c
  let pieces := (Text.splitOn ':' unified).map Text.strip
  (pieces.filter fun piece => !piece.isEmpty).map fun piece => .parse (String.ofList piece)

end TestBench.CommandLine
