import MonkeyScan.CommandLine.Reader

/-!
# The command line

The request that the arguments of a run make, or how they are misused.
-/

namespace MonkeyScan.CommandLine

def parse (args : List String) : Except Misuse Request := Reader.start.read args

end MonkeyScan.CommandLine
