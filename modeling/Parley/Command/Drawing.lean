import Parley.Command.Console
import Parley.Flow.Diagram
import Parley.Flow.File

/-!
# Flows on the command line

The commands that look at the file of a flow without running it: one checks the flow and tells its
size, the other draws it.
-/

namespace Parley.Command

/-- The flow of a file. What is wrong with it is told to the user. -/
def loadFlow (path : String) : Action Flow.Graph := do
  match (← fileText path).bind (Flow.File.load [] path) with
  | .ok graph => return graph
  | .error failure =>
    let told := failure.isEngine || failure.isUnfitValue || failure.kind == "YAMLError"
    throw (if told then .refused (path ++ ": " ++ failure.message) else .crashed failure)

/-- Checks a flow and tells its size. -/
def validate (words : List String) : Action Unit := do
  let path ← operand (← readOperands ⟨[], []⟩ words)
  requireFile path
  let graph ← loadFlow path
  print ("OK  flow '" ++ graph.id ++ "'  nodes=" ++ toString graph.nodes.length
    ++ "  edges=" ++ toString graph.edges.length)

/-- Draws a flow. -/
def draw (words : List String) : Action Unit := do
  let given ← readOperands ⟨["--no-details"], ["--direction"]⟩ words
  let path ← operand given
  let direction := (given.value? "--direction").getD "TD"
  require (["TD", "LR", "BT", "RL"].contains direction)
  requireFile path
  print (Flow.Diagram.draw direction (!given.has "--no-details") (← loadFlow path))

end Parley.Command
