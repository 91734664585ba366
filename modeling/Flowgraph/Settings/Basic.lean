import Flowgraph.Log.Entry

namespace Flowgraph

structure Settings where
  timeout : Float := 30.0
  maxPasses : Nat := 1000
  startNode : String := "start"
  /-- The level of the log when the command line sets none. -/
  verbosity : Log.Level := .info

namespace Settings

def timeoutName : String := "http_timeout_seconds"

def maxPassesName : String := "max_interpolation_passes"

def startNodeName : String := "default_start_node"

def verbosityName : String := "verbosity"

def names : List String := [timeoutName, maxPassesName, startNodeName, verbosityName]

def toValue (s : Settings) : Value :=
  .ofEntries [(.str timeoutName, .float s.timeout), (.str maxPassesName, .int s.maxPasses),
    (.str startNodeName, .str s.startNode), (.str verbosityName, .str s.verbosity.name)]

end Settings

end Flowgraph
