import Ns3Results.Python.Core
import Ns3Results.Python.Float
import Ns3Results.Python.Text
import Ns3Results.Python.Csv
import Ns3Results.MultiRtt.Read
import Ns3Results.MultiRtt.Stats
import Ns3Results.MultiRtt.Analysis
import Ns3Results.MultiRtt.Main
import Ns3Results.OgSim2.Parse
import Ns3Results.OgSim2.Main
import Ns3Results.RenoEquilibrium.Main
