import AnimationGraph.Library
import AnimationGraph.Build.Program
import AnimationGraph.Noise
import AnimationGraph.Proofs.Code.Observation
import AnimationGraph.Proofs.Code.Calls
import AnimationGraph.Proofs.Code.FirstNames
import AnimationGraph.Proofs.Forest.Following
import AnimationGraph.Proofs.Code.LineNumbers
import AnimationGraph.Proofs.Code.Renaming
import AnimationGraph.Proofs.Code.Returns
import AnimationGraph.Proofs.Forest.Moving
import AnimationGraph.Proofs.Forest.Order
import AnimationGraph.Proofs.Code.Sharing
import AnimationGraph.Proofs.Control.Registering
import AnimationGraph.Proofs.Execution.Handlers
import AnimationGraph.Proofs.Execution.Linking
import AnimationGraph.Proofs.Execution.Raised
import AnimationGraph.Proofs.Execution.Renamed
import AnimationGraph.Proofs.Execution.Templates
import AnimationGraph.Proofs.Execution.Updating
import AnimationGraph.Proofs.Host.Selection
import AnimationGraph.Proofs.Midi.Levels
import AnimationGraph.Proofs.Midi.Reading
import AnimationGraph.Proofs.Midi.Pairing
import AnimationGraph.Proofs.Sound.Mixing
import AnimationGraph.Proofs.Control.ObjectKeys
import AnimationGraph.Proofs.Tree.Triggers
import AnimationGraph.Proofs.Tree.Framing
import AnimationGraph.Proofs.TypeTables
import AnimationGraph.Proofs.Execution.Joining
import AnimationGraph.Proofs.Text.Replacing
import AnimationGraph.Proofs.Control.Operators
import AnimationGraph.Proofs.Code.Rounds
