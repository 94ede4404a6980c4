import Skeletal.Main
import Skeletal.Proofs.Synthesis.Closure
import Skeletal.Proofs.Synthesis.ResultTypes
import Skeletal.Proofs.Universe.Growth
import Skeletal.Proofs.Universe.MostDerived
import Skeletal.Service.Routes
import Skeletal.Proofs.Synthesis.Outcome
import Skeletal.Proofs.Synthesis.Blocks
import Skeletal.Proofs.TypeGraph.Cycle
import Skeletal.Proofs.TypeGraph.Links
import Skeletal.Proofs.Load.Growing
import Skeletal.Proofs.Load.Targets
import Skeletal.Proofs.Load.Declared
import Skeletal.Proofs.Load.Summary
import Skeletal.Proofs.Load.Realized
import Skeletal.Proofs.Load.World
import Skeletal.Proofs.Load.Acyclic
import Skeletal.Proofs.Load.Order
import Skeletal.Proofs.Text.CodeUnit
import Skeletal.Proofs.Text.Escape
import Skeletal.Proofs.Load.Sites
import Skeletal.Proofs.Load.Loaded
import Skeletal.Proofs.Load.References
import Skeletal.Proofs.Load.WellFormed
import Skeletal.Proofs.Computation
import Skeletal.Proofs.FileTree.Location
import Skeletal.Proofs.FileTree.Change
import Skeletal.Proofs.Output.Place
import Skeletal.Proofs.Load.Offered
import Skeletal.Proofs.Output.Implement
import Skeletal.Proofs.Output.Packing
import Skeletal.Proofs.Output.ArchiveFlow
import Skeletal.Proofs.FileTree.NullFree
import Skeletal.Proofs.FileTree.Barred
import Skeletal.Proofs.Load.Results
import Skeletal.Proofs.Output.SourceFlow
import Skeletal.Proofs.Output.Rejection
import Skeletal.Proofs.Output.Foreseen
import Skeletal.Proofs.Service.Agreement
import Skeletal.Proofs.Load.Names
import Skeletal.Proofs.Synthesis.Enclosing
import Skeletal.Proofs.Load.Lineage
import Skeletal.Proofs.CommandLine.Outcome
import Skeletal.Proofs.Universe.Enumeration
import Skeletal.Proofs.Load.SourceRoots
import Skeletal.Proofs.Load.Erasure
import Skeletal.Proofs.Universe.PublicMethods
import Skeletal.Proofs.Synthesis.Discharge
import Skeletal.Proofs.Text.Written
import Skeletal.Proofs.Synthesis.StubText
import Skeletal.Proofs.Text.Unpaired
import Skeletal.Proofs.TypeGraph.Outline
import Skeletal.Proofs.Synthesis.RawView
import Skeletal.Proofs.FileTree.Walked
import Skeletal.Proofs.Output.Entry
