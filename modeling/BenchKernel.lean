import BenchKernel.Main
import BenchKernel.Proofs.CommandLine.Declaration
import BenchKernel.Proofs.CommandLine.Listing
import BenchKernel.Proofs.Execution.ConstantLoad
import BenchKernel.Proofs.Execution.Lanes
import BenchKernel.Proofs.Execution.Power
import BenchKernel.Proofs.Execution.WrittenStep
import BenchKernel.Proofs.Grammar.Concatenation
import BenchKernel.Proofs.Grammar.RegistryOrder
import BenchKernel.Proofs.Guarded.Kernel
import BenchKernel.Proofs.Routine.OneLine
import BenchKernel.Proofs.Routine.Reach
import BenchKernel.Proofs.Stream.Elements
import BenchKernel.Proofs.Substitution.StableOrder
import BenchKernel.Proofs.Toolchain.Resolution
