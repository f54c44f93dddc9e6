import SealedBuild.Exchange.Engine
import SealedBuild.Exchange.Files
import SealedBuild.Exchange.Rehearsal
import SealedBuild.Exchange.Variables
import SealedBuild.Main
import SealedBuild.Proofs.Artifact.CopyOut
import SealedBuild.Proofs.Artifact.History
import SealedBuild.Proofs.Artifact.Linkage
import SealedBuild.Proofs.Concurrent.Isolation
import SealedBuild.Proofs.Environment.Fingerprint
import SealedBuild.Proofs.Environment.Updates
import SealedBuild.Proofs.Image.Built
import SealedBuild.Proofs.Image.DefaultTag
import SealedBuild.Proofs.Image.ReadBack
import SealedBuild.Proofs.Image.RegistryHost
import SealedBuild.Proofs.Inspection.Listing
import SealedBuild.Proofs.Interpolation
import SealedBuild.Proofs.PipelineFile.Declared
import SealedBuild.Proofs.PipelineFile.Order
import SealedBuild.Proofs.PipelineFile.Shape
import SealedBuild.Proofs.PipelineFile.Toolchain
import SealedBuild.Proofs.PipelineFile.Unknown
import SealedBuild.Proofs.Run.ArtifactTest
import SealedBuild.Proofs.Run.Custody
import SealedBuild.Proofs.Run.ExitCode
import SealedBuild.Proofs.Run.Packing
import SealedBuild.Proofs.Run.Reproducible
