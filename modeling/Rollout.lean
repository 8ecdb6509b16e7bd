import Rollout.Main
import Rollout.Compile
import Rollout.Resolved.Codec
import Rollout.Service.Input
import Rollout.Writer
import Rollout.Proofs.Identifier.Runs
import Rollout.Proofs.Identifier.Words
import Rollout.Proofs.OrderedMap
import Rollout.Proofs.Promotion
import Rollout.Proofs.Naming
import Rollout.Proofs.Validation
import Rollout.Proofs.Manifest
import Rollout.Proofs.Plan
import Rollout.Proofs.Gating
import Rollout.Proofs.References
import Rollout.Proofs.JobKeys
import Rollout.Proofs.ArtifactPaths
import Rollout.Proofs.Cascade
import Rollout.Proofs.Idempotence
import Rollout.Proofs.Origins
import Rollout.Proofs.Isolation
import Rollout.Proofs.Tables
import Rollout.Proofs.Reordering
import Rollout.Proofs.Document.Faithful
import Rollout.Proofs.Document.Records
import Rollout.Proofs.Document.Lines
import Rollout.Proofs.FileTree
import Rollout.Proofs.Cleaning
import Rollout.Proofs.Writer
import Rollout.Proofs.Regeneration
import Rollout.Proofs.Requirements
import Rollout.Proofs.GroupNames
import Rollout.Proofs.Listing
import Rollout.Proofs.DryRun
import Rollout.Proofs.Generation
import Rollout.Proofs.NameTails
import Rollout.Proofs.NameFailures
import Rollout.Proofs.DestinationRepeats
import Rollout.Proofs.StageClashes
import Rollout.Proofs.Identifier.Canonical
import Rollout.Proofs.DestinationKeys
import Rollout.Proofs.FirstFailure
import Rollout.Proofs.SynthesisFailures
import Rollout.Proofs.Artifacts
import Rollout.Proofs.Overrides
import Rollout.Proofs.DeploySteps
import Rollout.Proofs.Targets
import Rollout.Proofs.Footprint
import Rollout.Proofs.Occurrences
import Rollout.Proofs.OutputDirectories
