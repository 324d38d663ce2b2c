import BuildConfig.Main
import BuildConfig.Proofs.Artifact.Lines
import BuildConfig.Proofs.CommandLine.Creation
import BuildConfig.Proofs.CommandLine.Exit
import BuildConfig.Proofs.CommandLine.Naming
import BuildConfig.Proofs.CommandLine.Omission
import BuildConfig.Proofs.CommandLine.Outputs
import BuildConfig.Proofs.CommandLine.Unlimited
import BuildConfig.Proofs.Document.Layout
import BuildConfig.Proofs.Document.RoundTrip
import BuildConfig.Proofs.Files.Reading
import BuildConfig.Proofs.Files.Writing
import BuildConfig.Proofs.Registry.Diagnostics
import BuildConfig.Proofs.Registry.Interleaving
import BuildConfig.Proofs.Registry.Settable
import BuildConfig.Proofs.Registry.Splitting
import BuildConfig.Proofs.Registry.Upkeep
import BuildConfig.Proofs.Registry.Verdict
import BuildConfig.Proofs.Run.Artifacts
import BuildConfig.Proofs.Run.Outcome
import BuildConfig.Proofs.Run.Regeneration
import BuildConfig.Proofs.Run.Suppression
import BuildConfig.Proofs.Settings.Rebasing
import BuildConfig.Proofs.Value.Coercion
import BuildConfig.Proofs.Value.Literal
import BuildConfig.Proofs.Value.Truth
