import PackageRepos.KeyFile.Edit
import PackageRepos.KeyFile.Lemmas
import PackageRepos.Logging.Setup
import PackageRepos.Metalink
import PackageRepos.Proofs.Files.Malformed
import PackageRepos.Proofs.Files.Siblings
import PackageRepos.Proofs.Folding.Settled
import PackageRepos.Proofs.Folding.Starts
import PackageRepos.Proofs.KeyFile.Composition
import PackageRepos.Proofs.KeyFile.Editing
import PackageRepos.Proofs.KeyFile.Indentation
import PackageRepos.Proofs.KeyFile.Restoring
import PackageRepos.Proofs.Logging.Repetition
import PackageRepos.Proofs.Metalink
import PackageRepos.Proofs.RepoOption.Ascii
import PackageRepos.Proofs.RepoOption.Fraction
import PackageRepos.Proofs.RepoOption.ListText
import PackageRepos.Proofs.RepoOption.Range
import PackageRepos.Proofs.Settings.Overriding
import PackageRepos.Proofs.Workspace.AllOrNothing
import PackageRepos.Proofs.Workspace.Answers
import PackageRepos.Proofs.Workspace.LoadingInOrder
import PackageRepos.Proofs.Workspace.Persistence
import PackageRepos.Proofs.Workspace.Refusals
import PackageRepos.Proofs.Workspace.SavingAll
import PackageRepos.Proofs.Workspace.Snapshot
import PackageRepos.Proofs.Workspace.SpreadLists
import PackageRepos.Proofs.Workspace.Stores
import PackageRepos.Proofs.Workspace.WellShaped
import PackageRepos.Quantity.Request
import PackageRepos.Settings.UserDirectory
import PackageRepos.Workspace.Operation
