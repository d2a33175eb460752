import BuildAtlas.Completion
import BuildAtlas.Editor
import BuildAtlas.Fixture
import BuildAtlas.Label.Verdict
import BuildAtlas.Main
import BuildAtlas.Session.Script
import BuildAtlas.Proofs.Workspace.Links
import BuildAtlas.Proofs.Workspace.Forest
import BuildAtlas.Proofs.Workspace.Clearing
import BuildAtlas.Proofs.Workspace.Growth
import BuildAtlas.Proofs.Workspace.Histories
import BuildAtlas.Proofs.Workspace.Addresses
import BuildAtlas.Proofs.Workspace.Contents
import BuildAtlas.Proofs.Workspace.Survival
import BuildAtlas.Proofs.Query.Grouping
import BuildAtlas.Proofs.Query.Checking
import BuildAtlas.Proofs.Session.Serialised
import BuildAtlas.Proofs.Label.Grammar
import BuildAtlas.Proofs.Label.RoundTrip
import BuildAtlas.Proofs.Session.Calls
import BuildAtlas.Proofs.Workspace.Repopulation
import BuildAtlas.Proofs.Query.Order
import BuildAtlas.Proofs.Query.Words
import BuildAtlas.Proofs.Completion.Agreement
import BuildAtlas.Proofs.Completion.Edits
import BuildAtlas.Proofs.Query.Rebuild
import BuildAtlas.Proofs.Session.Rebuild
import BuildAtlas.Proofs.Query.Dump
import BuildAtlas.Proofs.Completion.Candidates
import BuildAtlas.Proofs.Completion.Literals
import BuildAtlas.Proofs.Query.Observed
import BuildAtlas.Proofs.Session.Replies
import BuildAtlas.Proofs.Session.Exchanges
import BuildAtlas.Proofs.Workspace.Walks
import BuildAtlas.Proofs.Workspace.Insertion
import BuildAtlas.Proofs.Workspace.Removal
import BuildAtlas.Proofs.Workspace.Allocation
import BuildAtlas.Proofs.Workspace.Peak
import BuildAtlas.Proofs.Query.Subpackages
import BuildAtlas.Proofs.Query.BuildFiles
import BuildAtlas.Proofs.Text.Columns
import BuildAtlas.Proofs.Query.Printed
import BuildAtlas.Proofs.Query.Account
import BuildAtlas.Proofs.Query.ErrorLine
import BuildAtlas.Proofs.Completion.Prefixes
import BuildAtlas.Proofs.Settings
import BuildAtlas.Proofs.Label.Here
import BuildAtlas.Proofs.Workspace.Namesakes
import BuildAtlas.Proofs.Label.Gaps
import BuildAtlas.Proofs.Label.Readers
import BuildAtlas.Proofs.Query.Layout
import BuildAtlas.Proofs.Session.Worker
import BuildAtlas.Proofs.Fixture.Size
import BuildAtlas.Proofs.Dispatch
import BuildAtlas.Proofs.Posix.Clock
