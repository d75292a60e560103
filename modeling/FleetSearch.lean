import FleetSearch.Catalog.Basic
import FleetSearch.Catalog.Load
import FleetSearch.Catalog.Read
import FleetSearch.Catalog.Write
import FleetSearch.Checkout.Basic
import FleetSearch.Checkout.Grep
import FleetSearch.Checkout.Scan
import FleetSearch.Checkout.Walk
import FleetSearch.Decimal.Binary
import FleetSearch.Decimal.Shortest
import FleetSearch.Disk.Node
import FleetSearch.Disk.Path
import FleetSearch.Disk.Volume
import FleetSearch.Git.Clone
import FleetSearch.Git.Config
import FleetSearch.Git.Fault
import FleetSearch.Git.Fetch
import FleetSearch.Git.History
import FleetSearch.Git.Index
import FleetSearch.Git.Layout
import FleetSearch.Git.Object
import FleetSearch.Git.Ref
import FleetSearch.Git.Repository
import FleetSearch.Git.Stream
import FleetSearch.Git.Sync
import FleetSearch.Git.Workspace
import FleetSearch.Git.Worktree
import FleetSearch.Json.Fault
import FleetSearch.Json.Reader
import FleetSearch.Json.Record
import FleetSearch.Json.Value
import FleetSearch.Main
import FleetSearch.Pattern.Basic
import FleetSearch.Pattern.Expr
import FleetSearch.Pattern.Fault
import FleetSearch.Pattern.Meaning
import FleetSearch.Pattern.Named
import FleetSearch.Pattern.Reader
import FleetSearch.Pattern.Tree
import FleetSearch.Pattern.Weight
import FleetSearch.Search.Cutoff
import FleetSearch.Search.Ending
import FleetSearch.Search.Gate
import FleetSearch.Search.Permits
import FleetSearch.Search.Result
import FleetSearch.Search.Run
import FleetSearch.Search.Runs
import FleetSearch.Search.Selector
import FleetSearch.Service.Basic
import FleetSearch.Service.Search
import FleetSearch.Service.Sync
import FleetSearch.Sync.Fleet
import FleetSearch.Sync.Wait
import FleetSearch.Text.Blank
import FleetSearch.Text.Count
import FleetSearch.Text.Lines
import FleetSearch.Text.Moment
import FleetSearch.Text.Printable
import FleetSearch.Text.Utf8
import FleetSearch.Unicode.Category
import FleetSearch.Unicode.CharSet
import FleetSearch.Unicode.Code
import FleetSearch.Unicode.Folding
import FleetSearch.Unicode.Property
import FleetSearch.Unicode.Script
import FleetSearch.Unicode.Segment
import FleetSearch.Web.Api
import FleetSearch.Web.Form
import FleetSearch.Web.Message
import FleetSearch.Web.Params
import FleetSearch.Web.Routes
import FleetSearch.Web.Template
import FleetSearch.Proofs.Search.Schedule
import FleetSearch.Proofs.Search.Step
import FleetSearch.Proofs.Search.Cutoff
import FleetSearch.Proofs.Search.Control
import FleetSearch.Proofs.Search.Course
import FleetSearch.Proofs.Search.Deciding
import FleetSearch.Proofs.Search.Gathering
import FleetSearch.Proofs.Search.Outcome
import FleetSearch.Proofs.Search.History
import FleetSearch.Proofs.Search.Turns
import FleetSearch.Proofs.Search.Page
import FleetSearch.Proofs.Search.Release
import FleetSearch.Proofs.Text.Counts
import FleetSearch.Proofs.Text.Lines
import FleetSearch.Proofs.Text.Moments
import FleetSearch.Proofs.Pattern.InLine
import FleetSearch.Proofs.Pattern.Names
import FleetSearch.Proofs.Pattern.Threads
import FleetSearch.Proofs.Pattern.ByLine
import FleetSearch.Proofs.Checkout.Grep
import FleetSearch.Proofs.Checkout.Phases
import FleetSearch.Proofs.Search.Settling
import FleetSearch.Proofs.Search.Progress
import FleetSearch.Proofs.Search.Budget
import FleetSearch.Proofs.Search.Paging
import FleetSearch.Proofs.Checkout.Alike
import FleetSearch.Proofs.Sync.Isolation
import FleetSearch.Proofs.Search.Receipts
import FleetSearch.Proofs.Search.Blame
import FleetSearch.Proofs.Search.Aftermath
import FleetSearch.Proofs.Sync.Queue
import FleetSearch.Proofs.Sync.Reports
import FleetSearch.Proofs.Sync.Patience
import FleetSearch.Proofs.Sync.Traffic
import FleetSearch.Proofs.Sync.Deadlock
import FleetSearch.Proofs.Disk.Tree
import FleetSearch.Proofs.Git.Leaves
import FleetSearch.Proofs.Git.Branch
import FleetSearch.Proofs.Git.Offer
import FleetSearch.Proofs.Git.Upkeep
import FleetSearch.Proofs.Git.Stored
import FleetSearch.Proofs.Git.Reported
import FleetSearch.Proofs.Search.Barrier
import FleetSearch.Proofs.Search.Launching
import FleetSearch.Proofs.Service.Lending
import FleetSearch.Proofs.Service.Leaks
import FleetSearch.Proofs.Git.Failing
import FleetSearch.Proofs.Service.Launch
import FleetSearch.Proofs.Web.Template
import FleetSearch.Proofs.Web.Requests
import FleetSearch.Proofs.Web.Serving
import FleetSearch.Proofs.Catalog.Accepted
import FleetSearch.Proofs.Disk.Leads
import FleetSearch.Proofs.Disk.Follow
import FleetSearch.Proofs.Git.Confined
import FleetSearch.Proofs.Catalog.Places
import FleetSearch.Proofs.Disk.Entries
import FleetSearch.Proofs.Checkout.Listing
import FleetSearch.Proofs.Checkout.Excludes
import FleetSearch.Proofs.Checkout.Shown
import FleetSearch.Proofs.Checkout.Windows
import FleetSearch.Proofs.Checkout.Overflow
import FleetSearch.Proofs.Text.Order
import FleetSearch.Proofs.Checkout.Partition
import FleetSearch.Proofs.Json.Written
import FleetSearch.Proofs.Json.Sorted
import FleetSearch.Proofs.Web.Listing
import FleetSearch.Proofs.Search.Confluence
import FleetSearch.Proofs.Search.Growth
import FleetSearch.Proofs.Search.Granting
import FleetSearch.Proofs.Search.Desk
import FleetSearch.Proofs.Search.Refining
import FleetSearch.Proofs.Sync.Pool
import FleetSearch.Proofs.Text.Trimmed
import FleetSearch.Proofs.Web.Updating
import FleetSearch.Proofs.Web.Choosing
import FleetSearch.Proofs.Web.Effects
import FleetSearch.Proofs.Service.Pooling
import FleetSearch.Proofs.Json.Records
import FleetSearch.Proofs.Json.Bounds
import FleetSearch.Proofs.Catalog.Normal
import FleetSearch.Proofs.Git.Ancestry
import FleetSearch.Proofs.Git.FastForward
import FleetSearch.Proofs.Search.Posting
