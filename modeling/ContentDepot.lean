import ContentDepot.Api.Message
import ContentDepot.Api.Origin
import ContentDepot.Api.Route
import ContentDepot.Api.SearchParameters
import ContentDepot.Api.Service
import ContentDepot.Content.Store
import ContentDepot.Decimal.Numeral
import ContentDepot.Decimal.Shortest
import ContentDepot.Digest.Sha256
import ContentDepot.Exchange.Address
import ContentDepot.Exchange.Basic
import ContentDepot.Exchange.Message
import ContentDepot.InMemory.Blobs
import ContentDepot.InMemory.Engine
import ContentDepot.Index.Metadata
import ContentDepot.Installation
import ContentDepot.Json.Display
import ContentDepot.Json.Finite
import ContentDepot.Json.Printer
import ContentDepot.Json.Reader
import ContentDepot.Launch
import ContentDepot.Logging.Output
import ContentDepot.Main
import ContentDepot.Metadata.Record
import ContentDepot.Paging.Page
import ContentDepot.Query.Builder
import ContentDepot.Repository.Basic
import ContentDepot.Search.Placement
import ContentDepot.Session.Basic
import ContentDepot.Session.Call
import ContentDepot.Session.World
import ContentDepot.Text.Base64
import ContentDepot.Text.Blank
import ContentDepot.Text.Digit
import ContentDepot.Text.DotSegments
import ContentDepot.Text.Lowering
import ContentDepot.Text.Percent
import ContentDepot.Text.Quoted
import ContentDepot.Text.Word
import ContentDepot.Proofs.Depot.Calls
import ContentDepot.Proofs.Depot.Operations
import ContentDepot.Proofs.Depot.Pagination
import ContentDepot.Proofs.Depot.ReservedKeys
import ContentDepot.Proofs.Depot.Upsert
import ContentDepot.Proofs.Entries
import ContentDepot.Proofs.Exchange.Addressing
import ContentDepot.Proofs.Exchange.Carry
import ContentDepot.Proofs.InMemory.Engine
import ContentDepot.Proofs.InMemory.Sorting
import ContentDepot.Proofs.Index.Document
import ContentDepot.Proofs.Index.LookingUp
import ContentDepot.Proofs.Index.Paths
import ContentDepot.Proofs.Index.Searching
import ContentDepot.Proofs.Index.Writing
import ContentDepot.Proofs.Search.Meaning
import ContentDepot.Proofs.Session.Calls
import ContentDepot.Proofs.Session.Live
import ContentDepot.Proofs.Session.Quiet
import ContentDepot.Proofs.Text.DotSegments
import ContentDepot.Proofs.Text.Lowering
import ContentDepot.Proofs.Text.Percent
import ContentDepot.Proofs.InMemory.Answers
import ContentDepot.Proofs.Index.Reading
import ContentDepot.Proofs.Session.Standing
import ContentDepot.Proofs.Depot.Blindness
import ContentDepot.Proofs.Depot.FailedCalls
import ContentDepot.Proofs.Depot.HashLookup
import ContentDepot.Proofs.Depot.StoredContents
import ContentDepot.Proofs.Depot.StoredFirst
import ContentDepot.Proofs.Json.RoundTrip
import ContentDepot.Proofs.Lists
import ContentDepot.Proofs.Repository.Entities
import ContentDepot.Proofs.Repository.Reads
import ContentDepot.Proofs.Repository.Runs
import ContentDepot.Proofs.Depot.Closure
import ContentDepot.Proofs.Index.Taxonomy
import ContentDepot.Proofs.Query.RoundTrip
import ContentDepot.Proofs.Session.Traffic
import ContentDepot.Proofs.Depot.AbsentValues
import ContentDepot.Proofs.Index.FirstWrites
import ContentDepot.Proofs.Index.SameDocument
import ContentDepot.Proofs.Paging.TotalPages
import ContentDepot.Proofs.Repository.Enumeration
import ContentDepot.Proofs.Index.WriteOrder
import ContentDepot.Proofs.Search.Accounting
import ContentDepot.Proofs.Session.Closing
import ContentDepot.Proofs.Api.ReadBack
import ContentDepot.Proofs.Depot.ErrorBodies
import ContentDepot.Proofs.Depot.Orphans
import ContentDepot.Proofs.Index.AskedOnce
import ContentDepot.Proofs.Index.Rewrites
import ContentDepot.Proofs.Repository.Retries
import ContentDepot.Proofs.Session.Refusals
import ContentDepot.Proofs.Session.Soundness
import ContentDepot.Proofs.Decimal.Nearest
import ContentDepot.Proofs.Paging.Ceiling
import ContentDepot.Proofs.InMemory.KeyOrder
import ContentDepot.Proofs.Depot.SortOrder
import ContentDepot.Proofs.Repository.Identity
import ContentDepot.Proofs.Index.Forms
import ContentDepot.Proofs.Repository.Resaves
import ContentDepot.Proofs.Checks
import ContentDepot.Proofs.Query.Grammar
import ContentDepot.Proofs.Metadata.Merging
import ContentDepot.Proofs.Index.Segments
import ContentDepot.Proofs.Session.Orderly
import ContentDepot.Proofs.Session.Unaware
import ContentDepot.Proofs.Session.Modest
import ContentDepot.Proofs.Depot.Orderliness
import ContentDepot.Proofs.Api.Orderliness
import ContentDepot.Proofs.Api.RequestContext
import ContentDepot.Proofs.Logging.Lines
import ContentDepot.Proofs.Api.SearchBounds
