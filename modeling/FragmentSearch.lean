import FragmentSearch.Agent.Tools
import FragmentSearch.Main
import FragmentSearch.Proofs.Index.Snapshot
import FragmentSearch.Proofs.Ranking.Distance
import FragmentSearch.Proofs.Decimal.Order
import FragmentSearch.Proofs.Decimal.Shortest
import FragmentSearch.Proofs.Ranking.Table
import FragmentSearch.Proofs.Ranking.Expansion
import FragmentSearch.Proofs.Ranking.BestFirst
import FragmentSearch.Proofs.Ranking.Semantic
import FragmentSearch.Proofs.Ranking.Fusion
import FragmentSearch.Proofs.Ranking.Degradation
import FragmentSearch.Proofs.Ranking.Resolution
import FragmentSearch.Proofs.Ranking.Rearrangement
import FragmentSearch.Proofs.Json.Number
import FragmentSearch.Proofs.Json.Numeral
import FragmentSearch.Proofs.Json.RoundTrip
import FragmentSearch.Proofs.Files.Tree
import FragmentSearch.Proofs.Fragment.Dump
import FragmentSearch.Proofs.Files.Exchange
import FragmentSearch.Proofs.Index.Views
import FragmentSearch.Proofs.Index.Relations
import FragmentSearch.Proofs.Index.Search
import FragmentSearch.Proofs.Index.LastRecord
import FragmentSearch.Proofs.Index.Rearrangement
import FragmentSearch.Proofs.Table.Entries
import FragmentSearch.Proofs.Text.Words
import FragmentSearch.Proofs.Order.Stable
import FragmentSearch.Proofs.Order.Traversal
import FragmentSearch.Proofs.Provider.Vectors
import FragmentSearch.Proofs.Index.Attachment
import FragmentSearch.Proofs.Index.Partition
import FragmentSearch.Proofs.Index.Batches
import FragmentSearch.Proofs.Index.Embedding
import FragmentSearch.Proofs.Index.Phase
import FragmentSearch.Proofs.Index.SharedIds
import FragmentSearch.Proofs.Index.Interruption
import FragmentSearch.Proofs.Index.ReplyOrder
import FragmentSearch.Proofs.Client.Requests
import FragmentSearch.Proofs.Client.Registry
import FragmentSearch.Proofs.Indexing.Workers
import FragmentSearch.Proofs.Indexing.Reruns
import FragmentSearch.Proofs.Source.Bindings
import FragmentSearch.Proofs.Source.Extraction
import FragmentSearch.Proofs.Source.Content
import FragmentSearch.Proofs.Source.Names
import FragmentSearch.Proofs.Source.Lookup
import FragmentSearch.Proofs.Source.ForwardReference
import FragmentSearch.Proofs.Json.Grammar
import FragmentSearch.Proofs.Json.Rest
import FragmentSearch.Proofs.Files.Resolution
import FragmentSearch.Proofs.Agent.Tools
import FragmentSearch.Proofs.Decimal.Integer
import FragmentSearch.Proofs.Command.Line
import FragmentSearch.Proofs.Config.Consumers
import FragmentSearch.Proofs.Command.Shell
import FragmentSearch.Proofs.Command.Failures
import FragmentSearch.Proofs.Files.Scan
import FragmentSearch.Proofs.Files.Loading
import FragmentSearch.Proofs.Answer.Attempts
import FragmentSearch.Proofs.Text.Pieces
import FragmentSearch.Proofs.Text.Name
import FragmentSearch.Proofs.Text.LowerCase
import FragmentSearch.Proofs.Index.Tokens
import FragmentSearch.Proofs.Order.Runs
import FragmentSearch.Proofs.Index.Boundaries
import FragmentSearch.Proofs.Ranking.Matching
import FragmentSearch.Proofs.Ranking.Prefilter
