import Grounding.Failure
import Grounding.Template.Fault
import Grounding.Field
import Grounding.Value.Display
import Grounding.Value
import Grounding.Text.Quoted
import Grounding.Dict
import Grounding.Decimal
import Grounding.Binary64
import Grounding.Text.Blank
import Grounding.Text.Digits
import Grounding.Text.Lowercase
import Grounding.Text.Printable
import Grounding.Template.Markup
import Grounding.Template.Platform
import Grounding.Template.Types
import Grounding.Template.Trail
import Grounding.Template.FormatSpec
import Grounding.Action
import Grounding.Template.Renderer
import Grounding.Text.Sorted
import Grounding.Message
import Grounding.Prompt
import Grounding.Document
import Grounding.Query
import Grounding.ChatResponse
import Grounding.Advised
import Grounding.Similarity
import Grounding.Fusion
import Grounding.Filter
import Grounding.Store
import Grounding.MemoryStore
import Grounding.Retriever
import Grounding.Joiner
import Grounding.QueryTransformer
import Grounding.QueryExpander
import Grounding.Part
import Grounding.Augmenter
import Grounding.Pipeline.Callback
import Grounding.Pipeline
import Grounding.Stream
import Grounding.Advisor
import Grounding.Advisor.Retrieval
import Grounding.Advisor.Augmentation
import Grounding.Advisor.QuestionAnswer
import Grounding.Value.Json
import Grounding.Heap.Records
import Grounding.Heap
import Grounding.Heap.Layout
import Grounding.Proofs.Action
import Grounding.Proofs.StableSort
import Grounding.Proofs.Binary64
import Grounding.Proofs.Similarity
import Grounding.Proofs.Prompt
import Grounding.Proofs.Record
import Grounding.Proofs.Plan
import Grounding.Proofs.Pipeline.Simulation
import Grounding.Proofs.Pipeline.Recording
import Grounding.Proofs.Pipeline.Order
import Grounding.Proofs.Pipeline.Failures
import Grounding.Proofs.Pipeline.Steps
import Grounding.Proofs.Pipeline.Events
import Grounding.Proofs.Pipeline.Observers
import Grounding.Proofs.Chain.Links
import Grounding.Proofs.Chain.Onion
import Grounding.Proofs.Chain.Delivery
import Grounding.Proofs.Search
import Grounding.Proofs.Retriever
import Grounding.Proofs.Isolation
import Grounding.Proofs.Store.Updates
import Grounding.Proofs.Store.History
import Grounding.Proofs.Store.Ranking
import Grounding.Proofs.Fusion
import Grounding.Proofs.Chain.Agreement
import Grounding.Proofs.Chain.Exposure
import Grounding.Proofs.Chain.Prompting
import Grounding.Proofs.Chain.Sources
import Grounding.Proofs.Chain.Closing
import Grounding.Proofs.Pipeline.Completion
import Grounding.Proofs.Pipeline.Grouping
import Grounding.Proofs.Template.Plain
import Grounding.Proofs.Template.Usual
import Grounding.Proofs.Pipeline.Refusal
import Grounding.Proofs.SharedRetrieval
import Grounding.Proofs.Template.Values
import Grounding.Proofs.Template.Failures
import Grounding.Proofs.Template.Inspection
import Grounding.Proofs.Template.RoundTrip
import Grounding.Proofs.Rounding
import Grounding.Proofs.Dominance
import Grounding.Proofs.Concatenation
import Grounding.Proofs.Equality
import Grounding.Proofs.Pipeline.Filing
import Grounding.Proofs.Override
import Grounding.Proofs.Store.Truncation
import Grounding.Proofs.Expansion
import Grounding.Proofs.Rephrasing.Generations
import Grounding.Proofs.Rephrasing.Runs
import Grounding.Proofs.Rephrasing.Invariants
import Grounding.Proofs.Containment
import Grounding.Proofs.Rephrasing.Languages
import Grounding.Proofs.Store.Requirements
import Grounding.Proofs.Cosine
import Grounding.Proofs.Products
import Grounding.Proofs.Sums
import Grounding.Proofs.Store.Opposition
import Grounding.Proofs.Changes
import Grounding.Proofs.Heap.Holding
