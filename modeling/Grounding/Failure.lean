import Grounding.SearchRequest
import Grounding.Template.Fault
import Grounding.Value.Display

/-!
Failures. Every way in which an operation can end without a result is a constructor that carries
what the failure is about; its kind, its words and the failure behind it are functions of that.

* `Failure` is the type, `Failure.kind`, `Failure.message` and `Failure.cause` describe one.
* `Failure.isLibrary` tells the library's own failures from all others. `Failure.passesThrough`
  tells which failures of a collaborator are handed on as they are: the library's own and time-outs.
* `Incident` is a failure of something that is not modelled, known by its class and its words.
* `Failure.leaving` is a failure as it leaves a generator. All but two stay as they are: a signal
  that an iteration has ended would be taken for the end of the generator, so that another failure
  takes its place.
-/

set_option autoImplicit false
set_option relaxedAutoImplicit false

namespace Grounding

/-- The kinds of failure. -/
inductive FailureKind
  | reported (kind : ReportKind)
  | type
  | attribute
  | key
  | overflow
  | memory
  | recursion
  | validation
  | other
deriving DecidableEq, Repr

/-- What an argument can be refused for. -/
inductive ArgumentFault
  | dimensionMismatch (left right : Nat)
  | emptyEmbeddings
  | opposingInfinities
  | blankTargetSystem
  | blankTargetLanguage
  | negativeSmoothing
  | topKBelowOne
  | unknownEvent (event : String)
  | tooManyDigits (limit : Nat)
  | template (fault : TemplateFault)
deriving DecidableEq, Repr

/-- The words for a refused argument. -/
def ArgumentFault.message : ArgumentFault → String
  | .dimensionMismatch left right =>
    "embeddings differ in dimensionality (" ++ toString left ++ " != " ++ toString right ++ ")"
  | .emptyEmbeddings => "cannot compare empty embeddings"
  | .opposingInfinities => "-inf + inf in fsum"
  | .blankTargetSystem => "target_search_system must not be empty"
  | .blankTargetLanguage => "target_language must not be empty"
  | .negativeSmoothing => "k must be non-negative"
  | .topKBelowOne => "top_k must be at least 1"
  | .unknownEvent event => "Unknown pipeline event: " ++ Text.quoted event
  | .tooManyDigits limit =>
    "Exceeds the limit (" ++ toString limit ++ " digits) for integer string conversion; " ++
      "use sys.set_int_max_str_digits() to increase the limit"
  | .template fault => fault.message

/-- Uses of a value that its type does not allow. -/
inductive TypeFault
  | unsupportedFilter (typeName : String)
  | unsupportedMessage (typeName : String)
  | notIterable (typeName : String)
  | notSubscriptable (typeName : String)
  | listIndex (typeName : String)
  | textIndex (typeName : String)
  | noFormat (typeName : String)
  | noLength (typeName : String)
  | givenTwice (name : String)
deriving DecidableEq, Repr

/-- The words for a use that a type does not allow. -/
def TypeFault.message : TypeFault → String
  | .unsupportedFilter typeName => "Unsupported filter expression type: " ++ typeName
  | .unsupportedMessage typeName => "Unsupported message type: " ++ typeName
  | .notIterable typeName => "'" ++ typeName ++ "' object is not iterable"
  | .notSubscriptable typeName => "'" ++ typeName ++ "' object is not subscriptable"
  | .listIndex typeName => "list indices must be integers or slices, not " ++ typeName
  | .textIndex typeName => "string indices must be integers, not '" ++ typeName ++ "'"
  | .noFormat typeName => "unsupported format string passed to " ++ typeName ++ ".__format__"
  | .noLength typeName => "object of type '" ++ typeName ++ "' has no len()"
  | .givenTwice name => "got multiple values for argument '" ++ name ++ "'"

/-- Results outside the range of their type. -/
inductive OverflowFault
  | sum
  | integer
  | machineInteger
  | codePoint
deriving DecidableEq, Repr

/-- The words for a result out of range. -/
def OverflowFault.message : OverflowFault → String
  | .sum => "intermediate overflow in fsum"
  | .integer => "int too large to convert to float"
  | .machineInteger => "Python int too large to convert to C long"
  | .codePoint => "%c arg not in range(0x110000)"

/-- Ways in which components do not fit together. -/
inductive ConfigurationFault
  | contentAndMessages
  | bothFilters
  | tooFewQueries
  | notAPipeline
  | wrongPart (place expected typeName : String)
  | neitherAdvisor (typeName : String)
  | missingPlaceholders (template : String) (names : List String)
  | positionalPlaceholder (field : String)
deriving DecidableEq, Repr

/-- The words for components that do not fit together. -/
def ConfigurationFault.message : ConfigurationFault → String
  | .contentAndMessages => "content and messages cannot be set at the same time"
  | .bothFilters =>
    "filter_expression and filter_expression_fn cannot be set at the same time"
  | .tooFewQueries => "number_of_queries must be at least 1"
  | .notAPipeline => "pipeline must be a RetrievalAugmentationPipeline"
  | .wrongPart place expected typeName =>
    place ++ " must implement " ++ expected ++ ", got " ++ typeName
  | .neitherAdvisor typeName => typeName ++ " is neither a CallAdvisor nor a StreamAdvisor"
  | .missingPlaceholders template names =>
    template ++ " is missing placeholders: " ++ ", ".intercalate names
  | .positionalPlaceholder field =>
    "Positional placeholder \x7b" ++ field ++ "\x7d is not supported; use a named one"

/-- A failure of something that is not modelled: what it is a kind of, the name of its class, and
its words. -/
structure Incident where
  kind : FailureKind
  typeName : String
  message : String
deriving DecidableEq, Repr

/-- Why an operation ended without a result. -/
inductive Failure
  /-- A collaborator failed in words of its own. -/
  | reported (kind : ReportKind) (message : String)
  /-- An argument was refused. -/
  | argument (fault : ArgumentFault)
  /-- A value was used in a way that its type does not allow. -/
  | mistyped (fault : TypeFault)
  /-- A value has no attribute of this name. -/
  | missingAttribute (typeName name : String)
  /-- A dictionary has no such key. -/
  | missingKey (key : Value)
  /-- A position lies outside a list or a text, named by its type in messages. -/
  | outOfRange (sequence : String)
  /-- A result lies outside the range of its type. -/
  | overflow (fault : OverflowFault)
  /-- A result is too long to be held. -/
  | tooLong
  /-- A value is nested too deeply for its literal to be written. -/
  | tooDeep
  /-- Something that is not modelled failed. -/
  | foreign (incident : Incident)
  /-- A record was refused. -/
  | invalid (issues : List Issue)
  /-- Components do not fit together. -/
  | configuration (fault : ConfigurationFault)
  /-- A template names something that has no value. -/
  | unboundPlaceholder (cause : Failure)
  /-- A template cannot be rendered for another reason. -/
  | unrenderable (cause : Failure)
  /-- A template cannot be read. -/
  | malformedTemplate (fault : TemplateFault)
  /-- A generation callback failed. -/
  | generationFailed (transformer : String) (cause : Failure)
  /-- A query transformer of a pipeline failed. -/
  | transformerFailed (transformer : String) (cause : Failure)
  /-- A query transformer of a pipeline answered with something else than a query. -/
  | notAQuery (transformer : String)
  /-- The query expander of a pipeline failed. -/
  | expanderFailed (expander : String) (cause : Failure)
  /-- The query expander of a pipeline gave no queries. -/
  | noQueries (expander : String)
  /-- A document store failed to answer a request. -/
  | searchFailed (request : SearchRequest) (cause : Failure)
  /-- The document retriever of a pipeline failed on a query of this text. -/
  | retrieverFailed (query : String) (cause : Failure)
  /-- A stream ended without a fragment that carries a finish reason. -/
  | streamUnfinished (advisor : String) (fragments : Nat)
  /-- A signal of an end, with the name of its class, would have left a generator. -/
  | endSignalled (signal : String) (cause : Failure)

namespace Failure

/-- The kind of a failure. -/
def kind : Failure → FailureKind
  | .reported kind _ => .reported kind
  | .argument _ => .reported .value
  | .mistyped _ => .type
  | .missingAttribute _ _ => .attribute
  | .missingKey _ => .key
  | .outOfRange _ => .reported .index
  | .overflow _ => .overflow
  | .tooLong => .memory
  | .tooDeep => .recursion
  | .foreign incident => incident.kind
  | .invalid _ => .validation
  | .configuration _ => .reported .configuration
  | .unboundPlaceholder _ => .reported .configuration
  | .unrenderable _ => .reported .configuration
  | .malformedTemplate _ => .reported .configuration
  | .generationFailed _ _ => .reported .transformation
  | .transformerFailed _ _ => .reported .transformation
  | .notAQuery _ => .reported .transformation
  | .expanderFailed _ _ => .reported .transformation
  | .noQueries _ => .reported .transformation
  | .searchFailed _ _ => .reported .retrieval
  | .retrieverFailed _ _ => .reported .retrieval
  | .streamUnfinished _ _ => .reported .streamIntegrity
  | .endSignalled _ _ => .reported .runtime

/-- The words of a failure. -/
def message : Failure → String
  | .reported _ message => message
  | .argument fault => fault.message
  | .mistyped fault => fault.message
  | .missingAttribute typeName name =>
    "'" ++ typeName ++ "' object has no attribute '" ++ name ++ "'"
  | .missingKey key => key.literal
  | .outOfRange sequence => sequence ++ " index out of range"
  | .overflow fault => fault.message
  | .tooLong => ""
  | .tooDeep => "maximum recursion depth exceeded while getting the repr of an object"
  | .foreign incident => incident.message
  | .invalid _ => "validation failed"
  | .configuration fault => fault.message
  | .unboundPlaceholder cause => "Template placeholder " ++ cause.message ++ " has no bound value"
  | .unrenderable cause => "Template cannot be rendered: " ++ cause.message
  | .malformedTemplate fault => "Malformed template: " ++ fault.message
  | .generationFailed transformer _ => transformer ++ " failed to generate a result"
  | .transformerFailed transformer _ => "Query transformer '" ++ transformer ++ "' failed"
  | .notAQuery transformer => "Query transformer '" ++ transformer ++ "' must return a Query"
  | .expanderFailed expander _ => "Query expander '" ++ expander ++ "' failed"
  | .noQueries expander => "Query expander '" ++ expander ++ "' returned no queries"
  | .searchFailed request _ =>
    "Similarity search failed for query " ++ Text.quoted request.query
  | .retrieverFailed query _ => "Document retriever failed for query " ++ Text.quoted query
  | .streamUnfinished advisor fragments =>
    advisor ++ ": stream ended after " ++ toString fragments ++
      " fragments without a finish reason"
  | .endSignalled signal _ => "async generator raised " ++ signal

/-- The failure behind a failure. -/
def cause : Failure → Option Failure
  | .unboundPlaceholder cause => some cause
  | .unrenderable cause => some cause
  | .malformedTemplate fault => some (.argument (.template fault))
  | .generationFailed _ cause => some cause
  | .transformerFailed _ cause => some cause
  | .expanderFailed _ cause => some cause
  | .searchFailed _ cause => some cause
  | .retrieverFailed _ cause => some cause
  | .endSignalled _ cause => some cause
  | _ => none

/-- The transformer or expander that a transformation failure names. -/
def transformer : Failure → Option String
  | .generationFailed transformer _ => some transformer
  | .transformerFailed transformer _ => some transformer
  | .notAQuery transformer => some transformer
  | .expanderFailed expander _ => some expander
  | .noQueries expander => some expander
  | _ => none

/-- The request that a retrieval failure carries. -/
def request : Failure → Option SearchRequest
  | .searchFailed request _ => some request
  | _ => none

/-- The number of fragments that a stream failure carries. -/
def fragments : Failure → Nat
  | .streamUnfinished _ fragments => fragments
  | _ => 0

end Failure

/-- Whether a kind is one of the library's own. -/
def FailureKind.isLibrary : FailureKind → Bool
  | .reported .library => true
  | .reported .transformation => true
  | .reported .retrieval => true
  | .reported .configuration => true
  | .reported .streamIntegrity => true
  | _ => false

/-- Whether a failure is one of the library's own. -/
def Failure.isLibrary (failure : Failure) : Bool :=
  failure.kind.isLibrary

/-- Whether a collaborator's failure is handed on as it is. -/
def Failure.passesThrough (failure : Failure) : Bool :=
  failure.isLibrary || failure.kind == .reported .timeout

/-! ### Generators -/

/-- The name of the class of a signal that an iteration has ended. -/
def FailureKind.endSignal? : FailureKind → Option String
  | .reported .stopIteration => some "StopIteration"
  | .reported .stopAsyncIteration => some "StopAsyncIteration"
  | _ => none

/-- A failure that can leave a generator: it is not taken for the end of an iteration. -/
def Failure.IsLasting (failure : Failure) : Prop :=
  failure.kind.endSignal? = none

/-- A failure as it leaves a generator. -/
def Failure.leaving (failure : Failure) : Failure :=
  match failure.kind.endSignal? with
  | some signal => .endSignalled signal failure
  | none => failure

theorem Failure.leaving_of_isLasting {failure : Failure} (h : failure.IsLasting) :
    failure.leaving = failure := by
  unfold leaving
  rw [h]

theorem Failure.isLasting_leaving (failure : Failure) : failure.leaving.IsLasting := by
  cases hsignal : failure.kind.endSignal? with
  | some signal =>
    unfold leaving
    rw [hsignal]
    exact rfl
  | none =>
    rw [leaving_of_isLasting hsignal]
    exact hsignal

@[simp] theorem Failure.leaving_leaving (failure : Failure) :
    failure.leaving.leaving = failure.leaving :=
  leaving_of_isLasting failure.isLasting_leaving

theorem Failure.leaving_comp_leaving : leaving ∘ leaving = leaving :=
  funext leaving_leaving

/-! ### Checks -/

/-- The result of reading a record, as a result that may fail. -/
def Checked.toExcept {α : Type} : Checked α → Except Failure α
  | .accepted value => .ok value
  | .refused issues => .error (.invalid issues)

/-- What an operation is applied to has a name of its own, which no update can have as well. -/
def refuseTaken {α : Type} (taken : List String) (updates : Dict α) : Except Failure Unit :=
  match taken.find? fun name ↦ Dict.contains updates name with
  | some name => .error (.mistyped (.givenTwice name))
  | none => .ok ()

/-- The elements of a value, one after the other: the items of a list, the characters of a text, the
keys of a dictionary. -/
def Value.elements (value : Value) : Except Failure (List Value) :=
  match value with
  | .list items => .ok items
  | .text content => .ok (content.toList.map fun c ↦ .text (String.ofList [c]))
  | .dict entries => .ok (entries.map fun (key, _) ↦ .text key)
  | _ => .error (.mistyped (.notIterable value.typeName))

end Grounding
