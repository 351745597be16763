import Omnivox.Foundations.Bounded
import Omnivox.Foundations.Bracketed
import Omnivox.Foundations.Chunks
import Omnivox.Foundations.Fallible
import Omnivox.Foundations.Interaction
import Omnivox.Foundations.Json
import Omnivox.Foundations.Base64
import Omnivox.Foundations.Keyed
import Omnivox.Foundations.Landmarks
import Omnivox.Foundations.Pools
import Omnivox.Foundations.Runs
import Omnivox.Foundations.Shedding
import Omnivox.Foundations.Splicing
import Omnivox.Foundations.StableSort
import Omnivox.Foundations.Timed
import Omnivox.Foundations.Evolution
import Omnivox.Foundations.Versions
import Omnivox.Queue.WorkQueue
import Omnivox.Queue.Admission
import Omnivox.Queue.Ledger
import Omnivox.Queue.Guarantees
import Omnivox.Timeline.ScheduledTimeline
import Omnivox.Timeline.FrameClock
import Omnivox.Timeline.Projection
import Omnivox.Audio.AudioBuffer
import Omnivox.Audio.SilenceTrimmer
import Omnivox.Audio.Trimming
import Omnivox.Audio.ProgressivePcm
import Omnivox.Audio.CallbackBoundaries
import Omnivox.Audio.CanonicalClock
import Omnivox.Audio.PlaybackSource
import Omnivox.Audio.AudioControl
import Omnivox.Audio.BufferedPlayback
import Omnivox.Audio.ProgressivePlayback
import Omnivox.Audio.ProgressiveRuns
import Omnivox.Audio.ProgressiveInvariant
import Omnivox.Audio.ProgressiveEquivalence
import Omnivox.Audio.StreamItems
import Omnivox.Audio.AudioStreams
import Omnivox.Audio.StoppedSources
import Omnivox.Audio.StoppedItems
import Omnivox.Audio.StopWins
import Omnivox.Audio.PostSynthesis
import Omnivox.Text.Preparation
import Omnivox.Text.OffsetMapper
import Omnivox.Text.SourceOffsets
import Omnivox.Text.OffsetTracking
import Omnivox.Text.PreparedPositions
import Omnivox.Text.Whitespace
import Omnivox.Presentation.TimelinePart
import Omnivox.Presentation.TimelineDocument
import Omnivox.Presentation.DeliveryPolicy
import Omnivox.Presentation.MultipartAssembler
import Omnivox.Server.ProtocolLines
import Omnivox.Server.RemoteSessions
import Omnivox.Server.KeyedCancellation
import Omnivox.Server.SpeechAdmission
import Omnivox.Server.StopGeneration
import Omnivox.Markers.ReporterCapacity
import Omnivox.Markers.Reporter
import Omnivox.Engines.Styles
import Omnivox.Engines.Contracts
import Omnivox.Engines.EngineRegistry
import Omnivox.Engines.RuntimeHealth
import Omnivox.Engines.CircuitBreaker
import Omnivox.Engines.Resolver
import Omnivox.Engines.Resolution
import Omnivox.Engines.TextResolution
import Omnivox.Engines.VoiceDefinitions
import Omnivox.Engines.NativeChoices
import Omnivox.Engines.LogicalVoices
import Omnivox.Engines.RoutingPolicy
import Omnivox.Synthesis.Contracts
import Omnivox.Routing.Snapshot
import Omnivox.Routing.Exclusion
import Omnivox.Routing.Retries
import Omnivox.Routing.AttemptSink
import Omnivox.Routing.Attempts
import Omnivox.Routing.AttemptLedger
import Omnivox.Routing.Fallback
import Omnivox.Routing.TextRetries
import Omnivox.Routing.TextPreservation
import Omnivox.Engines.StartupRescan
import Omnivox.Engines.InventoryGeneration
import Omnivox.Helpers.ConnectionOwnership
import Omnivox.Helpers.ProcessBoundary
import Omnivox.Helpers.ProgressiveCollector
import Omnivox.Helpers.ProgressiveWireSink
import Omnivox.Helpers.SingleProcess
import Omnivox.Helpers.SynthesisFrames
import Omnivox.Parameters.Catalogue
import Omnivox.Parameters.CatalogueCache
import Omnivox.Parameters.NativeApplication
import Omnivox.Markers.MarkerEvents
import Omnivox.Markers.MarkerProtocol
import Omnivox.Markers.MarkerDispatch
import Omnivox.Markers.Preflight
import Omnivox.Foundations.Lines
import Omnivox.Audio.TimelineRenderer
import Omnivox.Audio.RenderedWindow
import Omnivox.Audio.WindowCuts
import Omnivox.Text.SpacedWords
import Omnivox.Text.Chunking
import Omnivox.Presentation.TextLayout
import Omnivox.Presentation.SpeechTimeline
import Omnivox.Foundations.Grouping
import Omnivox.VoiceLibrary.Metadata
import Omnivox.VoiceLibrary.Index
import Omnivox.VoiceLibrary.Runtime
import Omnivox.VoiceLibrary.Projection
import Omnivox.VoiceLibrary.Eligibility
import Omnivox.Audio.ToneParameters
import Omnivox.Server.PendingBatch
import Omnivox.Foundations.Recency
import Omnivox.Audio.AudioCache
import Omnivox.Parameters.CatalogueAssembly
import Omnivox.Foundations.Markup
import Omnivox.Synthesis.EspeakInput
import Omnivox.Audio.AudioFileLoader
import Omnivox.Foundations.Transducers
import Omnivox.Audio.EffectStability
import Omnivox.Foundations.Harmonics
import Omnivox.Foundations.Mixing
import Omnivox.Audio.ToneOscillator
import Omnivox.Audio.ToneEnvelope
import Omnivox.Audio.ShapedTones
import Omnivox.Foundations.DependencyOrder
import Omnivox.Parameters.Planning
import Omnivox.Parameters.PlanGuarantees
import Omnivox.Parameters.PlanComposition
import Omnivox.Engines.ChoiceTuning
import Omnivox.Parameters.PreparedChoices
import Omnivox.Foundations.FrameLog
import Omnivox.VoiceLibrary.Operations
import Omnivox.VoiceLibrary.OperationJournal
import Omnivox.Previews.PreviewEvents
import Omnivox.Previews.TerminalEvents
import Omnivox.Audio.FadeOuts
import Omnivox.Audio.BufferedFades
import Omnivox.Audio.FadeLaw
import Omnivox.Foundations.Recognizers
import Omnivox.Foundations.Processes
import Omnivox.Helpers.SynthesisCollector
import Omnivox.Helpers.SinkContract
import Omnivox.Helpers.FrameStream
import Omnivox.Execution.IsolationBudget
import Omnivox.Execution.IsolatedCalls
import Omnivox.Execution.IsolationLimits
import Omnivox.Execution.CallOutcomes
import Omnivox.Execution.NativeStreams
import Omnivox.Execution.Supersession
import Omnivox.Execution.IsolationProgress
