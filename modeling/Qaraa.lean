import Qaraa.Library.KeyedQueue
import Qaraa.Library.QueueInvariant
import Qaraa.Library.OneByOne
import Qaraa.Library.Ordered
import Qaraa.Core.Value
import Qaraa.Library.Fallible
import Qaraa.Core.Corpus
import Qaraa.Core.Validate
import Qaraa.Core.WellFormed
import Qaraa.Library.Consecutive
import Qaraa.Core.IndexCorpus
import Qaraa.Core.EditPath
import Qaraa.Core.EditScript
import Qaraa.Core.WorkspaceReuse
import Qaraa.Core.Candidates
import Qaraa.Core.PostingOrder
import Qaraa.Core.LocalPositions
import Qaraa.Core.Retrieval
import Qaraa.Core.Locate
import Qaraa.Core.Located
import Qaraa.Core.Confidence
import Qaraa.Core.Findings
import Qaraa.Core.PreparedCorpus
import Qaraa.Core.TrackerStep
import Qaraa.Core.TrackerInvariant
import Qaraa.Core.ReadingProgress
import Qaraa.Core.Idempotence
import Qaraa.Core.SampleCorpus
import Qaraa.Core.ResetForgets
import Qaraa.Core.CommitScan
import Qaraa.Core.FindingSoundness
import Qaraa.Core.SubstitutionConfidence
import Qaraa.Library.Streak
import Qaraa.Core.SoftConfirmation
import Qaraa.Core.AyahRanges
import Qaraa.Core.LocalWindow
import Qaraa.Core.SpanScores
import Qaraa.Core.Ranking
import Qaraa.Core.ExactRecitation
import Qaraa.Library.TopTwo
import Qaraa.Library.Levenshtein
import Qaraa.Core.OptimalAlignment
import Qaraa.Core.BruteForce
import Qaraa.Core.CorpusAcceptance
import Qaraa.Core.IndexSoundness
import Qaraa.Core.ExactRecall
import Qaraa.Protocol.Messages
import Qaraa.Protocol.Schemas
import Qaraa.Core.SnapshotShape
import Qaraa.Protocol.SnapshotSchema
import Qaraa.Library.Chronicle
import Qaraa.Library.Loop
import Qaraa.Server.DomainErrors
import Qaraa.Server.SessionService
import Qaraa.Server.Serializability
import Qaraa.Server.SessionInvariant
import Qaraa.Server.Agreement
import Qaraa.Server.StoreFailures
import Qaraa.Server.Subscribers
import Qaraa.Server.Streaming
import Qaraa.Client.Listeners
import Qaraa.Client.LocalSession
import Qaraa.Library.Broadcast
import Qaraa.Client.NestedSession
import Qaraa.Library.Newest
import Qaraa.Client.AdapterController
import Qaraa.Client.AdapterConvergence
import Qaraa.Client.AdapterStatus
import Qaraa.System.LocalAgreement
import Qaraa.Client.RemoteSession
import Qaraa.Client.RemoteMoves
import Qaraa.Client.MutationTurns
import Qaraa.Client.RemoteLog
import Qaraa.Client.MutationOrder
import Qaraa.Client.AfterClose
import Qaraa.Client.StreamInvariant
import Qaraa.Client.Reconnection
import Qaraa.Server.KeptSession
import Qaraa.Server.ChangeLog
import Qaraa.Library.Totals
import Qaraa.Server.SessionCapacity
import Qaraa.Server.SubscriberCapacity
import Qaraa.Server.AfterRelease
import Qaraa.Library.Entries
import Qaraa.Sdk.Json
import Qaraa.Sdk.Survives
import Qaraa.Sdk.DartModels
import Qaraa.Sdk.DartReads
import Qaraa.Sdk.DartRoundTrip
import Qaraa.Sdk.DartProtocol
import Qaraa.Sdk.Observations
import Qaraa.Sdk.GoTypes
import Qaraa.Sdk.PythonModels
import Qaraa.Sdk.ObservationAcceptance
import Qaraa.Sdk.ObservationAgreement
import Qaraa.Sdk.Commands
import Qaraa.Library.PathSearch
import Qaraa.Protocol.PlainJson
import Qaraa.Library.PromiseChain
import Qaraa.Server.MemoryStore
import Qaraa.Sherpa.Normalize
import Qaraa.Sherpa.Acceptance
import Qaraa.Library.Failures
import Qaraa.Server.KnownErrors
import Qaraa.Server.Http
import Qaraa.Server.DomainRejections
import Qaraa.Library.NewestSlot
import Qaraa.Sdk.GoStream
import Qaraa.Library.Runner
import Qaraa.Sdk.DartStream
import Qaraa.Sdk.DartStreamRuns
import Qaraa.Sdk.DartStreamExclusion
import Qaraa.Sdk.DartStreamAttempts
import Qaraa.Sdk.PythonStream
import Qaraa.Sdk.PythonStreamRuns
import Qaraa.Client.Requests
import Qaraa.Client.SnapshotFlow
import Qaraa.Server.Callers
import Qaraa.Server.Joining
import Qaraa.System.RemoteSystem
import Qaraa.System.RemoteRequests
import Qaraa.System.LateRequests
import Qaraa.System.AcceptedSubmissions
import Qaraa.System.StreamAgreement
import Qaraa.Protocol.Envelopes
import Qaraa.Server.Routes
import Qaraa.Server.WebSocket
import Qaraa.Server.QaraaServer
import Qaraa.Server.Naming
import Qaraa.Server.ServerRuns
import Qaraa.Server.LiveSockets
import Qaraa.Server.Listening
import Qaraa.Server.SocketFeeds
import Qaraa.Server.StreamFrames
import Qaraa.Server.TrackedSnapshots
import Qaraa.Server.Replies
