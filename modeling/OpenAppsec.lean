import OpenAppsec.Library.ByteMemory
import OpenAppsec.Library.SlotTable
import OpenAppsec.Library.Trace
import OpenAppsec.Library.RetryLoop
import OpenAppsec.Library.Insertions
import OpenAppsec.Library.DirectMapped
import OpenAppsec.Library.FueledLoop
import OpenAppsec.Library.CountedReader
import OpenAppsec.Library.LengthPrefixed
import OpenAppsec.Library.RingWindow
import OpenAppsec.Library.MessageChannels
import OpenAppsec.Library.Bulks
import OpenAppsec.Library.SlidingWindow
import OpenAppsec.Library.IntrusiveList
import OpenAppsec.Ring.SharedMemory
import OpenAppsec.Ring.Markers
import OpenAppsec.Ring.Operations
import OpenAppsec.Ring.Layout
import OpenAppsec.Ring.Steps
import OpenAppsec.Ring.Environment
import OpenAppsec.Ring.SharedObjects
import OpenAppsec.Ring.ShmemIpc
import OpenAppsec.Ring.ShmemIpc2
import OpenAppsec.Ring.ParamsTable
import OpenAppsec.Ring.Generations
import OpenAppsec.Ring.Creation
import OpenAppsec.Ring.Negotiation
import OpenAppsec.Ring.GeometryAgreement
import OpenAppsec.Ring.StableNegotiation
import OpenAppsec.Ring.Contents
import OpenAppsec.Ring.FifoDelivery
import OpenAppsec.Ring.Publication
import OpenAppsec.Ring.Admission
import OpenAppsec.Ring.CallRuns
import OpenAppsec.Ring.Consumption
import OpenAppsec.Ring.Footprints
import OpenAppsec.Ring.CorruptedContents
import OpenAppsec.Ring.QueueSet
import OpenAppsec.Ring.ShmemIpcQueues
import OpenAppsec.Ring.ShmemIpc2Queues
import OpenAppsec.Ring.Independence
import OpenAppsec.Ring.SharedMemoryIpc
import OpenAppsec.Ring.DuplexDelivery
import OpenAppsec.Ring.ConnectionSetup
import OpenAppsec.Attachment.Senders
import OpenAppsec.Attachment.VerdictTable
import OpenAppsec.Attachment.Replies
import OpenAppsec.Attachment.NanoReceiver
import OpenAppsec.Attachment.ReceiverProtocol
import OpenAppsec.Attachment.NginxReceiver
import OpenAppsec.Attachment.NginxReading
import OpenAppsec.Attachment.SessionIsolation
import OpenAppsec.Attachment.ReceiverAgreement
import OpenAppsec.Attachment.NanoMessages
import OpenAppsec.Attachment.FailedSessions
import OpenAppsec.Attachment.NanoSenders
import OpenAppsec.Attachment.Transmissions
import OpenAppsec.Attachment.MetadataEncoding
import OpenAppsec.Attachment.ReplyCounter
import OpenAppsec.Attachment.AsyncSenders
import OpenAppsec.Attachment.FailureEntries
import OpenAppsec.Attachment.NanoThreads
import OpenAppsec.Attachment.RequestStart
import OpenAppsec.Attachment.NanoOperations
import OpenAppsec.Attachment.FailMode
import OpenAppsec.Attachment.NginxSenders
import OpenAppsec.Attachment.HeaderLists
import OpenAppsec.Attachment.BodyDelivery
import OpenAppsec.Attachment.BodyChunks
import OpenAppsec.Attachment.BodyModifications
import OpenAppsec.Attachment.Metrics
import OpenAppsec.Attachment.MetricAverages
import OpenAppsec.Attachment.FailingState
import OpenAppsec.Attachment.SessionsRate
import OpenAppsec.Attachment.AckFraming
import OpenAppsec.Attachment.WriteBack
import OpenAppsec.Async.Context
import OpenAppsec.Async.ContextTable
import OpenAppsec.Async.FailClose
import OpenAppsec.Async.Progress
import OpenAppsec.Async.AnsweredSessions
import OpenAppsec.Async.Senders
import OpenAppsec.Async.Processing
import OpenAppsec.Async.Steps
import OpenAppsec.Async.Rejections
import OpenAppsec.Async.ReliableSenders
import OpenAppsec.Async.InspectionOrder
import OpenAppsec.Async.BodyForwarding
import OpenAppsec.Attachment.InjectRecords
import OpenAppsec.Library.BlockLedger
import OpenAppsec.Attachment.ModificationLedger
import OpenAppsec.Attachment.VerdictPop
import OpenAppsec.Kong.Nano
import OpenAppsec.Kong.VerdictHandler
import OpenAppsec.Kong.Access
import OpenAppsec.Kong.Enforcement
import OpenAppsec.Traefik.ResponseWriter
import OpenAppsec.Traefik.ResponseInspector
import OpenAppsec.Traefik.SessionOwnership
import OpenAppsec.Traefik.InspectedResponses
import OpenAppsec.Traefik.StrictMode
import OpenAppsec.Library.Mutexes
import OpenAppsec.Traefik.AttachmentManager
import OpenAppsec.Traefik.DaemonSessions
import OpenAppsec.Traefik.DaemonSteps
import OpenAppsec.Traefik.ExclusiveAttachments
import OpenAppsec.Library.StreamDecoders
import OpenAppsec.Compression.CompressionStream
import OpenAppsec.Library.ArrayEdits
import OpenAppsec.Library.FirstItems
import OpenAppsec.Library.PlaceRemovals
import OpenAppsec.Webhook.Pods
import OpenAppsec.Webhook.Mutation
import OpenAppsec.Webhook.Removal
import OpenAppsec.Webhook.Idempotence
import OpenAppsec.Webhook.Intent
import OpenAppsec.Webhook.IntendedInjections
import OpenAppsec.Webhook.InjectedPods
import OpenAppsec.Webhook.RestoredPods
import OpenAppsec.Attachment.RegistrationMessages
import OpenAppsec.Attachment.WebResponses
import OpenAppsec.Attachment.FrontEndHeaders
import OpenAppsec.Attachment.StaticResources
import OpenAppsec.Attachment.SkipSources
import OpenAppsec.Attachment.CustomResponses
import OpenAppsec.Attachment.ChainRestore
import OpenAppsec.Library.Readers
import OpenAppsec.Traefik.RequestBodies
import OpenAppsec.Library.BubbleSort
import OpenAppsec.Library.BackToFront
import OpenAppsec.Attachment.BodyModifier
import OpenAppsec.Attachment.ModifiedBodies
import OpenAppsec.Attachment.ListIterator
import OpenAppsec.Attachment.ListIteration
import OpenAppsec.Attachment.ListRelease
import OpenAppsec.Attachment.ChainSplit
import OpenAppsec.Attachment.HeaderModifier
import OpenAppsec.Attachment.ModifiedRequests
import OpenAppsec.Compression.InflatedCuts
import OpenAppsec.Compression.BrotliCuts
import OpenAppsec.Compression.Cuts
import OpenAppsec.Hooks.RequestThreads
import OpenAppsec.Hooks.RequestBodyFilter
import OpenAppsec.Hooks.FailClosedBodies
import OpenAppsec.Hooks.ResponseBodyFilter
import OpenAppsec.Hooks.FailClosedResponses
import OpenAppsec.Hooks.SteadyService
import OpenAppsec.Hooks.LateBodies
import OpenAppsec.Envoy.Filter
import OpenAppsec.Envoy.WorkerIsolation
import OpenAppsec.Envoy.WorkerMemory
import OpenAppsec.Envoy.DropReplies
import OpenAppsec.Envoy.Workers
import OpenAppsec.Library.Holdings
import OpenAppsec.Attachment.NanoConnection
import OpenAppsec.Attachment.NanoReconnect
import OpenAppsec.Configuration.JsonArchive
import OpenAppsec.Configuration.ArchiveLookups
import OpenAppsec.Configuration.HttpConfiguration
import OpenAppsec.Configuration.ConfigurationFiles
import OpenAppsec.Configuration.ConfigurationRoundTrip
