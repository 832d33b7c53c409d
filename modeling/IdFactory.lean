import IdFactory.Text.Utf8
import IdFactory.Text.CodeRanges
import IdFactory.Text.Quote
import IdFactory.Text.Ascii
import IdFactory.Decimal.Layout
import IdFactory.Decimal.Read
import IdFactory.Symbol.Alphabet
import IdFactory.Symbol.Identifier
import IdFactory.Symbol.Sampling
import IdFactory.Error
import IdFactory.Random.Source
import IdFactory.Random.SplitMix
import IdFactory.Random.Scripted
import IdFactory.Filter.Probe
import IdFactory.Filter.Murmur
import IdFactory.Filter.Sizing
import IdFactory.Filter.Bloom
import IdFactory.Filter.Membership
import IdFactory.Pool
import IdFactory.Factory.Config
import IdFactory.Factory.Stats
import IdFactory.Factory.History
import IdFactory.Factory.Workers
import IdFactory.Factory.Basic
import IdFactory.Factory.Warmup
import IdFactory.Factory.Fill
import IdFactory.Factory.Lifecycle
import IdFactory.Factory.Concurrent
import IdFactory.Factory.Scheduling
import IdFactory.Reserve
import IdFactory.Remote.Status
import IdFactory.Server.Paths
import IdFactory.Server.FileHistory
import IdFactory.Remote.Client
import IdFactory.Remote.Wire
import IdFactory.Reserve.Shared
import IdFactory.Text.Similarity
import IdFactory.Text.Blank
import IdFactory.Text.Alphanumeric
import IdFactory.Text.Styled
import IdFactory.Server.Cli.Spec
import IdFactory.Server.Cli.Help
import IdFactory.Server.Cli.Error
import IdFactory.Server.Cli.Parse
import IdFactory.Server.Config
import IdFactory.Remote.Uri
import IdFactory.Server.DotEnv
import IdFactory.Server.Launch
import IdFactory.Main
import IdFactory.Proofs.NoFalseNegatives
import IdFactory.Proofs.BatchConservation
import IdFactory.Proofs.Linearizable
import IdFactory.Proofs.DrawnShape
import IdFactory.Proofs.FreshBatches
import IdFactory.Proofs.SchedulerAccounting
import IdFactory.Proofs.HistoryFileWarmup
import IdFactory.Proofs.SharedReserve
import IdFactory.Proofs.PoolLifecycle
import IdFactory.Proofs.DrawnSymbols
import IdFactory.Proofs.FillStream
import IdFactory.Proofs.FillTermination
import IdFactory.Proofs.WarmupOutcome
import IdFactory.Proofs.KeyspaceCheck
import IdFactory.Proofs.AlphabetChecks
import IdFactory.Proofs.UniformDraw
import IdFactory.Proofs.RoundRobin
import IdFactory.Proofs.SchedulerLifecycle
import IdFactory.Proofs.RemoteFetch
import IdFactory.Proofs.RejectionCounters
import IdFactory.Proofs.DistinctProbes
