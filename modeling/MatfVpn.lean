import MatfVpn.TunnelDelivery
import MatfVpn.HandshakeAgreement
import MatfVpn.MultiServer
import MatfVpn.MultiClientSpec
import MatfVpn.MultiServerSpec
import MatfVpn.ServerRun
import MatfVpn.HandshakeReplay
import MatfVpn.ServerSurvival
import MatfVpn.ServerDelivery
import MatfVpn.ServerAttribution
import MatfVpn.Config
import MatfVpn.Endpoint
import MatfVpn.NonceUse
import MatfVpn.StaticNonceUse
import MatfVpn.Link
import MatfVpn.LinkLiveness
import MatfVpn.CipherPair
import MatfVpn.Lib.CommitCounter
import MatfVpn.SendFailures
import MatfVpn.HandshakeAttempts
import MatfVpn.HelloReuse
import MatfVpn.Lib.TwoRuns
import MatfVpn.HiddenDatagrams
import MatfVpn.HiddenServerDatagrams
import MatfVpn.Lib.Heartbeat
import MatfVpn.TimedTunnel
import MatfVpn.TunnelLiveness
import MatfVpn.LossyPair
import MatfVpn.ProcessProgress
import MatfVpn.Recovery
import MatfVpn.Recoverability
import MatfVpn.ProcessRuns
import MatfVpn.KeyRotation
import MatfVpn.IdentityBinding
import MatfVpn.SessionTable
import MatfVpn.TunnelDatagrams
import MatfVpn.KeypairFiles
import MatfVpn.Lib.Binary64
import MatfVpn.Lib.PosixPath
import MatfVpn.PythonText
import MatfVpn.ConfigFile
import MatfVpn.SizeLimits
import MatfVpn.Startup
import MatfVpn.CommandLine
import MatfVpn.Gui
import MatfVpn.GuiHandlers
import MatfVpn.GuiLifecycle
import MatfVpn.GuiLog
import MatfVpn.GuiState
import MatfVpn.Benchmark
import MatfVpn.FinalAnalysis
import MatfVpn.HolmAdjustment
import MatfVpn.Lib.Interpolation
import MatfVpn.Schedule
import MatfVpn.SummaryBounds
import MatfVpn.BenchmarkCli
import MatfVpn.BenchmarkDocuments
import MatfVpn.Experiment
import MatfVpn.Lib.Blocks
import MatfVpn.MergedBlocks
import MatfVpn.RetryRecords
import MatfVpn.PingLoss
import MatfVpn.CampaignRounds
import MatfVpn.EngineDeadlines
import MatfVpn.Lib.JsonText
import MatfVpn.JsonValues
import MatfVpn.JsonLog
import MatfVpn.LogStream
import MatfVpn.Lib.Erasure
import MatfVpn.Supervision
import MatfVpn.Lib.Triple
import MatfVpn.TruthfulLog
import MatfVpn.WindowLog
import MatfVpn.ServerProcess
import MatfVpn.ServerConfinement
import MatfVpn.MainWindow
import MatfVpn.WindowState
import MatfVpn.StarDelivery
import MatfVpn.DescriptorSafety
import MatfVpn.ResourceCampaign
