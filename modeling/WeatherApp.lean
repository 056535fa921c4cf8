import WeatherApp.Engine.Catalog
import WeatherApp.Db.HistoryLaw
import WeatherApp.Foundation.Ranking
import WeatherApp.Engine.Fuzzy
import WeatherApp.Engine.Singleflight
import WeatherApp.Foundation.Process
import WeatherApp.Engine.Load
import WeatherApp.Engine.System
import WeatherApp.Engine.LoadLaw
import WeatherApp.Engine.MappingLaw
import WeatherApp.Conf.Types
import WeatherApp.Conf.Validate
import WeatherApp.Engine.Refresh
import WeatherApp.Engine.RefreshLaw
import WeatherApp.Engine.Resource
import WeatherApp.Engine.ResourceLaw
import WeatherApp.Engine.FetchLaw
import WeatherApp.Renderer.ResourceAssembler
import WeatherApp.Renderer.TransferLaw
import WeatherApp.Renderer.VersionLaw
import WeatherApp.Engine.SearchPage
import WeatherApp.Renderer.Search
import WeatherApp.Renderer.SearchLaw
import WeatherApp.Engine.SingleflightLaw
import WeatherApp.Renderer.PendingLaw
import WeatherApp.Db.Actor
import WeatherApp.Db.ActorLaw
import WeatherApp.Engine.Router
import WeatherApp.Engine.RouterLaw
import WeatherApp.Engine.Server
import WeatherApp.Engine.ServerLaw
import WeatherApp.Renderer.ConfiguredStations
import WeatherApp.Schema.Crypto
import WeatherApp.Engine.Authentication
import WeatherApp.Conf.Load
import WeatherApp.Conf.LoadLaw
import WeatherApp.Conf.Wire
import WeatherApp.Engine.Config
import WeatherApp.Engine.ConfigLaw
import WeatherApp.Updater.Catalog
import WeatherApp.Engine.OfferedName
import WeatherApp.Schema.StationPath
import WeatherApp.Engine.ParentStation
import WeatherApp.Foundation.ParentsFirst
import WeatherApp.Engine.StationOrder
import WeatherApp.Foundation.UnitFile
import WeatherApp.Daemon.Systemd
import WeatherApp.Daemon.SystemdLaw
import WeatherApp.Schema.Weather
import WeatherApp.Updater.Weather
import WeatherApp.Engine.Weather
import WeatherApp.Engine.WeatherRequest
import WeatherApp.Engine.RefreshEvents
import WeatherApp.Engine.SnapshotLinks
import WeatherApp.Db.Stations
import WeatherApp.Engine.WeatherSystem
import WeatherApp.Engine.WeatherContract
import WeatherApp.Engine.WeatherLaw
import WeatherApp.Renderer.AssemblerLaw
import WeatherApp.Engine.ScheduleLaw
import WeatherApp.Engine.DateRefreshLaw
import WeatherApp.Engine.EvictionLaw
import WeatherApp.Engine.CandidatesLaw
import WeatherApp.Engine.PopulationLaw
import WeatherApp.Renderer.ExecuteSearch
import WeatherApp.Renderer.ExecuteSearchLaw
import WeatherApp.Renderer.SelectorLaw
import WeatherApp.Foundation.SortedMap
import WeatherApp.Schema.IsoDate
import WeatherApp.Db.HistoryPage
import WeatherApp.Engine.TemperatureHistory
import WeatherApp.Engine.TemperatureHistoryLaw
import WeatherApp.Engine.LocalDate
import WeatherApp.Engine.Startup
import WeatherApp.Engine.FreshnessLaw
import WeatherApp.Renderer.DateLabel
import WeatherApp.Renderer.DateAgreement
import WeatherApp.Renderer.DateRoundTrip
import WeatherApp.Renderer.SearchState
import WeatherApp.Renderer.GuiCache
import WeatherApp.Renderer.GuiCacheLaw
import WeatherApp.Manifest.Components
import WeatherApp.Manifest.Recording
import WeatherApp.Daemon.Cleanup
import WeatherApp.Foundation.TransactionSequence
import WeatherApp.Db.SchemaMigration
import WeatherApp.Db.SchemaMigrationLaw
import WeatherApp.Engine.DailyHigh
import WeatherApp.Foundation.ProcessRun
import WeatherApp.Engine.DailyHighLaw
import WeatherApp.Updater.Mapper
import WeatherApp.Foundation.AppendLog
import WeatherApp.Updater.MapperClean
import WeatherApp.Updater.MapperLog
import WeatherApp.Updater.MapperReports
import WeatherApp.Foundation.MarkedPair
import WeatherApp.Db.HistoryChange
import WeatherApp.Engine.CommitLock
import WeatherApp.Engine.StartupLaw
import WeatherApp.Engine.CommitLockLaw
import WeatherApp.Engine.CommitAnswerLaw
import WeatherApp.Engine.CommitEffectLaw
import WeatherApp.Engine.CommitSerialLaw
import WeatherApp.Engine.DiskLaw
import WeatherApp.Engine.TimezoneLaw
import WeatherApp.Engine.CrashLaw
import WeatherApp.Tui.SessionLaw
import WeatherApp.Daemon.Probe
import WeatherApp.Daemon.ProbeLaw
import WeatherApp.Engine.LaunchLaw
import WeatherApp.Host.Life
import WeatherApp.Host.OwnershipLaw
