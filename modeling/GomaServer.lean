import GomaServer.GoQuote
import GomaServer.GoString
import GomaServer.Toolchain
import GomaServer.ConfigStore
import GomaServer.Storage
import GomaServer.Prebuilt
import GomaServer.LoadConfigs
import GomaServer.ConfigLoader
import GomaServer.ConfigMapLoader
import GomaServer.ConfigMapBucket
import GomaServer.LoadRuns
import GomaServer.ConfigOrigin
import GomaServer.Watcher
import GomaServer.Acl
import GomaServer.Nsjail
import GomaServer.FakeRedis
import GomaServer.RemoteexecProxy
import GomaServer.Admission
import GomaServer.WatcherClose
