import Tierd.Data.Runs
import Tierd.Data.Journal
import Tierd.Data.Bytes
import Tierd.Data.FileSystem
import Tierd.Data.Index
import Tierd.Data.Overtaking
import Tierd.Data.Rows
import Tierd.Data.Text
import Tierd.Data.Paths
import Tierd.Data.Trees
import Tierd.Data.Guards
import Tierd.Data.Directory
import Tierd.Meta.Record
import Tierd.Meta.Cache
import Tierd.Meta.Shard
import Tierd.Meta.Holds
import Tierd.Meta.PinRaces
import Tierd.Meta.Transparency
import Tierd.Placement.Admission
import Tierd.Placement.ClientWrites
import Tierd.Placement.Handover
import Tierd.Targets.Agreement
import Tierd.Targets.Secondary
import Tierd.Targets.Writers
import Tierd.Tiers.Constraints
import Tierd.Tiers.Transitions
import Tierd.Tiers.Teardown
import Tierd.Tiers.StorageNames
import Tierd.Disks.Collateral
import Tierd.Disks.InUse
import Tierd.Disks.RequestSafety
import Tierd.Smoothfs.CreateSafety
import Tierd.Smoothfs.Identity
import Tierd.Network.Ownership
import Tierd.Data.Ini
import Tierd.Data.Addresses
import Tierd.Network.Rollback
import Tierd.Network.RoundTrip
import Tierd.Iscsi.PinnedWhileLive
import Tierd.Iscsi.LowerCopy
import Tierd.Plugin.ContainerNames
import Tierd.Plugin.VolumePaths
import Tierd.Plugin.Tables
import Tierd.Plugin.ManifestUpdate
import Tierd.Plugin.Bearer
import Tierd.Compose.Project
import Tierd.Data.EnvFile
import Tierd.Compose.Install
import Tierd.Compose.Config
import Tierd.Backup.DeleteGuard
import Tierd.Backup.Workers
import Tierd.Backup.WorkUnits
import Tierd.Sharing.SmbConf
import Tierd.Sharing.SmbService
import Tierd.Placement.Accounting
import Tierd.Placement.HeatPriority
import Tierd.Placement.MoveSpace
import Tierd.Meta.Decay
import Tierd.Health.AlertLifecycle
import Tierd.Backup.KeysPermanent
import Tierd.Backup.Schedule
import Tierd.Data.Firsts
import Tierd.Data.Graphs
import Tierd.Data.Lines
import Tierd.Mounts.Fstab
import Tierd.Mounts.FstabEdits
import Tierd.Data.Overwrite
import Tierd.TierMeta.Envelope
import Tierd.TierMeta.Crashes
import Tierd.Plugin.Images
import Tierd.Plugin.ImageCleanup
import Tierd.Plugin.Proxy
import Tierd.Data.Layers
import Tierd.Plugin.Profiles
import Tierd.Plugin.ProfileMerge
import Tierd.Plugin.ProfileOrder
import Tierd.Data.Fields
import Tierd.Zfsmgd.Quiesce
import Tierd.Zfsmgd.QuiesceProtocol
import Tierd.Zfsmgd.Recovery
import Tierd.Data.Zones
import Tierd.Spindown.Windows
import Tierd.Spindown.Maintenance
import Tierd.Mdadm.Detail
import Tierd.Mdadm.DetailParsing
import Tierd.Network.LinkFiles
import Tierd.Network.LinkMigration
import Tierd.Plugin.ModelInstall
import Tierd.Plugin.Catalog
import Tierd.Spindown.NextActive
import Tierd.Plugin.DependencyOrder
