import PillarCsi.PreservedOriginal
import PillarCsi.RecordedAccess
import PillarCsi.ExportAttachment
import PillarCsi.HandedOutVolumes
import PillarCsi.AdoptedData
import PillarCsi.DeletionRetry
import PillarCsi.LocalAttachExclusion
import PillarCsi.BackendExpansion
import PillarCsi.RecordAliasing
import PillarCsi.PreservePin
import PillarCsi.StagedTeardown
import PillarCsi.StageLeftovers
import PillarCsi.ProxyOwnership
import PillarCsi.MarkShape
import PillarCsi.ImportRequests
import PillarCsi.RecoveryResume
import PillarCsi.AgentLocks
import PillarCsi.StorageClassOwnership
import PillarCsi.StorageClassRecreation
import PillarCsi.StoreDeletion
import PillarCsi.AgentDrain
import PillarCsi.VolumeLocks
import PillarCsi.NvmeIdentity
import PillarCsi.NvmetPorts
import PillarCsi.TrimCoverage
import PillarCsi.DatasetNames
import PillarCsi.LoginText
import PillarCsi.NfsMountOptions
import PillarCsi.MarkFilenames
import PillarCsi.MountInfo
import PillarCsi.Netlink
