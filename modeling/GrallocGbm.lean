import GrallocGbm.Lib.Align
import GrallocGbm.Lib.Run
import GrallocGbm.Lib.Keyed
import GrallocGbm.Lib.SharedChoice
import GrallocGbm.Lib.Traced
import GrallocGbm.Lib.SignedSteps
import GrallocGbm.Lib.Aliases
import GrallocGbm.Lib.Links
import GrallocGbm.Lib.Hold
import GrallocGbm.Lib.Views
import GrallocGbm.Lib.Singleton
import GrallocGbm.Format
import GrallocGbm.Flags
import GrallocGbm.Handle
import GrallocGbm.Process
import GrallocGbm.Buffer
import GrallocGbm.Driver
import GrallocGbm.BufferTable
import GrallocGbm.TableDeletion
import GrallocGbm.Agreement
import GrallocGbm.Lock
import GrallocGbm.Library
import GrallocGbm.PlaneLayouts
import GrallocGbm.Metadata
import GrallocGbm.MapperDmaBuf
import GrallocGbm.Mapper
import GrallocGbm.Effects
import GrallocGbm.Invariant
import GrallocGbm.MapperState
import GrallocGbm.SyncBracketing
import GrallocGbm.Balance
import GrallocGbm.DmaRecords
import GrallocGbm.RecordRelease
import GrallocGbm.CpuMappings
import GrallocGbm.Reads
import GrallocGbm.Session
import GrallocGbm.Isolation
import GrallocGbm.MetadataStore
import GrallocGbm.ScalarMetadata
import GrallocGbm.HdrMetadata
import GrallocGbm.Allocator
import GrallocGbm.AllocatorBalance
import GrallocGbm.Selection
import GrallocGbm.Concurrency
import GrallocGbm.Ownership
import GrallocGbm.Delivery
import GrallocGbm.Requested
import GrallocGbm.History
import GrallocGbm.Strides
import GrallocGbm.HandleReads
import GrallocGbm.LockGrants
import GrallocGbm.LockAddresses
import GrallocGbm.PlaneStrides
import GrallocGbm.Batch
import GrallocGbm.Rollback
import GrallocGbm.MetadataBlocks
import GrallocGbm.MetadataTable
import GrallocGbm.HdrBlocks
import GrallocGbm.PayloadReads
import GrallocGbm.MetadataReturns
import GrallocGbm.Acceptance
import GrallocGbm.CreatedSize
import GrallocGbm.FormatLookups
import GrallocGbm.PlaneGeometry
import GrallocGbm.DescriptorMemory
import GrallocGbm.BatchShape
import GrallocGbm.UtHash
import GrallocGbm.UtHashRuns
import GrallocGbm.HashedTable
import GrallocGbm.Registry
import GrallocGbm.RegistryRefinement
import GrallocGbm.RegistryRuns
import GrallocGbm.ReceivedMemory
import GrallocGbm.SharedBuffers
import GrallocGbm.Interface
import GrallocGbm.RegistryReads
import GrallocGbm.Backends
import GrallocGbm.AcceptanceOrder
import GrallocGbm.DmaRegistry
import GrallocGbm.Accounts
import GrallocGbm.AllocatorAccounts
