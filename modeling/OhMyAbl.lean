import OhMyAbl.Lib.Prog
import OhMyAbl.Lib.Bytes
import OhMyAbl.Lib.SlotMap
import OhMyAbl.Lib.Align
import OhMyAbl.Lib.Frames
import OhMyAbl.Lib.Machine
import OhMyAbl.Lib.Bits
import OhMyAbl.Base.Efi
import OhMyAbl.Storage.BlockIo
import OhMyAbl.Storage.ExactWrites
import OhMyAbl.Storage.Handles
import OhMyAbl.Device.DeviceInfo
import OhMyAbl.Device.PersistentValues
import OhMyAbl.Device.Unlock
import OhMyAbl.Fastboot.Sparse
import OhMyAbl.Fastboot.SparseExpand
import OhMyAbl.Fastboot.SparseCursor
import OhMyAbl.Partition.Slots
import OhMyAbl.Partition.SetActiveSlot
import OhMyAbl.Partition.SlotPairs
import OhMyAbl.Partition.SlotFlags
import OhMyAbl.Partition.BootRetries
import OhMyAbl.Partition.Gpt
import OhMyAbl.Partition.GptUpdate
import OhMyAbl.Partition.GptPatch
import OhMyAbl.Partition.GptHistory
import OhMyAbl.Partition.Attributes
import OhMyAbl.Avb.ParallelLoad
import OhMyAbl.Avb.Interleavings
import OhMyAbl.Avb.ParallelSound
import OhMyAbl.Avb.Ops
import OhMyAbl.Avb.ReadPartition
import OhMyAbl.Avb.HandleInfo
import OhMyAbl.Avb.SlotVerify
import OhMyAbl.Avb.ParallelProgress
import OhMyAbl.Avb.ParallelAccepts
import OhMyAbl.Boot.BootImage
import OhMyAbl.Avb.FooterVersions
import OhMyAbl.Boot.ImageRanges
import OhMyAbl.Boot.LoadRegions
import OhMyAbl.Boot.VerifiedBoot
import OhMyAbl.Boot.TrustedKeys
import OhMyAbl.Boot.LoadImageAndAuth
import OhMyAbl.Boot.LoadedBoot
import OhMyAbl.Boot.RequestedImages
import OhMyAbl.Boot.NoAvb
import OhMyAbl.Boot.Recovery
import OhMyAbl.Boot.MemoryLimit
import OhMyAbl.Hibernation.Swap
import OhMyAbl.Hibernation.Decrypt
import OhMyAbl.Hibernation.BounceTable
import OhMyAbl.Hibernation.Restore
import OhMyAbl.Hibernation.DataPages
import OhMyAbl.Hibernation.Layout
import OhMyAbl.Hibernation.Authentication
import OhMyAbl.Hibernation.RestoredMemory
import OhMyAbl.Hibernation.UnusedFrames
import OhMyAbl.Fastboot.Command
import OhMyAbl.Fastboot.SetActive
import OhMyAbl.Fastboot.Flash
import OhMyAbl.Fastboot.FlashSteps
import OhMyAbl.Fastboot.FlashTargets
import OhMyAbl.Fastboot.FlashLun
import OhMyAbl.Fastboot.FlashAnswers
import OhMyAbl.Fastboot.Session
import OhMyAbl.Fastboot.Dispatch
import OhMyAbl.Fastboot.Download
import OhMyAbl.Fastboot.SessionFlash
import OhMyAbl.Fastboot.SessionSteps
import OhMyAbl.Fastboot.SessionImages
import OhMyAbl.Fastboot.FlashThread
import OhMyAbl.Fastboot.LastFlash
import OhMyAbl.DeviceTree.Fdt
import OhMyAbl.DeviceTree.Match
import OhMyAbl.DeviceTree.Fits
import OhMyAbl.DeviceTree.Select
import OhMyAbl.DeviceTree.BestMatch
import OhMyAbl.DeviceTree.Scan
import OhMyAbl.DeviceTree.Dtbo
import OhMyAbl.DeviceTree.Fstab
