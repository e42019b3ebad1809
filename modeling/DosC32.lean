import DosC32.Soundness.ArenaFailure
import DosC32.Soundness.ExecJournal
import DosC32.Soundness.LeaseOwnership
import DosC32.Soundness.FatGeometry
import DosC32.Soundness.Interleaving
import DosC32.Soundness.StorageHandles
import DosC32.Soundness.XmsA20
import DosC32.Soundness.Ems
import DosC32.Soundness.DeviceReentry
import DosC32.Soundness.EnvironmentMutation
import DosC32.Soundness.InterruptDelivery
import DosC32.Soundness.IoDispatch
import DosC32.Soundness.DisplayLease
import DosC32.Soundness.FirmwareShadow
import DosC32.Soundness.SftBatch
import DosC32.Soundness.Termination
import DosC32.Soundness.ArenaPolicy
import DosC32.Soundness.XmsMove
import DosC32.Soundness.GuestCapacity
import DosC32.Soundness.BufferedInput
import DosC32.Soundness.DiskSpace
import DosC32.Soundness.I8042Injection
import DosC32.Soundness.PathCommand
