import UsbHal.Basic
import UsbHal.Sysfs
import UsbHal.Status
import UsbHal.Ops
import UsbHal.Machine
import UsbHal.Uevent
import UsbHal.Proofs.Snapshot
import UsbHal.Proofs.Calls
import UsbHal.Proofs.Threads
import UsbHal.Proofs.RoleSwitch
import UsbHal.Proofs.Teardown
import UsbHal.Proofs.Locks
import UsbHal.Proofs.DataFlag
import UsbHal.Proofs.Roles
import UsbHal.Proofs.Enumerate
import UsbHal.Proofs.Compliance
import UsbHal.Proofs.Scan
import UsbHal.Proofs.ModeSwitch
import UsbHal.Proofs.Notify
import UsbHal.Proofs.Solo
import UsbHal.Proofs.Memo
import UsbHal.Hub
import UsbHal.Proofs.VendorCmd
