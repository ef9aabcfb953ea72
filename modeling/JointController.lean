import JointController.Gateway.CommandDiscipline
import JointController.Gateway.Admission
import JointController.Gateway.QueuedLock
import JointController.Gateway.BrakeTransitions
import JointController.Gateway.LeaseExpiry
import JointController.Gateway.ReleaseIsolation
import JointController.Gateway.LeaseGate
import JointController.Gateway.JointStateMapping
import JointController.Lift.LeaseLink
import JointController.Lift.BrakeGate
import JointController.Lift.Superseded
import JointController.Lift.FaultLatch
import JointController.Lift.Consumed
import JointController.Lift.Concurrent
import JointController.Lift.SoftStop
import JointController.Lift.Resync
import JointController.Lift.TrajectoryRun
import JointController.Lift.FollowAck
import JointController.Hardware.OutputGate
import JointController.Hardware.EmergencyStop
import JointController.Hardware.Reenable
import JointController.Hardware.ZeroRequest
import JointController.Hardware.EthercatRoundTrip
import JointController.Hardware.UsbResync
import JointController.Hardware.FaultReset
import JointController.Hardware.LimitStop
import JointController.Hardware.SearchBound
import JointController.Hardware.MotionReason
import JointController.Hardware.HomingRestore
import JointController.Hardware.ContinuityMonitor
import JointController.Hardware.EthercatCoe
import JointController.Hardware.LiftPdo
import JointController.Hardware.ZeroOffsetStore
import JointController.Hardware.StatusAgreement
import JointController.Hardware.UnitRoundTrip
import JointController.AdmissionAgreement
import JointController.Retransmissions
import JointController.Network.AllOrNothing
import JointController.Network.DeadMan
import JointController.Network.ConfigExclusive
import JointController.Network.ArmLoop
import JointController.Power.Rollback
import JointController.Waist.Zeroing
import JointController.Waist.EnableConfirm
import JointController.Waist.SdoCalls
import JointController.Igh.FaultLatch
import JointController.Igh.ReentryHold
import JointController.Igh.ModeReady
import JointController.Arm.Reseat
import JointController.Arm.PlannerSync
import JointController.Arm.HeavyOrder
import JointController.Arm.AngleError
import JointController.Arm.DriveUnits
import JointController.MoveL.PathFollowing
import JointController.MoveL.StreamTransactions
import JointController.Workspace.StartToRunning
import JointController.Workspace.Stop
import JointController.Workspace.Commands
import JointController.Power.CommandGuard
import JointController.Joint.Services
import JointController.Power.ModeChecked
import JointController.Gateway.ProxyCommands
import JointController.LiftEvidence
import JointController.Lift.FaultReports
