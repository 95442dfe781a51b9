import ConveyorModbus.Modbus.CacheOrder
import ConveyorModbus.Modbus.Retry
import ConveyorModbus.Web.Monitor
import ConveyorModbus.System.Handout
import ConveyorModbus.System.Recovery
import ConveyorModbus.System.Progress
import ConveyorModbus.System.Targets
import ConveyorModbus.System.Entries
import ConveyorModbus.System.Accounts
import ConveyorModbus.System.Isolation
import ConveyorModbus.System.Settling
import ConveyorModbus.System.Notifications
import ConveyorModbus.System.Timing
import ConveyorModbus.System.HttpRoutes
import ConveyorModbus.Observability.CleanupTask
import ConveyorModbus.System.Staleness
import ConveyorModbus.System.Connections
