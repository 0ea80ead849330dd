import Px4Ros2.Components.ScheduledModeProperties
import Px4Ros2.Components.ModeCompletionProperties
import Px4Ros2.Components.SharedSubscription
import Px4Ros2.Components.SubscriptionRegistryProperties
import Px4Ros2.Components.SharedDispatchProperties
import Px4Ros2.Components.WaitConditionProperties
import Px4Ros2.Components.ChargeProperties
import Px4Ros2.Components.CompatibilityGate
import Px4Ros2.Components.MessageLayoutProperties
import Px4Ros2.Components.HealthAndArmingChecksProperties
import Px4Ros2.Components.ModeLifeCycleProperties
import Px4Ros2.Components.SetpointTypesProperties
import Px4Ros2.Components.NodeWithMode
import Px4Ros2.Components.RunStateProperties
import Px4Ros2.Components.Events
import Px4Ros2.Components.Overrides
import Px4Ros2.Utils.VehicleCommandSender
import Px4Ros2.Utils.FrameConversionProperties
import Px4Ros2.Utils.Geodesic
import Px4Ros2.Utils.MapProjectionProperties
import Px4Ros2.Utils.EulerAnglesProperties
import Px4Ros2.Control.PeripheralActuators
import Px4Ros2.Control.VtolProperties
import Px4Ros2.Navigation.LocalPositionProperties
import Px4Ros2.Navigation.GlobalPosition
import Px4Ros2.Control.MulticopterGoto
import Px4Ros2.Mission.HandlerProperties
import Px4Ros2.Mission.ContinuousActionProperties
import Px4Ros2.Mission.AbortProperties
import Px4Ros2.Mission.PersistenceProperties
import Px4Ros2.Mission.ChecksumProperties
import Px4Ros2.Mission.CodecProperties
import Px4Ros2.Mission.ActivationProperties
import Px4Ros2.Mission.ItemAccessProperties
import Px4Ros2.Mission.ResumingProperties
import Px4Ros2.Mission.ReportingProperties
import Px4Ros2.Mission.ResumeStateProperties
import Px4Ros2.Mission.MissionSchemaProperties
import Px4Ros2.Mission.FileMonitorProperties
