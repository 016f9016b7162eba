import SensorityCollector.Proofs.StorageStop
import SensorityCollector.Proofs.StorageReentry
import SensorityCollector.Proofs.StorageWakes
import SensorityCollector.Proofs.StorageLifecycle
import SensorityCollector.Proofs.GetExact
import SensorityCollector.Proofs.PutAnswered
import SensorityCollector.Proofs.CallbackOnce
import SensorityCollector.Proofs.SentOrder
import SensorityCollector.Proofs.Resubscribe
import SensorityCollector.Proofs.Unsubscribe
import SensorityCollector.Proofs.Shutdown
import SensorityCollector.Proofs.ConnectSignal
import SensorityCollector.Proofs.Acknowledge
import SensorityCollector.Proofs.Refused
import SensorityCollector.Proofs.Interleaving
import SensorityCollector.Proofs.Connection
import SensorityCollector.Proofs.Restart
import SensorityCollector.Proofs.Sessions
import SensorityCollector.Proofs.Linear
import SensorityCollector.Proofs.Queries
import SensorityCollector.Proofs.Wiring
import SensorityCollector.Proofs.Settings
import SensorityCollector.Proofs.Slotwise
