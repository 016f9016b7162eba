import SensorityCollector.Connection

/-!
# The client's settings and the start of the connection

The setters of `MqttClient`, each as the one call of the library it makes, and what the library has
been told by them when the broker accepts the connection. `connectServer()` makes its calls
from the configuration, and logs whatever `Poco::Exception` they end in.
-/

namespace SensorityCollector

open Transition

/-- A pointer to a function, by its address. -/
abbrev PasswordProviderCallback := ℕ

/-- What the library is told, with a null pointer as `none`. -/
inductive LibraryCall
  | username_pw_set (username password : String)
  | reconnect_delay_set (delay delayMax : UInt32) (exponentialBackoff : Bool)
  | tls_insecure_set (value : Bool)
  | tls_opts_set (certReqs : ℤ) (tlsVersion : String) (ciphers : Option String)
  | tls_set (cafile capath certfile keyfile : Option String)
      (callback : Option PasswordProviderCallback)
  | tls_psk_set (psk identity ciphers : String)
  | int_option (option value : ℤ)
  | will_set (topic : String) (payloadlen : ℤ) (payload : List UInt8) (qos : ℤ) (retain : Bool)
  | will_clear
  | connect_async (host : String) (port : UInt16) (keepalive : ℤ)
  deriving DecidableEq, Repr

inductive MqttVerificationRequirements
  | None
  | Peer
  deriving DecidableEq, Repr

inductive MqttTransportLayerVersions
  | v1
  | v11
  | v12
  deriving DecidableEq, Repr

inductive MqttQoS
  | v0
  | v1
  | v2
  deriving DecidableEq, Repr

inductive MqttProtocolVersion
  | v31
  | v311
  deriving DecidableEq, Repr

def MqttTLSv1 : String := "tlsv1"

def MqttTLSv11 : String := "tlsv1.1"

def MqttTLSv12 : String := "tlsv1.2"

def MqttDefaultKeepAlive : ℤ := 60

def MOSQ_OPT_PROTOCOL_VERSION : ℤ := 1

def MQTT_PROTOCOL_V31 : ℤ := 3

def MQTT_PROTOCOL_V311 : ℤ := 4

def MqttQoS.toInt : MqttQoS → ℤ
  | v0 => 0
  | v1 => 1
  | v2 => 2

/-- `static_cast<int>` of a size. -/
def castInt (size : ℕ) : ℤ := (size : ℤ).bmod (2 ^ 32)

/-- The library's call that a setter makes, if it makes it, and what leaves the setter. -/
structure Told where
  call : Option LibraryCall
  thrown : Option Failure
  deriving DecidableEq, Repr

/-- What has been carried out. -/
def Told.done (x : Told) : List LibraryCall := if x.thrown = none then x.call.toList else []

namespace MqttClient

variable (c : MqttClient)

/-- A setter that makes `call`, which hands back `rc`; `guarded` is whether it asserts that the
client is not connected. -/
def tell (guarded : Bool) (call : LibraryCall) (message : String) (rc : ℤ) : Told :=
  if guarded && c._connected then ⟨none, some (.assertion "Client is connected")⟩
  else
    ⟨some call, if rc ≠ MOSQ_ERR_SUCCESS then some (.runtime (makeException message rc)) else none⟩

def setCredentials (username password : String) : ℤ → Told :=
  c.tell true (.username_pw_set username password) "Set credential"

def setReconnectDelay (delay delayMax : UInt32) (exponentialBackoff : Bool) : ℤ → Told :=
  c.tell false (.reconnect_delay_set delay delayMax exponentialBackoff) "Set reconnect delay"

def setInsecure (insecure : Bool) : ℤ → Told :=
  c.tell true (.tls_insecure_set insecure) "Set insecure mode"

def setTransportLayerVersion (requirements : MqttVerificationRequirements)
    (version : MqttTransportLayerVersions) : ℤ → Told :=
  let req := if requirements = .Peer then 0 else 1
  let versionOut := match version with
    | .v1 => MqttTLSv1
    | .v11 => MqttTLSv11
    | .v12 => MqttTLSv12
  c.tell true (.tls_opts_set req versionOut none) "Set transport layer options"

/-- Of a path. -/
def configureTransportLayerSecurity (path : String) : ℤ → Told :=
  c.tell true (.tls_set none (some path) none none none) "Configure transport layer security"

/-- Of a key that is shared beforehand. -/
def configureTransportLayerSecurityPsk (psk identity ciphers : String) : ℤ → Told :=
  c.tell true (.tls_psk_set psk identity ciphers) "Configure transport layer security"

/-- Of files. -/
def configureTransportLayerSecurityFiles (caFile certFile keyFile : String)
    (passwordProvider : Option PasswordProviderCallback) : ℤ → Told :=
  c.tell true (.tls_set (some caFile) none (some certFile) (some keyFile) passwordProvider)
    "Configure transport layer security"

def setProtocolVersion (version : MqttProtocolVersion) : ℤ → Told :=
  let versionOut := if version = .v31 then MQTT_PROTOCOL_V31 else MQTT_PROTOCOL_V311
  c.tell true (.int_option MOSQ_OPT_PROTOCOL_VERSION versionOut) "Set client protocol version"

def willSet (topic : String) (payload : List UInt8) (qos : MqttQoS) (retain : Bool) : ℤ → Told :=
  c.tell true (.will_set topic (castInt payload.length) payload qos.toInt retain)
    "Set will message"

def willClear : ℤ → Told := c.tell false .will_clear "Clear will message"

end MqttClient

namespace Settings

/-- A call of a setter. -/
inductive Setter
  | setCredentials (username password : String)
  | setReconnectDelay (delay delayMax : UInt32) (exponentialBackoff : Bool)
  | setInsecure (insecure : Bool)
  | setTransportLayerVersion (requirements : MqttVerificationRequirements)
      (version : MqttTransportLayerVersions)
  | configureTransportLayerSecurity (path : String)
  | configureTransportLayerSecurityPsk (psk identity ciphers : String)
  | configureTransportLayerSecurityFiles (caFile certFile keyFile : String)
      (passwordProvider : Option PasswordProviderCallback)
  | setProtocolVersion (version : MqttProtocolVersion)
  | willSet (topic : String) (payload : List UInt8) (qos : MqttQoS) (retain : Bool)
  | willClear
  deriving DecidableEq, Repr

def Setter.apply (c : MqttClient) : Setter → ℤ → Told
  | .setCredentials username password => c.setCredentials username password
  | .setReconnectDelay delay delayMax exponentialBackoff =>
    c.setReconnectDelay delay delayMax exponentialBackoff
  | .setInsecure insecure => c.setInsecure insecure
  | .setTransportLayerVersion requirements version =>
    c.setTransportLayerVersion requirements version
  | .configureTransportLayerSecurity path => c.configureTransportLayerSecurity path
  | .configureTransportLayerSecurityPsk psk identity ciphers =>
    c.configureTransportLayerSecurityPsk psk identity ciphers
  | .configureTransportLayerSecurityFiles caFile certFile keyFile passwordProvider =>
    c.configureTransportLayerSecurityFiles caFile certFile keyFile passwordProvider
  | .setProtocolVersion version => c.setProtocolVersion version
  | .willSet topic payload qos retain => c.willSet topic payload qos retain
  | .willClear => c.willClear

/-- `told` is what the library has been told successfully, and `used` what it had been told when the
broker last accepted the connection. -/
structure State where
  connection : Connection.State
  told : List LibraryCall
  used : List LibraryCall

inductive Event
  | connection (e : Connection.Event)
  | setter (x : Setter) (rc : ℤ)

/-- Whether the broker accepts the connection. -/
def accepts : Connection.Event → Bool
  | .connack status => MqttClient.emits status
  | _ => false

inductive Step : State → Event → State → Prop
  | connection {s : State} {e : Connection.Event} {t : Connection.State} :
      Connection.Step s.connection e t →
      Step s (.connection e)
        { connection := t, told := s.told, used := if accepts e then s.told else s.used }
  | setter {s : State} {x : Setter} {rc : ℤ} : s.connection.client._context.destroyed = none →
      Step s (.setter x rc) { s with told := s.told ++ (x.apply s.connection.client rc).done }

def system : System State Event where
  init s := s = ⟨⟨.create, false, false⟩, [], []⟩
  step := Step

end Settings

/-- The configuration: the values of its keys, and what Poco makes of a value. Expanding the
references to other keys may throw, and so may the conversions. -/
structure AbstractConfiguration where
  raw : String → Option String
  expand : String → Option String
  parseBool : String → Option Bool
  parseUnsigned : String → Option UInt32

namespace AbstractConfiguration

variable (config : AbstractConfiguration)

def has (key : String) : Bool := (config.raw key).isSome

/-- `none` is an exception, here and below. -/
def getString (key : String) : Option String := (config.raw key).bind config.expand

def getBool (key : String) (default : Bool) : Option Bool :=
  match config.raw key with
  | some value => (config.expand value).bind config.parseBool
  | none => some default

def getUInt (key : String) : Option UInt32 := (config.getString key).bind config.parseUnsigned

end AbstractConfiguration

def ServerUsername : String := "server.username"

def ServerPassword : String := "server.password"

def ServerHost : String := "server.host"

def ServerPort : String := "server.port"

def ServerSecure : String := "server.secure"

namespace ConnectivitySubsystem

/-- What the library hands back, and what `Poco::format` makes of a failed `connect()`. -/
structure Answers where
  rcCredentials : ℤ
  rcConnect : ℤ
  rcStart : ℤ
  rcDisconnect : ℤ
  message : String

/-- What is left of the client and told to the library, and whether an exception has ended it. -/
structure Outcome where
  client : MqttClient
  calls : List LibraryCall
  thrown : Bool
  deriving DecidableEq, Repr

variable (config : AbstractConfiguration) (a : Answers) (c : MqttClient)

/-- The credentials of a secure connection. -/
def applyCredentials : Outcome :=
  if config.has ServerUsername && config.has ServerPassword then
    match config.getString ServerUsername, config.getString ServerPassword with
    | some username, some password =>
      let x := c.setCredentials username password a.rcCredentials
      ⟨c, x.call.toList, x.thrown.isSome⟩
    | _, _ => ⟨c, [], true⟩
  else ⟨c, [], false⟩

/-- The attempt to connect; the port is cut to 16 bits. -/
def attempt : Outcome :=
  if config.has ServerHost && config.has ServerPort then
    match config.getString ServerHost, config.getUInt ServerPort with
    | some host, some port =>
      let x := c.connect a.message a.rcConnect a.rcStart a.rcDisconnect
      ⟨x.1, if c._connected then [] else [.connect_async host port.toUInt16 MqttDefaultKeepAlive],
        x.2.isSome⟩
    | _, _ => ⟨c, [], true⟩
  else ⟨c, [], false⟩

/-- No exception leaves it. -/
def connectServer : Outcome :=
  match config.getBool ServerSecure true with
  | none => ⟨c, [], true⟩
  | some secure =>
    let x := if secure then applyCredentials config a c else ⟨c, [], false⟩
    if x.thrown then x
    else
      let y := attempt config a x.client
      { y with calls := x.calls ++ y.calls }

/-- The client after the initialisation. -/
def initialized : Connection.State :=
  let client := (connectServer config a .create).client
  ⟨client, client._active, false⟩

/-- What comes of it without anybody calling the client; its callbacks run on the network thread. -/
def OnNetwork (s : Connection.State) : Connection.Event → Prop
  | .connack _ => s.client._context.thread = .running
  | .lost | .exit => True
  | _ => False

end ConnectivitySubsystem

end SensorityCollector
