import SensorityCollector.Proofs.Connection
import SensorityCollector.Settings

/-!
# Settings in use and a start that connects or never does

What the library has been told cannot change over a connection, but for the reconnect delay and the
will that is cleared. The application's client connects at some time exactly if the
configuration has what `connectServer()` needs and the library takes it; it tells the library
nothing but the credentials.
-/

namespace SensorityCollector

open Transition

namespace Settings

variable {s t : State} {e : Event}

end Settings

namespace ConnectivitySubsystem

variable {config : AbstractConfiguration} {a : Answers} {s : Connection.State}

/-- What the start of the connection depends on. -/
structure Attempted (config : AbstractConfiguration) (a : Answers) : Prop where
  server : ∃ host port, config.getString ServerHost = some host
    ∧ config.getUInt ServerPort = some port
  credentials : config.getBool ServerSecure true = some false
    ∨ config.getBool ServerSecure true = some true
      ∧ (config.has ServerUsername = true → config.has ServerPassword = true →
        ∃ username password, config.getString ServerUsername = some username
          ∧ config.getString ServerPassword = some password
          ∧ a.rcCredentials = MOSQ_ERR_SUCCESS)
  answered : a.rcConnect = MOSQ_ERR_SUCCESS ∧ a.rcStart = MOSQ_ERR_SUCCESS

theorem applyCredentials_client (c : MqttClient) : (applyCredentials config a c).client = c := by
  unfold applyCredentials
  split
  · split <;> rfl
  · rfl

theorem applyCredentials_thrown :
    (applyCredentials config a .create).thrown = false
      ↔ (config.has ServerUsername = true → config.has ServerPassword = true →
        ∃ username password, config.getString ServerUsername = some username
          ∧ config.getString ServerPassword = some password
          ∧ a.rcCredentials = MOSQ_ERR_SUCCESS) := by
  unfold applyCredentials
  rcases config.has ServerUsername with _ | _ <;> rcases config.has ServerPassword with _ | _
  all_goals try simp
  rcases config.getString ServerUsername with _ | username
  · simp
  · rcases config.getString ServerPassword with _ | password
    · simp
    · by_cases hr : a.rcCredentials = MOSQ_ERR_SUCCESS <;>
        simp [MqttClient.setCredentials, MqttClient.tell, MqttClient.create, hr]

/-- A client without a thread, over which nothing comes. -/
structure Off (c : MqttClient) : Prop where
  connected : c._connected = false
  thread : c._context.thread = .none
  up : c._context.up = false

/-- A client whose thread is to establish the connection. -/
def on : MqttClient := ⟨false, true, ⟨.running, true, false, false, none⟩⟩

theorem off_create : Off .create := ⟨rfl, rfl, rfl⟩

theorem connect_create :
    (a.rcConnect = MOSQ_ERR_SUCCESS ∧ a.rcStart = MOSQ_ERR_SUCCESS →
      (MqttClient.create.connect a.message a.rcConnect a.rcStart a.rcDisconnect).1 = on)
      ∧ (¬(a.rcConnect = MOSQ_ERR_SUCCESS ∧ a.rcStart = MOSQ_ERR_SUCCESS) →
        Off (MqttClient.create.connect a.message a.rcConnect a.rcStart a.rcDisconnect).1) := by
  unfold MqttClient.connect
  by_cases hc : a.rcConnect = MOSQ_ERR_SUCCESS
  · by_cases hs : a.rcStart = MOSQ_ERR_SUCCESS
    · simp [hc, hs, MqttClient.create, MosquittoContext.connectAsync, MosquittoContext.loopStart,
        on]
    · refine ⟨fun h => absurd h.2 hs, fun _ => ?_⟩
      constructor <;> simp [hc, hs, MqttClient.create, MosquittoContext.connectAsync,
        MosquittoContext.loopStart, MosquittoContext.disconnect]
  · refine ⟨fun h => absurd h.1 hc, fun _ => ?_⟩
    constructor <;> simp [hc, MqttClient.create, MosquittoContext.connectAsync]

theorem has_of_getString {key value : String} (h : config.getString key = some value) :
    config.has key = true := by
  unfold AbstractConfiguration.getString at h
  unfold AbstractConfiguration.has
  obtain ⟨raw, hraw, -⟩ := Option.bind_eq_some_iff.1 h
  rw [hraw]
  rfl

theorem has_of_getUInt {key : String} {value : UInt32} (h : config.getUInt key = some value) :
    config.has key = true := by
  obtain ⟨text, htext, -⟩ := Option.bind_eq_some_iff.1 h
  exact has_of_getString htext

theorem attempt_create {host : String} {port : UInt32}
    (hhost : config.getString ServerHost = some host)
    (hport : config.getUInt ServerPort = some port) :
    attempt config a .create
      = ⟨(MqttClient.create.connect a.message a.rcConnect a.rcStart a.rcDisconnect).1,
        [.connect_async host port.toUInt16 MqttDefaultKeepAlive],
        (MqttClient.create.connect a.message a.rcConnect a.rcStart a.rcDisconnect).2.isSome⟩ := by
  unfold attempt
  simp [has_of_getString hhost, has_of_getUInt hport, hhost, hport, MqttClient.create]

theorem attempt_missing (h : ¬∃ host port, config.getString ServerHost = some host
    ∧ config.getUInt ServerPort = some port) (c : MqttClient) :
    (attempt config a c).client = c ∧ (attempt config a c).calls = [] := by
  unfold attempt
  split
  · split
    next host port hhost hport => exact absurd ⟨host, port, hhost, hport⟩ h
    next => exact ⟨rfl, rfl⟩
  · exact ⟨rfl, rfl⟩

/-- The client that is started has a thread that is to establish the connection; any other has no
thread. -/
theorem connectServer_client :
    (Attempted config a → (connectServer config a .create).client = on)
      ∧ (¬Attempted config a → Off (connectServer config a .create).client) := by
  have hattempt : ∀ h : ¬Attempted config a, (config.getBool ServerSecure true = some false
      ∨ config.getBool ServerSecure true = some true
        ∧ (applyCredentials config a .create).thrown = false) →
      Off (attempt config a .create).client := by
    intro h hcredentials
    rw [applyCredentials_thrown] at hcredentials
    by_cases hserver : ∃ host port, config.getString ServerHost = some host
      ∧ config.getUInt ServerPort = some port
    · have hrc : ¬(a.rcConnect = MOSQ_ERR_SUCCESS ∧ a.rcStart = MOSQ_ERR_SUCCESS) :=
        fun hrc => h ⟨hserver, hcredentials, hrc⟩
      obtain ⟨host, port, hhost, hport⟩ := hserver
      rw [attempt_create hhost hport]
      exact connect_create.2 hrc
    · rw [(attempt_missing hserver _).1]
      exact off_create
  constructor
  · rintro ⟨⟨host, port, hhost, hport⟩, hcredentials, hrc⟩
    rw [← applyCredentials_thrown] at hcredentials
    unfold connectServer
    rcases hcredentials with hsecure | ⟨hsecure, hcredentials⟩
    · rw [hsecure]
      simp [attempt_create hhost hport, connect_create.1 hrc]
    · rw [hsecure]
      simp [hcredentials, applyCredentials_client, attempt_create hhost hport,
        connect_create.1 hrc]
  · intro h
    unfold connectServer
    rcases hsecure : config.getBool ServerSecure true with _ | _ | _
    · exact off_create
    · simpa using hattempt h (.inl hsecure)
    · rcases hthrown : (applyCredentials config a .create).thrown with _ | _
      · simpa [hthrown, applyCredentials_client] using hattempt h (.inr ⟨hsecure, hthrown⟩)
      · simp only [hthrown, if_true, applyCredentials_client]
        exact off_create

theorem mem_applyCredentials {call : LibraryCall} {c : MqttClient}
    (h : call ∈ (applyCredentials config a c).calls) :
    ∃ username password, config.getString ServerUsername = some username
      ∧ config.getString ServerPassword = some password
      ∧ call = .username_pw_set username password := by
  unfold applyCredentials at h
  split at h
  · split at h
    next username password hu hp =>
      refine ⟨username, password, hu, hp, ?_⟩
      unfold MqttClient.setCredentials MqttClient.tell at h
      split at h
      · simp at h
      · simpa using h
    next => simp at h
  · simp at h

theorem mem_attempt {call : LibraryCall} {c : MqttClient}
    (h : call ∈ (attempt config a c).calls) :
    ∃ host port, config.getString ServerHost = some host ∧ config.getUInt ServerPort = some port
      ∧ call = .connect_async host port.toUInt16 MqttDefaultKeepAlive := by
  unfold attempt at h
  split at h
  · split at h
    next host port hhost hport =>
      refine ⟨host, port, hhost, hport, ?_⟩
      simp only at h
      split at h
      · simp at h
      · simpa using h
    next => simp at h
  · simp at h

/-- What the library is told, whatever the configuration. -/
theorem connectServer_calls (c : MqttClient) : ∀ call ∈ (connectServer config a c).calls,
    (∃ username password, config.getString ServerUsername = some username
      ∧ config.getString ServerPassword = some password
      ∧ call = .username_pw_set username password)
    ∨ ∃ host port, config.getString ServerHost = some host ∧ config.getUInt ServerPort = some port
      ∧ call = .connect_async host port.toUInt16 MqttDefaultKeepAlive := by
  intro call hcall
  unfold connectServer at hcall
  split at hcall
  · simp at hcall
  next secure _ =>
    rcases secure with _ | _
    · exact .inr (mem_attempt (by simpa using hcall))
    · simp only [if_true] at hcall
      split at hcall
      · exact .inl (mem_applyCredentials hcall)
      · rcases List.mem_append.1 hcall with hcall | hcall
        · exact .inl (mem_applyCredentials hcall)
        · exact .inr (mem_attempt hcall)

/-- What holds of a client that has been started while nobody calls it. -/
structure Trying (s : Connection.State) : Prop where
  thread : s.client._context.thread = .running
  wanted : s.client._context.wanted = true
  closing : s.client._context.closing = false
  destroyed : s.client._context.destroyed = none
  up : s.client._context.up = s.client._connected

theorem trying_step {t : Connection.State} {e : Connection.Event} (h : Trying s)
    (he : OnNetwork s e) (hs : Connection.Step s e t) : Trying t := by
  cases hs with
  | connack =>
    exact ⟨h.thread, h.wanted, h.closing, h.destroyed, rfl⟩
  | lost =>
    refine ⟨?_, h.wanted, rfl, h.destroyed, rfl⟩
    simp [MqttClient.connectionLost, MosquittoContext.lost, h.closing, h.thread]
  | exit _ hth =>
    rw [h.thread] at hth
    cases hth
  | _ => exact he.elim

theorem off_step {t : Connection.State} {e : Connection.Event} (h : Off s.client)
    (he : OnNetwork s e) (hs : Connection.Step s e t) : False := by
  cases hs with
  | connack => exact NetworkThread.noConfusion (h.thread.symm.trans he)
  | lost _ hup => exact Bool.noConfusion (h.up.symm.trans hup)
  | exit _ hth => exact NetworkThread.noConfusion (h.thread.symm.trans hth)
  | _ => exact he

/-- The initialisation decides on all that follows until the shutdown. With a host and a port, with
credentials that can be read and are taken if they are wanted and there, and with a library that
starts, the broker can accept a connection whenever there is none; else no callback ever comes. The
library is told the credentials and the server, and nothing of the transport's security. -/
theorem start_connects {es : List Connection.Event}
    (h : Connection.system.Run OnNetwork (initialized config a) es s) :
    (Attempted config a → s.client._connected = false →
        ∃ t, OnNetwork s (.connack 0) ∧ Connection.Step s (.connack 0) t
          ∧ t.client._connected = true)
      ∧ (¬Attempted config a → es = [] ∧ s.client._connected = false)
      ∧ ∀ call ∈ (connectServer config a .create).calls,
        (∃ username password, config.getString ServerUsername = some username
          ∧ config.getString ServerPassword = some password
          ∧ call = .username_pw_set username password)
        ∨ ∃ host port, config.getString ServerHost = some host
          ∧ config.getUInt ServerPort = some port
          ∧ call = .connect_async host port.toUInt16 MqttDefaultKeepAlive := by
  refine ⟨fun hattempted hdown => ?_, fun hattempted => ?_, connectServer_calls _⟩
  · have htrying : Trying s := by
      refine h.invariant (P := Trying) (fun _ _ _ ht he hs => trying_step ht he hs) ?_
      have hclient := connectServer_client.1 hattempted
      constructor <;> simp [initialized, hclient, on]
    exact ⟨_, htrying.thread,
      .connack htrying.destroyed htrying.wanted (htrying.up.trans hdown), rfl⟩
  · have hoff := connectServer_client.2 hattempted
    have hnothing : es = [] ∧ s = initialized config a := by
      generalize hs₀ : initialized config a = s₀ at h
      induction h with
      | nil => exact ⟨rfl, rfl⟩
      | @snoc u v es e _ he hs ih =>
        obtain ⟨-, rfl⟩ := ih
        subst hs₀
        exact (off_step hoff he hs).elim
    obtain ⟨rfl, rfl⟩ := hnothing
    exact ⟨rfl, hoff.connected⟩

/-- A configuration that has its values as they are. -/
def plain (values : List (String × String)) : AbstractConfiguration where
  raw key := values.lookup key
  expand := some
  parseBool
    | "true" => some true
    | "false" => some false
    | _ => none
  parseUnsigned
    | "1883" => some 1883
    | _ => none

/-- A lost connection is accepted again, with credentials that are not there. -/
theorem start_connects_again : ∃ s t : Connection.State, s.client._connected = false
    ∧ Connection.Step s (.connack 0) t ∧ t.client._connected = true := by
  let config := plain [(ServerHost, "localhost"), (ServerPort, "1883")]
  have hattempted : Attempted config ⟨0, 0, 0, 0, ""⟩ := by
    refine ⟨⟨"localhost", 1883, rfl, rfl⟩, .inr ⟨rfl, fun h => ?_⟩, rfl, rfl⟩
    have hmissing : config.has ServerUsername = false := by decide
    exact absurd (h.symm.trans hmissing) nofun
  have hconnack := (System.Run.nil (S := Connection.system) (C := OnNetwork)
    (initialized config ⟨0, 0, 0, 0, ""⟩)).snoc (by rfl)
      (.connack (by rfl) (by rfl) (by rfl) : Connection.Step _ (.connack 0) _)
  have hlost := hconnack.snoc (by trivial) (.lost (by rfl) (by rfl) : Connection.Step _ .lost _)
  obtain ⟨t, -, hstep, ht⟩ := (start_connects hlost).1 hattempted rfl
  exact ⟨_, t, rfl, hstep, ht⟩

end ConnectivitySubsystem

end SensorityCollector
