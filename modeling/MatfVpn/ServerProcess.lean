/-
# The process of the multi-client server (`multi_server_cli.py`)

`main` loads the configuration and the keys, opens the devices and serves until an iteration
raises.

* `MultiServerCli.main_starts_iff` : when the process of an accepted configuration serves;
* `MultiClientServer.run_of_unknown` : without an accepted hello the server is its data plane.
-/
import MatfVpn.ConfigErrors
import MatfVpn.Descriptors
import MatfVpn.OutboundIsolation
import MatfVpn.PythonValue
import MatfVpn.ServerAttribution

namespace MatfVpn

open Program

/-! ## The data plane on its own -/

namespace MultiClientServerEngine

variable {τ ν : Type}

/-- `_forward_tun_packet`, where the TUN device is readable. -/
def forwardTunPacket (P : Primitives) (input : ServerInput) :
    Program PyError (ServerEffect τ ν) MultiClientServerEngine ℕ :=
  match input.tunRead with
  | none => return 0
  | some packet => do
      let payload ← ofExcept packet
      let forwarded ← handleTunPacket P payload input.tunSendFailure
      return if forwarded then 1 else 0

/-- `_forward_udp_packet`, where the socket is readable. -/
def forwardUdpPacket (P : Primitives) (input : ServerInput) :
    Program PyError (ServerEffect τ ν) MultiClientServerEngine ℕ :=
  match input.udpReceive with
  | none => return 0
  | some arrival => do
      match ← attempt (lift .effect (transportReceive arrival)) with
      | .error (.invalidPacketError _) => return 0
      | .error e => raise e
      | .ok (packet, remoteAddress) => do
          let forwarded ← handleUdpPacket P packet remoteAddress input.tunWrite
          return if forwarded then 1 else 0

/-- `run_once` of the data plane. -/
def runOnce (P : Primitives) (input : ServerInput) (timeout : Option τ) :
    Program PyError (ServerEffect τ ν) MultiClientServerEngine ℕ := do
  emit (.effect (.select timeout))
  let fromTun ← forwardTunPacket P input
  let fromUdp ← forwardUdpPacket P input
  return fromTun + fromUdp

/-- Calls of `run_once` until one raises.  The source has no such loop: the engine has `run_once`
only, and this is what the loop of `MultiClientServer.run` makes of it. -/
def run (P : Primitives) :
    List ServerInput → Program PyError (ServerEffect τ ν) MultiClientServerEngine Unit
  | [] => return ()
  | input :: inputs => do
      let _ ← runOnce P input none
      run P inputs

end MultiClientServerEngine

/-! ## The server without hellos -/

namespace MultiClientServer

variable {τ : Type} {P : Primitives}

theorem onEngine_bind {α β : Type}
    (m : Program PyError (ServerEffect τ Acceptance) MultiClientServerEngine β)
    (f : β → Program PyError (ServerEffect τ Acceptance) MultiClientServerEngine α) :
    onEngine (m >>= f) = onEngine m >>= fun b => onEngine (f b) := by
  unfold onEngine
  rw [zoom_bind]
  · exact fun _ _ => rfl
  · exact fun _ _ _ => rfl

theorem onEngine_pure {α : Type} (a : α) :
    onEngine (pure a : Program PyError (ServerEffect τ Acceptance) MultiClientServerEngine α)
      = pure a := zoom_pure (fun _ => rfl) a

/-- The datagram is not one of a hello that the registry accepts. -/
def Unknown (P : Primitives) (registry : ClientRegistry) (input : ServerInput) : Prop :=
  ∀ datagram source packet, input.udpReceive = some (.ok (datagram, source)) →
    Packet.decode (datagram.take maxUdpDatagramSize) = .ok packet →
    registry.reception P packet input.entropy = .unknown

/-- The TUN half is that of the data plane. -/
theorem forwardFromTun_eq (input : ServerInput) :
    (forwardFromTun P input : Program PyError (ServerEffect τ Acceptance) _ _)
      = onEngine (MultiClientServerEngine.forwardTunPacket P input) := by
  unfold forwardFromTun MultiClientServerEngine.forwardTunPacket
  cases input.tunRead with
  | none => exact (onEngine_pure 0).symm
  | some packet =>
    simp only [onEngine_bind, onEngine_pure]
    rw [onEngine, zoom_ofExcept fun _ => rfl]

/-- A packet that the registry does not accept goes to the data plane. -/
theorem handlePacket_of_unknown (hH : P.LawfulHkdf) {packet : Packet} (hp : packet.Encodable)
    {source : Address} {input : ServerInput} {server : MultiClientServer}
    (hunknown : server.registry.reception P packet input.entropy = .unknown) :
    (handlePacket P packet source input server : Outcome PyError (ServerEffect τ Acceptance) _ _)
      = onEngine (do
          let forwarded ← MultiClientServerEngine.handleUdpPacket P packet source input.tunWrite
          return if forwarded then 1 else 0) server := by
  have haccept : (onRegistry (ClientRegistry.accept P packet source input.entropy) server :
      Outcome PyError (ServerEffect τ Acceptance) _ _) = ⟨.ok none, server, []⟩ := by
    have hends := ClientRegistry.accept_spec hH hp source input.entropy server.registry (τ := τ)
    rw [wp] at hends
    unfold onRegistry zoom
    generalize (ClientRegistry.accept P packet source input.entropy server.registry :
      Outcome PyError (ServerEffect τ Acceptance) _ _) = outcome at hends ⊢
    rcases outcome with ⟨r, registry', t⟩
    cases hends with
    | unknown _ => rfl
    | cached accepted hcached => rw [hunknown] at hcached; cases hcached
    | fresh _ _ _ _ _ _ hfresh _ _ => rw [hunknown] at hfresh; cases hfresh
  unfold handlePacket
  rw [bind_of_ok haccept]
  simp only [onEngine_bind, onEngine_pure]
  rfl

theorem stateless_transportReceive (arrival : Except PyError (Bytes × Address)) :
    Stateless fun σ => (transportReceive arrival : Program PyError (Effect τ) σ _) := by
  refine (Stateless.ofExcept arrival).bind fun received => ?_
  exact (Stateless.emit _).bind fun _ => (Stateless.ofExcept _).bind fun _ => Stateless.pure _

/-- The UDP half is that of the data plane. -/
theorem forwardFromUdp_of_unknown (hH : P.LawfulHkdf) {input : ServerInput}
    {server : MultiClientServer} (hunknown : Unknown P server.registry input) :
    (forwardFromUdp P input server : Outcome PyError (ServerEffect τ Acceptance) _ _)
      = onEngine (MultiClientServerEngine.forwardUdpPacket P input) server := by
  unfold forwardFromUdp MultiClientServerEngine.forwardUdpPacket
  cases hreceive : input.udpReceive with
  | none => exact congrFun (onEngine_pure 0).symm server
  | some arrival =>
    have hstateless : Stateless fun σ => (attempt (lift ServerEffect.effect
        (transportReceive arrival)) : Program PyError (ServerEffect τ Acceptance) σ _) :=
      (stateless_transportReceive arrival).lift.attempt
    simp only
    rw [onEngine_bind, onEngine, hstateless.zoom_eq fun _ => rfl]
    refine bind_congr_of_ok fun r hr => ?_
    rw [congrArg Outcome.state (hstateless.run_eq server server)]
    cases r with
    | error e => cases e <;> rfl
    | ok received =>
      obtain ⟨packet, source⟩ := received
      have hresult : ((transportReceive arrival : Program PyError (Effect τ) _ _) server).result
          = .ok (packet, source) := Except.ok.inj hr
      cases arrival with
      | error e => cases hresult
      | ok arrived =>
        obtain ⟨datagram, source'⟩ := arrived
        obtain ⟨-, -, hdecode⟩ :=
          transportReceive_spec (τ := τ) datagram source' server
        rw [hresult] at hdecode
        cases hpacket : Packet.decode (datagram.take maxUdpDatagramSize) with
        | error e =>
          rw [hpacket] at hdecode
          cases hdecode
        | ok packet' =>
          rw [hpacket] at hdecode
          obtain ⟨rfl, rfl⟩ := Prod.mk.inj (Except.ok.inj hdecode)
          exact handlePacket_of_unknown hH
            (Packet.encodable_of_decode (List.length_take_le _ _) hpacket)
            (hunknown _ _ _ hreceive hpacket)

/-- **One iteration** without an accepted hello is one of the data plane. -/
theorem runOnce_of_unknown (hH : P.LawfulHkdf) {input : ServerInput}
    {server : MultiClientServer} (hunknown : Unknown P server.registry input)
    (timeout : Option τ) :
    runOnce P input timeout server
      = onEngine (MultiClientServerEngine.runOnce P input timeout) server := by
  unfold runOnce MultiClientServerEngine.runOnce
  rw [onEngine_bind, onEngine, zoom_emit fun _ => rfl]
  refine bind_congr_of_ok fun _ _ => ?_
  rw [onEngine_bind, forwardFromTun_eq]
  refine bind_congr_of_ok fun fromTun _ => ?_
  rw [onEngine_bind]
  simp only [onEngine_pure]
  refine bind_congr_of_run_eq (forwardFromUdp_of_unknown hH ?_) _
  exact hunknown

/-- **Refinement.** As long as no datagram is a hello that the registry accepts, the server does
exactly what its data plane does on its own, and the registry stays as it is. -/
theorem run_of_unknown (hH : P.LawfulHkdf) {inputs : List ServerInput}
    {server : MultiClientServer} (hunknown : ∀ input ∈ inputs, Unknown P server.registry input) :
    (run P inputs server : Outcome PyError (ServerEffect τ Acceptance) _ _)
      = onEngine (MultiClientServerEngine.run P inputs) server := by
  induction inputs generalizing server with
  | nil => exact congrFun (onEngine_pure ()).symm server
  | cons input inputs ih =>
    obtain ⟨hinput, hinputs⟩ := List.forall_mem_cons.1 hunknown
    unfold run MultiClientServerEngine.run
    rw [onEngine_bind, bind_congr_of_run_eq (runOnce_of_unknown hH hinput none)]
    exact bind_congr_of_ok fun _ _ => ih hinputs

/-- A hello of a client that the sample server does not know. -/
def sampleStranger : Packet :=
  ((createClientHello sample (BigEndian.toBytes 32 31337)
    (sample.x25519Public sampleKeys.serverPrivate) sampleSecondEntropy).toOption.get
      (by decide +kernel)).1

/-- A packet to the first sample client, one from it, and the hello of a stranger. -/
def sampleUnknowns : List ServerInput :=
  [{ sampleArrival [] (sampleSource 1) with tunRead := some (.ok sampleToClient) },
    sampleArrival sampleClientDatagram (sampleSource 0),
    sampleArrival (sampleStranger.encode.toOption.get (by decide +kernel)) (sampleSource 1)]

/-- The registry has no answer to a hello that it has not cached and that no client has sent. -/
theorem reception_eq_unknown {registry : ClientRegistry} {packet : Packet}
    {entropy : ℕ → ServerEntropy}
    (h : packet.messageType ≠ .clientHello ∨
      registry.acceptedHellos.get? (fingerprint P packet) = none ∧
        acceptedBy P packet registry.serverPrivateKey entropy 0 registry.clients = none) :
    registry.reception P packet entropy = .unknown := by
  unfold ClientRegistry.reception
  rcases h with htype | ⟨hcache, haccepted⟩
  · rw [if_pos htype]
  · rw [hcache, haccepted]
    split
    · rfl
    · rfl

/-- The sample server with a session knows none of the three as a hello. -/
theorem sampleUnknowns_unknown :
    ∀ input ∈ sampleUnknowns, Unknown sample sampleAccepted.state.registry input := by
  intro input hinput datagram source packet hreceive hdecode
  have hpacket : ∀ input ∈ sampleUnknowns, ∀ arrived ∈ input.udpReceive.bind Except.toOption,
      ∀ packet ∈ (Packet.decode (arrived.1.take maxUdpDatagramSize)).toOption,
        packet.messageType ≠ .clientHello ∨
          sampleAccepted.state.registry.acceptedHellos.get? (fingerprint sample packet) = none ∧
            acceptedBy sample packet sampleAccepted.state.registry.serverPrivateKey input.entropy 0
              sampleAccepted.state.registry.clients = none := by
    decide +kernel
  refine reception_eq_unknown (hpacket input hinput (datagram, source) ?_ packet ?_)
  · rw [hreceive]
    rfl
  · rw [hdecode]
    rfl

/-- The sample server with a session forwards in both directions and drops the hello. -/
theorem run_of_unknown_sample :
    (writes (effects (run (τ := Unit) sample sampleUnknowns sampleAccepted.state).trace)
        = [sampleIpv4Packet] ∧
      (sends (effects (run (τ := Unit) sample sampleUnknowns sampleAccepted.state).trace)).length
        = 1) ∧
    (run sample sampleUnknowns sampleAccepted.state :
        Outcome PyError (ServerEffect Unit Acceptance) _ _)
      = onEngine (MultiClientServerEngine.run sample sampleUnknowns) sampleAccepted.state :=
  ⟨by decide +kernel, run_of_unknown sample_lawfulHkdf sampleUnknowns_unknown⟩

end MultiClientServer

/-! ## The process -/

/-- What the surroundings answer to the process. -/
structure ServerProcessInput (τ : Type) where
  udp : UdpAnswers τ
  tun : TunAnswers
  /-- The exceptions of the two `ip` commands of `configure_tun`, if any. -/
  ipAddress : Option PyError
  ipLink : Option PyError
  iterations : List ServerInput

namespace MultiServerCli

variable {τ : Type}

/-- The identity of a client, with its public key. -/
def loadIdentity (files : KeyFiles) (client : ServerClientConfig) :
    Except PyError ClientIdentity := do
  let publicKey ← loadX25519PublicKey files client.publicKeyFile
  return ⟨client.name, client.tunnelAddress, publicKey⟩

/-- The registry of `main`; an accepted configuration has no negative `packets_per_key`. -/
def loadRegistry (config : MultiClientServerConfig) (files : KeyFiles) :
    Except PyError ClientRegistry := do
  let privateKey ← loadX25519PrivateKey files config.privateKeyFile
  let identities ← config.clients.mapM (loadIdentity files)
  ClientRegistry.new privateKey identities config.packetsPerKey.toNat

/-- `MultiClientServer(tun_device, transport, registry, logger).run()`. -/
def serve (P : Primitives) (registry : ClientRegistry) (inputs : List ServerInput) :
    Program PyError (ServerEffect τ Acceptance) Unit Unit :=
  zoom (fun _ => MultiClientServer.new registry) (fun _ s => s) id
    (MultiClientServer.run P inputs)

/-- The body of the inner `with` of `main`. -/
def serveTunnel (P : Primitives) (config : MultiClientServerConfig) (registry : ClientRegistry)
    (input : ServerProcessInput τ) (tunName : String) :
    Program PyError (DescriptorEffect (ServerEffect τ Acceptance)) Unit Unit := do
  Descriptors.configureTun tunName config.tunAddress config.mtu input.ipAddress input.ipLink
  lift .effect (serve P registry input.iterations)

/-- The two `with` statements of `main`. -/
def openAndServe (P : Primitives) (config : MultiClientServerConfig) (registry : ClientRegistry)
    (input : ServerProcessInput τ) :
    Program PyError (DescriptorEffect (ServerEffect τ Acceptance)) Unit Unit :=
  Descriptors.withUdpTransport config.bind none input.udp
    (Descriptors.withTunDevice config.tunName input.tun (serveTunnel P config registry input))

/-- What `main` returns or raises after its `try`. -/
def exitCode : Except PyError Unit → Except PyError ℕ
  | .ok () => .ok 0
  | .error .keyboardInterrupt => .ok 0
  | .error e => .error e

/-- `main`, for the path of the configuration. -/
def main (P : Primitives) (documents : Documents) (path : PosixPath) (files : KeyFiles)
    (input : ServerProcessInput τ) :
    Program PyError (DescriptorEffect (ServerEffect τ Acceptance)) Unit ℕ := do
  let config ← ofExcept (loadServerConfig documents path)
  let registry ← ofExcept (loadRegistry config files)
  let result ← attempt (openAndServe P config registry input)
  ofExcept (exitCode result)

/-! ## Starting -/

/-- The surroundings take what the process opens, configures and closes. -/
structure Answers (config : MultiClientServerConfig) (input : ServerProcessInput τ)
    (tunName : String) : Prop where
  udp : input.udp.failure config.bind none = none
  tun : input.tun.result = .ok tunName
  ipAddress : input.ipAddress = none
  ipLink : input.ipLink = none
  closesUdp : input.udp.close = none
  closesTun : input.tun.close = none

/-- Every key file of the configuration holds a key. -/
def ValidKeyFiles (config : MultiClientServerConfig) (files : KeyFiles) : Prop :=
  (∃ key, loadX25519PrivateKey files config.privateKeyFile = .ok key) ∧
    ∀ client ∈ config.clients, ∃ key, loadX25519PublicKey files client.publicKeyFile = .ok key

/-- The identity is that of a configured client, with the key of its file. -/
def Identifies (files : KeyFiles) (client : ServerClientConfig) (identity : ClientIdentity) :
    Prop :=
  identity.name = client.name ∧ identity.tunnelAddress = client.tunnelAddress ∧
    loadX25519PublicKey files client.publicKeyFile = .ok identity.publicKey

/-- The registry is that of the configuration, before the first hello. -/
structure Configures (config : MultiClientServerConfig) (files : KeyFiles)
    (registry : ClientRegistry) : Prop where
  serverPrivateKey :
    loadX25519PrivateKey files config.privateKeyFile = .ok registry.serverPrivateKey
  clients : List.Forall₂ (Identifies files) config.clients registry.clients
  packetsPerKey : (registry.packetsPerKey : ℤ) = config.packetsPerKey
  acceptedHellos : registry.acceptedHellos = .empty

/-- What `_validate` has checked of a configuration. -/
theorem validate_ok {config : MultiClientServerConfig} (h : config.validate = .ok ()) :
    (∃ interface, parseInterface? config.tunAddress = some interface ∧
      config.validateClients interface = .ok ()) ∧
    (config.tunName ≠ "" ∧ ∃ name, encodeAscii config.tunName = .ok name ∧ name.length ≤ 15) ∧
    (576 ≤ config.mtu ∧ config.mtu ≤ 65535) ∧ 0 ≤ config.packetsPerKey := by
  unfold MultiClientServerConfig.validate at h
  split at h
  · cases h
  · rename_i interface hinterface
    by_cases hname : config.tunName = ""
    · rw [if_pos hname] at h
      cases h
    rw [if_neg hname] at h
    obtain ⟨name, hencode, h⟩ := except_bind_eq_ok.1 h
    simp only [ite_error_eq_ok] at h
    obtain ⟨hlength, hmtu, hkey, hclients⟩ := h
    exact ⟨⟨interface, hinterface, hclients⟩, ⟨hname, name, hencode, not_lt.1 hlength⟩,
      not_not.1 hmtu, not_lt.1 hkey⟩

theorem loadIdentity_ok {files : KeyFiles} {client : ServerClientConfig}
    {identity : ClientIdentity} (h : loadIdentity files client = .ok identity) :
    Identifies files client identity := by
  obtain ⟨key, hkey, h⟩ := except_bind_eq_ok.1 h
  obtain rfl := Except.ok.inj h
  exact ⟨rfl, rfl, hkey⟩

theorem loadIdentity_raises (files : KeyFiles) (client : ServerClientConfig) :
    Raises IsValueError (loadIdentity files client) :=
  (loadX25519PublicKey_raises _ _).bind fun _ => Raises.ok _

/-- The names and the addresses of the identities are those of the clients. -/
theorem map_identities {files : KeyFiles} {clients : List ServerClientConfig}
    {identities : List ClientIdentity} (h : clients.mapM (loadIdentity files) = .ok identities) :
    clients.map (·.name) = identities.map (·.name) ∧
      clients.map (·.tunnelAddress) = identities.map (·.tunnelAddress) :=
  ⟨map_eq_map_of_mapM h fun _ _ hok => (loadIdentity_ok hok).1.symm,
    map_eq_map_of_mapM h fun _ _ hok => (loadIdentity_ok hok).2.1.symm⟩

/-- **The registry takes the clients of an accepted configuration**: its constructor does not
find what `_validate` has ruled out. -/
theorem loadRegistry_of_identities {config : MultiClientServerConfig}
    (hvalid : config.validate = .ok ()) {files : KeyFiles} {privateKey : Bytes}
    (hprivate : loadX25519PrivateKey files config.privateKeyFile = .ok privateKey)
    {identities : List ClientIdentity}
    (h : config.clients.mapM (loadIdentity files) = .ok identities) :
    ∃ registry, loadRegistry config files = .ok registry ∧ Configures config files registry := by
  obtain ⟨⟨interface, -, hclients⟩, -, -, hkey⟩ := validate_ok hvalid
  simp only [MultiClientServerConfig.validateClients, ite_error_eq_ok, not_not] at hclients
  obtain ⟨hnames, haddresses, -, -⟩ := hclients
  obtain ⟨hname, haddress⟩ := map_identities h
  rw [hname] at hnames
  rw [haddress] at haddresses
  refine ⟨⟨privateKey, identities, config.packetsPerKey.toNat, .empty, hnames, haddresses⟩, ?_,
    hprivate, (mapM_eq_ok_iff.1 h).imp fun _ _ => loadIdentity_ok, Int.toNat_of_nonneg hkey, rfl⟩
  unfold loadRegistry ClientRegistry.new
  rw [hprivate, h]
  show dite _ _ _ = _
  rw [dif_neg (not_not.2 hnames), dif_neg (not_not.2 haddresses)]

/-- **When the keys are loaded.** -/
theorem loadRegistry_spec {config : MultiClientServerConfig} (hvalid : config.validate = .ok ())
    (files : KeyFiles) :
    (ValidKeyFiles config files → ∃ registry, loadRegistry config files = .ok registry ∧
      Configures config files registry) ∧
    (¬ ValidKeyFiles config files → ∃ message,
      loadRegistry config files = .error (.valueError message)) := by
  constructor
  · rintro ⟨⟨key, hkey⟩, hclients⟩
    have hidentities : ∀ client ∈ config.clients, ∃ identity,
        loadIdentity files client = .ok identity := by
      intro client hmem
      obtain ⟨publicKey, hpublic⟩ := hclients client hmem
      exact ⟨⟨client.name, client.tunnelAddress, publicKey⟩,
        except_bind_eq_ok.2 ⟨publicKey, hpublic, rfl⟩⟩
    obtain ⟨identities, h⟩ := exists_mapM_eq_ok hidentities
    exact loadRegistry_of_identities hvalid hkey h
  · intro hfiles
    cases hprivate : loadX25519PrivateKey files config.privateKeyFile with
    | error e =>
      obtain ⟨message, rfl⟩ := loadX25519PrivateKey_raises _ _ _ hprivate
      refine ⟨message, ?_⟩
      unfold loadRegistry
      rw [hprivate]
      rfl
    | ok key =>
      cases h : config.clients.mapM (loadIdentity files) with
      | error e =>
        obtain ⟨_, client, _, -, -, he⟩ := mapM_eq_error_iff.1 h
        obtain ⟨message, rfl⟩ := loadIdentity_raises _ _ _ he
        refine ⟨message, ?_⟩
        unfold loadRegistry
        rw [hprivate, h]
        rfl
      | ok identities =>
        refine absurd ⟨⟨key, hprivate⟩, fun client hmem => ?_⟩ hfiles
        obtain ⟨identity, hidentity⟩ := exists_ok_of_mapM h hmem
        exact ⟨_, (loadIdentity_ok hidentity).2.2⟩

variable {P : Primitives} {documents : Documents} {path : PosixPath}
  {config : MultiClientServerConfig} {registry : ClientRegistry} {files : KeyFiles}
  {input : ServerProcessInput τ} {tunName : String}

/-- What the process does before it serves. -/
def opening (config : MultiClientServerConfig) (tunName : String) :
    List (DescriptorEffect (ServerEffect τ Acceptance)) :=
  [.opened .socket, .opened .tunDevice,
    .command ["ip", "address", "add", config.tunAddress, "dev", tunName],
    .command ["ip", "link", "set", "dev", tunName, "mtu", toString config.mtu, "up"]]

/-- **A run of the loop**, with the descriptors opened before and closed after it. -/
theorem openAndServe_of_answers (hinput : Answers config input tunName)
    (hmtu : 576 ≤ config.mtu ∧ config.mtu ≤ 65535)
    (hname : ∀ answer, MatfVpn.newTunDevice config.tunName answer = answer) :
    openAndServe P config registry input () =
      ⟨(serve (τ := τ) P registry input.iterations ()).result, (), opening config tunName ++
        ((serve (τ := τ) P registry input.iterations ()).trace.map .effect ++
          [.closed .tunDevice, .closed .socket])⟩ := by
  let served : Outcome PyError (ServerEffect τ Acceptance) Unit Unit :=
    serve P registry input.iterations ()
  let served : Outcome PyError (ServerEffect τ Acceptance) Unit Unit :=
    serve P registry input.iterations ()
  have hbody : serveTunnel P config registry input tunName () = ⟨served.result, (),
      (opening config tunName).drop 2 ++ served.trace.map .effect⟩ := by
    unfold serveTunnel
    rw [hinput.ipAddress, hinput.ipLink]
    exact bind_of_ok (Descriptors.configureTun_of_answers hmtu ()) _
  refine (Descriptors.withUdpTransport_of_answers hinput.udp hinput.closesUdp
    (Descriptors.withTunDevice_of_answers hname hinput.tun hinput.closesTun hbody)).trans ?_
  simp [opening, served]

/-- A name that the TUN device refuses leaves the socket opened and closed. -/
theorem openAndServe_of_refused (hinput : Answers config input tunName) {e : PyError}
    (hname : ∀ answer, MatfVpn.newTunDevice config.tunName answer = .error e) :
    openAndServe P config registry input () = (⟨.error e, (), [.opened .socket, .closed .socket]⟩ :
      Outcome PyError (DescriptorEffect (ServerEffect τ Acceptance)) Unit Unit) := by
  have htunnel : Descriptors.withTunDevice config.tunName input.tun
      (serveTunnel P config registry input) () = ⟨.error e, (), []⟩ :=
    within_of_error (Descriptors.newTunDevice_of_refused input.tun hname ())
  exact Descriptors.withUdpTransport_of_answers hinput.udp hinput.closesUdp htunnel

/-- `main` after its configuration and its keys are loaded. -/
theorem main_of_loaded (hload : loadServerConfig documents path = .ok config)
    (hregistry : loadRegistry config files = .ok registry) :
    main P documents path files input () =
      (⟨exitCode (openAndServe P config registry input ()).result, (),
        (openAndServe P config registry input ()).trace⟩ :
      Outcome PyError (DescriptorEffect (ServerEffect τ Acceptance)) Unit ℕ) := by
  have hattempt : attempt (openAndServe P config registry input) ()
      = ⟨.ok (openAndServe P config registry input ()).result, (),
        (openAndServe P config registry input ()).trace⟩ := rfl
  unfold main
  rw [hload, ofExcept_ok, pure_bind, hregistry, ofExcept_ok, pure_bind, bind_of_ok hattempt,
    ofExcept_apply, Outcome.after, List.append_nil]

/-- **When the process serves.** For an accepted configuration, and surroundings that take what
it opens: if every key file holds a key and the device name has no NUL, it opens and configures its
devices, serves with the registry of the configuration until an iteration raises, and closes them;
without the keys it raises `ValueError` and does nothing; a NUL is found when the socket is open,
which is closed before the `ValueError`. -/
theorem main_starts_iff (hload : loadServerConfig documents path = .ok config)
    (hinput : Answers config input tunName) :
    (ValidKeyFiles config files ∧ Char.ofNat 0 ∉ config.tunName.toList →
      ∃ registry, Configures config files registry ∧
        main P documents path files input () =
          ⟨exitCode (serve (τ := τ) P registry input.iterations ()).result, (),
            opening config tunName ++
              ((serve (τ := τ) P registry input.iterations ()).trace.map .effect ++
                [.closed .tunDevice, .closed .socket])⟩) ∧
    (¬ ValidKeyFiles config files →
      ∃ message, (main P documents path files input () :
        Outcome PyError (DescriptorEffect (ServerEffect τ Acceptance)) _ _)
          = ⟨.error (.valueError message), (), []⟩) ∧
    (ValidKeyFiles config files ∧ Char.ofNat 0 ∈ config.tunName.toList →
      (main P documents path files input () :
        Outcome PyError (DescriptorEffect (ServerEffect τ Acceptance)) _ _)
          = ⟨.error (.valueError "TUN interface name must contain 1 to 15 ASCII bytes"), (),
            [.opened .socket, .closed .socket]⟩) := by
  have hvalid := loadServerConfig_ok hload
  obtain ⟨-, ⟨hne, name, hencode, hlength⟩, hmtu, -⟩ := validate_ok hvalid
  have htun := newTunDevice_of_encodeAscii hne hencode hlength
  obtain ⟨hregistry, hrefused⟩ := loadRegistry_spec hvalid files
  refine ⟨?_, ?_, ?_⟩
  · rintro ⟨hfiles, hnul⟩
    obtain ⟨registry, hloaded, hconfigures⟩ := hregistry hfiles
    refine ⟨registry, hconfigures, ?_⟩
    rw [main_of_loaded hload hloaded, openAndServe_of_answers hinput hmtu]
    intro answer
    rw [htun, if_neg hnul]
  · intro hfiles
    obtain ⟨message, hmessage⟩ := hrefused hfiles
    refine ⟨message, ?_⟩
    unfold main
    rw [hload, ofExcept_ok, pure_bind, hmessage]
    rfl
  · rintro ⟨hfiles, hnul⟩
    obtain ⟨registry, hloaded, -⟩ := hregistry hfiles
    have hname : ∀ answer, MatfVpn.newTunDevice config.tunName answer
        = .error (.valueError "TUN interface name must contain 1 to 15 ASCII bytes") := by
      intro answer
      rw [htun, if_pos hnul]
    rw [main_of_loaded hload hloaded, openAndServe_of_refused hinput hname]
    rfl

/-- The configuration of a server with one client. -/
def sampleServerDocuments : Documents := fun _ => .ok (.object
  [("tun_address", .string "10.8.0.1/24"), ("bind", .string "192.0.2.1:51820"),
    ("private_key_file", .string "server.key"),
    ("clients", .array [.object
      [("name", .string "laptop"), ("tunnel_address", .string "10.8.0.2"),
        ("public_key_file", .string "laptop.pub")]])])

/-- Its directory. -/
def sampleServerPath : PosixPath := .ofText "/etc/matf-vpn/server.json".toList

/-- What is loaded of it. -/
def sampleServerConfig : MultiClientServerConfig :=
  (loadServerConfig sampleServerDocuments sampleServerPath).toOption.get (by decide +kernel)

/-- Files with keys. -/
def sampleServerFiles : KeyFiles :=
  fun _ => some ⟨0o600, some (String.ofList (List.replicate 64 '7') ++ "\n")⟩

/-- Surroundings that take everything. -/
def sampleServerInput (inputs : List ServerInput) : ServerProcessInput Unit where
  udp := ⟨none, fun _ => none, fun _ => none, none⟩
  tun := ⟨none, .ok [109, 118, 112, 110, 48, 0], none⟩
  ipAddress := none
  ipLink := none
  iterations := inputs

theorem sampleServerFiles_valid : ValidKeyFiles sampleServerConfig sampleServerFiles := by
  have hclients : ∀ client ∈ sampleServerConfig.clients,
      (loadX25519PublicKey sampleServerFiles client.publicKeyFile).toOption.isSome := by
    decide +kernel
  refine ⟨⟨_, eq_ok_get (by decide +kernel)⟩, fun client hclient => ?_⟩
  exact ⟨_, eq_ok_get (hclients client hclient)⟩

/-- A client that sends its hello. -/
def sampleServed : List ServerInput := [sampleArrival (sampleHelloData 0) (sampleSource 0)]

/-- The process with its key files. -/
theorem main_starts_iff_sample :
    ∃ registry, Configures sampleServerConfig sampleServerFiles registry ∧
      main sample sampleServerDocuments sampleServerPath sampleServerFiles
          (sampleServerInput sampleServed) () =
        ⟨exitCode (serve (τ := Unit) sample registry sampleServed ()).result, (),
          opening sampleServerConfig "mvpn0" ++
            ((serve (τ := Unit) sample registry sampleServed ()).trace.map .effect ++
              [.closed .tunDevice, .closed .socket])⟩ :=
  (main_starts_iff (eq_ok_get _) ⟨rfl, by decide +kernel, rfl, rfl, rfl, rfl⟩).1
    ⟨sampleServerFiles_valid, by decide +kernel⟩

end MultiServerCli

end MatfVpn
