/-
# Descriptors are used only while they are open

In every run of an endpoint or of the server, whatever raises and whenever, the socket and the
TUN device are opened and closed in nested order and are used only while they are open.  What is
left open is what a constructor has opened before it raised.

* `Descriptors.endpoint_descriptors`, `Descriptors.server_descriptors` : the runs.
-/
import MatfVpn.ServerProcess
import MatfVpn.TruthfulLog

namespace MatfVpn

open Program
open ResourceEvent (Leads)

/-! ## Uses -/

/-- The descriptors that the effect of an endpoint or of the server uses. -/
def Effect.uses? {τ : Type} : Effect τ → Option (ResourceEvent Descriptor)
  | crypto _ => none
  | select _ => some (.use [.tunDevice, .socket])
  | send _ _ _ => some (.use [.socket])
  | receive _ _ => some (.use [.socket])
  | write _ => some (.use [.tunDevice])

/-- Those of a process with a log: the record of a session reads the address of the socket, and
the process rests at every other record and while it sleeps. -/
def LoggedEffect.uses? {τ : Type} : LoggedEffect τ → Option (ResourceEvent Descriptor)
  | session (.effect e) => e.uses?
  | session (.derived _) => none
  | log (.sessionEstablished _ _ _ _) => some (.use [.socket])
  | log (.reconnectScheduled _ _ _) => some .rest
  | log .endpointStopped => some .rest
  | sleep _ => some .rest

/-- Those of the server. -/
def ServerEffect.uses? {τ ν : Type} : ServerEffect τ ν → Option (ResourceEvent Descriptor)
  | effect e => e.uses?
  | deliver _ _ => none
  | note _ => none

/-- A constructor of the session raises after it has opened the descriptor. -/
def LoggedInput.Loses {τ : Type} (options : EndpointConfig τ) (input : LoggedInput τ) :
    Descriptor → Prop
  | .socket => input.udp.Loses options.bind (Logged.transportTimeout options)
  | .tunDevice => input.tun.Loses

/-- A constructor of the server raises after it has opened the descriptor. -/
def ServerProcessInput.Loses {τ : Type} (config : MultiClientServerConfig)
    (input : ServerProcessInput τ) : Descriptor → Prop
  | .socket => input.udp.Loses config.bind none
  | .tunDevice => input.tun.Loses

namespace Descriptors

/-! ## Constructors -/

section constructors

variable {τ ω σ α : Type} {uses? : ω → Option (ResourceEvent Descriptor)}
  {abandons : Descriptor → Prop} {held : List Descriptor}

theorem close_closes (held : List Descriptor) (d : Descriptor) (failure : Option PyError) :
    Closes (DescriptorEffect.event? uses?) abandons held d
      (close d failure : Program PyError (DescriptorEffect ω) σ Unit) := by
  intro s
  cases failure with
  | none => exact ResourceEvent.leads_release d
  | some e => exact ResourceEvent.leads_release d

theorem newUdpTransport_opens (h : .socket ∉ held) {localAddress : Address} {timeout : Option τ}
    {answers : UdpAnswers τ} (hloses : answers.Loses localAddress timeout → abandons .socket) :
    Opens (DescriptorEffect.event? uses?) abandons held .socket
      (newUdpTransport localAddress timeout answers :
        Program PyError (DescriptorEffect ω) σ Unit) := by
  intro s
  unfold newUdpTransport
  cases hsocket : answers.socket with
  | some e => exact Leads.nil
  | none =>
    simp only [raises, pure_bind, wp_emit_bind]
    cases hsetup : answers.setupFailure localAddress timeout with
    | none => exact ResourceEvent.leads_acquire h
    | some e =>
      exact (ResourceEvent.leads_acquire h).cons
        (ResourceEvent.leads_abandon (hloses ⟨hsocket, e, hsetup⟩))

theorem newTunDevice_opens (h : .tunDevice ∉ held) (name : String) {answers : TunAnswers}
    (hloses : answers.Loses → abandons .tunDevice) :
    Opens (DescriptorEffect.event? uses?) abandons held .tunDevice
      (newTunDevice name answers : Program PyError (DescriptorEffect ω) σ String) := by
  intro s
  unfold newTunDevice
  cases encodeAscii name with
  | error e => exact Leads.nil
  | ok encodedName =>
    simp only [ofExcept_ok, pure_bind]
    split
    · exact Leads.nil
    cases hopen : answers.open_ with
    | some e => exact Leads.nil
    | none =>
      simp only [raises, pure_bind, wp_emit_bind]
      have hacquire : Leads abandons held (.tunDevice :: held) [.acquire .tunDevice] :=
        ResourceEvent.leads_acquire h
      cases hioctl : answers.ioctl with
      | error e =>
        -- `self.close()` comes before the exception goes on
        unfold close
        simp only [bind_assoc, wp_emit_bind]
        cases answers.close with
        | none => exact hacquire.cons (ResourceEvent.leads_release Descriptor.tunDevice)
        | some e' => exact hacquire.cons (ResourceEvent.leads_release Descriptor.tunDevice)
      | ok response =>
        dsimp only
        cases hname : TunAnswers.responseName response with
        | ok tunName => exact hacquire
        | error e =>
          exact hacquire.cons
            (ResourceEvent.leads_abandon (hloses ⟨hopen, response, e, hioctl, hname⟩))

theorem withUdpTransport_nested (h : .socket ∉ held) {localAddress : Address}
    {timeout : Option τ} {answers : UdpAnswers τ}
    (hloses : answers.Loses localAddress timeout → abandons .socket)
    {body : Program PyError (DescriptorEffect ω) σ α}
    (hbody : Nested (DescriptorEffect.event? uses?) abandons (.socket :: held) body) :
    Nested (DescriptorEffect.event? uses?) abandons held
      (withUdpTransport localAddress timeout answers body) :=
  .within (newUdpTransport_opens h hloses) (close_closes held _ _) fun _ => hbody

theorem withTunDevice_nested (h : .tunDevice ∉ held) {name : String} {answers : TunAnswers}
    (hloses : answers.Loses → abandons .tunDevice)
    {body : String → Program PyError (DescriptorEffect ω) σ α}
    (hbody : ∀ tunName,
      Nested (DescriptorEffect.event? uses?) abandons (.tunDevice :: held) (body tunName)) :
    Nested (DescriptorEffect.event? uses?) abandons held (withTunDevice name answers body) :=
  .within (newTunDevice_opens h name hloses) (close_closes held _ _) hbody

theorem raises_nested (failure : Option PyError) :
    Nested (DescriptorEffect.event? uses?) abandons held
      (raises failure : Program PyError (DescriptorEffect ω) σ Unit) := by
  cases failure with
  | none => exact .pure ()
  | some e => exact .raise e

theorem emit_nested {e : DescriptorEffect ω} (h : ∀ event, e.event? uses? = some event →
      Leads abandons held held [event]) :
    Nested (DescriptorEffect.event? uses?) abandons held
      (emit e : Program PyError (DescriptorEffect ω) σ Unit) :=
  .of_forall fun _ => List.forall_mem_singleton.2 h

/-- Effects of the process that use open descriptors only. -/
theorem lift_nested {ω' : Type} {f : ω' → DescriptorEffect ω} {m : Program PyError ω' σ α}
    (h : ∀ s, wp m s fun _ _ t => ∀ e ∈ t, ∀ event, (f e).event? uses? = some event →
      Leads abandons held held [event]) :
    Nested (DescriptorEffect.event? uses?) abandons held (lift f m) := by
  refine .of_forall fun s => ?_
  rw [wp_lift]
  refine wp_mono (h s) ?_
  intro _ _ t ht w hw event hevent
  obtain ⟨e, he, rfl⟩ := List.mem_map.1 hw
  exact ht e he event hevent

/-- The process rests while it holds no descriptor. -/
theorem rest_nested {e : ω} (h : uses? e = some .rest) :
    Nested (DescriptorEffect.event? uses?) abandons []
      (emit (.effect e) : Program PyError (DescriptorEffect ω) σ Unit) := by
  refine emit_nested fun event hevent => ?_
  rw [DescriptorEffect.event?, h] at hevent
  rw [← Option.some.inj hevent]
  exact ResourceEvent.leads_rest

/-- The commands configure an open device. -/
theorem configureTun_nested (h : .tunDevice ∈ held) (name address : String) (mtu : ℤ)
    (ipAddress ipLink : Option PyError) :
    Nested (DescriptorEffect.event? uses?) abandons held
      (configureTun name address mtu ipAddress ipLink :
        Program PyError (DescriptorEffect ω) σ Unit) := by
  have hcommand : ∀ arguments, Nested (DescriptorEffect.event? uses?) abandons held
      (emit (.command arguments) : Program PyError (DescriptorEffect ω) σ Unit) := by
    intro arguments
    refine emit_nested fun event hevent => ?_
    rw [← Option.some.inj hevent]
    exact ResourceEvent.leads_use (List.forall_mem_singleton.2 h)
  exact .ite _ (.raise _) ((hcommand _).bind fun _ => (raises_nested _).bind fun _ =>
    (hcommand _).bind fun _ => raises_nested _)

end constructors

/-- With both descriptors open an effect uses open ones. -/
theorem uses_of_tunnel {τ : Type} {abandons : Descriptor → Prop} (e : Effect τ)
    (event : ResourceEvent Descriptor) (h : e.uses? = some event) :
    Leads abandons [.tunDevice, .socket] [.tunDevice, .socket] [event] := by
  cases e with
  | crypto call => cases h
  | _ => rw [← Option.some.inj h]; exact ResourceEvent.leads_use (by decide)

/-- The effects of a handshake use the socket only. -/
theorem uses_of_handshake {τ : Type} {abandons : Descriptor → Prop} {e : SessionEffect τ}
    (he : e.isHandshake = true) (event : ResourceEvent Descriptor)
    (h : (LoggedEffect.session e).uses? = some event) :
    Leads abandons [.socket] [.socket] [event] := by
  cases e with
  | derived d => cases h
  | effect e =>
    cases e with
    | crypto call => cases h
    | select timeout => cases he
    | write payload => cases he
    | send plain data destination =>
      rw [← Option.some.inj h]
      exact ResourceEvent.leads_use (by decide)
    | receive data source =>
      rw [← Option.some.inj h]
      exact ResourceEvent.leads_use (by decide)

/-! ## The process of an endpoint -/

section endpoint

variable {τ : Type} [Zero τ] [Add τ] [Sub τ] [LT τ] [LE τ] [DecidableEq τ] [DecidableLT τ]
  [DecidableLE τ] {P : Primitives} {options : EndpointConfig τ} {keys : SessionKeys}
  {files : KeyFiles} {abandons : Descriptor → Prop}

theorem runTunnel_nested (input : LoggedInput τ) (session : ℤ × Option Cipher)
    (tunName : String) :
    Nested (DescriptorEffect.event? LoggedEffect.uses?) abandons [.tunDevice, .socket]
      (Logged.runTunnel P options input session tunName) := by
  refine (configureTun_nested List.mem_cons_self _ _ _ _ _).bind fun _ =>
    (emit_nested ?_).bind fun _ => (Nested.ofExcept _).bind fun engine => lift_nested fun s => ?_
  · intro event h
    rw [← Option.some.inj h]
    exact ResourceEvent.leads_use (by decide)
  · intro w hw event h
    obtain ⟨e, -, rfl⟩ := List.mem_map.1 hw
    exact uses_of_tunnel e event h

theorem runSession_nested {input : LoggedInput τ}
    (hloses : ∀ d, input.Loses options d → abandons d) :
    Nested (DescriptorEffect.event? LoggedEffect.uses?) abandons []
      (Logged.runSession P options keys input) := by
  refine withUdpTransport_nested List.not_mem_nil (hloses .socket) ?_
  refine (lift_nested fun s => ?_).bind fun session =>
    withTunDevice_nested (by decide) (hloses .tunDevice) (runTunnel_nested input session)
  refine wp_mono (establish_handshake options input.toSessionInput keys) ?_
  intro _ _ t ht e he event h
  exact uses_of_handshake (ht e he) event h

theorem reconnect_nested (inputs : List (LoggedInput τ))
    (hloses : ∀ input ∈ inputs, ∀ d, input.Loses options d → abandons d) (attempts : ℕ) :
    Nested (DescriptorEffect.event? LoggedEffect.uses?) abandons []
      (Logged.reconnect P options keys attempts inputs) := by
  have hrest : ∀ e : LoggedEffect τ, e.uses? = some .rest →
      Nested (DescriptorEffect.event? LoggedEffect.uses?) abandons []
        (emit (.effect e) : Program PyError (ProcessEffect τ) Unit Unit) :=
    fun _ => rest_nested
  induction inputs generalizing attempts with
  | nil => exact .pure ()
  | cons input inputs ih =>
    obtain ⟨hinput, hinputs⟩ := List.forall_mem_cons.1 hloses
    refine (runSession_nested hinput).attempt.bind fun result => ?_
    rcases result with e | ⟨⟩
    · refine .ite _ ?_ (.raise e)
      exact (hrest _ rfl).bind fun _ => (hrest _ rfl).bind fun _ =>
        (raises_nested _).bind fun _ => ih hinputs (attempts + 1)
    · exact .pure ()

omit [Zero τ] [Add τ] [Sub τ] [LT τ] [LE τ] [DecidableEq τ] [DecidableLT τ] [DecidableLE τ] in
/-- Keys are loaded by calls into the cryptography package, which use no descriptor. -/
theorem loadKeys_nested :
    Nested (DescriptorEffect.event? LoggedEffect.uses?) abandons []
      (lift DescriptorEffect.session (loadKeys P options files)) := by
  have hcrypto : wp (loadKeys P options files) () fun _ _ t =>
      ∀ e ∈ t, ∃ call, e = (.effect (.crypto call) : SessionEffect τ) := by
    unfold loadKeys
    split
    · exact List.forall_mem_nil _
    split
    · rw [wp_bind, wp_ofExcept]
      cases loadX25519PrivateKey files (options.privateKeyFile.getD "") with
      | error e => exact List.forall_mem_nil _
      | ok staticPrivateKey =>
        simp only
        rw [wp_bind_pure, wp_ofExcept]
        exact List.forall_mem_nil _
    · rw [wp_bind, wp_ofExcept]
      cases loadStaticSecret P options files with
      | error e => exact List.forall_mem_nil _
      | ok secret =>
        simp only
        rw [wp_bind_pure]
        unfold sessionCipher
        rw [wp_lift]
        intro e he
        obtain ⟨call, -, rfl⟩ := List.mem_map.1 he
        exact ⟨call, rfl⟩
  refine lift_nested fun _ => wp_mono hcrypto ?_
  intro _ _ t ht e he event h
  obtain ⟨call, rfl⟩ := ht e he
  cases h

theorem main_nested (inputs : List (LoggedInput τ))
    (hloses : ∀ input ∈ inputs, ∀ d, input.Loses options d → abandons d) :
    Nested (DescriptorEffect.event? LoggedEffect.uses?) abandons []
      (Logged.main P options files inputs) := by
  refine (Nested.ofExcept _).bind fun _ => loadKeys_nested.bind fun keys => ?_
  have hsessions : Nested (DescriptorEffect.event? LoggedEffect.uses?) abandons []
      (Logged.runSessions P options keys inputs) := by
    refine .ite _ (.ite _ (.raise _) (reconnect_nested inputs hloses 0)) ?_
    cases inputs with
    | nil => exact .pure ()
    | cons input inputs => exact runSession_nested (hloses input List.mem_cons_self)
  refine hsessions.attempt.bind fun result => ?_
  rcases result with e | ⟨⟩
  · cases e with
    | keyboardInterrupt => exact (rest_nested rfl).bind fun _ => .pure 0
    | _ => exact .raise _
  · exact .pure 0

/-- **Descriptors of an endpoint.** In every run, with any exceptions, the socket and the TUN
device are opened and closed in nested order, a session uses them only while they are open, and
the process announces a reconnect, sleeps and ends with none in hand; those that are still open
are the ones that a constructor has opened before it raised. -/
theorem endpoint_descriptors (P : Primitives) (options : EndpointConfig τ) (files : KeyFiles)
    (inputs : List (LoggedInput τ)) :
    wp (Logged.main P options files inputs) () fun _ _ t => ∃ left,
      ResourceEvent.run ⟨[], []⟩ (t.filterMap (DescriptorEffect.event? LoggedEffect.uses?))
        = some ⟨[], left⟩ ∧
      ∀ d ∈ left, ∃ input ∈ inputs, input.Loses options d := by
  have hnested : Nested (DescriptorEffect.event? LoggedEffect.uses?)
      (fun d => ∃ input ∈ inputs, input.Loses options d) []
      (Logged.main P options files inputs) :=
    main_nested inputs fun input hinput d hd => ⟨input, hinput, hd⟩
  refine wp_mono (hnested ()) ?_
  intro _ _ t ht
  exact ht [] (List.forall_mem_nil _)

end endpoint

/-! ## The process of the server -/

section server

variable {τ : Type} {P : Primitives} {documents : Documents} {path : PosixPath} {files : KeyFiles}
  {abandons : Descriptor → Prop}

theorem openAndServe_nested {config : MultiClientServerConfig} {registry : ClientRegistry}
    {input : ServerProcessInput τ} (hloses : ∀ d, input.Loses config d → abandons d) :
    Nested (DescriptorEffect.event? ServerEffect.uses?) abandons []
      (MultiServerCli.openAndServe P config registry input) := by
  refine withUdpTransport_nested List.not_mem_nil (hloses .socket)
    (withTunDevice_nested (by decide) (hloses .tunDevice) fun tunName => ?_)
  refine (configureTun_nested List.mem_cons_self _ _ _ _ _).bind fun _ => lift_nested fun s => ?_
  intro e he event h
  cases e with
  | effect e => exact uses_of_tunnel e event h
  | deliver session packet => cases h
  | note n => cases h

/-- **Descriptors of the server.** -/
theorem server_descriptors (P : Primitives) (documents : Documents) (path : PosixPath)
    (files : KeyFiles) (input : ServerProcessInput τ) :
    wp (MultiServerCli.main P documents path files input) () fun _ _ t => ∃ left,
      ResourceEvent.run ⟨[], []⟩ (t.filterMap (DescriptorEffect.event? ServerEffect.uses?))
        = some ⟨[], left⟩ ∧
      ∀ d ∈ left, ∃ config, loadServerConfig documents path = .ok config ∧
        input.Loses config d := by
  have hnested : Nested (DescriptorEffect.event? ServerEffect.uses?)
      (fun d => ∃ config, loadServerConfig documents path = .ok config ∧ input.Loses config d) []
      (MultiServerCli.main P documents path files input) := by
    unfold MultiServerCli.main
    cases hconfig : loadServerConfig documents path with
    | error e => exact fun _ => Leads.nil
    | ok config =>
      rw [ofExcept_ok, pure_bind]
      exact (Nested.ofExcept _).bind fun registry =>
        (openAndServe_nested fun d hd => ⟨config, rfl, hd⟩).attempt.bind fun result =>
          Nested.ofExcept _
  refine wp_mono (hnested ()) ?_
  intro _ _ t ht
  exact ht [] (List.forall_mem_nil _)

end server

end Descriptors

end MatfVpn
