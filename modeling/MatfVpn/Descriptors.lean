/-
# The descriptors of a process (`transport.py`, `tun.py`, `network.py`)

A process opens a socket and a TUN device, configures the device and closes both.  Any call of the
surroundings may raise, the closing of a descriptor as well.

* `Descriptors.withUdpTransport`, `Descriptors.withTunDevice` : the two `with` statements;
* `Descriptors.newUdpTransport_erases`, `Descriptors.newTunDevice_erases`,
  `Descriptors.configureTun_erases` : what is left of the calls without their effects.
-/
import MatfVpn.Endpoint
import MatfVpn.Lib.Brackets

namespace MatfVpn

open Program

/-! ## Descriptors -/

/-- A descriptor of the operating system. -/
inductive Descriptor where
  | socket
  | tunDevice
  deriving DecidableEq

/-- What a process does, with its descriptors and the commands of `configure_tun`. -/
inductive DescriptorEffect (ω : Type) where
  | opened (d : Descriptor)
  | closed (d : Descriptor)
  /-- A constructor raises after it has opened the descriptor, which no code closes. -/
  | lost (d : Descriptor)
  /-- `subprocess.run(arguments, check=True)`. -/
  | command (arguments : List String)
  | effect (e : ω)
  deriving DecidableEq

namespace DescriptorEffect

variable {ω : Type}

/-- The effect of a process without descriptors. -/
def effect? : DescriptorEffect ω → Option ω
  | effect e => some e
  | _ => none

/-- What the effect means for the descriptors. -/
def event? (uses? : ω → Option (ResourceEvent Descriptor)) :
    DescriptorEffect ω → Option (ResourceEvent Descriptor)
  | opened d => some (.acquire d)
  | closed d => some (.release d)
  | lost d => some (.abandon d)
  | command _ => some (.use [.tunDevice])
  | effect e => uses? e

end DescriptorEffect

/-! ## Answers -/

/-- What the operating system answers to a UDP transport. -/
structure UdpAnswers (τ : Type) where
  socket : Option PyError
  bind : Address → Option PyError
  settimeout : Option τ → Option PyError
  close : Option PyError

/-- What the kernel answers to a TUN device. -/
structure TunAnswers where
  open_ : Option PyError
  ioctl : Except PyError Bytes
  close : Option PyError

namespace UdpAnswers

variable {τ : Type}

/-- The exception of `bind` or of `settimeout`. -/
def setupFailure (answers : UdpAnswers τ) (localAddress : Address) (timeout : Option τ) :
    Option PyError := (answers.bind localAddress).or (answers.settimeout timeout)

/-- The exception of the constructor. -/
def failure (answers : UdpAnswers τ) (localAddress : Address) (timeout : Option τ) :
    Option PyError := answers.socket.or (answers.setupFailure localAddress timeout)

/-- The constructor raises after it has opened the socket. -/
def Loses (answers : UdpAnswers τ) (localAddress : Address) (timeout : Option τ) : Prop :=
  answers.socket = none ∧ ∃ e, answers.setupFailure localAddress timeout = some e

end UdpAnswers

/-- `data.decode("ascii")`. -/
def decodeAscii (data : Bytes) : Except PyError String :=
  if data.all fun byte => byte.toNat < 128 then
    .ok (String.ofList (data.map fun byte => Char.ofNat byte.toNat))
  else .error (.valueError "'ascii' codec can't decode byte")

namespace TunAnswers

/-- `response[:IFNAMSIZ].split(b"\x00", 1)[0].decode("ascii")`. -/
def responseName (response : Bytes) : Except PyError String :=
  decodeAscii ((response.take 16).takeWhile (· ≠ 0))

/-- The name that the kernel gives the TUN device, or the exception of its creation. -/
def result (answers : TunAnswers) : Except PyError String :=
  match answers.open_ with
  | some e => .error e
  | none =>
      match answers.ioctl with
      | .error e => .error (answers.close.getD e)
      | .ok response => responseName response

/-- The constructor raises after it has created the device: the name is no text. -/
def Loses (answers : TunAnswers) : Prop :=
  answers.open_ = none ∧
    ∃ response e, answers.ioctl = .ok response ∧ responseName response = .error e

end TunAnswers

/-! ## Constructors -/

namespace Descriptors

section constructors

variable {τ ω σ : Type}

/-- The `close` of a descriptor. -/
def close (d : Descriptor) (failure : Option PyError) :
    Program PyError (DescriptorEffect ω) σ Unit := do
  emit (.closed d)
  raises failure

/-- `UdpTransport(local_address, timeout)`. -/
def newUdpTransport (localAddress : Address) (timeout : Option τ) (answers : UdpAnswers τ) :
    Program PyError (DescriptorEffect ω) σ Unit := do
  raises answers.socket
  emit (.opened .socket)
  match answers.setupFailure localAddress timeout with
  | none => return ()
  | some e => do
      -- the constructor has no handler, so nothing closes the socket
      emit (.lost .socket)
      raise e

/-- `TunDevice(name)`. -/
def newTunDevice (name : String) (answers : TunAnswers) :
    Program PyError (DescriptorEffect ω) σ String := do
  let encodedName ← ofExcept (encodeAscii name)
  if encodedName = [] ∨ encodedName.length ≥ 16 ∨ (0 : UInt8) ∈ encodedName then
    raise (.valueError "TUN interface name must contain 1 to 15 ASCII bytes")
  else do
    raises answers.open_
    emit (.opened .tunDevice)
    match answers.ioctl with
    | .error e => do
        -- `except BaseException`: a failing `close` replaces the exception of `ioctl`
        close .tunDevice answers.close
        raise e
    | .ok response =>
        match TunAnswers.responseName response with
        | .ok tunName => return tunName
        | .error e => do
            -- the name is decoded after the handler of `ioctl`
            emit (.lost .tunDevice)
            raise e

/-- `with UdpTransport(local_address, timeout)`. -/
def withUdpTransport {α : Type} (localAddress : Address) (timeout : Option τ)
    (answers : UdpAnswers τ) (body : Program PyError (DescriptorEffect ω) σ α) :
    Program PyError (DescriptorEffect ω) σ α :=
  within (newUdpTransport localAddress timeout answers) (close .socket answers.close)
    fun _ => body

/-- `with TunDevice(name)`. -/
def withTunDevice {α : Type} (name : String) (answers : TunAnswers)
    (body : String → Program PyError (DescriptorEffect ω) σ α) :
    Program PyError (DescriptorEffect ω) σ α :=
  within (newTunDevice name answers) (close .tunDevice answers.close) body

/-- `configure_tun`. -/
def configureTun (name address : String) (mtu : ℤ) (ipAddress ipLink : Option PyError) :
    Program PyError (DescriptorEffect ω) σ Unit :=
  if ¬ (576 ≤ mtu ∧ mtu ≤ 65535) then raise (.valueError "MTU must be between 576 and 65535")
  else do
    emit (.command ["ip", "address", "add", address, "dev", name])
    raises ipAddress
    emit (.command ["ip", "link", "set", "dev", name, "mtu", toString mtu, "up"])
    raises ipLink

/-! ### Calls that succeed -/

theorem close_of_answers (d : Descriptor) {failure : Option PyError} (h : failure = none) (s : σ) :
    (close d failure : Program PyError (DescriptorEffect ω) σ Unit) s
      = ⟨.ok (), s, [.closed d]⟩ := by
  rw [h]
  rfl

theorem newUdpTransport_of_answers {localAddress : Address} {timeout : Option τ}
    {answers : UdpAnswers τ} (h : answers.failure localAddress timeout = none) (s : σ) :
    (newUdpTransport localAddress timeout answers : Program PyError (DescriptorEffect ω) σ Unit) s
      = ⟨.ok (), s, [.opened .socket]⟩ := by
  obtain ⟨hsocket, hsetup⟩ := Option.or_eq_none_iff.1 h
  unfold newUdpTransport
  rw [hsocket, hsetup]
  rfl

theorem newTunDevice_of_answers {name tunName : String} {answers : TunAnswers}
    (hname : ∀ answer, MatfVpn.newTunDevice name answer = answer)
    (h : answers.result = .ok tunName) (s : σ) :
    (newTunDevice name answers : Program PyError (DescriptorEffect ω) σ String) s
      = ⟨.ok tunName, s, [.opened .tunDevice]⟩ := by
  obtain ⟨encodedName, hencode, htaken⟩ := except_bind_eq_ok.1 (hname (.ok tunName))
  obtain ⟨hshort, -⟩ := ite_error_eq_ok.1 htaken
  unfold TunAnswers.result at h
  unfold newTunDevice
  rw [hencode, ofExcept_ok, pure_bind, if_neg hshort]
  cases hopen : answers.open_ with
  | some e =>
    rw [hopen] at h
    cases h
  | none =>
    cases hioctl : answers.ioctl with
    | error e =>
      rw [hopen, hioctl] at h
      cases h
    | ok response =>
      rw [hopen, hioctl] at h
      dsimp only at h ⊢
      rw [h]
      rfl

/-- A name that the constructor refuses opens nothing. -/
theorem newTunDevice_of_refused {name : String} {e : PyError} (answers : TunAnswers)
    (hname : ∀ answer, MatfVpn.newTunDevice name answer = .error e) (s : σ) :
    (newTunDevice name answers : Program PyError (DescriptorEffect ω) σ String) s
      = ⟨.error e, s, []⟩ := by
  have hrefused := hname (.ok "")
  unfold MatfVpn.newTunDevice at hrefused
  unfold newTunDevice
  cases hencode : encodeAscii name with
  | error e' =>
    rw [hencode] at hrefused
    rw [Except.error.inj hrefused]
    rfl
  | ok encodedName =>
    rw [hencode] at hrefused
    change (if _ then _ else _) = _ at hrefused
    rw [ofExcept_ok, pure_bind]
    split at hrefused
    · rename_i hbad
      rw [if_pos hbad, Except.error.inj hrefused]
      rfl
    · cases hrefused

theorem configureTun_of_answers {tunName address : String} {mtu : ℤ}
    (hmtu : 576 ≤ mtu ∧ mtu ≤ 65535) (s : σ) :
    (configureTun tunName address mtu none none : Program PyError (DescriptorEffect ω) σ Unit) s
      = ⟨.ok (), s, [.command ["ip", "address", "add", address, "dev", tunName],
        .command ["ip", "link", "set", "dev", tunName, "mtu", toString mtu, "up"]]⟩ := by
  rw [configureTun, if_neg (not_not.2 hmtu)]
  rfl

/-- A body with a socket that is opened and closed. -/
theorem withUdpTransport_of_answers {α : Type} {localAddress : Address} {timeout : Option τ}
    {answers : UdpAnswers τ} (h : answers.failure localAddress timeout = none)
    (hclose : answers.close = none) {body : Program PyError (DescriptorEffect ω) σ α} {s s' : σ}
    {r : Except PyError α} {t : List (DescriptorEffect ω)} (hbody : body s = ⟨r, s', t⟩) :
    withUdpTransport localAddress timeout answers body s
      = ⟨r, s', .opened .socket :: (t ++ [.closed .socket])⟩ :=
  within_of_ok (newUdpTransport_of_answers h s) (show (fun _ : Unit => body) () s = _ from hbody)
    (close_of_answers .socket hclose s')

/-- A body with a TUN device that is opened and closed. -/
theorem withTunDevice_of_answers {α : Type} {name tunName : String} {answers : TunAnswers}
    (hname : ∀ answer, MatfVpn.newTunDevice name answer = answer)
    (h : answers.result = .ok tunName) (hclose : answers.close = none)
    {body : String → Program PyError (DescriptorEffect ω) σ α} {s s' : σ}
    {r : Except PyError α} {t : List (DescriptorEffect ω)} (hbody : body tunName s = ⟨r, s', t⟩) :
    withTunDevice name answers body s
      = ⟨r, s', .opened .tunDevice :: (t ++ [.closed .tunDevice])⟩ :=
  within_of_ok (newTunDevice_of_answers hname h s) hbody (close_of_answers .tunDevice hclose s')

end constructors

/-! ## Without the descriptors -/

section erasure

variable {τ ω ω' σ : Type}

/-- What a process does with its descriptors is not visible. -/
structure Hides (visible : DescriptorEffect ω → Option ω') : Prop where
  opened : ∀ d, visible (.opened d) = none
  closed : ∀ d, visible (.closed d) = none
  lost : ∀ d, visible (.lost d) = none
  command : ∀ arguments, visible (.command arguments) = none

theorem hides_effect? : Hides (DescriptorEffect.effect? (ω := ω)) where
  opened _ := rfl
  closed _ := rfl
  lost _ := rfl
  command _ := rfl

theorem raises_erases (visible : ω → Option ω') (failure : Option PyError) :
    Erases visible (raises failure : Program PyError ω σ Unit) (raises failure) := by
  cases failure with
  | none => exact .pure ()
  | some e => exact .raise e

theorem trace_raises (failure : Option PyError) (s : σ) :
    (raises failure s : Outcome PyError ω σ Unit).trace = [] := by
  cases failure with
  | none => rfl
  | some e => rfl

variable {visible : DescriptorEffect ω → Option ω'}

theorem close_erases (h : Hides visible) (d : Descriptor) (failure : Option PyError) :
    Erases visible (close d failure : Program PyError (DescriptorEffect ω) σ Unit)
      (raises failure) := .hidden_bind (h.closed d) (raises_erases _ failure)

/-- A descriptor is closed before an exception goes on. -/
theorem close_raise_erases (h : Hides visible) {α : Type} (d : Descriptor)
    (failure : Option PyError) (e : PyError) :
    Erases visible
      (close d failure >>= fun _ => raise e : Program PyError (DescriptorEffect ω) σ α)
      (raise (failure.getD e)) := by
  unfold close
  rw [bind_assoc]
  refine Erases.hidden_bind (h.closed d) ?_
  cases failure with
  | none => exact .raise e
  | some e' => exact .raise e'

theorem newUdpTransport_erases (h : Hides visible) (localAddress : Address) (timeout : Option τ)
    (answers : UdpAnswers τ) :
    Erases visible
      (newUdpTransport localAddress timeout answers : Program PyError (DescriptorEffect ω) σ Unit)
      (raises (answers.failure localAddress timeout)) := by
  unfold newUdpTransport UdpAnswers.failure
  cases answers.socket with
  | some e => exact .raise e
  | none =>
    simp only [raises, pure_bind, Option.none_or]
    refine Erases.hidden_bind (h.opened .socket) ?_
    cases answers.setupFailure localAddress timeout with
    | none => exact .pure ()
    | some e => exact Erases.hidden_bind (h.lost .socket) (.raise e)

theorem newTunDevice_erases (h : Hides visible) (name : String) (answers : TunAnswers) :
    Erases visible
      (newTunDevice name answers : Program PyError (DescriptorEffect ω) σ String)
      (ofExcept (MatfVpn.newTunDevice name answers.result)) := by
  unfold newTunDevice MatfVpn.newTunDevice
  cases encodeAscii name with
  | error e => exact .raise e
  | ok encodedName =>
    simp only [ofExcept_ok, pure_bind]
    show Erases _ _ (ofExcept (if _ then _ else answers.result))
    split
    · exact .raise _
    · unfold TunAnswers.result
      cases answers.open_ with
      | some e => exact .raise e
      | none =>
        simp only [raises, pure_bind]
        refine Erases.hidden_bind (h.opened .tunDevice) ?_
        cases answers.ioctl with
        | error e => exact close_raise_erases h .tunDevice answers.close e
        | ok response =>
          dsimp only
          cases TunAnswers.responseName response with
          | ok tunName => exact .pure tunName
          | error e => exact Erases.hidden_bind (h.lost .tunDevice) (.raise e)

theorem configureTun_erases (h : Hides visible) (name address : String) (mtu : ℤ)
    (ipAddress ipLink : Option PyError) :
    Erases visible (configureTun name address mtu ipAddress ipLink :
        Program PyError (DescriptorEffect ω) σ Unit)
      (ofExcept (MatfVpn.configureTun mtu ipAddress ipLink)) := by
  unfold configureTun MatfVpn.configureTun
  split
  · exact .raise _
  · refine Erases.hidden_bind (h.command _) ?_
    cases ipAddress with
    | some e => exact .raise e
    | none =>
      simp only [raises, pure_bind]
      refine Erases.hidden_bind (h.command _) ?_
      cases ipLink with
      | some e => exact .raise e
      | none => exact .pure ()

/-- A socket that can be closed. -/
theorem withUdpTransport_erases (h : Hides visible) {α : Type} {localAddress : Address}
    {timeout : Option τ} {answers : UdpAnswers τ} (hclose : answers.close = none)
    {body : Program PyError (DescriptorEffect ω) σ α} {body' : Program PyError ω' σ α}
    (hbody : Erases visible body body') :
    Erases visible (withUdpTransport localAddress timeout answers body)
      (raises (answers.failure localAddress timeout) >>= fun _ => body') :=
  Erases.within (newUdpTransport_erases h _ _ answers)
    (by rw [hclose]; exact close_erases h .socket none) fun _ => hbody

/-- A TUN device that can be closed. -/
theorem withTunDevice_erases (h : Hides visible) {α : Type} {name : String}
    {answers : TunAnswers} (hclose : answers.close = none)
    {body : String → Program PyError (DescriptorEffect ω) σ α}
    {body' : String → Program PyError ω' σ α}
    (hbody : ∀ tunName, Erases visible (body tunName) (body' tunName)) :
    Erases visible (withTunDevice name answers body)
      (ofExcept (MatfVpn.newTunDevice name answers.result) >>= body') :=
  Erases.within (newTunDevice_erases h _ answers)
    (by rw [hclose]; exact close_erases h .tunDevice none) hbody

end erasure

/-- An exception of the surroundings, or none. -/
theorem triple_raises {ω σ : Type} {I J : σ → List ω → Prop} (hraises : ∀ s t, I s t → J s t)
    (failure : Option PyError) :
    Triple I (raises failure : Program PyError ω σ Unit) (fun _ => I) J := by
  cases failure with
  | none => exact Triple.pure fun _ _ h => h
  | some e => exact Triple.raise hraises e

end Descriptors

end MatfVpn
