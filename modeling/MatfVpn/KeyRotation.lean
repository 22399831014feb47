/-
# Key rotation without a history (`crypto.RotatingPacketCipher`)

The cache of the rotating cipher cannot be observed: whatever calls came before, a call
gives the result of a `PacketCipher` derived for its epoch on the spot.

* `cipherFor_fresh` : what `_cipher_for` returns, and the cache it leaves;
* `rotation_history_independent` : the results of any sequence of calls.
-/
import MatfVpn.Crypto
import MatfVpn.SamplePrimitives

namespace MatfVpn

open Program

/-! ## A cipher for one epoch -/

/-- The `PacketCipher` derived from a master secret for an epoch, without a cache. -/
def freshCipher {σ : Type} (P : Primitives) (masterSecret : Bytes) (sessionId : ℕ)
    (role : EndpointRole) (epoch : ℕ) : Program PyError CryptoCall σ PacketCipher := do
  let sessionSalt ← ofExcept (intToBytes sessionId 4)
  let epochSalt ← ofExcept (intToBytes epoch 8)
  let epochSecret ← hkdf P 32 (sessionSalt ++ epochSalt) keyRotationContext masterSecret
  PacketCipher.fromPresharedKey P epochSecret sessionId role

theorem stateless_hkdf (P : Primitives) (length : ℕ) (salt info secret : Bytes) :
    Stateless fun σ => (hkdf P length salt info secret : Program PyError CryptoCall σ Bytes) :=
  (Stateless.emit _).bind fun _ => Stateless.pure _

theorem stateless_fromPresharedKey (P : Primitives) (presharedKey : Bytes) (sessionId : ℤ)
    (role : EndpointRole) : Stateless fun σ =>
      (PacketCipher.fromPresharedKey P presharedKey sessionId role :
        Program PyError CryptoCall σ PacketCipher) := by
  unfold PacketCipher.fromPresharedKey
  apply Stateless.ite
  · exact Stateless.raise_bind _ _
  apply Stateless.ite
  · exact Stateless.raise_bind _ _
  apply (Stateless.ofExcept _).bind
  intro salt
  apply (stateless_hkdf _ _ _ _ _).bind
  intro keyMaterial
  cases role with
  | client => exact Stateless.ofExcept _
  | server => exact Stateless.ofExcept _

theorem stateless_freshCipher (P : Primitives) (masterSecret : Bytes) (sessionId : ℕ)
    (role : EndpointRole) (epoch : ℕ) : Stateless fun σ =>
      (freshCipher P masterSecret sessionId role epoch :
        Program PyError CryptoCall σ PacketCipher) := by
  apply (Stateless.ofExcept _).bind
  intro sessionSalt
  apply (Stateless.ofExcept _).bind
  intro epochSalt
  apply (stateless_hkdf _ _ _ _ _).bind
  intro epochSecret
  exact stateless_fromPresharedKey _ _ _ _

/-- `PacketCipher.encrypt` does not depend on a state. -/
theorem stateless_packetCipher_encrypt (P : Primitives) (cipher : PacketCipher)
    (packet : Packet) : Stateless fun σ =>
      (cipher.encrypt P packet : Program PyError CryptoCall σ Packet) := by
  unfold PacketCipher.encrypt
  apply Stateless.ite
  · exact Stateless.raise_bind _ _
  apply (Stateless.ofExcept _).bind
  intro iv
  apply (Stateless.ofExcept _).bind
  intro header
  exact (Stateless.emit _).bind fun _ => Stateless.pure _

/-- `PacketCipher.decrypt` does not depend on a state. -/
theorem stateless_packetCipher_decrypt (P : Primitives) (cipher : PacketCipher)
    (packet : Packet) : Stateless fun σ =>
      (cipher.decrypt P packet : Program PyError CryptoCall σ Packet) := by
  unfold PacketCipher.decrypt
  apply (Stateless.ofExcept _).bind
  intro iv
  apply (Stateless.ofExcept _).bind
  intro header
  cases P.aesGcmDecrypt cipher.receiveKey iv packet.payload header with
  | none => exact Stateless.raise _
  | some plaintext => exact Stateless.pure _

/-! ## The cache -/

namespace RotatingPacketCipher

/-- The cipher derived for an epoch from the parameters of a rotating cipher. -/
def fresh {σ : Type} (P : Primitives) (cipher : RotatingPacketCipher) (epoch : ℕ) :
    Program PyError CryptoCall σ PacketCipher :=
  freshCipher P cipher.masterSecret cipher.sessionId cipher.role epoch

/-- The cache holds at most two ciphers, each the one derived for the epoch it is stored
under. -/
structure CacheSound (P : Primitives) (cipher : RotatingPacketCipher) : Prop where
  size_le : cipher.ciphers.size ≤ 2
  stored : ∀ epoch c, cipher.ciphers.get? epoch = some c →
    (cipher.fresh P epoch ()).result = .ok c

/-- The parameters given to the constructor. -/
def SameParameters (cipher cipher' : RotatingPacketCipher) : Prop :=
  cipher'.masterSecret = cipher.masterSecret ∧ cipher'.sessionId = cipher.sessionId ∧
    cipher'.role = cipher.role ∧ cipher'.packetsPerKey = cipher.packetsPerKey

theorem SameParameters.trans {c₁ c₂ c₃ : RotatingPacketCipher} (h : SameParameters c₁ c₂)
    (h' : SameParameters c₂ c₃) : SameParameters c₁ c₃ := by
  obtain ⟨hm, hs, hr, hp⟩ := h
  obtain ⟨hm', hs', hr', hp'⟩ := h'
  exact ⟨hm'.trans hm, hs'.trans hs, hr'.trans hr, hp'.trans hp⟩

/-- A fresh cipher depends on the parameters only. -/
theorem fresh_congr {P : Primitives} {cipher cipher' : RotatingPacketCipher}
    (h : SameParameters cipher cipher') (epoch : ℕ) :
    (cipher'.fresh P epoch : Program PyError CryptoCall Unit PacketCipher)
      = cipher.fresh P epoch := by
  obtain ⟨hm, hs, hr, -⟩ := h
  rw [fresh, fresh, hm, hs, hr]

/-- A new cipher has an empty cache. -/
theorem cacheSound_of_new {P : Primitives} {masterSecret : Bytes} {sessionId : ℤ}
    {role : EndpointRole} {packetsPerKey : ℤ} {cipher : RotatingPacketCipher}
    (h : new masterSecret sessionId role packetsPerKey = .ok cipher) :
    cipher.CacheSound P ∧ cipher.masterSecret = masterSecret ∧
      cipher.sessionId = sessionId.toNat ∧ cipher.role = role ∧
      cipher.packetsPerKey = packetsPerKey.toNat := by
  unfold new at h
  split at h
  · cases h
  split at h
  · cases h
  split at h
  · cases h
  obtain rfl := Except.ok.inj h
  refine ⟨⟨?_, ?_⟩, rfl, rfl, rfl, rfl⟩
  · exact Nat.zero_le 2
  · intro epoch c hget
    cases hget

/-- The cipher after a miss: the derived cipher is stored for its epoch. -/
def remember (cipher : RotatingPacketCipher) (epoch : ℕ) (c : PacketCipher) :
    RotatingPacketCipher :=
  { cipher with ciphers := LruCache.store rotationCipherCacheSize cipher.ciphers epoch c }

/-- A miss derives the cipher of the epoch and stores it. -/
theorem cipherFor_of_miss {P : Primitives} {cipher : RotatingPacketCipher} {n : ℕ}
    (hget : cipher.ciphers.get? (cipher.epochFor n) = none) :
    wp (cipherFor P n) cipher = wp (cipher.fresh P (cipher.epochFor n) >>= fun c => do
      update fun self => self.remember (cipher.epochFor n) c
      return c) cipher := by
  funext Q
  unfold cipherFor fresh freshCipher
  rw [wp_read_bind]
  simp only [hget, Program.bind_assoc]
  rfl

/-- **`_cipher_for`.** It returns what a fresh derivation returns, and the cache stays
sound. -/
theorem cipherFor_fresh {P : Primitives} {cipher : RotatingPacketCipher}
    (h : cipher.CacheSound P) (n : ℕ) :
    wp (cipherFor P n) cipher (fun r cipher' _ =>
      r = (cipher.fresh P (cipher.epochFor n) ()).result ∧ cipher'.CacheSound P ∧
        SameParameters cipher cipher') := by
  cases hget : cipher.ciphers.get? (cipher.epochFor n) with
  | some c =>
      -- a hit: the stored cipher is the one derived for this epoch
      unfold cipherFor
      rw [wp_read_bind]
      simp only [hget]
      rw [wp_update_bind, wp_pure]
      have hmem : cipher.epochFor n ∈ cipher.ciphers.keys :=
        (OrderedDict.mem_keys_iff _ _).2 ⟨c, hget⟩
      refine ⟨(h.stored _ c hget).symm, ⟨?_, ?_⟩, rfl, rfl, rfl, rfl⟩
      · show (LruCache.touch cipher.ciphers (cipher.epochFor n)).size ≤ 2
        rw [LruCache.size_touch hmem]
        exact h.size_le
      · exact LruCache.Memo.touch h.stored (cipher.epochFor n)
  | none =>
      have hstateless := stateless_freshCipher P cipher.masterSecret cipher.sessionId cipher.role
        (cipher.epochFor n)
      have hrun : cipher.fresh P (cipher.epochFor n) cipher
          = ⟨(cipher.fresh P (cipher.epochFor n) ()).result, cipher,
            (cipher.fresh P (cipher.epochFor n) ()).trace⟩ := hstateless.run_eq cipher ()
      have hnot : cipher.epochFor n ∉ cipher.ciphers.keys :=
        (OrderedDict.get?_eq_none_iff _ _).1 hget
      rw [cipherFor_of_miss hget, wp_bind, wp, hrun]
      simp only
      cases hfresh : (cipher.fresh P (cipher.epochFor n) ()).result with
      | error e => exact ⟨rfl, h, rfl, rfl, rfl, rfl⟩
      | ok c =>
          simp only
          rw [wp_update_bind, wp_pure]
          refine ⟨rfl, ⟨?_, ?_⟩, rfl, rfl, rfl, rfl⟩
          · exact LruCache.size_store_le c hnot h.size_le
          · exact LruCache.Memo.store h.stored rotationCipherCacheSize hfresh

/-! ## Sequences of calls -/

/-- A call of a cipher object. -/
inductive Call where
  | encrypt (packet : Packet)
  | decrypt (packet : Packet)

/-- The packet of a call. -/
def Call.packet : Call → Packet
  | encrypt packet => packet
  | decrypt packet => packet

/-- A call of the rotating cipher. -/
def call (P : Primitives) : Call → Program PyError CryptoCall RotatingPacketCipher Packet
  | .encrypt packet => encrypt P packet
  | .decrypt packet => decrypt P packet

/-- The same call of a `PacketCipher`. -/
def Call.on {σ : Type} (P : Primitives) (cipher : PacketCipher) :
    Call → Program PyError CryptoCall σ Packet
  | .encrypt packet => cipher.encrypt P packet
  | .decrypt packet => cipher.decrypt P packet

/-- The results of a sequence of calls, and the cipher after them; a call that raised leaves
the cipher as it was at the exception. -/
def runCalls (P : Primitives) :
    List Call → RotatingPacketCipher → List (Except PyError Packet) × RotatingPacketCipher
  | [], cipher => ([], cipher)
  | c :: rest, cipher =>
      let o := call P c cipher
      let (results, cipher') := runCalls P rest o.state
      (o.result :: results, cipher')

/-- The result of a call on a `PacketCipher` derived just now from a master secret, for the
epoch of the packet. -/
def freshResult (P : Primitives) (masterSecret : Bytes) (sessionId : ℕ) (role : EndpointRole)
    (packetsPerKey : ℕ) (c : Call) : Except PyError Packet :=
  ((freshCipher P masterSecret sessionId role (c.packet.sequenceNumber / packetsPerKey) >>=
    fun cipher => c.on P cipher : Program PyError CryptoCall Unit Packet) ()).result

theorem Call.stateless_on (P : Primitives) (cipher : PacketCipher) (c : Call) :
    Stateless fun σ => (c.on P cipher : Program PyError CryptoCall σ Packet) := by
  cases c with
  | encrypt packet => exact stateless_packetCipher_encrypt P cipher packet
  | decrypt packet => exact stateless_packetCipher_decrypt P cipher packet

/-- A call looks up the cipher of its epoch first. -/
theorem call_eq (P : Primitives) (c : Call) :
    call P c = cipherFor P c.packet.sequenceNumber >>= fun cipher => c.on P cipher := by
  cases c <;> rfl

/-- **One call.** -/
theorem call_fresh {P : Primitives} {cipher : RotatingPacketCipher} (h : cipher.CacheSound P)
    (c : Call) :
    wp (call P c) cipher (fun r cipher' _ =>
      r = freshResult P cipher.masterSecret cipher.sessionId cipher.role cipher.packetsPerKey c ∧
        cipher'.CacheSound P ∧ SameParameters cipher cipher') := by
  rw [call_eq, wp_bind]
  refine wp_mono (cipherFor_fresh h c.packet.sequenceNumber) ?_
  rintro r cipher' t ⟨hr, hsound, hsame⟩
  have hresult : freshResult P cipher.masterSecret cipher.sessionId cipher.role
      cipher.packetsPerKey c = match r with
        | .ok cipher => ((c.on P cipher : Program PyError CryptoCall Unit Packet) ()).result
        | .error e => .error e := by
    have hrun : freshCipher P cipher.masterSecret cipher.sessionId cipher.role
        (c.packet.sequenceNumber / cipher.packetsPerKey) ()
          = ⟨r, (), (cipher.fresh P (cipher.epochFor c.packet.sequenceNumber) ()).trace⟩ := by
      rw [hr]
      rfl
    rw [freshResult]
    cases r with
    | error e => rw [bind_of_error hrun]
    | ok fresh => rw [bind_of_ok hrun]; rfl
  rw [hresult]
  cases r with
  | error e => exact ⟨rfl, hsound, hsame⟩
  | ok fresh =>
      simp only
      rw [wp, (c.stateless_on P fresh).run_eq cipher' ()]
      exact ⟨rfl, hsound, hsame⟩

/-- A sequence of calls from a sound cache. -/
theorem runCalls_fresh {P : Primitives} (calls : List Call) :
    ∀ {cipher : RotatingPacketCipher}, cipher.CacheSound P →
      (runCalls P calls cipher).1 = calls.map (freshResult P cipher.masterSecret
        cipher.sessionId cipher.role cipher.packetsPerKey) ∧
      (runCalls P calls cipher).2.CacheSound P ∧
      SameParameters cipher (runCalls P calls cipher).2 := by
  induction calls with
  | nil => exact fun h => ⟨rfl, h, rfl, rfl, rfl, rfl⟩
  | cons c rest ih =>
      intro cipher h
      obtain ⟨hresult, hsound, hsame⟩ : _ ∧ _ ∧ _ := call_fresh h c
      obtain ⟨hrest, hsound', hsame'⟩ := ih hsound
      refine ⟨?_, hsound', hsame.trans hsame'⟩
      obtain ⟨hm, hs, hr, hp⟩ := hsame
      rw [hm, hs, hr, hp] at hrest
      show (call P c cipher).result :: (runCalls P rest (call P c cipher).state).1 = _
      rw [hresult, hrest, List.map_cons]

end RotatingPacketCipher

/-- **Key rotation has no history.** Every call on a rotating cipher gives the result of a
`PacketCipher` derived for its epoch, and the cache holds at most two ciphers after any number
of the calls, each under its own epoch. -/
theorem rotation_history_independent (P : Primitives) (masterSecret : Bytes) (sessionId : ℤ)
    (role : EndpointRole) (packetsPerKey : ℤ) (cipher : RotatingPacketCipher)
    (h : RotatingPacketCipher.new masterSecret sessionId role packetsPerKey = .ok cipher)
    (calls : List RotatingPacketCipher.Call) :
    (RotatingPacketCipher.runCalls P calls cipher).1
      = calls.map (RotatingPacketCipher.freshResult P masterSecret sessionId.toNat role
          packetsPerKey.toNat) ∧
    ∀ k, (RotatingPacketCipher.runCalls P (calls.take k) cipher).2.ciphers.size ≤ 2 ∧
      ∀ epoch c, (RotatingPacketCipher.runCalls P (calls.take k) cipher).2.ciphers.get? epoch
          = some c →
        ((freshCipher P masterSecret sessionId.toNat role epoch :
          Program PyError CryptoCall Unit PacketCipher) ()).result = .ok c := by
  obtain ⟨hsound, hm, hs, hr, hp⟩ := RotatingPacketCipher.cacheSound_of_new (P := P) h
  constructor
  · obtain ⟨hresults, -, -⟩ := RotatingPacketCipher.runCalls_fresh calls hsound
    rw [hresults, hm, hs, hr, hp]
  · intro k
    obtain ⟨-, hsound', hsame⟩ := RotatingPacketCipher.runCalls_fresh (calls.take k) hsound
    refine ⟨hsound'.size_le, fun epoch c hget => ?_⟩
    have hstored := hsound'.stored epoch c hget
    rw [RotatingPacketCipher.fresh_congr hsame, RotatingPacketCipher.fresh, hm, hs, hr] at hstored
    exact hstored

/-- Two epochs out of order, and a decryption that raises. -/
theorem rotation_history_independent_sample :
    ∃ cipher, RotatingPacketCipher.new (List.replicate 32 7) 42 .client 4 = .ok cipher ∧
      (RotatingPacketCipher.runCalls sample [.encrypt ⟨.data, 42, 9, [1]⟩,
        .decrypt ⟨.data, 42, 2, [1]⟩, .encrypt ⟨.data, 42, 10, [2]⟩] cipher).1
      = [RotatingPacketCipher.Call.encrypt ⟨.data, 42, 9, [1]⟩, .decrypt ⟨.data, 42, 2, [1]⟩,
          .encrypt ⟨.data, 42, 10, [2]⟩].map
        (RotatingPacketCipher.freshResult sample (List.replicate 32 7) 42 .client 4) :=
  ⟨_, rfl, (rotation_history_independent sample _ 42 .client 4 _ rfl _).1⟩

end MatfVpn
