/-
# The session table of the multi-client data plane

The two dictionaries of `MultiClientServerEngine` describe one set of installed
sessions (`WellFormed`).

* `replaceSession_spec` : the session is installed, or its key belongs to another client;
* `WellFormed.replaced`, `.replaced_keeps` : the invariant and the other sessions are kept.
-/
import MatfVpn.MultiClient

namespace MatfVpn

open Program

namespace MultiClientServerEngine

variable {τ ν : Type}

/-! ## The installed sessions -/

/-- The two dictionaries hold the same session objects, each under its key and its tunnel
address. -/
structure WellFormed (engine : MultiClientServerEngine) : Prop where
  of_session : ∀ key ref, engine.sessions.get? key = some ref →
    ∃ s, engine.session? ref = some s ∧ s.key = key ∧
      engine.routes.get? s.tunnelAddress = some ref
  of_route : ∀ address ref, engine.routes.get? address = some ref →
    ∃ s, engine.session? ref = some s ∧ s.tunnelAddress = address ∧
      engine.sessions.get? s.key = some ref

theorem wellFormed_new : (new : MultiClientServerEngine).WellFormed where
  of_session _ _ h := by simp [new] at h
  of_route _ _ h := by simp [new] at h

/-- The session installed for a tunnel address. -/
def routed? (engine : MultiClientServerEngine) (address : IPv4Address) : Option ClientSession :=
  (engine.routes.get? address).bind engine.session?

/-- The engine after the session of a tunnel address was removed. -/
def withoutRoute (engine : MultiClientServerEngine) (address : IPv4Address) :
    MultiClientServerEngine :=
  match engine.routed? address with
  | none => engine
  | some existing => { engine with
      sessions := engine.sessions.erase existing.key
      routes := engine.routes.erase address }

/-- The engine after a new session object was added. -/
def install (engine : MultiClientServerEngine) (session : ClientSession) :
    MultiClientServerEngine where
  objects := engine.objects ++ [session]
  sessions := engine.sessions.insert session.key engine.objects.length
  routes := engine.routes.insert session.tunnelAddress engine.objects.length

/-- The key belongs to the installed session of another tunnel address. -/
def Taken (engine : MultiClientServerEngine) (key : SessionKey) (address : IPv4Address) : Prop :=
  ∃ ref s, engine.sessions.get? key = some ref ∧ engine.session? ref = some s ∧
    s.tunnelAddress ≠ address

/-- The new object comes after the others. -/
theorem session?_install (engine : MultiClientServerEngine) (session : ClientSession) (ref : ℕ) :
    (engine.install session).session? ref
      = if ref = engine.objects.length then some session else engine.session? ref := by
  rw [session?, install]
  split
  · rename_i href
    rw [href, List.getElem?_concat_length]
  · rename_i href
    rcases Nat.lt_or_gt_of_ne href with hlt | hgt
    · rw [List.getElem?_append_left hlt]
      rfl
    · rw [session?, List.getElem?_eq_none (by simp; omega), List.getElem?_eq_none (by omega)]

/-- Another object is found where it was. -/
theorem session?_install_of_some {engine : MultiClientServerEngine} {ref : ℕ}
    {s : ClientSession} (h : engine.session? ref = some s) (session : ClientSession) :
    (engine.install session).session? ref = some s := by
  have hlt : ref < engine.objects.length := (List.getElem?_eq_some_iff.1 h).1
  rw [session?_install, if_neg (by omega), h]

/-- Changing one object. -/
theorem session?_modifySession (engine : MultiClientServerEngine) (ref ref' : ℕ)
    (f : ClientSession → ClientSession) :
    (engine.modifySession ref f).session? ref'
      = if ref = ref' then (engine.session? ref').map f else engine.session? ref' := by
  rw [session?, modifySession, List.getElem?_modify]
  split
  · rfl
  · simp [session?]

/-- Where an object comes from after a change of one of them. -/
theorem session?_of_modifySession {engine : MultiClientServerEngine} {ref ref' : ℕ}
    {f : ClientSession → ClientSession} {s' : ClientSession}
    (h : (engine.modifySession ref f).session? ref' = some s') :
    ∃ s, engine.session? ref' = some s ∧ ((ref' = ref ∧ s' = f s) ∨ (ref' ≠ ref ∧ s' = s)) := by
  rw [session?_modifySession] at h
  split at h
  · rename_i href
    obtain ⟨s, hs, rfl⟩ := Option.map_eq_some_iff.1 h
    exact ⟨s, hs, Or.inl ⟨href.symm, rfl⟩⟩
  · rename_i href
    exact ⟨s', h, Or.inr ⟨fun heq => href heq.symm, rfl⟩⟩

/-- The session of a tunnel address is installed under its key as well. -/
theorem WellFormed.routed {engine : MultiClientServerEngine} (h : engine.WellFormed)
    {address : IPv4Address} {s : ClientSession} (hs : engine.routed? address = some s) :
    ∃ ref, engine.routes.get? address = some ref ∧ engine.session? ref = some s ∧
      s.tunnelAddress = address ∧ engine.sessions.get? s.key = some ref := by
  obtain ⟨ref, hroute, hobject⟩ := Option.bind_eq_some_iff.1 hs
  obtain ⟨s', hs', ha, hk⟩ := h.of_route address ref hroute
  rw [hobject] at hs'
  obtain rfl := Option.some.inj hs'
  exact ⟨ref, hroute, hobject, ha, hk⟩

/-- An address without a session has no route. -/
theorem WellFormed.routes_of_routed_none {engine : MultiClientServerEngine}
    (h : engine.WellFormed) {address : IPv4Address} (hs : engine.routed? address = none) :
    engine.routes.get? address = none := by
  cases hroute : engine.routes.get? address with
  | none => rfl
  | some ref =>
      obtain ⟨s, hs', -⟩ := h.of_route address ref hroute
      rw [routed?, hroute, Option.bind_some, hs'] at hs
      cases hs

/-- The other sessions stay when the session of an address is removed. -/
theorem WellFormed.withoutRoute_get? {engine : MultiClientServerEngine} (h : engine.WellFormed)
    (address : IPv4Address) :
    (∀ key ref, (engine.withoutRoute address).sessions.get? key = some ref ↔
      engine.sessions.get? key = some ref ∧
        ∃ s, engine.session? ref = some s ∧ s.tunnelAddress ≠ address) ∧
    (∀ address', (engine.withoutRoute address).routes.get? address'
      = if address' = address then none else engine.routes.get? address') := by
  unfold withoutRoute
  cases hrouted : engine.routed? address with
  | none =>
      have hroute := h.routes_of_routed_none hrouted
      refine ⟨fun key ref => ⟨fun hget => ⟨hget, ?_⟩, fun hget => hget.1⟩, fun address' => ?_⟩
      · obtain ⟨s, hs, -, hr⟩ := h.of_session key ref hget
        refine ⟨s, hs, fun ha => ?_⟩
        rw [ha, hroute] at hr
        cases hr
      · by_cases ha : address' = address
        · rw [if_pos ha, ha]
          exact hroute
        · rw [if_neg ha]
  | some existing =>
      obtain ⟨ref₀, hroute, hobject, ha, hk⟩ := h.routed hrouted
      refine ⟨fun key ref => ?_, fun address' => OrderedDict.get?_erase _ _ _⟩
      simp only [OrderedDict.get?_erase]
      constructor
      · intro hget
        split at hget
        · cases hget
        rename_i hkey
        obtain ⟨s, hs, hsk, hr⟩ := h.of_session key ref hget
        refine ⟨hget, s, hs, fun haddress => hkey ?_⟩
        rw [haddress, hroute] at hr
        obtain rfl := Option.some.inj hr
        rw [hobject] at hs
        obtain rfl := Option.some.inj hs
        exact hsk.symm
      · rintro ⟨hget, s, hs, hne⟩
        split
        · rename_i hkey
          rw [hkey, hk] at hget
          obtain rfl := Option.some.inj hget
          rw [hobject] at hs
          obtain rfl := Option.some.inj hs
          exact absurd ha hne
        · exact hget

/-- The objects are the same after a removal. -/
@[simp] theorem session?_withoutRoute (engine : MultiClientServerEngine) (address : IPv4Address)
    (ref : ℕ) : (engine.withoutRoute address).session? ref = engine.session? ref := by
  unfold withoutRoute
  split <;> rfl

@[simp] theorem objects_withoutRoute (engine : MultiClientServerEngine) (address : IPv4Address) :
    (engine.withoutRoute address).objects = engine.objects := by
  unfold withoutRoute
  split <;> rfl

/-- Removing a session keeps the invariant. -/
theorem WellFormed.withoutRoute {engine : MultiClientServerEngine} (h : engine.WellFormed)
    (address : IPv4Address) : (engine.withoutRoute address).WellFormed := by
  obtain ⟨hsessions, hroutes⟩ := h.withoutRoute_get? address
  constructor
  · intro key ref hget
    obtain ⟨hget, s, hs, hne⟩ := (hsessions key ref).1 hget
    obtain ⟨s', hs', hk, hr⟩ := h.of_session key ref hget
    rw [hs] at hs'
    obtain rfl := Option.some.inj hs'
    exact ⟨s, by rw [session?_withoutRoute, hs], hk, by rw [hroutes, if_neg hne, hr]⟩
  · intro address' ref hget
    rw [hroutes] at hget
    split at hget
    · cases hget
    rename_i hne
    obtain ⟨s, hs, ha, hk⟩ := h.of_route address' ref hget
    refine ⟨s, by rw [session?_withoutRoute, hs], ha, (hsessions _ _).2 ⟨hk, s, hs, ?_⟩⟩
    rwa [ha]

/-- The key is taken exactly when it is still there after the removal. -/
theorem WellFormed.taken_iff {engine : MultiClientServerEngine} (h : engine.WellFormed)
    (key : SessionKey) (address : IPv4Address) :
    (engine.withoutRoute address).sessions.contains key = true ↔ engine.Taken key address := by
  rw [OrderedDict.contains_iff, OrderedDict.mem_keys_iff]
  obtain ⟨hsessions, -⟩ := h.withoutRoute_get? address
  constructor
  · rintro ⟨ref, hget⟩
    obtain ⟨hget, s, hs, hne⟩ := (hsessions _ _).1 hget
    exact ⟨ref, s, hget, hs, hne⟩
  · rintro ⟨ref, s, hget, hs, hne⟩
    exact ⟨ref, (hsessions _ _).2 ⟨hget, s, hs, hne⟩⟩

/-- Adding a session under a free key and a free address keeps the invariant. -/
theorem WellFormed.install {engine : MultiClientServerEngine} (h : engine.WellFormed)
    {session : ClientSession} (hkey : engine.sessions.get? session.key = none)
    (hroute : engine.routes.get? session.tunnelAddress = none) :
    (engine.install session).WellFormed := by
  have hnew : (engine.install session).session? engine.objects.length = some session := by
    rw [session?_install, if_pos rfl]
  constructor
  · intro key ref hget
    simp only [MultiClientServerEngine.install, OrderedDict.get?_insert] at hget ⊢
    split at hget
    · rename_i hk
      obtain rfl := Option.some.inj hget
      exact ⟨session, hnew, hk.symm, by rw [if_pos rfl]⟩
    · obtain ⟨s, hs, hk, hr⟩ := h.of_session key ref hget
      refine ⟨s, session?_install_of_some hs session, hk, ?_⟩
      split
      · rename_i ha
        rw [ha, hroute] at hr
        cases hr
      · exact hr
  · intro address ref hget
    simp only [MultiClientServerEngine.install, OrderedDict.get?_insert] at hget ⊢
    split at hget
    · rename_i ha
      obtain rfl := Option.some.inj hget
      exact ⟨session, hnew, ha.symm, by rw [if_pos rfl]⟩
    · obtain ⟨s, hs, ha, hk⟩ := h.of_route address ref hget
      refine ⟨s, session?_install_of_some hs session, ha, ?_⟩
      split
      · rename_i hk'
        rw [hk', hkey] at hk
        cases hk
      · exact hk

/-! ## `replace_session` -/

theorem deref_of_session? {engine : MultiClientServerEngine} {ref : ℕ} {s : ClientSession}
    (h : engine.session? ref = some s) {α : Type}
    {f : ClientSession → Program PyError (ServerEffect τ ν) MultiClientServerEngine α}
    {Q : Except PyError α → MultiClientServerEngine → List (ServerEffect τ ν) → Prop} :
    wp (deref ref >>= f) engine Q ↔ wp (f s) engine Q := by
  rw [wp_bind, deref, wp_read_bind, h]
  exact Iff.rfl

/-- Adding a session for an address without one. -/
theorem addSession_spec {engine : MultiClientServerEngine} {session : ClientSession}
    (hroute : engine.routes.get? session.tunnelAddress = none) :
    wp (addSession session : Program PyError (ServerEffect τ ν) _ Unit) engine
      (fun r engine' t =>
        if engine.sessions.contains session.key then
          r = .error (.valueError "client session already exists") ∧ engine' = engine ∧ t = []
        else r = .ok () ∧ engine' = engine.install session ∧ t = []) := by
  unfold addSession addWith
  rw [wp_read_bind]
  have hnot : engine.routes.contains session.tunnelAddress = false := by
    rw [OrderedDict.contains, hroute]
    rfl
  by_cases hkey : engine.sessions.contains session.key = true
  · rw [if_pos hkey, wp_raise, if_pos hkey]
    exact ⟨rfl, rfl, rfl⟩
  · rw [if_neg hkey, if_neg (by rw [hnot]; decide), wp_update, if_neg hkey]
    exact ⟨rfl, rfl, rfl⟩

/-- Removing the session of an address. -/
theorem removeSession_spec {engine : MultiClientServerEngine} (h : engine.WellFormed)
    {address : IPv4Address} {s : ClientSession} (hs : engine.routed? address = some s) :
    wp (removeSession s.remoteAddress s.sessionId :
        Program PyError (ServerEffect τ ν) _ Unit) engine
      (fun r engine' t => r = .ok () ∧ engine' = engine.withoutRoute address ∧ t = []) := by
  obtain ⟨ref, -, hobject, ha, hk⟩ := h.routed hs
  have hget : engine.sessions.get? (s.remoteAddress, s.sessionId) = some ref := hk
  have hobject' : session? { engine with
      sessions := engine.sessions.erase (s.remoteAddress, s.sessionId) } ref = some s := hobject
  unfold removeSession
  rw [wp_read_bind, hget]
  simp only
  rw [wp_update_bind, deref_of_session? hobject', wp_update, ha]
  refine ⟨rfl, ?_, rfl⟩
  rw [withoutRoute, hs]
  rfl

/-- How `replace_session` ends: its result and the engine afterwards. -/
inductive ReplaceEnds (engine : MultiClientServerEngine) (session : ClientSession) :
    Except PyError Unit → MultiClientServerEngine → Prop
  /-- The key belongs to another client: the old session is gone and the call raises. -/
  | collided : engine.Taken session.key session.tunnelAddress →
      ReplaceEnds engine session (.error (.valueError "client session already exists"))
        (engine.withoutRoute session.tunnelAddress)
  /-- The session takes the place of the one of its tunnel address. -/
  | installed : ¬ engine.Taken session.key session.tunnelAddress →
      ReplaceEnds engine session (.ok ())
        ((engine.withoutRoute session.tunnelAddress).install session)

/-- **`replace_session`.** -/
theorem replaceSession_spec {engine : MultiClientServerEngine} (h : engine.WellFormed)
    (session : ClientSession) :
    wp (replaceSession session : Program PyError (ServerEffect τ ν) _ Unit) engine
      (fun r engine' t => ReplaceEnds engine session r engine' ∧ t = []) := by
  have hroute : (engine.withoutRoute session.tunnelAddress).routes.get? session.tunnelAddress
      = none := by
    rw [(h.withoutRoute_get? session.tunnelAddress).2, if_pos rfl]
  have hadd : wp (addSession session : Program PyError (ServerEffect τ ν) _ Unit)
      (engine.withoutRoute session.tunnelAddress)
      (fun r engine' t => ReplaceEnds engine session r engine' ∧ t = []) := by
    refine wp_mono (addSession_spec hroute) ?_
    intro r engine' t hadd
    split at hadd
    · rename_i htaken
      obtain ⟨rfl, rfl, rfl⟩ := hadd
      exact ⟨.collided ((h.taken_iff _ _).1 htaken), rfl⟩
    · rename_i hfree
      obtain ⟨rfl, rfl, rfl⟩ := hadd
      exact ⟨.installed fun htaken => hfree ((h.taken_iff _ _).2 htaken), rfl⟩
  unfold replaceSession replaceWith
  rw [wp_read_bind]
  cases hrouted : engine.routed? session.tunnelAddress with
  | none =>
      have hsame : engine.withoutRoute session.tunnelAddress = engine := by
        rw [withoutRoute, hrouted]
      rw [h.routes_of_routed_none hrouted]
      rwa [hsame] at hadd
  | some existing =>
      obtain ⟨ref, hget, hobject, -, -⟩ := h.routed hrouted
      rw [hget]
      simp only
      rw [deref_of_session? hobject, wp_bind]
      refine wp_mono (removeSession_spec h hrouted) ?_
      rintro r engine' t ⟨rfl, rfl, rfl⟩
      simpa using hadd

/-- A session that was installed leaves the invariant. -/
theorem WellFormed.replaced {engine : MultiClientServerEngine} (h : engine.WellFormed)
    {session : ClientSession} (hfree : ¬ engine.Taken session.key session.tunnelAddress) :
    ((engine.withoutRoute session.tunnelAddress).install session).WellFormed := by
  refine (h.withoutRoute _).install ?_ ?_
  · have hnot := mt (h.taken_iff _ _).1 hfree
    rw [OrderedDict.contains_iff] at hnot
    exact (OrderedDict.get?_eq_none_iff _ _).2 hnot
  · rw [(h.withoutRoute_get? session.tunnelAddress).2, if_pos rfl]

/-- The sessions of the other clients stay when a session is installed. -/
theorem WellFormed.replaced_keeps {engine : MultiClientServerEngine} (h : engine.WellFormed)
    {session : ClientSession} (hfree : ¬ engine.Taken session.key session.tunnelAddress)
    {address : IPv4Address} {ref : ℕ} (hroute : engine.routes.get? address = some ref)
    (hne : address ≠ session.tunnelAddress) {s : ClientSession}
    (hs : engine.session? ref = some s) :
    ((engine.withoutRoute session.tunnelAddress).install session).routes.get? address = some ref ∧
      ((engine.withoutRoute session.tunnelAddress).install session).sessions.get? s.key
        = some ref ∧
      ((engine.withoutRoute session.tunnelAddress).install session).session? ref = some s := by
  obtain ⟨s', hs', haddress, hkey⟩ := h.of_route address ref hroute
  rw [hs] at hs'
  obtain rfl := Option.some.inj hs'
  obtain ⟨hsessions, hroutes⟩ := h.withoutRoute_get? session.tunnelAddress
  have hother : s.tunnelAddress ≠ session.tunnelAddress := by rwa [haddress]
  -- the key of another client is not the new one
  have hkey' : s.key ≠ session.key := by
    intro heq
    exact hfree ⟨ref, s, by rw [← heq, hkey], hs, hother⟩
  refine ⟨?_, ?_, ?_⟩
  · rw [MultiClientServerEngine.install, OrderedDict.get?_insert, if_neg hne, hroutes,
      if_neg hne, hroute]
  · rw [MultiClientServerEngine.install, OrderedDict.get?_insert, if_neg hkey']
    exact (hsessions _ _).2 ⟨hkey, s, hs, hother⟩
  · exact session?_install_of_some (by rw [session?_withoutRoute, hs]) session

end MultiClientServerEngine

end MatfVpn
