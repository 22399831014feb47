/-
# Resources that are opened and closed in nested order

A program acquires and releases resources, uses those that it holds and rests while it holds
none.  It may lose hold of a resource that stays open.  The events of a trace are read by a stack
machine that stops at the first misuse.

* `ResourceEvent.run` : the machine;
* `Program.Nested` : a program leaves what it holds as it found it;
* `Program.within` : a body between the opening and the closing of a resource, as in a `with`
  statement, and `Nested.within` : its rule.
-/
import MatfVpn.Lib.Erasure

/-! ## Events -/

/-- What an effect means for the resources of type `κ`. -/
inductive ResourceEvent (κ : Type) where
  | acquire (k : κ)
  | release (k : κ)
  /-- The innermost resource stays open, but nothing holds it any more. -/
  | abandon (k : κ)
  /-- A use of these resources. -/
  | use (ks : List κ)
  /-- A pause without any resource in hand. -/
  | rest
  deriving DecidableEq

/-- The open resources. -/
structure Resources (κ : Type) where
  /-- Those that the program holds, from the innermost on. -/
  held : List κ
  /-- Those that it has abandoned. -/
  abandoned : List κ
  deriving DecidableEq

namespace ResourceEvent

variable {κ : Type} [DecidableEq κ]

/-- One event; `none` is a misuse. -/
def step (r : Resources κ) : ResourceEvent κ → Option (Resources κ)
  | acquire k => if k ∈ r.held then none else some ⟨k :: r.held, r.abandoned⟩
  | release k =>
      match r.held with
      | [] => none
      | k' :: held => if k = k' then some ⟨held, r.abandoned⟩ else none
  | abandon k =>
      match r.held with
      | [] => none
      | k' :: held => if k = k' then some ⟨held, k :: r.abandoned⟩ else none
  | use ks => if ∀ k ∈ ks, k ∈ r.held then some r else none
  | rest => if r.held = [] then some r else none

/-- The open resources after the events. -/
def run (r : Resources κ) (events : List (ResourceEvent κ)) : Option (Resources κ) :=
  events.foldlM step r

theorem run_append (r : Resources κ) (s t : List (ResourceEvent κ)) :
    run r (s ++ t) = (run r s).bind fun r' => run r' t := List.foldlM_append ..

theorem run_singleton (r : Resources κ) (event : ResourceEvent κ) :
    run r [event] = step r event := Option.bind_fun_some _

variable {abandons : κ → Prop} {held held' held'' : List κ} {events : List (ResourceEvent κ)}

/-- The events misuse nothing, lead from the first held resources to the second, and abandon only
resources that satisfy `abandons`. -/
def Leads (abandons : κ → Prop) (held held' : List κ) (events : List (ResourceEvent κ)) : Prop :=
  ∀ left, (∀ k ∈ left, abandons k) →
    ∃ left', run ⟨held, left⟩ events = some ⟨held', left'⟩ ∧ ∀ k ∈ left', abandons k

theorem Leads.nil : Leads abandons held held [] := fun left hleft => ⟨left, rfl, hleft⟩

theorem Leads.append {s t : List (ResourceEvent κ)} (hs : Leads abandons held held' s)
    (ht : Leads abandons held' held'' t) : Leads abandons held held'' (s ++ t) := by
  intro left hleft
  obtain ⟨left₁, hrun₁, hleft₁⟩ := hs left hleft
  obtain ⟨left₂, hrun₂, hleft₂⟩ := ht left₁ hleft₁
  refine ⟨left₂, ?_, hleft₂⟩
  rw [run_append, hrun₁]
  exact hrun₂

theorem Leads.cons {event : ResourceEvent κ} (hevent : Leads abandons held held' [event])
    (hevents : Leads abandons held' held'' events) :
    Leads abandons held held'' (event :: events) := hevent.append hevents

theorem leads_acquire {k : κ} (h : k ∉ held) : Leads abandons held (k :: held) [acquire k] :=
  fun left hleft => ⟨left, (run_singleton ..).trans (if_neg h), hleft⟩

theorem leads_release (k : κ) : Leads abandons (k :: held) held [release k] :=
  fun left hleft => ⟨left, (run_singleton ..).trans (if_pos rfl), hleft⟩

theorem leads_abandon {k : κ} (h : abandons k) : Leads abandons (k :: held) held [abandon k] :=
  fun left hleft =>
    ⟨k :: left, (run_singleton ..).trans (if_pos rfl), List.forall_mem_cons.2 ⟨h, hleft⟩⟩

theorem leads_use {ks : List κ} (h : ∀ k ∈ ks, k ∈ held) : Leads abandons held held [use ks] :=
  fun left hleft => ⟨left, (run_singleton ..).trans (if_pos h), hleft⟩

theorem leads_rest : Leads abandons ([] : List κ) [] [rest] := by
  intro left hleft
  refine ⟨left, ?_, hleft⟩
  rw [run_singleton, step, if_pos rfl]

/-- Events that do not change what is held. -/
theorem leads_of_forall (h : ∀ event ∈ events, Leads abandons held held [event]) :
    Leads abandons held held events := by
  induction events with
  | nil => exact Leads.nil
  | cons event events ih =>
    obtain ⟨hevent, hevents⟩ := List.forall_mem_cons.1 h
    exact hevent.cons (ih hevents)

end ResourceEvent

namespace Program

variable {ε ω ω' σ α β κ : Type} [DecidableEq κ]

open ResourceEvent (Leads)

/-! ## Programs -/

/-- A `with` statement: the resource is closed whether the body returns or raises, and an
exception of its closing replaces that of the body. -/
def within (opening : Program ε ω σ β) (closing : Program ε ω σ Unit)
    (body : β → Program ε ω σ α) : Program ε ω σ α := do
  let b ← opening
  let result ← attempt (body b)
  closing
  ofExcept result

/-- A resource that cannot be opened. -/
theorem within_of_error {opening : Program ε ω σ β} {closing : Program ε ω σ Unit}
    {body : β → Program ε ω σ α} {s s₁ : σ} {e : ε} {t₁ : List ω}
    (h : opening s = ⟨.error e, s₁, t₁⟩) :
    within opening closing body s = ⟨.error e, s₁, t₁⟩ := bind_of_error h _

/-- A resource that is opened and closed. -/
theorem within_of_ok {opening : Program ε ω σ β} {closing : Program ε ω σ Unit}
    {body : β → Program ε ω σ α} {s s₁ s₂ s₃ : σ} {b : β} {r : Except ε α} {t₁ t₂ t₃ : List ω}
    (hopening : opening s = ⟨.ok b, s₁, t₁⟩) (hbody : body b s₁ = ⟨r, s₂, t₂⟩)
    (hclosing : closing s₂ = ⟨.ok (), s₃, t₃⟩) :
    within opening closing body s = ⟨r, s₃, t₁ ++ (t₂ ++ t₃)⟩ := by
  have hattempt : attempt (body b) s₁ = ⟨.ok r, s₂, t₂⟩ := by
    rw [attempt, hbody]
  unfold within
  rw [bind_of_ok hopening, bind_of_ok hattempt, bind_of_ok hclosing, ofExcept_apply]
  simp only [Outcome.after, List.append_nil]

/-- Started with these resources, the program misuses none and ends with the same in hand, whether
it returns or raises. -/
def Nested (event? : ω → Option (ResourceEvent κ)) (abandons : κ → Prop) (held : List κ)
    (m : Program ε ω σ α) : Prop :=
  ∀ s, wp m s fun _ _ t => Leads abandons held held (t.filterMap event?)

/-- The program opens the resource when it returns, and holds what it held when it raises. -/
def Opens (event? : ω → Option (ResourceEvent κ)) (abandons : κ → Prop) (held : List κ) (k : κ)
    (m : Program ε ω σ α) : Prop :=
  ∀ s, wp m s fun r _ t => Leads abandons held
    (match r with
      | .ok _ => k :: held
      | .error _ => held) (t.filterMap event?)

/-- The program closes the innermost resource, whether it returns or raises. -/
def Closes (event? : ω → Option (ResourceEvent κ)) (abandons : κ → Prop) (held : List κ) (k : κ)
    (m : Program ε ω σ α) : Prop :=
  ∀ s, wp m s fun _ _ t => Leads abandons (k :: held) held (t.filterMap event?)

variable {event? : ω → Option (ResourceEvent κ)} {abandons : κ → Prop} {held : List κ} {k : κ}

theorem Nested.pure (a : α) : Nested event? abandons held (pure a : Program ε ω σ α) :=
  fun _ => Leads.nil

theorem Nested.raise (e : ε) : Nested event? abandons held (raise e : Program ε ω σ α) :=
  fun _ => Leads.nil

theorem Nested.ofExcept (x : Except ε α) :
    Nested event? abandons held (ofExcept x : Program ε ω σ α) := by
  cases x with
  | ok a => exact Nested.pure a
  | error e => exact Nested.raise e

/-- A program whose effects leave the resources alone. -/
theorem Nested.of_forall {m : Program ε ω σ α}
    (h : ∀ s, wp m s fun _ _ t => ∀ e ∈ t, ∀ event, event? e = some event →
      Leads abandons held held [event]) : Nested event? abandons held m := by
  intro s
  refine wp_mono (h s) ?_
  intro _ _ t ht
  apply ResourceEvent.leads_of_forall
  intro event hevent
  obtain ⟨e, he, hsome⟩ := List.mem_filterMap.1 hevent
  exact ht e he event hsome

/-- **Sequencing.** -/
theorem Nested.bind {m : Program ε ω σ β} {f : β → Program ε ω σ α}
    (hm : Nested event? abandons held m) (hf : ∀ b, Nested event? abandons held (f b)) :
    Nested event? abandons held (m >>= f) := by
  intro s
  rw [wp_bind]
  refine wp_mono (hm s) ?_
  rintro (e | b) s₁ t ht
  · exact ht
  · refine wp_mono (hf b s₁) ?_
    intro _ _ t' ht'
    rw [List.filterMap_append]
    exact ht.append ht'

theorem Nested.attempt {m : Program ε ω σ α} (hm : Nested event? abandons held m) :
    Nested event? abandons held (attempt m) := fun s => hm s

theorem Nested.ite (c : Prop) [Decidable c] {m m' : Program ε ω σ α}
    (hm : Nested event? abandons held m) (hm' : Nested event? abandons held m') :
    Nested event? abandons held (if c then m else m') := by
  split
  · exact hm
  · exact hm'

/-- **The rule of a `with` statement**: the body has the resource, what comes after has not. -/
theorem Nested.within {opening : Program ε ω σ β} {closing : Program ε ω σ Unit}
    {body : β → Program ε ω σ α} (hopening : Opens event? abandons held k opening)
    (hclosing : Closes event? abandons held k closing)
    (hbody : ∀ b, Nested event? abandons (k :: held) (body b)) :
    Nested event? abandons held (within opening closing body) := by
  intro s
  unfold Program.within
  rw [wp_bind]
  refine wp_mono (hopening s) ?_
  rintro (e | b) s₁ t₁ h₁
  · exact h₁
  simp only [wp_bind, wp_attempt]
  refine wp_mono (hbody b s₁) ?_
  intro result s₂ t₂ h₂
  refine wp_mono (hclosing s₂) ?_
  intro r s₃ t₃ h₃
  have hall : Leads abandons held held ((t₁ ++ (t₂ ++ t₃)).filterMap event?) := by
    rw [List.filterMap_append, List.filterMap_append]
    exact h₁.append (h₂.append h₃)
  cases r with
  | error e => exact hall
  | ok _ =>
    rw [wp_ofExcept, List.append_nil]
    exact hall

/-- **The triple of a `with` statement** whose body and closing end the same way in any case. -/
theorem Triple.within {opening : Program ε ω σ β} {closing : Program ε ω σ Unit}
    {body : β → Program ε ω σ α} {I M N : σ → List ω → Prop} {L : β → σ → List ω → Prop}
    (hopening : Triple I opening L N) (hclosing : Triple M closing (fun _ => N) N)
    (hbody : ∀ b, Triple (L b) (body b) (fun _ => M) M) :
    Triple I (within opening closing body) (fun _ => N) N := by
  refine Triple.bind hopening fun b => Triple.bind (hbody b).attempt fun result => ?_
  refine Triple.bind (L := fun _ => N) ?_ fun _ =>
    Triple.ofExcept (fun _ _ _ _ h => h) fun _ _ h => h
  cases result with
  | error e => exact hclosing
  | ok a => exact hclosing

/-- **A `with` statement whose closing does not fail** is its body, but for hidden effects. -/
theorem Erases.within {visible : ω → Option ω'} {opening : Program ε ω σ β}
    {closing : Program ε ω σ Unit} {body : β → Program ε ω σ α} {opening' : Program ε ω' σ β}
    {body' : β → Program ε ω' σ α} (hopening : Erases visible opening opening')
    (hclosing : Erases visible closing (Pure.pure ()))
    (hbody : ∀ b, Erases visible (body b) (body' b)) :
    Erases visible (within opening closing body) (opening' >>= body') := by
  refine hopening.bind fun b s => ?_
  rw [wp_bind, wp_attempt]
  refine wp_mono (hbody b s) ?_
  intro result s₁ t₁ h₁
  simp only [wp_bind]
  refine wp_mono (hclosing s₁) ?_
  intro r s₂ t₂ h₂
  obtain ⟨rfl, rfl, hhidden⟩ := Outcome.mk.inj h₂
  rw [wp_ofExcept, List.append_nil, List.filterMap_append, ← hhidden, List.append_nil]
  exact h₁

end Program
