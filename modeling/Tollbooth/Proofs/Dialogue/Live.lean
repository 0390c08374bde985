import Tollbooth.Proofs.Dialogue.Run
/-!
# Dialogues that come to an end

A dialogue is a finite tree in depth, so the only way for it not to end is to stall.  `Live d` says
that it never does, whatever is answered; in every world it then has a result, and what happened
on the way is one of its runs.

That a computation ends is worth a statement of its own.  What is said of runs is said about those
that there are, and of a computation which stalls at once it would all be true.  Live computations
are those for which `Live.run` turns a statement about runs into one about worlds: whatever the
world answers, there is a result, and the statement holds of it.

Most computations are live because they are limited, and all the others because they are made of
live ones.

* `Live.bind` — one live computation after another is live.
* `live_limit` — under a limit every computation is live.
* `Live.run` — what a live computation comes to in a world.
-/

set_option autoImplicit false

namespace Tollbooth.Dialogue

variable {α β : Type}

/-- The computation never stalls, whatever it is answered. -/
def Live (d : Dialogue α) : Prop := ∀ events c, Leads d events c → c ≠ .stalled

theorem live_done (a : α) : Live (.done a) := by
  intro events c h
  rw [(leads_done.1 h).2]
  exact nofun

theorem Live.of_step {d d' : Dialogue α} {e : Event} (h : Live d) (s : Step d e d') : Live d' :=
  fun events c hc => h (e :: events) c (.cons s hc)

theorem Live.ne_stalled {d : Dialogue α} (h : Live d) : d ≠ .stalled := h [] d (.nil d)

/-- Only what a first computation can really yield has to be gone on with. -/
theorem Live.bind_of_yields {d : Dialogue α} {f : α → Dialogue β} (hd : Live d)
    (hf : ∀ events a, Yields d events a → Live (f a)) : Live (d >>= f) := by
  intro events c h
  obtain ⟨d', hd', rfl⟩ | ⟨first, rest, a, rfl, hfirst, hrest⟩ := leads_bind.1 h
  · have hne := hd events d' hd'
    cases d' with
    | done a => exact (hf events a hd').ne_stalled
    | stalled => exact absurd rfl hne
    | send | read | sign | wait => exact nofun
  · exact hf first a hfirst rest c hrest

theorem Live.bind {d : Dialogue α} {f : α → Dialogue β} (hd : Live d) (hf : ∀ a, Live (f a)) :
    Live (d >>= f) :=
  hd.bind_of_yields fun _ a _ => hf a

theorem limit_ne_stalled (d : Dialogue α) (left : Nat) : d.limit left ≠ .stalled := by
  intro h
  cases d with
  | wait ms next =>
    rw [limit] at h
    split at h <;> cases h
  | done | send | read | sign | stalled => cases h

/-- **A limit ends everything.** -/
theorem live_limit (d : Dialogue α) (left : Nat) : Live (d.limit left) := by
  intro events c h
  induction events generalizing d left with
  | nil =>
    rw [leads_nil.1 h]
    exact limit_ne_stalled d left
  | cons e events ih =>
    obtain ⟨c', s, h⟩ := leads_cons.1 h
    obtain ⟨d', -, -, rfl⟩ | ⟨-, -, rfl⟩ := step_limit.1 s
    · exact ih d' _ h
    · exact live_done none events c h

/-- **A live computation has a result in every world**, and what happened is a run to it. -/
theorem Live.run {σ : Type} {d : Dialogue α} (h : Live d) (world : World (StateM σ)) (s : σ) :
    ∃ events a, Yields d events a ∧ (d.run world s).1 = some a := by
  induction d generalizing s with
  | done a => exact ⟨[], a, .nil _, rfl⟩
  | send request next ih =>
    have step := Step.sent request next (world.send request s).1
    obtain ⟨events, a, hd, hrun⟩ := ih _ (h.of_step step) (world.send request s).2
    exact ⟨_, a, .cons step hd, hrun⟩
  | read chain asset next ih =>
    have step := Step.asked chain asset next (world.read chain asset s).1
    obtain ⟨events, a, hd, hrun⟩ := ih _ (h.of_step step) (world.read chain asset s).2
    exact ⟨_, a, .cons step hd, hrun⟩
  | sign account digest next ih =>
    have step := Step.signed account digest next (world.sign account digest s).1
    obtain ⟨events, a, hd, hrun⟩ := ih _ (h.of_step step) (world.sign account digest s).2
    exact ⟨_, a, .cons step hd, hrun⟩
  | wait ms next ih =>
    have step := Step.waited ms next
    obtain ⟨events, a, hd, hrun⟩ := ih (h.of_step step) (world.wait ms s).2
    exact ⟨_, a, .cons step hd, hrun⟩
  | stalled => exact absurd rfl h.ne_stalled

end Tollbooth.Dialogue
