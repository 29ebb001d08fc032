namespace CompilerSession

/-!
# Audiences

The listeners of an audience hear every event that is emitted while they are
subscribed, in the order of their subscriptions.  A listener has a state of its
own, which it carries from one event to the next, and what it does with an event
is a reaction.
-/

/-- A subscription by its number; an audience gives each number once. -/
structure Subscription where
  number : Nat
  deriving Repr, DecidableEq

/-- A listener with its state and what it does with an event. -/
structure Listener (ε σ ρ : Type) where
  state : σ
  react : σ → ε → σ × ρ

/-- Let a listener hear an event. -/
def Listener.hear
    {ε σ ρ : Type}
    (listener : Listener ε σ ρ)
    (event : ε) :
    Listener ε σ ρ × ρ :=
  let (state, reaction) := listener.react listener.state event
  ({ listener with state }, reaction)

/-- The listeners in the order of their subscriptions. -/
structure Audience (ε σ ρ : Type) where
  listeners : List (Subscription × Listener ε σ ρ)
  nextNumber : Nat

namespace Audience

variable {ε σ ρ : Type}

/-- The audience without listeners. -/
def empty : Audience ε σ ρ := ⟨[], 0⟩

/-- Add a listener. -/
def subscribe
    (audience : Audience ε σ ρ)
    (listener : Listener ε σ ρ) :
    Subscription × Audience ε σ ρ :=
  let subscription := ⟨audience.nextNumber⟩
  (subscription,
    ⟨audience.listeners ++ [(subscription, listener)], audience.nextNumber + 1⟩)

/-- Remove a subscription and tell whether it was there. -/
def unsubscribe
    (audience : Audience ε σ ρ)
    (subscription : Subscription) :
    Bool × Audience ε σ ρ :=
  let kept := audience.listeners.filter fun entry => entry.1 != subscription
  (kept.length != audience.listeners.length,
    { audience with listeners := kept })

/-- Let all listeners hear an event, and collect their reactions in order. -/
def emit
    (audience : Audience ε σ ρ)
    (event : ε) : List ρ × Audience ε σ ρ :=
  let heard := audience.listeners.map fun (subscription, listener) =>
    let (next, reaction) := listener.hear event
    ((subscription, next), reaction)
  (heard.map Prod.snd, { audience with listeners := heard.map Prod.fst })

end Audience

end CompilerSession
