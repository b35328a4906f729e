/-!
# Conversations

A side that looks at messages one after the other, keeps in mind what it needs, and stops at a
result. Messages behind the one that brought the result are not looked at.
-/

namespace DnsHealth

/-- What a message does to a conversation. -/
inductive Step (σ β : Type) where
  /-- The conversation goes on, with this in mind. -/
  | next (state : σ)
  /-- The conversation has come to its result. -/
  | stop (result : β)
  deriving Repr

namespace Step

/-- The result to which a conversation comes over a list of messages, if they are enough. -/
def feed (step : σ → μ → Step σ β) : σ → List μ → Option β
  | _, [] => none
  | state, message :: rest =>
    match step state message with
    | next state => feed step state rest
    | stop result => some result

/-- Once there is a result, further messages do not change it. -/
theorem feed_append {step : σ → μ → Step σ β} {state : σ} {messages : List μ} {result : β}
    (h : feed step state messages = some result) (more : List μ) :
    feed step state (messages ++ more) = some result := by
  induction messages generalizing state with
  | nil => simp [feed] at h
  | cons message rest ih =>
    simp only [List.cons_append, feed] at h ⊢
    cases hs : step state message with
    | next state => rw [hs] at h; exact ih h
    | stop result => rw [hs] at h; exact h

end Step

end DnsHealth
