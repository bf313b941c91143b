import Mathlib.Data.List.Basic

/-! A bounded queue between many senders and one receiver. `received` and
`refused` are history: what the receiver has taken so far, and what senders were
told could not be delivered because the receiver was gone. A send waits, and is
not enabled, while an open channel is full. -/

namespace PeatSapient.Mpsc

universe u

structure Channel (Message : Type u) where
  capacity : Nat
  received : List Message := []
  buffer : List Message := []
  refused : List Message := []
  closed : Bool := false
  bounded : buffer.length ≤ capacity
  refusedClosed : closed = false → refused = []

variable {Message : Type u}

def channel (capacity : Nat) : Channel Message where
  capacity := capacity
  bounded := Nat.zero_le _
  refusedClosed := fun _ => rfl

namespace Channel

def pushed (channel : Channel Message) : List Message :=
  channel.received ++ channel.buffer

/-- Everything sent so far, in order: a channel refuses only once it is closed. -/
def attempts (channel : Channel Message) : List Message :=
  channel.pushed ++ channel.refused

def Offered (channel : Channel Message) (message : Message) : Prop :=
  message ∈ channel.pushed ∨ message ∈ channel.refused

def send (channel : Channel Message) (message : Message) : Option (Channel Message) :=
  if gone : channel.closed then
    some { channel with
      refused := channel.refused ++ [message]
      refusedClosed := by simp [gone] }
  else if room : channel.buffer.length < channel.capacity then
    some { channel with
      buffer := channel.buffer ++ [message]
      bounded := by
        rw [List.length_append]
        exact room }
  else none

def recv (channel : Channel Message) : Option (Message × Channel Message) :=
  if channel.closed then none else
    match state : channel.buffer with
    | [] => none
    | message :: rest =>
        some (message, { channel with
          received := channel.received ++ [message]
          buffer := rest
          bounded := by
            have held := channel.bounded
            rw [state, List.length_cons] at held
            omega })

/-- The receiver is dropped. What is still buffered is never received. -/
def close (channel : Channel Message) : Channel Message :=
  { channel with closed := true, refusedClosed := by simp }

def full (channel : Channel Message) : Bool :=
  !channel.closed && decide (channel.capacity ≤ channel.buffer.length)

def lastSlot (channel : Channel Message) : Bool :=
  !channel.closed && decide (channel.capacity ≤ channel.buffer.length + 1)

theorem send_fits {channel : Channel Message} (alive : channel.closed = false)
    (room : channel.buffer.length < channel.capacity) (message : Message) :
    ∃ after, channel.send message = some after ∧ after.closed = false ∧
      after.capacity = channel.capacity ∧
      after.buffer.length = channel.buffer.length + 1 := by
  simp [send, alive, room]

theorem full_send {before after : Channel Message} {message : Message}
    (sent : before.send message = some after) : after.full = before.lastSlot := by
  unfold send at sent
  split at sent
  · next gone =>
      cases sent
      simp [full, lastSlot, gone]
  · split at sent
    · cases sent
      simp [full, lastSlot]
    · cases sent

theorem full_recv {before after : Channel Message} {message : Message}
    (taken : before.recv = some (message, after)) : after.full = false := by
  unfold recv at taken
  split at taken
  · cases taken
  · split at taken
    · cases taken
    · next head rest state =>
        cases taken
        have held := before.bounded
        rw [state, List.length_cons] at held
        simp only [full, Bool.and_eq_false_iff, decide_eq_false_iff_not]
        right
        omega

/-- All a send can do: be refused by a closed channel, or append. -/
theorem send_cases {before after : Channel Message} {message : Message}
    (sent : before.send message = some after) :
    (before.closed = true ∧ after.closed = true ∧ after.pushed = before.pushed ∧
        after.refused = before.refused ++ [message]) ∨
      (before.closed = false ∧ after.closed = false ∧
        before.buffer.length < before.capacity ∧
        after.pushed = before.pushed ++ [message] ∧ after.refused = before.refused) := by
  unfold send at sent
  split at sent
  · next gone =>
      cases sent
      exact Or.inl ⟨gone, gone, rfl, rfl⟩
  · next alive =>
      split at sent
      · next room =>
          cases sent
          have stays : before.closed = false := by simpa using alive
          exact Or.inr ⟨stays, stays, room, by simp [pushed], rfl⟩
      · cases sent

theorem recv_cases {before after : Channel Message} {message : Message}
    (taken : before.recv = some (message, after)) :
    before.closed = false ∧ after.closed = false ∧
      before.buffer = message :: after.buffer ∧ after.pushed = before.pushed ∧
      after.received = before.received ++ [message] ∧ after.refused = before.refused := by
  unfold recv at taken
  split at taken
  · cases taken
  · next alive =>
      have stays : before.closed = false := by simpa using alive
      split at taken
      · cases taken
      · next head rest state =>
          cases taken
          exact ⟨stays, stays, state, by simp [pushed, state], rfl, rfl⟩

theorem capacity_send {before after : Channel Message} {message : Message}
    (sent : before.send message = some after) : after.capacity = before.capacity := by
  unfold send at sent
  split at sent
  · cases sent
    rfl
  · split at sent
    · cases sent
      rfl
    · cases sent

theorem capacity_recv {before after : Channel Message} {message : Message}
    (taken : before.recv = some (message, after)) : after.capacity = before.capacity := by
  unfold recv at taken
  split at taken
  · cases taken
  · split at taken <;> cases taken
    rfl

theorem length_send {before after : Channel Message} {message : Message}
    (sent : before.send message = some after) :
    after.buffer.length ≤ before.buffer.length + 1 := by
  unfold send at sent
  split at sent
  · cases sent
    exact Nat.le_succ _
  · split at sent
    · cases sent
      simp
    · cases sent

theorem send_of_empty {channel : Channel Message} (positive : 0 < channel.capacity)
    (drained : channel.closed = false → channel.buffer = []) (message : Message) :
    ∃ after, channel.send message = some after := by
  cases alive : channel.closed with
  | true => exact ⟨_, by simp only [send, alive]; rfl⟩
  | false =>
      obtain ⟨after, sent, _⟩ := send_fits alive (by simpa [drained alive] using positive) message
      exact ⟨after, sent⟩

theorem length_of_full {channel : Channel Message} {message : Message}
    (waits : channel.send message = none) : channel.capacity ≤ channel.buffer.length := by
  unfold send at waits
  split at waits
  · cases waits
  · split at waits
    · cases waits
    · next full => exact Nat.le_of_not_lt full

theorem recv_eq_none (channel : Channel Message) :
    channel.recv = none ↔ (channel.closed = false → channel.buffer = []) := by
  unfold recv
  split
  · next gone => simp [gone]
  · next alive =>
      have stays : channel.closed = false := by simpa using alive
      split <;> simp_all

theorem closed_send {before after : Channel Message} {message : Message}
    (sent : before.send message = some after) : after.closed = before.closed := by
  rcases send_cases sent with ⟨gone, stays, _⟩ | ⟨alive, stays, _⟩
  · rw [gone, stays]
  · rw [alive, stays]

theorem closed_recv {before after : Channel Message} {message : Message}
    (taken : before.recv = some (message, after)) : after.closed = before.closed := by
  obtain ⟨alive, stays, _⟩ := recv_cases taken
  rw [alive, stays]

theorem attempts_send {before after : Channel Message} {message : Message}
    (sent : before.send message = some after) :
    after.attempts = before.attempts ++ [message] := by
  rcases send_cases sent with ⟨_, _, pushed, refused⟩ | ⟨open_, _, _, pushed, refused⟩
  · simp [attempts, pushed, refused]
  · simp [attempts, pushed, refused, before.refusedClosed open_]

theorem attempts_recv {before after : Channel Message} {message : Message}
    (taken : before.recv = some (message, after)) : after.attempts = before.attempts := by
  obtain ⟨_, _, _, pushed, _, refused⟩ := recv_cases taken
  simp [attempts, pushed, refused]

theorem refused_send {before after : Channel Message} {message : Message}
    (sent : before.send message = some after) :
    after.refused = before.refused ++ if before.closed then [message] else [] := by
  rcases send_cases sent with ⟨gone, _, _, refused⟩ | ⟨alive, _, _, _, refused⟩
  · simp [gone, refused]
  · simp [alive, refused]

theorem refused_recv {before after : Channel Message} {message : Message}
    (taken : before.recv = some (message, after)) : after.refused = before.refused := by
  obtain ⟨_, _, _, _, _, refused⟩ := recv_cases taken
  exact refused

@[simp] theorem attempts_close (channel : Channel Message) :
    channel.close.attempts = channel.attempts := rfl

theorem offered_send {before after : Channel Message} {message : Message}
    (sent : before.send message = some after) (other : Message) :
    after.Offered other ↔ before.Offered other ∨ other = message := by
  rcases send_cases sent with ⟨_, _, pushed, refused⟩ | ⟨_, _, _, pushed, refused⟩
  · simp [Offered, pushed, refused, or_assoc]
  · simp only [Offered, pushed, refused, List.mem_append, List.mem_singleton]
    exact or_right_comm

theorem offered_recv {before after : Channel Message} {message : Message}
    (taken : before.recv = some (message, after)) (other : Message) :
    after.Offered other ↔ before.Offered other := by
  obtain ⟨_, _, _, pushed, _, refused⟩ := recv_cases taken
  simp [Offered, pushed, refused]

theorem closed_of_refused (channel : Channel Message) {message : Message}
    (answered : message ∈ channel.refused) : channel.closed = true := by
  cases state : channel.closed with
  | true => rfl
  | false => simp [channel.refusedClosed state] at answered

end Channel

end PeatSapient.Mpsc
