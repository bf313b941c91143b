import Mathlib.Data.List.Perm.Basic
import PeatSapient.Lib.Execution
import PeatSapient.TaskQueue

/-! Accounting for the task queue. The ledger keeps every entry ever enqueued,
in order, with what became of it; calls are numbered from zero. It is a
specification: entries are never dropped, only their fate is written. The
queue's own code is run beside it, and the two are shown to agree. -/

namespace PeatSapient.Ledger

open Execution HashMap

variable {Msg : Type}

inductive Fate where
  | pending
  | evicted (call : Nat)
  | expired (call : Nat)
  | acked (call : Nat)
  deriving DecidableEq

def Fate.settledBy : Fate → Option Nat
  | .pending => none
  | .evicted call => some call
  | .expired call => some call
  | .acked call => some call

@[simp] theorem settledBy_pending : Fate.pending.settledBy = none := rfl

structure Entry (Msg : Type) where
  issued : Nat
  nodeId : String
  task : QueuedTask Msg
  fate : Fate

def waiting (ledger : List (Entry Msg)) (nodeId : String) : List (Entry Msg) :=
  ledger.filter fun entry => entry.fate = .pending ∧ entry.nodeId = nodeId

def settled (ledger : List (Entry Msg)) (call : Nat) : List (Entry Msg) :=
  ledger.filter fun entry => entry.fate.settledBy = some call

def Entry.origin (entry : Entry Msg) : Nat × String × QueuedTask Msg :=
  (entry.issued, entry.nodeId, entry.task)

def Entry.withFate (entry : Entry Msg) (fate : Fate) : Entry Msg :=
  { entry with fate := fate }

@[simp] theorem withFate_fate (entry : Entry Msg) (fate : Fate) :
    (entry.withFate fate).fate = fate := rfl

@[simp] theorem withFate_issued (entry : Entry Msg) (fate : Fate) :
    (entry.withFate fate).issued = entry.issued := rfl

@[simp] theorem withFate_nodeId (entry : Entry Msg) (fate : Fate) :
    (entry.withFate fate).nodeId = entry.nodeId := rfl

@[simp] theorem withFate_task (entry : Entry Msg) (fate : Fate) :
    (entry.withFate fate).task = entry.task := rfl

theorem mem_waiting (ledger : List (Entry Msg)) (nodeId : String) (entry : Entry Msg) :
    entry ∈ waiting ledger nodeId ↔
      entry ∈ ledger ∧ entry.fate = .pending ∧ entry.nodeId = nodeId := by
  simp [waiting]

def retire (fate : Fate) (chosen : Entry Msg → Bool) (ledger : List (Entry Msg)) :
    List (Entry Msg) :=
  ledger.map fun entry =>
    if entry.fate = .pending ∧ chosen entry = true then entry.withFate fate else entry

def retireOldest (fate : Fate) (nodeId : String) : List (Entry Msg) → List (Entry Msg)
  | [] => []
  | entry :: rest =>
      if entry.fate = .pending ∧ entry.nodeId = nodeId then
        entry.withFate fate :: rest
      else entry :: retireOldest fate nodeId rest

inductive Operation (Msg : Type) where
  | enqueue (nodeId taskId : String) (msg : Msg)
  | ack (nodeId taskId : String)
  | drainExpired

inductive Answer where
  | evicted (taskId : Option String)
  | acked
  | drained (taskIds : List String)

def perform (queue : TaskQueue Msg) (now : Nat) : Operation Msg → Answer × TaskQueue Msg
  | .enqueue nodeId taskId msg =>
      let result := queue.enqueue now nodeId taskId msg
      (.evicted result.1, result.2)
  | .ack nodeId taskId => (.acked, queue.ack nodeId taskId)
  | .drainExpired =>
      let result := queue.drainExpired now
      (.drained result.1, result.2)

/-- Enter one operation, the call with the given number, into the ledger. -/
def post (maxDepth ttl call now : Nat) (ledger : List (Entry Msg)) :
    Operation Msg → List (Entry Msg)
  | .enqueue nodeId taskId msg =>
      (if maxDepth ≤ (waiting ledger nodeId).length then
        retireOldest (.evicted call) nodeId ledger
      else ledger) ++ [⟨call, nodeId, ⟨msg, taskId, now, ttl⟩, .pending⟩]
  | .ack nodeId taskId =>
      retire (.acked call)
        (fun entry => entry.nodeId = nodeId ∧ entry.task.taskId = taskId) ledger
  | .drainExpired => retire (.expired call) (fun entry => entry.task.expired now) ledger

structure Call (Msg : Type) where
  now : Nat
  operation : Operation Msg
  answer : Answer

structure Books (Msg : Type) where
  queue : TaskQueue Msg
  ledger : List (Entry Msg)
  clock : Nat
  log : List (Call Msg)

-- Calls come at non-decreasing clock values; any other step is not enabled.
def books (maxDepth ttl : Nat) : Machine (Books Msg) (Nat × Operation Msg) where
  init := ⟨TaskQueue.new maxDepth ttl, [], 0, []⟩
  step state action :=
    if state.clock ≤ action.1 then
      let result := perform state.queue action.1 action.2
      some {
        queue := result.2
        ledger := post maxDepth ttl state.log.length action.1 state.ledger action.2
        clock := action.1
        log := state.log ++ [⟨action.1, action.2, result.1⟩] }
    else none

def enqueued (ttl : Nat) (log : List (Call Msg)) : List (Nat × String × QueuedTask Msg) :=
  log.zipIdx.filterMap fun call => match call.1.operation with
    | .enqueue nodeId taskId msg =>
        some (call.2, nodeId, ⟨msg, taskId, call.1.now, ttl⟩)
    | _ => none

def Accounts (number : Nat) (call : Call Msg) (settled : List (Entry Msg)) : Prop :=
  match call.operation, call.answer with
  | .enqueue nodeId _ _, .evicted evicted =>
      (settled = [] ∧ evicted = none) ∨
        ∃ entry, settled = [entry] ∧ entry.fate = .evicted number ∧
          entry.nodeId = nodeId ∧ evicted = some entry.task.taskId
  | .ack nodeId taskId, .acked => ∀ entry ∈ settled,
      entry.fate = .acked number ∧ entry.nodeId = nodeId ∧ entry.task.taskId = taskId
  | .drainExpired, .drained taskIds =>
      taskIds.Perm (settled.map fun entry => entry.task.taskId) ∧
        ∀ entry ∈ settled, entry.fate = .expired number
  | _, _ => False

/-! The effect of the two ways of writing a fate, on what is pending and on what
a call has settled. -/

theorem waiting_retire (fate : Fate) (spent : fate ≠ .pending) (chosen : Entry Msg → Bool)
    (ledger : List (Entry Msg)) (nodeId : String) :
    waiting (retire fate chosen ledger) nodeId =
      (waiting ledger nodeId).filter fun entry => !chosen entry := by
  induction ledger with
  | nil => rfl
  | cons entry rest ih =>
      by_cases pending : entry.fate = .pending
      · by_cases hit : chosen entry = true <;> by_cases here : entry.nodeId = nodeId <;>
          simp_all [waiting, retire]
      · simp_all [waiting, retire]

theorem waiting_retireOldest (fate : Fate) (spent : fate ≠ .pending) (nodeId : String)
    (ledger : List (Entry Msg)) (other : String) :
    waiting (retireOldest fate nodeId ledger) other =
      if other = nodeId then (waiting ledger nodeId).tail else waiting ledger other := by
  induction ledger with
  | nil => simp [waiting, retireOldest]
  | cons entry rest ih =>
      by_cases hit : entry.fate = .pending ∧ entry.nodeId = nodeId
      · obtain ⟨pending, here⟩ := hit
        subst here
        by_cases same : other = entry.nodeId
        · subst same
          simp [waiting, retireOldest, pending, spent]
        · simp [waiting, retireOldest, pending, spent, Ne.symm same, same]
      · have step : retireOldest fate nodeId (entry :: rest) =
            entry :: retireOldest fate nodeId rest := by simp [retireOldest, hit]
        rw [step]
        by_cases same : other = nodeId
        · subst same
          simp only [if_true] at ih ⊢
          simpa [waiting, List.filter_cons, hit] using ih
        · simp only [same, if_false] at ih ⊢
          by_cases here : entry.fate = .pending ∧ entry.nodeId = other
          · simpa [waiting, List.filter_cons, here] using ih
          · simpa [waiting, List.filter_cons, here] using ih

theorem settled_retire (fate : Fate) (call : Nat) (writes : fate.settledBy = some call)
    (chosen : Entry Msg → Bool) (ledger : List (Entry Msg))
    (fresh : settled ledger call = []) :
    settled (retire fate chosen ledger) call =
      (ledger.filter fun entry => entry.fate = .pending ∧ chosen entry = true).map
        fun entry => entry.withFate fate := by
  induction ledger with
  | nil => rfl
  | cons entry rest ih =>
      have clear := List.filter_eq_nil_iff.mp fresh
      have headClear : entry.fate.settledBy ≠ some call := by
        simpa using clear entry List.mem_cons_self
      have tail := ih (List.filter_eq_nil_iff.mpr
        fun other member => clear other (List.mem_cons_of_mem entry member))
      unfold settled retire at tail
      by_cases hit : entry.fate = .pending ∧ chosen entry = true
      · simp [settled, retire, hit, writes, tail]
      · simp [settled, retire, hit, headClear, tail]

theorem settled_retire_other (fate : Fate) (call other : Nat)
    (writes : fate.settledBy = some call) (different : other ≠ call)
    (chosen : Entry Msg → Bool) (ledger : List (Entry Msg)) :
    settled (retire fate chosen ledger) other = settled ledger other := by
  induction ledger with
  | nil => rfl
  | cons entry rest ih =>
      unfold settled retire at ih
      by_cases hit : entry.fate = .pending ∧ chosen entry = true
      · simp [settled, retire, hit, writes, Ne.symm different, ih]
      · simp [settled, retire, hit, List.filter_cons, ih]

theorem settled_retireOldest (fate : Fate) (call : Nat)
    (writes : fate.settledBy = some call) (nodeId : String) (ledger : List (Entry Msg))
    (fresh : settled ledger call = []) :
    settled (retireOldest fate nodeId ledger) call =
      ((waiting ledger nodeId).take 1).map fun entry => entry.withFate fate := by
  induction ledger with
  | nil => rfl
  | cons entry rest ih =>
      have clear := List.filter_eq_nil_iff.mp fresh
      have headClear : entry.fate.settledBy ≠ some call := by
        simpa using clear entry List.mem_cons_self
      have restClear : settled rest call = [] := List.filter_eq_nil_iff.mpr
        fun other member => clear other (List.mem_cons_of_mem entry member)
      by_cases hit : entry.fate = .pending ∧ entry.nodeId = nodeId
      · unfold settled at restClear
        simp [settled, retireOldest, waiting, hit, writes, restClear]
      · have tail := ih restClear
        unfold settled waiting at tail
        simp [settled, retireOldest, waiting, hit, headClear, tail]

theorem settled_retireOldest_other (fate : Fate) (call other : Nat)
    (writes : fate.settledBy = some call) (different : other ≠ call) (nodeId : String)
    (ledger : List (Entry Msg)) :
    settled (retireOldest fate nodeId ledger) other = settled ledger other := by
  induction ledger with
  | nil => rfl
  | cons entry rest ih =>
      unfold settled at ih
      by_cases hit : entry.fate = .pending ∧ entry.nodeId = nodeId
      · simp [settled, retireOldest, hit, writes, Ne.symm different]
      · simp [settled, retireOldest, hit, List.filter_cons, ih]

theorem origins_retire (fate : Fate) (chosen : Entry Msg → Bool)
    (ledger : List (Entry Msg)) :
    (retire fate chosen ledger).map Entry.origin = ledger.map Entry.origin := by
  rw [retire, List.map_map]
  apply List.map_congr_left
  intro entry _
  simp only [Function.comp_apply]
  split <;> rfl

theorem origins_retireOldest (fate : Fate) (nodeId : String) (ledger : List (Entry Msg)) :
    (retireOldest fate nodeId ledger).map Entry.origin = ledger.map Entry.origin := by
  induction ledger with
  | nil => rfl
  | cons entry rest ih =>
      unfold retireOldest
      split
      · rfl
      · rw [List.map_cons, ih, List.map_cons]

end PeatSapient.Ledger
