import PeatSapient.MergedDocument
import PeatSapient.Numeric.Exact
import PeatSapient.Transform.Task

/-! The two places where a peat-schema timestamp becomes a signed number: the milliseconds
of a track's document and the end time of a task. -/

namespace PeatSapient

open HashMap MergedDocument

variable {F : Type} [FloatOps F]

namespace SchemaTimestamp

structure WellFormed (moment : SchemaTimestamp) : Prop where
  seconds : moment.seconds < 2 ^ 64
  nanos : moment.nanos < 1000000000

def NotAfter (earlier later : SchemaTimestamp) : Prop :=
  earlier.seconds < later.seconds ∨
    earlier.seconds = later.seconds ∧ earlier.nanos ≤ later.nanos

def millis (moment : SchemaTimestamp) : Nat := moment.seconds * 1000 + moment.nanos / 1000000

def SumFits (moment : SchemaTimestamp) : Prop :=
  min (moment.seconds * 1000) (2 ^ 64 - 1) + moment.nanos / 1000000 < 2 ^ 64

instance (moment : SchemaTimestamp) : Decidable moment.SumFits :=
  inferInstanceAs (Decidable (_ < _))

theorem NotAfter.millis_le {earlier later : SchemaTimestamp} (formed : earlier.WellFormed)
    (order : earlier.NotAfter later) : earlier.millis ≤ later.millis := by
  have below := formed.nanos
  unfold millis
  rcases order with less | ⟨same, nanos⟩
  · omega
  · have divided := Nat.div_le_div_right (c := 1000000) nanos
    omega

end SchemaTimestamp

theorem asI64_nonneg_iff {value : Nat} (word : value < 2 ^ 64) :
    0 ≤ asI64 value ↔ value < 2 ^ 63 := by
  unfold asI64
  split <;> omega

theorem asI64_small {value : Nat} (small : value < 2 ^ 63) : asI64 value = value :=
  if_pos small

theorem asI32_small {value : Nat} (small : value < 2 ^ 31) : asI32 value = value :=
  if_pos small

open SchemaTimestamp

/-- Below the limit nothing saturates, overflows or wraps. -/
theorem timestampMs_small {moment : SchemaTimestamp} (small : moment.millis < 2 ^ 63) :
    moment.SumFits ∧ timestampMs moment = moment.millis := by
  unfold millis at small
  have unsaturated : min (moment.seconds * 1000) (2 ^ 64 - 1) = moment.seconds * 1000 :=
    Nat.min_eq_left (by omega)
  constructor
  · unfold SumFits
    omega
  · rw [timestampMs, unsaturated, Nat.mod_eq_of_lt (by omega)]
    exact asI64_small small

/-- From the limit on the sum overflows or the cast makes it negative. -/
theorem timestampMs_large {moment : SchemaTimestamp} (large : 2 ^ 63 ≤ moment.millis)
    (fits : moment.SumFits) : timestampMs moment < 0 := by
  unfold SumFits at fits
  unfold millis at large
  have word := (asI64_nonneg_iff fits).not
  rw [timestampMs, Nat.mod_eq_of_lt fits]
  have negative := word.mpr (by omega)
  omega

def MillisOrdered (earlier later : Track F) : Prop :=
  ∃ before after, (trackToFields earlier).2.lookup "timestamp_ms" = some (.integer before) ∧
    (trackToFields later).2.lookup "timestamp_ms" = some (.integer after) ∧
      0 ≤ before ∧ before ≤ after

def taskEndTime (msg : SapientMessage F) : Option Timestamp :=
  match msg.content with
  | some (.task task) => task.taskEndTime
  | _ => none

def EndsOrdered (earlier later : SapientMessage F) : Prop :=
  ∃ before after, taskEndTime earlier = some before ∧ taskEndTime later = some after ∧
    0 ≤ before.seconds ∧ (before.seconds < after.seconds ∨
      before.seconds = after.seconds ∧ before.nanos ≤ after.nanos)

theorem lookup_timestamp {track : Track F} {moment : SchemaTimestamp}
    (seen : track.lastSeen = some moment) :
    (trackToFields track).2.lookup "timestamp_ms" = some (.integer (timestampMs moment)) := by
  rw [lookup_trackToFields]
  simp [trackField, seen]

omit [FloatOps F] in
theorem taskEndTime_of_toTask {missionName : Int → String} {ulid : String}
    {startTime sendTime : Nat} {sourceNodeId destinationNodeId : String}
    {cmd : HierarchicalCommand} {msg : SapientMessage F} {moment : SchemaTimestamp}
    (expires : cmd.expiresAt = some moment)
    (accepted : toTask missionName ulid startTime sendTime sourceNodeId destinationNodeId cmd =
      .ok msg) :
    taskEndTime msg = some ⟨asI64 moment.seconds, asI32 moment.nanos⟩ := by
  obtain ⟨_, _, _, _, content⟩ := toTask_ok accepted
  simp [taskEndTime, content, taskOf, expires]

theorem millisOrdered_iff {a b : SchemaTimestamp} (formed : a.WellFormed)
    (order : a.NotAfter b) {earlier later : Track F} (first : earlier.lastSeen = some a)
    (second : later.lastSeen = some b) :
    (a.SumFits ∧ b.SumFits ∧ MillisOrdered earlier later) ↔ b.millis < 2 ^ 63 := by
  have grows := order.millis_le formed
  constructor
  · rintro ⟨_, fits, before, after, read, written, positive, increasing⟩
    by_contra large
    have negative := timestampMs_large (by omega) fits
    rw [lookup_timestamp second] at written
    cases written
    omega
  · intro small
    obtain ⟨fitsA, valueA⟩ := timestampMs_small (by omega : a.millis < 2 ^ 63)
    obtain ⟨fitsB, valueB⟩ := timestampMs_small small
    refine ⟨fitsA, fitsB, _, _, lookup_timestamp first, lookup_timestamp second, ?_, ?_⟩ <;>
      omega

omit [FloatOps F] in
theorem endsOrdered_iff {a b : SchemaTimestamp} (formedA : a.WellFormed)
    (formedB : b.WellFormed) (order : a.NotAfter b) {earlier later : SapientMessage F}
    (first : taskEndTime earlier = some ⟨asI64 a.seconds, asI32 a.nanos⟩)
    (second : taskEndTime later = some ⟨asI64 b.seconds, asI32 b.nanos⟩) :
    EndsOrdered earlier later ↔ b.seconds < 2 ^ 63 := by
  have belowA := formedA.nanos
  have belowB := formedB.nanos
  have nanosA : asI32 a.nanos = a.nanos := asI32_small (by omega)
  have nanosB : asI32 b.nanos = b.nanos := asI32_small (by omega)
  constructor
  · rintro ⟨before, after, read, written, positive, increasing⟩
    rw [first] at read
    rw [second] at written
    cases read
    cases written
    have nonneg : 0 ≤ asI64 b.seconds := by
      dsimp only at positive increasing
      omega
    exact (asI64_nonneg_iff formedB.seconds).mp nonneg
  · intro small
    have smaller : a.seconds < 2 ^ 63 := by
      rcases order with less | ⟨same, _⟩ <;> omega
    refine ⟨_, _, first, second, ?_, ?_⟩
    · simp [asI64_small smaller]
    · simp only [asI64_small smaller, asI64_small small, nanosA, nanosB]
      rcases order with less | ⟨same, nanos⟩
      · left
        omega
      · right
        constructor <;> omega

/-- Both conversions keep the order of two moments exactly where the later one is within
the signed range. -/
theorem timestamps_ordered_iff {a b : SchemaTimestamp} (formedA : a.WellFormed)
    (formedB : b.WellFormed) (order : a.NotAfter b) :
    (∀ earlier later : Track F, earlier.lastSeen = some a → later.lastSeen = some b →
      ((a.SumFits ∧ b.SumFits ∧ MillisOrdered earlier later) ↔ b.millis < 2 ^ 63)) ∧
    ∀ (missionName : Int → String) (ulids : String × String) (starts sends : Nat × Nat)
      (sourceNodeId destinationNodeId : String) (first second : HierarchicalCommand)
      (earlier later : SapientMessage F),
      first.expiresAt = some a → second.expiresAt = some b →
      toTask missionName ulids.1 starts.1 sends.1 sourceNodeId destinationNodeId first =
        .ok earlier →
      toTask missionName ulids.2 starts.2 sends.2 sourceNodeId destinationNodeId second =
        .ok later →
      (EndsOrdered earlier later ↔ b.seconds < 2 ^ 63) := by
  constructor
  · intro earlier later seenA seenB
    exact millisOrdered_iff formedA order seenA seenB
  · intro missionName ulids starts sends sourceNodeId destinationNodeId first second
      earlier later expiresA expiresB acceptedA acceptedB
    exact endsOrdered_iff formedA formedB order (taskEndTime_of_toTask expiresA acceptedA)
      (taskEndTime_of_toTask expiresB acceptedB)

def trackSeen (moment : SchemaTimestamp) : Track (Exact identities) where
  trackId := "t"
  classification := ""
  confidence := .ofRat 0
  position := none
  velocity := none
  positionError := none
  state := .confirmed
  source := none
  attributesJson := ""
  firstSeen := none
  lastSeen := some moment
  observationCount := 1

def orderUntil (moment : SchemaTimestamp) : HierarchicalCommand :=
  ⟨"c", some .formationChange, some moment⟩

def orderMessage (moment : SchemaTimestamp) : SapientMessage (Exact identities) where
  timestamp := some (nowProtoTs 0)
  nodeId := some "s"
  destinationId := some "d"
  content := some (.task (taskOf (fun _ => "") "u" 0 (orderUntil moment)))

theorem timestamps_ordered_iff_seconds :
    MillisOrdered (trackSeen ⟨1, 0⟩) (trackSeen ⟨2, 500000000⟩) ∧
      EndsOrdered (orderMessage ⟨1, 0⟩) (orderMessage ⟨2, 500000000⟩) := by
  have formed : SchemaTimestamp.WellFormed ⟨1, 0⟩ := ⟨by decide, by decide⟩
  have later : SchemaTimestamp.WellFormed ⟨2, 500000000⟩ := ⟨by decide, by decide⟩
  have both := timestamps_ordered_iff (F := Exact identities) formed later (.inl (by decide))
  constructor
  · exact ((both.1 (trackSeen ⟨1, 0⟩) (trackSeen ⟨2, 500000000⟩) rfl rfl).mpr (by decide)).2.2
  · exact (both.2 (fun _ => "") ("u", "u") (0, 0) (0, 0) "s" "d" (orderUntil ⟨1, 0⟩)
      (orderUntil ⟨2, 500000000⟩) _ _ rfl rfl rfl rfl).mpr (by decide)

/-- A moment of `2 ^ 63` seconds is a millisecond before the epoch in a track's document,
and its seconds are negative in a task. -/
theorem timestamps_wrap :
    ∃ moment : SchemaTimestamp, moment.WellFormed ∧ moment.NotAfter moment ∧
      (trackToFields (trackSeen moment)).2.lookup "timestamp_ms" = some (.integer (-1)) ∧
      ¬ MillisOrdered (trackSeen moment) (trackSeen moment) ∧
      toTask (fun _ => "") "u" 0 0 "s" "d" (orderUntil moment) = .ok (orderMessage moment) ∧
      taskEndTime (orderMessage moment) = some ⟨-2 ^ 63, 0⟩ ∧
      ¬ EndsOrdered (orderMessage moment) (orderMessage moment) := by
  have formed : SchemaTimestamp.WellFormed ⟨2 ^ 63, 0⟩ := ⟨by decide, by decide⟩
  have order : SchemaTimestamp.NotAfter ⟨2 ^ 63, 0⟩ ⟨2 ^ 63, 0⟩ := .inr ⟨rfl, by decide⟩
  have fits : SchemaTimestamp.SumFits ⟨2 ^ 63, 0⟩ := by decide
  refine ⟨⟨2 ^ 63, 0⟩, formed, order, rfl, ?_, rfl, rfl, ?_⟩
  · intro ordered
    have within := (millisOrdered_iff formed order rfl rfl).mp ⟨fits, fits, ordered⟩
    exact absurd within (by decide)
  · intro ordered
    have within := (endsOrdered_iff formed formed order rfl rfl).mp ordered
    exact absurd within (by decide)

end PeatSapient
