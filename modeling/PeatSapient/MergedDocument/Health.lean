import PeatSapient.MergedDocument

/-! What a StatusReport that says nothing about health does to the health its node's
document shows. The operational status is left out of such a report; the health is
written as "unspecified" all the same. -/

namespace PeatSapient.MergedDocument

open HashMap FieldMerge

variable {F : Type}

def saysNothing (sr : StatusReport F) : Bool :=
  match sr.system with
  | none => true
  | some system =>
      match System.tryFrom system with
      | none | some .unspecified => true
      | some _ => false

def statusReports (history : List (PlatformMessage F)) : List (StatusReport F) :=
  history.filterMap fun
    | .registration _ => none
    | .statusReport sr => some sr

/-- The last StatusReport of a history is there, and it said nothing either. -/
def lastSaidNothing (history : List (PlatformMessage F)) : Bool :=
  (statusReports history).getLast?.any saysNothing

theorem health_unspecified_iff (sr : StatusReport F) :
    systemToHealth (sr.system.getD 0) = .unspecified ↔ saysNothing sr = true := by
  unfold systemToHealth saysNothing
  cases sr.system with
  | none => simp [System.tryFrom]
  | some system =>
      simp only [Option.getD_some]
      cases System.tryFrom system with
      | none => simp
      | some known => cases known <;> simp

theorem operationalStatus_unspecified_iff (sr : StatusReport F) :
    systemToOperationalStatus (sr.system.getD 0) = .unspecified ↔ saysNothing sr = true := by
  unfold systemToOperationalStatus saysNothing
  cases sr.system with
  | none => simp [System.tryFrom]
  | some system =>
      simp only [Option.getD_some]
      cases System.tryFrom system with
      | none => simp
      | some known => cases known <;> simp

theorem healthStatusStr_injective {left right : HealthStatus}
    (same : healthStatusStr left = healthStatusStr right) : left = right := by
  cases left <;> cases right <;> first | rfl | simp [healthStatusStr] at same

variable [FloatOps F]

/-- The health as a message writes it: every StatusReport does, no Registration. -/
def healthField : PlatformMessage F → Option (Json F)
  | .registration _ => none
  | .statusReport sr => some (.string (healthStatusStr (systemToHealth (sr.system.getD 0))))

theorem lookup_health (nodeId : String) (message : PlatformMessage F) :
    (platformDocument nodeId message).fields.lookup "health" = healthField message := by
  cases message with
  | registration reg =>
      simp [platformDocument, documentFromFields, lookup_platformToFields, advertisedField,
        healthField]
  | statusReport sr =>
      simp only [platformDocument, statusDocument, documentFromFields, lookup_platformToFields,
        Option.bind_some, stateField, fromStatusReport, nodeStateOf, healthField]
      cases sr.nodeLocation.bind locationToPosition <;> simp [positionField]

/-- A StatusReport that says nothing leaves the operational status out. -/
theorem lookup_operationalStatus (nodeId : String) {sr : StatusReport F}
    (silent : saysNothing sr = true) :
    (platformDocument nodeId (.statusReport sr)).fields.lookup "operational_status" = none := by
  have unspecified := (operationalStatus_unspecified_iff sr).mpr silent
  have unadvertised : advertisedField "operational_status"
      ((capabilityDelta nodeId sr).getD { nodeId := nodeId }) = none := by
    unfold capabilityDelta
    split <;> simp [advertisedField, unspecified]
  simp only [platformDocument, statusDocument, documentFromFields, lookup_platformToFields,
    Option.bind_some, stateField, fromStatusReport, nodeStateOf, unadvertised]
  cases sr.nodeLocation.bind locationToPosition with
  | none =>
      rw [Option.bind_none, Option.none_or, if_neg (by decide), if_neg (by decide)]
      rfl
  | some position =>
      rw [Option.bind_some, positionField, if_neg (by decide), if_neg (by decide),
        if_neg (by decide), if_neg (by decide), if_neg (by decide)]
      rfl

/-- The merged health is the one of the last StatusReport. -/
theorem merged_health (mesh : MeshMerge F) (nodeId : String)
    (history : List (PlatformMessage F)) :
    (merged mesh nodeId history).lookup "health" =
      (statusReports history).getLast?.map fun sr =>
        .string (healthStatusStr (systemToHealth (sr.system.getD 0))) := by
  have writes : (history.map fun message => (platformDocument nodeId message).fields).filterMap
      (fun write => write.lookup "health") =
        (statusReports history).map fun sr =>
          .string (healthStatusStr (systemToHealth (sr.system.getD 0))) := by
    rw [List.filterMap_map, statusReports, List.map_filterMap]
    congr 1
    funext message
    cases message <;> simp [lookup_health, healthField]
  rw [merged, lookup_mergeAll, writes, List.getLast?_map]

/-- A StatusReport that says nothing about health never touches the operational status. It
leaves the health as it was exactly when the last StatusReport said nothing either. -/
theorem health_kept_iff (mesh : MeshMerge F) (nodeId : String)
    (history : List (PlatformMessage F)) (sr : StatusReport F)
    (silent : saysNothing sr = true) :
    ((merged mesh nodeId (history ++ [.statusReport sr])).lookup "operational_status" =
        (merged mesh nodeId history).lookup "operational_status" ∧
      (merged mesh nodeId (history ++ [.statusReport sr])).lookup "health" =
        (merged mesh nodeId history).lookup "health") ↔
      lastSaidNothing history = true := by
  have status : (merged mesh nodeId (history ++ [.statusReport sr])).lookup
      "operational_status" = (merged mesh nodeId history).lookup "operational_status" := by
    rw [merged_snoc, mesh.lookup_merge, lookup_operationalStatus nodeId silent,
      Option.none_or]
  have overwritten : (merged mesh nodeId (history ++ [.statusReport sr])).lookup "health" =
      some (.string (healthStatusStr .unspecified)) := by
    rw [merged_snoc, mesh.lookup_merge, lookup_health, healthField,
      (health_unspecified_iff sr).mpr silent, Option.some_or]
  rw [and_iff_right status, overwritten, merged_health, lastSaidNothing]
  cases (statusReports history).getLast? with
  | none => simp
  | some last =>
      simp only [Option.map_some, Option.some.injEq, Json.string.injEq, Option.any_some,
        ← health_unspecified_iff]
      constructor
      · intro same
        exact (healthStatusStr_injective same).symm
      · intro unspecified
        rw [unspecified]

def wellThenBattery : List (PlatformMessage Float) :=
  [.registration {}, .statusReport { system := some 1 }]

def batteryReport : StatusReport Float := { power := some { level := some 80 } }

/-- The known health is gone. -/
theorem health_erased :
    ¬ ∀ (mesh : MeshMerge Float) (nodeId : String)
        (history : List (PlatformMessage Float)) (sr : StatusReport Float),
        saysNothing sr = true →
        (merged mesh nodeId (history ++ [.statusReport sr])).lookup "operational_status" =
            (merged mesh nodeId history).lookup "operational_status" ∧
          (merged mesh nodeId (history ++ [.statusReport sr])).lookup "health" =
            (merged mesh nodeId history).lookup "health" := by
  intro claim
  have same := (claim preferWrite "n" wellThenBattery batteryReport (by decide)).2
  rw [merged_health, merged_health] at same
  simp [statusReports, wellThenBattery, batteryReport, systemToHealth, System.tryFrom,
    healthStatusStr] at same

theorem health_kept_iff_batteryTwice :
    (merged preferWrite "n" [.statusReport batteryReport, .statusReport batteryReport]).lookup
        "operational_status" =
        (merged preferWrite "n" [.statusReport batteryReport]).lookup "operational_status" ∧
      (merged preferWrite "n" [.statusReport batteryReport, .statusReport batteryReport]).lookup
        "health" = (merged preferWrite "n" [.statusReport batteryReport]).lookup "health" :=
  (health_kept_iff preferWrite "n" [.statusReport batteryReport] batteryReport
    (by decide)).mpr (by decide)

end PeatSapient.MergedDocument
