import PeatSapient.Numeric.Reals
import PeatSapient.Transform.Detection
import PeatSapient.Transform.Status

/-! The two decoders of a Location: the one for a sensor's own position, and the one for
what it has detected. -/

namespace PeatSapient

/-- Over exact numbers, both decoders place the location at the same point, or neither
places it. -/
def DecodersAgree (loc : Location Reals) : Prop :=
  match locationToPosition loc, locationToTrackPosition loc with
  | some position, .ok (track, _) =>
      position.latitude = track.latitude ∧ position.longitude = track.longitude ∧
        position.altitude = track.altitude
  | none, .error _ => True
  | _, _ => False

/-- The coordinates are there, in a system that only the second decoder knows: feet, or UTM
with a zone that it parses. -/
def DetectionsOnly {F : Type} (loc : Location F) : Prop :=
  loc.x ≠ none ∧ loc.y ≠ none ∧
    (loc.coordinateSystem = some 3 ∨ loc.coordinateSystem = some 4 ∨
      loc.coordinateSystem = some 5 ∧
        ∃ zone, loc.utmZone = some zone ∧ (parseUtmZone zone).isSome)

/-- The generated conversion knows three systems; the rest count as unspecified. -/
theorem LocationCoordinateSystem.tryFrom_other (raw : Int) (degrees : raw ≠ 1)
    (radians : raw ≠ 2) (utm : raw ≠ 5) :
    tryFrom raw = none ∨ tryFrom raw = some .unspecified := by
  unfold tryFrom
  split <;> simp_all

theorem decodersAgree_unplaced (loc : Location Reals) (missing : loc.x = none ∨ loc.y = none) :
    DecodersAgree loc := by
  unfold DecodersAgree locationToPosition locationToTrackPosition
  cases x : loc.x with
  | none => trivial
  | some _ =>
      cases y : loc.y with
      | none => trivial
      | some _ => simp [x, y] at missing

theorem decodersAgree_metres (loc : Location Reals)
    (here : loc.coordinateSystem = some 1 ∨ loc.coordinateSystem = some 2) :
    DecodersAgree loc := by
  unfold DecodersAgree locationToPosition locationToTrackPosition
  cases loc.x with
  | none => trivial
  | some x =>
      cases loc.y with
      | none => trivial
      | some y =>
          rcases here with degrees | radians
          · rw [degrees]
            exact ⟨rfl, rfl, rfl⟩
          · rw [radians]
            exact ⟨rfl, rfl, rfl⟩

/-- Feet and UTM are unknown to the decoder of a sensor's position. -/
theorem decodersAgree_others (loc : Location Reals) (x : loc.x ≠ none) (y : loc.y ≠ none)
    (degrees : loc.coordinateSystem ≠ some 1) (radians : loc.coordinateSystem ≠ some 2) :
    DecodersAgree loc ↔ ∃ failure, locationToTrackPosition loc = .error failure := by
  have unplaced : locationToPosition loc = none := by
    obtain ⟨x, hasX⟩ := Option.ne_none_iff_exists'.mp x
    obtain ⟨y, hasY⟩ := Option.ne_none_iff_exists'.mp y
    unfold locationToPosition
    rw [hasX, hasY]
    cases system : loc.coordinateSystem with
    | none => rfl
    | some raw =>
        rw [system] at degrees radians
        by_cases utm : raw = 5
        · rw [utm]
          rfl
        · rcases LocationCoordinateSystem.tryFrom_other raw (by simpa using degrees)
            (by simpa using radians) utm with unknown | unspecified
          · simp [unknown]
          · simp [unspecified]
  unfold DecodersAgree
  rw [unplaced]
  cases locationToTrackPosition loc with
  | error failure => simp
  | ok placed => simp

theorem trackPosition_error_iff (loc : Location Reals) (x : loc.x ≠ none) (y : loc.y ≠ none)
    (degrees : loc.coordinateSystem ≠ some 1) (radians : loc.coordinateSystem ≠ some 2) :
    (∃ failure, locationToTrackPosition loc = .error failure) ↔ ¬ DetectionsOnly loc := by
  obtain ⟨east, hasX⟩ := Option.ne_none_iff_exists'.mp x
  obtain ⟨north, hasY⟩ := Option.ne_none_iff_exists'.mp y
  unfold locationToTrackPosition DetectionsOnly
  rw [hasX, hasY]
  cases system : loc.coordinateSystem with
  | none => simp [LocationCoordinateSystem.tryFrom]
  | some raw =>
      rw [system] at degrees radians
      by_cases degreesFeet : raw = 3
      · simp [degreesFeet]
      · by_cases radiansFeet : raw = 4
        · simp [radiansFeet]
        · by_cases utm : raw = 5
          · subst utm
            cases zoned : loc.utmZone with
            | none => simp [LocationCoordinateSystem.tryFrom]
            | some zone =>
                cases parsed : parseUtmZone zone <;>
                  simp [LocationCoordinateSystem.tryFrom, parsed]
          · rcases LocationCoordinateSystem.tryFrom_other raw (by simpa using degrees)
              (by simpa using radians) utm with unknown | unspecified
            · simp [degreesFeet, radiansFeet, utm, unknown]
            · simp [degreesFeet, radiansFeet, utm, unspecified]

/-- The two decoders agree on a location exactly if it is not one that only detections can
be placed with. -/
theorem decoders_agree_iff (loc : Location Reals) : DecodersAgree loc ↔ ¬ DetectionsOnly loc := by
  by_cases missing : loc.x = none ∨ loc.y = none
  · have unplaced : ¬ DetectionsOnly loc := by
      rintro ⟨x, y, _⟩
      exact missing.elim x y
    exact iff_of_true (decodersAgree_unplaced loc missing) unplaced
  · obtain ⟨x, y⟩ := not_or.mp missing
    by_cases known : loc.coordinateSystem = some 1 ∨ loc.coordinateSystem = some 2
    · have both : ¬ DetectionsOnly loc := by
        rintro ⟨_, _, degrees | radians | ⟨utm, _⟩⟩ <;> simp_all
      exact iff_of_true (decodersAgree_metres loc known) both
    · obtain ⟨degrees, radians⟩ := not_or.mp known
      rw [decodersAgree_others loc x y degrees radians,
        trackPosition_error_iff loc x y degrees radians]

/-- A StatusReport's location in degrees and feet is not placed. -/
theorem feet_unplaced : ¬ ∀ loc : Location Reals, DecodersAgree loc := by
  intro agree
  have held := agree { x := some 0.0, y := some 0.0, coordinateSystem := some 3 }
  exact held

end PeatSapient
