import PeatSapient.Transform.Detection

/-! UTM zone designators, and what `parse_utm_zone` takes for one. -/

namespace PeatSapient

def decimalStep (value : Nat) (char : Char) : Nat := value * 10 + (char.toNat - '0'.toNat)

structure Decimal (digits : List Char) (number : Nat) : Prop where
  written : digits ≠ []
  digital : ∀ char ∈ digits, char.isDigit = true
  value : digits.foldl decimalStep 0 = number

def isBand (letter : Char) : Bool :=
  ['C', 'D', 'E', 'F', 'G', 'H', 'J', 'K', 'L', 'M', 'N', 'P', 'Q', 'R', 'S', 'T', 'U', 'V',
    'W', 'X'].contains letter.toUpper

def isNorthern (letter : Char) : Bool := decide ('N'.toNat ≤ letter.toUpper.toNat)

/-- What a zone string designates: a zone from 1 to 60 and a latitude band. -/
def Designates (zone : String) (number : Nat) (north : Bool) : Prop :=
  ∃ digits letter, trim zone.toList = digits ++ [letter] ∧ Decimal digits number ∧
    (1 ≤ number ∧ number ≤ 60) ∧ isBand letter = true ∧ isNorthern letter = north

/-- The part before the last character reads as a zone, but there is a plus sign before it
or no band after it. -/
def Misread (zone : String) : Prop :=
  ∃ front letter number, trim zone.toList = front ++ [letter] ∧ parseU8 front = some number ∧
    (1 ≤ number ∧ number ≤ 60) ∧ (front.head? = some '+' ∨ isBand letter = false)

def ParsedExactly (zone : String) : Prop :=
  ∀ number north, parseUtmZone zone = some (number, north) ↔ Designates zone number north

def MalformedRejected (F : Type) [FloatOps F] (zone : String) : Prop :=
  ∀ loc : Location F, loc.coordinateSystem = some 5 → loc.utmZone = some zone →
    (¬ ∃ number north, Designates zone number north) →
      ∃ failure, locationToTrackPosition loc = .error failure

theorem digitValue_eq (char : Char) :
    digitValue char = if char.isDigit then some (char.toNat - '0'.toNat) else none := by
  unfold digitValue Char.isDigit
  by_cases low : '0' ≤ char <;> by_cases high : char ≤ '9' <;>
    simp_all [Char.le_def, UInt32.le_iff_toNat_le]

theorem decimalStep_le (digits : List Char) (value : Nat) :
    value ≤ digits.foldl decimalStep value := by
  induction digits generalizing value with
  | nil => exact Nat.le_refl _
  | cons char rest ih =>
      have step : value ≤ decimalStep value char := by
        unfold decimalStep
        omega
      exact Nat.le_trans step (ih _)

theorem parseDigits_iff (digits : List Char) (value number : Nat) (small : value < 256) :
    parseDigits value digits = some number ↔
      (∀ char ∈ digits, char.isDigit = true) ∧ digits.foldl decimalStep value = number ∧
        number < 256 := by
  induction digits generalizing value with
  | nil =>
      simp only [parseDigits, Option.some.injEq, List.foldl_nil]
      constructor
      · rintro rfl
        exact ⟨by simp, rfl, small⟩
      · rintro ⟨_, same, _⟩
        exact same
  | cons char rest ih =>
      have grows := decimalStep_le rest (decimalStep value char)
      rw [parseDigits, digitValue_eq, List.foldl_cons]
      by_cases digit : char.isDigit = true
      · simp only [digit, if_true, List.forall_mem_cons, true_and]
        change (if decimalStep value char < 256 then _ else _) = _ ↔ _
        by_cases fits : decimalStep value char < 256
        · rw [if_pos fits]
          exact ih (decimalStep value char) fits
        -- The value has passed 255 and only grows from here.
        · rw [if_neg fits]
          constructor
          · intro none
            cases none
          · rintro ⟨_, rfl, bounded⟩
            omega
      · simp [digit]

/-- `parse::<u8>` without a plus sign reads decimal numbers below 256. -/
theorem parseU8_iff (digits : List Char) (number : Nat) (unsigned : digits.head? ≠ some '+') :
    parseU8 digits = some number ↔ Decimal digits number ∧ number < 256 := by
  have plain : digits ≠ [] → parseU8 digits = parseDigits 0 digits := by
    intro written
    unfold parseU8
    split <;> simp_all
  constructor
  · intro parsed
    have written : digits ≠ [] := by
      rintro rfl
      cases parsed
    rw [plain written, parseDigits_iff _ _ _ (by decide)] at parsed
    exact ⟨⟨written, parsed.1, parsed.2.1⟩, parsed.2.2⟩
  · rintro ⟨decimal, small⟩
    rw [plain decimal.written, parseDigits_iff _ _ _ (by decide)]
    exact ⟨decimal.digital, decimal.value, small⟩

theorem Decimal.unsigned {digits : List Char} {number : Nat} (decimal : Decimal digits number) :
    digits.head? ≠ some '+' := by
  intro signed
  have digit := decimal.digital '+' (List.mem_of_mem_head? signed)
  revert digit
  decide

/-- The code's test for the northern hemisphere is right on the bands. -/
theorem isNorthern_band {letter : Char} (band : isBand letter = true) :
    ['N', 'P', 'Q', 'R', 'S', 'T', 'U', 'V', 'W', 'X'].contains letter.toUpper =
      isNorthern letter := by
  unfold isBand at band
  unfold isNorthern
  revert band
  generalize letter.toUpper = upper
  intro band
  have all : ['C', 'D', 'E', 'F', 'G', 'H', 'J', 'K', 'L', 'M', 'N', 'P', 'Q', 'R', 'S', 'T',
      'U', 'V', 'W', 'X'].all (fun char => ['N', 'P', 'Q', 'R', 'S', 'T', 'U', 'V', 'W',
        'X'].contains char == decide ('N'.toNat ≤ char.toNat)) = true := by
    rfl
  exact beq_iff_eq.mp (List.all_eq_true.mp all upper (List.contains_iff_mem.mp band))

theorem parseUtmZone_iff (zone : String) (number : Nat) (north : Bool) :
    parseUtmZone zone = some (number, north) ↔
      ∃ front letter, trim zone.toList = front ++ [letter] ∧ parseU8 front = some number ∧
        (1 ≤ number ∧ number ≤ 60) ∧
        ['N', 'P', 'Q', 'R', 'S', 'T', 'U', 'V', 'W', 'X'].contains letter.toUpper = north := by
  unfold parseUtmZone
  rcases List.eq_nil_or_concat (trim zone.toList) with empty | ⟨front, letter, split⟩
  · rw [empty]
    simp
  · rw [split]
    simp only [List.concat_eq_append, List.getLast?_concat, List.dropLast_concat]
    constructor
    · intro parsed
      refine ⟨front, letter, rfl, ?_⟩
      cases read : parseU8 front with
      | none => simp [read] at parsed
      | some value =>
          simp only [read] at parsed
          split at parsed
          · next bounds =>
              cases parsed
              exact ⟨rfl, bounds, rfl⟩
          · cases parsed
    · rintro ⟨front', letter', same, read, bounds, rfl⟩
      obtain ⟨rfl, last⟩ := List.append_inj' same rfl
      cases last
      simp [read, bounds]

theorem parse_of_designates {zone : String} {number : Nat} {north : Bool}
    (designates : Designates zone number north) :
    parseUtmZone zone = some (number, north) := by
  obtain ⟨digits, letter, split, decimal, bounds, band, rfl⟩ := designates
  refine (parseUtmZone_iff _ _ _).mpr ⟨digits, letter, split, ?_, bounds, isNorthern_band band⟩
  exact (parseU8_iff digits number decimal.unsigned).mpr ⟨decimal, by omega⟩

theorem designates_of_parse {zone : String} (read : ¬ Misread zone) {number : Nat}
    {north : Bool} (parsed : parseUtmZone zone = some (number, north)) :
    Designates zone number north := by
  obtain ⟨front, letter, split, value, bounds, same⟩ := (parseUtmZone_iff _ _ _).mp parsed
  have band : isBand letter = true := by
    cases none : isBand letter with
    | true => rfl
    | false => exact absurd ⟨front, letter, number, split, value, bounds, Or.inr none⟩ read
  have unsigned : front.head? ≠ some '+' := by
    intro signed
    exact read ⟨front, letter, number, split, value, bounds, Or.inl signed⟩
  refine ⟨front, letter, split, ((parseU8_iff _ _ unsigned).mp value).1, bounds, band, ?_⟩
  rw [← same, isNorthern_band band]

theorem Misread.accepted {zone : String} (misread : Misread zone) :
    (∃ number north, parseUtmZone zone = some (number, north)) ∧
      ¬ ∃ number north, Designates zone number north := by
  obtain ⟨front, letter, number, split, read, bounds, wrong⟩ := misread
  constructor
  · exact ⟨number, _, (parseUtmZone_iff _ _ _).mpr ⟨front, letter, split, read, bounds, rfl⟩⟩
  · rintro ⟨number', north, digits, letter', split', decimal, _, band, _⟩
    obtain ⟨rfl, last⟩ := List.append_inj' (split.symm.trans split') rfl
    cases last
    rcases wrong with signed | none
    · exact decimal.unsigned signed
    · rw [band] at none
      cases none

theorem parsedExactly_iff (zone : String) : ParsedExactly zone ↔ ¬ Misread zone := by
  constructor
  · intro exact_ misread
    obtain ⟨⟨number, north, parsed⟩, none⟩ := misread.accepted
    exact none ⟨number, north, (exact_ number north).mp parsed⟩
  · intro read number north
    exact ⟨designates_of_parse read, parse_of_designates⟩

variable {F : Type} [FloatOps F]

/-- A UTM location at hand is placed exactly if its zone is parsed. -/
theorem utm_location_error (loc : Location F) (zone : String)
    (utm : loc.coordinateSystem = some 5) (zoned : loc.utmZone = some zone) :
    (∃ failure, locationToTrackPosition loc = .error failure) ↔
      loc.x = none ∨ loc.y = none ∨ parseUtmZone zone = none := by
  unfold locationToTrackPosition
  cases loc.x with
  | none => simp
  | some x =>
      cases loc.y with
      | none => simp
      | some y =>
          cases parsed : parseUtmZone zone <;>
            simp [utm, zoned, parsed, LocationCoordinateSystem.tryFrom]

theorem malformedRejected_iff (zone : String) : MalformedRejected F zone ↔ ¬ Misread zone := by
  constructor
  · intro rejected misread
    obtain ⟨⟨number, north, parsed⟩, none⟩ := misread.accepted
    have failed := rejected
      { x := some 0.0, y := some 0.0, coordinateSystem := some 5, utmZone := some zone }
      rfl rfl none
    rw [utm_location_error _ zone rfl rfl, parsed] at failed
    simp at failed
  · intro read loc utm zoned none
    rw [utm_location_error loc zone utm zoned]
    refine Or.inr (Or.inr ?_)
    rw [Option.eq_none_iff_forall_ne_some]
    rintro ⟨number, north⟩ parsed
    exact none ⟨number, north, designates_of_parse read parsed⟩

/-- A zone string is parsed as the designator it is, and a UTM location in a malformed zone
is an error, exactly for the strings that are not misread. -/
theorem utm_zone_exact_iff (zone : String) :
    (ParsedExactly zone ↔ ¬ Misread zone) ∧ (MalformedRejected F zone ↔ ¬ Misread zone) :=
  ⟨parsedExactly_iff zone, malformedRejected_iff zone⟩

/-- A digit where the band should be: zone 30, south of the equator. -/
theorem zone_without_band :
    ¬ ∀ zone : String, ParsedExactly zone ∧ MalformedRejected Float zone := by
  intro parsed
  have misread : Misread "301" := ⟨['3', '0'], '1', 30, by decide, by decide, by decide, by decide⟩
  exact (parsedExactly_iff "301").mp (parsed "301").1 misread

end PeatSapient
