import CompilerSession.Proofs.JsonDecoding
import CompilerSession.Version.Parsing

namespace CompilerSession

/-!
# Versions in their order

What is done for the versions before some release is done for every version that
is no newer than one of them, pre-releases included.  A version that has been
read is a release, so for it the numbers alone decide.
-/

namespace Version

/-- A version is at most as new as another. -/
instance : LE Version := ⟨fun earlier later => earlier.compare later ≠ .gt⟩

instance (earlier later : Version) : Decidable (earlier ≤ later) :=
  inferInstanceAs (Decidable (earlier.compare later ≠ .gt))

/-- The numbers of a version come before three others. -/
def Below
    (version : Version)
    (major minor patch : Nat) : Prop :=
  version.major < major ∨
    version.major = major ∧
      (version.minor < minor ∨ version.minor = minor ∧ version.patch < patch)

instance (version : Version) (major minor patch : Nat) :
    Decidable (version.Below major minor patch) :=
  inferInstanceAs (Decidable (_ ∨ _ ∧ (_ ∨ _ ∧ _)))

/-- The numbers of a version are three others. -/
def Numbered
    (version : Version)
    (major minor patch : Nat) : Prop :=
  version.major = major ∧ version.minor = minor ∧ version.patch = patch

/-- A release comes after all of its prereleases. -/
theorem compareTags_nil_eq_lt {tags : List Identifier} :
    compareTags tags [] = .lt ↔ tags ≠ [] := by
  cases tags <;> simp [compareTags]

/-- A tag that is not after another one is there if the other is. -/
theorem ne_nil_of_compareTags
    {earlier later : List Identifier}
    (notAfter : compareTags earlier later ≠ .gt)
    (tagged : later ≠ []) :
    earlier ≠ [] := by
  rintro rfl
  cases later with
  | nil =>
      exact tagged rfl
  | cons first others =>
      exact notAfter rfl

/--
Before a release come the versions with lower numbers and its own pre-releases.
-/
theorem precedes_iff
    {version : Version}
    {major minor patch : Nat} :
    version.precedes major minor patch = true ↔
      version.Below major minor patch ∨
        version.Numbered major minor patch ∧ version.prerelease ≠ [] := by
  simp only [precedes, compare, release, beq_iff_eq, Ordering.then_eq_lt,
    Nat.compare_eq_lt, Nat.compare_eq_eq, compareTags_nil_eq_lt, Below,
    Numbered]
  grind

theorem le_iff {earlier later : Version} :
    earlier ≤ later ↔
      earlier.Below later.major later.minor later.patch ∨
        earlier.Numbered later.major later.minor later.patch ∧
          compareTags earlier.prerelease later.prerelease ≠ .gt := by
  show earlier.compare later ≠ .gt ↔ _
  simp only [compare, ne_eq, Ordering.then_eq_gt, Nat.compare_eq_gt,
    Nat.compare_eq_eq, Below, Numbered]
  -- Of two numbers that are not the other way round the first is lower or both
  -- are the same.
  grind

/-- What precedes a release is not preceded by anything that does not. -/
theorem precedes_of_le
    {earlier later : Version}
    {major minor patch : Nat}
    (order : earlier ≤ later)
    (precedes : later.precedes major minor patch = true) :
    earlier.precedes major minor patch = true := by
  rw [precedes_iff] at precedes ⊢
  unfold Below Numbered at *
  rcases le_iff.mp order with below | ⟨same, notAfter⟩
  · left
    unfold Below at *
    omega
  · unfold Numbered at same
    rcases precedes with below | ⟨numbered, tagged⟩
    · left
      omega
    · right
      exact ⟨by omega, ne_nil_of_compareTags notAfter tagged⟩

/-- A version that has been read is a release. -/
theorem release_of_parse
    {text : String}
    {version : Version}
    (parsed : parse text = .ok version) :
    version.prerelease = [] := by
  cases read : ofRelease (truncate text).toList with
  | error reason =>
      rw [parse, read] at parsed
      cases parsed
  | ok release =>
      rw [parse, read] at parsed
      cases parsed
      unfold ofRelease at read
      split at read
      · cases read
      · obtain ⟨major, -, read⟩ := bind_eq_ok.mp read
        obtain ⟨minorOn, -, read⟩ := bind_eq_ok.mp read
        obtain ⟨minor, -, read⟩ := bind_eq_ok.mp read
        obtain ⟨patchOn, -, read⟩ := bind_eq_ok.mp read
        obtain ⟨⟨patch, rest⟩, -, read⟩ := bind_eq_ok.mp read
        cases rest with
        | nil =>
            cases read
            rfl
        | cons character others =>
            cases read

/-- For a release the numbers alone decide what it precedes. -/
theorem precedes_iff_of_release
    {version : Version}
    (release : version.prerelease = [])
    {major minor patch : Nat} :
    version.precedes major minor patch = true ↔
      version.Below major minor patch := by
  rw [precedes_iff]
  simp [release]

end Version

end CompilerSession
