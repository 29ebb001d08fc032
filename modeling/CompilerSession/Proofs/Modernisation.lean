import CompilerSession.Proofs.ModernInterface
import CompilerSession.Proofs.ReportText
import CompilerSession.Proofs.Resolution
import Mathlib.Data.List.Forall2

namespace CompilerSession

/-!
# What bringing a report up to date may change

A report of a backend before 0.4.16 changes in the interfaces of its contracts
and nowhere else; that of a newer one, or of one whose version cannot be read,
does not change at all.  `Restated` says of an entry what may be put into it and
what has to be, and the relations after it carry that to interfaces, artifacts
and reports.  They name members and thresholds and do not mention how an
interface is brought up to date.

An artifact is changed in place.  For that its members have to ascend, as they
do in every value that has been read: then the interface stands where it would
be put.
-/

namespace Entries

variable {α : Type}

instance (entries : Entries α) : Decidable entries.Ascending :=
  inferInstanceAs (Decidable (List.Pairwise _ _))

/--
In ascending members a value is put in the place of the one that is there.
-/
theorem Ascending.insert_of_find?
    {key : String}
    {old : α}
    {entries : Entries α}
    (ascending : entries.Ascending)
    (found : entries.find? key = some old) :
    ∃ front back,
      entries = front ++ (key, old) :: back ∧
        ∀ value, entries.insert key value = front ++ (key, value) :: back := by
  induction entries with
  | nil =>
      cases found
  | cons entry rest inductionHypothesis =>
      obtain ⟨known, first⟩ := entry
      obtain ⟨below, restAscending⟩ := List.pairwise_cons.mp ascending
      rw [find?] at found
      split at found
      · rename_i same
        cases found
        subst same
        exact ⟨[], rest, rfl, fun value => insert_cons_self key value old rest⟩
      · rename_i differs
        obtain ⟨front, back, shape, puts⟩ :=
          inductionHypothesis restAscending found
        have above : known < key := below (key, old) (by simp [shape])
        refine ⟨(known, first) :: front, back, by simp [shape], fun value => ?_⟩
        rw [Entries.insert, if_neg (String.lt_asymm above), if_neg differs,
          puts, List.cons_append]

end Entries

namespace ContractInterface

/-! ## Entries -/

/-- An entry is an object that says of which type it is. -/
def OfType
    (name : String)
    (entry : Json) : Prop :=
  entry.member? "type" = some (.string name)

/--
Constructors before 0.4.5 were payable, and before 0.4.0 what is not marked
constant.
-/
def TakesPayment
    (version : Version)
    (members : Entries Json) : Prop :=
  members.find? "type" = some (.string "constructor") ∧ version.Below 0 4 5 ∨
    members.find? "constant" ≠ some (.bool true) ∧ version.Below 0 4 0

/-- What becomes of the members of an entry that is not an event. -/
structure Restated
    (version : Version)
    (before after : Entries Json) : Prop where
  kept :
    ∀ key, key ≠ "payable" → key ≠ "stateMutability" →
      after.find? key = before.find? key
  marked :
    TakesPayment version before → after.find? "payable" = some (.bool true)
  unmarked : ¬ TakesPayment version before →
    after.find? "payable" = before.find? "payable"
  payable :
    after.find? "stateMutability" = some (.string "payable") ↔
      after.find? "payable" = some (.bool true)
  view :
    after.find? "stateMutability" = some (.string "view") ↔
      after.find? "payable" ≠ some (.bool true) ∧
        after.find? "constant" = some (.bool true)
  nonpayable :
    after.find? "stateMutability" = some (.string "nonpayable") ↔
      after.find? "payable" ≠ some (.bool true) ∧
        after.find? "constant" ≠ some (.bool true)
  ascending : before.Ascending → after.Ascending

/-- What becomes of an entry. -/
inductive EntryRestated (version : Version) : Json → Json → Prop
  | value {entry : Json} :
      (∀ members, entry ≠ .object members) →
      EntryRestated version entry entry
  | event {members : Entries Json} :
      OfType "event" (.object members) →
      EntryRestated version (.object members) (.object members)
  | other {before after : Entries Json} :
      ¬ OfType "event" (.object before) →
      Restated version before after →
      EntryRestated version (.object before) (.object after)

variable
  {version : Version}
  {members : Entries Json}

/-- A flag is up if its value is true, and not if it is anything else. -/
theorem flag_iff (key : String) :
    flag key members = true ↔ members.find? key = some (.bool true) := by
  unfold flag
  cases found : members.find? key with
  | none =>
      simp
  | some value =>
      cases value <;> simp [Json.bool?]

/-- Only an entry that says so is of a kind other than that of functions. -/
theorem kind_eq_iff
    {name : String}
    (named : name ≠ "function") :
    kind members = name ↔ members.find? "type" = some (.string name) := by
  unfold kind
  cases found : members.find? "type" with
  | none =>
      simp [Ne.symm named]
  | some value =>
      cases value <;> simp [Json.string?, Ne.symm named]

/-- An entry of a kind other than a function has to say so. -/
theorem hasKind_iff
    {name : String}
    (named : name ≠ "function")
    (entry : Json) :
    hasKind name entry = true ↔ OfType name entry := by
  cases entry with
  | object members =>
      rw [hasKind, beq_iff_eq, kind_eq_iff named, OfType, Json.member?]
  | _ =>
      simp [hasKind, OfType, Json.member?]

/-- The mark for payments is put where it is due. -/
theorem pays_iff
    (release : version.prerelease = [])
    (notEvent : kind members ≠ "event") :
    Pays version members ↔ TakesPayment version members := by
  rw [Pays, TakesPayment, Version.precedes_iff_of_release release,
    Version.precedes_iff_of_release release, kind_eq_iff (by decide),
    ne_eq (Entries.find? _ _), ← flag_iff, Bool.not_eq_true]
  simp [notEvent]

/--
The mutability of an entry is judged by whether it is payable and by whether it
is constant.
-/
theorem mutability_iff (members : Entries Json) :
    (mutability members = "payable" ↔
      members.find? "payable" = some (.bool true)) ∧
      (mutability members = "view" ↔
        members.find? "payable" ≠ some (.bool true) ∧
          members.find? "constant" = some (.bool true)) ∧
        (mutability members = "nonpayable" ↔
          members.find? "payable" ≠ some (.bool true) ∧
            members.find? "constant" ≠ some (.bool true)) := by
  simp only [ne_eq, ← flag_iff, mutability]
  cases flag "payable" members <;> cases flag "constant" members <;> simp

/-- The mark for payments is put where it is owed, and nothing else changes. -/
theorem find?_withPayment
    (version : Version)
    (members : Entries Json)
    (key : String) :
    (withPayment version members).find? key =
      if key = "payable" ∧ Pays version members then some (.bool true)
      else members.find? key := by
  unfold withPayment
  by_cases pays : Pays version members
  · simp [pays, markPayable, Entries.find?_insert]
  · simp [pays]

/-- Members in order are in order in the newer form. -/
theorem ascending_modernMembers
    (version : Version)
    (ascending : members.Ascending) :
    (modernMembers version members).Ascending := by
  rw [modernMembers_eq, withMutability, withPayment]
  split <;> split
  · exact (ascending.insert _ _).insert _ _
  · exact ascending.insert _ _
  · exact ascending.insert _ _
  · exact ascending

/--
An entry that is not an event is brought up to date as its version wants it.
-/
theorem restated_modernMembers
    (release : version.prerelease = [])
    (old : version.Below 0 4 16)
    (notEvent : kind members ≠ "event") :
    Restated version members (modernMembers version members) := by
  have states : States version (withPayment version members) := by
    rw [States, kind_withPayment]
    exact ⟨notEvent, (Version.precedes_iff_of_release release).mpr old⟩
  have shape :
      modernMembers version members =
        stateMutability (withPayment version members) := by
    rw [modernMembers_eq, withMutability, if_pos states]
  have found :
      ∀ key,
        key ≠ "stateMutability" →
          (modernMembers version members).find? key =
            (withPayment version members).find? key := by
    intro key differs
    rw [shape, stateMutability, Entries.find?_insert, if_neg differs]
  have stated :
      ∀ text,
        (modernMembers version members).find? "stateMutability" =
          some (.string text) ↔
          mutability (withPayment version members) = text := by
    intro text
    rw [shape, stateMutability, Entries.find?_insert, if_pos rfl,
      Option.some.injEq, Json.string.injEq]
  obtain ⟨payable, view, nonpayable⟩ :=
    mutability_iff (withPayment version members)
  refine ⟨?_, ?_, ?_, ?_, ?_, ?_, ascending_modernMembers version⟩
  · intro key notPayable notMutability
    rw [found key notMutability, find?_withPayment,
      if_neg (fun both => notPayable both.1)]
  · intro takes
    rw [found _ (by decide), find?_withPayment,
      if_pos ⟨rfl, (pays_iff release notEvent).mpr takes⟩]
  · intro takesNot
    rw [found _ (by decide), find?_withPayment,
      if_neg (fun both => takesNot ((pays_iff release notEvent).mp both.2))]
  · rw [stated, payable, found _ (by decide)]
  · rw [stated, view, found _ (by decide), found _ (by decide)]
  · rw [stated, nonpayable, found _ (by decide), found _ (by decide)]

/-- An event stays as it is. -/
theorem modernMembers_of_event
    (event : kind members = "event") :
    modernMembers version members = members := by
  have unpaid : withPayment version members = members :=
    if_neg (not_pays_of_event event version)
  rw [modernMembers_eq, unpaid]
  exact if_neg fun states => states.1 event

/-- An entry of an old release is restated. -/
theorem entryRestated_modernEntry
    (release : version.prerelease = [])
    (old : version.Below 0 4 16)
    (entry : Json) :
    EntryRestated version entry (modernEntry version entry) := by
  cases entry with
  | object members =>
      by_cases event : kind members = "event"
      · rw [modernEntry, modernMembers_of_event event]
        exact .event ((kind_eq_iff (by decide)).mp event)
      · exact
          .other (fun isEvent => event ((kind_eq_iff (by decide)).mpr isEvent))
            (restated_modernMembers release old event)
  | _ =>
      refine .value fun members same => ?_
      cases same

/-! ## Interfaces -/

/-- No entry is of a type. -/
def Without
    (name : String)
    (entries : List Json) : Prop :=
  ∀ entry ∈ entries, ¬ OfType name entry

/--
What becomes of an interface: its entries in their order, and after them what it
implied.
-/
structure InterfaceRestated
    (version : Version)
    (before after : List Json) : Prop where
  entries :
    ∃ restated appended,
      after = restated ++ appended ∧
        List.Forall₂ (EntryRestated version) before restated ∧
        appended.Sublist [impliedConstructor, impliedFallback] ∧
        (impliedConstructor ∈ appended ↔
          Without "constructor" before ∧ version.Below 0 1 2) ∧
        (impliedFallback ∈ appended ↔
          Without "fallback" before ∧ version.Below 0 4 0)
  constructed :
    version.Below 0 1 2 → ∃ entry ∈ after, OfType "constructor" entry
  caught : version.Below 0 4 0 → ∃ entry ∈ after, OfType "fallback" entry

/-- Some entry is of a kind if it says so. -/
theorem any_hasKind_iff
    {name : String}
    (named : name ≠ "function")
    (entries : List Json) :
    entries.any (hasKind name) = true ↔
      ∃ entry ∈ entries, OfType name entry := by
  simp only [List.any_eq_true, hasKind_iff named]

/-- No entry is of a kind if none says so. -/
theorem without_iff
    {name : String}
    (named : name ≠ "function")
    (entries : List Json) :
    entries.any (hasKind name) = false ↔ Without name entries := by
  rw [← Bool.not_eq_true, any_hasKind_iff named]
  simp [Without]

/-- What is appended is a constructor, a fallback, or one after the other. -/
theorem impliedEntries_sublist
    (version : Version)
    (entries : List Json) :
    (impliedEntries version entries).Sublist
      [impliedConstructor, impliedFallback] := by
  unfold impliedEntries
  split <;> split <;> simp

/-- A constructor that is implied is no fallback. -/
theorem impliedConstructor_ne_impliedFallback :
    impliedConstructor ≠ impliedFallback := by
  simp [impliedConstructor, impliedFallback]

/-- For a release its three numbers decide what is implied. -/
theorem mem_impliedEntries_of_release
    (release : version.prerelease = [])
    {entries : List Json}
    {entry : Json} :
    entry ∈ impliedEntries version entries ↔
      (Without "constructor" entries ∧ version.Below 0 1 2) ∧
        entry = impliedConstructor ∨
        (Without "fallback" entries ∧ version.Below 0 4 0) ∧
          entry = impliedFallback := by
  rw [mem_impliedEntries,
    without_iff (show "constructor" ≠ "function" by decide),
    without_iff (show "fallback" ≠ "function" by decide),
    Version.precedes_iff_of_release release,
    Version.precedes_iff_of_release release]

theorem interfaceRestated_modernise
    (release : version.prerelease = [])
    (old : version.Below 0 4 16)
    (entries : List Json) :
    InterfaceRestated version entries (modernise version entries) where
  entries := by
    refine
      ⟨entries.map (modernEntry version), impliedEntries version entries, rfl,
        ?_, impliedEntries_sublist version entries, ?_, ?_⟩
    · rw [List.forall₂_map_right_iff]
      exact List.forall₂_same.mpr fun entry _ =>
        entryRestated_modernEntry release old entry
    · rw [mem_impliedEntries_of_release release]
      simp [impliedConstructor_ne_impliedFallback]
    · rw [mem_impliedEntries_of_release release]
      simp [impliedConstructor_ne_impliedFallback.symm]
  constructed isOld :=
    (any_hasKind_iff (by decide) _).mp
      (any_constructor_modernise
        ((Version.precedes_iff_of_release release).mpr isOld) entries)
  caught isOld :=
    (any_hasKind_iff (by decide) _).mp
      (any_fallback_modernise
        ((Version.precedes_iff_of_release release).mpr isOld) entries)

/-- A version from 0.4.16 on leaves every interface as it is. -/
theorem modernise_of_new
    (release : version.prerelease = [])
    (new : ¬ version.Below 0 4 16)
    (entries : List Json) :
    modernise version entries = entries := by
  have notBelow :
      ¬ version.Below 0 1 2 ∧ ¬ version.Below 0 4 0 ∧
        ¬ version.Below 0 4 5 := by
    unfold Version.Below at *
    omega
  obtain ⟨notFirst, notSecond, notThird⟩ := notBelow
  have same : ∀ members, modernMembers version members = members := by
    intro members
    have unpaid : withPayment version members = members := by
      refine if_neg ?_
      rw [Pays, Version.precedes_iff_of_release release,
        Version.precedes_iff_of_release release]
      simp [notSecond, notThird]
    rw [modernMembers_eq, unpaid]
    exact if_neg fun states =>
      new ((Version.precedes_iff_of_release release).mp states.2)
  have kept : entries.map (modernEntry version) = entries := by
    refine (List.map_congr_left fun entry _ => ?_).trans (List.map_id entries)
    cases entry with
    | object members =>
        exact congrArg Json.object (same members)
    | _ =>
        rfl
  have nothing : impliedEntries version entries = [] := by
    refine List.eq_nil_iff_forall_not_mem.mpr fun entry implied => ?_
    rcases (mem_impliedEntries_of_release release).mp implied with
      ⟨⟨-, old⟩, -⟩ | ⟨⟨-, old⟩, -⟩
    · exact notFirst old
    · exact notSecond old
  rw [modernise, kept, nothing, List.append_nil]

end ContractInterface

/-! ## Artifacts -/

open ContractInterface (InterfaceRestated)

/--
What becomes of an artifact: its interface, if it has one, changes in its place.
-/
inductive ArtifactRestated (version : Version) : Json → Json → Prop
  | interface {front back : Entries Json} {before after : List Json} :
      InterfaceRestated version before after →
      ArtifactRestated version
        (.object (front ++ ("abi", .array before) :: back))
        (.object (front ++ ("abi", .array after) :: back))
  | other {artifact : Json} :
      (∀ entries, artifact.member? "abi" ≠ some (.array entries)) →
      ArtifactRestated version artifact artifact

/-- An artifact without an interface stays as it is. -/
theorem modernArtifact_of_other
    {version : Version}
    {artifact : Json}
    (other : ∀ entries, artifact.member? "abi" ≠ some (.array entries)) :
    modernArtifact version artifact = artifact := by
  cases artifact with
  | object members =>
      rw [modernArtifact]
      split
      · rename_i entries found
        exact absurd found (other entries)
      · rfl
  | _ =>
      rfl

/-- An artifact with an interface has it in one place, where it changes. -/
theorem exists_modernArtifact
    {artifact : Json}
    {entries : List Json}
    (ordered : artifact.Ordered)
    (found : artifact.member? "abi" = some (.array entries)) :
    ∃ front back,
      artifact = .object (front ++ ("abi", .array entries) :: back) ∧
        ∀ version,
          modernArtifact version artifact =
            .object
              (front ++
                ("abi", .array (ContractInterface.modernise version entries)) ::
              back) := by
  cases artifact with
  | object members =>
      obtain ⟨front, back, shape, puts⟩ := ordered.1.insert_of_find? found
      refine ⟨front, back, congrArg Json.object shape, fun version => ?_⟩
      have isInterface :
          Entries.find? "abi" members = some (.array entries) := found
      rw [modernArtifact, isInterface]
      exact congrArg Json.object (puts _)
  | _ =>
      cases found

theorem artifactRestated_modernArtifact
    {version : Version}
    {artifact : Json}
    (release : version.prerelease = [])
    (old : version.Below 0 4 16)
    (ordered : artifact.Ordered) :
    ArtifactRestated version artifact (modernArtifact version artifact) := by
  by_cases has : ∃ entries, artifact.member? "abi" = some (.array entries)
  · obtain ⟨entries, found⟩ := has
    obtain ⟨front, back, shape, changes⟩ := exists_modernArtifact ordered found
    rw [changes version, shape]
    exact .interface
      (ContractInterface.interfaceRestated_modernise release old entries)
  · have other := not_exists.mp has
    rw [modernArtifact_of_other other]
    exact .other other

/-- An artifact of a release from 0.4.16 on stays as it is. -/
theorem modernArtifact_of_new
    {version : Version}
    {artifact : Json}
    (release : version.prerelease = [])
    (new : ¬ version.Below 0 4 16)
    (ordered : artifact.Ordered) :
    modernArtifact version artifact = artifact := by
  by_cases has : ∃ entries, artifact.member? "abi" = some (.array entries)
  · obtain ⟨entries, found⟩ := has
    obtain ⟨front, back, shape, changes⟩ := exists_modernArtifact ordered found
    rw [changes version, ContractInterface.modernise_of_new release new, shape]
  · exact modernArtifact_of_other (not_exists.mp has)

/-! ## Members that go on ascending -/

namespace ContractInterface

/-- Inserting an ordered value leaves members ordered. -/
theorem orderedMembers_insert
    {members : Entries Json}
    {value : Json}
    (ordered : Json.OrderedMembers members)
    (own : value.Ordered)
    (key : String) :
    Json.OrderedMembers (members.insert key value) := by
  refine Json.orderedMembers_iff.mpr fun member isMember => ?_
  rcases Entries.mem_of_mem_insert isMember with rfl | before
  · exact own
  · exact Json.orderedMembers_iff.mp ordered member before

theorem ordered_modernEntry
    {entry : Json}
    (ordered : entry.Ordered)
    (version : Version) :
    (modernEntry version entry).Ordered := by
  cases entry with
  | object members =>
      refine ⟨ascending_modernMembers version ordered.1, ?_⟩
      have marked : Json.OrderedMembers (withPayment version members) := by
        unfold withPayment
        split
        · exact orderedMembers_insert ordered.2
            (show (Json.bool true).Ordered from trivial) _
        · exact ordered.2
      rw [modernMembers_eq, withMutability]
      split
      · exact orderedMembers_insert marked
          (show (Json.string _).Ordered from trivial) _
      · exact marked
  | _ =>
      exact ordered

theorem ordered_modernise
    {entries : List Json}
    (ordered : ∀ entry ∈ entries, entry.Ordered)
    (version : Version) :
    ∀ entry ∈ modernise version entries, entry.Ordered := by
  intro entry member
  rcases List.mem_append.mp member with changed | implied
  · obtain ⟨before, isMember, rfl⟩ := List.mem_map.mp changed
    exact ordered_modernEntry (ordered before isMember) version
  · have ascending : impliedConstructor.Ordered ∧ impliedFallback.Ordered := by
      simp only [impliedConstructor, impliedFallback, Json.Ordered,
        Json.OrderedMembers, Json.OrderedElements, and_true]
      decide
    rcases mem_impliedEntries.mp implied with ⟨-, rfl⟩ | ⟨-, rfl⟩
    · exact ascending.1
    · exact ascending.2

end ContractInterface

theorem ordered_modernArtifact
    {artifact : Json}
    (ordered : artifact.Ordered)
    (version : Version) :
    (modernArtifact version artifact).Ordered := by
  cases artifact with
  | object members =>
      rw [modernArtifact]
      split
      · rename_i entries found
        have own : (Json.array entries).Ordered :=
          Json.orderedMembers_iff.mp ordered.2 _
            ((Entries.Ascending.find?_eq_some_iff ordered.1).mp found)
        refine ⟨ordered.1.insert _ _,
          ContractInterface.orderedMembers_insert ordered.2 ?_ _⟩
        exact
          Json.orderedElements_iff.mpr
            (ContractInterface.ordered_modernise
              (Json.orderedElements_iff.mp own) version)
      · exact ordered
  | _ =>
      exact ordered

/-! ## Reports -/

namespace Report

/-- The members of every object in an artifact ascend. -/
def Ordered (report : Report) : Prop :=
  ∀ file ∈ report.contracts.entries,
    ∀ artifact ∈ file.2.entries, artifact.2.Ordered

/-- They do in every report that a payload is read as. -/
theorem ordered_ofPayload (payload : String) : (ofPayload payload).Ordered :=
  fun file isFile artifact isArtifact =>
    ((kept_ofPayload payload).contracts file isFile artifact isArtifact).ordered

/--
What becomes of a report: its files and contracts stay, and only artifacts
change.
-/
structure Restated
    (version : Version)
    (before after : Report) : Prop where
  contracts :
    ∀ file,
      Option.Rel
        (fun contracts restated =>
          ∀ name,
            Option.Rel (ArtifactRestated version) (contracts.find? name)
              (restated.find? name))
        (before.contracts.find? file) (after.contracts.find? file)
  sources : after.sources = before.sources
  errors : after.errors = before.errors
  error : after.error? = before.error?

theorem ordered_modernised
    {report : Report}
    (ordered : report.Ordered)
    (name : String) :
    (report.modernised name).Ordered := by
  cases parsed : Version.parse name with
  | error failure =>
      rw [modernised_of_unread parsed]
      exact ordered
  | ok version =>
      rw [modernised_of_parsed parsed]
      intro file isFile artifact isArtifact
      obtain ⟨oldFile, isOldFile, rfl⟩ := List.mem_map.mp isFile
      obtain ⟨oldArtifact, isOldArtifact, rfl⟩ := List.mem_map.mp isArtifact
      exact ordered_modernArtifact
        (ordered oldFile isOldFile oldArtifact isOldArtifact) version

/-- A version from 0.4.16 on leaves a report as it is. -/
theorem modernised_of_new
    {name : String}
    {version : Version}
    {report : Report}
    (parsed : Version.parse name = .ok version)
    (new : ¬ version.Below 0 4 16)
    (ordered : report.Ordered) :
    report.modernised name = report := by
  have release := Version.release_of_parse parsed
  have kept :
      (report.contracts.mapValues fun file =>
        file.mapValues (modernArtifact version)) =
        report.contracts := by
    refine OrderedMap.ext
      ((List.map_congr_left fun file isFile => ?_).trans (List.map_id _))
    refine congrArg (Prod.mk file.1) (OrderedMap.ext ?_)
    refine
      (List.map_congr_left fun artifact isArtifact => ?_).trans (List.map_id _)
    exact
      congrArg (Prod.mk artifact.1)
        (modernArtifact_of_new release new
          (ordered file isFile artifact isArtifact))
  rw [modernised_of_parsed parsed, kept]

/-- A version before 0.4.16 changes what it has to, and nothing else. -/
theorem restated_modernised
    {name : String}
    {version : Version}
    {report : Report}
    (parsed : Version.parse name = .ok version)
    (old : version.Below 0 4 16)
    (ordered : report.Ordered) :
    report.Restated version (report.modernised name) := by
  have release := Version.release_of_parse parsed
  rw [modernised_of_parsed parsed]
  refine ⟨fun file => ?_, rfl, rfl, rfl⟩
  rw [OrderedMap.find?_mapValues]
  cases foundFile : report.contracts.find? file with
  | none =>
      exact .none
  | some contracts =>
      refine .some fun contract => ?_
      rw [OrderedMap.find?_mapValues]
      cases found : contracts.find? contract with
      | none =>
          exact .none
      | some artifact =>
          have isFile :=
            report.contracts.ascending.find?_eq_some_iff.mp foundFile
          have isArtifact := contracts.ascending.find?_eq_some_iff.mp found
          exact
            .some
              (artifactRestated_modernArtifact release old
                (ordered _ isFile _ isArtifact))

end Report

/--
What bringing a report up to date may change and has to.  In a report whose
objects list their members in ascending order, as they do in whatever has been
read, nothing changes if the version cannot be read or is not below 0.4.16.
Otherwise the interfaces of the artifacts change in their places and nothing
else does: entries stay in their order, and each gets the marks that its version
wants; a constructor and a fallback are appended where the version implies one
and there is none.
-/
theorem modernised_within_interfaces
    (name : String)
    (report : Report)
    (ordered : report.Ordered) :
    (report.modernised name).Ordered ∧
      (∀ failure, Version.parse name = .error failure →
        report.modernised name = report) ∧
        ∀ version,
          Version.parse name = .ok version →
            (¬ version.Below 0 4 16 → report.modernised name = report) ∧
              (version.Below 0 4 16 →
                report.Restated version (report.modernised name)) :=
  ⟨Report.ordered_modernised ordered name,
    fun _ unread => report.modernised_of_unread unread,
    fun _ parsed =>
      ⟨fun new => Report.modernised_of_new parsed new ordered,
        fun old => Report.restated_modernised parsed old ordered⟩⟩

theorem Report.ordered_motley : Report.motley.Ordered := by
  intro file isFile artifact isArtifact
  cases List.mem_singleton.mp isFile
  cases List.mem_singleton.mp isArtifact
  simp only [ContractInterface.motley, Json.Ordered, Json.OrderedMembers,
    Json.OrderedElements, and_true]
  decide

/--
The motley report stays as it is for a version that is unread or new, and is
restated for an old one.
-/
theorem modernised_within_interfaces_motley :
    Report.motley.Ordered ∧
      Report.motley.modernised "latest" = Report.motley ∧
        Report.motley.modernised "0.4.16" = Report.motley ∧
          Report.motley.Restated (.release 0 3 6)
            (Report.motley.modernised "v0.3.6+commit.3fc68da5") := by
  have ordered := Report.ordered_motley
  refine ⟨ordered, ?_, ?_, ?_⟩
  · obtain ⟨-, unread, -⟩ :=
      modernised_within_interfaces "latest" .motley ordered
    exact unread _ rfl
  · obtain ⟨-, -, parsed⟩ :=
      modernised_within_interfaces "0.4.16" .motley ordered
    exact (parsed (.release 0 4 16) rfl).1 (by decide)
  · obtain ⟨-, -, parsed⟩ :=
      modernised_within_interfaces "v0.3.6+commit.3fc68da5" .motley ordered
    exact (parsed (.release 0 3 6) rfl).2 (by decide)

end CompilerSession
