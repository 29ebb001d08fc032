import CompilerSession.Proofs.VersionOrder
import CompilerSession.Report.Modernisation

namespace CompilerSession

/-!
# Modern interfaces stay as they are

An interface in the newer form of some version is in the newer form of every
version that is no older.  A newer version asks for nothing that an older one
does not ask for, and what has been put into an entry once is put there again in
the same place: `Entries.Holds` says of members that they have a value where it
would be put.

The kind of an entry and whether it is marked constant decide what is put into
it, and neither is changed by that.
-/

namespace Entries

variable
  {α : Type}
  {key : String}
  {value : α}
  {entries : Entries α}

/-- A value is put in the place of a first one under its key. -/
@[simp] theorem insert_cons_self
    (key : String)
    (value old : α)
    (rest : Entries α) :
    insert key value ((key, old) :: rest) = (key, value) :: rest := by
  rw [insert, if_neg (String.lt_irrefl key), if_pos rfl]

/-- Of two values that are put under a key the later one stays. -/
@[simp] theorem insert_insert
    (key : String)
    (value old : α)
    (entries : Entries α) :
    (entries.insert key old).insert key value = entries.insert key value := by
  induction entries with
  | nil =>
      exact insert_cons_self key value old []
  | cons entry rest inductionHypothesis =>
      obtain ⟨known, former⟩ := entry
      by_cases before : key < known
      · simp only [insert, if_pos before, insert_cons_self]
      · by_cases same : key = known
        · subst same
          simp only [insert_cons_self]
        · simp only [insert, if_neg before, if_neg same, inductionHypothesis]

/-- A value stands under a key in the place where it would be put. -/
def Holds
    (key : String)
    (value : α)
    (entries : Entries α) : Prop :=
  entries.insert key value = entries

/-- What was just inserted is held. -/
theorem holds_insert
    (key : String)
    (value : α)
    (entries : Entries α) :
    (entries.insert key value).Holds key value :=
  insert_insert key value value entries

/--
What holds in members with a first one is that one, or it holds in those after
it.
-/
theorem holds_cons
    {known : String}
    {old : α} :
    Holds key value ((known, old) :: entries) ↔
      key = known ∧ value = old ∨
        ¬ key < known ∧ key ≠ known ∧ entries.Holds key value := by
  unfold Holds
  by_cases same : key = known
  · subst same
    simp
  · rw [insert, if_neg same]
    by_cases before : key < known
    · have longer :
          (key, value) :: (known, old) :: entries ≠ (known, old) :: entries :=
        fun equal => absurd (congrArg List.length equal) (Nat.succ_ne_self _)
      simp [before, longer, same]
    · simp [before, same]

/-- What holds goes on holding when something is put under another key. -/
theorem Holds.insert
    {other : String}
    (holds : entries.Holds key value)
    (differs : key ≠ other)
    (new : α) :
    (entries.insert other new).Holds key value := by
  induction entries with
  | nil =>
      cases holds
  | cons entry rest inductionHypothesis =>
      obtain ⟨known, old⟩ := entry
      rw [Entries.insert]
      split
      · rename_i before
        -- The key stands at the first member or after it, so after what is put
        -- before that.
        have notBefore : ¬ key < known := by
          rcases holds_cons.mp holds with ⟨rfl, -⟩ | ⟨notBefore, -, -⟩
          · exact String.lt_irrefl key
          · exact notBefore
        exact holds_cons.mpr
          (Or.inr
            ⟨fun ahead => notBefore (String.lt_trans ahead before),
              differs, holds⟩)
      · split
        · rename_i same
          subst same
          rcases holds_cons.mp holds with ⟨isKey, -⟩ | ⟨notBefore, -, later⟩
          · exact absurd isKey differs
          · exact holds_cons.mpr (Or.inr ⟨notBefore, differs, later⟩)
        · rcases holds_cons.mp holds with first | ⟨notBefore, notSame, later⟩
          · exact holds_cons.mpr (Or.inl first)
          · exact holds_cons.mpr
              (Or.inr ⟨notBefore, notSame, inductionHypothesis later⟩)

end Entries

namespace ContractInterface

/-! ## Members in the newer form -/

/-- An entry of a version is marked to take payments. -/
def Pays
    (version : Version)
    (members : Entries Json) : Prop :=
  kind members = "constructor" ∧ version.precedes 0 4 5 = true ∨
    kind members ≠ "event" ∧ flag "constant" members = false ∧
      version.precedes 0 4 0 = true

instance (version : Version) (members : Entries Json) :
  Decidable (Pays version members) :=
  inferInstanceAs (Decidable (_ ∧ _ ∨ _ ∧ _ ∧ _))

/-- An entry of a version has its mutability stated. -/
def States
    (version : Version)
    (members : Entries Json) : Prop :=
  kind members ≠ "event" ∧ version.precedes 0 4 16 = true

instance (version : Version) (members : Entries Json) :
  Decidable (States version members) :=
  inferInstanceAs (Decidable (_ ∧ _))

/-- The members with the mark for payments, if the version asks for it. -/
def withPayment
    (version : Version)
    (members : Entries Json) : Entries Json :=
  if Pays version members then markPayable members else members

/-- The members with the mutability, if the version asks for it. -/
def withMutability
    (version : Version)
    (members : Entries Json) : Entries Json :=
  if States version members then stateMutability members else members

/-- An event takes no payments. -/
theorem not_pays_of_event
    {members : Entries Json}
    (event : kind members = "event")
    (version : Version) :
    ¬ Pays version members := by
  rintro (⟨constructs, -⟩ | ⟨notEvent, -⟩)
  · simp [event] at constructs
  · exact notEvent event

@[simp] theorem kind_markPayable (members : Entries Json) :
    kind (markPayable members) = kind members := by
  rw [kind, markPayable, Entries.find?_insert]
  rfl

@[simp] theorem flag_markPayable (members : Entries Json) :
    flag "constant" (markPayable members) = flag "constant" members := by
  rw [flag, markPayable, Entries.find?_insert]
  rfl

@[simp] theorem kind_stateMutability (members : Entries Json) :
    kind (stateMutability members) = kind members := by
  rw [kind, stateMutability, Entries.find?_insert]
  rfl

/-- Stating the mutability changes no flag but its own. -/
theorem flag_stateMutability
    {key : String}
    (differs : key ≠ "stateMutability")
    (members : Entries Json) :
    flag key (stateMutability members) = flag key members := by
  rw [flag, stateMutability, Entries.find?_insert, if_neg differs]
  rfl

/-- Marking an entry payable twice is marking it once. -/
@[simp] theorem markPayable_markPayable (members : Entries Json) :
    markPayable (markPayable members) = markPayable members :=
  Entries.insert_insert ..

/-- Stating the mutability does not change what it is judged by. -/
@[simp] theorem stateMutability_stateMutability (members : Entries Json) :
    stateMutability (stateMutability members) = stateMutability members := by
  have same : mutability (stateMutability members) = mutability members := by
    rw [mutability, flag_stateMutability (by decide),
      flag_stateMutability (by decide), mutability]
  rw [stateMutability, same, stateMutability, Entries.insert_insert]

@[simp] theorem kind_withPayment
    (version : Version)
    (members : Entries Json) :
    kind (withPayment version members) = kind members := by
  unfold withPayment
  split <;> simp

/--
The newer form has the mark for payments first and the mutability after it.
-/
theorem modernMembers_eq
    (version : Version)
    (members : Entries Json) :
    modernMembers version members =
      withMutability version (withPayment version members) := by
  simp only [withMutability, States, kind_withPayment]
  unfold modernMembers withPayment
  by_cases event : kind members = "event"
  · simp [not_pays_of_event event, event]
  · by_cases constructed :
      kind members = "constructor" ∧ version.precedes 0 4 5 = true
    · have pays : Pays version members := Or.inl constructed
      simp [pays, constructed]
    · have pays :
          Pays version members ↔
            flag "constant" members = false ∧
              version.precedes 0 4 0 = true := by
        simp [Pays, constructed, event]
      simp [pays, event, constructed]

@[simp] theorem kind_modernMembers
    (version : Version)
    (members : Entries Json) :
    kind (modernMembers version members) = kind members := by
  rw [modernMembers_eq, withMutability]
  split <;> simp

@[simp] theorem constant_modernMembers
    (version : Version)
    (members : Entries Json) :
    flag "constant" (modernMembers version members) =
      flag "constant" members := by
  rw [modernMembers_eq, withMutability, withPayment]
  split <;> split <;> simp [flag_stateMutability]

/-- What one version asks for is also asked for by another one. -/
def Inherits (earlier later : Version) : Prop :=
  ∀ major minor patch,
    later.precedes major minor patch = true →
      earlier.precedes major minor patch = true

variable {earlier later : Version}

/-- What a later version would mark for payments, the earlier one has marked. -/
theorem Pays.of_modern
    {members : Entries Json}
    (inherits : Inherits earlier later)
    (pays : Pays later (modernMembers earlier members)) :
    Pays earlier members := by
  rw [Pays, kind_modernMembers, constant_modernMembers] at pays
  exact
    pays.imp (fun constructs => ⟨constructs.1, inherits _ _ _ constructs.2⟩)
      fun plain => ⟨plain.1, plain.2.1, inherits _ _ _ plain.2.2⟩

/-- Members that have been marked stay so when their mutability is stated. -/
theorem holds_payable
    {members : Entries Json}
    (pays : Pays earlier members) :
    (modernMembers earlier members).Holds "payable" (.bool true) := by
  have marked : (markPayable members).Holds "payable" (.bool true) :=
    Entries.holds_insert ..
  rw [modernMembers_eq, withPayment, if_pos pays, withMutability]
  split
  · exact marked.insert (by decide) _
  · exact marked

/-- The members of an entry in the newer form are in that of a newer version. -/
theorem modernMembers_modernMembers
    (inherits : Inherits earlier later)
    (members : Entries Json) :
    modernMembers later (modernMembers earlier members) =
      modernMembers earlier members := by
  have paid :
      withPayment later (modernMembers earlier members) =
        modernMembers earlier members := by
    unfold withPayment
    split
    · rename_i pays
      exact holds_payable (pays.of_modern inherits)
    · rfl
  rw [modernMembers_eq later, paid, withMutability]
  split
  · rename_i states
    rw [States, kind_modernMembers] at states
    have stated : States earlier (withPayment earlier members) := by
      rw [States, kind_withPayment]
      exact ⟨states.1, inherits _ _ _ states.2⟩
    rw [modernMembers_eq earlier, withMutability, if_pos stated,
      stateMutability_stateMutability]
  · rfl

/-! ## Interfaces in the newer form -/

/-- An entry in the newer form is final for a later version. -/
theorem modernEntry_modernEntry
    (inherits : Inherits earlier later)
    (entry : Json) :
    modernEntry later (modernEntry earlier entry) =
      modernEntry earlier entry := by
  cases entry with
  | object members =>
      exact congrArg Json.object (modernMembers_modernMembers inherits members)
  | _ =>
      rfl

@[simp] theorem hasKind_modernEntry
    (wanted : String)
    (version : Version)
    (entry : Json) :
    hasKind wanted (modernEntry version entry) = hasKind wanted entry := by
  cases entry with
  | object members =>
      simp [modernEntry, hasKind]
  | _ =>
      rfl

/--
Members that are marked already and state their mutability are in the newer
form.
-/
theorem modernMembers_of_stated
    {members : Entries Json}
    (marked : markPayable members = members)
    (stated : stateMutability members = members)
    (version : Version) :
    modernMembers version members = members := by
  have paid : withPayment version members = members := by
    rw [withPayment, marked, ite_self]
  rw [modernMembers_eq, paid, withMutability, stated, ite_self]

/--
A constructor and a fallback are implied where there is none and the version is
old enough.
-/
theorem mem_impliedEntries
    {version : Version}
    {entries : List Json}
    {entry : Json} :
    entry ∈ impliedEntries version entries ↔
      (entries.any (hasKind "constructor") = false ∧
        version.precedes 0 1 2 = true) ∧
          entry = impliedConstructor ∨
        (entries.any (hasKind "fallback") = false ∧
          version.precedes 0 4 0 = true) ∧
          entry = impliedFallback := by
  simp only [impliedEntries, List.mem_append, List.mem_ite_nil_right,
    List.mem_singleton, Bool.not_eq_true']

/-- What an interface implies is in the newer form of every version. -/
theorem modernEntry_of_implied
    {entries : List Json}
    {entry : Json}
    (implied : entry ∈ impliedEntries earlier entries)
    (version : Version) :
    modernEntry version entry = entry := by
  rcases mem_impliedEntries.mp implied with ⟨-, rfl⟩ | ⟨-, rfl⟩
  · exact congrArg Json.object (modernMembers_of_stated rfl rfl version)
  · exact congrArg Json.object (modernMembers_of_stated rfl rfl version)

/--
In the newer form there is an entry of each kind that goes without saying.
-/
theorem any_hasKind_modernise
    {version : Version}
    {wanted : String}
    {entries : List Json}
    {entry : Json}
    (isWanted : hasKind wanted entry = true)
    (implied :
      entries.any (hasKind wanted) = false →
        entry ∈ impliedEntries version entries) :
    (modernise version entries).any (hasKind wanted) = true := by
  rw [modernise, List.any_append, List.any_map]
  have same : hasKind wanted ∘ modernEntry version = hasKind wanted :=
    funext (hasKind_modernEntry wanted version)
  rw [same]
  cases present : entries.any (hasKind wanted) with
  | true =>
      rfl
  | false =>
      exact List.any_eq_true.mpr ⟨entry, implied present, isWanted⟩

/-- In the newer form an interface of before 0.1.2 has a constructor. -/
theorem any_constructor_modernise
    {version : Version}
    (old : version.precedes 0 1 2 = true)
    (entries : List Json) :
    (modernise version entries).any (hasKind "constructor") = true :=
  any_hasKind_modernise (show hasKind _ impliedConstructor = true from rfl)
    fun none =>
    mem_impliedEntries.mpr (Or.inl ⟨⟨none, old⟩, rfl⟩)

/-- In the newer form an interface of before 0.4.0 has a fallback. -/
theorem any_fallback_modernise
    {version : Version}
    (old : version.precedes 0 4 0 = true)
    (entries : List Json) :
    (modernise version entries).any (hasKind "fallback") = true :=
  any_hasKind_modernise (show hasKind _ impliedFallback = true from rfl)
    fun none =>
    mem_impliedEntries.mpr (Or.inr ⟨⟨none, old⟩, rfl⟩)

/-- An interface in the newer form implies nothing more. -/
theorem impliedEntries_modernise
    (inherits : Inherits earlier later)
    (entries : List Json) :
    impliedEntries later (modernise earlier entries) = [] := by
  refine List.eq_nil_iff_forall_not_mem.mpr fun entry implied => ?_
  rcases mem_impliedEntries.mp implied with ⟨⟨none, old⟩, -⟩ | ⟨⟨none, old⟩, -⟩
  · cases none.symm.trans
      (any_constructor_modernise (inherits _ _ _ old) entries)
  · cases none.symm.trans (any_fallback_modernise (inherits _ _ _ old) entries)

/-- An interface in the newer form is in that of a newer version. -/
theorem modernise_modernise
    (inherits : Inherits earlier later)
    (entries : List Json) :
    modernise later (modernise earlier entries) =
      modernise earlier entries := by
  have same :
      (modernise earlier entries).map (modernEntry later) =
        modernise earlier entries := by
    rw [modernise, List.map_append, List.map_map]
    refine congrArg₂ _ (List.map_congr_left fun entry _ => ?_) ?_
    · exact modernEntry_modernEntry inherits entry
    · exact (List.map_congr_left fun entry implied =>
        modernEntry_of_implied implied later).trans
        (List.map_id _)
  rw [modernise, same, impliedEntries_modernise inherits, List.append_nil]

end ContractInterface

/-! ## Reports in the newer form -/

open ContractInterface (Inherits modernise modernise_modernise)

/-- An artifact in the newer form is final for a later version. -/
theorem modernArtifact_modernArtifact
    {earlier later : Version}
    (inherits : Inherits earlier later)
    (artifact : Json) :
    modernArtifact later (modernArtifact earlier artifact) =
      modernArtifact earlier artifact := by
  cases artifact with
  | object members =>
      cases found : Entries.find? "abi" members with
      | none =>
          simp [modernArtifact, found]
      | some field =>
          cases field with
          | array entries =>
              simp [modernArtifact, found, Entries.find?_insert,
                modernise_modernise inherits]
          | _ =>
              simp [modernArtifact, found]
  | _ =>
      rfl

/-- Changing the values once more does no more than one of the changes. -/
theorem OrderedMap.mapValues_mapValues
    {α : Type}
    {change again : α → α}
    (settled : ∀ value, again (change value) = change value)
    (map : OrderedMap α) :
    (map.mapValues change).mapValues again = map.mapValues change := by
  refine OrderedMap.ext ?_
  show ((map.entries.map _).map _ : Entries α) = map.entries.map _
  rw [List.map_map]
  exact List.map_congr_left fun entry _ =>
    congrArg (Prod.mk entry.1) (settled entry.2)

namespace Report

/-- Where the version can be read, the artifacts are brought up one by one. -/
theorem modernised_of_parsed
    {name : String}
    {version : Version}
    (parsed : Version.parse name = .ok version)
    (report : Report) :
    report.modernised name =
      { report with
        contracts :=
          report.contracts.mapValues fun file =>
            file.mapValues (modernArtifact version) } := by
  delta modernised
  rw [parsed]

/-- A version that cannot be read leaves a report as it is. -/
theorem modernised_of_unread
    {name : String}
    {failure : Failure}
    (unread : Version.parse name = .error failure)
    (report : Report) :
    report.modernised name = report := by
  delta modernised
  rw [unread]

/-- A report in the newer form is final for a later version. -/
theorem modernised_modernised
    {earlierName laterName : String}
    {earlier later : Version}
    (isEarlier : Version.parse earlierName = .ok earlier)
    (isLater : Version.parse laterName = .ok later)
    (inherits : Inherits earlier later)
    (report : Report) :
    (report.modernised earlierName).modernised laterName =
      report.modernised earlierName := by
  have settled :=
    OrderedMap.mapValues_mapValues
      (OrderedMap.mapValues_mapValues (modernArtifact_modernArtifact inherits))
      report.contracts
  rw [modernised_of_parsed isLater, modernised_of_parsed isEarlier, settled]

end Report

/--
What has the newer form keeps it.  An interface of any entries at all, in the
newer form of some version, is in the newer form of each version from that one
on, pre-releases included; bringing an interface up to the newer form twice does
no more than doing it once.  So does bringing a report up again, for the same
version or for one that is no older.
-/
theorem newer_form_is_final :
    (∀ earlier later : Version,
      earlier ≤ later →
        ∀ entries : List Json,
          modernise later (modernise earlier entries) =
            modernise earlier entries) ∧
      (∀ (version : Version) (entries : List Json),
        modernise version (modernise version entries) =
          modernise version entries) ∧
      (∀ (name : String) (report : Report),
        (report.modernised name).modernised name = report.modernised name) ∧
      ∀ (earlierName laterName : String) (earlier later : Version),
        Version.parse earlierName = .ok earlier →
          Version.parse laterName = .ok later →
            earlier ≤ later →
              ∀ report : Report,
                (report.modernised earlierName).modernised laterName =
                  report.modernised earlierName := by
  have inherits :
      ∀ earlier later : Version, earlier ≤ later → Inherits earlier later :=
    fun _ _ order _ _ _ => Version.precedes_of_le order
  refine ⟨?_, ?_, ?_, ?_⟩
  · intro earlier later order
    exact modernise_modernise (inherits earlier later order)
  · intro version
    exact modernise_modernise fun _ _ _ asked => asked
  · intro name report
    cases parsed : Version.parse name with
    | ok version =>
        exact
          report.modernised_modernised parsed parsed fun _ _ _ asked => asked
    | error failure =>
        rw [report.modernised_of_unread parsed,
          report.modernised_of_unread parsed]
  · intro earlierName laterName earlier later isEarlier isLater order
    exact Report.modernised_modernised isEarlier isLater
      (inherits earlier later order)

/--
An interface with marks of a wrong type, an event, and a value that is no entry.
-/
def ContractInterface.motley : List Json :=
  [.object [("constant", .string "yes"), ("name", .string "f")],
    .object [("payable", .null), ("type", .string "constructor")],
    .object [("constant", .bool true), ("stateMutability", .null)],
    .object [("type", .string "event")],
    .null]

/-- A report whose only interface is the motley one. -/
def Report.motley : Report :=
  { Report.empty with
    contracts :=
      .ofList
        [("a.sol",
          .ofList
            [("A", .object [("abi", .array ContractInterface.motley)])])] }

/--
A motley interface is final between two prereleases, and a report with it
between two releases.
-/
theorem newer_form_is_final_motley :
    let alpha : Version := ⟨0, 4, 0, [.word "alpha"]⟩
    let beta : Version := ⟨0, 4, 0, [.word "beta"]⟩
    (alpha ≤ beta ∧
        modernise beta (modernise alpha ContractInterface.motley) =
          modernise alpha ContractInterface.motley) ∧
      Version.parse "v0.1.1+commit.6ff4cd6" = .ok (.release 0 1 1) ∧
        Version.parse " 0.4.4" = .ok (.release 0 4 4) ∧
          Version.release 0 1 1 ≤ .release 0 4 4 ∧
            (Report.motley.modernised "v0.1.1+commit.6ff4cd6").modernised
              " 0.4.4" =
              Report.motley.modernised "v0.1.1+commit.6ff4cd6" := by
  obtain ⟨interfaces, -, -, reports⟩ := newer_form_is_final
  have isEarlier :
      Version.parse "v0.1.1+commit.6ff4cd6" = .ok (.release 0 1 1) := rfl
  have isLater : Version.parse " 0.4.4" = .ok (.release 0 4 4) := rfl
  have order : Version.release 0 1 1 ≤ .release 0 4 4 := by decide
  refine
    ⟨⟨by decide, interfaces _ _ (by decide) _⟩, isEarlier, isLater, order, ?_⟩
  exact reports _ _ _ _ isEarlier isLater order _

end CompilerSession
