import CompilerSession.Proofs.Fetching
import CompilerSession.Proofs.JsonDecoding
import CompilerSession.Source.Bundle

namespace CompilerSession

/-!
# What the text of a bundle holds

The text of a bundle is all that a backend learns, and all by which its answer
is told from others.  It is read as a value that holds the files and the
settings and nothing that could stand for others, so two bundles have one text
only if they are the same.

A source set keeps the first content of a path and lists its paths in their own
order, so the text does not show in which order files came that have different
paths.
-/

namespace Entries

variable {α : Type}

/-- Ascending entries in which the same values are found are the same. -/
theorem Ascending.eq_of_find?
    {entries others : Entries α}
    (ascending : entries.Ascending)
    (othersAscending : others.Ascending)
    (same : ∀ key, entries.find? key = others.find? key) :
    entries = others := by
  have members : ∀ entry, entry ∈ entries ↔ entry ∈ others := by
    rintro ⟨key, value⟩
    rw [← ascending.find?_eq_some_iff, same key,
      othersAscending.find?_eq_some_iff]
  have apart :
      ∀ {entries : Entries α}, entries.Ascending → entries.Nodup :=
    fun ascending => ascending.imp fun below => fun same =>
      String.lt_irrefl _ (same ▸ below)
  have permuted : entries.Perm others :=
    (List.perm_ext_iff_of_nodup (apart ascending) (apart othersAscending)).mpr
      members
  exact permuted.eq_of_pairwise
    (fun _ _ _ _ below above => absurd above (String.lt_asymm below))
    ascending othersAscending

/-- What is found under a key is the first value that comes with it. -/
theorem find?_eq_head?
    (key : String)
    (entries : Entries α) :
    entries.find? key =
      (entries.filter fun entry => entry.1 = key).head?.map Prod.snd := by
  induction entries with
  | nil =>
      rfl
  | cons entry others inductionHypothesis =>
      rw [find?, List.filter_cons]
      by_cases same : key = entry.1
      · simp [same]
      · simp [same, Ne.symm same, inductionHypothesis]

end Entries

/-- Maps in which the same values are found are the same. -/
theorem OrderedMap.eq_of_find?
    {α : Type}
    {map other : OrderedMap α}
    (same : ∀ key, map.find? key = other.find? key) :
    map = other :=
  OrderedMap.ext (map.ascending.eq_of_find? other.ascending same)

namespace SourceSet

/--
Of the files that are added under a path the first one stays, unless one was
there.
-/
theorem content?_insertAll_eq
    (files : SourceSet)
    (pairs : List (String × String))
    (path : String) :
    (files.insertAll pairs).content? path =
      (files.content? path).or (Entries.find? path pairs) := by
  induction pairs generalizing files with
  | nil =>
      simp [insertAll, Entries.find?]
  | cons pair others inductionHypothesis =>
      show ((files.insert pair.1 pair.2).insertAll others).content? path = _
      rw [inductionHypothesis, content?_insert, Entries.find?]
      by_cases same : path = pair.1
      · subst same
        cases known : files.content? pair.1 <;> simp [contains, known]
      · simp [same]

/--
The files come in the same order under each path, whatever comes between them.
-/
def Interleaved (pairs others : List (String × String)) : Prop :=
  ∀ path, (pairs.filter fun pair => pair.1 = path) = others.filter fun pair =>
    pair.1 = path

/-- Files that all have different paths may come in any order. -/
theorem Interleaved.of_perm
    {pairs others : List (String × String)}
    (permuted : pairs.Perm others)
    (apart : (pairs.map Prod.fst).Nodup) :
    Interleaved pairs others := by
  intro path
  have unlike :
      ∀ {pairs : List (String × String)},
        (pairs.map Prod.fst).Nodup →
          (pairs.filter fun pair => pair.1 = path).Pairwise fun first second =>
            first.1 ≠ second.1 :=
    fun apart => (List.pairwise_map.mp apart).filter _
  refine
    (permuted.filter _).eq_of_pairwise ?_ (unlike apart)
      (unlike ((permuted.map Prod.fst).nodup_iff.mp apart))
  intro first second isFirst isSecond differs
  simp only [List.mem_filter, decide_eq_true_eq] at isFirst isSecond
  exact absurd (isFirst.2.trans isSecond.2.symm) differs

/-- Source sets with the same contents are the same. -/
theorem eq_of_content?
    {files others : SourceSet}
    (same : ∀ path, files.content? path = others.content? path) :
    files = others :=
  congrArg SourceSet.mk (OrderedMap.eq_of_find? same)

/-- Only the order under each path matters. -/
theorem Interleaved.ofList_eq
    {pairs others : List (String × String)}
    (interleaved : Interleaved pairs others) :
    ofList pairs = ofList others := by
  refine eq_of_content? fun path => ?_
  rw [ofList, ofList, content?_insertAll_eq, content?_insertAll_eq,
    Entries.find?_eq_head?, Entries.find?_eq_head?, interleaved path]

end SourceSet

namespace Bundle

open Json (integral_ofMap kept_array kept_object kept_ofMap kept_string)

/-! ## What is decoded of a bundle -/

/-- Decode a string. -/
def addressOf (_ : Nat) : Json.Tree → Except Json.DecodingError String
  | .string text? => Json.Tree.keep text?
  | tree => .error (tree.mismatch "a string")

/-- Decode library addresses by file and name. -/
def librariesOf : Nat → Json.Tree → Except Json.DecodingError Libraries :=
  Json.Tree.mapOf (Json.Tree.mapOf addressOf)

/--
The settings are those of a configuration, which are without libraries if it has
none.
-/
structure HoldsSettings
    (settings : Json)
    (configuration : Configuration) : Prop where
  optimizer :
    settings.member? "optimizer" =
      some (.object
        [("enabled", .bool configuration.optimize),
          ("runs", .natural configuration.optimizerRuns.toUInt64)])
  unlinked :
    configuration.libraries.isEmpty = true → settings.member? "libraries" = none
  linked :
    configuration.libraries.isEmpty = false →
      ∃ libraries,
        settings.member? "libraries" = some libraries ∧
          Json.decodeText librariesOf libraries.text =
            .ok configuration.libraries

/--
A value holds a bundle: its files as the sources, with nothing else in them, and
its settings.
-/
structure Held
    (value : Json)
    (bundle : Bundle) : Prop where
  sources :
    ∃ sources,
      value.member? "sources" = some (.object sources) ∧
        sources.map Prod.fst = bundle.files.paths ∧
        ∀ path,
          Entries.find? path sources =
            (bundle.files.content? path).map fun content =>
              .object [("content", .string content)]
  settings :
    ∃ settings,
      value.member? "settings" = some settings ∧
        HoldsSettings settings bundle.configuration

/-- Settings are those of one configuration at most. -/
theorem HoldsSettings.unique
    {settings : Json}
    {configuration other : Configuration}
    (holds : HoldsSettings settings configuration)
    (holdsOther : HoldsSettings settings other) :
    configuration = other := by
  have optimizer :=
    Option.some.inj (holds.optimizer.symm.trans holdsOther.optimizer)
  simp only [Json.object.injEq, List.cons.injEq, Prod.mk.injEq, Json.bool.injEq,
    Json.natural, Json.number.injEq, Json.Number.ofUInt64,
    Json.Number.integer.injEq, true_and, and_true]
    at optimizer
  obtain ⟨optimize, runs⟩ := optimizer
  have libraries : configuration.libraries = other.libraries := by
    cases none : configuration.libraries.isEmpty <;> cases noOther :
      other.libraries.isEmpty
    · obtain ⟨libraries, found, decoded⟩ := holds.linked none
      obtain ⟨otherLibraries, foundOther, decodedOther⟩ :=
        holdsOther.linked noOther
      rw [found] at foundOther
      cases foundOther
      rw [decoded] at decodedOther
      exact Except.ok.inj decodedOther
    · obtain ⟨libraries, found, -⟩ := holds.linked none
      rw [holdsOther.unlinked noOther] at found
      cases found
    · obtain ⟨libraries, found, -⟩ := holdsOther.linked noOther
      rw [holds.unlinked none] at found
      cases found
    · rw [OrderedMap.isEmpty, List.isEmpty_iff] at none noOther
      exact OrderedMap.ext (none.trans noOther.symm)
  obtain ⟨_, _, _⟩ := configuration
  obtain ⟨_, _, _⟩ := other
  cases optimize
  cases libraries
  have same := UInt32.toNat_inj.mp (Int.ofNat_inj.mp runs)
  cases same
  rfl

/-- A value holds one bundle at most. -/
theorem Held.unique
    {value : Json}
    {bundle other : Bundle}
    (held : Held value bundle)
    (otherHeld : Held value other) :
    bundle = other := by
  obtain ⟨sources, isSources, -, contents⟩ := held.sources
  obtain ⟨otherSources, isOther, -, otherContents⟩ := otherHeld.sources
  obtain ⟨settings, isSettings, holds⟩ := held.settings
  obtain ⟨otherSettings, isOtherSettings, holdsOther⟩ := otherHeld.settings
  cases Option.some.inj (isSources.symm.trans isOther)
  cases Option.some.inj (isSettings.symm.trans isOtherSettings)
  have files : bundle.files = other.files := by
    refine SourceSet.eq_of_content? fun path => ?_
    refine
      Option.map_injective ?_ ((contents path).symm.trans (otherContents path))
    intro content otherContent same
    simpa using same
  obtain ⟨_, _⟩ := bundle
  obtain ⟨_, _⟩ := other
  cases files
  cases holds.unique holdsOther
  rfl

/-! ## The parts of a bundle -/

/-- The sources fit where there is room for two containers. -/
theorem kept_sourcesJson
    (room : Nat)
    (files : SourceSet) :
    (sourcesJson files).Kept (room + 2) :=
  kept_ofMap.mpr fun entry _ =>
    kept_object.mpr ⟨List.pairwise_singleton _ _, by simp [kept_string]⟩

theorem integral_sourcesJson (files : SourceSet) :
    (sourcesJson files).Integral :=
  integral_ofMap.mpr fun _ _ => ⟨trivial, trivial⟩

/-- The libraries fit where there is room for two containers. -/
theorem kept_librariesJson
    (room : Nat)
    (libraries : Libraries) :
    (librariesJson libraries).Kept (room + 2) :=
  kept_ofMap.mpr fun _ _ => kept_ofMap.mpr fun _ _ => kept_string _ _

theorem integral_librariesJson (libraries : Libraries) :
    (librariesJson libraries).Integral :=
  integral_ofMap.mpr fun _ _ => integral_ofMap.mpr fun _ _ => trivial

/-- The libraries are decoded from their own value. -/
theorem librariesOf_librariesJson (libraries : Libraries) :
    Json.decodeText librariesOf (librariesJson libraries).text =
      .ok libraries := by
  rw [Json.decodeText_eq]
  exact Json.Tree.mapOf_tree fun _ _ => Json.Tree.mapOf_tree fun _ _ => rfl

theorem kept_optimizerJson
    (room : Nat)
    (configuration : Configuration) :
    (optimizerJson configuration).Kept (room + 1) := by
  refine kept_object.mpr
    ⟨List.pairwise_pair.mpr (by decide : "enabled" < "runs"), ?_⟩
  simp only [List.forall_mem_cons]
  exact
    ⟨⟨trivial, Nat.zero_le room⟩, Json.kept_number _ _, List.forall_mem_nil _⟩

theorem kept_wantedOutputs (room : Nat) : wantedOutputs.Kept (room + 3) := by
  have names :
      ∀ outputs : List String,
        (Json.array (outputs.map Json.string)).Kept (room + 1) :=
    fun outputs =>
      kept_array.mpr (List.forall_mem_map.mpr fun _ _ => kept_string _ _)
  refine kept_object.mpr ⟨List.pairwise_singleton _ _, ?_⟩
  have ascending : "" < "*" := by decide
  refine List.forall_mem_singleton.mpr
    (kept_object.mpr ⟨List.pairwise_pair.mpr ascending, ?_⟩)
  exact
    List.forall_mem_cons.mpr ⟨names _, List.forall_mem_singleton.mpr (names _)⟩

/-- The members of the settings. -/
def settingsMembers (configuration : Configuration) : List (String × Json) :=
  [("optimizer", optimizerJson configuration)] ++
    (if configuration.libraries.isEmpty then []
      else [("libraries", librariesJson configuration.libraries)]) ++
    [("outputSelection", wantedOutputs)]

/-- The settings as a reader takes them. -/
def settingsAsRead (configuration : Configuration) : Json :=
  .object (Entries.insertAll [] (settingsMembers configuration))

/-- The members of a bundle with the settings as a reader takes them. -/
def membersAsRead (bundle : Bundle) : List (String × Json) :=
  [("language", .string "Solidity"), ("sources", sourcesJson bundle.files),
    ("settings", settingsAsRead bundle.configuration)]

/-- The bundle as a reader takes it. -/
def asRead (bundle : Bundle) : Json :=
  .object (Entries.insertAll [] bundle.membersAsRead)

/-- Settings are read as their members in the order of their names. -/
theorem value_settingsJson
    (room : Nat)
    (configuration : Configuration) :
    (settingsJson configuration).tree.value (room + 4) =
      .ok (settingsAsRead configuration) := by
  have each :
      ∀ {holds : String × Json → Prop},
        holds ("optimizer", optimizerJson configuration) →
          holds ("libraries", librariesJson configuration.libraries) →
            holds ("outputSelection", wantedOutputs) →
              ∀ member ∈ settingsMembers configuration, holds member := by
    intro holds optimizer libraries outputs
    unfold settingsMembers
    split <;> simp [optimizer, libraries, outputs]
  refine Json.Tree.value_tree_object (settingsMembers configuration) ?_ ?_
  · exact
      Json.integralMembers_iff.mpr
        (each ⟨trivial, trivial, trivial⟩ (integral_librariesJson _)
          (by decide))
  · exact
      each (kept_optimizerJson _ configuration)
        (kept_librariesJson _ configuration.libraries)
        (kept_wantedOutputs _)

/--
The text of a bundle is read as its value, with the members in ascending order.
-/
theorem parse_text_asRead (bundle : Bundle) :
    Json.parse bundle.text = .ok bundle.asRead := by
  have sources : (sourcesJson bundle.files).tree.value 126 =
    .ok (sourcesJson bundle.files) :=
    Json.Tree.value_tree _ (integral_sourcesJson _) (kept_sourcesJson _ _)
  have settings := value_settingsJson 122 bundle.configuration
  rw [Json.parse, text, Json.decodeText_eq]
  simp only [toJson, Json.tree, Json.memberTrees, Json.Tree.value,
    Json.Tree.memberValues, Json.roomiest, Json.Tree.enter, Json.Tree.keep,
    ok_bind, sources, settings, Except.map, Json.Tree.finish, if_true]
  simp only [asRead, membersAsRead, Entries.insertAll, List.foldl]

/--
An object is found to have the members that it was read from, if their keys
differ.
-/
private theorem member?_insertAll
    {members : List (String × Json)}
    (distinct : (members.map Prod.fst).Nodup)
    (key : String) :
    (Json.object (Entries.insertAll [] members)).member? key =
      Entries.find? key members := by
  rw [Json.member?, Entries.find?_insertAll distinct]
  simp [Entries.find?]

/-- The settings hold their configuration as a reader takes them. -/
theorem holdsSettings_settingsAsRead (configuration : Configuration) :
    HoldsSettings (settingsAsRead configuration) configuration := by
  have distinct : ((settingsMembers configuration).map Prod.fst).Nodup := by
    unfold settingsMembers
    split <;> simp
  have found := member?_insertAll distinct
  constructor
  · rw [settingsAsRead, found]
    rfl
  · intro none
    rw [settingsAsRead, found, settingsMembers, if_pos none]
    rfl
  · intro some
    refine
      ⟨librariesJson configuration.libraries, ?_, librariesOf_librariesJson _⟩
    rw [settingsAsRead, found, settingsMembers, if_neg (by simp [some])]
    rfl

/-- A bundle is held by what a reader takes it for. -/
theorem held_asRead (bundle : Bundle) : Held bundle.asRead bundle := by
  have distinct : (bundle.membersAsRead.map Prod.fst).Nodup := by
    simp [membersAsRead]
  have found := member?_insertAll distinct
  constructor
  · refine
      ⟨_, found "sources", ?_, fun path => OrderedMap.find?_mapValues _ _ path⟩
    simp [OrderedMap.mapValues, Entries.mapValues, SourceSet.paths,
      OrderedMap.keys]
  · exact ⟨_, found "settings", holdsSettings_settingsAsRead _⟩

/-! ## Texts and bundles -/

/--
The text of a bundle is a faithful account of it.  It can be read, and what is
read has for its sources the paths of the files, each with its content, and for
its settings those of the configuration.  So two bundles have one text if and
only if they are the same.  The order in which files came cannot be told from
it, but for those with one path, of which the first stays.
-/
theorem text_faithful
    (pairs : List (String × String))
    (configuration : Configuration) :
    (∃ value,
      Json.parse (text ⟨.ofList pairs, configuration⟩) = .ok value ∧
        Held value ⟨.ofList pairs, configuration⟩) ∧
      (∀ others otherConfiguration,
        text ⟨.ofList pairs, configuration⟩ =
          text ⟨.ofList others, otherConfiguration⟩ ↔
          SourceSet.ofList pairs = .ofList others ∧
            configuration = otherConfiguration) ∧
      (∀ others,
        SourceSet.Interleaved pairs others →
          text ⟨.ofList pairs, configuration⟩ =
            text ⟨.ofList others, configuration⟩) ∧
      (∀ others,
        pairs.Perm others →
          (pairs.map Prod.fst).Nodup →
            text ⟨.ofList pairs, configuration⟩ =
              text ⟨.ofList others, configuration⟩) := by
  have parsed := parse_text_asRead ⟨.ofList pairs, configuration⟩
  have held := held_asRead ⟨.ofList pairs, configuration⟩
  refine ⟨⟨_, parsed, held⟩,
    fun others otherConfiguration => ⟨fun same => ?_, ?_⟩, ?_, ?_⟩
  · rw [same, parse_text_asRead] at parsed
    have otherHeld := held_asRead ⟨.ofList others, otherConfiguration⟩
    have one := held.unique (Except.ok.inj parsed ▸ otherHeld)
    exact ⟨congrArg Bundle.files one, congrArg Bundle.configuration one⟩
  · rintro ⟨files, rfl⟩
    rw [files]
  · intro others interleaved
    rw [interleaved.ofList_eq]
  · intro others permuted apart
    rw [(SourceSet.Interleaved.of_perm permuted apart).ofList_eq]

end Bundle

end CompilerSession
