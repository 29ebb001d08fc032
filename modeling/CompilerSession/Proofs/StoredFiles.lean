import CompilerSession.Proofs.FileAccess
import CompilerSession.Settings.DirectoryStorage

namespace CompilerSession

/-!
# Texts in files and texts in memory

A storage that keeps its texts in the files of a directory answers like one that
keeps them in memory.  What relates the two is `Mirrors`: the directory is not
there yet and nothing has been stored, or each name in it has the text of that
key.  A key that is no name of its own is refused before anything is touched,
and no call reads or writes outside the directory, whatever its key is.
-/

/-! ## Calls of a storage -/

/-- What is asked of a storage. -/
inductive StorageCall where
  | get (key : String)
  | set (key text : String)

/-- What a storage answers. -/
inductive StorageReply where
  | found (answer : Except Failure (Option String))
  | stored (outcome : Except Failure Unit)

namespace StorageCall

/-- The key of a call. -/
def key : StorageCall → String
  | .get key => key
  | .set key _ => key

/-- The reply to a call that fails. -/
def failed (failure : Failure) : StorageCall → StorageReply
  | .get _ => .found (.error failure)
  | .set _ _ => .stored (.error failure)

end StorageCall

namespace Storage

variable {σ : Type} [Storage σ]

/-- The reply to a call, and the storage after it. -/
def perform (storage : σ) : StorageCall → StorageReply × σ
  | .get key => (.found (read storage key), storage)
  | .set key text =>
      (.stored (write storage key text).1, (write storage key text).2)

/-- The storage after calls one after the other. -/
def performAll
    (storage : σ)
    (calls : List StorageCall) : σ :=
  calls.foldl (fun storage call => (perform storage call).2) storage

/-- The calls with the replies to them. -/
def transcript
    (storage : σ) : List StorageCall → List (StorageCall × StorageReply)
  | [] => []
  | call :: rest => (call, (perform storage call).1) ::
      transcript (perform storage call).2 rest

end Storage

namespace DirectoryStorage

/-! ## Keys -/

/--
A key is a name of its own: it is not empty, nothing in it separates names, and
it does not mean a directory.
-/
def IsName (key : String) : Prop :=
  key ≠ "" ∧ '/' ∉ key.toList ∧ '\\' ∉ key.toList ∧ key ≠ "." ∧ key ≠ ".."

instance : DecidablePred IsName := fun key =>
  inferInstanceAs (Decidable (key ≠ "" ∧ _))

/-- The check of a key tells whether it is a name. -/
theorem validKey_iff {key : String} : validKey key = true ↔ IsName key := by
  simp [validKey, IsName, and_assoc]

/--
The host takes the name of a key, and the whole text of the way to its file.
-/
def Accepts
    (root : FilePath)
    (key : String) : Prop :=
  FileSystem.accepts (Route.ofText root key) = true ∧
    key.utf8ByteSize ≤ FileSystem.longestName

instance (root : FilePath) : DecidablePred (Accepts root) := fun _ =>
  inferInstanceAs (Decidable (_ ∧ _))

/-- The characters of a name lead somewhere, and end as a name does. -/
theorem step_of_isName
    {key : String}
    (isName : IsName key) :
    Route.stepOf? key.toList = some (.down key) ∧
      Route.endingOf [key.toList] = .name := by
  obtain ⟨filled, -, -, notDot, notDots⟩ := isName
  have characters (spelled : List Char) (same : key.toList = spelled) :
      key = String.ofList spelled := by
    rw [← same, String.ofList_toList]
  constructor
  · unfold Route.stepOf?
    split
    · rename_i empty
      exact absurd (characters _ empty) filled
    · rename_i dot
      exact absurd (characters _ dot) notDot
    · rename_i dots
      exact absurd (characters _ dots) notDots
    · rw [String.ofList_toList]
  · unfold Route.endingOf
    split
    · rename_i nothing
      cases nothing
    · rename_i dot
      exact absurd (characters _ (List.cons.inj dot).1) notDot
    · rename_i empty
      exact absurd (characters _ (List.cons.inj empty).1) filled
    · rfl

/-- The way to the file of a key leads to that name in the root. -/
theorem ofText_of_isName
    {key : String}
    (isName : IsName key)
    (root : FilePath) :
    Route.ofText root key =
      ⟨(root ++ [key]).map .down, .name,
        Route.spelledBytes root + 1 + key.utf8ByteSize⟩ := by
  have unseparated : '/' ∉ key.toList := isName.2.1
  have whole : key.toList.splitOn '/' = [key.toList] :=
    List.splitOnP_eq_singleton fun character member =>
      beq_false_of_ne fun same => unseparated (same ▸ member)
  have inside : key.toList.head? ≠ some '/' :=
    fun leads => unseparated (List.mem_of_head? leads)
  obtain ⟨step, ending⟩ := step_of_isName isName
  simp [Route.ofText, whole, inside, step, ending]

/-- If the host takes the way to a file, it takes the way to the root. -/
theorem Accepts.root
    {root : FilePath}
    {key : String}
    (accepted : Accepts root key)
    (isName : IsName key) :
    FileSystem.accepts (.ofPath root) = true := by
  have ⟨fits, spellable⟩ := FileSystem.accepts_iff.mp accepted.1
  rw [ofText_of_isName isName] at fits spellable
  refine FileSystem.accepts_iff.mpr ⟨?_, fun step member => spellable step ?_⟩
  · exact Nat.le_trans (Nat.le_add_right _ (1 + key.utf8ByteSize))
      (Nat.add_assoc _ _ _ ▸ fits)
  · rw [List.map_append]
    exact List.mem_append_left _ member

/-! ## What a call touches -/

/-- A call of the storage in a directory, as an action on file systems. -/
def act
    (root : FilePath)
    (call : StorageCall)
    (system : FileSystem) :
    StorageReply × FileSystem :=
  let (reply, after) := Storage.perform (⟨system, root⟩ : DirectoryStorage) call
  (reply, after.system)

/-- A key that is no name is refused, and nothing is touched. -/
theorem perform_of_not_isName
    (storage : DirectoryStorage)
    {call : StorageCall}
    (noName : ¬ IsName call.key) :
    Storage.perform storage call =
      (call.failed (invalidKey call.key), storage) := by
  have invalid : ¬ validKey call.key = true := mt validKey_iff.mp noName
  cases call with
  | get key =>
      have refused : storage.get key = .error (invalidKey key) := if_neg invalid
      exact
        congrArg (fun answer => (StorageReply.found answer, storage)) refused
  | set key text =>
      have refused : storage.set key text =
        (.error (invalidKey key), storage) := if_neg invalid
      exact congrArg (fun done => (StorageReply.stored done.1, done.2)) refused

/-- What a reading of a file comes to. -/
def readReply :
  Except FileSystem.AccessError ByteArray → Except Failure (Option String)
  | .ok content =>
    match String.fromUTF8? content with
    | some text => .ok (some text)
    | none => .error (.fileAccess FileSystem.AccessError.notText.message)
  | .error .notFound => .ok none
  | .error error => .error (.fileAccess error.message)

/-- What a writing of a file comes to. -/
def writeReply : Except FileSystem.AccessError Unit → Except Failure Unit
  | .ok _ => .ok ()
  | .error error =>
      .error (.whileDoing "Failed to write storage entry" error.message)

/-- What is done once the root has been made, or could not be. -/
def storeIn
    (route : Route)
    (text : String) :
    Except FileSystem.AccessError Unit → FileSystem →
      Except Failure Unit × FileSystem
  | .ok _, made =>
    (writeReply (made.overwrite route text.toUTF8).1,
      (made.overwrite route text.toUTF8).2)
  | .error error, made =>
    (.error (.whileDoing "Failed to create storage root" error.message), made)

/-- Getting by a name reads the file of that name in the root. -/
theorem get_of_isName
    (storage : DirectoryStorage)
    {key : String}
    (isName : IsName key) :
    storage.get key =
      readReply (storage.system.read (Route.ofText storage.root key)) := by
  rw [get, if_pos (validKey_iff.mpr isName), routeOf]
  rfl

/-- Setting by a name makes the directories of the root and writes the file. -/
theorem set_of_isName
    (storage : DirectoryStorage)
    {key : String}
    (isName : IsName key)
    (text : String) :
    storage.set key text =
      let made := storage.system.makeDirectories (.ofPath storage.root)
      let stored := storeIn (Route.ofText storage.root key) text made.1 made.2
      (stored.1, { storage with system := stored.2 }) := by
  rw [set, if_pos (validKey_iff.mpr isName), routeOf]
  rcases storage.system.makeDirectories (.ofPath storage.root) with
    ⟨error | _, made⟩
  · rfl
  · simp only [storeIn, FileSystem.overwrite]
    cases made.write (Route.ofText storage.root key) text.toUTF8 <;> rfl

/-- A call does not move the root. -/
theorem root_perform
    (storage : DirectoryStorage)
    (call : StorageCall) :
    (Storage.perform storage call).2.root = storage.root := by
  by_cases isName : IsName call.key
  · cases call with
    | get key =>
        rfl
    | set key text =>
        exact congrArg (·.2.root) (set_of_isName storage isName text)
  · rw [perform_of_not_isName storage isName]

theorem act_get
    (root : FilePath)
    (key : String)
    (isName : IsName key) :
    act root (.get key) =
      fun system =>
        (.found (readReply (system.read (Route.ofText root key))), system) :=
  funext fun system =>
    congrArg (fun answer => (StorageReply.found answer, system))
      (get_of_isName ⟨system, root⟩ isName)

/-- A set by a name makes directories and writes along one route. -/
theorem act_set
    (root : FilePath)
    (key text : String)
    (isName : IsName key) :
    act root (.set key text) =
      fun system =>
        let made := system.makeDirectories (.ofPath root)
        let stored := storeIn (Route.ofText root key) text made.1 made.2
        (.stored stored.1, stored.2) :=
  funext fun system =>
    congrArg (fun done => (StorageReply.stored done.1, done.2.system))
      (set_of_isName ⟨system, root⟩ isName text)

/-- A call that names nothing is refused, whatever the files are. -/
theorem act_of_not_isName
    {call : StorageCall}
    (noName : ¬ IsName call.key)
    (root : FilePath) :
    act root call = fun system => (call.failed (invalidKey call.key), system) :=
  funext fun system =>
    congrArg (fun done => (done.1, done.2.system))
      (perform_of_not_isName ⟨system, root⟩ noName)

/-- Storing a text once the root has been made keeps to it. -/
theorem confined_storeIn
    {root : FilePath}
    {route : Route}
    {key : String}
    (steps : route.steps = (root ++ [key]).map .down)
    (text : String)
    (made : Except FileSystem.AccessError Unit) :
    FileSystem.Confined root (storeIn route text made) := by
  cases made with
  | ok =>
      exact (FileSystem.confined_overwrite steps text.toUTF8).map writeReply
  | error error =>
      exact .pure _

/-- A call keeps to the root, whatever its key is. -/
theorem confined_act
    (root : FilePath)
    (call : StorageCall) :
    FileSystem.Confined root (act root call) := by
  by_cases isName : IsName call.key
  · have steps := congrArg Route.steps (ofText_of_isName isName root)
    cases call with
    | get key =>
        rw [act_get root key isName]
        exact (FileSystem.confined_read steps).map fun read =>
          StorageReply.found (readReply read)
    | set key text =>
        rw [act_set root key text isName]
        have making := FileSystem.confined_makeDirectories root
        exact
          (making.bind (confined_storeIn steps text)).map StorageReply.stored
  · rw [act_of_not_isName isName]
    exact .pure _

/-! ## The texts of a directory -/

/-- The bytes of a text are read back as that text. -/
theorem fromUTF8?_toByteArray (text : String) :
    String.fromUTF8? text.toByteArray = some text := by
  rw [String.fromUTF8?, dif_pos text.isValidUTF8]
  rfl

/--
The names in the root have the texts of a storage in memory, or there is no root
yet and nothing is stored.
-/
structure Mirrors
    (storage : DirectoryStorage)
    (memory : MapStorage) : Prop where
  reaches : storage.system.Reaches storage.root
  here :
    storage.system.node? storage.root = some .directory ∨
      storage.system.node? storage.root = none ∧ ∀ key, memory.get? key = none
  held :
    ∀ name,
      storage.system.node? (storage.root ++ [name]) =
        (memory.get? name).map fun text => .file text.toUTF8

variable
  {storage : DirectoryStorage}
  {memory : MapStorage}
  {key : String}

/-- Reading from the directory gives what the memory has. -/
theorem Mirrors.get
    (mirrors : storage.Mirrors memory)
    (isName : IsName key)
    (accepted : Accepts storage.root key) :
    storage.get key = .ok (memory.get? key) := by
  have steps := congrArg Route.steps (ofText_of_isName isName storage.root)
  have ending := congrArg Route.ending (ofText_of_isName isName storage.root)
  rw [get_of_isName storage isName, FileSystem.read]
  rcases mirrors.here with isDirectory | ⟨missing, nothing⟩
  · rw [mirrors.reaches.locate_inside accepted.1 steps accepted.2 isDirectory]
    simp only [mirrors.held key]
    cases memory.get? key with
    | none =>
        rfl
    | some text =>
        simp [ending, readReply, fromUTF8?_toByteArray]
  · rw [mirrors.reaches.locate_missing accepted.1 steps missing, nothing key]
    rfl

/-- The root can be made, and the texts are the same when it is there. -/
theorem Mirrors.make
    (mirrors : storage.Mirrors memory)
    (accepted : FileSystem.accepts (.ofPath storage.root) = true) :
    ∃ made,
      storage.system.makeDirectories (.ofPath storage.root) = (.ok (), made) ∧
        made.node? storage.root = some .directory ∧
        Mirrors { storage with system := made } memory := by
  have making := mirrors.reaches.makeDirectories accepted
  rcases mirrors.here with isDirectory | ⟨missing, nothing⟩
  · rw [isDirectory] at making
    exact ⟨storage.system, making, isDirectory, mirrors⟩
  · rw [missing] at making
    have proper : storage.root ≠ [] := by
      intro top
      rw [top] at missing
      cases missing
    have isDirectory :
        (storage.system.put storage.root .directory).node? storage.root =
          some .directory := by
      rw [FileSystem.node?_put _ proper, if_pos rfl]
    refine ⟨_, making, isDirectory, ?_, Or.inl isDirectory, fun name => ?_⟩
    · exact mirrors.reaches.of_elsewhere fun path outside =>
        FileSystem.node?_put_elsewhere proper _ (Or.inl rfl) outside
    · rw [FileSystem.node?_put _ proper, if_neg (by simp)]
      exact mirrors.held name

/--
A file that is put in the directory has the text of its key, and the others
stay.
-/
theorem Mirrors.put
    (mirrors : storage.Mirrors memory)
    (isDirectory : storage.system.node? storage.root = some .directory)
    (key text : String) :
    Mirrors
      { storage with
        system :=
          storage.system.put (storage.root ++ [key]) (.file text.toUTF8) }
      (memory.set key text) where
  reaches :=
    mirrors.reaches.of_elsewhere fun _ outside =>
      FileSystem.node?_put_elsewhere (by simp) _ (Or.inr ⟨key, rfl⟩) outside
  here :=
    Or.inl <| by
      rw [FileSystem.node?_put _ (by simp), if_neg (by simp)]
      exact isDirectory
  held name := by
    rw [FileSystem.node?_put _ (by simp), MapStorage.get?, MapStorage.set,
      OrderedMap.find?_insert]
    by_cases same : name = key
    · simp [same]
    · simpa [same, MapStorage.get?] using mirrors.held name

/--
Writing to the directory succeeds and does what writing to the memory does.
-/
theorem Mirrors.set
    (mirrors : storage.Mirrors memory)
    (isName : IsName key)
    (accepted : Accepts storage.root key)
    (text : String) :
    (storage.set key text).1 = .ok () ∧
      (storage.set key text).2.Mirrors (memory.set key text) := by
  obtain ⟨made, making, isDirectory, mirrorsMade⟩ :=
    mirrors.make (accepted.root isName)
  have steps := congrArg Route.steps (ofText_of_isName isName storage.root)
  have ending := congrArg Route.ending (ofText_of_isName isName storage.root)
  have place :=
    mirrorsMade.reaches.locate_inside accepted.1 steps accepted.2 isDirectory
  have written :
      made.overwrite (Route.ofText storage.root key) text.toUTF8 =
        (.ok (), made.put (storage.root ++ [key]) (.file text.toUTF8)) := by
    have node := mirrorsMade.held key
    simp only [FileSystem.overwrite, FileSystem.write] at place ⊢
    rw [place]
    simp only [node]
    cases memory.get? key <;> simp [ending]
  rw [set_of_isName storage isName]
  simp only [making, storeIn, written]
  exact ⟨rfl, mirrorsMade.put isDirectory key text⟩

/-! ## Runs of calls -/

/--
The root is an empty directory or is not there yet, and its parent is there.
-/
structure Fresh (storage : DirectoryStorage) : Prop where
  tree : storage.system.IsTree
  parent : storage.system.node? storage.root.dropLast = some .directory
  short : ∀ name ∈ storage.root, name.utf8ByteSize ≤ FileSystem.longestName
  bare :
    storage.system.node? storage.root = none ∨
      storage.system.node? storage.root = some .directory ∧
        ∀ name, storage.system.node? (storage.root ++ [name]) = none

/-- What stands in a directory of a tree needs the directory. -/
theorem Fresh.nothing
    (fresh : storage.Fresh)
    (name : String) :
    storage.system.node? (storage.root ++ [name]) = none := by
  rcases fresh.bare with missing | ⟨-, empty⟩
  · cases found : storage.system.node? (storage.root ++ [name]) with
    | none =>
        rfl
    | some node =>
        have isDirectory :=
          fresh.tree.directory_of_append found (List.cons_ne_nil name [])
        rw [missing] at isDirectory
        cases isDirectory
  · exact empty name

theorem Fresh.mirrors (fresh : storage.Fresh) : storage.Mirrors .empty where
  reaches := fresh.tree.reaches fresh.parent fresh.short
  here := by
    rcases fresh.bare with missing | ⟨isDirectory, -⟩
    · exact Or.inr ⟨missing, fun _ => rfl⟩
    · exact Or.inl isDirectory
  held name := fresh.nothing name

/-- A call that names a key is answered from the memory, and done there too. -/
theorem Mirrors.perform
    (mirrors : storage.Mirrors memory)
    {call : StorageCall}
    (isName : IsName call.key)
    (accepted : Accepts storage.root call.key) :
    (Storage.perform storage call).1 = (Storage.perform memory call).1 ∧
      (Storage.perform storage call).2.Mirrors
        (Storage.perform memory call).2 := by
  cases call with
  | get key =>
      exact ⟨congrArg StorageReply.found (mirrors.get isName accepted), mirrors⟩
  | set key text =>
      obtain ⟨succeeds, mirrorsAfter⟩ := mirrors.set isName accepted text
      exact ⟨congrArg StorageReply.stored succeeds, mirrorsAfter⟩

/-- The calls that name a key, with the replies to them. -/
def named
    (transcript : List (StorageCall × StorageReply)) :
    List (StorageCall × StorageReply) :=
  transcript.filter fun entry => decide (IsName entry.1.key)

/-- The calls that name a key. -/
def namedCalls (calls : List StorageCall) : List StorageCall :=
  calls.filter fun call => decide (IsName call.key)

theorem named_cons
    (call : StorageCall)
    (reply : StorageReply)
    (rest : List (StorageCall × StorageReply)) :
    named ((call, reply) :: rest) =
      if IsName call.key then (call, reply) :: named rest else named rest := by
  simp [named, List.filter_cons]

theorem namedCalls_cons
    (call : StorageCall)
    (rest : List StorageCall) :
    namedCalls (call :: rest) =
      if IsName call.key then call :: namedCalls rest else namedCalls rest := by
  simp [namedCalls, List.filter_cons]

/-- So it is with calls one after the other. -/
theorem Mirrors.run
    (mirrors : storage.Mirrors memory)
    {calls : List StorageCall}
    (accepted :
      ∀ call ∈ calls, IsName call.key → Accepts storage.root call.key) :
    named (Storage.transcript storage calls) =
      Storage.transcript memory (namedCalls calls) ∧
      (Storage.performAll storage calls).Mirrors
        (Storage.performAll memory (namedCalls calls)) ∧
      (Storage.performAll storage calls).root = storage.root := by
  -- The memory is asked only the calls that name a key, so it stands still at
  -- the others.
  induction calls generalizing storage memory with
  | nil =>
      exact ⟨rfl, mirrors, rfl⟩
  | cons call rest inductionHypothesis =>
      have ⟨acceptedFirst, acceptedRest⟩ := List.forall_mem_cons.mp accepted
      rw [Storage.transcript, named_cons, namedCalls_cons, Storage.performAll,
        List.foldl_cons]
      by_cases isName : IsName call.key
      · obtain ⟨sameReply, mirrorsAfter⟩ :=
          mirrors.perform isName (acceptedFirst isName)
        have sameRoot := root_perform storage call
        obtain ⟨sameLater, mirrorsLater, rootLater⟩ :=
          inductionHypothesis mirrorsAfter (by rwa [sameRoot])
        rw [if_pos isName, if_pos isName, Storage.transcript, sameReply,
          sameLater]
        exact ⟨rfl, mirrorsLater, rootLater.trans sameRoot⟩
      · rw [if_neg isName, if_neg isName, perform_of_not_isName storage isName]
        exact inductionHypothesis mirrors acceptedRest

/--
Texts in files are answered like texts in memory.  From a root that is missing
or empty in a directory, whatever is asked with keys that are names, the host
taking these, has the replies of a storage in memory that is asked just that.  A
call whose key is no name is refused and changes nothing, be it the first one or
a later one.  And every call keeps to the root: it leaves all that stands
elsewhere, and neither its reply nor what it leaves in the root depends on that.
-/
theorem files_mirror_memory
    (storage : DirectoryStorage)
    (calls : List StorageCall)
    (fresh : storage.Fresh)
    (accepted :
      ∀ call ∈ calls, IsName call.key → Accepts storage.root call.key) :
    named (Storage.transcript storage calls) =
        Storage.transcript MapStorage.empty (namedCalls calls) ∧
      (∀ earlier call later,
        calls = earlier ++ call :: later →
          let before := Storage.performAll storage earlier
          before.root = storage.root ∧
            before.system.Reaches storage.root ∧
            (¬ IsName call.key →
              Storage.perform before call =
                (call.failed (invalidKey call.key), before))) ∧
      ∀ call, FileSystem.Confined storage.root (act storage.root call) := by
  refine ⟨(fresh.mirrors.run accepted).1, ?_, confined_act storage.root⟩
  intro earlier call later shape before
  subst shape
  have acceptedEarlier := (List.forall_mem_append.mp accepted).1
  obtain ⟨-, mirrors, sameRoot⟩ := fresh.mirrors.run acceptedEarlier
  exact ⟨sameRoot, sameRoot ▸ mirrors.reaches, perform_of_not_isName before⟩

/-- A directory with one file, next to which settings are to be kept. -/
def besideSecret : DirectoryStorage where
  system :=
    ⟨[(["home"], .directory), (["home", "secret"], .file "kept".toUTF8)]⟩
  root := ["home", "settings"]

theorem fresh_besideSecret : besideSecret.Fresh where
  tree := by
    intro path node found
    by_cases top : path = []
    · subst top
      rfl
    · simp only [FileSystem.node?, top, if_false, besideSecret, List.find?_cons,
        List.find?_nil] at found
      split at found
      · rename_i isHome
        rw [← beq_iff_eq.mp isHome]
        rfl
      · split at found
        · rename_i isSecret
          rw [← beq_iff_eq.mp isSecret]
          rfl
        · cases found
  parent := rfl
  short := by decide +kernel
  bare := Or.inl rfl

/--
A key that leads out of the settings is refused, and the file beside them stays.
-/
theorem files_mirror_memory_besideSecret :
    let calls : List StorageCall :=
      [.get "optimize", .set "../secret" "lost", .set "optimize" "true",
        .get "optimize"]
    besideSecret.Fresh ∧
      (∀ call ∈ calls, IsName call.key → Accepts besideSecret.root call.key) ∧
      named (Storage.transcript besideSecret calls) =
        [(.get "optimize", .found (.ok none)),
          (.set "optimize" "true", .stored (.ok ())),
          (.get "optimize", .found (.ok (some "true")))] ∧
      Storage.perform besideSecret (.set "../secret" "lost") =
        (.stored (.error (invalidKey "../secret")), besideSecret) ∧
      (Storage.perform besideSecret (.set "optimize" "true")).2.system.node?
        ["home", "secret"] =
        some (.file "kept".toUTF8) := by
  intro calls
  have accepted :
      ∀ call ∈ calls, IsName call.key → Accepts besideSecret.root call.key := by
    decide +kernel
  obtain ⟨same, steps, confined⟩ :=
    files_mirror_memory besideSecret calls fresh_besideSecret accepted
  obtain ⟨-, reaches, refused⟩ := steps [.get "optimize"] _ _ rfl
  have outside : ¬ FileSystem.Within besideSecret.root ["home", "secret"] := by
    rintro (isRoot | ⟨name, isChild⟩)
    · simp [besideSecret] at isRoot
    · simp [besideSecret] at isChild
  refine ⟨fresh_besideSecret, accepted, same.trans rfl,
    refused (by decide +kernel), ?_⟩
  exact (confined (.set "optimize" "true")).elsewhere besideSecret.system
    reaches _ outside

end DirectoryStorage

end CompilerSession
