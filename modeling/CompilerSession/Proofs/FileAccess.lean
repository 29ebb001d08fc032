import CompilerSession.Settings.FileSystem
import Mathlib.Data.List.Induction

namespace CompilerSession.FileSystem

/-!
# Access to files of one directory

A directory is reached when everything on the way to it is a directory and its
names are not too long.  What reading and writing a file in it, and making it,
come to then depends on the node at the directory and the node at the file
alone.
-/

variable {system : FileSystem} {path : FilePath}

/-! ## Nodes -/

@[simp] theorem node?_nil
    (system : FileSystem) :
    system.node? [] = some .directory :=
  rfl

/--
A node that has been put is found at its path, and elsewhere nothing has
changed.
-/
theorem node?_put
    (system : FileSystem)
    {path : FilePath}
    (proper : path ≠ [])
    (node : Node)
    (wanted : FilePath) :
    (system.put path node).node? wanted =
      if wanted = path then some node else system.node? wanted := by
  by_cases top : wanted = []
  · subst top
    simp [Ne.symm proper]
  · by_cases same : wanted = path
    · simp [node?, put, proper, same]
    · have other : (path == wanted) = false := by simpa using Ne.symm same
      simp only [node?, put, top, same, if_false, List.find?_cons, other]
      rw [List.find?_filter]
      congr 2
      funext entry
      by_cases isWanted : entry.1 = wanted <;> simp [isWanted, same]

/-- Every node stands in a directory. -/
def IsTree (system : FileSystem) : Prop :=
  ∀ path node, system.node? path = some node →
    system.node? path.dropLast = some .directory

/-- In a tree everything on the way to a node is a directory. -/
theorem IsTree.directory_of_append
    (tree : system.IsTree)
    {front back : FilePath}
    {node : Node}
    (found : system.node? (front ++ back) = some node)
    (further : back ≠ []) :
    system.node? front = some .directory := by
  -- A tree tells of the last name of a path, so the names are taken off at its
  -- end.
  induction back using List.reverseRecOn generalizing node with
  | nil =>
      exact absurd rfl further
  | append_singleton middle last inductionHypothesis =>
      have parent := tree _ _ found
      rw [← List.append_assoc, List.dropLast_concat] at parent
      by_cases nothing : middle = []
      · simpa [nothing] using parent
      · exact inductionHypothesis parent nothing

/-! ## Following a path -/

/--
A route is accepted if it is not too long and all of its steps can be spelled.
-/
theorem accepts_iff {route : Route} :
    accepts route = true ↔
      route.bytes ≤ longestRoute ∧
        ∀ step ∈ route.steps, isSpellable step = true := by
  simp [accepts]

/-- Everything above a path is a directory, and no name of it is too long. -/
structure Reaches
    (system : FileSystem)
    (path : FilePath) : Prop where
  above :
    ∀ front name back, path = front ++ name :: back →
      system.node? front = some .directory
  short : ∀ name ∈ path, name.utf8ByteSize ≤ longestName

/-- In a tree a path is reached if its parent is there. -/
theorem IsTree.reaches
    (tree : system.IsTree)
    (parent : system.node? path.dropLast = some .directory)
    (short : ∀ name ∈ path, name.utf8ByteSize ≤ longestName) :
    system.Reaches path where
  above front name back shape := by
    rcases List.eq_nil_or_concat back with rfl | ⟨middle, last, rfl⟩
    · rwa [shape, List.dropLast_concat] at parent
    · rw [shape, List.concat_eq_append, ← List.cons_append, ← List.append_assoc,
        List.dropLast_concat] at parent
      exact tree.directory_of_append parent (List.cons_ne_nil name middle)
  short := short

theorem follow_append
    (system : FileSystem)
    (place : FilePath)
    (front back : List Step) :
    system.follow place (front ++ back) =
      (system.follow place front).bind fun reached =>
        system.follow reached back := by
  induction front generalizing place with
  | nil =>
      rfl
  | cons step rest inductionHypothesis =>
      simp only [List.cons_append, follow]
      split
      · rfl
      · rfl
      · cases step with
        | up =>
            exact inductionHypothesis _
        | down name =>
            simp only []
            split
            · exact inductionHypothesis _
            · rfl

/-- The steps down a path lead to it if it is reached. -/
theorem Reaches.follow
    (reaches : system.Reaches path) :
    system.follow [] (path.map .down) = .ok path := by
  induction path using List.reverseRecOn with
  | nil =>
      rfl
  | append_singleton front name inductionHypothesis =>
      have onWay : system.Reaches front :=
        { above := fun earlier next later shape =>
            reaches.above earlier next (later ++ [name]) (by simp [shape])
          short := fun other member =>
            reaches.short other (List.mem_append_left _ member) }
      have place := reaches.above front name [] rfl
      have fits := reaches.short name (by simp)
      rw [List.map_append, follow_append, inductionHypothesis onWay]
      simp [Except.bind, FileSystem.follow, place, fits]

/-- A path that is reached is located by the route down its names. -/
theorem Reaches.locate
    (reaches : system.Reaches path)
    {route : Route}
    (accepted : accepts route = true)
    (steps : route.steps = path.map .down) :
    system.locate route = .ok path := by
  rw [FileSystem.locate, if_pos accepted, steps, reaches.follow]

/--
The way to a file in a directory depends on the node at the directory alone.
-/
theorem Reaches.locate_child
    (reaches : system.Reaches path)
    {route : Route}
    {name : String}
    (accepted : accepts route = true)
    (steps : route.steps = (path ++ [name]).map .down) :
    system.locate route = system.follow path [.down name] := by
  rw [FileSystem.locate, if_pos accepted, steps, List.map_append, follow_append,
    reaches.follow]
  rfl

/-- A name in a directory that is reached is located by the route down to it. -/
theorem Reaches.locate_inside
    (reaches : system.Reaches path)
    {route : Route}
    {name : String}
    (accepted : accepts route = true)
    (steps : route.steps = (path ++ [name]).map .down)
    (short : name.utf8ByteSize ≤ longestName)
    (isDirectory : system.node? path = some .directory) :
    system.locate route = .ok (path ++ [name]) := by
  rw [reaches.locate_child accepted steps]
  simp [FileSystem.follow, isDirectory, short]

/-- A name in a directory that is missing is not found. -/
theorem Reaches.locate_missing
    (reaches : system.Reaches path)
    {route : Route}
    {name : String}
    (accepted : accepts route = true)
    (steps : route.steps = (path ++ [name]).map .down)
    (missing : system.node? path = none) :
    system.locate route = .error .notFound := by
  rw [reaches.locate_child accepted steps]
  simp [FileSystem.follow, missing]

/--
Making a directory that is reached comes to making one node, if that is missing.
-/
theorem Reaches.makeDirectories
    (reaches : system.Reaches path)
    (accepted : accepts (.ofPath path) = true) :
    system.makeDirectories (.ofPath path) =
      match system.node? path with
      | none => (.ok (), system.put path .directory)
      | some .directory => (.ok (), system)
      | some (.file _) => (.error .alreadyExists, system) := by
  have place := reaches.locate accepted rfl
  have ending : (Route.ofPath path).ending ≠ .dot := by
    simp [Route.ofPath]
  rw [FileSystem.makeDirectories]
  cases found : system.node? path with
  | none =>
      simp [ensureDirectory, makeDirectory, place, found, ending]
  | some node =>
      cases node <;>
        simp [ensureDirectory, makeDirectory, hasDirectory, place, found]

/-- A path that is refused has no directories made. -/
theorem makeDirectories_of_refused
    (system : FileSystem)
    (refused : accepts (.ofPath path) = false) :
    system.makeDirectories (.ofPath path) = (.error .nameRefused, system) := by
  rw [makeDirectories]
  simp [ensureDirectory, makeDirectory, hasDirectory, locate, refused]

/-! ## Keeping to a directory -/

/-- The path is that of a directory, or of something that stands in it. -/
def Within (root path : FilePath) : Prop :=
  path = root ∨ ∃ name, path = root ++ [name]

/-- Two file systems have the same nodes at a directory and in it. -/
def Agrees
    (root : FilePath)
    (left right : FileSystem) : Prop :=
  ∀ path, Within root path → left.node? path = right.node? path

variable
  {ρ τ : Type}
  {root : FilePath}
  {name : String}
  {route : Route}

/--
An action on file systems keeps to a directory that is reached: it leaves all
other nodes alone, and what it answers and leaves there does not depend on them
either.
-/
structure Confined
    (root : FilePath)
    (act : FileSystem → ρ × FileSystem) : Prop where
  elsewhere :
    ∀ system : FileSystem,
      system.Reaches root →
        ∀ path, ¬ Within root path →
          (act system).2.node? path = system.node? path
  told :
    ∀ left right : FileSystem,
      left.Reaches root →
        right.Reaches root →
          Agrees root left right →
            (act left).1 = (act right).1 ∧
              Agrees root (act left).2 (act right).2

/-- What stands above a directory is not within it. -/
theorem not_within_front
    {front back : FilePath}
    (shape : root = front ++ name :: back) :
    ¬ Within root front := by
  rintro (same | ⟨last, same⟩)
  all_goals
    have lengths := congrArg List.length same
    simp only [shape, List.length_append, List.length_cons] at lengths
    omega

/--
What stands above a directory stays there, so the directory goes on being
reached.
-/
theorem Reaches.of_elsewhere
    {after : FileSystem}
    (reaches : system.Reaches root)
    (elsewhere :
      ∀ path, ¬ Within root path → after.node? path = system.node? path) :
    after.Reaches root where
  above front name back shape :=
    (elsewhere front (not_within_front shape)).trans
      (reaches.above front name back shape)
  short := reaches.short

namespace Confined

theorem pure (reply : ρ) : Confined root fun system => (reply, system) where
  elsewhere _ _ _ _ := rfl
  told _ _ _ _ agrees := ⟨rfl, agrees⟩

theorem map
    {act : FileSystem → ρ × FileSystem}
    (confined : Confined root act)
    (change : ρ → τ) :
    Confined root fun system => (change (act system).1, (act system).2) where
  elsewhere := confined.elsewhere
  told left right leftReaches rightReaches agrees :=
    have told := confined.told left right leftReaches rightReaches agrees
    ⟨congrArg change told.1, told.2⟩

/-- What comes after may depend on the answer. -/
theorem bind
    {first : FileSystem → ρ × FileSystem}
    {second : ρ → FileSystem → τ × FileSystem}
    (confined : Confined root first)
    (confinedAfter : ∀ reply, Confined root (second reply)) :
    Confined root fun system => second (first system).1 (first system).2 where
  elsewhere system reaches path outside := by
    have before := confined.elsewhere system reaches
    -- The second action keeps to the root only because the first has left the
    -- way to it.
    rw [(confinedAfter _).elsewhere _ (reaches.of_elsewhere before) path
      outside]
    exact before path outside
  told left right leftReaches rightReaches agrees := by
    obtain ⟨same, agreesAfter⟩ :=
      confined.told left right leftReaches rightReaches agrees
    rw [same]
    exact
      (confinedAfter _).told _ _
        (leftReaches.of_elsewhere (confined.elsewhere left leftReaches))
        (rightReaches.of_elsewhere (confined.elsewhere right rightReaches))
          agreesAfter

end Confined

/-- Putting a node in a directory, or the directory itself, leaves all else. -/
theorem node?_put_elsewhere
    {system : FileSystem}
    {place path : FilePath}
    (proper : place ≠ [])
    (node : Node)
    (within : Within root place)
    (outside : ¬ Within root path) :
    (system.put place node).node? path = system.node? path := by
  rw [node?_put system proper, if_neg]
  rintro rfl
  exact outside within

/-- Systems that agree still agree when the same node is put into both. -/
theorem Agrees.put
    {left right : FileSystem}
    {place : FilePath}
    (agrees : Agrees root left right)
    (proper : place ≠ [])
    (node : Node) :
    Agrees root (left.put place node) (right.put place node) := by
  intro path within
  rw [node?_put left proper, node?_put right proper, agrees path within]

/--
Where file systems agree, a file is found at the same place or missed alike.
-/
theorem Agrees.locate
    {left right : FileSystem}
    (agrees : Agrees root left right)
    (leftReaches : left.Reaches root)
    (rightReaches : right.Reaches root)
    (steps : route.steps = (root ++ [name]).map .down) :
    left.locate route = right.locate route := by
  cases accepted : accepts route with
  | false =>
      simp [FileSystem.locate, accepted]
  | true =>
      rw [leftReaches.locate_child accepted steps,
        rightReaches.locate_child accepted steps]
      simp only [follow, agrees root (Or.inl rfl)]

theorem Reaches.eq_of_locate
    (reaches : system.Reaches root)
    (steps : route.steps = (root ++ [name]).map .down)
    {place : FilePath}
    (located : system.locate route = .ok place) :
    place = root ++ [name] := by
  cases accepted : accepts route with
  | false =>
      simp [FileSystem.locate, accepted] at located
  | true =>
      rw [reaches.locate_child accepted steps] at located
      simp only [FileSystem.follow] at located
      split at located
      · cases located
      · cases located
      · split at located
        · exact (Except.ok.inj located).symm
        · cases located

/-- Reading a file in a directory keeps to it. -/
theorem confined_read
    (steps : route.steps = (root ++ [name]).map .down) :
    Confined root fun system => (system.read route, system) where
  elsewhere _ _ _ _ := rfl
  told left right leftReaches rightReaches agrees := by
    refine ⟨?_, agrees⟩
    have same := agrees.locate leftReaches rightReaches steps
    simp only [read, same]
    split
    · rfl
    · rename_i place located
      rw [rightReaches.eq_of_locate steps located,
        agrees _ (Or.inr ⟨name, rfl⟩)]

/-- Writing a file, where the file system stays as it is if that fails. -/
def overwrite
    (route : Route)
    (content : ByteArray)
    (system : FileSystem) :
    Except AccessError Unit × FileSystem :=
  match system.write route content with
  | .ok written => (.ok (), written)
  | .error error => (.error error, system)

/-- Writing fails, or puts the file at its place. -/
theorem Reaches.overwrite_cases
    (reaches : system.Reaches root)
    (steps : route.steps = (root ++ [name]).map .down)
    (content : ByteArray) :
    (∃ error, overwrite route content system = (.error error, system)) ∨
      overwrite route content system =
        (.ok (), system.put (root ++ [name]) (.file content)) := by
  unfold overwrite write
  split
  · rename_i written succeeds
    split at succeeds
    · cases succeeds
    · rename_i place located
      split at succeeds
      · cases succeeds
      · split at succeeds
        · rw [← Except.ok.inj succeeds, reaches.eq_of_locate steps located]
          exact Or.inr rfl
        · cases succeeds
  · exact Or.inl ⟨_, rfl⟩

/-- Writing a file in a directory keeps to it. -/
theorem confined_overwrite
    (steps : route.steps = (root ++ [name]).map .down)
    (content : ByteArray) :
    Confined root (overwrite route content) where
  elsewhere system reaches path outside := by
    rcases reaches.overwrite_cases steps content with ⟨error, fails⟩ | succeeds
    · rw [fails]
    · rw [succeeds]
      exact node?_put_elsewhere (by simp) _ (Or.inr ⟨name, rfl⟩) outside
  told left right leftReaches rightReaches agrees := by
    have samePlace := agrees.locate leftReaches rightReaches steps
    simp only [overwrite, write, samePlace]
    cases located : right.locate route with
    | error error =>
        exact ⟨rfl, agrees⟩
    | ok place =>
        have isChild := rightReaches.eq_of_locate steps located
        have sameNode : left.node? place = right.node? place :=
          agrees place (Or.inr ⟨name, isChild⟩)
        have proper : place ≠ [] := by
          simp [isChild]
        have agreesAfter := agrees.put proper (.file content)
        simp only [sameNode]
        rcases right.node? place with _ | earlier | _ <;>
          by_cases ending : route.ending = .name <;>
          simp [ending, agrees, agreesAfter]

/-- Making a directory that is reached keeps to it. -/
theorem confined_makeDirectories (root : FilePath) :
    Confined root fun system => system.makeDirectories (.ofPath root) := by
  cases accepted : accepts (.ofPath root) with
  | false =>
      simp only [makeDirectories_of_refused _ accepted]
      exact .pure _
  | true =>
      constructor
      · intro system reaches path outside
        rw [reaches.makeDirectories accepted]
        split
        · rename_i missing
          refine node?_put_elsewhere ?_ _ (Or.inl rfl) outside
          rintro rfl
          cases missing
        · rfl
        · rfl
      · intro left right leftReaches rightReaches agrees
        rw [leftReaches.makeDirectories accepted,
          rightReaches.makeDirectories accepted, agrees root (Or.inl rfl)]
        split
        · rename_i missing
          refine ⟨rfl, agrees.put ?_ _⟩
          rintro rfl
          cases missing
        · exact ⟨rfl, agrees⟩
        · exact ⟨rfl, agrees⟩

end CompilerSession.FileSystem
