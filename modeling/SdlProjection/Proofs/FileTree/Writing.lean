import SdlProjection.FileTree
import SdlProjection.Proofs.Entries

/-!
Contract: what a write changes among the files of a run.

Owns: `surface?`, what stands at a location apart from what is below it;
`WrittenAt`, the relation between a tree and the same tree with the text of one
file replaced; that a write which succeeds leaves such a tree, and that the
paths lead where they led before, the one that was written to included.

Does not own: what is written, and when (`Command.Run`).
-/

namespace SdlProjection

/-- What stands at a location, apart from what is below it. -/
inductive Surface where
  | file (text : Option String)
  | directory
  | link (target : String)
deriving DecidableEq, Repr

namespace FileNode

def surface : FileNode → Surface
  | .file text => .file text
  | .directory _ => .directory
  | .link target => .link target

/-- The entry at a location below a node. -/
def below? : FileNode → Location → Option FileNode
  | .directory entries, rest => FileTree.nodeIn entries rest
  | node, [] => some node
  | _, _ :: _ => none

theorem surface_eq_file {node : FileNode} {text : Option String}
    (isFile : node.surface = .file text) : node = .file text := by
  cases node with
  | file own =>
      cases isFile
      rfl
  | directory entries => cases isFile
  | link target => cases isFile

theorem surface_eq_directory {node : FileNode} (isDirectory : node.surface = .directory) :
    ∃ entries, node = .directory entries := by
  cases node with
  | file text => cases isDirectory
  | directory entries => exact ⟨entries, rfl⟩
  | link target => cases isDirectory

theorem surface_eq_link {node : FileNode} {target : String}
    (isLink : node.surface = .link target) : node = .link target := by
  cases node with
  | file text => cases isLink
  | directory entries => cases isLink
  | link own =>
      cases isLink
      rfl

end FileNode

namespace Place

/-- Where the entry is that a path leads to, or where it would be. -/
def location : Place → Location
  | .entry location _ => location
  | .vacant directory name => directory ++ [name]

def node? : Place → Option FileNode
  | .entry _ node => some node
  | .vacant _ _ => none

end Place

namespace FileTree

theorem nodeIn_cons (entries : List (String × FileNode)) (name : String) (rest : Location) :
    nodeIn entries (name :: rest) =
      (Entries.get? entries name).bind fun node => node.below? rest := by
  cases found : Entries.get? entries name with
  | none => simp [nodeIn, found]
  | some node => cases node <;> cases rest <;> simp [nodeIn, found, FileNode.below?]

theorem nodeIn_concat (entries : List (String × FileNode)) (directory : Location)
    (name : String) :
    nodeIn entries (directory ++ [name]) =
      match nodeIn entries directory with
      | some (.directory inner) => Entries.get? inner name
      | _ => none := by
  induction directory generalizing entries with
  | nil =>
      show nodeIn entries [name] = Entries.get? entries name
      rw [nodeIn_cons]
      cases Entries.get? entries name with
      | none => rfl
      | some node => cases node <;> rfl
  | cons head tail inductionHypothesis =>
      rw [List.cons_append, nodeIn_cons, nodeIn_cons]
      cases Entries.get? entries head with
      | none => rfl
      | some node =>
          cases node with
          | file text => cases tail <;> rfl
          | directory inner => exact inductionHypothesis inner
          | link target => cases tail <;> rfl

theorem putIn_cons {entries inner : List (String × FileNode)} {name : String}
    (found : Entries.get? entries name = some (.directory inner)) {rest : Location}
    (further : rest ≠ []) (node : FileNode) :
    putIn entries (name :: rest) node =
      Entries.insert entries name (.directory (putIn inner rest node)) := by
  cases rest with
  | nil => exact absurd rfl further
  | cons next others =>
      rw [putIn.eq_def]
      simp only [found]

/-- A location that takes a file: what stands there is a file, or nothing. -/
def TakesFile (found : Option FileNode) : Prop :=
  ∀ node, found = some node → ∃ text, node.surface = .file text

/-- What a file among the entries of a directory changes: what stands under its name. -/
theorem surface_nodeIn_insert {entries : List (String × FileNode)} {name : String}
    (takes : TakesFile (Entries.get? entries name)) (text : Option String) (other : Location) :
    (nodeIn (Entries.insert entries name (.file text)) other).map FileNode.surface =
      if other = [name] then some (.file text)
      else (nodeIn entries other).map FileNode.surface := by
  cases other with
  | nil => rfl
  | cons next rest =>
      rw [nodeIn_cons, nodeIn_cons, Entries.get?_insert]
      by_cases same : name = next
      · subst same
        cases rest with
        | nil => simp [FileNode.below?, FileNode.surface]
        | cons further rest =>
            -- nothing was below a file, and nothing is
            cases found : Entries.get? entries name with
            | none => simp [FileNode.below?]
            | some node =>
                obtain ⟨old, isFile⟩ := takes node found
                rw [FileNode.surface_eq_file isFile]
                simp [FileNode.below?]
      · simp [same, Ne.symm same]

/-- The same for a file that is put into a directory farther down. -/
theorem surface_nodeIn_putIn {entries inner : List (String × FileNode)} {directory : Location}
    {name : String} (isDirectory : nodeIn entries directory = some (.directory inner))
    (takes : TakesFile (Entries.get? inner name)) (text : Option String) (other : Location) :
    (nodeIn (putIn entries (directory ++ [name]) (.file text)) other).map FileNode.surface =
      if other = directory ++ [name] then some (.file text)
      else (nodeIn entries other).map FileNode.surface := by
  induction directory generalizing entries other with
  | nil =>
      have same : inner = entries := by simpa [nodeIn] using isDirectory.symm
      rw [same] at takes
      exact surface_nodeIn_insert takes text other
  | cons head tail inductionHypothesis =>
      rw [nodeIn_cons] at isDirectory
      cases found : Entries.get? entries head with
      | none => simp [found] at isDirectory
      | some node =>
          rw [found, Option.bind_some] at isDirectory
          cases node with
          | file own => cases tail <;> cases isDirectory
          | link target => cases tail <;> cases isDirectory
          | directory middle =>
              have deeper := inductionHypothesis isDirectory
              rw [List.cons_append, putIn_cons found (by simp)]
              cases other with
              | nil => rfl
              | cons next rest =>
                  rw [nodeIn_cons, nodeIn_cons, Entries.get?_insert]
                  by_cases same : head = next
                  · subst same
                    rw [if_pos rfl, found]
                    simpa [FileNode.below?] using deeper rest
                  · simp [same, Ne.symm same]

/-- What stands at a location, apart from what is below it. -/
def surface? (tree : FileTree) (location : Location) : Option Surface :=
  (tree.node? location).map FileNode.surface

/-- The second tree is the first one with a file of the given text at a location, where there was
a file or nothing. -/
structure WrittenAt (before after : FileTree) (location : Location) (text : String) : Prop where
  current : after.current = before.current
  takes : TakesFile (before.node? location)
  surfaces : ∀ other, after.surface? other =
    if other = location then some (.file (some text)) else before.surface? other

/-- One piece that is a name, on the way of a path that is only looked at. -/
theorem follow_look_named {tree : FileTree} {links : Nat} {directory : Location} {piece : String}
    {rest : List String} (notIdle : ¬(piece = "" ∨ piece = ".")) (notUp : ¬piece = "..")
    (short : ¬nameLimit < piece.utf8ByteSize) :
    tree.follow .look links directory (piece :: rest) =
      match tree.node? (directory ++ [piece]) with
      | none => if rest = [] then .ok (.vacant directory piece) else .error .notFound
      | some (.directory _) => tree.follow .look links (directory ++ [piece]) rest
      | some (.file text) =>
        if rest = [] then .ok (.entry (directory ++ [piece]) (.file text))
        else .error .notDirectory
      | some (.link target) =>
        match links with
        | 0 => .error .tooManyLinks
        | links + 1 =>
          tree.follow .look links (if Path.isAbsolute target then [] else directory)
            (Path.pieces target ++ rest) := by
  have taken := follow.eq_def tree .look links directory (piece :: rest)
  simp only [if_neg notIdle, if_neg notUp, if_neg short, reduceCtorEq, false_and,
    if_false] at taken
  exact taken

/-- What a path is followed to is what stands there. -/
theorem node?_of_follow {tree : FileTree} {purpose : Purpose} {links : Nat}
    {directory : Location} {pieces : List String} {place : Place}
    (followed : tree.follow purpose links directory pieces = .ok place) :
    tree.node? place.location = place.node? := by
  fun_induction FileTree.follow tree purpose links directory pieces with
  | case1 | case7 | case10 =>
      cases followed
      assumption
  | case3 _ _ _ _ _ inductionHypothesis => exact inductionHypothesis followed
  | case4 _ _ _ _ inductionHypothesis => exact inductionHypothesis followed
  | case9 _ _ _ _ _ _ _ _ _ _ inductionHypothesis => exact inductionHypothesis followed
  | case13 _ _ _ _ _ _ _ _ _ _ inductionHypothesis => exact inductionHypothesis followed
  | case2 | case5 | case6 | case8 | case11 | case12 => cases followed

theorem place_eq_ok_iff {tree : FileTree} {purpose : Purpose} {path : String} {place : Place} :
    tree.place purpose path = .ok place ↔
      ('\x00' ∉ path.toList ∧ path ≠ "" ∧ path.utf8ByteSize ≤ pathLimit) ∧
        tree.follow purpose linkLimit (if Path.isAbsolute path then [] else tree.current)
          (Path.pieces path) = .ok place := by
  unfold FileTree.place
  split
  case isTrue nul => simp [List.contains_iff_mem.mp nul]
  case isFalse noNul =>
    split
    case isTrue empty => simp [empty]
    case isFalse notEmpty =>
      split
      case isTrue long => simp [Nat.not_le.mpr long]
      case isFalse short =>
        rw [List.contains_iff_mem] at noNul
        simp [noNul, notEmpty, Nat.not_lt.mp short]

theorem node?_of_place {tree : FileTree} {purpose : Purpose} {path : String} {place : Place}
    (placed : tree.place purpose path = .ok place) : tree.node? place.location = place.node? :=
  node?_of_follow (place_eq_ok_iff.mp placed).2

theorem place_of_find {tree : FileTree} {path : String} {place : Place}
    (found : tree.find path = .ok place) : tree.place .look path = .ok place := by
  unfold FileTree.find at found
  split at found
  case h_1 => cases found
  case h_2 => exact found

/-- A file stands in a directory. -/
theorem exists_directory_of_file {tree : FileTree} {location : Location} {text : Option String}
    (isFile : tree.node? location = some (.file text)) :
    ∃ directory name inner, location = directory ++ [name] ∧
      tree.node? directory = some (.directory inner) := by
  cases List.eq_nil_or_concat location with
  | inl top =>
      subst top
      cases isFile
  | inr last =>
      obtain ⟨directory, name, rfl⟩ := last
      rw [List.concat_eq_append, node?, nodeIn_concat] at isFile
      split at isFile
      case h_1 inner isDirectory =>
          exact ⟨directory, name, inner, List.concat_eq_append, isDirectory⟩
      case h_2 => cases isFile

section Reading

variable {before after : FileTree} {location : Location} {text : String}

theorem WrittenAt.here (written : WrittenAt before after location text) :
    after.node? location = some (.file (some text)) := by
  have surface := written.surfaces location
  rw [if_pos rfl, surface?, Option.map_eq_some_iff] at surface
  obtain ⟨node, found, isFile⟩ := surface
  rw [found, FileNode.surface_eq_file isFile]

/-- What stands elsewhere stands there still. -/
theorem WrittenAt.elsewhere (written : WrittenAt before after location text) {other : Location}
    (different : other ≠ location) {node : FileNode} (found : before.node? other = some node) :
    ∃ kept, after.node? other = some kept ∧ kept.surface = node.surface := by
  have surface := written.surfaces other
  rw [if_neg different, surface?, surface?, found, Option.map_some,
    Option.map_eq_some_iff] at surface
  exact surface

/-- Where something stood, something stands, and a file where there was a file. -/
theorem WrittenAt.stands (written : WrittenAt before after location text) {other : Location}
    {node : FileNode} (found : before.node? other = some node) :
    ∃ kept, after.node? other = some kept ∧
      ∀ old, node = .file old → ∃ now, kept = .file now := by
  by_cases same : other = location
  · subst same
    exact ⟨_, written.here, fun _ _ => ⟨some text, rfl⟩⟩
  · obtain ⟨kept, stands, unchanged⟩ := written.elsewhere same found
    refine ⟨kept, stands, ?_⟩
    intro old isFile
    subst isFile
    exact ⟨old, FileNode.surface_eq_file unchanged⟩

/-- No location that is passed on the way somewhere is the one that is written to. -/
theorem WrittenAt.ne_of_not_file (written : WrittenAt before after location text)
    {other : Location} {node : FileNode} (found : before.node? other = some node)
    (notFile : ∀ text, node.surface ≠ .file text) : other ≠ location := by
  intro same
  subst same
  obtain ⟨old, isFile⟩ := written.takes node found
  exact notFile old isFile

/-- A path that has led to an entry leads there still. One that has led to the location where
nothing was leads to the new file. -/
theorem WrittenAt.follow (written : WrittenAt before after location text) {purpose : Purpose}
    {links : Nat} {directory : Location} {pieces : List String} {place : Place}
    (followed : before.follow purpose links directory pieces = .ok place)
    (led : place.node? = none → place.location = location) :
    ∃ node, after.follow .look links directory pieces = .ok (.entry place.location node) ∧
      after.node? place.location = some node := by
  -- only the last piece can lead to the location: there was no directory and no link to go on from
  fun_induction FileTree.follow before purpose links directory pieces with
  | case1 links directory node found =>
      cases followed
      obtain ⟨kept, stands, -⟩ := written.stands found
      refine ⟨kept, ?_, stands⟩
      rw [FileTree.follow, stands]
      rfl
  | case3 links directory piece rest idle inductionHypothesis =>
      rw [FileTree.follow, if_pos idle]
      exact inductionHypothesis followed
  | case4 links directory rest notIdle inductionHypothesis =>
      rw [FileTree.follow, if_neg notIdle, if_pos rfl]
      exact inductionHypothesis followed
  | case7 links directory piece notIdle notUp short nothing plain =>
      cases followed
      have reached : directory ++ [piece] = location := led rfl
      have stands : after.node? (directory ++ [piece]) = some (.file (some text)) :=
        reached ▸ written.here
      refine ⟨_, ?_, stands⟩
      rw [follow_look_named notIdle notUp short, stands]
      rfl
  | case9 links directory piece rest notIdle notUp plain short entries found inductionHypothesis =>
      have passed : directory ++ [piece] ≠ location := by
        apply written.ne_of_not_file found
        intro text isFile
        cases isFile
      obtain ⟨kept, stands, same⟩ := written.elsewhere passed found
      obtain ⟨inner, rfl⟩ := FileNode.surface_eq_directory same
      rw [follow_look_named notIdle notUp short, stands]
      exact inductionHypothesis followed
  | case10 links directory piece notIdle notUp short old found plain =>
      cases followed
      obtain ⟨kept, stands, isFile⟩ := written.stands found
      obtain ⟨now, rfl⟩ := isFile old rfl
      refine ⟨_, ?_, stands⟩
      rw [follow_look_named notIdle notUp short, stands]
      rfl
  | case13 directory piece rest notIdle notUp plain short target found links inductionHypothesis =>
      have passed : directory ++ [piece] ≠ location := by
        apply written.ne_of_not_file found
        intro text isFile
        cases isFile
      obtain ⟨kept, stands, same⟩ := written.elsewhere passed found
      rw [follow_look_named notIdle notUp short, stands, FileNode.surface_eq_link same]
      exact inductionHypothesis followed
  | case2 | case5 | case6 | case8 | case11 | case12 => cases followed

theorem WrittenAt.find (written : WrittenAt before after location text) {purpose : Purpose}
    {path : String} {place : Place} (placed : before.place purpose path = .ok place)
    (led : place.node? = none → place.location = location) :
    ∃ node, after.find path = .ok (.entry place.location node) ∧
      after.node? place.location = some node := by
  obtain ⟨fits, followed⟩ := place_eq_ok_iff.mp placed
  rw [← written.current] at followed
  obtain ⟨node, reached, stands⟩ := written.follow followed led
  refine ⟨node, ?_, stands⟩
  rw [FileTree.find, place_eq_ok_iff.mpr ⟨fits, reached⟩]

/-- A file that was found elsewhere is found as it was. -/
theorem WrittenAt.find_elsewhere (written : WrittenAt before after location text) {path : String}
    {other : Location} {kept : Option String} (different : other ≠ location)
    (found : before.find path = .ok (.entry other (.file kept))) :
    after.find path = .ok (.entry other (.file kept)) := by
  have placed : before.place .look path = .ok (.entry other (.file kept)) := place_of_find found
  obtain ⟨node, foundNow, stands⟩ := written.find placed fun vacant => nomatch vacant
  obtain ⟨now, standsNow, same⟩ := written.elsewhere different (node?_of_place placed)
  rw [FileNode.surface_eq_file same] at standsNow
  rw [foundNow, Option.some_inj.mp (stands.symm.trans standsNow)]
  rfl

end Reading

/-- A file that is put into a directory, where there was a file or nothing. -/
theorem writtenAt_put {tree : FileTree} {directory : Location} {name : String}
    {inner : List (String × FileNode)}
    (isDirectory : tree.node? directory = some (.directory inner))
    (takes : TakesFile (tree.node? (directory ++ [name]))) (text : String) :
    tree.WrittenAt (tree.put (directory ++ [name]) (.file (some text))) (directory ++ [name])
      text where
  current := rfl
  takes := takes
  surfaces other := by
    have entry : tree.node? (directory ++ [name]) = Entries.get? inner name := by
      rw [node?, nodeIn_concat, ← node?, isDirectory]
    rw [entry] at takes
    exact surface_nodeIn_putIn isDirectory takes (some text) other

/-- What a path to write to leads to takes a file, in a directory that is there, if the write
succeeds. -/
theorem writtenAt_of_write {tree written : FileTree} {path text : String}
    (wrote : tree.write path text = .ok written) :
    ∃ place, tree.place .create path = .ok place ∧
      tree.WrittenAt written place.location text := by
  unfold write writeNode at wrote
  cases placed : tree.place .create path with
  | error cause =>
      rw [placed] at wrote
      cases wrote
  | ok place =>
      have stands : tree.node? place.location = place.node? := node?_of_place placed
      rw [placed] at wrote
      refine ⟨place, rfl, ?_⟩
      cases place with
      | vacant directory name =>
          have takes : TakesFile (tree.node? (directory ++ [name])) := by
            intro node found
            exact nomatch found.symm.trans stands
          simp only at wrote
          split at wrote
          case h_1 inner isDirectory =>
              cases wrote
              exact writtenAt_put isDirectory takes text
          case h_2 => cases wrote
      | entry location node =>
          cases node with
          | directory entries => cases wrote
          | link target => cases wrote
          | file old =>
              cases wrote
              have takes : TakesFile (tree.node? location) := by
                intro node found
                cases found.symm.trans stands
                exact ⟨old, rfl⟩
              obtain ⟨directory, name, inner, rfl, isDirectory⟩ :=
                exists_directory_of_file stands
              exact writtenAt_put isDirectory takes text

/-- The second tree is the first one after a text has been written to a path: the path leads to a
file that holds exactly the text, and nothing else is different, wherever it stands and by
whichever path it is found. -/
structure OnlyChange (before after : FileTree) (path text : String) (location : Location) :
    Prop where
  leads : ∃ place, before.place .create path = .ok place ∧ place.location = location
  writtenAt : before.WrittenAt after location text
  holds : after.find path = .ok (.entry location (.file (some text)))
  others : ∀ other found kept, before.find other = .ok (.entry found (.file kept)) →
    found ≠ location → after.find other = .ok (.entry found (.file kept))

theorem onlyChange_of_write {tree written : FileTree} {path text : String}
    (wrote : tree.write path text = .ok written) :
    ∃ location, tree.OnlyChange written path text location := by
  obtain ⟨place, placed, writtenAt⟩ := writtenAt_of_write wrote
  obtain ⟨node, found, stands⟩ := writtenAt.find placed fun _ => rfl
  cases stands.symm.trans writtenAt.here
  exact ⟨place.location, ⟨place, placed, rfl⟩, writtenAt, found,
    fun _ _ _ foundBefore different => writtenAt.find_elsewhere different foundBefore⟩

theorem OnlyChange.read {before after : FileTree} {path text : String} {location : Location}
    (changed : before.OnlyChange after path text location) : after.read path = .ok text := by
  rw [FileTree.read, changed.holds]

end FileTree

end SdlProjection
