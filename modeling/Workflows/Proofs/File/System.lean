import Mathlib.Data.Bool.Basic
import Workflows.Data.Path
import Workflows.File.System

/-!
# Directories of a file system

What a directory holds, seen through the paths of what is in it, and how that changes when a file takes the
place of another.

* `FileSystem.FileName`: a name that stands for itself in a path;
* `FileSystem.Opens`: a path leads to a directory; `Opens.locate_join`: where the paths below it lead;
* `node?_remove`, `node?_add`, `node?_put`: what is at a place after a change at another one;
* `KeepsDirectories`: all directories stay, so that paths lead where they led;
* `replace`: a file that takes the place of another; `Opens.rename_put`: writing it under another name and
  renaming it comes to that;
* `opens_of_makeDirectories`, `makeDirectories_of_opens`: a directory that was made is there, and is not made
  anew;
* `namesAt`: the names in a directory; `entries_of_opens`, `mem_namesAt_iff`, `namesAt_replace`.
-/

namespace Workflows

namespace FileSystem

/-- A name that stands for itself in a path. -/
structure FileName (name : String) : Prop where
  undivided : '/' ∉ name.toList
  ne_empty : name ≠ ""
  ne_point : name ≠ "."
  ne_back : name ≠ ".."

/-- A path leads to a directory. -/
structure Opens (fs : FileSystem) (path : String) (place : Place) : Prop where
  located : fs.locate path = .ok place
  directory : fs.node? place = some .directory

variable {fs fs' : FileSystem} {place : Place} {path dir name text : String}

/-! ## Paths -/

theorem walk_append (place : Place) (xs ys : List String) :
    fs.walk place (xs ++ ys) = (fs.walk place xs >>= fun p => fs.walk p ys) := by
  induction xs generalizing place with
  | nil => rfl
  | cons x xs ih =>
    simp only [List.cons_append, walk]
    cases fs.needDirectory place with
    | error fault => rfl
    | ok _ =>
      simp only [bind, Except.bind] at ih ⊢
      split
      · exact ih place
      · split
        · exact ih place.dropLast
        · exact ih (place ++ [x])

theorem needDirectory_of_directory (directory : fs.node? place = some .directory) :
    fs.needDirectory place = .ok () := by
  unfold needDirectory
  rw [directory]

theorem directory_of_needDirectory (needed : fs.needDirectory place = .ok ()) :
    fs.node? place = some .directory := by
  unfold needDirectory at needed
  split at needed
  · assumption
  · cases needed
  · cases needed

/-- A path below a place goes to the name in the place. -/
theorem walk_name (named : FileName name) (directory : fs.node? place = some .directory) :
    fs.walk place [name] = .ok (place ++ [name]) := by
  simp only [walk, needDirectory_of_directory directory, bind, Except.bind, named.ne_empty,
    named.ne_point, named.ne_back, decide_false, Bool.or_self, Bool.false_eq_true, if_false]

theorem walk_empty {p : Place} (walked : fs.walk place [""] = .ok p) : p = place := by
  simp only [walk, bind, Except.bind] at walked
  split at walked
  · cases walked
  · simpa using walked.symm

theorem splitAt_join (undivided : '/' ∉ name.toList) (d : String) :
    Text.splitAt '/' (d ++ "/" ++ name) = Text.splitAt '/' d ++ [name] := by
  have chars : (d ++ "/" ++ name).toList = d.toList ++ '/' :: name.toList := by simp
  unfold Text.splitAt
  rw [chars, List.splitOn_append_cons_self, List.splitOn_eq_singleton undivided]
  simp

theorem startsWith_append {a : String} (some : a ≠ "") (b : String) :
    (a ++ b).startsWith "/" = a.startsWith "/" := by
  rw [Bool.eq_iff_iff, String.startsWith_string_iff, String.startsWith_string_iff, String.toList_append]
  cases chars : a.toList with
  | nil => exact absurd (String.toList_eq_nil_iff.1 chars) some
  | cons c cs => simp

theorem startsWith_of_undivided (undivided : '/' ∉ name.toList) : name.startsWith "/" = false := by
  rw [String.startsWith_string_eq_false_iff]
  rintro ⟨rest, chars⟩
  exact undivided (by simp [← chars])

/-- A path below another one ends with a slash and the name, whether or not the other one ends with a
slash. -/
theorem join_eq (some : dir ≠ "") (undivided : '/' ∉ name.toList) :
    ∃ d, Path.join dir name = d ++ "/" ++ name ∧ (dir = d ∨ dir = d ++ "/") := by
  have nonempty : dir.isEmpty = false := by simpa using some
  unfold Path.join
  rw [startsWith_of_undivided undivided, nonempty]
  cases slash : dir.endsWith "/" with
  | false => exact ⟨dir, rfl, .inl rfl⟩
  | true =>
    obtain ⟨d, chars⟩ : "/".toList <:+ dir.toList := by
      rw [String.endsWith, String.Slice.endsWith_string_iff, String.copy_toSlice] at slash
      exact slash
    have parts : dir = String.ofList d ++ "/" := by
      rw [← String.toList_inj, ← chars]
      simp
    exact ⟨String.ofList d, by rw [parts]; rfl, .inr parts⟩

theorem Opens.ne_empty (h : fs.Opens dir place) : dir ≠ "" := by
  rintro rfl
  cases h.located

/-- **A path below a directory leads to the name in it.** -/
theorem Opens.locate_join (h : fs.Opens dir place) (named : FileName name) :
    fs.locate (Path.join dir name) = .ok (place ++ [name]) := by
  obtain ⟨d, joined, same⟩ := join_eq h.ne_empty named.undivided
  have start : (Path.join dir name).startsWith "/" = dir.startsWith "/" := by
    rw [joined]
    rcases same with rfl | rfl
    · rw [String.append_assoc]
      exact startsWith_append h.ne_empty _
    · exact startsWith_append h.ne_empty _
  have located := h.located
  unfold locate at located ⊢
  rw [if_neg (by simpa using h.ne_empty)] at located
  rw [start, if_neg (by simp [joined]), joined, splitAt_join named.undivided, walk_append]
  have walked : fs.walk (if dir.startsWith "/" = true then [] else fs.working) (Text.splitAt '/' d) =
      .ok place := by
    rcases same with rfl | rfl
    · exact located
    · have parts : Text.splitAt '/' (d ++ "/") = Text.splitAt '/' d ++ [""] := by
        simpa using splitAt_join (by simp : '/' ∉ "".toList) d
      rw [parts, walk_append] at located
      simp only [bind, Except.bind] at located
      split at located
      · cases located
      · next p walked => rw [walked, walk_empty located]
  rw [walked]
  exact walk_name named h.directory

/-- What a path below a directory leads to is what the name in it does. -/
theorem Opens.find_join (h : fs.Opens dir place) (named : FileName name) :
    fs.find (Path.join dir name) = match fs.node? (place ++ [name]) with
      | some node => .ok node
      | none => .error .notFound := by
  simp only [find, h.locate_join named, bind, Except.bind]
  rfl

/-- A path below a directory leads to something just where the directory holds the name. -/
theorem Opens.exists?_join (h : fs.Opens dir place) (named : FileName name) :
    fs.exists? (Path.join dir name) = (fs.node? (place ++ [name])).isSome := by
  unfold exists?
  rw [h.find_join named]
  cases fs.node? (place ++ [name]) <;> rfl

theorem Opens.read_join (h : fs.Opens dir place) (named : FileName name)
    (there : fs.node? (place ++ [name]) = some (.file text)) :
    fs.read (Path.join dir name) = .ok text := by
  simp only [read, h.find_join named, there, bind, Except.bind]
  rfl

/-! ## What is at a place -/

theorem shortPath_concat (place : Place) (name : String) :
    shortPath (place ++ [name]) = pathStart place ++ name := by
  unfold shortPath pathStart
  cases place with
  | nil => simp
  | cons first rest =>
    rw [String.intercalate_append_of_ne_nil (by simp) (by simp), String.intercalate_singleton]
    rfl

theorem shortPath_concat_inj {other : String} :
    shortPath (place ++ [name]) = shortPath (place ++ [other]) ↔ name = other := by
  rw [shortPath_concat, shortPath_concat, String.append_right_inj]

theorem node?_of_ne_nil {p : Place} (some : p ≠ []) : fs.node? p = fs.nodes.lookup (shortPath p) := by
  unfold node?
  rw [if_neg (by simpa using some)]

theorem lookup_filter_ne (key key' : String) (nodes : List (String × FileNode)) :
    (nodes.filter fun b => b.1 ≠ key).lookup key' = if key' = key then none else nodes.lookup key' := by
  induction nodes with
  | nil => simp
  | cons b rest ih =>
    obtain ⟨k, node⟩ := b
    grind

theorem lookup_map_key (key key' : String) (node : FileNode) (nodes : List (String × FileNode)) :
    (nodes.map fun b => if b.1 = key then (b.1, node) else b).lookup key' =
      if key' = key then (nodes.lookup key).map fun _ => node else nodes.lookup key' := by
  induction nodes with
  | nil => simp
  | cons b rest ih =>
    obtain ⟨k, old⟩ := b
    grind

theorem node?_remove (p q : Place) :
    (fs.remove p).node? q = if q ≠ [] ∧ shortPath q = shortPath p then none else fs.node? q := by
  by_cases root : q = []
  · subst root
    rfl
  · rw [node?_of_ne_nil root, node?_of_ne_nil root]
    simp only [remove, lookup_filter_ne, root, ne_eq, not_false_eq_true, true_and]

theorem node?_add (p q : Place) (node : FileNode) :
    (fs.add p node).node? q = if q ≠ [] ∧ shortPath q = shortPath p then some node else fs.node? q := by
  by_cases root : q = []
  · subst root
    rfl
  · rw [node?_of_ne_nil root, node?_of_ne_nil root]
    simp only [add, remove, List.lookup_cons, lookup_filter_ne, root, ne_eq, not_false_eq_true,
      true_and]
    grind

theorem node?_put {p : Place} (q : Place) (node : FileNode) (below : p ≠ []) :
    (fs.put p node).node? q = if q ≠ [] ∧ shortPath q = shortPath p then some node else fs.node? q := by
  unfold put
  split
  · next there =>
    by_cases root : q = []
    · subst root
      rfl
    · rw [node?_of_ne_nil root, node?_of_ne_nil root]
      rw [node?_of_ne_nil below] at there
      obtain ⟨old, there⟩ := Option.isSome_iff_exists.1 there
      simp only [lookup_map_key, there, Option.map_some, root, ne_eq, not_false_eq_true, true_and]
  · exact node?_add p q node

theorem filter_map_key (key : String) (node : FileNode) (nodes : List (String × FileNode)) :
    (nodes.map fun b => if b.1 = key then (b.1, node) else b).filter (fun b => b.1 ≠ key) =
      nodes.filter fun b => b.1 ≠ key := by
  induction nodes with
  | nil => rfl
  | cons b rest ih =>
    obtain ⟨k, old⟩ := b
    grind

/-- What was put at a place is no longer there when the place is cleared. -/
theorem remove_put (p : Place) (node : FileNode) : (fs.put p node).remove p = fs.remove p := by
  unfold put
  split
  · simp only [remove, filter_map_key]
  · simp [add, remove]

/-! ## Directories stay -/

/-- All directories stay, and the working directory is the same. -/
structure KeepsDirectories (fs fs' : FileSystem) : Prop where
  working : fs'.working = fs.working
  directories : ∀ p, fs.node? p = some .directory → fs'.node? p = some .directory

theorem KeepsDirectories.trans {fs'' : FileSystem} (h : KeepsDirectories fs fs')
    (h' : KeepsDirectories fs' fs'') : KeepsDirectories fs fs'' :=
  ⟨h'.working.trans h.working, fun p there => h'.directories p (h.directories p there)⟩

theorem KeepsDirectories.walk (keeps : KeepsDirectories fs fs') {place goal : Place}
    {names : List String} (walked : fs.walk place names = .ok goal) :
    fs'.walk place names = .ok goal := by
  induction names generalizing place with
  | nil => exact walked
  | cons name rest ih =>
    simp only [FileSystem.walk, bind, Except.bind] at walked ⊢
    split at walked
    · cases walked
    · next needed =>
      rw [needDirectory_of_directory (keeps.directories _ (directory_of_needDirectory needed))]
      simp only
      split at walked
      · next skips => rw [if_pos skips]; exact ih walked
      · next names =>
        rw [if_neg names]
        split at walked
        · next back => rw [if_pos back]; exact ih walked
        · next ahead => rw [if_neg ahead]; exact ih walked

/-- Where all directories stay, a path leads where it led. -/
theorem KeepsDirectories.locate (keeps : KeepsDirectories fs fs') (located : fs.locate path = .ok place) :
    fs'.locate path = .ok place := by
  unfold FileSystem.locate at located ⊢
  split at located
  · cases located
  · next some =>
    rw [if_neg some, keeps.working]
    exact keeps.walk located

theorem Opens.mono (h : fs.Opens dir place) (keeps : KeepsDirectories fs fs') : fs'.Opens dir place :=
  ⟨keeps.locate h.located, keeps.directories _ h.directory⟩

/-- A change at a place where there is no directory keeps all directories. -/
theorem keepsDirectories_of_node? {p : Place} {node : Option FileNode} (working : fs'.working = fs.working)
    (free : fs.node? p ≠ some .directory)
    (changed : ∀ q, fs'.node? q = if q ≠ [] ∧ shortPath q = shortPath p then node else fs.node? q) :
    KeepsDirectories fs fs' where
  working := working
  directories q there := by
    rw [changed q, if_neg, there]
    rintro ⟨some, same⟩
    have below : p ≠ [] := by
      rintro rfl
      exact free rfl
    rw [node?_of_ne_nil some, same, ← node?_of_ne_nil below] at there
    exact free there

/-! ## Files that take the place of others -/

/-- The file system with the file `target` in a place, where it replaces the one there was; nothing is left of
the file `source`. -/
def replace (fs : FileSystem) (place : Place) (source target text : String) : FileSystem :=
  (fs.remove (place ++ [source])).add (place ++ [target]) (.file text)

variable {source target : String}

theorem node?_replace (other : String) :
    (fs.replace place source target text).node? (place ++ [other]) =
      if other = target then some (.file text)
      else if other = source then none else fs.node? (place ++ [other]) := by
  have below : place ++ [other] ≠ [] := by simp
  simp only [replace, node?_add, node?_remove, below, shortPath_concat_inj, ne_eq, not_false_eq_true,
    true_and]

theorem keepsDirectories_put (free : fs.node? (place ++ [name]) ≠ some .directory) (text : String) :
    KeepsDirectories fs (fs.put (place ++ [name]) (.file text)) :=
  keepsDirectories_of_node? (by unfold put; split <;> rfl) free fun q => node?_put q _ (by simp)

theorem keepsDirectories_replace (source_free : fs.node? (place ++ [source]) ≠ some .directory)
    (target_free : fs.node? (place ++ [target]) ≠ some .directory) :
    KeepsDirectories fs (fs.replace place source target text) := by
  have removed : KeepsDirectories fs (fs.remove (place ++ [source])) :=
    keepsDirectories_of_node? rfl source_free fun q => node?_remove _ q
  refine removed.trans (keepsDirectories_of_node? rfl ?_ fun q => node?_add _ q _)
  rw [node?_remove]
  split
  · simp
  · exact target_free

theorem Opens.write (h : fs.Opens dir place) (named : FileName name)
    (free : fs.node? (place ++ [name]) ≠ some .directory) (text : String) :
    fs.write (Path.join dir name) text = .ok (fs.put (place ++ [name]) (.file text)) := by
  simp only [FileSystem.write, h.locate_join named, bind, Except.bind]
  rfl

/-- **A file that is written under one name and renamed to another takes the place of the file there.** -/
theorem Opens.rename_put (h : fs.Opens dir place) (source_named : FileName source)
    (target_named : FileName target) (ne : source ≠ target)
    (source_free : fs.node? (place ++ [source]) ≠ some .directory)
    (target_free : fs.node? (place ++ [target]) ≠ some .directory) (text : String) :
    (fs.put (place ++ [source]) (.file text)).rename (Path.join dir source) (Path.join dir target) =
      .ok (fs.replace place source target text) := by
  have opens := h.mono (keepsDirectories_put source_free text)
  have written : (fs.put (place ++ [source]) (.file text)).node? (place ++ [source]) =
      some (.file text) := by
    rw [node?_put _ _ (by simp), if_pos ⟨by simp, rfl⟩]
  have goal : (fs.put (place ++ [source]) (.file text)).node? (place ++ [target]) ≠ some .directory := by
    rw [node?_put _ _ (by simp), if_neg fun same => ne (shortPath_concat_inj.1 same.2).symm]
    exact target_free
  simp only [FileSystem.rename, opens.locate_join source_named, opens.locate_join target_named, bind,
    Except.bind, written, remove_put]
  rcases there : (fs.put (place ++ [source]) (.file text)).node? (place ++ [target]) with
    _ | (_ | _)
  · rfl
  · rfl
  · exact absurd there goal

/-! ## Directories that are made -/

theorem isDirectory_iff : fs.isDirectory path = true ↔ ∃ place, fs.Opens path place := by
  unfold isDirectory find
  constructor
  · intro h
    split at h
    · next found =>
      simp only [bind, Except.bind] at found
      split at found
      · cases found
      · next place located =>
        split at found
        · next node there => cases found; exact ⟨place, located, there⟩
        · cases found
    · cases h
  · rintro ⟨place, h⟩
    simp only [h.located, h.directory, bind, Except.bind]
    rfl

/-- A directory that was made is there. -/
theorem opens_of_makeDirectory (made : fs.makeDirectory path = .ok fs') :
    ∃ place, fs'.Opens path place := by
  simp only [makeDirectory, bind, Except.bind] at made
  split at made
  · cases made
  · next place located =>
    split at made
    · cases made
    · next free =>
      cases made
      have below : place ≠ [] := by
        rintro rfl
        cases free
      have keeps : KeepsDirectories fs (fs.add place .directory) :=
        keepsDirectories_of_node? rfl (by simp [free]) fun q => node?_add _ q _
      exact ⟨place, keeps.locate located, by rw [node?_add, if_pos ⟨below, rfl⟩]⟩

theorem opens_of_makeDirectories {fuel : Nat} (some : path ≠ "")
    (made : makeDirectories fuel path fs = .ok fs') : ∃ place, fs'.Opens path place := by
  cases fuel with
  | zero => cases made
  | succ fuel =>
    rw [makeDirectories, if_neg (by simpa using some)] at made
    split at made
    · next first => cases made; exact opens_of_makeDirectory first
    · split at made
      · cases made
      · simp only [bind, Except.bind] at made
        split at made
        · cases made
        · exact opens_of_makeDirectory made
    · split at made
      · next there => cases made; exact isDirectory_iff.1 there
      · cases made

/-- A directory that is there is not made anew. -/
theorem makeDirectories_of_opens (h : fs.Opens path place) (fuel : Nat) :
    makeDirectories (fuel + 1) path fs = .ok fs := by
  have there : fs.makeDirectory path = .error .exists := by
    simp only [makeDirectory, h.located, h.directory, bind, Except.bind]
    rfl
  rw [makeDirectories, if_neg (by simpa using h.ne_empty), there]
  simp only
  rw [if_pos (isDirectory_iff.2 ⟨place, h⟩)]

/-! ## The names in a directory -/

/-- The name in a place that a path in short form ends with. -/
def nameIn (place : Place) (path : String) : Option String :=
  (dropStart? (pathStart place) path).filter fun name => !name.isEmpty && !name.toList.contains '/'

/-- The names of what is in a place, the newest first. -/
def namesAt (fs : FileSystem) (place : Place) : List String :=
  fs.nodes.filterMap fun b => nameIn place b.1

theorem entries_of_opens (h : fs.Opens dir place) : fs.entries dir = .ok (fs.namesAt place) := by
  simp only [entries, h.located, needDirectory_of_directory h.directory, bind, Except.bind]
  rfl

theorem opens_of_entries {names : List String} (listed : fs.entries dir = .ok names) :
    ∃ place, fs.Opens dir place ∧ names = fs.namesAt place := by
  simp only [entries, bind, Except.bind] at listed
  split at listed
  · cases listed
  · next place located =>
    split at listed
    · cases listed
    · next needed =>
      cases listed
      exact ⟨place, ⟨located, directory_of_needDirectory needed⟩, rfl⟩

theorem dropStart?_eq_some_iff {start s : String} : dropStart? start s = some name ↔ s = start ++ name := by
  unfold dropStart?
  constructor
  · intro h
    split at h
    · next starts =>
      obtain ⟨rest, chars⟩ := String.startsWith_string_iff.1 starts
      cases h
      rw [← String.toList_inj, ← chars, ← String.length_toList, List.drop_left]
      simp
    · cases h
  · rintro rfl
    rw [if_pos (by simp), String.toList_append, ← String.length_toList, List.drop_left,
      String.ofList_toList]

theorem eq_of_nameIn {key : String} (h : nameIn place key = some name) :
    key = pathStart place ++ name :=
  dropStart?_eq_some_iff.1 (Option.filter_eq_some_iff.1 h).1

theorem nameIn_append (named : FileName name) : nameIn place (pathStart place ++ name) = some name :=
  Option.filter_eq_some_iff.2
    ⟨dropStart?_eq_some_iff.2 rfl, by simpa using ⟨named.ne_empty, named.undivided⟩⟩

/-- The names in a directory are those of what is there. -/
theorem mem_namesAt_iff (named : FileName name) :
    name ∈ fs.namesAt place ↔ (fs.node? (place ++ [name])).isSome = true := by
  rw [node?_of_ne_nil (by simp), shortPath_concat, namesAt, List.mem_filterMap, List.lookup_isSome_iff]
  constructor
  · rintro ⟨b, mem, h⟩
    exact ⟨b, mem, by rw [eq_of_nameIn h]; exact BEq.rfl⟩
  · rintro ⟨b, mem, same⟩
    exact ⟨b, mem, by rw [← eq_of_beq same]; exact nameIn_append named⟩

theorem namesAt_remove (fs : FileSystem) (place : Place) (name : String) :
    (fs.remove (place ++ [name])).namesAt place = (fs.namesAt place).filter fun n => n ≠ name := by
  unfold namesAt remove
  rw [List.filterMap_filter, List.filter_filterMap]
  refine congrArg (List.filterMap · fs.nodes) (funext fun b => ?_)
  rw [shortPath_concat]
  cases there : nameIn place b.1 with
  | none => simp
  | some n =>
    have kept : (b.1 ≠ pathStart place ++ name) = (n ≠ name) := by
      rw [eq_of_nameIn there, ne_eq, String.append_right_inj]
    simp only [kept, Option.filter_some]

theorem namesAt_add (named : FileName name) (node : FileNode) :
    (fs.add (place ++ [name]) node).namesAt place =
      name :: (fs.namesAt place).filter fun n => n ≠ name := by
  rw [← namesAt_remove]
  have first : nameIn place (shortPath (place ++ [name])) = some name := by
    rw [shortPath_concat]
    exact nameIn_append named
  simp only [namesAt, add, List.filterMap_cons, first]

/-- A file that takes the place of another is the newest one. -/
theorem namesAt_replace (named : FileName target) :
    (fs.replace place source target text).namesAt place =
      target :: (fs.namesAt place).filter fun n => n ≠ target ∧ n ≠ source := by
  unfold replace
  rw [namesAt_add named, namesAt_remove, List.filter_filter]
  simp

end FileSystem

end Workflows
