import Mathlib.Logic.Function.Basic
import Mathlib.Order.Defs.Unbundled
import Workflows.Proofs.File.System

/-!
# The texts of files

What the files of a file system say, whatever directories there are, and how little of that a change touches.

* `FileSystem.textAt`: the text of the file at a path in short form;
* `locate_name`, `find_name`: what a name by itself leads to;
* `FileSystem.MakesDirectories`: directories were made, and no file has changed; `makesDirectories_of_makeDirectories`;
* `write_eq_ok_iff`, `textAt_put`: writing a file changes its text and no other;
* `Opens.find_join_put`, `namesAt_put`: what a directory holds under another name is the same.
-/

namespace Workflows

namespace FileSystem

/-- The text of the file at a path in short form. -/
def textAt (fs : FileSystem) (path : String) : Option String :=
  match fs.nodes.lookup path with
  | some (.file text) => some text
  | _ => none

variable {fs fs' : FileSystem} {p q : Place} {path dir name other text : String}

theorem join_ne_empty (some : path ≠ "") (dir : String) : Path.join dir path ≠ "" := by
  unfold Path.join
  split
  · exact some
  · split <;> simp [some]

/-! ## Names in the working directory -/

instance (name : String) : Decidable (FileName name) :=
  decidable_of_iff ('/' ∉ name.toList ∧ name ≠ "" ∧ name ≠ "." ∧ name ≠ "..")
    ⟨fun ⟨undivided, ne_empty, ne_point, ne_back⟩ => ⟨undivided, ne_empty, ne_point, ne_back⟩,
      fun named => ⟨named.undivided, named.ne_empty, named.ne_point, named.ne_back⟩⟩

/-- A name by itself leads to the working directory. -/
theorem locate_name (named : FileName name) (directory : fs.node? fs.working = some .directory) :
    fs.locate name = .ok (fs.working ++ [name]) := by
  have single : Text.splitAt '/' name = [name] := by
    rw [Text.splitAt, List.splitOn_eq_singleton named.undivided]
    simp
  rw [locate, if_neg (by simpa using named.ne_empty), startsWith_of_undivided named.undivided, single]
  exact walk_name named directory

/-- What a name by itself leads to is what the working directory holds under it. -/
theorem find_name (named : FileName name) (directory : fs.node? fs.working = some .directory) :
    fs.find name = match fs.node? (fs.working ++ [name]) with
      | some node => .ok node
      | none => .error .notFound := by
  simp only [find, locate_name named directory, bind, Except.bind]
  rfl

theorem read_of_find (found : fs.find path = .ok (.file text)) : fs.read path = .ok text := by
  rw [FileSystem.read, found]
  rfl

theorem exists?_of_find {fault : File.Fault} (missing : fs.find path = .error fault) : fs.exists? path = false := by
  rw [exists?, missing]

/-! ## Directories that are made -/

/-- Directories were made, and no file has changed. -/
structure MakesDirectories (fs fs' : FileSystem) : Prop extends KeepsDirectories fs fs' where
  texts : fs'.textAt = fs.textAt

namespace MakesDirectories

theorem refl (fs : FileSystem) : MakesDirectories fs fs := ⟨⟨rfl, fun _ there => there⟩, rfl⟩

theorem trans {fs'' : FileSystem} (h : MakesDirectories fs fs') (h' : MakesDirectories fs' fs'') :
    MakesDirectories fs fs'' :=
  ⟨h.toKeepsDirectories.trans h'.toKeepsDirectories, h'.texts.trans h.texts⟩

instance : Std.Refl MakesDirectories := ⟨refl⟩

instance : IsTrans FileSystem MakesDirectories := ⟨fun _ _ _ => trans⟩

end MakesDirectories

theorem lookup_add (node : FileNode) (key : String) :
    (fs.add p node).nodes.lookup key = if key = shortPath p then some node else fs.nodes.lookup key := by
  simp only [add, remove, List.lookup_cons, lookup_filter_ne]
  grind

theorem textAt_add_directory (free : fs.node? p = none) : (fs.add p .directory).textAt = fs.textAt := by
  have below : p ≠ [] := by
    rintro rfl
    cases free
  rw [node?_of_ne_nil below] at free
  funext key
  unfold textAt
  rw [lookup_add]
  by_cases same : key = shortPath p
  · rw [if_pos same, same, free]
  · rw [if_neg same]

theorem makesDirectories_of_makeDirectory (made : fs.makeDirectory path = .ok fs') : MakesDirectories fs fs' := by
  simp only [makeDirectory, bind, Except.bind] at made
  split at made
  · cases made
  · next place _ =>
    split at made
    · cases made
    · next free =>
      cases made
      exact ⟨keepsDirectories_of_node? rfl (by simp [free]) fun q => node?_add _ q _, textAt_add_directory free⟩

/-- **Making directories changes no file.** -/
theorem makesDirectories_of_makeDirectories {fuel : Nat} (made : makeDirectories fuel path fs = .ok fs') :
    MakesDirectories fs fs' := by
  induction fuel generalizing path fs' with
  | zero => cases made
  | succ fuel ih =>
    rw [makeDirectories] at made
    split at made
    · cases made
      exact .refl fs
    · split at made
      · next first => cases made; exact makesDirectories_of_makeDirectory first
      · split at made
        · cases made
        · next parent _ =>
          simp only [bind, Except.bind] at made
          split at made
          · cases made
          · next before => exact (ih before).trans (makesDirectories_of_makeDirectory made)
      · split at made
        · cases made
          exact .refl fs
        · cases made

/-! ## Files that are written -/

theorem write_eq_ok_iff : fs.write path text = .ok fs' ↔ ∃ place, fs.locate path = .ok place ∧
    fs.node? place ≠ some .directory ∧ fs.put place (.file text) = fs' := by
  simp only [write, bind, Except.bind]
  cases fs.locate path with
  | error fault => simp
  | ok place =>
    rcases there : fs.node? place with _ | (_ | _)
    · simp [there, pure, Except.pure]
    · simp [there, pure, Except.pure]
    · simp [there, throw, throwThe, MonadExceptOf.throw]

/-- Writing a file changes its text and no other. -/
theorem textAt_put (below : p ≠ []) :
    (fs.put p (.file text)).textAt = Function.update fs.textAt (shortPath p) (some text) := by
  funext key
  unfold textAt
  have found : (fs.put p (.file text)).nodes.lookup key =
      if key = shortPath p then some (.file text) else fs.nodes.lookup key := by
    unfold put
    split
    · next there =>
      rw [node?_of_ne_nil below] at there
      obtain ⟨old, there⟩ := Option.isSome_iff_exists.1 there
      simp only [lookup_map_key, there, Option.map_some]
    · exact lookup_add _ key
  rw [found]
  by_cases same : key = shortPath p
  · subst same
    simp
  · simp [same]

/-! ## What a directory holds under another name -/

theorem exists?_congr (same : fs'.find path = fs.find path) : fs'.exists? path = fs.exists? path := by
  rw [exists?, exists?, same]

theorem read_congr (same : fs'.find path = fs.find path) : fs'.read path = fs.read path := by
  rw [FileSystem.read, FileSystem.read, same]

theorem getLast?_splitAt_shortPath (undivided : '/' ∉ name.toList) (p : Place) :
    (Text.splitAt '/' (shortPath (p ++ [name]))).getLast? = some name := by
  rw [shortPath_concat]
  unfold pathStart
  split
  · unfold Text.splitAt
    rw [String.empty_append, List.splitOn_eq_singleton undivided]
    simp
  · rw [splitAt_join undivided, List.getLast?_concat]

/-- Paths with different last names are different. -/
theorem shortPath_concat_ne (undivided : '/' ∉ name.toList) (undivided' : '/' ∉ other.toList) (ne : name ≠ other)
    (p q : Place) : shortPath (p ++ [name]) ≠ shortPath (q ++ [other]) := fun same => by
  have last := getLast?_splitAt_shortPath undivided p
  rw [same, getLast?_splitAt_shortPath undivided' q] at last
  exact ne (Option.some.inj last).symm

/-- What is found under one name is the same after a file was written under another. -/
theorem Opens.find_join_put (h : fs.Opens dir p) (named : FileName name) (undivided : '/' ∉ other.toList)
    (ne : name ≠ other) (free : fs.node? (q ++ [other]) ≠ some .directory) :
    (fs.put (q ++ [other]) (.file text)).find (Path.join dir name) = fs.find (Path.join dir name) := by
  rw [(h.mono (keepsDirectories_put free text)).find_join named, h.find_join named, node?_put _ _ (by simp),
    if_neg fun same => shortPath_concat_ne named.undivided undivided ne p q same.2]

/-- A name that is in a directory is one name, and not empty. -/
theorem plain_of_nameIn {key : String} (there : nameIn p key = some name) : name ≠ "" ∧ '/' ∉ name.toList := by
  simpa using (Option.filter_eq_some_iff.1 there).2

theorem eq_of_nameIn_shortPath (undivided : '/' ∉ other.toList)
    (there : nameIn p (shortPath (q ++ [other])) = some name) : name = other := by
  have path := eq_of_nameIn there
  rw [← shortPath_concat] at path
  by_contra ne
  exact shortPath_concat_ne undivided (plain_of_nameIn there).2 (Ne.symm ne) q p path

/-- The names in a directory that pass a test are the same after a file was written whose name does not pass it. -/
theorem namesAt_put {test : String → Bool} (undivided : '/' ∉ other.toList) (fails : test other = false)
    (node : FileNode) :
    ((fs.put (q ++ [other]) node).namesAt p).filter test = (fs.namesAt p).filter test := by
  unfold put
  split
  · have keys (b : String × FileNode) :
        nameIn p (if b.1 = shortPath (q ++ [other]) then (b.1, node) else b).1 = nameIn p b.1 := by split <;> rfl
    simp only [namesAt, List.filterMap_map, Function.comp_def, keys]
  · next absent =>
    have fresh : fs.remove (q ++ [other]) = fs := by
      rw [Option.not_isSome_iff_eq_none, node?_of_ne_nil (by simp), List.lookup_eq_none_iff] at absent
      have all : fs.nodes.filter (fun b => b.1 ≠ shortPath (q ++ [other])) = fs.nodes :=
        List.filter_eq_self.2 fun b mem => decide_eq_true (bne_iff_ne.1 (absent b mem)).symm
      rw [remove, all]
    rw [add, fresh]
    unfold namesAt
    rw [List.filterMap_cons]
    cases there : nameIn p (shortPath (q ++ [other])) with
    | none => rfl
    | some n => rw [eq_of_nameIn_shortPath undivided there, List.filter_cons_of_neg (by simp [fails])]

end FileSystem

end Workflows
