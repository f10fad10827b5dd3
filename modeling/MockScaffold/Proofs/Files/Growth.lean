import MockScaffold.Files.Tree
import MockScaffold.Proofs.Outcome

/-!
# How trees grow

Making directories and writing files change a tree in two ways only: where nothing was, a directory
may come, and where no directory was, a file may be written.  `FileTree.Grows` says so, with the
places where each may happen; it is a preorder, and every operation on a tree is a step of it.

The key fact is `Grows.follow`: since directories stay, a path that leads somewhere goes on leading
there.  The place is told by the path alone (`placeOf`), whether or not the way there is open.
-/

namespace MockScaffold

/-! ## Entries -/

/-- Setting an entry changes what is found at its place, and at no other. -/
theorem lookup_setEntry (place p : Place) (e : FileEntry) (entries : List (Place × FileEntry)) :
    (setEntry place e entries).lookup p = if p = place then some e else entries.lookup p := by
  induction entries with
  | nil =>
      rw [setEntry, List.lookup_cons]
      by_cases hp : p = place
      · simp [hp]
      · rw [beq_eq_false_iff_ne.mpr hp, if_neg hp]
  | cons first rest ih =>
      obtain ⟨q, f⟩ := first
      rw [setEntry]
      by_cases hq : q = place
      · rw [if_pos hq, hq, List.lookup_cons, List.lookup_cons]
        by_cases hp : p = place
        · simp [hp]
        · rw [beq_eq_false_iff_ne.mpr hp, if_neg hp]
      · rw [if_neg hq, List.lookup_cons, List.lookup_cons, ih]
        by_cases hp : p = q
        · simp [hp, hq]
        · rw [beq_eq_false_iff_ne.mpr hp]

/-- Setting an entry that is there changes nothing. -/
theorem setEntry_of_lookup {place : Place} {e : FileEntry} {entries : List (Place × FileEntry)}
    (h : entries.lookup place = some e) : setEntry place e entries = entries := by
  induction entries with
  | nil => cases h
  | cons first rest ih =>
      obtain ⟨q, f⟩ := first
      rw [List.lookup_cons] at h
      rw [setEntry]
      by_cases hq : q = place
      · subst hq
        rw [beq_self_eq_true] at h
        rw [if_pos rfl, Option.some.inj h]
      · rw [beq_eq_false_iff_ne.mpr (Ne.symm hq)] at h
        rw [if_neg hq, ih h]

namespace FileTree

/-- Whether a directory is at a place. -/
abbrev IsDirectory (t : FileTree) (place : Place) : Prop := t.entry? place = some .directory

/-- Whether a file with a given content is at a place. -/
abbrev HasFile (t : FileTree) (place : Place) (content : List UInt8) : Prop :=
  t.entry? place = some (.file content)

variable {t t' u : FileTree} {place p : Place}

/-- Setting an entry changes what is at its place, and nothing else. -/
theorem entry?_set (hplace : place ≠ []) (e : FileEntry) (p : Place) :
    entry? (t.set place e) p = if p = place then some e else t.entry? p := by
  unfold entry? set
  by_cases hp : p = []
  · subst hp
    rw [if_pos rfl, if_neg (Ne.symm hplace)]
    rfl
  · rw [if_neg hp, if_neg hp, lookup_setEntry]

/-- Setting an entry that is there leaves the tree as it is. -/
theorem set_of_entry {e : FileEntry} (hplace : place ≠ []) (h : t.entry? place = some e) :
    t.set place e = t := by
  unfold entry? at h
  rw [if_neg hplace] at h
  rw [set, setEntry_of_lookup h]

/-- The root is a directory. -/
theorem ne_root_of_not_isDirectory (h : ¬ t.IsDirectory place) : place ≠ [] := by
  intro heq
  subst heq
  exact h rfl

/-- The root is always there. -/
theorem ne_root_of_eq_none (h : t.entry? place = none) : place ≠ [] :=
  ne_root_of_not_isDirectory fun hdirectory => nomatch hdirectory.symm.trans h

/-- The root is no file. -/
theorem HasFile.ne_root {content : List UInt8} (h : t.HasFile place content) : place ≠ [] :=
  ne_root_of_not_isDirectory fun hdirectory => nomatch hdirectory.symm.trans h

/-! ## Paths -/

/-- The place that a path means, whether or not the way there is open. -/
def placeOf (t : FileTree) (p : FilePath) : Place := walkText t.workingDirectory p.chars

/-- One step of the way: only a directory can be left, by a name that is not too long. -/
theorem follow_cons_eq_ok_iff {name : List Char} {rest : List (List Char)} :
    t.follow place (name :: rest) = .ok p ↔ t.IsDirectory place ∧
      byteLength name ≤ nameLimit ∧ t.follow (walkName place name) rest = .ok p := by
  rw [follow, IsDirectory]
  cases h : t.entry? place with
  | none => simp
  | some e =>
      cases e with
      | file content => simp
      | directory =>
          by_cases hlong : nameLimit < byteLength name
          · simp [hlong, Nat.not_le.mpr hlong]
          · simp [hlong, Nat.not_lt.mp hlong]

/-- Where names lead does not depend on what is there. -/
theorem walk_eq_of_follow {names : List (List Char)} (h : t.follow place names = .ok p) :
    walk place names = p := by
  induction names generalizing place with
  | nil => exact Except.ok.inj h
  | cons name rest ih =>
      obtain ⟨_, _, hrest⟩ := follow_cons_eq_ok_iff.mp h
      exact ih hrest

/-- A text leads to a place when it is neither empty nor too long and can be followed. -/
theorem locate_eq_ok_iff {cs : List Char} : t.locate cs = .ok p ↔
    cs ≠ [] ∧ byteLength cs ≤ pathLimit ∧
      t.follow (if cs.head? = some '/' then [] else t.workingDirectory) (cs.splitOn '/') =
        .ok p := by
  unfold locate
  by_cases hempty : cs = []
  · simp [hempty]
  · by_cases hlong : pathLimit < byteLength cs
    · simp [hempty, hlong, Nat.not_le.mpr hlong]
    · simp [hempty, hlong, Nat.not_lt.mp hlong]

/-- A way that is open starts at a directory. -/
theorem directory_of_locate {cs : List Char} (h : t.locate cs = .ok p) :
    t.IsDirectory (if cs.head? = some '/' then [] else t.workingDirectory) := by
  obtain ⟨_, _, hfollow⟩ := locate_eq_ok_iff.mp h
  obtain ⟨name, rest, hnames⟩ := List.exists_cons_of_ne_nil (List.splitOn_ne_nil '/' cs)
  rw [hnames] at hfollow
  exact (follow_cons_eq_ok_iff.mp hfollow).1

/-- The place is then the one that walking along the names leads to. -/
theorem walkText_eq_of_locate {cs : List Char} (h : t.locate cs = .ok p) :
    walkText t.workingDirectory cs = p :=
  walk_eq_of_follow (locate_eq_ok_iff.mp h).2.2

/-- A path leads to a place when moreover it has no null character. -/
theorem locatePath_eq_ok_iff {path : FilePath} : t.locatePath path = .ok p ↔
    '\x00' ∉ path.chars ∧ t.locate path.chars = .ok p := by
  unfold locatePath
  by_cases hnull : '\x00' ∈ path.chars
  · simp [hnull]
  · cases t.locate path.chars <;> simp [hnull, Except.mapError]

/-- An operation on a path finds the place it means. -/
theorem placeOf_eq_of_locatePath {path : FilePath} (h : t.locatePath path = .ok p) :
    t.placeOf path = p :=
  walkText_eq_of_locate (locatePath_eq_ok_iff.mp h).2

/-- At a path there is a directory when it leads to one. -/
theorem entryAt?_eq_directory_iff {cs : List Char} : t.entryAt? cs = some .directory ↔
    ∃ p, t.locate cs = .ok p ∧ t.IsDirectory p := by
  unfold entryAt?
  cases t.locate cs <;> simp

/-- A path can be read when it leads to a file. -/
theorem read_eq_ok_iff {path : FilePath} {content : List UInt8} : t.read path = .ok content ↔
    t.locatePath path = .ok (t.placeOf path) ∧
      t.HasFile (t.placeOf path) content := by
  constructor
  · intro h
    obtain ⟨p, hlocate, hentry⟩ := bind_eq_ok h
    rw [placeOf_eq_of_locatePath hlocate]
    refine ⟨hlocate, ?_⟩
    split at hentry
    · cases hentry
    · cases hentry
    · next heq => rwa [← Except.ok.inj hentry]
  · intro h
    simp [read, h.1, h.2, bind, Except.bind]

/-! ## Growing -/

/-- How the entry at a place may change, where a directory may come and a file may be written. -/
inductive Change (directory file : Prop) : Option FileEntry → Option FileEntry → Prop
  | kept (e : Option FileEntry) : Change directory file e e
  | made (h : directory) : Change directory file none (some .directory)
  | written {e : Option FileEntry} (content : List UInt8) (h : file)
      (hne : e ≠ some .directory) : Change directory file e (some (.file content))

/-- Two changes, one after the other. -/
theorem Change.trans {directory file : Prop} {e f g : Option FileEntry}
    (hef : Change directory file e f) (hfg : Change directory file f g) :
    Change directory file e g := by
  cases hfg with
  | kept => exact hef
  | made h =>
      cases hef with
      | kept => exact .made h
  | written content h hne =>
      cases hef with
      | kept => exact .written content h hne
      | made h' => exact absurd rfl hne
      | written _ _ hne' => exact .written content h hne'

/-- A change under a weaker condition. -/
theorem Change.mono {directory directory' file file' : Prop} {e f : Option FileEntry}
    (h : Change directory file e f) (hdirectory : directory → directory') (hfile : file → file') :
    Change directory' file' e f := by
  cases h with
  | kept => exact .kept _
  | made h => exact .made (hdirectory h)
  | written content h hne => exact .written content (hfile h) hne

/-- From the first tree to the second, directories have come at some places and files were written
at others. -/
structure Grows (directories files : Place → Prop) (t t' : FileTree) : Prop where
  workingDirectory : t'.workingDirectory = t.workingDirectory
  change (place : Place) :
    Change (directories place) (files place) ( t.entry? place) ( t'.entry? place)

namespace Grows

variable {directories directories' files files' : Place → Prop}

/-- Nothing has grown at first. -/
theorem refl (t : FileTree) : Grows directories files t t := ⟨rfl, fun _ => .kept _⟩

/-- Growth upon growth is growth. -/
theorem trans (h : Grows directories files t t') (h' : Grows directories files t' u) :
    Grows directories files t u :=
  ⟨h'.workingDirectory.trans h.workingDirectory, fun p => (h.change p).trans (h'.change p)⟩

/-- What may grow can be allowed more widely. -/
theorem mono (h : Grows directories files t t') (hdirectories : ∀ p, directories p → directories' p)
    (hfiles : ∀ p, files p → files' p) : Grows directories' files' t t' :=
  ⟨h.workingDirectory, fun p => (h.change p).mono (hdirectories p) (hfiles p)⟩

/-- The place of a path depends on the working directory only, which does not change. -/
theorem placeOf (h : Grows directories files t t') (path : FilePath) :
    t'.placeOf path = t.placeOf path := by
  rw [FileTree.placeOf, FileTree.placeOf, h.workingDirectory]

/-- Directories stay. -/
theorem directory (h : Grows directories files t t') (hp : t.IsDirectory p) :
    t'.IsDirectory p := by
  have hchange := h.change p
  rw [hp] at hchange
  unfold IsDirectory
  generalize t'.entry? p = e at hchange ⊢
  cases hchange with
  | kept => rfl
  | written _ _ hne => exact absurd rfl hne

/-- Files stay files. -/
theorem file (h : Grows directories files t t') {content : List UInt8}
    (hp : t.HasFile p content) : ∃ content', t'.HasFile p content' := by
  have hchange := h.change p
  rw [hp] at hchange
  unfold HasFile
  generalize t'.entry? p = e at hchange ⊢
  cases hchange with
  | kept => exact ⟨content, rfl⟩
  | written content' _ _ => exact ⟨content', rfl⟩

/-- Where no file may be written, files stay as they are and none is added. -/
theorem file_iff (h : Grows directories files t t') (hp : ¬ files p) (content : List UInt8) :
    t'.HasFile p content ↔ t.HasFile p content := by
  have hchange := h.change p
  unfold HasFile
  generalize t.entry? p = e, t'.entry? p = f at hchange ⊢
  cases hchange with
  | kept => rfl
  | made => simp
  | written _ hfile _ => exact absurd hfile hp

/-- New directories are where directories may come. -/
theorem new_directory (h : Grows directories files t t') (hp : t'.IsDirectory p) :
    t.IsDirectory p ∨ directories p := by
  have hchange := h.change p
  rw [hp] at hchange
  unfold IsDirectory
  generalize t.entry? p = e at hchange ⊢
  cases hchange with
  | kept => exact Or.inl rfl
  | made hdirectory => exact Or.inr hdirectory

/-- A way that is open stays open. -/
theorem follow (h : Grows directories files t t') {names : List (List Char)}
    (hfollow : t.follow place names = .ok p) : t'.follow place names = .ok p := by
  induction names generalizing place with
  | nil => exact hfollow
  | cons name rest ih =>
      obtain ⟨hdirectory, hshort, hrest⟩ := follow_cons_eq_ok_iff.mp hfollow
      exact follow_cons_eq_ok_iff.mpr ⟨h.directory hdirectory, hshort, ih hrest⟩

/-- What a text led to it leads to still. -/
theorem locate (h : Grows directories files t t') {cs : List Char} (hlocate : t.locate cs = .ok p) :
    t'.locate cs = .ok p := by
  obtain ⟨hne, hshort, hfollow⟩ := locate_eq_ok_iff.mp hlocate
  rw [← h.workingDirectory] at hfollow
  exact locate_eq_ok_iff.mpr ⟨hne, hshort, h.follow hfollow⟩

/-- So does a path. -/
theorem locatePath (h : Grows directories files t t') {path : FilePath}
    (hlocate : t.locatePath path = .ok p) : t'.locatePath path = .ok p := by
  obtain ⟨hnull, hopen⟩ := locatePath_eq_ok_iff.mp hlocate
  exact locatePath_eq_ok_iff.mpr ⟨hnull, h.locate hopen⟩

/-- Where a directory was there is one still. -/
theorem entryAt? (h : Grows directories files t t') {cs : List Char}
    (hdirectory : t.entryAt? cs = some .directory) : t'.entryAt? cs = some .directory := by
  obtain ⟨p, hlocate, hentry⟩ := entryAt?_eq_directory_iff.mp hdirectory
  exact entryAt?_eq_directory_iff.mpr ⟨p, h.locate hlocate, h.directory hentry⟩

/-- A file is read as before if it may not have been written. -/
theorem read (h : Grows directories files t t') {path : FilePath} (hpath : ¬ files (t.placeOf path))
    {content : List UInt8} (hread : t.read path = .ok content) : t'.read path = .ok content := by
  obtain ⟨hlocate, hentry⟩ := read_eq_ok_iff.mp hread
  rw [read_eq_ok_iff, h.placeOf]
  exact ⟨h.locatePath hlocate, (h.file_iff hpath content).mpr hentry⟩

end Grows

end FileTree

end MockScaffold
