import MockScaffold.Document.Artifacts
import MockScaffold.Proofs.Files.Growth

/-!
# Writing files

To write a file is to have the directories above it and then to write.  Each of the two is a step of
growth (`grows_haveDirectories`, `grows_write`), and so is any number of files
(`grows_writeTexts`): nothing comes but directories above the files and the files themselves.  If
already the first file fails, none has been written (`writeTexts_of_first_fails`).

The key fact for a second run is `HoldsText`: what a file needs to be written again without any
change.  Each file that was written has it, and keeps it while others are written elsewhere.  So
writing is complete and repeatable, which is the main statement, `Artifacts.write_complete`.
-/

namespace MockScaffold

namespace FilePath

/-- Whether a path is another one or leads, by its names alone, to a directory above it. -/
def IsAtOrAbove (q p : FilePath) : Prop := q.anchor = p.anchor ∧ q.names <+: p.names

/-- Whether a path leads, by its names alone, to a directory above another one. -/
def IsAbove (q p : FilePath) : Prop := q.IsAtOrAbove p ∧ q.names ≠ p.names

/-- What is at the parent of a path, or above it, is above the path. -/
theorem IsAtOrAbove.of_parent {q p : FilePath} (h : q.IsAtOrAbove p.parent) : q.IsAtOrAbove p :=
  ⟨h.1, h.2.trans (List.dropLast_prefix p.names)⟩

/-- What is at or above the parent is above, unless it is the start of the path. -/
theorem IsAtOrAbove.isAbove {q p : FilePath} (h : q.IsAtOrAbove p.parent) (hne : q.names ≠ []) :
    q.IsAbove p := by
  refine ⟨h.of_parent, fun heq => ?_⟩
  have hlength : q.names.length ≤ p.names.dropLast.length := h.2.length_le
  have hpos : 0 < q.names.length := List.length_pos_iff.mpr hne
  rw [List.length_dropLast, ← heq] at hlength
  omega

end FilePath

namespace FileTree

variable {t t' : FileTree} {p : FilePath}

/-! ## Making directories -/

/-- Making a directory puts it where nothing was. -/
theorem makeDirectory_eq_ok (h : t.makeDirectory p = .ok t') :
    t.locatePath p = .ok (t.placeOf p) ∧ t.entry? (t.placeOf p) = none ∧
      t' = t.set (t.placeOf p) .directory := by
  obtain ⟨place, hlocate, hentry⟩ := bind_eq_ok h
  rw [placeOf_eq_of_locatePath hlocate]
  split at hentry
  · cases hentry
  · next hnone => exact ⟨hlocate, hnone, (Except.ok.inj hentry).symm⟩

/-- A path without names leads to a directory that is there, if it leads anywhere. -/
theorem names_ne_nil_of_makeDirectory (h : t.makeDirectory p = .ok t') : p.names ≠ [] := by
  intro hnames
  obtain ⟨hlocate, hnone, _⟩ := makeDirectory_eq_ok h
  have hstart := directory_of_locate (locatePath_eq_ok_iff.mp hlocate).2
  have hplace : t.placeOf p = if p.chars.head? = some '/' then [] else t.workingDirectory := by
    unfold placeOf FilePath.chars
    rw [hnames]
    cases p.anchor <;> rfl
  rw [hplace, hstart] at hnone
  cases hnone

/-- A place to which a path leads by some of its names, or by all. -/
def OnTheWay (t : FileTree) (p : FilePath) (place : Place) : Prop :=
  ∃ q : FilePath, q.IsAtOrAbove p ∧ q.names ≠ [] ∧ place = t.placeOf q

/-- A place to which a path leads by some of its names, but not by all. -/
def Above (t : FileTree) (p : FilePath) (place : Place) : Prop :=
  ∃ q : FilePath, q.IsAbove p ∧ place = t.placeOf q

variable {directories files : Place → Prop}

/-- A place on the way to the parent is above the path. -/
theorem OnTheWay.above {place : Place} (h : t.OnTheWay p.parent place) : t.Above p place := by
  obtain ⟨q, hq, hne, hplace⟩ := h
  exact ⟨q, hq.isAbove hne, hplace⟩

/-- It is on the way to the path, too. -/
theorem OnTheWay.of_parent {place : Place} (h : t.OnTheWay p.parent place) :
    t.OnTheWay p place := by
  obtain ⟨q, hq, hne, hplace⟩ := h
  exact ⟨q, hq.of_parent, hne, hplace⟩

/-- The way to a path is the same after growth. -/
theorem Grows.onTheWay (h : Grows directories files t t') {place : Place}
    (hway : t'.OnTheWay p place) : t.OnTheWay p place := by
  obtain ⟨q, hq, hne, hplace⟩ := hway
  exact ⟨q, hq, hne, hplace.trans (h.placeOf q)⟩

/-- So is what is above the path. -/
theorem Grows.above (h : Grows directories files t t') {place : Place}
    (habove : t'.Above p place) : t.Above p place := by
  obtain ⟨q, hq, hplace⟩ := habove
  exact ⟨q, hq, hplace.trans (h.placeOf q)⟩

/-- Making a directory adds no more than that. -/
theorem grows_makeDirectory (h : t.makeDirectory p = .ok t') :
    Grows (t.OnTheWay p) (fun _ => False) t t' := by
  obtain ⟨_, hnone, rfl⟩ := makeDirectory_eq_ok h
  have hroot : t.placeOf p ≠ [] := ne_root_of_eq_none hnone
  refine ⟨rfl, fun place => ?_⟩
  rw [entry?_set hroot]
  by_cases hplace : place = t.placeOf p
  · rw [if_pos hplace, hplace, hnone]
    exact .made ⟨p, ⟨rfl, List.prefix_rfl⟩, names_ne_nil_of_makeDirectory h, rfl⟩
  · rw [if_neg hplace]
    exact .kept _

/-- Nor does making sure that there is one. -/
theorem grows_haveDirectory (t : FileTree) (p : FilePath) :
    Grows (t.OnTheWay p) (fun _ => False) t (t.haveDirectory p).1 := by
  unfold haveDirectory
  split
  · next h => exact grows_makeDirectory h
  · exact .refl t

/-- Making sure of all of them, by induction on the path, adds directories on the way only. -/
theorem grows_haveDirectories (t : FileTree) (p : FilePath) :
    Grows (t.OnTheWay p) (fun _ => False) t (t.haveDirectories p).1 := by
  fun_induction haveDirectories t p with
  | case1 p _ _ _ => exact grows_haveDirectory t p
  | case2 p _ _ _ t' hparent ih =>
      rw [hparent] at ih
      have hbefore := ih.mono (fun _ => OnTheWay.of_parent) (fun _ => id)
      have hlast := grows_haveDirectory t' p
      exact hbefore.trans (hlast.mono (fun _ => ih.onTheWay) (fun _ => id))
  | case3 p _ _ _ t' _ hparent ih =>
      rw [hparent] at ih
      exact ih.mono (fun _ => OnTheWay.of_parent) (fun _ => id)
  | case4 p _ => exact grows_haveDirectory t p

/-- After success the directory is there. -/
theorem entryAt?_of_haveDirectory (h : t.haveDirectory p = (t', none)) :
    t'.entryAt? p.chars = some .directory := by
  unfold haveDirectory at h
  split at h
  · next hmake =>
      obtain ⟨hlocate, hnone, heq⟩ := makeDirectory_eq_ok hmake
      have hroot : t.placeOf p ≠ [] := ne_root_of_eq_none hnone
      have hopen := (locatePath_eq_ok_iff.mp hlocate).2
      obtain rfl := (Prod.mk.inj h).1
      refine entryAt?_eq_directory_iff.mpr ⟨_, (grows_makeDirectory hmake).locate hopen, ?_⟩
      rw [heq, IsDirectory, entry?_set hroot, if_pos rfl]
  · obtain ⟨rfl, hfault⟩ := Prod.mk.inj h
    split at hfault
    · next hdirectory => exact hdirectory
    · cases hfault

/-- Afterwards there is a directory at the path. -/
theorem entryAt?_of_haveDirectories (h : t.haveDirectories p = (t', none)) :
    t'.entryAt? p.chars = some .directory := by
  revert h
  fun_induction haveDirectories t p with
  | case1 p _ _ _ => exact entryAt?_of_haveDirectory
  | case2 p _ _ _ _ _ _ => exact entryAt?_of_haveDirectory
  | case3 p _ _ _ _ _ _ _ => exact fun h => nomatch (Prod.mk.inj h).2
  | case4 p _ => exact entryAt?_of_haveDirectory

/-- A directory that is there is not made again. -/
theorem haveDirectories_of_entryAt? (h : t.entryAt? p.chars = some .directory) :
    t.haveDirectories p = (t, none) := by
  obtain ⟨place, hlocate, hentry⟩ := entryAt?_eq_directory_iff.mp h
  have hmake : ∃ f, t.makeDirectory p = .error f ∧ ∀ path, f ≠ .refused .notFound path := by
    unfold makeDirectory
    by_cases hnull : '\x00' ∈ p.chars
    · have hpath : t.locatePath p = .error .nullByte := if_pos (by simpa using hnull)
      rw [hpath]
      exact ⟨_, rfl, nofun⟩
    · rw [locatePath_eq_ok_iff.mpr ⟨hnull, hlocate⟩]
      refine ⟨.refused .alreadyExists p, ?_, nofun⟩
      simp [bind, Except.bind, hentry]
  obtain ⟨f, hf, hfound⟩ := hmake
  have hhave : t.haveDirectory p = (t, none) := by
    rw [haveDirectory, hf]
    simp [h]
  rw [haveDirectories, hf]
  split
  · next path heq => exact absurd (Except.error.inj heq) (hfound path)
  · exact hhave

/-! ## Writing -/

/-- Writing puts a file where no directory is. -/
theorem write_eq_ok {content : List UInt8} (h : t.write p content = .ok t') :
    t.locatePath p = .ok (t.placeOf p) ∧ ¬ t.IsDirectory (t.placeOf p) ∧
      t' = t.set (t.placeOf p) (.file content) := by
  obtain ⟨place, hlocate, hentry⟩ := bind_eq_ok h
  rw [placeOf_eq_of_locatePath hlocate]
  split at hentry
  · cases hentry
  · next hne => exact ⟨hlocate, hne, (Except.ok.inj hentry).symm⟩

/-- Writing changes one place only. -/
theorem grows_write {content : List UInt8} (h : t.write p content = .ok t') :
    Grows (fun _ => False) (· = t.placeOf p) t t' := by
  obtain ⟨_, hne, rfl⟩ := write_eq_ok h
  refine ⟨rfl, fun place => ?_⟩
  rw [entry?_set (ne_root_of_not_isDirectory hne)]
  by_cases hplace : place = t.placeOf p
  · rw [if_pos hplace]
    exact .written content hplace (hplace ▸ hne)
  · rw [if_neg hplace]
    exact .kept _

/-- What was written is read. -/
theorem read_of_write {content : List UInt8} (h : t.write p content = .ok t') :
    t'.read p = .ok content := by
  have hgrows := grows_write h
  obtain ⟨hlocate, hne, heq⟩ := write_eq_ok h
  rw [read_eq_ok_iff, hgrows.placeOf]
  refine ⟨hgrows.locatePath hlocate, ?_⟩
  rw [heq, HasFile, entry?_set (ne_root_of_not_isDirectory hne), if_pos rfl]

/-- What is read can be written again, and nothing changes. -/
theorem write_of_read {content : List UInt8} (h : t.read p = .ok content) :
    t.write p content = .ok t := by
  obtain ⟨hlocate, hentry⟩ := read_eq_ok_iff.mp h
  have hset := set_of_entry hentry.ne_root hentry
  simp [write, hlocate, hentry, hset, bind, Except.bind]

/-! ## One file after the other -/

/-- Writes a text to a file, with the directories it needs.  Gives the fault, if there is one. -/
def writeText (t : FileTree) (p : FilePath) (s : String) : FileTree × Option FileFault :=
  match t.haveDirectories p.parent with
  | (t', some f) => (t', some f)
  | (t', none) =>
    match t'.write p (Text.Utf8.encode s) with
    | .error f => (t', some f)
    | .ok t'' => (t'', none)

/-- Several texts are written by writing the first and then the others. -/
theorem writeTexts_cons (t : FileTree) (p : FilePath) (s : String)
    (rest : List (FilePath × String)) :
    t.writeTexts ((p, s) :: rest) =
      match t.writeText p s with
      | (t', some f) => (t', .error f)
      | (t', none) => ((t'.writeTexts rest).1, (t'.writeTexts rest).2.map (p :: ·)) := by
  rw [writeTexts, writeText]
  cases t.haveDirectories p.parent with
  | mk t' fault =>
      cases fault with
      | some f => rfl
      | none =>
          dsimp only
          cases t'.write p (Text.Utf8.encode s) <;> rfl

/-- Making sure of the parent adds directories above the path only. -/
theorem grows_haveDirectories_parent (t : FileTree) (p : FilePath) :
    Grows (t.Above p) (fun _ => False) t (t.haveDirectories p.parent).1 :=
  (grows_haveDirectories t p.parent).mono (fun _ => OnTheWay.above) (fun _ => id)

/-- A file is written, or it is not and only directories above it have come. -/
theorem grows_writeText (t : FileTree) (p : FilePath) (s : String) :
    Grows (t.Above p) (fun place => place = t.placeOf p ∧ (t.writeText p s).2 = none) t
      (t.writeText p s).1 := by
  have hgrows := grows_haveDirectories_parent t p
  unfold writeText
  generalize t.haveDirectories p.parent = result at hgrows ⊢
  obtain ⟨t', fault⟩ := result
  cases fault with
  | some f => exact hgrows.mono (fun _ => id) (fun _ => False.elim)
  | none =>
      dsimp only at hgrows ⊢
      cases hwrite : t'.write p (Text.Utf8.encode s) with
      | error f => exact hgrows.mono (fun _ => id) (fun _ => False.elim)
      | ok t'' =>
          have hlast := grows_write hwrite
          rw [hgrows.placeOf] at hlast
          exact (hgrows.mono (fun _ => id) (fun _ => False.elim)).trans
            (hlast.mono (fun _ => False.elim) (fun _ hplace => ⟨hplace, rfl⟩))

/-- What makes a file ready to be written again: its directory is there, and it holds the text. -/
structure HoldsText (t : FileTree) (p : FilePath) (s : String) : Prop where
  directory : t.entryAt? p.parent.chars = some .directory
  content : t.read p = .ok (Text.Utf8.encode s)

/-- What is written is there afterwards. -/
theorem holdsText_of_writeText {s : String} (h : t.writeText p s = (t', none)) :
    t'.HoldsText p s := by
  unfold writeText at h
  split at h
  · cases h
  · next t₁ hparent =>
      split at h
      · cases h
      · next hwrite =>
          obtain ⟨rfl, _⟩ := Prod.mk.inj h
          have hdirectory := entryAt?_of_haveDirectories hparent
          exact ⟨(grows_write hwrite).entryAt? hdirectory, read_of_write hwrite⟩

/-- Writing what is there already changes nothing. -/
theorem HoldsText.writeText_eq {s : String} (h : t.HoldsText p s) :
    t.writeText p s = (t, none) := by
  rw [writeText, haveDirectories_of_entryAt? h.directory]
  dsimp only
  rw [write_of_read h.content]

/-- A text stays where nothing is written in its place. -/
theorem HoldsText.grows {s : String} (h : t.HoldsText p s) (hgrows : Grows directories files t t')
    (hp : ¬ files (t.placeOf p)) : t'.HoldsText p s :=
  ⟨hgrows.entryAt? h.directory, hgrows.read hp h.content⟩

/-- **Growth by writing.**  However far it gets, writing adds directories above the files, and
writes the files. -/
theorem grows_writeTexts (t : FileTree) (texts : List (FilePath × String)) :
    Grows (fun place => ∃ f ∈ texts, t.Above f.1 place)
      (fun place => ∃ f ∈ texts, place = t.placeOf f.1) t (t.writeTexts texts).1 := by
  induction texts generalizing t with
  | nil => exact .refl t
  | cons f rest ih =>
      obtain ⟨p, s⟩ := f
      have hfirst := grows_writeText t p s
      rw [writeTexts_cons]
      generalize t.writeText p s = result at hfirst ⊢
      obtain ⟨t', fault⟩ := result
      have hstep : Grows (fun place => ∃ f ∈ (p, s) :: rest, t.Above f.1 place)
          (fun place => ∃ f ∈ (p, s) :: rest, place = t.placeOf f.1) t t' :=
        hfirst.mono (fun _ habove => ⟨_, List.mem_cons_self, habove⟩)
          (fun _ hplace => ⟨_, List.mem_cons_self, hplace.1⟩)
      cases fault with
      | some f => exact hstep
      | none =>
          refine hstep.trans ((ih t').mono ?_ ?_)
          · intro place h
            obtain ⟨f, hf, habove⟩ := h
            exact ⟨f, List.mem_cons_of_mem _ hf, hfirst.above habove⟩
          · intro place h
            obtain ⟨f, hf, hplace⟩ := h
            exact ⟨f, List.mem_cons_of_mem _ hf, hplace.trans (hfirst.placeOf f.1)⟩

/-- If the first text cannot be written, nothing is. -/
theorem writeTexts_of_first_fails {s : String} {f : FileFault} (h : (t.writeText p s).2 = some f)
    (rest : List (FilePath × String)) :
    t.writeTexts ((p, s) :: rest) = ((t.writeText p s).1, .error f) := by
  rw [writeTexts_cons]
  generalize t.writeText p s = result at h ⊢
  obtain ⟨t', fault⟩ := result
  dsimp only at h
  subst h
  rfl

/-- Texts that are there are written again, and nothing changes. -/
theorem writeTexts_of_holdsText {texts : List (FilePath × String)}
    (h : ∀ f ∈ texts, t.HoldsText f.1 f.2) : t.writeTexts texts = (t, .ok (texts.map (·.1))) := by
  induction texts with
  | nil => rfl
  | cons f rest ih =>
      obtain ⟨p, s⟩ := f
      obtain ⟨hfirst, hrest⟩ := List.forall_mem_cons.mp h
      rw [writeTexts_cons, hfirst.writeText_eq]
      dsimp only
      rw [ih hrest]
      rfl

/-- Texts that are written at different places are all there in the end. -/
theorem writeTexts_eq_ok {texts : List (FilePath × String)} {written : List FilePath}
    (h : t.writeTexts texts = (t', .ok written))
    (hplaces : (texts.map fun f => t.placeOf f.1).Nodup) :
    written = texts.map (·.1) ∧ ∀ f ∈ texts, t'.HoldsText f.1 f.2 := by
  induction texts generalizing t written with
  | nil =>
      cases h
      exact ⟨rfl, nofun⟩
  | cons f rest ih =>
      obtain ⟨p, s⟩ := f
      obtain ⟨hnew, hrest⟩ := List.nodup_cons.mp hplaces
      have hfirst := grows_writeText t p s
      rw [writeTexts_cons] at h
      cases hresult : t.writeText p s with
      | mk t₁ fault =>
          rw [hresult] at h hfirst
          cases fault with
          | some f => cases h
          | none =>
              obtain ⟨htree, hwritten⟩ := Prod.mk.inj h
              obtain ⟨others, hothers, rfl⟩ := map_eq_ok hwritten
              have hplaceOf : (fun f : FilePath × String => t₁.placeOf f.1) =
                  fun f => t.placeOf f.1 := funext fun f => hfirst.placeOf f.1
              have hrun : t₁.writeTexts rest = (t', .ok others) := Prod.ext htree hothers
              obtain ⟨hnames, hholds⟩ := ih hrun (hplaceOf ▸ hrest)
              refine ⟨by rw [hnames]; rfl, List.forall_mem_cons.mpr ⟨?_, hholds⟩⟩
              have hlast := grows_writeTexts t₁ rest
              rw [htree] at hlast
              refine (holdsText_of_writeText hresult).grows hlast fun hplace => hnew ?_
              obtain ⟨f, hf, heq⟩ := hplace
              rw [hfirst.placeOf, hfirst.placeOf] at heq
              exact List.mem_map.mpr ⟨f, hf, heq.symm⟩

end FileTree

namespace Artifacts

open FileTree

/-- **Writing is complete and repeatable.**  Let the paths of the configuration mean different
places.  If writing succeeds, then both paths are given back, each file holds just the bytes of its
text, all other files are as they were, and writing the same again succeeds and changes nothing. -/
theorem write_complete {t t' : FileTree} {config : Config} {a : Artifacts}
    {written : List FilePath} (hplaces : t.placeOf config.mocksPath ≠ t.placeOf config.typesPath)
    (h : a.write t config = (t', .ok written)) :
    written = [config.mocksPath, config.typesPath] ∧
      t'.read config.mocksPath = .ok (Text.Utf8.encode a.mocks) ∧
      t'.read config.typesPath = .ok (Text.Utf8.encode a.types) ∧
      (∀ place content, place ≠ t.placeOf config.mocksPath → place ≠ t.placeOf config.typesPath →
        (t'.HasFile place content ↔ t.HasFile place content)) ∧
      a.write t' config = (t', .ok [config.mocksPath, config.typesPath]) := by
  obtain ⟨hwritten, hholds⟩ := writeTexts_eq_ok h (by simpa using hplaces)
  have hmocks := hholds (config.mocksPath, a.mocks) (by simp)
  have htypes := hholds (config.typesPath, a.types) (by simp)
  refine ⟨hwritten, hmocks.content, htypes.content, ?_, writeTexts_of_holdsText hholds⟩
  intro place content hmocks' htypes'
  have hgrows := grows_writeTexts t [(config.mocksPath, a.mocks), (config.typesPath, a.types)]
  rw [show t.writeTexts _ = (t', .ok written) from h] at hgrows
  exact hgrows.file_iff (by simp [hmocks', htypes']) content

/-- A directory with an earlier file of types and with another file. -/
def usedDirectory : FileTree :=
  ⟨["w".toList], [(["w".toList], .directory), (["w".toList, "web".toList], .directory),
    (["w".toList, "web".toList, "api.d.ts".toList], .file [1, 2, 3]),
    (["w".toList, "old.ts".toList], .file [4])]⟩

/-- Mock handlers beside the types, by way of a directory that is missing at first. -/
def roundaboutPaths : Config :=
  ⟨.ofText "web/mocks/../handlers.ts", .ofText "/w/web/api.d.ts", .lastWins, .union, none⟩

/-- Two texts, one of them beyond ASCII. -/
def shortTexts : Artifacts := ⟨"// gr\u00FC\u00DFe\n", "// types\n", .empty .lastWins⟩

/-- Into `usedDirectory` the texts are written, and then once more. -/
theorem write_complete_usedDirectory :
    usedDirectory.placeOf roundaboutPaths.mocksPath ≠
        usedDirectory.placeOf roundaboutPaths.typesPath ∧
      ∃ t', shortTexts.write usedDirectory roundaboutPaths =
          (t', .ok [roundaboutPaths.mocksPath, roundaboutPaths.typesPath]) ∧
        t'.read roundaboutPaths.mocksPath = .ok (Text.Utf8.encode "// gr\u00FC\u00DFe\n") ∧
        t'.read roundaboutPaths.typesPath = .ok (Text.Utf8.encode "// types\n") ∧
        t'.HasFile ["w".toList, "old.ts".toList] [4] ∧
        shortTexts.write t' roundaboutPaths =
          (t', .ok [roundaboutPaths.mocksPath, roundaboutPaths.typesPath]) := by
  have hplaces : usedDirectory.placeOf roundaboutPaths.mocksPath ≠
      usedDirectory.placeOf roundaboutPaths.typesPath := by decide +kernel
  have hok : (shortTexts.write usedDirectory roundaboutPaths).2 =
      .ok [roundaboutPaths.mocksPath, roundaboutPaths.typesPath] := by decide +kernel
  have hwrite : shortTexts.write usedDirectory roundaboutPaths =
      ((shortTexts.write usedDirectory roundaboutPaths).1, .ok _) := Prod.ext rfl hok
  obtain ⟨_, hmocks, htypes, hothers, hagain⟩ := write_complete hplaces hwrite
  have hold := hothers ["w".toList, "old.ts".toList] [4] (by decide +kernel) (by decide +kernel)
  exact ⟨hplaces, _, hwrite, hmocks, htypes, hold.mpr (by decide +kernel), hagain⟩

end Artifacts

end MockScaffold
