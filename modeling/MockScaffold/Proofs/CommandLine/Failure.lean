import MockScaffold.CommandLine.Run
import MockScaffold.Proofs.Files.Writing

/-!
# What a failed run leaves

A run with valid options loads, generates and writes.  Up to writing it only looks at the tree, so a
fault before that leaves it as it was.  Writing itself may stop half-way, and what it leaves then is
`Unfinished`: nothing is gone, and what is new are directories above the two files and the files
themselves.  If it stops at the first file, no file at all has changed, since a file is only written
when its directories are there (`FileTree.grows_writeText`).

The main statement is `run_failure`, one part for each stage.
-/

namespace MockScaffold.CommandLine

open FileTree

/-- What is left of a tree when writing stops. -/
structure Unfinished (config : Config) (t t' : FileTree) : Prop where
  /-- No directory is gone. -/
  directory_kept : ∀ place, t.IsDirectory place → t'.IsDirectory place
  /-- No file is gone. -/
  file_kept : ∀ place content, t.HasFile place content → ∃ content', t'.HasFile place content'
  /-- Files at other places than the two that are written are neither changed nor added. -/
  file_elsewhere : ∀ place content, place ≠ t.placeOf config.mocksPath →
    place ≠ t.placeOf config.typesPath → (t'.HasFile place content ↔ t.HasFile place content)
  /-- New directories are above the two files, by the names of their paths. -/
  directory_new : ∀ place, t'.IsDirectory place → t.IsDirectory place ∨
    t.Above config.mocksPath place ∨ t.Above config.typesPath place

/-- However writing goes, it leaves no more than that. -/
theorem unfinished_write (t : FileTree) (config : Config) (artifacts : Artifacts) :
    Unfinished config t (artifacts.write t config).1 := by
  have hgrows := grows_writeTexts t
    [(config.mocksPath, artifacts.mocks), (config.typesPath, artifacts.types)]
  refine ⟨fun _ => hgrows.directory, fun _ _ => hgrows.file, ?_, ?_⟩
  · intro place content hmocks htypes
    exact hgrows.file_iff (by simp [hmocks, htypes]) content
  · intro place hdirectory
    have hnew := hgrows.new_directory hdirectory
    simpa using hnew

/-- If the mock handlers cannot be written, no file is changed or added. -/
theorem file_iff_of_mocks_fail {t : FileTree} {config : Config} {artifacts : Artifacts}
    {f : FileFault} (h : (t.writeText config.mocksPath artifacts.mocks).2 = some f) (place : Place)
    (content : List UInt8) :
    (artifacts.write t config).1.HasFile place content ↔ t.HasFile place content := by
  have hgrows := grows_writeText t config.mocksPath artifacts.mocks
  rw [Artifacts.write, writeTexts_of_first_fails h]
  exact hgrows.file_iff (by simp [h]) content

variable {environment : String → Option String} {fetch : String → Reply} {t : FileTree}
  {arguments : List String} {a : Arguments} {source : String} {config : Config} {o : Outcome}

/-- With valid options, a run is the generation from the source. -/
theorem run_eq_generate (harguments : Arguments.ofList arguments = .ok a)
    (hvalid : prepare environment t a = .ok (source, config)) :
    run environment fetch t arguments = generate fetch t source config := by
  simp only [run, harguments, hvalid]

/-- A specification that is not loaded ends the run before anything is written. -/
theorem generate_of_not_loaded (config : Config) {f : LoadFault}
    (hload : Specification.load t fetch source = .error f) :
    (generate fetch t source config).ending = .notLoaded f ∧
      (generate fetch t source config).tree = t := by
  simp [generate, hload]

/-- So does one for which no artifacts are generated. -/
theorem generate_of_not_generated {spec : Specification} {f : Artifacts.Fault}
    (hload : Specification.load t fetch source = .ok spec)
    (hgenerate : Artifacts.generate t.workingDirectory config spec = .error f) :
    (generate fetch t source config).ending = .notGenerated f ∧
      (generate fetch t source config).tree = t := by
  simp [generate, hload, hgenerate]

/-- Where writing fails, the file tree is left as writing left it. -/
theorem generate_of_not_written {spec : Specification} {artifacts : Artifacts} {f : FileFault}
    (hload : Specification.load t fetch source = .ok spec)
    (hgenerate : Artifacts.generate t.workingDirectory config spec = .ok artifacts)
    (hwrite : (artifacts.write t config).2 = .error f) :
    (generate fetch t source config).ending = .notWritten f ∧
      (generate fetch t source config).tree = (artifacts.write t config).1 := by
  have hresult : artifacts.write t config = ((artifacts.write t config).1, .error f) :=
    Prod.ext rfl hwrite
  rw [generate, hload]
  dsimp only
  rw [hgenerate]
  dsimp only
  rw [hresult]
  exact ⟨rfl, rfl⟩

/-- **What a failed run leaves.**  Let a run have valid options.  If the specification cannot be
loaded, or nothing can be generated from it, then the tree is as it was; and a fault of loading that
is reported ends the run with status 1.  If writing fails, then the status is 1 and what is left is
`Unfinished`; and if it already fails with the mock handlers, then no file is changed or added, that
of the types included. -/
theorem run_failure (harguments : Arguments.ofList arguments = .ok a)
    (hvalid : prepare environment t a = .ok (source, config))
    (hrun : run environment fetch t arguments = o) :
    (∀ f, Specification.load t fetch source = .error f →
        o.tree = t ∧ (f.isReported = true → o.ending.exitCode = 1)) ∧
      (∀ spec f, Specification.load t fetch source = .ok spec →
        Artifacts.generate t.workingDirectory config spec = .error f → o.tree = t) ∧
      ∀ spec artifacts f, Specification.load t fetch source = .ok spec →
        Artifacts.generate t.workingDirectory config spec = .ok artifacts →
        (artifacts.write t config).2 = .error f →
          o.ending.exitCode = 1 ∧ Unfinished config t o.tree ∧
          ((t.writeText config.mocksPath artifacts.mocks).2 = some f → ∀ place content,
            o.tree.HasFile place content ↔ t.HasFile place content) := by
  rw [run_eq_generate harguments hvalid] at hrun
  subst hrun
  refine ⟨?_, ?_, ?_⟩
  · intro f hload
    obtain ⟨hending, htree⟩ := generate_of_not_loaded config hload
    exact ⟨htree, fun _ => by rw [hending]; rfl⟩
  · intro spec f hload hgenerate
    exact (generate_of_not_generated hload hgenerate).2
  · intro spec artifacts f hload hgenerate hwrite
    obtain ⟨hending, htree⟩ := generate_of_not_written hload hgenerate hwrite
    rw [hending, htree]
    exact ⟨rfl, unfinished_write t config artifacts, fun h => file_iff_of_mocks_fail h⟩

/-- An empty specification, and a file where the types need a directory. -/
def blockedTypes : FileTree :=
  ⟨[], [(["a.json".toList], .file (Text.Utf8.encode "\x7b\"apis\": []\x7d")),
    (["b".toList], .file [1])]⟩

def blockedArguments : List String :=
  ["a.json", "--mocks-out", "m/n/../h.ts", "--types-out", "b/t.d.ts"]

/-- In `blockedTypes` the mock handlers are written, with two new directories, and the types are
not; the file in their way is as it was. -/
theorem run_failure_blockedTypes :
    ∃ a source config o spec artifacts, Arguments.ofList blockedArguments = .ok a ∧
      prepare (fun _ => none) blockedTypes a = .ok (source, config) ∧
      run (fun _ => none) (fun _ => .refused "no network") blockedTypes blockedArguments = o ∧
      Specification.load blockedTypes (fun _ => .refused "no network") source = .ok spec ∧
      Artifacts.generate blockedTypes.workingDirectory config spec = .ok artifacts ∧
      (artifacts.write blockedTypes config).2 =
        .error (.refused .alreadyExists (.ofText "b")) ∧
      o.ending.exitCode = 1 ∧ Unfinished config blockedTypes o.tree ∧
      o.tree.IsDirectory ["m".toList, "n".toList] ∧ o.tree.HasFile ["b".toList] [1] := by
  have hfault : ((Arguments.ofList blockedArguments).toOption.bind fun a =>
      (prepare (fun _ => none) blockedTypes a).toOption.bind fun valid =>
      (Specification.load blockedTypes (fun _ => .refused "no network") valid.1).toOption.bind
        fun spec =>
      (Artifacts.generate blockedTypes.workingDirectory valid.2 spec).toOption.bind
        fun artifacts => fault? (artifacts.write blockedTypes valid.2).2) =
      some (.refused .alreadyExists (.ofText "b")) := by decide +kernel
  obtain ⟨a, ha, hfault⟩ := Option.bind_eq_some_iff.mp hfault
  obtain ⟨valid, hvalid, hfault⟩ := Option.bind_eq_some_iff.mp hfault
  obtain ⟨spec, hload, hfault⟩ := Option.bind_eq_some_iff.mp hfault
  obtain ⟨artifacts, hgenerate, hfault⟩ := Option.bind_eq_some_iff.mp hfault
  have hload := toOption_eq_some hload
  have hgenerate := toOption_eq_some hgenerate
  have hwrite := fault?_eq_some hfault
  obtain ⟨_, _, hstopped⟩ := run_failure (toOption_eq_some ha) (toOption_eq_some hvalid) rfl
  obtain ⟨hstatus, hunfinished, _⟩ := hstopped spec artifacts _ hload hgenerate hwrite
  exact ⟨a, _, _, _, spec, artifacts, toOption_eq_some ha, toOption_eq_some hvalid, rfl, hload,
    hgenerate, hwrite, hstatus, hunfinished, by decide +kernel, by decide +kernel⟩

end MockScaffold.CommandLine
