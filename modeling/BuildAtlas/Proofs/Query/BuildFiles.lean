import BuildAtlas.Proofs.Label.Path
import BuildAtlas.Proofs.Query.Legible

/-! # The build file of a source file

A file that was read from a printed line belongs to the package of its label, however deep its
name reaches into directories. A file that is known by its path alone is looked for in its
directories, less those with a dot, and found there only if a line declares that very path in that
very package. So the build file that is told is that of a package which declares the file.
-/
namespace BuildAtlas

/-! ## Names of build files -/

/-- Whatever the settings are, the name of the build file is one segment of a path. -/
theorem Settings.plain_buildFileName {json : Json} {settings : Settings}
    (h : ofJson? json = some settings) : PackagePath.Plain [settings.buildFileName] := by
  obtain ⟨group, _, rfl⟩ := Option.map_eq_some_iff.mp h
  have hname : (ofGroup group).buildFileName =
    ((text? group "buildFileName").filter isFileName).getD "BUILD" := rfl
  rw [hname]
  cases hfile : (text? group "buildFileName").filter isFileName with
  | none =>
    rw [Option.getD_none]
    unfold PackagePath.Plain
    decide
  | some name =>
    obtain ⟨htext, hslash⟩ := Option.filter_eq_some_iff.mp hfile
    obtain ⟨_, husable⟩ := Option.filter_eq_some_iff.mp htext
    intro segment hmem
    obtain rfl := List.mem_singleton.mp hmem
    refine ⟨?_, by simpa [isFileName] using hslash⟩
    rintro rfl
    simp [isUsable, Text.allBlank] at husable

/-! ## Declared files -/

section printed
variable {line : String} {f : SourceFile}

/-- The last field of the line is the label of the file. -/
theorem SourceFile.exists_label_of_ofLine? (h : ofLine? line = some f) :
    ∃ label package name, (Text.fields line).getLast? = some label ∧
      Label.parse label = .ok (.absolute "" package name) ∧ f = inPackage package name := by
  obtain ⟨front, label, package, name, hfields, hread, rfl⟩ := ofLine?_eq_some_iff.mp h
  refine ⟨label, package, name, ?_, (workspaceTarget?_eq_some_iff.mp hread).1, rfl⟩
  rw [hfields, List.getLast?_concat]

theorem SourceFile.package_of_ofLine? (h : ofLine? line = some f) : f.package = some f.owner := by
  obtain ⟨_, package, name, _, _, rfl⟩ := exists_label_of_ofLine? h
  rfl

end printed

/-- One of the lines declares a file with that path in that package. -/
def Declared (lines : List String) (path : List String) (package : PackagePath) : Prop :=
  ∃ line ∈ lines, ∃ f, SourceFile.ofLine? line = some f ∧ f.path = path ∧ f.package = some package

/-- A package that declares a file has a path that can be written. -/
theorem Declared.plain {lines path : List String} {package : PackagePath}
    (h : Declared lines path package) : package.Plain := by
  obtain ⟨line, _, f, hf, _, hpackage⟩ := h
  obtain rfl : f.owner = package :=
    Option.some.inj ((SourceFile.package_of_ofLine? hf).symm.trans hpackage)
  exact (SourceFile.isPath_of_ofLine? hf).plain

/-- The segments in front of the file name that have no dot in them. -/
def SourceFile.directories (f : SourceFile) : PackagePath :=
  f.path.dropLast.filter fun segment => '.' ∉ segment.toList

theorem SourceFile.owner_of_bare {f : SourceFile} (h : f.package = none) :
    f.owner = f.directories := by
  simp [owner, h, directories, PackagePath.looksLikeFile]

/-! ## Build files -/

namespace Workspace
variable {w : Workspace} {targets : List Target} {files : List SourceFile} {f : SourceFile}
  {buildFileName text : String} {fault : Fault} {lines : List String}

theorem ofItems_holds : (ofItems targets files).holds f = true ↔
    ∃ g ∈ files, g.path = f.path ∧ g.owner = f.owner := by
  rw [holds_iff_of_has fun _ _ => ofItems_has]
  simp [itemsOf]

theorem buildFileOf_eq_ok_iff : w.buildFileOf buildFileName f = .ok text ↔
    w.holds f = true ∧ text = PackagePath.joined (f.owner ++ [buildFileName]) := by
  cases hf : w.holds f <;> simp [buildFileOf, hf, PackagePath.joined, eq_comm]

theorem buildFileOf_eq_error_iff : w.buildFileOf buildFileName f = .error fault ↔
    w.holds f = false ∧ fault = .notIndexed f.render := by
  cases hf : w.holds f <;> simp [buildFileOf, hf, eq_comm]

/-- Files are resolved to the build file of a package in which a line declares them. -/
structure ResolvesBuildFiles (w : Workspace) (buildFileName : String) (lines : List String) :
    Prop where
  /-- A file read from a line has the build file of its label's package. -/
  labelled : ∀ line ∈ lines, ∀ f, SourceFile.ofLine? line = some f →
    ∃ label package name text, (Text.fields line).getLast? = some label ∧
      Label.parse label = .ok (.absolute "" package name) ∧ f = .inPackage package name ∧
      w.buildFileOf buildFileName f = .ok text ∧
      PackagePath.read text = package ++ [buildFileName]
  /-- No file has the build file of a package that does not declare it. -/
  declared : ∀ f text, w.buildFileOf buildFileName f = .ok text →
    ∃ package, Declared lines f.path package ∧ PackagePath.read text = package ++ [buildFileName]
  refused : ∀ f fault, f.package = none → (w.buildFileOf buildFileName f = .error fault ↔
    fault = .notIndexed f.render ∧ ¬ Declared lines f.path f.directories)

/-- Where the files that are held are those that the lines declare, look-ups go by the lines. -/
theorem resolvesBuildFiles_of_holds (hname : PackagePath.Plain [buildFileName])
    (hholds : ∀ f, w.holds f = true ↔ Declared lines f.path f.owner) :
    w.ResolvesBuildFiles buildFileName lines := by
  have hread : ∀ f : SourceFile, Declared lines f.path f.owner →
      PackagePath.read (PackagePath.joined (f.owner ++ [buildFileName])) =
        f.owner ++ [buildFileName] := by
    intro f hf
    have hplain : (f.owner ++ [buildFileName]).Plain :=
      List.forall_mem_append.mpr ⟨hf.plain, hname⟩
    exact hplain.read_joined
  refine ⟨fun line hline f hf => ?_, fun f text h => ?_, fun f fault hbare => ?_⟩
  · have hdeclared : Declared lines f.path f.owner :=
      ⟨line, hline, f, hf, rfl, SourceFile.package_of_ofLine? hf⟩
    have hfound : w.buildFileOf buildFileName f =
        .ok (PackagePath.joined (f.owner ++ [buildFileName])) :=
      buildFileOf_eq_ok_iff.mpr ⟨(hholds f).mpr hdeclared, rfl⟩
    obtain ⟨label, package, name, hlast, hparse, rfl⟩ := SourceFile.exists_label_of_ofLine? hf
    exact ⟨label, package, name, _, hlast, hparse, rfl, hfound, hread _ hdeclared⟩
  · obtain ⟨hheld, rfl⟩ := buildFileOf_eq_ok_iff.mp h
    have hdeclared := (hholds f).mp hheld
    exact ⟨f.owner, hdeclared, hread f hdeclared⟩
  · rw [buildFileOf_eq_error_iff, ← SourceFile.owner_of_bare hbare, ← hholds, Bool.not_eq_true,
      and_comm]

end Workspace

namespace Query
variable {σ : Type} {tool : Tool σ} {shell : Shell} {s settings : Settings} {st st' st'' : σ}
  {out src : Output} {json : Json}

theorem holds_indexOf (o : Output × Output) (f : SourceFile) :
    (indexOf o).workspace.holds f = true ↔ Declared o.2.stdoutLines f.path f.owner := by
  refine Workspace.ofItems_holds.trans ⟨?_, ?_⟩
  · rintro ⟨g, hg, hpath, howner⟩
    obtain ⟨line, hline, hread⟩ := Listing.mem_sources.mp hg
    exact ⟨line, hline, g, hread, hpath, howner ▸ SourceFile.package_of_ofLine? hread⟩
  · rintro ⟨line, hline, g, hread, hpath, hpackage⟩
    refine ⟨g, Listing.mem_sources.mpr ⟨line, hline, hread⟩, hpath, ?_⟩
    exact Option.some.inj ((SourceFile.package_of_ofLine? hread).symm.trans hpackage)

/-- Two answers that ended well are indexed, and under every name that settings can give to build
files a file is resolved to the build file of a package that declares it, or refused. -/
theorem index_resolves_build_files (ht : tool.run (targetCommand shell s) st = (.ok out, st'))
    (hf : tool.run (sourceCommand shell s) st' = (.ok src, st''))
    (hout : out.succeeded) (hsrc : src.succeeded)
    (hsettings : Settings.ofJson? json = some settings) :
    ∃ i, (index tool shell s st).result = .ok i ∧
      i.workspace.ResolvesBuildFiles settings.buildFileName src.stdoutLines := by
  refine ⟨_, index_of_succeeded ht hf hout hsrc, ?_⟩
  exact Workspace.resolvesBuildFiles_of_holds (Settings.plain_buildFileName hsettings)
    (holds_indexOf (out, src))

/-- A file in a directory that is no package: its label leads to the package, its path alone does
not, and the path of a file right below its package does. -/
theorem index_resolves_build_files_noisy :
    noisyTargets.succeeded ∧ noisySources.succeeded ∧
      Settings.ofJson? (.object [("bazel", .object [("buildFileName", .string "BUILD.bazel")])]) =
        some { buildFileName := "BUILD.bazel" } ∧
      ∃ i, (index Script.tool .posix {}
          { replies := [.output noisyTargets, .output noisySources] }).result = .ok i ∧
        i.workspace.ResolvesBuildFiles "BUILD.bazel" ["//a/b:sub/f.cc", "@ext//z:g", "//c:h"] ∧
        i.workspace.buildFileOf "BUILD.bazel" (.inPackage ["a", "b"] "sub/f.cc") =
          .ok "a/b/BUILD.bazel" ∧
        i.workspace.buildFileOf "BUILD.bazel" ⟨"f.cc", ["a", "b", "sub", "f.cc"], none⟩ =
          .error (.notIndexed "a/b/sub/f.cc") ∧
        i.workspace.buildFileOf "BUILD.bazel" ⟨"h", ["c", "h"], none⟩ = .ok "c/BUILD.bazel" := by
  have hsources : noisySources.succeeded := rfl
  have ht : Script.tool.run (targetCommand .posix {})
      { replies := [.output noisyTargets, .output noisySources] } = (.ok noisyTargets, _) := rfl
  have hsettings : Settings.ofJson? (.object [("bazel",
      .object [("buildFileName", .string "BUILD.bazel")])]) =
        some { buildFileName := "BUILD.bazel" } := by decide
  obtain ⟨i, hi, hresolves⟩ := index_resolves_build_files ht rfl rfl hsources hsettings
  refine ⟨rfl, hsources, hsettings, i, hi, hresolves, ?_⟩
  obtain rfl := Except.ok.inj ((index_of_succeeded ht rfl rfl hsources).symm.trans hi)
  decide +kernel

end Query

end BuildAtlas
