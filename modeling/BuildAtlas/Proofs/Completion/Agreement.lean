import BuildAtlas.Proofs.Completion.Typed
import BuildAtlas.Proofs.Label.Path
import BuildAtlas.Proofs.Query.Legible

/-! # Completion and checking agree

Completion finds a package by cutting what was typed at its slashes, checking by reading a label.
In an index every package and every target can be written as a label, and there the two ways
lead to the same package: what completion offers after a colon is what checking calls valid, and
what it offers after a slash are the packages of which the typed text is the beginning.
-/
namespace BuildAtlas

namespace Completion
variable {w : Workspace} {current path : PackagePath} {package name : String} {n : Node}

/-! ## After a colon -/

/-- The package that the text in front of a colon stands for: an empty text stands for the
package at hand, and the absolute spelling of a package for that package. -/
inductive Stands (current : PackagePath) : String → PackagePath → Prop
  | here : current.Plain → Stands current "" current
  | spelled {path : PackagePath} : Label.IsPath path → Stands current path.render path

theorem render_ne_empty (path : PackagePath) : path.render ≠ "" := by
  simp [PackagePath.render]

theorem head?_render_append (path : PackagePath) (rest : List Char) :
    (path.render.toList ++ rest).head? = some '/' := by
  simp [PackagePath.render]

namespace Stands

theorem read_eq (h : Stands current package path) :
    PackagePath.read (if package = "" then current.render else package) = path := by
  cases h with
  | here hcurrent => rw [if_pos rfl, hcurrent.read_render]
  | spelled hpath => rw [if_neg (render_ne_empty path), hpath.plain.read_render]

theorem candidatesFor_eq (h : Stands current package path) :
    candidatesFor w current ':' (package.toList ++ [':']) =
      ((w.nodeAt path).map fun n => n.package.targets.map (ofTarget package)).getD [] := by
  have hhead : (package.toList ++ [':']).head? ≠ some '@' := by
    cases h with
    | here => decide
    | spelled =>
      rw [head?_render_append]
      decide
  have htyped : typedPackage (package.toList ++ [':']) = package.toList := by
    simp [typedPackage]
  rw [candidatesFor, if_neg hhead, if_neg (by decide), targetCandidates, htyped,
    String.ofList_toList, Workspace.targetsAt, Workspace.packageAt, h.read_eq]
  cases w.nodeAt path <;> rfl

/-- A target of the package is named by the text, a colon and its name. -/
theorem names (h : Stands current package path) (hname : Label.IsName name) :
    ∃ l, Label.parse (package ++ ":" ++ name) = .ok l ∧ l.Names current path name := by
  cases h with
  | here hcurrent =>
    refine ⟨_, ?_, .here⟩
    rw [String.empty_append]
    exact hname.parse_colon
  | spelled hpath => exact ⟨_, hpath.parse_render_named hname, .named hname.ne_empty⟩

end Stands

/-! ## After a slash -/

/-- A package as far as it is typed when its subpackages are asked for. -/
def opening (path : PackagePath) : String := if path = [] then "//" else path.render ++ "/"

theorem opening_append (path : PackagePath) (name : String) :
    opening path ++ name = (path ++ [name]).render := by
  by_cases hpath : path = []
  · subst hpath
    rfl
  · rw [opening, if_neg hpath, PackagePath.render, PackagePath.render,
      PackagePath.joined_concat hpath]
    simp only [String.append_assoc]

theorem read_opening (h : path.Plain) : PackagePath.read (opening path) = path := by
  by_cases hpath : path = []
  · subst hpath
    rfl
  · rw [opening, if_neg hpath, PackagePath.read_append_slash, h.read_render]

theorem getLast?_opening (path : PackagePath) : (opening path).toList.getLast? = some '/' := by
  by_cases hpath : path = []
  · subst hpath
    rfl
  · rw [opening, if_neg hpath, String.toList_append]
    exact List.getLast?_concat

theorem childPrefix_opening (h : path.Plain) :
    Workspace.childPrefix (opening path) = opening path := by
  rw [Workspace.childPrefix, read_opening h, if_pos (getLast?_opening path)]
  by_cases hpath : path = []
  · subst hpath
    rfl
  · rw [if_neg hpath]

section offered
variable (hw : w.Forest []) (h : path.Plain)
include h

include hw in
theorem subpackagesAt_opening (hn : w.nodeAt path = some n) :
    w.subpackagesAt (opening path) = .ok (n.children.map fun child => opening path ++ child.1) := by
  have hread : w.nodeAt (.read (opening path)) = some n := by rw [read_opening h, hn]
  rw [hw.subpackagesAt_of_nodeAt hread, childPrefix_opening h, List.map_map]
  rfl

theorem candidatesFor_slash : candidatesFor w current '/' (opening path).toList =
    packageCandidates w (opening path).toList := by
  have hhead : (opening path).toList.head? ≠ some '@' := by
    by_cases hpath : path = []
    · subst hpath
      decide
    · rw [opening, if_neg hpath, String.toList_append, head?_render_append]
      decide
  rw [candidatesFor, if_neg hhead, if_pos rfl]

include hw in
theorem candidatesFor_opening (hn : w.nodeAt path = some n) :
    candidatesFor w current '/' (opening path).toList =
      n.children.map fun child => ofPackage (opening path ++ child.1) := by
  rw [candidatesFor_slash h, packageCandidates, String.ofList_toList,
    subpackagesAt_opening hw h hn]
  simp only [List.map_map]
  rfl

theorem candidatesFor_opening_of_none (hn : w.nodeAt path = none) :
    candidatesFor w current '/' (opening path).toList = [] := by
  rw [candidatesFor_slash h, packageCandidates, String.ofList_toList, Workspace.subpackagesAt,
    read_opening h, hn]

end offered

end Completion

/-! ## Agreement -/

namespace Workspace.Legible
variable {w : Workspace} {current path : PackagePath} {text package : String} {cursor : Cursor}
  {trigger : Option Char} {n : Node} {t : Target}

theorem check_target (h : w.Legible) (hs : Completion.Stands current package path)
    (hn : w.nodeAt path = some n) (ht : t ∈ n.package.targets) :
    w.check current (package ++ ":" ++ t.name) = .valid := by
  obtain ⟨hhome, hname⟩ := h.target path n t hn ht
  obtain ⟨l, hparse, hnames⟩ := hs.names hname
  obtain ⟨htarget, hfile, hworkspace⟩ := hnames.target?_eq
  have hdeclares : w.declares ⟨path, t.name, ""⟩ = true := by
    rw [declares, hn]
    refine List.any_eq_true.mpr ⟨t, ht, ?_⟩
    simp [Target.label, hhome]
  exact check_eq_iff.mpr (Or.inr ⟨l, hparse, .valid hfile hworkspace htarget hdeclares⟩)

/-- After a colon, the targets of the package that stands before it, each of them valid. -/
theorem complete_targets (h : w.Legible) (hs : Completion.Stands current package path)
    (htyped : Completion.typedAt text cursor = some (package.toList ++ [':']))
    (htrigger : trigger = none ∨ trigger = some ':') :
    ∃ c, w.complete current text cursor trigger = some c ∧
      match w.nodeAt path with
      | none => c.candidates = []
      | some n =>
        c.candidates = n.package.targets.map (fun t =>
          { label := t.name, insertText := package ++ ":" ++ t.name, kind := .target t.kind }) ∧
        ∀ a ∈ c.candidates, w.check current a.insertText = .valid := by
  have hasked : trigger.or (package.toList ++ [':']).getLast? = some ':' := by
    rcases htrigger with rfl | rfl <;> simp
  obtain ⟨c, hc, hcandidates⟩ :=
    Completion.complete_of_typedAt w current htyped hasked (Or.inr rfl)
  refine ⟨c, hc, ?_⟩
  rw [hcandidates, hs.candidatesFor_eq]
  cases hn : w.nodeAt path with
  | none => rfl
  | some n =>
    refine ⟨rfl, fun a ha => ?_⟩
    obtain ⟨t, ht, rfl⟩ := List.mem_map.mp ha
    exact h.check_target hs hn ht

/-- After a slash, the packages below, each written as a label of that package. -/
theorem complete_packages (h : w.Legible) (hpath : Label.IsPath path)
    (htyped : Completion.typedAt text cursor = some (Completion.opening path).toList)
    (htrigger : trigger = none ∨ trigger = some '/') :
    ∃ c, w.complete current text cursor trigger = some c ∧
      match w.nodeAt path with
      | none => c.candidates = []
      | some n =>
        c.candidates = n.children.map (fun child =>
          { label := Completion.opening path ++ child.1
            insertText := Completion.opening path ++ child.1
            kind := .package }) ∧
        c.candidates.map (fun a => Label.parse a.insertText) =
          n.children.map fun child => .ok (.absolute "" (path ++ [child.1]) "") := by
  have hasked : trigger.or (Completion.opening path).toList.getLast? = some '/' := by
    rcases htrigger with rfl | rfl
    · exact Completion.getLast?_opening path
    · rfl
  obtain ⟨c, hc, hcandidates⟩ :=
    Completion.complete_of_typedAt w current htyped hasked (Or.inl rfl)
  refine ⟨c, hc, ?_⟩
  rw [hcandidates]
  cases hn : w.nodeAt path with
  | none => exact Completion.candidatesFor_opening_of_none hpath.plain hn
  | some n =>
    rw [Completion.candidatesFor_opening h.forest hpath.plain hn]
    refine ⟨rfl, ?_⟩
    obtain ⟨s, hs, hns⟩ := Option.bind_eq_some_iff.mp hn
    rw [List.map_map]
    refine List.map_congr_left fun child hchild => ?_
    have hfound : w.find (path ++ [child.1]) = some child.2 :=
      h.forest.find_concat_iff.mpr ⟨s, hs, n, hns, hchild⟩
    have hparse := (h.isPath _ _ hfound).parse_render
    rwa [← Completion.opening_append] at hparse

end Workspace.Legible

namespace Query
variable {σ : Type} {tool : Tool σ} {shell : Shell} {s : Settings} {st : σ} {i : Index}

/-- Completion after a colon offers the targets of the very package in which checking looks for
them, and completion after a slash the packages right below the one that was typed. -/
theorem index_completes_as_checked (hi : (index tool shell s st).result = .ok i) :
    (∀ text cursor trigger current package path,
      Completion.typedAt text cursor = some (package.toList ++ [':']) →
      trigger = none ∨ trigger = some ':' → Completion.Stands current package path →
      ∃ c, i.workspace.complete current text cursor trigger = some c ∧
        match i.workspace.nodeAt path with
        | none => c.candidates = []
        | some n =>
          c.candidates = n.package.targets.map (fun t =>
            { label := t.name, insertText := package ++ ":" ++ t.name, kind := .target t.kind }) ∧
          ∀ a ∈ c.candidates, i.workspace.check current a.insertText = .valid) ∧
    ∀ text cursor trigger current path,
      Completion.typedAt text cursor = some (Completion.opening path).toList →
      trigger = none ∨ trigger = some '/' → Label.IsPath path →
      ∃ c, i.workspace.complete current text cursor trigger = some c ∧
        match i.workspace.nodeAt path with
        | none => c.candidates = []
        | some n =>
          c.candidates = n.children.map (fun child =>
            { label := Completion.opening path ++ child.1
              insertText := Completion.opening path ++ child.1
              kind := .package }) ∧
          c.candidates.map (fun a => Label.parse a.insertText) =
            n.children.map fun child => .ok (.absolute "" (path ++ [child.1]) "") := by
  have h := legible_of_index hi
  refine ⟨?_, ?_⟩
  · intro text cursor trigger current package path htyped htrigger hs
    exact h.complete_targets hs htyped htrigger
  · intro text cursor trigger current path htyped htrigger hpath
    exact h.complete_packages hpath htyped htrigger

theorem index_completes_as_checked_noisy :
    ∃ i, (index Script.tool .posix {}
        { replies := [.output noisyTargets, .output noisySources] }).result = .ok i ∧
      (∃ c, i.workspace.complete ["c"] "deps = [\"//a:" ⟨0, 13⟩ none = some c ∧
        c.candidates.map (·.insertText) = ["//a:y"] ∧
        ∀ a ∈ c.candidates, i.workspace.check ["c"] a.insertText = .valid) ∧
      ∃ c, i.workspace.complete ["c"] "deps = [\"//a/" ⟨0, 13⟩ (some '/') = some c ∧
        c.candidates.map (·.insertText) = ["//a/b"] ∧
        c.candidates.map (fun a => Label.parse a.insertText) =
          [.ok (.absolute "" ["a", "b"] "")] := by
  obtain ⟨i, hi, hgroups⟩ : ∃ i, (index Script.tool .posix {}
      { replies := [.output noisyTargets, .output noisySources] }).result = .ok i ∧
      i.workspace.Groups (Listing.targets noisyTargets).items
        (Listing.sources noisySources).items := by
    refine ⟨indexOf (noisyTargets, noisySources), ?_, groups_indexOf (noisyTargets, noisySources)⟩
    rw [index_result]
    rfl
  have hlisted : (Listing.targets noisyTargets).items = [⟨["a", "b"], "x", "cc_binary"⟩,
      ⟨["a"], "y", "java_library"⟩, ⟨["a", "b"], "x", "cc_binary"⟩] := by decide +kernel
  rw [hlisted] at hgroups
  have hpath : Label.IsPath ["a"] := by
    intro segment hsegment
    obtain rfl := List.mem_singleton.mp hsegment
    exact ⟨by decide, by decide, by decide⟩
  obtain ⟨htargets, hpackages⟩ := index_completes_as_checked hi
  have hmem : ["a"] ∈ i.workspace.paths :=
    (hgroups.mem_paths ["a"]).mpr (Or.inr ⟨["a"], by simp [Workspace.mentions], List.prefix_rfl⟩)
  obtain ⟨n, hn, _, hdeclared, _, hbelow, _⟩ := hgroups.package ["a"] hmem
  have hcolon := htargets "deps = [\"//a:" ⟨0, 13⟩ none ["c"] "//a" ["a"] (by decide +kernel)
    (Or.inl rfl) (.spelled hpath)
  have hslash := hpackages "deps = [\"//a/" ⟨0, 13⟩ (some '/') ["c"] ["a"] (by decide +kernel)
    (Or.inr rfl) hpath
  rw [hn] at hcolon hslash
  refine ⟨i, hi, ?_, ?_⟩
  · obtain ⟨c, hc, hcandidates, hvalid⟩ := hcolon
    refine ⟨c, hc, ?_, hvalid⟩
    rw [hcandidates, hdeclared]
    decide +kernel
  · obtain ⟨c, hc, hcandidates, hparse⟩ := hslash
    have hnames : n.children.map (·.1) = ["b"] := by
      rw [hbelow]
      decide +kernel
    obtain ⟨⟨_, below⟩, hchildren, hname⟩ := List.map_eq_singleton_iff.mp hnames
    obtain rfl := hname
    refine ⟨c, hc, ?_, ?_⟩
    · rw [hcandidates, hchildren]
      rfl
    · rw [hparse, hchildren]
      rfl

end Query

end BuildAtlas
