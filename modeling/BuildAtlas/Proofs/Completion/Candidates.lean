import BuildAtlas.Proofs.Completion.Agreement

/-! # Which candidates are labels

A candidate is the typed text with a name put behind it. Reading paths forgives slashes that
reading labels does not, so packages are offered below a text that is no label, and then what is
offered is none either. It is the empty segment that was typed, and nothing that completion adds:
a candidate is a label just when the package in front of it was spelled as labels spell it.
-/
namespace BuildAtlas

namespace Label
variable {text longer name : String} {cs body rest : List Char}

/-- The text reads as a label. -/
def Accepted (text : String) : Prop := ∃ l, parse text = .ok l

theorem accepted_iff : Accepted text ↔ ∃ l, readChars text.toList = .ok l := by
  rw [Accepted, parse]
  cases readChars text.toList <;> simp [Except.mapError]

theorem Form.Spells.accepted {f : Form} (h : f.Spells text) : Accepted text :=
  ⟨_, parse_of_spells h⟩

/-- A text is a label when another one is, and otherwise no label for an empty segment. -/
structure ReadsAs (longer text : String) : Prop where
  accepted : Accepted longer ↔ Accepted text
  refused : ¬ Accepted text → parse longer = .error (.labelSyntax longer .emptyPackageSegment)

theorem ReadsAs.of_accepted (hlonger : Accepted longer) (htext : Accepted text) :
    ReadsAs longer text :=
  ⟨iff_of_true hlonger htext, fun h => absurd htext h⟩

theorem defect_of_readPackage {defect : LabelDefect} (h : readPackage body = .error defect) :
    defect = .emptyPackageSegment := by
  unfold readPackage at h
  split at h
  · cases h
  · split at h
    · exact (Except.error.inj h).symm
    · cases h

/-- Two texts that are labels if one and the same package can be read. -/
theorem ReadsAs.of_package {f g : PackagePath → Label}
    (hlonger : readChars longer.toList = (readPackage body).map f)
    (htext : readChars text.toList = (readPackage body).map g) : ReadsAs longer text := by
  cases hbody : readPackage body with
  | ok path =>
    rw [hbody] at hlonger htext
    exact .of_accepted (accepted_iff.mpr ⟨_, hlonger⟩) (accepted_iff.mpr ⟨_, htext⟩)
  | error defect =>
    obtain rfl := defect_of_readPackage hbody
    rw [hbody] at hlonger htext
    have hneither : ¬ Accepted longer ∧ ¬ Accepted text := by
      simp [accepted_iff, hlonger, htext, Except.map]
    refine ⟨iff_of_false hneither.1 hneither.2, fun _ => ?_⟩
    rw [parse, hlonger]
    rfl

/-! ## After two slashes -/

theorem readChars_slashes (hcolon : ':' ∉ body) :
    readChars ('/' :: '/' :: body) = (readPackage body).map fun path => .absolute "" path "" := by
  rw [readChars, readAbsolute, Text.cutAt_eq_none_iff.mpr hcolon]
  cases readPackage body <;> rfl

theorem readChars_slashes_colon (hcolon : ':' ∉ body) (hname : IsName name) :
    readChars ('/' :: '/' :: (body ++ ':' :: name.toList)) =
      (readPackage body).map fun path => .absolute "" path name := by
  obtain ⟨c, rest, hcons⟩ := List.exists_cons_of_ne_nil (l := name.toList)
    (by simpa using hname.ne_empty)
  have hread : readName (c :: rest) = .ok name :=
    (readName_eq_ok_iff (List.cons_ne_nil c rest)).mpr ⟨hname, hcons⟩
  rw [readChars, readAbsolute, Text.cutAt_append hcolon, hcons]
  simp only [hread]
  cases readPackage body <;> rfl

/-- One more segment is read as one more package on the path. -/
theorem readPackage_append_slash (hbody : body ≠ []) (hname : IsSegment name) :
    readPackage (body ++ '/' :: name.toList) = (readPackage body).map (· ++ [name]) := by
  have hsplit : (body ++ '/' :: name.toList).splitOn '/' = body.splitOn '/' ++ [name.toList] := by
    rw [← List.splitOn_eq_singleton hname.noSlash]
    exact List.splitOnP_append_cons body name.toList rfl
  have hany : ((body ++ '/' :: name.toList).splitOn '/').any List.isEmpty =
      (body.splitOn '/').any List.isEmpty := by
    simp [hsplit, hname.ne_empty]
  have hsegments : segments (body ++ '/' :: name.toList) = segments body ++ [name] := by
    simp [segments, hsplit]
  rw [readPackage, readPackage, if_neg (by simp), if_neg hbody, hany, hsegments]
  split <;> rfl

/-! ## Without two slashes -/

/-- A path of a file stays one if it gets longer, unless slashes come together at its start. -/
theorem Form.valid_file_append (h : (file text).Valid) (hslash : text.toList = ['/'] →
    rest.head? ≠ some '/') : (file (text ++ String.ofList rest)).Valid := by
  rw [valid_file_iff] at h ⊢
  obtain ⟨hne, hmarks⟩ := h
  rw [String.toList_append, String.toList_ofList]
  obtain ⟨c, cs, htext⟩ := List.exists_cons_of_ne_nil hne
  rw [htext] at hmarks hslash ⊢
  refine ⟨by simp, fun tail => ⟨fun he => ?_, fun he => ?_, fun he => ?_⟩⟩
  · exact (hmarks cs).1 (by rw [(List.cons.inj he).1])
  · obtain ⟨rfl, htail⟩ := List.cons.inj he
    cases cs with
    | nil => exact hslash rfl (congrArg List.head? htail)
    | cons d cs => exact (hmarks cs).2.1 (by rw [(List.cons.inj htail).1])
  · exact (hmarks cs).2.2 (by rw [(List.cons.inj he).1])

theorem slashes_or_file (hne : text ≠ "") (hat : text.toList.head? ≠ some '@')
    (hcolon : ':' ∉ text.toList) :
    (∃ body, text.toList = '/' :: '/' :: body) ∨ (Form.file text).Valid := by
  by_cases hbody : ∃ body, text.toList = '/' :: '/' :: body
  · exact Or.inl hbody
  · refine Or.inr (Form.valid_file_iff.mpr ⟨by simpa using hne, fun cs => ⟨?_, ?_, ?_⟩⟩)
    · exact fun he => hat (by rw [he]; rfl)
    · exact fun he => hbody ⟨cs, he⟩
    · exact fun he => hcolon (by rw [he]; simp)

/-! ## A name behind a package -/

section behind
variable (hat : text.toList.head? ≠ some '@') (hpath : IsPath (PackagePath.read text))
include hat hpath

theorem readsAs_slash (hne : PackagePath.read text ≠ []) (hname : IsSegment name) :
    ReadsAs (text ++ "/" ++ name) text := by
  have hcolon := PackagePath.isPath_read_iff.mp hpath
  have htext : text ≠ "" := by
    rintro rfl
    exact hne rfl
  rcases slashes_or_file htext hat hcolon with ⟨body, hbody⟩ | hfile
  · rw [hbody] at hcolon
    have hnone : ':' ∉ body := fun h => hcolon (by simp [h])
    have hrest : body ≠ [] := by
      rintro rfl
      obtain rfl : text = "//" := String.toList_injective hbody
      exact hne rfl
    have hlonger : (text ++ "/" ++ name).toList = '/' :: '/' :: (body ++ '/' :: name.toList) := by
      simp [hbody]
    have hnone' : ':' ∉ body ++ '/' :: name.toList := by simp [hnone, hname.noColon]
    have hread : readChars (text ++ "/" ++ name).toList =
        (readPackage body).map fun path => .absolute "" (path ++ [name]) "" := by
      rw [hlonger, readChars_slashes hnone', readPackage_append_slash hrest hname]
      cases readPackage body <;> rfl
    exact .of_package hread (hbody ▸ readChars_slashes hnone)
  · have hlonger : text ++ "/" ++ name = text ++ String.ofList ('/' :: name.toList) := by
      apply String.toList_injective
      simp
    have hslash : text.toList ≠ ['/'] := by
      intro he
      obtain rfl : text = "/" := String.toList_injective he
      exact hne rfl
    have hvalid : (Form.file (text ++ String.ofList ('/' :: name.toList))).Valid :=
      Form.valid_file_append hfile fun he => absurd he hslash
    exact .of_accepted (Form.Spells.accepted ⟨hvalid, hlonger.symm⟩)
      (Form.Spells.accepted ⟨hfile, rfl⟩)

theorem readsAs_colon (hne : text ≠ "") (hname : IsName name) :
    ReadsAs (text ++ ":" ++ name) text := by
  have hcolon := PackagePath.isPath_read_iff.mp hpath
  rcases slashes_or_file hne hat hcolon with ⟨body, hbody⟩ | hfile
  · rw [hbody] at hcolon
    have hnone : ':' ∉ body := fun h => hcolon (by simp [h])
    have hlonger : (text ++ ":" ++ name).toList = '/' :: '/' :: (body ++ ':' :: name.toList) := by
      simp [hbody]
    exact .of_package (hlonger ▸ readChars_slashes_colon hnone hname)
      (hbody ▸ readChars_slashes hnone)
  · have hlonger : text ++ ":" ++ name = text ++ String.ofList (':' :: name.toList) := by
      apply String.toList_injective
      simp
    have hvalid : (Form.file (text ++ String.ofList (':' :: name.toList))).Valid :=
      Form.valid_file_append hfile fun _ => by simp
    exact .of_accepted (Form.Spells.accepted ⟨hvalid, hlonger.symm⟩)
      (Form.Spells.accepted ⟨hfile, rfl⟩)

end behind

end Label

/-- The character behind which the name of a candidate is put. -/
def CandidateKind.mark : CandidateKind → Char
  | package => '/'
  | target _ => ':'

namespace Completion
variable {w : Workspace} {current : PackagePath} {text : String} {cursor : Cursor}
  {trigger : Option Char} {c : Completion} {typed : List Char} {a : Candidate} {mark asked : Char}

/-- The typed text without one mark at its end. -/
def trunk (mark : Char) (typed : List Char) : List Char :=
  if typed.getLast? = some mark then typed.dropLast else typed

/-- What was typed can be gone on with: its trunk is a label, or it stands for the root when
packages are asked for, and for the package at hand when targets are. -/
def Begun (kind : CandidateKind) (typed : String) : Prop :=
  Label.Accepted (String.ofList (trunk kind.mark typed.toList)) ∨
    match kind with
    | .package => PackagePath.read typed = []
    | .target _ => trunk ':' typed.toList = []

/-- A candidate is a label when what was typed can be gone on with, and otherwise it is refused
for an empty segment. -/
structure Extends (a : Candidate) (typed : String) : Prop where
  accepted : Label.Accepted a.insertText ↔ Begun a.kind typed
  refused : ¬ Begun a.kind typed →
    Label.parse a.insertText = .error (.labelSyntax a.insertText .emptyPackageSegment)

theorem trunk_cases (mark : Char) (typed : List Char) :
    typed = trunk mark typed ∨ typed = trunk mark typed ++ [mark] := by
  rw [trunk]
  split
  · rename_i hlast
    exact Or.inr (List.dropLast_append_getLast? mark hlast).symm
  · exact Or.inl rfl

theorem head?_trunk (hne : trunk mark typed ≠ []) : (trunk mark typed).head? = typed.head? := by
  rcases trunk_cases mark typed with h | h
  · rw [← h]
  · conv_rhs => rw [h]
    rw [List.head?_append_of_ne_nil _ hne]

/-! ## Packages -/

theorem read_trunk (typed : List Char) :
    PackagePath.read (String.ofList (trunk '/' typed)) = PackagePath.read (String.ofList typed) := by
  rcases trunk_cases '/' typed with h | h
  · rw [← h]
  · conv_rhs => rw [h, String.ofList_append]
    exact (PackagePath.read_append_slash _).symm

theorem childPrefix_eq (hne : PackagePath.read (String.ofList typed) ≠ []) :
    Workspace.childPrefix (String.ofList typed) = String.ofList (trunk '/' typed) ++ "/" := by
  rw [Workspace.childPrefix, if_neg hne, String.toList_ofList, trunk]
  split
  · rename_i hlast
    conv_lhs => rw [← List.dropLast_append_getLast? '/' hlast, String.ofList_append]
  · rfl

theorem mem_packageCandidates (h : w.Forest []) (ha : a ∈ packageCandidates w typed) :
    ∃ n name, w.nodeAt (.read (String.ofList typed)) = some n ∧ name ∈ n.children.map (·.1) ∧
      a = ofPackage (Workspace.childPrefix (String.ofList typed) ++ name) := by
  cases hn : w.nodeAt (.read (String.ofList typed)) with
  | none => simp [packageCandidates, Workspace.subpackagesAt, hn] at ha
  | some n =>
    rw [packageCandidates, h.subpackagesAt_of_nodeAt hn] at ha
    simp only [List.map_map, List.mem_map] at ha
    obtain ⟨child, hchild, rfl⟩ := ha
    exact ⟨n, child.1, rfl, List.mem_map_of_mem hchild, rfl⟩

theorem extends_of_packageCandidates (h : w.Legible) (hat : typed.head? ≠ some '@')
    (ha : a ∈ packageCandidates w typed) : Extends a (String.ofList typed) := by
  obtain ⟨n, name, hn, hname, rfl⟩ := mem_packageCandidates h.forest ha
  obtain ⟨s, hs, hns⟩ := Option.bind_eq_some_iff.mp hn
  have hpath := h.isPath _ s hs
  have hchild : Label.IsPath (PackagePath.read (String.ofList typed) ++ [name]) := by
    obtain ⟨child, hmem, rfl⟩ := List.mem_map.mp hname
    exact h.isPath _ child.2 (h.forest.find_concat_iff.mpr ⟨s, hs, n, hns, hmem⟩)
  by_cases hroot : PackagePath.read (String.ofList typed) = []
  · have hbegun : Begun .package (String.ofList typed) := Or.inr hroot
    have hsingle : Label.IsPath [name] := by simpa [hroot] using hchild
    have htext : Workspace.childPrefix (String.ofList typed) ++ name =
        PackagePath.render [name] := by
      rw [Workspace.childPrefix, if_pos hroot]
      rfl
    have haccepted : Label.Accepted (Workspace.childPrefix (String.ofList typed) ++ name) :=
      ⟨_, htext ▸ hsingle.parse_render⟩
    exact ⟨iff_of_true haccepted hbegun, fun hnot => absurd hbegun hnot⟩
  · have htrunk : trunk '/' typed ≠ [] := by
      intro he
      rw [← read_trunk, he] at hroot
      exact hroot rfl
    have hreads : Label.ReadsAs (Workspace.childPrefix (String.ofList typed) ++ name)
        (String.ofList (trunk '/' typed)) := by
      rw [childPrefix_eq hroot]
      refine Label.readsAs_slash ?_ ?_ ?_ (hchild name (by simp))
      · rwa [String.toList_ofList, head?_trunk htrunk]
      · rwa [read_trunk]
      · rwa [read_trunk]
    have hbegun : Begun .package (String.ofList typed) ↔
        Label.Accepted (String.ofList (trunk '/' typed)) := by
      simp [Begun, CandidateKind.mark, hroot]
    exact ⟨hreads.accepted.trans hbegun.symm, fun hnot => hreads.refused fun h => hnot (hbegun.mpr h)⟩

/-! ## Targets -/

theorem mem_targetCandidates (ha : a ∈ targetCandidates w current typed) :
    ∃ n t, w.nodeAt (.read (if String.ofList (trunk ':' typed) = "" then current.render
        else String.ofList (trunk ':' typed))) = some n ∧ t ∈ n.package.targets ∧
      a = ofTarget (String.ofList (trunk ':' typed)) t := by
  have htrunk : typedPackage typed = trunk ':' typed := rfl
  rw [targetCandidates, htrunk] at ha
  simp only [Workspace.targetsAt, Workspace.packageAt] at ha
  cases hn : w.nodeAt (.read (if String.ofList (trunk ':' typed) = "" then current.render
      else String.ofList (trunk ':' typed))) with
  | none => simp only [hn, Except.map, List.not_mem_nil] at ha
  | some n =>
    simp only [hn, Except.map, List.mem_map] at ha
    obtain ⟨t, ht, rfl⟩ := ha
    exact ⟨n, t, rfl, ht, rfl⟩

theorem extends_of_targetCandidates (h : w.Legible) (hat : typed.head? ≠ some '@')
    (ha : a ∈ targetCandidates w current typed) : Extends a (String.ofList typed) := by
  obtain ⟨n, t, hn, ht, rfl⟩ := mem_targetCandidates ha
  obtain ⟨_, hname⟩ := h.target _ n t hn ht
  by_cases hempty : trunk ':' typed = []
  · have hbegun : Begun (.target t.kind) (String.ofList typed) :=
      Or.inr (by simpa using hempty)
    have haccepted : Label.Accepted (String.ofList (trunk ':' typed) ++ ":" ++ t.name) := by
      rw [hempty]
      exact ⟨_, hname.parse_colon⟩
    exact ⟨iff_of_true haccepted hbegun, fun hnot => absurd hbegun hnot⟩
  · have hne : String.ofList (trunk ':' typed) ≠ "" := by simpa using hempty
    rw [if_neg hne] at hn
    obtain ⟨s, hs, _⟩ := Option.bind_eq_some_iff.mp hn
    have hreads : Label.ReadsAs (String.ofList (trunk ':' typed) ++ ":" ++ t.name)
        (String.ofList (trunk ':' typed)) := by
      refine Label.readsAs_colon ?_ (h.isPath _ s hs) hne hname
      rwa [String.toList_ofList, head?_trunk hempty]
    have hbegun : Begun (.target t.kind) (String.ofList typed) ↔
        Label.Accepted (String.ofList (trunk ':' typed)) := by
      simp [Begun, CandidateKind.mark, hempty]
    exact ⟨hreads.accepted.trans hbegun.symm, fun hnot => hreads.refused fun h => hnot (hbegun.mpr h)⟩

end Completion

/-! ## All candidates -/

namespace Workspace
variable {w : Workspace} {current : PackagePath} {text : String} {cursor : Cursor}
  {trigger : Option Char} {c : Completion}

theorem Legible.candidates_extend (h : w.Legible)
    (hc : w.complete current text cursor trigger = some c) :
    ∀ a ∈ c.candidates, Completion.Extends a c.typed := by
  rw [Completion.complete_eq_bind] at hc
  obtain ⟨before, _, hmade⟩ := Option.bind_eq_some_iff.mp hc
  obtain ⟨typed, asked, _, _, _, rfl⟩ := Completion.ofLine_eq_some_iff.mp hmade
  intro a ha
  dsimp only at ha ⊢
  rw [Completion.candidatesFor] at ha
  split at ha
  · cases ha
  · rename_i hat
    split at ha
    · exact Completion.extends_of_packageCandidates h hat ha
    · exact Completion.extends_of_targetCandidates h hat ha

end Workspace

namespace Query
variable {σ : Type} {tool : Tool σ} {shell : Shell} {s : Settings} {st : σ} {i : Index}

/-- Over an index, completion goes on with what was typed and adds no fault of its own. -/
theorem index_candidates_extend_typed (hi : (index tool shell s st).result = .ok i)
    {current : PackagePath} {text : String} {cursor : Cursor} {trigger : Option Char}
    {c : Completion} (hc : i.workspace.complete current text cursor trigger = some c) :
    ∀ a ∈ c.candidates, Completion.Extends a c.typed :=
  (legible_of_index hi).candidates_extend hc

theorem index_noisy : (index Script.tool .posix {}
    { replies := [.output noisyTargets, .output noisySources] }).result =
      .ok (indexOf (noisyTargets, noisySources)) := by
  rw [index_result]
  rfl

theorem complete_noisy_slashes :
    (indexOf (noisyTargets, noisySources)).workspace.complete [] "deps = [\"//a//" ⟨0, 14⟩ none =
      some ⟨"//a//", 0, 9, 14, [Completion.ofPackage "//a//b"]⟩ := by decide +kernel

theorem index_candidates_extend_typed_slashes :
    (index Script.tool .posix {}
        { replies := [.output noisyTargets, .output noisySources] }).result =
          .ok (indexOf (noisyTargets, noisySources)) ∧
      (∃ c, (indexOf (noisyTargets, noisySources)).workspace.complete [] "deps = [\"//a/" ⟨0, 13⟩
          none = some c ∧
        c.candidates = [Completion.ofPackage "//a/b"] ∧ Label.Accepted "//a/b") ∧
      ∃ c, (indexOf (noisyTargets, noisySources)).workspace.complete [] "deps = [\"//a//" ⟨0, 14⟩
          none = some c ∧
        c.candidates = [Completion.ofPackage "//a//b"] ∧
        Label.parse "//a//b" = .error (.labelSyntax "//a//b" .emptyPackageSegment) := by
  have hone : (indexOf (noisyTargets, noisySources)).workspace.complete [] "deps = [\"//a/" ⟨0, 13⟩
      none = some ⟨"//a/", 0, 9, 13, [Completion.ofPackage "//a/b"]⟩ := by decide +kernel
  have hbegun : Completion.Begun .package "//a/" := Or.inl ⟨.absolute "" ["a"] "", by rfl⟩
  have hnot : ¬ Completion.Begun .package "//a//" := by
    rintro (⟨l, hl⟩ | hroot)
    · have hrefused : Label.parse "//a/" = .error (.labelSyntax "//a/" .emptyPackageSegment) := rfl
      exact absurd (hrefused.symm.trans hl) (by simp)
    · exact absurd hroot (by decide)
  refine ⟨index_noisy, ⟨_, hone, rfl, ?_⟩, _, complete_noisy_slashes, rfl, ?_⟩
  · exact (index_candidates_extend_typed index_noisy hone _ List.mem_cons_self).accepted.mpr hbegun
  · exact (index_candidates_extend_typed index_noisy complete_noisy_slashes _
      List.mem_cons_self).refused hnot

/-- Behind two slashes in a row a package is offered that is no label. -/
theorem candidate_refused_behind_slashes :
    ¬ ∀ i, (index Script.tool .posix {}
        { replies := [.output noisyTargets, .output noisySources] }).result = .ok i →
      ∀ current text cursor trigger c,
        i.workspace.complete current text cursor trigger = some c →
        ∀ a ∈ c.candidates, ∃ l, Label.parse a.insertText = .ok l := by
  intro h
  obtain ⟨l, hl⟩ := h _ index_noisy _ _ _ _ _ complete_noisy_slashes _ List.mem_cons_self
  have hrefused : Label.parse "//a//b" =
      .error (.labelSyntax "//a//b" .emptyPackageSegment) := by decide
  exact absurd (hrefused.symm.trans hl) (by simp)

end Query

end BuildAtlas
