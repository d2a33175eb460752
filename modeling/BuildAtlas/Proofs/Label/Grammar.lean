import BuildAtlas.Label.Parse
import BuildAtlas.Proofs.Text.Split

/-! # The grammar of labels

A label is a workspace, a body, both, or the text of a file path. The forms are written down as
data with the text that each stands for; reading is shown to accept these texts and no other,
and to give back the parts of the one form behind the text.
-/
namespace BuildAtlas

theorem exists_of_bind_eq_ok {ε α β : Type} {x : Except ε α} {f : α → Except ε β} {b : β}
    (h : x >>= f = .ok b) : ∃ a, x = .ok a ∧ f a = .ok b := by
  cases x with
  | error e => cases h
  | ok a => exact ⟨a, rfl, h⟩

namespace Label

/-- A piece of a package or of a name: not empty and without punctuation. -/
structure IsSegment (s : String) : Prop where
  ne_empty : s ≠ ""
  noSlash : '/' ∉ s.toList
  noColon : ':' ∉ s.toList

def IsPath (path : PackagePath) : Prop := ∀ s ∈ path, IsSegment s

/-- One or more segments with slashes between them. -/
def IsName (name : String) : Prop := ∃ path : PackagePath,
  path ≠ [] ∧ IsPath path ∧ path.joined = name

structure IsWorkspace (workspace : String) : Prop where
  noSlash : '/' ∉ workspace.toList
  noColon : ':' ∉ workspace.toList

/-- What stands behind the workspace, or alone. -/
inductive Body where
  | absolute (package : PackagePath) (name : Option String)
  | colon (name : String)
  deriving DecidableEq

namespace Body

def text : Body → String
  | absolute package none => "//" ++ package.joined
  | absolute package (some name) => "//" ++ package.joined ++ ":" ++ name
  | colon name => ":" ++ name

def Valid : Body → Prop
  | absolute package name => IsPath package ∧ ∀ n ∈ name, IsName n
  | colon name => IsName name

def package : Body → PackagePath
  | absolute package _ => package
  | colon _ => []

def name : Body → String
  | absolute _ name => name.getD ""
  | colon name => name

/-- The label that a body makes with a workspace in front, empty when there is none. -/
def label (workspace : String) : Body → Label
  | absolute package name => .absolute workspace package (name.getD "")
  | colon name => if workspace = "" then .here name else .absolute workspace [] name

end Body

inductive Form where
  | external (workspace : String) (body : Option Body)
  | plain (body : Body)
  | file (text : String)
  deriving DecidableEq

namespace Form

def text : Form → String
  | external workspace body => "@" ++ workspace ++ (body.map Body.text).getD ""
  | plain body => body.text
  | file text => text

def Valid : Form → Prop
  | external workspace body =>
    IsWorkspace workspace ∧ (body = none → workspace ≠ "") ∧ ∀ b ∈ body, b.Valid
  | plain body => body.Valid
  | file text => text ≠ "" ∧ ∀ mark ∈ ["@", "//", ":"], ¬mark.toList <+: text.toList

def workspace : Form → String
  | external workspace _ => workspace
  | _ => ""

def body? : Form → Option Body
  | external _ body => body
  | plain body => some body
  | file _ => none

/-- Of a file path, the stretches between slashes, empty ones included. -/
def package : Form → PackagePath
  | file text => (text.toList.splitOn '/').map String.ofList
  | f => (f.body?.map Body.package).getD []

def name (f : Form) : String := (f.body?.map Body.name).getD ""

/-- A text has a form when it is what a well-made form stands for. -/
def Spells (f : Form) (text : String) : Prop := f.Valid ∧ f.text = text

/-- A label has the parts of a form and says of which kind the form is. -/
structure Describes (f : Form) (l : Label) : Prop where
  workspace : l.workspace = f.workspace
  package : l.packagePath = f.package
  name : l.name = f.name
  isFile : l.isFile = true ↔ ∃ text, f = file text
  isHere : l.isHere = true ↔ f.workspace = "" ∧ ∃ name, f.body? = some (.colon name)

def label : Form → Label
  | external workspace none => .absolute workspace [] ""
  | external workspace (some body) => body.label workspace
  | plain body => body.label ""
  | file text => .file (segments text.toList)

theorem describes_label (f : Form) : f.Describes f.label := by
  by_cases hw : f.workspace = "" <;>
    rcases f with ⟨ws, _ | ⟨p, n⟩ | n⟩ | (⟨p, n⟩ | n) | text <;>
    constructor <;>
    simp_all [label, Body.label, Label.workspace, packagePath, Label.name, isFile, isHere,
      workspace, package, name, body?, Body.package, Body.name, segments]

end Form

/-! ## Segments -/

section segments
variable {cs : List Char} {path path' : PackagePath} {name : String} {c : Char}

theorem mem_joined_iff (hc : c ≠ '/') :
    c ∈ path.joined.toList ↔ ∃ s ∈ path, c ∈ s.toList := by
  induction path with
  | nil => simp [PackagePath.joined]
  | cons s path ih =>
    cases path with
    | nil => simp [PackagePath.joined]
    | cons t path =>
      rw [PackagePath.joined] at ih
      rw [PackagePath.joined, String.intercalate_cons_cons, String.toList_append,
        String.toList_append, List.mem_append, ih, List.mem_append]
      simp [hc]

theorem joined_segments (cs : List Char) : (PackagePath.joined (segments cs)).toList = cs := by
  have hmap : (segments cs).map String.toList = cs.splitOn '/' := by
    simp [segments, Function.comp_def]
  rw [PackagePath.joined, String.toList_intercalate, hmap]
  exact List.intercalate_splitOn '/'

theorem segments_joined (hne : path ≠ []) (h : ∀ s ∈ path, '/' ∉ s.toList) :
    segments path.joined.toList = path := by
  have hsplit : (['/'].intercalate (path.map String.toList)).splitOn '/' =
      path.map String.toList :=
    List.splitOn_intercalate '/' (by simpa using h) (by simpa using hne)
  rw [segments, PackagePath.joined, String.toList_intercalate]
  exact (congrArg (List.map String.ofList) hsplit).trans (by simp [Function.comp_def])

theorem noSlash_of_mem_segments {s : String} (h : s ∈ segments cs) : '/' ∉ s.toList := by
  obtain ⟨w, hw, rfl⟩ := List.mem_map.mp h
  simpa using Text.not_mem_of_mem_splitOn hw

/-- The test that packages and names are put to. -/
theorem isPath_segments_iff :
    IsPath (segments cs) ↔ ':' ∉ cs ∧ (cs.splitOn '/').any List.isEmpty = false := by
  have hcolon : ':' ∉ cs ↔ ∀ s ∈ segments cs, ':' ∉ s.toList := by
    rw [← not_iff_not, not_not, ← joined_segments cs, mem_joined_iff (c := ':') (by decide),
      joined_segments]
    simp
  have hempty : (cs.splitOn '/').any List.isEmpty = false ↔ ∀ s ∈ segments cs, s ≠ "" := by
    simp [segments, String.ofList_eq_empty_iff]
  rw [hcolon, hempty]
  constructor
  · exact fun h => ⟨fun s hs => (h s hs).noColon, fun s hs => (h s hs).ne_empty⟩
  · exact fun h s hs => ⟨h.2 s hs, noSlash_of_mem_segments hs, h.1 s hs⟩

theorem IsPath.joined_eq_empty (h : IsPath path) (he : path.joined = "") : path = [] := by
  cases path with
  | nil => rfl
  | cons s rest =>
    have hs := (h s List.mem_cons_self).ne_empty
    cases rest <;> simp_all [PackagePath.joined]

theorem IsPath.noColon (h : IsPath path) : ':' ∉ path.joined.toList := by
  rw [mem_joined_iff (by decide)]
  rintro ⟨s, hs, hc⟩
  exact (h s hs).noColon hc

theorem IsPath.segments_joined (h : IsPath path) (hne : path ≠ []) :
    segments path.joined.toList = path :=
  Label.segments_joined hne fun s hs => (h s hs).noSlash

theorem IsName.ne_empty (h : IsName name) : name ≠ "" := by
  obtain ⟨path, hne, hp, rfl⟩ := h
  exact fun he => hne (hp.joined_eq_empty he)

theorem readPackage_eq_ok_iff (hc : ':' ∉ cs) :
    readPackage cs = .ok path ↔ IsPath path ∧ path.joined.toList = cs := by
  unfold readPackage
  split
  · rename_i hcs
    subst hcs
    constructor
    · intro h
      cases h
      exact ⟨fun s hs => absurd hs List.not_mem_nil, rfl⟩
    · rintro ⟨hp, he⟩
      rw [hp.joined_eq_empty (String.toList_injective he)]
  · rename_i hcs
    constructor
    · intro h
      split at h
      · cases h
      · rename_i hany
        cases h
        exact ⟨isPath_segments_iff.mpr ⟨hc, Bool.eq_false_iff.mpr hany⟩, joined_segments cs⟩
    · rintro ⟨hp, rfl⟩
      have hne : path ≠ [] := by
        rintro rfl
        exact hcs rfl
      have hs := hp.segments_joined hne
      have hany := (isPath_segments_iff.mp (hs ▸ hp)).2
      rw [if_neg (by simp [hany]), hs]

theorem readName_eq_ok_iff (hne : cs ≠ []) :
    readName cs = .ok name ↔ IsName name ∧ name.toList = cs := by
  constructor
  · intro h
    unfold readName at h
    split at h
    · cases h
    · rename_i hc
      split at h
      · cases h
      · rename_i hany
        cases h
        have hp : IsPath (segments cs) :=
          isPath_segments_iff.mpr ⟨hc, Bool.eq_false_iff.mpr fun hb => hany ⟨hne, hb⟩⟩
        refine ⟨⟨segments cs, by simp [segments], hp, ?_⟩, String.toList_ofList⟩
        exact String.toList_injective (by rw [joined_segments, String.toList_ofList])
  · rintro ⟨⟨path, hpath, hp, rfl⟩, rfl⟩
    have hany := (isPath_segments_iff.mp (hp.segments_joined hpath ▸ hp)).2
    rw [readName, if_neg hp.noColon, if_neg (by simp [hany]), String.ofList_toList]

end segments

/-! ## Bodies -/

section bodies
variable {cs : List Char} {l : Label} {workspace : String} {package : PackagePath}
  {name : Option String} {b b' : Body}

/-- What follows the slashes is cut at the colon in front of the name. -/
theorem Body.exists_absolute_text (h : (absolute package name).Valid) :
    ∃ rest, (absolute package name).text.toList = '/' :: '/' :: rest ∧
      Text.cutAt ':' rest = name.map fun n => (package.joined.toList, n.toList) := by
  cases name with
  | none =>
    refine ⟨package.joined.toList, by simp [text], ?_⟩
    exact Text.cutAt_eq_none_iff.mpr h.1.noColon
  | some n =>
    refine ⟨package.joined.toList ++ ':' :: n.toList, by simp [text], ?_⟩
    exact Text.cutAt_append h.1.noColon

theorem Body.text_colon (n : String) : (colon n).text.toList = ':' :: n.toList := by
  simp [text]

theorem readAbsolute_of_valid (h : (Body.absolute package name).Valid)
    (ht : (Body.absolute package name).text.toList = '/' :: '/' :: cs) :
    readAbsolute workspace cs = .ok ((Body.absolute package name).label workspace) := by
  obtain ⟨rest, hrest, hcut⟩ := Body.exists_absolute_text h
  obtain rfl : cs = rest := by
    rw [hrest] at ht
    injection ht with _ ht
    injection ht with _ ht
    exact ht.symm
  have hp := (readPackage_eq_ok_iff h.1.noColon).mpr ⟨h.1, rfl⟩
  cases name with
  | none =>
    have hcs : cs = package.joined.toList := by simpa [Body.text] using hrest.symm
    simp only [readAbsolute, hcut, Option.map_none]
    rw [hcs, hp]
    rfl
  | some n =>
    have hn := h.2 n rfl
    have hne : n.toList ≠ [] := by simpa using hn.ne_empty
    obtain ⟨c, after, hafter⟩ := List.exists_cons_of_ne_nil hne
    have hname : readName (c :: after) = .ok n :=
      (readName_eq_ok_iff (by simp)).mpr ⟨hn, hafter⟩
    simp only [readAbsolute, hcut, Option.map_some, hafter, hp, hname]
    rfl

theorem exists_body_of_readAbsolute (h : readAbsolute workspace cs = .ok l) :
    ∃ b : Body, b.Valid ∧ b.text.toList = '/' :: '/' :: cs ∧ b.label workspace = l := by
  unfold readAbsolute at h
  split at h
  · cases h
  · rename_i before after hne hcut
    obtain ⟨hb, rfl⟩ := Text.cutAt_eq_some_iff.mp hcut
    obtain ⟨p, hp, h⟩ := exists_of_bind_eq_ok h
    obtain ⟨n, hn, h⟩ := exists_of_bind_eq_ok h
    cases h
    obtain ⟨hpath, rfl⟩ := (readPackage_eq_ok_iff hb).mp hp
    obtain ⟨hname, rfl⟩ := (readName_eq_ok_iff hne).mp hn
    exact ⟨.absolute p (some n), ⟨hpath, by simpa using hname⟩, by simp [Body.text], rfl⟩
  · rename_i hcut
    have hc := Text.cutAt_eq_none_iff.mp hcut
    obtain ⟨p, hp, h⟩ := exists_of_bind_eq_ok h
    cases h
    obtain ⟨hpath, rfl⟩ := (readPackage_eq_ok_iff hc).mp hp
    exact ⟨.absolute p none, ⟨hpath, by simp⟩, by simp [Body.text], rfl⟩

theorem readColon_eq_ok_iff :
    readColon workspace cs = .ok l ↔
      ∃ n, IsName n ∧ n.toList = cs ∧ (Body.colon n).label workspace = l := by
  unfold readColon
  split
  · rename_i hcs
    constructor
    · intro h
      cases h
    · rintro ⟨n, hn, ht, _⟩
      exact absurd (String.toList_eq_nil_iff.mp (ht.trans hcs)) hn.ne_empty
  · rename_i hcs
    constructor
    · intro h
      obtain ⟨n, hr, h⟩ := exists_of_bind_eq_ok h
      cases h
      obtain ⟨hn, ht⟩ := (readName_eq_ok_iff hcs).mp hr
      exact ⟨n, hn, ht, rfl⟩
    · rintro ⟨n, hn, ht, rfl⟩
      rw [(readName_eq_ok_iff hcs).mpr ⟨hn, ht⟩]
      rfl

/-- A body is told from its text. -/
theorem Body.text_injective (h : b.Valid) (h' : b'.Valid) (ht : b.text = b'.text) : b = b' := by
  have hl := congrArg String.toList ht
  cases b with
  | absolute p n =>
    obtain ⟨rest, hrest, _⟩ := exists_absolute_text h
    cases b' with
    | absolute p' n' =>
      -- One text is read as one label, which has all parts but an absent name.
      have hread : readAbsolute "" rest = _ := readAbsolute_of_valid h hrest
      have hread' : readAbsolute "" rest = _ := readAbsolute_of_valid h' (hl ▸ hrest)
      have hlabel := Except.ok.inj (hread.symm.trans hread')
      simp only [label, Label.absolute.injEq, true_and] at hlabel
      obtain ⟨rfl, hname⟩ := hlabel
      cases n with
      | none =>
        cases n' with
        | none => rfl
        | some n' => exact absurd hname.symm (h'.2 n' rfl).ne_empty
      | some n =>
        cases n' with
        | none => exact absurd hname (h.2 n rfl).ne_empty
        | some n' => exact congrArg _ (congrArg some hname)
    | colon n' => simp [hrest, text_colon] at hl
  | colon n =>
    cases b' with
    | absolute p' n' =>
      obtain ⟨rest', hrest', _⟩ := exists_absolute_text h'
      simp [hrest', text_colon] at hl
    | colon n' =>
      rw [text_colon, text_colon] at hl
      injection hl with _ hl
      rw [String.toList_injective hl]

end bodies

/-! ## Whole labels -/

section forms
variable {cs rest : List Char} {l : Label} {ws : String} {f g : Form} {b : Body}
  {text : String}

/-- Where a workspace may end. -/
inductive Stop : List Char → Prop where
  | nil : Stop []
  | colon (cs : List Char) : Stop (':' :: cs)
  | slashes (cs : List Char) : Stop ('/' :: '/' :: cs)

theorem Body.stop (h : b.Valid) : Stop b.text.toList := by
  cases b with
  | absolute p n =>
    obtain ⟨rest, hrest, _⟩ := exists_absolute_text h
    exact hrest ▸ .slashes rest
  | colon n => exact text_colon n ▸ .colon _

theorem spanWorkspace_append (h : IsWorkspace ws) (hs : Stop rest) :
    spanWorkspace (ws.toList ++ rest) = (ws.toList, rest) := by
  obtain ⟨hslash, hcolon⟩ := h
  generalize ws.toList = cs at hslash hcolon
  induction cs with
  | nil => cases hs <;> simp [spanWorkspace]
  | cons c cs ih =>
    simp only [List.mem_cons, not_or] at hslash hcolon
    have hi := ih hslash.2 hcolon.2
    rw [List.cons_append, spanWorkspace]
    · rw [hi]
    · rintro rfl
      exact absurd rfl hcolon.1
    · rintro _ rfl
      exact absurd rfl hslash.1

theorem spanWorkspace_spec (cs : List Char) :
    cs = (spanWorkspace cs).1 ++ (spanWorkspace cs).2 ∧ ':' ∉ (spanWorkspace cs).1 ∧
      Stop (spanWorkspace cs).2 := by
  fun_induction spanWorkspace cs with
  | case1 => exact ⟨rfl, by simp, .nil⟩
  | case2 cs => exact ⟨rfl, by simp, .colon cs⟩
  | case3 cs => exact ⟨rfl, by simp, .slashes cs⟩
  | case4 c cs hcolon hslash ih =>
    obtain ⟨heq, hc, hs⟩ := ih
    refine ⟨congrArg (c :: ·) heq, ?_, hs⟩
    simp only [List.mem_cons, not_or]
    exact ⟨fun e => hcolon e.symm, hc⟩

theorem Form.text_external (ws : String) (body : Option Body) :
    (external ws body).text.toList =
      '@' :: (ws.toList ++ ((body.map Body.text).getD "").toList) := by simp [text]

theorem Form.spanWorkspace_external {body : Option Body} (h : (external ws body).Valid) :
    spanWorkspace (ws.toList ++ ((body.map Body.text).getD "").toList) =
      (ws.toList, ((body.map Body.text).getD "").toList) := by
  obtain ⟨hws, _, hb⟩ := h
  refine spanWorkspace_append hws ?_
  cases body with
  | none => exact .nil
  | some b => exact Body.stop (hb b rfl)

theorem Form.valid_file_iff : (file text).Valid ↔ text.toList ≠ [] ∧
    ∀ cs, text.toList ≠ '@' :: cs ∧ text.toList ≠ '/' :: '/' :: cs ∧
      text.toList ≠ ':' :: cs := by
  have hmark : ∀ mark : List Char, ¬mark <+: text.toList ↔ ∀ cs, text.toList ≠ mark ++ cs :=
    fun mark => by simp [List.IsPrefix, eq_comm]
  simp [Valid, hmark, forall_and]

theorem readChars_of_valid (h : f.Valid) : readChars f.text.toList = .ok f.label := by
  cases f with
  | external ws body =>
    have hspan := Form.spanWorkspace_external h
    obtain ⟨hws, hne, hb⟩ := h
    rw [Form.text_external, readChars, hspan, if_neg hws.noSlash, String.ofList_toList]
    cases body with
    | none => simp [Form.label, hne rfl]
    | some b =>
      have hv := hb b rfl
      cases b with
      | absolute p n =>
        obtain ⟨rest, hrest, _⟩ := Body.exists_absolute_text hv
        simp only [Option.map_some, Option.getD_some, hrest]
        exact readAbsolute_of_valid hv hrest
      | colon n =>
        simp only [Option.map_some, Option.getD_some, Body.text_colon]
        exact readColon_eq_ok_iff.mpr ⟨n, hv, rfl, rfl⟩
  | plain b =>
    cases b with
    | absolute p n =>
      obtain ⟨rest, hrest, _⟩ := Body.exists_absolute_text h
      rw [Form.text, hrest]
      exact readAbsolute_of_valid h hrest
    | colon n =>
      rw [Form.text, Body.text_colon]
      exact readColon_eq_ok_iff.mpr ⟨n, h, rfl, rfl⟩
  | file text =>
    obtain ⟨hne, hmark⟩ := Form.valid_file_iff.mp h
    rw [Form.text, readChars]
    · rfl
    · exact hne
    · exact fun cs => (hmark cs).1
    · exact fun cs => (hmark cs).2.1
    · exact fun cs => (hmark cs).2.2

theorem exists_form_of_readChars (h : readChars cs = .ok l) :
    ∃ f : Form, f.Valid ∧ f.text.toList = cs ∧ f.label = l := by
  unfold readChars at h
  split at h
  · cases h
  · rename_i cs
    obtain ⟨hcs, hcolon, hstop⟩ := spanWorkspace_spec cs
    generalize spanWorkspace cs = span at h hcs hcolon hstop
    obtain ⟨workspace, rest⟩ := span
    subst hcs
    split at h
    · cases h
    · rename_i hslash
      have hws : IsWorkspace (String.ofList workspace) := ⟨by simpa, by simpa⟩
      -- What the scan leaves decides what is read next.
      cases hstop with
      | nil =>
        simp only at h
        split at h
        · cases h
        · rename_i hne
          cases h
          exact ⟨.external _ none, ⟨hws, fun _ => hne, by simp⟩, by simp [Form.text], rfl⟩
      | colon cs =>
        obtain ⟨n, hn, rfl, hl⟩ := readColon_eq_ok_iff.mp h
        refine ⟨.external _ (some (.colon n)), ⟨hws, by simp, ?_⟩, ?_, hl⟩
        · simpa [Body.Valid] using hn
        · simp [Form.text, Body.text]
      | slashes cs =>
        obtain ⟨b, hv, ht, hl⟩ := exists_body_of_readAbsolute h
        refine ⟨.external _ (some b), ⟨hws, by simp, ?_⟩, ?_, hl⟩
        · simpa using hv
        · simp [Form.text, ht]
  · rename_i cs
    obtain ⟨b, hv, ht, hl⟩ := exists_body_of_readAbsolute h
    exact ⟨.plain b, hv, ht, hl⟩
  · rename_i cs
    obtain ⟨n, hn, rfl, hl⟩ := readColon_eq_ok_iff.mp h
    exact ⟨.plain (.colon n), hn, Body.text_colon n, hl⟩
  · rename_i hne hat hslashes hcolon
    cases h
    refine ⟨.file (String.ofList cs), Form.valid_file_iff.mpr ?_, by simp [Form.text],
      by simp [Form.label]⟩
    rw [String.toList_ofList]
    exact ⟨hne, fun cs => ⟨hat cs, hslashes cs, hcolon cs⟩⟩

theorem Body.text_ne_empty (b : Body) : b.text ≠ "" := by
  rcases b with ⟨p, _ | n⟩ | n <;> simp [text, String.append_eq_empty_iff]

theorem Stop.ne_at (h : Stop cs) (rest : List Char) : '@' :: rest ≠ cs := by
  cases h <;> simp

theorem Form.not_stop_of_file (h : (file text).Valid) : ¬Stop text.toList := by
  obtain ⟨hne, hmark⟩ := valid_file_iff.mp h
  intro hs
  generalize text.toList = cs at hne hmark hs
  cases hs with
  | nil => exact hne rfl
  | colon cs => exact (hmark cs).2.2 rfl
  | slashes cs => exact (hmark cs).2.1 rfl

/-- A text stands for one form at most. -/
theorem Form.text_injective (h : f.Valid) (h' : g.Valid) (ht : f.text = g.text) : f = g := by
  have hl := congrArg String.toList ht
  cases f with
  | external ws body =>
    rw [text_external] at hl
    cases g with
    | external ws' body' =>
      rw [text_external] at hl
      injection hl with _ hl
      -- Both texts are cut where the one scan stops.
      have hspan := spanWorkspace_external h
      rw [hl, spanWorkspace_external h'] at hspan
      obtain ⟨hws, hrest⟩ := Prod.mk.inj hspan
      obtain rfl := String.toList_injective hws
      have hbody := String.toList_injective hrest
      cases body with
      | none =>
        cases body' with
        | none => rfl
        | some b' => exact absurd hbody b'.text_ne_empty
      | some b =>
        cases body' with
        | none => exact absurd hbody.symm b.text_ne_empty
        | some b' => rw [Body.text_injective (h.2.2 b rfl) (h'.2.2 b' rfl) hbody.symm]
    | plain b' => exact absurd hl ((Body.stop h').ne_at _)
    | file text' => exact absurd hl.symm ((valid_file_iff.mp h').2 _).1
  | plain b =>
    cases g with
    | external ws' body' =>
      rw [text_external] at hl
      exact absurd hl.symm ((Body.stop h).ne_at _)
    | plain b' => rw [Body.text_injective h h' ht]
    | file text' =>
      have ht : b.text = text' := ht
      exact absurd (ht ▸ Body.stop h) (not_stop_of_file h')
  | file text =>
    cases g with
    | external ws' body' =>
      rw [text_external] at hl
      exact absurd hl ((valid_file_iff.mp h).2 _).1
    | plain b' =>
      have ht : text = b'.text := ht
      exact absurd (ht ▸ Body.stop h') (not_stop_of_file h)
    | file text' => exact congrArg file ht

theorem parse_of_spells (h : f.Spells text) : parse text = .ok f.label := by
  obtain ⟨hv, rfl⟩ := h
  simp [parse, readChars_of_valid hv, Except.mapError]

theorem exists_spells_of_parse (h : parse text = .ok l) :
    ∃ f : Form, f.Spells text ∧ f.label = l := by
  cases hr : readChars text.toList with
  | error e => simp [parse, hr, Except.mapError] at h
  | ok m =>
    simp only [parse, hr, Except.mapError] at h
    cases h
    obtain ⟨f, hv, ht, hl⟩ := exists_form_of_readChars hr
    exact ⟨f, ⟨hv, String.toList_injective ht⟩, hl⟩

/-- Reading accepts the texts of the grammar and no other, finds the parts of the one form
behind a text, and hands back a text without a form as it is. -/
theorem parse_accepts_forms (text : String) :
    ((∃ l, parse text = .ok l) ↔ ∃ f : Form, f.Spells text) ∧
      (∀ l, parse text = .ok l → ∃ f : Form, f.Spells text ∧ f.Describes l ∧
        ∀ g : Form, g.Spells text → g = f) ∧
      ∀ e, parse text = .error e → ∃ defect, e = .labelSyntax text defect := by
  refine ⟨⟨?_, ?_⟩, ?_, ?_⟩
  · rintro ⟨l, hl⟩
    obtain ⟨f, hf, _⟩ := exists_spells_of_parse hl
    exact ⟨f, hf⟩
  · rintro ⟨f, hf⟩
    exact ⟨_, parse_of_spells hf⟩
  · intro l hl
    obtain ⟨f, hf, rfl⟩ := exists_spells_of_parse hl
    refine ⟨f, hf, f.describes_label, fun g hg => ?_⟩
    exact Form.text_injective hg.1 hf.1 (hg.2.trans hf.2.symm)
  · intro e he
    cases hr : readChars text.toList with
    | error defect =>
      simp only [parse, hr, Except.mapError] at he
      cases he
      exact ⟨defect, rfl⟩
    | ok l => simp [parse, hr, Except.mapError] at he

end forms

end Label

end BuildAtlas
