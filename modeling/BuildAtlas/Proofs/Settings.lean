import BuildAtlas.Settings
import Mathlib.Data.Int.Init
import Mathlib.Data.Option.Basic

/-! # The keys of the settings

Each key of the group has a field of its own and takes some values and not others. Settings that
are read have in every field a value that the key of the field takes: the one that stands under the
key in the group, or else the default. What stands under one key shows in no field of another.
-/
namespace BuildAtlas

theorem Json.get?_eq_none_iff {j : Json} {key : String} :
    j.get? key = none ↔ ∀ fields, j = .object fields → ∀ v, (key, v) ∉ fields := by
  cases j with
  | object fields =>
    rw [get?, Option.map_eq_none_iff, List.getLast?_eq_none_iff, List.filter_eq_nil_iff]
    constructor
    · rintro h _ hfields v hmem
      obtain rfl := Json.object.inj hfields
      exact h (key, v) hmem (beq_self_eq_true key)
    · rintro h ⟨other, v⟩ hmem hother
      obtain rfl : other = key := eq_of_beq hother
      exact h fields rfl v hmem
  | _ => simp [get?]

namespace Settings

def defaults : Settings := {}

/-- A text that shows something and does without NUL. -/
structure Usable (text : String) : Prop where
  shown : ∃ c ∈ text.toList, Text.isBlank c = false
  noNul : '\x00' ∉ text.toList

inductive Key where
  | executable
  | targetQuery
  | sourceQuery
  | buildFileName
  | errorMarker
  | queryTimeoutMs
  | refreshIntervalSecs
  deriving DecidableEq

namespace Key

def name : Key → String
  | executable => "executable"
  | targetQuery => "targetQuery"
  | sourceQuery => "sourceQuery"
  | buildFileName => "buildFileName"
  | errorMarker => "errorMarker"
  | queryTimeoutMs => "queryTimeoutMs"
  | refreshIntervalSecs => "refreshIntervalSecs"

/-- The field of a key, as a value that can stand under the key. -/
def field : Key → Settings → Json
  | executable, s => .string s.executable
  | targetQuery, s => .string s.targetQuery
  | sourceQuery, s => .string s.sourceQuery
  | buildFileName, s => .string s.buildFileName
  | errorMarker, s => .string s.errorMarker
  | queryTimeoutMs, s => .ofNat s.queryTimeoutMs
  | refreshIntervalSecs, s => .ofNat s.refreshIntervalSecs

/-- The values that are acceptable for a key. Numbers are those of 64 bits without a sign. -/
def Takes : Key → Json → Prop
  | queryTimeoutMs, v | refreshIntervalSecs, v => ∃ n : Nat, v = .integer n ∧ n < UInt64.size
  | buildFileName, v => ∃ text, v = .string text ∧ Usable text ∧ '/' ∉ text.toList
  | _, v => ∃ text, v = .string text ∧ Usable text

def test : Key → Json → Bool
  | queryTimeoutMs, v | refreshIntervalSecs, v => v.natural?.isSome
  | buildFileName, v => v.string?.any fun text => isUsable text && isFileName text
  | _, v => v.string?.any isUsable

end Key

/-- Two groups that differ under one key at most. -/
def AgreeBut (name : String) (group group' : Json) : Prop :=
  ∀ other, other ≠ name → group.get? other = group'.get? other

/-- How settings come from what an editor sends. -/
structure ReadByKeys (read : Json → Option Settings) : Prop where
  absent : ∀ j, read j = none ↔
    ∀ members, j = .object members → ∀ group, ("bazel", group) ∉ members
  usable : ∀ j s, read j = some s → ∀ key : Key, key.Takes (key.field s)
  given : ∀ j s group, read j = some s → j.get? "bazel" = some group →
    ∀ (key : Key) v, group.get? key.name = some v → key.Takes v → key.field s = v
  missing : ∀ j s group, read j = some s → j.get? "bazel" = some group →
    ∀ key : Key, (∀ v, group.get? key.name = some v → ¬ key.Takes v) →
      key.field s = key.field defaults
  apart : ∀ j s group j' s' group' name,
    read j = some s → j.get? "bazel" = some group →
    read j' = some s' → j'.get? "bazel" = some group' → AgreeBut name group group' →
      (∀ key : Key, key.name ≠ name → key.field s = key.field s') ∧
      ((∀ key : Key, key.name ≠ name) → s = s')

variable {j group group' v : Json} {s s' : Settings} {key : Key} {o : Option Json}
  {d text name : String} {p : String → Bool}

/-! ## Values -/

theorem any_string?_iff : v.string?.any p = true ↔ ∃ text, v = .string text ∧ p text = true := by
  cases v <;> simp [Json.string?]

theorem isSome_natural?_iff :
    v.natural?.isSome = true ↔ ∃ n : Nat, v = .integer n ∧ n < UInt64.size := by
  constructor
  · intro h
    cases v with
    | integer n =>
      cases n with
      | ofNat n =>
        refine ⟨n, rfl, ?_⟩
        by_contra hn
        rw [Json.natural?, if_neg hn] at h
        cases h
      | negSucc n => cases h
    | _ => cases h
  · rintro ⟨n, rfl, hn⟩
    exact Option.isSome_of_eq_some (if_pos hn)

theorem isUsable_iff : isUsable text = true ↔ Usable text := by
  constructor
  · intro h
    have hboth : (∃ c ∈ text.toList, Text.isBlank c = false) ∧ '\x00' ∉ text.toList := by
      simpa [isUsable, Text.allBlank] using h
    exact ⟨hboth.1, hboth.2⟩
  · rintro ⟨hshown, hnul⟩
    simp [isUsable, Text.allBlank, hshown, hnul]

theorem Key.test_iff : key.test v = true ↔ key.Takes v := by
  cases key with
  | queryTimeoutMs | refreshIntervalSecs => exact isSome_natural?_iff
  | buildFileName =>
    rw [test, any_string?_iff, Takes]
    refine exists_congr fun text => and_congr_right fun _ => ?_
    rw [Bool.and_eq_true, isUsable_iff]
    simp [isFileName]
  | _ =>
    refine any_string?_iff.trans (exists_congr fun text => and_congr_right fun _ => ?_)
    exact isUsable_iff

/-! ## Fields -/

theorem string_getD : Json.string (((o.bind Json.string?).filter p).getD d) =
    (o.filter fun v => v.string?.any p).getD (.string d) := by
  rcases o with _ | v
  · rfl
  · cases v with
    | string text => cases hp : p text <;> simp [Json.string?, Option.filter, hp]
    | _ => rfl

theorem ofNat_getD : Json.ofNat ((o.bind Json.natural?).getD 0) =
    (o.filter fun v => v.natural?.isSome).getD (.ofNat 0) := by
  rcases o with _ | v
  · rfl
  · cases hn : v.natural? with
    | none => simp [Option.filter, hn]
    | some n =>
      obtain ⟨m, rfl, hm⟩ := isSome_natural?_iff.mp (Option.isSome_of_eq_some hn)
      obtain rfl : m = n := Option.some.inj ((if_pos hm).symm.trans hn)
      simp [Option.filter, hn, Json.ofNat]

theorem field_ofGroup (group : Json) (key : Key) : key.field (ofGroup group) =
    ((group.get? key.name).filter key.test).getD (key.field defaults) := by
  cases key with
  | queryTimeoutMs | refreshIntervalSecs => exact ofNat_getD
  | buildFileName =>
    -- the one key with a second test, which warns and is not folded into the first
    have hboth : (text? group "buildFileName").filter isFileName =
        ((group.get? "buildFileName").bind Json.string?).filter
          fun text => isUsable text && isFileName text := by
      rw [text?, Option.filter_filter]
    exact (congrArg (fun found => Json.string (found.getD "BUILD")) hboth).trans string_getD
  | _ => exact string_getD

theorem takes_defaults (key : Key) : key.Takes (key.field defaults) := by
  apply Key.test_iff.mp
  cases key <;> decide +kernel

theorem eq_of_field (h : ∀ key : Key, key.field s = key.field s') : s = s' := by
  have hnumber : ∀ {m n : Nat}, Json.ofNat m = .ofNat n → m = n :=
    fun hmn => Int.ofNat.inj (Json.integer.inj hmn)
  cases s
  cases s'
  congr
  · exact Json.string.inj (h .executable)
  · exact Json.string.inj (h .targetQuery)
  · exact Json.string.inj (h .sourceQuery)
  · exact Json.string.inj (h .buildFileName)
  · exact Json.string.inj (h .errorMarker)
  · exact hnumber (h .queryTimeoutMs)
  · exact hnumber (h .refreshIntervalSecs)

theorem field_eq_of_agreeBut (h : AgreeBut name group group') (hkey : key.name ≠ name) :
    key.field (ofGroup group) = key.field (ofGroup group') := by
  rw [field_ofGroup, field_ofGroup, h key.name hkey]

/-! ## Reading -/

theorem eq_ofGroup_of_ofJson? (h : ofJson? j = some s) (hgroup : j.get? "bazel" = some group) :
    s = ofGroup group := by
  rw [ofJson?, group?, hgroup, Option.map_some] at h
  exact (Option.some.inj h).symm

/-- Settings are read one key at a time, and all that is read can be used. -/
theorem ofJson_reads_by_keys : ReadByKeys ofJson? where
  absent j := Option.map_eq_none_iff.trans Json.get?_eq_none_iff
  usable j s h key := by
    obtain ⟨group, -, rfl⟩ := Option.map_eq_some_iff.mp h
    rw [field_ofGroup]
    cases hfound : (group.get? key.name).filter key.test with
    | none => exact takes_defaults key
    | some v => exact Key.test_iff.mp (Option.filter_eq_some_iff.mp hfound).2
  given j s group h hgroup key v hv htakes := by
    rw [eq_ofGroup_of_ofJson? h hgroup, field_ofGroup, hv,
      Option.filter_some_pos (Key.test_iff.mpr htakes), Option.getD_some]
  missing j s group h hgroup key hnone := by
    have hfound : (group.get? key.name).filter key.test = none := by
      rw [Option.filter_eq_none_iff]
      intro v hv htest
      exact hnone v hv (Key.test_iff.mp htest)
    rw [eq_ofGroup_of_ofJson? h hgroup, field_ofGroup, hfound, Option.getD_none]
  apart j s group j' s' group' name h hgroup h' hgroup' hagree := by
    obtain rfl := eq_ofGroup_of_ofJson? h hgroup
    obtain rfl := eq_ofGroup_of_ofJson? h' hgroup'
    have hfield : ∀ key : Key, key.name ≠ name →
        key.field (ofGroup group) = key.field (ofGroup group') :=
      fun key hkey => field_eq_of_agreeBut hagree hkey
    exact ⟨hfield, fun hunknown => eq_of_field fun key => hfield key (hunknown key)⟩

end Settings

end BuildAtlas
