import BuildAtlas.Proofs.Workspace.Clearing
import BuildAtlas.Proofs.Workspace.Contents

/-! # What clearing erases

No descent from the root meets a loose slot, so the loop that frees the loose slots changes
nothing that is found by a path. What a clearing erases is therefore decided when the node is
emptied: its own package, and all that is found under the longer paths.
-/
namespace BuildAtlas.Workspace
variable {w w' : Workspace} {loose stack stack' : List Slot} {s t : Slot}
  {base path : PackagePath} {n : Node}

/-! ## The loop -/

namespace Forest

theorem find_ne_loose (h : w.Forest loose) (hs : s ∈ loose) : w.find path ≠ some s := by
  intro hf
  rcases List.eq_nil_or_concat path with rfl | ⟨above, name, rfl⟩
  · exact h.loose_ne_root hs (Option.some.inj hf).symm
  · rw [List.concat_eq_append] at hf
    obtain ⟨a, _, hold⟩ := h.find_concat_iff.mp hf
    exact h.loose_top s hs a name hold

theorem find_freeSlot (h : w.Forest (s :: loose)) (path : PackagePath) :
    (w.freeSlot s).find path = w.find path := by
  have hroot : rootSlot ≠ s := (h.loose_ne_root List.mem_cons_self).symm
  apply Option.ext
  intro t
  constructor
  · refine findFrom_transfer (fun _ => True) (fun a name c _ hc => ⟨?_, trivial⟩) trivial
    rw [child?_freeSlot] at hc
    split at hc
    · cases hc
    · exact hc
  · refine findFrom_transfer (· ≠ s) (fun a name c ha hc => ⟨?_, ?_⟩) hroot
    · rw [child?_freeSlot, if_neg ha, hc]
    · rintro rfl
      exact h.loose_top c List.mem_cons_self a name (holds_of_child? hc)

theorem nodeAt_freeSlot (h : w.Forest (s :: loose)) (path : PackagePath) :
    (w.freeSlot s).nodeAt path = w.nodeAt path := by
  rw [nodeAt, nodeAt, h.find_freeSlot]
  refine Option.bind_congr fun t ht => ?_
  rw [node?_freeSlot, if_neg]
  rintro rfl
  exact h.find_ne_loose List.mem_cons_self ht

end Forest

theorem Frees.find_eq (hf : Frees w stack w' stack') (h : w.Forest stack)
    (path : PackagePath) : w'.find path = w.find path := by
  induction hf with
  | refl => rfl
  | skip hs _ _ => exact absurd hs h.top_live
  | free hs _ ih => rw [ih (h.freeSlot hs), h.find_freeSlot]

theorem Frees.nodeAt_eq (hf : Frees w stack w' stack') (h : w.Forest stack)
    (path : PackagePath) : w'.nodeAt path = w.nodeAt path := by
  induction hf with
  | refl => rfl
  | skip hs _ _ => exact absurd hs h.top_live
  | free hs _ ih => rw [ih (h.freeSlot hs), h.nodeAt_freeSlot]

/-! ## Emptying the node -/

namespace Forest

theorem find_emptied (h : w.Forest []) (hs : w.find base = some s) (path : PackagePath) :
    (w.emptied s).find path = if base <+: path ∧ path ≠ base then none else w.find path := by
  induction path using List.reverseRecOn with
  | nil =>
    rw [if_neg fun hb => hb.2 (List.prefix_nil.mp hb.1).symm]
    rfl
  | append_singleton above name ih =>
    rw [find_concat, find_concat, ih]
    by_cases hp : base <+: above
    · -- below the emptied node: either the path ended before, or the child is cut
      have hb : base <+: above ++ [name] ∧ above ++ [name] ≠ base := by
        refine ⟨hp.trans (List.prefix_append _ _), ?_⟩
        rintro rfl
        have hlen := hp.length_le
        rw [List.length_append, List.length_singleton] at hlen
        omega
      rw [if_pos hb]
      by_cases he : above = base
      · subst he
        simp [hs, child?_emptied]
      · simp [hp, he]
    · have hb : ¬(base <+: above ++ [name] ∧ above ++ [name] ≠ base) := by
        rintro ⟨hb, hne⟩
        exact (List.prefix_concat_iff.mp hb).elim (fun he => hne he.symm) hp
      rw [if_neg fun hb => hp hb.1, if_neg hb]
      refine Option.bind_congr fun a ha => ?_
      rw [child?_emptied, if_neg]
      rintro rfl
      exact hp (h.find_inj hs ha ▸ List.prefix_rfl)

theorem nodeAt_emptied (h : w.Forest []) (hs : w.find base = some s) (path : PackagePath) :
    (w.emptied s).nodeAt path =
      if path = base then
        (w.nodeAt path).map fun n => { n with package := n.package.emptied, children := [] }
      else if base <+: path then none else w.nodeAt path := by
  rw [nodeAt, h.find_emptied hs]
  by_cases he : path = base
  · subst he
    obtain ⟨n, hn⟩ := h.find_live hs
    simp [nodeAt, hs, node?_emptied_of_live hn, hn]
  · by_cases hp : base <+: path
    · simp [he, hp]
    · simp only [he, hp, false_and, if_false, nodeAt]
      refine Option.bind_congr fun t ht => ?_
      obtain ⟨n, hn⟩ := h.find_live ht
      have hts : t ≠ s := by
        rintro rfl
        exact he (h.find_inj ht hs)
      rw [node?_emptied_of_live hn, if_neg hts, hn]

end Forest

/-! ## Clearing -/

/-- The paths that clearing can be asked for are those that lead somewhere. -/
theorem Forest.clearBelow_isOk_iff {text : String} (h : w.Forest []) :
    (∃ cleared, w.clearBelow text = .ok cleared) ↔ ∃ s, w.find (.read text) = some s := by
  cases hs : w.find (.read text) with
  | none => simp [clearBelow_of_find_none hs]
  | some s =>
    obtain ⟨n, hn⟩ := h.find_live hs
    simp [clearBelow_eq hs hn]

theorem Forest.nodeAt_clearBelow {text : String} (h : w.Forest [])
    (he : w.clearBelow text = .ok w') (path : PackagePath) :
    w'.nodeAt path =
      if path = .read text then
        (w.nodeAt path).map fun n => { n with package := n.package.emptied, children := [] }
      else if PackagePath.read text <+: path then none else w.nodeAt path := by
  obtain ⟨s, hs⟩ := h.clearBelow_isOk_iff.mp ⟨w', he⟩
  obtain ⟨n, hn⟩ := h.find_live hs
  rw [clearBelow_eq hs hn] at he
  cases he
  rw [(frees_release _ _).nodeAt_eq (h.forest_emptied hn), h.nodeAt_emptied hs]

/-- The package at the path is left without items, those below it are gone, and every other
one is as it was. -/
theorem Forest.contentAt_clearBelow {text : String} (h : w.Forest [])
    (he : w.clearBelow text = .ok w') (path : PackagePath) :
    w'.contentAt path =
      if path = .read text then (w.contentAt path).map Package.emptied
      else if PackagePath.read text <+: path then none else w.contentAt path := by
  rw [contentAt, h.nodeAt_clearBelow he]
  split
  · rw [contentAt, Option.map_map, Option.map_map]
    rfl
  · split <;> rfl

theorem Forest.namesAt_clearBelow {text : String} (h : w.Forest [])
    (he : w.clearBelow text = .ok w') (path : PackagePath) :
    w'.namesAt path = if PackagePath.read text <+: path then [] else w.namesAt path := by
  rw [namesAt, h.nodeAt_clearBelow he]
  split
  · rename_i hp
    subst hp
    rw [if_pos List.prefix_rfl]
    cases w.nodeAt (.read text) <;> rfl
  · split <;> rfl

end BuildAtlas.Workspace
