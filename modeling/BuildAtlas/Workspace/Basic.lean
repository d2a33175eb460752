import BuildAtlas.Fault
import BuildAtlas.Package

/-! # The workspace tree

Packages live in numbered slots; the root has slot 0. A node knows its parent's slot and its
children's slots by name, in the order in which they were attached. A freed slot is used again
before a new one is made, the one freed last first.
-/
namespace BuildAtlas

abbrev Slot := Nat

structure Node where
  package : Package
  parent : Option Slot
  children : List (String × Slot)
  deriving DecidableEq, Repr

/-- The slots below a node in the order in which they were attached. -/
def Node.childSlots (n : Node) : List Slot := n.children.map (·.2)

structure Workspace where
  slots : Array (Option Node)
  free : List Slot
  deriving DecidableEq, Repr

namespace Workspace

def rootSlot : Slot := 0

def withRoot (root : Package) : Workspace := ⟨#[some ⟨root, none, []⟩], []⟩

def empty : Workspace := withRoot { name := "/" }

instance : Inhabited Workspace := ⟨empty⟩

def node? (w : Workspace) (s : Slot) : Option Node := w.slots[s]?.join

/-- Change the node in a slot; an empty slot stays empty. -/
def modify (w : Workspace) (s : Slot) (f : Node → Node) : Workspace :=
  match w.node? s with
  | some n => { w with slots := w.slots.setIfInBounds s (some (f n)) }
  | none => w

def modifyPackage (w : Workspace) (s : Slot) (f : Package → Package) : Workspace :=
  w.modify s fun n => { n with package := f n.package }

/-- Number of packages, the root among them. -/
def packageCount (w : Workspace) : Nat := w.slots.countP Option.isSome

/-! ## Looking down -/

def child? (w : Workspace) (parent : Slot) (name : String) : Option Slot :=
  (w.node? parent).bind fun n => n.children.lookup name

/-- The slot reached from `s` by the names of a path. -/
def findFrom (w : Workspace) (s : Slot) : PackagePath → Option Slot
  | [] => some s
  | name :: rest => (w.child? s name).bind fun c => w.findFrom c rest

def find (w : Workspace) (path : PackagePath) : Option Slot := w.findFrom rootSlot path

/-! ## Growing -/

/-- Put a node into the slot freed last, or into a new one. -/
def allocate (w : Workspace) (n : Node) : Slot × Workspace :=
  match w.free with
  | s :: rest => (s, ⟨w.slots.setIfInBounds s (some n), rest⟩)
  | [] => (w.slots.size, ⟨w.slots.push (some n), []⟩)

/-- Attach a package below a live node that has no child of its name. -/
def addChild (w : Workspace) (parent : Slot) (p : Package) : Except Fault (Slot × Workspace) :=
  match w.node? parent with
  | none => .error (.missingParent p.name)
  | some above =>
    if (above.children.lookup p.name).isSome then .error (.duplicateChild p.name)
    else
      let (s, grown) := w.allocate ⟨p, some parent, []⟩
      .ok (s, grown.modify parent fun n => { n with children := n.children ++ [(p.name, s)] })

/-- Walk down a path, attaching the packages that are missing. -/
def ensureFrom (w : Workspace) (s : Slot) : PackagePath → Except Fault (Slot × Workspace)
  | [] => .ok (s, w)
  | name :: rest =>
    match w.child? s name with
    | some c => w.ensureFrom c rest
    | none =>
      match w.addChild s { name } with
      | .ok (c, grown) => grown.ensureFrom c rest
      | .error fault => .error fault

/-- The slot of the package at a path, which is there afterwards. -/
def ensurePath (w : Workspace) (path : PackagePath) : Slot × Workspace :=
  match w.ensureFrom rootSlot path with
  | .ok found => found
  | .error _ => (rootSlot, w)

def insertTarget (w : Workspace) (t : Target) : Slot × Workspace :=
  let (s, grown) := w.ensurePath t.package
  (s, grown.modifyPackage s fun p => (p.addTarget t).2)

def insertFile (w : Workspace) (f : SourceFile) : Slot × Workspace :=
  let (s, grown) := w.ensurePath f.owner
  (s, grown.modifyPackage s fun p => (p.addFile f).2)

/-! ## Clearing -/

def freeSlot (w : Workspace) (s : Slot) : Workspace :=
  ⟨w.slots.setIfInBounds s none, s :: w.free⟩

theorem packageCount_freeSlot_lt {w : Workspace} {s : Slot} {n : Node} (h : w.node? s = some n) :
    (w.freeSlot s).packageCount < w.packageCount := by
  have hs : w.slots[s]? = some (some n) := Option.join_eq_some_iff.mp h
  obtain ⟨hlt, hget⟩ := Array.getElem?_eq_some_iff.mp hs
  have hone := Array.boole_getElem_le_countP (p := Option.isSome) hlt
  simp only [packageCount, freeSlot, Array.setIfInBounds_def, dif_pos hlt, Array.countP_set,
    hget, Option.isSome_some, Option.isSome_none, if_true] at hone ⊢
  rw [if_neg Bool.false_ne_true]
  omega

/-- Free the nodes on a stack and everything below them, the top of the stack first; the
children of a freed node go onto the stack in order. -/
def release (w : Workspace) : List Slot → Workspace
  | [] => w
  | s :: stack =>
    match _h : w.node? s with
    | none => w.release stack
    | some n => (w.freeSlot s).release ((n.children.map (·.2)).reverse ++ stack)
termination_by stack => (w.packageCount, stack.length)
decreasing_by
  · exact Prod.Lex.right _ (by simp)
  · exact Prod.Lex.left _ _ (packageCount_freeSlot_lt ‹_›)

/-- Empty the package at a path and free every package below it. -/
def clearBelow (w : Workspace) (path : String) : Except Fault Workspace :=
  match w.find (PackagePath.read path) with
  | none => .error (.unknownPath path)
  | some s =>
    let below := ((w.node? s).map (·.children)).getD []
    let emptied := w.modify s fun n => { n with package := n.package.emptied, children := [] }
    .ok (emptied.release (below.map (·.2)).reverse)

/-! ## Walking -/

/-- The turns of a loop with a stack, its top first, and the slots visited in them. `next` is
what a node leaves on top of the stack. A slot without a node has no turn. The loop that lists
the nodes leaves the child slots there, the first one on top. -/
inductive Walks (w : Workspace) (next : Node → List Slot) :
    List Slot → List Slot → List Slot → Prop
  | refl {stack} : Walks w next stack [] stack
  | visit {s n stack seen stack'} : w.node? s = some n →
      Walks w next (next n ++ stack) seen stack' → Walks w next (s :: stack) (s :: seen) stack'

/-- The nodes at and below a slot, parents first and siblings in order, as deep as `depth`
levels: what that loop visits, told by recursion. -/
def preorderFrom (w : Workspace) : Nat → Slot → List Slot
  | 0, _ => []
  | depth + 1, s =>
    match w.node? s with
    | none => []
    | some n => s :: n.children.flatMap fun child => w.preorderFrom depth child.2

/-- All nodes, parents first. No branch is longer than the number of slots. -/
def preorder (w : Workspace) : List Slot := w.preorderFrom w.slots.size rootSlot

/-- The names above a node, last first, climbing at most `steps` times. -/
def climb (w : Workspace) : Nat → Slot → Option (List String)
  | 0, _ => none
  | steps + 1, s =>
    (w.node? s).bind fun n =>
      match n.parent with
      | none => some []
      | some parent => (w.climb steps parent).map (n.package.name :: ·)

/-- The names from the root down to a node. -/
def path? (w : Workspace) (s : Slot) : Option PackagePath :=
  (w.climb w.slots.size s).map List.reverse

end BuildAtlas.Workspace
