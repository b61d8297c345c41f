import NodeLint.Path
import NodeLint.Text.Quoted

/-!
# File trees

A file tree as a value: for every place that exists, whether there is a file or a directory. A
place is the list of names from the top down. Whatever exists stands in directories that exist, and
has a name that can be followed.

Text that names a place is followed name by name, and every name that is passed has to be a
directory, even one that is left again by a double dot.
-/

namespace NodeLint

/-- What is at a place. -/
inductive Entry where
  | file (bytes : List UInt8)
  | directory
deriving Repr, DecidableEq

/-- Why a place cannot be used. -/
inductive FileFault where
  | notFound
  | taken
  | notDirectory
  | isDirectory
deriving Repr, DecidableEq

namespace FileFault

/-- The number of a fault. -/
def number : FileFault → Nat
  | .notFound => 2
  | .taken => 17
  | .notDirectory => 20
  | .isDirectory => 21

/-- The words for a fault. -/
def reason : FileFault → String
  | .notFound => "No such file or directory"
  | .taken => "File exists"
  | .notDirectory => "Not a directory"
  | .isDirectory => "Is a directory"

/-- The words for a fault at a path. -/
def message (f : FileFault) (path : Path) : String :=
  "[Errno " ++ toString f.number ++ "] " ++ f.reason ++ ": " ++ Text.quoted path.text

end FileFault

/-- The names from the top of a tree down to a file or directory. -/
abbrev Place := List String

/-- Whether something in a directory can have a name. The empty name and the dots lead elsewhere,
and a slash ends a name. -/
def FileTree.IsName (name : String) : Prop :=
  name ≠ "" ∧ name ≠ "." ∧ name ≠ ".." ∧ '/' ∉ name.toList

instance (name : String) : Decidable (FileTree.IsName name) :=
  inferInstanceAs (Decidable (_ ∧ _))

/-- The laws of what a tree lists: each place once, the top not at all, only names that can be
followed, and nothing outside a listed directory but what stands at the top. -/
structure FileTree.Lawful (entries : List (Place × Entry)) : Prop where
  distinct : (entries.map Prod.fst).Nodup
  named : ∀ p ∈ entries, p.1 ≠ []
  proper : ∀ p ∈ entries, ∀ name ∈ p.1, FileTree.IsName name
  closed : ∀ p ∈ entries, p.1.dropLast ≠ [] → (p.1.dropLast, Entry.directory) ∈ entries

/-- A file tree. The top is a directory and is not listed. -/
structure FileTree where
  entries : List (Place × Entry)
  lawful : FileTree.Lawful entries

namespace FileTree

/-- The tree with nothing but its top. -/
def empty : FileTree := ⟨[], ⟨by simp, by simp, by simp, by simp⟩⟩

/-- What is at a place. -/
def find? (t : FileTree) (place : Place) : Option Entry :=
  if place = [] then some .directory else t.entries.lookup place

/-- A look-up in a list that names each key once finds exactly what is listed. -/
theorem lookup_eq_some_iff {es : List (Place × Entry)} (distinct : (es.map Prod.fst).Nodup)
    (place : Place) (e : Entry) : es.lookup place = some e ↔ (place, e) ∈ es := by
  induction es with
  | nil => simp
  | cons p es ih =>
    obtain ⟨q, f⟩ := p
    rw [List.map_cons, List.nodup_cons] at distinct
    rw [List.lookup_cons]
    by_cases h : place = q
    · subst h
      constructor
      · intro found
        simp only [beq_self_eq_true, Option.some.injEq] at found
        simp [found]
      · intro listed
        rcases List.mem_cons.1 listed with same | later
        · simp only [Prod.mk.injEq, true_and] at same
          simp [same]
        · exact absurd (List.mem_map_of_mem later) distinct.1
    · have differs : (place == q) = false := by simpa using h
      simp [differs, ih distinct.2, h]

/-- Below the top, what is at a place is what is listed there. -/
theorem find?_eq_some_iff (t : FileTree) {place : Place} (named : place ≠ []) (e : Entry) :
    t.find? place = some e ↔ (place, e) ∈ t.entries := by
  simp only [find?, named, if_false]
  exact lookup_eq_some_iff t.lawful.distinct place e

/-- Whether there is a file at a place. -/
def isFile (t : FileTree) (place : Place) : Bool :=
  match t.find? place with
  | some (.file _) => true
  | _ => false

/-- Whether there is a directory at a place. -/
def isDirectory (t : FileTree) (place : Place) : Bool := t.find? place = some .directory

/-! ## Following names -/

/-- Go one name further. An empty name and a dot stay where they are, a double dot goes back. -/
def step (t : FileTree) (place : Place) (name : String) : Except FileFault Place :=
  match t.find? place with
  | none => .error .notFound
  | some (.file _) => .error .notDirectory
  | some .directory =>
    if name = "" || name = "." then .ok place
    else if name = ".." then .ok place.dropLast
    else if (t.find? (place ++ [name])).isSome then .ok (place ++ [name])
    else .error .notFound

/-- Follow names from a place. -/
def walk (t : FileTree) (place : Place) (names : List String) : Except FileFault Place :=
  names.foldlM t.step place

/-- The place that a path leads to, from a working directory. -/
def locate (t : FileTree) (cwd : Path) (p : Path) : Except FileFault Place :=
  t.walk [] (cwd.below p).parts

/-- What a text leads to from a working directory. The empty text leads nowhere, and a slash at
the end wants a directory. -/
def status (t : FileTree) (cwd : Path) (text : String) : Except FileFault Entry := do
  if text = "" then throw .notFound
  let start := if Path.anchorOf text.toList = .relative then cwd.parts else []
  let place ← t.walk [] (start ++ (Text.pieces '/' text.toList).map String.ofList)
  match t.find? place with
  | some e => pure e
  | none => throw .notFound

/-- The bytes of the file that a path leads to. -/
def read (t : FileTree) (cwd : Path) (p : Path) : Except FileFault (List UInt8) := do
  let place ← t.locate cwd p
  match t.find? place with
  | some (.file bytes) => pure bytes
  | some .directory => throw .isDirectory
  | none => throw .notFound

/-- Whether a path leads to a file. -/
def leadsToFile (t : FileTree) (p : Path) : Bool :=
  match t.locate (Path.absolute []) p with
  | .ok place => t.isFile place
  | .error _ => false

/-! ## All that is below a place -/

/-- The places of all files at or below a place. -/
def filesBelow (t : FileTree) (place : Place) : List Place :=
  (t.entries.filter fun (q, e) => place.isPrefixOf q && e ≠ .directory).map Prod.fst

/-! ## Change -/

/-- Add an entry at the end of a lawful list. -/
theorem Lawful.append {es : List (Place × Entry)} (h : Lawful es) {place : Place} (e : Entry)
    (named : place ≠ []) (proper : ∀ name ∈ place, IsName name) (fresh : place ∉ es.map Prod.fst)
    (parent : place.dropLast ≠ [] → (place.dropLast, Entry.directory) ∈ es) :
    Lawful (es ++ [(place, e)]) where
  distinct := by
    rw [List.map_append, List.nodup_append]
    refine ⟨h.distinct, by simp, ?_⟩
    intro a ha b hb hab
    simp only [List.map_cons, List.map_nil, List.mem_singleton] at hb
    exact fresh (hb ▸ hab ▸ ha)
  named := by
    intro p hp
    rcases List.mem_append.1 hp with hp | hp
    · exact h.named p hp
    · rw [List.mem_singleton.1 hp]; exact named
  proper := by
    intro p hp
    rcases List.mem_append.1 hp with hp | hp
    · exact h.proper p hp
    · rw [List.mem_singleton.1 hp]; exact proper
  closed := by
    intro p hp top
    rcases List.mem_append.1 hp with hp | hp
    · exact List.mem_append_left _ (h.closed p hp top)
    · rw [List.mem_singleton.1 hp] at top ⊢
      exact List.mem_append_left _ (parent top)

/-- Keep what is not at or below a place. -/
theorem Lawful.filter {es : List (Place × Entry)} (h : Lawful es) (place : Place) :
    Lawful (es.filter fun p => !place.isPrefixOf p.1) where
  distinct := h.distinct.sublist ((List.filter_sublist).map _)
  named := fun p hp => h.named p (List.mem_filter.1 hp).1
  proper := fun p hp => h.proper p (List.mem_filter.1 hp).1
  closed := by
    intro p hp top
    rw [List.mem_filter] at hp ⊢
    refine ⟨h.closed p hp.1 top, ?_⟩
    have outside := hp.2
    simp only [Bool.not_eq_true', Bool.eq_false_iff, ne_eq, List.isPrefixOf_iff_prefix] at outside ⊢
    exact fun inside => outside (inside.trans (List.dropLast_prefix p.1))

/-- The entry with new contents, if it is the file at a place. -/
def refilled (place : Place) (bytes : List UInt8) (p : Place × Entry) : Place × Entry :=
  if p.1 = place ∧ p.2 ≠ .directory then (p.1, .file bytes) else p

theorem fst_refilled (place : Place) (bytes : List UInt8) (p : Place × Entry) :
    (refilled place bytes p).1 = p.1 := by
  unfold refilled; split <;> rfl

/-- Give the file at a place new contents. -/
theorem Lawful.refill {es : List (Place × Entry)} (h : Lawful es) (place : Place)
    (bytes : List UInt8) : Lawful (es.map (refilled place bytes)) where
  distinct := by
    rw [List.map_map]
    have : Prod.fst ∘ refilled place bytes = Prod.fst := funext (fst_refilled place bytes)
    rw [this]
    exact h.distinct
  named := by
    intro p hp
    obtain ⟨q, hq, rfl⟩ := List.mem_map.1 hp
    rw [fst_refilled]
    exact h.named q hq
  proper := by
    intro p hp
    obtain ⟨q, hq, rfl⟩ := List.mem_map.1 hp
    rw [fst_refilled]
    exact h.proper q hq
  closed := by
    intro p hp top
    obtain ⟨q, hq, rfl⟩ := List.mem_map.1 hp
    rw [fst_refilled] at top ⊢
    exact List.mem_map.2 ⟨_, h.closed q hq top, by simp [refilled]⟩

/-- Put a new entry at a free place of a directory that is there. The top and the dots are never
free. -/
def add (t : FileTree) (place : Place) (e : Entry) : Except FileFault FileTree :=
  if h : place ≠ [] ∧ (∀ name ∈ place, IsName name) ∧ place ∉ t.entries.map Prod.fst then
    if parent : place.dropLast ≠ [] → (place.dropLast, Entry.directory) ∈ t.entries then
      .ok ⟨t.entries ++ [(place, e)], t.lawful.append e h.1 h.2.1 h.2.2 parent⟩
    else .error .notDirectory
  else .error .taken

/-- Make one directory, unless it is there already. -/
def makeOne (t : FileTree) (place : Place) : Except FileFault FileTree :=
  if t.isDirectory place then .ok t else t.add place .directory

/-- The places on the way to a place, from the top, with the place itself at the end. -/
def way (place : Place) : List Place := (Path.fronts place).tail

/-- Make a directory and all that it stands in. -/
def makeDirectory (t : FileTree) (place : Place) : Except FileFault FileTree :=
  (way place).foldlM makeOne t

/-- Write a file, making the directories it stands in. -/
def write (t : FileTree) (place : Place) (bytes : List UInt8) : Except FileFault FileTree :=
  match t.find? place with
  | some .directory => .error .isDirectory
  | some (.file _) => .ok ⟨t.entries.map (refilled place bytes), t.lawful.refill place bytes⟩
  | none => do
    let t ← t.makeDirectory place.dropLast
    t.add place (.file bytes)

/-- Remove a file, or a directory with all that is in it. -/
def remove (t : FileTree) (place : Place) : Except FileFault FileTree :=
  match t.find? place with
  | none => .error .notFound
  | some _ => .ok ⟨t.entries.filter fun p => !place.isPrefixOf p.1, t.lawful.filter place⟩

end FileTree
end NodeLint
