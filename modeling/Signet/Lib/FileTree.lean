import Mathlib.Data.List.Infix
import Signet.Lib.OrdMap

/-!
# File trees

Files under paths, with the directories above them. A path is the list of the names on the way
from the root; `Path.join` reads the text of a path from a directory on, where `..` leads up.

A `FileTree` is always legal: no path is a file and a directory, what is above a file is a
directory, and only paths that the system can store occur. `write` makes the directories that
are missing, and fails where a file cannot be; `write_of_get?`: what is there can be written
again.
-/

namespace Lib

/-- A path from the root, outermost name first. -/
abbrev Path := List String

namespace Path

/-- The directory or file that a name leads to. -/
def enter (dir : Path) (name : String) : Path :=
  if name = "" ∨ name = "." then dir
  else if name = ".." then dir.dropLast
  else dir ++ [name]

/-- The path that the text names in a directory. -/
def join (dir : Path) (text : String) : Path :=
  ((text.toList.splitOn '/').map String.ofList).foldl enter dir

def above (p : Path) : List Path :=
  p.inits.filter (· ≠ p)

theorem mem_above {p q : Path} : q ∈ p.above ↔ q <+: p ∧ q ≠ p := by
  simp only [above, List.mem_filter, List.mem_inits, decide_eq_true_eq]

/-- A text without a slash is one name. -/
theorem join_name {dir : Path} {text : String} (hslash : '/' ∉ text.toList)
    (hname : text ≠ "" ∧ text ≠ "." ∧ text ≠ "..") : dir.join text = dir ++ [text] := by
  have hsplit : text.toList.splitOn '/' = [text.toList] := List.splitOn_eq_singleton hslash
  unfold join
  rw [hsplit, List.map_singleton, String.ofList_toList, List.foldl_cons, List.foldl_nil, enter,
    if_neg, if_neg hname.2.2]
  rintro (hempty | hdot)
  · exact hname.1 hempty
  · exact hname.2.1 hdot

/-- A suffix without a slash stays at the end of the last piece. -/
theorem splitOn_suffix (text suffix : List Char) (hslash : '/' ∉ suffix) :
    ∃ names last, (text ++ suffix).splitOn '/' = names ++ [last ++ suffix] := by
  induction text with
  | nil => exact ⟨[], [], List.splitOn_eq_singleton hslash⟩
  | cons c text ih =>
    obtain ⟨names, last, ih⟩ := ih
    rw [List.cons_append, List.splitOn_cons_eq_if_modifyHead, ih]
    by_cases hc : (c == '/') = true
    · rw [if_pos hc]
      exact ⟨[] :: names, last, rfl⟩
    · rw [if_neg hc]
      cases names with
      | nil => exact ⟨[], c :: last, rfl⟩
      | cons name names => exact ⟨(c :: name) :: names, last, rfl⟩

theorem join_suffix (dir : Path) (text suffix : String)
    (hslash : '/' ∉ suffix.toList) (hlong : 2 < suffix.toList.length) :
    ∃ (dir' : Path) (name : String), suffix.toList <:+ name.toList ∧
      dir.join (text ++ suffix) = dir' ++ [name] := by
  obtain ⟨names, last, hsplit⟩ := splitOn_suffix text.toList suffix.toList hslash
  have hname : ∀ short : String, short.toList.length ≤ 2 →
      String.ofList (last ++ suffix.toList) ≠ short := by
    rintro short hshort rfl
    rw [String.toList_ofList, List.length_append] at hshort
    omega
  refine ⟨(names.map String.ofList).foldl enter dir, .ofList (last ++ suffix.toList), ?_, ?_⟩
  · rw [String.toList_ofList]
    exact List.suffix_append last suffix.toList
  · unfold join
    rw [String.toList_append, hsplit, List.map_append, List.foldl_append, List.map_singleton,
      List.foldl_cons, List.foldl_nil, enter, if_neg, if_neg]
    · exact hname ".." (by decide)
    · rintro (hempty | hdot)
      · exact hname "" (by decide) hempty
      · exact hname "." (by decide) hdot

end Path

/-- The files of a system that can store the paths `storable`. -/
structure FileTree (storable : Path → Bool) (δ : Type) where
  files : OrdMap Path δ
  directories : List Path
  legal : ∀ p d, files.get? p = some d →
    storable p = true ∧ p ∉ directories ∧ ∀ q ∈ p.above, q ∈ directories

namespace FileTree

variable {storable : Path → Bool} {δ : Type}

/-- Directories without files. -/
def ofDirectories (directories : List Path) : FileTree storable δ where
  files := .empty
  directories := directories
  legal := nofun

variable (t : FileTree storable δ) (p : Path)

def get? : Option δ :=
  t.files.get? p

def isFile : Bool :=
  t.files.has p

def isDirectory : Bool :=
  p ∈ t.directories

/-- There is a file or a directory. -/
def contains : Bool :=
  t.isFile p || t.isDirectory p

/-- A file can be written there. -/
def canWrite : Prop :=
  storable p = true ∧ p ∉ t.directories ∧ ∀ q ∈ p.above, t.isFile q = false

instance : Decidable (t.canWrite p) :=
  inferInstanceAs (Decidable (_ ∧ _ ∧ _))

/-- The tree with a file written, and the directories above it. -/
def put (d : δ) (h : t.canWrite p) : FileTree storable δ where
  files := t.files.set p d
  directories := t.directories ++ p.above
  legal := by
    intro p' d' hget
    rcases OrdMap.get?_set_eq_some hget with ⟨rfl, -⟩ | ⟨hne, hold⟩
    · refine ⟨h.1, ?_, fun q hq => List.mem_append_right _ hq⟩
      intro hmem
      rcases List.mem_append.1 hmem with hdir | habove
      · exact h.2.1 hdir
      · exact (Path.mem_above.1 habove).2 rfl
    · obtain ⟨hstorable, hnot, habove⟩ := t.legal p' d' hold
      refine ⟨hstorable, ?_, fun q hq => List.mem_append_left _ (habove q hq)⟩
      intro hmem
      rcases List.mem_append.1 hmem with hdir | hover
      · exact hnot hdir
      · -- a file above the written one
        have hfile : t.isFile p' = true := OrdMap.has_eq_true_iff.2 ⟨d', hold⟩
        rw [h.2.2 p' hover] at hfile
        cases hfile

/-- Write a file, if one can be there. -/
def write (d : δ) : Option (FileTree storable δ) :=
  if h : t.canWrite p then some (t.put p d h) else none

/-- Remove a file. -/
def unlink : FileTree storable δ where
  files := t.files.erase p
  directories := t.directories
  legal := fun p' d' hget => t.legal p' d' (OrdMap.get?_erase_eq_some hget).2

/-- The files in a directory. -/
def filesIn (dir : Path) : List (Path × δ) :=
  t.files.entries.filter fun e => e.1 = dir ++ [e.1.getLastD ""]

variable {t p} {q : Path} {d d' : δ} {t' : FileTree storable δ}

theorem isFile_iff : t.isFile p = true ↔ ∃ d, t.get? p = some d :=
  OrdMap.has_eq_true_iff

theorem isFile_eq_false : t.isFile p = false ↔ t.get? p = none := by
  rw [← Bool.not_eq_true, isFile_iff, ← Option.isSome_iff_exists, Option.not_isSome_iff_eq_none]

theorem write_eq_some : t.write p d = some t' ↔ ∃ h : t.canWrite p, t.put p d h = t' := by
  unfold write
  by_cases h : t.canWrite p
  · rw [dif_pos h]
    exact ⟨fun ht => ⟨h, Option.some.inj ht⟩, fun ⟨_, ht⟩ => congrArg some ht⟩
  · rw [dif_neg h]
    exact ⟨fun ht => (nomatch ht), fun ⟨h', _⟩ => absurd h' h⟩

theorem write_eq_none : t.write p d = none ↔ ¬ t.canWrite p := by
  unfold write
  by_cases h : t.canWrite p
  · rw [dif_pos h]
    exact ⟨fun ht => (nomatch ht), fun h' => absurd h h'⟩
  · rw [dif_neg h]
    exact ⟨fun _ => h, fun _ => rfl⟩

/-- What a write changes. -/
theorem get?_write (h : t.write p d = some t') :
    t'.get? q = if q = p then some d else t.get? q := by
  obtain ⟨_, rfl⟩ := write_eq_some.1 h
  exact OrdMap.get?_set t.files p q d

theorem get?_unlink : (t.unlink p).get? q = if q = p then none else t.get? q :=
  OrdMap.get?_erase t.files p q

theorem canWrite_of_get? (h : t.get? p = some d) : t.canWrite p := by
  obtain ⟨hstorable, hnot, habove⟩ := t.legal p d h
  refine ⟨hstorable, hnot, fun q hq => isFile_eq_false.2 ?_⟩
  by_contra hfile
  obtain ⟨d', hd'⟩ := Option.ne_none_iff_exists'.1 hfile
  -- what is above a file is a directory, and no file
  exact (t.legal q d' hd').2.1 (habove q hq)

theorem not_isDirectory_of_get? (h : t.get? p = some d) : t.isDirectory p = false :=
  decide_eq_false (t.legal p d h).2.1

theorem mem_filesIn {dir : Path} :
    (p, d) ∈ t.filesIn dir ↔ t.get? p = some d ∧ ∃ name, p = dir ++ [name] := by
  unfold filesIn
  rw [List.mem_filter, OrdMap.mem_entries_iff, decide_eq_true_eq]
  refine and_congr_right fun _ => ⟨fun h => ⟨_, h⟩, ?_⟩
  rintro ⟨name, rfl⟩
  simp

end FileTree

end Lib
