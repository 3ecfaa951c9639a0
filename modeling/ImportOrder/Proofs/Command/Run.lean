import ImportOrder.Proofs.Command.Pool
import ImportOrder.Proofs.Command.Selection
import ImportOrder.Proofs.Config

/-!
# ImportOrder.Proofs.Command.Run

Whole runs of the command that sorts files, from the arguments and the bytes of a directory to the
bytes, the counts and the exit code at the end. The files are sorted by a `Pool`, so in any order;
`run` foretells what every order comes to.
-/

namespace ImportOrder

namespace Command

open Pattern.Glob

/-! ## One file -/

/-- Sorting gives a file with these bytes a new text. -/
def NewText (s : Sorter) (path : String) (bytes : ByteArray) (code : String) : Prop :=
  ∃ text, textOf bytes = some text ∧ sortText s path.toList text.toList = .ok code.toList ∧
    code ≠ text

section File

variable {s : Sorter} {disk : Disk} {path : String}

variable (h : ¬AnyWrong s.policy.exclude)
include h

end File

/-! ## Counts -/

namespace FileResult

end FileResult

section Counts

variable (s : Sorter) (disk : Disk)

variable (paths : List String)

end Counts

/-- The run writes the text to the file at the path: it is to write, not to check, and sorting gives
the text. -/
structure Rewrites (s : Sorter) (a : SortRequest) (disk : Disk) (paths : List String)
    (path code : String) : Prop where
  selected : path ∈ paths
  write : a.write = true
  check : a.check = false
  newText : NewText s path (disk path) code

/-- What a run comes to that sorts the files at the paths, whose bytes were `disk`: the pool at its
end, and what the command says. -/
structure Settled (s : Sorter) (a : SortRequest) (disk : Disk) (paths : List String) (p : Pool)
    (outcome : Outcome) : Prop where
  /-- Each file is counted once: as failed if it is not UTF-8, as changed if it has a new text, and
  an excluded file as unchanged. -/
  partition : ∃ changed unchanged failed : List String,
    (changed ++ (unchanged ++ failed)).Perm paths ∧
    p.counts = ⟨changed.length, unchanged.length, failed.length⟩ ∧
    ∀ path ∈ paths,
      (path ∈ changed ↔ ∃ code, NewText s path (disk path) code) ∧
      (path ∈ failed ↔ textOf (disk path) = none) ∧
      (AnyFits s.policy.exclude path.toList → textOf (disk path) ≠ none → path ∈ unchanged)
  /-- No file fails for another reason, such as a glob. -/
  notText : ∀ x ∈ p.counted, ∀ reason, x.2 = .failed reason → reason = .unreadable .notText
  /-- A file that is rewritten holds its new text. -/
  rewritten : ∀ path code, Rewrites s a disk paths path code → p.disk path = code.toUTF8
  /-- No other file holds other bytes than before. -/
  kept : ∀ path, p.disk path ≠ disk path ↔ ∃ code, Rewrites s a disk paths path code
  written : ∀ path code, ⟨path, code⟩ ∈ outcome.written ↔ Rewrites s a disk paths path code
  exitCode_le : outcome.exitCode ≤ 1
  exitCode_eq_one_iff : outcome.exitCode = 1 ↔
    (∃ path ∈ paths, textOf (disk path) = none) ∨
      a.check = true ∧ ∃ path ∈ paths, ∃ code, NewText s path (disk path) code
  report : paths ≠ [] → ∃ lines,
    outcome.report = lines ++ .blank :: p.counts.notices (.ofArgs a) paths.length

section Settled

variable {s : Sorter} {a : SortRequest} {disk : Disk} {paths : List String}

end Settled

/-! ## The command -/

section Command

variable {d : Directory} {a : SortRequest} {paths : List String}

end Command

end Command
end ImportOrder
